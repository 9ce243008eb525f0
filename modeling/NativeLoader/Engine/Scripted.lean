import NativeLoader.Engine.Basic
import NativeLoader.Linker.Tabulated

/-!
# Engines that follow a script

An engine whose answers are laid out in advance: client numbers and replies are taken from queues, and each call is
recorded in order. An empty queue gives client number zero, or no reply. Its functions are where linkers given by a
table have them, and no other place is a function of it.
-/

namespace NativeLoader

/-- A call that reached an engine. -/
inductive EngineCall where
  | create
  | send (client : Int32) (request : List UInt8)
  | receive (timeout : Float)
  | execute (request : List UInt8)
  | destroy (client : Int32)

/-- The answers to come, and the calls so far. -/
structure Script where
  clients : List Int32 := []
  received : List (Option (List UInt8)) := []
  executed : List (Option (List UInt8)) := []
  calls : List EngineCall := []

namespace Script

/-- A call recorded. -/
def record (call : EngineCall) (s : Script) : Script := { s with calls := s.calls ++ [call] }

/-- The code of an engine that follows its script. A call that is not of the function it is for does nothing. -/
def entryPoints : Code Script where
  createClient address s :=
    if address = LinkerTable.address EntryPoint.createClient.symbol then
      (s.clients.headD 0, { s.record .create with clients := s.clients.tail })
    else (0, s)
  send address client request s :=
    if address = LinkerTable.address EntryPoint.send.symbol then s.record (.send client request.bytes) else s
  receive address timeout s :=
    if address = LinkerTable.address EntryPoint.receive.symbol then
      (s.received.headD none, { s.record (.receive timeout) with received := s.received.tail })
    else (none, s)
  execute address request s :=
    if address = LinkerTable.address EntryPoint.execute.symbol then
      (s.executed.headD none, { s.record (.execute request.bytes) with executed := s.executed.tail })
    else (none, s)
  destroyClient address client s :=
    if address = LinkerTable.address EntryPoint.destroyClient.symbol then s.record (.destroy client) else s

/-- More answers at the ends of the queues; what was recorded stays as it is. -/
def append (s more : Script) : Script :=
  { s with
    clients := s.clients ++ more.clients
    received := s.received ++ more.received
    executed := s.executed ++ more.executed }

end Script
end NativeLoader
