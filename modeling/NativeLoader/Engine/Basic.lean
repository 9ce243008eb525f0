import NativeLoader.Engine.EntryPoint
import NativeLoader.Loading.FirstAvailable

/-!
# Engines

A library that exports the entry points of an engine has them somewhere in memory (`EntryAddresses`); what a call of
these places does is told by the `Code` that is there, which may be any state machine. An `Engine` holds the functions
at the places that are found under the symbols (`ofLibrary_eq_ok_iff`), and relays requests to them. A request must be a
C string, without a NUL (`CText.ofText`), and a reply is read up to its first NUL and must be UTF-8 (`replyText`, with
`replyText_eq_ok_some_iff`). What is refused reaches no entry point (`send_of_refused`, `execute_of_refused`).
-/

namespace NativeLoader

/-! ## What passes through entry points -/

/-- Why an engine could not be had, or a request could not be made. -/
inductive EngineFailure where
  | load (failure : Failure)
  | missingSymbol (library symbol : String)
  /-- A request holds a NUL, at a byte. -/
  | nulInRequest (position : Nat)
  /-- A reply is not UTF-8. -/
  | replyNotText (detail : String)

/-- The wording of a NUL in a request. -/
def nulMessage (position : Nat) : String :=
  "nul byte found in provided data at position: " ++ toString position

/-- The wording of an engine's failure. -/
def EngineFailure.message : EngineFailure → String
  | load failure => failure.message
  | missingSymbol library symbol => "native library '" ++ library ++ "' does not export '" ++ symbol ++ "'"
  | nulInRequest position => "request is not a valid C string: " ++ nulMessage position
  | replyNotText detail => "engine response is not UTF-8: " ++ detail

/-- The wording of what lies behind an engine's failure. -/
def EngineFailure.source? : EngineFailure → Option String
  | load failure => some failure.message
  | nulInRequest position => some (nulMessage position)
  | _ => none

/-- The bytes of a C string, without the NUL that ends it. -/
structure CText where
  bytes : List UInt8
  noNul : 0 ∉ bytes

/-- Some bytes as a C string. -/
def CText.ofBytes (bs : List UInt8) : Except EngineFailure CText :=
  if h : 0 ∈ bs then .error (.nulInRequest (bs.idxOf 0)) else .ok ⟨bs, h⟩

/-- A text as a C string. -/
def CText.ofText (text : String) : Except EngineFailure CText := CText.ofBytes (Text.bytes text)

/-- A span of time. -/
structure Timeout where
  seconds : UInt64
  nanoseconds : UInt32
  deriving DecidableEq, Repr

/-- A span of time in seconds. -/
def Timeout.toFloat (t : Timeout) : Float := t.seconds.toFloat + t.nanoseconds.toFloat / 1000000000.0

/-- The text of a reply: nothing for a null pointer, else what the buffer holds before its first NUL. -/
def replyText : Option (List UInt8) → Except EngineFailure (Option String)
  | none => .ok none
  | some buffer =>
    let bs := buffer.takeWhile (· != 0)
    match Text.decode bs with
    | some text => .ok (some text)
    | none => .error (.replyNotText (((Text.fault? bs).map Text.Fault.message).getD ""))

/-- The functions behind the entry points, over the states of an engine. -/
structure EntryPoints (σ : Type) where
  createClient : σ → Int32 × σ
  send : Int32 → CText → σ → σ
  receive : Float → σ → Option (List UInt8) × σ
  execute : CText → σ → Option (List UInt8) × σ
  destroyClient : Int32 → σ → σ

/-- What is in memory, as a call finds it: what comes of a call of each place as each of the functions of an engine. -/
structure Code (σ : Type) where
  createClient : Address → σ → Int32 × σ
  send : Address → Int32 → CText → σ → σ
  receive : Address → Float → σ → Option (List UInt8) × σ
  execute : Address → CText → σ → Option (List UInt8) × σ
  destroyClient : Address → Int32 → σ → σ

/-- The places of an engine's entry points. -/
structure EntryAddresses where
  createClient : Address
  send : Address
  receive : Address
  execute : Address
  destroyClient : Address
  deriving DecidableEq, Repr

/-- The functions at some places, each called as what it is to be. -/
def Code.entryPoints {σ : Type} (code : Code σ) (a : EntryAddresses) : EntryPoints σ where
  createClient := code.createClient a.createClient
  send := code.send a.send
  receive := code.receive a.receive
  execute := code.execute a.execute
  destroyClient := code.destroyClient a.destroyClient

/-- A library has its entry points at these places, each under its own name. -/
structure EntryAddresses.AreExportedBy (a : EntryAddresses) (l : Library) : Prop where
  createClient : l.image.address? (l.mangledPrefix ++ "td_create_client_id") = some a.createClient
  send : l.image.address? (l.mangledPrefix ++ "td_send") = some a.send
  receive : l.image.address? (l.mangledPrefix ++ "td_receive") = some a.receive
  execute : l.image.address? (l.mangledPrefix ++ "td_execute") = some a.execute
  destroyClient : l.image.address? (l.mangledPrefix ++ "td_destroy_client_id") = some a.destroyClient

/-! ## Engines -/

/-- A bound library that exports all entry points, and the functions behind them. -/
structure Engine (σ : Type) where
  library : Library
  points : EntryPoints σ

/-- The place of a symbol in a library that must export it. -/
def Library.entry (l : Library) (symbol : String) : Except EngineFailure Address :=
  match l.symbol? symbol with
  | some address => .ok address
  | none => .error (.missingSymbol l.name (l.symbolName symbol))

/-- What is found is the place under the symbol, with the library's prefix. -/
theorem Library.entry_eq_ok_iff {l : Library} {symbol : String} {address : Address} :
    l.entry symbol = .ok address ↔ l.image.address? (l.mangledPrefix ++ symbol) = some address := by
  rw [entry, symbol?, symbolName]
  cases l.image.address? (l.mangledPrefix ++ symbol) <;> simp

/-- A library has entry points exactly if it exports their symbols. -/
theorem Library.hasSymbols_iff {l : Library} :
    (∀ symbol ∈ EntryPoint.symbols, l.hasSymbol symbol = true) ↔ ∃ a : EntryAddresses, a.AreExportedBy l := by
  rw [EntryPoint.forall_mem_symbols_iff]
  constructor
  · intro h
    have hentry : ∀ e : EntryPoint, ∃ address, l.symbol? e.symbol = some address :=
      fun e => Option.isSome_iff_exists.mp (h e)
    obtain ⟨createClient, hcreate⟩ := hentry .createClient
    obtain ⟨send, hsend⟩ := hentry .send
    obtain ⟨receive, hreceive⟩ := hentry .receive
    obtain ⟨execute, hexecute⟩ := hentry .execute
    obtain ⟨destroyClient, hdestroy⟩ := hentry .destroyClient
    exact ⟨⟨createClient, send, receive, execute, destroyClient⟩, hcreate, hsend, hreceive, hexecute, hdestroy⟩
  · rintro ⟨a, ha⟩ e
    refine Option.isSome_iff_exists.mpr ?_
    cases e with
    | createClient => exact ⟨_, ha.createClient⟩
    | send => exact ⟨_, ha.send⟩
    | receive => exact ⟨_, ha.receive⟩
    | execute => exact ⟨_, ha.execute⟩
    | destroyClient => exact ⟨_, ha.destroyClient⟩

/-- Steps that succeed one after the other each do. -/
theorem exists_of_bind_eq_ok {ε α β : Type} {x : Except ε α} {f : α → Except ε β} {b : β} (h : (x >>= f) = .ok b) :
    ∃ a, x = .ok a ∧ f a = .ok b := by
  cases x with
  | error failure => cases h
  | ok a => exact ⟨a, rfl, h⟩

namespace Engine

variable {σ : Type}

/-- The engine in a bound library, with the functions at the places that are found in it. -/
def ofLibrary (code : Code σ) (l : Library) : Except EngineFailure (Engine σ) := do
  let createClient ← l.entry EntryPoint.createClient.symbol
  let send ← l.entry EntryPoint.send.symbol
  let receive ← l.entry EntryPoint.receive.symbol
  let execute ← l.entry EntryPoint.execute.symbol
  let destroyClient ← l.entry EntryPoint.destroyClient.symbol
  return ⟨l, code.entryPoints ⟨createClient, send, receive, execute, destroyClient⟩⟩

/-- The engine in the first of some libraries that a loader can load. -/
def load (code : Code σ) (loader : Loader) (context : ContextId) (names : List String) (h : Host) :
    Except EngineFailure (Engine σ) × Host :=
  match loader.loadFirst context names h with
  | (.ok l, h) => (ofLibrary code l, h)
  | (.error failure, h) => (.error (.load failure), h)

/-- A new client. -/
def createClient (e : Engine σ) (s : σ) : Int32 × σ := e.points.createClient s

/-- A request sent for a client. -/
def send (e : Engine σ) (client : Int32) (request : String) (s : σ) : Except EngineFailure Unit × σ :=
  match CText.ofText request with
  | .ok text => (.ok (), e.points.send client text s)
  | .error failure => (.error failure, s)

/-- The next reply to any client, within a span of time. -/
def receive (e : Engine σ) (timeout : Timeout) (s : σ) : Except EngineFailure (Option String) × σ :=
  let received := e.points.receive timeout.toFloat s
  (replyText received.1, received.2)

/-- A request answered at once. -/
def execute (e : Engine σ) (request : String) (s : σ) : Except EngineFailure (Option String) × σ :=
  match CText.ofText request with
  | .ok text =>
    let executed := e.points.execute text s
    (replyText executed.1, executed.2)
  | .error failure => (.error failure, s)

/-- A client given up. -/
def destroyClient (e : Engine σ) (client : Int32) (s : σ) : σ := e.points.destroyClient client s

/-- An engine as messages show it. -/
def describe (e : Engine σ) : String := "NativeEngine \x7b library: " ++ e.library.describe ++ ", .. \x7d"

/-- An engine is made of a library that has its entry points, and calls each of them at its own place. -/
theorem ofLibrary_eq_ok_iff {code : Code σ} {l : Library} {e : Engine σ} :
    ofLibrary code l = .ok e ↔ ∃ a : EntryAddresses, a.AreExportedBy l ∧ e = ⟨l, code.entryPoints a⟩ := by
  constructor
  · intro h
    obtain ⟨createClient, hcreate, h⟩ := exists_of_bind_eq_ok h
    obtain ⟨send, hsend, h⟩ := exists_of_bind_eq_ok h
    obtain ⟨receive, hreceive, h⟩ := exists_of_bind_eq_ok h
    obtain ⟨execute, hexecute, h⟩ := exists_of_bind_eq_ok h
    obtain ⟨destroyClient, hdestroy, h⟩ := exists_of_bind_eq_ok h
    rw [Library.entry_eq_ok_iff] at hcreate hsend hreceive hexecute hdestroy
    exact ⟨⟨createClient, send, receive, execute, destroyClient⟩, ⟨hcreate, hsend, hreceive, hexecute, hdestroy⟩,
      (Except.ok.inj h).symm⟩
  · rintro ⟨a, ha, rfl⟩
    have hcreate := Library.entry_eq_ok_iff.mpr ha.createClient
    have hsend := Library.entry_eq_ok_iff.mpr ha.send
    have hreceive := Library.entry_eq_ok_iff.mpr ha.receive
    have hexecute := Library.entry_eq_ok_iff.mpr ha.execute
    have hdestroy := Library.entry_eq_ok_iff.mpr ha.destroyClient
    simp only [ofLibrary, EntryPoint.symbol, hcreate, hsend, hreceive, hexecute, hdestroy]
    rfl

/-- A request that is no C string is not sent. -/
theorem send_of_refused {e : Engine σ} {client : Int32} {request : String} {s : σ} {failure : EngineFailure}
    (h : CText.ofText request = .error failure) : e.send client request s = (.error failure, s) := by
  simp only [send, h]

/-- A request that is no C string is not executed. -/
theorem execute_of_refused {e : Engine σ} {request : String} {s : σ} {failure : EngineFailure}
    (h : CText.ofText request = .error failure) : e.execute request s = (.error failure, s) := by
  simp only [execute, h]

end Engine

/-- A reply is a text exactly if the text's bytes are those before the first NUL. -/
theorem replyText_eq_ok_some_iff {buffer : List UInt8} {text : String} :
    replyText (some buffer) = .ok (some text) ↔ Text.bytes text = buffer.takeWhile (· != 0) := by
  rw [← Text.decode_eq_some_iff, replyText]
  cases Text.decode (buffer.takeWhile (· != 0)) <;> simp

end NativeLoader
