/-!
# Entry points

An engine is five functions. A library exports each of them as a symbol of its own (`EntryPoint.symbol`), with what its
build puts in front of names before it; they are bound in one order (`EntryPoint.all`).
-/

namespace NativeLoader

/-- The entry points of an engine. -/
inductive EntryPoint where
  | createClient
  | send
  | receive
  | execute
  | destroyClient
  deriving DecidableEq, Repr

namespace EntryPoint

/-- The symbol that an entry point is exported as, before relocation. -/
def symbol : EntryPoint → String
  | createClient => "td_create_client_id"
  | send => "td_send"
  | receive => "td_receive"
  | execute => "td_execute"
  | destroyClient => "td_destroy_client_id"

/-- The entry points, in the order in which they are bound. -/
def all : List EntryPoint := [createClient, send, receive, execute, destroyClient]

/-- The symbols of an engine. -/
def symbols : List String := all.map symbol

/-- What holds of the symbols of an engine holds of the symbol of each entry point. -/
theorem forall_mem_symbols_iff {p : String → Prop} : (∀ symbol ∈ symbols, p symbol) ↔ ∀ e : EntryPoint, p e.symbol := by
  constructor
  · intro h e
    exact h e.symbol (List.mem_map_of_mem (by cases e <;> decide))
  · intro h symbol hs
    obtain ⟨e, -, rfl⟩ := List.mem_map.mp hs
    exact h e

end EntryPoint
end NativeLoader
