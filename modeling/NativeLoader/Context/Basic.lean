import NativeLoader.Context.Library
import NativeLoader.Package.Root

/-!
# Isolation contexts

A context is a home for bound libraries: the roots in which their packaged copies are looked for, and the libraries
bound so far, each under its name. Registering keeps what is there (`library?_register_of_some`) and otherwise adds the
library under its own name and no other (`library?_register_self`, `library?_register_of_ne`).
-/

namespace NativeLoader

/-- A home for bound libraries. -/
structure Context where
  name : String := ""
  /-- It is the process's own context, which has no namespace of its own. -/
  isGlobal : Bool := false
  roots : List Root := []
  libraries : List (String × Library) := []

namespace Context

/-- The library bound under a name. -/
def library? (c : Context) (name : String) : Option Library := c.libraries.lookup name

/-- The names of the bound libraries, in order. -/
def loadedNames (c : Context) : List String := (c.libraries.map (·.1)).mergeSort (· ≤ ·)

/-- The context with one more root, searched last. -/
def addRoot (root : Root) (c : Context) : Context := { c with roots := c.roots ++ [root] }

/-- Adding a library under its name, unless there is one: the library then bound, and the context. -/
def register (l : Library) (c : Context) : Library × Context :=
  match c.library? l.name with
  | some bound => (bound, c)
  | none => (l, { c with libraries := c.libraries ++ [(l.name, l)] })

/-- A context as messages show it. -/
def describe (c : Context) : String :=
  "IsolationContext \x7b name: " ++ Text.quote c.name ++ ", global: " ++ toString c.isGlobal ++ ", loaded: " ++
    Text.quoteAll c.loadedNames ++ " \x7d"

/-- A library that is bound already stays. -/
theorem library?_register_of_some {c : Context} {l : Library} {name : String} {bound : Library}
    (h : c.library? name = some bound) : (c.register l).2.library? name = some bound := by
  unfold register
  cases hl : c.library? l.name with
  | some other => exact h
  | none =>
    show (c.libraries ++ [(l.name, l)]).lookup name = some bound
    rw [List.lookup_append, ← library?, h, Option.some_or]

/-- A library goes behind the others, under its name. -/
theorem libraries_register {c : Context} {l : Library} (h : c.library? l.name = none) :
    (c.register l).2.libraries = c.libraries ++ [(l.name, l)] := by
  simp only [register, h]

/-- A library is found under its name once registered, unless another was there before. -/
theorem library?_register_self {c : Context} {l : Library} (h : c.library? l.name = none) :
    (c.register l).2.library? l.name = some l := by
  rw [library?, libraries_register h, List.lookup_append, ← library?, h, Option.none_or, List.lookup_cons_self]

/-- Registering changes nothing under other names. -/
theorem library?_register_of_ne {c : Context} {l : Library} {name : String} (h : name ≠ l.name) :
    (c.register l).2.library? name = c.library? name := by
  cases hl : c.library? l.name with
  | some other => simp only [register, hl]
  | none =>
    have hf : (name == l.name) = false := beq_eq_false_iff_ne.mpr h
    rw [library?, libraries_register hl, List.lookup_append, List.lookup_cons, hf]
    exact Option.or_none

end Context
end NativeLoader
