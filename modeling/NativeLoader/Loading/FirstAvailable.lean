import NativeLoader.Loading.Load

/-!
# Loading the first library of a list

Names are tried in order until one loads (`Loader.loadFirst`). A `Scan` records the names tried and why each failed; a
fatal failure ends it, and is then the last one recorded (`fatal?_exhausted_record`).
-/

namespace NativeLoader

/-- The names tried so far, and the failure of each. -/
structure Scan where
  tried : List String := []
  failures : List Failure := []

namespace Scan

/-- A name tried, and why it failed. -/
def record (name : String) (failure : Failure) (s : Scan) : Scan :=
  ⟨s.tried ++ [name], s.failures ++ [failure]⟩

/-- The failure of all names tried. -/
def exhausted (s : Scan) : Failure := .node (.exhausted s.tried) s.failures

/-- A scan that ended with a fatal failure says so. -/
theorem fatal?_exhausted_record {s : Scan} {name : String} {failure : Failure} (h : failure.isFatal = true) :
    (s.record name failure).exhausted.fatal? = some failure := by
  simp [exhausted, record, Failure.fatal?, Failure.cause, Failure.earlier, h]

end Scan

/-- What is said when a fatal failure ends a scan. -/
def givingUp (name : String) (failure : Failure) : String :=
  "Giving up on the remaining libraries after '" ++ name ++ "': " ++ failure.message

namespace Loader

/-- Going on with a scan over some names. -/
def loadFirstFrom (l : Loader) (context : ContextId) : Scan → List String → Host → Except Failure Library × Host
  | s, [], h => (.error s.exhausted, h)
  | s, name :: names, h =>
    match l.load context name h with
    | (.ok bound, h) => (.ok bound, h)
    | (.error failure, h) =>
      if failure.isFatal then (.error (s.record name failure).exhausted, h.warn [givingUp name failure])
      else l.loadFirstFrom context (s.record name failure) names h

/-- Loading the first of some names that can be loaded. -/
def loadFirst (l : Loader) (context : ContextId) (names : List String) (h : Host) : Except Failure Library × Host :=
  l.loadFirstFrom context {} names h

end Loader
end NativeLoader
