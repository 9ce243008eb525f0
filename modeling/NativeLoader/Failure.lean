import NativeLoader.FileSystem.Fault
import NativeLoader.Settings

/-!
# Failures and their causes

Why a library could not be loaded. A `Failure` is a tree: its own `Cause`, and below it the failures that were met on
the way and recovered from, which stay attached so that every path that was tried can be seen. `Failure.message` words
the cause, `Failure.outline` the whole tree, one line for each node; a packaging or environment defect is fatal
(`isFatal`), and ends a search over names (`fatal?`).
-/

namespace NativeLoader

/-- What went wrong in one step of loading. -/
inductive Cause where
  /-- No root holds a resource at the path. -/
  | notFound (path : String)
  /-- The roots hold different resources at the path. -/
  | conflict (path : String) (origins : List String)
  /-- The linker refused a library; the path is set if its volume forbids execution. -/
  | link (subject message : String) (noexec : Option String)
  /-- A bound library lacks an entry point. -/
  | missingEntryPoint (subject symbol : String)
  /-- The identity of the loader does not end as it must. -/
  | foreignIdentity (expected actual : String)
  /-- There is no directory for extracted copies. -/
  | directory (message : String)
  /-- A file operation failed. -/
  | file (context : String) (fault : FileFault)
  /-- No name of a list could be loaded. -/
  | exhausted (names : List String)
  deriving DecidableEq, Repr

/-- A cause, and the failures met before it, in the order in which they were attached. -/
inductive Failure where
  | node (cause : Cause) (earlier : List Failure)

instance : Inhabited Failure := ⟨.node (.exhausted []) []⟩

/-- A cause that no other name of a library can mend. -/
def Cause.isFatal : Cause → Bool
  | conflict _ _ => true
  | foreignIdentity _ _ => true
  | directory _ => true
  | _ => false

/-- A cause that earlier failures can be attached to. -/
def Cause.carries : Cause → Bool
  | foreignIdentity _ _ => false
  | file _ _ => false
  | _ => true

/-- What is known about a volume that forbids execution. -/
def noexecHint (path : String) : String :=
  " (" ++ path ++ " cannot be executed; its volume is probably mounted noexec, set " ++ Settings.directoryVariable ++
    "=<path> to extract elsewhere)"

/-- The wording of a cause. -/
def Cause.message : Cause → String
  | notFound path => "native resource not found: " ++ path
  | conflict path origins =>
    "multiple resources found for '" ++ path ++ "' with different content: " ++ Text.quoteAll origins
  | link subject message noexec =>
    "could not load native library '" ++ subject ++ "': " ++ message ++ (noexec.map noexecHint).getD ""
  | missingEntryPoint subject symbol =>
    "possible multiple incompatible native libraries on the search path for '" ++ subject ++
      "'? (missing entry point '" ++ symbol ++ "')"
  | foreignIdentity expected actual =>
    "could not find prefix added to " ++ expected ++ " to get " ++ actual ++
      "; when relocating, only adding a prefix is supported"
  | directory message => "native working directory unavailable: " ++ message
  | file context fault => context ++ ": " ++ fault.message
  | exhausted names => "failed to load any of the given libraries: " ++ Text.quoteAll names

namespace Failure

/-- The cause at the root of the tree. -/
def cause : Failure → Cause
  | node cause _ => cause

/-- The failures attached to the root. -/
def earlier : Failure → List Failure
  | node _ earlier => earlier

/-- A failure with nothing attached. -/
def of (cause : Cause) : Failure := node cause []

/-- A failure with more attached after what it has, unless it can carry none. -/
def attach (more : List Failure) : Failure → Failure
  | node cause earlier => if cause.carries then node cause (earlier ++ more) else node cause earlier

/-- No other name of the library can mend the failure. -/
def isFatal (f : Failure) : Bool := f.cause.isFatal

/-- The failure is that a resource was not found. -/
def isNotFound (f : Failure) : Bool :=
  match f.cause with
  | .notFound _ => true
  | _ => false

/-- The fatal failure that ended a search: the failure itself, or the last that an exhausted search met. -/
def fatal? (f : Failure) : Option Failure :=
  match f.cause with
  | .exhausted _ => f.earlier.getLast?.filter isFatal
  | _ => if f.isFatal then some f else none

/-- The wording of a failure without those attached; an exhausted search says which one ended it. -/
def message (f : Failure) : String :=
  match f.cause with
  | .exhausted names =>
    (Cause.exhausted names).message ++
      ((f.earlier.getLast?.filter isFatal).map fun last => "; stopped at: " ++ last.cause.message).getD ""
  | cause => cause.message

/-- The start of a line at some depth. -/
def indent (depth : Nat) : String := "\n" ++ String.ofList (List.replicate (2 * depth) ' ') ++ "suppressed: "

mutual

/-- The lines for the failures attached to one, the nearest at the given depth. -/
def branches (depth : Nat) : Failure → String
  | node _ earlier => branchesOf depth earlier

/-- The lines for some failures at the given depth and for all that is attached to them. -/
def branchesOf (depth : Nat) : List Failure → String
  | [] => ""
  | f :: fs => indent depth ++ f.message ++ f.branches (depth + 1) ++ branchesOf depth fs

end

/-- The wording of a failure and of all that is attached to it, one line each, indented by depth. -/
def outline (f : Failure) : String := f.message ++ f.branches 1

mutual

/-- The causes in a tree, each failure before those attached to it. -/
def causes : Failure → List Cause
  | node cause earlier => cause :: causesOf earlier

/-- The causes in some trees. -/
def causesOf : List Failure → List Cause
  | [] => []
  | f :: fs => f.causes ++ causesOf fs

end

mutual

/-- The trees in a tree, each before those attached to it. -/
def parts : Failure → List Failure
  | node cause earlier => node cause earlier :: partsOf earlier

/-- The trees in some trees. -/
def partsOf : List Failure → List Failure
  | [] => []
  | f :: fs => f.parts ++ partsOf fs

end

/-- The trees in some trees are those in each of them. -/
theorem mem_partsOf {part : Failure} : ∀ {fs : List Failure}, part ∈ partsOf fs ↔ ∃ f ∈ fs, part ∈ f.parts
  | [] => by simp [partsOf]
  | f :: fs => by
    have hrest : part ∈ partsOf fs ↔ ∃ f ∈ fs, part ∈ f.parts := mem_partsOf
    simp [partsOf, hrest]

end Failure
end NativeLoader
