import NativeLoader.Failure
import NativeLoader.Package.Root

/-!
# Choosing among copies

The roots that hold a path each give a candidate (`candidates`). One is taken as it is; of several the first is taken
if all have the same digest, or unchecked with a warning, and otherwise they are in conflict (`choose`). Nothing is
chosen exactly if no root holds the path (`choose_eq_absent_iff`), and what is chosen is the first of the candidates
(`head_of_ofCandidates`).
-/

namespace NativeLoader

/-- The resources at a path, in the order of the roots. -/
def candidates (fs : FileSystem) (path : String) (roots : List Root) : List Candidate :=
  (roots.filter (·.contains fs path)).map fun root => ⟨root, path⟩

/-- Some further copies all have the digest of the first one, which can be read. -/
def sameContents (fs : FileSystem) (first : Candidate) (others : List Candidate) : Bool :=
  match first.digest? fs with
  | some digest => others.all fun c => c.digest? fs == some digest
  | none => false

/-- What comes of looking for a resource. -/
inductive Choice where
  /-- No root holds it. -/
  | absent
  /-- There is one copy, or all are the same. -/
  | picked (candidate : Candidate)
  /-- The first of several copies that were not compared. -/
  | unchecked (candidate : Candidate) (origins : List String)
  /-- Copies that differ, or cannot be compared. -/
  | conflict (origins : List String)

/-- Settling on one copy. -/
def Choice.ofCandidates (detect : Bool) (fs : FileSystem) : List Candidate → Choice
  | [] => absent
  | [only] => picked only
  | first :: others =>
    if !detect then unchecked first ((first :: others).map Candidate.origin)
    else if sameContents fs first others then picked first
    else conflict ((first :: others).map Candidate.origin)

/-- Settling on one copy of the resource at a path. -/
def choose (detect : Bool) (fs : FileSystem) (path : String) (roots : List Root) : Choice :=
  .ofCandidates detect fs (candidates fs path roots)

namespace Choice

/-- The copy chosen, if any, or the failure of choosing. -/
def result (path : String) : Choice → Except Failure (Option Candidate)
  | absent => .ok none
  | picked c => .ok (some c)
  | unchecked c _ => .ok (some c)
  | conflict origins => .error (.of (.conflict path origins))

/-- What is said about a choice that was not checked. -/
def warnings (path : String) : Choice → List String
  | unchecked _ origins =>
    ["Multiple resources found for '" ++ path ++ "': " ++ Text.quoteAll origins ++
      ". Duplicate detection is disabled, using the first one. Please fix your dependency graph."]
  | _ => []

/-- Nothing is settled on exactly if there is nothing. -/
theorem ofCandidates_eq_absent_iff {detect : Bool} {fs : FileSystem} {cs : List Candidate} :
    ofCandidates detect fs cs = absent ↔ cs = [] := by
  cases cs with
  | nil => simp [ofCandidates]
  | cons c cs =>
    cases cs with
    | nil => simp [ofCandidates]
    | cons d cs =>
      simp only [ofCandidates, reduceCtorEq, iff_false]
      split
      · simp
      · split <;> simp

/-- What is settled on is the first. -/
theorem head_of_ofCandidates {detect : Bool} {fs : FileSystem} {path : String} {cs : List Candidate}
    {c : Candidate} (h : (ofCandidates detect fs cs).result path = .ok (some c)) : cs.head? = some c := by
  cases cs with
  | nil => cases h
  | cons d cs =>
    cases cs with
    | nil => cases h; rfl
    | cons e cs =>
      simp only [ofCandidates] at h
      split at h
      · cases h; rfl
      · split at h
        · cases h; rfl
        · cases h

end Choice

/-- Nothing is chosen exactly if no root holds the path. -/
theorem choose_eq_absent_iff {detect : Bool} {fs : FileSystem} {path : String} {roots : List Root} :
    choose detect fs path roots = .absent ↔ ∀ root ∈ roots, root.contains fs path = false := by
  rw [choose, Choice.ofCandidates_eq_absent_iff, candidates, List.map_eq_nil_iff, List.filter_eq_nil_iff]
  simp

end NativeLoader
