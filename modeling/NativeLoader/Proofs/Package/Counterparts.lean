import Mathlib.Data.List.Forall2
import NativeLoader.Proofs.Package.Choosing

/-!
# Roots in the place of others

Two roots are counterparts at a path if both hold it or neither does, and what they hold has one digest
(`Root.Counterparts`); each may be seen with files of its own. Where the roots of a list are replaced one by one by
counterparts, the candidates are replaced with them, and so the choice comes to the same, with one candidate in the
place of the other (`choose_counterparts`): the resource of the root at the same position (`getElem?_of_choose`).
-/

namespace NativeLoader

/-- Two roots hold a path both or neither, and there what they hold has one digest. -/
structure Root.Counterparts (fs fs' : FileSystem) (path : String) (root other : Root) : Prop where
  contains : other.contains fs' path = root.contains fs path
  digest? : root.contains fs path = true →
    Candidate.digest? fs' ⟨other, path⟩ = Candidate.digest? fs ⟨root, path⟩

theorem Root.Counterparts.refl (fs : FileSystem) (path : String) (root : Root) : root.Counterparts fs fs path root :=
  ⟨rfl, fun _ => rfl⟩

/-- Two choices of one kind, with related candidates. -/
inductive Choice.Matches (R : Candidate → Candidate → Prop) : Choice → Choice → Prop
  | absent : Matches R .absent .absent
  | picked {c d : Candidate} : R c d → Matches R (.picked c) (.picked d)
  | unchecked {c d : Candidate} {cs ds : List Candidate} : R c d → List.Forall₂ R cs ds →
      Matches R (.unchecked c (cs.map Candidate.origin)) (.unchecked d (ds.map Candidate.origin))
  | conflict {cs ds : List Candidate} : List.Forall₂ R cs ds →
      Matches R (.conflict (cs.map Candidate.origin)) (.conflict (ds.map Candidate.origin))

namespace Choice

variable {R : Candidate → Candidate → Prop} {choice other : Choice}

/-- Matching choices both come to nothing, or to related candidates, or to a refusal. -/
theorem Matches.results (h : Matches R choice other) (path : String) :
    (choice.result path = .ok none ∧ other.result path = .ok none) ∨
    (∃ c d, R c d ∧ choice.result path = .ok (some c) ∧ other.result path = .ok (some d)) ∨
    ∃ failure failure', choice.result path = .error failure ∧ other.result path = .error failure' := by
  cases h with
  | absent => exact Or.inl ⟨rfl, rfl⟩
  | picked hr => exact Or.inr (Or.inl ⟨_, _, hr, rfl, rfl⟩)
  | unchecked hr _ => exact Or.inr (Or.inl ⟨_, _, hr, rfl, rfl⟩)
  | conflict _ => exact Or.inr (Or.inr ⟨_, _, rfl, rfl⟩)

/-- Candidates with the same names in messages make the same list of names. -/
theorem map_origin_eq {cs ds : List Candidate} (hrs : List.Forall₂ R cs ds)
    (hR : ∀ c d, R c d → d.origin = c.origin) : ds.map Candidate.origin = cs.map Candidate.origin := by
  induction hrs with
  | nil => rfl
  | @cons c d _ _ hr _ ih => rw [List.map_cons, List.map_cons, hR c d hr, ih]

end Choice

variable {fs fs' : FileSystem} {path : String} {roots others : List Root} {S : Root → Root → Prop}

/-- The candidates among counterparts correspond. -/
theorem candidates_counterparts (hS : ∀ root other, S root other → root.Counterparts fs fs' path other)
    (h : List.Forall₂ S roots others) :
    List.Forall₂ (fun c d => c.path = path ∧ d.path = path ∧ S c.root d.root ∧ c.root.contains fs path = true)
      (candidates fs path roots) (candidates fs' path others) := by
  induction h with
  | nil => exact .nil
  | @cons root other _ _ hs _ ih =>
    have hsame := (hS root other hs).contains
    cases hheld : root.contains fs path with
    | false =>
      rw [hheld] at hsame
      simpa [candidates, hheld, hsame] using ih
    | true =>
      rw [hheld] at hsame
      simpa [candidates, hheld, hsame, hs] using ih

/-- Copies with the digests of others pass for the same exactly if those do. -/
theorem sameContents_counterparts {R : Candidate → Candidate → Prop} {first first' : Candidate}
    {more more' : List Candidate} (hR : ∀ c d, R c d → d.digest? fs' = c.digest? fs) (hfirst : R first first')
    (hmore : List.Forall₂ R more more') : sameContents fs' first' more' = sameContents fs first more := by
  have hall : ∀ digest : Sha256.Digest, (more'.all fun c => c.digest? fs' == some digest) =
      more.all fun c => c.digest? fs == some digest := by
    intro digest
    induction hmore with
    | nil => rw [List.all_nil, List.all_nil]
    | @cons c d _ _ hr _ ih => rw [List.all_cons, List.all_cons, hR c d hr, ih]
  simp only [sameContents, hR first first' hfirst, hall]

/-- What is settled on among copies with the digests of others corresponds to what is settled on among those. -/
theorem Choice.ofCandidates_counterparts {R : Candidate → Candidate → Prop} {cs ds : List Candidate} (detect : Bool)
    (hR : ∀ c d, R c d → d.digest? fs' = c.digest? fs) (h : List.Forall₂ R cs ds) :
    Matches R (ofCandidates detect fs cs) (ofCandidates detect fs' ds) := by
  cases h with
  | nil => exact .absent
  | cons hr hmore =>
    cases hmore with
    | nil => exact .picked hr
    | cons hr' hrest =>
      have hall := List.Forall₂.cons hr (.cons hr' hrest)
      simp only [ofCandidates, sameContents_counterparts hR hr (.cons hr' hrest)]
      split
      · exact .unchecked hr hall
      · split
        · exact .picked hr
        · exact .conflict hall

/-- **Counterparts in the place of roots** change no choice but for the candidates, which are those of the
counterparts. -/
theorem choose_counterparts (detect : Bool) (hS : ∀ root other, S root other → root.Counterparts fs fs' path other)
    (h : List.Forall₂ S roots others) :
    Choice.Matches (fun c d => c.path = path ∧ d.path = path ∧ S c.root d.root ∧ c.root.contains fs path = true)
      (choose detect fs path roots) (choose detect fs' path others) := by
  refine Choice.ofCandidates_counterparts detect ?_ (candidates_counterparts hS h)
  rintro ⟨root, p⟩ ⟨other, p'⟩ ⟨rfl, rfl, hs, hheld⟩
  exact (hS root other hs).digest? hheld

/-- The first root that holds a path stands at the same position among counterparts. -/
theorem findIdx?_counterparts (hS : ∀ root other, S root other → root.Counterparts fs fs' path other)
    (h : List.Forall₂ S roots others) :
    others.findIdx? (·.contains fs' path) = roots.findIdx? (·.contains fs path) := by
  induction h with
  | nil => rw [List.findIdx?_nil, List.findIdx?_nil]
  | @cons root other _ _ hs _ ih =>
    simp only [List.findIdx?_cons]
    rw [(hS root other hs).contains, ih]

/-- A root holds a path exactly if a counterpart does. -/
theorem any_counterparts (hS : ∀ root other, S root other → root.Counterparts fs fs' path other)
    (h : List.Forall₂ S roots others) : others.any (·.contains fs' path) = roots.any (·.contains fs path) := by
  rw [← List.findIdx?_isSome, findIdx?_counterparts hS h, List.findIdx?_isSome]

/-- What is chosen is the resource of the root at the first position that holds the path. -/
theorem getElem?_of_choose {detect : Bool} {said : String} {c : Candidate}
    (h : (choose detect fs path roots).result said = .ok (some c)) :
    ∃ i, roots.findIdx? (·.contains fs path) = some i ∧ roots[i]? = some c.root := by
  obtain ⟨-, hroot, -⟩ := eq_of_choose h
  rw [List.find?_eq_bind_findIdx?_getElem?] at hroot
  exact Option.bind_eq_some_iff.mp hroot

end NativeLoader
