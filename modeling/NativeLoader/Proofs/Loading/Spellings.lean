import NativeLoader.Proofs.Loading.Provenance
import NativeLoader.Proofs.Loading.Setbacks
import NativeLoader.Proofs.Package.Counterparts

/-!
# The two spellings of a packaged library

A library is packaged under its platform's file name (`Loader.ownPath`) or, on the platform that has two, under the
other spelling (`Loader.otherPath?`). If a root holds the first path, what is located is what resolving that path gives
(`locate_of_held`), and nothing else that the roots hold has a part in it (`sameAs_of_saysSame`). Else it is what
resolving the other path gives, if there is one (`locate_of_not_held`). So a load reports that a library is nowhere
exactly if the search path failed and neither path is held, and names the last of them (`locate_spellings`).
-/

namespace NativeLoader

/-- Two roots say the same about a path, each with its own files: its name in messages, whether they hold it, and what
opening it gives. -/
structure Root.SaysSame (fs fs' : FileSystem) (path : String) (root other : Root) : Prop where
  locator : other.locator path = root.locator path
  contains : other.contains fs' path = root.contains fs path
  reader : other.reader fs' path = root.reader fs path

theorem Root.SaysSame.counterparts {fs fs' : FileSystem} {path : String} {root other : Root}
    (h : root.SaysSame fs fs' path other) : root.Counterparts fs fs' path other where
  contains := h.contains
  digest? _ := by
    simp only [Candidate.digest?, Candidate.reader, h.reader]

/-- Two locations come to the same: the same resource in the same place, the same path that is not held, or the same
refusal. -/
inductive Located.SameAs (fs fs' : FileSystem) : Located → Located → Prop
  | found {c d : Candidate} : d.path = c.path → d.origin = c.origin → d.reader fs' = c.reader fs →
      SameAs fs fs' (.found c) (.found d)
  | nowhere (path : String) : SameAs fs fs' (.nowhere path) (.nowhere path)
  | refused (failure : Failure) : SameAs fs fs' (.refused failure) (.refused failure)

namespace Loader

/-- The path of a packaged library under its platform's file name. -/
def ownPath (l : Loader) (library : String) : String := Root.home ++ l.platform.fileName library

/-- The path of a packaged library under the other spelling, where there is one. -/
def otherPath? (l : Loader) (library : String) : Option String :=
  (l.platform.alternate? (l.platform.fileName library)).map (Root.home ++ ·)

/-- Resolving one path: what is located there, and what is said about it. -/
def resolve (l : Loader) (fs : FileSystem) (roots : List Root) (path : String) : Located × List String :=
  let choice := choose l.settings.detectDuplicates fs path roots
  (.ofResult path (choice.result path), choice.warnings path)

variable {l : Loader} {fs fs' : FileSystem} {roots others : List Root} {library path : String}

/-- A path is chosen from some roots exactly if one of them holds it. -/
theorem choose_ne_absent_iff (detect : Bool) :
    choose detect fs path roots ≠ .absent ↔ ∃ root ∈ roots, root.contains fs path = true := by
  rw [Ne, choose_eq_absent_iff]
  simp

/-- Where a root holds the library under its own file name, that is what is located. -/
theorem locate_of_held (hheld : ∃ root ∈ roots, root.contains fs (l.ownPath library) = true) :
    l.locate fs roots library = l.resolve fs roots (l.ownPath library) := by
  have hchosen := (choose_ne_absent_iff l.settings.detectDuplicates).mpr hheld
  unfold locate
  simp only
  split
  · next habsent _ => exact absurd habsent hchosen
  · rfl

/-- Where none does, the other spelling is what is located, if there is one. -/
theorem locate_of_not_held (hnone : ∀ root ∈ roots, root.contains fs (l.ownPath library) = false) :
    l.locate fs roots library =
      match l.otherPath? library with
      | some other => l.resolve fs roots other
      | none => (.nowhere (l.ownPath library), []) := by
  have habsent : choose l.settings.detectDuplicates fs (Root.home ++ l.platform.fileName library) roots = .absent :=
    choose_eq_absent_iff.mpr hnone
  unfold locate otherPath?
  simp only [habsent]
  cases l.platform.alternate? (l.platform.fileName library) <;> rfl

/-- A path that no root holds is nowhere, and nothing is said about it; else it is not. -/
theorem resolve_eq_nowhere_iff {said : String} :
    (l.resolve fs roots path).1 = .nowhere said ↔
      (∀ root ∈ roots, root.contains fs path = false) ∧ said = path := by
  have habsent : choose l.settings.detectDuplicates fs path roots = .absent ↔ _ := choose_eq_absent_iff
  rw [← habsent]
  unfold resolve
  cases choose l.settings.detectDuplicates fs path roots with
  | absent => simp [Choice.result, Located.ofResult, eq_comm]
  | _ => simp [Choice.result, Located.ofResult]

/-- A library is nowhere exactly if no root holds it under either spelling; the path is the last one there is. -/
theorem locate_eq_nowhere_iff {said : String} :
    (l.locate fs roots library).1 = .nowhere said ↔
      (∀ root ∈ roots, root.contains fs (l.ownPath library) = false) ∧
      (∀ other, l.otherPath? library = some other → ∀ root ∈ roots, root.contains fs other = false) ∧
      said = (l.otherPath? library).getD (l.ownPath library) := by
  by_cases hheld : ∃ root ∈ roots, root.contains fs (l.ownPath library) = true
  · rw [locate_of_held hheld, resolve_eq_nowhere_iff]
    obtain ⟨root, hr, hc⟩ := hheld
    have hnot : ¬∀ root ∈ roots, root.contains fs (l.ownPath library) = false := by
      intro hnone
      rw [hnone root hr] at hc
      cases hc
    exact iff_of_false (fun h => hnot h.1) (fun h => hnot h.1)
  · have hnone : ∀ root ∈ roots, root.contains fs (l.ownPath library) = false := by simpa using hheld
    rw [locate_of_not_held hnone]
    cases l.otherPath? library with
    | some other =>
      simp only [resolve_eq_nowhere_iff, Option.some.injEq, forall_eq', Option.getD_some]
      exact ⟨fun h => ⟨hnone, h⟩, fun h => h.2⟩
    | none =>
      simp only [Located.nowhere.injEq, reduceCtorEq, false_implies, implies_true, true_and, Option.getD_none]
      exact ⟨fun h => ⟨hnone, h.symm⟩, fun h => h.2.symm⟩

/-- Resolving a path is the same among roots that say the same about it. -/
theorem sameAs_of_saysSame (l : Loader) (h : List.Forall₂ (Root.SaysSame fs fs' path) roots others) :
    Located.SameAs fs fs' (l.resolve fs roots path).1 (l.resolve fs' others path).1 ∧
      (l.resolve fs' others path).2 = (l.resolve fs roots path).2 := by
  have hmatches := choose_counterparts l.settings.detectDuplicates (fun _ _ hs => hs.counterparts) h
  have horigin : ∀ c d : Candidate, c.path = path ∧ d.path = path ∧ Root.SaysSame fs fs' path c.root d.root ∧
      c.root.contains fs path = true → d.origin = c.origin := by
    rintro ⟨root, p⟩ ⟨other, p'⟩ ⟨rfl, rfl, hs, -⟩
    exact hs.locator
  unfold resolve
  simp only
  generalize choose l.settings.detectDuplicates fs path roots = choice at hmatches
  generalize choose l.settings.detectDuplicates fs' path others = choice' at hmatches
  have hfound : ∀ {c d : Candidate}, c.path = path ∧ d.path = path ∧ Root.SaysSame fs fs' path c.root d.root ∧
      c.root.contains fs path = true → Located.SameAs fs fs' (.found c) (.found d) := by
    rintro ⟨root, p⟩ ⟨other, p'⟩ ⟨rfl, rfl, hs, -⟩
    exact .found rfl hs.locator hs.reader
  cases hmatches with
  | absent => exact ⟨.nowhere path, rfl⟩
  | picked hr => exact ⟨hfound hr, rfl⟩
  | unchecked hr hrs => exact ⟨hfound hr, by rw [Choice.warnings, Choice.warnings, Choice.map_origin_eq hrs horigin]⟩
  | conflict hrs =>
    rw [Choice.result, Choice.result, Choice.map_origin_eq hrs horigin]
    exact ⟨.refused _, rfl⟩

/-- Only a load that looked for a copy and found it nowhere says so. -/
theorem Course.of_notFound {context : ContextId} {name said : String} {h after : Host} {failure : Failure}
    (hcourse : l.Course context name h (.error failure) after) (hcause : failure.cause = .notFound said) :
    ∃ mangledPrefix search found, l.Seeks context name mangledPrefix h search found ∧
      (l.locate found.files (found.contexts context).roots (mangledPrefix ++ name)).1 = .nowhere said := by
  cases hcourse with
  | foreign hp =>
    obtain ⟨expected, actual, rfl⟩ := mangledPrefix_eq_error hp
    cases hcause
  | nowhere hseek hc =>
    cases hcause
    exact ⟨_, _, _, hseek, by rw [hc]⟩
  | refused _ hc =>
    obtain ⟨path, origins, rfl⟩ := locate_eq_refused hc
    cases hcause
  | homeless _ _ hd =>
    obtain ⟨message, rfl⟩ := extractionDirectory_eq_error hd
    cases hcause
  | unpacked _ _ => cases hcause
  | rejected _ _ hb =>
    obtain ⟨last, _, -, -, hnames, hdiagnosed⟩ := copySetbacks_of_bind hb
    rw [Failure.cause_attach, hdiagnosed] at hcause
    rw [show last = _ from hcause] at hnames
    cases hnames

/-- A load that looked for a copy and found it nowhere says so. -/
theorem Seeks.notFound {context : ContextId} {name mangledPrefix said : String} {h found : Host} {search : Failure}
    (hseek : l.Seeks context name mangledPrefix h search found)
    (hnowhere : (l.locate found.files (found.contexts context).roots (mangledPrefix ++ name)).1 = .nowhere said) :
    (l.load context name h).1 = .error (.node (.notFound said) [search]) := by
  simp only [load, hseek.accepted, hseek.free, loadNew, hseek.failed, loadPackaged, hnowhere]

/-- **The two spellings.** On one platform every library has another spelling, which differs from its own file name and
leads back to it; on the others none has. If any root holds the library under its own file name, then what is located
is what resolving that path alone gives, be it a conflict, and roots that say the same about that path give the same,
whatever they hold elsewhere. If none does, it is what resolving the other path gives, or nothing where there is no
other. A load reports that a library is nowhere exactly if the search path failed and no root holds it under any
spelling, and then it names the last. -/
theorem locate_spellings (l : Loader) :
    (∀ library, let file := l.platform.fileName library
      if l.platform = .macOs then
        ∃ other, file = "lib" ++ library ++ ".dylib" ∧ other = "lib" ++ library ++ ".jnilib" ∧ other ≠ file ∧
          l.platform.alternate? file = some other ∧ l.platform.alternate? other = some file ∧
          l.otherPath? library = some (Root.home ++ other)
      else l.otherPath? library = none) ∧
    (∀ fs roots library, (∃ root ∈ roots, root.contains fs (l.ownPath library) = true) →
      l.locate fs roots library = l.resolve fs roots (l.ownPath library) ∧
      ∀ fs' others, List.Forall₂ (Root.SaysSame fs fs' (l.ownPath library)) roots others →
        Located.SameAs fs fs' (l.locate fs roots library).1 (l.locate fs' others library).1 ∧
          (l.locate fs' others library).2 = (l.locate fs roots library).2) ∧
    (∀ fs roots library, (∀ root ∈ roots, root.contains fs (l.ownPath library) = false) →
      l.locate fs roots library =
        match l.otherPath? library with
        | some other => l.resolve fs roots other
        | none => (.nowhere (l.ownPath library), [])) ∧
    ∀ context name h said,
      (∃ failure, (l.load context name h).1 = .error failure ∧ failure.cause = .notFound said) ↔
        ∃ mangledPrefix search found, l.Seeks context name mangledPrefix h search found ∧
          (∀ root ∈ (h.contexts context).roots,
            root.contains found.files (l.ownPath (mangledPrefix ++ name)) = false ∧
            ∀ other, l.otherPath? (mangledPrefix ++ name) = some other → root.contains found.files other = false) ∧
          said = (l.otherPath? (mangledPrefix ++ name)).getD (l.ownPath (mangledPrefix ++ name)) := by
  refine ⟨?_, ?_, fun fs roots library => locate_of_not_held, ?_⟩
  · intro library file
    split
    · next hp =>
      have halternate : l.platform.alternate? file = some ("lib" ++ library ++ ".jnilib") := by
        rw [Platform.alternate?_fileName, if_pos hp]
      have hother : l.otherPath? library = some (Root.home ++ ("lib" ++ library ++ ".jnilib")) :=
        congrArg (Option.map (Root.home ++ ·)) halternate
      have hfile : file = "lib" ++ library ++ ".dylib" := by
        rw [show file = Platform.macOs.fileName library from congrArg (·.fileName library) hp]
        rfl
      exact ⟨_, hfile, rfl, Platform.alternate?_ne halternate, halternate, Platform.alternate?_alternate? halternate,
        hother⟩
    · next hp =>
      rw [otherPath?, Platform.alternate?_fileName, if_neg hp]
      rfl
  · intro fs roots library hheld
    refine ⟨locate_of_held hheld, ?_⟩
    intro fs' others hsame
    have hany := any_counterparts (fun _ _ hs => Root.SaysSame.counterparts hs) hsame
    have hheld' : ∃ root ∈ others, root.contains fs' (l.ownPath library) = true := by
      rwa [← List.any_eq_true, hany, List.any_eq_true]
    rw [locate_of_held hheld, locate_of_held hheld']
    exact sameAs_of_saysSame l hsame
  · intro context name h said
    constructor
    · rintro ⟨failure, hl, hcause⟩
      have hcourse := course_load l context name h
      rw [hl] at hcourse
      obtain ⟨mangledPrefix, search, found, hseek, hnowhere⟩ := hcourse.of_notFound hcause
      obtain ⟨hown, hother, hsaid⟩ := locate_eq_nowhere_iff.mp hnowhere
      rw [hseek.keepsBindings.contexts] at hown hother
      exact ⟨mangledPrefix, search, found, hseek, fun root hr => ⟨hown root hr, fun other ho => hother other ho root hr⟩,
        hsaid⟩
    · rintro ⟨mangledPrefix, search, found, hseek, hnone, hsaid⟩
      rw [← hseek.keepsBindings.contexts] at hnone
      have hnowhere := locate_eq_nowhere_iff.mpr
        ⟨fun root hr => (hnone root hr).1, fun other ho root hr => (hnone root hr).2 other ho, hsaid⟩
      exact ⟨_, hseek.notFound hnowhere, rfl⟩

/-! ## A conflict under one spelling -/

/-- A loader on the platform with two spellings, whose linker has no library. -/
def spellingLoader : Loader := { linker := LinkerTable.toLinker {}, platform := .macOs }

/-- A root that holds one path, whose resource breaks off. -/
def breakingRoot (held : String) : Root :=
  .provider
    { locator := ("breaking:" ++ ·)
      contains := (· == held)
      reader := fun _ => .ok ⟨[[0x46]], some (.reported "Other" "broken off")⟩ }

/-- Roots that hold the library `x`: two under its own file name, where one breaks off, and one under the other spelling
as well, unless that is left out. -/
def spellingRoots (more : List (String × List UInt8)) : List Root :=
  [.embedded "jar" ((Root.home ++ "libx.dylib", [0x46]) :: more), breakingRoot (Root.home ++ "libx.dylib")]

/-- The copies of `x` are in conflict, although there is a whole one under the other spelling. A library that no root
holds is looked for under both spellings. -/
theorem locate_spellings_masked :
    (∃ failure,
      (spellingLoader.locate {} (spellingRoots [(Root.home ++ "libx.jnilib", [0x46])]) "x").1 = .refused failure ∧
      (spellingLoader.locate {} (spellingRoots []) "x").1 = .refused failure) ∧
    ∃ failure, (spellingLoader.load 1 "y" { temporary := "/tmp", draws := .ofNumbers fun n => n }).1 =
      .error failure ∧ failure.cause = .notFound (Root.home ++ "liby.jnilib") := by
  refine ⟨?_, ?_⟩
  · let roots := spellingRoots [(Root.home ++ "libx.jnilib", [0x46])]
    have hm : breakingRoot (Root.home ++ "libx.dylib") ∈ roots := by simp [roots, spellingRoots]
    have hheld : (breakingRoot (Root.home ++ "libx.dylib")).contains {} (spellingLoader.ownPath "x") = true := by rfl
    have hsame : List.Forall₂ (Root.SaysSame {} {} (spellingLoader.ownPath "x")) roots (spellingRoots []) :=
      .cons ⟨rfl, by rfl, by rfl⟩ (.cons ⟨rfl, rfl, rfl⟩ .nil)
    obtain ⟨hresolve, halone⟩ := (locate_spellings spellingLoader).2.1 {} roots "x" ⟨_, hm, hheld⟩
    obtain ⟨hlocated, -⟩ := halone {} (spellingRoots []) hsame
    have hnot : ¬AllAlike {} (candidates {} (spellingLoader.ownPath "x") roots) := by
      intro halike
      obtain ⟨bytes, chunks, hr, -⟩ := halike.readable _ (mem_candidates hm hheld)
      cases hr
    have hrefused := (Choice.settles_ofCandidates true {} _).result_of_not_allAlike (spellingLoader.ownPath "x") rfl
      (by decide) hnot
    have hfirst := (congrArg Prod.fst hresolve).trans
      (congrArg (Located.ofResult (spellingLoader.ownPath "x")) hrefused)
    rw [hfirst] at hlocated
    generalize (spellingLoader.locate {} (spellingRoots []) "x").1 = located at hlocated ⊢
    cases hlocated with
    | refused => exact ⟨_, hfirst, rfl⟩
  · refine ((locate_spellings spellingLoader).2.2.2 1 "y" _ _).mpr
      ⟨"", _, _, ⟨by rfl, by rfl, by rfl⟩, ?_, by rfl⟩
    intro root hr
    cases hr

end Loader
end NativeLoader
