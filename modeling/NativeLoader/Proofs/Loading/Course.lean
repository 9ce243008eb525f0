import NativeLoader.Proofs.Extraction.Disposal
import NativeLoader.Proofs.Extraction.Settling
import NativeLoader.Proofs.Loading.Requests

/-!
# The course of a load

A load goes through its stages in order and may end at each of them. `Loader.Course` has one case for every end, with
what the stages before it gave, and every load takes one of them (`course_load`). What is true of all loads is shown by
these cases. The stages that several ends share are `Seeks` (the search path failed), `Packs` (a packaged copy was
located, and there is a directory for it) and `Extracts` (it was extracted there).
-/

namespace NativeLoader.Loader

/-- A load comes to look for a packaged copy: its name is not bound, and cannot be bound from the search path. -/
structure Seeks (l : Loader) (context : ContextId) (name mangledPrefix : String) (h : Host) (failure : Failure)
    (searched : Host) : Prop where
  accepted : l.mangledPrefix = .ok mangledPrefix
  free : (h.contexts context).library? (mangledPrefix ++ name) = none
  failed : l.bind context (.searched (mangledPrefix ++ name)) (mangledPrefix ++ name) mangledPrefix h =
    (.error failure, searched)

/-- A load that looks for a packaged copy locates one, and has a directory for it. -/
structure Packs (l : Loader) (context : ContextId) (name mangledPrefix : String) (h : Host) (failure : Failure)
    (searched : Host) (c : Candidate) (directory : String) (settled : Host) : Prop where
  seeks : l.Seeks context name mangledPrefix h failure searched
  settles : ∃ warnings,
    l.locate searched.files (searched.contexts context).roots (mangledPrefix ++ name) = (.found c, warnings) ∧
      (searched.warn warnings).extractionDirectory l.directory = (.ok directory, settled)

/-- A load extracts a packaged copy; the path of the copy, and the process in which it is ready to be bound. -/
def Extracts (l : Loader) (context : ContextId) (name : String) (h : Host) (path : String) (extracted : Host) : Prop :=
  ∃ mangledPrefix failure searched c directory settled,
    l.Packs context name mangledPrefix h failure searched c directory settled ∧
      l.extract name mangledPrefix c directory settled = (.ok path, extracted)

/-- The ends that a load can come to, each with the outcome and the process after it. -/
inductive Course (l : Loader) (context : ContextId) (name : String) (h : Host) : Except Failure Library → Host → Prop
  /-- The identity of the loader is refused. -/
  | foreign {failure : Failure} : l.mangledPrefix = .error failure → Course l context name h (.error failure) h
  /-- The name is bound already. -/
  | known {mangledPrefix : String} {lib : Library} : l.mangledPrefix = .ok mangledPrefix →
      (h.contexts context).library? (mangledPrefix ++ name) = some lib → Course l context name h (.ok lib) h
  /-- The library is on the search path. -/
  | searched {mangledPrefix : String} {image : Image} {binding : Binding} {bound after : Host} {lib : Library} :
      l.mangledPrefix = .ok mangledPrefix → (h.contexts context).library? (mangledPrefix ++ name) = none →
      l.bind context (.searched (mangledPrefix ++ name)) (mangledPrefix ++ name) mangledPrefix h =
        (.ok (image, binding), bound) →
      bound.register context name mangledPrefix binding .searchPath image = (lib, after) →
      Course l context name h (.ok lib) after
  /-- No root holds a copy. -/
  | nowhere {mangledPrefix path : String} {failure : Failure} {found : Host} {warnings : List String} :
      l.Seeks context name mangledPrefix h failure found →
      l.locate found.files (found.contexts context).roots (mangledPrefix ++ name) = (.nowhere path, warnings) →
      Course l context name h (.error (.node (.notFound path) [failure])) (found.warn warnings)
  /-- The copies of several roots are in conflict. -/
  | refused {mangledPrefix : String} {failure conflict : Failure} {found : Host} {warnings : List String} :
      l.Seeks context name mangledPrefix h failure found →
      l.locate found.files (found.contexts context).roots (mangledPrefix ++ name) = (.refused conflict, warnings) →
      Course l context name h (.error (conflict.attach [failure])) (found.warn warnings)
  /-- There is no directory for copies. -/
  | homeless {mangledPrefix : String} {failure missing : Failure} {found after : Host} {c : Candidate}
      {warnings : List String} : l.Seeks context name mangledPrefix h failure found →
      l.locate found.files (found.contexts context).roots (mangledPrefix ++ name) = (.found c, warnings) →
      (found.warn warnings).extractionDirectory l.directory = (.error missing, after) →
      Course l context name h (.error (missing.attach [failure])) after
  /-- The copy cannot be extracted. -/
  | unpacked {mangledPrefix directory : String} {failure fault : Failure} {found settled after : Host}
      {c : Candidate} : l.Packs context name mangledPrefix h failure found c directory settled →
      l.extract name mangledPrefix c directory settled = (.error fault, after) →
      Course l context name h (.error (.node (.link (mangledPrefix ++ name)
        ("could not load a native library: " ++ fault.message) none) [failure])) after
  /-- The copy cannot be bound. -/
  | rejected {mangledPrefix directory path : String} {failure refusal : Failure} {found settled extracted bound : Host}
      {c : Candidate} : l.Packs context name mangledPrefix h failure found c directory settled →
      l.extract name mangledPrefix c directory settled = (.ok path, extracted) →
      l.bind context (.extracted path) path mangledPrefix extracted = (.error refusal, bound) →
      Course l context name h
        (.error ((bound.diagnose path refusal).1.1.attach (failure :: (bound.diagnose path refusal).1.2)))
        ((bound.diagnose path refusal).2.discard l.settings.deleteCopies path).2
  /-- The copy is bound. -/
  | copied {mangledPrefix directory path : String} {failure : Failure} {found settled extracted bound after : Host}
      {c : Candidate} {image : Image} {binding : Binding} {lib : Library} :
      l.Packs context name mangledPrefix h failure found c directory settled →
      l.extract name mangledPrefix c directory settled = (.ok path, extracted) →
      l.bind context (.extracted path) path mangledPrefix extracted = (.ok (image, binding), bound) →
      (bound.discard l.settings.deleteCopies path).2.register context name mangledPrefix binding (.resource c.origin)
        image = (lib, after) →
      Course l context name h (.ok lib) after

variable {l : Loader} {context : ContextId} {name mangledPrefix : String} {h found : Host} {failure : Failure}

/-- A load that extracted a copy goes on to bind it. -/
theorem Packs.load_eq {c : Candidate} {directory path : String} {settled extracted : Host}
    (hpack : l.Packs context name mangledPrefix h failure found c directory settled)
    (hx : l.extract name mangledPrefix c directory settled = (.ok path, extracted)) :
    l.load context name h = l.loadCopy context name mangledPrefix c.origin path failure extracted := by
  obtain ⟨hp, hfree, hfailed⟩ := hpack.seeks
  obtain ⟨warnings, hc, hd⟩ := hpack.settles
  simp only [load, hp, hfree, loadNew, hfailed, loadPackaged, hc, loadCandidate, hd, hx]

/-- What becomes of a copy that was extracted. -/
theorem course_loadCopy {c : Candidate} {directory path : String} {settled extracted : Host}
    (hpack : l.Packs context name mangledPrefix h failure found c directory settled)
    (hx : l.extract name mangledPrefix c directory settled = (.ok path, extracted)) :
    l.Course context name h (l.loadCopy context name mangledPrefix c.origin path failure extracted).1
      (l.loadCopy context name mangledPrefix c.origin path failure extracted).2 := by
  unfold loadCopy
  split
  · next hb => exact .copied hpack hx hb rfl
  · next hb => exact .rejected hpack hx hb

/-- What becomes of a copy that was located. -/
theorem course_loadCandidate {c : Candidate} {warnings : List String}
    (hseek : l.Seeks context name mangledPrefix h failure found)
    (hc : l.locate found.files (found.contexts context).roots (mangledPrefix ++ name) = (.found c, warnings)) :
    l.Course context name h (l.loadCandidate context name mangledPrefix c failure (found.warn warnings)).1
      (l.loadCandidate context name mangledPrefix c failure (found.warn warnings)).2 := by
  unfold loadCandidate
  split
  · next hd => exact .homeless hseek hc hd
  · next directory settled hd =>
    have hpack : l.Packs context name mangledPrefix h failure found c directory settled := ⟨hseek, warnings, hc, hd⟩
    split
    · next hx => exact .unpacked hpack hx
    · next hx => exact course_loadCopy hpack hx

/-- What becomes of a library that the search path does not have. -/
theorem course_loadPackaged (hseek : l.Seeks context name mangledPrefix h failure found) :
    l.Course context name h (l.loadPackaged context name mangledPrefix failure found).1
      (l.loadPackaged context name mangledPrefix failure found).2 := by
  unfold loadPackaged
  cases hc : l.locate found.files (found.contexts context).roots (mangledPrefix ++ name) with
  | mk located warnings =>
    cases located with
    | nowhere path => exact .nowhere hseek hc
    | refused conflict => exact .refused hseek hc
    | found c => exact course_loadCandidate hseek hc

/-- **Every load takes one of the courses.** -/
theorem course_load (l : Loader) (context : ContextId) (name : String) (h : Host) :
    l.Course context name h (l.load context name h).1 (l.load context name h).2 := by
  unfold load
  split
  · next hp => exact .foreign hp
  · next mangledPrefix hp =>
    split
    · next hb => exact .known hp hb
    · next hfree =>
      unfold loadNew
      split
      · next hb => exact .searched hp hfree hb rfl
      · next hb => exact course_loadPackaged ⟨hp, hfree, hb⟩

/-! ## Stages that are passed at most once -/

/-- A load seeks in one way. -/
theorem Seeks.unique {mangledPrefix' : String} {failure' : Failure} {found' : Host}
    (h₁ : l.Seeks context name mangledPrefix h failure found)
    (h₂ : l.Seeks context name mangledPrefix' h failure' found') :
    mangledPrefix' = mangledPrefix ∧ failure' = failure ∧ found' = found := by
  have hp := h₁.accepted.symm.trans h₂.accepted
  cases hp
  have hb := h₁.failed.symm.trans h₂.failed
  cases hb
  exact ⟨rfl, rfl, rfl⟩

/-- A load has one copy to extract, and one directory for it. -/
theorem Packs.unique {mangledPrefix' directory directory' : String} {failure' : Failure} {found' settled settled' : Host}
    {c c' : Candidate} (h₁ : l.Packs context name mangledPrefix h failure found c directory settled)
    (h₂ : l.Packs context name mangledPrefix' h failure' found' c' directory' settled') :
    mangledPrefix' = mangledPrefix ∧ failure' = failure ∧ found' = found ∧ c' = c ∧ directory' = directory ∧
      settled' = settled := by
  obtain ⟨rfl, rfl, rfl⟩ := h₁.seeks.unique h₂.seeks
  obtain ⟨warnings, hc, hd⟩ := h₁.settles
  obtain ⟨warnings', hc', hd'⟩ := h₂.settles
  have hsame := hc.symm.trans hc'
  cases hsame
  have hsettled := hd.symm.trans hd'
  cases hsettled
  exact ⟨rfl, rfl, rfl, rfl, rfl, rfl⟩

/-- A load extracts at most one copy. -/
theorem Extracts.unique {path path' : String} {extracted extracted' : Host}
    (h₁ : l.Extracts context name h path extracted) (h₂ : l.Extracts context name h path' extracted') :
    path' = path ∧ extracted' = extracted := by
  obtain ⟨_, _, _, _, _, _, hpack, hx⟩ := h₁
  obtain ⟨_, _, _, _, _, _, hpack', hx'⟩ := h₂
  obtain ⟨rfl, -, -, rfl, rfl, rfl⟩ := hpack.unique hpack'
  have hsame := hx.symm.trans hx'
  cases hsame
  exact ⟨rfl, rfl⟩

/-- Where a copy is extracted, the load looked for it. -/
theorem Extracts.seeks {path : String} {extracted : Host} (hextracts : l.Extracts context name h path extracted)
    (hp : l.mangledPrefix = .ok mangledPrefix) :
    ∃ failure searched, l.Seeks context name mangledPrefix h failure searched := by
  obtain ⟨_, failure, searched, _, _, _, hpack, -⟩ := hextracts
  have haccepted := hpack.seeks.accepted
  rw [hp] at haccepted
  cases haccepted
  exact ⟨failure, searched, hpack.seeks⟩

/-! ## What the stages leave bound -/

/-- A load that looks for a packaged copy has left the bindings alone. -/
theorem Seeks.keepsBindings (hseek : l.Seeks context name mangledPrefix h failure found) : h.KeepsBindings found := by
  have hfound := Host.KeepsBindings.bind l context (.searched (mangledPrefix ++ name)) (mangledPrefix ++ name)
    mangledPrefix h
  rw [hseek.failed] at hfound
  exact hfound

/-- So has a load that has a directory for its copy. -/
theorem Packs.keepsBindings {c : Candidate} {directory : String} {settled : Host}
    (hpack : l.Packs context name mangledPrefix h failure found c directory settled) : h.KeepsBindings settled := by
  obtain ⟨warnings, -, hd⟩ := hpack.settles
  have hsettled := Host.KeepsBindings.extractionDirectory l.directory (found.warn warnings)
  rw [hd] at hsettled
  exact hpack.seeks.keepsBindings.trans ((Host.KeepsBindings.warn warnings found).trans hsettled)

/-- And a load whose copy was bound and deleted, until the library is registered. -/
theorem Packs.keepsBindings_discard {c : Candidate} {directory path subject : String} {target : Target}
    {settled extracted bound : Host} {answer : Except Failure (Image × Binding)}
    (hpack : l.Packs context name mangledPrefix h failure found c directory settled)
    (hx : l.extract name mangledPrefix c directory settled = (.ok path, extracted))
    (hb : l.bind context target subject mangledPrefix extracted = (answer, bound)) (delete : Bool) :
    h.KeepsBindings (bound.discard delete path).2 := by
  obtain ⟨warnings, -, hd⟩ := hpack.settles
  exact hpack.seeks.keepsBindings.trans
    ((Host.KeepsBindings.warn warnings found).trans (keepsBindings_of_copy delete hd hx hb))

/-! ## Loads with and without a copy -/

/-- The process once a load has asked for the search path, if it comes to that. -/
def asked (l : Loader) (context : ContextId) (name : String) (h : Host) : Host :=
  match l.mangledPrefix with
  | .error _ => h
  | .ok mangledPrefix =>
    match (h.contexts context).library? (mangledPrefix ++ name) with
    | some _ => h
    | none => (l.bind context (.searched (mangledPrefix ++ name)) (mangledPrefix ++ name) mangledPrefix h).2

theorem asked_of_bind {answer : Except Failure (Image × Binding)} {after : Host}
    (hp : l.mangledPrefix = .ok mangledPrefix)
    (hfree : (h.contexts context).library? (mangledPrefix ++ name) = none)
    (hb : l.bind context (.searched (mangledPrefix ++ name)) (mangledPrefix ++ name) mangledPrefix h =
      (answer, after)) : l.asked context name h = after := by
  simp only [asked, hp, hfree, hb]

/-- Asking for the search path changes the files and the record of calls. -/
theorem asked_frame (l : Loader) (context : ContextId) (name : String) (h : Host) :
    ∃ files calls, l.asked context name h = { h with files, calls } := by
  unfold asked
  split
  · exact ⟨h.files, h.calls, rfl⟩
  · split
    · exact ⟨h.files, h.calls, rfl⟩
    · exact bind_frame l context _ _ _ h

/-- A load that looks for a packaged copy has asked for the search path. -/
theorem Seeks.asked (hseek : l.Seeks context name mangledPrefix h failure found) : l.asked context name h = found :=
  asked_of_bind hseek.accepted hseek.free hseek.failed

/-- Up to extracting, a load settles at most the directory for copies, and puts no request. -/
theorem Packs.settled {c : Candidate} {directory : String} {settled : Host}
    (hpack : l.Packs context name mangledPrefix h failure found c directory settled) :
    found.Settles l.directory settled ∧ settled.calls = found.calls := by
  obtain ⟨warnings, -, hd⟩ := hpack.settles
  have hs := Host.Settles.of_extractionDirectory l.directory found.calls (found.warnings ++ warnings) found
  obtain ⟨_, _, _, hframe⟩ := Host.extractionDirectory_frame l.directory (found.warn warnings)
  rw [hd] at hframe
  refine ⟨?_, by rw [show settled = _ from hframe]; rfl⟩
  rw [show settled = ((found.warn warnings).extractionDirectory l.directory).2 by rw [hd]]
  exact hs

/-- A load ended without a copy: after it had asked for the search path it put no request, and no more became of the
files than that the directory for copies was settled. -/
structure EndsBare (l : Loader) (context : ContextId) (name : String) (h after : Host) : Prop where
  bare : ∀ path extracted, ¬l.Extracts context name h path extracted
  settles : (l.asked context name h).Settles l.directory after
  calls : after.calls = (l.asked context name h).calls

/-- A load that extracted a copy ended: the copy was bound or refused, the volume was perhaps asked about it, and then
the copy was deleted, if copies are. A failure that comes of it is not fatal. -/
def EndsCopied (l : Loader) (context : ContextId) (path : String) (extracted : Host) (outcome : Except Failure Library)
    (after : Host) : Prop :=
  ∃ mangledPrefix bound files contexts handles, l.mangledPrefix = .ok mangledPrefix ∧
    (l.bind context (.extracted path) path mangledPrefix extracted).2 = bound ∧
    (files = bound.files ∨ files = (bound.files.checkExecutable path).2) ∧
    after = { (({ bound with files } : Host).discard l.settings.deleteCopies path).2 with contexts, handles } ∧
    ∀ failure, outcome = .error failure → failure.isFatal = false

/-- Finding out why a copy was refused changes at most its execute bits. -/
theorem diagnose_eq (path : String) (refusal : Failure) (h : Host) :
    ∃ files, (h.diagnose path refusal).2 = { h with files } ∧
      (files = h.files ∨ files = (h.files.checkExecutable path).2) := by
  unfold Host.diagnose
  split
  · split
    · split
      · next hx => exact ⟨_, rfl, Or.inr (by rw [hx])⟩
      · next hx => exact ⟨_, rfl, Or.inr (by rw [hx])⟩
      · next hx => exact ⟨_, rfl, Or.inr (by rw [hx])⟩
    · exact ⟨h.files, rfl, Or.inl rfl⟩
  · exact ⟨h.files, rfl, Or.inl rfl⟩

/-- A load whose identity is refused has nothing extracted. -/
theorem not_extracts_of_foreign (hp : l.mangledPrefix = .error failure) (path : String) (extracted : Host) :
    ¬l.Extracts context name h path extracted := by
  rintro ⟨_, _, _, _, _, _, hpack, -⟩
  have haccepted := hpack.seeks.accepted
  rw [hp] at haccepted
  cases haccepted

/-- A load that found nothing to extract has nothing extracted. -/
theorem not_extracts_of_locate {located : Located} {warnings : List String}
    (hseek : l.Seeks context name mangledPrefix h failure found)
    (hc : l.locate found.files (found.contexts context).roots (mangledPrefix ++ name) = (located, warnings))
    (hnot : ∀ c, located ≠ .found c) (path : String) (extracted : Host) :
    ¬l.Extracts context name h path extracted := by
  rintro ⟨_, _, _, c, _, _, hpack, -⟩
  obtain ⟨rfl, rfl, rfl⟩ := hseek.unique hpack.seeks
  obtain ⟨_, hfound, -⟩ := hpack.settles
  rw [hc] at hfound
  exact hnot c (Prod.mk.inj hfound).1

/-- A load without a directory for copies has nothing extracted. -/
theorem not_extracts_of_homeless {c : Candidate} {warnings : List String} {missing : Failure} {after : Host}
    (hseek : l.Seeks context name mangledPrefix h failure found)
    (hc : l.locate found.files (found.contexts context).roots (mangledPrefix ++ name) = (.found c, warnings))
    (hd : (found.warn warnings).extractionDirectory l.directory = (.error missing, after)) (path : String)
    (extracted : Host) : ¬l.Extracts context name h path extracted := by
  rintro ⟨_, _, _, _, _, _, hpack, -⟩
  obtain ⟨rfl, rfl, rfl⟩ := hseek.unique hpack.seeks
  obtain ⟨_, hfound, hsettled⟩ := hpack.settles
  rw [hc] at hfound
  cases hfound
  rw [hd] at hsettled
  cases hsettled

/-- A load that could not extract its copy has nothing extracted. -/
theorem Packs.not_extracts {c : Candidate} {directory : String} {settled after : Host} {fault : Failure}
    (hpack : l.Packs context name mangledPrefix h failure found c directory settled)
    (hx : l.extract name mangledPrefix c directory settled = (.error fault, after)) (path : String) (extracted : Host) :
    ¬l.Extracts context name h path extracted := by
  rintro ⟨_, _, _, _, _, _, hpack', hx'⟩
  obtain ⟨rfl, -, -, rfl, rfl, rfl⟩ := hpack.unique hpack'
  rw [hx] at hx'
  cases hx'

/-- A course ends without a copy, or with one. -/
theorem Course.ends {outcome : Except Failure Library} {after : Host} (hcourse : l.Course context name h outcome after) :
    l.EndsBare context name h after ∨
      ∃ path extracted, l.Extracts context name h path extracted ∧
        l.EndsCopied context path extracted outcome after := by
  cases hcourse with
  | foreign hp =>
    have hasked : l.asked context name h = h := by simp only [asked, hp]
    exact Or.inl ⟨not_extracts_of_foreign hp, by rw [hasked]; exact .of_same rfl rfl rfl, by rw [hasked]⟩
  | known hp hb =>
    have hasked : l.asked context name h = h := by simp only [asked, hp, hb]
    refine Or.inl ⟨?_, by rw [hasked]; exact .of_same rfl rfl rfl, by rw [hasked]⟩
    intro path extracted hextracts
    obtain ⟨_, _, hseek⟩ := hextracts.seeks hp
    have hfree := hseek.free
    rw [hb] at hfree
    cases hfree
  | searched hp hfree hb hr =>
    have hasked := asked_of_bind hp hfree hb
    cases hr
    refine Or.inl ⟨?_, by rw [hasked]; exact .of_same rfl rfl rfl, by rw [hasked]; rfl⟩
    intro path extracted hextracts
    obtain ⟨_, _, hseek⟩ := hextracts.seeks hp
    have hfailed := hseek.failed
    rw [hb] at hfailed
    cases hfailed
  | nowhere hseek hc =>
    refine Or.inl ⟨not_extracts_of_locate hseek hc (by simp), ?_, by rw [hseek.asked]; rfl⟩
    rw [hseek.asked]
    exact .of_same rfl rfl rfl
  | refused hseek hc =>
    refine Or.inl ⟨not_extracts_of_locate hseek hc (by simp), ?_, by rw [hseek.asked]; rfl⟩
    rw [hseek.asked]
    exact .of_same rfl rfl rfl
  | @homeless _ _ missing found after c warnings hseek hc hd =>
    have hsettles := Host.Settles.of_extractionDirectory l.directory found.calls (found.warnings ++ warnings) found
    obtain ⟨_, _, _, hframe⟩ := Host.extractionDirectory_frame l.directory (found.warn warnings)
    have hafter : ((found.warn warnings).extractionDirectory l.directory).2 = after := by rw [hd]
    refine Or.inl ⟨not_extracts_of_homeless hseek hc hd, ?_, ?_⟩
    · rw [hseek.asked, ← hafter]
      exact hsettles
    · rw [hseek.asked, ← hafter, hframe]
      rfl
  | @unpacked mangledPrefix directory _ _ found settled after c hpack hx =>
    obtain ⟨hsettles, hcalls⟩ := hpack.settled
    obtain ⟨hfiles, hpending⟩ := Host.extract_error (extract_eq_error_iff.mp hx)
    obtain ⟨_, _, _, hframe⟩ := extract_frame l name mangledPrefix c directory settled
    rw [hx] at hframe
    have hframe : after = _ := hframe
    refine Or.inl ⟨hpack.not_extracts hx, ?_, ?_⟩
    · rw [hpack.seeks.asked]
      exact hsettles.then_same hpending hfiles (by rw [hframe])
    · rw [hpack.seeks.asked, ← hcalls, hframe]
  | @rejected _ _ path _ refusal _ _ extracted bound _ hpack hx hb =>
    obtain ⟨files, hdiagnosed, hfiles⟩ := diagnose_eq path refusal bound
    obtain ⟨_, _, hgone⟩ := Host.discard_frame l.settings.deleteCopies path { bound with files }
    refine Or.inr ⟨path, extracted, ⟨_, _, _, _, _, _, hpack, hx⟩, _, bound, files, bound.contexts, bound.handles,
      hpack.seeks.accepted, by rw [hb], hfiles, by rw [hdiagnosed, hgone], ?_⟩
    intro other ho
    cases ho
    rw [Failure.isFatal_attach, isFatal_diagnose, isFatal_of_bind hb]
  | @copied _ _ path _ _ _ extracted bound after _ _ _ _ hpack hx hb hr =>
    refine Or.inr ⟨path, extracted, ⟨_, _, _, _, _, _, hpack, hx⟩, _, bound, bound.files, after.contexts, after.handles,
      hpack.seeks.accepted, by rw [hb], Or.inl rfl, ?_, by simp⟩
    cases hr
    rfl

/-- **Every load ends without a copy, or with one.** -/
theorem endsBare_or_endsCopied (l : Loader) (context : ContextId) (name : String) (h : Host) :
    l.EndsBare context name h (l.load context name h).2 ∨
      ∃ path extracted, l.Extracts context name h path extracted ∧
        l.EndsCopied context path extracted (l.load context name h).1 (l.load context name h).2 :=
  (course_load l context name h).ends

end NativeLoader.Loader
