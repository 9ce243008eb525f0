import NativeLoader.Proofs.Loading.Course
import NativeLoader.Proofs.Loading.Provenance

/-!
# Loads that leave nothing behind

If the linker leaves the files alone and copies are deleted, then every load, whatever it comes to, leaves the files as
it found them, but for the directories that are made when the directory for copies is first settled
(`settles_of_load`). A load that fails leaves the contexts alone as well, with their libraries and roots
(`load_error_leaves`).
-/

namespace NativeLoader.Loader

variable {l : Loader} {context : ContextId} {name : String} {h after : Host}

/-! ## Binding by a linker that spares the target -/

theorem ask_of_spares {linker : Linker} {target : Target} (hs : linker.Spares target) (strategy : Strategy) (h : Host) :
    ∃ calls, (h.ask linker ⟨strategy, target⟩).2 = { h with calls } :=
  ⟨h.calls ++ [Request.toCall h.files ⟨strategy, target⟩], by simp only [Host.ask, hs h.calls strategy h.files]⟩

theorem bindGlobally_of_spares {target : Target} (hs : l.linker.Spares target) (subject reason : String) (h : Host) :
    ∃ calls, (l.bindGlobally target subject reason h).2 = { h with calls } := by
  obtain ⟨calls, hasked⟩ := ask_of_spares hs .global h
  refine ⟨calls, ?_⟩
  unfold bindGlobally
  split
  · next ha => rw [← hasked, ha]
  · next ha => rw [← hasked, ha]

theorem bindImage_of_spares {target : Target} (hs : l.linker.Spares target) (context : ContextId) (subject : String)
    (h : Host) : ∃ calls, (l.bindImage context target subject h).2 = { h with calls } := by
  unfold bindImage
  split
  · exact bindGlobally_of_spares hs subject _ h
  · obtain ⟨calls, hasked⟩ := ask_of_spares hs (.isolated context) h
    split
    · next ha => exact ⟨calls, by rw [← hasked, ha]⟩
    · next ha => exact ⟨calls, by rw [← hasked, ha]⟩
    · next reason after ha =>
      rw [ha] at hasked
      obtain ⟨calls', hglobal⟩ := bindGlobally_of_spares hs subject reason after
      exact ⟨calls', by rw [hglobal, show after = _ from hasked]⟩

/-- Binding a target that the linker spares changes no more than the record of calls. -/
theorem bind_of_spares {target : Target} (hs : l.linker.Spares target) (context : ContextId)
    (subject mangledPrefix : String) (h : Host) :
    ∃ calls, (l.bind context target subject mangledPrefix h).2 = { h with calls } := by
  obtain ⟨calls, hbound⟩ := bindImage_of_spares hs context subject h
  refine ⟨calls, ?_⟩
  unfold bind
  split
  · next hb => rw [← hbound, hb]
  · next hb => split <;> rw [← hbound, hb]

theorem bind_of_isQuiet (hq : l.linker.IsQuiet) (context : ContextId) (target : Target)
    (subject mangledPrefix : String) (h : Host) :
    ∃ calls, (l.bind context target subject mangledPrefix h).2 = { h with calls } :=
  bind_of_spares (hq.spares target) context subject mangledPrefix h

/-- Asking for the search path changes no more than the record of calls, if the linker spares names. -/
theorem asked_of_spares (hs : ∀ searched, l.linker.Spares (.searched searched)) (context : ContextId) (name : String)
    (h : Host) : ∃ calls, l.asked context name h = { h with calls } := by
  unfold asked
  split
  · exact ⟨h.calls, rfl⟩
  · split
    · exact ⟨h.calls, rfl⟩
    · exact bind_of_spares (hs _) context _ _ h

theorem asked_of_isQuiet (hq : l.linker.IsQuiet) (context : ContextId) (name : String) (h : Host) :
    ∃ calls, l.asked context name h = { h with calls } :=
  asked_of_spares (fun searched => hq.spares (.searched searched)) context name h

/-! ## What is left of a load -/

/-- A copy that is deleted is gone without a trace, if the linker is quiet. -/
theorem EndsCopied.of_isQuiet {path directory mangledPrefix : String} {c : Candidate} {settled extracted : Host}
    {outcome : Except Failure Library} (hq : l.linker.IsQuiet) (hdelete : l.settings.deleteCopies = true)
    (hx : l.extract name mangledPrefix c directory settled = (.ok path, extracted))
    (he : l.EndsCopied context path extracted outcome after) :
    after.files = settled.files ∧ after.pending = settled.pending ∧ after.directories = settled.directories := by
  obtain ⟨mangledPrefix', bound, files, contexts, handles, -, hb, hfiles, rfl, -⟩ := he
  obtain ⟨⟨_, loc, hadded, -⟩, hpending⟩ := extract_addsFile hx
  have hdirectories : extracted.directories = settled.directories := (frame_of_extract hx).2
  obtain ⟨calls, hbound⟩ := bind_of_isQuiet hq context (.extracted path) path mangledPrefix' extracted
  rw [hb] at hbound
  have hbefore : settled.files.AddsFile path loc bound.files := by
    rw [hbound]
    exact hadded
  -- whether the volume was asked or not, the files are those before the extraction and the copy
  have hused : settled.files.AddsFile path loc files := by
    rcases hfiles with rfl | rfl
    · exact hbefore
    · exact hbefore.checkExecutable
  have hgone : ({ bound with files } : Host).discard true path = (true, { bound with files := settled.files }) :=
    Host.discard_of_addsFile hused
  rw [hdelete, hgone]
  refine ⟨rfl, ?_, ?_⟩
  · calc bound.pending = extracted.pending := by rw [hbound]
      _ = settled.pending := hpending
  · calc bound.directories = extracted.directories := by rw [hbound]
      _ = settled.directories := hdirectories

/-- **A load leaves nothing behind**: whatever it comes to, the files are as before, but for the directories that are
made when the directory for copies is first settled. -/
theorem settles_of_load (hq : l.linker.IsQuiet) (hdelete : l.settings.deleteCopies = true) (context : ContextId)
    (name : String) (h : Host) : h.Settles l.directory (l.load context name h).2 := by
  obtain ⟨calls, hasked⟩ := asked_of_isQuiet hq context name h
  rcases endsBare_or_endsCopied l context name h with hbare | ⟨path, extracted, hextracts, hcopied⟩
  · have hs := hbare.settles
    rw [hasked] at hs
    exact .of_with calls h.warnings hs
  · obtain ⟨_, _, found, c, directory, settled, hpack, hx⟩ := hextracts
    have hs := hpack.settled.1
    rw [← hpack.seeks.asked, hasked] at hs
    obtain ⟨hfiles, hpending, hdirectories⟩ := hcopied.of_isQuiet hq hdelete hx
    exact (Host.Settles.of_with calls h.warnings hs).then_same hpending hfiles hdirectories

/-- **A load that fails is atomic.** All contexts are as before. If copies are deleted and the linker is quiet, so is what
is put off; nothing was made but directories, and these only where the loader's directory for copies was settled for
the first time; and what is known of the other directories is the same. Where it was settled before, the files and what
is known of the directories are all as before. -/
theorem load_error_leaves {failure : Failure} (hl : l.load context name h = (.error failure, after)) :
    after.contexts = h.contexts ∧
      (l.settings.deleteCopies = true → l.linker.IsQuiet →
        after.pending = h.pending ∧ h.files.MakesDirectories after.files ∧
        (after.files = h.files ∨ (h.directories l.directory).outcome = none ∧
          after.files = (h.extractionDirectory l.directory).2.files) ∧
        (∀ id, id ≠ l.directory → after.directories id = h.directories id) ∧
        ∀ outcome, (h.directories l.directory).outcome = some outcome →
          after.files = h.files ∧ after.directories = h.directories) := by
  refine ⟨(load_error hl).contexts, ?_⟩
  intro hdelete hq
  have hs := settles_of_load hq hdelete context name h
  rw [hl] at hs
  refine ⟨hs.pending, hs.makesDirectories, ?_, fun id => hs.directories_of_ne, fun outcome => hs.eq_of_outcome⟩
  rcases hs.place with ⟨hfiles, _⟩ | ⟨hnone, hfiles, _⟩
  · exact Or.inl hfiles
  · exact Or.inr ⟨hnone, hfiles⟩

/-- A loader whose linker refuses every file. -/
def refusingLoader : Loader :=
  { linker := LinkerTable.toLinker { isolated := { extracted := .reject "no such format" } } }

/-- A process in which the directory for copies is settled. -/
def settledHost : Host := packagedHost.setDirectory globalDirectory { outcome := some (.ok "/tmp") }

/-- A copy that was extracted and refused leaves the files as they were. -/
theorem load_error_leaves_refused : ∃ failure after, refusingLoader.load 1 "x" settledHost = (.error failure, after) ∧
    after.calls.length = 2 ∧ after.files = settledHost.files ∧ after.pending = [] := by
  obtain ⟨hfails, hcalls⟩ : (refusingLoader.load 1 "x" settledHost).1.toOption = none ∧
      (refusingLoader.load 1 "x" settledHost).2.calls.length = 2 := by decide +kernel
  cases hl : refusingLoader.load 1 "x" settledHost with
  | mk outcome after =>
    rw [hl] at hfails hcalls
    cases outcome with
    | ok lib => cases hfails
    | error failure =>
      have hleaves := (load_error_leaves hl).2 rfl (LinkerTable.isQuiet_toLinker rfl)
      exact ⟨failure, after, rfl, hcalls, (hleaves.2.2.2.2 _ rfl).1, hleaves.1⟩

end NativeLoader.Loader
