import NativeLoader.Proofs.Loading.Course

/-!
# What a load draws

A load draws from the random characters of the process in order and does not change them: only how many are used
(`Host.DrawsOn`). Each stage does no more (`DrawsOn.makeFresh`, `DrawsOn.of_extract`), and so does the whole
(`drawsOn_load`).
-/

namespace NativeLoader

/-- A process that goes on drawing from the same random characters, and has the same directory for temporary files. -/
structure Host.DrawsOn (h after : Host) : Prop where
  temporary : after.temporary = h.temporary
  draws : ∃ used, after.draws = { h.draws with used }

namespace Host.DrawsOn

theorem refl (h : Host) : h.DrawsOn h := ⟨rfl, h.draws.used, rfl⟩

theorem trans {h between after : Host} (h₁ : h.DrawsOn between) (h₂ : between.DrawsOn after) : h.DrawsOn after := by
  obtain ⟨used, hbetween⟩ := h₁.draws
  obtain ⟨used', hafter⟩ := h₂.draws
  exact ⟨h₂.temporary.trans h₁.temporary, used', by rw [hafter, hbetween]⟩

theorem makeFresh {α : Type} {make : String → FileSystem → Except FileFault (α × FileSystem)}
    {base stem ending : String} : ∀ (tries : Nat) (h : Host), h.DrawsOn (h.makeFresh make base stem ending tries).2
  | 0, h => .refl h
  | tries + 1, h => by
    have hone : ∀ files, h.DrawsOn { h with files, draws := (h.draws.take Draws.suffixLength).2 } :=
      fun files => ⟨rfl, h.draws.used + Draws.suffixLength, rfl⟩
    unfold Host.makeFresh
    simp only
    split
    · exact hone _
    · split
      · exact (hone h.files).trans (makeFresh tries { h with draws := (h.draws.take Draws.suffixLength).2 })
      · exact hone h.files

theorem extractionDirectory (id : DirectoryId) (h : Host) : h.DrawsOn (h.extractionDirectory id).2 := by
  have htemporary : h.DrawsOn (h.makeTemporaryDirectory directoryStem).2 := by
    unfold makeTemporaryDirectory
    split
    · exact .refl h
    · exact makeFresh temporaryTries h
  unfold Host.extractionDirectory
  split
  · exact .refl h
  · have hsettled : h.DrawsOn (h.settle (h.directories id).requested).2 := by
      unfold settle
      split
      · exact ⟨rfl, h.draws.used, rfl⟩
      · split
        · next hm => rwa [hm] at htemporary
        · next hm => rwa [hm] at htemporary
    exact ⟨hsettled.temporary, hsettled.draws⟩

theorem discard (delete : Bool) (path : String) (h : Host) : h.DrawsOn (h.discard delete path).2 := by
  obtain ⟨files, pending, hframe⟩ := discard_frame delete path h
  rw [hframe]
  exact ⟨rfl, h.draws.used, rfl⟩

theorem extract (c : Candidate) (directory : String) (h : Host) : h.DrawsOn (h.extract c directory).2 := by
  have hmade : h.DrawsOn
      (h.makeTemporaryFile directory (splitExtension c.fileName).1 (splitExtension c.fileName).2).2 := by
    unfold makeTemporaryFile
    split
    · exact .refl h
    · exact makeFresh temporaryTries h
  unfold Host.extract
  simp only
  split
  · next hm => rwa [hm] at hmade
  · next path loc ready hm =>
    rw [hm] at hmade
    have hcopied : ∀ files, h.DrawsOn { ready with files } := fun files => ⟨hmade.temporary, hmade.draws⟩
    split
    · exact hcopied _
    · exact (hcopied _).trans (discard true path _)

theorem of_extractionDirectory {id : DirectoryId} {h after : Host} {result : Except Failure String}
    (hd : h.extractionDirectory id = (result, after)) : h.DrawsOn after := by
  have hsettled := extractionDirectory id h
  rwa [hd] at hsettled

theorem renewInstallName (tools : DeveloperTools) (name path : String) (h : Host) :
    h.DrawsOn (h.renewInstallName tools name path).2 := by
  have hone : ∀ files, h.DrawsOn { h with files, draws := (h.draws.take name.utf8ByteSize).2 } :=
    fun files => ⟨rfl, h.draws.used + name.utf8ByteSize, rfl⟩
  unfold Host.renewInstallName
  split
  · exact .refl h
  · simp only
    split
    · exact hone h.files
    · split <;> exact hone _

theorem of_extract {l : Loader} {name mangledPrefix : String} {c : Candidate} {directory : String} {h after : Host}
    {result : Except Failure String} (hx : l.extract name mangledPrefix c directory h = (result, after)) :
    h.DrawsOn after := by
  have hextracted := extract c directory h
  cases result with
  | error failure =>
    rw [Loader.extract_eq_error_iff.mp hx] at hextracted
    exact hextracted
  | ok path =>
    obtain ⟨extracted, hcopy, rfl⟩ := Loader.extract_eq_ok_iff.mp hx
    rw [hcopy] at hextracted
    refine hextracted.trans ?_
    unfold Loader.renewInstallName
    split
    · exact renewInstallName l.tools name path extracted
    · exact .refl extracted

theorem of_bind {l : Loader} {context : ContextId} {target : Target} {subject mangledPrefix : String} {h after : Host}
    {result : Except Failure (Image × Binding)} (hb : l.bind context target subject mangledPrefix h = (result, after)) :
    h.DrawsOn after := by
  obtain ⟨files, calls, hframe⟩ := Loader.bind_frame l context target subject mangledPrefix h
  rw [hb] at hframe
  rw [show after = _ from hframe]
  exact ⟨rfl, h.draws.used, rfl⟩

/-- Warnings, and what is registered, are not drawn. -/
theorem then_same {h between after : Host} (hd : h.DrawsOn between) (ht : after.temporary = between.temporary)
    (hs : after.draws = between.draws) : h.DrawsOn after := by
  obtain ⟨used, hbetween⟩ := hd.draws
  exact ⟨ht.trans hd.temporary, used, hs.trans hbetween⟩

end Host.DrawsOn

namespace Loader

variable {l : Loader} {context : ContextId} {name mangledPrefix : String} {h found : Host} {failure : Failure}

theorem Packs.drawsOn {c : Candidate} {directory : String} {settled : Host}
    (hpack : l.Packs context name mangledPrefix h failure found c directory settled) : h.DrawsOn settled := by
  obtain ⟨warnings, -, hd⟩ := hpack.settles
  have hfound := Host.DrawsOn.of_bind hpack.seeks.failed
  have hwarned : h.DrawsOn (found.warn warnings) := hfound.then_same rfl rfl
  exact hwarned.trans (.of_extractionDirectory hd)

/-- A load draws on. -/
theorem drawsOn_load (l : Loader) (context : ContextId) (name : String) (h : Host) :
    h.DrawsOn (l.load context name h).2 := by
  have hcourse := course_load l context name h
  generalize (l.load context name h).1 = outcome at hcourse
  generalize (l.load context name h).2 = after at hcourse ⊢
  cases hcourse with
  | foreign _ => exact .refl h
  | known _ _ => exact .refl h
  | searched hp hfree hb hr =>
    cases hr
    exact (Host.DrawsOn.of_bind hb).then_same rfl rfl
  | nowhere hseek hc => exact (Host.DrawsOn.of_bind hseek.failed).then_same rfl rfl
  | refused hseek hc => exact (Host.DrawsOn.of_bind hseek.failed).then_same rfl rfl
  | @homeless _ _ _ found _ _ warnings hseek hc hd =>
    have hwarned : h.DrawsOn (found.warn warnings) := (Host.DrawsOn.of_bind hseek.failed).then_same rfl rfl
    exact hwarned.trans (.of_extractionDirectory hd)
  | unpacked hpack hx => exact hpack.drawsOn.trans (.of_extract hx)
  | @rejected _ _ path _ refusal _ _ _ bound _ hpack hx hb =>
    have hbound := hpack.drawsOn.trans ((Host.DrawsOn.of_extract hx).trans (.of_bind hb))
    obtain ⟨files, hdiagnosed, _⟩ := diagnose_eq path refusal bound
    have hused : h.DrawsOn { bound with files } := hbound.then_same rfl rfl
    rw [hdiagnosed]
    exact hused.trans (.discard _ path { bound with files })
  | @copied _ _ path _ _ _ _ bound _ _ _ _ _ hpack hx hb hr =>
    have hbound := hpack.drawsOn.trans ((Host.DrawsOn.of_extract hx).trans (.of_bind hb))
    cases hr
    exact (hbound.trans (.discard l.settings.deleteCopies path bound)).then_same rfl rfl

end Loader
end NativeLoader
