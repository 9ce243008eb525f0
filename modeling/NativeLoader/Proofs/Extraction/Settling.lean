import NativeLoader.Proofs.Extraction.Copies

/-!
# Directories that are settled on the way

`Host.Settles` relates two processes between which nothing was put off, and nothing became of the files and directories
but that one directory for copies was settled, if it was not. Then nothing but directories was made
(`Settles.makesDirectories`), the other directories are what they were (`Settles.directories_of_ne`), and a directory
that was settled already leaves everything as it was (`Settles.eq_of_outcome`).
-/

namespace NativeLoader
namespace Host

variable {id : DirectoryId} {h between after : Host}

/-! ## What settling does not look at -/

theorem makeFresh_with {α : Type} {make : String → FileSystem → Except FileFault (α × FileSystem)}
    {base stem ending : String} (calls : List Call) (warnings : List String) (tries : Nat) (h : Host) :
    ({ h with calls, warnings } : Host).makeFresh make base stem ending tries =
      ((h.makeFresh make base stem ending tries).1,
        { (h.makeFresh make base stem ending tries).2 with calls, warnings }) := by
  have hframe : ∃ files draws, (h.makeFresh make base stem ending tries).2 = { h with files, draws } :=
    makeFresh_frame tries h
  obtain ⟨files, draws, hframe⟩ := hframe
  have hsame : ({ h with calls, warnings } : Host).makeFresh make base stem ending tries = _ :=
    makeFresh_congr (h := h) rfl rfl
  rw [hsame, hframe]

theorem makeTemporaryDirectory_with (stem : String) (calls : List Call) (warnings : List String) (h : Host) :
    ({ h with calls, warnings } : Host).makeTemporaryDirectory stem =
      ((h.makeTemporaryDirectory stem).1, { (h.makeTemporaryDirectory stem).2 with calls, warnings }) := by
  have hbase : ({ h with calls, warnings } : Host).temporaryBase h.temporary = h.temporaryBase h.temporary := rfl
  unfold makeTemporaryDirectory
  simp only [hbase]
  cases h.temporaryBase h.temporary with
  | error fault => rfl
  | ok base => simp only [makeFresh_with]

/-- Asking for a directory does not look at the requests and warnings before. -/
theorem extractionDirectory_with (id : DirectoryId) (calls : List Call) (warnings : List String) (h : Host) :
    ({ h with calls, warnings } : Host).extractionDirectory id =
      ((h.extractionDirectory id).1, { (h.extractionDirectory id).2 with calls, warnings }) := by
  unfold extractionDirectory
  simp only
  cases (h.directories id).outcome with
  | some outcome => rfl
  | none =>
    cases hr : (h.directories id).requested with
    | some path => rfl
    | none =>
      simp only [settle, makeTemporaryDirectory_with]
      cases hm : h.makeTemporaryDirectory directoryStem with
      | mk made after => cases made <;> rfl

theorem files_extractionDirectory_warn (id : DirectoryId) (texts : List String) (h : Host) :
    ((h.warn texts).extractionDirectory id).2.files = (h.extractionDirectory id).2.files := by
  have hwarned := extractionDirectory_with id h.calls (h.warnings ++ texts) h
  rw [show h.warn texts = { h with calls := h.calls, warnings := h.warnings ++ texts } from rfl, hwarned]

/-! ## What is settled and what is not -/

/-- Between two processes nothing was put off, and of the files and directories nothing changed but that a directory
for copies was settled, if it was not. -/
structure Settles (id : DirectoryId) (h after : Host) : Prop where
  pending : after.pending = h.pending
  place : after.files = h.files ∧ after.directories = h.directories ∨
    (h.directories id).outcome = none ∧ after.files = (h.extractionDirectory id).2.files ∧
      after.directories = (h.extractionDirectory id).2.directories

namespace Settles

theorem of_same (hp : after.pending = h.pending) (hf : after.files = h.files)
    (hd : after.directories = h.directories) : h.Settles id after :=
  ⟨hp, Or.inl ⟨hf, hd⟩⟩

/-- Asking for a directory settles at most that directory, whatever the requests and warnings are. -/
theorem of_extractionDirectory (id : DirectoryId) (calls : List Call) (warnings : List String) (h : Host) :
    h.Settles id (({ h with calls, warnings } : Host).extractionDirectory id).2 := by
  rw [extractionDirectory_with]
  obtain ⟨files, draws, d, hframe⟩ := extractionDirectory_frame id h
  refine ⟨?_, ?_⟩
  · show (h.extractionDirectory id).2.pending = h.pending
    rw [hframe]
    rfl
  · cases ho : (h.directories id).outcome with
    | none => exact Or.inr ⟨rfl, rfl, rfl⟩
    | some outcome =>
      rw [extractionDirectory_of_outcome ho]
      exact Or.inl ⟨rfl, rfl⟩

/-- The requests and warnings before do not matter. -/
theorem of_with (calls : List Call) (warnings : List String)
    (hs : ({ h with calls, warnings } : Host).Settles id after) : h.Settles id after := by
  refine ⟨hs.pending, ?_⟩
  have hplace := hs.place
  rw [extractionDirectory_with] at hplace
  exact hplace

/-- What changes neither files nor directories nor what is put off can follow. -/
theorem then_same (hs : h.Settles id between) (hp : after.pending = between.pending)
    (hf : after.files = between.files) (hd : after.directories = between.directories) : h.Settles id after := by
  refine ⟨hp.trans hs.pending, ?_⟩
  rw [hf, hd]
  exact hs.place

theorem makesDirectories (hs : h.Settles id after) : h.files.MakesDirectories after.files := by
  rcases hs.place with ⟨hf, _⟩ | ⟨_, hf, _⟩
  · rw [hf]
    exact .refl h.files
  · rw [hf]
    exact extractionDirectory_makesDirectories id h

theorem directories_of_ne (hs : h.Settles id after) {other : DirectoryId} (hne : other ≠ id) :
    after.directories other = h.directories other := by
  rcases hs.place with ⟨_, hd⟩ | ⟨_, _, hd⟩
  · rw [hd]
  · obtain ⟨files, draws, d, hframe⟩ := extractionDirectory_frame id h
    rw [hd, hframe, directories_setDirectory_of_ne hne]

/-- Where the directory was settled before, nothing changes. -/
theorem eq_of_outcome (hs : h.Settles id after) {outcome : Except String String}
    (ho : (h.directories id).outcome = some outcome) :
    after.files = h.files ∧ after.directories = h.directories := by
  rcases hs.place with hsame | ⟨hnone, _⟩
  · exact hsame
  · rw [ho] at hnone
    cases hnone

end Settles
end Host
end NativeLoader
