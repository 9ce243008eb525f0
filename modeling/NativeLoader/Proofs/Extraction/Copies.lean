import NativeLoader.Proofs.FileSystem.Growth
import NativeLoader.Proofs.Loading.Outcome

/-!
# What is extracted

Settling on a directory makes nothing but directories (`extractionDirectory_makesDirectories`), which lets the files
grow. A temporary file is made under a name that was drawn for it (`makeTemporaryFile_eq_ok`). A copy is a new entry of
the loader's directory that holds all bytes of the resource (`Candidate.CopiedTo`), also of the resource as it was
before the files had grown (`Candidate.CopiedTo.of_growsTo`).
-/

namespace NativeLoader

/-- A path leads to an entry of a directory: to a proper name right below it. -/
def Path.IsEntry (directory path : String) : Prop :=
  ∃ name, '/' ∉ name.toList ∧ name ≠ "" ∧ name ≠ "." ∧ name ≠ ".." ∧ path = Path.join directory name

/-- The last part of a path holds no slash. -/
theorem Path.not_mem_fileName (path : String) : '/' ∉ (Path.fileName path).toList := by
  rw [fileName, List.getLastD_eq_getLast?, Text.split, List.getLast?_map]
  cases hp : (Text.pieces '/' path.toList).getLast? with
  | none => simp
  | some p =>
    simp only [Option.map_some, Option.getD_some, String.toList_ofList]
    exact Text.not_mem_of_mem_pieces (List.mem_of_getLast? hp)

/-- Neither do the parts of which the name of a copy is made. -/
theorem Candidate.not_mem_splitExtension (c : Candidate) :
    '/' ∉ ((splitExtension c.fileName).1 ++ (splitExtension c.fileName).2).toList := by
  rw [append_splitExtension]
  exact Path.not_mem_fileName c.path

namespace Host

/-! ## Names that are drawn -/

/-- What is made under a new name is made in the files there were, with a name that was drawn. -/
theorem makeFresh_eq_ok {α : Type} {make : String → FileSystem → Except FileFault (α × FileSystem)}
    {base stem ending path : String} {made : α} {after : Host} : ∀ {tries : Nat} {h : Host},
    h.makeFresh make base stem ending tries = (.ok (path, made), after) →
    ∃ drawn : String, drawn.toList.length = Draws.suffixLength ∧ (∀ c ∈ drawn.toList, c.isAlphanum = true) ∧
      path = Path.join base (stem ++ drawn ++ ending) ∧ make path h.files = .ok (made, after.files)
  | 0, h, hm => by cases hm
  | tries + 1, h, hm => by
    unfold makeFresh at hm
    simp only at hm
    split at hm
    · next hok =>
      cases hm
      exact ⟨(h.draws.take Draws.suffixLength).1, Draws.length_take _ _, fun _ => Draws.isAlphanum_of_mem_take, rfl,
        hok⟩
    · split at hm
      · exact makeFresh_eq_ok (h := { h with draws := (h.draws.take Draws.suffixLength).2 }) hm
      · cases hm

/-- The files and what is drawn decide what is made, and nothing else changes. -/
theorem makeFresh_congr {α : Type} {make : String → FileSystem → Except FileFault (α × FileSystem)}
    {base stem ending : String} : ∀ {tries : Nat} {h h' : Host}, h'.files = h.files → h'.draws = h.draws →
    h'.makeFresh make base stem ending tries = ((h.makeFresh make base stem ending tries).1,
      { h' with
        files := (h.makeFresh make base stem ending tries).2.files
        draws := (h.makeFresh make base stem ending tries).2.draws })
  | 0, h, h', hf, hd => by
    show (_, h') = (_, { h' with files := h.files, draws := h.draws })
    rw [← hf, ← hd]
    rfl
  | tries + 1, h, h', hf, hd => by
    unfold makeFresh
    simp only [hf, hd]
    cases make (Path.join base (stem ++ (h.draws.take Draws.suffixLength).1 ++ ending)) h.files with
    | ok made => rfl
    | error fault =>
      by_cases hk : fault.kind = SystemFault.present.kind
      · simp only [if_pos hk]
        exact makeFresh_congr rfl rfl
      · simp only [if_neg hk, ← hf]

/-- Where nothing could be made the files are what they were. -/
theorem files_of_makeFresh_error {α : Type} {make : String → FileSystem → Except FileFault (α × FileSystem)}
    {base stem ending : String} {fault : FileFault} {after : Host} : ∀ {tries : Nat} {h : Host},
    h.makeFresh make base stem ending tries = (.error fault, after) → after.files = h.files
  | 0, h, hm => by
    cases hm
    rfl
  | tries + 1, h, hm => by
    unfold makeFresh at hm
    simp only at hm
    split at hm
    · cases hm
    · split at hm
      · exact files_of_makeFresh_error (h := { h with draws := (h.draws.take Draws.suffixLength).2 }) hm
      · cases hm
        rfl

/-- A temporary file is made in its directory, under a name that was drawn. -/
theorem makeTemporaryFile_eq_ok {directory stem ending path : String} {loc : Location} {h after : Host}
    (hm : h.makeTemporaryFile directory stem ending = (.ok (path, loc), after)) :
    ∃ base drawn : String, h.temporaryBase directory = .ok base ∧ drawn.toList.length = Draws.suffixLength ∧
      (∀ c ∈ drawn.toList, c.isAlphanum = true) ∧ path = Path.join base (stem ++ drawn ++ ending) ∧
      h.files.createFile copyMode path = .ok (loc, after.files) := by
  unfold makeTemporaryFile at hm
  split at hm
  · cases hm
  · next base hb =>
    obtain ⟨drawn, hlen, halnum, hpath, hmade⟩ := makeFresh_eq_ok hm
    exact ⟨base, drawn, hb, hlen, halnum, hpath, hmade⟩

/-- A name that was drawn between a stem and an ending without slashes is that of an entry. -/
theorem isEntry_of_drawn {base stem drawn ending : String} (hlen : drawn.toList.length = Draws.suffixLength)
    (halnum : ∀ c ∈ drawn.toList, c.isAlphanum = true) (hs : '/' ∉ (stem ++ ending).toList) :
    Path.IsEntry base (Path.join base (stem ++ drawn ++ ending)) := by
  have hlong : 2 < (stem ++ drawn ++ ending).toList.length := by
    simp only [String.toList_append, List.length_append, hlen, Draws.suffixLength]
    omega
  have hne : ∀ short : String, short.toList.length ≤ 2 → stem ++ drawn ++ ending ≠ short := by
    intro short hshort he
    rw [he] at hlong
    omega
  refine ⟨stem ++ drawn ++ ending, ?_, hne "" (by decide), hne "." (by decide), hne ".." (by decide), rfl⟩
  intro hmem
  simp only [String.toList_append, List.mem_append, not_or] at hmem hs
  rcases hmem with (hstem | hdrawn) | hending
  · exact hs.1 hstem
  · exact absurd (halnum '/' hdrawn) (by decide)
  · exact hs.2 hending

/-! ## Directories -/

/-- A new temporary directory is the only thing that is made with it. -/
theorem makeTemporaryDirectory_makesDirectories (stem : String) (h : Host) :
    h.files.MakesDirectories (h.makeTemporaryDirectory stem).2.files := by
  unfold makeTemporaryDirectory
  split
  · exact .refl h.files
  · next base _ =>
    simp only
    cases hm : h.makeFresh (fun path fs => (fs.makeDirectory FileSystem.directoryMode path).map fun files => ((), files))
        base stem "" temporaryTries with
    | mk made after =>
      cases made with
      | error fault =>
        rw [files_of_makeFresh_error hm]
        exact .refl h.files
      | ok found =>
        obtain ⟨_, _, _, _, hmade⟩ := makeFresh_eq_ok hm
        cases hd : h.files.makeDirectory FileSystem.directoryMode found.1 with
        | error fault =>
          rw [hd] at hmade
          cases hmade
        | ok files =>
          rw [hd] at hmade
          obtain rfl : files = after.files := (Prod.mk.inj (Except.ok.inj hmade)).2
          exact .makeDirectory hd

/-- Settling on a directory makes nothing but directories. -/
theorem settle_makesDirectories (requested : Option String) (h : Host) :
    h.files.MakesDirectories (h.settle requested).2.files := by
  cases requested with
  | some path => exact .prepare path h.files
  | none =>
    have hg := makeTemporaryDirectory_makesDirectories directoryStem h
    unfold settle
    simp only
    split
    · next hm => rw [hm] at hg; exact hg
    · next hm => rw [hm] at hg; exact hg

/-- Asking for a directory makes nothing but directories. -/
theorem extractionDirectory_makesDirectories (id : DirectoryId) (h : Host) :
    h.files.MakesDirectories (h.extractionDirectory id).2.files := by
  unfold extractionDirectory
  split
  · exact .refl h.files
  · exact settle_makesDirectories (h.directories id).requested h

/-- Asking for a directory lets the files grow. -/
theorem extractionDirectory_growsTo (id : DirectoryId) (h : Host) :
    h.files.GrowsTo (h.extractionDirectory id).2.files :=
  (extractionDirectory_makesDirectories id h).toGrowsTo

/-- A directory that was asked for with success is settled. -/
theorem outcome_of_extractionDirectory {id : DirectoryId} {directory : String} {h settled : Host}
    (hd : h.extractionDirectory id = (.ok directory, settled)) :
    (settled.directories id).outcome = some (.ok directory) := by
  obtain ⟨outcome, ho, hr⟩ := outcome_extractionDirectory id h
  rw [hd] at ho hr
  cases outcome with
  | ok path =>
    cases hr
    exact ho
  | error message => cases hr

/-- Where temporary files are made depends on the current directory alone. -/
theorem temporaryBase_congr {directory : String} {h after : Host} (hc : after.files.current = h.files.current) :
    after.temporaryBase directory = h.temporaryBase directory := by
  simp only [temporaryBase, FileSystem.currentPath?, hc]

end Host

/-! ## Copies -/

/-- What a root holds it still holds when the files have grown. -/
theorem Root.contains_of_growsTo {root : Root} {path : String} {fs grown : FileSystem} (hg : fs.GrowsTo grown)
    (hc : root.contains fs path = true) : root.contains grown path = true := by
  cases root with
  | directory base =>
    simp only [contains, FileSystem.isFile] at hc ⊢
    split at hc
    · next hs =>
      rw [hg.status hs]
      exact hc
    · cases hc
  | embedded label entries => exact hc
  | provider p => exact hc

/-- What a root holds reads alike when the files have grown. -/
theorem Root.reader_of_growsTo {root : Root} {path : String} {fs grown : FileSystem} (hg : fs.GrowsTo grown)
    (hc : root.contains fs path = true) : root.reader grown path = root.reader fs path := by
  cases root with
  | directory base => exact hg.reader_of_isFile hc
  | embedded label entries => rfl
  | provider p => rfl

/-- All bytes of what a root holds are the same when the files have grown. -/
theorem Candidate.contents_of_growsTo {c : Candidate} {fs grown : FileSystem} (hg : fs.GrowsTo grown)
    (hc : c.root.contains fs c.path = true) : c.contents grown = c.contents fs := by
  simp only [contents, reader, Root.reader_of_growsTo hg hc]

/-- A copy of a resource in a directory: the files have grown by a new entry of it that holds some bytes, and these are
all that the resource gave. -/
structure Candidate.CopiedTo (c : Candidate) (directory path : String) (bytes : List UInt8) (h after : Host) :
    Prop where
  isEntry : ∃ base, h.temporaryBase directory = .ok base ∧ Path.IsEntry base path
  growsTo : h.files.GrowsTo after.files
  isNew : ∃ loc, h.files.node? loc = none ∧ after.files.locate path = .ok loc ∧
    after.files.node? loc = some (.file copyMode bytes)
  contents : c.root.contains h.files c.path = true → c.contents h.files = .ok bytes

/-- A copy made after the files had grown is one of what there was before. -/
theorem Candidate.CopiedTo.of_growsTo {c : Candidate} {directory path : String} {bytes : List UInt8}
    {before h after : Host} (hg : before.files.GrowsTo h.files) (hcopy : c.CopiedTo directory path bytes h after) :
    c.CopiedTo directory path bytes before after := by
  refine ⟨?_, hg.trans hcopy.growsTo, ?_, ?_⟩
  · rw [← Host.temporaryBase_congr hg.current]
    exact hcopy.isEntry
  · obtain ⟨loc, hfree, hrest⟩ := hcopy.isNew
    refine ⟨loc, ?_, hrest⟩
    cases hn : before.files.node? loc with
    | none => rfl
    | some node =>
      rw [hg.node? hn] at hfree
      cases hfree
  · intro hc
    rw [← Candidate.contents_of_growsTo hg hc]
    exact hcopy.contents (Root.contains_of_growsTo hg hc)

end NativeLoader
