import NativeLoader.Extraction.Deletion
import NativeLoader.Proofs.FileSystem.Absolute

/-!
# Files that are erased

A path can be removed exactly if it ends in the name of a file (`NamesFile`, `removeFile_eq_ok_iff`), as every path does
that names a file, unless a file stands above the current directory (`namesFile_of_locate`). Erasing the file leaves
every other one under the paths it had (`namesFile_erase_iff`). So removing some files, whatever becomes of each, empties
just the locations whose files the paths named at the start, be they named once, several times or under several paths
(`node?_removeEach`), and what stands elsewhere is found where it was (`locate_removeEach`).
-/

namespace NativeLoader

/-- The last part of a path that ends with a slash is empty. -/
theorem Path.fileName_of_endsWithSlash {path : String} (h : endsWithSlash path = true) : fileName path = "" := by
  obtain ⟨w, rfl⟩ := exists_of_endsWithSlash h
  have hsplit := Text.split_append_slash w ""
  rw [String.append_empty] at hsplit
  exact fileName_concat hsplit

namespace FileSystem

variable {fs left : FileSystem} {path : String} {loc gone : Location} {mode : Nat} {bytes : List UInt8}

/-- A path ends in the name of a file, which stands at a location. -/
def NamesFile (fs : FileSystem) (path : String) (loc : Location) : Prop :=
  ∃ name above mode bytes, loc = name :: above ∧ fs.slot path = .ok ⟨above, some name, false⟩ ∧
    fs.node? loc = some (.file mode bytes)

/-- A file is removed exactly if the path ends in its name. -/
theorem removeFile_eq_ok_iff : fs.removeFile path = .ok left ↔ ∃ loc, fs.NamesFile path loc ∧ left = fs.erase loc := by
  constructor
  · intro h
    unfold removeFile at h
    split at h
    · cases h
    · next slot hs =>
      obtain ⟨above, name?, slash⟩ := slot
      cases name? with
      | none => cases h
      | some name =>
        simp only at h
        split at h
        · cases h
        · cases h
        · next mode bytes hn =>
          split at h
          · cases h
          · next hslash =>
            rw [Bool.not_eq_true] at hslash
            subst hslash
            cases h
            exact ⟨name :: above, ⟨name, above, mode, bytes, rfl, hs, hn⟩, rfl⟩
  · rintro ⟨_, ⟨name, above, mode, bytes, rfl, hs, hn⟩, rfl⟩
    simp [removeFile, hs, hn]

namespace NamesFile

theorem ne_nil (h : fs.NamesFile path loc) : loc ≠ [] := by
  obtain ⟨name, above, _, _, rfl, -, -⟩ := h
  exact List.cons_ne_nil name above

theorem node? (h : fs.NamesFile path loc) : ∃ mode bytes, fs.node? loc = some (.file mode bytes) := by
  obtain ⟨_, _, mode, bytes, -, -, hn⟩ := h
  exact ⟨mode, bytes, hn⟩

theorem locate (h : fs.NamesFile path loc) : fs.locate path = .ok loc := by
  obtain ⟨name, above, mode, bytes, rfl, hs, hn⟩ := h
  exact locate_of_slot hs (.refl fs) (by rw [hn]; rfl)

theorem unique {other : Location} (h : fs.NamesFile path loc) (ho : fs.NamesFile path other) : other = loc :=
  Except.ok.inj (ho.locate.symm.trans h.locate)

end NamesFile

/-! ## Paths that name files -/

/-- No file stands above a location. -/
def HasNoFileAbove (fs : FileSystem) (loc : Location) : Prop :=
  ∀ name above, name :: above <:+ loc → ∀ mode bytes, fs.node? above ≠ some (.file mode bytes)

/-- A walk goes through directories, so no file stands above where it arrives if none does above its start. -/
theorem HasNoFileAbove.walk : ∀ {parts : List String} {here : Location}, fs.HasNoFileAbove here →
    fs.walk here parts = .ok loc → fs.HasNoFileAbove loc
  | [], here, hclear, h => by
    obtain ⟨rfl, -⟩ := walk_nil_eq_ok_iff.mp h
    exact hclear
  | part :: parts, here, hclear, h => by
    obtain ⟨⟨mode, hd⟩, next, hg, hrest⟩ := goes_of_walk h
    refine HasNoFileAbove.walk ?_ hrest
    cases hg with
    | stay _ => exact hclear
    | up _ =>
      intro name above hsuffix
      exact hclear name above (hsuffix.trans (List.tail_suffix here))
    | down _ _ _ _ _ _ =>
      intro name above hsuffix mode' bytes hfile
      rcases List.suffix_cons_iff.mp hsuffix with heq | hsuffix
      · cases heq
        rw [hd] at hfile
        cases hfile
      · exact hclear name above hsuffix mode' bytes hfile

/-- The last part of a path that leads to a file is a step, and there is no slash behind it. -/
theorem isStep_fileName_of_locate (hl : fs.locate path = .ok loc) (hn : fs.node? loc = some (.file mode bytes)) :
    Path.isStep (Path.fileName path) = true ∧ Path.endsWithSlash path = false := by
  have hstep : Path.isStep (Path.fileName path) = true := by
    rw [← Bool.not_eq_false]
    intro hdot
    obtain ⟨_, hd⟩ := (walk_of_locate hl).2.2 hdot
    rw [hn] at hd
    cases hd
  refine ⟨hstep, ?_⟩
  rw [← Bool.not_eq_true]
  intro hends
  rw [Path.fileName_of_endsWithSlash hends] at hstep
  cases hstep

/-- The last step of a walk to a file is the file's name, unless a file stands above the directory before it. -/
theorem eq_cons_of_walk_singleton {last : String} {above : Location} (hclear : fs.HasNoFileAbove above)
    (hstep : Path.isStep last = true) (h : fs.walk above [last] = .ok loc)
    (hn : fs.node? loc = some (.file mode bytes)) :
    loc = last :: above ∧ (∃ dir, fs.node? above = some (.directory dir)) ∧ last ≠ ".." ∧
      above.isOrphan = false ∧ last.utf8ByteSize ≤ nameLimit := by
  obtain ⟨hdirectory, next, hg, hend⟩ := goes_of_walk h
  obtain ⟨rfl, -⟩ := walk_nil_eq_ok_iff.mp hend
  cases hg with
  | stay hp =>
    rw [Path.isStep_eq_false_iff.mpr hp] at hstep
    cases hstep
  | up _ =>
    -- two dots lead above a directory, where no file stands
    cases above with
    | nil => cases hn
    | cons name up => exact absurd hn (hclear name up List.suffix_rfl mode bytes)
  | down _ _ hdots horphan hlimit _ => exact ⟨rfl, hdirectory, hdots, horphan, hlimit⟩

/-- A path that leads to a file ends in its name. -/
theorem namesFile_of_locate (hclear : fs.HasNoFileAbove fs.current) (hl : fs.locate path = .ok loc)
    (hn : fs.node? loc = some (.file mode bytes)) : fs.NamesFile path loc := by
  obtain ⟨hstep, hslash⟩ := isStep_fileName_of_locate hl hn
  obtain ⟨before, hsplit⟩ := Path.exists_split_eq path
  unfold FileSystem.locate at hl
  split at hl
  · cases hl
  · next hf =>
    rw [hsplit] at hl
    obtain ⟨above, hw, hlast⟩ := walk_of_append hl
    have hstart : fs.HasNoFileAbove (fs.start path) := by
      rw [start]
      split
      · intro name above hsuffix
        simp at hsuffix
      · exact hclear
    obtain ⟨rfl, ⟨dir, hd⟩, hup, ho, hlimit⟩ := eq_cons_of_walk_singleton (hstart.walk hw) hstep hlast hn
    refine ⟨_, above, mode, bytes, rfl, ?_, hn⟩
    have hproper := Path.isStep_iff.mp hstep
    have hparts : (Text.split '/' path).reverse.dropWhile (· == "") = Path.fileName path :: before.reverse := by
      rw [hsplit, List.reverse_append, List.reverse_singleton, List.singleton_append,
        List.dropWhile_cons_of_neg (by simpa using hproper.1)]
    simp only [slot, hf, hparts, slotOfParts, List.reverse_reverse, hw, hd, hslash]
    rw [if_neg (not_or.mpr ⟨hproper.2, hup⟩), if_neg (by simp [ho]), if_neg (Nat.not_lt.mpr hlimit)]

/-! ## One file less -/

/-- Erasing a file keeps all directories. -/
theorem KeepsDirectories.erase (hn : fs.node? gone = some (.file mode bytes)) :
    fs.KeepsDirectories (fs.erase gone) := by
  refine ⟨?_, rfl⟩
  intro loc dir hd
  rw [node?_erase_of_ne ?_]
  · exact hd
  · rintro rfl
    rw [hn] at hd
    cases hd

/-- The paths of all other files are what they were. -/
theorem namesFile_erase_iff (hn : fs.node? gone = some (.file mode bytes)) (hne : loc ≠ gone) :
    (fs.erase gone).NamesFile path loc ↔ fs.NamesFile path loc := by
  unfold NamesFile
  rw [node?_erase_of_ne hne]
  constructor
  · rintro ⟨name, above, mode', bytes', hloc, hs, hfile⟩
    exact ⟨name, above, mode', bytes', hloc, (GrowsTo.of_erase gone fs).slot hs, hfile⟩
  · rintro ⟨name, above, mode', bytes', hloc, hs, hfile⟩
    exact ⟨name, above, mode', bytes', hloc, (KeepsDirectories.erase hn).slot hs, hfile⟩

/-! ## Some files less -/

/-- What is left when some files were removed was there before. -/
theorem growsTo_removeEach : ∀ (paths : List String) (fs : FileSystem), (fs.removeEach paths).GrowsTo fs
  | [], fs => .refl fs
  | path :: paths, fs => by
    rw [removeEach]
    split
    · next left hr =>
      obtain ⟨loc, -, rfl⟩ := removeFile_eq_ok_iff.mp hr
      exact (growsTo_removeEach paths _).trans (.of_erase loc fs)
    · exact growsTo_removeEach paths fs

/-- No directory is removed. -/
theorem keepsDirectories_removeEach : ∀ (paths : List String) (fs : FileSystem),
    fs.KeepsDirectories (fs.removeEach paths)
  | [], fs => .refl fs
  | path :: paths, fs => by
    rw [removeEach]
    split
    · next left hr =>
      obtain ⟨loc, hnames, rfl⟩ := removeFile_eq_ok_iff.mp hr
      obtain ⟨mode, bytes, hn⟩ := hnames.node?
      exact (KeepsDirectories.erase hn).trans (keepsDirectories_removeEach paths _)
    · exact keepsDirectories_removeEach paths fs

/-- **Removing some files** empties the locations whose files are named, and no other. -/
theorem node?_removeEach : ∀ (paths : List String) (fs : FileSystem) (loc : Location),
    ((∃ path ∈ paths, fs.NamesFile path loc) → (fs.removeEach paths).node? loc = none) ∧
      ((∀ path ∈ paths, ¬fs.NamesFile path loc) → (fs.removeEach paths).node? loc = fs.node? loc)
  | [], fs, loc => ⟨by simp, fun _ => rfl⟩
  | path :: paths, fs, loc => by
    rw [removeEach]
    split
    · next left hr =>
      obtain ⟨gone, hgone, rfl⟩ := removeFile_eq_ok_iff.mp hr
      obtain ⟨mode, bytes, hn⟩ := hgone.node?
      obtain ⟨hnamed, hother⟩ := node?_removeEach paths (fs.erase gone) loc
      by_cases hl : loc = gone
      · -- nothing is named there any more, and nothing comes back
        subst hl
        have hempty : (fs.erase loc).node? loc = none := node?_erase_self hgone.ne_nil fs
        refine ⟨fun _ => ?_, fun hnot => absurd hgone (hnot path List.mem_cons_self)⟩
        rw [hother, hempty]
        rintro other - ⟨_, _, _, _, -, -, hfile⟩
        rw [hempty] at hfile
        cases hfile
      · have hiff : ∀ other, (fs.erase gone).NamesFile other loc ↔ fs.NamesFile other loc :=
          fun other => namesFile_erase_iff hn hl
        simp only [hiff, node?_erase_of_ne hl] at hnamed hother
        refine ⟨?_, fun hnot => hother fun other ho => hnot other (List.mem_cons_of_mem path ho)⟩
        rintro ⟨other, ho, hnames⟩
        rcases List.mem_cons.mp ho with rfl | ho
        · exact absurd (hgone.unique hnames) hl
        · exact hnamed ⟨other, ho, hnames⟩
    · next fault hr =>
      obtain ⟨hnamed, hother⟩ := node?_removeEach paths fs loc
      refine ⟨?_, fun hnot => hother fun other ho => hnot other (List.mem_cons_of_mem path ho)⟩
      rintro ⟨other, ho, hnames⟩
      rcases List.mem_cons.mp ho with rfl | ho
      · rw [removeFile_eq_ok_iff.mpr ⟨loc, hnames, rfl⟩] at hr
        cases hr
      · exact hnamed ⟨other, ho, hnames⟩

/-- What is not removed is found where it was. -/
theorem locate_removeEach {paths : List String} (hl : fs.locate path = .ok loc)
    (hnot : ∀ other ∈ paths, ¬fs.NamesFile other loc) : (fs.removeEach paths).locate path = .ok loc := by
  have hkept := (node?_removeEach paths fs loc).2 hnot
  exact (keepsDirectories_removeEach paths fs).locate (by rw [hkept]; exact node?_locate hl) hl

/-- What is removed is not found under any path. -/
theorem isPresent_removeEach {paths : List String} {other : String} (hm : path ∈ paths) (hnames : fs.NamesFile path loc)
    (ho : fs.locate other = .ok loc) : (fs.removeEach paths).isPresent other = false := by
  rw [← Bool.not_eq_true, isPresent_iff]
  rintro ⟨there, hthere⟩
  have hsame : loc = there := Except.ok.inj (ho.symm.trans ((growsTo_removeEach paths fs).locate hthere))
  have hs := node?_locate hthere
  rw [← hsame, (node?_removeEach paths fs loc).1 ⟨path, hm, hnames⟩] at hs
  cases hs

end FileSystem
end NativeLoader
