import NativeLoader.Proofs.Extraction.Disposal
import NativeLoader.Proofs.FileSystem.DrawnNames
import NativeLoader.Proofs.FileSystem.Preparing

/-!
# Places for copies

A directory that is made for copies is one (`isDirectory_of_makeTemporaryDirectory`). One that was asked for is taken as
it is if something is there, so it is a directory exactly if that is (`isDirectory_of_extractionDirectory_iff`). A copy is
made in nothing but a directory (`isDirectory_of_extract`), and so there is no copy where there is none
(`extract_of_not_isDirectory`).
-/

namespace NativeLoader

namespace FileSystem

variable {fs made : FileSystem} {base name : String}

/-- A new file below a path is made in the directory that the path names, under the name that was given. -/
theorem locate_of_createFile_join {mode : Nat} {loc : Location} (hb : base ≠ "") (hname : '/' ∉ name.toList)
    (hstep : Path.isStep name = true) (hc : fs.createFile mode (Path.join base name) = .ok (loc, made)) :
    ∃ above stood, loc = name :: above ∧ fs.locate base = .ok above ∧ fs.node? above = some (.directory stood) := by
  obtain ⟨hempty, hdot⟩ := Path.isStep_iff.mp hstep
  have hleads := (Path.Leads.refl hb).join hname hdot
  obtain ⟨front, hsplit, hfront⟩ := Path.split_join hb hname
  obtain ⟨last, above, rfl, hs⟩ := slot_of_createFile hc
  unfold slot at hs
  split at hs
  · cases hs
  · next hf =>
    obtain ⟨before, stood, hparts, -, hw, hd, -⟩ := slotOfParts_eq_ok hs
    rw [hsplit, List.reverse_append, List.reverse_singleton, List.singleton_append,
      List.dropWhile_cons_of_neg (by simpa using hempty)] at hparts
    obtain ⟨rfl, rfl⟩ := List.cons.inj hparts
    -- the steps before the name are those of the path
    have hstart : fs.start (Path.join base name) = fs.start base := by rw [start, start, hleads.isAbsolute]
    have hwalk := walk_filter hw
    rw [List.reverse_reverse, hfront, hstart] at hwalk
    obtain ⟨hnul, -, hlimit⟩ := pathFault?_eq_none_iff.mp hf
    have hclean : '\x00' ∉ base.toList := by
      intro hin
      obtain ⟨rest, hrest⟩ := hleads.starts
      rw [hrest, String.toList_append] at hnul
      exact hnul (List.mem_append_left _ hin)
    have hfault : pathFault? base = none := pathFault?_eq_none_iff.mpr ⟨hclean, hb, Nat.le_trans hleads.size hlimit⟩
    exact ⟨above, stood, rfl, locate_of_walk hfault hwalk fun _ => ⟨stood, hd⟩, hd⟩

end FileSystem

namespace Host

variable {h after : Host} {id : DirectoryId} {directory : String}

/-- A temporary directory is a directory. -/
theorem isDirectory_of_makeTemporaryDirectory {stem path : String}
    (hm : h.makeTemporaryDirectory stem = (.ok path, after)) : after.files.isDirectory path = true := by
  unfold makeTemporaryDirectory at hm
  split at hm
  · cases hm
  · next base hb =>
    simp only at hm
    cases hf : h.makeFresh (fun path fs => (fs.makeDirectory FileSystem.directoryMode path).map fun files => ((), files))
        base stem "" temporaryTries with
    | mk found last =>
      rw [hf] at hm
      cases found with
      | error fault => cases hm
      | ok found =>
        cases hm
        obtain ⟨_, _, _, _, hmade⟩ := makeFresh_eq_ok hf
        cases hd : h.files.makeDirectory FileSystem.directoryMode found.1 with
        | error fault =>
          rw [hd] at hmade
          cases hmade
        | ok files =>
          rw [hd] at hmade
          obtain rfl : files = last.files := (Prod.mk.inj (Except.ok.inj hmade)).2
          exact FileSystem.isDirectory_of_makeDirectory hd

/-- The directory for copies, when it is settled, is a new temporary one, or the one that was asked for. -/
theorem extractionDirectory_eq_ok (hfirst : (h.directories id).outcome = none)
    (hd : h.extractionDirectory id = (.ok directory, after)) :
    ((h.directories id).requested = none ∧ after.files.isDirectory directory = true) ∨
      ∃ path, (h.directories id).requested = some path ∧ h.files.prepare path = (.ok directory, after.files) := by
  rw [extractionDirectory, hfirst] at hd
  obtain ⟨hresult, rfl⟩ := Prod.mk.inj hd
  have hsettled : (h.settle (h.directories id).requested).1 = .ok directory := by
    unfold directoryResult at hresult
    split at hresult
    · next hs =>
      cases hresult
      exact hs
    · cases hresult
  cases hr : (h.directories id).requested with
  | none =>
    rw [hr] at hsettled
    refine Or.inl ⟨rfl, ?_⟩
    unfold settle at hsettled ⊢
    cases hm : h.makeTemporaryDirectory directoryStem with
    | mk made last =>
      rw [hm] at hsettled
      cases made with
      | error fault => cases hsettled
      | ok path =>
        cases hsettled
        have hthere := isDirectory_of_makeTemporaryDirectory hm
        exact hthere
  | some path =>
    rw [hr] at hsettled
    exact Or.inr ⟨path, rfl, Prod.ext hsettled rfl⟩

/-- **The directory for copies, when it is settled**, is one exactly if none was asked for, or what was asked for is not
empty, names nothing else and has an absolute form that is not too long. -/
theorem isDirectory_of_extractionDirectory_iff (hfirst : (h.directories id).outcome = none)
    (hk : h.files.KnowsCurrent) (hd : h.extractionDirectory id = (.ok directory, after)) :
    after.files.isDirectory directory = true ↔ ∀ path, (h.directories id).requested = some path →
      path ≠ "" ∧ (∀ node, h.files.status path = .ok node → node.isDirectory = true) ∧
        directory.utf8ByteSize ≤ FileSystem.pathLimit := by
  rcases extractionDirectory_eq_ok hfirst hd with ⟨hr, hdirectory⟩ | ⟨path, hr, hprepared⟩
  · rw [hr]
    exact iff_of_true hdirectory (by simp)
  · rw [hr, FileSystem.isDirectory_of_prepare_iff hk hprepared]
    constructor
    · intro hpath path' he
      cases he
      exact hpath
    · intro hall
      exact hall path rfl

/-- A temporary file is made in some directory, by its path. -/
theorem temporaryBase_ne {base : String} (hb : h.temporaryBase directory = .ok base) : base ≠ "" := by
  unfold temporaryBase at hb
  split at hb
  · next ha =>
    cases hb
    rintro rfl
    cases ha
  · next hr =>
    split at hb
    · next here hh =>
      cases hb
      have hne := (FileSystem.isAbsolute_of_currentPath? hh).2
      rw [Path.join, if_neg hr]
      split
      · exact fun he => hne (String.append_eq_empty_iff.mp he).1
      · exact fun he => hne (String.append_eq_empty_iff.mp (String.append_eq_empty_iff.mp he).1).1
    · cases hb

/-- The directory in which a temporary file is made is the one it is asked for in. -/
theorem locate_of_temporaryBase {base : String} {above : Location} {mode : Nat} (hk : h.files.KnowsCurrent)
    (hne : directory ≠ "") (hb : h.temporaryBase directory = .ok base) (hl : h.files.locate base = .ok above)
    (hd : h.files.node? above = some (.directory mode)) : h.files.locate directory = .ok above := by
  unfold temporaryBase at hb
  split at hb
  · cases hb
    exact hl
  · next hr =>
    rw [Bool.not_eq_true] at hr
    split at hb
    · next here hh =>
      cases hb
      exact FileSystem.locate_of_locate_join hk hh hr hne hl hd
    · cases hb

/-- The name of a copy holds no slash. -/
theorem not_mem_of_isDrawn {drawn : String} (hd : Draws.IsDrawn drawn) (c : Candidate) :
    '/' ∉ ((splitExtension c.fileName).1 ++ drawn ++ (splitExtension c.fileName).2).toList :=
  hd.not_mem_append c.not_mem_splitExtension

/-- A name with a drawn part is a step. -/
theorem isStep_of_isDrawn {drawn : String} (hd : Draws.IsDrawn drawn) (stem ending : String) :
    Path.isStep (stem ++ drawn ++ ending) = true := by
  have hlong : ∀ short : String, short.toList.length ≤ 2 → stem ++ drawn ++ ending ≠ short := by
    intro short hshort he
    refine hd.append_ne "" stem ending hshort ?_
    rw [String.empty_append]
    exact he
  exact Path.isStep_iff.mpr ⟨hlong "" (by decide), hlong "." (by decide)⟩

/-- A temporary file is a new one in a directory, under a name with a drawn part. -/
theorem place_of_makeTemporaryFile {stem ending path : String} {loc : Location} (hs : '/' ∉ (stem ++ ending).toList)
    (hm : (h.makeTemporaryFile directory stem ending).1 = .ok (path, loc)) :
    ∃ base drawn above mode, h.temporaryBase directory = .ok base ∧ Draws.IsDrawn drawn ∧
      path = Path.join base (stem ++ drawn ++ ending) ∧ loc = (stem ++ drawn ++ ending) :: above ∧
      h.files.locate base = .ok above ∧ h.files.node? above = some (.directory mode) := by
  obtain ⟨base, drawn, hb, hlength, halnum, hpath, hc⟩ := makeTemporaryFile_eq_ok (Prod.ext hm rfl)
  have hdrawn : Draws.IsDrawn drawn := ⟨hlength, halnum⟩
  rw [hpath] at hc
  obtain ⟨above, mode, hloc, hlocate, hd⟩ := FileSystem.locate_of_createFile_join (temporaryBase_ne hb)
    (hdrawn.not_mem_append hs) (isStep_of_isDrawn hdrawn stem ending) hc
  exact ⟨base, drawn, above, mode, hb, hdrawn, hpath, hloc, hlocate, hd⟩

/-- What is extracted goes to a temporary file. -/
theorem makeTemporaryFile_of_extract {c : Candidate} {path : String} (hx : h.extract c directory = (.ok path, after)) :
    ∃ loc made, h.makeTemporaryFile directory (splitExtension c.fileName).1 (splitExtension c.fileName).2 =
      (.ok (path, loc), made) := by
  have hto := extractsTo_extract h c directory
  rw [hx] at hto
  cases hto with
  | copied draws hm _ => exact ⟨_, _, Prod.ext hm rfl⟩

/-- **A copy is made in a directory**, and nowhere else. -/
theorem isDirectory_of_extract {c : Candidate} {path : String} (hx : h.extract c directory = (.ok path, after)) :
    ∃ base, h.temporaryBase directory = .ok base ∧ h.files.isDirectory base = true := by
  obtain ⟨loc, made, hm⟩ := makeTemporaryFile_of_extract hx
  obtain ⟨base, _, above, mode, hb, -, -, -, hlocate, hd⟩ :=
    place_of_makeTemporaryFile c.not_mem_splitExtension (congrArg Prod.fst hm)
  exact ⟨base, hb, FileSystem.isDirectory_iff.mpr ⟨above, mode, hlocate, hd⟩⟩

/-- Nothing is extracted to where there is no directory. -/
theorem extract_of_not_isDirectory (hfirst : (h.directories id).outcome = none)
    (hd : h.extractionDirectory id = (.ok directory, after)) (hne : directory ≠ "")
    (hnot : after.files.isDirectory directory = false) (c : Candidate) :
    ∃ fault extracted, after.extract c directory = (.error fault, extracted) := by
  cases hx : after.extract c directory with
  | mk copied extracted =>
    cases copied with
    | error fault => exact ⟨fault, extracted, rfl⟩
    | ok copy =>
      obtain ⟨base, hb, hbase⟩ := isDirectory_of_extract hx
      rcases extractionDirectory_eq_ok hfirst hd with ⟨-, hdirectory⟩ | ⟨path, -, hprepared⟩
      · rw [hnot] at hdirectory
        cases hdirectory
      · -- the directory is absolute, or the current directory was removed and nothing can be made below it
        have hgrows := (FileSystem.MakesDirectories.prepare path h.files).toGrowsTo
        rw [hprepared] at hgrows
        obtain rfl := FileSystem.prepare_eq_ok hprepared
        have hp : path ≠ "" := by
          rintro rfl
          exact hne FileSystem.absolute_empty
        unfold temporaryBase at hb
        split at hb
        · cases hb
          rw [hnot] at hbase
          cases hbase
        · next hr =>
          split at hb
          · next here hh =>
            rw [FileSystem.currentPath?, hgrows.current] at hh
            exact absurd (FileSystem.isAbsolute_absolute hp hh) hr
          · cases hb

end Host
end NativeLoader
