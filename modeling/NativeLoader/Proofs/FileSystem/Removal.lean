import NativeLoader.Extraction.Copy
import NativeLoader.Extraction.Permission
import NativeLoader.Proofs.FileSystem.Growth

/-!
# Files that are removed again

- a path whose file was removed names nothing (`isPresent_of_removeFile`), and neither does one that cannot be removed
  because nothing is there (`isPresent_of_removeFile_missing`);
- a file system to which a file was added (`AddsFile`) is the one before once the file is erased, whatever was written
  to the file and whatever its mode (`AddsFile.adjust`, `AddsFile.checkExecutable`), so removing the file gives the one
  before back (`AddsFile.removeFile`).
-/

namespace NativeLoader

namespace FileSystem

variable {fs grown left : FileSystem} {path : String} {loc : Location}

/-! ## Walks along a part of a path -/

/-- A walk that arrives passes through where a first part of it leads. -/
theorem walk_of_append : ∀ {parts more : List String} {here : Location},
    fs.walk here (parts ++ more) = .ok loc → ∃ mid, fs.walk here parts = .ok mid ∧ fs.walk mid more = .ok loc
  | [], more, here, h => ⟨here, walk_nil_eq_ok_iff.mpr ⟨rfl, isSome_of_walk h⟩, h⟩
  | part :: parts, more, here, h => by
    obtain ⟨⟨mode, hd⟩, next, hg, hrest⟩ := goes_of_walk h
    obtain ⟨mid, hw, hmore⟩ := walk_of_append hrest
    exact ⟨mid, (walk_of_goes hd hg parts).trans hw, hmore⟩

/-- The last part of a path that is not empty, with those before it. -/
theorem split_of_dropWhile {last : String} {before : List String}
    (h : (Text.split '/' path).reverse.dropWhile (· == "") = last :: before) :
    last ≠ "" ∧ ∃ rest, Text.split '/' path = before.reverse ++ last :: rest := by
  constructor
  · rintro rfl
    have hhead := List.head?_dropWhile_not (· == "") (Text.split '/' path).reverse
    rw [h] at hhead
    simp at hhead
  · refine ⟨((Text.split '/' path).reverse.takeWhile (· == "")).reverse, ?_⟩
    have hsplit := List.takeWhile_append_dropWhile (p := (· == "")) (l := (Text.split '/' path).reverse)
    rw [h] at hsplit
    rw [← List.reverse_inj]
    simpa using hsplit.symm

/-- The names on the way to where a walk arrives are those of its start or parts of it. -/
theorem mem_of_walk {name : String} : ∀ {parts : List String} {here : Location}, fs.walk here parts = .ok loc →
    name ∈ loc → name ∈ here ∨ name ∈ parts
  | [], here, h, hm => by
    obtain ⟨rfl, -⟩ := walk_nil_eq_ok_iff.mp h
    exact Or.inl hm
  | part :: parts, here, h, hm => by
    obtain ⟨-, next, hg, hrest⟩ := goes_of_walk h
    rcases mem_of_walk hrest hm with hm | hm
    · cases hg with
      | stay _ => exact Or.inl hm
      | up _ => exact Or.inl (List.mem_of_mem_tail hm)
      | down _ _ _ _ _ _ =>
        rcases List.mem_cons.mp hm with rfl | hm
        · exact Or.inr List.mem_cons_self
        · exact Or.inl hm
    · exact Or.inr (List.mem_cons_of_mem part hm)

/-- An absolute path leads along its own parts. -/
theorem mem_split_of_locate {name : String} (ha : Path.isAbsolute path = true) (h : fs.locate path = .ok loc)
    (hm : name ∈ loc) : name ∈ Text.split '/' path := by
  unfold locate start at h
  rw [if_pos ha] at h
  split at h
  · cases h
  · exact (mem_of_walk h hm).resolve_left (List.not_mem_nil)

/-! ## What is there after a removal -/

/-- What a path names is not missing to the one who removes it. -/
theorem kind_of_removeFile_error {fault : FileFault} (hl : fs.locate path = .ok loc)
    (hr : fs.removeFile path = .error fault) : fault.kind ≠ SystemFault.missing.kind := by
  unfold locate at hl
  split at hl
  · cases hl
  · next hp =>
    unfold removeFile slot at hr
    simp only [hp] at hr
    cases hd : (Text.split '/' path).reverse.dropWhile (· == "") with
    | nil =>
      rw [hd] at hr
      cases hr
      decide
    | cons last before =>
      obtain ⟨hlast, rest, hsplit⟩ := split_of_dropWhile hd
      rw [hsplit] at hl
      obtain ⟨above, hw, hrest⟩ := walk_of_append hl
      obtain ⟨⟨mode, hdir⟩, next, hg, -⟩ := goes_of_walk hrest
      simp only [hd, slotOfParts, hw, hdir] at hr
      cases hg with
      | stay hp =>
        rw [if_pos (Or.inl (hp.resolve_left hlast))] at hr
        cases hr
        decide
      | up hp =>
        rw [if_pos (Or.inr hp)] at hr
        cases hr
        decide
      | down _ hdot hdots horphan hlimit hs =>
        rw [if_neg (not_or.mpr ⟨hdot, hdots⟩), if_neg (by simp [horphan]), if_neg (Nat.not_lt.mpr hlimit)] at hr
        obtain ⟨node, hn⟩ := Option.isSome_iff_exists.mp hs
        cases node with
        | directory mode =>
          simp only [hn] at hr
          cases hr
          decide
        | file mode bytes =>
          simp only [hn] at hr
          split at hr
          · cases hr
            decide
          · cases hr

/-- A path names something exactly if it leads somewhere. -/
theorem isPresent_iff : fs.isPresent path = true ↔ ∃ loc, fs.locate path = .ok loc := by
  unfold isPresent status
  cases hl : fs.locate path with
  | error fault => simp
  | ok loc =>
    obtain ⟨node, hn⟩ := Option.isSome_iff_exists.mp (node?_locate hl)
    simp [hn]

/-- A path names a file exactly if it leads to one. -/
theorem isFile_iff : fs.isFile path = true ↔
    ∃ loc mode bytes, fs.locate path = .ok loc ∧ fs.node? loc = some (.file mode bytes) := by
  unfold isFile status
  cases hl : fs.locate path with
  | error fault => simp
  | ok loc =>
    obtain ⟨node, hn⟩ := Option.isSome_iff_exists.mp (node?_locate hl)
    cases node <;> simp [hn, Node.isFile]

/-- A path at which nothing is found to be removed names nothing. -/
theorem isPresent_of_removeFile_missing {fault : FileFault} (hr : fs.removeFile path = .error fault)
    (hk : fault.kind = SystemFault.missing.kind) : fs.isPresent path = false := by
  rw [← Bool.not_eq_true, isPresent_iff]
  rintro ⟨loc, hl⟩
  exact kind_of_removeFile_error hl hr hk

/-- A file that is removed stood where its path led, and nothing else goes with it. -/
theorem locate_of_removeFile (h : fs.removeFile path = .ok left) :
    ∃ loc, loc ≠ [] ∧ fs.locate path = .ok loc ∧ left = fs.erase loc := by
  unfold removeFile at h
  split at h
  · cases h
  · next slot hs =>
    obtain ⟨above, name?, slash⟩ := slot
    cases name? with
    | none => cases h
    | some name =>
      simp only at h
      split at h
      · cases h
      · cases h
      · next mode bytes hn =>
        split at h
        · cases h
        · next hslash =>
          rw [Bool.not_eq_true] at hslash
          subst hslash
          cases h
          exact ⟨name :: above, by simp, locate_of_slot hs (.refl fs) (by rw [hn]; rfl), rfl⟩

/-- A file system is what another one without something has grown to. -/
theorem GrowsTo.of_erase (loc : Location) (fs : FileSystem) : (fs.erase loc).GrowsTo fs := by
  refine ⟨?_, rfl, rfl⟩
  intro other node hn
  by_cases ho : other = loc
  · subst ho
    by_cases hne : other = []
    · subst hne
      exact hn
    · rw [node?_erase_self hne] at hn
      cases hn
  · rw [node?_erase_of_ne ho] at hn
    exact hn

/-- The path of a file that was removed names nothing. -/
theorem isPresent_of_removeFile (h : fs.removeFile path = .ok left) : left.isPresent path = false := by
  obtain ⟨loc, hne, hl, rfl⟩ := locate_of_removeFile h
  rw [← Bool.not_eq_true, isPresent_iff]
  rintro ⟨other, ho⟩
  -- the path would lead to the same place as before, where nothing stands any more
  have hsame : loc = other := by
    have hbefore := (GrowsTo.of_erase loc fs).locate ho
    rw [hl] at hbefore
    exact Except.ok.inj hbefore
  have hs := node?_locate ho
  rw [← hsame, node?_erase_self hne] at hs
  cases hs

/-! ## Files that were added -/

/-- A file system is another one with a file more, at the end of a path where nothing stood. -/
structure AddsFile (fs : FileSystem) (path : String) (loc : Location) (grown : FileSystem) : Prop where
  slot : ∃ name above, loc = name :: above ∧ fs.slot path = .ok ⟨above, some name, false⟩
  free : fs.node? loc = none
  file : ∃ node, grown.node? loc = some node ∧ node.isFile = true
  erase : grown.erase loc = fs

/-- Erasing forgets what was changed. -/
theorem erase_adjust (loc : Location) (f : Node → Node) (fs : FileSystem) :
    (fs.adjust loc f).erase loc = fs.erase loc := by
  have hes : ∀ es : List (Location × Node),
      (es.map fun e => if e.1 = loc then (e.1, f e.2) else e).filter (fun e => e.1 != loc) =
        es.filter fun e => e.1 != loc := by
    intro es
    induction es with
    | nil => rfl
    | cons e es ih => by_cases he : e.1 = loc <;> simp_all
  simp only [adjust, erase, hes]

/-! ## Changes that are no removals -/

/-- A mode that is set is that of what the path leads to. -/
theorem setMode_eq_ok {mode : Nat} {set : FileSystem} (h : fs.setMode mode path = .ok set) :
    ∃ loc, fs.locate path = .ok loc ∧ set = fs.adjust loc (Node.withMode mode) := by
  unfold setMode at h
  split at h
  · cases h
  · next loc hl =>
    split at h
    · cases h
    · cases h
      exact ⟨loc, hl, rfl⟩

/-- Asking whether a file can be executed changes nothing but its mode. -/
theorem snd_checkExecutable (path : String) (fs : FileSystem) :
    (fs.checkExecutable path).2 = fs ∨
      ∃ mode set, fs.setMode mode path = .ok set ∧ (fs.checkExecutable path).2 = set := by
  unfold checkExecutable
  split
  · exact Or.inl rfl
  · split
    · exact Or.inl rfl
    · split
      · exact Or.inl rfl
      · split
        · exact Or.inl rfl
        · next set hset => exact Or.inr ⟨_, set, hset, rfl⟩

namespace AddsFile

theorem createFile {mode : Nat} (h : fs.createFile mode path = .ok (loc, grown)) : fs.AddsFile path loc grown := by
  obtain ⟨hfree, rfl, hne⟩ := node?_of_createFile h
  exact ⟨slot_of_createFile h, hfree, ⟨_, node?_put_self hne _ fs, rfl⟩, erase_put hfree⟩

theorem ne_nil (ha : fs.AddsFile path loc grown) : loc ≠ [] := by
  obtain ⟨name, above, rfl, -⟩ := ha.slot
  exact List.cons_ne_nil name above

/-- Changing the file leaves the rest as it was. -/
theorem adjust (ha : fs.AddsFile path loc grown) {f : Node → Node} (hf : ∀ node, (f node).isFile = node.isFile) :
    fs.AddsFile path loc (grown.adjust loc f) := by
  refine ⟨ha.slot, ha.free, ?_, ?_⟩
  · obtain ⟨node, hn, hfile⟩ := ha.file
    refine ⟨f node, ?_, ?_⟩
    · rw [node?_adjust_self ha.ne_nil, hn]
      rfl
    · rw [hf, hfile]
  · rw [erase_adjust, ha.erase]

theorem growsTo (ha : fs.AddsFile path loc grown) : fs.GrowsTo grown := by
  have hg := GrowsTo.of_erase loc grown
  rwa [ha.erase] at hg

/-- The path leads to the file. -/
theorem locate (ha : fs.AddsFile path loc grown) : grown.locate path = .ok loc := by
  obtain ⟨name, above, rfl, hs⟩ := ha.slot
  obtain ⟨node, hn, _⟩ := ha.file
  exact locate_of_slot hs ha.growsTo (by rw [hn]; rfl)

/-- Other bytes in the file leave the rest as it was. -/
theorem overwrite (ha : fs.AddsFile path loc grown) (bytes : List UInt8) :
    fs.AddsFile path loc (grown.overwrite path bytes) := by
  simp only [FileSystem.overwrite, ha.locate]
  exact ha.adjust (Node.isFile_overwrite bytes)

/-- The file then holds these bytes, and its mode stays. -/
theorem node?_overwrite (ha : fs.AddsFile path loc grown) {mode : Nat} {before : List UInt8}
    (hn : grown.node? loc = some (.file mode before)) (bytes : List UInt8) :
    (grown.overwrite path bytes).node? loc = some (.file mode bytes) := by
  simp only [FileSystem.overwrite, ha.locate]
  rw [node?_adjust_self ha.ne_nil, hn]
  rfl

/-- Elsewhere stands what stood there before. -/
theorem node?_of_ne (ha : fs.AddsFile path loc grown) {other : Location} (hne : other ≠ loc) :
    grown.node? other = fs.node? other := by
  rw [← ha.erase, node?_erase_of_ne hne]

/-- A path leads to the file, or where it led before. -/
theorem locate_or (ha : fs.AddsFile path loc grown) {other : Location} {asked : String}
    (h : grown.locate asked = .ok other) : other = loc ∨ fs.locate asked = .ok other := by
  by_cases ho : other = loc
  · exact Or.inl ho
  -- the way there is through directories, and the file is none
  have hkeeps : grown.KeepsDirectories fs := by
    refine ⟨?_, ha.growsTo.current.symm⟩
    intro here mode hd
    rw [← ha.node?_of_ne ?_]
    · exact hd
    · rintro rfl
      obtain ⟨node, hn, hfile⟩ := ha.file
      rw [hd] at hn
      cases hn
      cases hfile
  have hs := node?_locate h
  rw [ha.node?_of_ne ho] at hs
  exact Or.inr (hkeeps.locate hs h)

/-- A file does not come to stand at an absolute path that has no part with its name. -/
theorem isPresent_of_not_mem {name asked : String} {above : Location} (ha : fs.AddsFile path (name :: above) grown)
    (habsolute : Path.isAbsolute asked = true) (hnot : name ∉ Text.split '/' asked) :
    grown.isPresent asked = fs.isPresent asked := by
  rw [Bool.eq_iff_iff, isPresent_iff, isPresent_iff]
  constructor
  · rintro ⟨other, h⟩
    rcases ha.locate_or h with rfl | hbefore
    · exact absurd (mem_split_of_locate habsolute h List.mem_cons_self) hnot
    · exact ⟨other, hbefore⟩
  · rintro ⟨other, h⟩
    exact ⟨other, ha.growsTo.locate h⟩

/-- Before there was nothing at the path. -/
theorem isPresent_eq_false (ha : fs.AddsFile path loc grown) : fs.isPresent path = false := by
  rw [← Bool.not_eq_true, isPresent_iff]
  rintro ⟨other, ho⟩
  have hsame : loc = other := Except.ok.inj (ha.locate.symm.trans (ha.growsTo.locate ho))
  have hs := node?_locate ho
  rw [← hsame, ha.free] at hs
  cases hs

/-- **Removing what was added** leaves the file system as it was before. -/
theorem removeFile (ha : fs.AddsFile path loc grown) : grown.removeFile path = .ok fs := by
  obtain ⟨name, above, rfl, hs⟩ := ha.slot
  obtain ⟨node, hn, hfile⟩ := ha.file
  cases node with
  | directory mode => cases hfile
  | file mode bytes => simp [FileSystem.removeFile, ha.growsTo.slot hs, hn, ha.erase]

theorem setMode (ha : fs.AddsFile path loc grown) {mode : Nat} {set : FileSystem}
    (h : grown.setMode mode path = .ok set) : fs.AddsFile path loc set := by
  obtain ⟨there, hl, rfl⟩ := setMode_eq_ok h
  rw [ha.locate] at hl
  cases hl
  exact ha.adjust (Node.isFile_withMode mode)

/-- Asking whether the file can be executed leaves the rest as it was. -/
theorem checkExecutable (ha : fs.AddsFile path loc grown) :
    fs.AddsFile path loc (grown.checkExecutable path).2 := by
  rcases snd_checkExecutable path grown with hsame | ⟨mode, set, hset, hchanged⟩
  · rw [hsame]
    exact ha
  · rw [hchanged]
    exact ha.setMode hset

end AddsFile

/-! ## No more files -/

/-- Where a file stands, a file stood before. -/
def AddsNoFile (fs after : FileSystem) : Prop :=
  ∀ (loc : Location) (node : Node), after.node? loc = some node → node.isFile = true →
    ∃ stood, fs.node? loc = some stood ∧ stood.isFile = true

namespace AddsNoFile

variable {after : FileSystem}

theorem refl (fs : FileSystem) : fs.AddsNoFile fs := fun _ node hn hf => ⟨node, hn, hf⟩

theorem trans {between : FileSystem} (h₁ : fs.AddsNoFile between) (h₂ : between.AddsNoFile after) :
    fs.AddsNoFile after := by
  intro loc node hn hf
  obtain ⟨stood, hs, hfile⟩ := h₂ loc node hn hf
  exact h₁ loc stood hs hfile

theorem adjust (loc : Location) {f : Node → Node} (hf : ∀ node, (f node).isFile = node.isFile) (fs : FileSystem) :
    fs.AddsNoFile (fs.adjust loc f) := by
  intro other node hn hfile
  by_cases ho : other = loc
  · subst ho
    cases other with
    | nil => exact ⟨node, hn, hfile⟩
    | cons name above =>
      rw [node?_adjust_self (by simp)] at hn
      obtain ⟨stood, hs, rfl⟩ := Option.map_eq_some_iff.mp hn
      exact ⟨stood, hs, by rw [← hf, hfile]⟩
  · rw [node?_adjust_of_ne ho] at hn
    exact ⟨node, hn, hfile⟩

theorem erase (loc : Location) (fs : FileSystem) : fs.AddsNoFile (fs.erase loc) := by
  intro other node hn hfile
  exact ⟨node, (GrowsTo.of_erase loc fs).node? hn, hfile⟩

theorem removeFile (h : fs.removeFile path = .ok left) : fs.AddsNoFile left := by
  obtain ⟨loc, _, _, rfl⟩ := locate_of_removeFile h
  exact erase loc fs

/-- Asking whether a file can be executed adds no file. -/
theorem checkExecutable (path : String) (fs : FileSystem) : fs.AddsNoFile (fs.checkExecutable path).2 := by
  rcases snd_checkExecutable path fs with hsame | ⟨mode, set, hset, hchanged⟩
  · rw [hsame]
    exact refl fs
  · obtain ⟨loc, _, rfl⟩ := setMode_eq_ok hset
    rw [hchanged]
    exact adjust loc (Node.isFile_withMode mode) fs

end AddsNoFile
end FileSystem
end NativeLoader
