import NativeLoader.Extraction.Copy
import NativeLoader.Extraction.Directory
import NativeLoader.Proofs.Text.Pieces

/-!
# File systems that grow

A path leads through directories, so it leads to the same place wherever these stay (`KeepsDirectories`). Making files
and directories leaves all there was in place (`GrowsTo`): they are made where nothing stood. What a path leads to is
then found in the larger file system too (`locate`, `slot`, `status`, `reader_of_isFile`), and a new file is found under
the path it was made with, in every file system that grew from the one before and still has it (`locate_of_slot`). Where
a directory is asked for, nothing but directories is made (`MakesDirectories`).
-/

namespace NativeLoader

/-- The last part of a path is a name, unless the path is empty or ends with a slash. -/
theorem Path.head?_reverse_split {path : String} (hne : path ≠ "") (hs : Path.endsWithSlash path = false) :
    (Text.split '/' path).reverse.head? ≠ some "" := by
  intro hh
  rw [List.head?_reverse, Text.split, List.getLast?_map] at hh
  obtain ⟨p, hp, hq⟩ := Option.map_eq_some_iff.mp hh
  rw [String.ofList_eq_empty_iff.mp hq] at hp
  have hlist : path.toList ≠ [] := by
    intro h
    exact hne (String.toList_inj.mp h)
  rw [Path.endsWithSlash, Text.getLast?_of_pieces hlist hp] at hs
  cases hs

namespace FileSystem

variable {fs grown : FileSystem} {path : String}

/-! ## Directories that stay -/

/-- The directories of a file system are those of another one too, which has the same current directory. -/
structure KeepsDirectories (fs after : FileSystem) : Prop where
  directory : ∀ {loc : Location} {mode : Nat}, fs.node? loc = some (.directory mode) →
    after.node? loc = some (.directory mode)
  current : after.current = fs.current

namespace KeepsDirectories

variable {after : FileSystem}

theorem refl (fs : FileSystem) : fs.KeepsDirectories fs := ⟨fun h => h, rfl⟩

theorem trans {between : FileSystem} (h₁ : fs.KeepsDirectories between) (h₂ : between.KeepsDirectories after) :
    fs.KeepsDirectories after :=
  ⟨fun h => h₂.directory (h₁.directory h), h₂.current.trans h₁.current⟩

/-- A walk goes through directories, so it arrives where it did if anything is left there. -/
theorem walk (hk : fs.KeepsDirectories after) {loc : Location} (hs : (after.node? loc).isSome = true) :
    ∀ {parts : List String} {here : Location}, fs.walk here parts = .ok loc → after.walk here parts = .ok loc
  | [], here, h => by
    obtain ⟨rfl, -⟩ := walk_nil_eq_ok_iff.mp h
    exact walk_nil_eq_ok_iff.mpr ⟨rfl, hs⟩
  | part :: parts, here, h => by
    obtain ⟨⟨mode, hd⟩, next, hg, hrest⟩ := goes_of_walk h
    have hkept := walk hk hs hrest
    rw [walk_of_goes (hk.directory hd) (hg.of_isSome (isSome_of_walk hkept))]
    exact hkept

theorem start (hk : fs.KeepsDirectories after) : after.start path = fs.start path := by
  rw [FileSystem.start, FileSystem.start, hk.current]

/-- What a path names it still names, if it is still there. -/
theorem locate (hk : fs.KeepsDirectories after) {loc : Location} (hs : (after.node? loc).isSome = true)
    (h : fs.locate path = .ok loc) : after.locate path = .ok loc := by
  unfold FileSystem.locate at h ⊢
  split at h
  · cases h
  · rw [hk.start]
    exact hk.walk hs h

/-- The place at the end of a path is the same. -/
theorem slot (hk : fs.KeepsDirectories after) {s : Slot} (h : fs.slot path = .ok s) : after.slot path = .ok s := by
  unfold FileSystem.slot at h ⊢
  split at h
  · cases h
  · rw [hk.start]
    generalize (Text.split '/' path).reverse.dropWhile (· == "") = parts at h
    cases parts with
    | nil => exact h
    | cons last before =>
      simp only [slotOfParts] at h ⊢
      split at h
      · cases h
      · next above hw =>
        split at h
        · next mode hd =>
          have hkept := hk.directory hd
          simp only [hk.walk (by rw [hkept]; rfl) hw, hkept]
          exact h
        · cases h

end KeepsDirectories

/-! ## Growing -/

/-- All that a file system holds is in another one too, which has the same current directory and volume. -/
structure GrowsTo (fs grown : FileSystem) : Prop where
  node? : ∀ {loc : Location} {node : Node}, fs.node? loc = some node → grown.node? loc = some node
  current : grown.current = fs.current
  volume : grown.volume = fs.volume

namespace GrowsTo

theorem refl (fs : FileSystem) : fs.GrowsTo fs := ⟨fun h => h, rfl, rfl⟩

theorem trans {between : FileSystem} (h₁ : fs.GrowsTo between) (h₂ : between.GrowsTo grown) : fs.GrowsTo grown :=
  ⟨fun h => h₂.node? (h₁.node? h), h₂.current.trans h₁.current, h₂.volume.trans h₁.volume⟩

/-- Putting something where nothing stood. -/
theorem put {loc : Location} (hf : fs.node? loc = none) (node : Node) : fs.GrowsTo (fs.put loc node) := by
  refine ⟨?_, rfl, rfl⟩
  intro other stood hs
  by_cases ho : other = loc
  · rw [ho, hf] at hs
    cases hs
  · rw [node?_put_of_ne ho]
    exact hs

/-! ## Making files -/

theorem createFile {mode : Nat} {loc : Location} (hc : fs.createFile mode path = .ok (loc, grown)) :
    fs.GrowsTo grown := by
  obtain ⟨hf, rfl, _⟩ := node?_of_createFile hc
  exact .put hf _

/-! ## Looking -/

theorem keepsDirectories (hg : fs.GrowsTo grown) : fs.KeepsDirectories grown := ⟨hg.node?, hg.current⟩

theorem isSome (hg : fs.GrowsTo grown) {loc : Location} (h : (fs.node? loc).isSome = true) :
    (grown.node? loc).isSome = true := by
  obtain ⟨node, hn⟩ := Option.isSome_iff_exists.mp h
  rw [hg.node? hn]
  rfl

/-- A walk that arrives arrives at the same location. -/
theorem walk (hg : fs.GrowsTo grown) {parts : List String} {here loc : Location} (h : fs.walk here parts = .ok loc) :
    grown.walk here parts = .ok loc :=
  hg.keepsDirectories.walk (hg.isSome (node?_walk h)) h

/-- What a path names it still names. -/
theorem locate (hg : fs.GrowsTo grown) {loc : Location} (h : fs.locate path = .ok loc) :
    grown.locate path = .ok loc :=
  hg.keepsDirectories.locate (hg.isSome (node?_locate h)) h

/-- The place at the end of a path is the same. -/
theorem slot (hg : fs.GrowsTo grown) {s : Slot} (h : fs.slot path = .ok s) : grown.slot path = .ok s :=
  hg.keepsDirectories.slot h

theorem status (hg : fs.GrowsTo grown) {node : Node} (h : fs.status path = .ok node) :
    grown.status path = .ok node := by
  unfold FileSystem.status at h ⊢
  split at h
  · cases h
  · next loc hl =>
    rw [hg.locate hl]
    split at h
    · next stood hn =>
      cases h
      simp only [hg.node? hn]
    · cases h

/-- What opens as a file opens alike. -/
theorem reader_of_isFile (hg : fs.GrowsTo grown) (h : fs.isFile path = true) :
    grown.reader path = fs.reader path := by
  unfold isFile at h
  split at h
  · next node hs => rw [reader, reader, hs, hg.status hs]
  · cases h

end GrowsTo

/-! ## Making directories -/

/-- All that a file system has more than another one are directories. -/
structure MakesDirectories (fs made : FileSystem) : Prop extends fs.GrowsTo made where
  isDirectory : ∀ {loc : Location} {node : Node}, fs.node? loc = none → made.node? loc = some node →
    node.isDirectory = true

namespace MakesDirectories

variable {made : FileSystem}

theorem refl (fs : FileSystem) : fs.MakesDirectories fs := by
  refine ⟨.refl fs, ?_⟩
  intro loc node hn hs
  rw [hn] at hs
  cases hs

theorem trans {between : FileSystem} (h₁ : fs.MakesDirectories between) (h₂ : between.MakesDirectories made) :
    fs.MakesDirectories made := by
  refine ⟨h₁.toGrowsTo.trans h₂.toGrowsTo, ?_⟩
  intro loc node hn hs
  cases hb : between.node? loc with
  | none => exact h₂.isDirectory hb hs
  | some stood =>
    rw [h₂.node? hb] at hs
    cases hs
    exact h₁.isDirectory hn hb

/-- Putting a directory where nothing stood. -/
theorem put {loc : Location} {mode : Nat} (hf : fs.node? loc = none) :
    fs.MakesDirectories (fs.put loc (.directory mode)) := by
  refine ⟨.put hf _, ?_⟩
  intro other node hn hs
  by_cases ho : other = loc
  · subst ho
    have hne : other ≠ [] := by
      rintro rfl
      cases hf
    rw [node?_put_self hne] at hs
    cases hs
    rfl
  · rw [node?_put_of_ne ho, hn] at hs
    cases hs

theorem makeDirectory {mode : Nat} (hm : fs.makeDirectory mode path = .ok made) : fs.MakesDirectories made := by
  unfold FileSystem.makeDirectory at hm
  split at hm
  · cases hm
  · split at hm
    · cases hm
    · split at hm
      · cases hm
      · next hf =>
        cases hm
        exact .put (by simpa using hf)

theorem makeOutermost {left : List String} : ∀ {paths : List String}, fs.makeOutermost paths = .ok (left, made) →
    fs.MakesDirectories made
  | [], hm => by
    cases hm
    exact .refl fs
  | path :: paths, hm => by
    unfold FileSystem.makeOutermost at hm
    split at hm
    · next hd =>
      cases hm
      exact .makeDirectory hd
    · split at hm
      · split at hm
        · next hrest =>
          cases hm
          exact makeOutermost hrest
        · cases hm
      · split at hm
        · cases hm
          exact .refl fs
        · cases hm

theorem makeEach : ∀ (paths : List String) (fs : FileSystem), fs.MakesDirectories (FileSystem.makeEach paths fs).2
  | [], fs => .refl fs
  | path :: paths, fs => by
    unfold FileSystem.makeEach
    split
    · next made hd => exact (makeDirectory hd).trans (makeEach paths made)
    · split
      · exact makeEach paths fs
      · exact .refl fs

theorem makeDirectories (path : String) (fs : FileSystem) : fs.MakesDirectories (fs.makeDirectories path).2 := by
  unfold FileSystem.makeDirectories
  split
  · exact .refl fs
  · next left made ho => exact (makeOutermost ho).trans (makeEach left.reverse made)

theorem prepare (path : String) (fs : FileSystem) : fs.MakesDirectories (fs.prepare path).2 := by
  have hd := makeDirectories path fs
  unfold FileSystem.prepare
  split
  · exact .refl fs
  · split
    · next he =>
      rw [he] at hd
      exact hd
    · next he =>
      rw [he] at hd
      exact hd

end MakesDirectories

/-! ## New files -/

/-- The slot of a name is right below a directory to which the parts before it lead. -/
theorem slotOfParts_eq_ok {start above : Location} {name : String} {slash slashed : Bool} {parts : List String}
    (hs : fs.slotOfParts start slash parts = .ok ⟨above, some name, slashed⟩) :
    ∃ before mode, parts = name :: before ∧ slashed = slash ∧ fs.walk start before.reverse = .ok above ∧
      fs.node? above = some (.directory mode) ∧ name ≠ "." ∧ name ≠ ".." ∧ above.isOrphan = false ∧
      name.utf8ByteSize ≤ nameLimit := by
  cases parts with
  | nil => cases hs
  | cons last before =>
    simp only [slotOfParts] at hs
    split at hs
    · cases hs
    · next hw =>
      split at hs
      · next mode hd =>
        split at hs
        · cases hs
        · next hdots =>
          split at hs
          · cases hs
          · next horphan =>
            split at hs
            · cases hs
            · next hlimit =>
              cases hs
              have hdots := not_or.mp hdots
              exact ⟨before, mode, rfl, rfl, hw, hd, hdots.1, hdots.2, by simpa using horphan, Nat.le_of_not_lt hlimit⟩
      · cases hs

/-- A path with a slot for a name, and no slash after it, leads to the name once something stands there. -/
theorem locate_of_slot {above : Location} {name : String} (hs : fs.slot path = .ok ⟨above, some name, false⟩)
    (hg : fs.GrowsTo grown) (hn : (grown.node? (name :: above)).isSome = true) :
    grown.locate path = .ok (name :: above) := by
  unfold slot at hs
  split at hs
  · cases hs
  · next hf =>
    have hne : path ≠ "" := by
      rintro rfl
      cases hf
    obtain ⟨before, mode, hparts, hslash, hw, hd, hdot, hdots, horphan, hlimit⟩ := slotOfParts_eq_ok hs
    have hlast := Path.head?_reverse_split hne hslash.symm
    have hkept : (Text.split '/' path).reverse = name :: before := by
      rw [← hparts]
      cases hr : (Text.split '/' path).reverse with
      | nil => rfl
      | cons last rest =>
        rw [hr] at hlast
        rw [List.dropWhile_cons_of_neg (by simpa using hlast)]
    have hname : name ≠ "" := by simpa [hkept] using hlast
    have hsplit : Text.split '/' path = before.reverse ++ [name] := by
      rw [← List.reverse_reverse (Text.split '/' path), hkept, List.reverse_cons]
    have hstart : grown.start path = fs.start path := by rw [start, start, hg.current]
    simp only [locate, hf, hsplit, hstart]
    rw [walk_append (hg.walk hw), walk_of_goes (hg.node? hd) (.down hname hdot hdots horphan hlimit hn)]
    exact walk_nil_eq_ok_iff.mpr ⟨rfl, hn⟩

/-- A file that is made has its place at the end of its path, with no slash after it. -/
theorem slot_of_createFile {mode : Nat} {loc : Location} {made : FileSystem}
    (h : fs.createFile mode path = .ok (loc, made)) :
    ∃ name above, loc = name :: above ∧ fs.slot path = .ok ⟨above, some name, false⟩ := by
  unfold createFile at h
  split at h
  · cases h
  · next slot hs =>
    obtain ⟨above, name?, slash⟩ := slot
    cases name? with
    | none => cases h
    | some name =>
      simp only at h
      split at h
      · cases h
      · split at h
        · cases h
        · next hslash =>
          rw [Bool.not_eq_true] at hslash
          subst hslash
          cases h
          exact ⟨name, above, rfl, hs⟩

/-- What the linker reads from a path that leads to a file. -/
theorem content?_of_locate {loc : Location} {mode : Nat} {bytes : List UInt8} (hl : fs.locate path = .ok loc)
    (hn : fs.node? loc = some (.file mode bytes)) : fs.content? path = some bytes := by
  simp only [content?, status, hl, hn]

end FileSystem
end NativeLoader
