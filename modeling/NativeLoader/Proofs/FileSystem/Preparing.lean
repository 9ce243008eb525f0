import NativeLoader.Proofs.FileSystem.Absolute

/-!
# Directories that are asked for

A directory that is made is there afterwards (`isDirectory_of_makeDirectory`), and so is one that is made with those
above it (`isDirectory_of_makeDirectories`). Making sure of a directory gives a path to one exactly if the path that was
asked for is not empty, names nothing that is not a directory, and has an absolute form that is not too long
(`isDirectory_of_prepare_iff`).
-/

namespace NativeLoader.FileSystem

variable {fs made : FileSystem} {path : String} {loc : Location}

/-- A path names a directory exactly if it leads to one. -/
theorem isDirectory_iff : fs.isDirectory path = true ↔
    ∃ loc mode, fs.locate path = .ok loc ∧ fs.node? loc = some (.directory mode) := by
  unfold isDirectory status
  cases hl : fs.locate path with
  | error fault => simp
  | ok loc =>
    obtain ⟨node, hn⟩ := Option.isSome_iff_exists.mp (node?_locate hl)
    cases node <;> simp [hn, Node.isDirectory]

/-- Slashes at the end of a path add no steps. -/
theorem steps_of_dropWhile {parts : List String} (h : (Text.split '/' path).reverse.dropWhile (· == "") = parts) :
    Path.steps path = parts.reverse.filter Path.isStep := by
  have hsplit : Text.split '/' path =
      parts.reverse ++ ((Text.split '/' path).reverse.takeWhile (· == "")).reverse := by
    rw [← h, ← List.reverse_append, List.takeWhile_append_dropWhile, List.reverse_reverse]
  have hblank : (((Text.split '/' path).reverse.takeWhile (· == "")).reverse).filter Path.isStep = [] := by
    rw [List.filter_eq_nil_iff]
    intro part hp
    have hempty := List.all_eq_true.mp List.all_takeWhile part (List.mem_reverse.mp hp)
    rw [eq_of_beq hempty]
    decide
  rw [Path.steps, hsplit, List.filter_append, hblank, List.append_nil]

/-- A directory that is made is there, whatever slashes follow its name. -/
theorem isDirectory_of_makeDirectory {mode : Nat} (hm : fs.makeDirectory mode path = .ok made) :
    made.isDirectory path = true := by
  have hgrows := (MakesDirectories.makeDirectory hm).toGrowsTo
  unfold makeDirectory at hm
  split at hm
  · cases hm
  · next slot hs =>
    obtain ⟨above, name?, slash⟩ := slot
    cases name? with
    | none => cases hm
    | some name =>
      simp only at hm
      split at hm
      · cases hm
      · cases hm
        have hnew := node?_put_self (List.cons_ne_nil name above) (.directory mode) fs
        unfold FileSystem.slot at hs
        split at hs
        · cases hs
        · next hf =>
          obtain ⟨before, stood, hparts, -, hw, hd, hdot, hdots, horphan, hlimit⟩ := slotOfParts_eq_ok hs
          have hsteps := steps_of_dropWhile hparts
          have hname : name ≠ "" := (split_of_dropWhile hparts).1
          have hstart : (fs.put (name :: above) (.directory mode)).start path = fs.start path := rfl
          refine isDirectory_iff.mpr ⟨name :: above, mode, locate_of_walk hf ?_ fun _ => ⟨mode, hnew⟩, hnew⟩
          rw [hsteps, List.reverse_cons]
          apply walk_filter
          have hthere : ((fs.put (name :: above) (.directory mode)).node? (name :: above)).isSome = true := by
            rw [hnew]
            rfl
          rw [hstart, walk_append (hgrows.walk hw),
            walk_of_goes (hgrows.node? hd) (.down hname hdot hdots horphan hlimit hthere)]
          exact walk_nil_eq_ok_iff.mpr ⟨rfl, hthere⟩

/-- Of directories that are made in turn, the last is there. -/
theorem isDirectory_of_makeEach : ∀ {paths : List String} {fs made : FileSystem},
    makeEach paths fs = (.ok (), made) → ∀ path, paths.getLast? = some path → made.isDirectory path = true
  | [], _, _, _, path, hlast => by cases hlast
  | first :: paths, fs, made, hm, path, hlast => by
    rw [makeEach] at hm
    split at hm
    · next between hd =>
      cases paths with
      | nil =>
        cases hlast
        cases hm
        exact isDirectory_of_makeDirectory hd
      | cons next rest => exact isDirectory_of_makeEach hm path (by rw [← hlast, List.getLast?_cons_cons])
    · split at hm
      · next hthere =>
        cases paths with
        | nil =>
          cases hlast
          cases hm
          exact hthere.2
        | cons next rest => exact isDirectory_of_makeEach hm path (by rw [← hlast, List.getLast?_cons_cons])
      · cases hm

/-- The innermost of some nested directories is there once the outermost is made, or is left to make. -/
theorem isDirectory_of_makeOutermost {paths left : List String}
    (hm : fs.makeOutermost (path :: paths) = .ok (left, made)) :
    left = [] ∧ made.isDirectory path = true ∨ ∃ rest, left = path :: rest := by
  rw [makeOutermost] at hm
  split at hm
  · next hd =>
    cases hm
    exact Or.inl ⟨rfl, isDirectory_of_makeDirectory hd⟩
  · split at hm
    · split at hm
      · cases hm
        exact Or.inr ⟨_, rfl⟩
      · cases hm
    · split at hm
      · next hthere =>
        cases hm
        exact Or.inl ⟨rfl, hthere.2⟩
      · cases hm

/-- A directory that is made with those above it is there, unless its path has no parts to make. -/
theorem isDirectory_of_makeDirectories (hc : Path.components path ≠ [])
    (hm : fs.makeDirectories path = (.ok (), made)) : made.isDirectory path = true := by
  obtain ⟨paths, hpaths⟩ : ∃ paths, Path.ancestors path = path :: paths := by
    rw [Path.ancestors, Path.ancestorsFrom, Path.parent?, if_neg hc]
    exact ⟨_, rfl⟩
  rw [makeDirectories, hpaths] at hm
  split at hm
  · cases hm
  · next left outer ho =>
    rcases isDirectory_of_makeOutermost ho with ⟨rfl, hthere⟩ | ⟨rest, rfl⟩
    · cases hm
      exact hthere
    · exact isDirectory_of_makeEach hm path (by simp)

/-- A path without parts to make is empty, or the root's in other words. -/
theorem isAbsolute_of_components (hp : path ≠ "") (hc : Path.components path = []) :
    Path.isAbsolute path = true ∧ Path.steps path = [] := by
  unfold Path.components at hc
  split at hc
  · cases hc
  · next hdot =>
    refine ⟨?_, hc⟩
    cases ha : Path.isAbsolute path with
    | true => rfl
    | false =>
      -- the first part of a relative path is not empty, so it is a step or the single dot
      obtain ⟨first, more, hsplit, hfirst⟩ : ∃ first more, Text.split '/' path = first :: more ∧ first ≠ "" := by
        cases hlist : path.toList with
        | nil => exact absurd (String.toList_inj.mp hlist) hp
        | cons c cs =>
          have hslash : c ≠ '/' := by
            rintro rfl
            simp [Path.isAbsolute, hlist] at ha
          obtain ⟨piece, pieces, hpieces⟩ := List.exists_cons_of_ne_nil (Text.pieces_ne_nil '/' cs)
          rw [Text.split, hlist, Text.pieces, if_neg hslash, hpieces]
          exact ⟨String.ofList (c :: piece), pieces.map String.ofList, rfl, by simp⟩
      have hnot : Path.isStep first = false := by
        rw [Path.steps, hsplit] at hc
        simpa using List.filter_eq_nil_iff.mp hc first List.mem_cons_self
      rcases Path.isStep_eq_false_iff.mp hnot with he | he
      · exact absurd he hfirst
      · rw [hsplit, he, ha] at hdot
        exact absurd rfl hdot

/-- The absolute form of a path whose steps lead somewhere names a directory exactly if there is one, and the form is not
too long. -/
theorem isDirectory_absolute_iff {node : Node} (hk : fs.KnowsCurrent) (hp : path ≠ "") (hnul : '\x00' ∉ path.toList)
    (hwalk : fs.walk (fs.start path) (Path.steps path) = .ok loc) (hn : fs.node? loc = some node)
    (hd : Path.isStep (Path.fileName path) = false → ∃ mode, fs.node? loc = some (.directory mode)) :
    fs.isDirectory (fs.absolute path) = true ↔
      node.isDirectory = true ∧ (fs.absolute path).utf8ByteSize ≤ pathLimit := by
  rw [isDirectory_iff]
  constructor
  · rintro ⟨other, mode, ho, hother⟩
    have hlimit := (pathFault?_eq_none_iff.mp (walk_of_locate ho).1).2.2
    rw [locate_absolute hk hp hnul hwalk hd hlimit] at ho
    cases ho
    rw [hn] at hother
    cases hother
    exact ⟨rfl, hlimit⟩
  · rintro ⟨hdirectory, hlimit⟩
    cases node with
    | file mode bytes => cases hdirectory
    | directory mode => exact ⟨loc, mode, locate_absolute hk hp hnul hwalk hd hlimit, hn⟩

/-- So is that of a path that names something. -/
theorem isDirectory_absolute_of_status {node : Node} (hk : fs.KnowsCurrent) (hs : fs.status path = .ok node) :
    fs.isDirectory (fs.absolute path) = true ↔
      node.isDirectory = true ∧ (fs.absolute path).utf8ByteSize ≤ pathLimit := by
  unfold status at hs
  split at hs
  · cases hs
  · next loc hl =>
    split at hs
    · next stood hn =>
      cases hs
      obtain ⟨hf, hwalk, hd⟩ := walk_of_locate hl
      obtain ⟨hnul, hp, -⟩ := pathFault?_eq_none_iff.mp hf
      exact isDirectory_absolute_iff hk hp hnul hwalk hn hd
    · cases hs

/-- The absolute form of a directory that was made names it, unless it is too long. -/
theorem isDirectory_absolute_of_makeDirectories (hk : fs.KnowsCurrent) (hp : path ≠ "")
    (hm : fs.makeDirectories path = (.ok (), made)) :
    made.isDirectory (made.absolute path) = true ↔ (made.absolute path).utf8ByteSize ≤ pathLimit := by
  have hgrows := (MakesDirectories.makeDirectories path fs).toGrowsTo
  rw [hm] at hgrows
  have hk' : made.KnowsCurrent := hk.of_growsTo hgrows
  by_cases hc : Path.components path = []
  · obtain ⟨ha, hsteps⟩ := isAbsolute_of_components hp hc
    have hnul : '\x00' ∉ path.toList := by
      intro hin
      rcases Path.eq_or_exists_mem_steps hin with he | he | ⟨step, hstep, -⟩
      · exact absurd he (by decide)
      · exact absurd he (by decide)
      · rw [hsteps] at hstep
        cases hstep
    have hwalk : made.walk (made.start path) (Path.steps path) = .ok [] := by
      rw [start, ha, hsteps]
      rfl
    rw [isDirectory_absolute_iff hk' hp hnul hwalk rfl fun _ => ⟨_, rfl⟩]
    exact and_iff_right rfl
  · have hthere := isDirectory_of_makeDirectories hc hm
    unfold isDirectory at hthere
    split at hthere
    · next node hs =>
      rw [isDirectory_absolute_of_status hk' hs]
      exact and_iff_right hthere
    · cases hthere

theorem absolute_empty : fs.absolute "" = "" := by
  rw [absolute]
  split <;> rfl

/-- Making sure of a directory gives the absolute form of its path. -/
theorem prepare_eq_ok {directory : String} (hm : fs.prepare path = (.ok directory, made)) :
    directory = fs.absolute path := by
  unfold prepare at hm
  split at hm
  · cases hm
    rfl
  · split at hm
    · cases hm
      rfl
    · cases hm

/-- **Making sure of a directory** gives a path to one exactly if what was asked for is not empty, names nothing else, and
has an absolute form that is not too long. -/
theorem isDirectory_of_prepare_iff {directory : String} (hk : fs.KnowsCurrent)
    (hm : fs.prepare path = (.ok directory, made)) : made.isDirectory directory = true ↔
      path ≠ "" ∧ (∀ node, fs.status path = .ok node → node.isDirectory = true) ∧
        directory.utf8ByteSize ≤ pathLimit := by
  have hgrows := (MakesDirectories.prepare path fs).toGrowsTo
  rw [hm] at hgrows
  have habsolute : made.absolute path = fs.absolute path := by
    rw [absolute, absolute, currentPath?, currentPath?, hgrows.current]
  unfold prepare at hm
  split at hm
  · next hpresent =>
    cases hm
    unfold isPresent at hpresent
    split at hpresent
    · next node hs =>
      have hp : path ≠ "" := by
        rintro rfl
        cases hs
      have hall : (∀ other, fs.status path = .ok other → other.isDirectory = true) ↔ node.isDirectory = true := by
        rw [hs]
        simp
      rw [isDirectory_absolute_of_status hk hs, hall]
      exact (and_iff_right hp).symm
    · cases hpresent
  · next hpresent =>
    split at hm
    · next hmade =>
      cases hm
      have habsent : ∀ node, fs.status path = .ok node → node.isDirectory = true := by
        intro node hs
        rw [isPresent, hs] at hpresent
        exact absurd rfl hpresent
      by_cases hp : path = ""
      · have hnone : made.isDirectory "" = false := rfl
        rw [hp, absolute_empty, hnone]
        exact iff_of_false Bool.false_ne_true fun h => h.1 rfl
      · rw [← habsolute, isDirectory_absolute_of_makeDirectories hk hp hmade]
        exact ⟨fun hlimit => ⟨hp, habsent, hlimit⟩, fun h => h.2.2⟩
    · cases hm

end NativeLoader.FileSystem
