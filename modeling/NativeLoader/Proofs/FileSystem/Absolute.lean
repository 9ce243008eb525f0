import NativeLoader.Proofs.FileSystem.Removal

/-!
# Absolute forms of paths

The kernel skips the parts of a path that name nothing, wherever they stand, as long as it is in a directory there
(`walk_filter`, `walk_of_filter`). The absolute form of a path has the steps of the current directory's path and then
those of the path itself (`Path.leads_absolute`). So it leads to where the path leads, unless it is too long
(`locate_absolute`), where the current directory is what its own path leads to, as it is below directories with proper
names (`NamesCurrent.knowsCurrent`).
-/

namespace NativeLoader

namespace Text

theorem split_append_slash (s t : String) : split '/' (s ++ "/" ++ t) = split '/' s ++ split '/' t := by
  have hlist : (s ++ "/" ++ t).toList = s.toList ++ '/' :: t.toList := by simp
  rw [split, hlist, pieces_append_cons, List.map_append]
  rfl

theorem split_of_not_mem {s : String} (hs : '/' ∉ s.toList) : split '/' s = [s] := by
  rw [split, pieces_of_not_mem hs, List.map_singleton, String.ofList_toList]

/-- Names without a slash are the parts of the path that they are put together to. -/
theorem split_intercalate : ∀ (name : String) (names : List String), (∀ part ∈ name :: names, '/' ∉ part.toList) →
    split '/' (String.intercalate "/" (name :: names)) = name :: names
  | name, [], h => by
    rw [String.intercalate_singleton]
    exact split_of_not_mem (h name List.mem_cons_self)
  | name, next :: names, h => by
    rw [String.intercalate_cons_cons, split_append_slash, split_of_not_mem (h name List.mem_cons_self),
      split_intercalate next names fun part hp => h part (List.mem_cons_of_mem name hp)]
    rfl

/-- The parts of a path hold no slash, and nothing that the path does not hold. -/
theorem of_mem_split {s part : String} (hp : part ∈ split '/' s) :
    '/' ∉ part.toList ∧ ∀ c ∈ part.toList, c ∈ s.toList := by
  obtain ⟨piece, hpiece, rfl⟩ := List.mem_map.mp hp
  rw [String.toList_ofList]
  exact ⟨not_mem_of_mem_pieces hpiece, fun c hc => mem_of_mem_pieces hpiece hc⟩

theorem split_ne_nil (s : String) : split '/' s ≠ [] := by
  rw [split]
  exact fun h => pieces_ne_nil '/' s.toList (List.map_eq_nil_iff.mp h)

end Text

/-! ## Joined paths -/

namespace Path

theorem isStep_iff {s : String} : isStep s = true ↔ s ≠ "" ∧ s ≠ "." := by
  simp only [isStep, Bool.and_eq_true, bne_iff_ne]

theorem isStep_eq_false_iff {s : String} : isStep s = false ↔ s = "" ∨ s = "." := by
  simp only [isStep, Bool.and_eq_false_iff, bne_eq_false_iff_eq]

/-- A path that ends with a slash is another one with a slash behind it. -/
theorem exists_of_endsWithSlash {p : String} (h : endsWithSlash p = true) : ∃ w, p = w ++ "/" := by
  rw [endsWithSlash, beq_iff_eq] at h
  obtain ⟨init, hinit⟩ := List.getLast?_eq_some_iff.mp h
  refine ⟨String.ofList init, ?_⟩
  rw [← String.toList_inj, hinit]
  simp

/-- A slash at the end adds no step. -/
theorem steps_append_slash (w : String) : steps (w ++ "/") = steps w := by
  have hsplit := Text.split_append_slash w ""
  rw [String.append_empty] at hsplit
  rw [steps, hsplit, List.filter_append]
  simp [Text.split, Text.pieces, isStep, steps]

/-- A relative path joined to another one brings its parts, behind parts that have the steps of the other. -/
theorem split_join_of_relative {base p : String} (hb : base ≠ "") (hr : isAbsolute p = false) :
    ∃ before, Text.split '/' (join base p) = before ++ Text.split '/' p ∧ before.filter isStep = steps base := by
  rw [join_of_relative hr]
  by_cases hs : endsWithSlash base = true
  · obtain ⟨w, rfl⟩ := exists_of_endsWithSlash hs
    refine ⟨Text.split '/' w, ?_, ?_⟩
    · rw [if_pos (Or.inr hs), Text.split_append_slash]
    · exact (steps_append_slash w).symm
  · refine ⟨Text.split '/' base, ?_, rfl⟩
    rw [if_neg (not_or.mpr ⟨hb, hs⟩), Text.split_append_slash]

/-- It comes last, and what it is joined to first. -/
theorem exists_join_eq {base p : String} (hr : isAbsolute p = false) :
    ∃ between, join base p = base ++ (between ++ p) := by
  rw [join_of_relative hr]
  split
  · exact ⟨"", by rw [String.empty_append]⟩
  · exact ⟨"/", by rw [String.append_assoc]⟩

/-- So the path is at least as long as both together. -/
theorem size_le_join (base : String) {p : String} (hr : isAbsolute p = false) :
    base.utf8ByteSize + p.utf8ByteSize ≤ (join base p).utf8ByteSize := by
  obtain ⟨between, hjoin⟩ : ∃ between, join base p = base ++ (between ++ p) := exists_join_eq hr
  rw [hjoin, String.utf8ByteSize_append, String.utf8ByteSize_append]
  omega

theorem isAbsolute_append_of_isAbsolute {base : String} (ha : isAbsolute base = true) (more : String) :
    isAbsolute (base ++ more) = true := by
  rw [isAbsolute] at ha ⊢
  rw [String.toList_append]
  cases hlist : base.toList with
  | nil =>
    rw [hlist] at ha
    cases ha
  | cons c cs =>
    rw [hlist] at ha
    exact ha

/-- A name joined to a path is its last part, behind parts that have the steps of the path. -/
theorem split_join {base name : String} (hb : base ≠ "") (hn : '/' ∉ name.toList) :
    ∃ before, Text.split '/' (join base name) = before ++ [name] ∧ before.filter isStep = steps base := by
  rw [← Text.split_of_not_mem hn]
  exact split_join_of_relative hb (isAbsolute_of_not_mem hn)

/-- A path below another one: it starts as that one does, has its steps and some more, and holds nothing else. -/
structure Leads (base : String) (parts : List String) (path : String) : Prop where
  ne : path ≠ ""
  isAbsolute : isAbsolute path = isAbsolute base
  steps : steps path = steps base ++ parts
  starts : ∃ rest, path = base ++ rest
  chars : ∀ c ∈ path.toList, c ∈ base.toList ∨ c = '/' ∨ ∃ part ∈ parts, c ∈ part.toList

theorem Leads.refl {base : String} (hb : base ≠ "") : Leads base [] base :=
  ⟨hb, rfl, (List.append_nil _).symm, ⟨"", String.append_empty.symm⟩, fun _ hc => Or.inl hc⟩

theorem Leads.size {base path : String} {parts : List String} (hl : Leads base parts path) :
    base.utf8ByteSize ≤ path.utf8ByteSize := by
  obtain ⟨rest, hrest⟩ := hl.starts
  rw [hrest, String.utf8ByteSize_append]
  exact Nat.le_add_right _ _

/-- A name joined to a path leads on by itself, if it is a step. -/
theorem Leads.join {base path name : String} {parts : List String} (hl : Leads base parts path)
    (hn : '/' ∉ name.toList) (hdot : name ≠ ".") :
    Leads base (parts ++ [name].filter isStep) (Path.join path name) := by
  obtain ⟨before, hsplit, hbefore⟩ := split_join hl.ne hn
  obtain ⟨between, hjoin, hbetween⟩ : ∃ between, Path.join path name = path ++ between ++ name ∧
      ∀ c ∈ between.toList, c = '/' := by
    rw [join_of_name hn]
    by_cases hs : path = "" ∨ endsWithSlash path = true
    · exact ⟨"", by rw [if_pos hs, String.append_empty], by simp⟩
    · exact ⟨"/", by rw [if_neg hs], by simp⟩
  refine ⟨?_, ?_, ?_, ?_, ?_⟩
  · rw [hjoin]
    intro he
    have hpath := (String.append_eq_empty_iff.mp (String.append_eq_empty_iff.mp he).1).1
    exact hl.ne hpath
  · rw [← hl.isAbsolute, hjoin, Path.isAbsolute, Path.isAbsolute]
    cases hp : path.toList with
    | nil => exact absurd (String.toList_inj.mp hp) hl.ne
    | cons c cs => simp [hp]
  · rw [Path.steps, hsplit, List.filter_append, hbefore, hl.steps, List.append_assoc]
  · obtain ⟨rest, hrest⟩ := hl.starts
    exact ⟨rest ++ between ++ name, by rw [hjoin, hrest, String.append_assoc, String.append_assoc, String.append_assoc]⟩
  · intro c hc
    rw [hjoin, String.toList_append, String.toList_append, List.mem_append, List.mem_append] at hc
    rcases hc with (hc | hc) | hc
    · rcases hl.chars c hc with hbase | hslash | ⟨part, hpart, hin⟩
      · exact Or.inl hbase
      · exact Or.inr (Or.inl hslash)
      · exact Or.inr (Or.inr ⟨part, List.mem_append_left _ hpart, hin⟩)
    · exact Or.inr (Or.inl (hbetween c hc))
    · refine Or.inr (Or.inr ⟨name, List.mem_append_right _ (List.mem_filter.mpr ⟨List.mem_singleton_self name, ?_⟩), hc⟩)
      have hne : name ≠ "" := by
        rintro rfl
        cases hc
      simp [isStep, hne, hdot]

/-- Steps joined to a path one after the other lead on by these steps. -/
theorem Leads.foldl {base : String} : ∀ {more parts : List String} {path : String}, Leads base parts path →
    (∀ name ∈ more, '/' ∉ name.toList ∧ isStep name = true) →
    Leads base (parts ++ more) (more.foldl Path.join path)
  | [], parts, path, hl, _ => by
    rw [List.append_nil]
    exact hl
  | name :: more, parts, path, hl, hmore => by
    obtain ⟨hslash, hstep⟩ := hmore name List.mem_cons_self
    have hnext := hl.join hslash (isStep_iff.mp hstep).2
    rw [List.filter_cons_of_pos hstep, List.filter_nil] at hnext
    rw [List.append_cons]
    exact Leads.foldl hnext fun other ho => hmore other (List.mem_cons_of_mem name ho)

/-- The steps of a path hold no slash. -/
theorem of_mem_steps {path step : String} (hs : step ∈ steps path) :
    ('/' ∉ step.toList ∧ isStep step = true) ∧ ∀ c ∈ step.toList, c ∈ path.toList := by
  obtain ⟨hsplit, hstep⟩ := List.mem_filter.mp hs
  obtain ⟨hslash, hchars⟩ := Text.of_mem_split hsplit
  exact ⟨⟨hslash, hstep⟩, hchars⟩

/-- The absolute form of a path starts somewhere. -/
theorem anchor_ne {cwd : String} (hc : cwd ≠ "") (path : String) : anchor cwd path ≠ "" := by
  unfold anchor
  split
  · exact hc
  · split <;> decide

/-- What stands in a path is a slash or a dot, or stands in one of its steps. -/
theorem eq_or_exists_mem_steps {path : String} {c : Char} (hc : c ∈ path.toList) :
    c = '/' ∨ c = '.' ∨ ∃ step ∈ steps path, c ∈ step.toList := by
  by_cases hslash : c = '/'
  · exact Or.inl hslash
  · obtain ⟨piece, hpiece, hin⟩ := Text.exists_mem_pieces hslash hc
    have hpart : String.ofList piece ∈ Text.split '/' path := List.mem_map_of_mem hpiece
    cases hs : isStep (String.ofList piece) with
    | true => exact Or.inr (Or.inr ⟨_, List.mem_filter.mpr ⟨hpart, hs⟩, by rwa [String.toList_ofList]⟩)
    | false =>
      rcases isStep_eq_false_iff.mp hs with he | he
      · rw [String.ofList_eq_empty_iff.mp he] at hin
        cases hin
      · rw [← String.toList_inj, String.toList_ofList] at he
        rw [he] at hin
        exact Or.inr (Or.inl (List.mem_singleton.mp hin))

/-- The steps of a path from the root through some names are the names. -/
theorem steps_intercalate {names : List String} (hslash : ∀ name ∈ names, '/' ∉ name.toList)
    (hstep : ∀ name ∈ names, isStep name = true) : steps ("/" ++ String.intercalate "/" names) = names := by
  have hsplit := Text.split_append_slash "" (String.intercalate "/" names)
  rw [String.empty_append] at hsplit
  rw [steps, hsplit, List.filter_append]
  cases names with
  | nil => rfl
  | cons name names =>
    rw [Text.split_intercalate name names hslash, List.filter_eq_self.mpr hstep]
    rfl

/-- **The absolute form of a path** leads on from where it starts by the steps of the path. -/
theorem leads_absolute {cwd path : String} (hc : cwd ≠ "") (hp : path ≠ "") :
    Leads (anchor cwd path) (steps path) (absolute cwd path) := by
  have hsteps : ∀ name ∈ steps path, '/' ∉ name.toList ∧ isStep name = true := fun name hn => (of_mem_steps hn).1
  have hwhole := (Leads.refl (anchor_ne hc path)).foldl hsteps
  rw [List.nil_append] at hwhole
  rw [absolute, if_neg hp]
  simp only
  split
  · have hempty : '/' ∉ "".toList := by simp
    have hslash := hwhole.join hempty (by decide)
    simpa [isStep] using hslash
  · exact hwhole

theorem fileName_concat {path last : String} {before : List String} (hs : Text.split '/' path = before ++ [last]) :
    fileName path = last := by
  rw [fileName, hs, List.getLastD_concat]

/-- A path has its parts before the last one, and that. -/
theorem exists_split_eq (path : String) : ∃ before, Text.split '/' path = before ++ [fileName path] := by
  obtain ⟨before, last, hsplit⟩ : ∃ before last, Text.split '/' path = before ++ [last] :=
    ⟨_, _, (List.dropLast_concat_getLast (Text.split_ne_nil path)).symm⟩
  exact ⟨before, by rw [fileName_concat hsplit]; exact hsplit⟩

/-- The last part of a path stays the last part of its absolute form, if it is a step. -/
theorem fileName_absolute {cwd path : String} (hc : cwd ≠ "") (hs : isStep (fileName path) = true) :
    fileName (absolute cwd path) = fileName path := by
  have hp : path ≠ "" := by
    rintro rfl
    exact absurd hs (by decide)
  have hslash : endsWithSlash path = false := by
    rw [← Bool.not_eq_true]
    intro hslash
    obtain ⟨w, rfl⟩ := exists_of_endsWithSlash hslash
    have hsplit := Text.split_append_slash w ""
    rw [String.append_empty] at hsplit
    rw [fileName_concat hsplit] at hs
    exact absurd hs (by decide)
  obtain ⟨before, hsplit⟩ := exists_split_eq path
  have hsteps : steps path = before.filter isStep ++ [fileName path] := by
    rw [steps, hsplit, List.filter_append, List.filter_cons_of_pos hs, List.filter_nil]
  have hbefore : ∀ name ∈ before.filter isStep, '/' ∉ name.toList ∧ isStep name = true := by
    intro name hn
    have hstep : name ∈ steps path := by
      rw [hsteps]
      exact List.mem_append_left _ hn
    exact (of_mem_steps hstep).1
  have hwhole := (Leads.refl (anchor_ne hc path)).foldl hbefore
  have hname : '/' ∉ (fileName path).toList := (Text.of_mem_split (by rw [hsplit]; simp)).1
  obtain ⟨_, hjoined, -⟩ := split_join hwhole.ne hname
  rw [absolute, if_neg hp, hslash, hsteps, List.foldl_append]
  exact fileName_concat hjoined

end Path

/-! ## Walks past parts that are no steps -/

namespace FileSystem

variable {fs grown : FileSystem} {path : String} {loc here : Location}

/-- In a directory, a part that is no step is skipped. -/
theorem walk_cons_of_not_isStep {mode : Nat} {part : String} (hn : fs.node? here = some (.directory mode))
    (hp : Path.isStep part = false) (parts : List String) : fs.walk here (part :: parts) = fs.walk here parts :=
  walk_of_goes hn (.stay (Path.isStep_eq_false_iff.mp hp)) parts

/-- Along a part a walk goes the same way, whatever follows. -/
theorem walk_cons_congr {part : String} {parts others : List String}
    (hrest : ∀ next, fs.walk next parts = .ok loc → fs.walk next others = .ok loc)
    (h : fs.walk here (part :: parts) = .ok loc) : fs.walk here (part :: others) = .ok loc := by
  obtain ⟨⟨mode, hd⟩, next, hg, hw⟩ := goes_of_walk h
  rw [walk_of_goes hd hg]
  exact hrest next hw

/-- A walk that arrives arrives without the parts that are no steps. -/
theorem walk_filter : ∀ {parts : List String} {here : Location}, fs.walk here parts = .ok loc →
    fs.walk here (parts.filter Path.isStep) = .ok loc
  | [], here, h => h
  | part :: parts, here, h => by
    cases hp : Path.isStep part with
    | false =>
      obtain ⟨⟨mode, hn⟩, -⟩ := goes_of_walk h
      rw [walk_cons_of_not_isStep hn hp] at h
      rw [List.filter_cons_of_neg (by simp [hp])]
      exact walk_filter h
    | true =>
      rw [List.filter_cons_of_pos hp]
      exact walk_cons_congr (fun next => walk_filter) h

/-- A walk along steps arrives with other parts among them too, if the last of all is a step or it arrives in a
directory. -/
theorem walk_of_filter : ∀ {parts : List String} {here : Location}, fs.walk here (parts.filter Path.isStep) = .ok loc →
    (∀ last, parts.getLast? = some last → Path.isStep last = false → ∃ mode, fs.node? loc = some (.directory mode)) →
    fs.walk here parts = .ok loc
  | [], here, h, _ => h
  | [part], here, h, hend => by
    cases hp : Path.isStep part with
    | false =>
      obtain ⟨mode, hn⟩ := hend part rfl hp
      rw [List.filter_cons_of_neg (by simp [hp]), List.filter_nil] at h
      obtain ⟨rfl, -⟩ := walk_nil_eq_ok_iff.mp h
      rw [walk_cons_of_not_isStep hn hp]
      exact h
    | true =>
      rw [List.filter_cons_of_pos hp] at h
      exact h
  | part :: next :: parts, here, h, hend => by
    have hlater : ∀ last, (next :: parts).getLast? = some last → Path.isStep last = false →
        ∃ mode, fs.node? loc = some (.directory mode) := by
      intro last hlast
      exact hend last (by rw [List.getLast?_cons_cons, hlast])
    cases hp : Path.isStep part with
    | false =>
      rw [List.filter_cons_of_neg (by simp [hp])] at h
      have hrest := walk_of_filter h hlater
      obtain ⟨⟨mode, hn⟩, -⟩ := goes_of_walk hrest
      rw [walk_cons_of_not_isStep hn hp]
      exact hrest
    | true =>
      rw [List.filter_cons_of_pos hp] at h
      exact walk_cons_congr (fun _ hnext => walk_of_filter hnext hlater) h

/-- A walk that ends with a part that is no step arrives in a directory. -/
theorem exists_directory_of_walk_concat {parts : List String} {part : String}
    (h : fs.walk here (parts ++ [part]) = .ok loc) (hp : Path.isStep part = false) :
    ∃ mode, fs.node? loc = some (.directory mode) := by
  obtain ⟨mid, -, hlast⟩ := walk_of_append h
  obtain ⟨⟨mode, hn⟩, -⟩ := goes_of_walk hlast
  rw [walk_cons_of_not_isStep hn hp] at hlast
  obtain ⟨rfl, -⟩ := walk_nil_eq_ok_iff.mp hlast
  exact ⟨mode, hn⟩

/-! ## Where absolute forms lead -/

/-- The path of the current directory leads there, unless the directory was removed or the path is too long. -/
def KnowsCurrent (fs : FileSystem) : Prop :=
  ∀ here, fs.currentPath? = some here → here.utf8ByteSize ≤ pathLimit → fs.locate here = .ok fs.current

theorem KnowsCurrent.of_growsTo (hk : fs.KnowsCurrent) (hg : fs.GrowsTo grown) : grown.KnowsCurrent := by
  intro here hh hlimit
  rw [currentPath?, hg.current] at hh
  rw [hg.current]
  exact hg.locate (hk here hh hlimit)

theorem pathFault?_eq_none_iff : pathFault? path = none ↔
    '\x00' ∉ path.toList ∧ path ≠ "" ∧ path.utf8ByteSize ≤ pathLimit := by
  unfold pathFault?
  by_cases hnul : path.toList.contains '\x00' = true
  · rw [if_pos hnul]
    simp_all
  · rw [if_neg hnul]
    by_cases he : path = ""
    · simp [he]
    · rw [if_neg he]
      by_cases hl : pathLimit < path.utf8ByteSize
      · simp [hl, he]
      · simp_all

/-- What a path names is found by its steps, and is a directory if its last part is none. -/
theorem walk_of_locate (h : fs.locate path = .ok loc) :
    pathFault? path = none ∧ fs.walk (fs.start path) (Path.steps path) = .ok loc ∧
      (Path.isStep (Path.fileName path) = false → ∃ mode, fs.node? loc = some (.directory mode)) := by
  unfold locate at h
  split at h
  · cases h
  · next hf =>
    refine ⟨hf, walk_filter h, ?_⟩
    intro hs
    obtain ⟨before, hsplit⟩ := Path.exists_split_eq path
    rw [hsplit] at h
    exact exists_directory_of_walk_concat h hs

/-- Steps that lead somewhere lead there with a path that has them, if it is not too long. -/
theorem locate_of_walk (hf : pathFault? path = none) (h : fs.walk (fs.start path) (Path.steps path) = .ok loc)
    (hd : Path.isStep (Path.fileName path) = false → ∃ mode, fs.node? loc = some (.directory mode)) :
    fs.locate path = .ok loc := by
  have hwalk : fs.walk (fs.start path) (Text.split '/' path) = .ok loc := by
    refine walk_of_filter h ?_
    intro last hlast hs
    obtain ⟨before, hsplit⟩ := Path.exists_split_eq path
    rw [hsplit, List.getLast?_concat, Option.some.injEq] at hlast
    rw [← hlast] at hs
    exact hd hs
  rw [locate, hf]
  exact hwalk

/-- The current directory has a path of proper names, each that of a directory. -/
structure NamesCurrent (fs : FileSystem) : Prop where
  name : ∀ part ∈ fs.current, Path.isStep part = true ∧ part ≠ ".." ∧ '/' ∉ part.toList ∧ '\x00' ∉ part.toList ∧
    part.utf8ByteSize ≤ nameLimit
  directory : ∀ loc, loc <:+ fs.current → ∃ mode, fs.node? loc = some (.directory mode)

/-- The names on the way to the current directory lead there. -/
theorem NamesCurrent.walk (hc : fs.NamesCurrent) : ∀ {loc : Location}, loc <:+ fs.current →
    fs.walk [] loc.reverse = .ok loc
  | [], _ => rfl
  | part :: above, hsuffix => by
    have habove : above <:+ fs.current := (List.suffix_cons part above).trans hsuffix
    obtain ⟨hstep, hup, -, -, hlimit⟩ := hc.name part (hsuffix.subset List.mem_cons_self)
    obtain ⟨_, hd⟩ := hc.directory above habove
    obtain ⟨_, hn⟩ := hc.directory _ hsuffix
    have horphan : Location.isOrphan above = false := by
      cases above with
      | nil => rfl
      | cons outer _ =>
        obtain ⟨houter, -⟩ := hc.name outer (habove.subset List.mem_cons_self)
        refine beq_eq_false_iff_ne.mpr ?_
        intro he
        cases he
        cases houter
    have hthere : (fs.node? (part :: above)).isSome = true := by
      rw [hn]
      rfl
    obtain ⟨hne, hdot⟩ := Path.isStep_iff.mp hstep
    rw [List.reverse_cons, walk_append (NamesCurrent.walk hc habove),
      walk_of_goes hd (.down hne hdot hup horphan hlimit hthere)]
    exact walk_nil_eq_ok_iff.mpr ⟨rfl, hthere⟩

/-- So does its path. -/
theorem NamesCurrent.knowsCurrent (hc : fs.NamesCurrent) : fs.KnowsCurrent := by
  intro here hh hlimit
  unfold currentPath? at hh
  split at hh
  · cases hh
  · cases hh
    have hsteps : Path.steps ("/" ++ String.intercalate "/" fs.current.reverse) = fs.current.reverse :=
      Path.steps_intercalate (fun part hp => (hc.name part (List.mem_reverse.mp hp)).2.2.1)
        fun part hp => (hc.name part (List.mem_reverse.mp hp)).1
    have habsolute : Path.isAbsolute ("/" ++ String.intercalate "/" fs.current.reverse) = true := by
      simp [Path.isAbsolute]
    refine locate_of_walk (pathFault?_eq_none_iff.mpr ⟨?_, by simp, hlimit⟩) ?_ ?_
    · intro hnul
      rcases Path.eq_or_exists_mem_steps hnul with he | he | ⟨part, hpart, hin⟩
      · exact absurd he (by decide)
      · exact absurd he (by decide)
      · rw [hsteps, List.mem_reverse] at hpart
        exact (hc.name part hpart).2.2.2.1 hin
    · rw [start, habsolute, if_pos rfl, hsteps]
      exact hc.walk List.suffix_rfl
    · intro _
      exact hc.directory fs.current List.suffix_rfl

/-- An absolute form leads to where the path does, if the path it starts with leads to where the path is read from. -/
theorem locate_of_leads {cwd base : String} (hc : cwd ≠ "") (hbase : Path.anchor cwd path = base)
    (hroot : Path.isAbsolute base = true) (hfrom : fs.walk [] (Path.steps base) = .ok (fs.start path))
    (hclean : '\x00' ∉ base.toList) (hp : path ≠ "") (hnul : '\x00' ∉ path.toList)
    (h : fs.walk (fs.start path) (Path.steps path) = .ok loc)
    (hd : Path.isStep (Path.fileName path) = false → ∃ mode, fs.node? loc = some (.directory mode))
    (hlimit : (Path.absolute cwd path).utf8ByteSize ≤ pathLimit) : fs.locate (Path.absolute cwd path) = .ok loc := by
  have hleads := Path.leads_absolute hc hp
  rw [hbase] at hleads
  apply locate_of_walk
  · refine pathFault?_eq_none_iff.mpr ⟨?_, hleads.ne, hlimit⟩
    intro hin
    rcases hleads.chars _ hin with hin | he | ⟨step, hstep, hin⟩
    · exact hclean hin
    · exact absurd he (by decide)
    · exact hnul ((Path.of_mem_steps hstep).2 _ hin)
  · rw [start, hleads.isAbsolute, hroot, hleads.steps]
    simp only [if_true]
    rw [walk_append hfrom]
    exact h
  · intro hs
    cases hstep : Path.isStep (Path.fileName path) with
    | false => exact hd hstep
    | true =>
      rw [Path.fileName_absolute hc hstep, hstep] at hs
      cases hs

/-- An absolute path starts anew. -/
theorem anchor_of_isAbsolute {cwd : String} (ha : Path.isAbsolute path = true) :
    Path.anchor cwd path = "/" ∨ Path.anchor cwd path = "//" := by
  rw [Path.anchor, ha]
  simp only [Bool.not_true, Bool.false_eq_true, if_false]
  split
  · exact Or.inr rfl
  · exact Or.inl rfl

/-- The absolute form of an absolute path leads to where the path does. -/
theorem locate_absolute_of_isAbsolute {cwd : String} (hc : cwd ≠ "") (ha : Path.isAbsolute path = true)
    (hnul : '\x00' ∉ path.toList) (h : fs.walk (fs.start path) (Path.steps path) = .ok loc)
    (hd : Path.isStep (Path.fileName path) = false → ∃ mode, fs.node? loc = some (.directory mode))
    (hlimit : (Path.absolute cwd path).utf8ByteSize ≤ pathLimit) : fs.locate (Path.absolute cwd path) = .ok loc := by
  have hp : path ≠ "" := by
    rintro rfl
    cases ha
  have hstart : fs.start path = [] := by rw [start, ha, if_pos rfl]
  have hroot : fs.walk [] [] = .ok (fs.start path) := by
    rw [hstart]
    rfl
  have hanchor : Path.anchor cwd path = "/" ∨ Path.anchor cwd path = "//" := anchor_of_isAbsolute ha
  rcases hanchor with hbase | hbase
  · exact locate_of_leads hc hbase (by decide) hroot (by decide) hp hnul h hd hlimit
  · exact locate_of_leads hc hbase (by decide) hroot (by decide) hp hnul h hd hlimit

theorem isAbsolute_of_currentPath? {here : String} (hh : fs.currentPath? = some here) :
    Path.isAbsolute here = true ∧ here ≠ "" := by
  unfold currentPath? at hh
  split at hh
  · cases hh
  · cases hh
    exact ⟨by simp [Path.isAbsolute], by simp⟩

/-- The absolute form of a path is absolute, unless the path is empty or the current directory was removed. -/
theorem isAbsolute_absolute {here : String} (hp : path ≠ "") (hh : fs.currentPath? = some here) :
    Path.isAbsolute (fs.absolute path) = true := by
  obtain ⟨hslash, hne⟩ := isAbsolute_of_currentPath? hh
  have habsolute : fs.absolute path = Path.absolute here path := by rw [absolute, hh]
  rw [habsolute, (Path.leads_absolute hne hp).isAbsolute]
  cases ha : Path.isAbsolute path with
  | true =>
    have hanchor : Path.anchor here path = "/" ∨ Path.anchor here path = "//" := anchor_of_isAbsolute ha
    rcases hanchor with hbase | hbase <;> rw [hbase] <;> decide
  | false =>
    rw [Path.anchor, ha]
    exact hslash

/-- **The absolute form of a path leads to where the path does**, unless it is too long. -/
theorem locate_absolute (hk : fs.KnowsCurrent) (hp : path ≠ "") (hnul : '\x00' ∉ path.toList)
    (h : fs.walk (fs.start path) (Path.steps path) = .ok loc)
    (hd : Path.isStep (Path.fileName path) = false → ∃ mode, fs.node? loc = some (.directory mode))
    (hlimit : (fs.absolute path).utf8ByteSize ≤ pathLimit) : fs.locate (fs.absolute path) = .ok loc := by
  unfold absolute at hlimit ⊢
  split at hlimit
  · next here hhere =>
    have hslash := isAbsolute_of_currentPath? hhere
    cases ha : Path.isAbsolute path with
    | true => exact locate_absolute_of_isAbsolute hslash.2 ha hnul h hd hlimit
    | false =>
      have hbase : Path.anchor here path = here := by rw [Path.anchor, ha]; rfl
      have hleads := Path.leads_absolute hslash.2 hp
      rw [hbase] at hleads
      have hlocate := hk here hhere (Nat.le_trans hleads.size hlimit)
      obtain ⟨hf, hwalk, -⟩ := walk_of_locate hlocate
      have hstart : fs.start here = [] := by rw [start, hslash.1, if_pos rfl]
      have hfrom : fs.start path = fs.current := by rw [start, ha]; rfl
      rw [hstart, ← hfrom] at hwalk
      exact locate_of_leads hslash.2 hbase hslash.1 hwalk (pathFault?_eq_none_iff.mp hf).1 hp hnul h hd hlimit
  · split at hlimit
    · next ha =>
      rw [if_pos ha]
      exact locate_absolute_of_isAbsolute (by decide) ha hnul h hd hlimit
    · next ha =>
      rw [if_neg ha]
      exact locate_of_walk (pathFault?_eq_none_iff.mpr ⟨hnul, hp, hlimit⟩) h hd

/-- **A relative path leads to where it does below the path of the current directory.** -/
theorem locate_of_locate_join {here : String} {mode : Nat} (hk : fs.KnowsCurrent) (hh : fs.currentPath? = some here)
    (hr : Path.isAbsolute path = false) (hp : path ≠ "") (hl : fs.locate (Path.join here path) = .ok loc)
    (hd : fs.node? loc = some (.directory mode)) : fs.locate path = .ok loc := by
  obtain ⟨hslash, hne⟩ := isAbsolute_of_currentPath? hh
  obtain ⟨before, hsplit, hbefore⟩ := Path.split_join_of_relative hne hr
  obtain ⟨between, hjoin⟩ : ∃ between, Path.join here path = here ++ (between ++ path) := Path.exists_join_eq hr
  obtain ⟨hfault, hwalk, -⟩ := walk_of_locate hl
  obtain ⟨hnul, -, hlimit⟩ := pathFault?_eq_none_iff.mp hfault
  simp only [hjoin, String.utf8ByteSize_append] at hlimit
  -- the walk along the current directory's path comes to where the path is read from
  obtain ⟨-, hthere, -⟩ := walk_of_locate (hk here hh (by omega))
  have hsteps : Path.steps (Path.join here path) = Path.steps here ++ Path.steps path := by
    rw [Path.steps, hsplit, List.filter_append, hbefore]
    rfl
  have habsolute : Path.isAbsolute (Path.join here path) = true := by
    rw [hjoin]
    exact Path.isAbsolute_append_of_isAbsolute hslash _
  rw [start, hslash, if_pos rfl] at hthere
  rw [start, habsolute, if_pos rfl, hsteps, walk_append hthere] at hwalk
  apply locate_of_walk (pathFault?_eq_none_iff.mpr ⟨?_, hp, by omega⟩)
  · rw [start, hr]
    exact hwalk
  · exact fun _ => ⟨mode, hd⟩
  · intro hin
    rw [hjoin, String.toList_append, String.toList_append] at hnul
    exact hnul (List.mem_append_right _ (List.mem_append_right _ hin))

end FileSystem
end NativeLoader
