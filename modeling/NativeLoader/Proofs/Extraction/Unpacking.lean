import NativeLoader.Proofs.Extraction.Digests
import NativeLoader.Proofs.FileSystem.Absolute
import NativeLoader.Proofs.FileSystem.DrawnNames
import NativeLoader.Proofs.Package.Counterparts

/-!
# Tables that are unpacked

The files of a table of packaged libraries may stand below a directory instead, just these and no others
(`FileSystem.Unpacks`). As long as the paths below the directory are not too long, the table holds a path exactly if the
directory does (`Unpacks.contains_eq`), and if the files can be read, both deliver the same bytes there. So one root can
stand for the other anywhere among some roots: the choice falls on the same position, or comes to nothing or a conflict
as before, and what is extracted then is the same (`table_or_directory`).
-/

namespace NativeLoader

/-- A text that a file can have as its name. -/
structure IsFileName (name : String) : Prop where
  isStep : Path.isStep name = true
  ne_dots : name ≠ ".."
  slash : '/' ∉ name.toList
  nul : '\x00' ∉ name.toList
  short : name.utf8ByteSize ≤ FileSystem.nameLimit

/-- The location of a packaged library below a directory. -/
def packagedAt (top : Location) (name : String) : Location := name :: "tdlight-native" :: "META-INF" :: top

/-- The names on the way from a directory to a packaged library below it. -/
def packagedParts (name : String) : List String := ["META-INF", "tdlight-native", name]

/-- Packaged libraries in a table, each under its file name. -/
def Root.table (label : String) (files : List (String × List UInt8)) : Root :=
  .embedded label (files.map fun file => (home ++ file.1, file.2))

variable {fs : FileSystem} {base name : String} {files : List (String × List UInt8)} {top loc : Location}

/-- Some packaged libraries stand below a directory, each in its file, and no other file stands there with them; the
owner may search the directories above them. A path leads to the directory; the empty one is read from the current
directory. -/
structure FileSystem.Unpacks (fs : FileSystem) (base : String) (files : List (String × List UInt8)) (top : Location) :
    Prop where
  leads : base = "" ∧ fs.current = top ∨ fs.locate base = .ok top
  directories : files ≠ [] → top.isOrphan = false ∧
    ∀ above ∈ [top, "META-INF" :: top, "tdlight-native" :: "META-INF" :: top],
      ∃ mode, fs.node? above = some (.directory mode) ∧ ownerExecutes mode = true
  holds : ∀ file ∈ files, ∃ mode, fs.node? (packagedAt top file.1) = some (.file mode file.2)
  only : ∀ name mode bytes, fs.node? (packagedAt top name) = some (.file mode bytes) → ∃ file ∈ files, file.1 = name

/-- The owner may read the packaged libraries below a directory. -/
def FileSystem.LetsRead (fs : FileSystem) (top : Location) : Prop :=
  ∀ name mode bytes, fs.node? (packagedAt top name) = some (.file mode bytes) → ownerReads mode = true

/-! ## Paths of packaged libraries -/

theorem IsFileName.of_mem_packagedParts (hn : IsFileName name) : ∀ part ∈ packagedParts name, IsFileName part := by
  intro part hp
  rcases List.mem_cons.mp hp with rfl | hp
  · exact ⟨by decide, by decide, by decide, by decide, by decide⟩
  · rcases List.mem_cons.mp hp with rfl | hp
    · exact ⟨by decide, by decide, by decide, by decide, by decide⟩
    · rwa [List.mem_singleton.mp hp]

namespace Root

/-- The names on the way to a packaged library are the parts of its path. -/
theorem split_home (hn : IsFileName name) : Text.split '/' (home ++ name) = packagedParts name := by
  have hjoined : home ++ name = String.intercalate "/" (packagedParts name) := by
    simp [packagedParts, home, ← String.toList_inj]
  rw [hjoined]
  exact Text.split_intercalate _ _ fun part hp => (hn.of_mem_packagedParts part hp).slash

/-- A directory keeps a packaged library at the path that these names are joined to. -/
theorem place_home (hn : IsFileName name) (base : String) :
    place base (home ++ name) = (packagedParts name).foldl Path.join base := by
  have hfilter : (packagedParts name).filter (· != "") = packagedParts name := by
    refine List.filter_eq_self.mpr ?_
    intro part hp
    exact bne_iff_ne.mpr (Path.isStep_iff.mp (hn.of_mem_packagedParts part hp).isStep).1
  rw [place, split_home hn, hfilter]

/-- The path leads on from the directory's, and ends in the library's name. -/
theorem leads_place (hn : IsFileName name) (hb : base ≠ "") :
    Path.Leads base (packagedParts name) (place base (home ++ name)) := by
  have hparts : ∀ part ∈ packagedParts name, '/' ∉ part.toList ∧ Path.isStep part = true :=
    fun part hp => ⟨(hn.of_mem_packagedParts part hp).slash, (hn.of_mem_packagedParts part hp).isStep⟩
  rw [place_home hn]
  exact (Path.Leads.refl hb).foldl hparts

/-- From the current directory, it leads on from the first name. -/
theorem leads_place_empty (hn : IsFileName name) :
    Path.Leads "META-INF" ["tdlight-native", name] (place "" (home ++ name)) := by
  have hparts : ∀ part ∈ ["tdlight-native", name], '/' ∉ part.toList ∧ Path.isStep part = true := by
    intro part hp
    have hpart := hn.of_mem_packagedParts part (List.mem_cons_of_mem _ hp)
    exact ⟨hpart.slash, hpart.isStep⟩
  rw [place_home hn]
  exact (Path.Leads.refl (by decide)).foldl hparts

theorem fileName_place (hn : IsFileName name) (base : String) : Path.fileName (place base (home ++ name)) = name := by
  let above := Path.join (Path.join base "META-INF") "tdlight-native"
  have hne : above ≠ "" := by
    obtain ⟨between, hjoin⟩ : ∃ between, above = Path.join base "META-INF" ++ (between ++ "tdlight-native") :=
      Path.exists_join_eq (by decide)
    rw [hjoin]
    intro he
    have hlast := (String.append_eq_empty_iff.mp (String.append_eq_empty_iff.mp he).2).2
    exact absurd hlast (by decide)
  obtain ⟨before, hsplit, -⟩ := Path.split_join hne hn.slash
  rw [place_home hn]
  exact Path.fileName_concat hsplit

theorem place_ne_empty (hn : IsFileName name) (base : String) : place base (home ++ name) ≠ "" := by
  intro he
  have hlast := fileName_place hn base
  have hstep := hn.isStep
  rw [← hlast, he] at hstep
  exact absurd hstep (by decide)

/-- The path is at least as long as the directory's and the name together. -/
theorem size_le_place (hn : IsFileName name) (base : String) :
    base.utf8ByteSize + name.utf8ByteSize ≤ (place base (home ++ name)).utf8ByteSize := by
  let above := Path.join (Path.join base "META-INF") "tdlight-native"
  have houter := Path.size_le_join base (show Path.isAbsolute "META-INF" = false by decide)
  have hinner : _ ≤ above.utf8ByteSize :=
    Path.size_le_join (Path.join base "META-INF") (show Path.isAbsolute "tdlight-native" = false by decide)
  have hname := Path.size_le_join above (Path.isAbsolute_of_not_mem hn.slash)
  have hplace : place base (home ++ name) = Path.join above name := place_home hn base
  rw [hplace]
  omega

/-- The path holds nothing but what the directory's path and the names hold, and slashes. -/
theorem mem_place (hn : IsFileName name) {c : Char} (hc : c ∈ (place base (home ++ name)).toList) :
    c ∈ base.toList ∨ c = '/' ∨ ∃ part ∈ packagedParts name, c ∈ part.toList := by
  by_cases hb : base = ""
  · subst hb
    rcases (leads_place_empty hn).chars c hc with hin | he | ⟨part, hp, hin⟩
    · exact Or.inr (Or.inr ⟨_, List.mem_cons_self, hin⟩)
    · exact Or.inr (Or.inl he)
    · exact Or.inr (Or.inr ⟨part, List.mem_cons_of_mem _ hp, hin⟩)
  · exact (leads_place hn hb).chars c hc

/-! ## Tables of packaged libraries -/

/-- A table holds the bytes that are kept under a library's file name. -/
theorem lookup_table (name : String) : ∀ files : List (String × List UInt8),
    (files.map fun file => (home ++ file.1, file.2)).lookup (home ++ name) = files.lookup name
  | [] => rfl
  | (other, bytes) :: files => by
    have hsame : (home ++ name == home ++ other) = (name == other) := by
      rw [Bool.eq_iff_iff, beq_iff_eq, beq_iff_eq, String.append_right_inj]
    rw [List.map_cons, List.lookup_cons, List.lookup_cons, hsame, lookup_table name files]

theorem contains_table (fs : FileSystem) (label name : String) (files : List (String × List UInt8)) :
    (table label files).contains fs (home ++ name) = (files.lookup name).isSome := by
  rw [table, contains, lookup_table]

theorem reader_table {bytes : List UInt8} (fs : FileSystem) (label : String) (h : files.lookup name = some bytes) :
    (table label files).reader fs (home ++ name) = .ok (.ofBytes bytes) := by
  simp only [table, reader, lookup_table, h]

end Root

/-! ## Files below a directory -/

namespace FileSystem

/-- In a directory that was not removed, a walk goes on by the name of a file or directory there, and only so. -/
theorem walk_cons_eq_ok_iff {part : String} {parts : List String} {here : Location} (hp : IsFileName part) :
    fs.walk here (part :: parts) = .ok loc ↔
      (∃ mode, fs.node? here = some (.directory mode)) ∧ here.isOrphan = false ∧
        fs.walk (part :: here) parts = .ok loc := by
  obtain ⟨hne, hdot⟩ := Path.isStep_iff.mp hp.isStep
  constructor
  · intro h
    obtain ⟨hdirectory, next, hg, hrest⟩ := goes_of_walk h
    cases hg with
    | stay he => exact absurd he (not_or.mpr ⟨hne, hdot⟩)
    | up he => exact absurd he hp.ne_dots
    | down _ _ _ horphan _ _ => exact ⟨hdirectory, horphan, hrest⟩
  · rintro ⟨⟨mode, hd⟩, horphan, h⟩
    rw [walk_of_goes hd (.down hne hdot hp.ne_dots horphan hp.short (isSome_of_walk h))]
    exact h

/-- The names on the way lead nowhere else. -/
theorem eq_packagedAt_of_walk (hn : IsFileName name) (h : fs.walk top (packagedParts name) = .ok loc) :
    loc = packagedAt top name := by
  obtain ⟨-, -, h⟩ := (walk_cons_eq_ok_iff (hn.of_mem_packagedParts _ (by simp [packagedParts]))).mp h
  obtain ⟨-, -, h⟩ := (walk_cons_eq_ok_iff (hn.of_mem_packagedParts _ (by simp [packagedParts]))).mp h
  obtain ⟨-, -, h⟩ := (walk_cons_eq_ok_iff hn).mp h
  exact (walk_nil_eq_ok_iff.mp h).1

namespace Unpacks

/-- The path of a packaged library leads on from the directory that holds the libraries. -/
theorem walk_place (hu : fs.Unpacks base files top) (hn : IsFileName name) :
    fs.walk (fs.start (Root.place base (Root.home ++ name))) (Path.steps (Root.place base (Root.home ++ name))) =
      fs.walk top (packagedParts name) := by
  rcases hu.leads with ⟨rfl, rfl⟩ | hl
  · have hleads := Root.leads_place_empty hn
    have hfirst : Path.steps "META-INF" = ["META-INF"] := by decide +kernel
    rw [hleads.steps, hfirst, start, hleads.isAbsolute]
    rfl
  · obtain ⟨hf, hwalk, -⟩ := walk_of_locate hl
    have hleads := Root.leads_place hn (pathFault?_eq_none_iff.mp hf).2.1
    have hstart : fs.start (Root.place base (Root.home ++ name)) = fs.start base := by
      rw [start, start, hleads.isAbsolute]
    rw [hleads.steps, hstart, walk_append hwalk]

/-- There is nothing wrong with the path, unless it is too long. -/
theorem pathFault?_place (hu : fs.Unpacks base files top) (hn : IsFileName name)
    (hlimit : (Root.place base (Root.home ++ name)).utf8ByteSize ≤ pathLimit) :
    pathFault? (Root.place base (Root.home ++ name)) = none := by
  refine pathFault?_eq_none_iff.mpr ⟨?_, Root.place_ne_empty hn base, hlimit⟩
  intro hnul
  rcases Root.mem_place hn hnul with hin | he | ⟨part, hp, hin⟩
  · rcases hu.leads with ⟨rfl, -⟩ | hl
    · cases hin
    · exact (pathFault?_eq_none_iff.mp (walk_of_locate hl).1).1 hin
  · exact absurd he (by decide)
  · exact (hn.of_mem_packagedParts part hp).nul hin

/-- What the path leads to stands below the directory. -/
theorem locate_place_iff (hu : fs.Unpacks base files top) (hn : IsFileName name)
    (hlimit : (Root.place base (Root.home ++ name)).utf8ByteSize ≤ pathLimit) :
    fs.locate (Root.place base (Root.home ++ name)) = .ok loc ↔ fs.walk top (packagedParts name) = .ok loc := by
  rw [← hu.walk_place hn]
  constructor
  · intro h
    exact (walk_of_locate h).2.1
  · intro h
    refine locate_of_walk (hu.pathFault?_place hn hlimit) h ?_
    intro hnot
    rw [Root.fileName_place hn, hn.isStep] at hnot
    cases hnot

/-- What stands there is found, if it is a library. -/
theorem walk_packagedParts (hu : fs.Unpacks base files top) (hn : IsFileName name) {mode : Nat} {bytes : List UInt8}
    (hf : fs.node? (packagedAt top name) = some (.file mode bytes)) :
    fs.walk top (packagedParts name) = .ok (packagedAt top name) := by
  obtain ⟨file, hfile, -⟩ := hu.only _ _ _ hf
  obtain ⟨horphan, hsearched⟩ := hu.directories (List.ne_nil_of_mem hfile)
  have hdirectories : ∀ above ∈ [top, "META-INF" :: top, "tdlight-native" :: "META-INF" :: top],
      ∃ mode, fs.node? above = some (.directory mode) :=
    fun above habove => (hsearched above habove).imp fun _ hd => hd.1
  refine (walk_cons_eq_ok_iff (hn.of_mem_packagedParts _ (by simp [packagedParts]))).mpr
    ⟨hdirectories _ (by simp), horphan, ?_⟩
  refine (walk_cons_eq_ok_iff (hn.of_mem_packagedParts _ (by simp [packagedParts]))).mpr
    ⟨hdirectories _ (by simp), rfl, ?_⟩
  refine (walk_cons_eq_ok_iff hn).mpr ⟨hdirectories _ (by simp), rfl, walk_nil_eq_ok_iff.mpr ⟨rfl, ?_⟩⟩
  rw [show fs.node? (name :: "tdlight-native" :: "META-INF" :: top) = _ from hf]
  rfl

/-- The path leads to a file exactly if that is a library below the directory. -/
theorem leads_to_file_iff (hu : fs.Unpacks base files top) (hn : IsFileName name)
    (hlimit : (Root.place base (Root.home ++ name)).utf8ByteSize ≤ pathLimit) {mode : Nat} {bytes : List UInt8} :
    (∃ loc, fs.locate (Root.place base (Root.home ++ name)) = .ok loc ∧ fs.node? loc = some (.file mode bytes)) ↔
      fs.node? (packagedAt top name) = some (.file mode bytes) := by
  constructor
  · rintro ⟨loc, hl, hf⟩
    rwa [eq_packagedAt_of_walk hn ((hu.locate_place_iff hn hlimit).mp hl)] at hf
  · intro hf
    exact ⟨_, (hu.locate_place_iff hn hlimit).mpr (hu.walk_packagedParts hn hf), hf⟩

/-- A library's bytes in a table are those in its file. -/
theorem lookup_eq_some_iff (hu : fs.Unpacks base files top) {bytes : List UInt8} :
    files.lookup name = some bytes ↔ ∃ mode, fs.node? (packagedAt top name) = some (.file mode bytes) := by
  have hholds : ∀ {bytes}, files.lookup name = some bytes →
      ∃ mode, fs.node? (packagedAt top name) = some (.file mode bytes) := by
    intro bytes h
    obtain ⟨_, _, hfiles, -⟩ := List.lookup_eq_some_iff.mp h
    exact hu.holds (name, bytes) (by simp [hfiles])
  refine ⟨hholds, ?_⟩
  rintro ⟨mode, hf⟩
  obtain ⟨file, hfile, rfl⟩ := hu.only _ _ _ hf
  have hsome : (files.lookup file.1).isSome = true := List.lookup_isSome_iff.mpr ⟨file, hfile, BEq.rfl⟩
  obtain ⟨other, hother⟩ := Option.isSome_iff_exists.mp hsome
  obtain ⟨mode', hf'⟩ := hholds hother
  rw [hf] at hf'
  cases hf'
  exact hother

/-- The directory holds a library exactly if a table of the libraries does. -/
theorem contains_eq (hu : fs.Unpacks base files top) (hn : IsFileName name)
    (hlimit : (Root.place base (Root.home ++ name)).utf8ByteSize ≤ pathLimit) (label : String) :
    (Root.directory base).contains fs (Root.home ++ name) =
      (Root.table label files).contains fs (Root.home ++ name) := by
  rw [Root.contains_table, Bool.eq_iff_iff, Option.isSome_iff_exists, Root.contains, isFile_iff]
  constructor
  · rintro ⟨loc, mode, bytes, hl, hf⟩
    exact ⟨bytes, hu.lookup_eq_some_iff.mpr ⟨mode, (hu.leads_to_file_iff hn hlimit).mp ⟨loc, hl, hf⟩⟩⟩
  · rintro ⟨bytes, hb⟩
    obtain ⟨mode, hf⟩ := hu.lookup_eq_some_iff.mp hb
    obtain ⟨loc, hl, hf⟩ := (hu.leads_to_file_iff hn hlimit).mpr hf
    exact ⟨loc, mode, bytes, hl, hf⟩

/-- The directory delivers the bytes that a table holds, if they may be read. -/
theorem reader_eq (hu : fs.Unpacks base files top) (hn : IsFileName name)
    (hlimit : (Root.place base (Root.home ++ name)).utf8ByteSize ≤ pathLimit) (hread : fs.LetsRead top)
    {bytes : List UInt8} (hb : files.lookup name = some bytes) :
    (Root.directory base).reader fs (Root.home ++ name) = .ok (.ofBytes bytes) := by
  obtain ⟨mode, hf⟩ := hu.lookup_eq_some_iff.mp hb
  obtain ⟨loc, hl, hn'⟩ := (hu.leads_to_file_iff hn hlimit).mpr hf
  have hreads : ownerReads (Node.file mode bytes).mode = true := hread name mode bytes hf
  simp only [Root.reader, reader, status, hl, hn', if_pos hreads]

end Unpacks
end FileSystem

/-! ## One root for the other -/

/-- Resources that are read alike, however the files grow, are extracted alike. -/
theorem Host.extract_congr {c d : Candidate} {h : Host} {r : Reader} (hpath : d.path = c.path) (hr : r.ending = none)
    (hreads : ∀ grown, h.files.GrowsTo grown → c.reader grown = .ok r ∧ d.reader grown = .ok r) (directory : String) :
    h.extract d directory = h.extract c directory := by
  have hname : d.fileName = c.fileName := by rw [Candidate.fileName, Candidate.fileName, hpath]
  unfold extract
  simp only [hname]
  cases hm : h.makeTemporaryFile directory (splitExtension c.fileName).1 (splitExtension c.fileName).2 with
  | mk made after =>
    cases made with
    | error fault => rfl
    | ok found =>
      obtain ⟨_, _, _, _, _, _, hcreated⟩ := makeTemporaryFile_eq_ok hm
      obtain ⟨hc, hd⟩ := hreads after.files (FileSystem.AddsFile.createFile hcreated).growsTo
      simp only [Candidate.copyTo, hc, hd, hr]

namespace FileSystem.Unpacks

/-- A table and the directory hold and deliver the same. -/
theorem reads_alike (hu : fs.Unpacks base files top) (hread : fs.LetsRead top) (hn : IsFileName name)
    (hlimit : (Root.place base (Root.home ++ name)).utf8ByteSize ≤ pathLimit) {label : String}
    (hheld : (Root.table label files).contains fs (Root.home ++ name) = true) :
    ∃ bytes, (Root.table label files).reader fs (Root.home ++ name) = .ok (.ofBytes bytes) ∧
      (Root.directory base).reader fs (Root.home ++ name) = .ok (.ofBytes bytes) := by
  rw [Root.contains_table] at hheld
  obtain ⟨bytes, hb⟩ := Option.isSome_iff_exists.mp hheld
  exact ⟨bytes, Root.reader_table fs label hb, hu.reader_eq hn hlimit hread hb⟩

/-- So they are counterparts. -/
theorem counterparts (hu : fs.Unpacks base files top) (hread : fs.LetsRead top) (hn : IsFileName name)
    (hlimit : (Root.place base (Root.home ++ name)).utf8ByteSize ≤ pathLimit) (label : String) :
    (Root.table label files).Counterparts fs fs (Root.home ++ name) (.directory base) := by
  refine ⟨hu.contains_eq hn hlimit label, ?_⟩
  intro hheld
  obtain ⟨bytes, ht, hd⟩ := hu.reads_alike hread hn hlimit hheld
  simp only [Candidate.digest?, Candidate.reader, ht, hd]

/-- What a table holds is extracted from the directory as it is from the table. -/
theorem extract_eq (hu : fs.Unpacks base files top) (hread : fs.LetsRead top) (hn : IsFileName name)
    (hlimit : (Root.place base (Root.home ++ name)).utf8ByteSize ≤ pathLimit) {label : String}
    (hheld : (Root.table label files).contains fs (Root.home ++ name) = true) {h : Host}
    (hgrown : fs.GrowsTo h.files) (into : String) :
    h.extract ⟨.directory base, Root.home ++ name⟩ into =
      h.extract ⟨Root.table label files, Root.home ++ name⟩ into := by
  obtain ⟨bytes, ht, hd⟩ := hu.reads_alike hread hn hlimit hheld
  have hheld' := (hu.contains_eq hn hlimit label).trans hheld
  have hagain : ∀ grown, h.files.GrowsTo grown →
      Candidate.reader grown ⟨Root.table label files, Root.home ++ name⟩ = .ok (.ofBytes bytes) ∧
        Candidate.reader grown ⟨.directory base, Root.home ++ name⟩ = .ok (.ofBytes bytes) := by
    intro grown hg
    have hall := hgrown.trans hg
    exact ⟨(Root.reader_of_growsTo hall hheld).trans ht, (Root.reader_of_growsTo hall hheld').trans hd⟩
  have hending : (Reader.ofBytes bytes).ending = none := rfl
  exact Host.extract_congr (c := ⟨Root.table label files, Root.home ++ name⟩)
    (d := ⟨.directory base, Root.home ++ name⟩) rfl hending hagain into

end FileSystem.Unpacks

/-- Among some roots a table of packaged libraries was replaced, anywhere, by the directory that they stand below. -/
def Root.Unpacked (label : String) (files : List (String × List UInt8)) (base : String) :
    List Root → List Root → Prop :=
  List.Forall₂ fun root other => other = root ∨ root = table label files ∧ other = .directory base

/-- **A table and the directory to which it was unpacked** hold the same libraries with the same bytes, if the paths in
the directory are not too long and the files may be read. One in the place of the other, anywhere among some roots,
changes neither the position of the root that is chosen, nor that none is, nor that there is a conflict; and the same is
extracted, in whatever process whose files are those or have grown since. -/
theorem table_or_directory (label : String) (hu : fs.Unpacks base files top) (hread : fs.LetsRead top)
    (hn : IsFileName name)
    (hlimit : (Root.place base (Root.home ++ name)).utf8ByteSize ≤ FileSystem.pathLimit) :
    let table := Root.table label files
    let directory := Root.directory base
    let path := Root.home ++ name
    directory.contains fs path = table.contains fs path ∧
    (table.contains fs path = true → ∃ bytes, table.reader fs path = .ok (.ofBytes bytes) ∧
      directory.reader fs path = .ok (.ofBytes bytes)) ∧
    ∀ detect roots others, Root.Unpacked label files base roots others →
      let before := (choose detect fs path roots).result path
      let after := (choose detect fs path others).result path
      (before = .ok none ∧ after = .ok none) ∨
      (∃ failure failure', before = .error failure ∧ after = .error failure') ∨
      ∃ i c d, before = .ok (some c) ∧ after = .ok (some d) ∧ c.path = path ∧ d.path = path ∧
        roots.findIdx? (·.contains fs path) = some i ∧ others.findIdx? (·.contains fs path) = some i ∧
        roots[i]? = some c.root ∧ others[i]? = some d.root ∧
        ∀ (into : String) (h : Host), fs.GrowsTo h.files → h.extract d into = h.extract c into := by
  intro table directory path
  refine ⟨hu.contains_eq hn hlimit label, hu.reads_alike hread hn hlimit, ?_⟩
  intro detect roots others hunpacked
  have hcounterparts : ∀ root other, other = root ∨ root = table ∧ other = directory →
      root.Counterparts fs fs path other := by
    rintro root other (rfl | ⟨rfl, rfl⟩)
    · exact .refl fs path _
    · exact hu.counterparts hread hn hlimit label
  rcases (choose_counterparts detect hcounterparts hunpacked).results path with
    hnone | ⟨⟨root, _⟩, ⟨other, _⟩, ⟨rfl, rfl, hroots, hheld⟩, hbefore, hafter⟩ | hconflict
  · exact Or.inl hnone
  · obtain ⟨i, hfirst, hget⟩ := getElem?_of_choose hbefore
    obtain ⟨j, hfirst', hget'⟩ := getElem?_of_choose hafter
    have hposition := hfirst'
    rw [findIdx?_counterparts hcounterparts hunpacked, hfirst] at hposition
    cases hposition
    refine Or.inr (Or.inr ⟨i, _, _, hbefore, hafter, rfl, rfl, hfirst, hfirst', hget, hget', ?_⟩)
    intro into h hgrown
    rcases hroots with hroots | ⟨htable, hdirectory⟩
    · obtain rfl : other = root := hroots
      rfl
    · obtain rfl : root = table := htable
      obtain rfl : other = directory := hdirectory
      exact hu.extract_eq hread hn hlimit hheld hgrown into
  · exact Or.inr (Or.inl hconflict)

/-! ## A library below a directory -/

/-- A library's bytes. -/
def libraryBytes : List UInt8 := [0x65, 0x6c, 0x66]

/-- One library below a directory. -/
def unpackedLibrary (name : String) (mode : Nat) : FileSystem where
  entries := [(["jar"], .directory 0o755), (["META-INF", "jar"], .directory 0o755),
    (["tdlight-native", "META-INF", "jar"], .directory 0o755), (packagedAt ["jar"] name, .file mode libraryBytes)]

/-- The path of the directory, with slashes behind it. -/
def slashed : Nat → String
  | 0 => "jar"
  | n + 1 => slashed n ++ "/"

/-- A name that leaves little of a path's length to the directory. -/
def longName : String := String.ofList (List.replicate 240 'x')

theorem node?_unpackedLibrary (name other : String) (mode : Nat) :
    (unpackedLibrary name mode).node? (packagedAt ["jar"] other) =
      if other = name then some (.file mode libraryBytes) else none := by
  by_cases he : other = name
  · simp [unpackedLibrary, FileSystem.node?, packagedAt, List.lookup_cons, he]
  · have hne : (other == name) = false := beq_eq_false_iff_ne.mpr he
    simp [unpackedLibrary, FileSystem.node?, packagedAt, List.lookup_cons, he, hne]

theorem toList_slashed : ∀ n, (slashed n).toList = "jar".toList ++ List.replicate n '/'
  | 0 => rfl
  | n + 1 => by
    rw [slashed, String.toList_append, toList_slashed n, List.append_assoc, List.replicate_succ']
    rfl

theorem utf8ByteSize_slashed : ∀ n, (slashed n).utf8ByteSize = n + 3
  | 0 => rfl
  | n + 1 => by
    have hslash : "/".utf8ByteSize = 1 := rfl
    rw [slashed, String.utf8ByteSize_append, utf8ByteSize_slashed n, hslash]

/-- The slashes add no steps. -/
theorem steps_slashed : ∀ n, Path.steps (slashed n) = ["jar"]
  | 0 => by decide +kernel
  | n + 1 => by rw [slashed, Path.steps_append_slash, steps_slashed n]

/-- The path leads to the directory, unless it is too long. -/
theorem locate_slashed (name : String) (mode : Nat) {n : Nat} (hlimit : n + 3 ≤ FileSystem.pathLimit) :
    (unpackedLibrary name mode).locate (slashed n) = .ok ["jar"] := by
  have hlist := toList_slashed n
  have hrelative : Path.isAbsolute (slashed n) = false := by simp [Path.isAbsolute, hlist]
  refine FileSystem.locate_of_walk (FileSystem.pathFault?_eq_none_iff.mpr ⟨?_, ?_, ?_⟩) ?_ fun _ => ⟨0o755, rfl⟩
  · simp [hlist]
  · intro he
    rw [he] at hlist
    simp at hlist
  · rwa [utf8ByteSize_slashed]
  · rw [FileSystem.start, hrelative, steps_slashed]
    rfl

theorem unpacks_slashed (name : String) (mode : Nat) {n : Nat} (hlimit : n + 3 ≤ FileSystem.pathLimit) :
    (unpackedLibrary name mode).Unpacks (slashed n) [(name, libraryBytes)] ["jar"] where
  leads := Or.inr (locate_slashed name mode hlimit)
  directories _ := by
    refine ⟨rfl, fun above habove => ⟨0o755, ?_, by decide⟩⟩
    simp only [List.mem_cons, List.not_mem_nil, or_false] at habove
    rcases habove with rfl | rfl | rfl <;> rfl
  holds := by
    intro file hfile
    obtain rfl := List.mem_singleton.mp hfile
    exact ⟨mode, by rw [node?_unpackedLibrary, if_pos rfl]⟩
  only := by
    intro other mode' bytes hf
    rw [node?_unpackedLibrary] at hf
    split at hf
    · next he => exact ⟨_, List.mem_singleton_self _, he.symm⟩
    · cases hf

/-- The owner may read the library if its mode says so. -/
theorem letsRead_unpackedLibrary {name : String} {mode : Nat} (hm : ownerReads mode = true) :
    (unpackedLibrary name mode).LetsRead ["jar"] := by
  intro other mode' bytes hf
  rw [node?_unpackedLibrary] at hf
  split at hf
  · cases hf
    exact hm
  · cases hf

theorem eq_of_mem_longName {c : Char} (hc : c ∈ longName.toList) : c = 'x' := by
  have hlist : longName.toList = List.replicate 240 'x' := String.toList_ofList
  rw [hlist] at hc
  exact List.eq_of_mem_replicate hc

theorem isFileName_longName : IsFileName longName where
  isStep := by decide +kernel
  ne_dots := by decide +kernel
  slash hslash := absurd (eq_of_mem_longName hslash) (by decide)
  nul hnul := absurd (eq_of_mem_longName hnul) (by decide)
  short := by decide +kernel

/-- **A directory is unlike the table** where its path, with many slashes at the end, leaves too few bytes for the paths
in it, and where the library may not be read. -/
theorem directory_unlike_table :
    let long := unpackedLibrary longName 0o644
    let locked := unpackedLibrary "libx.so" 0o000
    (long.Unpacks (slashed 3900) [(longName, libraryBytes)] ["jar"] ∧ long.LetsRead ["jar"] ∧ IsFileName longName ∧
      (Root.table "jar" [(longName, libraryBytes)]).contains long (Root.home ++ longName) = true ∧
      (Root.directory (slashed 3900)).contains long (Root.home ++ longName) = false) ∧
    locked.Unpacks "jar" [("libx.so", libraryBytes)] ["jar"] ∧ IsFileName "libx.so" ∧
      (Root.directory "jar").contains locked (Root.home ++ "libx.so") = true ∧
      (Root.directory "jar").reader locked (Root.home ++ "libx.so") = .error (.system .denied) := by
  intro long locked
  refine ⟨⟨unpacks_slashed _ _ (by decide), letsRead_unpackedLibrary rfl, isFileName_longName, ?_, ?_⟩, ?_, ?_, ?_, ?_⟩
  · rw [Root.contains_table, List.lookup_cons, BEq.rfl]
    rfl
  · have hlong : FileSystem.pathLimit < (Root.place (slashed 3900) (Root.home ++ longName)).utf8ByteSize := by
      have hsize := Root.size_le_place isFileName_longName (slashed 3900)
      have hname : longName.utf8ByteSize = 240 := by decide +kernel
      rw [utf8ByteSize_slashed, hname] at hsize
      exact Nat.lt_of_lt_of_le (by decide) hsize
    rw [← Bool.not_eq_true, Root.contains, FileSystem.isFile_iff]
    rintro ⟨loc, _, _, hl, -⟩
    have hfits := (FileSystem.pathFault?_eq_none_iff.mp (FileSystem.walk_of_locate hl).1).2.2
    omega
  · exact unpacks_slashed (n := 0) _ _ (by decide)
  · exact ⟨by decide, by decide, by decide, by decide, by decide⟩
  · rfl
  · rfl

/-- Behind an empty table, the directory is chosen as the table was, and the same is extracted from it. -/
theorem table_or_directory_jar :
    let fs := unpackedLibrary "libx.so" 0o644
    let path := Root.home ++ "libx.so"
    let table := Root.table "jar" [("libx.so", libraryBytes)]
    (Root.directory "jar").contains fs path = true ∧
    ∃ d, (choose false fs path [.embedded "empty" [], .directory "jar", table]).result path = .ok (some d) ∧
      d.root = .directory "jar" ∧
      ∀ (into : String) (h : Host), h.files = fs → h.extract d into = h.extract ⟨table, path⟩ into := by
  intro fs path table
  have hu : fs.Unpacks "jar" [("libx.so", libraryBytes)] ["jar"] := unpacks_slashed (n := 0) _ _ (by decide)
  have hn : IsFileName "libx.so" := ⟨by decide, by decide, by decide, by decide, by decide⟩
  obtain ⟨hcontains, -, hreplaced⟩ :=
    table_or_directory "jar" hu (letsRead_unpackedLibrary rfl) hn (by decide +kernel)
  refine ⟨hcontains.trans rfl, ?_⟩
  have hunpacked : Root.Unpacked "jar" [("libx.so", libraryBytes)] "jar" [.embedded "empty" [], table, table]
      [.embedded "empty" [], .directory "jar", table] :=
    .cons (Or.inl rfl) (.cons (Or.inr ⟨rfl, rfl⟩) (.cons (Or.inl rfl) .nil))
  have hchosen : (choose false fs path [.embedded "empty" [], table, table]).result path = .ok (some ⟨table, path⟩) :=
    rfl
  rcases hreplaced false _ _ hunpacked with
    ⟨hnone, -⟩ | ⟨_, _, hconflict, -⟩ | ⟨i, c, d, hbefore, hafter, -, -, hfirst, -, -, hget, hextract⟩
  · rw [hchosen] at hnone
    cases hnone
  · rw [hchosen] at hconflict
    cases hconflict
  · rw [hchosen] at hbefore
    cases hbefore
    have hsecond : [Root.embedded "empty" [], table, table].findIdx? (·.contains fs path) = some 1 := rfl
    rw [hsecond] at hfirst
    cases hfirst
    refine ⟨d, hafter, (Option.some.inj hget).symm, ?_⟩
    intro into h hfiles
    exact hextract into h (by rw [hfiles]; exact .refl fs)

end NativeLoader
