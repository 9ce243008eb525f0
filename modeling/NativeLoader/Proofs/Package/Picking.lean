import NativeLoader.Loading.Load
import NativeLoader.Proofs.FileSystem.DrawnNames
import NativeLoader.Proofs.Package.Choosing

/-!
# The copy that is picked

A library is packaged at the path of its platform's file name, or of the other spelling (`Loader.packagedPath?`). What is
located is the resource of the first root that holds that path, and several were only picked from if all can be read and
have the same digest (`Loader.Picks`, `picks_of_locate`). The file is named after the library, between a start and an
ending (`packagedPath?_eq`), so its name has a dot (`dot_mem_fileName`).
-/

namespace NativeLoader

/-! ## The names of files -/

/-- What follows a path without a slash belongs to its last part. -/
theorem Path.fileName_append (path : String) {name : String} (hname : '/' ∉ name.toList) :
    Path.fileName (path ++ name) = Path.fileName path ++ name := by
  obtain ⟨parts, before, hsplit⟩ := Text.split_append path
  have hlast : ∀ more : String, '/' ∉ more.toList → Path.fileName (path ++ more) = before ++ more := by
    intro more hmore
    rw [Path.fileName, hsplit more hmore, List.getLastD_concat]
  have hpath := hlast "" (by simp)
  rw [String.append_empty, String.append_empty] at hpath
  rw [hlast name hname, hpath]

namespace Platform

/-- The file of a library is named after it, between a start and an ending with a dot and without a slash. -/
theorem fileName_eq (p : Platform) : ∃ start ending : String, '/' ∉ ending.toList ∧ '.' ∈ ending.toList ∧
    ∀ library, p.fileName library = start ++ library ++ ending := by
  cases p with
  | linux => exact ⟨"lib", ".so", by decide, by decide, fun _ => rfl⟩
  | otherUnix => exact ⟨"lib", ".so", by decide, by decide, fun _ => rfl⟩
  | macOs => exact ⟨"lib", ".dylib", by decide, by decide, fun _ => rfl⟩
  | windows => exact ⟨"", ".dll", by decide, by decide, fun library => by rw [String.empty_append]; rfl⟩

/-- So is the file under its other spelling. -/
theorem alternate?_fileName_eq {p : Platform} {library other : String}
    (h : p.alternate? (p.fileName library) = some other) :
    ∃ start ending : String, '/' ∉ ending.toList ∧ '.' ∈ ending.toList ∧ other = start ++ library ++ ending := by
  rw [alternate?_fileName] at h
  split at h
  · exact ⟨"lib", ".jnilib", by decide, by decide, (Option.some.inj h).symm⟩
  · cases h

end Platform

/-! ## The resource to pick -/

/-- The path at which a library is packaged: that of its platform's file name if some root holds it, else that of the
other spelling, if there is one. -/
def Loader.packagedPath? (l : Loader) (fs : FileSystem) (roots : List Root) (name : String) : Option String :=
  let file := l.platform.fileName name
  if roots.any (·.contains fs (Root.home ++ file)) then some (Root.home ++ file)
  else (l.platform.alternate? file).map (Root.home ++ ·)

/-- A resource is the one to pick for a name among some roots: that of the first root that holds the packaged path,
which agrees with the others if copies are compared. -/
structure Loader.Picks (l : Loader) (fs : FileSystem) (roots : List Root) (name : String) (c : Candidate) : Prop where
  path : l.packagedPath? fs roots name = some c.path
  root : roots.find? (·.contains fs c.path) = some c.root
  agrees : l.settings.detectDuplicates = true → 2 ≤ roots.countP (·.contains fs c.path) →
    ∀ other ∈ roots, other.contains fs c.path = true → ∃ bytes same, c.contents fs = .ok bytes ∧
      Candidate.contents fs ⟨other, c.path⟩ = .ok same ∧ Sha256.hash same = Sha256.hash bytes

/-- What is chosen at the packaged path is the one to pick. -/
theorem Loader.picks_of_choose {l : Loader} {fs : FileSystem} {path said name : String} {roots : List Root}
    {c : Candidate} (hp : l.packagedPath? fs roots name = some path)
    (h : (choose l.settings.detectDuplicates fs path roots).result said = .ok (some c)) : l.Picks fs roots name c := by
  obtain ⟨rfl, hroot, hagrees⟩ := eq_of_choose h
  refine ⟨hp, hroot, ?_⟩
  intro hdetect hcount other ho hc
  have halike := hagrees hdetect hcount
  have hpicked : c ∈ candidates fs c.path roots :=
    mem_candidates (List.mem_of_find?_eq_some hroot) (by simpa using List.find?_some hroot)
  have hother : ⟨other, c.path⟩ ∈ candidates fs c.path roots := mem_candidates ho hc
  obtain ⟨bytes, hb⟩ := halike.readable c hpicked
  obtain ⟨same, hs⟩ := halike.readable _ hother
  exact ⟨bytes, same, hb.contents, hs.contents, halike.same _ hother c hpicked same bytes hs hb⟩

/-- What is located is the one to pick. -/
theorem Loader.picks_of_locate {l : Loader} {fs : FileSystem} {roots : List Root} {name : String} {c : Candidate}
    {warnings : List String} (hl : l.locate fs roots name = (.found c, warnings)) : l.Picks fs roots name c := by
  have hfound : ∀ {path : String} {result : Except Failure (Option Candidate)},
      Located.ofResult path result = .found c → result = .ok (some c) := by
    intro path result hr
    unfold Located.ofResult at hr
    split at hr
    · cases hr
      rfl
    · cases hr
    · cases hr
  unfold locate at hl
  simp only at hl
  split at hl
  · next other habsent hother =>
    have hnone := choose_eq_absent_iff.mp habsent
    refine picks_of_choose ?_ (hfound (Prod.mk.inj hl).1)
    have hany : roots.any (·.contains fs (Root.home ++ l.platform.fileName name)) = false := by
      simpa using hnone
    simp only [packagedPath?, hany, hother]
    rfl
  · have hchosen := hfound (Prod.mk.inj hl).1
    refine picks_of_choose ?_ hchosen
    obtain ⟨_, hroot, _⟩ := eq_of_choose hchosen
    have hany : roots.any (·.contains fs (Root.home ++ l.platform.fileName name)) = true :=
      List.any_eq_true.mpr ⟨c.root, List.mem_of_find?_eq_some hroot, by simpa using List.find?_some hroot⟩
    simp only [packagedPath?, hany, if_true]

namespace Loader

variable {l : Loader} {fs : FileSystem} {roots : List Root} {name path : String} {c : Candidate}
  {warnings : List String}

/-- What is located is in the root that it is located in. -/
theorem contains_of_locate (hc : l.locate fs roots name = (.found c, warnings)) :
    c.root.contains fs c.path = true := by
  simpa using List.find?_some (picks_of_locate hc).root

/-- The packaged path of a library ends with its name and an ending with a dot and without a slash. -/
theorem packagedPath?_eq (hp : l.packagedPath? fs roots name = some path) :
    ∃ start ending : String, '/' ∉ ending.toList ∧ '.' ∈ ending.toList ∧ path = start ++ name ++ ending := by
  unfold packagedPath? at hp
  simp only at hp
  split at hp
  · obtain ⟨start, ending, hslash, hdot, hfile⟩ := l.platform.fileName_eq
    cases hp
    refine ⟨Root.home ++ start, ending, hslash, hdot, ?_⟩
    rw [hfile, String.append_assoc, String.append_assoc, String.append_assoc]
  · obtain ⟨other, hother, rfl⟩ := Option.map_eq_some_iff.mp hp
    obtain ⟨start, ending, hslash, hdot, rfl⟩ := Platform.alternate?_fileName_eq hother
    refine ⟨Root.home ++ start, ending, hslash, hdot, ?_⟩
    rw [String.append_assoc, String.append_assoc, String.append_assoc]

/-- The name of what is located has a dot. -/
theorem dot_mem_fileName (hc : l.locate fs roots name = (.found c, warnings)) : '.' ∈ c.fileName.toList := by
  obtain ⟨start, ending, hslash, hdot, hpath⟩ := packagedPath?_eq (picks_of_locate hc).path
  rw [Candidate.fileName, hpath, Path.fileName_append _ hslash, String.toList_append]
  exact List.mem_append_right _ hdot

end Loader
end NativeLoader
