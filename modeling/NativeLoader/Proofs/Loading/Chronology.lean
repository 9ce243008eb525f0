import NativeLoader.Proofs.Extraction.Places
import NativeLoader.Proofs.Loading.Provenance
import NativeLoader.Proofs.Loading.RequestOrder
import NativeLoader.Proofs.Loading.Setbacks

/-!
# The order of what a failure tells

What is attached to a failure is told oldest first if, at every part of the tree, it comes in the order in which it was
met (`Failure.OldestFirst`). A load that fails tells what it met so, unless a namespace could not be used for an
extracted copy: that is then noted in front of what the search path gave, which was met before it
(`oldestFirst_of_load_iff`). An extracted copy never has the name of the library (`Extracts.path_ne`), so what is told
of the one is not what is told of the other.
-/

namespace NativeLoader

namespace Failure

/-- At every part of a tree, what is attached comes in the order of a log. -/
def OldestFirst (log : List Cause) (f : Failure) : Prop :=
  ∀ part ∈ f.parts, (part.earlier.map cause).Sublist log

/-- A tree is told oldest first if what is attached to it is, and each tree that is attached. -/
theorem oldestFirst_node_iff {log : List Cause} {cause : Cause} {earlier : List Failure} :
    (node cause earlier).OldestFirst log ↔
      (earlier.map Failure.cause).Sublist log ∧ ∀ f ∈ earlier, f.OldestFirst log := by
  simp only [OldestFirst, parts, List.mem_cons, forall_eq_or_imp, mem_partsOf]
  constructor
  · rintro ⟨htop, hbelow⟩
    exact ⟨htop, fun f hf part hp => hbelow part ⟨f, hf, hp⟩⟩
  · rintro ⟨htop, hbelow⟩
    refine ⟨htop, ?_⟩
    rintro part ⟨f, hf, hp⟩
    exact hbelow f hf part hp

/-- Nothing is attached to a failure of its own. -/
theorem oldestFirst_of (log : List Cause) (cause : Cause) : (of cause).OldestFirst log :=
  oldestFirst_node_iff.mpr ⟨List.nil_sublist log, by simp⟩

end Failure

/-! ## The name of a copy -/

/-- The name of a copy is that of its resource with what was drawn, behind the path of its directory. -/
theorem Host.name_of_extract {c : Candidate} {directory path : String} {h extracted : Host}
    (hx : h.extract c directory = (.ok path, extracted)) : ∃ written name : String, '/' ∉ name.toList ∧
      name.toList.length = c.fileName.toList.length + Draws.suffixLength ∧ path = written ++ name := by
  obtain ⟨loc, made, hm⟩ := makeTemporaryFile_of_extract hx
  obtain ⟨base, drawn, -, hlength, halnum, hpath, -⟩ := makeTemporaryFile_eq_ok hm
  have hslash := not_mem_of_isDrawn ⟨hlength, halnum⟩ c
  obtain ⟨written, hwritten⟩ := Path.join_eq_append base
  refine ⟨written, _, hslash, ?_, hpath.trans (hwritten _ hslash)⟩
  have hsum := congrArg (fun s => s.toList.length) (append_splitExtension c.fileName)
  simp only [String.toList_append, List.length_append] at hsum ⊢
  omega

namespace Loader

variable {l : Loader} {context : ContextId} {name mangledPrefix path : String} {h after extracted : Host}
  {failure : Failure}

/-- **A copy does not have the name of its library**: its own name is longer by what was drawn than the name of the
resource, which ends with the library's. -/
theorem Extracts.path_ne (hx : l.Extracts context name h path extracted) (hp : l.mangledPrefix = .ok mangledPrefix) :
    path ≠ mangledPrefix ++ name := by
  obtain ⟨mangledPrefix', failure, searched, c, directory, settled, hpack, hextract⟩ := hx
  have haccepted := hpack.seeks.accepted
  rw [hp] at haccepted
  cases haccepted
  obtain ⟨warnings, hlocate, -⟩ := hpack.settles
  obtain ⟨start, ending, hending, -, hc⟩ := packagedPath?_eq (picks_of_locate hlocate).path
  obtain ⟨_, hcopy, -⟩ := extract_eq_ok_iff.mp hextract
  obtain ⟨written, file, hslash, hlength, hpath⟩ := Host.name_of_extract hcopy
  intro he
  -- were they the same, the name of the copy would be part of the name of the resource
  have hfile : '/' ∉ (file ++ ending).toList := by
    rw [String.toList_append, List.mem_append, not_or]
    exact ⟨hslash, hending⟩
  have hname : c.fileName = Path.fileName (start ++ written) ++ (file ++ ending) := by
    rw [Candidate.fileName, hc, ← he, hpath, ← Path.fileName_append _ hfile]
    simp only [String.append_assoc]
  have hlong := congrArg (fun s => s.toList.length) hname
  simp only [String.toList_append, List.length_append, Draws.suffixLength] at hlong hlength
  omega

/-! ## Loads that tell what they met -/

/-- What a binding from the search path tells is all about its library. -/
theorem Seeks.subject?_eq {found : Host} (hseek : l.Seeks context name mangledPrefix h failure found) :
    ∀ cause ∈ failure.causes, cause.subject? = some (mangledPrefix ++ name) := by
  obtain ⟨-, cause, ho, hfailure⟩ := bind_eq_error hseek.failed
  rw [hfailure, Failure.causes, Failure.causesOf_map_of]
  intro other hother
  rcases List.mem_cons.mp hother with rfl | hnoted
  · exact (of_objection? ho).1
  · obtain ⟨reason, -, rfl⟩ := List.mem_map.mp hnoted
    rfl

/-- What a load was told of the search path is told oldest first. -/
theorem Seeks.oldestFirst {found : Host} (hseek : l.Seeks context name mangledPrefix h failure found) :
    failure.OldestFirst (l.setbacks context name h) := by
  obtain ⟨-, cause, -, hfailure⟩ := bind_eq_error hseek.failed
  rw [hseek.setbacks]
  rw [hfailure, Failure.oldestFirst_node_iff]
  refine ⟨List.sublist_append_left _ _, ?_⟩
  intro f hf
  obtain ⟨noted, -, rfl⟩ := List.mem_map.mp hf
  exact Failure.oldestFirst_of _ noted

/-- What was met last but is told first is out of order. -/
theorem not_sublist_of_swapped {before checks : List Cause} {noted first last : Cause} (hbefore : noted ∉ before)
    (hne : noted ≠ first) (hlast : first ≠ last) :
    ¬(noted :: first :: checks).Sublist (before ++ first :: noted :: last :: checks) := by
  intro hsub
  rw [List.append_cons, List.sublist_append_iff] at hsub
  obtain ⟨early, late, heq, hearly, hlate⟩ := hsub
  cases early with
  | nil =>
    rw [List.nil_append] at heq
    rw [← heq, List.cons_sublist_cons] at hlate
    exact hlast (List.cons.inj (hlate.eq_of_length rfl)).1
  | cons met early =>
    obtain ⟨rfl, -⟩ := List.cons.inj heq
    have hm : noted ∈ before ++ [first] := hearly.subset List.mem_cons_self
    rcases List.mem_append.mp hm with hm | hm
    · exact hbefore hm
    · exact hne (List.mem_singleton.mp hm)

/-- Where all that is attached has nothing attached to it, but for one failure that is told oldest first, a failure is
told so if what is attached to it is. -/
theorem oldestFirst_attached_iff {log checks : List Cause} {last : Cause} {search : Failure}
    (hsearch : search.OldestFirst log) (notes : List Cause) :
    (Failure.node last (notes.map .of ++ search :: checks.map .of)).OldestFirst log ↔
      (notes ++ search.cause :: checks).Sublist log := by
  have hcauses : ∀ cs : List Cause, (cs.map Failure.of).map Failure.cause = cs := by
    intro cs
    rw [List.map_map]
    exact List.map_id cs
  rw [Failure.oldestFirst_node_iff, List.map_append, List.map_cons, hcauses, hcauses]
  refine ⟨And.left, fun hsub => ⟨hsub, ?_⟩⟩
  intro f hf
  rcases List.mem_append.mp hf with hf | hf
  · obtain ⟨noted, -, rfl⟩ := List.mem_map.mp hf
    exact Failure.oldestFirst_of _ noted
  · rcases List.mem_cons.mp hf with rfl | hf
    · exact hsearch
    · obtain ⟨checked, -, rfl⟩ := List.mem_map.mp hf
      exact Failure.oldestFirst_of _ checked

/-- A load that looked for a packaged copy and failed tells it oldest first if nothing was noted of a namespace. -/
theorem Seeks.oldestFirst_of_bare {search : Failure} {found : Host} {checks : List Cause} {last : Cause}
    (hseek : l.Seeks context name mangledPrefix h search found)
    (hpackaged : l.packagedSetbacks context name mangledPrefix found = last :: checks) :
    (Failure.node last (search :: checks.map .of)).OldestFirst (l.setbacks context name h) := by
  have hsub : (search.cause :: checks).Sublist (l.setbacks context name h) := by
    rw [hseek.setbacks, hpackaged]
    exact ((List.sublist_cons_self _ _).cons_cons _).trans (List.sublist_append_right _ _)
  exact (oldestFirst_attached_iff hseek.oldestFirst []).mpr hsub

/-- It does not where something was noted of a namespace for a copy with another name than the library. -/
theorem Seeks.not_oldestFirst_of_noted {search : Failure} {found : Host} {checks : List Cause} {noted last : Cause}
    (hseek : l.Seeks context name mangledPrefix h search found)
    (hpackaged : l.packagedSetbacks context name mangledPrefix found = noted :: last :: checks)
    (hnoted : noted.subject? = some path) (hlast : last.subject? = some path) (hne : path ≠ mangledPrefix ++ name) :
    ¬(Failure.node last (.of noted :: search :: checks.map .of)).OldestFirst (l.setbacks context name h) := by
  have hsearch : ∀ {cause : Cause}, cause.subject? = some path →
      cause ∉ search.earlier.map Failure.cause ∧ cause ≠ search.cause := by
    intro cause hc
    have hnot : cause ∉ search.causes := by
      intro hm
      rw [hseek.subject?_eq cause hm] at hc
      exact hne (Option.some.inj hc).symm
    rw [(searchSetbacks_of_bind hseek.failed).2, List.mem_cons, not_or] at hnot
    exact ⟨hnot.2, hnot.1⟩
  intro hold
  have hsub := (oldestFirst_attached_iff hseek.oldestFirst [noted]).mp hold
  rw [hseek.setbacks, hpackaged] at hsub
  exact not_sublist_of_swapped (hsearch hnoted).1 (hsearch hnoted).2 (hsearch hlast).2.symm hsub

/-- A load that extracted a copy and failed tells it oldest first exactly if a namespace was to be had for the copy. -/
theorem Extracts.oldestFirst_iff {search : Failure} {found : Host} {checks : List Cause} {last : Cause}
    (hx : l.Extracts context name h path extracted) (hseek : l.Seeks context name mangledPrefix h search found)
    (hpackaged : l.packagedSetbacks context name mangledPrefix found =
      (l.replyTo context (.extracted path) extracted).notes path ++ last :: checks)
    (hlast : last.subject? = some path) :
    (Failure.node last (((l.replyTo context (.extracted path) extracted).notes path).map .of ++
        search :: checks.map .of)).OldestFirst (l.setbacks context name h) ↔
      (l.replyTo context (.extracted path) extracted).unavailable = none := by
  cases hu : (l.replyTo context (.extracted path) extracted).unavailable with
  | none =>
    rw [Reply.notes_of_none hu] at hpackaged ⊢
    exact iff_of_true (hseek.oldestFirst_of_bare hpackaged) rfl
  | some reason =>
    rw [Reply.notes_of_some hu] at hpackaged ⊢
    exact iff_of_false (hseek.not_oldestFirst_of_noted hpackaged rfl hlast (hx.path_ne hseek.accepted)) (by simp)

/-- **When failures are told oldest first.** A load that fails tells them so exactly if a namespace was to be had for
the copy that it extracted, if it extracted one. Otherwise the first thing attached to its failure is that it was not,
and then comes what the search path gave, which was met before the copy was even extracted. -/
theorem oldestFirst_of_load_iff (hl : l.load context name h = (.error failure, after)) :
    (failure.OldestFirst (l.setbacks context name h) ↔
      ∀ path extracted, l.Extracts context name h path extracted →
        (l.replyTo context (.extracted path) extracted).unavailable = none) ∧
    ∀ path extracted reason, l.Extracts context name h path extracted →
      (l.replyTo context (.extracted path) extracted).unavailable = some reason →
      ∃ mangledPrefix search found checks, l.Seeks context name mangledPrefix h search found ∧
        failure.earlier = isolationUnavailable path reason :: search :: checks := by
  rcases load_eq_error hl with hp | ⟨mangledPrefix, search, found, notes, last, checks, hseek, hpackaged, rfl,
    ⟨rfl, hnone⟩ | ⟨path, extracted, hx, rfl, hlast⟩⟩
  · have hnone : ∀ path extracted, ¬l.Extracts context name h path extracted := not_extracts_of_foreign hp
    refine ⟨iff_of_true ?_ fun path extracted hx => absurd hx (hnone path extracted),
      fun path extracted _ hx => absurd hx (hnone path extracted)⟩
    obtain ⟨expected, actual, rfl⟩ := mangledPrefix_eq_error hp
    exact Failure.oldestFirst_of _ _
  · exact ⟨iff_of_true (hseek.oldestFirst_of_bare hpackaged) fun path extracted hx => absurd hx (hnone path extracted),
      fun path extracted _ hx => absurd hx (hnone path extracted)⟩
  · refine ⟨(hx.oldestFirst_iff hseek hpackaged hlast).trans ⟨?_, fun hall => hall path extracted hx⟩, ?_⟩
    · intro hu path' extracted' hx'
      obtain ⟨rfl, rfl⟩ := hx.unique hx'
      exact hu
    · intro path' extracted' reason hx' hreason
      obtain ⟨rfl, rfl⟩ := hx.unique hx'
      refine ⟨mangledPrefix, search, found, checks.map .of, hseek, ?_⟩
      rw [Reply.notes_of_some hreason]
      rfl

/-! ## A context without a namespace, and one with -/

/-- A process with a packaged library and a directory for copies. -/
def housedHost : Host :=
  { homelessHost with
    files := { entries := [(["tmp"], .directory 0o755)] }
    directories := fun _ => { outcome := some (.ok "/tmp") } }

/-- A loader whose linker has no namespaces for files, and refuses them for the whole process. -/
def outsideLoader : Loader :=
  { linker := LinkerTable.toLinker
      { isolated := { extracted := .decline "no namespaces" }, global := { extracted := .reject "bad image" } } }

/-- The search path is asked first, and yet what it gave is told after the namespace of the copy. -/
theorem search_told_last :
    outsideLoader.setbacks 1 "x" housedHost =
        [.link "x" "no x on the library search path" none,
          .link "/tmp/libx012345.so" "isolated binding unavailable: no namespaces" none,
          .link "/tmp/libx012345.so" "bad image" none] ∧
      ∃ failure, (outsideLoader.load 1 "x" housedHost).1 = .error failure ∧
        failure.earlier.map Failure.cause =
          [.link "/tmp/libx012345.so" "isolated binding unavailable: no namespaces" none,
            .link "x" "no x on the library search path" none] ∧
        ¬failure.OldestFirst (outsideLoader.setbacks 1 "x" housedHost) := by
  have hsetbacks : outsideLoader.setbacks 1 "x" housedHost =
      [.link "x" "no x on the library search path" none,
        .link "/tmp/libx012345.so" "isolated binding unavailable: no namespaces" none,
        .link "/tmp/libx012345.so" "bad image" none] := by decide +kernel
  obtain ⟨failure, hfails, htold⟩ : ∃ failure, (outsideLoader.load 1 "x" housedHost).1 = .error failure ∧
      failure.earlier.map Failure.cause =
        [.link "/tmp/libx012345.so" "isolated binding unavailable: no namespaces" none,
          .link "x" "no x on the library search path" none] := ⟨_, by rfl, by rfl⟩
  refine ⟨hsetbacks, failure, hfails, htold, ?_⟩
  intro hold
  obtain ⟨cause, earlier⟩ := failure
  have hsub := (Failure.oldestFirst_node_iff.mp hold).1
  rw [show earlier.map Failure.cause = _ from htold, hsetbacks] at hsub
  revert hsub
  decide

/-- A loader whose linker refuses files in the namespaces of contexts. -/
def insideLoader : Loader := { linker := LinkerTable.toLinker { isolated := { extracted := .reject "bad image" } } }

/-- Where the namespace can be used for the copy, what the search path gave is told first. -/
theorem oldestFirst_of_load_iff_inside :
    ∃ failure after, insideLoader.load 1 "x" housedHost = (.error failure, after) ∧
      failure.OldestFirst (insideLoader.setbacks 1 "x" housedHost) ∧
      insideLoader.setbacks 1 "x" housedHost =
        [.link "x" "no x on the library search path" none, .link "/tmp/libx012345.so" "bad image" none] := by
  obtain ⟨failure, after, hl⟩ : ∃ failure after, insideLoader.load 1 "x" housedHost = (.error failure, after) :=
    ⟨_, _, by rfl⟩
  refine ⟨failure, after, hl, (oldestFirst_of_load_iff hl).1.mpr ?_, by decide +kernel⟩
  intro path extracted hx
  have hcontexts := hx.frame.1
  have hnot : (extracted.contexts 1).isGlobal ≠ true := by
    rw [hcontexts]
    decide
  rw [replyTo, if_neg hnot]
  rfl

end Loader
end NativeLoader
