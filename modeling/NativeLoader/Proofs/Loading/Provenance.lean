import NativeLoader.Linker.Tabulated
import NativeLoader.Proofs.Loading.InstallNames

/-!
# Where the bytes of a library come from

A library that is new and comes from a package was picked among the roots, copied and bound (`load_eq_resource`). The
requests put to the linker while it binds one file all name that file, and find it unchanged if the linker leaves a file
alone that it does not try to bind (`calls_of_bind_twice`). So where copies keep their install names, a library that is
bound from a package is bound from exactly the bytes of the picked copy (`provenance_of_load`).
-/

namespace NativeLoader

/-! ## The requests of one binding -/

/-- What the linker reads of a target in some files. -/
def Target.content? (fs : FileSystem) : Target → Option (List UInt8)
  | .searched _ => none
  | .extracted path => fs.content? path

/-- A request is recorded with what the linker reads of its target. -/
theorem Request.toCall_eq (fs : FileSystem) (request : Request) :
    request.toCall fs = ⟨request, request.target.content? fs⟩ := by
  obtain ⟨strategy, target⟩ := request
  cases target with
  | searched name => rfl
  | extracted path => rfl

/-- A linker that finds a strategy unavailable for a target leaves the target as it is. -/
def Linker.SparesUnavailable (linker : Linker) : Prop :=
  ∀ {calls : List Call} {strategy : Strategy} {target : Target} {fs after : FileSystem} {reason : String},
    linker.answer calls ⟨strategy, target⟩ fs = (.error (.unavailable reason), after) →
    target.content? after = target.content? fs

/-- A linker that leaves all files alone does. -/
theorem Linker.IsQuiet.sparesUnavailable {linker : Linker} (hq : linker.IsQuiet) : linker.SparesUnavailable := by
  intro calls strategy target fs after reason ha
  have hfs := hq calls ⟨strategy, target⟩ fs
  rw [ha] at hfs
  rw [show after = fs from hfs]

namespace Loader

/-- Binding globally puts one request. -/
theorem calls_bindGlobally (l : Loader) (target : Target) (subject reason : String) (h : Host) :
    (l.bindGlobally target subject reason h).2.calls =
      h.calls ++ [⟨⟨.global, target⟩, target.content? h.files⟩] := by
  have hc : (h.ask l.linker ⟨.global, target⟩).2.calls = h.calls ++ [⟨⟨.global, target⟩, target.content? h.files⟩] := by
    rw [Host.ask, Request.toCall_eq]
  unfold bindGlobally
  split
  · next ha =>
    rw [ha] at hc
    exact hc
  · next ha =>
    rw [ha] at hc
    exact hc

/-- Binding puts one request or two, all for the target, which has the content it had before. -/
theorem calls_bindImage {l : Loader} (hs : l.linker.SparesUnavailable) (context : ContextId) (target : Target)
    (subject : String) (h : Host) :
    ∃ asked, (l.bindImage context target subject h).2.calls = h.calls ++ asked ∧ asked ≠ [] ∧
      ∀ call ∈ asked, call.request.target = target ∧ call.content = target.content? h.files := by
  unfold bindImage
  split
  · refine ⟨_, calls_bindGlobally l target subject _ h, by simp, ?_⟩
    intro call hm
    rw [List.mem_singleton.mp hm]
    exact ⟨rfl, rfl⟩
  · have hc : (h.ask l.linker ⟨.isolated context, target⟩).2.calls =
        h.calls ++ [⟨⟨.isolated context, target⟩, target.content? h.files⟩] := by
      rw [Host.ask, Request.toCall_eq]
    have hone : ∀ call ∈ [(⟨⟨.isolated context, target⟩, target.content? h.files⟩ : Call)],
        call.request.target = target ∧ call.content = target.content? h.files := by
      intro call hm
      rw [List.mem_singleton.mp hm]
      exact ⟨rfl, rfl⟩
    split
    · next ha =>
      rw [ha] at hc
      exact ⟨_, hc, by simp, hone⟩
    · next ha =>
      rw [ha] at hc
      exact ⟨_, hc, by simp, hone⟩
    · next reason after ha =>
      rw [ha] at hc
      -- the second request finds what the first one left
      have hanswer : l.linker.answer h.calls ⟨.isolated context, target⟩ h.files =
          (.error (.unavailable reason), after.files) := congrArg (fun r => (r.1, r.2.files)) ha
      have hsame : target.content? after.files = target.content? h.files := hs hanswer
      refine ⟨_, (calls_bindGlobally l target subject reason after).trans (by rw [hc, List.append_assoc]), by simp, ?_⟩
      intro call hm
      rw [hsame] at hm
      rcases List.mem_append.mp hm with hm | hm
      · exact hone call hm
      · rw [List.mem_singleton.mp hm]
        exact ⟨rfl, rfl⟩

/-- Checking for the required symbols puts no further request. -/
theorem calls_bind {l : Loader} (hs : l.linker.SparesUnavailable) (context : ContextId) (target : Target)
    (subject mangledPrefix : String) (h : Host) :
    ∃ asked, (l.bind context target subject mangledPrefix h).2.calls = h.calls ++ asked ∧ asked ≠ [] ∧
      ∀ call ∈ asked, call.request.target = target ∧ call.content = target.content? h.files := by
  obtain ⟨asked, hcalls, hasked⟩ := calls_bindImage hs context target subject h
  refine ⟨asked, ?_, hasked⟩
  rw [← hcalls]
  unfold bind
  split
  · next hb => rw [hb]
  · next hb => split <;> rw [hb]

/-! ## The pipeline -/

variable {l : Loader} {context : ContextId} {name mangledPrefix : String} {h after : Host} {lib : Library}

/-- A library that is new and comes from a package was picked, copied and bound after the search path failed. -/
theorem load_eq_resource (hp : l.mangledPrefix = .ok mangledPrefix)
    (hfree : (h.contexts context).library? (mangledPrefix ++ name) = none)
    (hl : l.load context name h = (.ok lib, after)) {origin : String} (ho : lib.origin = .resource origin) :
    ∃ failure searched c directory settled path ready image binding bound,
      l.Packs context name mangledPrefix h failure searched c directory settled ∧ c.origin = origin ∧
      l.extract name mangledPrefix c directory settled = (.ok path, ready) ∧
      l.bind context (.extracted path) path mangledPrefix ready = (.ok (image, binding), bound) ∧
      after.calls = bound.calls ∧ after.directories = bound.directories := by
  have hcourse := course_load l context name h
  rw [hl] at hcourse
  cases hcourse with
  | known hp' hb =>
    rw [hp] at hp'
    cases hp'
    rw [hfree] at hb
    cases hb
  | @searched mangledPrefix _ _ bound _ _ _ hfree' hb hr =>
    have hsearched := Host.KeepsBindings.bind l context (.searched (mangledPrefix ++ name)) (mangledPrefix ++ name)
      mangledPrefix h
    rw [hb] at hsearched
    rw [origin_of_register hfree' hsearched hr] at ho
    cases ho
  | @copied _ directory path failure searched settled ready bound _ c image binding _ hpack hx hb hr =>
    have haccepted := hpack.seeks.accepted
    rw [hp] at haccepted
    cases haccepted
    rw [origin_of_register hpack.seeks.free (hpack.keepsBindings_discard hx hb _) hr] at ho
    obtain ⟨files, pending, hgone⟩ := Host.discard_frame l.settings.deleteCopies path bound
    rw [hgone] at hr
    cases hr
    exact ⟨failure, searched, c, directory, settled, path, ready, image, binding, bound, hpack, Origin.resource.inj ho,
      hx, hb, rfl, rfl⟩

/-- The requests put while a name and then a file are bound name no other file, and find in it what it held. -/
theorem calls_of_bind_twice {searched extracted bound : Host} {library subject file : String}
    {first second : Except Failure (Image × Binding)} (hs : l.linker.SparesUnavailable)
    (hb : l.bind context (.searched library) subject mangledPrefix h = (first, searched))
    (hbetween : extracted.calls = searched.calls)
    (hi : l.bind context (.extracted file) file mangledPrefix extracted = (second, bound)) :
    ∃ calls, bound.calls = h.calls ++ calls ∧ (∃ call ∈ calls, call.request.target = .extracted file) ∧
      ∀ call ∈ calls, ∀ path, call.request.target = .extracted path →
        path = file ∧ call.content = extracted.files.content? file := by
  obtain ⟨names, hnames, _, hnamed⟩ := calls_bind hs context (.searched library) subject mangledPrefix h
  obtain ⟨files, hfiles, hne, hfiled⟩ := calls_bind hs context (.extracted file) file mangledPrefix extracted
  rw [hb] at hnames
  rw [hi] at hfiles
  refine ⟨names ++ files, ?_, ?_, ?_⟩
  · calc bound.calls = extracted.calls ++ files := hfiles
      _ = searched.calls ++ files := by rw [hbetween]
      _ = h.calls ++ (names ++ files) := by rw [hnames, List.append_assoc]
  · obtain ⟨call, hm⟩ := List.exists_mem_of_ne_nil files hne
    exact ⟨call, List.mem_append_right names hm, (hfiled call hm).1⟩
  · intro call hm path htarget
    rcases List.mem_append.mp hm with hm | hm
    · rw [(hnamed call hm).1] at htarget
      cases htarget
    · obtain ⟨hfile, hcontent⟩ := hfiled call hm
      rw [hfile] at htarget
      cases htarget
      exact ⟨rfl, hcontent⟩

/-- **Where the bytes come from.** A library that is new and comes from a package has the origin of the resource to
pick among the roots of the context, as they are when the search path has failed. The linker is asked about one file,
a new entry of the loader's directory, and finds all bytes of that resource in it each time, if copies keep their
install names. -/
theorem provenance_of_load {origin : String} (hs : l.linker.SparesUnavailable)
    (hp : l.mangledPrefix = .ok mangledPrefix)
    (hfree : (h.contexts context).library? (mangledPrefix ++ name) = none)
    (hl : l.load context name h = (.ok lib, after)) (ho : lib.origin = .resource origin)
    (hkeeps : l.KeepsInstallNames (l.readied context name h).files) :
    let asked := (l.bind context (.searched (mangledPrefix ++ name)) (mangledPrefix ++ name) mangledPrefix h).2
    ∃ c bytes directory base file calls,
      l.Picks asked.files (h.contexts context).roots (mangledPrefix ++ name) c ∧ origin = c.origin ∧
      c.contents asked.files = .ok bytes ∧
      (after.directories l.directory).outcome = some (.ok directory) ∧ asked.temporaryBase directory = .ok base ∧
      Path.IsEntry base file ∧
      after.calls = h.calls ++ calls ∧ (∃ call ∈ calls, call.request.target = .extracted file) ∧
      ∀ call ∈ calls, ∀ path, call.request.target = .extracted path → path = file ∧ call.content = some bytes := by
  obtain ⟨failure, searched, c, directory, settled, file, ready, image, binding, bound, hpack, rfl, hx, hi, hcalls,
    hdirectories⟩ := load_eq_resource hp hfree hl ho
  have hb := hpack.seeks.failed
  have hasked : (l.bind context (.searched (mangledPrefix ++ name)) (mangledPrefix ++ name) mangledPrefix h).2 =
      searched := by rw [hb]
  obtain ⟨warnings, hc, hd⟩ := hpack.settles
  rw [hpack.seeks.keepsBindings.contexts] at hc
  have hpicks := picks_of_locate hc
  -- the copy was made of what the roots held when they were asked
  have hsettled : searched.files.GrowsTo settled.files := by
    have hg := Host.extractionDirectory_growsTo l.directory (searched.warn warnings)
    rw [hd] at hg
    exact hg
  have hx' := hx
  rw [hpack.extract_of_keeps hkeeps] at hx'
  obtain ⟨bytes, hcopied⟩ := Host.extract_eq_ok hx'
  have hcopy := hcopied.of_growsTo hsettled
  obtain ⟨base, hbase, hentry⟩ := hcopy.isEntry
  obtain ⟨loc, _, hlocate, hholds⟩ := hcopy.isNew
  have hfound : ready.files.content? file = some bytes := FileSystem.content?_of_locate hlocate hholds
  obtain ⟨hready, hkept⟩ := frame_of_extract hx
  obtain ⟨calls, hasks, hsome, hall⟩ := calls_of_bind_twice hs hb (hready.trans hpack.settled.2) hi
  have hsame : after.directories = settled.directories := by
    obtain ⟨_, _, hbound⟩ := bind_frame l context (.extracted file) file mangledPrefix ready
    rw [hi] at hbound
    simp only at hbound
    calc after.directories = bound.directories := hdirectories
      _ = ready.directories := by rw [hbound]
      _ = settled.directories := hkept
  rw [hasked]
  refine ⟨c, bytes, directory, base, file, calls, hpicks, rfl, hcopy.contents (contains_of_locate hc), ?_, hbase, hentry,
    hcalls.trans hasks, hsome, ?_⟩
  · rw [hsame]
    exact Host.outcome_of_extractionDirectory hd
  · intro call hm path htarget
    obtain ⟨hpath, hcontent⟩ := hall call hm path htarget
    exact ⟨hpath, hcontent.trans hfound⟩

/-! ## A library that two roots hold -/

/-- The bytes of a library that exports nothing. -/
def packagedBytes : List UInt8 := [0x46, 0x41, 0x4B, 0x45, 0x2D, 0x4E, 0x41, 0x54, 0x49, 0x56, 0x45]

/-- A process whose contexts have three roots, and the last two hold the same library. -/
def packagedHost : Host :=
  { files := { entries := [(["tmp"], .directory 0o755)] }
    temporary := "/tmp"
    draws := .ofNumbers fun n => n
    contexts := fun _ =>
      { roots := [.embedded "empty" [], .embedded "one" [(Root.home ++ "libx.so", packagedBytes)],
          .embedded "two" [(Root.home ++ "libx.so", packagedBytes)]] } }

/-- A loader that finds nothing on the search path and has no namespaces for files. -/
def packagedLoader : Loader :=
  { linker := LinkerTable.toLinker { isolated := { extracted := .decline "no namespaces" } } }

/-- The same loader in a relocated build, on the platform whose copies need install names of their own. -/
def relocatedLoader : Loader :=
  { packagedLoader with
    platform := .macOs
    identity := some "a.tdlight_loader.shading"
    tools :=
      { rename := fun fs path id => (fs.content? path).map (· ++ Text.bytes id)
        sign := fun fs path => fs.content? path } }

/-- The same process, with copies for that build and without developer tools. -/
def relocatedHost : Host :=
  { packagedHost with
    contexts := fun _ =>
      { roots := [.embedded "empty" [], .embedded "one" [(Root.home ++ "liba_x.dylib", packagedBytes)],
          .embedded "two" [(Root.home ++ "liba_x.dylib", packagedBytes)]] } }

/-- The same process, in which the directory for copies is settled. -/
def settledRelocatedHost : Host := relocatedHost.setDirectory globalDirectory { outcome := some (.ok "/tmp") }

/-- The library that this loader makes of the first copy. -/
def relocatedLibrary : Library :=
  ⟨0, "x", "a_", .global, .resource "embedded:one!/META-INF/tdlight-native/liba_x.dylib", ⟨[]⟩⟩

/-- The first copy of the library is bound, for the whole process, from a file with its bytes. -/
theorem provenance_of_load_packaged :
    relocatedLoader.linker.SparesUnavailable ∧ relocatedLoader.mangledPrefix = .ok "a_" ∧
      (relocatedHost.contexts 1).library? ("a_" ++ "x") = none ∧
      relocatedLoader.load 1 "x" relocatedHost = (.ok relocatedLibrary, (relocatedLoader.load 1 "x" relocatedHost).2) ∧
      relocatedLibrary.origin = .resource "embedded:one!/META-INF/tdlight-native/liba_x.dylib" ∧
      InstallName.isNeeded relocatedLoader.settings.renewInstallName relocatedLoader.platform "a_" = true ∧
      relocatedLoader.KeepsInstallNames (relocatedLoader.readied 1 "x" relocatedHost).files ∧
      ∃ base file, Path.IsEntry base file ∧ ∃ bytes, ∃ call ∈ (relocatedLoader.load 1 "x" relocatedHost).2.calls,
        call.request.target = .extracted file ∧ call.content = some bytes := by
  have hs : relocatedLoader.linker.SparesUnavailable := (LinkerTable.isQuiet_toLinker rfl).sparesUnavailable
  have hp : relocatedLoader.mangledPrefix = .ok "a_" := by rfl
  have hfree : (relocatedHost.contexts 1).library? ("a_" ++ "x") = none := by rfl
  have hkeeps : relocatedLoader.KeepsInstallNames (relocatedLoader.readied 1 "x" relocatedHost).files :=
    fun _ _ _ => by decide +kernel
  have hok : (relocatedLoader.load 1 "x" relocatedHost).1.toOption = some relocatedLibrary := by decide +kernel
  have hl : relocatedLoader.load 1 "x" relocatedHost =
      (.ok relocatedLibrary, (relocatedLoader.load 1 "x" relocatedHost).2) := by
    cases hr : relocatedLoader.load 1 "x" relocatedHost with
    | mk outcome after =>
      rw [hr] at hok
      cases outcome with
      | ok lib =>
        cases hok
        rfl
      | error failure => cases hok
  refine ⟨hs, hp, hfree, hl, rfl, rfl, hkeeps, ?_⟩
  obtain ⟨c, bytes, _, base, file, calls, _, _, _, _, _, hentry, hcalls, ⟨call, hm, htarget⟩, hall⟩ :=
    provenance_of_load hs hp hfree hl rfl hkeeps
  refine ⟨base, file, hentry, bytes, call, ?_, htarget, (hall call hm file htarget).2⟩
  rw [hcalls]
  exact List.mem_append_right _ hm

end Loader
end NativeLoader
