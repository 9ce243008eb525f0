import NativeLoader.Proofs.Loading.Atomicity
import NativeLoader.Proofs.Loading.Setbacks

/-!
# Loads that end before there is a copy

A load ends early if it hands out a library that was bound before or is on the search path, or fails because the
identity is refused, nothing is packaged, or packages are in conflict (`Loader.EndsEarly`). Such a load leaves no trace
but the requests it put and the warnings it gave: neither in the files, nor in what is known of the directories for
copies, nor in what is put off (`Course.untouched`). Where the library was bound before or the identity is refused it
does nothing at all (`no_footprint_of_early_end`).
-/

namespace NativeLoader

/-- A cause with which a load ends before there is a copy to extract. -/
def Cause.isEarly : Cause → Bool
  | foreignIdentity _ _ => true
  | notFound _ => true
  | conflict _ _ => true
  | _ => false

/-- What a failed binding is about was bound, or was to be. -/
theorem Cause.isEarly_of_subject? {cause : Cause} {subject : String} (hs : cause.subject? = some subject) :
    cause.isEarly = false := by
  cases cause <;> first | rfl | cases hs

/-- A process with the files of another, the same directories for copies and the same deletions put off. -/
structure Host.Untouched (h after : Host) : Prop where
  files : after.files = h.files
  directories : after.directories = h.directories
  pending : after.pending = h.pending

theorem Host.Untouched.refl (h : Host) : h.Untouched h := ⟨rfl, rfl, rfl⟩

namespace Loader

variable {l : Loader} {context : ContextId} {name mangledPrefix : String} {h found after : Host} {failure : Failure}
  {outcome : Except Failure Library}

/-- A load ends before there is a copy to extract: its library was bound before, or is on the search path; or it fails
with an early cause. -/
inductive EndsEarly (l : Loader) (context : ContextId) (name : String) (h : Host) : Except Failure Library → Prop
  | known {mangledPrefix : String} {lib : Library} : l.mangledPrefix = .ok mangledPrefix →
      (h.contexts context).library? (mangledPrefix ++ name) = some lib → EndsEarly l context name h (.ok lib)
  | searched {lib : Library} : lib.origin = .searchPath → EndsEarly l context name h (.ok lib)
  | failed {failure : Failure} : failure.cause.isEarly = true → EndsEarly l context name h (.error failure)

/-- A load that looks for a packaged copy has left no trace yet, if the linker spares names. -/
theorem Seeks.untouched (hs : ∀ searched, l.linker.Spares (.searched searched))
    (hseek : l.Seeks context name mangledPrefix h failure found) : h.Untouched found := by
  obtain ⟨calls, hfound⟩ := bind_of_spares (hs (mangledPrefix ++ name)) context (mangledPrefix ++ name) mangledPrefix h
  rw [hseek.failed] at hfound
  rw [show found = _ from hfound]
  exact ⟨rfl, rfl, rfl⟩

/-- **A load that ends early leaves no trace.** -/
theorem Course.untouched (hs : ∀ searched, l.linker.Spares (.searched searched))
    (hcourse : l.Course context name h outcome after) (hearly : l.EndsEarly context name h outcome) :
    h.Untouched after := by
  cases hcourse with
  | foreign _ => exact .refl h
  | known _ _ => exact .refl h
  | @searched mangledPrefix _ _ bound _ _ _ _ hb hr =>
    obtain ⟨calls, hbound⟩ := bind_of_spares (hs (mangledPrefix ++ name)) context (mangledPrefix ++ name) mangledPrefix h
    rw [hb] at hbound
    cases hr
    rw [show bound = _ from hbound]
    exact ⟨rfl, rfl, rfl⟩
  | nowhere hseek _ =>
    have hfound := hseek.untouched hs
    exact ⟨hfound.files, hfound.directories, hfound.pending⟩
  | refused hseek _ =>
    have hfound := hseek.untouched hs
    exact ⟨hfound.files, hfound.directories, hfound.pending⟩
  -- from here on there was a copy, and no such end is early
  | homeless hseek hc hd =>
    obtain ⟨message, rfl⟩ := extractionDirectory_eq_error hd
    cases hearly with
    | failed hcause => cases hcause
  | unpacked hpack hx =>
    cases hearly with
    | failed hcause => cases hcause
  | @rejected _ _ path _ refusal _ _ _ bound _ hpack hx hb =>
    obtain ⟨last, checks, -, -, hnames, hdiagnosed⟩ := copySetbacks_of_bind hb
    cases hearly with
    | failed hcause =>
      rw [Failure.cause_attach, hdiagnosed, Failure.cause, Cause.isEarly_of_subject? hnames] at hcause
      cases hcause
  | copied hpack hx hb hr =>
    cases hearly with
    | known hp hbound =>
      have haccepted := hpack.seeks.accepted
      rw [hp] at haccepted
      cases haccepted
      rw [hpack.seeks.free] at hbound
      cases hbound
    | searched horigin =>
      have hk := hpack.keepsBindings_discard hx hb l.settings.deleteCopies
      rw [origin_of_register hpack.seeks.free hk hr] at horigin
      cases horigin

/-- An identity is refused before anything else is looked at. -/
theorem Course.of_foreignIdentity {expected actual : String}
    (hcourse : l.Course context name h (.error failure) after) (hcause : failure.cause = .foreignIdentity expected actual) :
    l.mangledPrefix = .error failure := by
  cases hcourse with
  | foreign hp => exact hp
  | nowhere _ _ => cases hcause
  | refused _ hc =>
    obtain ⟨path, origins, rfl⟩ := locate_eq_refused hc
    cases hcause
  | homeless _ _ hd =>
    obtain ⟨message, rfl⟩ := extractionDirectory_eq_error hd
    cases hcause
  | unpacked _ _ => cases hcause
  | rejected _ _ hb =>
    obtain ⟨last, _, -, -, hnames, hdiagnosed⟩ := copySetbacks_of_bind hb
    rw [Failure.cause_attach, hdiagnosed] at hcause
    rw [show last = _ from hcause] at hnames
    cases hnames

/-- **No extraction, no footprint.** If the linker touches no file when it looks up a name, then a load that ends early
leaves the files, the directories for copies and the deletions put off as they were. If its identity is refused, or its
library was bound before, it leaves everything as it was: it puts no request and gives no warning. What it comes to is
then a matter of the loader's prefix and of what is bound alone: any loader with this prefix, whatever its linker and its
settings, comes to the same in any process with this library bound, whatever the roots and the files. -/
theorem no_footprint_of_early_end (l : Loader) (context : ContextId) (name : String) (h : Host) :
    let outcome := (l.load context name h).1
    let after := (l.load context name h).2
    ((∀ searched, l.linker.Spares (.searched searched)) → l.EndsEarly context name h outcome →
      after.files = h.files ∧ after.directories = h.directories ∧ after.pending = h.pending) ∧
    (∀ failure expected actual, outcome = .error failure → failure.cause = .foreignIdentity expected actual →
      after = h ∧ ∀ (other : Loader) h', other.mangledPrefix = l.mangledPrefix →
        other.load context name h' = (.error failure, h')) ∧
    ∀ mangledPrefix lib, l.mangledPrefix = .ok mangledPrefix →
      (h.contexts context).library? (mangledPrefix ++ name) = some lib →
      outcome = .ok lib ∧ after = h ∧ ∀ (other : Loader) h', other.mangledPrefix = l.mangledPrefix →
        (h'.contexts context).library? (mangledPrefix ++ name) = some lib →
        other.load context name h' = (.ok lib, h') := by
  intro outcome after
  have hcourse : l.Course context name h outcome after := course_load l context name h
  refine ⟨?_, ?_, ?_⟩
  · intro hs hearly
    have huntouched := hcourse.untouched hs hearly
    exact ⟨huntouched.files, huntouched.directories, huntouched.pending⟩
  · intro failure expected actual houtcome hcause
    rw [houtcome] at hcourse
    have hp := hcourse.of_foreignIdentity hcause
    refine ⟨congrArg Prod.snd (load_of_mangledPrefix_eq_error hp), ?_⟩
    intro other h' hsame
    exact load_of_mangledPrefix_eq_error (hsame.trans hp)
  · intro mangledPrefix lib hp hb
    have hl : l.load context name h = (.ok lib, h) := load_of_library? hp hb
    refine ⟨congrArg Prod.fst hl, congrArg Prod.snd hl, ?_⟩
    intro other h' hsame hb'
    exact load_of_library? (hsame.trans hp) hb'

/-- A loader whose linker removes each file that it binds. -/
def removingLoader : Loader := { linker := LinkerTable.toLinker { effect := some .remove } }

/-- Nothing is packaged for `y`; `x` is packaged, and handed out again once it is bound; and a foreign identity is
refused. The linker is asked about `y` once, and about the others not at all. -/
theorem no_footprint_of_early_end_removing :
    (∃ failure, (removingLoader.load 1 "y" packagedHost).1 = .error failure ∧
      failure.cause = .notFound (Root.home ++ "liby.so") ∧
      (removingLoader.load 1 "y" packagedHost).2.calls.length = 1 ∧
      (removingLoader.load 1 "y" packagedHost).2.files = packagedHost.files ∧
      (removingLoader.load 1 "y" packagedHost).2.directories = packagedHost.directories) ∧
    (∃ lib, (removingLoader.load 1 "x" packagedHost).1.toOption = some lib ∧ lib.origin ≠ .searchPath ∧
      removingLoader.load 1 "x" (removingLoader.load 1 "x" packagedHost).2 =
        (.ok lib, (removingLoader.load 1 "x" packagedHost).2)) ∧
    ∃ failure, (Loader.load { removingLoader with identity := some "other" } 1 "x" packagedHost) =
      (.error failure, packagedHost) := by
  refine ⟨?_, ?_, ?_⟩
  · obtain ⟨failure, hfails, hcause, hcalls⟩ : ∃ failure,
        (removingLoader.load 1 "y" packagedHost).1 = .error failure ∧
        failure.cause = .notFound (Root.home ++ "liby.so") ∧
        (removingLoader.load 1 "y" packagedHost).2.calls.length = 1 := ⟨_, by rfl, by rfl, by decide +kernel⟩
    have hearly : removingLoader.EndsEarly 1 "y" packagedHost (removingLoader.load 1 "y" packagedHost).1 := by
      rw [hfails]
      exact .failed (by rw [hcause]; rfl)
    obtain ⟨hfiles, hdirectories, -⟩ := (no_footprint_of_early_end removingLoader 1 "y" packagedHost).1
      (fun searched => LinkerTable.spares_toLinker _ searched) hearly
    exact ⟨failure, hfails, hcause, hcalls, hfiles, hdirectories⟩
  · have hp : removingLoader.mangledPrefix = .ok "" := by rfl
    obtain ⟨lib, hok, horigin, hb⟩ : ∃ lib, (removingLoader.load 1 "x" packagedHost).1.toOption = some lib ∧
        lib.origin ≠ .searchPath ∧
        ((removingLoader.load 1 "x" packagedHost).2.contexts 1).library? ("" ++ "x") = some lib :=
      ⟨⟨0, "x", "", .isolated, .resource "embedded:one!/META-INF/tdlight-native/libx.so", ⟨[]⟩⟩,
        by decide +kernel, by decide, by decide +kernel⟩
    obtain ⟨-, -, hagain⟩ := (no_footprint_of_early_end removingLoader 1 "x" _).2.2 "" lib hp hb
    exact ⟨lib, hok, horigin, hagain removingLoader _ rfl hb⟩
  · obtain ⟨failure, hfails, expected, actual, hcause⟩ : ∃ failure,
        (Loader.load { removingLoader with identity := some "other" } 1 "x" packagedHost).1 = .error failure ∧
        ∃ expected actual, failure.cause = .foreignIdentity expected actual := ⟨_, by rfl, _, _, by rfl⟩
    have hforeign := (no_footprint_of_early_end { removingLoader with identity := some "other" } 1 "x" packagedHost).2.1
    obtain ⟨-, hsame⟩ := hforeign failure expected actual hfails hcause
    exact ⟨failure, hsame _ packagedHost rfl⟩

end Loader
end NativeLoader
