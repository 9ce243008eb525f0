import NativeLoader.Linker.Tabulated
import NativeLoader.Proofs.Loading.Course

/-!
# What a load says it met

The failures that a load meets on its way are told stage by stage, in the order in which they happen, from what the
linker, the package and the files answer (`Loader.setbacks`): a refused identity, each binding that failed, each
namespace that could not be used, a copy that was not located, a directory that is not to be had, a copy that could not
be extracted, and a check of a copy's volume that failed. The tree of a load that fails holds each of them once and no
other (`causes_of_load`), and that of a scan holds the trees of the loads it made (`loadFirstFrom_error_outcomes`).
-/

namespace NativeLoader

/-! ## The causes in a tree -/

namespace Failure

theorem causesOf_append : ∀ fs gs : List Failure, causesOf (fs ++ gs) = causesOf fs ++ causesOf gs
  | [], gs => rfl
  | f :: fs, gs => by
    rw [List.cons_append, causesOf, causesOf, causesOf_append fs gs, List.append_assoc]

/-- Failures with nothing attached have their own causes only. -/
@[simp] theorem causesOf_map_of : ∀ cs : List Cause, causesOf (cs.map of) = cs
  | [] => rfl
  | c :: cs => by
    rw [List.map_cons, causesOf, causesOf_map_of cs]
    rfl

end Failure

/-- What a failed binding was to bind. -/
def Cause.subject? : Cause → Option String
  | link subject _ _ => some subject
  | missingEntryPoint subject _ => some subject
  | _ => none

/-! ## Bindings that fail -/

/-- What the linker said when it was asked to bind a target: why the context's namespace cannot be used, if it cannot,
and the last answer; and the process then. -/
structure Reply where
  unavailable : Option String
  answer : Except Refusal Image
  after : Host

namespace Reply

/-- What is noted of a namespace that cannot be used. -/
def notes (subject : String) (r : Reply) : List Cause :=
  r.unavailable.toList.map fun reason => .link subject ("isolated binding unavailable: " ++ reason) none

theorem notes_of_none {subject : String} {r : Reply} (hu : r.unavailable = none) : r.notes subject = [] := by
  rw [notes, hu]
  rfl

theorem notes_of_some {subject reason : String} {r : Reply} (hu : r.unavailable = some reason) :
    r.notes subject = [.link subject ("isolated binding unavailable: " ++ reason) none] := by
  rw [notes, hu]
  rfl

/-- Why an answer does not do: a refusal, or a required symbol that is missing. -/
def objection? (l : Loader) (subject mangledPrefix : String) (r : Reply) : Option Cause :=
  match r.answer with
  | .error refusal => some (.link subject refusal.detail none)
  | .ok image => (Loader.missingSymbol? l.required mangledPrefix image).map (.missingEntryPoint subject)

end Reply

/-- Asking whether a copy that was refused may be executed at all: what comes of it, if that is asked. -/
def Host.executable? (path : String) (cause : Cause) (h : Host) : Option (Except FileFault Bool) :=
  match cause with
  | .link _ _ _ => if h.files.isWorthChecking path then some (h.files.checkExecutable path).1 else none
  | _ => none

/-- The failures met when a copy was refused for some cause: the cause, marked if the volume is at fault, and then the
failure of finding out. -/
def Host.refusals (path : String) (cause : Cause) (h : Host) : List Cause :=
  match h.executable? path cause with
  | some (.ok false) => [cause.withNoexec path]
  | some (.error fault) => [cause, .file "noexec check failed" fault]
  | _ => [cause]

namespace Loader

/-- The linker's reply when it is asked to bind a target into a context. -/
def replyTo (l : Loader) (context : ContextId) (target : Target) (h : Host) : Reply :=
  if (h.contexts context).isGlobal then
    let asked := h.ask l.linker ⟨.global, target⟩
    ⟨some "the global context has no context-local helper", asked.1, asked.2⟩
  else
    let asked := h.ask l.linker ⟨.isolated context, target⟩
    match asked.1 with
    | .error (.unavailable reason) =>
      let again := asked.2.ask l.linker ⟨.global, target⟩
      ⟨some reason, again.1, again.2⟩
    | answer => ⟨none, answer, asked.2⟩

/-! ## The failures of a load, oldest first -/

/-- The failures met while a name is bound from the search path. -/
def searchSetbacks (l : Loader) (subject mangledPrefix : String) (r : Reply) : List Cause :=
  match r.objection? l subject mangledPrefix with
  | some cause => r.notes subject ++ [cause]
  | none => []

/-- The failures met while an extracted copy is bound. -/
def copySetbacks (l : Loader) (path mangledPrefix : String) (r : Reply) : List Cause :=
  match r.objection? l path mangledPrefix with
  | some cause => r.notes path ++ r.after.refusals path cause
  | none => []

/-- The failures met while the packaged copy of a library is loaded. -/
def packagedSetbacks (l : Loader) (context : ContextId) (name mangledPrefix : String) (h : Host) : List Cause :=
  match l.locate h.files (h.contexts context).roots (mangledPrefix ++ name) with
  | (.nowhere path, _) => [.notFound path]
  | (.refused conflict, _) => [conflict.cause]
  | (.found c, warnings) =>
    match (h.warn warnings).extractionDirectory l.directory with
    | (.error missing, _) => [missing.cause]
    | (.ok directory, settled) =>
      match l.extract name mangledPrefix c directory settled with
      | (.error fault, _) =>
        [.link (mangledPrefix ++ name) ("could not load a native library: " ++ fault.message) none]
      | (.ok path, extracted) => l.copySetbacks path mangledPrefix (l.replyTo context (.extracted path) extracted)

/-- The failures met while a library is loaded. -/
def setbacks (l : Loader) (context : ContextId) (name : String) (h : Host) : List Cause :=
  match l.mangledPrefix with
  | .error foreign => [foreign.cause]
  | .ok mangledPrefix =>
    match (h.contexts context).library? (mangledPrefix ++ name) with
    | some _ => []
    | none =>
      let reply := l.replyTo context (.searched (mangledPrefix ++ name)) h
      l.searchSetbacks (mangledPrefix ++ name) mangledPrefix reply ++
        l.packagedSetbacks context name mangledPrefix reply.after

/-- The failures met while some names are loaded one after the other. -/
def scanSetbacks (l : Loader) (context : ContextId) : List String → Host → List Cause
  | [], _ => []
  | name :: names, h => l.setbacks context name h ++ l.scanSetbacks context names (l.load context name h).2

/-- What some names come to when they are loaded one after the other. -/
def outcomes (l : Loader) (context : ContextId) : List String → Host → List (Except Failure Library)
  | [], _ => []
  | name :: names, h => (l.load context name h).1 :: l.outcomes context names (l.load context name h).2

variable {l : Loader} {context : ContextId} {target : Target} {subject name mangledPrefix path : String}
  {h found after : Host} {failure : Failure}

/-! ## Each stage tells what it met -/

/-- Binding globally after a namespace could not be used notes why. -/
theorem bindGlobally_eq (l : Loader) (target : Target) (subject reason : String) (h : Host) :
    l.bindGlobally target subject reason h =
      (match (h.ask l.linker ⟨.global, target⟩).1 with
        | .ok image => .ok (image, .global, [isolationUnavailable subject reason])
        | .error refusal => .error (.node (.link subject refusal.detail none) [isolationUnavailable subject reason]),
        (h.ask l.linker ⟨.global, target⟩).2) := by
  unfold bindGlobally
  cases h.ask l.linker ⟨.global, target⟩ with
  | mk answer after => cases answer <;> rfl

/-- What comes of binding is what the linker replies, with what is to be noted of the namespace. -/
theorem bindImage_eq (l : Loader) (context : ContextId) (target : Target) (subject : String) (h : Host) :
    ∃ binding, l.bindImage context target subject h =
      (match (l.replyTo context target h).answer with
        | .ok image => .ok (image, binding, ((l.replyTo context target h).notes subject).map .of)
        | .error refusal =>
          .error (.node (.link subject refusal.detail none) (((l.replyTo context target h).notes subject).map .of)),
        (l.replyTo context target h).after) := by
  unfold bindImage replyTo
  by_cases hg : (h.contexts context).isGlobal = true
  · simp only [if_pos hg, bindGlobally_eq]
    exact ⟨.global, rfl⟩
  · simp only [if_neg hg]
    cases h.ask l.linker ⟨.isolated context, target⟩ with
    | mk answer between =>
      cases answer with
      | ok image => exact ⟨.isolated, rfl⟩
      | error refusal =>
        cases refusal with
        | rejected message => exact ⟨.isolated, rfl⟩
        | unavailable reason =>
          simp only [bindGlobally_eq]
          exact ⟨.global, rfl⟩

/-- A binding that fails says why the last answer does not do, and before that why the namespace cannot be used. -/
theorem bind_eq_error (hb : l.bind context target subject mangledPrefix h = (.error failure, after)) :
    (l.replyTo context target h).after = after ∧
      ∃ cause, (l.replyTo context target h).objection? l subject mangledPrefix = some cause ∧
        failure = .node cause (((l.replyTo context target h).notes subject).map .of) := by
  obtain ⟨binding, hi⟩ := bindImage_eq l context target subject h
  unfold bind at hb
  rw [hi] at hb
  unfold Reply.objection?
  cases ha : (l.replyTo context target h).answer with
  | error refusal =>
    simp only [ha, Prod.mk.injEq, Except.error.injEq] at hb
    exact ⟨hb.2, _, rfl, hb.1.symm⟩
  | ok image =>
    simp only [ha] at hb
    split at hb
    · next symbol hm =>
      simp only [Prod.mk.injEq, Except.error.injEq] at hb
      exact ⟨hb.2, .missingEntryPoint subject symbol, by simp [hm], hb.1.symm⟩
    · cases hb

/-- Why an answer does not do names what was to be bound, and earlier failures can be attached to it. -/
theorem of_objection? {r : Reply} {cause : Cause} (ho : r.objection? l subject mangledPrefix = some cause) :
    cause.subject? = some subject ∧ cause.carries = true := by
  unfold Reply.objection? at ho
  split at ho
  · cases ho
    exact ⟨rfl, rfl⟩
  · obtain ⟨symbol, _, rfl⟩ := Option.map_eq_some_iff.mp ho
    exact ⟨rfl, rfl⟩

/-- A binding from the search path that fails tells what it met. -/
theorem searchSetbacks_of_bind (hb : l.bind context target subject mangledPrefix h = (.error failure, after)) :
    l.searchSetbacks subject mangledPrefix (l.replyTo context target h) =
        failure.earlier.map Failure.cause ++ [failure.cause] ∧
      failure.causes = failure.cause :: failure.earlier.map Failure.cause := by
  obtain ⟨-, cause, ho, rfl⟩ := bind_eq_error hb
  have hnotes : ((((l.replyTo context target h).notes subject).map Failure.of).map Failure.cause) =
      (l.replyTo context target h).notes subject := by
    rw [List.map_map]
    exact List.map_id _
  constructor
  · simp only [searchSetbacks, ho, Failure.earlier, Failure.cause, hnotes]
  · simp only [Failure.causes, Failure.causesOf_map_of, Failure.earlier, Failure.cause, hnotes]

/-- Finding out why a copy was refused tells what it met. -/
theorem refusals_of_diagnose (path : String) (cause : Cause) (earlier : List Failure) (h : Host) :
    ∃ marked checks, h.refusals path cause = marked :: checks ∧
      (h.diagnose path (.node cause earlier)).1 = (.node marked earlier, checks.map .of) ∧
      marked.carries = cause.carries ∧ marked.subject? = cause.subject? := by
  unfold Host.diagnose Host.refusals Host.executable?
  cases cause with
  | link subject message noexec =>
    by_cases hw : h.files.isWorthChecking path = true
    · simp only [if_pos hw]
      cases hx : h.files.checkExecutable path with
      | mk verdict files =>
        cases verdict with
        | error fault => exact ⟨_, [.file "noexec check failed" fault], rfl, rfl, rfl, rfl⟩
        | ok executable =>
          cases executable with
          | true => exact ⟨_, [], rfl, rfl, rfl, rfl⟩
          | false => exact ⟨_, [], rfl, rfl, rfl, rfl⟩
    · simp only [if_neg hw]
      exact ⟨_, [], rfl, rfl, rfl, rfl⟩
  | _ => exact ⟨_, [], rfl, rfl, rfl, rfl⟩

/-- An identity that is refused leaves a failure with nothing attached. -/
theorem mangledPrefix_eq_error (hp : l.mangledPrefix = .error failure) :
    ∃ expected actual, failure = .of (.foreignIdentity expected actual) := by
  unfold mangledPrefix Relocation.mangledPrefix at hp
  split at hp
  · cases hp
  · cases hp
    exact ⟨_, _, rfl⟩

/-- Copies that are in conflict leave a failure with nothing attached. -/
theorem locate_eq_refused {fs : FileSystem} {roots : List Root} {warnings : List String}
    (hc : l.locate fs roots name = (.refused failure, warnings)) :
    ∃ path origins, failure = .of (.conflict path origins) := by
  have hresult : ∀ {path said : String} {choice : Choice},
      Located.ofResult path (choice.result said) = .refused failure →
      ∃ path origins, failure = .of (.conflict path origins) := by
    intro path said choice hr
    cases choice with
    | conflict origins =>
      cases hr
      exact ⟨said, origins, rfl⟩
    | _ => cases hr
  unfold locate at hc
  simp only at hc
  split at hc
  · exact hresult (Prod.mk.inj hc).1
  · exact hresult (Prod.mk.inj hc).1

/-- A directory that is not to be had leaves a failure with nothing attached, which can carry others. -/
theorem extractionDirectory_eq_error {id : DirectoryId} (hd : h.extractionDirectory id = (.error failure, after)) :
    ∃ message, failure = .of (.directory message) := by
  obtain ⟨outcome, -, hresult⟩ := Host.outcome_extractionDirectory id h
  rw [hd] at hresult
  cases outcome with
  | ok path => cases hresult
  | error message =>
    cases hresult
    exact ⟨message, rfl⟩

/-- A copy that cannot be extracted leaves the failure of a file operation. -/
theorem extract_eq_error {c : Candidate} {directory : String}
    (hx : h.extract c directory = (.error failure, after)) : ∃ doing fault, failure = .of (.file doing fault) := by
  have hto := Host.extractsTo_extract h c directory
  rw [hx] at hto
  cases hto with
  | noFile draws hm => exact ⟨_, _, rfl⟩
  | brokenOff draws hm hcontents => exact ⟨_, _, rfl⟩

/-! ## What a load that fails tells -/

/-- A load that looks for a packaged copy has met what the search path gave, and goes on to meet more. -/
theorem Seeks.setbacks (hseek : l.Seeks context name mangledPrefix h failure found) :
    l.setbacks context name h = failure.earlier.map Failure.cause ++ failure.cause ::
      l.packagedSetbacks context name mangledPrefix found := by
  obtain ⟨hafter, -⟩ := bind_eq_error hseek.failed
  obtain ⟨hsearch, -⟩ := searchSetbacks_of_bind hseek.failed
  simp only [Loader.setbacks, hseek.accepted, hseek.free]
  rw [hsearch, hafter, List.append_assoc, List.singleton_append]

/-- A copy that was refused has met what was noted of the namespace, why it was refused, and what came of finding out
about its volume. -/
theorem copySetbacks_of_bind (hb : l.bind context (.extracted path) path mangledPrefix h = (.error failure, found)) :
    ∃ last checks, l.copySetbacks path mangledPrefix (l.replyTo context (.extracted path) h) =
        (l.replyTo context (.extracted path) h).notes path ++ last :: checks ∧ last.carries = true ∧
      last.subject? = some path ∧ (found.diagnose path failure).1 =
        (.node last (((l.replyTo context (.extracted path) h).notes path).map .of), checks.map .of) := by
  obtain ⟨hafter, cause, ho, rfl⟩ := bind_eq_error hb
  obtain ⟨hnames, hcarries⟩ := of_objection? ho
  obtain ⟨last, checks, hrefusals, hdiagnosed, hlast, hsame⟩ :=
    refusals_of_diagnose path cause (((l.replyTo context (.extracted path) h).notes path).map .of) found
  refine ⟨last, checks, ?_, hlast.trans hcarries, hsame.trans hnames, hdiagnosed⟩
  simp only [copySetbacks, ho]
  rw [hafter, hrefusals]

/-- What a load that fails is made of: the identity was refused; or what the search path met is attached to the last
failure of the packaged copy, behind what was noted of the namespace for an extracted copy, if one was extracted, and
before what came of asking about its volume. -/
theorem load_eq_error (hl : l.load context name h = (.error failure, after)) :
    l.mangledPrefix = .error failure ∨
    ∃ mangledPrefix search found notes last checks, l.Seeks context name mangledPrefix h search found ∧
      l.packagedSetbacks context name mangledPrefix found = notes ++ last :: checks ∧
      failure = .node last (notes.map .of ++ search :: checks.map .of) ∧
      ((notes = [] ∧ ∀ path extracted, ¬l.Extracts context name h path extracted) ∨
        ∃ path extracted, l.Extracts context name h path extracted ∧
          notes = (l.replyTo context (.extracted path) extracted).notes path ∧ last.subject? = some path) := by
  have hcourse := course_load l context name h
  rw [hl] at hcourse
  cases hcourse with
  | foreign hp => exact Or.inl hp
  | nowhere hseek hc =>
    refine Or.inr ⟨_, _, _, [], _, [], hseek, ?_, rfl, Or.inl ⟨rfl, not_extracts_of_locate hseek hc (by simp)⟩⟩
    simp only [packagedSetbacks, hc, List.nil_append]
  | refused hseek hc =>
    obtain ⟨path, origins, rfl⟩ := locate_eq_refused hc
    refine Or.inr ⟨_, _, _, [], .conflict path origins, [], hseek, ?_, rfl,
      Or.inl ⟨rfl, not_extracts_of_locate hseek hc (by simp)⟩⟩
    simp only [packagedSetbacks, hc, List.nil_append]
    rfl
  | homeless hseek hc hd =>
    obtain ⟨message, rfl⟩ := extractionDirectory_eq_error hd
    refine Or.inr ⟨_, _, _, [], .directory message, [], hseek, ?_, rfl,
      Or.inl ⟨rfl, not_extracts_of_homeless hseek hc hd⟩⟩
    simp only [packagedSetbacks, hc, hd, List.nil_append]
    rfl
  | unpacked hpack hx =>
    obtain ⟨warnings, hc, hd⟩ := hpack.settles
    refine Or.inr ⟨_, _, _, [], _, [], hpack.seeks, ?_, rfl, Or.inl ⟨rfl, hpack.not_extracts hx⟩⟩
    simp only [packagedSetbacks, hc, hd, hx, List.nil_append]
  | @rejected _ _ path search refusal found _ extracted bound _ hpack hx hb =>
    obtain ⟨warnings, hc, hd⟩ := hpack.settles
    obtain ⟨last, checks, hcopy, hcarries, hnames, hdiagnosed⟩ := copySetbacks_of_bind hb
    have hextracts : l.Extracts context name h path extracted := ⟨_, _, _, _, _, _, hpack, hx⟩
    refine Or.inr ⟨_, search, found, (l.replyTo context (.extracted path) extracted).notes path, last, checks,
      hpack.seeks, ?_, ?_, Or.inr ⟨path, extracted, hextracts, rfl, hnames⟩⟩
    · simp only [packagedSetbacks, hc, hd, hx]
      exact hcopy
    · rw [hdiagnosed, Failure.attach, if_pos hcarries]

/-- A failure put in front of those noted before it, and others from behind them, are the same failures. -/
theorem perm_of_attached (last first : Cause) (notes firsts checks : List Cause) :
    (last :: (notes ++ (first :: firsts ++ checks))).Perm (firsts ++ first :: (notes ++ last :: checks)) :=
  calc List.Perm (last :: (notes ++ (first :: firsts ++ checks))) (last :: (first :: firsts ++ (notes ++ checks))) :=
        (List.perm_append_comm_assoc _ _ _).cons last
    List.Perm _ (first :: firsts ++ last :: (notes ++ checks)) := List.perm_middle.symm
    List.Perm _ (first :: firsts ++ (notes ++ last :: checks)) := List.perm_middle.symm.append_left _
    List.Perm _ (firsts ++ first :: (notes ++ last :: checks)) := List.perm_middle.symm

/-- **Every failure is told once.** The causes in the tree of a load that fails are the failures that it met, each as
often as it was met. -/
theorem causes_of_load (hl : l.load context name h = (.error failure, after)) :
    failure.causes.Perm (l.setbacks context name h) := by
  rcases load_eq_error hl with hp | ⟨mangledPrefix, search, found, notes, last, checks, hseek, hpackaged, rfl, -⟩
  · obtain ⟨expected, actual, rfl⟩ := mangledPrefix_eq_error hp
    rw [setbacks, hp]
    exact .refl _
  · obtain ⟨-, hsearch⟩ := searchSetbacks_of_bind hseek.failed
    rw [hseek.setbacks, hpackaged, Failure.causes, Failure.causesOf_append, Failure.causesOf, Failure.causesOf_map_of,
      Failure.causesOf_map_of, hsearch]
    exact perm_of_attached last search.cause notes _ checks

/-! ## What a scan that fails tells -/

/-- A scan that fails keeps what each load it makes came to, in order, and is over when the names are, or after a
failure that is fatal. -/
theorem loadFirstFrom_error_outcomes : ∀ {names : List String} {s : Scan} {h : Host},
    l.loadFirstFrom context s names h = (.error failure, after) → ∃ tried failures, tried <+: names ∧
      failure = .node (.exhausted (s.tried ++ tried)) (s.failures ++ failures) ∧
      l.outcomes context tried h = failures.map .error ∧
      (tried = names ∨ ∃ last, failures.getLast? = some last ∧ last.isFatal = true)
  | [], s, h, hl => by
    cases hl
    exact ⟨[], [], List.prefix_rfl, by simp [Scan.exhausted], rfl, Or.inl rfl⟩
  | name :: names, s, h, hl => by
    unfold loadFirstFrom at hl
    split at hl
    · cases hl
    · next first between hfirst =>
      have hstart : ∀ tried, l.outcomes context (name :: tried) h =
          .error first :: l.outcomes context tried between := by
        intro tried
        rw [outcomes, hfirst]
      by_cases hfatal : first.isFatal = true
      · rw [if_pos hfatal] at hl
        cases hl
        refine ⟨[name], [first], ⟨names, rfl⟩, rfl, hstart [], Or.inr ⟨first, rfl, hfatal⟩⟩
      · rw [if_neg hfatal] at hl
        obtain ⟨tried, failures, htried, hfailure, houtcomes, hend⟩ := loadFirstFrom_error_outcomes hl
        refine ⟨name :: tried, first :: failures, List.cons_prefix_cons.mpr ⟨rfl, htried⟩, ?_, ?_, ?_⟩
        · simpa only [Scan.record, List.append_assoc, List.singleton_append] using hfailure
        · rw [hstart, houtcomes, List.map_cons]
        · rcases hend with rfl | ⟨last, hlast, hfatal'⟩
          · exact Or.inl rfl
          · exact Or.inr ⟨last, by rw [List.getLast?_cons, hlast]; rfl, hfatal'⟩

/-- The causes in the trees of loads that all fail are the failures that they met, load by load. -/
theorem causesOf_of_outcomes : ∀ {names : List String} {failures : List Failure} {h : Host},
    l.outcomes context names h = failures.map .error →
      (Failure.causesOf failures).Perm (l.scanSetbacks context names h)
  | [], [], h, _ => .refl _
  | [], _ :: _, h, ho => by cases ho
  | _ :: _, [], h, ho => by cases ho
  | name :: names, first :: failures, h, ho => by
    rw [outcomes, List.map_cons, List.cons.injEq] at ho
    rw [Failure.causesOf, scanSetbacks]
    have hfirst : l.load context name h = (.error first, (l.load context name h).2) := Prod.ext ho.1 rfl
    exact (causes_of_load hfirst).append (causesOf_of_outcomes ho.2)

/-- A load whose packaged copy cannot be extracted fails with a refusal to link that words the failure. -/
theorem Packs.load_of_extract {c : Candidate} {directory : String} {settled : Host} {fault : Failure}
    (hpack : l.Packs context name mangledPrefix h failure found c directory settled)
    (hx : settled.extract c directory = (.error fault, after)) :
    l.load context name h = (.error (.node (.link (mangledPrefix ++ name)
      ("could not load a native library: " ++ fault.message) none) [failure]), after) := by
  obtain ⟨warnings, hc, hd⟩ := hpack.settles
  have hfails : l.extract name mangledPrefix c directory settled = (.error fault, after) := extract_eq_error_iff.mpr hx
  simp only [load, hpack.seeks.accepted, hpack.seeks.free, loadNew, hpack.seeks.failed, loadPackaged, hc, loadCandidate,
    hd, hfails]

/-- **No failure is lost or told twice.** The causes in the tree of a load that fails are the failures that it met, each
as often as it was met; where it was a copy that could not be extracted, the tree's own cause words the file operation
that failed. A scan that fails holds the trees of the loads that it made, one for each name, in order, and the causes in
it are those failures and its own. -/
theorem setbacks_told_once (l : Loader) (context : ContextId) (h : Host) :
    (∀ name failure after, l.load context name h = (.error failure, after) →
      failure.causes.Perm (l.setbacks context name h)) ∧
    (∀ name mangledPrefix search found c directory settled fault extracted,
      l.Packs context name mangledPrefix h search found c directory settled →
      settled.extract c directory = (.error fault, extracted) → ∃ doing met earlier, fault = .of (.file doing met) ∧
        (l.load context name h).1 = .error (.node (.link (mangledPrefix ++ name)
          ("could not load a native library: " ++ (doing ++ ": " ++ met.message)) none) earlier)) ∧
    ∀ names failure after, l.loadFirst context names h = (.error failure, after) → ∃ tried failures,
      tried <+: names ∧ failure = .node (.exhausted tried) failures ∧
      l.outcomes context tried h = failures.map .error ∧
      (tried = names ∨ ∃ last, failures.getLast? = some last ∧ last.isFatal = true) ∧
      failure.causes.Perm (.exhausted tried :: l.scanSetbacks context tried h) := by
  refine ⟨?_, ?_, ?_⟩
  · intro name failure after hl
    exact causes_of_load hl
  · intro name mangledPrefix search found c directory settled fault extracted hpack hx
    obtain ⟨doing, met, rfl⟩ := extract_eq_error hx
    exact ⟨doing, met, [search], rfl, by rw [hpack.load_of_extract hx]; rfl⟩
  · intro names failure after hl
    obtain ⟨tried, failures, htried, hfailure, houtcomes, hend⟩ := loadFirstFrom_error_outcomes hl
    rw [List.nil_append, List.nil_append] at hfailure
    refine ⟨tried, failures, htried, hfailure, houtcomes, hend, ?_⟩
    rw [hfailure, Failure.causes]
    exact (causesOf_of_outcomes houtcomes).cons _

/-! ## A directory that is gone -/

/-- The packaged copy of a library. -/
def packedCandidate : Candidate :=
  ⟨.embedded "one" [("META-INF/tdlight-native/libx.so", [])], "META-INF/tdlight-native/libx.so"⟩

/-- A process whose contexts have this copy, and whose directory for copies is gone. -/
def homelessHost : Host :=
  { temporary := "/tmp"
    draws := .ofNumbers fun n => n
    contexts := fun _ => { roots := [packedCandidate.root] }
    directories := fun _ => { outcome := some (.ok "/gone") } }

/-- A loader whose linker finds nothing on the search path. -/
def strandedLoader : Loader := { linker := LinkerTable.toLinker {} }

/-- The process once this loader has looked for `x` on the search path. -/
def strandedHost : Host := (strandedLoader.bind 1 (.searched "x") "x" "" homelessHost).2

/-- There is a copy of `x`, which cannot be extracted, and none of `y`; what was met on the way is all told. -/
theorem setbacks_told_once_homeless :
    (∃ failure, (strandedLoader.load 1 "x" homelessHost).1 = .error failure ∧
      failure.causes.Perm (strandedLoader.setbacks 1 "x" homelessHost) ∧
      (strandedLoader.setbacks 1 "x" homelessHost).length = 2) ∧
    (∃ earlier, (strandedLoader.load 1 "x" homelessHost).1 = .error (.node (.link "x"
      ("could not load a native library: " ++ ("cannot create temp file in /gone: " ++
        (FileFault.located (.system .missing) "/gone/libx012345.so").message)) none) earlier)) ∧
    ∃ failures, (strandedLoader.loadFirst 1 ["x", "y"] homelessHost).1 =
        .error (.node (.exhausted ["x", "y"]) failures) ∧
      strandedLoader.outcomes 1 ["x", "y"] homelessHost = failures.map .error ∧
      (Failure.node (.exhausted ["x", "y"]) failures).causes.length = 5 := by
  obtain ⟨hload, hextract, hscan⟩ := setbacks_told_once strandedLoader 1 homelessHost
  refine ⟨?_, ?_, ?_⟩
  · have hfails : (strandedLoader.load 1 "x" homelessHost).1.toOption = none := by decide +kernel
    have hlength : (strandedLoader.setbacks 1 "x" homelessHost).length = 2 := by decide +kernel
    cases hl : strandedLoader.load 1 "x" homelessHost with
    | mk outcome after =>
      cases outcome with
      | ok lib =>
        rw [hl] at hfails
        cases hfails
      | error failure => exact ⟨failure, rfl, hload "x" failure after hl, hlength⟩
  · have hseek : strandedLoader.Seeks 1 "x" "" homelessHost
        (.of (.link "x" "no x on the library search path" none)) strandedHost := ⟨by rfl, by rfl, by rfl⟩
    have hpack : strandedLoader.Packs 1 "x" "" homelessHost
        (.of (.link "x" "no x on the library search path" none)) strandedHost packedCandidate "/gone" strandedHost :=
      ⟨hseek, [], by rfl, by rfl⟩
    have hx : strandedHost.extract packedCandidate "/gone" =
        (.error (.of (.file "cannot create temp file in /gone" (.located (.system .missing) "/gone/libx012345.so"))),
          (strandedHost.extract packedCandidate "/gone").2) := Prod.ext (by rfl) rfl
    obtain ⟨doing, met, earlier, hfault, hfails⟩ := hextract _ _ _ _ _ _ _ _ _ hpack hx
    cases hfault
    exact ⟨earlier, hfails⟩
  · obtain ⟨failures, after, hl⟩ : ∃ failures after, strandedLoader.loadFirst 1 ["x", "y"] homelessHost =
        (.error (.node (.exhausted ["x", "y"]) failures), after) := ⟨_, _, by rfl⟩
    obtain ⟨tried, failures', htried, hsame, houtcomes, -, hperm⟩ := hscan ["x", "y"] _ after hl
    cases hsame
    have hlength : (strandedLoader.scanSetbacks 1 ["x", "y"] homelessHost).length = 4 := by decide +kernel
    refine ⟨failures, by rw [hl], houtcomes, ?_⟩
    rw [hperm.length_eq, List.length_cons, hlength]

end Loader
end NativeLoader
