import NativeLoader.Proofs.Extraction.DrawnCopies
import NativeLoader.Proofs.Loading.Atomicity
import NativeLoader.Proofs.Loading.InstallNames

/-!
# Loads do not depend on what was asked and drawn before

If the linker answers as a function of the strategy and of the target's name or content (`Linker.IsSteady`), copies keep
their install names, and the loader's directory for copies is settled, then the outcome of a load does not depend on the
requests put before, the warnings given, and the random characters, but for the paths of extracted copies in its failure
(`load_agree`). Nor does it depend on what is bound in other contexts, and on the handles given out, but for the handle
of its library (`load_agreeIn`). The one exception is a load that draws only names that are taken (`Loader.RunsOut`); two
loads that draw the same names have the same outcome without exception.
-/

namespace NativeLoader

/-- A library but for its handle. -/
def Library.unnumbered (lib : Library) : Library := { lib with handle := 0 }

/-- Libraries are equal if they are so but for their handles, and their handles are. -/
theorem Library.eq_of_unnumbered {lib other : Library} (hu : lib.unnumbered = other.unnumbered)
    (hh : lib.handle = other.handle) : lib = other := by
  obtain ⟨handle, logicalName, mangledPrefix, binding, origin, image⟩ := lib
  obtain ⟨handle', logicalName', mangledPrefix', binding', origin', image'⟩ := other
  cases hh
  cases hu
  rfl

/-- Two processes that do not differ in the files, in one context and in what is known of the directories for copies. -/
structure Host.MatchesIn (context : ContextId) (h h' : Host) : Prop where
  files : h'.files = h.files
  context : h'.contexts context = h.contexts context
  directories : h'.directories = h.directories

namespace Loader

/-- Two results are equal, or failures that are the same but for what was drawn. -/
inductive ResultSameBut {α : Type} (drawn other : String) : Except Failure α → Except Failure α → Prop
  | ok (a : α) : ResultSameBut drawn other (.ok a) (.ok a)
  | error {failure failure' : Failure} : Failure.SameBut drawn other failure failure' →
      ResultSameBut drawn other (.error failure) (.error failure')

/-- Two images are bound alike, with diagnostics that are the same but for what was drawn, or neither is bound. -/
inductive BoundSameBut (drawn other : String) : Except Failure (Image × Binding × List Failure) →
    Except Failure (Image × Binding × List Failure) → Prop
  | ok (image : Image) (binding : Binding) {diagnostics diagnostics' : List Failure} :
      Failure.AllSameBut drawn other diagnostics diagnostics' →
      BoundSameBut drawn other (.ok (image, binding, diagnostics)) (.ok (image, binding, diagnostics'))
  | error {failure failure' : Failure} : Failure.SameBut drawn other failure failure' →
      BoundSameBut drawn other (.error failure) (.error failure')

namespace ResultSameBut

variable {α : Type} {drawn other : String} {r r' : Except Failure α}

theorem refl : ∀ r : Except Failure α, ResultSameBut drawn other r r
  | .ok a => .ok a
  | .error failure => .error (.same failure)

theorem eq_of_ok {a a' : α} (h : ResultSameBut drawn other (.ok a) (.ok a')) : a = a' := by
  cases h
  rfl

theorem eq (h : ResultSameBut drawn drawn r r') : r = r' := by
  cases h with
  | ok a => rfl
  | error hf => rw [hf.eq]

end ResultSameBut

/-- A linker gives the same answers about two targets, each in its files. -/
def AnswersAlike (linker : Linker) (target target' : Target) (fs fs' : FileSystem) : Prop :=
  ∀ calls calls' strategy,
    (linker.answer calls ⟨strategy, target⟩ fs).1 = (linker.answer calls' ⟨strategy, target'⟩ fs').1

variable {l : Loader} {context : ContextId} {name mangledPrefix drawn other : String} {h h' : Host}

/-! ## Binding alike -/

section Binding

variable {target target' : Target} {subject subject' : String}

theorem bindGlobally_sameBut (ha : AnswersAlike l.linker target target' h.files h'.files)
    (hs : Text.SameBut drawn other subject subject') (reason : String) :
    BoundSameBut drawn other (l.bindGlobally target subject reason h).1
      (l.bindGlobally target' subject' reason h').1 := by
  have hdiagnostics : Failure.AllSameBut drawn other [isolationUnavailable subject reason]
      [isolationUnavailable subject' reason] :=
    .cons (.node (.link hs (.same _) .none) .nil) .nil
  have hanswer : (h.ask l.linker ⟨.global, target⟩).1 = (h'.ask l.linker ⟨.global, target'⟩).1 := ha _ _ _
  unfold bindGlobally
  cases hask : h.ask l.linker ⟨.global, target⟩ with
  | mk answer after =>
    cases hask' : h'.ask l.linker ⟨.global, target'⟩ with
    | mk answer' after' =>
      rw [hask, hask'] at hanswer
      cases hanswer
      cases answer with
      | ok image => exact .ok image .global hdiagnostics
      | error refusal => exact .error (.node (.link hs (.same _) .none) hdiagnostics)

theorem bindImage_sameBut (context : ContextId) (hq : l.linker.IsQuiet)
    (ha : AnswersAlike l.linker target target' h.files h'.files) (hs : Text.SameBut drawn other subject subject')
    (hc : h'.contexts context = h.contexts context) :
    BoundSameBut drawn other (l.bindImage context target subject h).1 (l.bindImage context target' subject' h').1 := by
  unfold bindImage
  rw [hc]
  split
  · exact bindGlobally_sameBut ha hs _
  · have hanswer : (h.ask l.linker ⟨.isolated context, target⟩).1 = (h'.ask l.linker ⟨.isolated context, target'⟩).1 :=
      ha _ _ _
    obtain ⟨calls, hafter⟩ := ask_of_spares (hq.spares target) (.isolated context) h
    obtain ⟨calls', hafter'⟩ := ask_of_spares (hq.spares target') (.isolated context) h'
    cases hask : h.ask l.linker ⟨.isolated context, target⟩ with
    | mk answer after =>
      cases hask' : h'.ask l.linker ⟨.isolated context, target'⟩ with
      | mk answer' after' =>
        rw [hask, hask'] at hanswer
        rw [hask] at hafter
        rw [hask'] at hafter'
        cases hanswer
        cases answer with
        | ok image => exact .ok image .isolated .nil
        | error refusal =>
          cases refusal with
          | rejected message => exact .error (.node (.link hs (.same _) .none) .nil)
          | unavailable reason =>
            refine bindGlobally_sameBut ?_ hs reason
            rw [show after = _ from hafter, show after' = _ from hafter']
            exact ha

theorem bind_sameBut (context : ContextId) (mangledPrefix : String) (hq : l.linker.IsQuiet)
    (ha : AnswersAlike l.linker target target' h.files h'.files) (hs : Text.SameBut drawn other subject subject')
    (hc : h'.contexts context = h.contexts context) :
    ResultSameBut drawn other (l.bind context target subject mangledPrefix h).1
      (l.bind context target' subject' mangledPrefix h').1 := by
  have hb := bindImage_sameBut context hq ha hs hc
  unfold bind
  cases hi : l.bindImage context target subject h with
  | mk bound after =>
    cases hi' : l.bindImage context target' subject' h' with
    | mk bound' after' =>
      rw [hi, hi'] at hb
      cases hb with
      | error hf => exact .error hf
      | ok image binding hd =>
        simp only
        cases missingSymbol? l.required mangledPrefix image with
        | none => exact .ok (image, binding)
        | some symbol => exact .error (.node (.missingEntryPoint symbol hs) hd)

end Binding

/-! ## Finding out alike -/

section Diagnosis

variable {before before' : Host} {path path' : String} {bytes bytes' : List UInt8}

/-- Finding out why a copy was refused by the linker comes to what its volume says, and may leave its execute bits
set. -/
theorem diagnose_link_eq {loc : Location} (ha : before.files.AddsFile path loc h.files)
    (hn : h.files.node? loc = some (.file copyMode bytes)) (subject message : String) (noexec : Option String)
    (earlier : List Failure) :
    h.diagnose path (.node (.link subject message noexec) earlier) =
      match before.files.volume.modeFault with
      | some fault => ((.node (.link subject message noexec) earlier, [.of (.file "noexec check failed" fault)]), h)
      | none =>
        ((.node (.link subject message (if before.files.volume.forbidsExecution then some path else noexec)) earlier,
          []), { h with files := h.files.adjust loc (Node.withMode (copyMode ||| executeBits)) }) := by
  have hstatus : h.files.status path = .ok (.file copyMode bytes) := by
    simp only [FileSystem.status, ha.locate, hn]
  have hworth : h.files.isWorthChecking path = true := by
    have hreads : ownerReads (Node.file copyMode bytes).mode = true := by
      show ownerReads copyMode = true
      decide
    simp only [FileSystem.isWorthChecking, FileSystem.isFile, FileSystem.reader, hstatus, if_pos hreads]
    rfl
  simp only [Host.diagnose, if_pos hworth, ha.checkExecutable_eq hn]
  cases before.files.volume.modeFault with
  | some fault => rfl
  | none => cases before.files.volume.forbidsExecution <;> rfl

/-- What it comes to does not depend on where the copy stands. -/
theorem diagnose_link (hh : before.HoldsCopy path bytes h) (subject message : String) (noexec : Option String)
    (earlier : List Failure) :
    (h.diagnose path (.node (.link subject message noexec) earlier)).1 =
      match before.files.volume.modeFault with
      | some fault => (.node (.link subject message noexec) earlier, [.of (.file "noexec check failed" fault)])
      | none =>
        (.node (.link subject message (if before.files.volume.forbidsExecution then some path else noexec)) earlier,
          []) := by
  obtain ⟨loc, hadded, hn⟩ := hh
  rw [diagnose_link_eq hadded hn]
  cases before.files.volume.modeFault <;> rfl

theorem diagnose_link_sameBut (hh : before.HoldsCopy path bytes h) (hh' : before'.HoldsCopy path' bytes' h')
    (hv : before'.files.volume = before.files.volume) (hp : Text.SameBut drawn other path path')
    {subject subject' message message' : String} {noexec noexec' : Option String} {earlier earlier' : List Failure}
    (hs : Text.SameBut drawn other subject subject') (hm : Text.SameBut drawn other message message')
    (hn : Option.Rel (Text.SameBut drawn other) noexec noexec') (he : Failure.AllSameBut drawn other earlier earlier') :
    Failure.SameBut drawn other (h.diagnose path (.node (.link subject message noexec) earlier)).1.1
        (h'.diagnose path' (.node (.link subject' message' noexec') earlier')).1.1 ∧
      (h'.diagnose path' (.node (.link subject' message' noexec') earlier')).1.2 =
        (h.diagnose path (.node (.link subject message noexec) earlier)).1.2 := by
  rw [diagnose_link hh, diagnose_link hh', hv]
  cases before.files.volume.modeFault with
  | some fault => exact ⟨.node (.link hs hm hn) he, rfl⟩
  | none =>
    cases before.files.volume.forbidsExecution with
    | true => exact ⟨.node (.link hs hm (.some hp)) he, rfl⟩
    | false => exact ⟨.node (.link hs hm hn) he, rfl⟩

/-- Finding out why two copies were refused comes to the same, but for what was drawn. -/
theorem diagnose_sameBut (hh : before.HoldsCopy path bytes h) (hh' : before'.HoldsCopy path' bytes' h')
    (hv : before'.files.volume = before.files.volume) (hp : Text.SameBut drawn other path path')
    {refusal refusal' : Failure} (hf : Failure.SameBut drawn other refusal refusal') :
    Failure.SameBut drawn other (h.diagnose path refusal).1.1 (h'.diagnose path' refusal').1.1 ∧
      (h'.diagnose path' refusal').1.2 = (h.diagnose path refusal).1.2 := by
  obtain ⟨hc, he⟩ := hf.parts
  obtain ⟨cause, earlier⟩ := refusal
  obtain ⟨cause', earlier'⟩ := refusal'
  simp only [Failure.cause, Failure.earlier] at hc he
  cases hc with
  | link hs hm hn => exact diagnose_link_sameBut hh hh' hv hp hs hm hn he
  | missingEntryPoint symbol hs => exact ⟨.node (.missingEntryPoint symbol hs) he, rfl⟩
  | same =>
    cases cause with
    | link subject message noexec =>
      have hn : Option.Rel (Text.SameBut drawn other) noexec noexec := by
        cases noexec with
        | none => exact .none
        | some marked => exact .some (.same marked)
      exact diagnose_link_sameBut hh hh' hv hp (.same _) (.same _) hn he
    | _ => exact ⟨.node (.same _) he, rfl⟩

end Diagnosis

/-! ## Loading alike -/

/-- A load runs out of names: all names that it draws for its copy are taken. -/
def RunsOut (l : Loader) (context : ContextId) (name : String) (h : Host) : Prop :=
  ∃ mangledPrefix failure found c directory settled base,
    l.Packs context name mangledPrefix h failure found c directory settled ∧
      (settled.makeTemporaryFile directory (splitExtension c.fileName).1 (splitExtension c.fileName).2).1 =
        .error (.located .namesExhausted base)

/-- The outcomes of a load in two processes agree: they are the same but for what was drawn, and equal if the same names
are drawn; unless other names are drawn and one of the loads runs out of them. -/
def Agree (l : Loader) (context : ContextId) (name : String) (h h' : Host) (o o' : Except Failure Library) : Prop :=
  (∃ drawn other, Draws.IsDrawn drawn ∧ Draws.IsDrawn other ∧ (h'.draws = h.draws → other = drawn) ∧
    ResultSameBut drawn other o o') ∨
  h'.draws ≠ h.draws ∧ (l.RunsOut context name h ∨ l.RunsOut context name h')

theorem agree_of_eq {o o' : Except Failure Library} (he : o' = o) : l.Agree context name h h' o o' := by
  have hd := Draws.isDrawn_take h.draws
  rw [he]
  exact Or.inl ⟨_, _, hd, hd, fun _ => rfl, .refl o⟩

/-- Where the same names are drawn, outcomes that agree are equal. -/
theorem Agree.eq {o o' : Except Failure Library} (ha : l.Agree context name h h' o o') (hd : h'.draws = h.draws) :
    o' = o := by
  rcases ha with ⟨drawn, other, _, _, hsame, hr⟩ | ⟨hne, _⟩
  · cases hsame hd
    exact hr.eq.symm
  · exact absurd hd hne

/-- What is registered is the same but for its handle, whatever is in other contexts. -/
theorem unnumbered_register {id : ContextId} (hc : h'.contexts id = h.contexts id) (name mangledPrefix : String)
    (binding : Binding) (origin : Origin) (image : Image) :
    (h'.register id name mangledPrefix binding origin image).1.unnumbered =
      (h.register id name mangledPrefix binding origin image).1.unnumbered := by
  have hname : ∀ handle, Library.name ⟨handle, name, mangledPrefix, binding, origin, image⟩ = mangledPrefix ++ name :=
    fun _ => rfl
  simp only [Host.register, Context.register, hc, hname]
  cases (h.contexts id).library? (mangledPrefix ++ name) <;> rfl

/-- Two copies with the same bytes are bound alike, or refused alike. -/
theorem loadCopy_sameBut (hst : l.linker.IsSteady) {before before' extracted extracted' : Host}
    {path path' origin : String} {bytes : List UInt8} (hh : before.HoldsCopy path bytes extracted)
    (hh' : before'.HoldsCopy path' bytes extracted') (hv : before'.files.volume = before.files.volume)
    (hp : Text.SameBut drawn other path path') (hc : extracted'.contexts context = extracted.contexts context)
    (failure : Failure) :
    ResultSameBut drawn other
      ((l.loadCopy context name mangledPrefix origin path failure extracted).1.map Library.unnumbered)
      ((l.loadCopy context name mangledPrefix origin path' failure extracted').1.map Library.unnumbered) := by
  have halike : AnswersAlike l.linker (.extracted path) (.extracted path') extracted.files extracted'.files := by
    obtain ⟨loc, hadded, hbytes⟩ := hh
    obtain ⟨loc', hadded', hbytes'⟩ := hh'
    intro calls calls' strategy
    refine hst.2.2 calls calls' strategy path path' extracted.files extracted'.files ?_
    rw [FileSystem.content?_of_locate hadded.locate hbytes, FileSystem.content?_of_locate hadded'.locate hbytes']
  have hb := bind_sameBut context mangledPrefix hst.1 halike hp hc
  obtain ⟨calls, hbound⟩ := bind_of_isQuiet hst.1 context (.extracted path) path mangledPrefix extracted
  obtain ⟨calls', hbound'⟩ := bind_of_isQuiet hst.1 context (.extracted path') path' mangledPrefix extracted'
  unfold loadCopy
  cases hi : l.bind context (.extracted path) path mangledPrefix extracted with
  | mk result bound =>
    cases hi' : l.bind context (.extracted path') path' mangledPrefix extracted' with
    | mk result' bound' =>
      rw [hi, hi'] at hb
      rw [hi] at hbound
      rw [hi'] at hbound'
      have hused : bound = { extracted with calls } := hbound
      have hused' : bound' = { extracted' with calls := calls' } := hbound'
      cases hb with
      | ok image =>
        have hk := Host.KeepsBindings.discard l.settings.deleteCopies path bound
        have hk' := Host.KeepsBindings.discard l.settings.deleteCopies path' bound'
        have hcontexts : (bound'.discard l.settings.deleteCopies path').2.contexts context =
            (bound.discard l.settings.deleteCopies path).2.contexts context := by
          rw [hk.contexts, hk'.contexts, hused, hused', hc]
        simp only [Except.map, unnumbered_register hcontexts]
        exact .ok _
      | error hf =>
        have hheld : before.HoldsCopy path bytes bound := by
          rw [hused]
          exact hh
        have hheld' : before'.HoldsCopy path' bytes bound' := by
          rw [hused']
          exact hh'
        obtain ⟨hd, hmore⟩ := diagnose_sameBut hheld hheld' hv hp hf
        simp only [hmore]
        exact .error (hd.attach (.refl _))

/-- What two processes with the same files extract of one resource is bound alike, or refused alike. -/
theorem loadCopy_of_extract (hst : l.linker.IsSteady) {settled settled' extracted extracted' : Host}
    {path path' directory : String} {c : Candidate} (hfiles : settled'.files = settled.files)
    (hc : settled'.contexts context = settled.contexts context) (hheld : c.root.contains settled.files c.path = true)
    (hx : settled.extract c directory = (.ok path, extracted))
    (hx' : settled'.extract c directory = (.ok path', extracted')) (hp : Text.SameBut drawn other path path')
    (origin : String) (failure : Failure) :
    ResultSameBut drawn other
      ((l.loadCopy context name mangledPrefix origin path failure extracted).1.map Library.unnumbered)
      ((l.loadCopy context name mangledPrefix origin path' failure extracted').1.map Library.unnumbered) := by
  obtain ⟨bytes, hbytes, hholds⟩ := Host.extract_holdsCopy hx
  obtain ⟨bytes', hbytes', hholds'⟩ := Host.extract_holdsCopy hx'
  rw [hfiles] at hbytes'
  obtain rfl : bytes' = bytes := Except.ok.inj ((hbytes' hheld).symm.trans (hbytes hheld))
  obtain ⟨_, _, _, hframe⟩ := Host.extract_frame c directory settled
  obtain ⟨_, _, _, hframe'⟩ := Host.extract_frame c directory settled'
  rw [hx] at hframe
  rw [hx'] at hframe'
  refine loadCopy_sameBut hst hholds hholds' (by rw [hfiles]) hp ?_ failure
  rw [show extracted = _ from hframe, show extracted' = _ from hframe']
  exact hc

variable {found found' : Host} {failure : Failure}

/-- What was located is loaded alike. -/
theorem loadCandidate_agree (hst : l.linker.IsSteady) {outcome : Except String String} {c : Candidate}
    {warnings : List String} (hseek : l.Seeks context name mangledPrefix h failure found)
    (hseek' : l.Seeks context name mangledPrefix h' failure found') (hm : found.MatchesIn context found')
    (hdraws : found.draws = h.draws) (hdraws' : found'.draws = h'.draws) (hk : l.KeepsInstallNames found.files)
    (ho : (found.directories l.directory).outcome = some outcome)
    (hc : l.locate found.files (found.contexts context).roots (mangledPrefix ++ name) = (.found c, warnings)) :
    l.Agree context name h h'
      ((l.loadCandidate context name mangledPrefix c failure (found.warn warnings)).1.map Library.unnumbered)
      ((l.loadCandidate context name mangledPrefix c failure (found'.warn warnings)).1.map Library.unnumbered) := by
  have hc' : l.locate found'.files (found'.contexts context).roots (mangledPrefix ++ name) = (.found c, warnings) := by
    rw [hm.files, hm.context]
    exact hc
  have ho' : (found'.directories l.directory).outcome = some outcome := by
    rw [hm.directories]
    exact ho
  have hd := Host.extractionDirectory_of_outcome (h := found.warn warnings) ho
  have hd' := Host.extractionDirectory_of_outcome (h := found'.warn warnings) ho'
  have hfiles : (found'.warn warnings).files = (found.warn warnings).files := hm.files
  have hkept : l.KeepsInstallNames (found.warn warnings).files := hk
  have hkept' : l.KeepsInstallNames (found'.warn warnings).files := by
    rw [hfiles]
    exact hk
  unfold loadCandidate
  rw [hd, hd']
  cases outcome with
  | error message => exact agree_of_eq rfl
  | ok directory =>
    have hpack : l.Packs context name mangledPrefix h failure found c directory (found.warn warnings) :=
      ⟨hseek, warnings, hc, hd⟩
    have hpack' : l.Packs context name mangledPrefix h' failure found' c directory (found'.warn warnings) :=
      ⟨hseek', warnings, hc', hd'⟩
    have hcontains : c.root.contains (found.warn warnings).files c.path = true := contains_of_locate hc
    simp only [Host.directoryResult, extract_of_keeps hkept hseek.accepted (dot_mem_fileName hc),
      extract_of_keeps hkept' hseek.accepted (dot_mem_fileName hc)]
    rcases Host.extract_sameBut hfiles directory hcontains with
      ⟨drawn, other, hdrawn, hother, hsame, hresult⟩ | ⟨hne, base, hexhausted⟩
    · refine Or.inl ⟨drawn, other, hdrawn, hother, ?_, ?_⟩
      · intro he
        refine hsame ?_
        show found'.draws = found.draws
        rw [hdraws, hdraws', he]
      · cases hx : (found.warn warnings).extract c directory with
        | mk result extracted =>
          cases hx' : (found'.warn warnings).extract c directory with
          | mk result' extracted' =>
            rw [hx, hx'] at hresult
            rcases hresult with ⟨fault, fault', rfl, rfl, hmessage⟩ | ⟨path, path', rfl, rfl, hpath⟩
            · exact .error (.node (.link (.same _) (.append (.same _) hmessage) .none) (.refl _))
            · exact loadCopy_of_extract hst hfiles hm.context hcontains hx hx' hpath c.origin failure
    · refine Or.inr ⟨?_, ?_⟩
      · intro he
        refine hne ?_
        show found'.draws = found.draws
        rw [hdraws, hdraws', he]
      · rcases hexhausted with hout | hout
        · exact Or.inl ⟨_, _, _, c, directory, _, base, hpack, hout⟩
        · exact Or.inr ⟨_, _, _, c, directory, _, base, hpack', hout⟩

/-- What is not on the search path is loaded alike. -/
theorem loadPackaged_agree (hst : l.linker.IsSteady) {outcome : Except String String}
    (hseek : l.Seeks context name mangledPrefix h failure found)
    (hseek' : l.Seeks context name mangledPrefix h' failure found') (hm : found.MatchesIn context found')
    (hdraws : found.draws = h.draws) (hdraws' : found'.draws = h'.draws) (hk : l.KeepsInstallNames found.files)
    (ho : (found.directories l.directory).outcome = some outcome) :
    l.Agree context name h h' ((l.loadPackaged context name mangledPrefix failure found).1.map Library.unnumbered)
      ((l.loadPackaged context name mangledPrefix failure found').1.map Library.unnumbered) := by
  unfold loadPackaged
  rw [hm.files, hm.context]
  cases hc : l.locate found.files (found.contexts context).roots (mangledPrefix ++ name) with
  | mk located warnings =>
    cases located with
    | nowhere path => exact agree_of_eq rfl
    | refused conflict => exact agree_of_eq rfl
    | found c => exact loadCandidate_agree hst hseek hseek' hm hdraws hdraws' hk ho hc

/-- **Loads in processes that match in their context agree**, but for handles, if the linker is steady, copies keep their
install names and the directory for copies is settled. -/
theorem load_agreeIn (hst : l.linker.IsSteady) (hk : l.KeepsInstallNames h.files) {outcome : Except String String}
    (ho : (h.directories l.directory).outcome = some outcome) (hm : h.MatchesIn context h') (name : String) :
    l.Agree context name h h' ((l.load context name h).1.map Library.unnumbered)
      ((l.load context name h').1.map Library.unnumbered) := by
  unfold load
  cases hp : l.mangledPrefix with
  | error failure => exact agree_of_eq rfl
  | ok mangledPrefix =>
    simp only [hm.context]
    cases hfree : (h.contexts context).library? (mangledPrefix ++ name) with
    | some bound => exact agree_of_eq rfl
    | none =>
      have halike : AnswersAlike l.linker (.searched (mangledPrefix ++ name)) (.searched (mangledPrefix ++ name))
          h.files h'.files := by
        intro calls calls' strategy
        exact hst.2.1 calls calls' strategy (mangledPrefix ++ name) h.files h'.files
      -- the name itself holds nothing that was drawn
      have hsubject : Text.SameBut "" "" (mangledPrefix ++ name) (mangledPrefix ++ name) := .same _
      have hsame : (l.bind context (.searched (mangledPrefix ++ name)) (mangledPrefix ++ name) mangledPrefix h).1 =
          (l.bind context (.searched (mangledPrefix ++ name)) (mangledPrefix ++ name) mangledPrefix h').1 :=
        (bind_sameBut context mangledPrefix hst.1 halike hsubject hm.context).eq
      obtain ⟨calls, hafter⟩ := bind_of_isQuiet hst.1 context (.searched (mangledPrefix ++ name)) (mangledPrefix ++ name)
        mangledPrefix h
      obtain ⟨calls', hafter'⟩ := bind_of_isQuiet hst.1 context (.searched (mangledPrefix ++ name))
        (mangledPrefix ++ name) mangledPrefix h'
      unfold loadNew
      cases hb : l.bind context (.searched (mangledPrefix ++ name)) (mangledPrefix ++ name) mangledPrefix h with
      | mk result found =>
        cases hb' : l.bind context (.searched (mangledPrefix ++ name)) (mangledPrefix ++ name) mangledPrefix h' with
        | mk result' found' =>
          rw [hb, hb'] at hsame
          rw [hb] at hafter
          rw [hb'] at hafter'
          have hfound : found = { h with calls } := hafter
          have hfound' : found' = { h' with calls := calls' } := hafter'
          have hmatches : found.MatchesIn context found' := by
            rw [hfound, hfound']
            exact ⟨hm.files, hm.context, hm.directories⟩
          cases hsame
          cases result with
          | ok image =>
            refine agree_of_eq ?_
            simp only [Except.map, unnumbered_register hmatches.context]
          | error failure =>
            have hfree' : (h'.contexts context).library? (mangledPrefix ++ name) = none := by
              rw [hm.context]
              exact hfree
            have hsettled : (found.directories l.directory).outcome = some outcome := by
              rw [hfound]
              exact ho
            have hkept : l.KeepsInstallNames found.files := by
              rw [hfound]
              exact hk
            exact loadPackaged_agree hst ⟨hp, hfree, hb⟩ ⟨hp, hfree', hb'⟩ hmatches (by rw [hfound]) (by rw [hfound'])
              hkept hsettled

/-! ## Handles -/

/-- Of two loads that succeed, where the context is the same, both hand out the library that was bound there before, or
both register one. -/
theorem known_or_registers (hc : h'.contexts context = h.contexts context) {lib lib' : Library}
    {after after' : Host} (hl : l.load context name h = (.ok lib, after))
    (hl' : l.load context name h' = (.ok lib', after')) :
    lib' = lib ∧ after = h ∧ after' = h' ∨ Registers context lib h after ∧ Registers context lib' h' after' := by
  rcases load_eq_ok hl with ⟨mangledPrefix, hp, hb, rfl⟩ | ⟨hbinds, hr⟩
  · rw [← hc] at hb
    rw [load_of_library? hp hb] at hl'
    cases hl'
    exact Or.inl ⟨rfl, rfl, rfl⟩
  · rcases load_eq_ok hl' with ⟨mangledPrefix, hp, hb, rfl⟩ | ⟨-, hr'⟩
    · rw [hc] at hb
      rw [load_of_library? hp hb] at hl
      cases hl
      exact absurd hr.handles.symm (Nat.succ_ne_self _)
    · exact Or.inr ⟨hr, hr'⟩

/-- **Loads in matching processes agree**, if the linker is steady, copies keep their install names and the directory for
copies is settled. -/
theorem load_agree (hst : l.linker.IsSteady) (hk : l.KeepsInstallNames h.files) {outcome : Except String String}
    (ho : (h.directories l.directory).outcome = some outcome) (hm : h.Matches h') (context : ContextId) (name : String) :
    l.Agree context name h h' (l.load context name h).1 (l.load context name h').1 := by
  have hc : h'.contexts context = h.contexts context := by rw [hm.contexts]
  rcases load_agreeIn hst hk ho ⟨hm.files, hc, hm.directories⟩ name with ⟨drawn, other, hd, hd', hsame, hr⟩ | hexhausted
  · refine Or.inl ⟨drawn, other, hd, hd', hsame, ?_⟩
    cases hl : l.load context name h with
    | mk result after =>
      cases hl' : l.load context name h' with
      | mk result' after' =>
        rw [hl, hl'] at hr
        cases result with
        | error failure =>
          cases result' with
          | error failure' =>
            cases hr with
            | error hf => exact .error hf
          | ok lib' => cases hr
        | ok lib =>
          cases result' with
          | error failure' => cases hr
          | ok lib' =>
            have hunnumbered : lib.unnumbered = lib'.unnumbered := hr.eq_of_ok
            have heq : lib' = lib := by
              rcases known_or_registers hc hl hl' with ⟨heq, -⟩ | ⟨hregisters, hregisters'⟩
              · exact heq
              · refine (Library.eq_of_unnumbered hunnumbered ?_).symm
                rw [hregisters.handle, hregisters'.handle, hm.handles]
            rw [heq]
            exact .ok lib
  · exact Or.inr hexhausted

end Loader
end NativeLoader
