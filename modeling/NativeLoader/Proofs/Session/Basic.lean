import NativeLoader.Engine.Basic
import NativeLoader.Proofs.Loading.Scan

/-!
# Sessions

A `Session` is a process with its loaders. An `Action` is what its program may do next: load with one of the loaders,
one library, the first of some or an engine; add a root to a context; replace a loader's linker; change the files in
any way; or have deletions put off and made up for. `Session.run` takes some actions in turn.

- the loads that an action makes are told apart by `Performs`, each with the process before and after it;
- an action binds at most one library, with one of its loads (`step_cases`), and only one that it attempts to load
  (`step_bindings`);
- what is bound stays bound in every run (`library?_run`);
- what is bound after a run was bound before it, or a load of the run bound it (`loadedBy_of_library?_run`).
-/

namespace NativeLoader

/-- The key of a loader. -/
abbrev LoaderId := Nat

/-- A process and the loaders that its program has made. -/
structure Session where
  host : Host
  loaders : LoaderId → Loader

/-- What a program may do next. -/
inductive Action where
  | load (loader : LoaderId) (context : ContextId) (name : String)
  | loadFirst (loader : LoaderId) (context : ContextId) (names : List String)
  | loadEngine {σ : Type} (code : Code σ) (loader : LoaderId) (context : ContextId) (names : List String)
  /-- Asking for the directory that a loader extracts to. -/
  | askDirectory (loader : LoaderId)
  | addRoot (context : ContextId) (root : Root)
  | replaceLinker (loader : LoaderId) (linker : Linker)
  /-- Files are written, removed or changed otherwise, by anyone. -/
  | changeFiles (change : FileSystem → FileSystem)
  | defer (path : String)
  | runPending

/-- One library that a loader is asked to load. -/
structure Attempt where
  loader : LoaderId
  context : ContextId
  name : String
  deriving DecidableEq, Repr

/-- The libraries that an action may load. -/
def Action.attempts : Action → List Attempt
  | load loader context name => [⟨loader, context, name⟩]
  | loadFirst loader context names => names.map (⟨loader, context, ·⟩)
  | loadEngine _ loader context names => names.map (⟨loader, context, ·⟩)
  | _ => []

/-- The action does nothing but load. -/
def Action.isLoad : Action → Bool
  | load _ _ _ => true
  | loadFirst _ _ _ => true
  | loadEngine _ _ _ _ => true
  | _ => false

namespace Session

/-- The session with another host. -/
def withHost (s : Session) (h : Host) : Session := { s with host := h }

/-- The session after an action. -/
def step (s : Session) : Action → Session
  | .load loader context name => s.withHost ((s.loaders loader).load context name s.host).2
  | .loadFirst loader context names => s.withHost ((s.loaders loader).loadFirst context names s.host).2
  | .loadEngine code loader context names =>
    s.withHost (Engine.load code (s.loaders loader) context names s.host).2
  | .askDirectory loader => s.withHost (s.host.extractionDirectory (s.loaders loader).directory).2
  | .addRoot context root => s.withHost (s.host.addRoot context root)
  | .replaceLinker loader linker =>
    { s with loaders := fun i => if i = loader then { s.loaders i with linker } else s.loaders i }
  | .changeFiles change => s.withHost { s.host with files := change s.host.files }
  | .defer path => s.withHost (s.host.defer path)
  | .runPending => s.withHost s.host.runPending

/-- The session after some actions. -/
def run (s : Session) (actions : List Action) : Session := actions.foldl step s

@[simp] theorem run_nil (s : Session) : s.run [] = s := rfl

@[simp] theorem run_cons (s : Session) (a : Action) (actions : List Action) :
    s.run (a :: actions) = (s.step a).run actions := rfl

theorem run_append (s : Session) (actions more : List Action) :
    s.run (actions ++ more) = (s.run actions).run more :=
  List.foldl_append

/-! ## What loaders keep -/

/-- An action replaces at most a loader's linker. -/
theorem loaders_step (s : Session) (a : Action) (i : LoaderId) :
    ∃ linker, (s.step a).loaders i = { s.loaders i with linker } := by
  cases a with
  | replaceLinker loader linker =>
    by_cases hi : i = loader
    · exact ⟨linker, by simp [step, hi]⟩
    · exact ⟨(s.loaders i).linker, by simp [step, hi]⟩
  | _ => exact ⟨(s.loaders i).linker, rfl⟩

/-- A run replaces at most the linkers of loaders. -/
theorem loaders_run : ∀ (actions : List Action) (s : Session) (i : LoaderId),
    ∃ linker, (s.run actions).loaders i = { s.loaders i with linker }
  | [], s, i => ⟨(s.loaders i).linker, rfl⟩
  | a :: actions, s, i => by
    obtain ⟨linker, hstep⟩ := loaders_step s a i
    obtain ⟨linker', hrun⟩ := loaders_run actions (s.step a) i
    exact ⟨linker', by rw [run_cons, hrun, hstep]⟩

/-! ## What one action binds -/

/-- An engine is loaded as the first of some libraries is. -/
theorem snd_loadEngine {σ : Type} (code : Code σ) (l : Loader) (context : ContextId) (names : List String)
    (h : Host) : (Engine.load code l context names h).2 = (l.loadFirst context names h).2 := by
  unfold Engine.load
  cases hl : l.loadFirst context names h with
  | mk outcome after => cases outcome <;> rfl

/-- A load that an action performs: the attempt, and the process before and after it. -/
inductive Performs (s : Session) : Action → Attempt → Host → Host → Prop
  | load (loader : LoaderId) (context : ContextId) (name : String) :
      Performs s (.load loader context name) ⟨loader, context, name⟩ s.host
        ((s.loaders loader).load context name s.host).2
  | scan {loader : LoaderId} {context : ContextId} {failed : List String} {name : String} {rest : List String}
      {between : Host} : (s.loaders loader).FailsThrough context failed s.host between →
      Performs s (.loadFirst loader context (failed ++ name :: rest)) ⟨loader, context, name⟩ between
        ((s.loaders loader).load context name between).2
  | engine {σ : Type} {code : Code σ} {loader : LoaderId} {context : ContextId} {failed : List String}
      {name : String} {rest : List String} {between : Host} :
      (s.loaders loader).FailsThrough context failed s.host between →
      Performs s (.loadEngine code loader context (failed ++ name :: rest)) ⟨loader, context, name⟩ between
        ((s.loaders loader).load context name between).2

section Actions

variable {s : Session} {a : Action} {t : Attempt} {before after : Host}

theorem Performs.load_eq (hp : s.Performs a t before after) :
    after = ((s.loaders t.loader).load t.context t.name before).2 := by
  cases hp <;> rfl

/-- A load that an action performs is one that it attempts. -/
theorem Performs.mem_attempts (hp : s.Performs a t before after) : t ∈ a.attempts := by
  cases hp <;> simp [Action.attempts]

/-- What loads keep is kept until a load that an action performs. -/
theorem Performs.kept_before {R : Host → Host → Prop} (hk : (s.loaders t.loader).KeptByLoads t.context R)
    (hp : s.Performs a t before after) : R s.host before := by
  cases hp with
  | load loader context name => exact hk.refl s.host
  | scan hf => exact hk.failsThrough hf
  | engine hf => exact hk.failsThrough hf

/-- What loads keep is kept from a load that an action performs to the end of the action. -/
theorem Performs.kept_after {R : Host → Host → Prop} (hk : (s.loaders t.loader).KeptByLoads t.context R)
    (hp : s.Performs a t before after) : R after (s.step a).host := by
  cases hp with
  | load loader context name => exact hk.refl _
  | scan hf => exact hk.after_load hf {}
  | @engine _ code loader context failed name rest _ hf =>
    show R _ (Engine.load code (s.loaders loader) context (failed ++ name :: rest) s.host).2
    rw [snd_loadEngine]
    exact hk.after_load hf {}

/-- What a session's loaders keep is kept by an action that does nothing but load. -/
theorem kept_step {R : Host → Host → Prop} (hk : ∀ i context, (s.loaders i).KeptByLoads context R)
    (ha : a.isLoad = true) : R s.host (s.step a).host := by
  cases a with
  | load loader context name => exact (hk loader context).load name s.host
  | loadFirst loader context names => exact (hk loader context).loadFirstFrom names {} s.host
  | loadEngine code loader context names =>
    show R s.host (Engine.load code (s.loaders loader) context names s.host).2
    rw [snd_loadEngine]
    exact (hk loader context).loadFirstFrom names {} s.host
  | _ => cases ha

/-- A process whose contexts are those of another but for their roots, and that has given out as many handles. -/
structure SameButRoots (h after : Host) : Prop where
  contexts : ∀ context, ∃ roots, after.contexts context = { h.contexts context with roots }
  handles : after.handles = h.handles

theorem SameButRoots.of_keepsBindings {h after : Host} (hk : h.KeepsBindings after) : SameButRoots h after :=
  ⟨fun context => ⟨(h.contexts context).roots, by rw [hk.contexts]⟩, hk.handles⟩

/-- An action loads a new library: what is bound is left alone until the load that binds it, and that is the last. -/
structure Loads (s : Session) (a : Action) (t : Attempt) (before : Host) (lib : Library) : Prop where
  performs : s.Performs a t before (s.step a).host
  load : (s.loaders t.loader).load t.context t.name before = (.ok lib, (s.step a).host)
  keeps : s.host.KeepsBindings before
  binds : (s.loaders t.loader).Binds t.name lib
  registers : Loader.Registers t.context lib before (s.step a).host

/-- **What an action does to the contexts**: it changes at most their roots, or loads one new library. -/
theorem step_cases (s : Session) (a : Action) :
    SameButRoots s.host (s.step a).host ∨ ∃ t before lib, s.Loads a t before lib := by
  cases a with
  | load loader context name =>
    cases hl : (s.loaders loader).load context name s.host with
    | mk outcome after =>
      have hs : (s.step (.load loader context name)).host = after := by simp [step, withHost, hl]
      cases outcome with
      | error failure =>
        rw [hs]
        exact Or.inl (.of_keepsBindings (Loader.load_error hl))
      | ok lib =>
        rcases Loader.load_eq_ok hl with ⟨_, _, _, rfl⟩ | ⟨hb, hr⟩
        · rw [hs]
          exact Or.inl (.of_keepsBindings (.refl _))
        · rw [← hs] at hl hr
          exact Or.inr ⟨_, s.host, lib, .load loader context name, hl, .refl s.host, hb, hr⟩
  | loadFirst loader context names =>
    rcases (s.loaders loader).loadFirst_cases context names s.host with
      hk | ⟨failed, name, rest, between, lib, rfl, hf, hl, hb, hr⟩
    · exact Or.inl (.of_keepsBindings hk)
    · have hperforms : s.Performs (.loadFirst loader context (failed ++ name :: rest)) ⟨loader, context, name⟩ between
          ((s.loaders loader).load context name between).2 := .scan hf
      rw [hl] at hperforms
      exact Or.inr ⟨_, between, lib, hperforms, hl, hf.keepsBindings, hb, hr⟩
  | loadEngine code loader context names =>
    have hs : (s.step (.loadEngine code loader context names)).host =
        ((s.loaders loader).loadFirst context names s.host).2 := snd_loadEngine code _ context names s.host
    rcases (s.loaders loader).loadFirst_cases context names s.host with
      hk | ⟨failed, name, rest, between, lib, rfl, hf, hl, hb, hr⟩
    · rw [hs]
      exact Or.inl (.of_keepsBindings hk)
    · rw [← hs] at hl hr
      have hperforms : s.Performs (.loadEngine code loader context (failed ++ name :: rest))
          ⟨loader, context, name⟩ between ((s.loaders loader).load context name between).2 := .engine hf
      rw [hl] at hperforms
      exact Or.inr ⟨_, between, lib, hperforms, hl, hf.keepsBindings, hb, hr⟩
  | askDirectory loader => exact Or.inl (.of_keepsBindings (.extractionDirectory _ s.host))
  | addRoot context root =>
    refine Or.inl ⟨fun other => ?_, rfl⟩
    by_cases ho : other = context
    · subst ho
      exact ⟨_, Host.contexts_setContext_self other _ s.host⟩
    · exact ⟨(s.host.contexts other).roots, Host.contexts_setContext_of_ne ho _ s.host⟩
  | replaceLinker loader linker => exact Or.inl (.of_keepsBindings (.refl s.host))
  | changeFiles change => exact Or.inl (.of_keepsBindings ⟨rfl, rfl⟩)
  | defer path => exact Or.inl (.of_keepsBindings ⟨rfl, rfl⟩)
  | runPending => exact Or.inl (.of_keepsBindings ⟨rfl, rfl⟩)

end Actions

/-- A process that has bound what another has bound, and given out as many handles. -/
structure SameLibraries (h after : Host) : Prop where
  libraries : ∀ context, (after.contexts context).libraries = (h.contexts context).libraries
  handles : after.handles = h.handles

/-- What is bound under a name is the same. -/
theorem SameLibraries.library? {h after : Host} (hs : SameLibraries h after) (context : ContextId) (name : String) :
    (after.contexts context).library? name = (h.contexts context).library? name := by
  rw [Context.library?, Context.library?, hs.libraries]

/-- Other roots change nothing that is bound. -/
theorem SameButRoots.sameLibraries {h after : Host} (hs : SameButRoots h after) : SameLibraries h after := by
  refine ⟨fun context => ?_, hs.handles⟩
  obtain ⟨roots, hcontext⟩ := hs.contexts context
  rw [hcontext]

/-- An action leaves what is bound alone, or registers one library that it attempts to load. -/
theorem step_bindings (s : Session) (a : Action) :
    SameLibraries s.host (s.step a).host ∨
      ∃ t ∈ a.attempts, ∃ lib, (s.loaders t.loader).Binds t.name lib ∧
        Loader.Registers t.context lib s.host (s.step a).host := by
  rcases step_cases s a with hs | ⟨t, before, lib, hloads⟩
  · exact Or.inl hs.sameLibraries
  · exact Or.inr ⟨t, hloads.performs.mem_attempts, lib, hloads.binds, hloads.registers.of_keepsBindings hloads.keeps⟩

/-! ## What a run binds -/

/-- One action keeps what is bound. -/
theorem library?_step {s : Session} {context : ContextId} {name : String} {lib : Library} (a : Action)
    (hb : (s.host.contexts context).library? name = some lib) :
    ((s.step a).host.contexts context).library? name = some lib := by
  rcases step_bindings s a with hs | ⟨_, _, _, _, hr⟩
  · rw [hs.library?]
    exact hb
  · exact hr.library?_of_some hb

/-- Every run keeps what is bound. -/
theorem library?_run {context : ContextId} {name : String} {lib : Library} : ∀ (actions : List Action) {s : Session},
    (s.host.contexts context).library? name = some lib →
    ((s.run actions).host.contexts context).library? name = some lib
  | [], _, hb => hb
  | a :: actions, _, hb => library?_run actions (library?_step a hb)

/-- What is bound after an action was bound before, or the action loaded it. -/
theorem loads_of_library?_step {s : Session} {a : Action} {context : ContextId} {name : String} {lib : Library}
    (hb : ((s.step a).host.contexts context).library? name = some lib) :
    (s.host.contexts context).library? name = some lib ∨
      ∃ t before, s.Loads a t before lib ∧ t.context = context ∧ lib.name = name := by
  rcases step_cases s a with hs | ⟨t, before, bound, hloads⟩
  · rw [hs.sameLibraries.library?] at hb
    exact Or.inl hb
  · have hr := hloads.registers
    by_cases hk : context = t.context ∧ name = bound.name
    · obtain ⟨rfl, rfl⟩ := hk
      rw [hr.library?_self] at hb
      cases hb
      exact Or.inr ⟨t, before, hloads, rfl, rfl⟩
    · rw [hr.library?_of_ne (by by_cases hc : context = t.context <;> simp_all), hloads.keeps.contexts] at hb
      exact Or.inl hb

/-- In a run a load bound a library: one of its actions performed the load, which found the name free. -/
def LoadedBy (s : Session) (actions : List Action) (t : Attempt) (lib : Library) : Prop :=
  ∃ earlier a later before, actions = earlier ++ a :: later ∧ (s.run earlier).Loads a t before lib

/-- What is bound after a run was bound before it, or a load of the run bound it. -/
theorem loadedBy_of_library?_run {context : ContextId} {name : String} {lib : Library} :
    ∀ {actions : List Action} {s : Session}, ((s.run actions).host.contexts context).library? name = some lib →
    (s.host.contexts context).library? name = some lib ∨
      ∃ t, s.LoadedBy actions t lib ∧ t.context = context ∧ lib.name = name
  | [], _, hb => Or.inl hb
  | a :: actions, s, hb => by
    have hb : (((s.step a).run actions).host.contexts context).library? name = some lib := hb
    rcases loadedBy_of_library?_run hb with hb | ⟨t, ⟨earlier, b, later, before, rfl, hloads⟩, hc, hn⟩
    · rcases loads_of_library?_step hb with hs | ⟨t, before, hloads, hc, hn⟩
      · exact Or.inl hs
      · exact Or.inr ⟨t, ⟨[], a, actions, before, rfl, hloads⟩, hc, hn⟩
    · exact Or.inr ⟨t, ⟨a :: earlier, b, later, before, rfl, hloads⟩, hc, hn⟩

/-- What is bound in a context that was empty before a run was bound by a load of the run. -/
theorem loadedBy_of_empty {context : ContextId} {name : String} {lib : Library} {actions : List Action} {s : Session}
    (he : (s.host.contexts context).libraries = [])
    (hb : ((s.run actions).host.contexts context).library? name = some lib) :
    ∃ t, s.LoadedBy actions t lib ∧ t.context = context ∧ lib.name = name := by
  refine (loadedBy_of_library?_run hb).resolve_left ?_
  intro hs
  rw [Context.library?, he] at hs
  cases hs

/-! ## What an attempt binds -/

/-- In a run an attempt bound a library: its action found the name free and left the library bound under it, and the
library is as the attempt's loader binds it. -/
def BoundBy (s : Session) (actions : List Action) (t : Attempt) (lib : Library) : Prop :=
  ∃ earlier a later, actions = earlier ++ a :: later ∧ t ∈ a.attempts ∧
    ((s.run earlier).host.contexts t.context).library? lib.name = none ∧
    ((s.run (earlier ++ [a])).host.contexts t.context).library? lib.name = some lib ∧
    (s.loaders t.loader).Binds t.name lib

/-- What was bound by an attempt was attempted. -/
theorem BoundBy.mem_attempts {s : Session} {actions : List Action} {t : Attempt} {lib : Library}
    (hb : s.BoundBy actions t lib) : t ∈ actions.flatMap Action.attempts := by
  obtain ⟨earlier, a, later, rfl, ht, _⟩ := hb
  simp [ht]

/-- What was bound by an attempt is as the attempt's loader binds it. -/
theorem BoundBy.binds {s : Session} {actions : List Action} {t : Attempt} {lib : Library}
    (hb : s.BoundBy actions t lib) : (s.loaders t.loader).Binds t.name lib := by
  obtain ⟨_, _, _, _, _, _, _, hbinds⟩ := hb
  exact hbinds

/-- What a load of a run bound was bound by its attempt. -/
theorem LoadedBy.boundBy {s : Session} {actions : List Action} {t : Attempt} {lib : Library}
    (hl : s.LoadedBy actions t lib) : s.BoundBy actions t lib := by
  obtain ⟨earlier, a, later, before, rfl, hloads⟩ := hl
  obtain ⟨linker, hloader⟩ := loaders_run earlier s t.loader
  have hbinds := hloads.binds
  rw [hloader] at hbinds
  refine ⟨earlier, a, later, rfl, hloads.performs.mem_attempts, ?_, ?_, hbinds.mangledPrefix, hbinds.logicalName,
    hbinds.exports⟩
  · rw [← hloads.keeps.contexts]
    exact hloads.registers.free
  · rw [run_append]
    exact hloads.registers.library?_self

/-- What is bound in a context that was empty before a run was bound by an attempt of the run. -/
theorem boundBy_of_empty {context : ContextId} {name : String} {lib : Library} {actions : List Action} {s : Session}
    (he : (s.host.contexts context).libraries = [])
    (hb : ((s.run actions).host.contexts context).library? name = some lib) :
    ∃ t, s.BoundBy actions t lib ∧ t.context = context ∧ lib.name = name := by
  obtain ⟨t, hl, hc, hn⟩ := loadedBy_of_empty he hb
  exact ⟨t, hl.boundBy, hc, hn⟩

end Session
end NativeLoader
