import NativeLoader.Proofs.Loading.NewLibraries
import NativeLoader.Proofs.Session.LoadOnce

/-!
# What contexts hold

The libraries of a context are a table: no key stands in it twice, and each library stands under its own name
(`Context.IsKeyed`). An action keeps this (`isKeyed_step`), and so does every run (`isKeyed_run`). The names that a
context lists are then the keys of the table, each once and in order (`Context.IsKeyed.pairwise_loadedNames`). What an
entry says of its library, of where it was bound and of where it came from, is what the load did that made the entry
(`entries_of_run`).
-/

namespace NativeLoader

/-! ## Tables of libraries -/

namespace Context

variable {c : Context} {key name : String} {lib : Library}

/-- No two libraries of a context have one key, and each has its own name for a key. -/
structure IsKeyed (c : Context) : Prop where
  key_eq : ∀ key lib, (key, lib) ∈ c.libraries → key = lib.name
  nodup : (c.libraries.map (·.1)).Nodup

theorem IsKeyed.of_empty (he : c.libraries = []) : c.IsKeyed := by
  constructor
  · intro key lib hmem
    rw [he] at hmem
    cases hmem
  · rw [he]
    exact List.nodup_nil

/-- There is a library under a name exactly if the name is a key. -/
theorem isSome_library?_iff : (c.library? name).isSome = true ↔ name ∈ c.libraries.map (·.1) := by
  rw [library?, List.lookup_isSome_iff, List.mem_map]
  constructor
  · rintro ⟨entry, hmem, he⟩
    exact ⟨entry, hmem, (eq_of_beq he).symm⟩
  · rintro ⟨entry, hmem, rfl⟩
    exact ⟨entry, hmem, beq_self_eq_true _⟩

/-- Registering a library under a free name keeps the table one. -/
theorem IsKeyed.register (hk : c.IsKeyed) (hfree : c.library? lib.name = none) : (c.register lib).2.IsKeyed := by
  constructor
  · intro key bound hmem
    rw [libraries_register hfree, List.mem_append, List.mem_singleton] at hmem
    rcases hmem with hmem | hmem
    · exact hk.key_eq key bound hmem
    · cases hmem
      rfl
  · have hnew : lib.name ∉ c.libraries.map (·.1) := by
      rw [← isSome_library?_iff, hfree]
      simp
    rw [libraries_register hfree, List.map_append, List.nodup_append]
    refine ⟨hk.nodup, List.pairwise_singleton _ _, ?_⟩
    intro old hold new hnew' he
    subst he
    rw [List.map_singleton, List.mem_singleton] at hnew'
    subst hnew'
    exact hnew hold

/-- What is found under a name is what the table holds under it. -/
theorem IsKeyed.library?_eq_some_iff (hk : c.IsKeyed) : c.library? key = some lib ↔ (key, lib) ∈ c.libraries := by
  rw [library?, List.lookup_eq_some_iff]
  constructor
  · rintro ⟨before, behind, he, -⟩
    rw [he]
    simp
  · intro hmem
    obtain ⟨before, behind, he⟩ := List.append_of_mem hmem
    refine ⟨before, behind, he, ?_⟩
    have hnodup := hk.nodup
    rw [he, List.map_append, List.nodup_append] at hnodup
    intro entry hentry
    rw [bne_iff_ne]
    exact (hnodup.2.2 entry.1 (List.mem_map_of_mem hentry) key (by simp)).symm

/-- The names listed are the keys. -/
theorem mem_loadedNames_iff : name ∈ c.loadedNames ↔ (c.library? name).isSome = true := by
  rw [loadedNames, List.mem_mergeSort, isSome_library?_iff]

/-- The names are listed in order, each once. -/
theorem IsKeyed.pairwise_loadedNames (hk : c.IsKeyed) : c.loadedNames.Pairwise (· < ·) := by
  have hsorted : c.loadedNames.Pairwise fun name other => decide (name ≤ other) = true := by
    refine List.pairwise_mergeSort ?_ ?_ _
    · intro first second third h₁ h₂
      rw [decide_eq_true_iff] at h₁ h₂ ⊢
      exact String.le_trans h₁ h₂
    · intro first second
      rw [Bool.or_eq_true, decide_eq_true_iff, decide_eq_true_iff]
      exact String.le_total first second
  have hdistinct : c.loadedNames.Pairwise (· ≠ ·) := (List.mergeSort_perm _ _).nodup_iff.mpr hk.nodup
  refine (hsorted.and hdistinct).imp ?_
  rintro name other ⟨hle, hne⟩
  exact Std.lt_of_le_of_ne (of_decide_eq_true hle) hne

end Context

namespace Session

variable {s : Session} {context : ContextId}

/-! ## Steps and runs -/

/-- An action keeps all tables. -/
theorem isKeyed_step (hk : ∀ context, (s.host.contexts context).IsKeyed) (a : Action) (context : ContextId) :
    ((s.step a).host.contexts context).IsKeyed := by
  rcases step_cases s a with hs | ⟨t, before, lib, hloads⟩
  · obtain ⟨roots, hcontext⟩ := hs.contexts context
    rw [hcontext]
    exact ⟨(hk context).key_eq, (hk context).nodup⟩
  · rw [hloads.registers.contexts_eq context, hloads.keeps.contexts]
    split
    · refine (hk t.context).register ?_
      rw [← hloads.keeps.contexts]
      exact hloads.registers.free
    · exact hk context

/-- A run keeps all tables. -/
theorem isKeyed_run : ∀ (actions : List Action) {s : Session}, (∀ context, (s.host.contexts context).IsKeyed) →
    ∀ context, ((s.run actions).host.contexts context).IsKeyed
  | [], _, hk => hk
  | a :: actions, _, hk => isKeyed_run actions (isKeyed_step hk a)

/-- An action leaves it as it is whether a context has a namespace. -/
theorem isGlobal_step (s : Session) (a : Action) (context : ContextId) :
    ((s.step a).host.contexts context).isGlobal = (s.host.contexts context).isGlobal := by
  rcases step_cases s a with hs | ⟨t, before, lib, hloads⟩
  · obtain ⟨roots, hcontext⟩ := hs.contexts context
    rw [hcontext]
  · have hfree := hloads.registers.free
    rw [hloads.registers.contexts_eq context, ← hloads.keeps.contexts]
    split
    · next he => rw [he, Context.register, hfree]
    · rfl

/-- So does every run. -/
theorem isGlobal_run (context : ContextId) : ∀ (actions : List Action) (s : Session),
    ((s.run actions).host.contexts context).isGlobal = (s.host.contexts context).isGlobal
  | [], _ => rfl
  | a :: actions, s => (isGlobal_run context actions (s.step a)).trans (isGlobal_step s a context)

/-- **What contexts hold.** In a session that began with nothing bound, every context lists the names under which it has
a library, each once and in order. A library stands under its own name, which is a mangled path and the name that was
asked for. One load of the run brought it, by the time that its action was over, under a name that was free; in the
process's own context it is bound for the whole process, if it is isolated then the last request of that load was for
the namespace of this context and was answered with its image, and if it is from the search path then that load
extracted nothing and changed no file but by asking for it. -/
theorem entries_of_run (hempty : ∀ context, (s.host.contexts context).libraries = []) (actions : List Action)
    (context : ContextId) :
    let c := (s.run actions).host.contexts context
    (c.loadedNames.Pairwise (· < ·) ∧ ∀ name, name ∈ c.loadedNames ↔ (c.library? name).isSome = true) ∧
    ∀ key lib, (key, lib) ∈ c.libraries →
      c.library? key = some lib ∧ key = lib.name ∧ lib.name = lib.mangledPrefix ++ lib.logicalName ∧
      (∃ path, lib.mangledPrefix = Relocation.mangle path) ∧
      (c.isGlobal = true → lib.binding = .global) ∧
      ∃ earlier a later t before, actions = earlier ++ a :: later ∧ t.context = context ∧
        (s.run earlier).Loads a t before lib ∧
        (lib.binding = .isolated → (((s.run earlier).loaders t.loader).BoundInside context lib before
          (s.run (earlier ++ [a])).host)) ∧
        (lib.origin = .searchPath →
          (s.run (earlier ++ [a])).host.files = (((s.run earlier).loaders t.loader).asked context t.name before).files ∧
          ∀ path extracted, ¬((s.run earlier).loaders t.loader).Extracts context t.name before path extracted) := by
  intro c
  have hkeyed : c.IsKeyed := isKeyed_run actions (fun other => .of_empty (hempty other)) context
  refine ⟨⟨hkeyed.pairwise_loadedNames, fun name => Context.mem_loadedNames_iff⟩, ?_⟩
  intro key lib hmem
  have hbound := hkeyed.library?_eq_some_iff.mpr hmem
  obtain ⟨t, ⟨earlier, a, later, before, rfl, hloads⟩, rfl, -⟩ := loadedBy_of_empty (hempty context) hbound
  have hbrings := Loader.brings_of_load hloads.load hloads.registers
  have hafter : (s.run (earlier ++ [a])).host = ((s.run earlier).step a).host := by rw [run_append]; rfl
  refine ⟨hbound, hkeyed.key_eq key lib hmem, rfl, ?_, ?_, earlier, a, later, t, before, rfl, rfl, hloads, ?_, ?_⟩
  · obtain ⟨path, -, hpath⟩ := Relocation.mangledPrefix_eq_ok hloads.binds.mangledPrefix
    exact ⟨path, hpath⟩
  · intro hg
    refine hbrings.binding_of_isGlobal ?_
    rw [hloads.keeps.contexts, isGlobal_run t.context earlier s, ← isGlobal_run t.context (earlier ++ a :: later) s]
    exact hg
  · intro hi
    rw [hafter]
    exact hbrings.boundInside hi
  · intro ho
    rw [hafter]
    exact hbrings.files_of_searchPath ho

/-! ## A run of a relocated build -/

/-- A session with the process's own context, whose loader is of a build relocated below `a`. -/
def relocatedSession : Session :=
  ⟨idleHost.setContext globalContext { isGlobal := true }, fun _ =>
    { searchLoader [("a_x", []), ("a_b", [])] with identity := some "a.tdlight_loader.shading" }⟩

/-- The build loads two libraries into one context, and one into the process's own. -/
def relocatedActions : List Action := [.load 0 1 "x", .load 0 1 "b", .load 0 0 "x"]

/-- The context lists both names in order, and the linker was asked to open one of the libraries there. -/
theorem entries_of_run_relocated :
    (((relocatedSession.run relocatedActions).host.contexts 1).loadedNames.Pairwise (· < ·) ∧
      ∀ name ∈ ["a_x", "a_b"], name ∈ ((relocatedSession.run relocatedActions).host.contexts 1).loadedNames) ∧
    (∃ lib, ((relocatedSession.run relocatedActions).host.contexts 0).library? "a_x" = some lib ∧
      lib.binding = .global) ∧
    ∃ lib earlier a later t before, relocatedActions = earlier ++ a :: later ∧
      ((relocatedSession.run relocatedActions).host.contexts 1).library? "a_b" = some lib ∧ lib.logicalName = "b" ∧
      (relocatedSession.run earlier).Loads a t before lib ∧
      ((relocatedSession.run earlier).loaders t.loader).BoundInside 1 lib before
        (relocatedSession.run (earlier ++ [a])).host := by
  have hempty : ∀ context, (relocatedSession.host.contexts context).libraries = [] := by
    intro context
    by_cases hc : context = globalContext
    · rw [hc]
      rfl
    · rw [relocatedSession, Host.contexts_setContext_of_ne hc]
      rfl
  obtain ⟨⟨hsorted, hlisted⟩, hentries⟩ := entries_of_run hempty relocatedActions 1
  obtain ⟨-, hglobal⟩ := entries_of_run hempty relocatedActions 0
  refine ⟨⟨hsorted, ?_⟩, ?_, ?_⟩
  · intro name hname
    rw [hlisted]
    have hboth : ∀ name ∈ ["a_x", "a_b"],
        (((relocatedSession.run relocatedActions).host.contexts 1).library? name).isSome = true := by decide +kernel
    exact hboth name hname
  · have hmem : ("a_x", (⟨2, "x", "a_", .global, .searchPath, ⟨[]⟩⟩ : Library)) ∈
        ((relocatedSession.run relocatedActions).host.contexts 0).libraries := by decide +kernel
    obtain ⟨hbound, -, -, -, hbinding, -⟩ := hglobal _ _ hmem
    exact ⟨_, hbound, hbinding (by decide +kernel)⟩
  · have hmem : ("a_b", (⟨1, "b", "a_", .isolated, .searchPath, ⟨[]⟩⟩ : Library)) ∈
        ((relocatedSession.run relocatedActions).host.contexts 1).libraries := by decide +kernel
    obtain ⟨hbound, -, -, -, -, earlier, a, later, t, before, hactions, -, hloads, hinside, -⟩ := hentries _ _ hmem
    exact ⟨_, earlier, a, later, t, before, hactions, hbound, rfl, hloads, hinside rfl⟩

end Session
end NativeLoader
