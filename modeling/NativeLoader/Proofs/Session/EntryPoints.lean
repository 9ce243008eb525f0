import NativeLoader.Engine.Scripted
import NativeLoader.Proofs.Session.LoadOnce

/-!
# Required entry points

A library is checked for the symbols that its loader requires when it is bound, and handed out unchecked afterwards.
So a library that a session hands out (`Loader.HandsOut`) exports the required symbols that the attempt that bound it
required too, and all of them if nothing bound it before; if these make an engine, the engine is bound, and what fails
is the loading (`hasSymbol_of_handsOut`). A loader that requires nothing can leave an incomplete library behind for one
that does (`incomplete_engine_handed_out`).
-/

namespace NativeLoader

/-- A loader hands out a library, for a name or for the first of some names that loads. -/
def Loader.HandsOut (l : Loader) (context : ContextId) (h : Host) (lib : Library) (after : Host) : Prop :=
  (∃ name, l.load context name h = (.ok lib, after)) ∨ ∃ names, l.loadFirst context names h = (.ok lib, after)

/-- What a loader hands out was bound in the context before, or is as the loader binds it. -/
theorem Loader.HandsOut.bound_or_binds {l : Loader} {context : ContextId} {h after : Host} {lib : Library}
    (ho : l.HandsOut context h lib after) :
    (∃ name, (h.contexts context).library? name = some lib) ∨ ∃ name, l.Binds name lib := by
  rcases ho with ⟨name, hl⟩ | ⟨names, hl⟩
  · rcases load_eq_ok hl with ⟨mangledPrefix, _, hb, _⟩ | ⟨hb, _⟩
    · exact Or.inl ⟨mangledPrefix ++ name, hb⟩
    · exact Or.inr ⟨name, hb⟩
  · obtain ⟨name, _, ⟨mangledPrefix, _, hb, _⟩ | ⟨hb, _⟩⟩ := loadFirst_eq_ok hl
    · exact Or.inl ⟨mangledPrefix ++ name, hb⟩
    · exact Or.inr ⟨name, hb⟩

/-- A library that exports the symbols of an engine is one, with the functions at their places. -/
theorem Engine.ofLibrary_of_hasSymbol {σ : Type} (code : Code σ) {lib : Library}
    (hs : ∀ symbol ∈ EntryPoint.symbols, lib.hasSymbol symbol = true) :
    ∃ a : EntryAddresses, a.AreExportedBy lib ∧ Engine.ofLibrary code lib = .ok ⟨lib, code.entryPoints a⟩ := by
  obtain ⟨a, ha⟩ := Library.hasSymbols_iff.mp hs
  exact ⟨a, ha, Engine.ofLibrary_eq_ok_iff.mpr ⟨a, ha, rfl⟩⟩

namespace Session

/-- **Required entry points.** In a session that began with nothing bound in a context, a library that is handed out
there exports every symbol that is required both by its loader and by the attempt, if there was one, that had bound it.
If these require the symbols of an engine, then an engine fails to load only with a failure of the scan; else it is in
the library of the first name that loads. -/
theorem hasSymbol_of_handsOut {s₀ : Session} {context : ContextId}
    (hempty : (s₀.host.contexts context).libraries = []) (actions : List Action) (loader : LoaderId) :
    let s := s₀.run actions
    let l := s.loaders loader
    (∀ lib after, l.HandsOut context s.host lib after → ∀ symbol ∈ l.required,
      (∀ t, s₀.BoundBy actions t lib → t.context = context → symbol ∈ (s₀.loaders t.loader).required) →
      lib.hasSymbol symbol = true) ∧
    ∀ {σ : Type} (code : Code σ) (names : List String), (∀ symbol ∈ EntryPoint.symbols, symbol ∈ l.required) →
      (∀ lib after, l.loadFirst context names s.host = (.ok lib, after) → ∀ t, s₀.BoundBy actions t lib →
        t.context = context → ∀ symbol ∈ EntryPoint.symbols, symbol ∈ (s₀.loaders t.loader).required) →
      (∃ failure after, l.loadFirst context names s.host = (.error failure, after) ∧
        Engine.load code l context names s.host = (.error (.load failure), after)) ∨
      ∃ failed name rest between lib after a, names = failed ++ name :: rest ∧
        l.FailsThrough context failed s.host between ∧ l.load context name between = (.ok lib, after) ∧
        EntryAddresses.AreExportedBy a lib ∧
        Engine.load code l context names s.host = (.ok ⟨lib, code.entryPoints a⟩, after) := by
  intro s l
  have hhanded : ∀ lib after, l.HandsOut context s.host lib after → ∀ symbol ∈ l.required,
      (∀ t, s₀.BoundBy actions t lib → t.context = context → symbol ∈ (s₀.loaders t.loader).required) →
      lib.hasSymbol symbol = true := by
    intro lib after ho symbol hsymbol hbound
    rcases ho.bound_or_binds with ⟨name, hb⟩ | ⟨name, hb⟩
    · obtain ⟨t, ht, hc, _⟩ := boundBy_of_empty hempty hb
      exact ht.binds.exports symbol (hbound t ht hc)
    · exact hb.exports symbol hsymbol
  refine ⟨hhanded, ?_⟩
  intro σ code names hrequired hbound
  cases hl : l.loadFirst context names s.host with
  | mk outcome after =>
    cases outcome with
    | error failure => exact Or.inl ⟨failure, after, rfl, by simp only [Engine.load, hl]⟩
    | ok lib =>
      have hsymbols : ∀ symbol ∈ EntryPoint.symbols, lib.hasSymbol symbol = true := by
        intro symbol hm
        exact hhanded lib after (Or.inr ⟨names, hl⟩) symbol (hrequired symbol hm)
          fun t ht hc => hbound lib after hl t ht hc symbol hm
      obtain ⟨failed, name, rest, between, hn, hf, ho⟩ := Loader.loadFirst_eq_ok_iff.mp hl
      obtain ⟨a, ha, hmade⟩ := Engine.ofLibrary_of_hasSymbol code hsymbols
      refine Or.inr ⟨failed, name, rest, between, lib, after, a, hn, hf, ho, ha, ?_⟩
      simp only [Engine.load, hl, hmade]

/-! ## An incomplete engine, and a complete one -/

/-- The search path holds an engine, and an older one that lacks an entry point. -/
def engines : List (String × List String) :=
  [("old", EntryPoint.symbols.erase "td_execute"), ("new", EntryPoint.symbols)]

/-- A loader that requires nothing, and others that require an engine. -/
def engineLoaders : LoaderId → Loader
  | 0 => searchLoader engines
  | _ => { searchLoader engines with required := EntryPoint.symbols }

/-- A session of these loaders in which `old` or `new` was loaded. -/
def engineSession (loader : LoaderId) (name : String) : Session :=
  (⟨idleHost, engineLoaders⟩ : Session).run [.load loader 1 name]

/-- A loader that requires an engine is handed the incomplete one that another loader left behind; an engine that is
to be loaded from it or from the complete one is then not loaded at all. -/
theorem incomplete_engine_handed_out :
    (idleHost.contexts 1).libraries = [] ∧
      (engineLoaders 1).load 1 "old" (engineSession 0 "old").host =
        (.ok ⟨0, "old", "", .isolated, .searchPath, LinkerTable.imageOf (EntryPoint.symbols.erase "td_execute")⟩,
          (engineSession 0 "old").host) ∧
      "td_execute" ∈ (engineLoaders 1).required ∧
      Library.hasSymbol ⟨0, "old", "", .isolated, .searchPath, LinkerTable.imageOf (EntryPoint.symbols.erase "td_execute")⟩ "td_execute" =
        false ∧
      (Engine.load Script.entryPoints (engineLoaders 1) 1 ["old", "new"] (engineSession 0 "old").host).1 =
        .error (.missingSymbol "old" "td_execute") := by
  refine ⟨rfl, ?_, by decide, by decide, by rfl⟩
  exact Loader.load_of_library? (by rfl) (by rfl)

/-- Where both loads require an engine, the complete one is loaded after the older one was refused. -/
theorem hasSymbol_of_handsOut_new :
    (idleHost.contexts 1).libraries = [] ∧
      (engineLoaders 1).HandsOut 1 (engineSession 1 "old").host
        ⟨0, "new", "", .isolated, .searchPath, LinkerTable.imageOf EntryPoint.symbols⟩
        ((engineLoaders 1).load 1 "new" (engineSession 1 "old").host).2 ∧
      Library.hasSymbol ⟨0, "new", "", .isolated, .searchPath, LinkerTable.imageOf EntryPoint.symbols⟩ "td_execute" = true := by
  have hempty : ((⟨idleHost, engineLoaders⟩ : Session).host.contexts 1).libraries = [] := rfl
  have ho : (engineLoaders 1).HandsOut 1 (engineSession 1 "old").host
      ⟨0, "new", "", .isolated, .searchPath, LinkerTable.imageOf EntryPoint.symbols⟩
      ((engineLoaders 1).load 1 "new" (engineSession 1 "old").host).2 := Or.inl ⟨"new", Prod.ext (by rfl) rfl⟩
  have hr : "td_execute" ∈ (engineLoaders 1).required := by decide
  refine ⟨hempty, ho, ?_⟩
  refine (hasSymbol_of_handsOut hempty [.load 1 1 "old"] 1).1 _ _ ho _ hr ?_
  intro t ht hc
  have hm := ht.mem_attempts
  have ht' : t = ⟨1, 1, "old"⟩ := by simpa [Action.attempts] using hm
  rw [ht']
  exact hr

end Session
end NativeLoader
