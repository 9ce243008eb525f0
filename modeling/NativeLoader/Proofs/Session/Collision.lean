import NativeLoader.Proofs.Session.LoadOnce

/-!
# Names that meet in one context

A context knows a library by its prefix and name put together, and the two can be put together in more than one way. A
load is then handed what another loader asked for under another name. It is handed what it asked for itself exactly if
no load of another name had bound the library (`isFor_iff_of_load`); that holds whenever no load into the context made
up the same name with another prefix. Two builds, one relocated below `a`, meet in `a_x` (`collision_of_load`).
-/

namespace NativeLoader

/-- A library is what a loader with some prefix asks for under some name, and its symbols are looked up with that
prefix. -/
structure Library.IsFor (lib : Library) (name mangledPrefix : String) : Prop where
  logicalName : lib.logicalName = name
  hasSymbol : ∀ symbol, lib.hasSymbol symbol = lib.image.exportsSymbol (mangledPrefix ++ symbol)
  mangledPrefix : lib.mangledPrefix = mangledPrefix

namespace Library

variable {lib : Library} {name mangledPrefix : String}

/-- The prefix and the name settle which symbols are looked up. -/
theorem IsFor.of_parts (hn : lib.logicalName = name) (hp : lib.mangledPrefix = mangledPrefix) :
    lib.IsFor name mangledPrefix := by
  subst hp
  exact ⟨hn, fun _ => rfl, rfl⟩

/-- Of a library known under a prefix and a name put together, it is enough that the name is its own. -/
theorem isFor_of_logicalName (hk : lib.name = mangledPrefix ++ name) (hn : lib.logicalName = name) :
    lib.IsFor name mangledPrefix := by
  rw [Library.name, hn, String.append_left_inj] at hk
  exact .of_parts hn hk

/-- Of a library known under a prefix and a name put together, it is enough that the prefix is its own. -/
theorem isFor_of_mangledPrefix (hk : lib.name = mangledPrefix ++ name) (hp : lib.mangledPrefix = mangledPrefix) :
    lib.IsFor name mangledPrefix := by
  rw [Library.name, hp, String.append_right_inj] at hk
  exact .of_parts hk hp

end Library

/-- What a loader binds for a name is what it asks for. -/
theorem Loader.Binds.isFor {l : Loader} {name mangledPrefix : String} {lib : Library} (hb : l.Binds name lib)
    (hp : l.mangledPrefix = .ok mangledPrefix) : lib.IsFor name mangledPrefix := by
  have hsame := hb.mangledPrefix
  rw [hp] at hsame
  cases hsame
  exact .of_parts hb.logicalName rfl

namespace Session

/-- **What a load hands out.** In a session that began with nothing bound in a context, a load into it hands out a
library that is known there by the loader's prefix and the name. It is what the loader asks for exactly if no attempt
with another name had bound it there; so it is if every attempt there that makes up the same name has the same
prefix. -/
theorem isFor_iff_of_load {s₀ : Session} {context : ContextId}
    (hempty : (s₀.host.contexts context).libraries = []) (actions : List Action) {loader : LoaderId}
    {name mangledPrefix : String} {lib : Library} {after : Host}
    (hp : ((s₀.run actions).loaders loader).mangledPrefix = .ok mangledPrefix)
    (hl : ((s₀.run actions).loaders loader).load context name (s₀.run actions).host = (.ok lib, after)) :
    lib.name = mangledPrefix ++ name ∧
      (lib.IsFor name mangledPrefix ↔ ¬∃ t, s₀.BoundBy actions t lib ∧ t.context = context ∧ t.name ≠ name) ∧
      ((∀ t ∈ actions.flatMap Action.attempts, t.context = context → ∀ other,
          (s₀.loaders t.loader).mangledPrefix = .ok other → other ++ t.name = mangledPrefix ++ name →
          other = mangledPrefix) →
        lib.IsFor name mangledPrefix) := by
  rcases Loader.load_eq_ok hl with ⟨mangledPrefix', hp', hb, -⟩ | ⟨hbinds, hr⟩
  · rw [hp] at hp'
    cases hp'
    -- the library was bound before, by an attempt of the run
    obtain ⟨t, ht, hc, hname⟩ := boundBy_of_empty hempty hb
    have hbinds := ht.binds
    refine ⟨hname, ⟨?_, ?_⟩, ?_⟩
    · rintro hfor ⟨t', ht', _, hne⟩
      exact hne (ht'.binds.logicalName.symm.trans hfor.logicalName)
    · intro hnot
      have htname : t.name = name := Decidable.byContradiction fun hne => hnot ⟨t, ht, hc, hne⟩
      exact Library.isFor_of_logicalName hname (hbinds.logicalName.trans htname)
    · intro hsame
      have hkey : lib.mangledPrefix ++ t.name = mangledPrefix ++ name := by
        rw [← hname, Library.name, hbinds.logicalName]
      exact Library.isFor_of_mangledPrefix hname (hsame t ht.mem_attempts hc _ hbinds.mangledPrefix hkey)
  · have hfor := hbinds.isFor hp
    have hname : lib.name = mangledPrefix ++ name := by rw [Library.name, hfor.logicalName, hfor.mangledPrefix]
    refine ⟨hname, ⟨fun _ => ?_, fun _ => hfor⟩, fun _ => hfor⟩
    rintro ⟨t, ht, _, hne⟩
    exact hne (ht.binds.logicalName.symm.trans hfor.logicalName)

/-! ## Two builds that meet, and two that do not -/

/-- The plain build's loader, and those of the build relocated below `a`. -/
def buildLoaders : LoaderId → Loader
  | 0 => plainLoader
  | _ => relocatedLoader

/-- A session of these builds in which one of them has loaded `a_x`, each in its own words. -/
def buildSession (loader : LoaderId) (name : String) : Session :=
  (⟨idleHost, buildLoaders⟩ : Session).run [.load loader 1 name]

/-- The relocated build asks for `x` and is handed the library that the plain build asked for as `a_x`, whose symbols
are looked up without a prefix. -/
theorem collision_of_load :
    (idleHost.contexts 1).libraries = [] ∧ (buildLoaders 1).mangledPrefix = .ok "a_" ∧
      ∃ lib, ((buildLoaders 1).load 1 "x" (buildSession 0 "a_x").host).1 = .ok lib ∧
        lib.logicalName = "a_x" ∧ lib.mangledPrefix = "" ∧ lib.symbolName "td_send" = "td_send" ∧
        ¬lib.IsFor "x" "a_" := by
  refine ⟨rfl, by rfl, ⟨0, "a_x", "", .isolated, .searchPath, ⟨[]⟩⟩, by rfl, rfl, rfl, by decide, ?_⟩
  intro hfor
  exact absurd hfor.logicalName (by decide)

/-- A build that loads `x` twice gets what it asks for. -/
theorem isFor_of_load_again :
    (idleHost.contexts 1).libraries = [] ∧ (buildLoaders 1).mangledPrefix = .ok "a_" ∧
      (buildLoaders 1).load 1 "x" (buildSession 1 "x").host =
        (.ok ⟨0, "x", "a_", .isolated, .searchPath, ⟨[]⟩⟩, (buildSession 1 "x").host) ∧
      Library.IsFor ⟨0, "x", "a_", .isolated, .searchPath, ⟨[]⟩⟩ "x" "a_" := by
  have hempty : ((⟨idleHost, buildLoaders⟩ : Session).host.contexts 1).libraries = [] := rfl
  have hp : (buildLoaders 1).mangledPrefix = .ok "a_" := by rfl
  have hl : (buildLoaders 1).load 1 "x" (buildSession 1 "x").host =
      (.ok ⟨0, "x", "a_", .isolated, .searchPath, ⟨[]⟩⟩, (buildSession 1 "x").host) :=
    Loader.load_of_library? hp (by rfl)
  refine ⟨hempty, hp, hl, ?_⟩
  refine (isFor_iff_of_load hempty [.load 1 1 "x"] hp hl).2.2 ?_
  intro t ht _ other ho _
  have ht' : t = ⟨1, 1, "x"⟩ := by simpa [Action.attempts] using ht
  rw [ht'] at ho
  exact (Except.ok.inj (hp.symm.trans ho)).symm

end Session
end NativeLoader
