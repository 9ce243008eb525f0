import NativeLoader.Proofs.Loading.Independence
import NativeLoader.Proofs.Loading.Setbacks
import NativeLoader.Proofs.Session.Basic

/-!
# Loads into different contexts

No load changes a context other than its own (`Loader.contexts_load_of_ne`), and no library is handed out twice: every
handle is below the next one, and stands in one context only (`Host.Numbered`), which every run keeps (`numbered_run`).
If copies are deleted, the linker is steady and the directory for copies is settled, then a load into one context is for
a load into another as if it had not been (`Loader.matchesIn_of_load`); so the two can be made in either order, where
copies keep their install names (`loads_commute`).
-/

namespace NativeLoader

/-- A context but for the handles of its libraries. -/
def Context.unnumbered (c : Context) : Context :=
  { c with libraries := c.libraries.map fun entry => (entry.1, entry.2.unnumbered) }

/-- A library that is registered goes behind the others, whatever the handles are. -/
theorem Context.unnumbered_register {c : Context} {lib : Library} (hfree : c.library? lib.name = none) :
    (c.register lib).2.unnumbered =
      { c.unnumbered with libraries := c.unnumbered.libraries ++ [(lib.unnumbered.name, lib.unnumbered)] } := by
  simp only [unnumbered, register, hfree, List.map_append, List.map_cons, List.map_nil]
  rfl

namespace Loader

variable {l : Loader} {context other : ContextId} {name : String} {h h' : Host}

/-! ## What a load leaves alone -/

/-- A load changes no context but its own. -/
theorem contexts_load_of_ne (hne : other ≠ context) (l : Loader) (name : String) (h : Host) :
    (l.load context name h).2.contexts other = h.contexts other := by
  cases hl : l.load context name h with
  | mk outcome after =>
    cases outcome with
    | error failure => exact congrFun (load_error hl).contexts other
    | ok lib =>
      rcases load_eq_ok hl with ⟨_, _, _, rfl⟩ | ⟨-, hr⟩
      · rfl
      · exact hr.contexts_of_ne hne

/-- A load into another context finds all as it was, whatever is drawn before and after. -/
theorem matchesIn_of_load (hq : l.linker.IsQuiet) (hdelete : l.settings.deleteCopies = true)
    {outcome : Except String String} (ho : (h.directories l.directory).outcome = some outcome) (hne : other ≠ context)
    (name : String) (d d' e : Draws) :
    ({ h with draws := d } : Host).MatchesIn other { (l.load context name { h with draws := e }).2 with draws := d' } := by
  have hs := settles_of_load hq hdelete context name { h with draws := e }
  obtain ⟨hfiles, hdirectories⟩ := hs.eq_of_outcome ho
  exact ⟨hfiles, contexts_load_of_ne hne l name { h with draws := e }, hdirectories⟩

/-- Loads that come to the same leave their context the same, if it was the same, but for handles. -/
theorem unnumbered_load (hc : h'.contexts context = h.contexts context) {drawn drawn' : String}
    (hr : ResultSameBut drawn drawn' ((l.load context name h).1.map Library.unnumbered)
      ((l.load context name h').1.map Library.unnumbered)) :
    ((l.load context name h').2.contexts context).unnumbered =
      ((l.load context name h).2.contexts context).unnumbered := by
  cases hl : l.load context name h with
  | mk outcome after =>
    cases hl' : l.load context name h' with
    | mk outcome' after' =>
      rw [hl, hl'] at hr
      cases outcome with
      | error failure =>
        cases outcome' with
        | ok lib' => cases hr
        | error failure' => rw [(load_error hl).contexts, (load_error hl').contexts, hc]
      | ok lib =>
        cases outcome' with
        | error failure' => cases hr
        | ok lib' =>
          rcases known_or_registers hc hl hl' with ⟨-, rfl, rfl⟩ | ⟨hregisters, hregisters'⟩
          · rw [hc]
          · have hsame : lib.unnumbered = lib'.unnumbered := hr.eq_of_ok
            rw [hregisters.contexts_eq, hregisters'.contexts_eq, if_pos rfl, if_pos rfl,
              Context.unnumbered_register hregisters.free, Context.unnumbered_register hregisters'.free, hc, hsame]

/-- A load that runs out of names fails. -/
theorem RunsOut.isOk (hr : l.RunsOut context name h) : (l.load context name h).1.isOk = false := by
  obtain ⟨mangledPrefix, failure, found, c, directory, settled, base, hpack, hmade⟩ := hr
  cases hm : settled.makeTemporaryFile directory (splitExtension c.fileName).1 (splitExtension c.fileName).2 with
  | mk made ready =>
    rw [hm] at hmade
    cases hmade
    have hx : settled.extract c directory =
        (.error (.of (.file ("cannot create temp file in " ++ directory) (.located .namesExhausted base))), ready) := by
      simp only [Host.extract, hm]
    rw [hpack.load_of_extract hx]
    rfl

/-- Other names are drawn for one of two loads than for the other, and one of them runs out of names. -/
def Strays (l : Loader) (context : ContextId) (name : String) (h h' : Host) : Prop :=
  h'.draws ≠ h.draws ∧ (l.RunsOut context name h ∨ l.RunsOut context name h')

/-- Of two loads that succeed none strays. -/
theorem not_strays_of_isOk (hl : (l.load context name h).1.isOk = true) (hl' : (l.load context name h').1.isOk = true) :
    ¬l.Strays context name h h' := by
  rintro ⟨-, hout | hout⟩
  · rw [hout.isOk] at hl
    cases hl
  · rw [hout.isOk] at hl'
    cases hl'

/-- Loads that agree leave their context the same, if it was the same, but for handles, unless one of them strays. -/
theorem Agree.unnumbered_load (ha : l.Agree context name h h' ((l.load context name h).1.map Library.unnumbered)
      ((l.load context name h').1.map Library.unnumbered)) (hc : h'.contexts context = h.contexts context) :
    ((l.load context name h').2.contexts context).unnumbered =
      ((l.load context name h).2.contexts context).unnumbered ∨ l.Strays context name h h' := by
  rcases ha with ⟨drawn, other, -, -, -, hr⟩ | hstrays
  · exact Or.inl (Loader.unnumbered_load hc hr)
  · exact Or.inr hstrays

end Loader

/-! ## Handles -/

/-- Every handle is below the next one, and no handle is in two contexts. -/
structure Host.Numbered (h : Host) : Prop where
  below : ∀ context key lib, (key, lib) ∈ (h.contexts context).libraries → lib.handle < h.handles
  apart : ∀ context other key key' lib lib', context ≠ other → (key, lib) ∈ (h.contexts context).libraries →
    (key', lib') ∈ (h.contexts other).libraries → lib.handle ≠ lib'.handle

namespace Host.Numbered

variable {h after : Host}

theorem of_empty (he : ∀ context, (h.contexts context).libraries = []) : h.Numbered := by
  constructor
  · intro context key lib hmem
    rw [he] at hmem
    cases hmem
  · intro context other key key' lib lib' _ hmem
    rw [he] at hmem
    cases hmem

theorem of_sameLibraries (hn : h.Numbered) (hs : Session.SameLibraries h after) : after.Numbered := by
  constructor
  · intro context key lib hmem
    rw [hs.libraries] at hmem
    rw [hs.handles]
    exact hn.below context key lib hmem
  · intro context other key key' lib lib' hne hmem hmem'
    rw [hs.libraries] at hmem hmem'
    exact hn.apart context other key key' lib lib' hne hmem hmem'

/-- A new library takes the next handle, which is nowhere yet. -/
theorem of_registers (hn : h.Numbered) {context : ContextId} {lib : Library}
    (hr : Loader.Registers context lib h after) : after.Numbered := by
  have hnew : ∀ other key bound, (key, bound) ∈ (h.contexts other).libraries → bound.handle ≠ lib.handle := by
    intro other key bound hmem he
    have hlt := hn.below other key bound hmem
    rw [he, hr.handle] at hlt
    exact Nat.lt_irrefl _ hlt
  constructor
  · intro other key bound hmem
    rw [hr.handles]
    rcases hr.mem_libraries hmem with hmem | ⟨-, rfl⟩
    · have hlt := hn.below other key bound hmem
      omega
    · have hhandle := hr.handle
      omega
  · intro first second key key' bound bound' hne hmem hmem'
    rcases hr.mem_libraries hmem with hmem | ⟨rfl, rfl⟩
    · rcases hr.mem_libraries hmem' with hmem' | ⟨rfl, rfl⟩
      · exact hn.apart first second key key' bound bound' hne hmem hmem'
      · exact hnew first key bound hmem
    · rcases hr.mem_libraries hmem' with hmem' | ⟨rfl, rfl⟩
      · exact (hnew second key' bound' hmem').symm
      · exact absurd rfl hne

/-- A load keeps it. -/
theorem load (hn : h.Numbered) (l : Loader) (context : ContextId) (name : String) :
    (l.load context name h).2.Numbered := by
  cases hl : l.load context name h with
  | mk outcome after =>
    cases outcome with
    | error failure => exact hn.of_sameLibraries (Session.SameButRoots.of_keepsBindings (Loader.load_error hl)).sameLibraries
    | ok lib =>
      rcases Loader.load_eq_ok hl with ⟨_, _, _, rfl⟩ | ⟨-, hr⟩
      · exact hn
      · exact hn.of_registers hr

end Host.Numbered

namespace Session

/-- An action keeps it. -/
theorem numbered_step {s : Session} (hn : s.host.Numbered) (a : Action) : (s.step a).host.Numbered := by
  rcases step_bindings s a with hs | ⟨t, -, lib, -, hr⟩
  · exact hn.of_sameLibraries hs
  · exact hn.of_registers hr

/-- A run keeps it. -/
theorem numbered_run : ∀ (actions : List Action) {s : Session}, s.host.Numbered → (s.run actions).host.Numbered
  | [], _, hn => hn
  | a :: actions, _, hn => numbered_run actions (numbered_step hn a)

/-! ## Either order -/

/-- **Loads into different contexts commute.** In no run of a session that began with nothing bound is a handle in two
contexts. And if the linkers of two loaders are steady, their copies are deleted and keep their install names, and their
directories for copies are settled, then one load into each of two contexts can be made in either order. Each comes to
the same: the same failure but for the names that were drawn for its copy, or the same library but for its handle; and if
the same names are drawn for it in either order, that is exact. All contexts are then the same but for handles. The one
exception is a load for which other names are drawn in one order, and that runs out of them. -/
theorem loads_commute {a b : ContextId} (hab : a ≠ b) :
    (∀ {s : Session}, (∀ context, (s.host.contexts context).libraries = []) →
      ∀ actions, (s.run actions).host.Numbered) ∧
    ∀ {l l' : Loader} {h : Host} {outcome outcome' : Except String String}, l.linker.IsSteady → l'.linker.IsSteady →
      l.settings.deleteCopies = true → l'.settings.deleteCopies = true →
      l.KeepsInstallNames h.files → l'.KeepsInstallNames h.files →
      (h.directories l.directory).outcome = some outcome → (h.directories l'.directory).outcome = some outcome' →
      ∀ (name name' : String) (d d' e e' : Draws),
        let first := l.load a name { h with draws := d }
        let second := l'.load b name' { first.2 with draws := e }
        let second' := l'.load b name' { h with draws := e' }
        let first' := l.load a name { second'.2 with draws := d' }
        l.Agree a name { h with draws := d } { second'.2 with draws := d' } (first.1.map Library.unnumbered)
          (first'.1.map Library.unnumbered) ∧
        l'.Agree b name' { h with draws := e' } { first.2 with draws := e } (second'.1.map Library.unnumbered)
          (second.1.map Library.unnumbered) ∧
        (∀ context, (first'.2.contexts context).unnumbered = (second.2.contexts context).unnumbered ∨
          context = a ∧ l.Strays a name { h with draws := d } { second'.2 with draws := d' } ∨
          context = b ∧ l'.Strays b name' { h with draws := e' } { first.2 with draws := e }) ∧
        (h.Numbered → second.2.Numbered ∧ first'.2.Numbered) := by
  refine ⟨fun hempty actions => numbered_run actions (.of_empty hempty), ?_⟩
  intro l l' h outcome outcome' hst hst' hdelete hdelete' hkeeps hkeeps' ho ho' name name' d d' e e' first second second' first'
  -- each load finds its context, the files and the directories as they were, whether the other was made or not
  have hmatches : ({ h with draws := d } : Host).MatchesIn a { second'.2 with draws := d' } :=
    Loader.matchesIn_of_load hst'.1 hdelete' ho' hab name' d d' e'
  have hmatches' : ({ h with draws := e' } : Host).MatchesIn b { first.2 with draws := e } :=
    Loader.matchesIn_of_load hst.1 hdelete ho hab.symm name e' e d
  have hagree := Loader.load_agreeIn hst (h := { h with draws := d }) hkeeps ho hmatches name
  have hagree' := Loader.load_agreeIn hst' (h := { h with draws := e' }) hkeeps' ho' hmatches' name'
  refine ⟨hagree, hagree', ?_, ?_⟩
  · intro context
    by_cases ha : context = a
    · subst ha
      rw [show second.2.contexts context = first.2.contexts context from
        Loader.contexts_load_of_ne hab l' name' { first.2 with draws := e }]
      rcases hagree.unnumbered_load hmatches.context with hsame | hstrays
      · exact Or.inl hsame
      · exact Or.inr (Or.inl ⟨rfl, hstrays⟩)
    · rw [show first'.2.contexts context = second'.2.contexts context from
        Loader.contexts_load_of_ne ha l name { second'.2 with draws := d' }]
      by_cases hb : context = b
      · subst hb
        rcases hagree'.unnumbered_load hmatches'.context with hsame | hstrays
        · exact Or.inl hsame.symm
        · exact Or.inr (Or.inr ⟨rfl, hstrays⟩)
      · rw [show second'.2.contexts context = h.contexts context from
            Loader.contexts_load_of_ne hb l' name' { h with draws := e' },
          show second.2.contexts context = first.2.contexts context from
            Loader.contexts_load_of_ne hb l' name' { first.2 with draws := e },
          show first.2.contexts context = h.contexts context from
            Loader.contexts_load_of_ne ha l name { h with draws := d }]
        exact Or.inl rfl
  · intro hn
    have hdrawn : ∀ {start : Host} (draws : Draws), start.Numbered → ({ start with draws } : Host).Numbered :=
      fun draws hstart => ⟨hstart.below, hstart.apart⟩
    constructor
    · exact (hdrawn e ((hdrawn d hn).load l a name)).load l' b name'
    · exact (hdrawn d' ((hdrawn e' hn).load l' b name')).load l a name

/-! ## Two copies of one library -/

/-- A loader like the relocated one, whose linker has namespaces for files. -/
def isolatingLoader : Loader := { Loader.relocatedLoader with linker := LinkerTable.toLinker {} }

/-- The process after two loaders have bound a packaged library, the first in a context and the second in another. -/
def forwardHost (h : Host) : Host := (Loader.relocatedLoader.load 2 "x" (isolatingLoader.load 1 "x" h).2).2

/-- The process after they have done so the other way round. -/
def backwardHost (h : Host) : Host := (isolatingLoader.load 1 "x" (Loader.relocatedLoader.load 2 "x" h).2).2

/-- In either order both contexts get the same library, each of them its own, from copies whose names differ. -/
theorem loads_commute_copies :
    (∀ context, ((backwardHost Loader.settledRelocatedHost).contexts context).unnumbered =
      ((forwardHost Loader.settledRelocatedHost).contexts context).unnumbered) ∧
    (∃ lib lib', ((forwardHost Loader.settledRelocatedHost).contexts 1).library? "a_x" = some lib ∧
      ((forwardHost Loader.settledRelocatedHost).contexts 2).library? "a_x" = some lib' ∧
      lib.binding = .isolated ∧ lib'.binding = .global) ∧
    (forwardHost Loader.settledRelocatedHost).Numbered := by
  have hsteady : isolatingLoader.linker.IsSteady := LinkerTable.isSteady_toLinker rfl
  have hsteady' : Loader.relocatedLoader.linker.IsSteady := LinkerTable.isSteady_toLinker rfl
  -- the process is a variable here, so that no load is run
  have horders : ∀ {h : Host}, isolatingLoader.KeepsInstallNames h.files →
      Loader.relocatedLoader.KeepsInstallNames h.files → (h.directories globalDirectory).outcome = some (.ok "/tmp") →
      h.Numbered →
      (isolatingLoader.load 1 "x" h).1.isOk = true →
      (Loader.relocatedLoader.load 2 "x" (isolatingLoader.load 1 "x" h).2).1.isOk = true →
      (Loader.relocatedLoader.load 2 "x" h).1.isOk = true →
      (isolatingLoader.load 1 "x" (Loader.relocatedLoader.load 2 "x" h).2).1.isOk = true →
      (∀ context, ((backwardHost h).contexts context).unnumbered = ((forwardHost h).contexts context).unnumbered) ∧
        (forwardHost h).Numbered := by
    intro h hkeeps hkeeps' hsettled hn hfirst hsecond hsecond' hfirst'
    obtain ⟨-, hload⟩ := loads_commute (show (1 : ContextId) ≠ 2 by decide)
    obtain ⟨-, -, hcontexts, hnumbered⟩ := hload hsteady hsteady' rfl rfl hkeeps hkeeps' hsettled hsettled "x" "x" h.draws
      (Loader.relocatedLoader.load 2 "x" h).2.draws (isolatingLoader.load 1 "x" h).2.draws h.draws
    refine ⟨?_, (hnumbered hn).1⟩
    intro context
    rcases hcontexts context with hsame | ⟨-, hstrays⟩ | ⟨-, hstrays⟩
    · exact hsame
    · exact absurd hstrays (Loader.not_strays_of_isOk hfirst hfirst')
    · exact absurd hstrays (Loader.not_strays_of_isOk hsecond' hsecond)
  have hempty : Loader.settledRelocatedHost.Numbered := .of_empty fun _ => rfl
  -- the copies need names, but the tools are missing
  obtain ⟨hcontexts, hnumbered⟩ := horders (fun _ _ _ => by decide +kernel) (fun _ _ _ => by decide +kernel) rfl hempty
    (by decide +kernel) (by decide +kernel) (by decide +kernel) (by decide +kernel)
  refine ⟨hcontexts, ?_, hnumbered⟩
  refine ⟨⟨0, "x", "a_", .isolated, .resource "embedded:one!/META-INF/tdlight-native/liba_x.dylib", ⟨[]⟩⟩,
    ⟨1, "x", "a_", .global, .resource "embedded:one!/META-INF/tdlight-native/liba_x.dylib", ⟨[]⟩⟩, ?_, ?_, rfl, rfl⟩
  · decide +kernel
  · decide +kernel

end Session
end NativeLoader
