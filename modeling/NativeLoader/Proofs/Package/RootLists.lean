import NativeLoader.Linker.Tabulated
import NativeLoader.Proofs.Package.Choosing
import NativeLoader.Proofs.Session.Basic

/-!
# More roots, and roots in another order

Which copy is chosen at a path is a matter of the copies in order, and told by three laws (`Choice.Settles`):
nothing is chosen where there is none, the first is chosen unless several are compared that are not alike
(`result_eq_some_iff`), and those are in conflict, all of them (`result_eq_error_iff`). Being alike does not depend on
order or number, and holds of some copies if it holds of more (`AllAlike.of_subset`).

- Roots that are added are searched last, so they never switch the copy that was chosen: it stays, or is in conflict
  from then on (`Outlasts`), in every run that adds roots (`choose_outlasts`).
- Roots in another order give the same kind of outcome, a copy with the same digest, or the same copies in conflict
  (`choose_perm`).
-/

namespace NativeLoader

/-! ## What is chosen among some copies -/

/-- Copies are alike if they are among others that are. -/
theorem AllAlike.of_subset {fs : FileSystem} {cs more : List Candidate} (h : AllAlike fs more) (hs : cs ⊆ more) :
    AllAlike fs cs where
  readable c hc := h.readable c (hs hc)
  same c hc d hd := h.same c (hs hc) d (hs hd)

namespace Choice.Settles

variable {detect : Bool} {fs : FileSystem} {cs : List Candidate} {choice : Choice}

/-- A copy is settled on exactly if it is the first, and like the others if several are compared. -/
theorem result_eq_some_iff (h : Settles detect fs cs choice) (path : String) {c : Candidate} :
    choice.result path = .ok (some c) ↔
      cs.head? = some c ∧ (detect = true → 2 ≤ cs.length → AllAlike fs cs) := by
  constructor
  · intro hr
    cases h with
    | absent => cases hr
    | only only =>
      cases hr
      exact ⟨rfl, fun _ hlen => absurd hlen (by simp)⟩
    | unchecked first second others hoff =>
      cases hr
      exact ⟨rfl, fun hdetect => absurd hdetect (by simp [hoff])⟩
    | alike _ ha =>
      cases hr
      exact ⟨rfl, fun _ _ => ha⟩
    | conflict => cases hr
  · rintro ⟨hfirst, ha⟩
    exact h.result_of_head? path hfirst ha

/-- Copies are refused exactly if several are compared that are not alike, and then all of them are in conflict. -/
theorem result_eq_error_iff (h : Settles detect fs cs choice) (path : String) {failure : Failure} :
    choice.result path = .error failure ↔
      failure = .of (.conflict path (cs.map Candidate.origin)) ∧ detect = true ∧ 2 ≤ cs.length ∧ ¬AllAlike fs cs := by
  constructor
  · intro hr
    cases h with
    | conflict hdetect hnot =>
      cases hr
      exact ⟨rfl, hdetect, by simp, hnot⟩
    | _ => cases hr
  · rintro ⟨rfl, hdetect, hlen, hnot⟩
    exact h.result_of_not_allAlike path hdetect hlen hnot

end Choice.Settles

section Outcomes

variable {detect : Bool} {fs : FileSystem} {path : String} {roots more others : List Root}

theorem settles_choose (detect : Bool) (fs : FileSystem) (path : String) (roots : List Root) :
    Choice.Settles detect fs (candidates fs path roots) (choose detect fs path roots) :=
  Choice.settles_ofCandidates detect fs _

/-! ## More roots -/

theorem candidates_append (fs : FileSystem) (path : String) (roots more : List Root) :
    candidates fs path (roots ++ more) = candidates fs path roots ++ candidates fs path more := by
  rw [candidates, List.filter_append, List.map_append]
  rfl

/-- The outcome of choosing at a path, and a later one that has not switched the copy: a copy that was chosen still is,
or is in conflict if copies are compared; copies in conflict are so still, with others behind them. Anything may come
where nothing was. -/
inductive Outlasts (detect : Bool) (path : String) :
    Except Failure (Option Candidate) → Except Failure (Option Candidate) → Prop
  | absent (later : Except Failure (Option Candidate)) : Outlasts detect path (.ok none) later
  | kept (c : Candidate) : Outlasts detect path (.ok (some c)) (.ok (some c))
  | disputed (c : Candidate) (origins : List String) : detect = true →
      Outlasts detect path (.ok (some c)) (.error (.of (.conflict path origins)))
  | conflict (origins further : List String) :
      Outlasts detect path (.error (.of (.conflict path origins))) (.error (.of (.conflict path (origins ++ further))))

/-- What was chosen stays or comes into conflict when more roots are searched. -/
theorem outlasts_append (detect : Bool) (fs : FileSystem) (path : String) (roots more : List Root) :
    Outlasts detect path ((choose detect fs path roots).result path)
      ((choose detect fs path (roots ++ more)).result path) := by
  have hbefore := settles_choose detect fs path roots
  have hafter := settles_choose detect fs path (roots ++ more)
  rw [candidates_append] at hafter
  cases hr : (choose detect fs path roots).result path with
  | error failure =>
    -- copies that are not alike are not alike among more
    obtain ⟨rfl, hdetect, hlen, hnot⟩ := (hbefore.result_eq_error_iff path).mp hr
    rw [(hafter.result_eq_error_iff path).mpr ⟨rfl, hdetect, ?_, ?_⟩, List.map_append]
    · exact .conflict _ _
    · rw [List.length_append]
      omega
    · intro halike
      exact hnot (halike.of_subset (List.subset_append_left _ _))
  | ok chosen =>
    cases chosen with
    | none => exact .absent _
    | some c =>
      have hfirst := ((hbefore.result_eq_some_iff path).mp hr).1
      have hhead : (candidates fs path roots ++ candidates fs path more).head? = some c := by
        rw [List.head?_append, hfirst]
        rfl
      by_cases ha : detect = true → 2 ≤ (candidates fs path roots ++ candidates fs path more).length →
          AllAlike fs (candidates fs path roots ++ candidates fs path more)
      · rw [(hafter.result_eq_some_iff path).mpr ⟨hhead, ha⟩]
        exact .kept c
      · simp only [Classical.not_imp] at ha
        obtain ⟨hdetect, hlen, hnot⟩ := ha
        rw [(hafter.result_eq_error_iff path).mpr ⟨rfl, hdetect, hlen, hnot⟩]
        exact .disputed c _ hdetect

/-- Where nothing was, what is chosen is a matter of the roots that are added. -/
theorem choose_append_of_absent (h : (choose detect fs path roots).result path = .ok none) :
    choose detect fs path (roots ++ more) = choose detect fs path more := by
  have hnone := ((settles_choose detect fs path roots).result_eq_none_iff path).mp h
  rw [choose, candidates_append, hnone, List.nil_append]
  rfl

end Outcomes

/-- Actions that add roots to contexts, one after the other. -/
def Action.adding (added : List (ContextId × Root)) : List Action := added.map fun a => .addRoot a.1 a.2

/-- Adding roots adds some to each context, behind those it has, and changes no files. -/
theorem Session.run_adding (context : ContextId) : ∀ (added : List (ContextId × Root)) (s : Session),
    ((s.run (Action.adding added)).host.contexts context).roots =
      (s.host.contexts context).roots ++ (added.filter fun a => a.1 = context).map (·.2) ∧
    (s.run (Action.adding added)).host.files = s.host.files
  | [], s => ⟨(List.append_nil _).symm, rfl⟩
  | (other, root) :: added, s => by
    obtain ⟨hroots, hfiles⟩ := run_adding context added (s.step (.addRoot other root))
    refine ⟨hroots.trans ?_, hfiles⟩
    by_cases ho : other = context
    · subst ho
      have hself : ((s.step (.addRoot other root)).host.contexts other).roots =
          (s.host.contexts other).roots ++ [root] := by
        simp only [step, withHost, Host.addRoot, Host.contexts_setContext_self, Context.addRoot]
      simp [hself]
    · have hkept : (s.step (.addRoot other root)).host.contexts context = s.host.contexts context :=
        Host.contexts_setContext_of_ne (Ne.symm ho) _ s.host
      simp [hkept, ho]

/-- **Adding roots never switches the chosen copy.** With more roots behind those there were, what was chosen at a path
is chosen still, or is in conflict if copies are compared, and what was in conflict is so still, with others behind it.
A copy of the roots that were added is chosen only where nothing was before, and then as if they were the only ones. So
it goes with every context in every run that adds roots to contexts. -/
theorem choose_outlasts (detect : Bool) (path : String) :
    (∀ (fs : FileSystem) (roots more : List Root),
      Outlasts detect path ((choose detect fs path roots).result path)
        ((choose detect fs path (roots ++ more)).result path) ∧
      (∀ c, (choose detect fs path (roots ++ more)).result path = .ok (some c) →
        (choose detect fs path roots).result path = .ok (some c) ∨
        (choose detect fs path roots).result path = .ok none ∧ c.root ∈ more ∧
          (choose detect fs path more).result path = .ok (some c))) ∧
    ∀ (s : Session) (added : List (ContextId × Root)) (context : ContextId),
      let after := s.run (Action.adding added)
      Outlasts detect path ((choose detect s.host.files path (s.host.contexts context).roots).result path)
        ((choose detect after.host.files path (after.host.contexts context).roots).result path) := by
  refine ⟨?_, ?_⟩
  · intro fs roots more
    have houtlasts := outlasts_append detect fs path roots more
    refine ⟨houtlasts, ?_⟩
    intro c hlater
    cases hr : (choose detect fs path roots).result path with
    | error failure =>
      rw [hr, hlater] at houtlasts
      cases houtlasts
    | ok chosen =>
      cases chosen with
      | some first =>
        rw [hr, hlater] at houtlasts
        cases houtlasts
        exact Or.inl rfl
      | none =>
        rw [choose_append_of_absent hr] at hlater
        obtain ⟨-, hfind, -⟩ := eq_of_choose hlater
        exact Or.inr ⟨rfl, List.mem_of_find?_eq_some hfind, hlater⟩
  · intro s added context after
    obtain ⟨hroots, hfiles⟩ := s.run_adding context added
    rw [hroots, hfiles]
    exact outlasts_append detect s.host.files path _ _

/-! ## A conflict that grows -/

/-- A session whose contexts have the library `x` in two roots, one of which breaks off. -/
def brokenSession : Session where
  host := { temporary := "/tmp", draws := .ofNumbers fun n => n, contexts := fun _ => { roots := brokenRoots } }
  loaders := fun _ => { linker := LinkerTable.toLinker {} }

/-- The two copies are in conflict, since one of them breaks off. -/
theorem choose_brokenRoots :
    (choose true {} (Root.home ++ "libx.so") brokenRoots).result (Root.home ++ "libx.so") =
      .error (.of (.conflict "META-INF/tdlight-native/libx.so"
        ["embedded:jar!/META-INF/tdlight-native/libx.so", "broken:META-INF/tdlight-native/libx.so"])) := by
  refine ((settles_choose true {} _ brokenRoots).result_eq_error_iff _).mpr ⟨by rfl, rfl, by decide, ?_⟩
  intro halike
  have hbroken : brokenRoot ∈ brokenRoots := by simp [brokenRoots]
  obtain ⟨bytes, chunks, hr, -⟩ := halike.readable _ (mem_candidates hbroken (by rfl))
  cases hr

/-- The two are in conflict, and still are with a whole copy behind them. -/
theorem choose_outlasts_broken :
    (choose true {} (Root.home ++ "libx.so") (brokenSession.host.contexts 1).roots).result (Root.home ++ "libx.so") =
      .error (.of (.conflict "META-INF/tdlight-native/libx.so"
        ["embedded:jar!/META-INF/tdlight-native/libx.so", "broken:META-INF/tdlight-native/libx.so"])) ∧
    ∃ further, (choose true {} (Root.home ++ "libx.so") ((brokenSession.run (Action.adding
        [(1, .embedded "late" [(Root.home ++ "libx.so", [0x46])]), (2, brokenRoot)])).host.contexts 1).roots).result
        (Root.home ++ "libx.so") =
      .error (.of (.conflict "META-INF/tdlight-native/libx.so"
        (["embedded:jar!/META-INF/tdlight-native/libx.so", "broken:META-INF/tdlight-native/libx.so"] ++ further))) := by
  have hbroken : (choose true {} (Root.home ++ "libx.so") (brokenSession.host.contexts 1).roots).result
      (Root.home ++ "libx.so") = .error (.of (.conflict "META-INF/tdlight-native/libx.so"
        ["embedded:jar!/META-INF/tdlight-native/libx.so", "broken:META-INF/tdlight-native/libx.so"])) :=
    choose_brokenRoots
  refine ⟨hbroken, ?_⟩
  have houtlasts := (choose_outlasts true (Root.home ++ "libx.so")).2 brokenSession
    [(1, .embedded "late" [(Root.home ++ "libx.so", [0x46])]), (2, brokenRoot)] 1
  simp only [(brokenSession.run_adding 1 _).2] at houtlasts
  rw [show brokenSession.host.files = {} from rfl, hbroken] at houtlasts
  generalize (choose true _ _ ((brokenSession.run _).host.contexts 1).roots).result _ = later at houtlasts ⊢
  cases houtlasts with
  | conflict origins further => exact ⟨further, rfl⟩

/-! ## Another order -/

section Order

variable {fs : FileSystem} {path : String} {roots others : List Root}

theorem perm_candidates (fs : FileSystem) (path : String) (hp : roots.Perm others) :
    (candidates fs path roots).Perm (candidates fs path others) :=
  (hp.filter _).map _

theorem length_candidates (fs : FileSystem) (path : String) (roots : List Root) :
    (candidates fs path roots).length = roots.countP (·.contains fs path) := by
  rw [candidates, List.length_map, ← List.countP_eq_length_filter]

/-- Copies are alike in any order. -/
theorem allAlike_iff_of_perm {cs ds : List Candidate} (hp : cs.Perm ds) : AllAlike fs cs ↔ AllAlike fs ds :=
  ⟨fun h => h.of_subset hp.symm.subset, fun h => h.of_subset hp.subset⟩

/-- Nothing is chosen from the roots in one order exactly if nothing is in another. -/
theorem choose_eq_none_iff_of_perm (detect : Bool) (hp : roots.Perm others) :
    (choose detect fs path roots).result path = .ok none ↔ (choose detect fs path others).result path = .ok none := by
  rw [(settles_choose detect fs path roots).result_eq_none_iff,
    (settles_choose detect fs path others).result_eq_none_iff]
  have hcopies := perm_candidates fs path hp
  constructor
  · intro h
    rw [h] at hcopies
    exact hcopies.nil_eq.symm
  · intro h
    rw [h] at hcopies
    exact hcopies.eq_nil

/-- Where copies are compared and one is chosen from the roots in one order, one is chosen in another: the same if there
is no other, and else one with the same digest. -/
theorem choose_eq_some_of_perm (hp : roots.Perm others) {c : Candidate}
    (hr : (choose true fs path roots).result path = .ok (some c)) :
    ∃ d, (choose true fs path others).result path = .ok (some d) ∧
      (roots.countP (·.contains fs path) = 1 → d = c) ∧
      (roots.countP (·.contains fs path) ≠ 1 → ∃ bytes bytes',
        c.ReadsAs fs bytes ∧ d.ReadsAs fs bytes' ∧ Sha256.hash bytes = Sha256.hash bytes') := by
  have hcopies := perm_candidates fs path hp
  obtain ⟨hfirst, halike⟩ := ((settles_choose true fs path roots).result_eq_some_iff path).mp hr
  obtain ⟨d, hd⟩ : ∃ d, (candidates fs path others).head? = some d := by
    cases ho : candidates fs path others with
    | nil =>
      rw [ho] at hcopies
      rw [hcopies.eq_nil] at hfirst
      cases hfirst
    | cons d ds => exact ⟨d, rfl⟩
  have hother : (choose true fs path others).result path = .ok (some d) := by
    refine ((settles_choose true fs path others).result_eq_some_iff path).mpr ⟨hd, ?_⟩
    intro hdetect hlen
    rw [← allAlike_iff_of_perm hcopies]
    exact halike hdetect (by rwa [hcopies.length_eq])
  have hcin : c ∈ candidates fs path roots := List.mem_of_head? hfirst
  have hdin : d ∈ candidates fs path roots := hcopies.mem_iff.mpr (List.mem_of_head? hd)
  rw [← length_candidates]
  refine ⟨d, hother, ?_, ?_⟩
  · intro hone
    obtain ⟨only, honly⟩ := List.length_eq_one_iff.mp hone
    rw [honly, List.mem_singleton] at hcin hdin
    rw [hcin, hdin]
  · intro hmany
    have hlen : 2 ≤ (candidates fs path roots).length := by
      have hpos := List.length_pos_of_mem hcin
      omega
    have hall := halike rfl hlen
    obtain ⟨bytes, hb⟩ := hall.readable c hcin
    obtain ⟨bytes', hb'⟩ := hall.readable d hdin
    exact ⟨bytes, bytes', hb, hb', hall.same c hcin d hdin bytes bytes' hb hb'⟩

/-- Where copies are in conflict in one order of the roots, the same are in another. -/
theorem choose_eq_error_of_perm {detect : Bool} (hp : roots.Perm others) {failure : Failure}
    (hr : (choose detect fs path roots).result path = .error failure) :
    ∃ origins origins', failure = .of (.conflict path origins) ∧
      (choose detect fs path others).result path = .error (.of (.conflict path origins')) ∧ origins.Perm origins' := by
  have hcopies := perm_candidates fs path hp
  obtain ⟨rfl, hdetect, hlen, hnot⟩ := ((settles_choose detect fs path roots).result_eq_error_iff path).mp hr
  refine ⟨_, _, rfl, ((settles_choose detect fs path others).result_eq_error_iff path).mpr ⟨rfl, hdetect, ?_, ?_⟩,
    hcopies.map _⟩
  · rwa [← hcopies.length_eq]
  · rwa [← allAlike_iff_of_perm hcopies]

end Order

/-- **The order of the roots does not matter to the comparison.** Where copies are compared, roots in another order give
nothing, a copy, or a conflict just as before. The copy is the same if only one root holds the path, and else one with
the same digest; the conflict is of the same copies. -/
theorem choose_perm (fs : FileSystem) (path : String) {roots others : List Root} (hp : roots.Perm others) :
    let result := (choose true fs path roots).result path
    let other := (choose true fs path others).result path
    (result = .ok none ↔ other = .ok none) ∧
    ((∃ c, result = .ok (some c)) ↔ ∃ d, other = .ok (some d)) ∧
    (∀ c d, result = .ok (some c) → other = .ok (some d) →
      (roots.countP (·.contains fs path) = 1 → c = d) ∧
      (roots.countP (·.contains fs path) ≠ 1 → ∃ bytes bytes',
        c.ReadsAs fs bytes ∧ d.ReadsAs fs bytes' ∧ Sha256.hash bytes = Sha256.hash bytes')) ∧
    ((∃ failure, result = .error failure) ↔ ∃ failure, other = .error failure) ∧
    ∀ failure failure', result = .error failure → other = .error failure' →
      ∃ origins origins', failure = .of (.conflict path origins) ∧ failure' = .of (.conflict path origins') ∧
        origins.Perm origins' := by
  intro result other
  refine ⟨choose_eq_none_iff_of_perm true hp, ?_, ?_, ?_, ?_⟩
  · constructor
    · rintro ⟨c, hc⟩
      obtain ⟨d, hd, -⟩ := choose_eq_some_of_perm hp hc
      exact ⟨d, hd⟩
    · rintro ⟨d, hd⟩
      obtain ⟨c, hc, -⟩ := choose_eq_some_of_perm hp.symm hd
      exact ⟨c, hc⟩
  · intro c d hc hd
    obtain ⟨d', hd', hsame, hdigest⟩ := choose_eq_some_of_perm hp hc
    obtain rfl : d' = d := Option.some.inj (Except.ok.inj (hd'.symm.trans hd))
    exact ⟨fun hone => (hsame hone).symm, hdigest⟩
  · constructor
    · rintro ⟨failure, hf⟩
      obtain ⟨_, _, _, hother, -⟩ := choose_eq_error_of_perm hp hf
      exact ⟨_, hother⟩
    · rintro ⟨failure, hf⟩
      obtain ⟨_, _, _, hresult, -⟩ := choose_eq_error_of_perm hp.symm hf
      exact ⟨_, hresult⟩
  · intro failure failure' hf hf'
    obtain ⟨origins, origins', hfailure, hother, horigins⟩ := choose_eq_error_of_perm hp hf
    exact ⟨origins, origins', hfailure, Except.error.inj (hf'.symm.trans hother), horigins⟩

/-- A copy that breaks off is in conflict with a whole one, whichever comes first. -/
theorem choose_perm_broken :
    brokenRoots.Perm brokenRoots.reverse ∧
      (∃ failure, (choose true {} (Root.home ++ "libx.so") brokenRoots).result (Root.home ++ "libx.so") =
        .error failure) ∧
      ∃ origins, (choose true {} (Root.home ++ "libx.so") brokenRoots.reverse).result (Root.home ++ "libx.so") =
          .error (.of (.conflict (Root.home ++ "libx.so") origins)) ∧
        origins.Perm
          ["embedded:jar!/META-INF/tdlight-native/libx.so", "broken:META-INF/tdlight-native/libx.so"] := by
  have hp : brokenRoots.Perm brokenRoots.reverse := brokenRoots.reverse_perm.symm
  obtain ⟨-, -, -, hkind, hsame⟩ := choose_perm {} (Root.home ++ "libx.so") hp
  obtain ⟨failure, hother⟩ := hkind.mp ⟨_, choose_brokenRoots⟩
  obtain ⟨_, origins, hfailure, hfailure', horigins⟩ := hsame _ _ choose_brokenRoots hother
  cases hfailure
  exact ⟨hp, ⟨_, choose_brokenRoots⟩, origins, by rw [hother, hfailure'], horigins.symm⟩

end NativeLoader
