import NativeLoader.Proofs.Loading.Drawing
import NativeLoader.Proofs.Loading.Independence
import NativeLoader.Proofs.Loading.Scan

/-!
# A scan is an independent search

Whatever the loader and the linker do, a scan goes through failing loads to its end, to the first load that succeeds or
to the first that fails fatally (`exists_failsWith`), and so it searches among what its loads come to
(`searches_of_failsWith`). If copies are deleted and keep their install names, the linker is steady and the directory for
copies is settled, then each load comes to what it comes to on its own in the process before the scan, but from a later
position in the random characters on (`outcomes_of_failsWith`). So the search is one among outcomes that do not depend on
each other (`loadFirst_search`).
-/

namespace NativeLoader.Loader

/-- Loading some names in turn fails each time, and never fatally; the failures, and the process before and after. -/
inductive FailsWith (l : Loader) (context : ContextId) : List String → List Failure → Host → Host → Prop
  | nil (h : Host) : FailsWith l context [] [] h h
  | cons {name : String} {names : List String} {failure : Failure} {failures : List Failure} {h between after : Host} :
      l.load context name h = (.error failure, between) → failure.isFatal = false →
      FailsWith l context names failures between after →
      FailsWith l context (name :: names) (failure :: failures) h after

variable {l : Loader} {context : ContextId} {names : List String} {h after : Host}

/-! ## How a scan ends -/

/-- A scan that failed through some names has recorded their failures, and goes on with the others. -/
theorem loadFirstFrom_append {tried rest : List String} {failures : List Failure}
    (hf : l.FailsWith context tried failures h after) (s : Scan) :
    l.loadFirstFrom context s (tried ++ rest) h =
      l.loadFirstFrom context ⟨s.tried ++ tried, s.failures ++ failures⟩ rest after := by
  induction hf generalizing s with
  | nil h => simp
  | @cons name names failure failures h between after hl hfatal _ ih =>
    rw [List.cons_append, loadFirstFrom, hl]
    simp only [hfatal, Bool.false_eq_true, if_false]
    rw [ih (s.record name failure)]
    simp only [Scan.record, List.append_assoc, List.singleton_append]

/-- Every list of names falls into names that fail and are not fatal, and a rest that is empty or begins with a name that
loads or fails fatally. -/
theorem exists_failsWith (l : Loader) (context : ContextId) : ∀ (names : List String) (h : Host),
    ∃ tried failures rest between, names = tried ++ rest ∧ l.FailsWith context tried failures h between ∧
      ∀ name more, rest = name :: more → ∀ failure, (l.load context name between).1 = .error failure →
        failure.isFatal = true
  | [], h => ⟨[], [], [], h, rfl, .nil h, by simp⟩
  | name :: names, h => by
    cases hl : l.load context name h with
    | mk outcome between =>
      cases outcome with
      | ok lib =>
        refine ⟨[], [], name :: names, h, rfl, .nil h, ?_⟩
        intro other more ho failure hfailed
        cases ho
        rw [hl] at hfailed
        cases hfailed
      | error failure =>
        by_cases hfatal : failure.isFatal = true
        · refine ⟨[], [], name :: names, h, rfl, .nil h, ?_⟩
          intro other more ho failure' hfailed
          cases ho
          rw [hl] at hfailed
          cases hfailed
          exact hfatal
        · rw [Bool.not_eq_true] at hfatal
          obtain ⟨tried, failures, rest, reached, hn, hf, hend⟩ := exists_failsWith l context names between
          exact ⟨name :: tried, failure :: failures, rest, reached, by rw [hn, List.cons_append], .cons hl hfatal hf,
            hend⟩

/-! ## Searches among outcomes -/

/-- The first outcomes are failures, and none of them is fatal. -/
structure Passes (o : Nat → Except Failure Library) (n : Nat) (failures : List Failure) : Prop where
  outcomes : (List.range n).map o = failures.map .error
  notFatal : ∀ failure ∈ failures, failure.isFatal = false

/-- What a search among the outcomes of some names comes to, and how many of the names it takes. -/
inductive Searches (o : Nat → Except Failure Library) (names : List String) : Except Failure Library → Nat → Prop
  /-- The first library, if no failure before it is fatal. -/
  | found {k : Nat} {failures : List Failure} {lib : Library} : k < names.length → Passes o k failures →
      o k = .ok lib → Searches o names (.ok lib) (k + 1)
  /-- The failures up to the first that is fatal, if there is no library before it. -/
  | stopped {m : Nat} {failures : List Failure} {last : Failure} : m < names.length → Passes o m failures →
      o m = .error last → last.isFatal = true →
      Searches o names (.error (.node (.exhausted (names.take (m + 1))) (failures ++ [last]))) (m + 1)
  /-- All failures, if there is neither. -/
  | exhausted {failures : List Failure} : Passes o names.length failures →
      Searches o names (.error (.node (.exhausted names) failures)) names.length

variable {o : Nat → Except Failure Library} {n : Nat}

theorem Passes.isFatal_of_lt {failures : List Failure} (hp : Passes o n failures) {j : Nat} (hj : j < n)
    {failure : Failure} (hf : o j = .error failure) : failure.isFatal = false := by
  have hm : o j ∈ (List.range n).map o := List.mem_map_of_mem (List.mem_range.mpr hj)
  rw [hp.outcomes, hf] at hm
  obtain ⟨same, hs, he⟩ := List.mem_map.mp hm
  cases he
  exact hp.notFatal failure hs

/-- A search that found nothing was ended by a fatal failure exactly if it met one. -/
theorem Searches.fatal?_iff {failure : Failure} (hs : Searches o names (.error failure) n) (last : Failure) :
    failure.fatal? = some last ↔ ∃ j < n, o j = .error last ∧ last.isFatal = true := by
  cases hs with
  | @stopped m failures reached hm hp hr hfatal =>
    have hlast : Failure.fatal? (.node (.exhausted (names.take (m + 1))) (failures ++ [reached])) = some reached := by
      simp [Failure.fatal?, Failure.cause, Failure.earlier, hfatal]
    rw [hlast]
    constructor
    · intro he
      cases he
      exact ⟨m, Nat.lt_succ_self m, hr, hfatal⟩
    · rintro ⟨j, hj, hf, hfatal'⟩
      rcases Nat.lt_succ_iff_lt_or_eq.mp hj with hlt | rfl
      · rw [hp.isFatal_of_lt hlt hf] at hfatal'
        cases hfatal'
      · rw [hr] at hf
        cases hf
        rfl
  | @exhausted failures hp =>
    have hnone : Failure.fatal? (.node (.exhausted names) failures) = none := by
      simp only [Failure.fatal?, Failure.cause, Failure.earlier]
      cases hl : failures.getLast? with
      | none => rfl
      | some reached => simp [hp.notFatal reached (List.mem_of_getLast? hl)]
    rw [hnone]
    constructor
    · intro he
      cases he
    · rintro ⟨j, hj, hf, hfatal⟩
      rw [hp.isFatal_of_lt hj hf] at hfatal
      cases hfatal

/-- A scan is a search among any outcomes that its loads come to. -/
theorem searches_of_failsWith {tried rest : List String} {failures : List Failure} {between : Host}
    (hf : l.FailsWith context tried failures h between) (hp : Passes o tried.length failures)
    (hend : ∀ name more, rest = name :: more → ∀ failure, (l.load context name between).1 = .error failure →
      failure.isFatal = true)
    (hnext : ∀ name more, rest = name :: more → o tried.length = (l.load context name between).1) :
    ∃ n, Searches o (tried ++ rest) (l.loadFirst context (tried ++ rest) h).1 n ∧
      l.loadFirst context (tried ++ rest) h = l.loadFirst context ((tried ++ rest).take n) h := by
  have hscan : ∀ more, l.loadFirst context (tried ++ more) h = l.loadFirstFrom context ⟨tried, failures⟩ more between := by
    intro more
    rw [loadFirst, loadFirstFrom_append hf]
    rfl
  cases rest with
  | nil =>
    refine ⟨(tried ++ []).length, ?_, by rw [List.take_length]⟩
    rw [hscan]
    have hall : Passes o (tried ++ []).length failures := by
      rw [List.append_nil]
      exact hp
    simpa [Scan.exhausted, loadFirstFrom] using Searches.exhausted hall
  | cons name more =>
    have hlt : tried.length < (tried ++ name :: more).length := by simp
    have htake : (tried ++ name :: more).take (tried.length + 1) = tried ++ [name] := by
      rw [List.take_append, List.take_of_length_le (by omega)]
      simp
    have ho := hnext name more rfl
    have hfatal := hend name more rfl
    refine ⟨tried.length + 1, ?_, ?_⟩
    · rw [hscan, loadFirstFrom]
      cases hl : l.load context name between with
      | mk outcome after =>
        rw [hl] at ho hfatal
        cases outcome with
        | ok lib => exact .found hlt hp ho
        | error last =>
          have hstopped := Searches.stopped hlt hp ho (hfatal last rfl)
          rw [htake] at hstopped
          simp only [hfatal last rfl, if_true]
          exact hstopped
    · rw [htake, hscan, hscan, loadFirstFrom, loadFirstFrom]
      cases hl : l.load context name between with
      | mk outcome after =>
        rw [hl] at hfatal
        cases outcome with
        | ok lib => rfl
        | error last => simp only [hfatal last rfl, if_true]

/-! ## The outcomes of a scan's loads -/

section Steady

variable {directory : Except String String} {between : Host} {used : Nat}

/-- A load in a scan comes to what it comes to before the scan, with the names drawn that are drawn then. -/
theorem outcome_of_matches (hst : l.linker.IsSteady) (hkeeps : l.KeepsInstallNames h.files)
    (ho : (h.directories l.directory).outcome = some directory) (hm : h.Matches between)
    (hd : between.draws = { h.draws with used }) (context : ContextId) (name : String) :
    (l.load context name { h with draws := { h.draws with used } }).1 = (l.load context name between).1 := by
  have hsame : ({ h with draws := { h.draws with used } } : Host).Matches between :=
    ⟨hm.files, hm.temporary, hm.contexts, hm.directories, hm.pending, hm.handles⟩
  have hkeeps' : l.KeepsInstallNames ({ h with draws := { h.draws with used } } : Host).files := hkeeps
  exact ((load_agree hst hkeeps' ho hsame context name).eq hd).symm

/-- A load that fails leaves a process that matches the one before it. -/
theorem matches_of_load_error (hq : l.linker.IsQuiet) (hdelete : l.settings.deleteCopies = true)
    (ho : (h.directories l.directory).outcome = some directory) (hm : h.Matches between)
    (hd : between.draws = { h.draws with used }) {name : String} {failure : Failure}
    (hl : l.load context name between = (.error failure, after)) :
    h.Matches after ∧ ∃ used, after.draws = { h.draws with used } := by
  have hsettles := settles_of_load hq hdelete context name between
  have hkeeps := load_error hl
  have hdraws := drawsOn_load l context name between
  rw [hl] at hsettles hdraws
  have hbefore : (between.directories l.directory).outcome = some directory := by
    rw [hm.directories]
    exact ho
  obtain ⟨hfiles, hdirectories⟩ := hsettles.eq_of_outcome hbefore
  obtain ⟨used', hused⟩ := hdraws.draws
  refine ⟨⟨hfiles.trans hm.files, hdraws.temporary.trans hm.temporary, hkeeps.contexts.trans hm.contexts,
    hdirectories.trans hm.directories, hsettles.pending.trans hm.pending, hkeeps.handles.trans hm.handles⟩, used', ?_⟩
  rw [hused, hd]

/-- **The loads of a scan** that fail come to what they come to on their own before the scan. -/
theorem outcomes_of_failsWith (hst : l.linker.IsSteady) (hdelete : l.settings.deleteCopies = true)
    (hkeeps : l.KeepsInstallNames h.files) (ho : (h.directories l.directory).outcome = some directory)
    {tried : List String} {failures : List Failure}
    (hf : l.FailsWith context tried failures between after) (rest : List String) : ∀ used, h.Matches between →
    between.draws = { h.draws with used } → ∃ position : Nat → Nat, position 0 = used ∧
      h.Matches after ∧ after.draws = { h.draws with used := position tried.length } ∧
      Passes (fun i => (l.load context ((tried ++ rest).getD i "")
        { h with draws := { h.draws with used := position i } }).1) tried.length failures := by
  induction hf with
  | nil between =>
    intro used hm hd
    exact ⟨fun _ => used, rfl, hm, hd, rfl, by simp⟩
  | @cons name names failure failures between reached after hl hfatal hrest ih =>
    intro used hm hd
    obtain ⟨hm', used', hd'⟩ := matches_of_load_error hst.1 hdelete ho hm hd hl
    obtain ⟨position, hzero, hafter, hdraws, hp⟩ := ih used' hm' hd'
    have hfirst := outcome_of_matches hst hkeeps ho hm hd context name
    rw [hl] at hfirst
    refine ⟨fun i => i.casesOn used position, rfl, hafter, hdraws, ?_, ?_⟩
    · rw [List.length_cons, List.range_succ_eq_map, List.map_cons, List.map_map, List.map_cons, ← hp.outcomes]
      congr 1
    · intro other ho'
      rcases List.mem_cons.mp ho' with rfl | ho'
      · exact hfatal
      · exact hp.notFatal other ho'

end Steady

/-- **A scan is an independent search.** If copies are deleted and keep their install names, the linker is steady and the
directory for copies is settled, then a scan comes to what a search comes to among the outcomes that its names have on
their own in the process before the scan, each from some position in the random characters on, the first from where the
process is. The names after those that the search takes change nothing at all. The failure of a scan has a fatal cause
exactly if a fatal failure is among the outcomes that the search takes, and then it is that failure. And the outcomes
agree with those that the names have on their own with any random characters: they are the same but for what was drawn,
unless all names that are drawn are taken. -/
theorem loadFirst_search (hst : l.linker.IsSteady) (hdelete : l.settings.deleteCopies = true)
    (hkeeps : l.KeepsInstallNames h.files) {directory : Except String String}
    (ho : (h.directories l.directory).outcome = some directory) (context : ContextId) (names : List String) :
    ∃ position : Nat → Nat, position 0 = h.draws.used ∧
      let own := fun i => ({ h with draws := { h.draws with used := position i } } : Host)
      let o := fun i => (l.load context (names.getD i "") (own i)).1
      (∃ n, Searches o names (l.loadFirst context names h).1 n ∧
        l.loadFirst context names h = l.loadFirst context (names.take n) h ∧
        ∀ failure last, (l.loadFirst context names h).1 = .error failure →
          (failure.fatal? = some last ↔ ∃ j < n, o j = .error last ∧ last.isFatal = true)) ∧
      ∀ i draws, l.Agree context (names.getD i "") (own i) { h with draws } (o i)
        (l.load context (names.getD i "") { h with draws }).1 := by
  obtain ⟨tried, failures, rest, between, rfl, hf, hend⟩ := exists_failsWith l context names h
  have hself : h.Matches h := ⟨rfl, rfl, rfl, rfl, rfl, rfl⟩
  obtain ⟨position, hzero, hm, hd, hp⟩ := outcomes_of_failsWith hst hdelete hkeeps ho hf rest _ hself rfl
  refine ⟨position, hzero, ?_⟩
  intro own o
  have hagree : ∀ i draws, l.Agree context ((tried ++ rest).getD i "") (own i) { h with draws } (o i)
      (l.load context ((tried ++ rest).getD i "") { h with draws }).1 := by
    intro i draws
    have hkeeps' : l.KeepsInstallNames (own i).files := hkeeps
    have hsame : (own i).Matches { h with draws } := ⟨rfl, rfl, rfl, rfl, rfl, rfl⟩
    exact load_agree hst hkeeps' ho hsame context _
  refine ⟨?_, hagree⟩
  have hnext : ∀ name more, rest = name :: more → o tried.length = (l.load context name between).1 := by
    intro name more hrest
    have hname : (tried ++ rest).getD tried.length "" = name := by simp [hrest]
    calc o tried.length = (l.load context ((tried ++ rest).getD tried.length "") (own tried.length)).1 := rfl
      _ = (l.load context name (own tried.length)).1 := by rw [hname]
      _ = (l.load context name between).1 := outcome_of_matches hst hkeeps ho hm hd context name
  obtain ⟨n, hs, htake⟩ := searches_of_failsWith hf hp hend hnext
  refine ⟨n, hs, htake, ?_⟩
  intro failure last hfailed
  rw [hfailed] at hs
  exact hs.fatal?_iff last

/-- A loader whose linker refuses every file, and finds a library on the search path; its copies need install names. -/
def searchingLoader : Loader :=
  { relocatedLoader with
    linker := LinkerTable.toLinker { isolated := { extracted := .reject "no such format" }, installed := [("a_y", [])] } }

/-- A library is found after a copy was extracted and refused, and it is the one that its name loads on its own. -/
theorem loadFirst_search_found : ∃ (lib : Library) (k used : Nat),
    (searchingLoader.loadFirst 1 ["x", "y", "z"] settledRelocatedHost).1 = .ok lib ∧
      (searchingLoader.load 1 (["x", "y", "z"].getD k "")
        { settledRelocatedHost with draws := { settledRelocatedHost.draws with used } }).1 = .ok lib ∧
      searchingLoader.loadFirst 1 ["x", "y", "z"] settledRelocatedHost =
        searchingLoader.loadFirst 1 (["x", "y", "z"].take (k + 1)) settledRelocatedHost ∧
      (searchingLoader.loadFirst 1 ["x", "y", "z"] settledRelocatedHost).2.calls.length = 3 := by
  obtain ⟨hfound, hcalls⟩ : (searchingLoader.loadFirst 1 ["x", "y", "z"] settledRelocatedHost).1.toOption.isSome = true ∧
      (searchingLoader.loadFirst 1 ["x", "y", "z"] settledRelocatedHost).2.calls.length = 3 := by decide +kernel
  have hst : searchingLoader.linker.IsSteady := LinkerTable.isSteady_toLinker rfl
  -- its copies need names, but the tools are missing
  have hkeeps : searchingLoader.KeepsInstallNames settledRelocatedHost.files := fun _ _ _ => by decide +kernel
  have ho : (settledRelocatedHost.directories searchingLoader.directory).outcome = some (.ok "/tmp") := by rfl
  obtain ⟨position, _, ⟨n, hs, htake, _⟩, _⟩ := loadFirst_search hst rfl hkeeps ho 1 ["x", "y", "z"]
  cases hr : (searchingLoader.loadFirst 1 ["x", "y", "z"] settledRelocatedHost).1 with
  | error failure =>
    rw [hr] at hfound
    cases hfound
  | ok lib =>
    rw [hr] at hs
    cases hs with
    | @found k failures _ _ _ hok => exact ⟨lib, k, position k, rfl, hok, htake, hcalls⟩

end NativeLoader.Loader
