import NativeLoader.Proofs.Loading.Outcome

/-!
# Scans over names

`Loader.FailsThrough` says that loading some names one after the other fails each time, and never fatally. A scan hands
out a library exactly if it failed through some names and the next one loads (`loadFirst_eq_ok_iff`); so it registers
what that load registers (`loadFirst_eq_ok`, `loadFirst_cases`), and a scan that fails leaves the bindings alone
(`loadFirst_error`). What every load keeps, be it a preorder of processes, every scan keeps, as a whole and from each of
its loads on (`KeptByLoads`).
-/

namespace NativeLoader.Loader

/-- Loading some names in turn fails each time, and never fatally; the process before and after. -/
inductive FailsThrough (l : Loader) (context : ContextId) : List String → Host → Host → Prop
  | nil (h : Host) : FailsThrough l context [] h h
  | cons {name : String} {names : List String} {h between after : Host} {failure : Failure} :
      l.load context name h = (.error failure, between) → failure.isFatal = false →
      FailsThrough l context names between after → FailsThrough l context (name :: names) h after

variable {l : Loader} {context : ContextId} {names : List String} {h after : Host}

/-- Loads that fail leave the bindings alone. -/
theorem FailsThrough.keepsBindings (hf : l.FailsThrough context names h after) : h.KeepsBindings after := by
  induction hf with
  | nil h => exact .refl h
  | cons hl _ _ ih => exact (load_error hl).trans ih

/-- A scan hands out a library exactly if it failed through some names and the next one loads. -/
theorem loadFirstFrom_eq_ok_iff {lib : Library} : ∀ {names : List String} {s : Scan} {h : Host},
    l.loadFirstFrom context s names h = (.ok lib, after) ↔
      ∃ failed name rest between, names = failed ++ name :: rest ∧ l.FailsThrough context failed h between ∧
        l.load context name between = (.ok lib, after)
  | [], s, h => by
    constructor
    · intro hs
      cases hs
    · rintro ⟨failed, name, rest, _, hn, _⟩
      cases failed <;> cases hn
  | name :: names, s, h => by
    unfold loadFirstFrom
    cases hl : l.load context name h with
    | mk outcome between =>
      cases outcome with
      | ok bound =>
        constructor
        · intro hs
          cases hs
          exact ⟨[], name, names, h, rfl, .nil h, hl⟩
        · rintro ⟨failed, other, rest, reached, hn, hf, ho⟩
          cases hf with
          | nil => cases hn; rw [hl] at ho; exact ho
          | cons he => cases hn; rw [hl] at he; cases he
      | error failure =>
        by_cases hfatal : failure.isFatal = true
        · simp only [hfatal, if_true]
          constructor
          · intro hs
            cases hs
          · rintro ⟨failed, other, rest, reached, hn, hf, ho⟩
            cases hf with
            | nil => cases hn; rw [hl] at ho; cases ho
            | cons he hnot => cases hn; rw [hl] at he; cases he; rw [hfatal] at hnot; cases hnot
        · rw [Bool.not_eq_true] at hfatal
          simp only [hfatal, Bool.false_eq_true, if_false]
          rw [loadFirstFrom_eq_ok_iff]
          constructor
          · rintro ⟨failed, other, rest, reached, rfl, hf, ho⟩
            exact ⟨name :: failed, other, rest, reached, rfl, .cons hl hfatal hf, ho⟩
          · rintro ⟨failed, other, rest, reached, hn, hf, ho⟩
            cases hf with
            | nil => cases hn; rw [hl] at ho; cases ho
            | cons he _ hf =>
              cases hn
              rw [hl] at he
              cases he
              exact ⟨_, other, rest, reached, rfl, hf, ho⟩

/-- A scan of some names hands out a library exactly if it failed through some and the next one loads. -/
theorem loadFirst_eq_ok_iff {lib : Library} : l.loadFirst context names h = (.ok lib, after) ↔
    ∃ failed name rest between, names = failed ++ name :: rest ∧ l.FailsThrough context failed h between ∧
      l.load context name between = (.ok lib, after) :=
  loadFirstFrom_eq_ok_iff

/-- A scan that succeeds hands out what was bound in the context before, or registers a new library. -/
theorem loadFirst_eq_ok {lib : Library} (hl : l.loadFirst context names h = (.ok lib, after)) :
    ∃ name ∈ names, (∃ mangledPrefix, l.mangledPrefix = .ok mangledPrefix ∧
        (h.contexts context).library? (mangledPrefix ++ name) = some lib ∧ h.KeepsBindings after) ∨
      (l.Binds name lib ∧ Registers context lib h after) := by
  obtain ⟨failed, name, rest, between, rfl, hf, ho⟩ := loadFirst_eq_ok_iff.mp hl
  have hk := hf.keepsBindings
  refine ⟨name, by simp, ?_⟩
  rcases load_eq_ok ho with ⟨mangledPrefix, hp, hb, rfl⟩ | ⟨hb, hr⟩
  · rw [hk.contexts] at hb
    exact Or.inl ⟨mangledPrefix, hp, hb, hk⟩
  · exact Or.inr ⟨hb, hr.of_keepsBindings hk⟩

/-- A scan that fails leaves the bindings alone. -/
theorem loadFirstFrom_error {failure : Failure} : ∀ {names : List String} {s : Scan} {h : Host},
    l.loadFirstFrom context s names h = (.error failure, after) → h.KeepsBindings after
  | [], s, h, hl => by
    cases hl
    exact .refl _
  | name :: names, s, h, hl => by
    unfold loadFirstFrom at hl
    split at hl
    · cases hl
    · next first between he =>
      split at hl
      · cases hl
        exact (load_error he).trans (.warn _ between)
      · exact (load_error he).trans (loadFirstFrom_error hl)

/-- A scan of some names that fails leaves the bindings alone. -/
theorem loadFirst_error {failure : Failure} (hl : l.loadFirst context names h = (.error failure, after)) :
    h.KeepsBindings after :=
  loadFirstFrom_error hl

/-- A scan leaves the bindings alone, or one of its loads, the last, registers a new library. -/
theorem loadFirst_cases (l : Loader) (context : ContextId) (names : List String) (h : Host) :
    h.KeepsBindings (l.loadFirst context names h).2 ∨
      ∃ failed name rest between lib, names = failed ++ name :: rest ∧ l.FailsThrough context failed h between ∧
        l.load context name between = (.ok lib, (l.loadFirst context names h).2) ∧ l.Binds name lib ∧
        Registers context lib between (l.loadFirst context names h).2 := by
  cases hl : l.loadFirst context names h with
  | mk outcome after =>
    cases outcome with
    | error failure => exact Or.inl (loadFirst_error hl)
    | ok lib =>
      obtain ⟨failed, name, rest, between, hnames, hf, ho⟩ := loadFirst_eq_ok_iff.mp hl
      rcases load_eq_ok ho with ⟨_, _, _, rfl⟩ | ⟨hb, hr⟩
      · exact Or.inl hf.keepsBindings
      · exact Or.inr ⟨failed, name, rest, between, lib, hnames, hf, ho, hb, hr⟩

/-! ## What scans keep -/

/-- A preorder of processes in which no load leads down, and no warning. -/
structure KeptByLoads (l : Loader) (context : ContextId) (R : Host → Host → Prop) : Prop where
  refl : ∀ h, R h h
  trans : ∀ {h between after}, R h between → R between after → R h after
  load : ∀ name h, R h (l.load context name h).2
  warn : ∀ texts h, R h (h.warn texts)

namespace KeptByLoads

variable {R : Host → Host → Prop} {name : String} {failed rest : List String} {between : Host}

/-- It is kept from the end of a scan's first load on, if it is kept by what the scan does then. -/
theorem after_first (hk : l.KeptByLoads context R) (hrest : ∀ s h, R h (l.loadFirstFrom context s rest h).2) (s : Scan)
    (h : Host) : R (l.load context name h).2 (l.loadFirstFrom context s (name :: rest) h).2 := by
  unfold loadFirstFrom
  cases l.load context name h with
  | mk outcome between =>
    cases outcome with
    | ok lib => exact hk.refl between
    | error failure =>
      simp only
      split
      · exact hk.warn [givingUp name failure] between
      · exact hrest (s.record name failure) between

/-- It is kept by scans. -/
theorem loadFirstFrom (hk : l.KeptByLoads context R) : ∀ (names : List String) (s : Scan) (h : Host),
    R h (l.loadFirstFrom context s names h).2
  | [], _, h => hk.refl h
  | name :: names, s, h => hk.trans (hk.load name h) (hk.after_first (hk.loadFirstFrom names) s h)

/-- It is kept by loads that fail one after the other. -/
theorem failsThrough (hk : l.KeptByLoads context R) (hf : l.FailsThrough context names h after) : R h after := by
  induction hf with
  | nil h => exact hk.refl h
  | @cons name _ h _ _ _ hl _ _ ih =>
    have hload := hk.load name h
    rw [hl] at hload
    exact hk.trans hload ih

/-- It is kept from the end of each load of a scan on. -/
theorem after_load (hk : l.KeptByLoads context R) (hf : l.FailsThrough context failed h between) (s : Scan) :
    R (l.load context name between).2 (l.loadFirstFrom context s (failed ++ name :: rest) h).2 := by
  induction hf generalizing s with
  | nil h => exact hk.after_first (hk.loadFirstFrom rest) s h
  | @cons first names h between after failure hl hfatal _ ih =>
    rw [List.cons_append, Loader.loadFirstFrom, hl]
    simp only [hfatal, Bool.false_eq_true, if_false]
    exact ih (s.record first failure)

end KeptByLoads

end NativeLoader.Loader
