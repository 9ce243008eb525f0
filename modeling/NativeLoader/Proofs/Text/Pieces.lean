import NativeLoader.Text.Pieces

/-!
# Laws of cutting

Cutting at a separator in the middle cuts both sides (`pieces_append_cons`), and what is added without a separator goes
to the last piece (`pieces_append`). The pieces hold what the whole holds, separators apart (`mem_of_mem_pieces`,
`exists_mem_pieces`), so a sequence without the separator is its only piece (`pieces_of_not_mem`); such sequences are
the pieces of what is made of them (`pieces_append_flatMap`). An empty last piece comes of a separator at the end
(`getLast?_of_pieces`).
-/

namespace NativeLoader.Text

variable {α : Type} [DecidableEq α]

/-- Cutting at a separator in the middle cuts both sides. -/
theorem pieces_append_cons (sep : α) (ys : List α) : ∀ xs : List α,
    pieces sep (xs ++ sep :: ys) = pieces sep xs ++ pieces sep ys
  | [] => by simp [pieces]
  | x :: xs => by
    rw [List.cons_append, pieces, pieces, pieces_append_cons sep ys xs]
    by_cases hx : x = sep
    · rw [if_pos hx, if_pos hx, List.cons_append]
    · rw [if_neg hx, if_neg hx]
      cases hp : pieces sep xs with
      | nil => exact absurd hp (pieces_ne_nil sep xs)
      | cons p ps => rfl

/-- Cutting a sequence that ends without a separator adds that end to the last piece. -/
theorem pieces_append (sep : α) : ∀ xs : List α,
    ∃ ps p, ∀ ys, sep ∉ ys → pieces sep (xs ++ ys) = ps ++ [p ++ ys]
  | [] => by
    refine ⟨[], [], ?_⟩
    intro ys hys
    induction ys with
    | nil => rfl
    | cons y ys ih =>
      have hy : y ≠ sep := fun he => hys (he ▸ List.mem_cons_self)
      have hrest := ih fun hm => hys (List.mem_cons_of_mem y hm)
      simp only [List.nil_append] at hrest ⊢
      rw [pieces, if_neg hy, hrest]
      rfl
  | x :: xs => by
    obtain ⟨ps, p, hxs⟩ := pieces_append sep xs
    by_cases hx : x = sep
    · refine ⟨[] :: ps, p, ?_⟩
      intro ys hys
      rw [List.cons_append, pieces, if_pos hx, hxs ys hys]
      rfl
    · cases ps with
      | nil =>
        refine ⟨[], x :: p, ?_⟩
        intro ys hys
        rw [List.cons_append, pieces, if_neg hx, hxs ys hys]
        rfl
      | cons q qs =>
        refine ⟨(x :: q) :: qs, p, ?_⟩
        intro ys hys
        rw [List.cons_append, pieces, if_neg hx, hxs ys hys]
        rfl

/-- What stands in a piece stands in the whole. -/
theorem mem_of_mem_pieces {sep c : α} : ∀ {xs p : List α}, p ∈ pieces sep xs → c ∈ p → c ∈ xs
  | [], p, hp, hc => by
    rw [pieces, List.mem_singleton] at hp
    rw [hp] at hc
    exact hc
  | x :: xs, p, hp, hc => by
    rw [pieces] at hp
    split at hp
    · rcases List.mem_cons.mp hp with rfl | hp
      · cases hc
      · exact List.mem_cons_of_mem x (mem_of_mem_pieces hp hc)
    · cases hq : pieces sep xs with
      | nil => exact absurd hq (pieces_ne_nil sep xs)
      | cons q qs =>
        rw [hq, extendHead] at hp
        have hrest : ∀ r ∈ q :: qs, c ∈ r → c ∈ xs := by
          intro r hr
          rw [← hq] at hr
          exact mem_of_mem_pieces hr
        rcases List.mem_cons.mp hp with rfl | hp
        · rcases List.mem_cons.mp hc with rfl | hc
          · exact List.mem_cons_self
          · exact List.mem_cons_of_mem x (hrest q List.mem_cons_self hc)
        · exact List.mem_cons_of_mem x (hrest p (List.mem_cons_of_mem q hp) hc)

/-- What stands in the whole stands in a piece, unless it separates them. -/
theorem exists_mem_pieces {sep c : α} (hc : c ≠ sep) : ∀ {xs : List α}, c ∈ xs → ∃ p ∈ pieces sep xs, c ∈ p
  | x :: xs, h => by
    rw [pieces]
    rcases List.mem_cons.mp h with rfl | h
    · rw [if_neg hc]
      obtain ⟨p, ps, hp⟩ := List.exists_cons_of_ne_nil (pieces_ne_nil sep xs)
      rw [hp]
      exact ⟨c :: p, List.mem_cons_self, List.mem_cons_self⟩
    · obtain ⟨p, hp, hin⟩ := exists_mem_pieces hc h
      split
      · exact ⟨p, List.mem_cons_of_mem _ hp, hin⟩
      · cases hq : pieces sep xs with
        | nil => exact absurd hq (pieces_ne_nil sep xs)
        | cons q qs =>
          rw [hq] at hp
          rcases List.mem_cons.mp hp with rfl | hp
          · exact ⟨x :: p, List.mem_cons_self, List.mem_cons_of_mem x hin⟩
          · exact ⟨p, List.mem_cons_of_mem _ hp, hin⟩

/-- A sequence without the separator is its only piece. -/
theorem pieces_of_not_mem {sep : α} : ∀ {xs : List α}, sep ∉ xs → pieces sep xs = [xs]
  | [], _ => rfl
  | x :: xs, h => by
    rw [List.mem_cons, not_or] at h
    rw [pieces, if_neg (Ne.symm h.1), pieces_of_not_mem h.2]
    rfl

/-- Sequences without the separator are the pieces of the whole that has it in front of each but the first. -/
theorem pieces_append_flatMap {sep : α} : ∀ {p : List α} {ps : List (List α)}, sep ∉ p → (∀ q ∈ ps, sep ∉ q) →
    pieces sep (p ++ ps.flatMap (sep :: ·)) = p :: ps
  | p, [], hp, _ => by simpa using pieces_of_not_mem hp
  | p, q :: ps, hp, hps => by
    have hrest : pieces sep (q ++ ps.flatMap (sep :: ·)) = q :: ps :=
      pieces_append_flatMap (hps q List.mem_cons_self) fun r hr => hps r (List.mem_cons_of_mem q hr)
    rw [List.flatMap_cons, List.cons_append, pieces_append_cons, pieces_of_not_mem hp, hrest]
    rfl

/-- An empty last piece comes of a separator at the end, unless nothing was cut. -/
theorem getLast?_of_pieces {sep : α} : ∀ {xs : List α}, xs ≠ [] → (pieces sep xs).getLast? = some [] →
    xs.getLast? = some sep
  | [], hne, _ => absurd rfl hne
  | [x], _, h => by
    by_cases hx : x = sep
    · rw [hx]
      rfl
    · simp [pieces, hx, extendHead] at h
  | x :: y :: ys, _, h => by
    rw [List.getLast?_cons_cons]
    refine getLast?_of_pieces (by simp) ?_
    rw [pieces] at h
    cases hp : pieces sep (y :: ys) with
    | nil => exact absurd hp (pieces_ne_nil sep _)
    | cons p ps =>
      rw [hp] at h
      split at h
      · rw [List.getLast?_cons_cons] at h
        exact h
      · cases ps with
        | nil => simp [extendHead] at h
        | cons q qs =>
          rw [extendHead, List.getLast?_cons_cons] at h
          rw [List.getLast?_cons_cons]
          exact h

end NativeLoader.Text
