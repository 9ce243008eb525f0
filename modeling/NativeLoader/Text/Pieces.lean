/-!
# Sequences cut at a separator

`pieces sep xs` cuts at every occurrence of `sep`: one more piece than there are separators, none of them holding
one (`not_mem_of_mem_pieces`).
-/

namespace NativeLoader.Text

variable {α : Type} [DecidableEq α]

/-- An element put in front of the first piece. -/
def extendHead (x : α) : List (List α) → List (List α)
  | [] => [[x]]
  | p :: ps => (x :: p) :: ps

/-- The parts of a sequence between its separators. -/
def pieces (sep : α) : List α → List (List α)
  | [] => [[]]
  | x :: xs => if x = sep then [] :: pieces sep xs else extendHead x (pieces sep xs)

/-- The parts of a string between its separators. -/
def split (sep : Char) (s : String) : List String := (pieces sep s.toList).map String.ofList

/-- There is always a piece. -/
theorem pieces_ne_nil (sep : α) : ∀ xs : List α, pieces sep xs ≠ []
  | [] => by simp [pieces]
  | x :: xs => by
    unfold pieces
    split
    · simp
    · cases pieces sep xs <;> simp [extendHead]

/-- No piece holds the separator. -/
theorem not_mem_of_mem_pieces {sep : α} : ∀ {xs p : List α}, p ∈ pieces sep xs → sep ∉ p
  | [], p, h => by simp [pieces] at h; simp [h]
  | x :: xs, p, h => by
    unfold pieces at h
    split at h
    · rcases List.mem_cons.mp h with rfl | h
      · simp
      · exact not_mem_of_mem_pieces h
    · next hx =>
      cases hp : pieces sep xs with
      | nil => exact absurd hp (pieces_ne_nil sep xs)
      | cons q qs =>
        rw [hp, extendHead] at h
        have hq : ∀ r ∈ q :: qs, sep ∉ r := fun r hr => not_mem_of_mem_pieces (hp ▸ hr)
        rcases List.mem_cons.mp h with rfl | h
        · simpa [Ne.symm hx] using hq q List.mem_cons_self
        · exact hq p (List.mem_cons_of_mem _ h)

end NativeLoader.Text
