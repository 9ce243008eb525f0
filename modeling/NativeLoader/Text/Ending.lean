/-!
# Endings of texts

A text is taken apart at an ending it must have (`dropEnd?`, with `dropEnd?_eq_some_iff`) or at the last occurrence of
a character (`splitLast`, with `append_splitLast` and `splitLast_eq`).
-/

namespace NativeLoader.Text

/-- What stands before an ending, if the characters have it. -/
def dropEndChars? (ending cs : List Char) : Option (List Char) :=
  if ending.isSuffixOf cs then some (cs.take (cs.length - ending.length)) else none

/-- What stands before an ending, if the text has it. -/
def dropEnd? (ending s : String) : Option String :=
  (dropEndChars? ending.toList s.toList).map String.ofList

/-- The characters before the last occurrence of one, and those from it on. -/
def splitLastChars (c : Char) (cs : List Char) : List Char × List Char :=
  if c ∈ cs then
    let after := (cs.reverse.takeWhile (· != c)).length
    (cs.take (cs.length - (after + 1)), cs.drop (cs.length - (after + 1)))
  else (cs, [])

/-- The text before the last occurrence of a character, and the text from it on. -/
def splitLast (c : Char) (s : String) : String × String :=
  let parts := splitLastChars c s.toList
  (String.ofList parts.1, String.ofList parts.2)

/-- A text has an ending exactly if something stands before it. -/
theorem dropEnd?_eq_some_iff {ending s before : String} :
    dropEnd? ending s = some before ↔ s = before ++ ending := by
  unfold dropEnd? dropEndChars?
  constructor
  · intro h
    split at h
    · next hs =>
      obtain ⟨t, ht⟩ := List.isSuffixOf_iff_suffix.mp hs
      have hl : s.toList.take (s.toList.length - ending.toList.length) = t := by
        rw [← ht, List.length_append, Nat.add_sub_cancel, List.take_left' rfl]
      rw [hl] at h
      cases h
      rw [← String.toList_inj, String.toList_append, String.toList_ofList, ht]
    · cases h
  · rintro rfl
    have hs : ending.toList.isSuffixOf (before ++ ending).toList = true := by
      rw [String.toList_append]
      exact List.isSuffixOf_iff_suffix.mpr ⟨_, rfl⟩
    rw [if_pos hs, String.toList_append, List.length_append, Nat.add_sub_cancel, List.take_left' rfl]
    simp

/-- Splitting at the last occurrence loses nothing. -/
theorem append_splitLast (c : Char) (s : String) : (splitLast c s).1 ++ (splitLast c s).2 = s := by
  rw [← String.toList_inj, String.toList_append]
  unfold splitLast splitLastChars
  split <;> simp

/-- The text from the last occurrence of a character on has no other one; it is empty where there is none. -/
theorem splitLast_eq (c : Char) (s : String) :
    c ∉ s.toList ∧ splitLast c s = (s, "") ∨
      ∃ before after, c ∉ after ∧ s.toList = before ++ c :: after ∧
        splitLast c s = (String.ofList before, String.ofList (c :: after)) := by
  unfold splitLast splitLastChars
  by_cases hc : c ∈ s.toList
  · -- the last occurrence is the first one from the end
    obtain ⟨after, before, hsplit, hafter⟩ := List.eq_append_cons_of_mem (List.mem_reverse.mpr hc)
    have hs : s.toList = before.reverse ++ c :: after.reverse := by
      rw [← List.reverse_reverse s.toList, hsplit]
      simp
    have hlength : (s.toList.reverse.takeWhile (· != c)).length = after.length := by
      have hall : ∀ d ∈ after, (d != c) = true := fun d hd => bne_iff_ne.mpr (ne_of_mem_of_not_mem hd hafter)
      rw [hsplit, List.takeWhile_append_of_pos hall]
      simp
    have hbefore : s.toList.length - (after.length + 1) = before.reverse.length := by
      rw [hs, List.length_append, List.length_cons, List.length_reverse, List.length_reverse, Nat.add_sub_cancel]
    refine Or.inr ⟨before.reverse, after.reverse, by simpa using hafter, hs, ?_⟩
    rw [if_pos hc]
    simp only [hlength, hbefore]
    rw [hs, List.take_left' rfl, List.drop_left' rfl]
  · refine Or.inl ⟨hc, ?_⟩
    rw [if_neg hc]
    simp

end NativeLoader.Text
