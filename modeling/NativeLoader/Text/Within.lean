/-!
# Words inside texts

`isWithin` finds a word anywhere in a text, at its start and its end too: exactly if the text is something before the
word, the word, and something after it (`isWithin_iff`).
-/

namespace NativeLoader.Text

/-- Some part of a sequence of characters is a word. -/
def holdsWord (word : List Char) : List Char → Bool
  | [] => word.isEmpty
  | c :: cs => word.isPrefixOf (c :: cs) || holdsWord word cs

/-- A word is part of a text. -/
def isWithin (word s : String) : Bool := holdsWord word.toList s.toList

/-- The parts of a sequence are its infixes. -/
theorem holdsWord_iff {word : List Char} : ∀ {cs : List Char}, holdsWord word cs = true ↔ word <:+: cs
  | [] => by simp [holdsWord]
  | c :: cs => by
    rw [holdsWord, Bool.or_eq_true, List.isPrefixOf_iff_prefix, holdsWord_iff, List.infix_cons_iff]

/-- A word is in a text exactly if the text goes on before and after it. -/
theorem isWithin_iff {word s : String} : isWithin word s = true ↔ ∃ before after, before ++ word ++ after = s := by
  rw [isWithin, holdsWord_iff]
  constructor
  · rintro ⟨t, u, h⟩
    exact ⟨String.ofList t, String.ofList u, by simp [← String.toList_inj, h]⟩
  · rintro ⟨t, u, rfl⟩
    exact ⟨t.toList, u.toList, by simp⟩

end NativeLoader.Text
