import Mathlib
import NativeLoader.Text.Blank

/-!
# Words, and the white space around them

A text spells a word if it is the word in small letters, capitals, or a mixture of them (`Text.Spells`); this is what
comparing without regard to case comes to (`sameIgnoringCase_iff`). No letter is blank, so trimming leaves a word when
it takes off the white space around it (`trimChars_append`), and takes off nothing else (`exists_trimChars`): a text
that spells a word once it is trimmed does so as it is, or is the word among white space (`spells_trim_iff`).
-/

namespace NativeLoader.Text

/-! ## Small letters and capitals -/

/-- A character is a letter as it is, or its capital. -/
def IsFormOf (w c : Char) : Prop := c = w ∨ c = w.toUpper

/-- A text is a word, each letter of it as it is or as a capital. -/
def Spells (word text : String) : Prop := List.Forall₂ IsFormOf word.toList text.toList

/-- A word is written in small letters. -/
def IsSmall (word : String) : Prop := ∀ w ∈ word.toList, w.isLower = true

/-- What becomes a small letter is that letter or its capital. -/
theorem toLower_eq_toLower_iff {w c : Char} (hw : w.isLower = true) :
    c.toLower = w.toLower ↔ IsFormOf w c := by
  have hsmall : w.toLower = w := Char.toLower_eq_of_not_isUpper (Char.not_isUpper_of_isLower hw)
  constructor
  · intro h
    by_cases hc : c.isUpper = true
    · refine Or.inr ?_
      calc c = c.toUpper := (Char.toUpper_eq_of_not_isLower (Char.not_isLower_of_isUpper hc)).symm
        _ = c.toLower.toUpper := (Char.toUpper_toLower_eq_toUpper c).symm
        _ = w.toUpper := by rw [h, Char.toUpper_toLower_eq_toUpper]
    · refine Or.inl ?_
      rw [← Char.toLower_eq_of_not_isUpper hc, h, hsmall]
  · rintro (rfl | rfl)
    · rfl
    · exact Char.toLower_toUpper_eq_toLower w

theorem map_toLower_eq_iff : ∀ {ws cs : List Char}, (∀ w ∈ ws, w.isLower = true) →
    (cs.map Char.toLower = ws.map Char.toLower ↔ List.Forall₂ IsFormOf ws cs)
  | [], cs, _ => by cases cs <;> simp
  | w :: ws, [], _ => by simp
  | w :: ws, c :: cs, hw => by
    obtain ⟨hsmall, hrest⟩ := List.forall_mem_cons.mp hw
    rw [List.map_cons, List.map_cons, List.cons.injEq, toLower_eq_toLower_iff hsmall, map_toLower_eq_iff hrest,
      List.forall₂_cons]

/-- Comparing without regard to case finds what spells a word in small letters. -/
theorem sameIgnoringCase_iff {word text : String} (hw : IsSmall word) :
    sameIgnoringCase text word = true ↔ Spells word text := by
  rw [sameIgnoringCase, beq_iff_eq, map_toLower_eq_iff hw, Spells]

/-! ## White space at the ends -/

/-- A text is white space. -/
def AllBlank (text : String) : Prop := ∀ c ∈ text.toList, isBlank c = true

/-- Letters are not blank. -/
theorem isBlank_of_isAlpha {c : Char} (h : c.isAlpha = true) : isBlank c = false := by
  have hcode : 65 ≤ c.toNat ∧ c.toNat ≤ 90 ∨ 97 ≤ c.toNat ∧ c.toNat ≤ 122 := by
    simpa [Char.isAlpha, Char.isUpper, Char.isLower, UInt32.le_iff_toNat_le] using h
  have hout : ∀ r ∈ blankRanges, ¬(r.1 ≤ c.toNat ∧ c.toNat ≤ r.2) := by
    intro r hr
    simp only [blankRanges, List.mem_cons, List.not_mem_nil, or_false] at hr
    rcases hr with rfl | rfl | rfl | rfl | rfl | rfl | rfl | rfl | rfl | rfl <;> simp only <;> omega
  simpa [isBlank, inRanges] using hout

theorem IsFormOf.not_blank {w c : Char} (h : IsFormOf w c) (hw : w.isLower = true) : isBlank c = false := by
  have hletter : w.isAlpha = true := by simp [Char.isAlpha, hw]
  rcases h with rfl | rfl
  · exact isBlank_of_isAlpha hletter
  · exact isBlank_of_isAlpha ((Char.isAlpha_toUpper_eq_isAlpha w).trans hletter)

theorem not_blank_of_forms {ws cs : List Char} (h : List.Forall₂ IsFormOf ws cs) (hw : ∀ w ∈ ws, w.isLower = true) :
    ∀ c ∈ cs, isBlank c = false := by
  induction h with
  | nil => simp
  | cons hc _ ih =>
    obtain ⟨hsmall, hrest⟩ := List.forall_mem_cons.mp hw
    exact List.forall_mem_cons.mpr ⟨hc.not_blank hsmall, ih hrest⟩

/-- Trimming takes off white space at the two ends. -/
theorem exists_trimChars (cs : List Char) : ∃ before after, cs = before ++ trimChars cs ++ after ∧
    (∀ c ∈ before, isBlank c = true) ∧ ∀ c ∈ after, isBlank c = true := by
  refine ⟨cs.takeWhile isBlank, ((cs.dropWhile isBlank).reverse.takeWhile isBlank).reverse, ?_, ?_, ?_⟩
  · calc cs = cs.takeWhile isBlank ++ (cs.dropWhile isBlank).reverse.reverse := by
          rw [List.reverse_reverse, List.takeWhile_append_dropWhile]
      _ = cs.takeWhile isBlank ++ ((cs.dropWhile isBlank).reverse.takeWhile isBlank ++
            (cs.dropWhile isBlank).reverse.dropWhile isBlank).reverse := by
          rw [List.takeWhile_append_dropWhile]
      _ = _ := by rw [List.reverse_append, ← List.append_assoc, trimChars]
  · intro c hc
    exact List.all_eq_true.mp List.all_takeWhile c hc
  · intro c hc
    exact List.all_eq_true.mp List.all_takeWhile c (List.mem_reverse.mp hc)

/-- White space before what begins without any is dropped. -/
theorem dropWhile_isBlank_append {before rest : List Char} (hb : ∀ c ∈ before, isBlank c = true)
    (hrest : ∀ c ∈ rest.head?, isBlank c = false) : (before ++ rest).dropWhile isBlank = rest := by
  rw [List.dropWhile_append_of_pos hb]
  cases rest with
  | nil => rfl
  | cons c cs => rw [List.dropWhile_cons_of_neg (by simp [hrest c rfl])]

/-- What has no white space in it is what trimming leaves of it and of white space around it. -/
theorem trimChars_append {before inner after : List Char} (hb : ∀ c ∈ before, isBlank c = true)
    (ha : ∀ c ∈ after, isBlank c = true) (hne : inner ≠ []) (hinner : ∀ c ∈ inner, isBlank c = false) :
    trimChars (before ++ inner ++ after) = inner := by
  have hfirst : ∀ c ∈ (inner ++ after).head?, isBlank c = false := by
    intro c hc
    rw [List.head?_append_of_ne_nil inner hne] at hc
    exact hinner c (List.mem_of_mem_head? hc)
  have hlast : ∀ c ∈ inner.reverse.head?, isBlank c = false := by
    intro c hc
    exact hinner c (List.mem_reverse.mp (List.mem_of_mem_head? hc))
  have hafter : ∀ c ∈ after.reverse, isBlank c = true := by
    intro c hc
    exact ha c (List.mem_reverse.mp hc)
  rw [trimChars, List.append_assoc, dropWhile_isBlank_append hb hfirst, List.reverse_append,
    dropWhile_isBlank_append hafter hlast, List.reverse_reverse]

/-! ## Words among white space -/

/-- A text spells a word, but there is white space before it or after it. -/
def SpellsPadded (word text : String) : Prop :=
  ∃ before inner after, text = before ++ inner ++ after ∧ AllBlank before ∧ AllBlank after ∧
    (before ≠ "" ∨ after ≠ "") ∧ Spells word inner

variable {word text : String}

/-- What spells a word has no white space in it. -/
theorem Spells.not_blank (hs : Spells word text) (hw : IsSmall word) : ∀ c ∈ text.toList, isBlank c = false :=
  not_blank_of_forms hs hw

theorem Spells.toList_ne_nil (hs : Spells word text) (hne : word ≠ "") : text.toList ≠ [] := by
  intro hnil
  rw [Spells, hnil, List.forall₂_nil_right_iff] at hs
  exact hne (String.toList_eq_nil_iff.mp hs)

/-- What spells a word has no white space around it. -/
theorem Spells.not_padded (hs : Spells word text) (hw : IsSmall word) : ¬SpellsPadded word text := by
  rintro ⟨before, inner, after, rfl, hb, ha, hpadded, -⟩
  have hnone : ∀ {s : String}, AllBlank s → (∀ c ∈ s.toList, c ∈ (before ++ inner ++ after).toList) → s = "" := by
    intro s hblank hin
    rw [← String.toList_eq_nil_iff, List.eq_nil_iff_forall_not_mem]
    intro c hc
    have hnot := hs.not_blank hw c (hin c hc)
    rw [hblank c hc] at hnot
    cases hnot
  rcases hpadded with hne | hne
  · exact hne (hnone hb (by simp +contextual))
  · exact hne (hnone ha (by simp +contextual))

/-- Trimming takes white space off a word. -/
theorem Spells.trim_append {before after : String} (hs : Spells word text) (hw : IsSmall word) (hne : word ≠ "")
    (hb : AllBlank before) (ha : AllBlank after) : trim (before ++ text ++ after) = text := by
  rw [trim, String.toList_append, String.toList_append,
    trimChars_append hb ha (hs.toList_ne_nil hne) (hs.not_blank hw), String.ofList_toList]

theorem Spells.trim_eq (hs : Spells word text) (hw : IsSmall word) (hne : word ≠ "") : trim text = text := by
  have hnone : AllBlank "" := by simp [AllBlank]
  simpa using hs.trim_append hw hne hnone hnone

/-- A text spells a word once it is trimmed exactly if it does so before, or is the word among white space. -/
theorem spells_trim_iff (hw : IsSmall word) (hne : word ≠ "") :
    Spells word (trim text) ↔ Spells word text ∨ SpellsPadded word text := by
  constructor
  · intro hs
    obtain ⟨before, after, hsplit, hb, ha⟩ := exists_trimChars text.toList
    have htext : text = String.ofList before ++ trim text ++ String.ofList after := by
      rw [← String.toList_inj]
      simpa [trim] using hsplit
    by_cases hpadded : String.ofList before ≠ "" ∨ String.ofList after ≠ ""
    · exact Or.inr ⟨_, _, _, htext, by simpa [AllBlank] using hb, by simpa [AllBlank] using ha, hpadded, hs⟩
    · obtain ⟨hbefore, hafter⟩ := not_or.mp hpadded
      rw [not_not] at hbefore hafter
      rw [hbefore, hafter, String.empty_append, String.append_empty] at htext
      rw [htext]
      exact Or.inl hs
  · rintro (hs | ⟨before, inner, after, rfl, hb, ha, -, hs⟩)
    · rwa [hs.trim_eq hw hne]
    · rwa [hs.trim_append hw hne hb ha]

end NativeLoader.Text
