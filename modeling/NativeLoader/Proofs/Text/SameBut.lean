import NativeLoader.Draws
import NativeLoader.Failure

/-!
# The same but for what was drawn

The names of temporary files hold random characters, and so do the messages that quote these names. Two texts are the
same but for what was drawn (`Text.SameBut`) if they come of each other by putting one drawn part for another in some
places. Quoting keeps this (`SameBut.quote`), since drawn parts stand for themselves in a quotation. Failures are the
same but for what was drawn if their trees are, cause by cause (`Failure.SameBut`); what is the same but for one and
the same drawn part is equal (`Failure.SameBut.eq`).
-/

namespace NativeLoader

/-- A part of a name that may be drawn. -/
structure Draws.IsDrawn (drawn : String) : Prop where
  length : drawn.toList.length = suffixLength
  isAlphanum : ∀ c ∈ drawn.toList, c.isAlphanum = true

theorem Draws.isDrawn_take (d : Draws) : IsDrawn (d.take suffixLength).1 :=
  ⟨length_take suffixLength d, fun _ => isAlphanum_of_mem_take⟩

namespace Text

/-- Two texts of which one has `drawn` in some places where the other has `other`. -/
inductive SameBut (drawn other : String) : String → String → Prop
  | same (s : String) : SameBut drawn other s s
  | drawn : SameBut drawn other drawn other
  | append {s s' t t' : String} : SameBut drawn other s s' → SameBut drawn other t t' →
      SameBut drawn other (s ++ t) (s' ++ t')

variable {drawn other s t : String}

theorem SameBut.eq (h : SameBut drawn drawn s t) : s = t := by
  induction h with
  | same s => rfl
  | drawn => rfl
  | append _ _ ihs iht => rw [ihs, iht]

/-! ## Quotations -/

/-- What stands between the quotes. -/
def escape (s : String) : String := String.ofList (s.toList.flatMap escapeChar)

theorem quote_eq (s : String) : quote s = "\"" ++ escape s ++ "\"" := by
  rw [← String.toList_inj]
  simp [quote, escape]

theorem escape_append (s t : String) : escape (s ++ t) = escape s ++ escape t := by
  simp [escape, String.ofList_append]

/-- Letters and digits are ASCII characters that are no backslash. -/
theorem toNat_of_isAlphanum {c : Char} (hc : c.isAlphanum = true) :
    0x30 ≤ c.toNat ∧ c.toNat < 0x7B ∧ c.toNat ≠ 0x5C := by
  have halpha : c.isAlpha = (c.isUpper || c.isLower) := rfl
  have hupper : c.isUpper = decide ('A'.val ≤ c.val ∧ c.val ≤ 'Z'.val) := rfl
  have hlower : c.isLower = (decide ('a'.val ≤ c.val) && decide (c.val ≤ 'z'.val)) := rfl
  have hdigit : c.isDigit = (decide ('0'.val ≤ c.val) && decide (c.val ≤ '9'.val)) := rfl
  simp only [Char.isAlphanum, halpha, hupper, hlower, hdigit, Bool.or_eq_true, Bool.and_eq_true, decide_eq_true_eq,
    UInt32.le_iff_toNat_le] at hc
  have hnat : c.toNat = c.val.toNat := rfl
  have hA : 'A'.val.toNat = 65 := rfl
  have hZ : 'Z'.val.toNat = 90 := rfl
  have ha : 'a'.val.toNat = 97 := rfl
  have hz : 'z'.val.toNat = 122 := rfl
  have h0 : '0'.val.toNat = 48 := rfl
  have h9 : '9'.val.toNat = 57 := rfl
  omega

/-- A letter or digit stands for itself. -/
theorem escapeChar_of_isAlphanum {c : Char} (hc : c.isAlphanum = true) : escapeChar c = [c] := by
  obtain ⟨hlow, hhigh, hbackslash⟩ := toNat_of_isAlphanum hc
  refine escapeChar_of_plain (isHidden_eq_false (by omega) (by omega)) ⟨?_, ?_⟩
  · rintro rfl
    exact hbackslash rfl
  · rintro rfl
    exact absurd hlow (by decide)

theorem escape_of_isDrawn (hd : Draws.IsDrawn drawn) : escape drawn = drawn := by
  have hall : ∀ cs : List Char, (∀ c ∈ cs, c.isAlphanum = true) → cs.flatMap escapeChar = cs := by
    intro cs
    induction cs with
    | nil => intro _; rfl
    | cons c cs ih =>
      intro hcs
      rw [List.flatMap_cons, escapeChar_of_isAlphanum (hcs c List.mem_cons_self),
        ih fun d hm => hcs d (List.mem_cons_of_mem c hm)]
      rfl
  rw [escape, hall drawn.toList hd.isAlphanum, String.ofList_toList]

theorem SameBut.escape (hd : Draws.IsDrawn drawn) (ho : Draws.IsDrawn other) (h : SameBut drawn other s t) :
    SameBut drawn other (escape s) (escape t) := by
  induction h with
  | same s => exact .same _
  | drawn =>
    rw [escape_of_isDrawn hd, escape_of_isDrawn ho]
    exact .drawn
  | append _ _ ihs iht =>
    rw [escape_append, escape_append]
    exact .append ihs iht

/-- Texts that are the same but for what was drawn have such quotations. -/
theorem SameBut.quote (hd : Draws.IsDrawn drawn) (ho : Draws.IsDrawn other) (h : SameBut drawn other s t) :
    SameBut drawn other (quote s) (quote t) := by
  rw [quote_eq, quote_eq]
  exact .append (.append (.same _) (h.escape hd ho)) (.same _)

end Text

/-! ## Failures -/

/-- Two causes that are the same but for the paths of extracted copies in them. -/
inductive Cause.SameBut (drawn other : String) : Cause → Cause → Prop
  | same (cause : Cause) : SameBut drawn other cause cause
  | link {subject subject' message message' : String} {noexec noexec' : Option String} :
      Text.SameBut drawn other subject subject' → Text.SameBut drawn other message message' →
      Option.Rel (Text.SameBut drawn other) noexec noexec' →
      SameBut drawn other (.link subject message noexec) (.link subject' message' noexec')
  | missingEntryPoint {subject subject' : String} (symbol : String) : Text.SameBut drawn other subject subject' →
      SameBut drawn other (.missingEntryPoint subject symbol) (.missingEntryPoint subject' symbol)

mutual

/-- Two failures whose trees are the same but for the paths of extracted copies in them. -/
inductive Failure.SameBut (drawn other : String) : Failure → Failure → Prop
  | same (failure : Failure) : SameBut drawn other failure failure
  | node {cause cause' : Cause} {earlier earlier' : List Failure} : Cause.SameBut drawn other cause cause' →
      Failure.AllSameBut drawn other earlier earlier' →
      SameBut drawn other (.node cause earlier) (.node cause' earlier')

/-- Failures that are the same, each but for the paths of extracted copies in it. -/
inductive Failure.AllSameBut (drawn other : String) : List Failure → List Failure → Prop
  | nil : AllSameBut drawn other [] []
  | cons {failure failure' : Failure} {more more' : List Failure} : Failure.SameBut drawn other failure failure' →
      AllSameBut drawn other more more' → AllSameBut drawn other (failure :: more) (failure' :: more')

end

variable {drawn other : String}

namespace Cause.SameBut

variable {cause cause' : Cause}

theorem eq (h : Cause.SameBut drawn drawn cause cause') : cause = cause' := by
  cases h with
  | same cause => rfl
  | link hs hm hn =>
    cases hn with
    | none => rw [hs.eq, hm.eq]
    | some hp => rw [hs.eq, hm.eq, hp.eq]
  | missingEntryPoint symbol hs => rw [hs.eq]

theorem carries_eq (h : Cause.SameBut drawn other cause cause') : cause'.carries = cause.carries := by
  cases h <;> rfl

end Cause.SameBut

namespace Failure

mutual

theorem SameBut.eq : ∀ {failure failure' : Failure}, SameBut drawn drawn failure failure' → failure = failure'
  | _, _, .same failure => rfl
  | _, _, .node hc he => by rw [hc.eq, he.eq]

theorem AllSameBut.eq : ∀ {failures failures' : List Failure}, AllSameBut drawn drawn failures failures' →
    failures = failures'
  | _, _, .nil => rfl
  | _, _, .cons hf hm => by rw [hf.eq, hm.eq]

end

variable {failure failure' : Failure} {more more' : List Failure}

theorem AllSameBut.refl : ∀ failures : List Failure, AllSameBut drawn other failures failures
  | [] => .nil
  | failure :: more => .cons (.same failure) (.refl more)

theorem AllSameBut.append {failures failures' : List Failure} (hf : AllSameBut drawn other failures failures')
    (hm : AllSameBut drawn other more more') : AllSameBut drawn other (failures ++ more) (failures' ++ more') :=
  match hf with
  | .nil => hm
  | .cons hhead htail => .cons hhead (htail.append hm)

/-- The cause at the root is the same, and so is each failure attached to it. -/
theorem SameBut.parts (h : SameBut drawn other failure failure') :
    Cause.SameBut drawn other failure.cause failure'.cause ∧
      AllSameBut drawn other failure.earlier failure'.earlier := by
  cases h with
  | same failure => exact ⟨.same _, .refl _⟩
  | node hc he => exact ⟨hc, he⟩

theorem SameBut.attach (h : SameBut drawn other failure failure') (hm : AllSameBut drawn other more more') :
    SameBut drawn other (failure.attach more) (failure'.attach more') := by
  obtain ⟨hc, he⟩ := h.parts
  obtain ⟨cause, earlier⟩ := failure
  obtain ⟨cause', earlier'⟩ := failure'
  have hcarries : cause'.carries = cause.carries := hc.carries_eq
  simp only [Failure.attach, hcarries]
  split
  · exact .node hc (he.append hm)
  · exact .node hc he

end Failure
end NativeLoader
