/-!
# Random characters

The names of temporary files are told apart by random letters and digits. `Draws` is the sequence of all that will
ever be drawn and how many have been; drawing `n` gives `n` of them (`length_take`, `isAlphanum_of_mem_take`) and moves
on (`used_take`).
-/

namespace NativeLoader

/-- An endless sequence of random letters and digits, and how many of them have been used. -/
structure Draws where
  symbol : Nat → Char
  isAlphanum : ∀ n, (symbol n).isAlphanum = true
  used : Nat := 0

namespace Draws

/-- The next `n` characters, and the sequence after them. -/
def take (n : Nat) (d : Draws) : String × Draws :=
  (String.ofList ((List.range n).map fun i => d.symbol (d.used + i)), { d with used := d.used + n })

/-- The letters and digits that are drawn. -/
def alphabet : String := "0123456789ABCDEFGHIJKLMNOPQRSTUVWXYZabcdefghijklmnopqrstuvwxyz"

/-- The letter or digit that stands for a number. -/
def letter (n : Nat) : Char := (alphabet.toList[n % alphabet.toList.length]?).getD '0'

/-- Only letters and digits stand for numbers. -/
theorem isAlphanum_letter (n : Nat) : (letter n).isAlphanum = true := by
  unfold letter
  cases hc : alphabet.toList[n % alphabet.toList.length]? with
  | none => decide
  | some c =>
    have hall : alphabet.toList.all Char.isAlphanum = true := by rfl
    exact List.all_eq_true.mp hall c (List.mem_of_getElem? hc)

/-- The letters and digits that stand for a sequence of numbers. -/
def ofNumbers (numbers : Nat → Nat) : Draws := ⟨fun n => letter (numbers n), fun _ => isAlphanum_letter _, 0⟩

/-- How many random characters tell temporary names apart. -/
def suffixLength : Nat := 6

/-- As many characters are drawn as asked for. -/
theorem length_take (n : Nat) (d : Draws) : (d.take n).1.toList.length = n := by
  simp [take]

/-- Only letters and digits are drawn. -/
theorem isAlphanum_of_mem_take {n : Nat} {d : Draws} {c : Char} (h : c ∈ (d.take n).1.toList) :
    c.isAlphanum = true := by
  simp only [take, String.toList_ofList, List.mem_map] at h
  obtain ⟨i, _, rfl⟩ := h
  exact d.isAlphanum _

/-- What was drawn is used up. -/
@[simp] theorem used_take (n : Nat) (d : Draws) : (d.take n).2.used = d.used + n := rfl

end Draws
end NativeLoader
