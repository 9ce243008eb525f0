import NativeLoader.Text.Hidden

/-!
# Quoted texts

Names and places inside messages are quoted: `quote` writes a text between double quotes so that what it holds can be
read off, `quoteAll` a list of texts. Whatever the text, nothing between the outer quotes ends the quotation: a double
quote in it follows a backslash (`escapeChar`), and a character that needs no escape stands for itself
(`escapeChar_of_plain`), as an apostrophe does.
-/

namespace NativeLoader.Text

/-- The hexadecimal code point of a character between braces, after a backslash and a `u`. -/
def codeEscape (c : Char) : List Char :=
  "\\u\x7b".toList ++ Nat.toDigits 16 c.toNat ++ "\x7d".toList

/-- The characters that stand for one character of a quoted text. -/
def escapeChar (c : Char) : List Char :=
  if c = '\x00' then ['\\', '0']
  else if c = '\t' then ['\\', 't']
  else if c = '\r' then ['\\', 'r']
  else if c = '\n' then ['\\', 'n']
  else if c = '\\' then ['\\', '\\']
  else if c = '"' then ['\\', '"']
  else if isHidden c then codeEscape c
  else [c]

/-- A text inside a message, between double quotes. -/
def quote (s : String) : String := String.ofList ('"' :: s.toList.flatMap escapeChar ++ ['"'])

/-- A list of quoted texts between brackets. -/
def quoteAll (ss : List String) : String := "[" ++ String.intercalate ", " (ss.map quote) ++ "]"

/-- A character with a shape of its own that is no double quote and no backslash stands for itself. -/
theorem escapeChar_of_plain {c : Char} (hh : isHidden c = false) (hs : c ≠ '\\' ∧ c ≠ '"') : escapeChar c = [c] := by
  have hc : ∀ d : Char, d.toNat < 0x20 → c ≠ d := by
    rintro d hd rfl
    simp [isHidden_of_lt_space hd] at hh
  simp [escapeChar, hc '\x00' (by decide), hc '\t' (by decide), hc '\r' (by decide), hc '\n' (by decide), hs, hh]

end NativeLoader.Text
