/-!
# UTF-8

Texts are read from bytes that may not be UTF-8. `decode` gives the text of well-formed bytes and of no others
(`decode_eq_some_iff`); `fault?` finds the first byte at which they stop being well formed and `Fault.message` says
so; `decodeLossy` puts the replacement character for each ill-formed sequence.
-/

namespace NativeLoader.Text

/-- The bytes of a text in UTF-8. -/
def bytes (s : String) : List UInt8 := s.toUTF8.data.toList

/-- The text whose UTF-8 form the bytes are, if there is one. -/
def decode (bs : List UInt8) : Option String := String.fromUTF8? ⟨bs.toArray⟩

/-- What stands at the start of some bytes. -/
inductive Sequence where
  /-- A character of so many bytes. -/
  | character (width : Nat)
  /-- So many bytes that begin no character. -/
  | invalid (width : Nat)
  /-- The bytes end inside a character. -/
  | truncated
  deriving DecidableEq, Repr

/-- A byte lies in an inclusive range. -/
def within (low high b : UInt8) : Bool := decide (low ≤ b) && decide (b ≤ high)

/-- A byte that continues a character. -/
def isTail (b : UInt8) : Bool := within 0x80 0xBF b

/-- The bytes a character still needs after its first two, `n` of them, when `width` bytes have been seen. -/
def Sequence.tails (width : Nat) : Nat → List UInt8 → Sequence
  | 0, _ => .character width
  | _ + 1, [] => .truncated
  | n + 1, b :: bs => if isTail b then tails (width + 1) n bs else .invalid width

/-- A second byte in its own range, then `n` more. -/
def Sequence.second (low high : UInt8) (n : Nat) : List UInt8 → Sequence
  | [] => .truncated
  | b :: bs => if within low high b then tails 2 n bs else .invalid 1

/-- The sequence a first byte starts: its length and the range of its second byte depend on it. -/
def Sequence.ofBytes (b : UInt8) (bs : List UInt8) : Sequence :=
  if b < 0x80 then .character 1
  else if within 0xC2 0xDF b then second 0x80 0xBF 0 bs
  else if b = 0xE0 then second 0xA0 0xBF 1 bs
  else if b = 0xED then second 0x80 0x9F 1 bs
  else if within 0xE1 0xEF b then second 0x80 0xBF 1 bs
  else if b = 0xF0 then second 0x90 0xBF 2 bs
  else if within 0xF1 0xF3 b then second 0x80 0xBF 2 bs
  else if b = 0xF4 then second 0x80 0x8F 2 bs
  else .invalid 1

/-- Where bytes stop being well formed: at which byte, and how many are wrong unless they end too early. -/
structure Fault where
  position : Nat
  width : Option Nat
  deriving DecidableEq, Repr

/-- The first fault at or after byte `i`, with `fuel` at least the number of bytes left. -/
def faultFrom : Nat → Nat → List UInt8 → Option Fault
  | 0, _, _ => none
  | _ + 1, _, [] => none
  | fuel + 1, i, b :: bs =>
    match Sequence.ofBytes b bs with
    | .character w => faultFrom fuel (i + w) (bs.drop (w - 1))
    | .invalid w => some ⟨i, some w⟩
    | .truncated => some ⟨i, none⟩

/-- The first fault of some bytes. -/
def fault? (bs : List UInt8) : Option Fault := faultFrom bs.length 0 bs

/-- The wording of a fault. -/
def Fault.message (f : Fault) : String :=
  match f.width with
  | some w => "invalid utf-8 sequence of " ++ toString w ++ " bytes from index " ++ toString f.position
  | none => "incomplete utf-8 byte sequence from index " ++ toString f.position

/-- The characters of bytes with each fault replaced, with `fuel` at least their number. -/
def decodeLossyFrom : Nat → List UInt8 → String
  | 0, _ => ""
  | _ + 1, [] => ""
  | fuel + 1, b :: bs =>
    match Sequence.ofBytes b bs with
    | .character w =>
      (decode ((b :: bs).take w)).getD "\uFFFD" ++ decodeLossyFrom fuel (bs.drop (w - 1))
    | .invalid w => "\uFFFD" ++ decodeLossyFrom fuel (bs.drop (w - 1))
    | .truncated => "\uFFFD"

/-- The text of bytes, with the replacement character for what is not UTF-8. -/
def decodeLossy (bs : List UInt8) : String := decodeLossyFrom bs.length bs

/-- Bytes decode to the text whose bytes they are, and to no other. -/
theorem decode_eq_some_iff {bs : List UInt8} {s : String} : decode bs = some s ↔ bytes s = bs := by
  unfold decode bytes String.fromUTF8?
  constructor
  · intro h
    split at h
    · simp only [Option.some.injEq] at h
      subst h
      simp [String.fromUTF8, String.toUTF8]
    · cases h
  · intro h
    subst h
    have hb : (⟨s.toUTF8.data.toList.toArray⟩ : ByteArray) = s.toUTF8 := by simp
    rw [hb]
    split
    · simp [String.fromUTF8, String.toUTF8]
    · next hv => exact absurd (by simpa [String.toUTF8] using s.isValidUTF8) hv

end NativeLoader.Text
