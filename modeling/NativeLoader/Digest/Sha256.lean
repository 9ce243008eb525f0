/-!
# SHA-256

The digest that tells copies of a library apart. Bytes are taken in as they come: a `Hasher` keeps the words of the
whole blocks seen and the bytes after them, so that taking in two parts is taking in their concatenation
(`update_update`), and a digest does not depend on the parts in which its bytes came.
-/

namespace NativeLoader.Sha256

/-! ## Blocks -/

/-- Eight words: the state between blocks, and the digest after the last. -/
structure Digest where
  a : UInt32
  b : UInt32
  c : UInt32
  d : UInt32
  e : UInt32
  f : UInt32
  g : UInt32
  h : UInt32
  deriving DecidableEq, Repr

/-- The state before the first block: from the square roots of the first eight primes. -/
def initial : Digest := ⟨0x6a09e667, 0xbb67ae85, 0x3c6ef372, 0xa54ff53a,
  0x510e527f, 0x9b05688c, 0x1f83d9ab, 0x5be0cd19⟩

/-- One constant for each round: from the cube roots of the first 64 primes. -/
def roundConstants : List UInt32 :=
  [0x428a2f98, 0x71374491, 0xb5c0fbcf, 0xe9b5dba5, 0x3956c25b, 0x59f111f1, 0x923f82a4, 0xab1c5ed5,
    0xd807aa98, 0x12835b01, 0x243185be, 0x550c7dc3, 0x72be5d74, 0x80deb1fe, 0x9bdc06a7, 0xc19bf174,
    0xe49b69c1, 0xefbe4786, 0x0fc19dc6, 0x240ca1cc, 0x2de92c6f, 0x4a7484aa, 0x5cb0a9dc, 0x76f988da,
    0x983e5152, 0xa831c66d, 0xb00327c8, 0xbf597fc7, 0xc6e00bf3, 0xd5a79147, 0x06ca6351, 0x14292967,
    0x27b70a85, 0x2e1b2138, 0x4d2c6dfc, 0x53380d13, 0x650a7354, 0x766a0abb, 0x81c2c92e, 0x92722c85,
    0xa2bfe8a1, 0xa81a664b, 0xc24b8b70, 0xc76c51a3, 0xd192e819, 0xd6990624, 0xf40e3585, 0x106aa070,
    0x19a4c116, 0x1e376c08, 0x2748774c, 0x34b0bcb5, 0x391c0cb3, 0x4ed8aa4a, 0x5b9cca4f, 0x682e6ff3,
    0x748f82ee, 0x78a5636f, 0x84c87814, 0x8cc70208, 0x90befffa, 0xa4506ceb, 0xbef9a3f7, 0xc67178f2]

/-- A word turned right by some bits, fewer than 32 and at least one. -/
def rotate (w n : UInt32) : UInt32 := (w >>> n) ||| (w <<< (32 - n))

/-- The word that enters a window of sixteen when its first one leaves. -/
def scheduled (window : List UInt32) : UInt32 :=
  let early := window.getD 1 0
  let late := window.getD 14 0
  (rotate late 17 ^^^ rotate late 19 ^^^ (late >>> 10)) + window.getD 9 0 +
    (rotate early 7 ^^^ rotate early 18 ^^^ (early >>> 3)) + window.getD 0 0

/-- One round, with its constant and its word. -/
def round (s : Digest) (k w : UInt32) : Digest :=
  let one := s.h + (rotate s.e 6 ^^^ rotate s.e 11 ^^^ rotate s.e 25) + ((s.e &&& s.f) ^^^ (~~~s.e &&& s.g)) + k + w
  let two := (rotate s.a 2 ^^^ rotate s.a 13 ^^^ rotate s.a 22) + ((s.a &&& s.b) ^^^ (s.a &&& s.c) ^^^ (s.b &&& s.c))
  ⟨one + two, s.a, s.b, s.c, s.d + one, s.e, s.f, s.g⟩

/-- The rounds with the given constants, the words of a block sliding through the window. -/
def rounds : List UInt32 → List UInt32 → Digest → Digest
  | [], _, s => s
  | k :: ks, window, s =>
    rounds ks (window.drop 1 ++ [scheduled window]) (round s k (window.getD 0 0))

/-- The words of some bytes, four bytes each, the highest first. -/
def wordsOf : List UInt8 → List UInt32
  | p :: q :: r :: s :: bs =>
    ((p.toUInt32 <<< 24) ||| (q.toUInt32 <<< 16) ||| (r.toUInt32 <<< 8) ||| s.toUInt32) :: wordsOf bs
  | _ => []

/-- The state after a block of 64 bytes. -/
def compress (s : Digest) (block : List UInt8) : Digest :=
  let t := rounds roundConstants (wordsOf block) s
  ⟨s.a + t.a, s.b + t.b, s.c + t.c, s.d + t.d, s.e + t.e, s.f + t.f, s.g + t.g, s.h + t.h⟩

/-- The state after so many blocks, and the bytes after them. -/
def absorb : Nat → Digest → List UInt8 → Digest × List UInt8
  | 0, s, bs => (s, bs)
  | n + 1, s, bs => absorb n (compress s (bs.take 64)) (bs.drop 64)

/-! ## Hashing in parts -/

/-- What is known of the bytes taken in so far: their whole blocks, the bytes after those, and how many there are. -/
structure Hasher where
  state : Digest := initial
  rest : List UInt8 := []
  length : Nat := 0
  deriving DecidableEq, Repr

/-- Taking in more bytes. -/
def Hasher.update (h : Hasher) (bs : List UInt8) : Hasher :=
  let waiting := h.rest ++ bs
  let absorbed := absorb (waiting.length / 64) h.state waiting
  ⟨absorbed.1, absorbed.2, h.length + bs.length⟩

/-- The lowest eight bytes of a number, the highest first. -/
def bigEndian64 (n : Nat) : List UInt8 :=
  [56, 48, 40, 32, 24, 16, 8, 0].map fun shift => (n >>> shift).toUInt8

/-- What follows so many bytes: a one bit, zeros, and the length in bits, up to a whole block. -/
def padding (length : Nat) : List UInt8 :=
  0x80 :: List.replicate ((119 - length % 64) % 64) 0 ++ bigEndian64 (8 * length)

/-- The digest of the bytes taken in. -/
def Hasher.finish (h : Hasher) : Digest := (h.update (padding h.length)).state

/-- The digest of some bytes. -/
def hash (bs : List UInt8) : Digest := (({} : Hasher).update bs).finish

/-- The two hexadecimal digits of a byte. -/
def hexByte (b : UInt8) : String :=
  String.ofList [Nat.digitChar (b.toNat / 16), Nat.digitChar (b.toNat % 16)]

/-- Bytes in hexadecimal. -/
def hex (bs : List UInt8) : String := String.join (bs.map hexByte)

/-- The bytes of a word, the highest first. -/
def wordBytes (w : UInt32) : List UInt8 :=
  [(w >>> 24).toUInt8, (w >>> 16).toUInt8, (w >>> 8).toUInt8, w.toUInt8]

/-- The bytes of a digest. -/
def Digest.bytes (s : Digest) : List UInt8 :=
  [s.a, s.b, s.c, s.d, s.e, s.f, s.g, s.h].flatMap wordBytes

/-! ## The split into parts does not matter -/

/-- Blocks are taken in one after the other. -/
theorem absorb_add : ∀ (m n : Nat) (s : Digest) (bs : List UInt8),
    absorb (m + n) s bs = absorb n (absorb m s bs).1 (absorb m s bs).2
  | 0, n, s, bs => by simp [absorb]
  | m + 1, n, s, bs => by
    rw [Nat.add_right_comm, absorb, absorb_add m n, absorb]

/-- Bytes after the blocks taken in are left over. -/
theorem absorb_append : ∀ (n : Nat) (s : Digest) (bs more : List UInt8), 64 * n ≤ bs.length →
    absorb n s (bs ++ more) = ((absorb n s bs).1, (absorb n s bs).2 ++ more)
  | 0, _, _, _, _ => rfl
  | n + 1, s, bs, more, h => by
    have ht : (bs ++ more).take 64 = bs.take 64 := List.take_append_of_le_length (by omega)
    have hd : (bs ++ more).drop 64 = bs.drop 64 ++ more := List.drop_append_of_le_length (by omega)
    rw [absorb, absorb, ht, hd]
    exact absorb_append n _ _ _ (by rw [List.length_drop]; omega)

/-- The bytes left over are those after the blocks. -/
theorem length_absorb : ∀ (n : Nat) (s : Digest) (bs : List UInt8),
    (absorb n s bs).2.length = bs.length - 64 * n
  | 0, _, _ => by simp [absorb]
  | n + 1, s, bs => by
    rw [absorb, length_absorb n, List.length_drop]
    omega

/-- Taking in two parts is taking in their concatenation. -/
theorem Hasher.update_update (h : Hasher) (bs more : List UInt8) :
    (h.update bs).update more = h.update (bs ++ more) := by
  have hle : 64 * ((h.rest ++ bs).length / 64) ≤ (h.rest ++ bs).length := Nat.mul_div_le _ _
  have hl := length_absorb ((h.rest ++ bs).length / 64) h.state (h.rest ++ bs)
  have hn : (h.rest ++ bs ++ more).length / 64 =
      (h.rest ++ bs).length / 64 +
        ((absorb ((h.rest ++ bs).length / 64) h.state (h.rest ++ bs)).2 ++ more).length / 64 := by
    simp only [List.length_append] at hl hle ⊢
    rw [hl]
    omega
  simp only [update, ← List.append_assoc]
  rw [hn, absorb_add, absorb_append _ _ _ _ hle]
  simp [Nat.add_assoc]

/-- Taking in nothing changes nothing, once no whole block waits. -/
theorem Hasher.update_nil {h : Hasher} (hr : h.rest.length < 64) : h.update [] = h := by
  have hz : h.rest.length / 64 = 0 := Nat.div_eq_of_lt hr
  simp [update, hz, absorb]

/-- No whole block waits once some bytes were taken in. -/
theorem Hasher.length_rest_update_lt (h : Hasher) (bs : List UInt8) : (h.update bs).rest.length < 64 := by
  have hl := length_absorb ((h.rest ++ bs).length / 64) h.state (h.rest ++ bs)
  have hm := Nat.div_add_mod (h.rest ++ bs).length 64
  have hb := Nat.mod_lt (h.rest ++ bs).length (show 0 < 64 by decide)
  simp only [update]
  omega

end NativeLoader.Sha256
