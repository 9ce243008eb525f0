import NativeLoader.Linker.SharedObject

/-!
# Symbols

The symbols of a shared object stand in a table, and a hash table leads from a name to its places there: the short one
if there is one, else the plain one, and without either nothing is found. A symbol that is hidden or local is its
object's own, and no definition for others (`isDefinition`).
-/

namespace NativeLoader

/-- A symbol of a shared object. -/
structure LinkSymbol where
  name : String
  /-- Who sees it, and how strongly: local, global, weak, or unique. -/
  binding : Nat
  kind : Nat
  visibility : Nat
  /-- The section that defines it; none for zero. -/
  section_ : Nat
  value : UInt64
  deriving DecidableEq, Repr

namespace LinkSymbol

/-- A reference that may stay without a definition. -/
def isWeak (s : LinkSymbol) : Bool := s.binding == 2

/-- The symbol is for its own object only. -/
def isOwn (s : LinkSymbol) : Bool := s.binding == 0 || s.visibility == 1 || s.visibility == 2

/-- The symbol has a place: an address, one that is fixed, or one in each thread's storage. -/
def hasPlace (s : LinkSymbol) : Bool := s.value != 0 || s.section_ == 0xFFF1 || s.kind == 6

/-- The kinds of symbols that stand for code or data. -/
def contentKinds : List Nat := [0, 1, 2, 5, 6, 10]

/-- The bindings of symbols that others see. -/
def sharedBindings : List Nat := [1, 2, 10]

/-- The symbol defines something for references, or for those that only a section's symbol will do for. -/
def isDefinition (s : LinkSymbol) (inSection : Bool) : Bool :=
  s.hasPlace && !(inSection && s.section_ == 0) && contentKinds.contains s.kind && sharedBindings.contains s.binding &&
    !s.isOwn

/-- The hash of a name in the plain table. -/
def hash (name : List UInt8) : UInt32 :=
  name.foldl (fun h c =>
    let h := (h <<< 4) + c.toUInt32
    let g := h &&& 0xF0000000
    (h ^^^ (g >>> 24)) &&& ~~~g) 0

/-- The hash of a name in the short table. -/
def shortHash (name : List UInt8) : UInt32 := name.foldl (fun h c => h * 33 + c.toUInt32) 5381

end LinkSymbol

namespace SharedObject

/-- The symbol at a place in the table. -/
def symbol (o : SharedObject) (i : Nat) : LinkSymbol :=
  let a := (o.value? .symbols).getD 0 + 24 * i.toUInt64
  { name := o.string (o.number a 4).toUInt64
    binding := o.number (a + 4) 1 / 16
    kind := o.number (a + 4) 1 % 16
    visibility := o.number (a + 5) 1 % 4
    section_ := o.number (a + 6) 2
    value := o.word (a + 8) }

/-! ## The plain table -/

/-- The places on a chain, at most so many, where the numbers of the chains start at an address; zero ends it. -/
def chain (o : SharedObject) (chains : UInt64) : Nat → Nat → List Nat
  | 0, _ => []
  | n + 1, i => if i = 0 then [] else i :: o.chain chains n (o.number (chains + 4 * i.toUInt64) 4)

/-- The places that the plain table at an address has for a name. -/
def plainPlaces (o : SharedObject) (table : UInt64) (name : List UInt8) : List Nat :=
  let buckets := o.number table 4
  if buckets = 0 then []
  else
    let bucket := (LinkSymbol.hash name).toNat % buckets
    o.chain (table + 8 + 4 * buckets.toUInt64) o.file.size (o.number (table + 8 + 4 * bucket.toUInt64) 4)

/-! ## The short table -/

/-- The parts of a short table: how many buckets it has, the first place it knows, its filter of so many words, and how
far the filter shifts a hash. -/
structure ShortTable where
  buckets : Nat
  first : Nat
  words : Nat
  shift : Nat
  start : UInt64
  deriving Repr

/-- The short table at an address. -/
def shortTable (o : SharedObject) (a : UInt64) : ShortTable where
  buckets := o.number a 4
  first := o.number (a + 4) 4
  words := o.number (a + 8) 4
  shift := o.number (a + 12) 4
  start := a + 16

namespace ShortTable

/-- Where the numbers of the buckets start. -/
def bucketStart (t : ShortTable) : UInt64 := t.start + 8 * t.words.toUInt64

/-- Where the hash of the symbol at a place stands. -/
def hashAt (t : ShortTable) (i : Nat) : UInt64 :=
  t.bucketStart + 4 * t.buckets.toUInt64 + 4 * (i.toUInt64 - t.first.toUInt64)

/-- The filter lets a hash pass. -/
def passes (t : ShortTable) (o : SharedObject) (hash : Nat) : Bool :=
  let bits := o.number (t.start + 8 * (hash / 64 % t.words).toUInt64) 8
  bits.testBit (hash % 64) && bits.testBit ((hash >>> (t.shift % 32)) % 64)

/-- The places of a bucket from one on, at most so many, each with its hash; an odd hash ends the bucket. -/
def row (t : ShortTable) (o : SharedObject) : Nat → Nat → List (Nat × Nat)
  | 0, _ => []
  | n + 1, i =>
    let hash := o.number (t.hashAt i) 4
    (i, hash) :: if hash % 2 = 1 then [] else t.row o n (i + 1)

/-- The places of a bucket. -/
def bucket (t : ShortTable) (o : SharedObject) (b : Nat) : List (Nat × Nat) :=
  let i := o.number (t.bucketStart + 4 * b.toUInt64) 4
  if i = 0 then [] else t.row o o.file.size i

end ShortTable

/-- The places that the short table at an address has for a name. -/
def shortPlaces (o : SharedObject) (table : UInt64) (name : List UInt8) : List Nat :=
  let t := o.shortTable table
  let hash := (LinkSymbol.shortHash name).toNat
  if t.buckets = 0 ∨ !t.passes o hash then []
  else ((t.bucket o (hash % t.buckets)).filter fun e => e.2 / 2 = hash / 2).map (·.1)

/-! ## Both -/

/-- The places in the symbol table that a name may have. -/
def places (o : SharedObject) (name : String) : List Nat :=
  match o.value? .shortHashTable, o.value? .hashTable with
  | some table, _ => o.shortPlaces table (Text.bytes name)
  | none, some table => o.plainPlaces table (Text.bytes name)
  | none, none => []

/-- All places that a name can lead to. -/
def allPlaces (o : SharedObject) : List Nat :=
  match o.value? .shortHashTable, o.value? .hashTable with
  | some table, _ =>
    let t := o.shortTable table
    (List.range (min t.buckets o.file.size)).flatMap fun b => (t.bucket o b).map (·.1)
  | none, some table => List.range (min (o.number (table + 4) 4) o.file.size)
  | none, none => []

/-- The names that the object defines for others. -/
def definedNames (o : SharedObject) : List String :=
  ((o.allPlaces.map o.symbol).filter (·.isDefinition false)).map (·.name)

end SharedObject
end NativeLoader
