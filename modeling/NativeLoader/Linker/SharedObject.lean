import NativeLoader.Linker.ObjectFile
import NativeLoader.Text.Utf8

/-!
# Shared objects

An object file once it is in memory: bytes, numbers and texts are read from it by address, and its dynamic section says
what it needs and where its tables are. Where no byte of the file lies, memory is zero (`byte`). Of entries with one tag
the last counts (`value?`), except where all do (`values`).
-/

namespace NativeLoader

/-- The tags of a dynamic section that the linker minds. -/
inductive DynamicTag where
  | needed
  | delayedSize
  | hashTable
  | strings
  | symbols
  | relocations
  | relocationsSize
  | ownName
  | ownerPath
  | delayedKind
  | delayedRelocations
  | bindNow
  | searchPath
  | flags
  | shortHashTable
  | relocationCount
  | furtherFlags
  | symbolVersions
  | versionDefinitions
  | versionNeeds
  | auxiliary
  | filter
  deriving DecidableEq, Repr

/-- The number of a tag. -/
def DynamicTag.code : DynamicTag → Nat
  | needed => 1
  | delayedSize => 2
  | hashTable => 4
  | strings => 5
  | symbols => 6
  | relocations => 7
  | relocationsSize => 8
  | ownName => 14
  | ownerPath => 15
  | delayedKind => 20
  | delayedRelocations => 23
  | bindNow => 24
  | searchPath => 29
  | flags => 30
  | shortHashTable => 0x6FFFFEF5
  | relocationCount => 0x6FFFFFF9
  | furtherFlags => 0x6FFFFFFB
  | symbolVersions => 0x6FFFFFF0
  | versionDefinitions => 0x6FFFFFFC
  | versionNeeds => 0x6FFFFFFE
  | auxiliary => 0x7FFFFFFD
  | filter => 0x7FFFFFFF

/-- An object file in memory. -/
structure SharedObject where
  /-- The bytes of the file. -/
  file : Array UInt8
  /-- Its segments, the last first. -/
  segments : List Segment
  /-- The entries of its dynamic section: the number of a tag and a value. -/
  entries : List (Nat × UInt64) := []
  deriving Repr

namespace SharedObject

/-! ## Memory -/

/-- A segment holds an address, with the rest of its pages. -/
def holds (a : UInt64) (s : Segment) : Bool :=
  s.loads && decide (s.start ≤ a) && decide (a < s.fileStop ∨ a < Segment.pageStart (s.stop + (Segment.pageSize - 1)))

/-- The byte at an address. -/
def byte (o : SharedObject) (a : UInt64) : UInt8 :=
  match o.segments.find? (holds a) with
  | none => 0
  | some s =>
    if s.dataStop ≤ a ∧ s.dataStop < s.stop then 0
    else (o.file[(s.offset + (a - s.address)).toNat]?).getD 0

/-- A number of some bytes at an address, the lowest first. -/
def number (o : SharedObject) (a : UInt64) : Nat → Nat
  | 0 => 0
  | size + 1 => (o.byte a).toNat + 256 * o.number (a + 1) size

/-- A word of eight bytes at an address. -/
def word (o : SharedObject) (a : UInt64) : UInt64 := (o.number a 8).toUInt64

/-- The bytes from an address up to the next zero, at most so many. -/
def bytesFrom (o : SharedObject) : Nat → UInt64 → List UInt8
  | 0, _ => []
  | n + 1, a => if o.byte a = 0 then [] else o.byte a :: o.bytesFrom n (a + 1)

/-- The text at an address, which a zero ends. -/
def text (o : SharedObject) (a : UInt64) : String := Text.decodeLossy (o.bytesFrom o.file.size a)

/-! ## The dynamic section -/

/-- Where the dynamic section starts. -/
def dynamicStart? (o : SharedObject) : Option UInt64 :=
  (o.segments.find? fun s => s.isDynamic && s.fileSize != 0).map (·.address)

/-- The entries from an address on, at most so many; a tag of zero ends them. -/
def entriesFrom (o : SharedObject) : Nat → UInt64 → List (Nat × UInt64)
  | 0, _ => []
  | n + 1, a =>
    let tag := o.number a 8
    if tag = 0 then [] else (tag, o.word (a + 8)) :: o.entriesFrom n (a + 16)

/-- The shared object that a file holds, in memory. -/
def ofBytes (bytes : List UInt8) : SharedObject :=
  let mapped : SharedObject := { file := bytes.toArray, segments := (ObjectFile.segments bytes).reverse }
  match mapped.dynamicStart? with
  | some a => { mapped with entries := mapped.entriesFrom mapped.file.size a }
  | none => mapped

/-- The values under a tag. -/
def values (o : SharedObject) (tag : DynamicTag) : List UInt64 :=
  o.entries.filterMap fun (code, value) => if code = tag.code then some value else none

/-- The value under a tag. -/
def value? (o : SharedObject) (tag : DynamicTag) : Option UInt64 := (o.values tag).getLast?

/-- The text at a place in the table of texts. -/
def string (o : SharedObject) (place : UInt64) : String := o.text ((o.value? .strings).getD 0 + place)

/-- The text under a tag. -/
def string? (o : SharedObject) (tag : DynamicTag) : Option String := (o.value? tag).map o.string

/-- Some flag is set under a tag. -/
def hasFlag (o : SharedObject) (tag : DynamicTag) (flag : UInt64) : Bool :=
  (o.value? tag).any fun value => value &&& flag != 0

/-- The object is a program that may lie anywhere. -/
def isMovableProgram (o : SharedObject) : Bool := o.hasFlag .furtherFlags 0x8000000

/-- The object must not be opened once the process runs. -/
def forbidsOpening (o : SharedObject) : Bool := o.hasFlag .furtherFlags 0x40

/-- Everything is to be bound when the object is opened. -/
def bindsNow (o : SharedObject) : Bool :=
  (o.value? .bindNow).isSome || o.hasFlag .flags 8 || o.hasFlag .furtherFlags 1

/-- The directories in which the object's needs are looked for; they take the place of those its owner gives. -/
def searchPath? (o : SharedObject) : Option String := o.string? .searchPath

/-- The directories that the object gives to its needs, and to theirs. -/
def ownerPath? (o : SharedObject) : Option String :=
  if (o.value? .searchPath).isSome then none else o.string? .ownerPath

/-- What the object needs, in order, and whether it can do without. -/
def needs (o : SharedObject) : List (String × Bool) :=
  o.entries.filterMap fun (code, value) =>
    if code = DynamicTag.needed.code ∨ code = DynamicTag.filter.code then some (o.string value, false)
    else if code = DynamicTag.auxiliary.code then some (o.string value, true)
    else none

end SharedObject
end NativeLoader
