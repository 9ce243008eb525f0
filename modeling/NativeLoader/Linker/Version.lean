import NativeLoader.Linker.Symbol

/-!
# Versions of symbols

A shared object records which versions it needs of which files (`versionNeeds`), and which it defines
(`versionDefinitions`). Each version has an index; another table gives each symbol the index of its version
(`versionOf?`). An object without that table has no versions.
-/

namespace NativeLoader

/-- A version that an object needs. -/
structure NeededVersion where
  name : String
  /-- It need not be there. -/
  isWeak : Bool
  index : Nat
  deriving DecidableEq, Repr

/-- What an object needs of one file. -/
structure VersionNeed where
  /-- The way in which this is recorded. -/
  record : Nat
  file : String
  versions : List NeededVersion
  deriving DecidableEq, Repr

/-- A version that an object defines. -/
structure VersionDefinition where
  /-- The way in which this is recorded. -/
  record : Nat
  /-- It stands for the object itself. -/
  isBase : Bool
  index : Nat
  name : String
  deriving DecidableEq, Repr

namespace SharedObject

/-- The records of a chain: each is read at its address, and says how far the next one is; zero ends the chain. -/
def records {α : Type} (o : SharedObject) (read : UInt64 → α) (link : UInt64) : Nat → UInt64 → List α
  | 0, _ => []
  | n + 1, a =>
    let next := o.number (a + link) 4
    read a :: if next = 0 then [] else o.records read link n (a + next.toUInt64)

/-- The index of a version, without the bit that hides a symbol. -/
def versionIndex (n : Nat) : Nat := n % 0x8000

/-- The needed version at an address. -/
def neededVersion (o : SharedObject) (a : UInt64) : NeededVersion where
  name := o.string (o.number (a + 8) 4).toUInt64
  isWeak := (o.number (a + 4) 2).testBit 1
  index := versionIndex (o.number (a + 6) 2)

/-- The need at an address. -/
def versionNeed (o : SharedObject) (a : UInt64) : VersionNeed where
  record := o.number a 2
  file := o.string (o.number (a + 4) 4).toUInt64
  versions := o.records o.neededVersion 12 o.file.size (a + (o.number (a + 8) 4).toUInt64)

/-- The versions that the object needs, file by file. -/
def versionNeeds (o : SharedObject) : List VersionNeed :=
  match o.value? .versionNeeds with
  | some a => o.records o.versionNeed 12 o.file.size a
  | none => []

/-- The definition at an address. -/
def versionDefinition (o : SharedObject) (a : UInt64) : VersionDefinition where
  record := o.number a 2
  isBase := (o.number (a + 2) 2).testBit 0
  index := versionIndex (o.number (a + 4) 2)
  name := o.string (o.number (a + (o.number (a + 12) 4).toUInt64) 4).toUInt64

/-- The versions that the object defines, if it records any. -/
def versionDefinitions? (o : SharedObject) : Option (List VersionDefinition) :=
  (o.value? .versionDefinitions).map (o.records o.versionDefinition 16 o.file.size)

/-- The version that has an index. -/
def versionAt? (o : SharedObject) (index : Nat) : Option String :=
  let needed := (o.versionNeeds.flatMap (·.versions)).map fun v => (v.index, v.name)
  let defined := ((o.versionDefinitions?.getD []).filter fun d => !d.isBase).map fun d => (d.index, d.name)
  (needed ++ defined).reverse.lookup index

/-- What the table of versions has for the symbol at a place. -/
def versionMark? (o : SharedObject) (i : Nat) : Option Nat :=
  (o.value? .symbolVersions).map fun a => o.number (a + 2 * i.toUInt64) 2

/-- The version of the symbol at a place, if it has one. -/
def versionOf? (o : SharedObject) (i : Nat) : Option String :=
  (o.versionMark? i).bind fun mark => o.versionAt? (versionIndex mark)

/-- The symbol at a place will do for some version, or for none. -/
def fitsVersion (o : SharedObject) (i : Nat) (version? : Option String) : Bool :=
  match o.versionMark? i, version? with
  | none, _ => true
  | some mark, none => versionIndex mark < 3 || mark < 0x8000
  | some mark, some version =>
    match o.versionAt? (versionIndex mark) with
    | some own => own = version
    | none => mark < 0x8000

/-- The object defines a name in some version, for references of some kind. -/
def defines (o : SharedObject) (name : String) (version? : Option String) (inSection : Bool) : Bool :=
  (o.places name).any fun i =>
    let symbol := o.symbol i
    symbol.name = name && symbol.isDefinition inSection && o.fitsVersion i version?

end SharedObject
end NativeLoader
