import NativeLoader.Linker.Linkage
import NativeLoader.Linker.Version

/-!
# Binding references

Once all objects are there, the linker checks that the versions they need are there too (`versionComplaint?`), and then
binds the references of each, those of a library last (`bindingComplaint?`). A reference is bound by the first object
that defines its symbol (`owner?`); a weak one may stay unbound, and some kinds refer to no symbol at all
(`Reference.unresolvedKinds`).
-/

namespace NativeLoader

/-- What binds a reference. -/
inductive Owner where
  /-- One of the objects. -/
  | object (i : Nat)
  /-- The process. -/
  | process
  /-- Nothing; the reference stays unbound. -/
  | nothing
  deriving DecidableEq, Repr

/-- A reference in an object: its kind, and the place of its symbol. -/
structure Reference where
  kind : Nat
  symbol : Nat
  deriving DecidableEq, Repr

namespace Reference

/-- The kinds that refer to no symbol. -/
def unresolvedKinds : List Nat := [0, 8, 38]

/-- The kinds that the linker knows. -/
def knownKinds : List Nat := [0, 1, 2, 5, 6, 7, 8, 10, 16, 17, 18, 32, 33, 36, 37, 38]

/-- The kinds for which only a symbol in a section will do. -/
def inSectionKinds : List Nat := [7, 16, 17, 18, 36]

/-- The kind whose place in each thread's storage is fixed. -/
def threadKind : Nat := 18

/-- The kind that is bound after all others, by a call. -/
def callKind : Nat := 37

/-- The kind of calls, which can wait. -/
def jumpKind : Nat := 7

/-- The kind of descriptors, which cannot wait even among those that can. -/
def descriptorKind : Nat := 36

/-- The size of a reference in a table. -/
def size : Nat := 24

/-- The reference at an address. -/
def ofObject (o : SharedObject) (a : UInt64) : Reference where
  kind := o.number (a + 8) 4
  symbol := o.number (a + 12) 4

/-- The references in some bytes from an address on; there are no more than the file has bytes. -/
def table (o : SharedObject) (start bytes : UInt64) : List Reference :=
  (List.range (min ((bytes.toNat + (size - 1)) / size) o.file.size)).map fun i =>
    ofObject o (start + (size * i).toUInt64)

/-- The references that can wait. -/
def delayed (o : SharedObject) : List Reference :=
  if (o.value? .delayedKind).isSome then
    table o ((o.value? .delayedRelocations).getD 0) ((o.value? .delayedSize).getD 0)
  else []

/-- The references that cannot wait, without those that need nothing but the address of the object. -/
def prompt (o : SharedObject) : List Reference :=
  match o.value? .relocations with
  | none => []
  | some start =>
    let bytes := (o.value? .relocationsSize).getD 0
    let others := (o.value? .delayedSize).getD 0
    let holdsDelayed := (o.value? .delayedKind).isSome &&
      start + bytes == (o.value? .delayedRelocations).getD 0 + others
    (table o start (if holdsDelayed then bytes - others else bytes)).drop ((o.value? .relocationCount).getD 0).toNat

/-- Those of some references that are bound by a call come last. -/
def callsLast (rs : List Reference) : List Reference :=
  rs.filter (·.kind != callKind) ++ rs.filter (·.kind == callKind)

end Reference

namespace InstalledLibrary

/-- The library defines a name in some version. -/
def defines (library : InstalledLibrary) (name : String) (version? : Option String) : Bool :=
  library.symbols.contains name && version?.all library.hasVersion

end InstalledLibrary

/-- The object defines a name in some version, for references of some kind. -/
def LinkedObject.defines (o : LinkedObject) (name : String) (version? : Option String) (inSection : Bool) : Bool :=
  match o.body with
  | .shared object => object.defines name version? inSection
  | .installed library => library.defines name version?

namespace Linkage

/-- The process defines a name, if it is linked for the whole process. -/
def processDefines (l : Linkage) (name : String) (version? : Option String) : Bool :=
  l.isGlobal && InstalledLibrary.all.any (·.defines name version?)

/-- The first object that defines a name. -/
def definer? (l : Linkage) (name : String) (version? : Option String) (inSection : Bool) : Option Nat :=
  l.objects.findIdx? (·.defines name version? inSection)

/-- What binds a reference of an object, if it can be bound. -/
def owner? (l : Linkage) (i : Nat) (o : SharedObject) (r : Reference) : Except LinkFault Owner :=
  let symbol := o.symbol r.symbol
  let version? := o.versionOf? r.symbol
  if symbol.isOwn then .ok (.object i)
  else if l.processDefines symbol.name version? then .ok .process
  else
    match l.definer? symbol.name version? (Reference.inSectionKinds.contains r.kind) with
    | some j => .ok (.object j)
    | none => if symbol.isWeak then .ok .nothing else .error (.undefined symbol.name version?)

/-! ## Storage for threads -/

/-- The storage for threads that a process has to spare. -/
def spareStorage : UInt64 := 1664

/-- The greatest alignment of the storage for threads. -/
def storageAlignment : UInt64 := 64

/-- The storage for threads that an object asks for does not fit. -/
def exceedsStorage (o : SharedObject) : Bool :=
  (o.segments.find? fun s => s.isThreadStorage && s.memorySize != 0).any fun s =>
    decide (spareStorage < s.memorySize ∨ storageAlignment < s.alignment)

/-- What goes wrong when the storage of an object is to have a fixed place. -/
def storageComplaint? (l : Linkage) : Owner → Option Complaint
  | .object j =>
    (l.objects[j]?).bind fun owner =>
      if owner.shared?.any exceedsStorage then some ⟨owner.place, .threadStorage⟩ else none
  | _ => none

/-! ## References -/

/-- What goes wrong with a reference that is bound now. -/
def complaint? (l : Linkage) (i : Nat) (place : String) (o : SharedObject) (r : Reference) : Option Complaint :=
  if Reference.unresolvedKinds.contains r.kind then none
  else
    match l.owner? i o r with
    | .error fault => some ⟨place, fault⟩
    | .ok owner =>
      if !Reference.knownKinds.contains r.kind then some ⟨place, .relocationKind false r.kind⟩
      else if r.kind = Reference.threadKind then l.storageComplaint? owner
      else none

/-- What goes wrong with a reference that waits. -/
def delayedComplaint? (l : Linkage) (i : Nat) (place : String) (o : SharedObject) (r : Reference) : Option Complaint :=
  if r.kind = Reference.descriptorKind then l.complaint? i place o r
  else if r.kind = Reference.jumpKind ∨ r.kind = Reference.callKind then none
  else some ⟨place, .relocationKind true r.kind⟩

/-- The part of an object that is to be sealed lies out of reach. -/
def isOutOfReach (o : SharedObject) : Bool :=
  (o.segments.find? Segment.isSealed).any fun s =>
    let start := Segment.pageStart s.address
    start != Segment.pageStart s.stop &&
      decide (Layout.writableMemory ≤ start - ((o.segments.filter Segment.loads).getLast?.map (·.start)).getD 0)

/-- What goes wrong when the references of an object are bound, and its sealed part is closed. For the whole process,
those that can wait do, unless the object says otherwise. -/
def objectComplaint? (l : Linkage) (i : Nat) (place : String) (o : SharedObject) : Option Complaint :=
  let waits := l.isGlobal && !o.bindsNow
  let prompt := Reference.prompt o
  let delayed := Reference.delayed o
  let bound :=
    if waits then
      ((Reference.callsLast prompt).findSome? (l.complaint? i place o)).or
        (delayed.findSome? (l.delayedComplaint? i place o))
    else (Reference.callsLast (prompt ++ delayed)).findSome? (l.complaint? i place o)
  bound.or (if isOutOfReach o then some ⟨place, .unsealed⟩ else none)

/-- The first thing that goes wrong when all references are bound. -/
def bindingComplaint? (l : Linkage) : Option Complaint :=
  l.bindingOrder.findSome? fun i =>
    (l.objects[i]?).bind fun linked =>
      linked.shared?.bind (l.objectComplaint? i linked.place)

/-! ## Versions -/

/-- What goes wrong with a version that a shared object is to define: the records before it must be known ones. -/
def definitionFault? (version needer : String) : List VersionDefinition → Option LinkFault
  | [] => some (.versionMissing version needer)
  | d :: ds =>
    if d.record ≠ 1 then some (.definitionRecord d.record)
    else if d.name = version then none
    else definitionFault? version needer ds

/-- What goes wrong with a version that an object is to define. -/
def versionFault? (o : LinkedObject) (version : NeededVersion) (needer : String) : Option LinkFault :=
  match o.body with
  | .installed library => if library.hasVersion version.name then none else some (.versionMissing version.name needer)
  | .shared object => object.versionDefinitions?.bind (definitionFault? version.name needer)

/-- What goes wrong with a need of versions: a weak one may be missing. -/
def needComplaint? (l : Linkage) (needer : String) (need : VersionNeed) : Option Complaint :=
  if need.record ≠ 1 then some ⟨needer, .needRecord need.record⟩
  else
    (l.objects.find? (·.answersTo need.file)).bind fun o =>
      need.versions.findSome? fun version =>
        match versionFault? o version needer with
        | some (.versionMissing name by_) =>
          if version.isWeak then none else some ⟨o.place, .versionMissing name by_⟩
        | some fault => some ⟨o.place, fault⟩
        | none => none

/-- The first version that is needed and not there. -/
def versionComplaint? (l : Linkage) : Option Complaint :=
  l.objects.findSome? fun o =>
    (o.shared?.map (·.versionNeeds)).bind (·.findSome? (l.needComplaint? o.place))

/-! ## Both -/

/-- The first thing that goes wrong once all objects are there. -/
def fault? (l : Linkage) : Option Complaint := l.versionComplaint?.or l.bindingComplaint?

/-- The names that the objects define. -/
def exports (l : Linkage) : List String :=
  l.objects.flatMap fun o =>
    match o.body with
    | .shared object => object.definedNames
    | .installed library => library.symbols

end Linkage
end NativeLoader
