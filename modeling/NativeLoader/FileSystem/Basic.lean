import NativeLoader.FileSystem.Fault

/-!
# Directories and files

A `FileSystem` maps locations to nodes: files with their mode and bytes, and directories. The root directory is always
there. Operations are lookups and changes at one location: `put` and `erase` change what stands at their location
(`node?_put_self`, `node?_erase_self`) and nothing anywhere else (`node?_put_of_ne`, `node?_erase_of_ne`), and erasing
what was put at a free location gives back the file system there was (`erase_put`).
-/

namespace NativeLoader

/-- A place in the directory tree: the name of the file or directory, then those above it; the root is empty. -/
abbrev Location := List String

/-- The name of a current directory that was removed; no part of a path is empty, so no path leads to it. -/
def orphanName : String := ""

/-- A location is that of a current directory that was removed. -/
def Location.isOrphan (loc : Location) : Bool := loc.head? == some orphanName

/-- What stands at a location. -/
inductive Node where
  | file (mode : Nat) (bytes : List UInt8)
  | directory (mode : Nat)
  deriving DecidableEq, Repr

/-- A node is a file. -/
def Node.isFile : Node → Bool
  | file _ _ => true
  | directory _ => false

/-- A node is a directory. -/
def Node.isDirectory : Node → Bool
  | file _ _ => false
  | directory _ => true

/-- The permission bits of a node. -/
def Node.mode : Node → Nat
  | file mode _ => mode
  | directory mode => mode

/-- A node with other permission bits. -/
def Node.withMode (mode : Nat) : Node → Node
  | file _ bytes => file mode bytes
  | directory _ => directory mode

/-- A node with more bytes at its end; a directory stays as it is. -/
def Node.append (more : List UInt8) : Node → Node
  | file mode bytes => file mode (bytes ++ more)
  | directory mode => directory mode

/-- A node with other bytes; a directory stays as it is. -/
def Node.overwrite (bytes : List UInt8) : Node → Node
  | file mode _ => file mode bytes
  | directory mode => directory mode

@[simp] theorem Node.isFile_withMode (mode : Nat) (node : Node) : (node.withMode mode).isFile = node.isFile := by
  cases node <;> rfl

@[simp] theorem Node.isFile_append (more : List UInt8) (node : Node) : (node.append more).isFile = node.isFile := by
  cases node <;> rfl

@[simp] theorem Node.isFile_overwrite (bytes : List UInt8) (node : Node) :
    (node.overwrite bytes).isFile = node.isFile := by
  cases node <;> rfl

/-- How the volume that holds the files treats them. -/
structure Volume where
  /-- No file on it can be executed, whatever its mode. -/
  forbidsExecution : Bool := false
  /-- The fault that a change of mode meets, if it is refused. -/
  modeFault : Option FileFault := none
  deriving DecidableEq, Repr

/-- The files a process sees: what stands at each location but the root, and the current directory. -/
structure FileSystem where
  entries : List (Location × Node) := []
  current : Location := []
  volume : Volume := {}
  deriving DecidableEq, Repr

namespace FileSystem

/-- What stands at a location. -/
def node? (fs : FileSystem) : Location → Option Node
  | [] => some (.directory 0o755)
  | name :: above => fs.entries.lookup (name :: above)

/-- The file system without what stands at a location. -/
def erase (loc : Location) (fs : FileSystem) : FileSystem :=
  { fs with entries := fs.entries.filter fun e => e.1 != loc }

/-- The file system with a node at a location. -/
def put (loc : Location) (node : Node) (fs : FileSystem) : FileSystem :=
  { fs with entries := (loc, node) :: (fs.erase loc).entries }

/-- The file system with the node at a location changed. -/
def adjust (loc : Location) (f : Node → Node) (fs : FileSystem) : FileSystem :=
  { fs with entries := fs.entries.map fun e => if e.1 = loc then (e.1, f e.2) else e }

/-- The file system without what stands at a location and below it. A current directory that goes is still there for
the process, but empty, and under no name. -/
def eraseTree (loc : Location) (fs : FileSystem) : FileSystem :=
  let entries := fs.entries.filter fun e => !loc.isSuffixOf e.1
  if loc.isSuffixOf fs.current then
    let orphan := orphanName :: fs.current.tail
    { fs with entries := (orphan, .directory 0o755) :: entries, current := orphan }
  else { fs with entries }

/-- The names and nodes directly below a location. -/
def children (loc : Location) (fs : FileSystem) : List (String × Node) :=
  fs.entries.filterMap fun e =>
    match e.1 with
    | name :: above => if above = loc ∧ name ≠ orphanName then some (name, e.2) else none
    | [] => none

/-- The path of the current directory, if it was not removed. -/
def currentPath? (fs : FileSystem) : Option String :=
  if fs.current.isOrphan then none else some ("/" ++ String.intercalate "/" fs.current.reverse)

/-! ## One location at a time -/

/-- Looking up a location past the entries of other locations. -/
theorem lookup_filter_ne {loc other : Location} (h : loc ≠ other) : ∀ es : List (Location × Node),
    (es.filter fun e => e.1 != other).lookup loc = es.lookup loc
  | [] => rfl
  | (l, n) :: es => by
    by_cases hl : l = other
    · subst hl
      have hf : (loc == l) = false := beq_eq_false_iff_ne.mpr h
      simp [List.lookup_cons, hf, lookup_filter_ne h es]
    · simp only [bne_iff_ne, ne_eq, hl, not_false_eq_true, List.filter_cons_of_pos, List.lookup_cons]
      rw [lookup_filter_ne h es]

/-- A location has no entry once its entries are filtered out. -/
theorem lookup_filter_self (loc : Location) : ∀ es : List (Location × Node),
    (es.filter fun e => e.1 != loc).lookup loc = none
  | [] => rfl
  | (l, n) :: es => by
    by_cases hl : l = loc
    · simp [hl, lookup_filter_self loc es]
    · have hf : (loc == l) = false := beq_eq_false_iff_ne.mpr (Ne.symm hl)
      simp [hl, List.lookup_cons, hf, lookup_filter_self loc es]

/-- A location without an entry is not among the entries' locations. -/
theorem ne_of_lookup_eq_none {loc : Location} : ∀ {es : List (Location × Node)}, es.lookup loc = none →
    ∀ e ∈ es, e.1 ≠ loc
  | [], _, _, h => by cases h
  | (l, n) :: es, hn, e, h => by
    by_cases hl : loc = l
    · simp [hl] at hn
    · have hf : (loc == l) = false := beq_eq_false_iff_ne.mpr hl
      simp only [List.lookup_cons, hf] at hn
      rcases List.mem_cons.mp h with rfl | h
      · exact Ne.symm hl
      · exact ne_of_lookup_eq_none hn e h

/-- What is put somewhere stands there. -/
@[simp] theorem node?_put_self {loc : Location} (h : loc ≠ []) (node : Node) (fs : FileSystem) :
    (fs.put loc node).node? loc = some node := by
  cases loc with
  | nil => exact absurd rfl h
  | cons name above => simp [put, node?]

/-- Putting a node changes no other location. -/
theorem node?_put_of_ne {loc other : Location} (h : loc ≠ other) (node : Node) (fs : FileSystem) :
    (fs.put other node).node? loc = fs.node? loc := by
  cases loc with
  | nil => rfl
  | cons name above =>
    have hf : ((name :: above : Location) == other) = false := beq_eq_false_iff_ne.mpr h
    simp [put, erase, node?, List.lookup_cons, hf, lookup_filter_ne h]

/-- Nothing stands where something was erased. -/
@[simp] theorem node?_erase_self {loc : Location} (h : loc ≠ []) (fs : FileSystem) :
    (fs.erase loc).node? loc = none := by
  cases loc with
  | nil => exact absurd rfl h
  | cons name above => exact lookup_filter_self _ _

/-- Erasing changes no other location. -/
theorem node?_erase_of_ne {loc other : Location} (h : loc ≠ other) (fs : FileSystem) :
    (fs.erase other).node? loc = fs.node? loc := by
  cases loc with
  | nil => rfl
  | cons name above => exact lookup_filter_ne h _

/-- Erasing what was put at a free location undoes it. -/
theorem erase_put {loc : Location} {node : Node} {fs : FileSystem} (h : fs.node? loc = none) :
    (fs.put loc node).erase loc = fs := by
  cases loc with
  | nil => cases h
  | cons name above =>
    have hne := ne_of_lookup_eq_none h
    have hf : fs.entries.filter (fun e => e.1 != name :: above) = fs.entries :=
      List.filter_eq_self.mpr fun e he => bne_iff_ne.mpr (hne e he)
    simp [put, erase, hf]

end FileSystem
end NativeLoader
