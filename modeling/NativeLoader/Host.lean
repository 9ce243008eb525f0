import NativeLoader.Context.Basic
import NativeLoader.Draws
import NativeLoader.Failure
import NativeLoader.Text.Pieces

/-!
# The process that loads

All that loading can see and change: the files, the contexts, the directories for extracted copies, the files whose
deletion is still owed, and the random characters left. The calls made to the linker and the warnings given are kept in
order. A process starts with the context and the directory that its environment asks for (`Host.ofEnvironment`).
-/

namespace NativeLoader

/-- The key of a directory for extracted copies. -/
abbrev DirectoryId := Nat

/-- A directory for extracted copies: the one asked for, and once settled its path or why there is none. -/
structure ExtractionDirectory where
  requested : Option String := none
  outcome : Option (Except String String) := none

/-- A process, as far as loading can tell. -/
structure Host where
  files : FileSystem := {}
  /-- The directory for temporary files. -/
  temporary : String
  draws : Draws
  contexts : ContextId → Context := fun _ => {}
  directories : DirectoryId → ExtractionDirectory := fun _ => {}
  /-- The files to delete when the process ends, in the order in which their deletion was put off. -/
  pending : List String := []
  /-- The handle of the next library. -/
  handles : Nat := 0
  /-- The requests put to the linker so far. -/
  calls : List Call := []
  warnings : List String := []

/-- The context that the process has from the start. -/
def globalContext : ContextId := 0

/-- The directory for extracted copies that the process has from the start. -/
def globalDirectory : DirectoryId := 0

namespace Host

/-- A context in the place of another. -/
def setContext (id : ContextId) (c : Context) (h : Host) : Host :=
  { h with contexts := fun i => if i = id then c else h.contexts i }

/-- A directory for extracted copies in the place of another. -/
def setDirectory (id : DirectoryId) (d : ExtractionDirectory) (h : Host) : Host :=
  { h with directories := fun i => if i = id then d else h.directories i }

/-- A root added to a context. -/
def addRoot (id : ContextId) (root : Root) (h : Host) : Host :=
  h.setContext id ((h.contexts id).addRoot root)

/-- A warning given. -/
def warn (texts : List String) (h : Host) : Host := { h with warnings := h.warnings ++ texts }

/-- A new library registered in a context: the one then bound under its name. -/
def register (id : ContextId) (logicalName mangledPrefix : String) (binding : Binding) (origin : Origin)
    (image : Image) (h : Host) : Library × Host :=
  let registered := (h.contexts id).register ⟨h.handles, logicalName, mangledPrefix, binding, origin, image⟩
  (registered.1, ({ h with handles := h.handles + 1 }).setContext id registered.2)

/-! ## The start of a process -/

/-- The root for one directory of a search path; one whose name is not text holds nothing. -/
def rootOfBytes (name : List UInt8) : Root :=
  match Text.decode name with
  | some base => .directory base
  | none =>
    .provider
      { locator := fun path => (Root.directory (Text.decodeLossy name)).locator path
        contains := fun _ => false
        reader := fun _ => .error (.system .missing) }

/-- The roots of the context a process starts with: the directories of its search path, then that of its program. -/
def globalRoots (env : Environment) (program : String) : List Root :=
  let listed := (Text.pieces (0x3A : UInt8) ((env.lookup Settings.searchVariable).getD [])).filter (· != [])
  listed.map rootOfBytes ++ [.directory program]

/-- A process with an environment, whose program is in the directory `program`. -/
def ofEnvironment (env : Environment) (program temporary : String) (files : FileSystem) (draws : Draws) : Host :=
  let start : Host := { files, temporary, draws }
  (start.setContext globalContext
    { name := "global", isGlobal := true, roots := globalRoots env program }).setDirectory globalDirectory
      { requested := (Settings.ofEnvironment env).directory }

/-! ## What the changes change -/

@[simp] theorem contexts_setContext_self (id : ContextId) (c : Context) (h : Host) :
    (h.setContext id c).contexts id = c := by
  simp [setContext]

/-- The other contexts stay. -/
theorem contexts_setContext_of_ne {id other : ContextId} (hne : other ≠ id) (c : Context) (h : Host) :
    (h.setContext id c).contexts other = h.contexts other := by
  simp [setContext, hne]

@[simp] theorem directories_setDirectory_self (id : DirectoryId) (d : ExtractionDirectory) (h : Host) :
    (h.setDirectory id d).directories id = d := by
  simp [setDirectory]

/-- The other directories stay. -/
theorem directories_setDirectory_of_ne {id other : DirectoryId} (hne : other ≠ id) (d : ExtractionDirectory)
    (h : Host) : (h.setDirectory id d).directories other = h.directories other := by
  simp [setDirectory, hne]

end Host
end NativeLoader
