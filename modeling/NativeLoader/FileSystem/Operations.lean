import NativeLoader.FileSystem.Walk
import NativeLoader.FileSystem.Reader

/-!
# File operations

The calls a loader makes, each by path: asking what is there (`status`), opening (`reader`), making files and
directories (`createFile`, `makeDirectory`, `makeDirectories`), removing (`removeFile`) and changing modes (`setMode`).
A file is only ever made where nothing was (`node?_of_createFile`), and removing it again leaves what there was
(`FileSystem.erase_put`). The right to read a file is checked when it is opened, but no call asks for the right to search
or to change a directory: all directories are taken to grant both to their owner.
-/

namespace NativeLoader

/-- The owner may read what has these permission bits. -/
def ownerReads (mode : Nat) : Bool := mode.testBit 8

/-- The owner may execute what has these permission bits. -/
def ownerExecutes (mode : Nat) : Bool := mode.testBit 6

namespace FileSystem

/-! ## Looking -/

/-- The node that a path names. -/
def status (fs : FileSystem) (path : String) : Except FileFault Node :=
  match fs.locate path with
  | .error fault => .error fault
  | .ok loc =>
    match fs.node? loc with
    | some node => .ok node
    | none => .error (.system .missing)

/-- A path names something. -/
def isPresent (fs : FileSystem) (path : String) : Bool :=
  match fs.status path with
  | .ok _ => true
  | .error _ => false

/-- A path names a file. -/
def isFile (fs : FileSystem) (path : String) : Bool :=
  match fs.status path with
  | .ok node => node.isFile
  | .error _ => false

/-- A path names a directory. -/
def isDirectory (fs : FileSystem) (path : String) : Bool :=
  match fs.status path with
  | .ok node => node.isDirectory
  | .error _ => false

/-- A path names something that the owner may execute, on a volume that allows it. -/
def isExecutable (fs : FileSystem) (path : String) : Bool :=
  match fs.status path with
  | .ok (.file mode _) => ownerExecutes mode && !fs.volume.forbidsExecution
  | .ok (.directory mode) => ownerExecutes mode
  | .error _ => false

/-- Opening what a path names; a directory opens, and then cannot be read. -/
def reader (fs : FileSystem) (path : String) : Except FileFault Reader :=
  match fs.status path with
  | .error fault => .error fault
  | .ok node =>
    if ownerReads node.mode then
      match node with
      | .file _ bytes => .ok (.ofBytes bytes)
      | .directory _ => .ok ⟨[], some (.system .isDirectory)⟩
    else .error (.system .denied)

/-- The names and nodes in the directory that a path names. -/
def list? (fs : FileSystem) (path : String) : Option (List (String × Node)) :=
  match fs.locate path with
  | .error _ => none
  | .ok loc =>
    match fs.node? loc with
    | some (.directory _) => some (fs.children loc)
    | _ => none

/-! ## Making -/

/-- Making a file where nothing is, with its location. -/
def createFile (mode : Nat) (path : String) (fs : FileSystem) : Except FileFault (Location × FileSystem) :=
  match fs.slot path with
  | .error fault => .error fault
  | .ok slot =>
    match slot.name? with
    | none => .error (.system .isDirectory)
    | some name =>
      if (fs.node? (name :: slot.above)).isSome then .error (.system .present)
      else if slot.slash then .error (.system .isDirectory)
      else .ok (name :: slot.above, fs.put (name :: slot.above) (.file mode []))

/-- Making a directory where nothing is. -/
def makeDirectory (mode : Nat) (path : String) (fs : FileSystem) : Except FileFault FileSystem :=
  match fs.slot path with
  | .error fault => .error fault
  | .ok slot =>
    match slot.name? with
    | none => .error (.system .present)
    | some name =>
      if (fs.node? (name :: slot.above)).isSome then .error (.system .present)
      else .ok (fs.put (name :: slot.above) (.directory mode))

/-- The permission bits of a new directory. -/
def directoryMode : Nat := 0o755

/-- Making the first of some nested directories, innermost first, whose parent is there, with those left to make. -/
def makeOutermost (fs : FileSystem) : List String → Except FileFault (List String × FileSystem)
  | [] => .ok ([], fs)
  | path :: paths =>
    match fs.makeDirectory directoryMode path with
    | .ok made => .ok ([], made)
    | .error fault =>
      if fault.kind = SystemFault.missing.kind then
        match fs.makeOutermost paths with
        | .ok (left, made) => .ok (path :: left, made)
        | .error fault => .error fault
      else if fault.kind = SystemFault.present.kind ∧ fs.isDirectory path then .ok ([], fs)
      else .error fault

/-- Making some directories in turn, each of which may be there already. -/
def makeEach : List String → FileSystem → Except FileFault Unit × FileSystem
  | [], fs => (.ok (), fs)
  | path :: paths, fs =>
    match fs.makeDirectory directoryMode path with
    | .ok made => makeEach paths made
    | .error fault =>
      if fault.kind = SystemFault.present.kind ∧ fs.isDirectory path then makeEach paths fs
      else (.error fault, fs)

/-- Making a directory and those above it that are missing. -/
def makeDirectories (path : String) (fs : FileSystem) : Except FileFault Unit × FileSystem :=
  match fs.makeOutermost (Path.ancestors path) with
  | .error fault => (.error fault, fs)
  | .ok (left, made) => makeEach left.reverse made

/-! ## Changing and removing -/

/-- Changing the permission bits of what a path names. -/
def setMode (mode : Nat) (path : String) (fs : FileSystem) : Except FileFault FileSystem :=
  match fs.locate path with
  | .error fault => .error fault
  | .ok loc =>
    match fs.volume.modeFault with
    | some fault => .error fault
    | none => .ok (fs.adjust loc (Node.withMode mode))

/-- Other bytes in the file that a path names. -/
def overwrite (path : String) (bytes : List UInt8) (fs : FileSystem) : FileSystem :=
  match fs.locate path with
  | .ok loc => fs.adjust loc (Node.overwrite bytes)
  | .error _ => fs

/-- Removing the file that a path names; a directory is refused. -/
def removeFile (path : String) (fs : FileSystem) : Except FileFault FileSystem :=
  match fs.slot path with
  | .error fault => .error fault
  | .ok slot =>
    match slot.name? with
    | none => .error (.system .isDirectory)
    | some name =>
      match fs.node? (name :: slot.above) with
      | none => .error (.system .missing)
      | some (.directory _) => .error (.system .isDirectory)
      | some (.file _ _) =>
        if slot.slash then .error (.system .notDirectory) else .ok (fs.erase (name :: slot.above))

/-- Removing what a path names with all below it; the root stays. -/
def removeTree (path : String) (fs : FileSystem) : FileSystem :=
  match fs.locate path with
  | .ok (name :: above) => fs.eraseTree (name :: above)
  | _ => fs

/-- Writing a whole file, with the directories above it. -/
def writeFile (mode : Nat) (path : String) (bytes : List UInt8) (fs : FileSystem) : FileSystem :=
  let ready :=
    match Path.parent? path with
    | some up => (fs.makeDirectories up).2
    | none => fs
  match ready.slot path with
  | .ok ⟨above, some name, _⟩ => ready.put (name :: above) (.file mode bytes)
  | _ => ready

/-! ## What the operations leave alone -/

/-- A new file stands where nothing stood, and it is empty. -/
theorem node?_of_createFile {mode : Nat} {path : String} {fs made : FileSystem} {loc : Location}
    (h : fs.createFile mode path = .ok (loc, made)) :
    fs.node? loc = none ∧ made = fs.put loc (.file mode []) ∧ loc ≠ [] := by
  unfold createFile at h
  split at h
  · cases h
  · split at h
    · cases h
    · split at h
      · cases h
      · next hn =>
        split at h
        · cases h
        · cases h
          exact ⟨by simpa using hn, rfl, by simp⟩

end FileSystem
end NativeLoader
