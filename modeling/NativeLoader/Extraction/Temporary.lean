import NativeLoader.Extraction.Deletion

/-!
# Temporary names

A temporary file or directory gets a name with random characters in it. A name that is taken is left alone and another
one is drawn, up to a limit (`Host.makeFresh`). What fails says at which path (`FileFault.located`).
-/

namespace NativeLoader

/-- The permission bits of an extracted copy. -/
def copyMode : Nat := 0o600

/-- How many names are tried. -/
def temporaryTries : Nat := 65536

namespace Host

/-- The absolute form of a directory in which temporary files are made, if it has one. -/
def temporaryBase (directory : String) (h : Host) : Except FileFault String :=
  if Path.isAbsolute directory then .ok directory
  else
    match h.files.currentPath? with
    | some here => .ok (Path.join here directory)
    | none => .error (.system .missing)

/-- Making something under a new name in a directory: its path, and what making it gave. -/
def makeFresh {α : Type} (make : String → FileSystem → Except FileFault (α × FileSystem)) (base stem ending : String) :
    Nat → Host → Except FileFault (String × α) × Host
  | 0, h => (.error (.located .namesExhausted base), h)
  | tries + 1, h =>
    let drawn := h.draws.take Draws.suffixLength
    let path := Path.join base (stem ++ drawn.1 ++ ending)
    match make path h.files with
    | .ok (made, files) => (.ok (path, made), { h with files, draws := drawn.2 })
    | .error fault =>
      if fault.kind = SystemFault.present.kind then
        makeFresh make base stem ending tries { h with draws := drawn.2 }
      else (.error (.located fault path), { h with draws := drawn.2 })

/-- Making a new file in a directory: its path and location. -/
def makeTemporaryFile (directory stem ending : String) (h : Host) : Except FileFault (String × Location) × Host :=
  match h.temporaryBase directory with
  | .error fault => (.error fault, h)
  | .ok base => h.makeFresh (fun path fs => fs.createFile copyMode path) base stem ending temporaryTries

/-- Making a new directory in the process's directory for temporary files: its path. -/
def makeTemporaryDirectory (stem : String) (h : Host) : Except FileFault String × Host :=
  match h.temporaryBase h.temporary with
  | .error fault => (.error fault, h)
  | .ok base =>
    let made :=
      h.makeFresh (fun path fs => (fs.makeDirectory FileSystem.directoryMode path).map fun files => ((), files))
        base stem "" temporaryTries
    (made.1.map (·.1), made.2)

/-- Only the files and the random characters change when something is made under a new name. -/
theorem makeFresh_frame {α : Type} {make : String → FileSystem → Except FileFault (α × FileSystem)}
    {base stem ending : String} : ∀ (tries : Nat) (h : Host),
    ∃ files draws, (h.makeFresh make base stem ending tries).2 = { h with files, draws }
  | 0, h => ⟨h.files, h.draws, rfl⟩
  | tries + 1, h => by
    unfold makeFresh
    simp only
    split
    · exact ⟨_, _, rfl⟩
    · split
      · exact makeFresh_frame tries { h with draws := (h.draws.take Draws.suffixLength).2 }
      · exact ⟨_, _, rfl⟩

end Host
end NativeLoader
