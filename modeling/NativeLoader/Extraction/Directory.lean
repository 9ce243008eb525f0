import NativeLoader.Extraction.Temporary

/-!
# Directories for extracted copies

The directory that copies go to is settled when it is first needed (`Host.settle`) and then stays what it is, a path or
a failure (`extractionDirectory_of_outcome`): one that was asked for is made if nothing is there, and otherwise a new
temporary one is made.
-/

namespace NativeLoader

/-- The start of the name of a temporary directory for copies. -/
def directoryStem : String := "tdlight-natives"

/-- The absolute form of a path; one that starts from a directory without a path stays as it is. -/
def FileSystem.absolute (path : String) (fs : FileSystem) : String :=
  match fs.currentPath? with
  | some here => Path.absolute here path
  | none => if Path.isAbsolute path then Path.absolute "/" path else path

/-- Making sure of a directory that was asked for: its absolute path, or why it cannot be made. -/
def FileSystem.prepare (path : String) (fs : FileSystem) : Except String String × FileSystem :=
  if fs.isPresent path then (.ok (fs.absolute path), fs)
  else
    match fs.makeDirectories path with
    | (.ok (), made) => (.ok (fs.absolute path), made)
    | (.error fault, made) => (.error ("cannot create " ++ path ++ ": " ++ fault.message), made)

namespace Host

/-- Settling on a directory. -/
def settle (requested : Option String) (h : Host) : Except String String × Host :=
  match requested with
  | some path =>
    let prepared := h.files.prepare path
    (prepared.1, { h with files := prepared.2 })
  | none =>
    match h.makeTemporaryDirectory directoryStem with
    | (.ok path, h) => (.ok path, h)
    | (.error fault, h) => (.error ("cannot create temporary directory: " ++ fault.message), h)

/-- The outcome of settling on a directory, as callers see it. -/
def directoryResult (outcome : Except String String) : Except Failure String :=
  match outcome with
  | .ok path => .ok path
  | .error message => .error (.of (.directory message))

/-- The directory for copies, settled if it was not. -/
def extractionDirectory (id : DirectoryId) (h : Host) : Except Failure String × Host :=
  match (h.directories id).outcome with
  | some outcome => (directoryResult outcome, h)
  | none =>
    let settled := h.settle (h.directories id).requested
    (directoryResult settled.1,
      settled.2.setDirectory id { h.directories id with outcome := some settled.1 })

/-- Once settled, a directory is what it is. -/
theorem extractionDirectory_of_outcome {id : DirectoryId} {h : Host} {outcome : Except String String}
    (ho : (h.directories id).outcome = some outcome) :
    h.extractionDirectory id = (directoryResult outcome, h) := by
  simp only [extractionDirectory, ho]

/-- Asking for a directory settles it. -/
theorem outcome_extractionDirectory (id : DirectoryId) (h : Host) :
    ∃ outcome, ((h.extractionDirectory id).2.directories id).outcome = some outcome ∧
      (h.extractionDirectory id).1 = directoryResult outcome := by
  unfold extractionDirectory
  split
  · next outcome ho => exact ⟨outcome, ho, rfl⟩
  · exact ⟨_, by simp, rfl⟩

end Host
end NativeLoader
