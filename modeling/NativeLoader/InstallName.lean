import NativeLoader.Host
import NativeLoader.Naming

/-!
# Install names

On the platform whose linker tells libraries apart by the name written into them, a relocated copy needs a name of its
own (`isNeeded`). The platform's developer tools write one that is drawn at random, and sign the copy again, whose
signature covers its name (`Host.renewInstallName`). The tools are other programs: what they make of the bytes of a copy
is told by `DeveloperTools`, and they change no other file. Where they are missing, or one of them fails, the copy stays
as it is then, and loading goes on.
-/

namespace NativeLoader

namespace InstallName

/-- Why a copy keeps the name it has. -/
inductive Outcome where
  /-- The developer tools are missing. -/
  | toolsMissing
  /-- No name was written, and the copy is as it was. -/
  | notWritten
  deriving DecidableEq, Repr

/-- The directory of the developer tools. -/
def toolsDirectory : String := "/Library/Developer/CommandLineTools"

/-- A copy needs a name of its own: it is asked for, the linker goes by names, and the library is relocated. -/
def isNeeded (enabled : Bool) (platform : Platform) (mangledPrefix : String) : Bool :=
  enabled && platform == .macOs && mangledPrefix != ""

/-- Why a copy keeps its name as long as no tool has written another. -/
def renew (fs : FileSystem) : Outcome :=
  if fs.isPresent toolsDirectory then .notWritten else .toolsMissing

end InstallName

/-- The developer tools: what each of them makes of the file that a path names. A tool that fails leaves it as it is. -/
structure DeveloperTools where
  /-- The file, named by the path, with an install name. -/
  rename : FileSystem → String → String → Option (List UInt8) := fun _ _ _ => none
  /-- The file with a signature. -/
  sign : FileSystem → String → Option (List UInt8) := fun _ _ => none

/-- What became of giving a copy an install name of its own. -/
inductive Renewal where
  /-- It needs none. -/
  | skipped
  | kept (why : InstallName.Outcome)
  /-- It has one, and could not be signed again. -/
  | unsigned
  | renewed (id : String)
  deriving DecidableEq, Repr

/-- Giving a copy a random install name that is as long as the name of the library. -/
def Host.renewInstallName (tools : DeveloperTools) (name path : String) (h : Host) : Renewal × Host :=
  match InstallName.renew h.files with
  | .toolsMissing => (.kept .toolsMissing, h)
  | .notWritten =>
    let (id, draws) := h.draws.take name.utf8ByteSize
    match tools.rename h.files path id with
    | none => (.kept .notWritten, { h with draws })
    | some bytes =>
      let files := h.files.overwrite path bytes
      match tools.sign files path with
      | none => (.unsigned, { h with files, draws })
      | some bytes => (.renewed id, { h with files := files.overwrite path bytes, draws })

end NativeLoader
