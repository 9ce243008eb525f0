import NativeLoader.Linker.Basic
import NativeLoader.Linker.Reference
import NativeLoader.Text.Quoted
import NativeLoader.Text.Within

/-!
# The platform's linker

The linker of the platform itself, where no library is installed but the system's: it opens a file with all that it
needs, binds what that refers to, and words each refusal its own way. It leaves the files alone (`isQuiet_platform`).

This is what the command binds with; what loads do is told of any linker. A context whose namespace is there already, as
a file was opened in it, is not told from one that has none yet: of a complaint that speaks of namespaces the first would
be rejected (`isolatedRefusal`).
-/

namespace NativeLoader

/-- What is mapped into the process. Where the symbols are is not told by the files: each has a place of its own, in the
order in which they are found. -/
def Linkage.image (l : Linkage) : Image :=
  ⟨l.exports.zipIdx.map fun (symbol, place) => (symbol, ⟨place + 1, Nat.succ_ne_zero place⟩)⟩

/-- Linking a file: its image, or the first thing that is wrong. -/
def link (tokens : Tokens) (isGlobal : Bool) (file : String) (fs : FileSystem) : Except Complaint Image :=
  match Linkage.ofFile tokens isGlobal fs file with
  | .error complaint => .error complaint
  | .ok linkage =>
    match linkage.fault? with
    | some complaint => .error complaint
    | none => .ok linkage.image

/-- The word by which a complaint about the namespaces themselves is known. -/
def namespaceWord : String := "namespace"

/-- A refusal to open a file inside a context that has no namespace yet: a complaint that speaks of namespaces is taken to
say that there are none left, whatever it speaks of them for. -/
def isolatedRefusal (message : String) : Refusal :=
  if Text.isWithin namespaceWord message then .unavailable message else .rejected message

/-- What the platform's linker answers to a request. -/
def platformAnswer (tokens : Tokens) (request : Request) (fs : FileSystem) : Except Refusal Image :=
  let file := request.target.file
  match request.strategy, file.toList.contains '\x00' with
  | .isolated _, true => .error (.rejected (Text.quote file ++ " contains a NUL byte"))
  | .isolated _, false => (link tokens false file fs).mapError fun complaint => isolatedRefusal complaint.text
  | .global, true => .error (.rejected "could not create a C string from bytes")
  | .global, false => (link tokens true file fs).mapError fun complaint => .rejected complaint.text

/-- The platform's linker, which binds inside a context at once, and for the whole process as late as it can. -/
def Linker.platform (tokens : Tokens) : Linker where
  answer _ request fs := (platformAnswer tokens request fs, fs)

/-- It leaves the files alone. -/
theorem isQuiet_platform (tokens : Tokens) : (Linker.platform tokens).IsQuiet := fun _ _ _ => rfl

end NativeLoader
