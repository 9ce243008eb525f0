import NativeLoader.Text.Quoted

/-!
# What goes wrong with files

The errors that file operations and resource readers meet, by cause, with the wording (`FileFault.message`) and the
kind (`FileFault.kind`) of each. Saying where a fault happened changes neither its kind (`kind_located`) nor the start
of its wording.
-/

namespace NativeLoader

/-- The errors of the operating system's file calls. -/
inductive SystemFault where
  | missing
  | denied
  | present
  | notDirectory
  | isDirectory
  | nameTooLong
  deriving DecidableEq, Repr

/-- The number the operating system gives an error. -/
def SystemFault.code : SystemFault → Nat
  | missing => 2
  | denied => 13
  | present => 17
  | notDirectory => 20
  | isDirectory => 21
  | nameTooLong => 36

/-- The operating system's wording of an error. -/
def SystemFault.text : SystemFault → String
  | missing => "No such file or directory"
  | denied => "Permission denied"
  | present => "File exists"
  | notDirectory => "Not a directory"
  | isDirectory => "Is a directory"
  | nameTooLong => "File name too long"

/-- The kind an error is filed under. -/
def SystemFault.kind : SystemFault → String
  | missing => "NotFound"
  | denied => "PermissionDenied"
  | present => "AlreadyExists"
  | notDirectory => "NotADirectory"
  | isDirectory => "IsADirectory"
  | nameTooLong => "InvalidFilename"

/-- Why a file operation or the reading of a resource failed. -/
inductive FileFault where
  /-- The operating system refused. -/
  | system (fault : SystemFault)
  /-- The path holds a NUL and names nothing. -/
  | nulInPath
  /-- No unused temporary name was found. -/
  | namesExhausted
  /-- A resource root reports a failure of its own kind and wording. -/
  | reported (kind text : String)
  /-- A fault, with the path at which it happened. -/
  | located (fault : FileFault) (path : String)
  deriving DecidableEq, Repr

/-- The kind a fault is filed under. -/
def FileFault.kind : FileFault → String
  | system fault => fault.kind
  | nulInPath => "InvalidInput"
  | namesExhausted => "AlreadyExists"
  | reported kind _ => kind
  | located fault _ => fault.kind

/-- The wording of a fault. -/
def FileFault.message : FileFault → String
  | system fault => fault.text ++ " (os error " ++ toString fault.code ++ ")"
  | nulInPath => "file name contained an unexpected NUL byte"
  | namesExhausted => "too many temporary files exist"
  | reported _ text => text
  | located fault path => fault.message ++ " at path " ++ Text.quote path

/-- The operating system itself reported the fault. -/
def FileFault.isSystem : FileFault → Bool
  | system _ => true
  | _ => false

/-- The kind of a read that was interrupted, and may be done again. -/
def interruptedKind : String := "Interrupted"

/-- A read failed only because it was interrupted. -/
def FileFault.isInterruption (fault : FileFault) : Bool := fault.kind == interruptedKind

/-- Saying where a fault happened does not change its kind. -/
@[simp] theorem FileFault.kind_located (fault : FileFault) (path : String) :
    (fault.located path).kind = fault.kind := rfl

end NativeLoader
