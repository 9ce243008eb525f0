import NativeLoader.FileSystem.Operations

/-!
# Permission to execute

When the linker refuses a copy, its volume may forbid execution. A file that its owner can read is asked about
(`isWorthChecking`): if it cannot be executed even with every execute bit set, the volume is at fault (`checkExecutable`).
Asking leaves the bits set, and nothing else changes.
-/

namespace NativeLoader

/-- The execute bits of owner, group and others. -/
def executeBits : Nat := 0o111

namespace FileSystem

/-- A path names a file that its owner can read. -/
def isWorthChecking (path : String) (fs : FileSystem) : Bool :=
  fs.isFile path && (fs.reader path).toBool

/-- A path can be executed, once every execute bit is set. -/
def checkExecutable (path : String) (fs : FileSystem) : Except FileFault Bool × FileSystem :=
  if fs.isExecutable path then (.ok true, fs)
  else
    match fs.status path with
    | .error fault => (.error fault, fs)
    | .ok node =>
      if node.mode &&& executeBits = executeBits then (.ok false, fs)
      else
        match fs.setMode (node.mode ||| executeBits) path with
        | .error fault => (.error fault, fs)
        | .ok set => (.ok (set.isExecutable path), set)

end FileSystem
end NativeLoader
