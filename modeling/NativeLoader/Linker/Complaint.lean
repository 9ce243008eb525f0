import NativeLoader.FileSystem.Fault
import NativeLoader.Linker.ObjectFile

/-!
# Complaints of the linker

Why the linker does not open a library: a `LinkFault`, said of some file. `Complaint.text` is the wording.
-/

namespace NativeLoader

/-- What is wrong with a file that is to be linked. -/
inductive LinkFault where
  /-- It cannot be opened. -/
  | unopened (fault : SystemFault)
  /-- It cannot be read. -/
  | unreadable (fault : SystemFault)
  /-- It is not what can be mapped. -/
  | unmapped (fault : MapFault)
  /-- It is a program. -/
  | movableProgram
  /-- It says that it must not be opened. -/
  | forbidsOpening
  /-- It records what it needs in an unknown way. -/
  | needRecord (version : Nat)
  /-- It records what it defines in an unknown way. -/
  | definitionRecord (version : Nat)
  /-- It lacks a version that another file needs. -/
  | versionMissing (version : String) (needer : String)
  /-- It refers to something that nothing defines. -/
  | undefined (symbol : String) (version? : Option String)
  /-- It refers to something in an unknown way, at once or later. -/
  | relocationKind (isDelayed : Bool) (kind : Nat)
  /-- Its storage for each thread does not fit. -/
  | threadStorage
  /-- Its sealed part is out of reach. -/
  | unsealed
  deriving DecidableEq, Repr

/-- A number in hexadecimal digits: two, or eight if two do not do. -/
def LinkFault.hex (n : Nat) : String :=
  let digits := Nat.toDigits 16 n
  String.ofList (List.replicate ((if n < 256 then 2 else 8) - digits.length) '0' ++ digits)

/-- The wording of a fault. -/
def LinkFault.text : LinkFault → String
  | unopened fault => "cannot open shared object file: " ++ fault.text
  | unreadable fault => "cannot read file data: " ++ fault.text
  | unmapped fault => fault.text
  | movableProgram => "cannot dynamically load position-independent executable"
  | forbidsOpening => "shared object cannot be dlopen()ed"
  | needRecord version => "unsupported version " ++ toString version ++ " of Verneed record"
  | definitionRecord version => "unsupported version " ++ toString version ++ " of Verdef record"
  | versionMissing version needer => "version `" ++ version ++ "' not found (required by " ++ needer ++ ")"
  | undefined symbol version? => "undefined symbol: " ++ symbol ++ (version?.map (", version " ++ ·)).getD ""
  | relocationKind isDelayed kind => "unexpected " ++ (if isDelayed then "PLT " else "") ++ "reloc type 0x" ++ hex kind
  | threadStorage => "cannot allocate memory in static TLS block"
  | unsealed => "cannot apply additional memory protection after relocation: Cannot allocate memory"

/-- A fault, and the file of which it is said. -/
structure Complaint where
  file : String
  fault : LinkFault
  deriving DecidableEq, Repr

/-- The wording of a complaint. -/
def Complaint.text (complaint : Complaint) : String := complaint.file ++ ": " ++ complaint.fault.text

end NativeLoader
