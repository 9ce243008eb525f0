import NativeLoader.FileSystem.Operations
import NativeLoader.Naming

/-!
# The linker

The platform's linker maps libraries into the process. It is asked to open a `Target` with a `Strategy`: inside one
context, or for the whole process. It answers with an `Image` or a `Refusal`; the answer may depend on the calls before
and on the files, and it may change the files. A linker spares a target if it does not when it is asked for that
(`Linker.Spares`), and is quiet if it spares them all (`Linker.IsQuiet`).
-/

namespace NativeLoader

/-- The key of an isolation context. -/
abbrev ContextId := Nat

/-- What the linker is to open. -/
inductive Target where
  /-- A name looked up on the platform's search path. -/
  | searched (name : String)
  /-- An extracted file. -/
  | extracted (path : String)
  deriving DecidableEq, Repr

/-- The file that the linker is given for a target. -/
def Target.file : Target → String
  | searched name => Platform.current.fileName name
  | extracted path => path

/-- Where a library is to be bound. -/
inductive Strategy where
  /-- In the namespace of one context. -/
  | isolated (context : ContextId)
  /-- In the namespace of the process. -/
  | global
  deriving DecidableEq, Repr

/-- One question to the linker. -/
structure Request where
  strategy : Strategy
  target : Target
  deriving DecidableEq, Repr

/-- A place in the memory of the process, other than the null pointer. -/
structure Address where
  toNat : Nat
  ne_zero : toNat ≠ 0
  deriving DecidableEq, Repr

/-- A library mapped into the process, with the symbols it exports and where each of them is. -/
structure Image where
  exports : List (String × Address)
  deriving DecidableEq, Repr

/-- Where an exported symbol is. -/
def Image.address? (image : Image) (symbol : String) : Option Address := image.exports.lookup symbol

/-- An image exports a symbol. -/
def Image.exportsSymbol (image : Image) (symbol : String) : Bool := (image.address? symbol).isSome

/-- Why the linker did not bind a library. -/
inductive Refusal where
  /-- The linker rejected it. -/
  | rejected (message : String)
  /-- The strategy cannot be used. -/
  | unavailable (reason : String)
  deriving DecidableEq, Repr

/-- The wording of a refusal. -/
def Refusal.message : Refusal → String
  | rejected message => "link error: " ++ message
  | unavailable reason => "strategy unavailable: " ++ reason

/-- A question that was put to the linker, and the bytes of the file it named at that moment. -/
structure Call where
  request : Request
  content : Option (List UInt8)
  deriving DecidableEq, Repr

/-- The bytes of the file that a path names, if it names one. -/
def FileSystem.content? (fs : FileSystem) (path : String) : Option (List UInt8) :=
  match fs.status path with
  | .ok (.file _ bytes) => some bytes
  | _ => none

/-- A request as a call, with the file it names as it is now. -/
def Request.toCall (fs : FileSystem) (request : Request) : Call :=
  match request.target with
  | .searched _ => ⟨request, none⟩
  | .extracted path => ⟨request, fs.content? path⟩

/-- A call is for the request that was put. -/
@[simp] theorem Request.request_toCall (fs : FileSystem) (request : Request) :
    (request.toCall fs).request = request := by
  unfold toCall
  split <;> rfl

/-- A linker: its answer to a request after some calls, and the files after it. -/
structure Linker where
  answer : List Call → Request → FileSystem → Except Refusal Image × FileSystem

/-- A linker that leaves the files alone when it is asked to open a target. -/
def Linker.Spares (linker : Linker) (target : Target) : Prop :=
  ∀ calls strategy fs, (linker.answer calls ⟨strategy, target⟩ fs).2 = fs

/-- A linker that leaves the files alone. -/
def Linker.IsQuiet (linker : Linker) : Prop :=
  ∀ calls request fs, (linker.answer calls request fs).2 = fs

/-- A quiet linker spares every target. -/
theorem Linker.IsQuiet.spares {linker : Linker} (hq : linker.IsQuiet) (target : Target) : linker.Spares target :=
  fun calls strategy fs => hq calls ⟨strategy, target⟩ fs

/-- A linker that is quiet, and answers as a function of the strategy and of the target's name or content. -/
def Linker.IsSteady (linker : Linker) : Prop :=
  linker.IsQuiet ∧
    (∀ calls calls' strategy name fs fs',
      (linker.answer calls ⟨strategy, .searched name⟩ fs).1 = (linker.answer calls' ⟨strategy, .searched name⟩ fs').1) ∧
    ∀ calls calls' strategy path path' fs fs', fs.content? path = fs'.content? path' →
      (linker.answer calls ⟨strategy, .extracted path⟩ fs).1 = (linker.answer calls' ⟨strategy, .extracted path'⟩ fs').1

end NativeLoader
