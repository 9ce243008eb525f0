import NativeLoader.Engine.EntryPoint
import NativeLoader.Linker.Basic
import NativeLoader.Text.Pieces
import NativeLoader.Text.Utf8

/-!
# Linkers given by a table

A linker that answers as told: for each strategy and kind of target it refuses, or opens. A name is then looked up in a
table of installed libraries, and a file is read: its first line marks a library, and the others are its exports. In
all these libraries the functions of an engine are in the same places (`LinkerTable.address`). Such a linker may also
remove the file it was given, or put a directory in its place, but not when it looks up a name (`spares_toLinker`);
otherwise it is quiet (`isQuiet_toLinker`), and steady (`isSteady_toLinker`).
-/

namespace NativeLoader

/-- What a tabulated linker does with one kind of request. -/
inductive Behaviour where
  | reject (message : String)
  | decline (reason : String)
  | open_
  deriving DecidableEq, Repr

/-- What a tabulated linker does to a file it was given. -/
inductive SideEffect where
  | remove
  | replace
  deriving DecidableEq, Repr

/-- What a linker does with names and with files. -/
structure Behaviours where
  searched : Behaviour := .open_
  extracted : Behaviour := .open_
  deriving DecidableEq, Repr

/-- A linker's answers in a table. -/
structure LinkerTable where
  isolated : Behaviours := {}
  global : Behaviours := {}
  installed : List (String × List String) := []
  effect : Option SideEffect := none
  deriving DecidableEq, Repr

namespace LinkerTable

/-- What the table says about a request. -/
def behaviour (t : LinkerTable) (request : Request) : Behaviour :=
  let behaviours :=
    match request.strategy with
    | .isolated _ => t.isolated
    | .global => t.global
  match request.target with
  | .searched _ => behaviours.searched
  | .extracted _ => behaviours.extracted

/-- Where a symbol is: a function of an engine has its own place, whatever stands in front of its name, and anything else
the place after theirs. -/
def address (symbol : String) : Address :=
  ⟨EntryPoint.all.findIdx (fun e => e.symbol.toList.isSuffixOf symbol.toList) + 1, Nat.succ_ne_zero _⟩

/-- The library that exports some symbols. -/
def imageOf (exports : List String) : Image := ⟨exports.map fun symbol => (symbol, address symbol)⟩

/-- The first line of a file that is a library. -/
def marker : String := "FAKE-NATIVE"

/-- The library in a file's bytes: the marker, and then one export a line. -/
def image? (bytes : List UInt8) : Option Image :=
  match (Text.decode bytes).map (Text.split '\n') with
  | some (first :: exports) => if first = marker then some (imageOf exports) else none
  | _ => none

/-- Opening a target. -/
def openTarget (t : LinkerTable) (fs : FileSystem) : Target → Except Refusal Image
  | .searched name =>
    match t.installed.lookup name with
    | some exports => .ok (imageOf exports)
    | none => .error (.rejected ("no " ++ name ++ " on the library search path"))
  | .extracted path =>
    match (fs.content? path).bind image? with
    | some image => .ok image
    | none => .error (.rejected "invalid ELF header")

/-- The files after the linker had its way with the one it was given. -/
def disturb (t : LinkerTable) (fs : FileSystem) : Target → FileSystem
  | .searched _ => fs
  | .extracted path =>
    match t.effect, fs.removeFile path with
    | some .remove, .ok left => left
    | some .replace, .ok left =>
      match left.makeDirectory FileSystem.directoryMode path with
      | .ok made => made
      | .error _ => left
    | _, _ => fs

/-- The linker that a table describes. -/
def toLinker (t : LinkerTable) : Linker where
  answer _ request fs :=
    match t.behaviour request with
    | .decline reason => (.error (.unavailable reason), fs)
    | .reject message => (.error (.rejected message), t.disturb fs request.target)
    | .open_ => (t.openTarget fs request.target, t.disturb fs request.target)

/-- A name is looked up without a side effect. -/
theorem spares_toLinker (t : LinkerTable) (searched : String) : t.toLinker.Spares (.searched searched) := by
  intro calls strategy fs
  simp only [toLinker]
  split <;> rfl

/-- Without a side effect the linker leaves the files alone. -/
theorem isQuiet_toLinker {t : LinkerTable} (h : t.effect = none) : t.toLinker.IsQuiet := by
  intro calls request fs
  have hd : t.disturb fs request.target = fs := by
    unfold disturb
    cases request.target with
    | searched name => rfl
    | extracted path => simp [h]
  simp only [toLinker]
  split
  · rfl
  · exact hd
  · exact hd

/-- Without a side effect the answers depend on the strategy, and on the name or on the bytes. -/
theorem isSteady_toLinker {t : LinkerTable} (h : t.effect = none) : t.toLinker.IsSteady := by
  refine ⟨isQuiet_toLinker h, ?_, ?_⟩
  · intro calls calls' strategy name fs fs'
    have hopen : t.openTarget fs (.searched name) = t.openTarget fs' (.searched name) := rfl
    simp only [toLinker]
    cases t.behaviour ⟨strategy, .searched name⟩ with
    | reject message => rfl
    | decline reason => rfl
    | open_ => exact hopen
  · intro calls calls' strategy path path' fs fs' hcontent
    have hopen : t.openTarget fs (.extracted path) = t.openTarget fs' (.extracted path') := by
      simp only [openTarget, hcontent]
    have hbehaviour : t.behaviour ⟨strategy, .extracted path⟩ = t.behaviour ⟨strategy, .extracted path'⟩ := by
      cases strategy <;> rfl
    simp only [toLinker, hbehaviour]
    cases t.behaviour ⟨strategy, .extracted path'⟩ with
    | reject message => rfl
    | decline reason => rfl
    | open_ => exact hopen

end LinkerTable
end NativeLoader
