import NativeLoader.Linker.Basic
import NativeLoader.Text.Quoted

/-!
# Bound libraries

A library that was bound, with what the caller asked for, what its build puts in front of its names, and where it came
from. Its name and its symbols carry that prefix (`Library.name`, `Library.symbolName`), under which a symbol is looked
up (`Library.symbol?`).
-/

namespace NativeLoader

/-- Where a library was bound. -/
inductive Binding where
  | isolated
  | global
  deriving DecidableEq, Repr

/-- A binding's name in messages. -/
def Binding.name : Binding → String
  | isolated => "Isolated"
  | global => "Global"

/-- Where the bytes of a library came from. -/
inductive Origin where
  /-- The platform's search path. -/
  | searchPath
  /-- A packaged resource, by its locator. -/
  | resource (locator : String)
  deriving DecidableEq, Repr

/-- An origin as messages show it. -/
def Origin.describe : Origin → String
  | searchPath => "SearchPath"
  | resource locator => "Resource(" ++ Text.quote locator ++ ")"

/-- The locator of the resource a library was extracted from. -/
def Origin.locator? : Origin → Option String
  | searchPath => none
  | resource locator => some locator

/-- A library bound into the process. -/
structure Library where
  /-- What tells it apart from every other bound library. -/
  handle : Nat
  /-- The name that was asked for. -/
  logicalName : String
  /-- What its build puts in front of names. -/
  mangledPrefix : String
  binding : Binding
  origin : Origin
  image : Image
  deriving DecidableEq, Repr

namespace Library

/-- The name under which the library is known. -/
def name (l : Library) : String := l.mangledPrefix ++ l.logicalName

/-- A symbol as the library exports it. -/
def symbolName (l : Library) (symbol : String) : String := l.mangledPrefix ++ symbol

/-- Where a symbol of the library is, which it exports under its own prefix. -/
def symbol? (l : Library) (symbol : String) : Option Address := l.image.address? (l.symbolName symbol)

/-- The library exports a symbol, under its own prefix. -/
def hasSymbol (l : Library) (symbol : String) : Bool := (l.symbol? symbol).isSome

/-- A library as messages show it. -/
def describe (l : Library) : String :=
  "LoadedLibrary \x7b name: " ++ Text.quote l.name ++ ", binding: " ++ l.binding.name ++ ", origin: " ++
    l.origin.describe ++ " \x7d"

end Library
end NativeLoader
