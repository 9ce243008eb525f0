/-!
# Tokens in file names

The linker reads tokens in a file name that has a slash in it: a dollar sign and the name of a token, which is in braces
or is followed by no letter, digit or underscore. Each token gives way to what the linker puts for it (`expand`). Any
other dollar sign stands for itself, and so does the rest of the name (`expandChars_of_not_mem`).
-/

namespace NativeLoader

/-- What the linker puts for each token. -/
structure Tokens where
  /-- The directory of the program that asks. -/
  origin : String
  /-- The name of the processor. -/
  platform : String := "x86_64"
  /-- The part of a path that leads to the system's libraries. -/
  library : String := "lib/x86_64-linux-gnu"

namespace Tokens

/-- The tokens by name. -/
def table (tokens : Tokens) : List (String × String) :=
  [("ORIGIN", tokens.origin), ("PLATFORM", tokens.platform), ("LIB", tokens.library)]

/-- A character that a name goes on with. -/
def isNameChar (c : Char) : Bool := c.isAlphanum || c == '_'

/-- How many characters a token takes up at the start of a text, if it stands there. -/
def extent? (name : String) (cs : List Char) : Option Nat :=
  let braced := '\x7b' :: name.toList ++ ['\x7d']
  if braced.isPrefixOf cs then some braced.length
  else if name.toList.isPrefixOf cs && !((cs.drop name.length).head?.any isNameChar) then some name.length
  else none

/-- The token at the start of a text: what is put for it, and how many characters it takes up. -/
def find? (tokens : Tokens) (cs : List Char) : Option (List Char × Nat) :=
  tokens.table.findSome? fun (name, value) => (extent? name cs).map (value.toList, ·)

/-- Every token after a dollar sign gives way to what is put for it. -/
def expandChars (tokens : Tokens) : List Char → List Char
  | [] => []
  | c :: cs =>
    match if c = '$' then tokens.find? cs else none with
    | some (value, n) => value ++ tokens.expandChars (cs.drop n)
    | none => c :: tokens.expandChars cs
termination_by cs => cs.length

/-- A file name with its tokens replaced. -/
def expand (tokens : Tokens) (file : String) : String := String.ofList (tokens.expandChars file.toList)

/-- A text without a dollar sign stays as it is. -/
theorem expandChars_of_not_mem {tokens : Tokens} : ∀ {cs : List Char}, '$' ∉ cs → tokens.expandChars cs = cs
  | [], _ => by rw [expandChars]
  | c :: cs, h => by
    have hc : c ≠ '$' := fun hc => h (hc ▸ List.mem_cons_self)
    rw [expandChars, if_neg hc]
    simp [expandChars_of_not_mem fun hm => h (List.mem_cons_of_mem c hm)]

/-- So does a file name. -/
theorem expand_of_not_mem {tokens : Tokens} {file : String} (h : '$' ∉ file.toList) : tokens.expand file = file := by
  rw [expand, expandChars_of_not_mem h, String.ofList_toList]

end Tokens
end NativeLoader
