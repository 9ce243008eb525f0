import NativeLoader.Text.Pieces

/-!
# Paths as texts

A path is a text cut at slashes. This module holds what can be said of it without looking at a file system: joining
(`join`), the last part (`fileName`), the path above it (`parent?`) and the absolute form (`absolute`), which drops
repeated slashes and single dots and keeps double dots and a slash at the end. A name without a slash goes below the
path it is joined to (`join_of_name`).
-/

namespace NativeLoader.Path

/-- A path starts at the root directory. -/
def isAbsolute (p : String) : Bool := p.toList.head? == some '/'

/-- A path ends with a slash. -/
def endsWithSlash (p : String) : Bool := p.toList.getLast? == some '/'

/-- A path below another one: an absolute path stands alone, any other follows after one slash. -/
def join (base p : String) : String :=
  if isAbsolute p then p
  else if base = "" ∨ endsWithSlash base then base ++ p
  else base ++ "/" ++ p

/-- The part of a path after its last slash. -/
def fileName (p : String) : String := (Text.split '/' p).getLastD ""

/-- A part of a path that names something: neither empty nor a single dot. -/
def isStep (s : String) : Bool := s != "" && s != "."

/-- The parts of a path that name something. -/
def steps (p : String) : List String := (Text.split '/' p).filter isStep

/-- The steps of a path, after the single dot that a relative path may start with. -/
def components (p : String) : List String :=
  if !isAbsolute p && (Text.split '/' p).head? == some "." then "." :: steps p else steps p

/-- The path one component up, if there is a component. -/
def parent? (p : String) : Option String :=
  if components p = [] then none
  else some ((if isAbsolute p then "/" else "") ++ String.intercalate "/" (components p).dropLast)

/-- A path and those above it, nearest first, as far as each has a parent. -/
def ancestorsFrom : Nat → String → List String
  | 0, _ => []
  | fuel + 1, p =>
    match parent? p with
    | none => []
    | some up => p :: ancestorsFrom fuel up

/-- A path and those above it, nearest first, without the root directory and the empty path. -/
def ancestors (p : String) : List String := ancestorsFrom ((components p).length + 1) p

/-- Where the absolute form of a path starts: two leading slashes are kept, more or fewer make one. -/
def anchor (cwd p : String) : String :=
  if !isAbsolute p then cwd
  else if "//".toList.isPrefixOf p.toList && !"///".toList.isPrefixOf p.toList then "//"
  else "/"

/-- The absolute form of a path, seen from the directory `cwd`; the empty path has none and stays. -/
def absolute (cwd p : String) : String :=
  if p = "" then ""
  else
    let whole := (steps p).foldl join (anchor cwd p)
    if endsWithSlash p then join whole "" else whole

/-- A name without a slash is no absolute path. -/
theorem isAbsolute_of_not_mem {name : String} (h : '/' ∉ name.toList) : isAbsolute name = false := by
  unfold isAbsolute
  cases hn : name.toList with
  | nil => rfl
  | cons c cs =>
    have hc : c ≠ '/' := fun e => h (by rw [hn, e]; exact List.mem_cons_self)
    simp [hc]

/-- A relative path goes below the path it is joined to. -/
theorem join_of_relative {base p : String} (h : isAbsolute p = false) :
    join base p = if base = "" ∨ endsWithSlash base then base ++ p else base ++ "/" ++ p := by
  rw [join, h]
  rfl

/-- So does a name without a slash. -/
theorem join_of_name {base name : String} (h : '/' ∉ name.toList) :
    join base name = if base = "" ∨ endsWithSlash base then base ++ name else base ++ "/" ++ name :=
  join_of_relative (isAbsolute_of_not_mem h)

end NativeLoader.Path
