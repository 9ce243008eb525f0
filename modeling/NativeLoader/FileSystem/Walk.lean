import NativeLoader.FileSystem.Basic
import NativeLoader.Path

/-!
# From paths to locations

The kernel's reading of a path: its parts are walked from the root or from the current directory, every part but the
last through a directory. A current directory that was removed holds nothing and takes nothing, and only dots lead on
from it. The mode of a directory is not looked at: each is taken to be one that may be searched. `locate` finds what a
path names, `slot` the place at which a call may make or remove its last name. What one part of a path does is said once
(`Goes`, `walk_of_goes`, `goes_of_walk`). So a walk that arrives has arrived at something (`node?_walk`, `node?_locate`),
and a name below a directory is reached by walking to the directory first (`walk_append`).
-/

namespace NativeLoader
namespace FileSystem

/-- The bytes that a single name may have. -/
def nameLimit : Nat := 255

/-- The bytes that a path may have. -/
def pathLimit : Nat := 4095

/-- A walk from a location along the parts of a path. -/
def walk (fs : FileSystem) : Location → List String → Except FileFault Location
  | here, [] => if (fs.node? here).isSome then .ok here else .error (.system .missing)
  | here, part :: parts =>
    match fs.node? here with
    | some (.directory _) =>
      if part = "" ∨ part = "." then fs.walk here parts
      else if part = ".." then fs.walk here.tail parts
      else if Location.isOrphan here then .error (.system .missing)
      else if nameLimit < part.utf8ByteSize then .error (.system .nameTooLong)
      else if (fs.node? (part :: here)).isSome then fs.walk (part :: here) parts
      else .error (.system .missing)
    | some (.file _ _) => .error (.system .notDirectory)
    | none => .error (.system .missing)

/-- Where the walk along a path starts. -/
def start (fs : FileSystem) (path : String) : Location :=
  if Path.isAbsolute path then [] else fs.current

/-- The fault of a path that names nothing in any file system. -/
def pathFault? (path : String) : Option FileFault :=
  if path.toList.contains '\x00' then some .nulInPath
  else if path = "" then some (.system .missing)
  else if pathLimit < path.utf8ByteSize then some (.system .nameTooLong)
  else none

/-- The location that a path names. -/
def locate (fs : FileSystem) (path : String) : Except FileFault Location :=
  match pathFault? path with
  | some fault => .error fault
  | none => fs.walk (fs.start path) (Text.split '/' path)

/-- The place of the last name of a path, whether something stands there or not. -/
structure Slot where
  /-- The directory that holds the name. -/
  above : Location
  /-- The name; none if the path ends in a dot or two, or is the root's. -/
  name? : Option String
  /-- A slash follows the name. -/
  slash : Bool
  deriving DecidableEq, Repr

/-- The slot at the end of some parts, innermost first, that are not empty at the end. -/
def slotOfParts (fs : FileSystem) (from_ : Location) (slash : Bool) : List String → Except FileFault Slot
  | [] => .ok ⟨[], none, slash⟩
  | last :: before =>
    match fs.walk from_ before.reverse with
    | .error fault => .error fault
    | .ok above =>
      match fs.node? above with
      | some (.directory _) =>
        if last = "." ∨ last = ".." then .ok ⟨above, none, slash⟩
        else if above.isOrphan then .error (.system .missing)
        else if nameLimit < last.utf8ByteSize then .error (.system .nameTooLong)
        else .ok ⟨above, some last, slash⟩
      | _ => .error (.system .notDirectory)

/-- The place at which a call makes or removes the last name of a path. -/
def slot (fs : FileSystem) (path : String) : Except FileFault Slot :=
  match pathFault? path with
  | some fault => .error fault
  | none =>
    fs.slotOfParts (fs.start path) (Path.endsWithSlash path)
      ((Text.split '/' path).reverse.dropWhile (· == ""))

/-! ## One part of a path -/

/-- Where a part of a path leads from a directory: it stays there, goes up, or down to what has the part as its name. -/
inductive Goes (fs : FileSystem) (here : Location) (part : String) : Location → Prop
  | stay : part = "" ∨ part = "." → Goes fs here part here
  | up : part = ".." → Goes fs here part here.tail
  | down : part ≠ "" → part ≠ "." → part ≠ ".." → here.isOrphan = false → part.utf8ByteSize ≤ nameLimit →
      (fs.node? (part :: here)).isSome = true → Goes fs here part (part :: here)

variable {fs : FileSystem} {here loc : Location} {part : String} {parts : List String}

theorem walk_nil_eq_ok_iff : fs.walk here [] = .ok loc ↔ loc = here ∧ (fs.node? here).isSome = true := by
  rw [walk]
  split
  · next hs => simp [hs, eq_comm]
  · next hs => simp [hs]

/-- A walk follows a part to where it leads. -/
theorem walk_of_goes {mode : Nat} {next : Location} (hd : fs.node? here = some (.directory mode))
    (hg : fs.Goes here part next) (parts : List String) : fs.walk here (part :: parts) = fs.walk next parts := by
  rw [walk, hd]
  cases hg with
  | stay hp => exact if_pos hp
  | up hp =>
    subst hp
    rfl
  | down hname hdot hdots horphan hlimit hs =>
    show (if part = "" ∨ part = "." then _ else _) = _
    rw [if_neg (not_or.mpr ⟨hname, hdot⟩), if_neg hdots, if_neg (by simp [horphan]), if_neg (Nat.not_lt.mpr hlimit),
      if_pos hs]

/-- A walk that arrives goes on from directories only. -/
theorem goes_of_walk (h : fs.walk here (part :: parts) = .ok loc) :
    (∃ mode, fs.node? here = some (.directory mode)) ∧
      ∃ next, fs.Goes here part next ∧ fs.walk next parts = .ok loc := by
  rw [walk] at h
  split at h
  · next mode hd =>
    refine ⟨⟨mode, hd⟩, ?_⟩
    split at h
    · next hp => exact ⟨here, .stay hp, h⟩
    · next hp =>
      obtain ⟨hname, hdot⟩ := not_or.mp hp
      split at h
      · next hdots => exact ⟨here.tail, .up hdots, h⟩
      · next hdots =>
        split at h
        · cases h
        · next horphan =>
          split at h
          · cases h
          · next hlimit =>
            split at h
            · next hs =>
              exact ⟨part :: here, .down hname hdot hdots (by simpa using horphan) (Nat.not_lt.mp hlimit) hs, h⟩
            · cases h
  · cases h
  · cases h

/-- A part leads to the same place among other files, if something is there. -/
theorem Goes.of_isSome {after : FileSystem} {next : Location} (hg : fs.Goes here part next)
    (hs : (after.node? next).isSome = true) : after.Goes here part next := by
  cases hg with
  | stay hp => exact .stay hp
  | up hp => exact .up hp
  | down hname hdot hdots horphan hlimit _ => exact .down hname hdot hdots horphan hlimit hs

/-! ## Where walks arrive -/

/-- A walk that arrives starts at something. -/
theorem isSome_of_walk (h : fs.walk here parts = .ok loc) : (fs.node? here).isSome = true := by
  cases parts with
  | nil => exact (walk_nil_eq_ok_iff.mp h).2
  | cons part parts =>
    obtain ⟨⟨mode, hd⟩, -⟩ := goes_of_walk h
    rw [hd]
    rfl

/-- A walk that arrives has arrived at something. -/
theorem node?_walk {fs : FileSystem} : ∀ {parts : List String} {here loc : Location},
    fs.walk here parts = .ok loc → (fs.node? loc).isSome = true
  | [], here, loc, h => by
    obtain ⟨rfl, hs⟩ := walk_nil_eq_ok_iff.mp h
    exact hs
  | part :: parts, here, loc, h => by
    obtain ⟨-, next, -, hrest⟩ := goes_of_walk h
    exact node?_walk hrest

/-- What a path names is there. -/
theorem node?_locate {fs : FileSystem} {path : String} {loc : Location} (h : fs.locate path = .ok loc) :
    (fs.node? loc).isSome = true := by
  unfold locate at h
  split at h
  · cases h
  · exact node?_walk h

/-- A walk in two stages. -/
theorem walk_append {fs : FileSystem} : ∀ {parts more : List String} {here loc : Location},
    fs.walk here parts = .ok loc → fs.walk here (parts ++ more) = fs.walk loc more
  | [], more, here, loc, h => by
    obtain ⟨rfl, -⟩ := walk_nil_eq_ok_iff.mp h
    rfl
  | part :: parts, more, here, loc, h => by
    obtain ⟨⟨mode, hd⟩, next, hg, hrest⟩ := goes_of_walk h
    rw [List.cons_append, walk_of_goes hd hg]
    exact walk_append hrest

end FileSystem
end NativeLoader
