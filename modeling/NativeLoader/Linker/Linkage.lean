import NativeLoader.FileSystem.Operations
import NativeLoader.Linker.Complaint
import NativeLoader.Linker.Installed
import NativeLoader.Linker.Layout
import NativeLoader.Linker.SharedObject
import NativeLoader.Linker.Token
import NativeLoader.Text.Pieces

/-!
# What is linked together

A library is opened with all that it needs, and with what that needs, breadth first: a `Linkage` holds the objects in
the order in which they were found, and says which of them each one needs. A name leads to an object that is there
already, to an installed library or to a file; the first complaint ends it all. Objects are only ever added at the end
(`length_le_of_openNamed`).
-/

namespace NativeLoader

/-- What was found of an object. -/
inductive Body where
  | shared (object : SharedObject)
  | installed (library : InstalledLibrary)
  deriving Repr

/-- An object that is linked. -/
structure LinkedObject where
  /-- Where it was found. -/
  place : String
  /-- The names by which it was asked for. -/
  names : List String
  /-- The file, unless it is installed. -/
  location? : Option Location
  /-- The directory that it lies in. -/
  directory : String
  /-- The object that first asked for it. -/
  opener? : Option Nat
  body : Body
  /-- The objects that it needs. -/
  needs : List Nat := []
  deriving Repr

/-- The objects that are linked together, in the order in which they were found: for the whole process or not. -/
structure Linkage where
  tokens : Tokens
  isGlobal : Bool
  objects : List LinkedObject := []

/-! ## Opening a file -/

/-- What comes of opening a place. -/
inductive Opening where
  /-- A file that can be mapped. -/
  | opened (location : Location) (bytes : List UInt8)
  /-- A file at which the search ends. -/
  | faulty (fault : LinkFault)
  /-- Nothing, or a file that does not count. -/
  | passed (fault : LinkFault)
  deriving Repr

/-- Opening a place. -/
def FileSystem.openPlace (fs : FileSystem) (place : String) : Opening :=
  match fs.locate place with
  | .error (.system fault) => .passed (.unopened fault)
  | .error _ => .passed (.unopened .missing)
  | .ok location =>
    match fs.node? location with
    | some (.file _ bytes) =>
      match ObjectFile.readFault? bytes with
      | some fault => if fault.isForeign then .passed (.unmapped fault) else .faulty (.unmapped fault)
      | none => .opened location bytes
    | some (.directory _) => .faulty (.unreadable .isDirectory)
    | none => .passed (.unopened .missing)

/-- What a name was found to be. -/
inductive Finding where
  | file (place : String) (location : Location) (bytes : List UInt8)
  | installed (library : InstalledLibrary)
  deriving Repr

namespace LinkedObject

/-- The shared object, unless it is installed. -/
def shared? (o : LinkedObject) : Option SharedObject :=
  match o.body with
  | .shared object => some object
  | .installed _ => none

/-- The object is what a name asks for. -/
def answersTo (o : LinkedObject) (name : String) : Bool :=
  o.place = name || o.names.contains name || (o.shared?.bind (·.string? .ownName)).any (· = name)

end LinkedObject

namespace Linkage

/-! ## Searching -/

/-- The tokens as an object means them, or as the program does. -/
def tokensOf (l : Linkage) (i? : Option Nat) : Tokens :=
  match i?.bind (l.objects[·]?) with
  | some o => { l.tokens with origin := o.directory }
  | none => l.tokens

/-- A directory of a search path as the beginning of a place: a slash ends it, unless it is empty. -/
def beginning (directory : String) : String :=
  if directory = "" then ""
  else
    let trimmed := (directory.toList.reverse.dropWhile (· = '/')).reverse
    String.ofList (trimmed ++ ['/'])

/-- The directories of a search path that an object gives. -/
def directories (tokens : Tokens) (path : String) : List String :=
  if path = "" then []
  else
    (Text.split ':' path).filterMap fun part =>
      if part = "" then some ""
      else
        let directory := tokens.expand part
        if directory = "" then none else some (beginning directory)

/-- The directories that an object and those that led to it give to what they need, at most so many objects. -/
def ownerDirectories (l : Linkage) : Nat → Option Nat → List String
  | n + 1, some i =>
    match l.objects[i]? with
    | some o =>
      directories (l.tokensOf (some i)) ((o.shared?.bind (·.ownerPath?)).getD "") ++ l.ownerDirectories n o.opener?
    | none => []
  | _, _ => []

/-- The directories in which the needs of an object are looked for. -/
def searchDirectories (l : Linkage) (i? : Option Nat) : List String :=
  match (i?.bind (l.objects[·]?)).bind (·.shared?.bind (·.searchPath?)) with
  | some path => directories (l.tokensOf i?) path
  | none => l.ownerDirectories l.objects.length i?

/-- Below a directory, files for a better processor come first. -/
def levels : List String := ["glibc-hwcaps/x86-64-v3/", "glibc-hwcaps/x86-64-v2/", ""]

/-- The places at which a name is looked for. -/
def places (l : Linkage) (i? : Option Nat) (name : String) : List String :=
  (l.searchDirectories i?).flatMap fun directory => levels.map fun level => directory ++ level ++ name

/-- The first of some places that is not passed over, and whether a file for another word size was. -/
def firstOpening (fs : FileSystem) : Bool → List String → Bool × Option (String × Opening)
  | foreign, [] => (foreign, none)
  | foreign, place :: rest =>
    match fs.openPlace place with
    | .passed fault => firstOpening fs (foreign || fault = .unmapped .wordSize) rest
    | opening => (foreign, some (place, opening))

/-- Why a name that is looked up on the search path is not found there. -/
def absence (name : String) : SystemFault :=
  if FileSystem.nameLimit < name.utf8ByteSize then .nameTooLong else .missing

/-- A name that stands for a directory wherever it is looked for. -/
def isDots (name : String) : Bool := name = "" || name = "." || name = ".."

/-- The names of what every process holds, and no search finds. -/
def processNames : List String := ["", "linux-vdso.so.1"]

/-- What a name without a slash is found to be. -/
def search (l : Linkage) (fs : FileSystem) (i? : Option Nat) (name : String) : Except Complaint Finding :=
  if l.isGlobal && processNames.contains name then .ok (.installed { name })
  else
    match firstOpening fs false (l.places i? name) with
    | (_, some (place, .opened location bytes)) => .ok (.file place location bytes)
    | (_, some (place, .faulty fault)) => .error ⟨place, fault⟩
    | (foreign, _) =>
      match InstalledLibrary.find? name with
      | some library => .ok (.installed library)
      | none =>
        if isDots name then .error ⟨InstalledLibrary.directory ++ name, .unreadable .isDirectory⟩
        else .error ⟨name, if foreign then .unmapped .wordSize else .unopened (absence name)⟩

/-- What a name is found to be. -/
def find (l : Linkage) (fs : FileSystem) (i? : Option Nat) (name : String) : Except Complaint Finding :=
  if name.toList.contains '/' then
    let place := (l.tokensOf i?).expand name
    match InstalledLibrary.find? place with
    | some library => .ok (.installed library)
    | none =>
      match fs.openPlace place with
      | .opened location bytes => .ok (.file place location bytes)
      | .faulty fault => .error ⟨place, fault⟩
      | .passed fault => .error ⟨name, fault⟩
  else l.search fs i? name

/-! ## Adding objects -/

/-- The directory of a place, seen from the current directory. -/
def directoryOf (fs : FileSystem) (place : String) : String :=
  let whole := if Path.isAbsolute place then place else (fs.currentPath?.getD "") ++ "/" ++ place
  let above := (whole.toList.reverse.dropWhile (· ≠ '/')).drop 1
  if above.isEmpty then "/" else String.ofList above.reverse

/-- The linkage with one more object. -/
def push (l : Linkage) (o : LinkedObject) : Linkage := { l with objects := l.objects ++ [o] }

/-- The linkage with one of its objects changed. -/
def adjust (l : Linkage) (i : Nat) (f : LinkedObject → LinkedObject) : Linkage :=
  { l with objects := l.objects.modify i f }

/-- Why the shared object in a file that can be mapped is not to be linked. -/
def refusal? (object : SharedObject) : Option LinkFault :=
  if object.isMovableProgram then some .movableProgram
  else if object.forbidsOpening then some .forbidsOpening
  else none

/-- The linkage with a file, which was asked for by a name. -/
def addFile (l : Linkage) (fs : FileSystem) (opener? : Option Nat) (name place : String) (location : Location)
    (bytes : List UInt8) : Except Complaint (Nat × Linkage) :=
  match l.objects.findIdx? (·.location? = some location) with
  | some i => .ok (i, l.adjust i fun o => { o with names := name :: o.names })
  | none =>
    match Layout.fault? bytes with
    | some fault => .error ⟨name, .unmapped fault⟩
    | none =>
      let object := SharedObject.ofBytes bytes
      match refusal? object with
      | some fault => .error ⟨name, fault⟩
      | none =>
        .ok (l.objects.length, l.push
          { place, names := [name], location? := some location, directory := directoryOf fs place, opener?,
            body := .shared object })

/-- The linkage with an installed library. -/
def addInstalled (l : Linkage) (opener? : Option Nat) (library : InstalledLibrary) : Nat × Linkage :=
  (l.objects.length, l.push
    { place := library.path, names := [library.name], location? := none, directory := InstalledLibrary.directory,
      opener?, body := .installed library })

/-- The linkage with what a name asks for. -/
def openNamed (l : Linkage) (fs : FileSystem) (opener? : Option Nat) (name : String) :
    Except Complaint (Nat × Linkage) :=
  match l.objects.findIdx? (·.answersTo name) with
  | some i => .ok (i, l)
  | none =>
    match l.find fs opener? name with
    | .error complaint => .error complaint
    | .ok (.installed library) => .ok (l.addInstalled opener? library)
    | .ok (.file place location bytes) => l.addFile fs opener? name place location bytes

/-! ## All that is needed -/

/-- The linkage with the needs of an object; one that it can do without may fail. -/
def openNeeds (fs : FileSystem) (i : Nat) : List (String × Bool) → Linkage → Except Complaint Linkage
  | [], l => .ok l
  | (need, isOptional) :: needs, l =>
    match l.openNamed fs (some i) ((l.tokensOf (some i)).expand need) with
    | .ok (j, more) => openNeeds fs i needs (more.adjust i fun o => { o with needs := o.needs ++ [j] })
    | .error complaint => if isOptional then openNeeds fs i needs l else .error complaint

/-- The linkage with the needs of its objects from one on, at most so many objects. -/
def openAll (fs : FileSystem) : Nat → Nat → Linkage → Except Complaint Linkage
  | 0, _, l => .ok l
  | n + 1, i, l =>
    match l.objects[i]? with
    | none => .ok l
    | some o =>
      match openNeeds fs i ((o.shared?.map (·.needs)).getD []) l with
      | .error complaint => .error complaint
      | .ok more => openAll fs n (i + 1) more

/-- A library and all that it needs; there are no more objects than files and installed libraries. -/
def ofFile (tokens : Tokens) (isGlobal : Bool) (fs : FileSystem) (file : String) : Except Complaint Linkage :=
  match Linkage.openNamed { tokens, isGlobal } fs none file with
  | .error complaint => .error complaint
  | .ok (_, l) => openAll fs (fs.entries.length + InstalledLibrary.all.length) 0 l

/-! ## The order of binding -/

/-- A walk through what objects need: those that were come to, and those that were left, the last first. -/
structure Walk where
  seen : List Nat := []
  left : List Nat := []
  deriving Repr

/-- The walk goes on to some objects, and from each first to what it needs, at most so deep. -/
def visit (l : Linkage) : Nat → List Nat → Walk → Walk
  | 0, _, w => w
  | n + 1, is, w =>
    is.foldl (fun w i =>
      if w.seen.contains i then w
      else
        let needs := if i = 0 then [] else (l.objects[i]?.map (·.needs)).getD []
        let w := l.visit n needs { w with seen := i :: w.seen }
        { w with left := i :: w.left }) w

/-- The objects in the order in which they are bound: those that are needed first, and the library itself last. -/
def bindingOrder (l : Linkage) : List Nat :=
  let n := l.objects.length
  ((l.visit (n + 1) (List.range n).reverse {}).left.reverse.filter (· ≠ 0)) ++ [0]

/-! ## Growth -/

/-- Objects are only ever added. -/
theorem length_le_of_openNamed {l more : Linkage} {fs : FileSystem} {opener? : Option Nat} {name : String} {i : Nat}
    (h : l.openNamed fs opener? name = .ok (i, more)) : l.objects.length ≤ more.objects.length := by
  unfold openNamed at h
  split at h
  · cases h; exact Nat.le_refl _
  · split at h
    · cases h
    · cases h; simp [push]
    · unfold addFile at h
      split at h
      · cases h; simp [adjust]
      · split at h
        · cases h
        · dsimp only at h
          split at h
          · cases h
          · cases h; simp [push]

end Linkage
end NativeLoader
