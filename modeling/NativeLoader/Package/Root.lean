import NativeLoader.Digest.Sha256
import NativeLoader.FileSystem.Operations

/-!
# Packaged resources

Copies of a library are packaged in roots: directories, tables of bytes, and whatever else can say what it holds
(`Provider`). A `Candidate` is the resource of one root at one path. It is read only on demand, and its digest is taken
in a buffer at a time (`Reader.digest?`). It is that of all its bytes however they are read (`Candidate.digest?_eq`),
unless a read is interrupted.
-/

namespace NativeLoader

/-- A root of another kind: how it names a resource, what it holds, and what opening gives. -/
structure Provider where
  locator : String → String
  contains : String → Bool
  reader : String → Except FileFault Reader

/-- A place that may hold resources. -/
inductive Root where
  /-- Files below a directory. -/
  | directory (base : String)
  /-- A table of paths and bytes. -/
  | embedded (label : String) (entries : List (String × List UInt8))
  /-- A root of another kind. -/
  | provider (provider : Provider)

namespace Root

/-- The path under which all packaged libraries are kept. -/
def home : String := "META-INF/tdlight-native/"

/-- The file that a directory keeps a resource in: the parts of the path, one below the other. -/
def place (base path : String) : String :=
  ((Text.split '/' path).filter (· != "")).foldl Path.join base

/-- The name of a resource in messages. -/
def locator (path : String) : Root → String
  | directory base => "file:" ++ place base path
  | embedded label _ => "embedded:" ++ label ++ "!/" ++ path
  | provider p => p.locator path

/-- A root holds a resource. -/
def contains (fs : FileSystem) (path : String) : Root → Bool
  | directory base => fs.isFile (place base path)
  | embedded _ entries => (entries.lookup path).isSome
  | provider p => p.contains path

/-- Opening a resource. -/
def reader (fs : FileSystem) (path : String) : Root → Except FileFault Reader
  | directory base => fs.reader (place base path)
  | embedded label entries =>
    match entries.lookup path with
    | some bytes => .ok (.ofBytes bytes)
    | none => .error (.reported SystemFault.missing.kind ((embedded label entries).locator path))
  | provider p => p.reader path

/-- A table of bytes, as messages show it. -/
def describeEmbedded (label : String) (entries : List (String × List UInt8)) : String :=
  "EmbeddedRoot \x7b label: " ++ Text.quote label ++ ", entries: " ++ toString entries.length ++ " \x7d"

end Root

namespace Reader

/-- The digest of what is read, taken in up to 8192 bytes at a time until a read delivers none; there is no digest if a
read fails, be it by an interruption. -/
def digest? (hasher : Sha256.Hasher) (r : Reader) : Option Sha256.Digest :=
  match _ : r.read 8192 with
  | (.error _, _) => none
  | (.ok bytes, rest) => if _ : bytes = [] then some hasher.finish else rest.digest? (hasher.update bytes)
termination_by r.delivered.length
decreasing_by
  have hreads : r.Reads 8192 (.ok bytes) rest := reads_of_read (by decide) ‹_›
  exact hreads.length_lt ‹_›

/-- What is taken in is all that the reader delivers, in whatever reads, up to its end. -/
theorem digest?_eq {hasher : Sha256.Hasher} (hrest : hasher.rest.length < 64) (r : Reader) :
    r.digest? hasher = if r.fault = none then some (hasher.update r.delivered).finish else none := by
  fun_induction digest? hasher r with
  | case1 hasher r fault rest hr =>
    cases reads_of_read (by decide) hr with
    | failed _ hfault => simp [hfault]
  | case2 hasher r rest hr =>
    cases reads_of_read (by decide) hr with
    | filled hne => exact absurd rfl hne
    | ended hdelivered hfault => simp [hfault, hdelivered, Sha256.Hasher.update_nil hrest]
  | case3 hasher r bytes rest hr hb ih =>
    cases reads_of_read (by decide) hr with
    | filled _ _ hdelivered hfault =>
      rw [ih (hasher.length_rest_update_lt bytes), hdelivered, hfault, Sha256.Hasher.update_update]
    | ended => exact absurd rfl hb

end Reader

/-- The resource of a root at a path. -/
structure Candidate where
  root : Root
  path : String

namespace Candidate

/-- The name of the resource in messages. -/
def origin (c : Candidate) : String := c.root.locator c.path

/-- The last part of the path. -/
def fileName (c : Candidate) : String := Path.fileName c.path

/-- Opening the resource. -/
def reader (fs : FileSystem) (c : Candidate) : Except FileFault Reader := c.root.reader fs c.path

/-- All bytes of the resource. -/
def contents (fs : FileSystem) (c : Candidate) : Except FileFault (List UInt8) :=
  match c.reader fs with
  | .ok r => r.contents
  | .error fault => .error fault

/-- The digest of a resource that can be read to its end. -/
def digest? (fs : FileSystem) (c : Candidate) : Option Sha256.Digest :=
  match c.reader fs with
  | .ok r => r.digest? {}
  | .error _ => none

/-- The digest of a resource is that of its bytes. -/
theorem digest?_eq {fs : FileSystem} {c : Candidate}
    (hi : ∀ r fault, c.reader fs = .ok r → r.fault = some fault → fault.isInterruption = false) :
    c.digest? fs = (c.contents fs).toOption.map Sha256.hash := by
  unfold digest? contents
  cases hr : c.reader fs with
  | error fault => rfl
  | ok r =>
    obtain ⟨chunks, fault⟩ := r
    cases fault with
    | none => simp [Reader.contents, Reader.ending, Reader.digest?_eq, Sha256.hash, Except.toOption]
    | some fault =>
      have hf : fault.isInterruption = false := hi _ fault hr rfl
      have he : (Reader.mk chunks (some fault)).ending = some fault := by simp [Reader.ending, hf]
      simp [Reader.contents, he, Reader.digest?_eq, Except.toOption]

end Candidate
end NativeLoader
