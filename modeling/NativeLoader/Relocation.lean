import NativeLoader.Failure
import NativeLoader.Text.Ending

/-!
# Relocation

A build may live under a further module path. Its identity then ends with the identity every build has, and what stands
before that ending, mangled, is put in front of the names of its libraries and of their symbols (`mangledPrefix`, with
`mangledPrefix_append` and `mangledPrefix_eq_ok`). Mangling works character by character (`mangle_append`): an
underscore is escaped, and a dot becomes an underscore.
-/

namespace NativeLoader.Relocation

/-- The characters that stand for one character of a module path. -/
def mangleChar (c : Char) : List Char :=
  if c = '_' then ['_', '1'] else if c = '.' then ['_'] else [c]

/-- A module path as part of a symbol's name. -/
def mangle (path : String) : String := String.ofList (path.toList.flatMap mangleChar)

/-- The identity of a build that was not relocated, with which every other one ends. -/
def ownIdentity : String := "tdlight_loader.shading"

/-- What a build with an identity puts in front of the names of its libraries and symbols. -/
def mangledPrefix (identity : String) : Except Failure String :=
  match Text.dropEnd? ownIdentity identity with
  | some path => .ok (mangle path)
  | none => .error (.of (.foreignIdentity ownIdentity identity))

/-- Mangling works character by character. -/
theorem mangle_append (s t : String) : mangle (s ++ t) = mangle s ++ mangle t := by
  rw [← String.toList_inj]
  simp [mangle]

/-- A build relocated below a path puts the mangled path in front. -/
theorem mangledPrefix_append (path : String) : mangledPrefix (path ++ ownIdentity) = .ok (mangle path) := by
  rw [mangledPrefix, Text.dropEnd?_eq_some_iff.mpr rfl]

/-- What a build puts in front is a mangled path, below which it was relocated. -/
theorem mangledPrefix_eq_ok {identity written : String} (h : mangledPrefix identity = .ok written) :
    ∃ path, identity = path ++ ownIdentity ∧ written = mangle path := by
  unfold mangledPrefix at h
  split at h
  · next path hd =>
    cases h
    exact ⟨path, Text.dropEnd?_eq_some_iff.mp hd, rfl⟩
  · cases h

/-- A build that was not relocated puts nothing in front. -/
theorem mangledPrefix_ownIdentity : mangledPrefix ownIdentity = .ok "" := by
  have h := mangledPrefix_append ""
  rwa [String.empty_append] at h

end NativeLoader.Relocation
