import NativeLoader.Text.Ending

/-!
# File names of libraries

How the platforms spell the file of a library: `Platform.fileName` from its name, and `Platform.alternate?` for the
second spelling that one of them has for every name (`alternate?_fileName`), which is its own inverse
(`alternate?_alternate?`). The extension of a file name starts at its last dot (`splitExtension`).
-/

namespace NativeLoader

/-- The families of operating systems that spell library files alike. -/
inductive Platform where
  | linux
  | macOs
  | windows
  | otherUnix
  deriving DecidableEq, Repr

namespace Platform

/-- The platform this library runs on. -/
def current : Platform := .linux

/-- A platform's name in messages. -/
def name : Platform → String
  | linux => "Linux"
  | macOs => "MacOs"
  | windows => "Windows"
  | otherUnix => "OtherUnix"

/-- The file name of the library with a name. -/
def fileName (p : Platform) (library : String) : String :=
  match p with
  | linux | otherUnix => "lib" ++ library ++ ".so"
  | macOs => "lib" ++ library ++ ".dylib"
  | windows => library ++ ".dll"

/-- The other spelling of a library's file name, on the platform that has two. -/
def alternate? (p : Platform) (file : String) : Option String :=
  match p with
  | macOs =>
    match Text.dropEnd? ".jnilib" file with
    | some stem => some (stem ++ ".dylib")
    | none => (Text.dropEnd? ".dylib" file).map (· ++ ".jnilib")
  | _ => none

end Platform

/-- A file name before its last dot, and from that dot on; a name without a dot has no extension. -/
def splitExtension (file : String) : String × String := Text.splitLast '.' file

/-- The stem and the extension make up the file name. -/
theorem append_splitExtension (file : String) : (splitExtension file).1 ++ (splitExtension file).2 = file :=
  Text.append_splitLast '.' file

namespace Platform

/-- A text that ends one way does not end the other. -/
theorem dropEnd?_jnilib_dylib (stem : String) : Text.dropEnd? ".jnilib" (stem ++ ".dylib") = none := by
  cases h : Text.dropEnd? ".jnilib" (stem ++ ".dylib") with
  | none => rfl
  | some before =>
    have hl := congrArg (fun s => s.toList.reverse) (Text.dropEnd?_eq_some_iff.mp h)
    simp at hl

/-- The two spellings of a file name lead to each other. -/
theorem alternate?_alternate? {p : Platform} {file other : String} (h : p.alternate? file = some other) :
    p.alternate? other = some file := by
  cases p with
  | macOs =>
    simp only [alternate?] at h ⊢
    cases hj : Text.dropEnd? ".jnilib" file with
    | some stem =>
      rw [hj] at h
      cases h
      have hd : Text.dropEnd? ".dylib" (stem ++ ".dylib") = some stem := Text.dropEnd?_eq_some_iff.mpr rfl
      rw [dropEnd?_jnilib_dylib, hd, Text.dropEnd?_eq_some_iff.mp hj]
      rfl
    | none =>
      rw [hj] at h
      obtain ⟨stem, hd, rfl⟩ := Option.map_eq_some_iff.mp h
      have hi : Text.dropEnd? ".jnilib" (stem ++ ".jnilib") = some stem := Text.dropEnd?_eq_some_iff.mpr rfl
      rw [hi, Text.dropEnd?_eq_some_iff.mp hd]
  | linux => cases h
  | windows => cases h
  | otherUnix => cases h

/-- The file of a library has another spelling exactly where there are two. -/
theorem alternate?_fileName (p : Platform) (library : String) :
    p.alternate? (p.fileName library) = if p = .macOs then some ("lib" ++ library ++ ".jnilib") else none := by
  cases p with
  | macOs =>
    have hdylib : Text.dropEnd? ".dylib" ("lib" ++ library ++ ".dylib") = some ("lib" ++ library) :=
      Text.dropEnd?_eq_some_iff.mpr rfl
    simp only [alternate?, fileName, dropEnd?_jnilib_dylib, hdylib, Option.map_some, if_true]
  | linux => rfl
  | windows => rfl
  | otherUnix => rfl

/-- The other spelling is another one. -/
theorem alternate?_ne {p : Platform} {file other : String} (h : p.alternate? file = some other) : other ≠ file := by
  rintro rfl
  cases p with
  | macOs =>
    simp only [alternate?] at h
    split at h
    · next stem hj =>
      -- what ends one way does not end the other way as well
      rw [← Option.some.inj h, dropEnd?_jnilib_dylib] at hj
      cases hj
    · next hj =>
      obtain ⟨stem, -, rfl⟩ := Option.map_eq_some_iff.mp h
      rw [Text.dropEnd?_eq_some_iff.mpr rfl] at hj
      cases hj
  | linux => cases h
  | windows => cases h
  | otherUnix => cases h

end Platform
end NativeLoader
