import NativeLoader.Linker.Tabulated
import NativeLoader.Proofs.Loading.Outcome
import NativeLoader.Proofs.Text.Pieces
import NativeLoader.Text.Within

/-!
# Names of relocated builds

A mangled path can be read back with one character of lookahead: an underscore before a one was escaped, any other was
a dot (`Relocation.unmangleChars`). This gives the path again if no dot of it stands before a one (`IsLegible`,
`unmangleChars_mangled`), as none does where the segments of the path begin with no digit (`isLegible_of_segments`). So
different paths of this kind are mangled differently (`eq_of_mangle`), and what two builds put in front of the names of
their libraries and symbols tells them apart (`names_of_distinct_builds`).
-/

namespace NativeLoader

namespace Relocation

/-- No dot of a path stands before a one. -/
def IsLegible (path : String) : Prop := Text.isWithin ".1" path = false

/-- The characters that mangled ones stand for. -/
def unmangleChars : List Char → List Char
  | '_' :: '1' :: cs => '_' :: unmangleChars cs
  | '_' :: cs => '.' :: unmangleChars cs
  | c :: cs => c :: unmangleChars cs
  | [] => []

theorem isLegible_iff {path : String} : IsLegible path ↔ ¬['.', '1'] <:+: path.toList := by
  rw [IsLegible, Text.isWithin, ← Text.holdsWord_iff, Bool.not_eq_true]
  rfl

/-! ## Reading back -/

theorem unmangleChars_escaped (cs : List Char) : unmangleChars ('_' :: '1' :: cs) = '_' :: unmangleChars cs := by
  rw [unmangleChars]

theorem unmangleChars_underscore {cs : List Char} (h : cs.head? ≠ some '1') :
    unmangleChars ('_' :: cs) = '.' :: unmangleChars cs := by
  rw [unmangleChars]
  rintro ds rfl
  exact h rfl

theorem unmangleChars_cons_of_ne {c : Char} (h : c ≠ '_') (cs : List Char) :
    unmangleChars (c :: cs) = c :: unmangleChars cs := by
  rw [unmangleChars]
  · rintro ds rfl
    exact absurd rfl h
  · rintro rfl
    exact absurd rfl h

/-- Only a one is mangled to what begins with a one. -/
theorem head?_of_mangled {cs : List Char} (h : (cs.flatMap mangleChar).head? = some '1') : cs.head? = some '1' := by
  cases cs with
  | nil => cases h
  | cons c cs =>
    rw [List.flatMap_cons, mangleChar] at h
    split at h
    · simp at h
    · split at h
      · simp at h
      · exact h

/-- Mangled characters are read back, unless a dot among them stood before a one. -/
theorem unmangleChars_mangled {cs : List Char} (h : ¬['.', '1'] <:+: cs) :
    unmangleChars (cs.flatMap mangleChar) = cs := by
  induction cs with
  | nil => rfl
  | cons c cs ih =>
    rw [List.infix_cons_iff, not_or] at h
    have hrest := ih h.2
    rw [List.flatMap_cons, mangleChar]
    split
    · next hc =>
      subst hc
      show unmangleChars ('_' :: '1' :: cs.flatMap mangleChar) = _
      rw [unmangleChars_escaped, hrest]
    · next hc =>
      split
      · next hdot =>
        subst hdot
        -- what follows the dot does not begin with a one, and so neither does its mangled form
        have hone : (cs.flatMap mangleChar).head? ≠ some '1' := by
          intro hhead
          obtain ⟨ds, rfl⟩ := List.head?_eq_some_iff.mp (head?_of_mangled hhead)
          exact h.1 ⟨ds, rfl⟩
        show unmangleChars ('_' :: cs.flatMap mangleChar) = _
        rw [unmangleChars_underscore hone, hrest]
      · show unmangleChars (c :: cs.flatMap mangleChar) = _
        rw [unmangleChars_cons_of_ne hc, hrest]

/-- Paths without a dot before a one are mangled to different texts. -/
theorem eq_of_mangle {a b : String} (ha : IsLegible a) (hb : IsLegible b) (h : mangle a = mangle b) : a = b := by
  have hchars : a.toList.flatMap mangleChar = b.toList.flatMap mangleChar := by
    simpa [mangle] using congrArg String.toList h
  rw [← String.toList_inj]
  calc a.toList = unmangleChars (a.toList.flatMap mangleChar) := (unmangleChars_mangled (isLegible_iff.mp ha)).symm
    _ = unmangleChars (b.toList.flatMap mangleChar) := by rw [hchars]
    _ = b.toList := unmangleChars_mangled (isLegible_iff.mp hb)

/-! ## The paths of modules -/

/-- Where no segment begins with a digit, as none does that is an identifier, no dot stands before a one. -/
theorem isLegible_of_segments {path : String}
    (h : ∀ segment ∈ Text.split '.' path, ∀ c ∈ segment.toList.head?, c.isDigit = false) : IsLegible path := by
  rw [isLegible_iff]
  rintro ⟨before, after, hpath⟩
  obtain ⟨p, ps, hp⟩ := List.exists_cons_of_ne_nil (Text.pieces_ne_nil '.' after)
  -- the segment after such a dot begins with the one
  have hpieces : Text.pieces '.' path.toList = Text.pieces '.' before ++ ('1' :: p) :: ps := by
    have hcut : path.toList = before ++ '.' :: '1' :: after := by simp [← hpath]
    rw [hcut, Text.pieces_append_cons, Text.pieces, if_neg (by decide), hp]
    rfl
  have hsegment : String.ofList ('1' :: p) ∈ Text.split '.' path := by
    rw [Text.split, hpieces]
    simp
  have hdigit := h _ hsegment '1' (by simp)
  exact absurd hdigit (by decide)

/-- What stands before the end of a path has no dot before a one if the path has none. -/
theorem IsLegible.of_append {path ending : String} (h : IsLegible (path ++ ending)) : IsLegible path := by
  rw [isLegible_iff] at h ⊢
  intro hpath
  refine h (hpath.trans ?_)
  rw [String.toList_append]
  exact (List.prefix_append _ _).isInfix

/-- Different identities give different prefixes. -/
theorem mangledPrefix_ne {identity identity' written written' : String} (hne : identity ≠ identity')
    (hl : IsLegible identity) (hl' : IsLegible identity') (hp : mangledPrefix identity = .ok written)
    (hp' : mangledPrefix identity' = .ok written') : written ≠ written' := by
  obtain ⟨path, rfl, rfl⟩ := mangledPrefix_eq_ok hp
  obtain ⟨path', rfl, rfl⟩ := mangledPrefix_eq_ok hp'
  intro hsame
  exact hne (congrArg (· ++ ownIdentity) (eq_of_mangle hl.of_append hl'.of_append hsame))

end Relocation

namespace Loader

/-- The identity of the build that a loader belongs to. -/
def buildIdentity (l : Loader) : String := l.identity.getD Relocation.ownIdentity

open Relocation (IsLegible mangle)

/-- **Names tell builds apart.** Mangling is injective on the paths in which no dot stands before a one, and in no path
whose segments begin without a digit does one. So of two loaders with different identities of that kind, each accepted,
what they put in front of names differs, and so do the names under which they know a library that both are asked for,
the names of the libraries that they bind for it, and the names under which these export a symbol. -/
theorem names_of_distinct_builds :
    (∀ a b, IsLegible a → IsLegible b → mangle a = mangle b → a = b) ∧
    (∀ path, (∀ segment ∈ Text.split '.' path, ∀ c ∈ segment.toList.head?, c.isDigit = false) → IsLegible path) ∧
    ∀ (l l' : Loader) (written written' : String), l.buildIdentity ≠ l'.buildIdentity →
      IsLegible l.buildIdentity → IsLegible l'.buildIdentity →
      l.mangledPrefix = .ok written → l'.mangledPrefix = .ok written' →
      written ≠ written' ∧ ∀ name, written ++ name ≠ written' ++ name ∧
        ∀ lib lib', l.Binds name lib → l'.Binds name lib' →
          lib.name ≠ lib'.name ∧ ∀ symbol, lib.symbolName symbol ≠ lib'.symbolName symbol := by
  refine ⟨fun a b => Relocation.eq_of_mangle, fun path => Relocation.isLegible_of_segments, ?_⟩
  intro l l' written written' hne hl hl' hp hp'
  have hwritten : written ≠ written' := Relocation.mangledPrefix_ne hne hl hl' hp hp'
  have happend : ∀ text, written ++ text ≠ written' ++ text := by
    intro text hsame
    exact hwritten ((String.append_left_inj text).mp hsame)
  refine ⟨hwritten, ?_⟩
  intro name
  refine ⟨happend name, ?_⟩
  intro lib lib' hb hb'
  have hown : lib.mangledPrefix = written := by simpa [hp] using hb.mangledPrefix.symm
  have hown' : lib'.mangledPrefix = written' := by simpa [hp'] using hb'.mangledPrefix.symm
  constructor
  · rw [Library.name, Library.name, hb.logicalName, hb'.logicalName, hown, hown']
    exact happend name
  · intro symbol
    rw [Library.symbolName, Library.symbolName, hown, hown']
    exact happend symbol

/-- A loader of the build relocated below a path. -/
def builtBelow (path : String) : Loader :=
  { linker := LinkerTable.toLinker {}, identity := some (path ++ Relocation.ownIdentity) }

/-- Builds below `a_.b` and `a._b` know the library `x` under different names. -/
theorem names_of_distinct_builds_underscore :
    IsLegible (builtBelow "a_.b.").buildIdentity ∧ IsLegible (builtBelow "a._b.").buildIdentity ∧
      (builtBelow "a_.b.").mangledPrefix = .ok "a_1_b_" ∧ (builtBelow "a._b.").mangledPrefix = .ok "a__1b_" ∧
      (builtBelow "a_.b.").Binds "x" ⟨0, "x", "a_1_b_", .isolated, .searchPath, ⟨[]⟩⟩ ∧
      (builtBelow "a._b.").Binds "x" ⟨0, "x", "a__1b_", .isolated, .searchPath, ⟨[]⟩⟩ ∧
      "a_1_b_" ≠ "a__1b_" ∧ ("a_1_b_" ++ "x" : String) ≠ "a__1b_" ++ "x" := by
  have hl : IsLegible (builtBelow "a_.b.").buildIdentity := by rfl
  have hl' : IsLegible (builtBelow "a._b.").buildIdentity := by rfl
  have hp : (builtBelow "a_.b.").mangledPrefix = .ok "a_1_b_" := by rfl
  have hp' : (builtBelow "a._b.").mangledPrefix = .ok "a__1b_" := by rfl
  have hne : (builtBelow "a_.b.").buildIdentity ≠ (builtBelow "a._b.").buildIdentity := by decide
  obtain ⟨hwritten, hnames⟩ := names_of_distinct_builds.2.2 _ _ _ _ hne hl hl' hp hp'
  exact ⟨hl, hl', hp, hp', ⟨hp, rfl, by simp [builtBelow]⟩, ⟨hp', rfl, by simp [builtBelow]⟩, hwritten, (hnames "x").1⟩

end Loader
end NativeLoader
