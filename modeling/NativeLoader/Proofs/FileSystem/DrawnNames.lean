import NativeLoader.FileSystem.Operations
import NativeLoader.Proofs.Text.Pieces
import NativeLoader.Proofs.Text.SameBut

/-!
# Names that hold drawn parts

The kernel reads paths that differ in a drawn part of their last name alike: either it finds the same fault in all of
them, which is never that something is there, or it finds a place for each, all in one directory (`slot_of_isDrawn`).
-/

namespace NativeLoader

namespace Text

theorem split_append (base : String) :
    ∃ parts before, ∀ name : String, '/' ∉ name.toList → split '/' (base ++ name) = parts ++ [before ++ name] := by
  obtain ⟨ps, p, hpieces⟩ := pieces_append '/' base.toList
  refine ⟨ps.map String.ofList, String.ofList p, ?_⟩
  intro name hname
  rw [split, String.toList_append, hpieces name.toList hname, List.map_append, List.map_cons, List.map_nil,
    String.ofList_append, String.ofList_toList]

/-- A text of letters and digits has a byte for each of them. -/
theorem utf8ByteSize_ofList_of_isAlphanum : ∀ {cs : List Char}, (∀ c ∈ cs, c.isAlphanum = true) →
    (String.ofList cs).utf8ByteSize = cs.length
  | [], _ => rfl
  | c :: cs, hcs => by
    have hrest := utf8ByteSize_ofList_of_isAlphanum fun d hd => hcs d (List.mem_cons_of_mem c hd)
    have hsize : c.utf8Size = 1 := by
      obtain ⟨-, hlt, -⟩ := toNat_of_isAlphanum (hcs c List.mem_cons_self)
      rw [Char.utf8Size_eq_one_iff, UInt32.le_iff_toNat_le]
      show c.toNat ≤ 127
      omega
    have hsplit : String.ofList (c :: cs) = String.singleton c ++ String.ofList cs := by
      rw [← String.toList_inj]
      simp
    rw [hsplit, String.utf8ByteSize_append, hrest, String.utf8ByteSize_singleton, hsize, List.length_cons]
    omega

end Text

namespace Draws.IsDrawn

variable {drawn : String}

theorem utf8ByteSize (hd : IsDrawn drawn) : drawn.utf8ByteSize = suffixLength := by
  have hsize := Text.utf8ByteSize_ofList_of_isAlphanum hd.isAlphanum
  rw [String.ofList_toList, hd.length] at hsize
  exact hsize

theorem not_mem (hd : IsDrawn drawn) {c : Char} (hc : c.isAlphanum = false) : c ∉ drawn.toList := by
  intro hm
  rw [hd.isAlphanum c hm] at hc
  cases hc

/-- A name with a drawn part holds no slash if it holds none without that part. -/
theorem not_mem_append (hd : IsDrawn drawn) {stem ending : String} (hs : '/' ∉ (stem ++ ending).toList) :
    '/' ∉ (stem ++ drawn ++ ending).toList := by
  intro hm
  have hnot : '/' ∉ drawn.toList := hd.not_mem (by decide)
  simp only [String.toList_append, List.mem_append, not_or] at hm hs
  rcases hm with (hstem | hdrawn) | hending
  · exact hs.1 hstem
  · exact hnot hdrawn
  · exact hs.2 hending

/-- A name with a drawn part is longer than two characters. -/
theorem length_append (hd : IsDrawn drawn) (before stem ending : String) :
    2 < (before ++ (stem ++ drawn ++ ending)).toList.length := by
  simp only [String.toList_append, List.length_append, hd.length, suffixLength]
  omega

theorem append_ne (hd : IsDrawn drawn) (before stem ending : String) {short : String} (hs : short.toList.length ≤ 2) :
    before ++ (stem ++ drawn ++ ending) ≠ short := by
  intro he
  have hlong := hd.length_append before stem ending
  rw [he] at hlong
  omega

theorem utf8ByteSize_append (hd : IsDrawn drawn) (before stem ending : String) :
    (before ++ (stem ++ drawn ++ ending)).utf8ByteSize =
      before.utf8ByteSize + (stem.utf8ByteSize + suffixLength + ending.utf8ByteSize) := by
  simp only [String.utf8ByteSize_append, hd.utf8ByteSize]

end Draws.IsDrawn

namespace Path

/-- A name without slashes is written behind its directory. -/
theorem join_eq_append (base : String) :
    ∃ written, ∀ name : String, '/' ∉ name.toList → join base name = written ++ name := by
  by_cases hb : base = "" ∨ endsWithSlash base = true
  · refine ⟨base, ?_⟩
    intro name hname
    rw [join_of_name hname, if_pos hb]
  · refine ⟨base ++ "/", ?_⟩
    intro name hname
    rw [join_of_name hname, if_neg hb]

end Path

namespace FileSystem

variable {fs : FileSystem} {stem ending : String}

/-- A walk that does not arrive did not stop because something was there. -/
theorem kind_of_walk_error {fault : FileFault} : ∀ {parts : List String} {here : Location},
    fs.walk here parts = .error fault → fault.kind ≠ SystemFault.present.kind
  | [], here, hw => by
    unfold walk at hw
    split at hw
    · cases hw
    · cases hw
      decide
  | part :: parts, here, hw => by
    unfold walk at hw
    split at hw
    · split at hw
      · exact kind_of_walk_error hw
      · split at hw
        · exact kind_of_walk_error hw
        · split at hw
          · cases hw
            decide
          · split at hw
            · cases hw
              decide
            · split at hw
              · exact kind_of_walk_error hw
              · cases hw
                decide
    · cases hw
      decide
    · cases hw
      decide

/-! ## What does not depend on the drawn part -/

/-- The fault of a path alone does not depend on what was drawn. -/
theorem pathFault?_of_isDrawn (base stem ending : String) :
    (∃ fault, fault.kind ≠ SystemFault.present.kind ∧ ∀ drawn, Draws.IsDrawn drawn →
      pathFault? (base ++ (stem ++ drawn ++ ending)) = some fault) ∨
    ∀ drawn, Draws.IsDrawn drawn → pathFault? (base ++ (stem ++ drawn ++ ending)) = none := by
  have hnul : ∀ drawn, Draws.IsDrawn drawn → (base ++ (stem ++ drawn ++ ending)).toList.contains '\x00' =
      (base ++ (stem ++ ending)).toList.contains '\x00' := by
    intro drawn hd
    have hnot : '\x00' ∉ drawn.toList := hd.not_mem (by decide)
    rw [Bool.eq_iff_iff]
    simp [hnot]
  have hne : ∀ drawn, Draws.IsDrawn drawn → base ++ (stem ++ drawn ++ ending) ≠ "" :=
    fun drawn hd => hd.append_ne base stem ending (by decide)
  by_cases hc : (base ++ (stem ++ ending)).toList.contains '\x00' = true
  · refine Or.inl ⟨.nulInPath, by decide, ?_⟩
    intro drawn hd
    rw [pathFault?, hnul drawn hd, if_pos hc]
  · by_cases hl : pathLimit < base.utf8ByteSize + (stem.utf8ByteSize + Draws.suffixLength + ending.utf8ByteSize)
    · refine Or.inl ⟨.system .nameTooLong, by decide, ?_⟩
      intro drawn hd
      rw [pathFault?, hnul drawn hd, if_neg hc, if_neg (hne drawn hd),
        hd.utf8ByteSize_append, if_pos hl]
    · refine Or.inr ?_
      intro drawn hd
      rw [pathFault?, hnul drawn hd, if_neg hc, if_neg (hne drawn hd), hd.utf8ByteSize_append, if_neg hl]

/-- The place of a last name does not depend on what was drawn, and neither does the fault. -/
theorem slotOfParts_of_isDrawn (fs : FileSystem) (from_ : Location) (parts : List String) (before stem ending : String) :
    (∃ fault, fault.kind ≠ SystemFault.present.kind ∧ ∀ drawn, Draws.IsDrawn drawn →
      fs.slotOfParts from_ false ((before ++ (stem ++ drawn ++ ending)) :: parts) = .error fault) ∨
    ∃ above, ∀ drawn, Draws.IsDrawn drawn →
      fs.slotOfParts from_ false ((before ++ (stem ++ drawn ++ ending)) :: parts) =
        .ok ⟨above, some (before ++ (stem ++ drawn ++ ending)), false⟩ := by
  have hdots : ∀ drawn, Draws.IsDrawn drawn →
      ¬(before ++ (stem ++ drawn ++ ending) = "." ∨ before ++ (stem ++ drawn ++ ending) = "..") :=
    fun drawn hd => not_or.mpr ⟨hd.append_ne before stem ending (by decide), hd.append_ne before stem ending (by decide)⟩
  simp only [slotOfParts]
  cases hw : fs.walk from_ parts.reverse with
  | error fault => exact Or.inl ⟨fault, kind_of_walk_error hw, fun _ _ => rfl⟩
  | ok above =>
    cases hn : fs.node? above with
    | none => exact Or.inl ⟨.system .notDirectory, by decide, fun _ _ => by simp only [hn]⟩
    | some node =>
      cases node with
      | file mode bytes => exact Or.inl ⟨.system .notDirectory, by decide, fun _ _ => by simp only [hn]⟩
      | directory mode =>
        by_cases ho : above.isOrphan = true
        · refine Or.inl ⟨.system .missing, by decide, ?_⟩
          intro drawn hd
          simp only [hn, if_neg (hdots drawn hd), if_pos ho]
        · by_cases hl : nameLimit < before.utf8ByteSize +
              (stem.utf8ByteSize + Draws.suffixLength + ending.utf8ByteSize)
          · refine Or.inl ⟨.system .nameTooLong, by decide, ?_⟩
            intro drawn hd
            simp only [hn, if_neg (hdots drawn hd), if_neg ho, hd.utf8ByteSize_append, if_pos hl]
          · refine Or.inr ⟨above, ?_⟩
            intro drawn hd
            simp only [hn, if_neg (hdots drawn hd), if_neg ho, hd.utf8ByteSize_append, if_neg hl]

/-- A path that ends in a name without a slash does not end with one. -/
theorem endsWithSlash_append {base name : String} (hne : name ≠ "") (hname : '/' ∉ name.toList) :
    Path.endsWithSlash (base ++ name) = false := by
  have hlist : name.toList ≠ [] := fun he => hne (String.toList_inj.mp he)
  obtain ⟨c, hc⟩ : ∃ c, name.toList.getLast? = some c := ⟨_, List.getLast?_eq_some_getLast hlist⟩
  have hslash : c ≠ '/' := by
    rintro rfl
    exact hname (List.mem_of_getLast? hc)
  rw [Path.endsWithSlash, String.toList_append, List.getLast?_append, hc]
  simpa using hslash

theorem isAbsolute_append {base name : String} (hname : '/' ∉ name.toList) :
    Path.isAbsolute (base ++ name) = Path.isAbsolute base := by
  rw [Path.isAbsolute, Path.isAbsolute, String.toList_append]
  cases hb : base.toList with
  | cons c cs => rfl
  | nil =>
    cases hn : name.toList with
    | nil => rfl
    | cons c cs =>
      have hc : c ≠ '/' := by
        rintro rfl
        rw [hn] at hname
        exact hname List.mem_cons_self
      simp [hc]

/-- **Paths with a drawn part are read alike**: all have one fault, or a place in one directory, whatever was drawn. -/
theorem slot_of_isDrawn (fs : FileSystem) (base : String) (hs : '/' ∉ (stem ++ ending).toList) :
    (∃ fault, fault.kind ≠ SystemFault.present.kind ∧ ∀ drawn, Draws.IsDrawn drawn →
      fs.slot (Path.join base (stem ++ drawn ++ ending)) = .error fault) ∨
    ∃ above before, ∀ drawn, Draws.IsDrawn drawn →
      fs.slot (Path.join base (stem ++ drawn ++ ending)) =
        .ok ⟨above, some (before ++ (stem ++ drawn ++ ending)), false⟩ := by
  obtain ⟨written, hwritten⟩ := Path.join_eq_append base
  obtain ⟨parts, before, hsplit⟩ := Text.split_append written
  rcases pathFault?_of_isDrawn written stem ending with ⟨fault, hkind, hfault⟩ | hnone
  · refine Or.inl ⟨fault, hkind, ?_⟩
    intro drawn hd
    rw [hwritten _ (hd.not_mem_append hs), slot, hfault drawn hd]
  · -- what is left of the reading is a walk to the directory, and the limits on the last name
    have hslot : ∀ drawn, Draws.IsDrawn drawn → fs.slot (Path.join base (stem ++ drawn ++ ending)) =
        fs.slotOfParts (if Path.isAbsolute written then [] else fs.current) false
          ((before ++ (stem ++ drawn ++ ending)) :: parts.reverse) := by
      intro drawn hd
      have hname := hd.not_mem_append hs
      have hlast : before ++ (stem ++ drawn ++ ending) ≠ "" := hd.append_ne before stem ending (by decide)
      have hne : stem ++ drawn ++ ending ≠ "" := by
        have hnot : "" ++ (stem ++ drawn ++ ending) ≠ "" := hd.append_ne "" stem ending (by decide)
        rwa [String.empty_append] at hnot
      rw [hwritten _ hname, slot, hnone drawn hd]
      simp only [start, isAbsolute_append hname, endsWithSlash_append hne hname, hsplit _ hname]
      rw [List.reverse_append, List.reverse_singleton, List.singleton_append,
        List.dropWhile_cons_of_neg (by simpa using hlast)]
    rcases slotOfParts_of_isDrawn fs (if Path.isAbsolute written then [] else fs.current) parts.reverse before stem ending
      with ⟨fault, hkind, hfault⟩ | ⟨above, habove⟩
    · refine Or.inl ⟨fault, hkind, ?_⟩
      intro drawn hd
      rw [hslot drawn hd, hfault drawn hd]
    · refine Or.inr ⟨above, before, ?_⟩
      intro drawn hd
      rw [hslot drawn hd, habove drawn hd]

end FileSystem
end NativeLoader
