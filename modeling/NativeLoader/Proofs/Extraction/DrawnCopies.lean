import NativeLoader.Proofs.Extraction.Disposal
import NativeLoader.Proofs.FileSystem.DrawnNames

/-!
# Copies under drawn names

Extracting does not depend on the random characters, but for the name of the copy. Two processes with the same files both
extract a copy with the same bytes, or both fail with messages that are the same but for what was drawn, unless one of
them draws only names that are taken (`extract_sameBut`). What asking for permission to execute a copy
comes to is a matter of the volume alone (`AddsFile.checkExecutable_eq`).
-/

namespace NativeLoader

namespace Host

/-- Two processes that differ in nothing but what is drawn in them, what was requested and what was said. -/
structure Matches (h h' : Host) : Prop where
  files : h'.files = h.files
  temporary : h'.temporary = h.temporary
  contexts : h'.contexts = h.contexts
  directories : h'.directories = h.directories
  pending : h'.pending = h.pending
  handles : h'.handles = h.handles

/-- What was made, or the fault of making it, is the same but for what was drawn. -/
inductive MadeSameBut (drawn other : String) :
    Except FileFault (String × Location) → Except FileFault (String × Location) → Prop
  | made {path path' : String} (loc loc' : Location) : Text.SameBut drawn other path path' →
      MadeSameBut drawn other (.ok (path, loc)) (.ok (path', loc'))
  | failed {fault fault' : FileFault} : Text.SameBut drawn other fault.message fault'.message →
      MadeSameBut drawn other (.error fault) (.error fault')

theorem MadeSameBut.refl {drawn other : String} : ∀ made : Except FileFault (String × Location),
    MadeSameBut drawn other made made
  | .ok (path, loc) => .made loc loc (.same path)
  | .error fault => .failed (.same fault.message)

variable {h h' : Host} {base stem ending directory : String}

/-! ## Names that are drawn in two processes -/

/-- Where all names have a fault, the first that is drawn has it. -/
theorem makeFresh_of_slot_error {fault : FileFault} {drawn : String} (tries : Nat)
    (hk : fault.kind ≠ SystemFault.present.kind) (hd : (h.draws.take Draws.suffixLength).1 = drawn)
    (hs : h.files.slot (Path.join base (stem ++ drawn ++ ending)) = .error fault) :
    (h.makeFresh (fun path fs => fs.createFile copyMode path) base stem ending (tries + 1)).1 =
      .error (.located fault (Path.join base (stem ++ drawn ++ ending))) := by
  unfold makeFresh
  simp only [hd, FileSystem.createFile, hs, if_neg hk]

theorem createFile_of_slot (mode : Nat) {path name : String} {above : Location} {fs : FileSystem}
    (hs : fs.slot path = .ok ⟨above, some name, false⟩) :
    fs.createFile mode path = if (fs.node? (name :: above)).isSome then .error (.system .present)
      else .ok (name :: above, fs.put (name :: above) (.file mode [])) := by
  simp only [FileSystem.createFile, hs, Bool.false_eq_true, if_false]

/-- Where all names have a place, one of them is made, or all that are drawn are taken. -/
theorem makeFresh_of_slot {above : Location} {before : String} : ∀ {tries : Nat} {h : Host},
    (∀ drawn, Draws.IsDrawn drawn → h.files.slot (Path.join base (stem ++ drawn ++ ending)) =
      .ok ⟨above, some (before ++ (stem ++ drawn ++ ending)), false⟩) →
    (∃ drawn loc, Draws.IsDrawn drawn ∧
      (h.makeFresh (fun path fs => fs.createFile copyMode path) base stem ending tries).1 =
        .ok (Path.join base (stem ++ drawn ++ ending), loc)) ∨
    (h.makeFresh (fun path fs => fs.createFile copyMode path) base stem ending tries).1 =
      .error (.located .namesExhausted base)
  | 0, h, _ => Or.inr rfl
  | tries + 1, h, hs => by
    have hd := Draws.isDrawn_take h.draws
    have hcreate := createFile_of_slot copyMode (hs _ hd)
    unfold makeFresh
    by_cases hn : (h.files.node? ((before ++ (stem ++ (h.draws.take Draws.suffixLength).1 ++ ending)) :: above)).isSome =
        true
    · rw [if_pos hn] at hcreate
      simp only [hcreate]
      rw [if_pos (show (FileFault.system .present).kind = SystemFault.present.kind from rfl)]
      exact makeFresh_of_slot (h := { h with draws := (h.draws.take Draws.suffixLength).2 }) hs
    · rw [if_neg hn] at hcreate
      simp only [hcreate]
      exact Or.inl ⟨_, _, hd, rfl⟩

/-- Paths whose last names differ in what was drawn are the same but for that. -/
theorem join_sameBut (base : String) {drawn other : String} (hd : Draws.IsDrawn drawn) (ho : Draws.IsDrawn other)
    (hs : '/' ∉ (stem ++ ending).toList) :
    Text.SameBut drawn other (Path.join base (stem ++ drawn ++ ending)) (Path.join base (stem ++ other ++ ending)) := by
  obtain ⟨written, hwritten⟩ := Path.join_eq_append base
  rw [hwritten _ (hd.not_mem_append hs), hwritten _ (ho.not_mem_append hs)]
  exact .append (.same _) (.append (.append (.same _) .drawn) (.same _))

/-- Temporary files that are made among the same files are the same but for what was drawn, unless all names that are
drawn for one of them are taken. -/
theorem makeTemporaryFile_sameBut (hf : h'.files = h.files) (directory : String) (hs : '/' ∉ (stem ++ ending).toList) :
    (∃ drawn other, Draws.IsDrawn drawn ∧ Draws.IsDrawn other ∧ (h'.draws = h.draws → other = drawn) ∧
      MadeSameBut drawn other (h.makeTemporaryFile directory stem ending).1
        (h'.makeTemporaryFile directory stem ending).1) ∨
    h'.draws ≠ h.draws ∧ ∃ base, (h.makeTemporaryFile directory stem ending).1 = .error (.located .namesExhausted base) ∨
      (h'.makeTemporaryFile directory stem ending).1 = .error (.located .namesExhausted base) := by
  have hfirst := Draws.isDrawn_take h.draws
  have hfirst' := Draws.isDrawn_take h'.draws
  have hbase : h'.temporaryBase directory = h.temporaryBase directory := temporaryBase_congr (by rw [hf])
  unfold makeTemporaryFile
  rw [hbase]
  cases h.temporaryBase directory with
  | error fault => exact Or.inl ⟨_, _, hfirst, hfirst, fun _ => rfl, .refl _⟩
  | ok base =>
    simp only
    by_cases hdraws : h'.draws = h.draws
    · rw [makeFresh_congr hf hdraws]
      exact Or.inl ⟨_, _, hfirst, hfirst, fun _ => rfl, .refl _⟩
    · rcases h.files.slot_of_isDrawn base hs with ⟨fault, hk, hfault⟩ | ⟨above, before, hplace⟩
      · refine Or.inl ⟨_, _, hfirst, hfirst', fun he => absurd he hdraws, ?_⟩
        have hfault' := hfault _ hfirst'
        rw [← hf] at hfault'
        simp only [temporaryTries]
        rw [makeFresh_of_slot_error _ hk rfl (hfault _ hfirst), makeFresh_of_slot_error _ hk rfl hfault']
        exact .failed (.append (.same _) ((join_sameBut base hfirst hfirst' hs).quote hfirst hfirst'))
      · have hplace' := hplace
        rw [← hf] at hplace'
        rcases makeFresh_of_slot hplace with ⟨drawn, loc, hd, hmade⟩ | hexhausted
        · rcases makeFresh_of_slot hplace' with ⟨other, loc', ho, hmade'⟩ | hexhausted'
          · refine Or.inl ⟨drawn, other, hd, ho, fun he => absurd he hdraws, ?_⟩
            rw [hmade, hmade']
            exact .made loc loc' (join_sameBut base hd ho hs)
          · exact Or.inr ⟨hdraws, base, Or.inr hexhausted'⟩
        · exact Or.inr ⟨hdraws, base, Or.inl hexhausted⟩

/-! ## Copies that are made in two processes -/

/-- The fault with which copying a resource ends, if it does not come to the end of the resource. -/
def copyFault? (c : Candidate) (fs : FileSystem) : Option FileFault :=
  match c.reader fs with
  | .error fault => some fault
  | .ok r => r.ending

/-- What extracting comes to is a matter of the name that is made and of the resource. -/
theorem fst_extract {c : Candidate} (hc : c.root.contains h.files c.path = true) :
    (h.extract c directory).1 =
      match (h.makeTemporaryFile directory (splitExtension c.fileName).1 (splitExtension c.fileName).2).1 with
      | .error fault => .error (.of (.file ("cannot create temp file in " ++ directory) fault))
      | .ok (path, _) =>
        match copyFault? c h.files with
        | none => .ok path
        | some fault => .error (.of (.file ("cannot extract " ++ c.origin ++ " to " ++ path) fault)) := by
  unfold extract
  simp only
  cases hm : h.makeTemporaryFile directory (splitExtension c.fileName).1 (splitExtension c.fileName).2 with
  | mk made ready =>
    cases made with
    | error fault => rfl
    | ok found =>
      obtain ⟨path, loc⟩ := found
      obtain ⟨_, _, _, _, _, _, hcreated⟩ := makeTemporaryFile_eq_ok hm
      have hreader : c.reader ready.files = c.reader h.files :=
        Root.reader_of_growsTo (.createFile hcreated) hc
      simp only [Candidate.copyTo, copyFault?, hreader]
      cases c.reader h.files with
      | error fault => rfl
      | ok r =>
        simp only
        cases r.ending <;> rfl

/-- A copy stands at a path: one file more than before, for its owner, with some bytes. -/
def HoldsCopy (h : Host) (path : String) (bytes : List UInt8) (extracted : Host) : Prop :=
  ∃ loc, h.files.AddsFile path loc extracted.files ∧ extracted.files.node? loc = some (.file copyMode bytes)

/-- What is extracted is a copy with all bytes of the resource. -/
theorem extract_holdsCopy {c : Candidate} {path : String} {extracted : Host}
    (hx : h.extract c directory = (.ok path, extracted)) :
    ∃ bytes, (c.root.contains h.files c.path = true → c.contents h.files = .ok bytes) ∧
      h.HoldsCopy path bytes extracted := by
  obtain ⟨bytes, hcopied⟩ := extract_eq_ok hx
  obtain ⟨⟨loc, hadded⟩, _⟩ := extract_addsFile hx
  obtain ⟨loc', _, hlocate, hholds⟩ := hcopied.isNew
  have hsame := hadded.locate.symm.trans hlocate
  cases hsame
  exact ⟨bytes, hcopied.contents, loc, hadded, hholds⟩

/-- **Extracting among the same files** comes to the same, but for what was drawn: a copy, or a message; unless all names
that are drawn for one of the copies are taken. -/
theorem extract_sameBut (hf : h'.files = h.files) (directory : String) {c : Candidate}
    (hc : c.root.contains h.files c.path = true) :
    (∃ drawn other, Draws.IsDrawn drawn ∧ Draws.IsDrawn other ∧ (h'.draws = h.draws → other = drawn) ∧
      ((∃ failure failure', (h.extract c directory).1 = .error failure ∧ (h'.extract c directory).1 = .error failure' ∧
        Text.SameBut drawn other failure.message failure'.message) ∨
      ∃ path path', (h.extract c directory).1 = .ok path ∧ (h'.extract c directory).1 = .ok path' ∧
        Text.SameBut drawn other path path')) ∨
    h'.draws ≠ h.draws ∧ ∃ base,
      (h.makeTemporaryFile directory (splitExtension c.fileName).1 (splitExtension c.fileName).2).1 =
        .error (.located .namesExhausted base) ∨
      (h'.makeTemporaryFile directory (splitExtension c.fileName).1 (splitExtension c.fileName).2).1 =
        .error (.located .namesExhausted base) := by
  have hc' := hc
  rw [← hf] at hc'
  rcases makeTemporaryFile_sameBut hf directory c.not_mem_splitExtension with ⟨drawn, other, hd, ho, hsame, hmade⟩ | hexhausted
  · refine Or.inl ⟨drawn, other, hd, ho, hsame, ?_⟩
    rw [fst_extract hc, fst_extract hc', hf]
    generalize (h.makeTemporaryFile directory (splitExtension c.fileName).1 (splitExtension c.fileName).2).1 = made
      at hmade ⊢
    generalize (h'.makeTemporaryFile directory (splitExtension c.fileName).1 (splitExtension c.fileName).2).1 = made'
      at hmade ⊢
    cases hmade with
    | failed hmessage => exact Or.inl ⟨_, _, rfl, rfl, .append (.same _) hmessage⟩
    | made loc loc' hpath =>
      simp only
      cases copyFault? c h.files with
      | none => exact Or.inr ⟨_, _, rfl, rfl, hpath⟩
      | some fault =>
        refine Or.inl ⟨_, _, rfl, rfl, ?_⟩
        exact .append (.append (.append (.same _) hpath) (.same _)) (.same _)
  · exact Or.inr hexhausted

end Host

/-! ## Permission to execute a copy -/

/-- Whether a copy can be executed is a matter of its volume: the mode of the copy is changed unless that is refused, and
then it can be executed unless that is forbidden. -/
theorem FileSystem.AddsFile.checkExecutable_eq {fs grown : FileSystem} {path : String} {loc : Location}
    {bytes : List UInt8} (ha : fs.AddsFile path loc grown) (hn : grown.node? loc = some (.file copyMode bytes)) :
    grown.checkExecutable path =
      match fs.volume.modeFault with
      | some fault => (.error fault, grown)
      | none => (.ok (!fs.volume.forbidsExecution), grown.adjust loc (Node.withMode (copyMode ||| executeBits))) := by
  have hstatus : grown.status path = .ok (.file copyMode bytes) := by
    simp only [status, ha.locate, hn]
  have hnot : grown.isExecutable path = false := by
    simp only [isExecutable, hstatus]
    rfl
  have hvolume : grown.volume = fs.volume := ha.growsTo.volume
  have hbits : (Node.file copyMode bytes).mode &&& executeBits ≠ executeBits := by
    show copyMode &&& executeBits ≠ executeBits
    decide
  unfold FileSystem.checkExecutable
  simp only [hnot, Bool.false_eq_true, if_false, hstatus, if_neg hbits]
  have hset : grown.setMode ((Node.file copyMode bytes).mode ||| executeBits) path =
      match fs.volume.modeFault with
      | some fault => .error fault
      | none => .ok (grown.adjust loc (Node.withMode (copyMode ||| executeBits))) := by
    simp only [FileSystem.setMode, ha.locate, hvolume]
    rfl
  rw [hset]
  cases hf : fs.volume.modeFault with
  | some fault => rfl
  | none =>
    rw [hf] at hset
    have hadded := ha.setMode hset
    obtain ⟨name, above, rfl, _⟩ := ha.slot
    have hchanged : (grown.adjust (name :: above) (Node.withMode (copyMode ||| executeBits))).node? (name :: above) =
        some (.file (copyMode ||| executeBits) bytes) := by
      rw [node?_adjust_self (by simp), hn]
      rfl
    have hrights : ownerExecutes (copyMode ||| executeBits) = true := by decide
    simp only [isExecutable, status, hadded.locate, hchanged, hrights, Bool.true_and, hadded.growsTo.volume]

end NativeLoader
