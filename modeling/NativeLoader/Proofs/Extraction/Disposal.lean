import NativeLoader.Proofs.Extraction.Copies
import NativeLoader.Proofs.FileSystem.Removal

/-!
# What becomes of copies

Extracting comes to one of three things (`ExtractsTo`): no file could be made, or the resource broke off and the file
is deleted again, or there is a copy. So a copy is a new entry of the loader's directory and holds all bytes of the
resource (`extract_eq_ok`), it is a file that was added (`extract_addsFile`), and an extraction that fails leaves the
files and what is put off as they were (`extract_error`). Deleting a copy takes the one file away again
(`discard_of_addsFile`), and one that is deleted is accounted for whatever happened to it: nothing is at its path, or
its deletion was put off (`gone_or_pending_discard`).
-/

namespace NativeLoader

namespace Host

variable {h after : Host} {path directory : String} {loc : Location} {fs : FileSystem}

/-! ## Deleting -/

/-- Deleting a file that was added gives back the files there were before it. -/
theorem discard_of_addsFile (ha : fs.AddsFile path loc h.files) :
    h.discard true path = (true, { h with files := fs }) := by
  simp [discard, ha.removeFile]

/-- Nothing is at the path of a copy that is said to be gone, and nothing was put off. -/
theorem discard_of_true (hd : (h.discard true path).1 = true) :
    (h.discard true path).2.files.isPresent path = false ∧ (h.discard true path).2.pending = h.pending := by
  unfold discard at hd ⊢
  simp only [Bool.not_true, Bool.false_eq_true, if_false] at hd ⊢
  split at hd
  · next left hr => exact ⟨FileSystem.isPresent_of_removeFile hr, rfl⟩
  · next fault hr =>
    split at hd
    · next hk =>
      rw [if_pos hk]
      exact ⟨FileSystem.isPresent_of_removeFile_missing hr hk, rfl⟩
    · cases hd

/-- The deletion of one that is not was put off, and nothing else happened. -/
theorem discard_of_false (hd : (h.discard true path).1 = false) : (h.discard true path).2 = h.defer path := by
  rcases discard_eq true path h with ⟨-, hkept⟩ | ⟨left, -, hgone⟩ | ⟨fault, -, hgone | hlater⟩
  · cases hkept
  · rw [hgone] at hd
    cases hd
  · rw [hgone] at hd
    cases hd
  · rw [hlater]

/-- Nothing is at the path of a copy that was deleted, or its deletion was put off. -/
theorem gone_or_pending_discard (path : String) (h : Host) :
    (h.discard true path).2.files.isPresent path = false ∨ path ∈ (h.discard true path).2.pending := by
  cases hd : (h.discard true path).1 with
  | true => exact Or.inl (discard_of_true hd).1
  | false =>
    rw [discard_of_false hd]
    exact Or.inr (List.mem_append_right _ (List.mem_singleton_self path))

/-- Deleting a copy adds no file. -/
theorem discard_addsNoFile (delete : Bool) (path : String) (h : Host) :
    h.files.AddsNoFile (h.discard delete path).2.files := by
  rcases discard_eq delete path h with ⟨hd, _⟩ | ⟨left, hr, hd⟩ | ⟨_, _, hd | hd⟩
  · rw [hd]
    exact .refl h.files
  · rw [hd]
    exact .removeFile hr
  · rw [hd]
    exact .refl h.files
  · rw [hd]
    exact .refl h.files

/-- Deleting a copy puts off at most its own deletion. -/
theorem pending_discard (delete : Bool) (path : String) (h : Host) :
    (h.discard delete path).2.pending = h.pending ∨ (h.discard delete path).2.pending = h.pending ++ [path] := by
  rcases discard_eq delete path h with ⟨hd, _⟩ | ⟨_, _, hd⟩ | ⟨_, _, hd | hd⟩
  · exact Or.inl (by rw [hd])
  · exact Or.inl (by rw [hd])
  · exact Or.inl (by rw [hd])
  · exact Or.inr (by rw [hd]; rfl)

/-! ## Extracting -/

/-- Where no temporary file could be made, the files are what they were. -/
theorem files_of_makeTemporaryFile_error {stem ending : String} {fault : FileFault}
    (hm : h.makeTemporaryFile directory stem ending = (.error fault, after)) : after.files = h.files := by
  unfold makeTemporaryFile at hm
  split at hm
  · cases hm
    rfl
  · exact files_of_makeFresh_error hm

/-- A temporary file is a new one, and empty. -/
theorem createFile_of_makeTemporaryFile {stem ending : String}
    (hm : (h.makeTemporaryFile directory stem ending).1 = .ok (path, loc)) :
    h.files.createFile copyMode path = .ok (loc, h.files.put loc (.file copyMode [])) := by
  obtain ⟨_, _, _, _, _, _, hcreated⟩ := makeTemporaryFile_eq_ok (Prod.ext hm rfl)
  obtain ⟨-, hput, -⟩ := FileSystem.node?_of_createFile hcreated
  rw [← hput]
  exact hcreated

/-- A temporary file with some bytes in it is a file that was added. -/
theorem addsFile_of_makeTemporaryFile {stem ending : String}
    (hm : (h.makeTemporaryFile directory stem ending).1 = .ok (path, loc)) (bytes : List UInt8) :
    h.files.AddsFile path loc (h.files.put loc (.file copyMode bytes)) := by
  have hadded := (FileSystem.AddsFile.createFile (createFile_of_makeTemporaryFile hm)).adjust (Node.isFile_append bytes)
  rwa [FileSystem.adjust_put] at hadded

/-- What extracting a resource to a directory comes to: there is no temporary file; or the file is removed again, since
the resource could not be read to its end once the file was there; or the file is a copy. -/
inductive ExtractsTo (h : Host) (c : Candidate) (directory : String) : Except Failure String → Host → Prop
  | noFile {fault : FileFault} (draws : Draws) :
      (h.makeTemporaryFile directory (splitExtension c.fileName).1 (splitExtension c.fileName).2).1 = .error fault →
      ExtractsTo h c directory (.error (.of (.file ("cannot create temp file in " ++ directory) fault)))
        { h with draws }
  | brokenOff {loc : Location} {fault : FileFault} {path : String} (draws : Draws) :
      (h.makeTemporaryFile directory (splitExtension c.fileName).1 (splitExtension c.fileName).2).1 = .ok (path, loc) →
      c.contents (h.files.put loc (.file copyMode [])) = .error fault →
      ExtractsTo h c directory (.error (.of (.file ("cannot extract " ++ c.origin ++ " to " ++ path) fault)))
        { h with draws }
  | copied {loc : Location} {bytes : List UInt8} {path : String} (draws : Draws) :
      (h.makeTemporaryFile directory (splitExtension c.fileName).1 (splitExtension c.fileName).2).1 = .ok (path, loc) →
      c.contents (h.files.put loc (.file copyMode [])) = .ok bytes →
      ExtractsTo h c directory (.ok path) { h with files := h.files.put loc (.file copyMode bytes), draws }

/-- Extracting comes to nothing else. -/
theorem extractsTo_extract (h : Host) (c : Candidate) (directory : String) :
    h.ExtractsTo c directory (h.extract c directory).1 (h.extract c directory).2 := by
  obtain ⟨files, draws, hframe⟩ :=
    makeTemporaryFile_frame directory (splitExtension c.fileName).1 (splitExtension c.fileName).2 h
  unfold extract
  simp only
  cases hm : h.makeTemporaryFile directory (splitExtension c.fileName).1 (splitExtension c.fileName).2 with
  | mk made ready =>
    rw [hm] at hframe
    obtain rfl : ready = _ := hframe
    cases made with
    | error fault =>
      have hsame : files = h.files := files_of_makeTemporaryFile_error hm
      subst hsame
      exact .noFile draws (by rw [hm])
    | ok found =>
      obtain ⟨path, loc⟩ := found
      obtain ⟨_, _, _, _, _, _, hcreated⟩ := makeTemporaryFile_eq_ok hm
      obtain ⟨-, hput, -⟩ := FileSystem.node?_of_createFile hcreated
      simp only at hput
      subst hput
      have hadded := addsFile_of_makeTemporaryFile (congrArg Prod.fst hm)
      simp only
      rcases c.copyTo_put loc copyMode h.files with ⟨fault, bytes, hcontents, hcopy⟩ | ⟨bytes, hcontents, hcopy⟩
      · -- what was copied until then went to the one new file, which is deleted
        simp only [hcopy]
        rw [discard_of_addsFile (hadded bytes)]
        exact .brokenOff draws (by rw [hm]) hcontents
      · simp only [hcopy]
        exact .copied draws (by rw [hm]) hcontents

/-- What is extracted is a copy of the resource. -/
theorem extract_eq_ok {c : Candidate} (hx : h.extract c directory = (.ok path, after)) :
    ∃ bytes, c.CopiedTo directory path bytes h after := by
  have hto := extractsTo_extract h c directory
  rw [hx] at hto
  cases hto with
  | @copied loc bytes _ draws hm hcontents =>
    have hadded := addsFile_of_makeTemporaryFile hm
    obtain ⟨base, drawn, hb, hlen, halnum, hpath, -⟩ := makeTemporaryFile_eq_ok (Prod.ext hm rfl)
    have hentry : Path.IsEntry base path := by
      rw [hpath]
      exact isEntry_of_drawn hlen halnum c.not_mem_splitExtension
    have hholds := FileSystem.node?_put_self (hadded bytes).ne_nil (.file copyMode bytes) h.files
    refine ⟨bytes, ⟨base, hb, hentry⟩, (hadded bytes).growsTo,
      ⟨loc, (hadded bytes).free, (hadded bytes).locate, hholds⟩, ?_⟩
    intro hc
    rw [← hcontents]
    exact (Candidate.contents_of_growsTo (hadded []).growsTo hc).symm

/-- What is extracted is one file more, and nothing is put off. -/
theorem extract_addsFile {c : Candidate} (hx : h.extract c directory = (.ok path, after)) :
    (∃ loc, h.files.AddsFile path loc after.files) ∧ after.pending = h.pending := by
  have hto := extractsTo_extract h c directory
  rw [hx] at hto
  cases hto with
  | @copied loc bytes _ draws hm _ => exact ⟨⟨loc, addsFile_of_makeTemporaryFile hm bytes⟩, rfl⟩

/-- An extraction that fails leaves the files, and what is put off, as they were. -/
theorem extract_error {c : Candidate} {failure : Failure}
    (hx : h.extract c directory = (.error failure, after)) : after.files = h.files ∧ after.pending = h.pending := by
  have hto := extractsTo_extract h c directory
  rw [hx] at hto
  cases hto with
  | noFile draws hm => exact ⟨rfl, rfl⟩
  | brokenOff draws hm hcontents => exact ⟨rfl, rfl⟩

end Host
end NativeLoader
