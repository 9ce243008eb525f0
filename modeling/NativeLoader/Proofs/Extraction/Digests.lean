import NativeLoader.Proofs.Package.Choosing
import NativeLoader.Proofs.Extraction.Disposal

/-!
# What is hashed is what is extracted

A resource is opened twice, to be hashed and to be copied. Hashing reads into a buffer until a read finds the end
(`Reader.digest?`), and copying appends read after read to a file (`Reader.copyTo`). If both times the same bytes are
delivered, in whatever reads, or both times opening or a read fails (`Reader.Alike`), there is a digest exactly if there
is a copy, and it is the digest of what the copy holds (`Host.extract_iff_digest?`). Only an interruption comes between
the two, which copying waits out and hashing does not.
-/

namespace NativeLoader

namespace Reader

/-- A resource cannot be opened, or a read of it fails that was not interrupted. -/
inductive Fails : Except FileFault Reader → Prop
  | unopened (fault : FileFault) : Fails (.error fault)
  | brokenOff {fault : FileFault} (chunks : List (List UInt8)) : fault.isInterruption = false →
      Fails (.ok ⟨chunks, some fault⟩)

/-- A resource that is opened twice delivers the same bytes up to its end, in whatever reads, or fails both times. -/
inductive Alike : Except FileFault Reader → Except FileFault Reader → Prop
  | whole {chunks chunks' : List (List UInt8)} : chunks.flatten = chunks'.flatten →
      Alike (.ok ⟨chunks, none⟩) (.ok ⟨chunks', none⟩)
  | failing {opened opened' : Except FileFault Reader} : Fails opened → Fails opened' → Alike opened opened'

/-- What is opened in the same way twice, with no read interrupted, is alike. -/
theorem Alike.refl {opened : Except FileFault Reader}
    (hi : ∀ r fault, opened = .ok r → r.fault = some fault → fault.isInterruption = false) : Alike opened opened := by
  cases opened with
  | error fault => exact .failing (.unopened fault) (.unopened fault)
  | ok r =>
    obtain ⟨chunks, fault⟩ := r
    cases fault with
    | none => exact .whole rfl
    | some fault =>
      have hfails : Fails (.ok ⟨chunks, some fault⟩) := .brokenOff chunks (hi _ fault rfl rfl)
      exact .failing hfails hfails

end Reader

namespace Candidate

variable {fs : FileSystem} {c : Candidate}

/-- A resource that fails has no digest. -/
theorem digest?_of_fails (hf : Reader.Fails (c.reader fs)) : c.digest? fs = none := by
  unfold digest?
  generalize c.reader fs = opened at hf
  cases hf with
  | unopened fault => rfl
  | brokenOff chunks _ => exact Reader.digest?_eq (by decide) _

/-- A resource that fails has no contents. -/
theorem contents_of_fails (hf : Reader.Fails (c.reader fs)) : ∃ fault, c.contents fs = .error fault := by
  unfold contents
  generalize c.reader fs = opened at hf
  cases hf with
  | unopened fault => exact ⟨fault, rfl⟩
  | @brokenOff fault chunks hi =>
    have hending : (Reader.mk chunks (some fault)).ending = some fault := by simp [Reader.ending, hi]
    exact ⟨fault, by simp only [Reader.contents, hending]⟩

/-- Copies with the same bytes are delivered alike. -/
theorem ReadsAs.alike {other : Candidate} {grown : FileSystem} {bytes : List UInt8} (h : c.ReadsAs fs bytes)
    (ho : other.ReadsAs grown bytes) : Reader.Alike (c.reader fs) (other.reader grown) := by
  obtain ⟨chunks, hr, hbytes⟩ := h
  obtain ⟨chunks', hr', rfl⟩ := ho
  rw [hr, hr']
  exact .whole hbytes

/-- What is delivered alike is read to the same bytes both times, or fails both times. -/
theorem readsAs_or_fails_of_alike {other : Candidate} {grown : FileSystem}
    (ha : Reader.Alike (c.reader fs) (other.reader grown)) :
    (∃ bytes, c.ReadsAs fs bytes ∧ other.ReadsAs grown bytes) ∨
      Reader.Fails (c.reader fs) ∧ Reader.Fails (other.reader grown) := by
  generalize ho : c.reader fs = opened at ha ⊢
  generalize ho' : other.reader grown = opened' at ha ⊢
  cases ha with
  | @whole chunks chunks' hbytes => exact Or.inl ⟨chunks.flatten, ⟨chunks, ho, rfl⟩, ⟨chunks', ho', hbytes.symm⟩⟩
  | failing hf hf' => exact Or.inr ⟨hf, hf'⟩

end Candidate

namespace Host

variable {h : Host} {directory path : String} {loc : Location}

/-- Where a temporary file can be made for a copy, and the resource has contents, the file is a copy of them. -/
theorem extract_of_contents {c : Candidate} {bytes : List UInt8}
    (hm : (h.makeTemporaryFile directory (splitExtension c.fileName).1 (splitExtension c.fileName).2).1 =
      .ok (path, loc))
    (hc : c.contents (h.files.put loc (.file copyMode [])) = .ok bytes) :
    ∃ after, h.extract c directory = (.ok path, after) ∧ after.files.content? path = some bytes := by
  have hto := extractsTo_extract h c directory
  cases hx : h.extract c directory with
  | mk outcome after =>
    rw [hx] at hto
    cases hto with
    | noFile draws hnone =>
      rw [hm] at hnone
      cases hnone
    | brokenOff draws hmade hcontents =>
      cases hm.symm.trans hmade
      cases hc.symm.trans hcontents
    | copied draws hmade hcontents =>
      cases hm.symm.trans hmade
      cases hc.symm.trans hcontents
      have hadded := addsFile_of_makeTemporaryFile hm bytes
      have hholds := FileSystem.node?_put_self hadded.ne_nil (.file copyMode bytes) h.files
      exact ⟨_, rfl, FileSystem.content?_of_locate hadded.locate hholds⟩

/-- A resource without contents is not extracted. -/
theorem extract_of_contents_error {c : Candidate} {fault : FileFault}
    (hm : (h.makeTemporaryFile directory (splitExtension c.fileName).1 (splitExtension c.fileName).2).1 =
      .ok (path, loc))
    (hc : c.contents (h.files.put loc (.file copyMode [])) = .error fault) :
    ∃ failure after, h.extract c directory = (.error failure, after) := by
  have hto := extractsTo_extract h c directory
  cases hx : h.extract c directory with
  | mk outcome after =>
    rw [hx] at hto
    cases hto with
    | noFile draws hnone => exact ⟨_, _, rfl⟩
    | brokenOff draws hmade hcontents => exact ⟨_, _, rfl⟩
    | copied draws hmade hcontents =>
      cases hm.symm.trans hmade
      cases hc.symm.trans hcontents

/-- **What is hashed is what is extracted.** Where a temporary file can be made for a copy, and a resource is delivered
for it as it was for hashing, the resource is extracted exactly if it has a digest, which then is that of the bytes in
the copy; and these are all its bytes if it can be read to its end. A resource that a root holds is so delivered,
whatever reads it takes, unless one is interrupted. -/
theorem extract_iff_digest? {copied : Candidate}
    (hm : (h.makeTemporaryFile directory (splitExtension copied.fileName).1 (splitExtension copied.fileName).2).1 =
      .ok (path, loc)) :
    let made := h.files.put loc (.file copyMode [])
    (∀ (hashed : Candidate) (fs : FileSystem), Reader.Alike (hashed.reader fs) (copied.reader made) →
      ((∃ file after, h.extract copied directory = (.ok file, after)) ↔ ∃ digest, hashed.digest? fs = some digest) ∧
      (∀ file after, h.extract copied directory = (.ok file, after) →
        ∃ bytes, after.files.content? file = some bytes ∧ hashed.digest? fs = some (Sha256.hash bytes)) ∧
      ∀ bytes, hashed.ReadsAs fs bytes →
        ∃ after, h.extract copied directory = (.ok path, after) ∧ after.files.content? path = some bytes) ∧
    (copied.root.contains h.files copied.path = true →
      (∀ r fault, copied.reader h.files = .ok r → r.fault = some fault → fault.isInterruption = false) →
      Reader.Alike (copied.reader h.files) (copied.reader made)) := by
  intro made
  refine ⟨?_, ?_⟩
  · intro hashed fs halike
    rcases Candidate.readsAs_or_fails_of_alike halike with ⟨bytes, hread, hagain⟩ | ⟨hfails, hfails'⟩
    · have hsome : hashed.digest? fs = some (Sha256.hash bytes) :=
        Candidate.digest?_eq_some_iff.mpr ⟨bytes, hread, rfl⟩
      obtain ⟨after, hx, hholds⟩ := extract_of_contents hm hagain.contents
      rw [hx, hsome]
      refine ⟨⟨fun _ => ⟨_, rfl⟩, fun _ => ⟨_, _, rfl⟩⟩, ?_, ?_⟩
      · intro file other hok
        cases hok
        exact ⟨bytes, hholds, rfl⟩
      · intro bytes' hread'
        rw [hread'.unique hread]
        exact ⟨after, rfl, hholds⟩
    · obtain ⟨fault, hcontents⟩ := Candidate.contents_of_fails hfails'
      obtain ⟨failure, after, hx⟩ := extract_of_contents_error hm hcontents
      have hnone : hashed.digest? fs = none := Candidate.digest?_of_fails hfails
      rw [hx, hnone]
      refine ⟨by simp, by simp, ?_⟩
      intro bytes hread
      rw [Candidate.digest?_eq_some_iff.mpr ⟨bytes, hread, rfl⟩] at hnone
      cases hnone
  · intro hc hi
    have hgrown := (addsFile_of_makeTemporaryFile hm []).growsTo
    rw [show copied.reader made = copied.reader h.files from Root.reader_of_growsTo hgrown hc]
    exact .refl hi

/-! ## Two buffers of zeros -/

/-- A resource of zeros, delivered in two reads. -/
def zeros (first second : Nat) : Candidate where
  root := .provider
    { locator := ("zeros:" ++ ·)
      contains := fun _ => true
      reader := fun _ => .ok ⟨[List.replicate first 0, List.replicate second 0], none⟩ }
  path := Root.home ++ "libx.so"

theorem readsAs_zeros (fs : FileSystem) (first second : Nat) :
    (zeros first second).ReadsAs fs (List.replicate (first + second) 0) := by
  refine ⟨_, rfl, ?_⟩
  rw [List.flatten_cons, List.flatten_cons, List.flatten_nil, List.append_nil, List.replicate_append_replicate]

/-- A process in a directory of its own. -/
def hashingHost : Host where
  files := { entries := [(["srv"], .directory 0o755)], current := ["srv"] }
  temporary := "/tmp"
  draws := .ofNumbers fun n => n

/-- As many zeros as two buffers hold are extracted, and hashed as the copy is, though they came in other reads. -/
theorem extract_iff_digest?_zeros :
    (hashingHost.makeTemporaryFile "" "libx" ".so").1 = .ok ("/srv/libx012345.so", ["libx012345.so", "srv"]) ∧
      ∃ file after bytes, hashingHost.extract (zeros 8192 8192) "" = (.ok file, after) ∧
        after.files.content? file = some bytes ∧
        (zeros 1 16383).digest? hashingHost.files = some (Sha256.hash bytes) := by
  have hname : splitExtension (zeros 8192 8192).fileName = ("libx", ".so") := by rfl
  have hm : (hashingHost.makeTemporaryFile "" "libx" ".so").1 =
      .ok ("/srv/libx012345.so", ["libx012345.so", "srv"]) := by rfl
  have hmade : (hashingHost.makeTemporaryFile "" (splitExtension (zeros 8192 8192).fileName).1
      (splitExtension (zeros 8192 8192).fileName).2).1 = .ok ("/srv/libx012345.so", ["libx012345.so", "srv"]) := by
    rw [hname]
    exact hm
  have hread := readsAs_zeros hashingHost.files 1 16383
  have hagain := readsAs_zeros (hashingHost.files.put ["libx012345.so", "srv"] (.file copyMode [])) 8192 8192
  obtain ⟨hiff, hholds, -⟩ := (extract_iff_digest? hmade).1 (zeros 1 16383) hashingHost.files (hread.alike hagain)
  obtain ⟨file, after, hx⟩ := hiff.mpr ⟨_, Candidate.digest?_eq_some_iff.mpr ⟨_, hread, rfl⟩⟩
  obtain ⟨bytes, hbytes, hsame⟩ := hholds file after hx
  exact ⟨hm, file, after, bytes, hx, hbytes, hsame⟩

end Host
end NativeLoader
