import NativeLoader.FileSystem.Fault

/-!
# Readers

What an opened resource delivers: some bytes at each read, and then its end or a fault. A read that was interrupted is
done again and finds the end (`Reader.ending`): a fault ends a reader, and none is met between two reads that deliver
bytes, as by a source that is interrupted in the middle and goes on. `Reader.contents` is all that is delivered. Who reads
into a buffer gets at most as many bytes at a time as it holds (`Reader.read`), and all of them in the end
(`Reader.reads_of_read`).
-/

namespace NativeLoader

/-- The reads of an opened resource, and the fault after them if they do not end it. -/
structure Reader where
  chunks : List (List UInt8)
  fault : Option FileFault := none
  deriving DecidableEq, Repr

namespace Reader

/-- The bytes of all reads. -/
def delivered (r : Reader) : List UInt8 := r.chunks.flatten

/-- The fault that reading ends with, interruptions apart. -/
def ending (r : Reader) : Option FileFault := r.fault.filter (!·.isInterruption)

/-- The bytes of a resource that can be read to its end. -/
def contents (r : Reader) : Except FileFault (List UInt8) :=
  match r.ending with
  | some fault => .error fault
  | none => .ok r.delivered

/-- A reader of some bytes. -/
def ofBytes (bytes : List UInt8) : Reader := ⟨[bytes], none⟩

@[simp] theorem contents_ofBytes (bytes : List UInt8) : (ofBytes bytes).contents = .ok bytes := by
  simp [contents, ofBytes, delivered, ending]

/-! ## Reading into a buffer -/

/-- One read into a buffer of some size: the bytes in it then, which are none at the end, and what is left to read. -/
def read (size : Nat) (r : Reader) : Except FileFault (List UInt8) × Reader :=
  match r.chunks.dropWhile List.isEmpty with
  | chunk :: chunks => (.ok (chunk.take size), { r with chunks := chunk.drop size :: chunks })
  | [] =>
    match r.fault with
    | some fault => (.error fault, ⟨[], none⟩)
    | none => (.ok [], ⟨[], none⟩)

/-- What one read comes to: the next bytes, as many as the buffer holds at most; or, behind the last one, the fault or
the end. -/
inductive Reads (size : Nat) (r : Reader) : Except FileFault (List UInt8) → Reader → Prop
  | filled {bytes : List UInt8} {rest : Reader} : bytes ≠ [] → bytes.length ≤ size →
      r.delivered = bytes ++ rest.delivered → rest.fault = r.fault → Reads size r (.ok bytes) rest
  | failed {fault : FileFault} : r.delivered = [] → r.fault = some fault → Reads size r (.error fault) ⟨[], none⟩
  | ended : r.delivered = [] → r.fault = none → Reads size r (.ok []) ⟨[], none⟩

/-- Reads that deliver nothing add nothing to what is delivered. -/
theorem flatten_dropWhile_isEmpty : ∀ chunks : List (List UInt8),
    (chunks.dropWhile List.isEmpty).flatten = chunks.flatten
  | [] => rfl
  | [] :: chunks => flatten_dropWhile_isEmpty chunks
  | (_ :: _) :: _ => rfl

/-- A read into a buffer that holds anything comes to nothing else. -/
theorem reads_of_read {size : Nat} (hsize : 0 < size) {r rest : Reader} {answer : Except FileFault (List UInt8)}
    (hr : r.read size = (answer, rest)) : r.Reads size answer rest := by
  have hdelivered : (r.chunks.dropWhile List.isEmpty).flatten = r.delivered := flatten_dropWhile_isEmpty r.chunks
  unfold read at hr
  cases hchunks : r.chunks.dropWhile List.isEmpty with
  | nil =>
    rw [hchunks, List.flatten_nil] at hdelivered
    rw [hchunks] at hr
    cases hfault : r.fault with
    | some fault =>
      rw [hfault] at hr
      cases hr
      exact .failed hdelivered.symm hfault
    | none =>
      rw [hfault] at hr
      cases hr
      exact .ended hdelivered.symm hfault
  | cons chunk chunks =>
    rw [hchunks] at hr
    cases hr
    have hchunk : chunk ≠ [] := by
      have hhead := List.head_dropWhile_not List.isEmpty (l := r.chunks) (by simp [hchunks])
      simpa [hchunks] using hhead
    refine .filled ?_ (List.length_take_le size chunk) ?_ rfl
    · rw [Ne, List.take_eq_nil_iff]
      rintro (hzero | hnil)
      · omega
      · exact hchunk hnil
    · rw [← hdelivered, hchunks, delivered, List.flatten_cons, List.flatten_cons, ← List.append_assoc,
        List.take_append_drop]

/-- A read that delivers anything leaves less to read. -/
theorem Reads.length_lt {size : Nat} {r rest : Reader} {bytes : List UInt8} (h : r.Reads size (.ok bytes) rest)
    (hb : bytes ≠ []) : rest.delivered.length < r.delivered.length := by
  cases h with
  | filled _ _ hdelivered _ =>
    have hpos : 0 < bytes.length := List.length_pos_iff.mpr hb
    rw [hdelivered, List.length_append]
    omega
  | ended => exact absurd rfl hb

end Reader
end NativeLoader
