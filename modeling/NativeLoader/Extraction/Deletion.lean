import NativeLoader.Host

/-!
# Deleting extracted copies

A copy is deleted when the attempt that made it is over (`Host.discard`). What cannot be deleted then is put off to the
end of the process (`Host.defer`, `Host.runPending`), in order. Deleting either leaves nothing where the copy was or
puts its path off (`discard_eq`), and after the last run nothing is put off (`pending_runPending`).
-/

namespace NativeLoader

/-- Removing some files, whatever becomes of each. -/
def FileSystem.removeEach : List String → FileSystem → FileSystem
  | [], fs => fs
  | path :: paths, fs =>
    match fs.removeFile path with
    | .ok left => removeEach paths left
    | .error _ => removeEach paths fs

namespace Host

/-- Putting off the deletion of a file. -/
def defer (path : String) (h : Host) : Host := { h with pending := h.pending ++ [path] }

/-- Deleting a copy, if copies are deleted; the answer is whether it is gone. -/
def discard (delete : Bool) (path : String) (h : Host) : Bool × Host :=
  if !delete then (false, h)
  else
    match h.files.removeFile path with
    | .ok files => (true, { h with files })
    | .error fault => if fault.kind = SystemFault.missing.kind then (true, h) else (false, h.defer path)

/-- Deleting all that was put off. -/
def runPending (h : Host) : Host := { h with files := h.files.removeEach h.pending, pending := [] }

/-- Nothing is put off after a run. -/
@[simp] theorem pending_runPending (h : Host) : h.runPending.pending = [] := rfl

/-- A second run at once changes nothing. -/
theorem runPending_runPending (h : Host) : h.runPending.runPending = h.runPending := rfl

/-- A copy is kept, or removed, or its deletion is put off. -/
theorem discard_eq (delete : Bool) (path : String) (h : Host) :
    h.discard delete path = (false, h) ∧ delete = false ∨
      (∃ files, h.files.removeFile path = .ok files ∧ h.discard delete path = (true, { h with files })) ∨
      (∃ fault, h.files.removeFile path = .error fault ∧
        (h.discard delete path = (true, h) ∨ h.discard delete path = (false, h.defer path))) := by
  unfold discard
  cases delete with
  | false => exact Or.inl ⟨rfl, rfl⟩
  | true =>
    refine Or.inr ?_
    cases hr : h.files.removeFile path with
    | ok files => exact Or.inl ⟨files, rfl, rfl⟩
    | error fault =>
      refine Or.inr ⟨fault, rfl, ?_⟩
      by_cases hk : fault.kind = SystemFault.missing.kind
      · exact Or.inl (by simp [hk])
      · exact Or.inr (by simp [hk])

end Host
end NativeLoader
