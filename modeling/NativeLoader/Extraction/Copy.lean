import NativeLoader.Extraction.Temporary

/-!
# Extracted copies

The linker opens files, so a packaged library is copied to a new file first, read by read (`Host.extract`). The file's
name is the resource's own with random characters before its extension. A copy that fails midway is removed again.
Copying gathers exactly the bytes that the reader delivers (`Reader.copyTo_put`).
-/

namespace NativeLoader

/-- The bytes of a reader added, read by read, to the file at a location. -/
def Reader.copyTo (loc : Location) (r : Reader) (fs : FileSystem) : FileSystem :=
  r.chunks.foldl (fun fs bytes => fs.adjust loc (Node.append bytes)) fs

/-- A resource copied into the file at a location, and the fault that ended the copy early. -/
def Candidate.copyTo (loc : Location) (c : Candidate) (fs : FileSystem) : Option FileFault × FileSystem :=
  match c.reader fs with
  | .error fault => (some fault, fs)
  | .ok r => (r.ending, r.copyTo loc fs)

/-- Copying a resource to a new file in a directory: its path. -/
def Host.extract (c : Candidate) (directory : String) (h : Host) : Except Failure String × Host :=
  let name := splitExtension c.fileName
  match h.makeTemporaryFile directory name.1 name.2 with
  | (.error fault, h) => (.error (.of (.file ("cannot create temp file in " ++ directory) fault)), h)
  | (.ok (path, loc), h) =>
    match c.copyTo loc h.files with
    | (none, files) => (.ok path, { h with files })
    | (some fault, files) =>
      (.error (.of (.file ("cannot extract " ++ c.origin ++ " to " ++ path) fault)),
        (({ h with files } : Host).discard true path).2)

/-! ## What a copy holds -/

namespace FileSystem

/-- Changing the node at a location changes what a look-up there finds. -/
theorem lookup_map_self {loc : Location} {f : Node → Node} : ∀ es : List (Location × Node),
    (es.map fun e => if e.1 = loc then (e.1, f e.2) else e).lookup loc = (es.lookup loc).map f
  | [] => rfl
  | (l, n) :: es => by
    by_cases hl : l = loc
    · simp [hl]
    · have hf : (loc == l) = false := beq_eq_false_iff_ne.mpr (Ne.symm hl)
      simp [hl, List.lookup_cons, hf, lookup_map_self es]

/-- Changing the node at a location changes no other. -/
theorem lookup_map_of_ne {loc other : Location} {f : Node → Node} (h : other ≠ loc) :
    ∀ es : List (Location × Node),
    (es.map fun e => if e.1 = loc then (e.1, f e.2) else e).lookup other = es.lookup other
  | [] => rfl
  | (l, n) :: es => by
    by_cases hl : l = loc
    · subst hl
      have hf : (other == l) = false := beq_eq_false_iff_ne.mpr h
      simp [List.lookup_cons, hf, lookup_map_of_ne h es]
    · simp only [List.map_cons, hl, if_false, List.lookup_cons, lookup_map_of_ne h es]

/-- What stands at a location after it was changed. -/
theorem node?_adjust_self {loc : Location} (hl : loc ≠ []) (f : Node → Node) (fs : FileSystem) :
    (fs.adjust loc f).node? loc = (fs.node? loc).map f := by
  cases loc with
  | nil => exact absurd rfl hl
  | cons name above => exact lookup_map_self _

/-- What stands elsewhere stays. -/
theorem node?_adjust_of_ne {loc other : Location} (h : other ≠ loc) (f : Node → Node) (fs : FileSystem) :
    (fs.adjust loc f).node? other = fs.node? other := by
  cases other with
  | nil => rfl
  | cons name above => exact lookup_map_of_ne h _

/-- Changing what was just put somewhere is putting the changed node there. -/
theorem adjust_put (loc : Location) (node : Node) (f : Node → Node) (fs : FileSystem) :
    (fs.put loc node).adjust loc f = fs.put loc (f node) := by
  have hrest : (fs.erase loc).entries.map (fun e => if e.1 = loc then (e.1, f e.2) else e) =
      (fs.erase loc).entries := by
    refine Eq.trans (List.map_congr_left ?_) (List.map_id _)
    intro e he
    exact if_neg (bne_iff_ne.mp (List.mem_filter.mp he).2)
  simp only [put, adjust, List.map_cons, if_true, hrest]

end FileSystem

/-- A new file into which a reader is copied holds all that it delivers. -/
theorem Reader.copyTo_put {loc : Location} {mode : Nat} {fault : Option FileFault} {fs : FileSystem} :
    ∀ (chunks : List (List UInt8)) (bytes : List UInt8),
    (Reader.mk chunks fault).copyTo loc (fs.put loc (.file mode bytes)) =
      fs.put loc (.file mode (bytes ++ chunks.flatten))
  | [], bytes => by
    rw [List.flatten_nil, List.append_nil]
    rfl
  | chunk :: chunks, bytes => by
    have hrest : (Reader.mk chunks fault).copyTo loc (fs.put loc (.file mode (bytes ++ chunk))) =
        fs.put loc (.file mode (bytes ++ chunk ++ chunks.flatten)) := copyTo_put chunks (bytes ++ chunk)
    rw [List.append_assoc, ← List.flatten_cons] at hrest
    rw [← hrest, copyTo, List.foldl_cons, FileSystem.adjust_put]
    rfl

/-- Copying a resource into a new file comes to its contents; or to the fault that reading ends with, and the bytes
before it. -/
theorem Candidate.copyTo_put (c : Candidate) (loc : Location) (mode : Nat) (fs : FileSystem) :
    (∃ fault bytes, c.contents (fs.put loc (.file mode [])) = .error fault ∧
      c.copyTo loc (fs.put loc (.file mode [])) = (some fault, fs.put loc (.file mode bytes))) ∨
    ∃ bytes, c.contents (fs.put loc (.file mode [])) = .ok bytes ∧
      c.copyTo loc (fs.put loc (.file mode [])) = (none, fs.put loc (.file mode bytes)) := by
  unfold Candidate.contents Candidate.copyTo
  cases hr : c.reader (fs.put loc (.file mode [])) with
  | error fault => exact Or.inl ⟨fault, [], rfl, rfl⟩
  | ok r =>
    obtain ⟨chunks, fault⟩ := r
    simp only [Reader.contents, Reader.copyTo_put]
    cases he : (Reader.mk chunks fault).ending with
    | some fault => exact Or.inl ⟨fault, _, rfl, rfl⟩
    | none => exact Or.inr ⟨_, rfl, rfl⟩

end NativeLoader
