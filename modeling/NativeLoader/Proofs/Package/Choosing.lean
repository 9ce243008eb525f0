import NativeLoader.Package.Choice

/-!
# Which copy is chosen

A copy has a digest exactly if it can be read to its end, and then that of its bytes (`Candidate.digest?_eq_some_iff`).
Several copies are compared with the first one only, and no further than to the first difference; they pass exactly if
all can be read and any two have one digest (`sameContents_iff`), which those with the same bytes have. So what is chosen
at a path depends on the roots that hold it alone, in the way that `choose_settles` says.
-/

namespace NativeLoader

namespace Candidate

variable {fs : FileSystem} {c : Candidate} {bytes : List UInt8}

/-- A copy can be opened, and read to its end without a failing read, be it by an interruption; the bytes read. -/
def ReadsAs (fs : FileSystem) (c : Candidate) (bytes : List UInt8) : Prop :=
  ∃ chunks, c.reader fs = .ok ⟨chunks, none⟩ ∧ chunks.flatten = bytes

/-- What is read of a copy are its contents. -/
theorem ReadsAs.contents (h : c.ReadsAs fs bytes) : c.contents fs = .ok bytes := by
  obtain ⟨chunks, hr, rfl⟩ := h
  simp [Candidate.contents, hr, Reader.contents, Reader.ending, Reader.delivered]

theorem ReadsAs.unique {other : List UInt8} (h : c.ReadsAs fs bytes) (ho : c.ReadsAs fs other) : bytes = other := by
  have hsame := h.contents
  rw [ho.contents] at hsame
  exact (Except.ok.inj hsame).symm

/-- A copy has a digest exactly if it can be read to its end, and then that of its bytes. -/
theorem digest?_eq_some_iff {digest : Sha256.Digest} :
    c.digest? fs = some digest ↔ ∃ bytes, c.ReadsAs fs bytes ∧ Sha256.hash bytes = digest := by
  constructor
  · intro h
    unfold digest? at h
    split at h
    · next r hr =>
      obtain ⟨chunks, fault⟩ := r
      rw [Reader.digest?_eq (by decide)] at h
      cases fault with
      | none => exact ⟨chunks.flatten, ⟨chunks, hr, rfl⟩, Option.some.inj h⟩
      | some fault => cases h
    · cases h
  · rintro ⟨bytes, ⟨chunks, hr, rfl⟩, rfl⟩
    simp only [digest?, hr, Reader.digest?_eq (show ({} : Sha256.Hasher).rest.length < 64 by decide)]
    rfl

end Candidate

/-- Copies that can all be read to their ends, any two of them with one digest. -/
structure AllAlike (fs : FileSystem) (cs : List Candidate) : Prop where
  readable : ∀ c ∈ cs, ∃ bytes, c.ReadsAs fs bytes
  same : ∀ c ∈ cs, ∀ d ∈ cs, ∀ bytes other, c.ReadsAs fs bytes → d.ReadsAs fs other →
    Sha256.hash bytes = Sha256.hash other

namespace AllAlike

variable {fs : FileSystem} {cs : List Candidate}

/-- Copies with the same bytes are alike. -/
theorem of_identical {bytes : List UInt8} (h : ∀ c ∈ cs, c.ReadsAs fs bytes) : AllAlike fs cs where
  readable c hc := ⟨bytes, h c hc⟩
  same c hc d hd bytes' other hb ho := by rw [hb.unique (h c hc), ho.unique (h d hd)]

/-- Copies with one digest are alike. -/
theorem of_digest? {digest : Sha256.Digest} (h : ∀ c ∈ cs, c.digest? fs = some digest) : AllAlike fs cs := by
  have hhash : ∀ c ∈ cs, ∀ bytes, c.ReadsAs fs bytes → Sha256.hash bytes = digest := by
    intro c hc bytes hb
    obtain ⟨bytes', hb', hdigest⟩ := Candidate.digest?_eq_some_iff.mp (h c hc)
    rw [hb.unique hb', hdigest]
  constructor
  · intro c hc
    obtain ⟨bytes, hb, _⟩ := Candidate.digest?_eq_some_iff.mp (h c hc)
    exact ⟨bytes, hb⟩
  · intro c hc d hd bytes other hb ho
    rw [hhash c hc bytes hb, hhash d hd other ho]

/-- Alike copies have one digest, if there are any. -/
theorem digest? {first : Candidate} (h : AllAlike fs cs) (hf : first ∈ cs) :
    ∃ digest, ∀ c ∈ cs, c.digest? fs = some digest := by
  obtain ⟨bytes, hb⟩ := h.readable first hf
  refine ⟨Sha256.hash bytes, ?_⟩
  intro c hc
  obtain ⟨other, ho⟩ := h.readable c hc
  exact Candidate.digest?_eq_some_iff.mpr ⟨other, ho, h.same c hc first hf other bytes ho hb⟩

end AllAlike

/-- Comparing with the first copy, and giving up at the first difference, compares all. -/
theorem sameContents_iff_digest? {fs : FileSystem} {first : Candidate} {others : List Candidate} :
    sameContents fs first others = true ↔ ∃ digest, ∀ c ∈ first :: others, c.digest? fs = some digest := by
  unfold sameContents
  split
  · next digest hd =>
    rw [List.all_eq_true]
    constructor
    · intro h
      refine ⟨digest, ?_⟩
      intro c hc
      rcases List.mem_cons.mp hc with rfl | hc
      · exact hd
      · exact eq_of_beq (h c hc)
    · rintro ⟨digest', h⟩ c hc
      have hsame := h first List.mem_cons_self
      rw [hd] at hsame
      rw [h c (List.mem_cons_of_mem first hc), ← hsame, beq_self_eq_true]
  · next hd =>
    constructor
    · intro h
      cases h
    · rintro ⟨digest, h⟩
      rw [h first List.mem_cons_self] at hd
      cases hd

/-- Copies pass for the same exactly if they are alike. -/
theorem sameContents_iff {fs : FileSystem} {first : Candidate} {others : List Candidate} :
    sameContents fs first others = true ↔ AllAlike fs (first :: others) := by
  rw [sameContents_iff_digest?]
  constructor
  · rintro ⟨digest, h⟩
    exact .of_digest? h
  · intro h
    exact h.digest? List.mem_cons_self

/-- What is settled on among some copies. -/
inductive Choice.Settles (detect : Bool) (fs : FileSystem) : List Candidate → Choice → Prop
  | absent : Settles detect fs [] .absent
  | only (c : Candidate) : Settles detect fs [c] (.picked c)
  | unchecked (first second : Candidate) (others : List Candidate) : detect = false →
      Settles detect fs (first :: second :: others)
        (.unchecked first ((first :: second :: others).map Candidate.origin))
  | alike {first second : Candidate} {others : List Candidate} : detect = true →
      AllAlike fs (first :: second :: others) → Settles detect fs (first :: second :: others) (.picked first)
  | conflict {first second : Candidate} {others : List Candidate} : detect = true →
      ¬AllAlike fs (first :: second :: others) →
      Settles detect fs (first :: second :: others) (.conflict ((first :: second :: others).map Candidate.origin))

theorem Choice.settles_ofCandidates (detect : Bool) (fs : FileSystem) :
    ∀ cs : List Candidate, Settles detect fs cs (ofCandidates detect fs cs)
  | [] => .absent
  | [only] => .only only
  | first :: second :: others => by
    cases detect with
    | false => exact .unchecked first second others rfl
    | true =>
      by_cases hs : sameContents fs first (second :: others) = true
      · have hpicked : ofCandidates true fs (first :: second :: others) = picked first := by simp [ofCandidates, hs]
        rw [hpicked]
        exact .alike rfl (sameContents_iff.mp hs)
      · have hconflict : ofCandidates true fs (first :: second :: others) =
            conflict ((first :: second :: others).map Candidate.origin) := by
          simp [ofCandidates, hs]
        rw [hconflict]
        exact .conflict rfl fun ha => hs (sameContents_iff.mpr ha)

namespace Choice.Settles

variable {detect : Bool} {fs : FileSystem} {cs : List Candidate} {choice : Choice}

theorem result_eq_none_iff (h : Settles detect fs cs choice) (path : String) :
    choice.result path = .ok none ↔ cs = [] := by
  cases h <;> simp [result]

/-- The first copy is settled on, unless several are compared that are not alike. -/
theorem result_of_head? (h : Settles detect fs cs choice) (path : String) {first : Candidate}
    (hf : cs.head? = some first) (ha : detect = true → 2 ≤ cs.length → AllAlike fs cs) :
    choice.result path = .ok (some first) := by
  cases h with
  | absent => cases hf
  | only c => cases hf; rfl
  | unchecked => cases hf; rfl
  | alike => cases hf; rfl
  | conflict hdetect hnot => exact absurd (ha hdetect (by simp)) hnot

/-- Several copies that are compared and are not alike are in conflict. -/
theorem result_of_not_allAlike (h : Settles detect fs cs choice) (path : String) (hdetect : detect = true)
    (hlen : 2 ≤ cs.length) (hnot : ¬AllAlike fs cs) :
    choice.result path = .error (.of (.conflict path (cs.map Candidate.origin))) := by
  cases h with
  | absent => simp at hlen
  | only c => simp at hlen
  | unchecked _ _ _ hoff => rw [hoff] at hdetect; cases hdetect
  | alike _ ha => exact absurd ha hnot
  | conflict => rfl

/-- Alike copies are not refused. -/
theorem result_ne_error (h : Settles detect fs cs choice) (path : String) (ha : AllAlike fs cs) (failure : Failure) :
    choice.result path ≠ .error failure := by
  cases h with
  | conflict _ hnot => exact absurd ha hnot
  | _ => simp [result]

/-- Several copies that are not compared are settled with a warning. -/
theorem warnings_of_unchecked (h : Settles detect fs cs choice) (path : String) (hoff : detect = false)
    (hlen : 2 ≤ cs.length) : ∃ warning, choice.warnings path = [warning] := by
  cases h with
  | absent => simp at hlen
  | only c => simp at hlen
  | unchecked => exact ⟨_, rfl⟩
  | alike hdetect => rw [hoff] at hdetect; cases hdetect
  | conflict hdetect => rw [hoff] at hdetect; cases hdetect

end Choice.Settles

theorem mem_candidates {fs : FileSystem} {path : String} {roots : List Root} {root : Root} (hr : root ∈ roots)
    (hc : root.contains fs path = true) : ⟨root, path⟩ ∈ candidates fs path roots :=
  List.mem_map_of_mem (List.mem_filter.mpr ⟨hr, hc⟩)

/-- What is chosen at a path is the resource of the first root that holds it, and like the others if several are
compared. -/
theorem eq_of_choose {detect : Bool} {fs : FileSystem} {path said : String} {roots : List Root} {c : Candidate}
    (h : (choose detect fs path roots).result said = .ok (some c)) :
    c.path = path ∧ roots.find? (·.contains fs path) = some c.root ∧
      (detect = true → 2 ≤ roots.countP (·.contains fs path) → AllAlike fs (candidates fs path roots)) := by
  have hhead := Choice.head_of_ofCandidates h
  rw [candidates, List.head?_map, List.head?_filter] at hhead
  obtain ⟨root, hroot, rfl⟩ := Option.map_eq_some_iff.mp hhead
  refine ⟨rfl, hroot, ?_⟩
  intro hdetect hcount
  have hlen : 2 ≤ (candidates fs path roots).length := by
    rw [candidates, List.length_map, ← List.countP_eq_length_filter]
    exact hcount
  refine Classical.byContradiction fun hnot => ?_
  have hrefused := (Choice.settles_ofCandidates detect fs _).result_of_not_allAlike said hdetect hlen hnot
  rw [← choose, h] at hrefused
  cases hrefused

/-- **What is chosen.** Nothing is chosen exactly if no root holds the path, and the copy of the only root that does is
taken whatever it is. Of several, the first is taken with one warning if they are not to be compared; if they are, it is
taken if all are alike, and else all of them are in conflict, in the order of the roots. So copies with the same bytes
are never in conflict, and copies that are compared are in conflict if one cannot be read or two have different
digests. -/
theorem choose_settles (detect : Bool) (fs : FileSystem) (path : String) (roots : List Root) :
    let held := roots.filter (·.contains fs path)
    let result := (choose detect fs path roots).result path
    let refusal := .error (.of (.conflict path (held.map (·.locator path))))
    (result = .ok none ↔ held = []) ∧
    (∀ only, held = [only] → result = .ok (some ⟨only, path⟩)) ∧
    (∀ first second others, held = first :: second :: others →
      (detect = false → result = .ok (some ⟨first, path⟩) ∧
        ∃ warning, (choose detect fs path roots).warnings path = [warning]) ∧
      (detect = true → AllAlike fs (candidates fs path roots) → result = .ok (some ⟨first, path⟩)) ∧
      (detect = true → ¬AllAlike fs (candidates fs path roots) → result = refusal)) ∧
    (∀ bytes, (∀ root ∈ held, Candidate.ReadsAs fs ⟨root, path⟩ bytes) → ∀ failure, result ≠ .error failure) ∧
    (detect = true → 2 ≤ held.length →
      (∃ root ∈ held, ∀ bytes, ¬Candidate.ReadsAs fs ⟨root, path⟩ bytes) ∨
        (∃ root ∈ held, ∃ other ∈ held, ∃ bytes bytes', Candidate.ReadsAs fs ⟨root, path⟩ bytes ∧
          Candidate.ReadsAs fs ⟨other, path⟩ bytes' ∧ Sha256.hash bytes ≠ Sha256.hash bytes') →
      result = refusal) := by
  intro held result refusal
  have hsettles : Choice.Settles detect fs (candidates fs path roots) (choose detect fs path roots) :=
    Choice.settles_ofCandidates detect fs _
  have hmem : ∀ root ∈ held, (⟨root, path⟩ : Candidate) ∈ candidates fs path roots := fun root => List.mem_map_of_mem
  have hlength : (candidates fs path roots).length = held.length := List.length_map _
  have hempty : candidates fs path roots = [] ↔ held = [] := List.map_eq_nil_iff
  have horigins : (candidates fs path roots).map Candidate.origin = held.map (·.locator path) := List.map_map
  refine ⟨(hsettles.result_eq_none_iff path).trans hempty, ?_, ?_, ?_, ?_⟩
  · intro only honly
    have hcopies : candidates fs path roots = [⟨only, path⟩] := congrArg (List.map _) honly
    refine hsettles.result_of_head? path (by rw [hcopies]; rfl) ?_
    intro _ hlen
    rw [hcopies] at hlen
    simp at hlen
  · intro first second others hheld
    have hfirst : (candidates fs path roots).head? = some ⟨first, path⟩ := by
      rw [show candidates fs path roots = ⟨first, path⟩ :: _ from congrArg (List.map _) hheld]
      rfl
    have htwo : 2 ≤ (candidates fs path roots).length := by
      rw [hlength, hheld]
      simp
    refine ⟨?_, ?_, ?_⟩
    · intro hoff
      refine ⟨hsettles.result_of_head? path hfirst ?_, hsettles.warnings_of_unchecked path hoff htwo⟩
      intro hdetect
      rw [hoff] at hdetect
      cases hdetect
    · intro _ halike
      exact hsettles.result_of_head? path hfirst fun _ _ => halike
    · intro hdetect hnot
      have hconflict := hsettles.result_of_not_allAlike path hdetect htwo hnot
      rwa [horigins] at hconflict
  · intro bytes hread failure
    have halike : AllAlike fs (candidates fs path roots) := by
      refine .of_identical (?_ : ∀ c ∈ candidates fs path roots, c.ReadsAs fs bytes)
      intro c hc
      obtain ⟨root, hr, rfl⟩ := List.mem_map.mp hc
      exact hread root hr
    exact hsettles.result_ne_error path halike failure
  · intro hdetect hlen hdiffer
    have hnot : ¬AllAlike fs (candidates fs path roots) := by
      intro halike
      rcases hdiffer with ⟨root, hr, hnone⟩ | ⟨root, hr, other, ho, bytes, bytes', hb, hb', hne⟩
      · obtain ⟨bytes, hb⟩ := halike.readable _ (hmem root hr)
        exact hnone bytes hb
      · exact hne (halike.same _ (hmem root hr) _ (hmem other ho) bytes bytes' hb hb')
    have hconflict := hsettles.result_of_not_allAlike path hdetect (by rwa [hlength]) hnot
    rwa [horigins] at hconflict

/-! ## A copy that breaks off -/

/-- A root whose resource breaks off after the first read. -/
def brokenRoot : Root :=
  .provider
    { locator := ("broken:" ++ ·)
      contains := fun _ => true
      reader := fun _ => .ok ⟨[[0x46]], some (.reported "Other" "broken off")⟩ }

/-- Three roots, of which the last two hold the library `x`. -/
def brokenRoots : List Root := [.embedded "empty" [], .embedded "jar" [(Root.home ++ "libx.so", [0x46])], brokenRoot]

/-- A copy that breaks off is in conflict with one that does not, although it holds no other byte. -/
theorem choose_settles_broken :
    2 ≤ (brokenRoots.filter (·.contains {} (Root.home ++ "libx.so"))).length ∧
      brokenRoot ∈ brokenRoots.filter (·.contains {} (Root.home ++ "libx.so")) ∧
      (∀ bytes, ¬Candidate.ReadsAs {} ⟨brokenRoot, Root.home ++ "libx.so"⟩ bytes) ∧
      (choose true {} (Root.home ++ "libx.so") brokenRoots).result (Root.home ++ "libx.so") =
        .error (.of (.conflict "META-INF/tdlight-native/libx.so"
          ["embedded:jar!/META-INF/tdlight-native/libx.so", "broken:META-INF/tdlight-native/libx.so"])) := by
  have hheld : brokenRoots.filter (·.contains {} (Root.home ++ "libx.so")) = brokenRoots.tail := by rfl
  have hlen : 2 ≤ (brokenRoots.filter (·.contains {} (Root.home ++ "libx.so"))).length := by rw [hheld]; decide
  have hmem : brokenRoot ∈ brokenRoots.filter (·.contains {} (Root.home ++ "libx.so")) := by
    rw [hheld]
    simp [brokenRoots]
  have hbroken : ∀ bytes, ¬Candidate.ReadsAs {} ⟨brokenRoot, Root.home ++ "libx.so"⟩ bytes := by
    rintro bytes ⟨chunks, hr, _⟩
    cases hr
  refine ⟨hlen, hmem, hbroken, ?_⟩
  exact (choose_settles true {} _ brokenRoots).2.2.2.2 rfl hlen (Or.inl ⟨brokenRoot, hmem, hbroken⟩)

end NativeLoader
