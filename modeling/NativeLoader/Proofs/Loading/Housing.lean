import NativeLoader.Proofs.Extraction.Places
import NativeLoader.Proofs.Loading.Setbacks

/-!
# Loads that need a directory

A load that has located a packaged copy asks for the directory for copies (`Loader.Locates`). If that cannot be had, the
load fails fatally and so ends a scan; if it is had but is no directory, then nothing can be extracted to it, and the
load fails as one that cannot be linked, which ends no scan. Which of the two happens, and when the directory is one, is
said by `directory_or_fatal_iff`.
-/

namespace NativeLoader.Loader

/-- A load looks for a packaged copy and locates it; what the search path gave, and the process then. -/
def Locates (l : Loader) (context : ContextId) (name mangledPrefix : String) (start : Host) (search : Failure)
    (c : Candidate) (located : Host) : Prop :=
  ∃ found warnings, l.Seeks context name mangledPrefix start search found ∧
    l.locate found.files (found.contexts context).roots (mangledPrefix ++ name) = (.found c, warnings) ∧
    found.warn warnings = located

variable {l : Loader} {context : ContextId} {name mangledPrefix directory : String} {start h after : Host}
  {search failure : Failure} {c : Candidate}

/-! ## What scans make of it -/

/-- A scan ends with a load that fails fatally. -/
theorem loadFirstFrom_of_isFatal (hl : l.load context name start = (.error failure, after))
    (hfatal : failure.isFatal = true) (scan : Scan) (rest : List String) :
    l.loadFirstFrom context scan (name :: rest) start =
      (.error (scan.record name failure).exhausted, after.warn [givingUp name failure]) := by
  rw [loadFirstFrom, hl]
  exact if_pos hfatal

/-- A scan goes on after a load that fails otherwise. -/
theorem loadFirstFrom_of_not_isFatal (hl : l.load context name start = (.error failure, after))
    (hfatal : failure.isFatal = false) (scan : Scan) (rest : List String) :
    l.loadFirstFrom context scan (name :: rest) start =
      l.loadFirstFrom context (scan.record name failure) rest after := by
  rw [loadFirstFrom, hl]
  exact if_neg (by simp [hfatal])

/-! ## Loads without a directory -/

/-- A load for which there is no directory fails for that, with what the search path gave attached. -/
theorem Locates.load_of_error (hlocates : l.Locates context name mangledPrefix start search c h)
    (hd : h.extractionDirectory l.directory = (.error failure, after)) :
    ∃ message, failure = .of (.directory message) ∧
      l.load context name start = (.error (.node (.directory message) [search]), after) := by
  obtain ⟨found, warnings, hseek, hc, rfl⟩ := hlocates
  obtain ⟨message, rfl⟩ := extractionDirectory_eq_error hd
  refine ⟨message, rfl, ?_⟩
  simp only [load, hseek.accepted, hseek.free, loadNew, hseek.failed, loadPackaged, hc, loadCandidate, hd]
  rfl

/-- A load that is given what is no directory cannot extract the copy. -/
theorem Locates.load_of_not_isDirectory (hlocates : l.Locates context name mangledPrefix start search c h)
    (hfirst : (h.directories l.directory).outcome = none)
    (hd : h.extractionDirectory l.directory = (.ok directory, after)) (hne : directory ≠ "")
    (hnot : after.files.isDirectory directory = false) :
    ∃ detail ended, l.load context name start =
      (.error (.node (.link (mangledPrefix ++ name) ("could not load a native library: " ++ detail) none) [search]),
        ended) := by
  obtain ⟨found, warnings, hseek, hc, rfl⟩ := hlocates
  obtain ⟨fault, ended, hx⟩ := Host.extract_of_not_isDirectory hfirst hd hne hnot c
  have hpack : l.Packs context name mangledPrefix start search found c directory after := ⟨hseek, warnings, hc, hd⟩
  exact ⟨fault.message, ended, hpack.load_of_extract hx⟩

/-- **A directory for copies, or a fatal failure.** When the directory for copies is first settled, there is none and the
failure says so, or its path names a directory: exactly if none was asked for, or what was asked for is not empty, names
nothing but a directory if anything, and has an absolute form that is not too long. A load that located a copy fails
fatally in the first case, which ends a scan at its name. It does not where it was given a path that names no directory:
then the copy cannot be extracted, and a scan goes on. -/
theorem directory_or_fatal_iff {id : DirectoryId} (hfirst : (h.directories id).outcome = none)
    (hk : h.files.KnowsCurrent) :
    (∀ failure after, h.extractionDirectory id = (.error failure, after) →
      ∃ message, failure = .of (.directory message)) ∧
    (∀ directory after, h.extractionDirectory id = (.ok directory, after) →
      (after.files.isDirectory directory = true ↔ ∀ path, (h.directories id).requested = some path →
        path ≠ "" ∧ (∀ node, h.files.status path = .ok node → node.isDirectory = true) ∧
          directory.utf8ByteSize ≤ FileSystem.pathLimit)) ∧
    ∀ (l : Loader) context name mangledPrefix start search c, l.directory = id →
      l.Locates context name mangledPrefix start search c h →
      (∀ failure after, h.extractionDirectory id = (.error failure, after) → ∃ last : Failure,
        last.cause = failure.cause ∧ last.earlier = [search] ∧ last.isFatal = true ∧
        l.load context name start = (.error last, after) ∧
        ∀ scan rest, l.loadFirstFrom context scan (name :: rest) start =
            (.error (scan.record name last).exhausted, after.warn [givingUp name last]) ∧
          (scan.record name last).exhausted.fatal? = some last) ∧
      ∀ directory after, h.extractionDirectory id = (.ok directory, after) → directory ≠ "" →
        after.files.isDirectory directory = false → ∃ last detail ended,
          last = .node (.link (mangledPrefix ++ name) ("could not load a native library: " ++ detail) none) [search] ∧
          last.isFatal = false ∧ l.load context name start = (.error last, ended) ∧
          ∀ scan rest, l.loadFirstFrom context scan (name :: rest) start =
            l.loadFirstFrom context (scan.record name last) rest ended := by
  refine ⟨?_, ?_, ?_⟩
  · intro failure after hd
    exact extractionDirectory_eq_error hd
  · intro directory after hd
    exact Host.isDirectory_of_extractionDirectory_iff hfirst hk hd
  · rintro l context name mangledPrefix start search c rfl hlocates
    constructor
    · intro failure after hd
      obtain ⟨message, rfl, hl⟩ := hlocates.load_of_error hd
      refine ⟨.node (.directory message) [search], rfl, rfl, rfl, hl, ?_⟩
      intro scan rest
      exact ⟨loadFirstFrom_of_isFatal hl rfl scan rest, Scan.fatal?_exhausted_record rfl⟩
    · intro directory after hd hne hnot
      obtain ⟨detail, ended, hl⟩ := hlocates.load_of_not_isDirectory hfirst hd hne hnot
      exact ⟨_, detail, ended, rfl, rfl, hl, loadFirstFrom_of_not_isFatal hl rfl⟩

/-! ## A file in the way -/

/-- A process with a packaged library and a file `/blocker`, where some directory for copies is asked for. -/
def blockedHost (requested : String) : Host :=
  { homelessHost with
    files := { entries := [(["blocker"], .file 0o644 [])] }
    directories := fun _ => { requested := some requested } }

/-- A process in the root knows its path. -/
theorem knowsCurrent_of_root {fs : FileSystem} (hroot : fs.current = []) : fs.KnowsCurrent := by
  have hnamed : fs.NamesCurrent := by
    refine ⟨?_, ?_⟩
    · rw [hroot]
      simp
    · intro loc hsuffix
      rw [hroot, List.suffix_nil] at hsuffix
      rw [hsuffix]
      exact ⟨_, rfl⟩
  exact hnamed.knowsCurrent

/-- The file is taken for the directory, so the load fails as one that cannot be linked, and the scan goes on. -/
theorem file_taken_for_directory :
    ((blockedHost "/blocker").extractionDirectory 0).1 = .ok "/blocker" ∧
      ((blockedHost "/blocker").extractionDirectory 0).2.files.isDirectory "/blocker" = false ∧
      (∃ failure, (strandedLoader.load 1 "x" (blockedHost "/blocker")).1 = .error failure ∧ failure.isFatal = false) ∧
      ∃ failures, (strandedLoader.loadFirst 1 ["x", "y"] (blockedHost "/blocker")).1 =
          .error (.node (.exhausted ["x", "y"]) failures) ∧
        (Failure.node (.exhausted ["x", "y"]) failures).fatal? = none :=
  ⟨by rfl, by rfl, ⟨_, by rfl, by rfl⟩, ⟨_, by rfl, by rfl⟩⟩

/-- The process in which `x` is looked for on the search path, where a directory below the file is asked for. -/
def searchedHost : Host := (strandedLoader.bind 1 (.searched "x") "x" "" (blockedHost "/blocker/sub")).2

/-- Below the file no directory can be made, so the load fails fatally and ends the scan; beside it one is made. -/
theorem directory_or_fatal_iff_blocked :
    (∃ last after, last.isFatal = true ∧
      strandedLoader.load 1 "x" (blockedHost "/blocker/sub") = (.error last, after) ∧
      (strandedLoader.loadFirst 1 ["x", "y"] (blockedHost "/blocker/sub")).1 =
        .error (.node (.exhausted ["x"]) [last])) ∧
    ∃ after, (blockedHost "/copies").extractionDirectory 0 = (.ok "/copies", after) ∧
      after.files.isDirectory "/copies" = true := by
  constructor
  · have hfirst : ((searchedHost.warn []).directories 0).outcome = none := by rfl
    have hk : (searchedHost.warn []).files.KnowsCurrent := knowsCurrent_of_root (by rfl)
    have hseek : strandedLoader.Seeks 1 "x" "" (blockedHost "/blocker/sub")
        (.of (.link "x" "no x on the library search path" none)) searchedHost := ⟨by rfl, by rfl, by rfl⟩
    have hlocates : strandedLoader.Locates 1 "x" "" (blockedHost "/blocker/sub")
        (.of (.link "x" "no x on the library search path" none)) packedCandidate (searchedHost.warn []) :=
      ⟨searchedHost, [], hseek, by rfl, rfl⟩
    obtain ⟨failure, after, hd⟩ : ∃ failure after,
        (searchedHost.warn []).extractionDirectory 0 = (.error failure, after) := ⟨_, _, by rfl⟩
    obtain ⟨last, -, -, hfatal, hl, hscan⟩ :=
      ((directory_or_fatal_iff hfirst hk).2.2 strandedLoader 1 "x" "" _ _ _ rfl hlocates).1 failure after hd
    refine ⟨last, after, hfatal, hl, ?_⟩
    rw [loadFirst, (hscan {} ["y"]).1]
    rfl
  · have hfirst : ((blockedHost "/copies").directories 0).outcome = none := by rfl
    have hk : (blockedHost "/copies").files.KnowsCurrent := knowsCurrent_of_root rfl
    obtain ⟨after, hd⟩ : ∃ after, (blockedHost "/copies").extractionDirectory 0 = (.ok "/copies", after) :=
      ⟨_, by rfl⟩
    refine ⟨after, hd, ((directory_or_fatal_iff hfirst hk).2.1 "/copies" after hd).mpr ?_⟩
    intro path hpath
    cases hpath
    have habsent : (blockedHost "/copies").files.status "/copies" = .error (.system .missing) := by rfl
    refine ⟨by decide, ?_, by decide⟩
    intro node hs
    rw [habsent] at hs
    cases hs

end NativeLoader.Loader
