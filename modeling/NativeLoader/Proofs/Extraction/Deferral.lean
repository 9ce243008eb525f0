import NativeLoader.Proofs.Extraction.Disposal
import NativeLoader.Proofs.FileSystem.Erasing

/-!
# Deletions that are put off

Copies are deleted by three calls, in any order: one that deletes a copy or puts it off, one that puts it off at once,
and one that makes up for all that was put off (`Deletion`). Each call but the last adds to the queue what it puts off
(`pending_perform`), so the queue is what was put off since it was last made up for (`pending_performAll`). Making up
for it empties the queue and removes the files that it names, whatever else is in it, and no other
(`deferred_until_run`).
-/

namespace NativeLoader

/-- A call that deletes files or puts it off, or what becomes of the files in between. -/
inductive Deletion where
  | discard (delete : Bool) (path : String)
  | defer (path : String)
  | runPending
  | meanwhile (change : FileSystem → FileSystem)

namespace Deletion

/-- The process after a call. -/
def perform : Deletion → Host → Host
  | discard delete path, h => (h.discard delete path).2
  | defer path, h => h.defer path
  | runPending, h => h.runPending
  | meanwhile change, h => { h with files := change h.files }

/-- The paths whose deletion a call puts off: that of a copy which is to be deleted and is not gone, or the one given. -/
def deferred : Deletion → Host → List String
  | discard delete path, h => if delete && !(h.discard delete path).1 then [path] else []
  | defer path, _ => [path]
  | runPending, _ => []
  | meanwhile _, _ => []

/-- The process after some calls. -/
def performAll (calls : List Deletion) (h : Host) : Host := calls.foldl (fun h call => call.perform h) h

/-- The paths whose deletion some calls put off, in order. -/
def deferredBy : List Deletion → Host → List String
  | [], _ => []
  | call :: calls, h => call.deferred h ++ deferredBy calls (call.perform h)

/-! ## What is put off -/

/-- A call adds to the queue what it puts off, unless it makes up for the queue. -/
theorem pending_perform {call : Deletion} (hr : call ≠ .runPending) (h : Host) :
    (call.perform h).pending = h.pending ++ call.deferred h := by
  cases call with
  | discard delete path =>
    cases delete with
    | false => exact (List.append_nil _).symm
    | true =>
      simp only [perform, deferred, Bool.true_and]
      cases hd : (h.discard true path).1 with
      | true =>
        rw [(Host.discard_of_true hd).2]
        exact (List.append_nil _).symm
      | false =>
        rw [Host.discard_of_false hd]
        rfl
  | defer path => rfl
  | runPending => exact absurd rfl hr
  | meanwhile change => exact (List.append_nil _).symm

/-- Some calls add what they put off, in order and as often as they do. -/
theorem pending_performAll : ∀ {calls : List Deletion}, (∀ call ∈ calls, call ≠ .runPending) → ∀ h : Host,
    (performAll calls h).pending = h.pending ++ deferredBy calls h
  | [], _, _ => (List.append_nil _).symm
  | call :: calls, hcalls, h => by
    have hrest := pending_performAll (fun other ho => hcalls other (List.mem_cons_of_mem call ho)) (call.perform h)
    rw [deferredBy, ← List.append_assoc, ← pending_perform (hcalls call List.mem_cons_self)]
    exact hrest

theorem performAll_append (earlier later : List Deletion) (h : Host) :
    performAll (earlier ++ later) h = performAll later (performAll earlier h) :=
  List.foldl_append

/-- **Deletions are put off until they are made up for.** Since the queue was last made up for, it holds what was put off
since, in order and with repetitions. A copy that is said to be gone is; if it is not, then its own path was put off and
nothing else happened; and one that is kept is left alone. Making up for the queue empties it and removes every file that
a path in it names, whatever other paths are among them, and leaves every directory and every other file where it was.
Doing it again changes nothing. (A file has nothing below it, so none stands above the current directory.) -/
theorem deferred_until_run (h : Host) :
    (∀ earlier later, (∀ call ∈ later, call ≠ .runPending) →
      (performAll (earlier ++ .runPending :: later) h).pending =
        deferredBy later (performAll (earlier ++ [.runPending]) h)) ∧
    (∀ path, (h.discard true path).1 = true → (h.discard true path).2.files.isPresent path = false) ∧
    (∀ path, (h.discard true path).1 = false →
      (h.discard true path).2 = { h with pending := h.pending ++ [path] }) ∧
    (∀ path, h.discard false path = (false, h)) ∧
    let after := h.runPending
    after = { h with files := after.files, pending := [] } ∧
    (h.files.HasNoFileAbove h.files.current →
      ∀ path ∈ h.pending, h.files.isFile path = true → after.files.isPresent path = false) ∧
    (∀ loc, ((∃ path ∈ h.pending, h.files.NamesFile path loc) → after.files.node? loc = none) ∧
      ((∀ path ∈ h.pending, ¬h.files.NamesFile path loc) → after.files.node? loc = h.files.node? loc)) ∧
    (∀ path loc, h.files.locate path = .ok loc → (∀ queued ∈ h.pending, h.files.locate queued ≠ .ok loc) →
      after.files.locate path = .ok loc ∧ after.files.node? loc = h.files.node? loc) ∧
    h.files.KeepsDirectories after.files ∧ after.files.GrowsTo h.files ∧ after.runPending = after := by
  refine ⟨?_, fun path hd => (Host.discard_of_true hd).1, fun path => Host.discard_of_false, fun path => rfl, rfl, ?_,
    FileSystem.node?_removeEach h.pending h.files, ?_, FileSystem.keepsDirectories_removeEach h.pending h.files,
    FileSystem.growsTo_removeEach h.pending h.files, Host.runPending_runPending h⟩
  · intro earlier later hlater
    rw [List.append_cons, performAll_append, pending_performAll hlater, performAll_append]
    rfl
  · intro hclear path hm hfile
    obtain ⟨loc, mode, bytes, hl, hn⟩ := FileSystem.isFile_iff.mp hfile
    exact FileSystem.isPresent_removeEach hm (FileSystem.namesFile_of_locate hclear hl hn) hl
  · intro path loc hl hnot
    have hunnamed : ∀ queued ∈ h.pending, ¬h.files.NamesFile queued loc :=
      fun queued hm hnames => hnot queued hm hnames.locate
    exact ⟨FileSystem.locate_removeEach hl hunnamed, (FileSystem.node?_removeEach h.pending h.files loc).2 hunnamed⟩

/-! ## A queue with all kinds of paths -/

/-- A process with a file and a directory, and a queue that names each, the file twice, and something that is not
there. -/
def queueingHost : Host where
  files := { entries := [(["f"], .file 0o600 [0x46]), (["d"], .directory 0o755)] }
  temporary := "/tmp"
  draws := .ofNumbers fun n => n
  pending := ["/f", "/d", "gone", "f"]

/-- The file goes and the directory stays; a directory that cannot be deleted is put off each time. -/
theorem deferred_until_run_mixed :
    queueingHost.runPending.files.isPresent "/f" = false ∧
      queueingHost.runPending.files.node? ["d"] = some (.directory 0o755) ∧
      (performAll [.discard true "/f", .runPending, .discard true "/d", .defer "f", .discard true "/d"]
        queueingHost).pending = ["/d", "f", "/d"] := by
  obtain ⟨hqueue, -, -, -, -, hgone, -, -, hkept, -, -⟩ := deferred_until_run queueingHost
  refine ⟨hgone ?_ "/f" (by simp [queueingHost]) (by decide), hkept.directory (by decide), ?_⟩
  · intro name above hsuffix
    simp [queueingHost] at hsuffix
  · exact hqueue [.discard true "/f"] [.discard true "/d", .defer "f", .discard true "/d"] (by simp)

end Deletion
end NativeLoader
