import NativeLoader.Proofs.Loading.Atomicity
import NativeLoader.Proofs.Loading.Housing
import NativeLoader.Proofs.Loading.RequestOrder
import NativeLoader.Proofs.Session.Basic

/-!
# Directories that are settled for good

Once a directory for copies is settled, be it as a path or as a failure, no load, no action and no run changes what is
known of it (`remembers_load`, `remembers_step`, `remembers_run`). It is settled at the latest when a loader is asked for
it, and when a load locates a packaged copy to put there (`Learns`); what it came to the first time is what it comes to
ever after (`directory_settled_for_good`).
-/

namespace NativeLoader

/-! ## What is known of directories -/

/-- Every directory that is settled in a process is so in another. -/
def Host.Remembers (h after : Host) : Prop :=
  ∀ id outcome, (h.directories id).outcome = some outcome → after.directories id = h.directories id

namespace Host

variable {h between after : Host}

theorem Remembers.of_same (hd : after.directories = h.directories) : h.Remembers after :=
  fun id _ _ => congrFun hd id

theorem Remembers.refl (h : Host) : h.Remembers h := .of_same rfl

theorem Remembers.trans (h₁ : h.Remembers between) (h₂ : between.Remembers after) : h.Remembers after := by
  intro id outcome ho
  have hbetween := h₁ id outcome ho
  rw [← hbetween] at ho
  exact (h₂ id outcome ho).trans hbetween

/-- To settle one directory is to change no other, and not to change that one if it was settled. -/
theorem Settles.remembers {id : DirectoryId} (hs : h.Settles id after) : h.Remembers after := by
  intro other outcome ho
  by_cases hne : other = id
  · subst hne
    exact congrFun (hs.eq_of_outcome ho).2 other
  · exact hs.directories_of_ne hne

theorem Remembers.extractionDirectory (id : DirectoryId) (h : Host) : h.Remembers (h.extractionDirectory id).2 :=
  (Settles.of_extractionDirectory id h.calls h.warnings h).remembers

/-- A directory that is remembered as settled is there at once, as it was settled. -/
theorem Remembers.extractionDirectory_eq {id : DirectoryId} {outcome : Except String String} (hr : h.Remembers after)
    (ho : (h.directories id).outcome = some outcome) : after.extractionDirectory id = (directoryResult outcome, after) := by
  rw [← hr id outcome ho] at ho
  exact extractionDirectory_of_outcome ho

end Host

namespace Loader

variable {l : Loader} {context : ContextId} {name mangledPrefix : String} {h found settled after : Host}
  {failure search : Failure} {c : Candidate}

/-! ## Loads -/

theorem EndsCopied.directories {path : String} {extracted : Host} {outcome : Except Failure Library}
    (he : l.EndsCopied context path extracted outcome after) : after.directories = extracted.directories := by
  obtain ⟨mangledPrefix, bound, files, contexts, handles, -, hb, -, rfl, -⟩ := he
  obtain ⟨_, _, hgone⟩ := Host.discard_frame l.settings.deleteCopies path { bound with files }
  obtain ⟨_, _, hbound⟩ := bind_frame l context (.extracted path) path mangledPrefix extracted
  rw [hgone, ← hb, hbound]

/-- Once a load has a directory for its copy, no more is settled. -/
theorem Packs.directories {directory : String}
    (hpack : l.Packs context name mangledPrefix h failure found c directory settled) :
    (l.load context name h).2.directories = settled.directories := by
  cases hx : l.extract name mangledPrefix c directory settled with
  | mk result extracted =>
    have hextracted : extracted.directories = settled.directories := (frame_of_extract hx).2
    cases result with
    | error fault =>
      rw [hpack.load_of_extract (extract_eq_error_iff.mp hx)]
      exact hextracted
    | ok path =>
      have hextracts : l.Extracts context name h path extracted := ⟨_, _, _, _, _, _, hpack, hx⟩
      rcases endsBare_or_endsCopied l context name h with hbare | ⟨other, reached, hother, hcopied⟩
      · exact absurd hextracts (hbare.bare path extracted)
      · obtain ⟨rfl, rfl⟩ := hextracts.unique hother
        exact hcopied.directories.trans hextracted

/-- A load changes nothing that was settled. -/
theorem remembers_load (l : Loader) (context : ContextId) (name : String) (h : Host) :
    h.Remembers (l.load context name h).2 := by
  obtain ⟨files, calls, hasked⟩ := asked_frame l context name h
  have hstart : h.Remembers (l.asked context name h) := .of_same (by rw [hasked])
  rcases endsBare_or_endsCopied l context name h with hbare | ⟨_, _, ⟨_, _, found, _, _, settled, hpack, _⟩, _⟩
  · exact hstart.trans hbare.settles.remembers
  · rw [hpack.seeks.asked] at hstart
    exact hstart.trans (hpack.settled.1.remembers.trans (.of_same hpack.directories))

/-- Nor does a scan, as a whole and from each of its loads on. -/
theorem keptByLoads_remembers (l : Loader) (context : ContextId) : l.KeptByLoads context Host.Remembers where
  refl := .refl
  trans := .trans
  load := remembers_load l context
  warn _ _ := .of_same rfl

/-! ## Asking for the directory -/

/-- A load that locates a copy has settled the directory for copies when it ends, and was told what it came to. -/
theorem Locates.outcome {located : Host} (hlocates : l.Locates context name mangledPrefix h search c located) :
    ∃ outcome, ((l.load context name h).2.directories l.directory).outcome = some outcome ∧
      (located.extractionDirectory l.directory).1 = Host.directoryResult outcome := by
  obtain ⟨outcome, hsettled, hresult⟩ := Host.outcome_extractionDirectory l.directory located
  refine ⟨outcome, ?_, hresult⟩
  cases hd : located.extractionDirectory l.directory with
  | mk result settled =>
    rw [hd] at hsettled
    cases result with
    | error failure =>
      obtain ⟨_, _, hl⟩ := hlocates.load_of_error hd
      rw [hl]
      exact hsettled
    | ok directory =>
      obtain ⟨found, warnings, hseek, hc, rfl⟩ := hlocates
      have hpack : l.Packs context name mangledPrefix h search found c directory settled := ⟨hseek, warnings, hc, hd⟩
      rw [hpack.directories]
      exact hsettled

/-- Until a load locates a copy it changes no files but by asking for the search path, and settles nothing. -/
theorem Locates.frame {located : Host} (hlocates : l.Locates context name mangledPrefix h search c located) :
    located.files = (l.asked context name h).files ∧ located.directories = h.directories := by
  obtain ⟨found, warnings, hseek, -, rfl⟩ := hlocates
  obtain ⟨files, calls, hasked⟩ := asked_frame l context name h
  rw [← hseek.asked]
  exact ⟨rfl, by rw [hasked]; rfl⟩

/-- What a load locates is extracted to the directory that it asks for then. -/
theorem Locates.extract_eq {located : Host} {directory path : String} {extracted : Host}
    (hlocates : l.Locates context name mangledPrefix h search c located)
    (hd : located.extractionDirectory l.directory = (.ok directory, settled))
    (hextracts : l.Extracts context name h path extracted) :
    l.extract name mangledPrefix c directory settled = (.ok path, extracted) := by
  obtain ⟨found, warnings, hseek, hc, rfl⟩ := hlocates
  obtain ⟨_, _, _, _, _, _, hpack, hx⟩ := hextracts
  obtain ⟨rfl, -, -, rfl, rfl, rfl⟩ := Packs.unique ⟨hseek, warnings, hc, hd⟩ hpack
  exact hx

/-- A load that located a copy and failed for want of a directory has put requests for its name only, and extracted
nothing. -/
theorem Locates.calls_of_isFatal {located : Host}
    (hlocates : l.Locates context name mangledPrefix h search c located)
    (hl : l.load context name h = (.error failure, after)) (hfatal : failure.isFatal = true) :
    (∀ path extracted, ¬l.Extracts context name h path extracted) ∧ ∃ named,
      after.calls = h.calls ++ named ∧ ∀ call ∈ named, call.request.target = .searched (mangledPrefix ++ name) := by
  obtain ⟨found, _, hseek, -, -⟩ := hlocates
  obtain ⟨named, filed, hcalls, -, hnamed, hfiled, -, hnone⟩ := calls_of_load l context name h
  rw [hl] at hcalls hnone
  obtain rfl : filed = [] := hnone failure rfl hfatal
  refine ⟨?_, named, by simpa using hcalls, ?_⟩
  · intro path extracted hextracts
    exact hfiled.mpr ⟨path, extracted, hextracts⟩ rfl
  · intro call hcall
    obtain ⟨mangledPrefix', answer, hp, hputs, -⟩ := hnamed (List.ne_nil_of_mem hcall)
    rw [hseek.accepted] at hp
    cases hp
    exact hputs.target_eq call hcall

end Loader

namespace Session

variable {s : Session} {a : Action} {id : DirectoryId}

/-! ## Asking for the directory -/

/-- An action settles a directory for copies, unless it was settled before: it asks for the directory, or one of its
loads locates a copy to put there; and what it is told. -/
inductive Learns (s : Session) (id : DirectoryId) : Action → Except Failure String → Prop
  | asked {loader : LoaderId} : (s.loaders loader).directory = id →
      Learns s id (.askDirectory loader) (s.host.extractionDirectory id).1
  | located {a : Action} {t : Attempt} {before after located : Host} {mangledPrefix : String} {search : Failure}
      {c : Candidate} : s.Performs a t before after → (s.loaders t.loader).directory = id →
      (s.loaders t.loader).Locates t.context t.name mangledPrefix before search c located →
      Learns s id a (located.extractionDirectory id).1

/-- After such an action the directory is settled, as the action was told. -/
theorem Learns.outcome {result : Except Failure String} (hl : s.Learns id a result) :
    ∃ outcome, ((s.step a).host.directories id).outcome = some outcome ∧ result = Host.directoryResult outcome := by
  cases hl with
  | asked hid =>
    subst hid
    exact Host.outcome_extractionDirectory _ s.host
  | located hperforms hid hlocates =>
    subst hid
    obtain ⟨outcome, hsettled, hresult⟩ := hlocates.outcome
    rw [← hperforms.load_eq] at hsettled
    refine ⟨outcome, ?_, hresult⟩
    rw [hperforms.kept_after (Loader.keptByLoads_remembers _ _) _ _ hsettled]
    exact hsettled

/-! ## Runs -/

/-- No action changes what was settled. -/
theorem remembers_step (s : Session) (a : Action) : s.host.Remembers (s.step a).host := by
  have hk : ∀ i context, (s.loaders i).KeptByLoads context Host.Remembers :=
    fun i context => Loader.keptByLoads_remembers (s.loaders i) context
  cases a with
  | load loader context name => exact kept_step hk rfl
  | loadFirst loader context names => exact kept_step hk rfl
  | loadEngine code loader context names => exact kept_step hk rfl
  | askDirectory loader => exact .extractionDirectory (s.loaders loader).directory s.host
  | addRoot context root => exact .of_same rfl
  | replaceLinker loader linker => exact .refl s.host
  | changeFiles change => exact .of_same rfl
  | defer path => exact .of_same rfl
  | runPending => exact .of_same rfl

/-- No run changes what was settled. -/
theorem remembers_run : ∀ (actions : List Action) (s : Session), s.host.Remembers (s.run actions).host
  | [], s => .refl s.host
  | a :: actions, s => (remembers_step s a).trans (remembers_run actions (s.step a))

/-- **A directory for copies is settled for good.** Once an action has learned what a directory comes to, be it that it
asked for it or that one of its loads located a copy, every later action is told the same, whatever becomes of the
files: one that asks for the directory, and every load that locates a copy, alone or within a scan. If there is a
directory, copies are extracted to it and nowhere else. If there is none, every such load fails fatally and with the
same message, and it makes no file, extracts nothing, and puts requests for its name only. -/
theorem directory_settled_for_good {result : Except Failure String} (hlearns : s.Learns id a result)
    (later : List Action) :
    let s' := s.run (a :: later)
    s'.host.extractionDirectory id = (result, s'.host) ∧
    ∀ b t before after, s'.Performs b t before after →
      let l := s'.loaders t.loader
      l.directory = id → ∀ mangledPrefix search c located,
        l.Locates t.context t.name mangledPrefix before search c located →
        located.extractionDirectory id = (result, located) ∧
        (∀ directory, result = .ok directory →
          ∀ path extracted, l.Extracts t.context t.name before path extracted →
            l.extract t.name mangledPrefix c directory located = (.ok path, extracted) ∧
            ∃ base, located.temporaryBase directory = .ok base ∧ Path.IsEntry base path) ∧
        ∀ failure, result = .error failure → ∃ message, failure = .of (.directory message) ∧
          l.load t.context t.name before = (.error (.node (.directory message) [search]), after) ∧
          (Failure.node (.directory message) [search]).isFatal = true ∧
          after.files = (l.asked t.context t.name before).files ∧
          ((∀ searched, l.linker.Spares (.searched searched)) → after.files = before.files) ∧
          (∀ path extracted, ¬l.Extracts t.context t.name before path extracted) ∧
          ∃ named, after.calls = before.calls ++ named ∧
            ∀ call ∈ named, call.request.target = .searched (mangledPrefix ++ t.name) := by
  intro s'
  obtain ⟨outcome, hsettled, rfl⟩ := hlearns.outcome
  have hrun : (s.step a).host.Remembers s'.host := remembers_run later (s.step a)
  refine ⟨hrun.extractionDirectory_eq hsettled, ?_⟩
  intro b t before after hperforms l hid mangledPrefix search c located hlocates
  obtain ⟨hfiles, hdirectories⟩ := hlocates.frame
  have hbefore : s'.host.Remembers before := hperforms.kept_before (Loader.keptByLoads_remembers _ _)
  have hremembers : (s.step a).host.Remembers located := hrun.trans (hbefore.trans (.of_same hdirectories))
  have hd := hremembers.extractionDirectory_eq hsettled
  refine ⟨hd, ?_, ?_⟩
  · rintro directory hresult path extracted hextracts
    rw [hresult, ← hid] at hd
    have hx := hlocates.extract_eq hd hextracts
    obtain ⟨_, hcopy, -⟩ := Loader.extract_eq_ok_iff.mp hx
    obtain ⟨bytes, hcopied⟩ := Host.extract_eq_ok hcopy
    exact ⟨hx, hcopied.isEntry⟩
  · rintro failure hresult
    rw [hresult, ← hid] at hd
    obtain ⟨message, rfl, hl⟩ := hlocates.load_of_error hd
    have hafter : after = located := by
      rw [hperforms.load_eq]
      exact congrArg Prod.snd hl
    subst hafter
    obtain ⟨hnone, hcalls⟩ := hlocates.calls_of_isFatal hl rfl
    refine ⟨message, rfl, hl, rfl, hfiles, ?_, hnone, hcalls⟩
    intro hspares
    obtain ⟨calls, hasked⟩ := Loader.asked_of_spares hspares t.context t.name before
    rw [hfiles, hasked]

/-! ## A file that is no longer in the way -/

/-- A session that asks for a directory below a file. -/
def blockedSession : Session := ⟨Loader.blockedHost "/blocker/sub", fun _ => Loader.strandedLoader⟩

/-- The session once it has been told that there is no such directory, and the file is gone. -/
def unblockedSession : Session := blockedSession.run [.askDirectory 0, .changeFiles fun _ => {}]

/-- The process in which that session has looked for `x` on the search path. -/
def unblockedHost : Host := (Loader.strandedLoader.bind 1 (.searched "x") "x" "" unblockedSession.host).2

/-- The directory could be made now, but there is none for good: the load fails for the same reason. -/
theorem directory_settled_for_good_blocked :
    (unblockedSession.host.files.prepare "/blocker/sub").1 = .ok "/blocker/sub" ∧
    ∃ message search, (blockedSession.host.extractionDirectory globalDirectory).1 = .error (.of (.directory message)) ∧
      (Loader.strandedLoader.load 1 "x" unblockedSession.host).1 = .error (.node (.directory message) [search]) ∧
      (Loader.strandedLoader.load 1 "x" unblockedSession.host).2.files = unblockedSession.host.files := by
  refine ⟨by rfl, ?_⟩
  have hlearns : blockedSession.Learns globalDirectory (.askDirectory 0)
      (blockedSession.host.extractionDirectory globalDirectory).1 := .asked rfl
  have hseek : Loader.strandedLoader.Seeks 1 "x" "" unblockedSession.host
      (.of (.link "x" "no x on the library search path" none)) unblockedHost := ⟨by rfl, by rfl, by rfl⟩
  have hlocates : Loader.strandedLoader.Locates 1 "x" "" unblockedSession.host
      (.of (.link "x" "no x on the library search path" none)) Loader.packedCandidate (unblockedHost.warn []) :=
    ⟨unblockedHost, [], hseek, by rfl, rfl⟩
  obtain ⟨failure, hresult⟩ : ∃ failure, (blockedSession.host.extractionDirectory globalDirectory).1 =
      .error failure := ⟨_, by rfl⟩
  obtain ⟨-, hload⟩ := directory_settled_for_good hlearns [.changeFiles fun _ => {}]
  obtain ⟨message, rfl, hl, -, -, hspared, -⟩ :=
    (hload _ _ _ _ (.load 0 1 "x") rfl _ _ _ _ hlocates).2.2 failure hresult
  refine ⟨message, _, hresult, congrArg Prod.fst hl, ?_⟩
  exact hspared fun searched => (LinkerTable.isQuiet_toLinker rfl).spares (.searched searched)

end Session
end NativeLoader
