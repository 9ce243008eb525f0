import NativeLoader.Linker.Tabulated
import NativeLoader.Proofs.Loading.Course
import NativeLoader.Proofs.Loading.Provenance
import NativeLoader.Proofs.Session.Basic

/-!
# Copies that are left over

A load makes one file, if it extracts a copy, and else none. If copies are deleted, then at the end of the load either
nothing is at the path of the copy, or its deletion was put off (`Loader.EndsCopied.gone_or_pending`). Until the deletions
that were put off are made up for, nothing that was put off is forgotten, in no action and in no run
(`prefix_pending_step`, `prefix_pending_run`). So no copy that is still there is forgotten either (`no_copy_forgotten`).
-/

namespace NativeLoader

namespace Loader

variable {l : Loader} {context : ContextId} {name : String} {h after : Host}

/-- What was put off when a copy had been extracted is what was put off before the load. -/
theorem Extracts.pending {path : String} {extracted : Host} (hextracts : l.Extracts context name h path extracted) :
    extracted.pending = h.pending := by
  obtain ⟨_, _, found, c, directory, settled, hpack, hx⟩ := hextracts
  obtain ⟨files, calls, hasked⟩ := asked_frame l context name h
  calc extracted.pending = settled.pending := (extract_addsFile hx).2
    _ = found.pending := hpack.settled.1.pending
    _ = (l.asked context name h).pending := by rw [hpack.seeks.asked]
    _ = h.pending := by rw [hasked]

/-- What was extracted is the only file made since the search path was asked for. -/
theorem Extracts.addsFile {path : String} {extracted : Host} (hextracts : l.Extracts context name h path extracted) :
    ∃ made loc, (l.asked context name h).files.MakesDirectories made ∧ made.AddsFile path loc extracted.files := by
  obtain ⟨_, _, found, c, directory, settled, hpack, hx⟩ := hextracts
  obtain ⟨⟨_, loc, hadded, -⟩, _⟩ := extract_addsFile hx
  refine ⟨settled.files, loc, ?_, hadded⟩
  rw [hpack.seeks.asked]
  exact hpack.settled.1.makesDirectories

theorem EndsBare.pending (hbare : l.EndsBare context name h after) : after.pending = h.pending := by
  obtain ⟨files, calls, hasked⟩ := asked_frame l context name h
  calc after.pending = (l.asked context name h).pending := hbare.settles.pending
    _ = h.pending := by rw [hasked]

/-- **What becomes of a copy**: since it was bound no file was added; at most its own deletion was put off; and if copies
are deleted, nothing is at its path or its deletion was put off. -/
theorem EndsCopied.gone_or_pending {path : String} {extracted : Host} {outcome : Except Failure Library}
    (he : l.EndsCopied context path extracted outcome after) :
    (∀ mangledPrefix, l.mangledPrefix = .ok mangledPrefix →
        (l.bind context (.extracted path) path mangledPrefix extracted).2.files.AddsNoFile after.files) ∧
      (after.pending = extracted.pending ∨ after.pending = extracted.pending ++ [path]) ∧
      (l.settings.deleteCopies = true → after.files.isPresent path = false ∨ path ∈ after.pending) := by
  obtain ⟨mangledPrefix, bound, files, contexts, handles, hp, hb, hfiles, rfl, -⟩ := he
  refine ⟨?_, ?_, ?_⟩
  · intro other ho
    rw [hp] at ho
    cases ho
    rw [hb]
    have hused : bound.files.AddsNoFile files := by
      rcases hfiles with rfl | rfl
      · exact .refl bound.files
      · exact .checkExecutable path bound.files
    exact hused.trans (Host.discard_addsNoFile l.settings.deleteCopies path { bound with files })
  · obtain ⟨_, _, hbound⟩ := bind_frame l context (.extracted path) path mangledPrefix extracted
    have hsame : extracted.pending = bound.pending := by rw [← hb, hbound]
    rw [hsame]
    exact Host.pending_discard l.settings.deleteCopies path { bound with files }
  · intro hdelete
    rw [hdelete]
    exact Host.gone_or_pending_discard path { bound with files }

/-! ## Nothing is forgotten by a load -/

/-- A load forgets nothing that was put off. -/
theorem prefix_pending_load (l : Loader) (context : ContextId) (name : String) (h : Host) :
    h.pending <+: (l.load context name h).2.pending := by
  rcases endsBare_or_endsCopied l context name h with hbare | ⟨path, extracted, hextracts, hcopied⟩
  · simp only [hbare.pending, List.prefix_rfl]
  · rw [← hextracts.pending]
    rcases hcopied.gone_or_pending.2.1 with hsame | hmore
    · simp only [hsame, List.prefix_rfl]
    · rw [hmore]
      exact List.prefix_append extracted.pending [path]

/-- Nor does a scan, as a whole and from each of its loads on. -/
theorem keptByLoads_pending (l : Loader) (context : ContextId) :
    l.KeptByLoads context fun h after => h.pending <+: after.pending where
  refl _ := List.prefix_rfl
  trans := List.IsPrefix.trans
  load := prefix_pending_load l context
  warn _ _ := List.prefix_rfl

end Loader

namespace Session

variable {s : Session} {a : Action} {t : Attempt} {before after : Host}

/-! ## Nothing is forgotten in a run -/

/-- An action forgets nothing that one of its loads has put off. -/
theorem Performs.prefix_pending (hp : s.Performs a t before after) : after.pending <+: (s.step a).host.pending :=
  hp.kept_after (Loader.keptByLoads_pending _ _)

/-- No action forgets what was put off, but the one that makes up for it. -/
theorem prefix_pending_step (s : Session) (ha : a ≠ .runPending) : s.host.pending <+: (s.step a).host.pending := by
  have hk : ∀ i context, (s.loaders i).KeptByLoads context fun h after => h.pending <+: after.pending :=
    fun i context => Loader.keptByLoads_pending (s.loaders i) context
  cases a with
  | load loader context name => exact kept_step hk rfl
  | loadFirst loader context names => exact kept_step hk rfl
  | loadEngine code loader context names => exact kept_step hk rfl
  | askDirectory loader =>
    have hs := Host.Settles.of_extractionDirectory (s.loaders loader).directory s.host.calls s.host.warnings s.host
    show s.host.pending <+: (s.host.extractionDirectory (s.loaders loader).directory).2.pending
    simp only [hs.pending, List.prefix_rfl]
  | addRoot context root => exact List.prefix_rfl
  | replaceLinker loader linker => exact List.prefix_rfl
  | changeFiles change => exact List.prefix_rfl
  | defer path => exact List.prefix_append s.host.pending [path]
  | runPending => exact absurd rfl ha

/-- No run forgets what was put off before it is made up for. -/
theorem prefix_pending_run : ∀ {actions : List Action} (s : Session), (∀ a ∈ actions, a ≠ .runPending) →
    s.host.pending <+: (s.run actions).host.pending
  | [], _, _ => List.prefix_rfl
  | a :: actions, s, hall => by
    have hrest : ∀ b ∈ actions, b ≠ .runPending := fun b hb => hall b (List.mem_cons_of_mem a hb)
    exact (prefix_pending_step s (hall a List.mem_cons_self)).trans (prefix_pending_run (s.step a) hrest)

/-- **No copy is forgotten.** A load that extracts nothing, be it that extracting fails, makes nothing but directories
after it has asked for the search path, whatever its settings are, and puts nothing off. One that extracts a copy makes
one file, the copy, and adds no other once the linker was asked to bind it. If copies are deleted then nothing is at the
path of the copy when the load ends, or its deletion was put off; and a copy that is there then stays among what is put
off, in every run, until that is made up for. -/
theorem no_copy_forgotten (hp : s.Performs a t before after) :
    let l := s.loaders t.loader
    let asked := l.asked t.context t.name before
    ((∀ path extracted, ¬l.Extracts t.context t.name before path extracted) →
      asked.files.MakesDirectories after.files ∧ after.pending = before.pending) ∧
    ∀ path extracted, l.Extracts t.context t.name before path extracted →
      (∃ made loc, asked.files.MakesDirectories made ∧ made.AddsFile path loc extracted.files) ∧
      (∀ mangledPrefix, l.mangledPrefix = .ok mangledPrefix →
        (l.bind t.context (.extracted path) path mangledPrefix extracted).2.files.AddsNoFile after.files) ∧
      (l.settings.deleteCopies = true →
        (after.files.isPresent path = false ∨ path ∈ after.pending) ∧
        ∀ later, (∀ b ∈ later, b ≠ .runPending) → after.files.isPresent path = true →
          path ∈ ((s.step a).run later).host.pending) := by
  intro l asked
  have hafter := hp.load_eq
  rcases Loader.endsBare_or_endsCopied l t.context t.name before with hbare | ⟨path, extracted, hextracts, hcopied⟩
  · rw [← hafter] at hbare
    refine ⟨fun _ => ⟨hbare.settles.makesDirectories, hbare.pending⟩, ?_⟩
    intro path extracted hextracts
    exact absurd hextracts (hbare.bare path extracted)
  · rw [← hafter] at hcopied
    refine ⟨fun hnone => absurd hextracts (hnone path extracted), ?_⟩
    intro other reached hother
    obtain ⟨rfl, rfl⟩ := hextracts.unique hother
    obtain ⟨hadds, -, hdeleted⟩ := hcopied.gone_or_pending
    refine ⟨hextracts.addsFile, hadds, ?_⟩
    intro hdelete
    refine ⟨hdeleted hdelete, ?_⟩
    intro later hlater hpresent
    have hpending : other ∈ after.pending := by
      rcases hdeleted hdelete with hgone | hm
      · rw [hgone] at hpresent
        cases hpresent
      · exact hm
    exact (prefix_pending_run (s.step a) hlater).subset (hp.prefix_pending.subset hpending)

/-! ## A copy that cannot be deleted -/

/-- A loader whose linker puts a directory in the place of each file that it binds. -/
def replacingLoader : Loader := { linker := LinkerTable.toLinker { effect := some .replace } }

/-- A session that loads a packaged library with this loader. -/
def replacingSession : Session := ⟨Loader.packagedHost, fun _ => replacingLoader⟩

/-- The directory that was put in the place of a copy is there, and still to be deleted after another load. -/
theorem no_copy_forgotten_replaced : ∃ path,
    (replacingSession.step (.load 0 1 "x")).host.files.isPresent path = true ∧
      path ∈ (replacingSession.run [.load 0 1 "x", .load 0 2 "x"]).host.pending := by
  obtain ⟨hone, hpresent⟩ : (replacingLoader.load 1 "x" Loader.packagedHost).2.pending.length = 1 ∧
      (replacingLoader.load 1 "x" Loader.packagedHost).2.pending.all
        (replacingLoader.load 1 "x" Loader.packagedHost).2.files.isPresent = true := by decide +kernel
  rcases Loader.endsBare_or_endsCopied replacingLoader 1 "x" Loader.packagedHost with
    hbare | ⟨path, extracted, hextracts, hcopied⟩
  · rw [hbare.pending] at hone
    cases hone
  · have hpending : (replacingLoader.load 1 "x" Loader.packagedHost).2.pending = [path] := by
      rcases hcopied.gone_or_pending.2.1 with hsame | hmore
      · rw [hsame, hextracts.pending] at hone
        cases hone
      · rw [hmore, hextracts.pending]
        rfl
    rw [hpending] at hpresent
    have hthere : (replacingLoader.load 1 "x" Loader.packagedHost).2.files.isPresent path = true := by
      simpa using hpresent
    have hperforms : replacingSession.Performs (.load 0 1 "x") ⟨0, 1, "x"⟩ Loader.packagedHost
        (replacingLoader.load 1 "x" Loader.packagedHost).2 := .load 0 1 "x"
    have hstep : (replacingSession.step (.load 0 1 "x")).host =
        (replacingLoader.load 1 "x" Loader.packagedHost).2 := by
      simp only [step, withHost, replacingSession]
    refine ⟨path, by rw [hstep]; exact hthere, ?_⟩
    have hleft := ((no_copy_forgotten hperforms).2 path extracted hextracts).2.2 rfl
    exact hleft.2 [.load 0 2 "x"] (by simp) hthere

end Session
end NativeLoader
