import NativeLoader.Loading.FirstAvailable

/-!
# What a load leaves behind

- what the stages of a load may change: settling on a directory (`extractionDirectory_frame`), extracting
  (`extract_frame`), giving an install name (`renewInstallName_frame`), deleting (`discard_frame`) and asking about
  permissions (`diagnose_frame`);
- a load that fails leaves the contexts and the handles alone (`load_error`);
- a load that succeeds hands out what was bound under the name before, or binds a library that is what the loader
  asks for (`Loader.Binds`) and registers it (`load_eq_ok`).
-/

namespace NativeLoader

/-! ## What the stages change -/

namespace Host

/-- Making a temporary file changes the files and the random characters. -/
theorem makeTemporaryFile_frame (directory stem ending : String) (h : Host) :
    ∃ files draws, (h.makeTemporaryFile directory stem ending).2 = { h with files, draws } := by
  unfold makeTemporaryFile
  split
  · exact ⟨h.files, h.draws, rfl⟩
  · exact makeFresh_frame temporaryTries h

/-- Making a temporary directory changes the files and the random characters. -/
theorem makeTemporaryDirectory_frame (stem : String) (h : Host) :
    ∃ files draws, (h.makeTemporaryDirectory stem).2 = { h with files, draws } := by
  unfold makeTemporaryDirectory
  split
  · exact ⟨h.files, h.draws, rfl⟩
  · exact makeFresh_frame temporaryTries h

/-- Settling on a directory changes the files and the random characters. -/
theorem settle_frame (requested : Option String) (h : Host) :
    ∃ files draws, (h.settle requested).2 = { h with files, draws } := by
  cases requested with
  | some path => exact ⟨(h.files.prepare path).2, h.draws, rfl⟩
  | none =>
    obtain ⟨files, draws, hf⟩ := makeTemporaryDirectory_frame directoryStem h
    refine ⟨files, draws, ?_⟩
    unfold settle
    cases hm : h.makeTemporaryDirectory directoryStem with
    | mk made after =>
      rw [hm] at hf
      cases made with
      | ok path => exact hf
      | error fault => exact hf

/-- Asking for a directory changes the files, the random characters and what is known of that directory. -/
theorem extractionDirectory_frame (id : DirectoryId) (h : Host) :
    ∃ files draws d, (h.extractionDirectory id).2 = ({ h with files, draws } : Host).setDirectory id d := by
  unfold extractionDirectory
  split
  · refine ⟨h.files, h.draws, h.directories id, ?_⟩
    have hd : (fun i => if i = id then h.directories id else h.directories i) = h.directories := by
      funext i
      split
      · next hi => rw [hi]
      · rfl
    simp only [setDirectory, hd]
  · obtain ⟨files, draws, hf⟩ := settle_frame (h.directories id).requested h
    refine ⟨files, draws, { h.directories id with outcome := some (h.settle (h.directories id).requested).1 }, ?_⟩
    simp only [hf]

/-- Deleting a copy changes the files and what is put off. -/
theorem discard_frame (delete : Bool) (path : String) (h : Host) :
    ∃ files pending, (h.discard delete path).2 = { h with files, pending } := by
  rcases discard_eq delete path h with ⟨hd, _⟩ | ⟨files, _, hd⟩ | ⟨_, _, hd | hd⟩
  · exact ⟨h.files, h.pending, by rw [hd]⟩
  · exact ⟨files, h.pending, by rw [hd]⟩
  · exact ⟨h.files, h.pending, by rw [hd]⟩
  · exact ⟨h.files, h.pending ++ [path], by rw [hd]; rfl⟩

/-- Extracting changes the files, the random characters and what is put off. -/
theorem extract_frame (c : Candidate) (directory : String) (h : Host) :
    ∃ files draws pending, (h.extract c directory).2 = { h with files, draws, pending } := by
  obtain ⟨files, draws, hf⟩ :=
    makeTemporaryFile_frame directory (splitExtension c.fileName).1 (splitExtension c.fileName).2 h
  unfold extract
  simp only
  split
  · next fault after hm =>
    rw [hm] at hf
    exact ⟨files, draws, h.pending, hf⟩
  · next path loc after hm =>
    rw [hm] at hf
    simp only at hf
    subst hf
    split
    · next copied _ => exact ⟨copied, draws, h.pending, rfl⟩
    · next fault copied _ =>
      obtain ⟨left, pending, hd⟩ := discard_frame true path { h with files := copied, draws }
      exact ⟨left, draws, pending, hd⟩

/-- Giving a copy an install name changes the files and the random characters. -/
theorem renewInstallName_frame (tools : DeveloperTools) (name path : String) (h : Host) :
    ∃ files draws, (h.renewInstallName tools name path).2 = { h with files, draws } := by
  unfold renewInstallName
  split
  · exact ⟨h.files, h.draws, rfl⟩
  · simp only
    split
    · exact ⟨h.files, _, rfl⟩
    · split <;> exact ⟨_, _, rfl⟩

/-- Asking why a copy may not be executed changes the files. -/
theorem diagnose_frame (path : String) (failure : Failure) (h : Host) :
    ∃ files, (h.diagnose path failure).2 = { h with files } := by
  unfold diagnose
  split
  · split
    · split <;> exact ⟨_, rfl⟩
    · exact ⟨h.files, rfl⟩
  · exact ⟨h.files, rfl⟩

/-- Registering a library under a name that is free gives it the next handle. -/
theorem register_of_none {id : ContextId} {name mangledPrefix : String} {binding : Binding} {origin : Origin}
    {image : Image} {h : Host} (hn : (h.contexts id).library? (mangledPrefix ++ name) = none) :
    h.register id name mangledPrefix binding origin image =
      (⟨h.handles, name, mangledPrefix, binding, origin, image⟩,
        ({ h with handles := h.handles + 1 } : Host).setContext id
          ((h.contexts id).register ⟨h.handles, name, mangledPrefix, binding, origin, image⟩).2) := by
  have hl : (h.contexts id).library? (Library.name ⟨h.handles, name, mangledPrefix, binding, origin, image⟩) =
      none := hn
  simp only [register, Context.register, hl]

end Host

namespace Loader

theorem renewInstallName_frame (l : Loader) (name mangledPrefix path : String) (h : Host) :
    ∃ files draws, (l.renewInstallName name mangledPrefix path h).2 = { h with files, draws } := by
  unfold renewInstallName
  split
  · exact Host.renewInstallName_frame l.tools name path h
  · exact ⟨h.files, h.draws, rfl⟩

/-- Getting a copy ready changes the files, the random characters and what is put off. -/
theorem extract_frame (l : Loader) (name mangledPrefix : String) (c : Candidate) (directory : String) (h : Host) :
    ∃ files draws pending, (l.extract name mangledPrefix c directory h).2 = { h with files, draws, pending } := by
  obtain ⟨files, draws, pending, hf⟩ := Host.extract_frame c directory h
  unfold extract
  split
  · next hx =>
    rw [hx] at hf
    exact ⟨files, draws, pending, hf⟩
  · next path extracted hx =>
    rw [hx] at hf
    obtain ⟨files', draws', hr⟩ := renewInstallName_frame l name mangledPrefix path extracted
    exact ⟨files', draws', pending, by rw [hr, show extracted = _ from hf]⟩

/-- Getting a copy ready puts no request, and knows of no other directories. -/
theorem frame_of_extract {l : Loader} {name mangledPrefix directory : String} {c : Candidate} {h after : Host}
    {result : Except Failure String} (hx : l.extract name mangledPrefix c directory h = (result, after)) :
    after.calls = h.calls ∧ after.directories = h.directories := by
  obtain ⟨_, _, _, hframe⟩ := extract_frame l name mangledPrefix c directory h
  rw [hx] at hframe
  rw [show after = _ from hframe]
  exact ⟨rfl, rfl⟩

end Loader

/-- A process whose contexts and handles are those of another. -/
structure Host.KeepsBindings (h after : Host) : Prop where
  contexts : after.contexts = h.contexts
  handles : after.handles = h.handles

namespace Host.KeepsBindings

theorem refl (h : Host) : h.KeepsBindings h := ⟨rfl, rfl⟩

theorem trans {h between after : Host} (h₁ : h.KeepsBindings between) (h₂ : between.KeepsBindings after) :
    h.KeepsBindings after :=
  ⟨h₂.contexts.trans h₁.contexts, h₂.handles.trans h₁.handles⟩

theorem warn (texts : List String) (h : Host) : h.KeepsBindings (h.warn texts) := ⟨rfl, rfl⟩

theorem bind (l : Loader) (context : ContextId) (target : Target) (subject mangledPrefix : String) (h : Host) :
    h.KeepsBindings (l.bind context target subject mangledPrefix h).2 := by
  obtain ⟨files, calls, hf⟩ := Loader.bind_frame l context target subject mangledPrefix h
  rw [hf]
  exact ⟨rfl, rfl⟩

theorem extractionDirectory (id : DirectoryId) (h : Host) : h.KeepsBindings (h.extractionDirectory id).2 := by
  obtain ⟨files, draws, d, hf⟩ := extractionDirectory_frame id h
  rw [hf]
  exact ⟨rfl, rfl⟩

theorem extract (l : Loader) (name mangledPrefix : String) (c : Candidate) (directory : String) (h : Host) :
    h.KeepsBindings (l.extract name mangledPrefix c directory h).2 := by
  obtain ⟨files, draws, pending, hf⟩ := Loader.extract_frame l name mangledPrefix c directory h
  rw [hf]
  exact ⟨rfl, rfl⟩

theorem discard (delete : Bool) (path : String) (h : Host) : h.KeepsBindings (h.discard delete path).2 := by
  obtain ⟨files, pending, hf⟩ := discard_frame delete path h
  rw [hf]
  exact ⟨rfl, rfl⟩

theorem diagnose (path : String) (failure : Failure) (h : Host) :
    h.KeepsBindings (h.diagnose path failure).2 := by
  obtain ⟨files, hf⟩ := diagnose_frame path failure h
  rw [hf]
  exact ⟨rfl, rfl⟩

end Host.KeepsBindings

namespace Loader

variable {l : Loader} {context : ContextId} {name mangledPrefix : String} {h after : Host}

/-! ## Loads that fail -/

/-- A copy that cannot be bound leaves the bindings alone. -/
theorem loadCopy_error {origin path : String} {searchFailure failure : Failure}
    (hl : l.loadCopy context name mangledPrefix origin path searchFailure h = (.error failure, after)) :
    h.KeepsBindings after := by
  have hb := Host.KeepsBindings.bind l context (.extracted path) path mangledPrefix h
  unfold loadCopy at hl
  split at hl
  · cases hl
  · next bindFailure bound he =>
    rw [he] at hb
    cases hl
    exact hb.trans ((Host.KeepsBindings.diagnose path bindFailure bound).trans (.discard _ path _))

/-- A packaged copy that cannot be loaded leaves the bindings alone. -/
theorem loadCandidate_error {c : Candidate} {searchFailure failure : Failure}
    (hl : l.loadCandidate context name mangledPrefix c searchFailure h = (.error failure, after)) :
    h.KeepsBindings after := by
  have hd := Host.KeepsBindings.extractionDirectory l.directory h
  unfold loadCandidate at hl
  split at hl
  · next he =>
    rw [he] at hd
    cases hl
    exact hd
  · next directory settled he =>
    rw [he] at hd
    have hx := Host.KeepsBindings.extract l name mangledPrefix c directory settled
    split at hl
    · next hc =>
      rw [hc] at hx
      cases hl
      exact hd.trans hx
    · next path extracted hc =>
      rw [hc] at hx
      exact hd.trans (hx.trans (loadCopy_error hl))

/-- A search among packaged copies that fails leaves the bindings alone. -/
theorem loadPackaged_error {searchFailure failure : Failure}
    (hl : l.loadPackaged context name mangledPrefix searchFailure h = (.error failure, after)) :
    h.KeepsBindings after := by
  unfold loadPackaged at hl
  simp only at hl
  split at hl
  · cases hl
    exact .warn _ h
  · cases hl
    exact .warn _ h
  · exact (Host.KeepsBindings.warn _ h).trans (loadCandidate_error hl)

/-- A load that fails leaves the bindings alone. -/
theorem load_error {failure : Failure} (hl : l.load context name h = (.error failure, after)) :
    h.KeepsBindings after := by
  unfold load at hl
  split at hl
  · cases hl
    exact .refl h
  · next mangledPrefix _ =>
    split at hl
    · cases hl
    · unfold loadNew at hl
      split at hl
      · cases hl
      · next searchFailure searched he =>
        have hb := Host.KeepsBindings.bind l context (.searched (mangledPrefix ++ name)) (mangledPrefix ++ name)
          mangledPrefix h
        rw [he] at hb
        exact hb.trans (loadPackaged_error hl)

/-! ## Loads that succeed -/

/-- No required symbol is missing exactly if the image exports them all. -/
theorem missingSymbol?_eq_none_iff {required : List String} {image : Image} :
    missingSymbol? required mangledPrefix image = none ↔
      ∀ symbol ∈ required, image.exportsSymbol (mangledPrefix ++ symbol) = true := by
  simp [missingSymbol?, List.find?_eq_none]

/-- What is bound exports what the loader requires. -/
theorem missingSymbol?_of_bind {target : Target} {subject : String} {image : Image} {binding : Binding}
    (hb : l.bind context target subject mangledPrefix h = (.ok (image, binding), after)) :
    missingSymbol? l.required mangledPrefix image = none := by
  unfold bind at hb
  split at hb
  · cases hb
  · split at hb
    · cases hb
    · next hm =>
      cases hb
      exact hm

/-- A library is as a loader binds it for a name: under the loader's prefix and the name, and with every symbol
that the loader requires. -/
structure Binds (l : Loader) (name : String) (lib : Library) : Prop where
  mangledPrefix : l.mangledPrefix = .ok lib.mangledPrefix
  logicalName : lib.logicalName = name
  exports : ∀ symbol ∈ l.required, lib.hasSymbol symbol = true

/-- A library is new to a context of a process: its name was free, and it has the next handle; after it was
registered, nothing else is bound that was not. -/
structure Registers (context : ContextId) (lib : Library) (h after : Host) : Prop where
  free : (h.contexts context).library? lib.name = none
  handle : lib.handle = h.handles
  handles : after.handles = h.handles + 1
  contexts : after.contexts = (h.setContext context ((h.contexts context).register lib).2).contexts

namespace Registers

variable {lib : Library}

/-- The library goes to the others of its context, and the other contexts stay. -/
theorem contexts_eq (hr : Registers context lib h after) (other : ContextId) :
    after.contexts other = if other = context then ((h.contexts context).register lib).2 else h.contexts other := by
  rw [hr.contexts]
  rfl

theorem contexts_of_ne (hr : Registers context lib h after) {other : ContextId} (hne : other ≠ context) :
    after.contexts other = h.contexts other := by
  rw [hr.contexts_eq, if_neg hne]

/-- What a context holds then it held before, or it is the library. -/
theorem mem_libraries (hr : Registers context lib h after) {other : ContextId} {key : String} {bound : Library}
    (hmem : (key, bound) ∈ (after.contexts other).libraries) :
    (key, bound) ∈ (h.contexts other).libraries ∨ other = context ∧ bound = lib := by
  by_cases ho : other = context
  · rw [hr.contexts_eq, if_pos ho, Context.libraries_register hr.free, List.mem_append, List.mem_singleton] at hmem
    rcases hmem with hmem | hmem
    · rw [ho]
      exact Or.inl hmem
    · cases hmem
      exact Or.inr ⟨ho, rfl⟩
  · rw [hr.contexts_of_ne ho] at hmem
    exact Or.inl hmem

/-- The library is then bound under its name. -/
theorem library?_self (hr : Registers context lib h after) :
    (after.contexts context).library? lib.name = some lib := by
  rw [hr.contexts_eq, if_pos rfl]
  exact Context.library?_register_self hr.free

/-- Nothing else is bound that was not. -/
theorem library?_of_ne (hr : Registers context lib h after) {other : ContextId} {key : String}
    (hne : other ≠ context ∨ key ≠ lib.name) :
    (after.contexts other).library? key = (h.contexts other).library? key := by
  rw [hr.contexts_eq]
  split
  · next ho =>
    rw [ho]
    exact Context.library?_register_of_ne (hne.resolve_left fun hn => hn ho)
  · rfl

/-- What was bound before stays. -/
theorem library?_of_some (hr : Registers context lib h after) {other : ContextId} {key : String} {bound : Library}
    (hb : (h.contexts other).library? key = some bound) : (after.contexts other).library? key = some bound := by
  rw [hr.contexts_eq]
  split
  · next ho =>
    rw [ho] at hb
    exact Context.library?_register_of_some hb
  · exact hb

/-- A library that is new to a process is new to any other with the same bindings. -/
theorem of_keepsBindings {before : Host} (hk : before.KeepsBindings h) (hr : Registers context lib h after) :
    Registers context lib before after := by
  refine ⟨?_, hr.handle.trans hk.handles, ?_, ?_⟩
  · rw [← hk.contexts]
    exact hr.free
  · rw [hr.handles, hk.handles]
  · rw [hr.contexts]
    simp only [Host.setContext, hk.contexts]

end Registers

/-- What is registered under a name that is free is the library that it is registered as. -/
theorem eq_of_register {binding : Binding} {origin : Origin} {image : Image} {lib : Library} {bound : Host}
    (hf : (h.contexts context).library? (mangledPrefix ++ name) = none) (hk : h.KeepsBindings bound)
    (hr : bound.register context name mangledPrefix binding origin image = (lib, after)) :
    lib = ⟨h.handles, name, mangledPrefix, binding, origin, image⟩ ∧ after.files = bound.files ∧
      after.calls = bound.calls := by
  rw [Host.register_of_none (by rw [hk.contexts]; exact hf), hk.handles] at hr
  cases hr
  exact ⟨rfl, rfl, rfl⟩

/-- So it has the origin that it is registered with. -/
theorem origin_of_register {binding : Binding} {origin : Origin} {image : Image} {lib : Library} {bound : Host}
    (hf : (h.contexts context).library? (mangledPrefix ++ name) = none) (hk : h.KeepsBindings bound)
    (hr : bound.register context name mangledPrefix binding origin image = (lib, after)) : lib.origin = origin := by
  rw [(eq_of_register hf hk hr).1]

/-- What is registered after a binding for a loader is as the loader binds it, and new. -/
theorem binds_register {binding : Binding} {origin : Origin} {image : Image} {lib : Library} {bound : Host}
    (hp : l.mangledPrefix = .ok mangledPrefix) (hf : (h.contexts context).library? (mangledPrefix ++ name) = none)
    (hk : h.KeepsBindings bound) (hm : missingSymbol? l.required mangledPrefix image = none)
    (hr : bound.register context name mangledPrefix binding origin image = (lib, after)) :
    l.Binds name lib ∧ Registers context lib h after := by
  have hc : bound.contexts context = h.contexts context := by rw [hk.contexts]
  rw [Host.register_of_none (by rw [hc]; exact hf), hc, hk.handles] at hr
  cases hr
  refine ⟨⟨hp, rfl, missingSymbol?_eq_none_iff.mp hm⟩, ⟨hf, rfl, rfl, ?_⟩⟩
  simp only [Host.setContext, hk.contexts]

/-- A copy that is loaded was bound, deleted if copies are, and registered. -/
theorem loadCopy_eq_ok {origin path : String} {searchFailure : Failure} {lib : Library}
    (hl : l.loadCopy context name mangledPrefix origin path searchFailure h = (.ok lib, after)) :
    ∃ image binding bound, l.bind context (.extracted path) path mangledPrefix h = (.ok (image, binding), bound) ∧
      (bound.discard l.settings.deleteCopies path).2.register context name mangledPrefix binding (.resource origin)
        image = (lib, after) := by
  unfold loadCopy at hl
  split at hl
  · next image binding bound hb =>
    cases hl
    exact ⟨image, binding, bound, hb, rfl⟩
  · cases hl

/-- A candidate that is loaded was extracted to the loader's directory. -/
theorem loadCandidate_eq_ok {c : Candidate} {searchFailure : Failure} {lib : Library}
    (hl : l.loadCandidate context name mangledPrefix c searchFailure h = (.ok lib, after)) :
    ∃ directory settled path extracted, h.extractionDirectory l.directory = (.ok directory, settled) ∧
      l.extract name mangledPrefix c directory settled = (.ok path, extracted) ∧
      l.loadCopy context name mangledPrefix c.origin path searchFailure extracted = (.ok lib, after) := by
  unfold loadCandidate at hl
  split at hl
  · cases hl
  · next directory settled hd =>
    split at hl
    · cases hl
    · next path extracted hx => exact ⟨directory, settled, path, extracted, hd, hx, hl⟩

/-- A packaged library that is loaded was located. -/
theorem loadPackaged_eq_ok {searchFailure : Failure} {lib : Library}
    (hl : l.loadPackaged context name mangledPrefix searchFailure h = (.ok lib, after)) :
    ∃ c warnings, l.locate h.files (h.contexts context).roots (mangledPrefix ++ name) = (.found c, warnings) ∧
      l.loadCandidate context name mangledPrefix c searchFailure (h.warn warnings) = (.ok lib, after) := by
  unfold loadPackaged at hl
  cases hc : l.locate h.files (h.contexts context).roots (mangledPrefix ++ name) with
  | mk located warnings =>
    simp only [hc] at hl
    cases located with
    | found c => exact ⟨c, warnings, rfl, hl⟩
    | nowhere path => cases hl
    | refused failure => cases hl

/-- A library that is loaded anew was bound from the search path, or else from a packaged copy. -/
theorem loadNew_eq_ok {lib : Library} (hl : l.loadNew context name mangledPrefix h = (.ok lib, after)) :
    (∃ image binding bound,
      l.bind context (.searched (mangledPrefix ++ name)) (mangledPrefix ++ name) mangledPrefix h =
        (.ok (image, binding), bound) ∧
      bound.register context name mangledPrefix binding .searchPath image = (lib, after)) ∨
    ∃ searchFailure searched,
      l.bind context (.searched (mangledPrefix ++ name)) (mangledPrefix ++ name) mangledPrefix h =
        (.error searchFailure, searched) ∧
      l.loadPackaged context name mangledPrefix searchFailure searched = (.ok lib, after) := by
  unfold loadNew at hl
  split at hl
  · next image binding bound hb =>
    cases hl
    exact Or.inl ⟨image, binding, bound, hb, rfl⟩
  · next searchFailure searched hb => exact Or.inr ⟨searchFailure, searched, hb, hl⟩

/-- Extracting, binding and deleting a copy leaves the bindings alone. -/
theorem keepsBindings_of_copy (delete : Bool) {id : DirectoryId} {settled extracted bound : Host} {c : Candidate}
    {directory path subject : String} {target : Target} {answer : Except Failure (Image × Binding)}
    (hd : h.extractionDirectory id = (.ok directory, settled))
    (hx : l.extract name mangledPrefix c directory settled = (.ok path, extracted))
    (hi : l.bind context target subject mangledPrefix extracted = (answer, bound)) :
    h.KeepsBindings (bound.discard delete path).2 := by
  have hsettled := Host.KeepsBindings.extractionDirectory id h
  have hextracted := Host.KeepsBindings.extract l name mangledPrefix c directory settled
  have hbound := Host.KeepsBindings.bind l context target subject mangledPrefix extracted
  rw [hd] at hsettled
  rw [hx] at hextracted
  rw [hi] at hbound
  exact hsettled.trans (hextracted.trans (hbound.trans (.discard delete path bound)))

/-- A library that is loaded anew is as the loader binds it, and new. -/
theorem binds_of_loadNew {lib : Library} (hp : l.mangledPrefix = .ok mangledPrefix)
    (hf : (h.contexts context).library? (mangledPrefix ++ name) = none)
    (hl : l.loadNew context name mangledPrefix h = (.ok lib, after)) :
    l.Binds name lib ∧ Registers context lib h after := by
  have hb := Host.KeepsBindings.bind l context (.searched (mangledPrefix ++ name)) (mangledPrefix ++ name)
    mangledPrefix h
  rcases loadNew_eq_ok hl with ⟨image, binding, bound, he, hr⟩ | ⟨searchFailure, searched, he, hl⟩
  · rw [he] at hb
    exact binds_register hp hf hb (missingSymbol?_of_bind he) hr
  · rw [he] at hb
    obtain ⟨c, warnings, _, hl⟩ := loadPackaged_eq_ok hl
    obtain ⟨directory, settled, path, extracted, hd, hx, hl⟩ := loadCandidate_eq_ok hl
    obtain ⟨image, binding, bound, hi, hr⟩ := loadCopy_eq_ok hl
    have hcopied := hb.trans ((Host.KeepsBindings.warn warnings searched).trans
      (keepsBindings_of_copy l.settings.deleteCopies hd hx hi))
    exact binds_register hp hf hcopied (missingSymbol?_of_bind hi) hr

/-- A load that succeeds hands out what was bound under the name and changes nothing, or binds a new library. -/
theorem load_eq_ok {lib : Library} (hl : l.load context name h = (.ok lib, after)) :
    (∃ mangledPrefix, l.mangledPrefix = .ok mangledPrefix ∧
      (h.contexts context).library? (mangledPrefix ++ name) = some lib ∧ after = h) ∨
    (l.Binds name lib ∧ Registers context lib h after) := by
  unfold load at hl
  split at hl
  · cases hl
  · next mangledPrefix hp =>
    split at hl
    · next bound hb =>
      cases hl
      exact Or.inl ⟨mangledPrefix, hp, hb, rfl⟩
    · next hf => exact Or.inr (binds_of_loadNew hp hf hl)

end Loader
end NativeLoader
