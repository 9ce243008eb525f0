import NativeLoader.Linker.Tabulated
import NativeLoader.Proofs.Loading.InstallNames

/-!
# Relocation is renaming

A build relocated below a path (`Loader.relocated`) does what the plain build does with the mangled path spelled out in
front of the name and of the symbols it requires (`Loader.spelledOut`): stage by stage both put the same requests,
change the process alike and fail alike, and what they bind at last differs in the words it was asked for in and in
nothing else (`Library.SpellsOut`, `load_spelledOut`). Only a relocated copy may be given another install name, so this
is told of builds whose copies keep theirs (`Loader.KeepsInstallNames`).
-/

namespace NativeLoader

/-- A library is another one whose prefix is spelled out in its name. -/
structure Library.SpellsOut (mangledPrefix : String) (lib other : Library) : Prop where
  name : other.name = lib.name
  handle : other.handle = lib.handle
  binding : other.binding = lib.binding
  origin : other.origin = lib.origin
  image : other.image = lib.image
  symbolName : ∀ symbol, other.symbolName (mangledPrefix ++ symbol) = lib.symbolName symbol

/-- A symbol is found in both, at the same place, or in neither. -/
theorem Library.SpellsOut.symbol? {mangledPrefix : String} {lib other : Library}
    (hs : lib.SpellsOut mangledPrefix other) (symbol : String) :
    other.symbol? (mangledPrefix ++ symbol) = lib.symbol? symbol := by
  rw [Library.symbol?, Library.symbol?, hs.image, hs.symbolName]

theorem Library.SpellsOut.hasSymbol {mangledPrefix : String} {lib other : Library}
    (hs : lib.SpellsOut mangledPrefix other) (symbol : String) :
    other.hasSymbol (mangledPrefix ++ symbol) = lib.hasSymbol symbol := by
  rw [Library.hasSymbol, Library.hasSymbol, hs.symbol?]

namespace Loader

/-- The loader of the build that was relocated below a path. -/
def relocated (path : String) (l : Loader) : Loader :=
  { l with identity := some (path ++ Relocation.ownIdentity) }

/-- The loader of a build with some identity, with a mangled path spelled out in what it requires. -/
def spelledOut (path : String) (identity : Option String) (l : Loader) : Loader :=
  { l with identity, required := l.required.map (Relocation.mangle path ++ ·) }

/-- Two loads fail alike, or they register one image, once under a name with a prefix and once under both in one. The
process they register it in has the bindings of `h`. -/
inductive RegistersAlike (context : ContextId) (name mangledPrefix : String) (h : Host) :
    Except Failure Library × Host → Except Failure Library × Host → Prop
  | failed (failure : Failure) (after : Host) :
      RegistersAlike context name mangledPrefix h (.error failure, after) (.error failure, after)
  | bound (binding : Binding) (origin : Origin) (image : Image) {before : Host} : h.KeepsBindings before →
      RegistersAlike context name mangledPrefix h
        (.ok (before.register context name mangledPrefix binding origin image).1,
          (before.register context name mangledPrefix binding origin image).2)
        (.ok (before.register context (mangledPrefix ++ name) "" binding origin image).1,
          (before.register context (mangledPrefix ++ name) "" binding origin image).2)

variable {l : Loader} {context : ContextId} {name path : String} {identity : Option String} {h start : Host}

/-! ## Stage by stage -/

theorem mangledPrefix_relocated (l : Loader) (path : String) :
    (l.relocated path).mangledPrefix = .ok (Relocation.mangle path) :=
  Relocation.mangledPrefix_append path

/-- Symbols with a prefix are missing exactly as those in which it is spelled out. -/
theorem missingSymbol?_map (required : List String) (mangledPrefix : String) (image : Image) :
    missingSymbol? (required.map (mangledPrefix ++ ·)) "" image = missingSymbol? required mangledPrefix image := by
  simp only [missingSymbol?, List.find?_map, Option.map_map, Function.comp_def, String.empty_append]

/-- Both loaders bind a target alike. -/
theorem bind_spelledOut (l : Loader) (context : ContextId) (target : Target) (subject path : String)
    (identity : Option String) (h : Host) :
    (l.spelledOut path identity).bind context target subject "" h =
      (l.relocated path).bind context target subject (Relocation.mangle path) h := by
  have himage : (l.spelledOut path identity).bindImage context target subject h =
      (l.relocated path).bindImage context target subject h := rfl
  have hmissing : ∀ image, missingSymbol? (l.spelledOut path identity).required "" image =
      missingSymbol? (l.relocated path).required (Relocation.mangle path) image :=
    missingSymbol?_map l.required (Relocation.mangle path)
  simp only [bind, himage, hmissing]

theorem loadCopy_spelledOut (hk : start.KeepsBindings h) (origin file : String) (searchFailure : Failure) :
    RegistersAlike context name (Relocation.mangle path) start
      ((l.relocated path).loadCopy context name (Relocation.mangle path) origin file searchFailure h)
      ((l.spelledOut path identity).loadCopy context (Relocation.mangle path ++ name) "" origin file searchFailure
        h) := by
  have hbound := Host.KeepsBindings.bind (l.relocated path) context (.extracted file) file (Relocation.mangle path) h
  unfold loadCopy
  rw [bind_spelledOut]
  cases hb : (l.relocated path).bind context (.extracted file) file (Relocation.mangle path) h with
  | mk result bound =>
    rw [hb] at hbound
    cases result with
    | error failure => exact .failed _ _
    | ok made =>
      obtain ⟨image, binding⟩ := made
      exact .bound binding (.resource origin) image (hk.trans (hbound.trans (.discard _ file bound)))

/-- A copy is extracted alike, where the relocated build keeps its install name: the plain build does so anyway. -/
theorem extract_spelledOut {c : Candidate} (hdot : '.' ∈ c.fileName.toList)
    (hkeeps : (l.relocated path).KeepsInstallNames h.files) (directory : String) :
    (l.spelledOut path identity).extract (Relocation.mangle path ++ name) "" c directory h =
      (l.relocated path).extract name (Relocation.mangle path) c directory h := by
  have hplain : ∀ file extracted, (l.spelledOut path identity).renewInstallName (Relocation.mangle path ++ name) "" file
      extracted = (.skipped, extracted) := by
    intro file extracted
    simp [renewInstallName, InstallName.isNeeded]
  rw [extract_of_keeps hkeeps (mangledPrefix_relocated l path) hdot, extract]
  cases hx : h.extract c directory with
  | mk copied extracted =>
    cases copied with
    | error failure => rfl
    | ok file => simp only [hplain]

theorem loadCandidate_spelledOut (hk : start.KeepsBindings h) {c : Candidate} (hdot : '.' ∈ c.fileName.toList)
    (hkeeps : (l.relocated path).KeepsInstallNames (h.extractionDirectory (l.relocated path).directory).2.files)
    (searchFailure : Failure) :
    RegistersAlike context name (Relocation.mangle path) start
      ((l.relocated path).loadCandidate context name (Relocation.mangle path) c searchFailure h)
      ((l.spelledOut path identity).loadCandidate context (Relocation.mangle path ++ name) "" c searchFailure h) := by
  have hdirectory : (l.spelledOut path identity).directory = (l.relocated path).directory := rfl
  have hsettled := Host.KeepsBindings.extractionDirectory (l.relocated path).directory h
  unfold loadCandidate
  rw [hdirectory, String.empty_append]
  cases hd : h.extractionDirectory (l.relocated path).directory with
  | mk asked settled =>
    rw [hd] at hsettled hkeeps
    cases asked with
    | error failure => exact .failed _ _
    | ok directory =>
      have hextracted := Host.KeepsBindings.extract (l.relocated path) name (Relocation.mangle path) c directory settled
      simp only [extract_spelledOut hdot hkeeps]
      cases hx : (l.relocated path).extract name (Relocation.mangle path) c directory settled with
      | mk copied extracted =>
        rw [hx] at hextracted
        cases copied with
        | error failure => exact .failed _ _
        | ok file => exact loadCopy_spelledOut (hk.trans (hsettled.trans hextracted)) c.origin file searchFailure

theorem loadPackaged_spelledOut (hk : start.KeepsBindings h)
    (hkeeps : (l.relocated path).KeepsInstallNames (h.extractionDirectory (l.relocated path).directory).2.files)
    (searchFailure : Failure) :
    RegistersAlike context name (Relocation.mangle path) start
      ((l.relocated path).loadPackaged context name (Relocation.mangle path) searchFailure h)
      ((l.spelledOut path identity).loadPackaged context (Relocation.mangle path ++ name) "" searchFailure h) := by
  have hlocate : ∀ fs roots key, (l.spelledOut path identity).locate fs roots key =
      (l.relocated path).locate fs roots key := fun _ _ _ => rfl
  unfold loadPackaged
  rw [hlocate, String.empty_append]
  cases hc : (l.relocated path).locate h.files (h.contexts context).roots (Relocation.mangle path ++ name) with
  | mk located warnings =>
    cases located with
    | nowhere looked => exact .failed _ _
    | refused failure => exact .failed _ _
    | found c =>
      refine loadCandidate_spelledOut (hk.trans (.warn warnings h)) (dot_mem_fileName hc) ?_ searchFailure
      rw [Host.files_extractionDirectory_warn]
      exact hkeeps

theorem loadNew_spelledOut (hfree : (h.contexts context).library? (Relocation.mangle path ++ name) = none)
    (hkeeps : (l.relocated path).KeepsInstallNames ((l.relocated path).readied context name h).files) :
    RegistersAlike context name (Relocation.mangle path) h
      ((l.relocated path).loadNew context name (Relocation.mangle path) h)
      ((l.spelledOut path identity).loadNew context (Relocation.mangle path ++ name) "" h) := by
  have hsearched := Host.KeepsBindings.bind (l.relocated path) context (.searched (Relocation.mangle path ++ name))
    (Relocation.mangle path ++ name) (Relocation.mangle path) h
  unfold loadNew
  rw [String.empty_append, bind_spelledOut]
  cases hb : (l.relocated path).bind context (.searched (Relocation.mangle path ++ name))
      (Relocation.mangle path ++ name) (Relocation.mangle path) h with
  | mk result searched =>
    rw [hb] at hsearched
    cases result with
    | error failure =>
      refine loadPackaged_spelledOut hsearched ?_ failure
      rw [readied, asked_of_bind (mangledPrefix_relocated l path) hfree hb] at hkeeps
      exact hkeeps
    | ok made =>
      obtain ⟨image, binding⟩ := made
      exact .bound binding .searchPath image hsearched

/-- Where the name with its prefix is free, both loads come to registering one image, or fail alike. -/
theorem registersAlike_of_load (l : Loader) {path : String}
    (hown : identity = none ∨ identity = some Relocation.ownIdentity)
    (hfree : (h.contexts context).library? (Relocation.mangle path ++ name) = none)
    (hkeeps : (l.relocated path).KeepsInstallNames ((l.relocated path).readied context name h).files) :
    RegistersAlike context name (Relocation.mangle path) h ((l.relocated path).load context name h)
      ((l.spelledOut path identity).load context (Relocation.mangle path ++ name) h) := by
  have hplain : (l.spelledOut path identity).mangledPrefix = .ok "" := by
    rcases hown with rfl | rfl
    · exact Relocation.mangledPrefix_ownIdentity
    · exact Relocation.mangledPrefix_ownIdentity
  simp only [load, mangledPrefix_relocated, hplain, String.empty_append, hfree]
  exact loadNew_spelledOut hfree hkeeps

/-! ## What both loads come to -/

section Registering

variable {mangledPrefix : String} {binding : Binding} {origin : Origin} {image : Image}

/-- What is registered in both ways in one process is the same library, once spelled out. -/
theorem spellsOut_of_register (hfree : (h.contexts context).library? (mangledPrefix ++ name) = none) :
    (h.register context name mangledPrefix binding origin image).1.SpellsOut mangledPrefix
      (h.register context (mangledPrefix ++ name) "" binding origin image).1 := by
  have hfree' : (h.contexts context).library? ("" ++ (mangledPrefix ++ name)) = none := by
    rw [String.empty_append]
    exact hfree
  rw [Host.register_of_none hfree, Host.register_of_none hfree']
  refine ⟨?_, rfl, rfl, rfl, rfl, ?_⟩
  · exact String.empty_append
  · intro symbol
    exact String.empty_append

/-- Registering a library under a name that is free adds one entry, and the context is otherwise what it was. -/
theorem contexts_of_register (hfree : (h.contexts context).library? (mangledPrefix ++ name) = none) (id : ContextId) :
    (h.register context name mangledPrefix binding origin image).2.contexts id =
      if id = context then
        { h.contexts context with
          libraries := (h.contexts context).libraries ++
            [(mangledPrefix ++ name, (h.register context name mangledPrefix binding origin image).1)] }
      else h.contexts id := by
  have hnamed : (h.contexts context).library?
      (Library.name ⟨h.handles, name, mangledPrefix, binding, origin, image⟩) = none := hfree
  rw [Host.register_of_none hfree]
  simp only [Host.setContext, Context.register, hnamed]
  rfl

/-- Registering a library under a name that is free changes what is bound in its context under its name only. -/
theorem library?_of_register (hfree : (h.contexts context).library? (mangledPrefix ++ name) = none) {id : ContextId}
    {key : String} (hkey : id ≠ context ∨ key ≠ mangledPrefix ++ name) :
    ((h.register context name mangledPrefix binding origin image).2.contexts id).library? key =
      (h.contexts id).library? key := by
  rw [Host.register_of_none hfree]
  by_cases hid : id = context
  · rw [hid, Host.contexts_setContext_self]
    apply Context.library?_register_of_ne
    exact hkey.resolve_left (not_not_intro hid)
  · rw [Host.contexts_setContext_of_ne hid]

end Registering

/-- **Relocation is renaming.** Where the name with its prefix is free and copies keep their install names, a build
relocated below a path and the plain build with the mangled path spelled out fail alike and leave one and the same
process behind; or both bind the same library, and the processes they leave differ in no requests, files, directories,
deletions put off, warnings or random characters. In each context the same names are then bound, to the same libraries
but for the new one. -/
theorem load_spelledOut (l : Loader) {path : String}
    (hown : identity = none ∨ identity = some Relocation.ownIdentity)
    (hfree : (h.contexts context).library? (Relocation.mangle path ++ name) = none)
    (hkeeps : (l.relocated path).KeepsInstallNames ((l.relocated path).readied context name h).files) :
    (∃ failure after, (l.relocated path).load context name h = (.error failure, after) ∧
      (l.spelledOut path identity).load context (Relocation.mangle path ++ name) h = (.error failure, after)) ∨
    ∃ lib other after after', (l.relocated path).load context name h = (.ok lib, after) ∧
      (l.spelledOut path identity).load context (Relocation.mangle path ++ name) h = (.ok other, after') ∧
      lib.SpellsOut (Relocation.mangle path) other ∧
      (∀ symbol, lib.hasSymbol symbol = other.hasSymbol (Relocation.mangle path ++ symbol)) ∧
      after' = { after with contexts := after'.contexts } ∧
      ∀ id, (after'.contexts id).loadedNames = (after.contexts id).loadedNames ∧
        (after'.contexts id).roots = (after.contexts id).roots ∧
        ∀ key, id ≠ context ∨ key ≠ Relocation.mangle path ++ name →
          (after'.contexts id).library? key = (after.contexts id).library? key := by
  have hloads := registersAlike_of_load l hown hfree hkeeps
  cases hr : (l.relocated path).load context name h with
  | mk result after =>
    cases hr' : (l.spelledOut path identity).load context (Relocation.mangle path ++ name) h with
    | mk result' after' =>
      rw [hr, hr'] at hloads
      cases hloads with
      | failed failure after => exact Or.inl ⟨failure, after, rfl, rfl⟩
      | @bound binding origin image before hk =>
        have hbefore : (before.contexts context).library? (Relocation.mangle path ++ name) = none := by
          rw [hk.contexts]
          exact hfree
        have hbefore' : (before.contexts context).library? ("" ++ (Relocation.mangle path ++ name)) = none := by
          rw [String.empty_append]
          exact hbefore
        have hspells : (before.register context name (Relocation.mangle path) binding origin image).1.SpellsOut
            (Relocation.mangle path)
            (before.register context (Relocation.mangle path ++ name) "" binding origin image).1 :=
          spellsOut_of_register hbefore
        refine Or.inr ⟨_, _, _, _, rfl, rfl, hspells, fun symbol => (hspells.hasSymbol symbol).symm, rfl, ?_⟩
        intro id
        refine ⟨?_, ?_, ?_⟩
        · rw [contexts_of_register hbefore, contexts_of_register hbefore', String.empty_append]
          by_cases hid : id = context
          · simp only [if_pos hid, Context.loadedNames, List.map_append, List.map_cons, List.map_nil]
          · simp only [if_neg hid]
        · rw [contexts_of_register hbefore, contexts_of_register hbefore']
          by_cases hid : id = context
          · simp only [if_pos hid]
          · simp only [if_neg hid]
        · intro key hkey
          have hkey' : id ≠ context ∨ key ≠ "" ++ (Relocation.mangle path ++ name) := by
            rw [String.empty_append]
            exact hkey
          rw [library?_of_register hbefore hkey, library?_of_register hbefore' hkey']

/-- A loader whose linker finds a library with an entry point that the loader requires, on the platform whose copies
need install names of their own. -/
def sendingLoader : Loader :=
  { linker := LinkerTable.toLinker { installed := [("a_x", ["a_td_send"])] }
    platform := .macOs
    required := ["td_send"] }

/-- A process that has loaded nothing. -/
def unusedHost : Host := { temporary := "/tmp", draws := .ofNumbers fun n => n }

/-- Both builds find a library on the search path, and its entry point in it. -/
theorem load_spelledOut_searched : ∃ lib other after after',
    (sendingLoader.relocated "a.").load 1 "x" unusedHost = (.ok lib, after) ∧
      (sendingLoader.spelledOut "a." none).load 1 "a_x" unusedHost = (.ok other, after') ∧
      lib.SpellsOut "a_" other ∧ lib.hasSymbol "td_send" = true ∧ other.hasSymbol "a_td_send" = true := by
  have hown : (none : Option String) = none ∨ (none : Option String) = some Relocation.ownIdentity := Or.inl rfl
  have hfree : (unusedHost.contexts 1).library? (Relocation.mangle "a." ++ "x") = none := by rfl
  have hkeeps : (sendingLoader.relocated "a.").KeepsInstallNames
      ((sendingLoader.relocated "a.").readied 1 "x" unusedHost).files := fun _ _ _ => by decide +kernel
  have hfound : ((sendingLoader.relocated "a.").load 1 "x" unusedHost).1 =
      .ok ⟨0, "x", "a_", .isolated, .searchPath, LinkerTable.imageOf ["a_td_send"]⟩ := by rfl
  rcases load_spelledOut sendingLoader hown hfree hkeeps with ⟨failure, after, hr, -⟩ |
    ⟨lib, other, after, after', hr, hr', hspells, hsymbols, -⟩
  · rw [hr] at hfound
    cases hfound
  · have hlib : lib = ⟨0, "x", "a_", .isolated, .searchPath, LinkerTable.imageOf ["a_td_send"]⟩ := by
      rw [hr] at hfound
      cases hfound
      rfl
    have hexports : lib.hasSymbol "td_send" = true := by
      rw [hlib]
      rfl
    exact ⟨lib, other, after, after', hr, hr', hspells, hexports, (hsymbols "td_send").symm.trans hexports⟩

end Loader
end NativeLoader
