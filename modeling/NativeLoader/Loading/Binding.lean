import NativeLoader.InstallName
import NativeLoader.Relocation

/-!
# Binding a library

A loader has the linker bind a target into a context: isolated in the context's own namespace first, and for the whole
process if isolation is not to be had (`Loader.bindImage`). What is bound must export the symbols the loader requires
(`Loader.bind`). Binding changes nothing but the files, if the linker does, and the record of calls (`bind_frame`).
-/

namespace NativeLoader

/-- How libraries are loaded: settings, linker and tools, naming, and what a library must export. -/
structure Loader where
  settings : Settings := {}
  directory : DirectoryId := globalDirectory
  linker : Linker
  /-- What install names are written with, where they are. -/
  tools : DeveloperTools := {}
  platform : Platform := .current
  /-- The identity of the build the loader belongs to, if it is not its own. -/
  identity : Option String := none
  /-- The symbols that a library must export, as written before relocation. -/
  required : List String := []

/-- The detail a refusal gives. -/
def Refusal.detail : Refusal → String
  | rejected message => message
  | unavailable reason => reason

/-- A request put to a linker. -/
def Host.ask (linker : Linker) (request : Request) (h : Host) : Except Refusal Image × Host :=
  let answer := linker.answer h.calls request h.files
  (answer.1, { h with files := answer.2, calls := h.calls ++ [request.toCall h.files] })

/-- What isolation failing for some reason leaves behind. -/
def isolationUnavailable (subject reason : String) : Failure :=
  .of (.link subject ("isolated binding unavailable: " ++ reason) none)

namespace Loader

/-- What the loader's build puts in front of names. -/
def mangledPrefix (l : Loader) : Except Failure String :=
  Relocation.mangledPrefix (l.identity.getD Relocation.ownIdentity)

/-- Binding for the whole process, after isolation failed for a reason. -/
def bindGlobally (l : Loader) (target : Target) (subject reason : String) (h : Host) :
    Except Failure (Image × Binding × List Failure) × Host :=
  let diagnostic := isolationUnavailable subject reason
  match h.ask l.linker ⟨.global, target⟩ with
  | (.ok image, h) => (.ok (image, .global, [diagnostic]), h)
  | (.error refusal, h) => (.error (.node (.link subject refusal.detail none) [diagnostic]), h)

/-- Binding in a context's namespace if it has one and it can be used, else for the whole process. -/
def bindImage (l : Loader) (context : ContextId) (target : Target) (subject : String) (h : Host) :
    Except Failure (Image × Binding × List Failure) × Host :=
  if (h.contexts context).isGlobal then
    l.bindGlobally target subject "the global context has no context-local helper" h
  else
    match h.ask l.linker ⟨.isolated context, target⟩ with
    | (.ok image, h) => (.ok (image, .isolated, []), h)
    | (.error (.rejected message), h) => (.error (.of (.link subject message none)), h)
    | (.error (.unavailable reason), h) => l.bindGlobally target subject reason h

/-- The first required symbol, with its prefix, that an image does not export. -/
def missingSymbol? (required : List String) (mangledPrefix : String) (image : Image) : Option String :=
  (required.find? fun symbol => !image.exportsSymbol (mangledPrefix ++ symbol)).map (mangledPrefix ++ ·)

/-- Binding a library that exports what the loader requires. -/
def bind (l : Loader) (context : ContextId) (target : Target) (subject mangledPrefix : String) (h : Host) :
    Except Failure (Image × Binding) × Host :=
  match l.bindImage context target subject h with
  | (.error failure, h) => (.error failure, h)
  | (.ok (image, binding, diagnostics), h) =>
    match missingSymbol? l.required mangledPrefix image with
    | some symbol => (.error (.node (.missingEntryPoint subject symbol) diagnostics), h)
    | none => (.ok (image, binding), h)

/-! ## What binding changes -/

/-- Asking the linker changes the files and the record of calls. -/
theorem ask_frame (linker : Linker) (request : Request) (h : Host) :
    ∃ files calls, (h.ask linker request).2 = { h with files, calls } := ⟨_, _, rfl⟩

/-- Binding globally changes the files and the record of calls. -/
theorem bindGlobally_frame (l : Loader) (target : Target) (subject reason : String) (h : Host) :
    ∃ files calls, (l.bindGlobally target subject reason h).2 = { h with files, calls } := by
  unfold bindGlobally
  cases ha : h.ask l.linker ⟨.global, target⟩ with
  | mk answer after =>
    obtain ⟨files, calls, hf⟩ := ask_frame l.linker ⟨.global, target⟩ h
    rw [ha] at hf
    cases answer with
    | ok image => exact ⟨files, calls, hf⟩
    | error refusal => exact ⟨files, calls, hf⟩

/-- Binding an image changes the files and the record of calls. -/
theorem bindImage_frame (l : Loader) (context : ContextId) (target : Target) (subject : String) (h : Host) :
    ∃ files calls, (l.bindImage context target subject h).2 = { h with files, calls } := by
  unfold bindImage
  split
  · exact bindGlobally_frame l target subject _ h
  · cases ha : h.ask l.linker ⟨.isolated context, target⟩ with
    | mk answer after =>
      obtain ⟨files, calls, hf⟩ := ask_frame l.linker ⟨.isolated context, target⟩ h
      rw [ha] at hf
      cases answer with
      | ok image => exact ⟨files, calls, hf⟩
      | error refusal =>
        cases refusal with
        | rejected message => exact ⟨files, calls, hf⟩
        | unavailable reason =>
          obtain ⟨files', calls', hg⟩ := bindGlobally_frame l target subject reason after
          refine ⟨files', calls', ?_⟩
          simp only [hg]
          rw [show after = { h with files, calls } from hf]

/-- Binding changes the files and the record of calls. -/
theorem bind_frame (l : Loader) (context : ContextId) (target : Target) (subject mangledPrefix : String)
    (h : Host) :
    ∃ files calls, (l.bind context target subject mangledPrefix h).2 = { h with files, calls } := by
  obtain ⟨files, calls, hf⟩ := bindImage_frame l context target subject h
  refine ⟨files, calls, ?_⟩
  unfold bind
  cases hb : l.bindImage context target subject h with
  | mk answer after =>
    rw [hb] at hf
    cases answer with
    | error failure => exact hf
    | ok bound =>
      obtain ⟨image, binding, diagnostics⟩ := bound
      simp only
      split <;> exact hf

end Loader
end NativeLoader
