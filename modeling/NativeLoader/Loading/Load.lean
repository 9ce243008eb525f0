import NativeLoader.Extraction.Copy
import NativeLoader.Extraction.Directory
import NativeLoader.Extraction.Permission
import NativeLoader.Loading.Binding
import NativeLoader.Package.Choice

/-!
# Loading a library

`Loader.load` binds one library into one context. A library bound there before is handed out again
(`load_of_library?`); else the platform's search path is tried, and then the packaged copy: it is located, extracted
and perhaps given an install name of its own (`Loader.extract`), bound, and deleted. A load that fails leaves behind the
failures met on the way, attached to the last one.
-/

namespace NativeLoader

/-- What comes of locating the packaged copy of a library. -/
inductive Located where
  | found (candidate : Candidate)
  /-- Nothing is packaged; the path is the last one looked at. -/
  | nowhere (path : String)
  | refused (failure : Failure)

/-- A choice at the last path to be looked at. -/
def Located.ofResult (path : String) : Except Failure (Option Candidate) → Located
  | .ok (some c) => found c
  | .ok none => nowhere path
  | .error failure => refused failure

/-- The packaged copy of a library: under its platform's file name, else under the other spelling if there is one. -/
def Loader.locate (l : Loader) (fs : FileSystem) (roots : List Root) (name : String) : Located × List String :=
  let file := l.platform.fileName name
  let path := Root.home ++ file
  let choice := choose l.settings.detectDuplicates fs path roots
  match choice, l.platform.alternate? file with
  | .absent, some other =>
    let path := Root.home ++ other
    let choice := choose l.settings.detectDuplicates fs path roots
    (.ofResult path (choice.result path), choice.warnings path)
  | choice, _ => (.ofResult path (choice.result path), choice.warnings path)

/-- A link failure with the path of a copy whose volume forbids execution. -/
def Cause.withNoexec (path : String) : Cause → Cause
  | link subject message _ => link subject message (some path)
  | cause => cause

/-- Why a copy may not be executed: a failed binding, marked if the volume is at fault, and the failure of finding
out. -/
def Host.diagnose (path : String) (failure : Failure) (h : Host) : (Failure × List Failure) × Host :=
  match failure with
  | .node (.link subject message noexec) earlier =>
    if h.files.isWorthChecking path then
      match h.files.checkExecutable path with
      | (.ok true, files) => ((failure, []), { h with files })
      | (.ok false, files) =>
        ((.node ((Cause.link subject message noexec).withNoexec path) earlier, []), { h with files })
      | (.error fault, files) => ((failure, [.of (.file "noexec check failed" fault)]), { h with files })
    else ((failure, []), h)
  | _ => ((failure, []), h)

namespace Loader

/-- Giving an extracted copy an install name of its own, if it needs one. -/
def renewInstallName (l : Loader) (name mangledPrefix path : String) (h : Host) : Renewal × Host :=
  if InstallName.isNeeded l.settings.renewInstallName l.platform mangledPrefix then
    h.renewInstallName l.tools name path
  else (.skipped, h)

/-- Extracting a packaged copy, which is then ready to be bound, whatever became of its install name. -/
def extract (l : Loader) (name mangledPrefix : String) (c : Candidate) (directory : String) (h : Host) :
    Except Failure String × Host :=
  match h.extract c directory with
  | (.error failure, h) => (.error failure, h)
  | (.ok path, h) => (.ok path, (l.renewInstallName name mangledPrefix path h).2)

/-- Binding an extracted copy, which is then deleted. -/
def loadCopy (l : Loader) (context : ContextId) (name mangledPrefix origin path : String) (searchFailure : Failure)
    (h : Host) : Except Failure Library × Host :=
  match l.bind context (.extracted path) path mangledPrefix h with
  | (.ok (image, binding), h) =>
    let bound :=
      (h.discard l.settings.deleteCopies path).2.register context name mangledPrefix binding (.resource origin) image
    (.ok bound.1, bound.2)
  | (.error failure, h) =>
    let diagnosed := h.diagnose path failure
    (.error (diagnosed.1.1.attach (searchFailure :: diagnosed.1.2)),
      (diagnosed.2.discard l.settings.deleteCopies path).2)

/-- Extracting and binding a packaged copy. -/
def loadCandidate (l : Loader) (context : ContextId) (name mangledPrefix : String) (c : Candidate)
    (searchFailure : Failure) (h : Host) : Except Failure Library × Host :=
  match h.extractionDirectory l.directory with
  | (.error failure, h) => (.error (failure.attach [searchFailure]), h)
  | (.ok directory, h) =>
    match l.extract name mangledPrefix c directory h with
    | (.error failure, h) =>
      (.error (.node (.link (mangledPrefix ++ name) ("could not load a native library: " ++ failure.message) none)
        [searchFailure]), h)
    | (.ok path, h) => l.loadCopy context name mangledPrefix c.origin path searchFailure h

/-- Loading the packaged copy of a library, after the search path failed. -/
def loadPackaged (l : Loader) (context : ContextId) (name mangledPrefix : String) (searchFailure : Failure)
    (h : Host) : Except Failure Library × Host :=
  let located := l.locate h.files (h.contexts context).roots (mangledPrefix ++ name)
  let h := h.warn located.2
  match located.1 with
  | .nowhere path => (.error (.node (.notFound path) [searchFailure]), h)
  | .refused failure => (.error (failure.attach [searchFailure]), h)
  | .found c => l.loadCandidate context name mangledPrefix c searchFailure h

/-- Loading a library that is not bound in the context: from the search path, else from a packaged copy. -/
def loadNew (l : Loader) (context : ContextId) (name mangledPrefix : String) (h : Host) :
    Except Failure Library × Host :=
  match l.bind context (.searched (mangledPrefix ++ name)) (mangledPrefix ++ name) mangledPrefix h with
  | (.ok (image, binding), h) =>
    let bound := h.register context name mangledPrefix binding .searchPath image
    (.ok bound.1, bound.2)
  | (.error searchFailure, h) => l.loadPackaged context name mangledPrefix searchFailure h

/-- Loading a library into a context. -/
def load (l : Loader) (context : ContextId) (name : String) (h : Host) : Except Failure Library × Host :=
  match l.mangledPrefix with
  | .error failure => (.error failure, h)
  | .ok mangledPrefix =>
    match (h.contexts context).library? (mangledPrefix ++ name) with
    | some bound => (.ok bound, h)
    | none => l.loadNew context name mangledPrefix h

/-- A copy that is ready was extracted, and its install name seen to. -/
theorem extract_eq_ok_iff {l : Loader} {name mangledPrefix directory path : String} {c : Candidate} {h ready : Host} :
    l.extract name mangledPrefix c directory h = (.ok path, ready) ↔
      ∃ extracted, h.extract c directory = (.ok path, extracted) ∧
        ready = (l.renewInstallName name mangledPrefix path extracted).2 := by
  unfold extract
  cases hx : h.extract c directory with
  | mk result extracted =>
    cases result with
    | error failure => simp
    | ok copied =>
      constructor
      · intro he
        cases he
        exact ⟨extracted, rfl, rfl⟩
      · rintro ⟨_, he, rfl⟩
        cases he
        rfl

/-- A copy that is not to be had could not be extracted. -/
theorem extract_eq_error_iff {l : Loader} {name mangledPrefix directory : String} {c : Candidate} {h after : Host}
    {failure : Failure} : l.extract name mangledPrefix c directory h = (.error failure, after) ↔
      h.extract c directory = (.error failure, after) := by
  unfold extract
  cases hx : h.extract c directory with
  | mk result extracted => cases result <;> simp

/-- A library bound before is handed out again, and nothing else happens. -/
theorem load_of_library? {l : Loader} {context : ContextId} {name mangledPrefix : String} {h : Host}
    {bound : Library} (hp : l.mangledPrefix = .ok mangledPrefix)
    (hb : (h.contexts context).library? (mangledPrefix ++ name) = some bound) :
    l.load context name h = (.ok bound, h) := by
  simp only [load, hp, hb]

/-- A foreign identity is refused, and nothing else happens. -/
theorem load_of_mangledPrefix_eq_error {l : Loader} {context : ContextId} {name : String} {h : Host}
    {failure : Failure} (hp : l.mangledPrefix = .error failure) : l.load context name h = (.error failure, h) := by
  simp only [load, hp]

end Loader
end NativeLoader
