import NativeLoader.Linker.Tabulated
import NativeLoader.Proofs.Session.Basic

/-!
# Libraries are loaded once

Once a load has bound a library under a name in a context, the entry stays what it is through every run, and every
later load into the context under that name hands out the very same library and does nothing else: no request to a
linker, no change to the process, and no question to a root, since it comes out the same whatever the roots are
(`load_after_load`). The invariant of the runs is `library?_run`; what a load does with a name that is bound is
`Loader.load_of_library?`.
-/

namespace NativeLoader

/-- The host with other roots in its contexts. -/
def Host.withRoots (roots : ContextId → List Root) (h : Host) : Host :=
  { h with contexts := fun i => { h.contexts i with roots := roots i } }

/-- Other roots change nothing that is bound. -/
@[simp] theorem Host.library?_withRoots (roots : ContextId → List Root) (context : ContextId) (name : String)
    (h : Host) : ((h.withRoots roots).contexts context).library? name = (h.contexts context).library? name := rfl

namespace Session

/-- A load that succeeds leaves its library bound under the name with the prefix. -/
theorem library?_of_load {l : Loader} {context : ContextId} {name mangledPrefix : String} {h after : Host}
    {lib : Library} (hp : l.mangledPrefix = .ok mangledPrefix) (hl : l.load context name h = (.ok lib, after)) :
    (after.contexts context).library? (mangledPrefix ++ name) = some lib := by
  rcases Loader.load_eq_ok hl with ⟨mangledPrefix', hp', hb, rfl⟩ | ⟨hb, hr⟩
  · rw [hp] at hp'
    cases hp'
    exact hb
  · have hsame := hb.mangledPrefix
    rw [hp] at hsame
    cases hsame
    have hname : lib.name = lib.mangledPrefix ++ name := by rw [Library.name, hb.logicalName]
    rw [← hname]
    exact hr.library?_self

/-- A scan that comes to a name that is bound ends there and changes nothing. -/
theorem loadFirstFrom_of_library? {l : Loader} {context : ContextId} {name mangledPrefix : String} {h : Host}
    {lib : Library} (hp : l.mangledPrefix = .ok mangledPrefix)
    (hb : (h.contexts context).library? (mangledPrefix ++ name) = some lib) (scan : Scan) (rest : List String) :
    l.loadFirstFrom context scan (name :: rest) h = (.ok lib, h) := by
  rw [Loader.loadFirstFrom, Loader.load_of_library? hp hb]

/-- **A library is loaded once.** After a load, whatever the program does, its library stays bound under its name, and
every load or scan that comes to that name in that context, by any loader, hands it out again. The process is then left
as it is, and the roots are not asked: the outcome is the same with any others. -/
theorem load_after_load {s : Session} {l₀ : Loader} {context : ContextId} {name₀ mangledPrefix₀ : String}
    {start : Host} {lib : Library} (hp : l₀.mangledPrefix = .ok mangledPrefix₀)
    (hl : l₀.load context name₀ start = (.ok lib, s.host)) (later : List Action) :
    ((s.run later).host.contexts context).library? (mangledPrefix₀ ++ name₀) = some lib ∧
      ∀ (l : Loader) (name mangledPrefix : String), l.mangledPrefix = .ok mangledPrefix →
        mangledPrefix ++ name = mangledPrefix₀ ++ name₀ →
        l.load context name (s.run later).host = (.ok lib, (s.run later).host) ∧
        (∀ roots, l.load context name ((s.run later).host.withRoots roots) =
          (.ok lib, (s.run later).host.withRoots roots)) ∧
        ∀ scan rest, l.loadFirstFrom context scan (name :: rest) (s.run later).host =
          (.ok lib, (s.run later).host) := by
  have hb := library?_run later (library?_of_load hp hl)
  refine ⟨hb, ?_⟩
  intro l name mangledPrefix hp' hname
  rw [← hname] at hb
  refine ⟨Loader.load_of_library? hp' hb, ?_, loadFirstFrom_of_library? hp' hb⟩
  intro roots
  exact Loader.load_of_library? hp' hb

/-! ## Two builds in one context -/

/-- A loader whose linker finds some libraries on the search path, in every context. -/
def searchLoader (installed : List (String × List String)) : Loader :=
  { linker := LinkerTable.toLinker { installed } }

/-- A process that has done nothing. -/
def idleHost : Host := { temporary := "/tmp", draws := .ofNumbers fun n => n }

/-- A loader of the build that was not relocated. -/
def plainLoader : Loader := searchLoader [("a_x", [])]

/-- A loader of a build relocated below `a`. -/
def relocatedLoader : Loader := { plainLoader with identity := some "a.tdlight_loader.shading" }

/-- The process in which the plain build has loaded `a_x`. -/
def loadedHost : Host := (plainLoader.load 1 "a_x" idleHost).2

/-- The first loader's linker is replaced, the files are removed, and its program scans again. -/
def laterActions : List Action :=
  [.replaceLinker 0 (searchLoader []).linker, .changeFiles fun _ => {}, .loadFirst 0 1 ["y", "a_x"]]

/-- The library of one build is handed out to another, whose prefix and name make up the same name. -/
theorem load_after_load_relocated :
    plainLoader.mangledPrefix = .ok "" ∧
      plainLoader.load 1 "a_x" idleHost = (.ok ⟨0, "a_x", "", .isolated, .searchPath, ⟨[]⟩⟩, loadedHost) ∧
      relocatedLoader.mangledPrefix = .ok "a_" ∧ "a_" ++ "x" = "" ++ "a_x" ∧
      (relocatedLoader.load 1 "x" ((⟨loadedHost, fun _ => plainLoader⟩ : Session).run laterActions).host).1 =
        .ok ⟨0, "a_x", "", .isolated, .searchPath, ⟨[]⟩⟩ := by
  have hp : plainLoader.mangledPrefix = .ok "" := by rfl
  have hl : plainLoader.load 1 "a_x" idleHost =
      (.ok ⟨0, "a_x", "", .isolated, .searchPath, ⟨[]⟩⟩, (⟨loadedHost, fun _ => plainLoader⟩ : Session).host) :=
    Prod.ext (by rfl) rfl
  have hp' : relocatedLoader.mangledPrefix = .ok "a_" := by rfl
  have hn : "a_" ++ "x" = "" ++ "a_x" := by rfl
  refine ⟨hp, hl, hp', hn, ?_⟩
  rw [((load_after_load hp hl laterActions).2 relocatedLoader "x" "a_" hp' hn).1]

end Session
end NativeLoader
