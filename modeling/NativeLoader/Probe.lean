import NativeLoader.Engine.Basic

/-!
# Probing

The command that loads the first available engine and reports each step: the settings, the library found or why there
is none, and the engine's reply to one request (`Probe.run`). Where no library can be loaded, or the engine does not
answer as it should, the command says why on the error output alone, and fails.
-/

namespace NativeLoader.Probe

/-- What a command writes, and the status it ends with. -/
structure Report where
  output : String
  errors : String := ""
  status : Nat := 0
  deriving DecidableEq, Repr

/-- The libraries that are tried when none are named. -/
def defaultNames : List String := ["tdjni"]

/-- The request that asks an engine for its version. -/
def versionRequest : String := "\x7b\"@type\":\"getOption\",\"name\":\"version\"\x7d"

/-- Lines of text, each ended. -/
def lines (ls : List String) : String := String.join (ls.map (· ++ "\n"))

/-- What loading goes by. -/
def configuration (loader : Loader) (mangledPrefix : String) (names : List String) : List String :=
  ["── Configuration ──────────────────────────────────────────",
    "  workdir              : " ++ loader.settings.directory.getD "(temporary)",
    "  delete after loading : " ++ toString loader.settings.deleteCopies,
    "  patch shaded id      : " ++ toString loader.settings.renewInstallName,
    "  detect duplicates    : " ++ toString loader.settings.detectDuplicates,
    "  platform             : " ++ loader.platform.name,
    "  mangled prefix       : " ++ Text.quote mangledPrefix,
    "  candidates           : " ++ Text.quoteAll names,
    ""]

/-- The library found, and where. -/
def found (l : Library) : List String :=
  ["✅ Loaded " ++ l.name ++ " (" ++ l.binding.name ++ ")",
    match l.origin with
    | .searchPath => "   from the platform search path"
    | .resource locator => "   extracted from " ++ locator]

/-- The symbols of an engine that a library lacks. -/
def missing (l : Library) : List String :=
  (EntryPoint.symbols.filter fun symbol => !l.hasSymbol symbol).map l.symbolName

/-- A report of failure, after some lines. -/
def failed (before : List String) (reason : String) : Report := ⟨lines before, "✗ " ++ reason ++ "\n", 1⟩

/-- What an engine says about itself. -/
def inquire {σ : Type} (code : Code σ) (before : List String) (l : Library) (s : σ) : Report × σ :=
  if missing l != [] then
    (⟨lines (before ++ ["⚠  Not an ABI v1 engine, missing: " ++ Text.quoteAll (missing l)]), "", 0⟩, s)
  else
    match Engine.ofLibrary code l with
    | .error failure => (failed before failure.message, s)
    | .ok engine =>
      match engine.execute versionRequest s with
      | (.ok reply, s) => (⟨lines (before ++ ["   engine version reply: " ++ reply.getD "(none)"]), "", 0⟩, s)
      | (.error failure, s) => (failed before failure.message, s)

/-- Loading the first of some libraries into the process's own context, with a report. -/
def run {σ : Type} (code : Code σ) (loader : Loader) (arguments : List String) (s : σ) (h : Host) :
    Report × σ × Host :=
  let names := if arguments = [] then defaultNames else arguments
  match loader.mangledPrefix with
  | .error failure => (failed ((configuration loader "" names).take 6) failure.outline, s, h)
  | .ok mangledPrefix =>
    let shown := configuration loader mangledPrefix names
    match loader.loadFirst globalContext names h with
    | (.error failure, h) => (failed shown failure.outline, s, h)
    | (.ok l, h) =>
      let inquired := inquire code (shown ++ found l) l s
      (inquired.1, inquired.2, h)

end NativeLoader.Probe
