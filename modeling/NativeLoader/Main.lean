import NativeLoader.Linker.Platform
import NativeLoader.Probe

/-!
# The command

`main` probes for the first available engine. It takes down the part of the machine that a load can see (the
variables, the packaged files, the directories), lets `Probe.run` do the rest, writes what has come to be there, and
prints the report.
-/

namespace NativeLoader.Main

/-- Code that never replies. -/
def silent : Code Unit where
  createClient _ s := (0, s)
  send _ _ _ s := s
  receive _ _ s := (none, s)
  execute _ _ s := (none, s)
  destroyClient _ _ s := s

/-- The variables that settings are read from. -/
def settingKeys : List String :=
  [Settings.directoryVariable, Settings.deleteVariable, Settings.installNameVariable, Settings.duplicatesVariable,
    Settings.searchVariable]

/-- Those variables that are set, with their bytes. -/
def environment : IO Environment := do
  let mut found := []
  for key in settingKeys do
    if let some value ← IO.getEnv key then
      found := found ++ [(key, Text.bytes value)]
  return found

/-- The files below a directory of the machine in which packaged libraries are kept. -/
def packaged (base : String) (fs : FileSystem) : IO FileSystem := do
  let home := Path.join base Root.home
  let place := (← IO.currentDir) / home
  let mut seen := fs
  if ← place.isDir then
    for entry in ← place.readDir do
      unless ← entry.path.isDir do
        let bytes ← IO.FS.readBinFile entry.path
        seen := seen.writeFile 0o644 (Path.join home entry.fileName) bytes.data.toList
  return seen

/-- A directory of the machine, if it is there. -/
def directory (path : String) (fs : FileSystem) : IO FileSystem := do
  if ← ((← IO.currentDir) / path).isDir then return (fs.makeDirectories path).2
  else return fs

/-- The directories that a context's roots are in. -/
def bases (roots : List Root) : List String :=
  roots.filterMap fun
    | .directory base => some base
    | _ => none

/-- The part of the machine that a load can see. -/
def survey (here temporary : String) (env : Environment) (roots : List Root) : IO FileSystem := do
  let mut fs ← directory here {}
  fs := { fs with current := (Path.steps here).reverse }
  fs ← directory temporary fs
  if let some path := (Settings.ofEnvironment env).directory then
    fs ← directory path fs
  for base in bases roots do
    fs ← packaged base fs
  return fs

/-- Making on the machine what has come to be there. -/
def keep (before after : FileSystem) : IO Unit := do
  for (loc, node) in after.entries.reverse do
    if before.node? loc != some node then
      let place := (← IO.currentDir) / ("/" ++ String.intercalate "/" loc.reverse)
      match node with
      | .directory _ => IO.FS.createDirAll place
      | .file _ bytes => IO.FS.writeBinFile place ⟨bytes.toArray⟩

/-- Random letters and digits. -/
def draws : IO Draws := do
  let bytes ← IO.getRandomBytes 4096
  return .ofNumbers fun n => (bytes.data[n % bytes.size]?.getD 0).toNat

end NativeLoader.Main

open NativeLoader in
/-- Probing for the named libraries. -/
def main (arguments : List String) : IO UInt32 := do
  let env ← NativeLoader.Main.environment
  let here := (← IO.currentDir).toString
  let program := ((← IO.appPath).parent.map toString).getD "/"
  let temporary := (← IO.getEnv "TMPDIR").getD "/tmp"
  let files ← NativeLoader.Main.survey here temporary env (Host.globalRoots env program)
  let host := Host.ofEnvironment env program temporary files (← NativeLoader.Main.draws)
  let loader : Loader := { settings := .ofEnvironment env, linker := .platform { origin := program } }
  let (report, _, after) := Probe.run NativeLoader.Main.silent loader arguments () host
  NativeLoader.Main.keep files after.files
  IO.print report.output
  IO.eprint report.errors
  return report.status.toUInt32
