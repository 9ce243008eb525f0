import NativeLoader.Text.Blank
import NativeLoader.Text.Utf8

/-!
# Settings

What a loader is told by the environment: where extracted copies go, whether they are deleted, whether a relocated
library gets a new install name, and whether copies that differ are an error. Each setting has a variable of its own;
one that is unset, or is not text, leaves its default.
-/

namespace NativeLoader

/-- The variables of a process and their bytes. -/
abbrev Environment := List (String × List UInt8)

/-- The text of a variable, unless it is unset or not UTF-8. -/
def Environment.text? (env : Environment) (key : String) : Option String :=
  (env.lookup key).bind Text.decode

/-- What a loader may be told. -/
structure Settings where
  /-- The directory for extracted copies; a fresh temporary one if none is asked for. -/
  directory : Option String := none
  /-- Extracted copies are deleted when the attempt that made them is over. -/
  deleteCopies : Bool := true
  /-- A relocated library gets a new install name where the platform goes by it. -/
  renewInstallName : Bool := true
  /-- Copies of one library with different contents are an error. -/
  detectDuplicates : Bool := true
  deriving DecidableEq, Repr

namespace Settings

/-- The variable for the directory of extracted copies. -/
def directoryVariable : String := "TDLIGHT_NATIVE_WORKDIR"

/-- The variable for deleting extracted copies. -/
def deleteVariable : String := "TDLIGHT_NATIVE_DELETE_LIB_AFTER_LOADING"

/-- The variable for new install names. -/
def installNameVariable : String := "TDLIGHT_NATIVE_TRY_PATCH_SHADED_ID"

/-- The variable for detecting duplicates. -/
def duplicatesVariable : String := "TDLIGHT_NATIVE_DETECT_NATIVE_LIBRARY_DUPLICATES"

/-- The variable for the directories in which the process-wide context looks. -/
def searchVariable : String := "TDLIGHT_NATIVE_RESOURCE_PATH"

/-- A switch is on if its value is the word for it, and at its default without a value. -/
def switch (value : Option String) (default : Bool) : Bool :=
  match value with
  | some text => Text.sameIgnoringCase (Text.trim text) "true"
  | none => default

/-- The settings that an environment asks for. -/
def ofEnvironment (env : Environment) : Settings :=
  let defaults : Settings := {}
  { directory := (env.text? directoryVariable).filter (· != "")
    deleteCopies := switch (env.text? deleteVariable) defaults.deleteCopies
    renewInstallName := switch (env.text? installNameVariable) defaults.renewInstallName
    detectDuplicates := switch (env.text? duplicatesVariable) defaults.detectDuplicates }

end Settings
end NativeLoader
