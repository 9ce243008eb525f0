import NativeLoader.Proofs.Text.Trimming
import NativeLoader.Settings

/-!
# What an environment asks for

The settings that are on or off are read alike, each from a variable of its own (`Switch`, `isOn_ofEnvironment`). A
switch is written to be on if its variable holds no text, and so leaves the default, or holds the word for it; but the
word is also taken for itself where white space stands around it (`isOn_iff`). So a switch is read as it is written
exactly if its variable does not hold the word among white space (`switches_as_written_iff`), as one may
(`padded_word_switches_on`).
-/

namespace NativeLoader

namespace Environment

variable {env : Environment} {key text : String}

/-- A variable holds a text: its bytes are those of the text. -/
def Holds (env : Environment) (key text : String) : Prop := env.lookup key = some (Text.bytes text)

/-- A variable holds no text: it is unset, or its bytes are not UTF-8. -/
def HoldsNoText (env : Environment) (key : String) : Prop :=
  env.lookup key = none ∨ ∃ bytes, env.lookup key = some bytes ∧ ∀ text, Text.bytes text ≠ bytes

theorem text?_eq_some_iff : env.text? key = some text ↔ env.Holds key text := by
  rw [text?, Option.bind_eq_some_iff, Holds]
  simp only [Text.decode_eq_some_iff, exists_eq_right']

theorem text?_eq_none_iff : env.text? key = none ↔ env.HoldsNoText key := by
  rw [text?, HoldsNoText]
  cases env.lookup key with
  | none => simp
  | some bytes => simp [Option.eq_none_iff_forall_ne_some, Text.decode_eq_some_iff]

end Environment

namespace Settings

/-! ## Switches -/

/-- A setting that is on or off. -/
inductive Switch where
  | deleteCopies
  | renewInstallName
  | detectDuplicates
  deriving DecidableEq, Repr

namespace Switch

/-- The variable of a switch. -/
def key : Switch → String
  | deleteCopies => deleteVariable
  | renewInstallName => installNameVariable
  | detectDuplicates => duplicatesVariable

/-- A switch is on in some settings. -/
def isOn : Switch → Settings → Bool
  | deleteCopies, settings => settings.deleteCopies
  | renewInstallName, settings => settings.renewInstallName
  | detectDuplicates, settings => settings.detectDuplicates

/-- A switch is written to be on: its variable holds no text, or the word. -/
def IsWrittenOn (s : Switch) (env : Environment) : Prop :=
  env.HoldsNoText s.key ∨ ∃ text, env.Holds s.key text ∧ Text.Spells "true" text

/-- The variable of a switch holds the word among white space. -/
def IsWrittenPadded (s : Switch) (env : Environment) : Prop :=
  ∃ text, env.Holds s.key text ∧ Text.SpellsPadded "true" text

variable {s : Switch} {env env' : Environment}

theorem isSmall_true : Text.IsSmall "true" := by
  intro w hw
  have hletters : w = 't' ∨ w = 'r' ∨ w = 'u' ∨ w = 'e' := by simpa using hw
  rcases hletters with rfl | rfl | rfl | rfl <;> rfl

/-- All switches are read alike, and on by default. -/
theorem isOn_ofEnvironment (s : Switch) (env : Environment) :
    s.isOn (ofEnvironment env) = switch (env.text? s.key) true := by
  cases s <;> rfl

/-- A switch is read from its own variable. -/
theorem isOn_congr (h : env.lookup s.key = env'.lookup s.key) :
    s.isOn (ofEnvironment env) = s.isOn (ofEnvironment env') := by
  rw [isOn_ofEnvironment, isOn_ofEnvironment, Environment.text?, Environment.text?, h]

/-- A switch is on where it is written to be, and where the word stands among white space. -/
theorem isOn_iff : s.isOn (ofEnvironment env) = true ↔ s.IsWrittenOn env ∨ s.IsWrittenPadded env := by
  rw [isOn_ofEnvironment]
  cases ht : env.text? s.key with
  | none =>
    have hnone : s.IsWrittenOn env := Or.inl (Environment.text?_eq_none_iff.mp ht)
    exact ⟨fun _ => Or.inl hnone, fun _ => rfl⟩
  | some text =>
    have hsome : ¬env.HoldsNoText s.key := by
      rw [← Environment.text?_eq_none_iff, ht]
      simp
    have honly : ∀ other, env.Holds s.key other ↔ other = text := by
      intro other
      rw [← Environment.text?_eq_some_iff, ht, Option.some.injEq, eq_comm]
    simp only [IsWrittenOn, IsWrittenPadded, hsome, honly, false_or, exists_eq_left]
    rw [switch, Text.sameIgnoringCase_iff isSmall_true, Text.spells_trim_iff isSmall_true (by decide)]

/-- What is written to be on has no white space around it. -/
theorem IsWrittenOn.not_padded (h : s.IsWrittenOn env) : ¬s.IsWrittenPadded env := by
  rintro ⟨padded, hpadded, hspells⟩
  rw [← Environment.text?_eq_some_iff] at hpadded
  rcases h with hnone | ⟨text, htext, hword⟩
  · rw [← Environment.text?_eq_none_iff, hpadded] at hnone
    cases hnone
  · rw [← Environment.text?_eq_some_iff, hpadded] at htext
    cases htext
    exact hword.not_padded isSmall_true hspells

end Switch

/-- The directory asked for is the text of its variable, unless it is empty. -/
theorem directory_ofEnvironment_iff {env : Environment} {path : String} :
    (ofEnvironment env).directory = some path ↔ env.Holds directoryVariable path ∧ path ≠ "" := by
  rw [← Environment.text?_eq_some_iff]
  simp [ofEnvironment, Option.filter_eq_some_iff]

/-- **What is read is what is written, but for white space.** A switch is on exactly if it is written to be, or the word
for it stands among white space; so it is read as it is written exactly if the word does not stand so. A directory is
asked for exactly by a text that is not empty. Each setting is read from one variable, and no two from the same. -/
theorem switches_as_written_iff (env : Environment) :
    (∀ s : Switch, (s.isOn (ofEnvironment env) = true ↔ s.IsWrittenOn env ∨ s.IsWrittenPadded env) ∧
        ((s.isOn (ofEnvironment env) = true ↔ s.IsWrittenOn env) ↔ ¬s.IsWrittenPadded env)) ∧
      (∀ path, (ofEnvironment env).directory = some path ↔ env.Holds directoryVariable path ∧ path ≠ "") ∧
      (∀ env' : Environment,
        (∀ s : Switch, env.lookup s.key = env'.lookup s.key →
          s.isOn (ofEnvironment env) = s.isOn (ofEnvironment env')) ∧
        (env.lookup directoryVariable = env'.lookup directoryVariable →
          (ofEnvironment env).directory = (ofEnvironment env').directory)) ∧
      ∀ s : Switch, s.key ≠ directoryVariable ∧ ∀ s' : Switch, s.key = s'.key → s = s' := by
  refine ⟨?_, fun _ => directory_ofEnvironment_iff, ?_, ?_⟩
  · intro s
    refine ⟨Switch.isOn_iff, ?_⟩
    constructor
    · intro hwritten hpadded
      have hon := Switch.isOn_iff.mpr (Or.inr hpadded)
      exact (hwritten.mp hon).not_padded hpadded
    · intro hnot
      rw [Switch.isOn_iff, or_iff_left hnot]
  · intro env'
    refine ⟨fun s hs => Switch.isOn_congr hs, ?_⟩
    intro hd
    simp only [ofEnvironment, Environment.text?, hd]
  · intro s
    refine ⟨by cases s <;> decide, ?_⟩
    intro s'
    cases s <;> cases s' <;> decide

/-- The variable for deleting copies holds the word with a space before it. -/
def paddedEnvironment : Environment := [(deleteVariable, Text.bytes " true")]

/-- The word after a space is not the word, and is taken for it. -/
theorem padded_word_switches_on :
    paddedEnvironment.Holds deleteVariable " true" ∧ ¬Text.Spells "true" " true" ∧
      (ofEnvironment paddedEnvironment).deleteCopies = true := by
  refine ⟨rfl, ?_, by decide⟩
  rw [← Text.sameIgnoringCase_iff Switch.isSmall_true]
  decide

/-- Other variables are set beside the one for deleting copies, which holds the word in mixed letters. -/
def mixedEnvironment : Environment :=
  [(directoryVariable, Text.bytes "/w"), (installNameVariable, Text.bytes "yes"), (deleteVariable, Text.bytes "tRuE")]

/-- Deleting copies is as written, with the other variables and without them. -/
theorem switches_as_written_iff_mixed :
    let alone : Environment := [(deleteVariable, Text.bytes "tRuE")]
    mixedEnvironment.lookup Switch.deleteCopies.key = alone.lookup Switch.deleteCopies.key ∧
      Switch.deleteCopies.IsWrittenOn alone ∧ ¬Switch.deleteCopies.IsWrittenPadded alone ∧
      (ofEnvironment alone).deleteCopies = true ∧ (ofEnvironment mixedEnvironment).deleteCopies = true ∧
      (ofEnvironment mixedEnvironment).directory = some "/w" ∧
      Switch.renewInstallName.isOn (ofEnvironment mixedEnvironment) = false := by
  intro alone
  obtain ⟨-, hdirectory, hown, -⟩ := switches_as_written_iff mixedEnvironment
  have hsame : mixedEnvironment.lookup Switch.deleteCopies.key = alone.lookup Switch.deleteCopies.key := by decide
  have hword : Text.Spells "true" "tRuE" := (Text.sameIgnoringCase_iff Switch.isSmall_true).mp (by decide)
  have hwritten : Switch.deleteCopies.IsWrittenOn alone := Or.inr ⟨"tRuE", rfl, hword⟩
  have hon : Switch.deleteCopies.isOn (ofEnvironment alone) = true :=
    ((switches_as_written_iff alone).1 .deleteCopies).1.mpr (Or.inl hwritten)
  refine ⟨hsame, hwritten, hwritten.not_padded, hon, ?_, (hdirectory _).mpr ⟨rfl, by decide⟩, by decide⟩
  exact ((hown alone).1 .deleteCopies hsame).trans hon

end Settings
end NativeLoader
