import NativeLoader.Proofs.Extraction.DrawnCopies
import NativeLoader.Proofs.Extraction.Places
import NativeLoader.Proofs.Loading.Course
import NativeLoader.Proofs.Package.Picking

/-!
# Copies that keep their install names

Whatever the developer tools make of a copy, it is the one file that was extracted, with the mode it had
(`AddsFile.renewInstallName`, `node?_renewInstallName`); so getting a copy ready adds one file and puts nothing off
(`extract_addsFile`). Where the tools are missing, or the copies of a loader need no names of their own, the copy that
is bound is as it was extracted (`extract_of_keeps`, `Packs.holdsCopy`): the tools do not come with it, since the name of
a copy has a dot and no part of their directory's path does (`isPresent_toolsDirectory`).
-/

namespace NativeLoader

/-! ## What becomes of the copy -/

section Renewal

variable {h : Host} {fs : FileSystem} {path : String} {loc : Location}

/-- What becomes of a copy that may be given an install name: it is as it was, or its bytes are others, once or twice. -/
theorem Host.files_renewInstallName (tools : DeveloperTools) (name path : String) (h : Host) :
    (h.renewInstallName tools name path).2.files = h.files ∨
      ∃ renamed, (h.renewInstallName tools name path).2.files = h.files.overwrite path renamed ∨
        ∃ signed, (h.renewInstallName tools name path).2.files =
          (h.files.overwrite path renamed).overwrite path signed := by
  unfold renewInstallName
  split
  · exact Or.inl rfl
  · simp only
    split
    · exact Or.inl rfl
    · next renamed _ =>
      refine Or.inr ⟨renamed, ?_⟩
      split
      · exact Or.inl rfl
      · next signed _ => exact Or.inr ⟨signed, rfl⟩

/-- It is the one file that was added, whatever becomes of it. -/
theorem FileSystem.AddsFile.renewInstallName (ha : fs.AddsFile path loc h.files) (tools : DeveloperTools)
    (name : String) : fs.AddsFile path loc (h.renewInstallName tools name path).2.files := by
  rcases h.files_renewInstallName tools name path with hsame | ⟨renamed, hrenamed | ⟨signed, hsigned⟩⟩
  · rw [hsame]
    exact ha
  · rw [hrenamed]
    exact ha.overwrite renamed
  · rw [hsigned]
    exact (ha.overwrite renamed).overwrite signed

/-- It has the mode that it had. -/
theorem FileSystem.AddsFile.node?_renewInstallName {mode : Nat} {bytes : List UInt8}
    (ha : fs.AddsFile path loc h.files) (hn : h.files.node? loc = some (.file mode bytes)) (tools : DeveloperTools)
    (name : String) : ∃ others, (h.renewInstallName tools name path).2.files.node? loc = some (.file mode others) := by
  rcases h.files_renewInstallName tools name path with hsame | ⟨renamed, hrenamed | ⟨signed, hsigned⟩⟩
  · exact ⟨bytes, by rw [hsame]; exact hn⟩
  · exact ⟨renamed, by rw [hrenamed]; exact ha.node?_overwrite hn renamed⟩
  · refine ⟨signed, ?_⟩
    rw [hsigned]
    exact (ha.overwrite renamed).node?_overwrite (ha.node?_overwrite hn renamed) signed

end Renewal

namespace Loader

variable {l : Loader} {context : ContextId} {name mangledPrefix directory path : String} {c : Candidate}
  {h found settled ready : Host} {failure : Failure}

/-- **A copy that is ready** is one file more, and nothing is put off. -/
theorem extract_addsFile (hx : l.extract name mangledPrefix c directory settled = (.ok path, ready)) :
    (∃ bytes, settled.HoldsCopy path bytes ready) ∧ ready.pending = settled.pending := by
  obtain ⟨extracted, hcopy, rfl⟩ := extract_eq_ok_iff.mp hx
  obtain ⟨bytes, -, loc, hadded, hn⟩ := Host.extract_holdsCopy hcopy
  obtain ⟨-, hpending⟩ := Host.extract_addsFile hcopy
  unfold renewInstallName
  split
  · obtain ⟨others, hothers⟩ := hadded.node?_renewInstallName hn l.tools name
    obtain ⟨files, draws, hframe⟩ := Host.renewInstallName_frame l.tools name path extracted
    refine ⟨⟨others, loc, hadded.renewInstallName l.tools name, hothers⟩, ?_⟩
    rw [hframe]
    exact hpending
  · exact ⟨⟨bytes, loc, hadded, hn⟩, hpending⟩

/-! ## Where names are kept -/

/-- Among these files a loader gives no copy another install name: its copies need none, or the developer tools are
missing. -/
def KeepsInstallNames (l : Loader) (fs : FileSystem) : Prop :=
  ∀ mangledPrefix, l.mangledPrefix = .ok mangledPrefix →
    InstallName.isNeeded l.settings.renewInstallName l.platform mangledPrefix = true →
    fs.isPresent InstallName.toolsDirectory = false

/-- A copy is then left as it is. -/
theorem renewInstallName_of_keeps (hk : l.KeepsInstallNames h.files) (hp : l.mangledPrefix = .ok mangledPrefix)
    (name path : String) : (l.renewInstallName name mangledPrefix path h).2 = h := by
  unfold renewInstallName
  split
  · next hneeded =>
    simp only [Host.renewInstallName, InstallName.renew, hk mangledPrefix hp hneeded, Bool.false_eq_true, if_false]
  · rfl

/-- A copy whose name has a dot is not on the way to the developer tools. -/
theorem isPresent_toolsDirectory (hdot : '.' ∈ c.fileName.toList)
    (hx : settled.extract c directory = (.ok path, ready)) :
    ready.files.isPresent InstallName.toolsDirectory = settled.files.isPresent InstallName.toolsDirectory := by
  have hto := settled.extractsTo_extract c directory
  rw [hx] at hto
  cases hto with
  | @copied loc bytes _ draws hm hcontents =>
    have hadded := Host.addsFile_of_makeTemporaryFile hm bytes
    obtain ⟨_, drawn, above, _, -, -, -, rfl, -, -⟩ := Host.place_of_makeTemporaryFile c.not_mem_splitExtension hm
    refine hadded.isPresent_of_not_mem (by decide) ?_
    have hparts : ∀ part ∈ Text.split '/' InstallName.toolsDirectory, '.' ∉ part.toList := by decide
    intro hmem
    refine hparts _ hmem ?_
    rw [← append_splitExtension c.fileName, String.toList_append, List.mem_append] at hdot
    simp only [String.toList_append, List.mem_append]
    exact hdot.imp Or.inl id

/-- **What is bound is what was extracted**, where names are kept. -/
theorem extract_of_keeps (hk : l.KeepsInstallNames settled.files) (hp : l.mangledPrefix = .ok mangledPrefix)
    (hdot : '.' ∈ c.fileName.toList) (name directory : String) :
    l.extract name mangledPrefix c directory settled = settled.extract c directory := by
  unfold extract
  cases hx : settled.extract c directory with
  | mk result extracted =>
    cases result with
    | error failure => rfl
    | ok path =>
      have hkept : l.KeepsInstallNames extracted.files := by
        intro other ho hneeded
        rw [isPresent_toolsDirectory hdot hx]
        exact hk other ho hneeded
      simp only [renewInstallName_of_keeps hkept hp]

/-- The process once a load has asked for the search path, and then for its directory for copies, if it comes to that. -/
def readied (l : Loader) (context : ContextId) (name : String) (h : Host) : Host :=
  ((l.asked context name h).extractionDirectory l.directory).2

/-- The files among which a copy is extracted. -/
theorem Packs.files_readied (hpack : l.Packs context name mangledPrefix h failure found c directory settled) :
    (l.readied context name h).files = settled.files := by
  obtain ⟨warnings, -, hd⟩ := hpack.settles
  rw [readied, hpack.seeks.asked, ← Host.files_extractionDirectory_warn l.directory warnings found, hd]

/-- Where names are kept, a load binds what it extracted. -/
theorem Packs.extract_of_keeps (hpack : l.Packs context name mangledPrefix h failure found c directory settled)
    (hk : l.KeepsInstallNames (l.readied context name h).files) :
    l.extract name mangledPrefix c directory settled = settled.extract c directory := by
  obtain ⟨warnings, hlocate, -⟩ := hpack.settles
  rw [hpack.files_readied] at hk
  exact Loader.extract_of_keeps hk hpack.seeks.accepted (dot_mem_fileName hlocate) name directory

end Loader
end NativeLoader
