import NativeLoader.Proofs.Extraction.Places
import NativeLoader.Proofs.Extraction.Disposal

/-!
# Copies are new, in their directory, and alone

Extracting makes one file, right below the directory it is asked for, however the path of the resource is spelled: the
name is the last part of that path with a drawn part before its last dot (`Path.EndsIn`). The file is new and holds the
whole resource, and no other entry changes; an extraction that fails changes no entry at all (`extract_confined`). A
copy that is made is none of those that are still there, so these have different paths for as long as a process lasts
(`Host.StillThere`).
-/

namespace NativeLoader

/-! ## The last part of a path -/

namespace Path

/-- A path ends in a stem and an ending: they are its last part, behind its last slash if there is one, and the ending
is what there is from the last dot of that part on. -/
structure EndsIn (path stem ending : String) : Prop where
  last : '/' ∉ (stem ++ ending).toList ∧
    ∃ before, path = before ++ (stem ++ ending) ∧ (before = "" ∨ endsWithSlash before = true)
  dot : ending = "" ∧ '.' ∉ stem.toList ∨ ∃ letters, ending = "." ++ letters ∧ '.' ∉ letters.toList

/-- Before its last part a path has nothing, or ends with a slash. -/
theorem exists_eq_append_fileName (path : String) :
    ∃ before, path = before ++ fileName path ∧ (before = "" ∨ endsWithSlash before = true) := by
  rcases Text.splitLast_eq '/' path with ⟨hslash, -⟩ | ⟨before, after, hafter, hpath, -⟩
  · have hname : fileName path = path := by
      rw [fileName, Text.split_of_not_mem hslash]
      rfl
    exact ⟨"", by rw [hname, String.empty_append], Or.inl rfl⟩
  · have hwhole : path = String.ofList before ++ "/" ++ String.ofList after := by
      rw [← String.toList_inj, hpath]
      simp
    have hsplit : Text.split '/' path = Text.split '/' (String.ofList before) ++ [String.ofList after] := by
      rw [hwhole, Text.split_append_slash, Text.split_of_not_mem (s := String.ofList after) (by simpa using hafter)]
    refine ⟨String.ofList before ++ "/", ?_, Or.inr ?_⟩
    · rw [fileName_concat hsplit]
      exact hwhole
    · simp [endsWithSlash]

/-- The last part of a path ends as its two parts say. -/
theorem endsIn_splitExtension (path : String) :
    EndsIn path (splitExtension (fileName path)).1 (splitExtension (fileName path)).2 := by
  refine ⟨?_, ?_⟩
  · rw [append_splitExtension]
    exact ⟨not_mem_fileName path, exists_eq_append_fileName path⟩
  · rw [splitExtension]
    rcases Text.splitLast_eq '.' (fileName path) with ⟨hdot, hsplit⟩ | ⟨before, after, hafter, -, hsplit⟩
    · rw [hsplit]
      exact Or.inl ⟨rfl, hdot⟩
    · rw [hsplit]
      refine Or.inr ⟨String.ofList after, ?_, by simpa using hafter⟩
      rw [← String.toList_inj]
      simp

end Path

namespace Host

/-! ## Extractions one after the other -/

/-- The paths of copies that were extracted one after the other and are still there. Anything may happen to the process
in between; a copy counts for as long as something is at its path. -/
inductive StillThere : List String → Host → Prop
  | none (h : Host) : StillThere [] h
  | extract {c : Candidate} {directory path : String} {paths : List String} {h after : Host} : StillThere paths h →
      h.extract c directory = (.ok path, after) → StillThere (paths ++ [path]) after
  | change {paths : List String} {h : Host} (after : Host) : StillThere paths h →
      StillThere (paths.filter after.files.isPresent) after

/-- Copies that are still there have different paths. -/
theorem StillThere.nodup {paths : List String} {h : Host} (hs : StillThere paths h) :
    paths.Nodup ∧ ∀ path ∈ paths, h.files.isPresent path = true := by
  induction hs with
  | none h => exact ⟨.nil, by simp⟩
  | @extract c directory path paths h after _ hx ih =>
    obtain ⟨hnodup, hpresent⟩ := ih
    obtain ⟨⟨loc, hadded⟩, -⟩ := extract_addsFile hx
    have hnew : path ∉ paths := by
      intro hm
      have hthere := hpresent path hm
      rw [hadded.isPresent_eq_false] at hthere
      cases hthere
    refine ⟨List.nodup_append.mpr ⟨hnodup, by simp, ?_⟩, ?_⟩
    · rintro other hm _ hlast rfl
      rw [List.mem_singleton] at hlast
      rw [hlast] at hm
      exact hnew hm
    · intro other hm
      rw [FileSystem.isPresent_iff]
      rcases List.mem_append.mp hm with hm | hm
      · obtain ⟨there, hl⟩ := FileSystem.isPresent_iff.mp (hpresent other hm)
        exact ⟨there, hadded.growsTo.locate hl⟩
      · rw [List.mem_singleton.mp hm]
        exact ⟨loc, hadded.locate⟩
  | change after _ ih => exact ⟨ih.1.filter _, fun path hm => (List.mem_filter.mp hm).2⟩

/-- **A copy is new, in its directory, and alone.** What is extracted is a file right below the directory that is asked
for, whose name is the last part of the resource's path with a drawn part before the last dot. Nothing was at its path,
it holds the whole resource as it is read once the file is there, and all else stays as it was but for the random
characters. An extraction that fails changes nothing but these. So copies that are still there have different paths. -/
theorem extract_confined :
    (∀ (h : Host) (c : Candidate) (directory path : String) (after : Host),
      h.extract c directory = (.ok path, after) → ∃ base name above mode bytes,
        (∃ stem drawn ending, Path.EndsIn c.path stem ending ∧ Draws.IsDrawn drawn ∧ name = stem ++ drawn ++ ending) ∧
        h.temporaryBase directory = .ok base ∧ path = Path.join base name ∧
        h.files.locate base = .ok above ∧ h.files.node? above = some (.directory mode) ∧
        (h.files.KnowsCurrent → directory ≠ "" → h.files.locate directory = .ok above) ∧
        h.files.isPresent path = false ∧ after.files.locate path = .ok (name :: above) ∧
        after = { h with files := h.files.put (name :: above) (.file copyMode bytes), draws := after.draws } ∧
        (∀ loc, loc ≠ name :: above → after.files.node? loc = h.files.node? loc) ∧
        c.contents (h.files.put (name :: above) (.file copyMode [])) = .ok bytes ∧
        (c.root.contains h.files c.path = true → c.contents h.files = .ok bytes)) ∧
    (∀ (h : Host) (c : Candidate) (directory : String) (failure : Failure) (after : Host),
      h.extract c directory = (.error failure, after) → after = { h with draws := after.draws }) ∧
    ∀ (paths : List String) (h : Host), StillThere paths h → paths.Nodup := by
  refine ⟨?_, ?_, fun paths h hs => hs.nodup.1⟩
  · intro h c directory path after hx
    have hto := extractsTo_extract h c directory
    rw [hx] at hto
    cases hto with
    | @copied loc bytes _ draws hm hcontents =>
      obtain ⟨base, drawn, above, mode, hb, hdrawn, hpath, rfl, hlocate, hd⟩ :=
        place_of_makeTemporaryFile c.not_mem_splitExtension hm
      have hadded := addsFile_of_makeTemporaryFile hm
      refine ⟨base, _, above, mode, bytes, ⟨_, drawn, _, Path.endsIn_splitExtension c.path, hdrawn, rfl⟩, hb, hpath,
        hlocate, hd, ?_, (hadded bytes).isPresent_eq_false, (hadded bytes).locate, rfl, ?_, hcontents, ?_⟩
      · intro hk hne
        exact locate_of_temporaryBase hk hne hb hlocate hd
      · intro loc hne
        exact FileSystem.node?_put_of_ne hne _ _
      · intro hc
        rw [← hcontents]
        exact (Candidate.contents_of_growsTo (hadded []).growsTo hc).symm
  · intro h c directory failure after hx
    have hto := extractsTo_extract h c directory
    rw [hx] at hto
    cases hto with
    | noFile draws hm => rfl
    | brokenOff draws hm hcontents => rfl

/-! ## A path that ends with dots -/

/-- A process in `/srv`, which has a directory `/srv/copies`. -/
def servingHost : Host where
  files :=
    { entries := [(["copies", "srv"], .directory 0o755), (["srv"], .directory 0o755)]
      current := ["srv"] }
  temporary := "/tmp"
  draws := .ofNumbers fun n => n

/-- A resource whose path leads up and ends with two dots. -/
def dottedCandidate : Candidate := ⟨.embedded "jar" [("a/../..", [0x46, 0x41])], "a/../.."⟩

/-- A resource that breaks off after the first read. -/
def fragment : Candidate where
  root := .provider
    { locator := ("broken:" ++ ·)
      contains := fun _ => true
      reader := fun _ => .ok ⟨[[0x46]], some (.reported "Other" "broken off")⟩ }
  path := "a/../.."

/-- The process once the resource was extracted. -/
def servedHost : Host := (servingHost.extract dottedCandidate "copies").2

/-- The copy is in the directory all the same, a second one is another file, and one that breaks off is not there. -/
theorem extract_confined_dotted :
    (∃ name bytes, servingHost.files.locate "copies" = .ok ["copies", "srv"] ∧
      servingHost.files.isPresent "/srv/copies/.012345." = false ∧
      servedHost.files.locate "/srv/copies/.012345." = .ok [name, "copies", "srv"] ∧
      dottedCandidate.contents servingHost.files = .ok bytes ∧
      servedHost.files.node? [name, "copies", "srv"] = some (.file copyMode bytes)) ∧
    (servedHost.extract fragment "copies").2.files = servedHost.files ∧
    ∃ path, (servedHost.extract dottedCandidate "/srv/copies").1 = .ok path ∧ ["/srv/copies/.012345.", path].Nodup := by
  obtain ⟨hcopies, hfailures, hpaths⟩ := extract_confined
  have hx : servingHost.extract dottedCandidate "copies" = (.ok "/srv/copies/.012345.", servedHost) := by rfl
  refine ⟨?_, ?_, ?_⟩
  · obtain ⟨base, name, above, mode, bytes, -, hb, -, hbase, -, -, habsent, hlocate, hafter, -, -, hcontents⟩ :=
      hcopies servingHost dottedCandidate "copies" _ _ hx
    have hthere : servingHost.files.locate "/srv/copies" = .ok ["copies", "srv"] := by rfl
    cases hb
    cases hbase.symm.trans hthere
    refine ⟨name, bytes, by rfl, habsent, hlocate, hcontents (by rfl), ?_⟩
    rw [hafter]
    exact FileSystem.node?_put_self (by simp) _ _
  · obtain ⟨failure, after, hfailed⟩ :
        ∃ failure after, servedHost.extract fragment "copies" = (.error failure, after) := ⟨_, _, by rfl⟩
    rw [hfailed, hfailures servedHost fragment "copies" failure after hfailed]
  · have hagain : (servedHost.extract dottedCandidate "/srv/copies").1 = .ok "/srv/copies/.6789AB." := by rfl
    have hone : StillThere ["/srv/copies/.012345."] servedHost := (StillThere.none servingHost).extract hx
    cases hsecond : servedHost.extract dottedCandidate "/srv/copies" with
    | mk second after =>
      rw [hsecond] at hagain
      cases hagain
      exact ⟨_, rfl, hpaths _ after (hone.extract hsecond)⟩

end Host
end NativeLoader
