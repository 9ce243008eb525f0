import NativeLoader.Engine.Scripted
import NativeLoader.Linker.Tabulated
import NativeLoader.Proofs.Loading.Requests

/-!
# Two checks for entry points

A loader that requires the symbols of an engine searches them for one that the image does not export; an engine looks
its entry points up in the library one after the other. Both stop at the first entry point, in order, that is not
exported (`Library.LacksFirst`): the search by what a search finds (`missingSymbol?_symbols_eq_some_iff`), the chain of
look-ups link by link (`ofLibrary_eq_error_iff`). A binding to which the linker answers with an image is settled by the
search alone, whatever strategy it took (`bind_of_puts`), so the two checks agree (`bind_agrees_with_ofLibrary`).
-/

namespace NativeLoader

/-! ## The first entry point that is lacking -/

namespace Library

variable {l : Library} {e point : EntryPoint} {es : List EntryPoint}

/-- An entry point is the first of some that a library does not export. -/
def LacksFirst (l : Library) (es : List EntryPoint) (point : EntryPoint) : Prop :=
  ∃ before after, es = before ++ point :: after ∧ (∀ earlier ∈ before, l.hasSymbol earlier.symbol = true) ∧
    l.hasSymbol point.symbol = false

theorem not_lacksFirst_nil : ¬l.LacksFirst [] point := by
  rintro ⟨before, after, hsplit, -⟩
  exact List.append_ne_nil_of_right_ne_nil before (List.cons_ne_nil point after) hsplit.symm

/-- The first that is lacking is the one in front, or that is exported and the first is among the others. -/
theorem lacksFirst_cons_iff : l.LacksFirst (e :: es) point ↔
    l.hasSymbol e.symbol = false ∧ point = e ∨ l.hasSymbol e.symbol = true ∧ l.LacksFirst es point := by
  constructor
  · rintro ⟨before, after, hsplit, hbefore, hpoint⟩
    cases before with
    | nil =>
      cases hsplit
      exact Or.inl ⟨hpoint, rfl⟩
    | cons b bs =>
      cases hsplit
      obtain ⟨hb, hbs⟩ := List.forall_mem_cons.mp hbefore
      exact Or.inr ⟨hb, bs, after, rfl, hbs, hpoint⟩
  · rintro (⟨hlacks, rfl⟩ | ⟨hb, before, after, rfl, hbefore, hpoint⟩)
    · exact ⟨[], es, rfl, by simp, hlacks⟩
    · exact ⟨e :: before, after, rfl, List.forall_mem_cons.mpr ⟨hb, hbefore⟩, hpoint⟩

/-- A chain of look-ups fails for the first entry point that is lacking, if what follows its first link does. -/
theorem entry_bind_eq_error_iff {α : Type} {f : Address → Except EngineFailure α} {failure : EngineFailure}
    (hf : ∀ address, l.symbol? e.symbol = some address → (f address = .error failure ↔
      ∃ point, l.LacksFirst es point ∧ failure = .missingSymbol l.name (l.symbolName point.symbol))) :
    (l.entry e.symbol >>= f) = .error failure ↔
      ∃ point, l.LacksFirst (e :: es) point ∧ failure = .missingSymbol l.name (l.symbolName point.symbol) := by
  rw [entry]
  cases hs : l.symbol? e.symbol with
  | some address =>
    have hcons : ∀ point, l.LacksFirst (e :: es) point ↔ l.LacksFirst es point := by
      intro point
      simp [lacksFirst_cons_iff, hasSymbol, hs]
    simp only [hcons, ← hf address hs]
    rfl
  | none =>
    have hcons : ∀ point, l.LacksFirst (e :: es) point ↔ point = e := by
      intro point
      simp [lacksFirst_cons_iff, hasSymbol, hs]
    simp only [hcons, exists_eq_left]
    exact ⟨fun h => (Except.error.inj h).symm, fun h => h ▸ rfl⟩

end Library

/-- An engine cannot be made of a library exactly if it lacks an entry point, and the first of them is named. -/
theorem Engine.ofLibrary_eq_error_iff {σ : Type} {code : Code σ} {l : Library} {failure : EngineFailure} :
    ofLibrary code l = .error failure ↔
      ∃ point, l.LacksFirst EntryPoint.all point ∧ failure = .missingSymbol l.name (l.symbolName point.symbol) := by
  rw [ofLibrary, EntryPoint.all]
  iterate 5 refine Library.entry_bind_eq_error_iff fun _ _ => ?_
  constructor
  · intro h
    cases h
  · rintro ⟨point, hlacks, -⟩
    exact absurd hlacks Library.not_lacksFirst_nil

namespace Loader

variable {l : Loader} {context : ContextId} {target : Target} {h : Host} {calls : List Call} {image : Image}
  {lib : Library}

/-- The search for the symbols of an engine finds that of the first entry point that is lacking. -/
theorem missingSymbol?_symbols_eq_some_iff {symbol : String} :
    missingSymbol? EntryPoint.symbols lib.mangledPrefix lib.image = some symbol ↔
      ∃ point, lib.LacksFirst EntryPoint.all point ∧ symbol = lib.symbolName point.symbol := by
  have hsearch : missingSymbol? EntryPoint.symbols lib.mangledPrefix lib.image =
      (EntryPoint.all.find? fun point => !lib.hasSymbol point.symbol).map fun point => lib.symbolName point.symbol := by
    rw [missingSymbol?, EntryPoint.symbols, List.find?_map, Option.map_map]
    rfl
  have hfirst : ∀ point, (EntryPoint.all.find? fun point => !lib.hasSymbol point.symbol) = some point ↔
      lib.LacksFirst EntryPoint.all point := by
    intro point
    rw [List.find?_eq_some_iff_append]
    constructor
    · rintro ⟨hpoint, before, after, hsplit, hbefore⟩
      exact ⟨before, after, hsplit, by simpa using hbefore, by simpa using hpoint⟩
    · rintro ⟨before, after, hsplit, hbefore, hpoint⟩
      exact ⟨by simpa using hpoint, before, after, hsplit, by simpa using hbefore⟩
  rw [hsearch, Option.map_eq_some_iff]
  simp only [hfirst, eq_comm]

/-- What comes of a binding to which the linker answers with an image, by either strategy, is what the search for the
required symbols says. -/
theorem bind_of_puts (hputs : l.Puts context target h calls (.ok image)) (subject mangledPrefix : String) :
    ∃ binding earlier, (l.bind context target subject mangledPrefix h).1 =
      match missingSymbol? l.required mangledPrefix image with
      | some symbol => .error (.node (.missingEntryPoint subject symbol) earlier)
      | none => .ok (image, binding) := by
  have himage : ∃ binding earlier after,
      l.bindImage context target subject h = (.ok (image, binding, earlier), after) := by
    cases hputs with
    | whole hg ha => exact ⟨_, _, _, by simp only [bindImage, hg, bindGlobally, ha]; rfl⟩
    | inside hg ha _ => exact ⟨_, _, _, by simp only [bindImage, hg, ha]; rfl⟩
    | both hg hi ha => exact ⟨_, _, _, by simp only [bindImage, hg, hi, bindGlobally, ha]; rfl⟩
  obtain ⟨binding, earlier, after, hi⟩ := himage
  refine ⟨binding, earlier, ?_⟩
  simp only [bind, hi]
  cases missingSymbol? l.required mangledPrefix image <;> rfl

/-- **The two checks agree.** A loader that requires the symbols of an engine is to bind a library, and the linker
answers with its image, in the context's namespace or for the whole process. The binding succeeds exactly if an engine
can be made of the library: if every entry point is exported both do, and else both fail, and both name the symbol of
the first entry point that is not, as the library would export it. -/
theorem bind_agrees_with_ofLibrary {σ : Type} (code : Code σ) (hr : l.required = EntryPoint.symbols)
    (hputs : l.Puts context target h calls (.ok lib.image)) (subject : String) :
    let bound := (l.bind context target subject lib.mangledPrefix h).1
    let made := Engine.ofLibrary code lib
    ((∃ binding, bound = .ok (lib.image, binding)) ↔ ∃ e, made = .ok e) ∧
      ((∀ point : EntryPoint, lib.hasSymbol point.symbol = true) ∧
          (∃ binding, bound = .ok (lib.image, binding)) ∧
          (∃ a : EntryAddresses, a.AreExportedBy lib ∧ made = .ok ⟨lib, code.entryPoints a⟩) ∨
        ∃ point, lib.LacksFirst EntryPoint.all point ∧
          (∃ earlier, bound = .error (.node (.missingEntryPoint subject (lib.symbolName point.symbol)) earlier)) ∧
          made = .error (.missingSymbol lib.name (lib.symbolName point.symbol))) := by
  intro bound made
  obtain ⟨binding, earlier, hbound⟩ := bind_of_puts hputs subject lib.mangledPrefix
  rw [hr] at hbound
  cases hm : missingSymbol? EntryPoint.symbols lib.mangledPrefix lib.image with
  | some symbol =>
    obtain ⟨point, hlacks, rfl⟩ := missingSymbol?_symbols_eq_some_iff.mp hm
    have hb : bound = .error (.node (.missingEntryPoint subject (lib.symbolName point.symbol)) earlier) := by
      simpa only [hm] using hbound
    have hmade : made = .error (.missingSymbol lib.name (lib.symbolName point.symbol)) :=
      Engine.ofLibrary_eq_error_iff.mpr ⟨point, hlacks, rfl⟩
    refine ⟨?_, Or.inr ⟨point, hlacks, ⟨earlier, hb⟩, hmade⟩⟩
    simp [hb, hmade]
  | none =>
    have hexports := missingSymbol?_eq_none_iff.mp hm
    have hb : bound = .ok (lib.image, binding) := by simpa only [hm] using hbound
    obtain ⟨a, ha⟩ := Library.hasSymbols_iff.mp hexports
    have hmade : made = .ok ⟨lib, code.entryPoints a⟩ := Engine.ofLibrary_eq_ok_iff.mpr ⟨a, ha, rfl⟩
    refine ⟨?_, Or.inl ⟨EntryPoint.forall_mem_symbols_iff.mp hexports, ⟨binding, hb⟩, a, ha, hmade⟩⟩
    simp [hb, hmade]

/-- A library of the build below `a` that exports all entry points but one under its own names, and that one without
the prefix. -/
def halfRelocated : Library :=
  ⟨0, "x", "a_", .global, .searchPath, LinkerTable.imageOf ["a_td_create_client_id", "a_td_send", "a_td_receive",
    "td_execute", "a_td_destroy_client_id"]⟩

/-- A loader that requires an engine, with a linker that has no namespaces but that library. -/
def halfRelocatedLoader : Loader where
  linker := LinkerTable.toLinker
    { isolated := { searched := .decline "no namespaces" }
      installed := [("a_x", ["a_td_create_client_id", "a_td_send", "a_td_receive", "td_execute",
        "a_td_destroy_client_id"])] }
  required := EntryPoint.symbols

/-- Bound for the whole process after no namespace could be used, the library is found to lack one entry point, and no
engine is made of it for the same reason. -/
theorem bind_agrees_with_ofLibrary_halfRelocated :
    let h : Host := { temporary := "/tmp", draws := .ofNumbers fun n => n }
    let target : Target := .searched "a_x"
    halfRelocatedLoader.required = EntryPoint.symbols ∧
      (∃ calls, halfRelocatedLoader.Puts 1 target h calls (.ok halfRelocated.image)) ∧
      halfRelocated.LacksFirst EntryPoint.all .execute ∧
      (∃ earlier, (halfRelocatedLoader.bind 1 target "a_x" "a_" h).1 =
        .error (.node (.missingEntryPoint "a_x" "a_td_execute") earlier)) ∧
      Engine.ofLibrary Script.entryPoints halfRelocated = .error (.missingSymbol "a_x" "a_td_execute") := by
  intro h target
  have hputs : ∃ calls, halfRelocatedLoader.Puts 1 target h calls (.ok halfRelocated.image) :=
    ⟨_, .both rfl rfl rfl⟩
  obtain ⟨calls, hp⟩ := hputs
  obtain ⟨-, ⟨hall, -⟩ | ⟨point, hlacks, hbound, hmade⟩⟩ :=
    bind_agrees_with_ofLibrary Script.entryPoints rfl hp "a_x"
  · exact absurd (hall .execute) (by decide)
  · have hpoint : halfRelocated.hasSymbol point.symbol = false := by
      obtain ⟨_, _, -, -, hpoint⟩ := hlacks
      exact hpoint
    cases point with
    | execute => exact ⟨rfl, ⟨calls, hp⟩, hlacks, hbound, hmade⟩
    | _ => exact absurd hpoint (by decide)

end Loader
end NativeLoader
