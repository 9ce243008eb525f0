import NativeLoader.Proofs.Loading.RequestOrder

/-!
# How a new library was bound

A load that registers a new library had it bound from the search path or as an extracted copy (`Loader.Brings`,
`brings_of_load`). Only a library that the linker opened in the namespace of the load's context counts as isolated, and
the process's own context has none (`bind_eq_ok`). So the last request of a load that brings an isolated library is the
one that the linker answered with its image (`Brings.boundInside`), and a load that brings a library from the search
path extracts nothing (`Brings.files_of_searchPath`).
-/

namespace NativeLoader.Loader

variable {l : Loader} {context : ContextId} {name mangledPrefix subject : String} {target : Target} {image : Image}
  {binding : Binding} {h after : Host} {lib : Library}

/-! ## What a binding that succeeds was bound by -/

theorem bindGlobally_eq_ok {reason : String} {diagnostics : List Failure}
    (hb : l.bindGlobally target subject reason h = (.ok (image, binding, diagnostics), after)) : binding = .global := by
  unfold bindGlobally at hb
  split at hb
  · cases hb
    rfl
  · cases hb

theorem bindImage_eq_ok {diagnostics : List Failure}
    (hb : l.bindImage context target subject h = (.ok (image, binding, diagnostics), after)) :
    binding = .global ∨ binding = .isolated ∧ (h.contexts context).isGlobal = false ∧
      h.ask l.linker ⟨.isolated context, target⟩ = (.ok image, after) := by
  unfold bindImage at hb
  split at hb
  · exact Or.inl (bindGlobally_eq_ok hb)
  · next hg =>
    rw [Bool.not_eq_true] at hg
    split at hb
    · next ha =>
      cases hb
      exact Or.inr ⟨rfl, hg, ha⟩
    · cases hb
    · exact Or.inl (bindGlobally_eq_ok hb)

/-- What is bound is bound for the whole process, unless the context has a namespace and the linker opened the target
there. -/
theorem bind_eq_ok (hb : l.bind context target subject mangledPrefix h = (.ok (image, binding), after)) :
    binding = .global ∨ binding = .isolated ∧ (h.contexts context).isGlobal = false ∧
      h.ask l.linker ⟨.isolated context, target⟩ = (.ok image, after) := by
  unfold bind at hb
  split at hb
  · cases hb
  · next hi =>
    split at hb
    · cases hb
    · cases hb
      exact bindImage_eq_ok hi

/-! ## What a load that brings a new library did -/

/-- A load brings a new library: it is bound from the search path, or as the copy that was extracted. -/
inductive Brings (l : Loader) (context : ContextId) (name : String) (h : Host) (lib : Library) (after : Host) : Prop
  | searched {bound : Host} : lib.origin = .searchPath → l.asked context name h = bound →
      l.bind context (.searched lib.name) lib.name lib.mangledPrefix h = (.ok (lib.image, lib.binding), bound) →
      (∀ path extracted, ¬l.Extracts context name h path extracted) →
      after.files = bound.files → after.calls = bound.calls → Brings l context name h lib after
  | copied {path locator : String} {extracted bound : Host} : lib.origin = .resource locator →
      l.Extracts context name h path extracted →
      l.bind context (.extracted path) path lib.mangledPrefix extracted = (.ok (lib.image, lib.binding), bound) →
      after.calls = bound.calls → Brings l context name h lib after

/-- **A load that registers a new library** had it bound from the search path, or as a copy. -/
theorem brings_of_load (hl : l.load context name h = (.ok lib, after)) (hr : Registers context lib h after) :
    l.Brings context name h lib after := by
  have hcourse := course_load l context name h
  rw [hl] at hcourse
  cases hcourse with
  | known _ _ => exact absurd hr.handles.symm (Nat.succ_ne_self _)
  | @searched mangledPrefix image binding bound _ _ hp hfree hb hregister =>
    have hk := Host.KeepsBindings.bind l context (.searched (mangledPrefix ++ name)) (mangledPrefix ++ name)
      mangledPrefix h
    rw [hb] at hk
    obtain ⟨rfl, hfiles, hcalls⟩ := eq_of_register hfree hk hregister
    refine .searched rfl (asked_of_bind hp hfree hb) hb ?_ hfiles hcalls
    rintro path extracted hextracts
    obtain ⟨_, _, hseek⟩ := hextracts.seeks hp
    have hfailed := hseek.failed
    rw [hb] at hfailed
    cases hfailed
  | @copied mangledPrefix directory path _ _ settled extracted bound _ c image binding _ hpack hx hb hregister =>
    have hk := hpack.keepsBindings_discard hx hb l.settings.deleteCopies
    obtain ⟨files, pending, hgone⟩ := Host.discard_frame l.settings.deleteCopies path bound
    obtain ⟨rfl, -, hcalls⟩ := eq_of_register hpack.seeks.free hk hregister
    exact .copied rfl ⟨_, _, _, _, _, _, hpack, hx⟩ hb (by rw [hcalls, hgone])

/-- The last request of a load was for the context's own namespace, and the linker answered it with the library's
image. -/
def BoundInside (l : Loader) (context : ContextId) (lib : Library) (h after : Host) : Prop :=
  ∃ earlier target files, after.calls = h.calls ++ earlier ++ [Request.toCall files ⟨.isolated context, target⟩] ∧
    (l.linker.answer (h.calls ++ earlier) ⟨.isolated context, target⟩ files).1 = .ok lib.image

/-- An image that the linker gave when it was asked is its answer to that request. -/
theorem answer_of_ask {linker : Linker} {request : Request} (ha : h.ask linker request = (.ok image, after)) :
    after.calls = h.calls ++ [request.toCall h.files] ∧ (linker.answer h.calls request h.files).1 = .ok image :=
  ⟨calls_ask ha, congrArg Prod.fst ha⟩

/-- A load that brings an isolated library had it bound in the namespace of its context. -/
theorem Brings.boundInside (hbrings : l.Brings context name h lib after) (hi : lib.binding = .isolated) :
    l.BoundInside context lib h after := by
  cases hbrings with
  | @searched bound _ _ hb _ _ hcalls =>
    rcases bind_eq_ok hb with hg | ⟨-, -, ha⟩
    · rw [hi] at hg
      cases hg
    · obtain ⟨hasked, hanswer⟩ := answer_of_ask ha
      exact ⟨[], .searched lib.name, h.files, by rw [hcalls, hasked, List.append_nil],
        by rw [List.append_nil]; exact hanswer⟩
  | @copied path _ extracted bound _ hextracts hb hcalls =>
    rcases bind_eq_ok hb with hg | ⟨-, -, ha⟩
    · rw [hi] at hg
      cases hg
    · obtain ⟨hasked, hanswer⟩ := answer_of_ask ha
      obtain ⟨named, hnamed, -⟩ := asked_puts l context name h
      have hearlier : extracted.calls = h.calls ++ named := hextracts.frame.2.trans hnamed
      rw [hearlier] at hasked hanswer
      exact ⟨named, .extracted path, extracted.files, by rw [hcalls, hasked], hanswer⟩

/-- What a load brings into a context without a namespace is bound for the whole process. -/
theorem Brings.binding_of_isGlobal (hbrings : l.Brings context name h lib after)
    (hg : (h.contexts context).isGlobal = true) : lib.binding = .global := by
  cases hbrings with
  | searched _ _ hb _ _ _ =>
    rcases bind_eq_ok hb with hglobal | ⟨-, hn, -⟩
    · exact hglobal
    · rw [hg] at hn
      cases hn
  | copied _ hextracts hb _ =>
    rcases bind_eq_ok hb with hglobal | ⟨-, hn, -⟩
    · exact hglobal
    · rw [hextracts.frame.1, hg] at hn
      cases hn

/-- A load that brings a library from the search path extracts nothing, and changes no file but by asking for it. -/
theorem Brings.files_of_searchPath (hbrings : l.Brings context name h lib after) (ho : lib.origin = .searchPath) :
    after.files = (l.asked context name h).files ∧ ∀ path extracted, ¬l.Extracts context name h path extracted := by
  cases hbrings with
  | searched _ hasked _ hnone hfiles _ =>
    rw [hasked]
    exact ⟨hfiles, hnone⟩
  | copied horigin _ _ _ =>
    rw [ho] at horigin
    cases horigin

end NativeLoader.Loader
