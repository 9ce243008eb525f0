import NativeLoader.Proofs.Loading.Outcome

/-!
# The requests of one binding

Which requests the linker is put while one target is bound, and with what they are answered, is described by
`Loader.Puts`: one request for the whole process in the process's own context, and elsewhere one for the context's
namespace, followed by one for the whole process exactly if the namespace cannot be used. A binding puts these requests
and no others, and fails exactly if the last answer is refused (`bind_puts`). A failure to bind is never fatal
(`isFatal_of_bind`).
-/

namespace NativeLoader

namespace Failure

@[simp] theorem cause_attach (more : List Failure) (f : Failure) : (f.attach more).cause = f.cause := by
  obtain ⟨cause, earlier⟩ := f
  simp only [attach]
  split <;> rfl

@[simp] theorem isFatal_attach (more : List Failure) (f : Failure) : (f.attach more).isFatal = f.isFatal := by
  rw [isFatal, cause_attach, isFatal]

end Failure

namespace Loader

/-- The requests that are put to bind a target, each with the file it names at that moment, and the last answer. -/
inductive Puts (l : Loader) (context : ContextId) (target : Target) (h : Host) : List Call → Except Refusal Image → Prop
  /-- The process's own context has no namespace: the library is bound for the whole process. -/
  | whole {answer : Except Refusal Image} {after : Host} : (h.contexts context).isGlobal = true →
      h.ask l.linker ⟨.global, target⟩ = (answer, after) →
      Puts l context target h [Request.toCall h.files ⟨.global, target⟩] answer
  /-- The namespace can be used, whether the library is bound or rejected there. -/
  | inside {answer : Except Refusal Image} {after : Host} : (h.contexts context).isGlobal = false →
      h.ask l.linker ⟨.isolated context, target⟩ = (answer, after) → (∀ reason, answer ≠ .error (.unavailable reason)) →
      Puts l context target h [Request.toCall h.files ⟨.isolated context, target⟩] answer
  /-- The namespace cannot be used: the library is bound for the whole process. -/
  | both {reason : String} {answer : Except Refusal Image} {between after : Host} :
      (h.contexts context).isGlobal = false →
      h.ask l.linker ⟨.isolated context, target⟩ = (.error (.unavailable reason), between) →
      between.ask l.linker ⟨.global, target⟩ = (answer, after) →
      Puts l context target h [Request.toCall h.files ⟨.isolated context, target⟩,
        Request.toCall between.files ⟨.global, target⟩] answer

/-- An answer is not what the loader asks for: no image, or one that lacks a required symbol. -/
def Refuses (l : Loader) (mangledPrefix : String) (answer : Except Refusal Image) : Prop :=
  (∃ refusal, answer = .error refusal) ∨
    ∃ image symbol, answer = .ok image ∧ missingSymbol? l.required mangledPrefix image = some symbol

variable {l : Loader} {context : ContextId} {target : Target} {subject mangledPrefix : String} {h : Host}

/-- To bind a target takes a request. -/
theorem Puts.ne_nil {calls : List Call} {answer : Except Refusal Image} (hputs : l.Puts context target h calls answer) :
    calls ≠ [] := by
  cases hputs <;> simp

/-- All requests that are put to bind a target are for that target. -/
theorem Puts.target_eq {calls : List Call} {answer : Except Refusal Image}
    (hputs : l.Puts context target h calls answer) : ∀ call ∈ calls, call.request.target = target := by
  cases hputs <;> simp

theorem calls_ask {linker : Linker} {request : Request} {answer : Except Refusal Image} {after : Host}
    (ha : h.ask linker request = (answer, after)) : after.calls = h.calls ++ [request.toCall h.files] := by
  cases ha
  rfl

/-! ## What is put -/

/-- Binding globally is one request; what comes of it is what is answered. -/
theorem bindGlobally_ask (subject reason : String) {answer : Except Refusal Image} {after : Host}
    (ha : h.ask l.linker ⟨.global, target⟩ = (answer, after)) :
    (l.bindGlobally target subject reason h).2 = after ∧
      (∀ image, answer = .ok image →
        ∃ diagnostics, (l.bindGlobally target subject reason h).1 = .ok (image, .global, diagnostics)) ∧
      ∀ refusal, answer = .error refusal →
        ∃ failure, (l.bindGlobally target subject reason h).1 = .error failure ∧ failure.isFatal = false := by
  unfold bindGlobally
  rw [ha]
  cases answer with
  | ok image =>
    refine ⟨rfl, ?_, by simp⟩
    intro other ho
    cases ho
    exact ⟨_, rfl⟩
  | error refusal =>
    refine ⟨rfl, by simp, ?_⟩
    intro other ho
    cases ho
    exact ⟨_, rfl, rfl⟩

/-- Binding an image puts requests for it; what comes of it is what is answered last. -/
theorem bindImage_puts (l : Loader) (context : ContextId) (target : Target) (subject : String) (h : Host) :
    ∃ calls answer, l.Puts context target h calls answer ∧
      (l.bindImage context target subject h).2.calls = h.calls ++ calls ∧
      (∀ image, answer = .ok image →
        ∃ binding diagnostics, (l.bindImage context target subject h).1 = .ok (image, binding, diagnostics)) ∧
      ∀ refusal, answer = .error refusal →
        ∃ failure, (l.bindImage context target subject h).1 = .error failure ∧ failure.isFatal = false := by
  unfold bindImage
  by_cases hg : (h.contexts context).isGlobal = true
  · rw [if_pos hg]
    obtain ⟨hafter, hok, herror⟩ := bindGlobally_ask (l := l) (h := h) subject
      "the global context has no context-local helper" rfl
    refine ⟨_, _, .whole hg rfl, by rw [hafter, calls_ask rfl], ?_, herror⟩
    intro image ha
    obtain ⟨diagnostics, hd⟩ := hok image ha
    exact ⟨_, diagnostics, hd⟩
  · rw [if_neg hg]
    rw [Bool.not_eq_true] at hg
    cases ha : h.ask l.linker ⟨.isolated context, target⟩ with
    | mk answer between =>
      cases answer with
      | ok image =>
        refine ⟨_, _, .inside hg ha (by simp), calls_ask ha, ?_, by simp⟩
        intro other ho
        cases ho
        exact ⟨_, _, rfl⟩
      | error refusal =>
        cases refusal with
        | rejected message =>
          refine ⟨_, _, .inside hg ha (by simp), calls_ask ha, by simp, ?_⟩
          intro other ho
          exact ⟨_, rfl, rfl⟩
        | unavailable reason =>
          cases hga : between.ask l.linker ⟨.global, target⟩ with
          | mk answer after =>
            obtain ⟨hafter, hok, herror⟩ := bindGlobally_ask subject reason hga
            refine ⟨_, answer, .both hg ha hga, ?_, ?_, herror⟩
            · calc (l.bindGlobally target subject reason between).2.calls = after.calls := by rw [hafter]
                _ = between.calls ++ [Request.toCall between.files ⟨.global, target⟩] := calls_ask hga
                _ = _ := by rw [calls_ask ha, List.append_assoc]; rfl
            · intro image ho
              obtain ⟨diagnostics, hd⟩ := hok image ho
              exact ⟨_, diagnostics, hd⟩

/-- **A binding puts the requests for its target**, and fails exactly if the last answer is refused. -/
theorem bind_puts (l : Loader) (context : ContextId) (target : Target) (subject mangledPrefix : String) (h : Host) :
    ∃ calls answer, l.Puts context target h calls answer ∧
      (l.bind context target subject mangledPrefix h).2.calls = h.calls ++ calls ∧
      ((∃ failure, (l.bind context target subject mangledPrefix h).1 = .error failure) ↔
        l.Refuses mangledPrefix answer) := by
  obtain ⟨calls, answer, hputs, hcalls, hok, herror⟩ := bindImage_puts l context target subject h
  refine ⟨calls, answer, hputs, ?_⟩
  unfold bind
  cases answer with
  | error refusal =>
    obtain ⟨failure, hf, _⟩ := herror refusal rfl
    cases hb : l.bindImage context target subject h with
    | mk bound after =>
      rw [hb] at hf hcalls
      cases hf
      exact ⟨hcalls, fun _ => Or.inl ⟨refusal, rfl⟩, fun _ => ⟨failure, rfl⟩⟩
  | ok image =>
    obtain ⟨binding, diagnostics, hi⟩ := hok image rfl
    cases hb : l.bindImage context target subject h with
    | mk bound after =>
      rw [hb] at hi hcalls
      cases hi
      simp only
      cases hm : missingSymbol? l.required mangledPrefix image with
      | some symbol => exact ⟨hcalls, fun _ => Or.inr ⟨image, symbol, rfl, hm⟩, fun _ => ⟨_, rfl⟩⟩
      | none =>
        refine ⟨hcalls, ?_, ?_⟩
        · rintro ⟨failure, hf⟩
          cases hf
        · rintro (⟨refusal, hr⟩ | ⟨other, symbol, ho, hs⟩)
          · cases hr
          · cases ho
            rw [hm] at hs
            cases hs

/-- A failure to bind is not fatal. -/
theorem isFatal_of_bind {failure : Failure} {after : Host}
    (hb : l.bind context target subject mangledPrefix h = (.error failure, after)) : failure.isFatal = false := by
  obtain ⟨_, answer, _, _, hok, herror⟩ := bindImage_puts l context target subject h
  unfold bind at hb
  split at hb
  · next bindFailure between hi =>
    cases hb
    cases answer with
    | ok image =>
      obtain ⟨_, _, hi'⟩ := hok image rfl
      rw [hi] at hi'
      cases hi'
    | error refusal =>
      obtain ⟨_, hi', hfatal⟩ := herror refusal rfl
      rw [hi] at hi'
      cases hi'
      exact hfatal
  · split at hb
    · cases hb
      rfl
    · cases hb

/-- Finding out why a copy was refused does not make the failure fatal. -/
theorem isFatal_diagnose (path : String) (failure : Failure) (h : Host) :
    (h.diagnose path failure).1.1.isFatal = failure.isFatal := by
  unfold Host.diagnose
  split
  · split
    · split <;> rfl
    · rfl
  · rfl

end Loader
end NativeLoader
