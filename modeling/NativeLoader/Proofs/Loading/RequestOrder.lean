import NativeLoader.Proofs.Loading.Course

/-!
# The order of a load's requests

All requests that one load puts to the linker come in two parts (`calls_of_load`): first those for the bare name, unless
there is nothing to bind, and then those for the one file that was extracted, if the name could not be bound and a copy
was extracted. Each part is what a single binding puts (`Loader.Puts`).
-/

namespace NativeLoader.Loader

variable {l : Loader} {context : ContextId} {name : String} {h : Host}

/-- What a load puts when it asks for the search path: nothing if it has nothing to bind, and else the requests for
the name with the prefix. -/
theorem asked_puts (l : Loader) (context : ContextId) (name : String) (h : Host) :
    ∃ named, (l.asked context name h).calls = h.calls ++ named ∧
      (named = [] ↔ (∃ failure, l.mangledPrefix = .error failure) ∨ ∃ mangledPrefix lib,
        l.mangledPrefix = .ok mangledPrefix ∧ (h.contexts context).library? (mangledPrefix ++ name) = some lib) ∧
      (named ≠ [] → ∃ mangledPrefix answer, l.mangledPrefix = .ok mangledPrefix ∧
        l.Puts context (.searched (mangledPrefix ++ name)) h named answer ∧
        ((∃ failure, (l.bind context (.searched (mangledPrefix ++ name)) (mangledPrefix ++ name) mangledPrefix h).1 =
          .error failure) ↔ l.Refuses mangledPrefix answer)) := by
  unfold asked
  cases hp : l.mangledPrefix with
  | error failure => exact ⟨[], by simp, by simp, by simp⟩
  | ok mangledPrefix =>
    cases hb : (h.contexts context).library? (mangledPrefix ++ name) with
    | some lib =>
      refine ⟨[], by simp [hb], ?_, by simp⟩
      simp only [true_iff]
      exact Or.inr ⟨mangledPrefix, lib, rfl, hb⟩
    | none =>
      obtain ⟨calls, answer, hputs, hcalls, hrefuses⟩ :=
        bind_puts l context (.searched (mangledPrefix ++ name)) (mangledPrefix ++ name) mangledPrefix h
      refine ⟨calls, by simp only [hb, hcalls], ?_, fun _ => ⟨mangledPrefix, answer, rfl, hputs, hrefuses⟩⟩
      simp only [hputs.ne_nil, false_iff]
      rintro (⟨failure, hf⟩ | ⟨other, lib, ho, hl⟩)
      · cases hf
      · cases ho
        rw [hb] at hl
        cases hl

/-- When a copy was extracted, the contexts are those before the load, and so are the requests since the search path
was asked for. -/
theorem Extracts.frame {path : String} {extracted : Host} (hextracts : l.Extracts context name h path extracted) :
    extracted.contexts = h.contexts ∧ extracted.calls = (l.asked context name h).calls := by
  obtain ⟨mangledPrefix, _, found, c, directory, settled, hpack, hx⟩ := hextracts
  have hextracted := Host.KeepsBindings.extract l name mangledPrefix c directory settled
  rw [hx] at hextracted
  constructor
  · exact (hpack.keepsBindings.trans hextracted).contexts
  · calc extracted.calls = settled.calls := (frame_of_extract hx).1
      _ = found.calls := hpack.settled.2
      _ = (l.asked context name h).calls := by rw [hpack.seeks.asked]

/-- The requests that follow when a copy was extracted are those for the copy. -/
theorem EndsCopied.calls {path : String} {extracted after : Host} {outcome : Except Failure Library}
    (he : l.EndsCopied context path extracted outcome after) :
    ∃ filed answer, l.Puts context (.extracted path) extracted filed answer ∧ after.calls = extracted.calls ++ filed := by
  obtain ⟨mangledPrefix, bound, files, contexts, handles, -, hb, -, rfl, -⟩ := he
  obtain ⟨filed, answer, hputs, hcalls, -⟩ := bind_puts l context (.extracted path) path mangledPrefix extracted
  obtain ⟨_, _, hgone⟩ := Host.discard_frame l.settings.deleteCopies path { bound with files }
  rw [hb] at hcalls
  exact ⟨filed, answer, hputs, by rw [hgone]; exact hcalls⟩

/-- **The order of requests.** The requests of a load are some for the bare name with its prefix, and then some for an
extracted file. There are none for the name exactly if the loader's identity is refused or the name is bound already.
There are some for a file exactly if the name could not be bound, which is if the last answer to its requests was
refused, and a packaged copy was located and extracted to the directory for copies; all of them are for that one copy.
A load that fails fatally has put none for a file. -/
theorem calls_of_load (l : Loader) (context : ContextId) (name : String) (h : Host) :
    ∃ named filed, (l.load context name h).2.calls = h.calls ++ (named ++ filed) ∧
      (named = [] ↔ (∃ failure, l.mangledPrefix = .error failure) ∨ ∃ mangledPrefix lib,
        l.mangledPrefix = .ok mangledPrefix ∧ (h.contexts context).library? (mangledPrefix ++ name) = some lib) ∧
      (named ≠ [] → ∃ mangledPrefix answer, l.mangledPrefix = .ok mangledPrefix ∧
        l.Puts context (.searched (mangledPrefix ++ name)) h named answer ∧
        ((∃ failure, (l.bind context (.searched (mangledPrefix ++ name)) (mangledPrefix ++ name) mangledPrefix h).1 =
          .error failure) ↔ l.Refuses mangledPrefix answer) ∧
        (filed ≠ [] → l.Refuses mangledPrefix answer)) ∧
      (filed ≠ [] ↔ ∃ path extracted, l.Extracts context name h path extracted) ∧
      (∀ path extracted, l.Extracts context name h path extracted → extracted.contexts = h.contexts ∧
        ∃ answer, l.Puts context (.extracted path) extracted filed answer) ∧
      ∀ failure, (l.load context name h).1 = .error failure → failure.isFatal = true → filed = [] := by
  obtain ⟨named, hnamed, hnone, hsome⟩ := asked_puts l context name h
  rcases endsBare_or_endsCopied l context name h with hbare | ⟨path, extracted, hextracts, hcopied⟩
  · refine ⟨named, [], ?_, hnone, ?_, ?_, ?_, fun _ _ _ => rfl⟩
    · rw [hbare.calls, hnamed, List.append_nil]
    · intro hne
      obtain ⟨mangledPrefix, answer, hp, hputs, hrefuses⟩ := hsome hne
      exact ⟨mangledPrefix, answer, hp, hputs, hrefuses, fun hf => absurd rfl hf⟩
    · simp only [ne_eq, not_true_eq_false, false_iff]
      rintro ⟨path, extracted, hextracts⟩
      exact hbare.bare path extracted hextracts
    · intro path extracted hextracts
      exact absurd hextracts (hbare.bare path extracted)
  · obtain ⟨filed, answer, hfiled, hcalls⟩ := hcopied.calls
    obtain ⟨hcontexts, hasked⟩ := hextracts.frame
    refine ⟨named, filed, ?_, hnone, ?_, ?_, ?_, ?_⟩
    · rw [hcalls, hasked, hnamed, List.append_assoc]
    · intro hne
      obtain ⟨mangledPrefix, answer, hp, hputs, hrefuses⟩ := hsome hne
      -- a copy is looked for only where the name could not be bound
      obtain ⟨failure, searched, hseek⟩ := hextracts.seeks hp
      have hfailed := hrefuses.mp ⟨failure, by rw [hseek.failed]⟩
      exact ⟨mangledPrefix, answer, hp, hputs, hrefuses, fun _ => hfailed⟩
    · simp only [ne_eq, hfiled.ne_nil, not_false_eq_true, true_iff]
      exact ⟨path, extracted, hextracts⟩
    · intro other reached hother
      obtain ⟨rfl, rfl⟩ := hextracts.unique hother
      exact ⟨hcontexts, answer, hfiled⟩
    · intro failure hf hfatal
      obtain ⟨_, _, _, _, _, _, _, _, _, hnot⟩ := hcopied
      rw [hnot failure hf] at hfatal
      cases hfatal

end NativeLoader.Loader
