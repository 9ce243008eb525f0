import NativeLoader.Failure
import NativeLoader.Proofs.Text.Pieces

/-!
# What an outline tells

The outline of a failure has a line for each failure in the tree, indented by its depth (`Failure.split_outline`): the
depths and messages of the tree, from its root on and each before those below it (`MessageTree.rowsOf`). Rows deeper
than the first are below it, up to the next one that is not, so the rows give the tree again (`eq_of_rowsOf`); and where
no message is broken into lines, the lines give the rows. Such an outline therefore tells the messages and the shape of
its tree, and nothing else (`Failure.outline_faithful`).
-/

namespace NativeLoader

/-- The messages of a tree of failures. -/
inductive MessageTree where
  | node (message : String) (below : List MessageTree)

namespace MessageTree

mutual

/-- The messages in a tree and their depths, that of the root being given, each before those below it. -/
def rows (depth : Nat) : MessageTree → List (Nat × String)
  | node message below => (depth, message) :: rowsOf (depth + 1) below

/-- The messages in some trees and their depths. -/
def rowsOf (depth : Nat) : List MessageTree → List (Nat × String)
  | [] => []
  | t :: ts => t.rows depth ++ rowsOf depth ts

end

/-- If there is a next row, it is not as deep. -/
def EndsAbove (depth : Nat) (rest : List (Nat × String)) : Prop := ∀ row ∈ rest.head?, row.1 < depth

/-- The rows of trees side by side are not below a tree beside them. -/
theorem EndsAbove.rowsOf_append {depth : Nat} {rest : List (Nat × String)} (h : EndsAbove depth rest) :
    ∀ ts : List MessageTree, EndsAbove (depth + 1) (rowsOf depth ts ++ rest)
  | [], row, hrow => Nat.lt_succ_of_lt (h row hrow)
  | node message below :: ts, row, hrow => by
    simp only [rowsOf, rows, List.cons_append, List.head?_cons, Option.mem_def, Option.some.injEq] at hrow
    subst hrow
    exact Nat.lt_succ_self depth

mutual

/-- A tree is told by its rows, where what follows them is not below it. -/
theorem eq_of_rows : ∀ {t t' : MessageTree} {depth : Nat} {rest rest' : List (Nat × String)},
    t.rows depth ++ rest = t'.rows depth ++ rest' → EndsAbove (depth + 1) rest → EndsAbove (depth + 1) rest' →
    t = t' ∧ rest = rest'
  | node message below, node message' below', depth, rest, rest', h, hr, hr' => by
    simp only [rows, List.cons_append, List.cons.injEq, Prod.mk.injEq, true_and] at h
    obtain ⟨rfl, h⟩ := h
    obtain ⟨rfl, hrest⟩ := eq_of_rowsOf h hr hr'
    exact ⟨rfl, hrest⟩

/-- Trees side by side are told by their rows, where what follows them is neither below them nor beside them. -/
theorem eq_of_rowsOf : ∀ {ts ts' : List MessageTree} {depth : Nat} {rest rest' : List (Nat × String)},
    rowsOf depth ts ++ rest = rowsOf depth ts' ++ rest' → EndsAbove depth rest → EndsAbove depth rest' →
    ts = ts' ∧ rest = rest'
  | [], [], _, _, _, h, _, _ => ⟨rfl, h⟩
  | [], node message below :: ts', depth, rest, rest', h, hr, _ => by
    simp only [rowsOf, rows, List.nil_append, List.cons_append] at h
    subst h
    exact absurd (hr _ rfl) (Nat.lt_irrefl depth)
  | node message below :: ts, [], depth, rest, rest', h, _, hr' => by
    simp only [rowsOf, rows, List.nil_append, List.cons_append] at h
    subst h
    exact absurd (hr' _ rfl) (Nat.lt_irrefl depth)
  | t :: ts, t' :: ts', depth, rest, rest', h, hr, hr' => by
    simp only [rowsOf, List.append_assoc] at h
    obtain ⟨rfl, htail⟩ := eq_of_rows h (hr.rowsOf_append ts) (hr'.rowsOf_append ts')
    obtain ⟨rfl, hrest⟩ := eq_of_rowsOf htail hr hr'
    exact ⟨rfl, hrest⟩

end

/-- The line for a message at some depth. -/
def line (row : Nat × String) : String :=
  String.ofList (List.replicate (2 * row.1) ' ') ++ "suppressed: " ++ row.2

/-- The spaces before a character that is none can be counted. -/
theorem eq_of_replicate_append : ∀ {n n' : Nat} {c : Char} {cs cs' : List Char}, c ≠ ' ' →
    List.replicate n ' ' ++ c :: cs = List.replicate n' ' ' ++ c :: cs' → n = n' ∧ cs = cs'
  | 0, 0, _, _, _, _, h => ⟨rfl, (List.cons.inj h).2⟩
  | 0, n' + 1, _, _, _, hc, h => absurd (List.cons.inj h).1 hc
  | n + 1, 0, _, _, _, hc, h => absurd (List.cons.inj h).1.symm hc
  | n + 1, n' + 1, _, _, _, hc, h => by
    obtain ⟨hn, hcs⟩ := eq_of_replicate_append hc (List.cons.inj h).2
    exact ⟨congrArg (· + 1) hn, hcs⟩

theorem line_injective {row row' : Nat × String} (h : line row = line row') : row = row' := by
  obtain ⟨depth, message⟩ := row
  obtain ⟨depth', message'⟩ := row'
  have hchars : List.replicate (2 * depth) ' ' ++ 's' :: ("uppressed: ".toList ++ message.toList) =
      List.replicate (2 * depth') ' ' ++ 's' :: ("uppressed: ".toList ++ message'.toList) := by
    simpa [line] using congrArg String.toList h
  obtain ⟨hdepth, htext⟩ := eq_of_replicate_append (by decide) hchars
  have hmessage := String.toList_inj.mp (List.append_cancel_left htext)
  have hd : depth = depth' := by omega
  rw [hd, hmessage]

/-- A line is broken only where its message is. -/
theorem mem_line {row : Nat × String} (h : '\n' ∈ (line row).toList) : '\n' ∈ row.2.toList := by
  simpa [line, List.mem_replicate] using h

end MessageTree

namespace Failure

open MessageTree (rows rowsOf line)

mutual

/-- The messages of a failure and of all that is attached to it. -/
def messages : Failure → MessageTree
  | node cause earlier => .node (node cause earlier).message (messagesOf earlier)

/-- The messages of some failures and of all that is attached to them. -/
def messagesOf : List Failure → List MessageTree
  | [] => []
  | f :: fs => f.messages :: messagesOf fs

end

/-- No message in a tree is broken into lines. -/
def OnSingleLines (f : Failure) : Prop := ∀ part ∈ f.parts, '\n' ∉ part.message.toList

instance (f : Failure) : Decidable f.OnSingleLines :=
  inferInstanceAs (Decidable (∀ part ∈ f.parts, '\n' ∉ part.message.toList))

theorem messages_eq (f : Failure) : f.messages = .node f.message (messagesOf f.earlier) := by
  cases f
  rfl

/-- The lines for some failures are those of their rows, a line break before each. -/
theorem toList_branchesOf : ∀ (fs : List Failure) (depth : Nat),
    (branchesOf depth fs).toList = (rowsOf depth (messagesOf fs)).flatMap fun row => '\n' :: (line row).toList
  | [], _ => rfl
  | node cause earlier :: fs, depth => by
    have hbelow := toList_branchesOf earlier (depth + 1)
    have hrest := toList_branchesOf fs depth
    simp [branchesOf, branches, indent, messagesOf, messages, rowsOf, rows, line, hbelow, hrest]

/-- The rows hold the messages of all that is attached, once each and in order. -/
theorem map_snd_rowsOf : ∀ (fs : List Failure) (depth : Nat),
    (rowsOf depth (messagesOf fs)).map (·.2) = (partsOf fs).map message
  | [], _ => rfl
  | node cause earlier :: fs, depth => by
    have hbelow := map_snd_rowsOf earlier (depth + 1)
    have hrest := map_snd_rowsOf fs depth
    simp [messagesOf, messages, rowsOf, rows, partsOf, parts, hbelow, hrest]

theorem toList_outline (f : Failure) : f.outline.toList =
    f.message.toList ++ (rowsOf 1 (messagesOf f.earlier)).flatMap fun row => '\n' :: (line row).toList := by
  obtain ⟨cause, earlier⟩ := f
  simp [outline, branches, Failure.earlier, toList_branchesOf]

/-- The outline has the message of the failure in its first line, and then one line for each row. -/
theorem split_outline {f : Failure} (hf : f.OnSingleLines) :
    Text.split '\n' f.outline = f.message :: (rowsOf 1 (messagesOf f.earlier)).map line := by
  have hroot : '\n' ∉ f.message.toList := hf f (by cases f; simp [parts])
  have hrows : ∀ row ∈ rowsOf 1 (messagesOf f.earlier), '\n' ∉ row.2.toList := by
    intro row hrow
    have hmem : row.2 ∈ (partsOf f.earlier).map message := by
      rw [← map_snd_rowsOf]
      exact List.mem_map_of_mem hrow
    obtain ⟨part, hpart, hmessage⟩ := List.mem_map.mp hmem
    rw [← hmessage]
    exact hf part (by cases f; exact List.mem_cons_of_mem _ hpart)
  have hlines : ∀ p ∈ (rowsOf 1 (messagesOf f.earlier)).map (fun row => (line row).toList), '\n' ∉ p := by
    intro p hp hin
    obtain ⟨row, hrow, rfl⟩ := List.mem_map.mp hp
    exact hrows row hrow (MessageTree.mem_line hin)
  rw [Text.split, toList_outline, ← List.flatMap_map (fun row => (line row).toList) (fun p => '\n' :: p),
    Text.pieces_append_flatMap hroot hlines]
  simp

/-- **Faithful outlines.** Of failures whose messages are not broken into lines, two have the same outline exactly if
they have the same messages in trees of the same shape. The lines of the outline, below that of the failure itself, are
one for each failure attached to it at any depth, indented by that depth, each before those attached to it. -/
theorem outline_faithful {f f' : Failure} (hf : f.OnSingleLines) (hf' : f'.OnSingleLines) :
    (f.outline = f'.outline ↔ f.messages = f'.messages) ∧
      Text.split '\n' f.outline = f.message :: (rowsOf 1 (messagesOf f.earlier)).map line ∧
      (rowsOf 1 (messagesOf f.earlier)).map (·.2) = (partsOf f.earlier).map message := by
  refine ⟨⟨?_, ?_⟩, split_outline hf, map_snd_rowsOf f.earlier 1⟩
  · intro h
    have hlines := split_outline hf
    rw [h, split_outline hf'] at hlines
    obtain ⟨hroot, hbelow⟩ := List.cons.inj hlines
    have hrows : rowsOf 1 (messagesOf f'.earlier) ++ [] = rowsOf 1 (messagesOf f.earlier) ++ [] := by
      rw [List.map_inj_right fun _ _ => MessageTree.line_injective] at hbelow
      rw [hbelow]
    have hnone : MessageTree.EndsAbove 1 [] := by simp [MessageTree.EndsAbove]
    obtain ⟨hearlier, -⟩ := MessageTree.eq_of_rowsOf hrows hnone hnone
    rw [messages_eq, messages_eq, hroot, hearlier]
  · intro h
    rw [messages_eq, messages_eq] at h
    obtain ⟨hroot, hearlier⟩ := MessageTree.node.inj h
    rw [← String.toList_inj, toList_outline, toList_outline, hroot, hearlier]

/-- The same three failures, attached to one another or side by side, are told apart by their outlines. -/
theorem outline_faithful_nested :
    let inner := of (.notFound "c")
    let chain := node (.exhausted ["a"]) [node (.notFound "b") [inner]]
    let fan := node (.exhausted ["a"]) [of (.notFound "b"), inner]
    chain.OnSingleLines ∧ fan.OnSingleLines ∧ chain.outline ≠ fan.outline := by
  intro inner chain fan
  have hchain : chain.OnSingleLines := by decide
  have hfan : fan.OnSingleLines := by decide
  refine ⟨hchain, hfan, ?_⟩
  intro h
  have hm := (outline_faithful hchain hfan).1.mp h
  simp [chain, fan, inner, messages, messagesOf, of] at hm

end Failure
end NativeLoader
