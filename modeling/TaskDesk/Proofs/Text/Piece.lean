import Mathlib.Data.List.Infix
import TaskDesk.Text.Scan

/-!
# Where a piece of text stands

A piece whose first character does not come again in it cannot overlap with itself. So where such a
piece is put behind a text that does not have it, it stands there for the first time. A text that
is divided at a character has parts without it, and only the last part is open.

## Main results

- `Text.prefix_of_prefix_append` — such a piece is not half in a text and half in the next one
- `Text.append_of_splitAt?` — the pieces that a text is split into make it up
- `Text.splitAt?_append` — it is found where it was put
- `Text.splitAt?_eq_none_iff` — it is not found exactly if it is not there
- `Text.splitOn_append` — what is put behind a text continues its last part
-/

namespace TaskDesk.Text

variable {α : Type} [DecidableEq α]

omit [DecidableEq α] in
/-- A text without `p` that goes on in front of a `p` ends before it. -/
theorem prefix_of_prefix_append_cons {p : α} {ps before rest : List α} (hp : p ∉ ps)
    (h : ps <+: before ++ p :: rest) : ps <+: before := by
  induction before generalizing ps with
  | nil =>
    cases ps with
    | nil => exact List.prefix_rfl
    | cons q ps =>
      obtain ⟨rfl, -⟩ := List.cons_prefix_cons.mp h
      exact absurd List.mem_cons_self hp
  | cons c before ih =>
    cases ps with
    | nil => exact List.nil_prefix
    | cons q ps =>
      obtain ⟨rfl, hrest⟩ := List.cons_prefix_cons.mp h
      have hps : p ∉ ps := fun hmem => hp (List.mem_cons_of_mem _ hmem)
      exact List.cons_prefix_cons.mpr ⟨rfl, ih hps hrest⟩

omit [DecidableEq α] in
/-- A piece that cannot overlap with itself is not half in a text and half in the piece that comes
behind it. -/
theorem prefix_of_prefix_append {p c : α} {ps before rest : List α} (hp : p ∉ ps)
    (h : p :: ps <+: c :: before ++ (p :: ps ++ rest)) : p :: ps <+: c :: before := by
  obtain ⟨rfl, hrest⟩ := List.cons_prefix_cons.mp h
  exact List.cons_prefix_cons.mpr ⟨rfl, prefix_of_prefix_append_cons hp hrest⟩

theorem isPrefixOf?_append (piece rest : List α) : piece.isPrefixOf? (piece ++ rest) = some rest :=
  List.isPrefixOf?_eq_some_iff_append_eq.mpr rfl

theorem isPrefixOf?_eq_none_iff {piece cs : List α} :
    piece.isPrefixOf? cs = none ↔ ¬ piece <+: cs := by
  rw [← Option.not_isSome_iff_eq_none, List.isSome_isPrefixOf?_eq_isPrefixOf,
    List.isPrefixOf_iff_prefix]

/-! ## Splitting at a piece -/

theorem append_of_splitAt? {piece cs before rest : List α}
    (h : splitAt? piece cs = some (before, rest)) : cs = before ++ piece ++ rest := by
  induction cs generalizing before with
  | nil =>
    simp only [splitAt?, Option.map_eq_some_iff, Prod.mk.injEq] at h
    obtain ⟨r, hr, rfl, rfl⟩ := h
    exact (List.append_eq_of_isPrefixOf?_eq_some hr).symm
  | cons c cs ih =>
    simp only [splitAt?] at h
    split at h
    · next r hr =>
      obtain ⟨rfl, rfl⟩ := Prod.mk.inj (Option.some.inj h)
      exact (List.append_eq_of_isPrefixOf?_eq_some hr).symm
    · simp only [Option.map_eq_some_iff, Prod.mk.injEq, Prod.exists] at h
      obtain ⟨b, r, hb, rfl, rfl⟩ := h
      rw [ih hb]
      rfl

/-- A piece that cannot overlap with itself is found where it was put. -/
theorem splitAt?_append {p : α} {ps before : List α} (hp : p ∉ ps)
    (h : ¬ (p :: ps) <:+: before) (rest : List α) :
    splitAt? (p :: ps) (before ++ (p :: ps ++ rest)) = some (before, rest) := by
  induction before with
  | nil =>
    rw [List.nil_append, List.cons_append, splitAt?, ← List.cons_append, isPrefixOf?_append]
  | cons c before ih =>
    have hnot : (p :: ps).isPrefixOf? (c :: before ++ (p :: ps ++ rest)) = none := by
      rw [isPrefixOf?_eq_none_iff]
      intro hprefix
      exact h (prefix_of_prefix_append hp hprefix).isInfix
    have hbefore : ¬ (p :: ps) <:+: before := fun hinfix => h (List.infix_cons hinfix)
    rw [List.cons_append] at hnot ⊢
    rw [splitAt?, hnot]
    simp only [ih hbefore, Option.map_some]

theorem splitAt?_eq_none_iff {piece cs : List α} : splitAt? piece cs = none ↔ ¬ piece <:+: cs := by
  induction cs with
  | nil =>
    rw [splitAt?, Option.map_eq_none_iff, isPrefixOf?_eq_none_iff, List.prefix_nil, List.infix_nil]
  | cons c cs ih =>
    rw [List.infix_cons_iff, not_or, ← isPrefixOf?_eq_none_iff, ← ih, splitAt?]
    cases piece.isPrefixOf? (c :: cs) <;> simp

/-- The leftmost occurrence of a character divides the text. -/
theorem splitAt?_append_cons {c : α} {before : List α} (h : c ∉ before) (rest : List α) :
    splitAt? [c] (before ++ c :: rest) = some (before, rest) :=
  splitAt?_append List.not_mem_nil (mt (List.singleton_infix_iff c before).mp h) rest

theorem splitAt?_of_not_mem {c : α} {cs : List α} (h : c ∉ cs) : splitAt? [c] cs = none :=
  splitAt?_eq_none_iff.mpr (mt (List.singleton_infix_iff c cs).mp h)

/-! ## Dividing at a character -/

theorem not_mem_of_mem_splitOn {sep : α} {cs part : List α} (h : part ∈ cs.splitOn sep) :
    sep ∉ part := by
  induction cs generalizing part with
  | nil =>
    obtain rfl := List.mem_singleton.mp h
    exact List.not_mem_nil
  | cons c cs ih =>
    rw [List.splitOn_cons_eq_if_modifyHead] at h
    split at h
    · rcases List.mem_cons.mp h with rfl | h
      · exact List.not_mem_nil
      · exact ih h
    · next hc =>
      obtain ⟨first, parts, hcs⟩ := List.exists_cons_of_ne_nil (List.splitOn_ne_nil sep cs)
      rw [hcs] at ih h
      rcases List.mem_cons.mp h with rfl | h
      · rw [List.mem_cons, not_or]
        exact ⟨fun heq => hc (beq_iff_eq.mpr heq.symm), ih List.mem_cons_self⟩
      · exact ih (List.mem_cons_of_mem _ h)

/-- Only the last part of a text is open: what is put behind the text continues it. -/
theorem splitOn_append (sep : α) (xs ys : List α) :
    (xs ++ ys).splitOn sep =
      (xs.splitOn sep).dropLast ++ ((xs.splitOn sep).getLastD [] ++ ys).splitOn sep := by
  by_cases hmem : sep ∈ xs
  · -- The last part begins behind the last occurrence.
    obtain ⟨back, front, hxs, hback⟩ := List.eq_append_cons_of_mem (List.mem_reverse.mpr hmem)
    obtain rfl : xs = front.reverse ++ sep :: back.reverse := by
      simpa using congrArg List.reverse hxs
    have hopen : back.reverse.splitOn sep = [back.reverse] :=
      List.splitOn_eq_singleton (mt List.mem_reverse.mp hback)
    rw [List.append_assoc, List.cons_append, List.splitOn_append_cons_self,
      List.splitOn_append_cons_self, hopen, List.dropLast_concat, List.getLastD_concat]
  · rw [List.splitOn_eq_singleton hmem]
    rfl

end TaskDesk.Text
