import Mathlib.Algebra.BigOperators.Group.List.Basic
import Mathlib.Tactic.SplitIfs
import TaskDesk.Ron.Lexeme

/-!
# Reading back quoted text

What the writer puts for a character is read as that character, whatever follows it, so a string
is read back from its quoted form.

## Main definitions

- `Ron.readQuoted?` — reading a string up to its closing quote

## Main results

- `Ron.codeEscape?_toDigits` — a character is read back from its code point
- `Ron.readQuoted?_escapeChar` — whatever is written for a character is read as that character
- `Ron.string?_quote` — a string is read back from its quoted form
-/

namespace TaskDesk.Ron

/-! ## Code points -/

theorem digitChar_ne_brace {n : Nat} (h : n < 16) : n.digitChar ≠ '\x7d' := by
  revert n
  decide

theorem codeDigits?_cons (value room : Nat) {n : Nat} (h : n < 16) (cs : List Char) :
    codeDigits? value (room + 1) (n.digitChar :: cs) = codeDigits? (value * 16 + n) room cs := by
  rw [codeDigits?.eq_2 _ _ _ _ (digitChar_ne_brace h)]
  simp [Hex.digitValue?_digitChar h]

/-- A number is read back from its digits. The induction takes off the last one. -/
theorem codeDigits?_toDigits (n room : Nat) (cs : List Char) :
    codeDigits? 0 (room + (Nat.toDigits 16 n).length) (Nat.toDigits 16 n ++ cs) =
      codeDigits? n room cs := by
  induction n using Nat.strongRecOn generalizing room cs with
  | ind n ih =>
    by_cases h : n < 16
    · rw [Nat.toDigits_of_lt_base h]
      simpa using codeDigits?_cons 0 room h cs
    · have hsmall : n / 16 < n := Nat.div_lt_self (by omega) (by omega)
      rw [Nat.toDigits_of_base_le (by omega) (by omega), List.length_append, List.append_assoc,
        List.length_singleton, ← Nat.add_assoc, Nat.add_right_comm, ih _ hsmall,
        List.singleton_append, codeDigits?_cons _ _ (Nat.mod_lt n (by omega)), Nat.div_add_mod']

theorem brace_not_mem_toDigits (n : Nat) : '\x7d' ∉ Nat.toDigits 16 n := by
  induction n using Nat.strongRecOn with
  | ind n ih =>
    by_cases h : n < 16
    · simp [Nat.toDigits_of_lt_base h]
    · have hsmall : n / 16 < n := Nat.div_lt_self (by omega) (by omega)
      simp [Nat.toDigits_of_base_le (by omega : 1 < 16) (by omega : 16 ≤ n), ih _ hsmall]

/-- A character is read back from its code point. -/
theorem codeEscape?_toDigits (c : Char) (rest : List Char) :
    codeEscape? ('\x7b' :: (Nat.toDigits 16 c.toNat ++ '\x7d' :: rest)) = some (c, rest) := by
  have hvalid : c.toNat.isValidChar := c.valid
  have hsize : (Nat.toDigits 16 c.toNat).length ≤ 6 := by
    refine (Nat.length_toDigits_le_iff (by omega) (by omega)).mpr ?_
    rcases hvalid with h | h <;> omega
  obtain ⟨room, hroom⟩ := Nat.exists_eq_add_of_le' hsize
  have hread : codeDigits? 0 6 (Nat.toDigits 16 c.toNat ++ '\x7d' :: rest) =
      some (c.toNat, rest) := by
    rw [hroom, codeDigits?_toDigits, codeDigits?.eq_1]
  rw [codeEscape?.eq_2, hread]
  · simp [hvalid]
  · intro tail htail
    obtain ⟨digit, digits, hdigits⟩ := List.exists_cons_of_ne_nil
      (Nat.toDigits_ne_nil (n := c.toNat) (b := 16))
    rw [hdigits, List.cons_append, List.cons.injEq] at htail
    exact brace_not_mem_toDigits c.toNat (hdigits ▸ htail.1 ▸ List.mem_cons_self)

/-! ## Strings -/

/-- Reads a string up to the closing quote. -/
def readQuoted? (fuel : Nat) (cs : List Char) : Option (List Char × List Char) :=
  quoted? (fun cs => (escape? true cs).map fun (c, rest) => ([c], rest)) fuel cs

theorem string?_cons_quote (cs : List Char) :
    string? ('"' :: cs) =
      (readQuoted? (cs.length + 1) cs).map fun (text, rest) => (String.ofList text, rest) := by
  simp only [string?, readQuoted?]
  cases quoted? _ (cs.length + 1) cs <;> rfl

theorem readQuoted?_close (fuel : Nat) (rest : List Char) :
    readQuoted? (fuel + 1) ('"' :: rest) = some ([], rest) :=
  rfl

/-- A character that is neither a quote nor a backslash stands for itself. -/
theorem readQuoted?_plain {c : Char} (hquote : c ≠ '"') (hslash : c ≠ '\\') (fuel : Nat)
    (cs : List Char) :
    readQuoted? (fuel + 1) (c :: cs) =
      (readQuoted? fuel cs).map fun (others, rest) => (c :: others, rest) := by
  unfold readQuoted?
  rw [quoted?]
  · cases quoted? _ fuel cs <;> rfl
  · exact hquote
  · exact hslash

/-- An escape stands for what it is read as. -/
theorem readQuoted?_escape {cs rest : List Char} {c : Char} (hjoined : joinedLine? cs = none)
    (h : escape? true cs = some (c, rest)) (fuel : Nat) :
    readQuoted? (fuel + 1) ('\\' :: cs) =
      (readQuoted? fuel rest).map fun (others, rest) => (c :: others, rest) := by
  unfold readQuoted?
  simp only [quoted?, hjoined, h, Option.map_some, Option.bind_eq_bind, Option.bind_some]
  cases quoted? _ fuel rest <;> rfl

/-- Whatever the writer puts for a character is read as that character. -/
theorem readQuoted?_escapeChar (c : Char) (fuel : Nat) (cs : List Char) :
    readQuoted? (fuel + 1) (escapeChar c ++ cs) =
      (readQuoted? fuel cs).map fun (others, rest) => (c :: others, rest) := by
  unfold escapeChar
  split_ifs with hnul htab hreturn hline hself hcode
  · subst hnul
    exact readQuoted?_escape rfl rfl fuel
  · subst htab
    exact readQuoted?_escape rfl rfl fuel
  · subst hreturn
    exact readQuoted?_escape rfl rfl fuel
  · subst hline
    exact readQuoted?_escape rfl rfl fuel
  · rcases hself with rfl | rfl | rfl <;> exact readQuoted?_escape rfl rfl fuel
  · simp only [List.append_assoc, List.cons_append, List.nil_append]
    have hread : escape? true ('u' :: '\x7b' :: (Nat.toDigits 16 c.toNat ++ '\x7d' :: cs)) =
        some (c, cs) := codeEscape?_toDigits c cs
    exact readQuoted?_escape rfl hread fuel
  · rw [not_or, not_or] at hself
    exact readQuoted?_plain hself.2.2 hself.1 fuel cs

theorem readQuoted?_flatMap (text rest : List Char) (fuel : Nat) :
    readQuoted? (fuel + text.length + 1) (text.flatMap escapeChar ++ '"' :: rest) =
      some (text, rest) := by
  induction text generalizing fuel with
  | nil => exact readQuoted?_close fuel rest
  | cons c text ih =>
    rw [List.flatMap_cons, List.append_assoc, readQuoted?_escapeChar, List.length_cons,
      ← Nat.add_assoc, ih, Option.map_some]

/-- What is written piece by piece is at least as long as there are pieces. -/
theorem length_le_length_flatMap {α : Type} {write : α → List Char} (h : ∀ a, write a ≠ [])
    (pieces : List α) : pieces.length ≤ (pieces.flatMap write).length := by
  have hpos : ∀ n ∈ pieces.map fun a => (write a).length, 1 ≤ n := by
    intro n hn
    obtain ⟨a, -, rfl⟩ := List.mem_map.mp hn
    exact List.length_pos_iff.mpr (h a)
  simpa [List.length_flatMap] using List.length_le_sum_of_one_le _ hpos

theorem escapeChar_ne_nil (c : Char) : escapeChar c ≠ [] := by
  unfold escapeChar
  split_ifs <;> simp

/-- A string is read back from its quoted form. -/
theorem string?_quote (s : String) (rest : List Char) :
    string? ((quote s).toList ++ rest) = some (s, rest) := by
  obtain ⟨spare, hspare⟩ := Nat.exists_eq_add_of_le' 
    (length_le_length_flatMap escapeChar_ne_nil s.toList)
  have hfuel : (s.toList.flatMap escapeChar ++ '"' :: rest).length + 1 =
      (spare + rest.length + 1) + s.toList.length + 1 := by
    rw [List.length_append, List.length_cons, hspare]
    omega
  calc string? ((quote s).toList ++ rest)
    _ = string? ('"' :: (s.toList.flatMap escapeChar ++ '"' :: rest)) := by
      simp only [quote, String.toList_ofList, List.append_assoc, List.cons_append, List.nil_append]
    _ = some (s, rest) := by
      rw [string?_cons_quote, hfuel, readQuoted?_flatMap]
      simp

end TaskDesk.Ron
