import TaskDesk.Proofs.Ron.Quote
import TaskDesk.Proofs.Text.Piece
import TaskDesk.Ron.Record

/-!
# Reading back records

A record that was written with one field on each line is read back, if every field is: the values
come out as the fields set them, one after the other.

## Main definitions

- `Ron.Line` — a field with what is written for it and what reading that does
- `Ron.Line.Reads` — the field is read back, whatever comes behind the comma
- `Ron.optionalLine` — a string or nothing on a line

## Main results

- `Ron.Record.read?_writeRecord` — a record is read back
- `Ron.optionalLine_reads` — a field that holds a string or nothing is read back
-/

namespace TaskDesk.Ron


/-! ## Blanks -/

theorem skipBlank_cons_of_blank {c : Char} (h : isBlankChar c) (cs : List Char) :
    skipBlank (c :: cs) = skipBlank cs := by
  have hslash : c ≠ '/' := by
    rintro rfl
    nomatch h
  unfold skipBlank
  rw [skipGap.eq_4 c cs (fun _ hc => absurd hc hslash) (fun _ hc => absurd hc hslash) hslash,
    if_pos h]

theorem skipBlank_cons {c : Char} (hblank : isBlankChar c = false) (hslash : c ≠ '/')
    (cs : List Char) : skipBlank (c :: cs) = some (c :: cs) := by
  unfold skipBlank
  rw [skipGap.eq_4 c cs (fun _ hc => absurd hc hslash) (fun _ hc => absurd hc hslash) hslash,
    if_neg (by simp [hblank])]

theorem skipBlank_of_skipGap {gap : Gap} {cs rest : List Char} (h : skipGap gap cs = some rest) :
    skipBlank rest = some rest := by
  -- Skipping stops at a character that is no blank and at the end; all other cases go on.
  fun_induction skipGap gap cs with
  | case5 c cs hline hblock hslash hblank =>
    obtain rfl := Option.some.inj h
    rw [skipBlank, skipGap.eq_4 c cs hline hblock hslash, if_neg hblank]
  | case13 =>
    obtain rfl := Option.some.inj h
    rfl
  | case3 | case12 => nomatch h
  | case1 _ ih | case2 _ ih | case4 _ _ _ _ _ _ ih | case6 _ ih | case7 _ _ _ ih | case8 _ _ ih
  | case9 _ ih | case10 _ _ ih | case11 _ _ _ _ _ _ ih => exact ih h

/-- After blanks there are no more blanks. -/
theorem skipBlank_skipBlank {cs rest : List Char} (h : skipBlank cs = some rest) :
    skipBlank rest = some rest :=
  skipBlank_of_skipGap h

theorem skipComma_cons (cs : List Char) :
    skipComma (',' :: cs) = (skipBlank cs).map fun rest => (true, rest) := by
  unfold skipComma
  rw [skipBlank_cons rfl (by decide)]
  cases h : skipBlank cs <;> simp [h]

theorem skipComma_close (cs : List Char) :
    skipComma (')' :: cs) = some (false, ')' :: cs) := by
  unfold skipComma
  rw [skipBlank_cons rfl (by decide)]
  rfl

/-! ## Fields on lines -/

/-- A field with what is written for it and what reading that does. -/
structure Line (σ : Type) where
  field : Field σ
  value : String
  set : σ → σ

namespace Line

variable {σ : Type}

/-- The characters of the line. -/
def chars (l : Line σ) : List Char :=
  ("    " ++ l.field.name ++ ": " ++ l.value ++ ",\n").toList

/-- Name and value begin with no blank and are read back, whatever comes behind them. -/
structure Reads (l : Line σ) : Prop where
  name_start (cs : List Char) :
    skipBlank (l.field.name.toList ++ cs) = some (l.field.name.toList ++ cs)
  name (cs : List Char) :
    identifier? (l.field.name.toList ++ ':' :: cs) = some (l.field.name, ':' :: cs)
  value_start (cs : List Char) : skipBlank (l.value.toList ++ cs) = some (l.value.toList ++ cs)
  value (cs : List Char) : l.field.read {} (l.value.toList ++ ',' :: cs) = some (l.set, ',' :: cs)

variable {l : Line σ}

theorem chars_append (l : Line σ) (cs : List Char) :
    l.chars ++ cs = ' ' :: ' ' :: ' ' :: ' ' :: (l.field.name.toList ++ ':' :: ' ' ::
      (l.value.toList ++ ',' :: '\n' :: cs)) := by
  simp [chars]

theorem chars_ne_nil (l : Line σ) : l.chars ≠ [] := by
  simp [chars]

theorem skipBlank_chars_append (h : l.Reads) (cs : List Char) :
    skipBlank (l.chars ++ cs) = some (l.field.name.toList ++ ':' :: ' ' ::
      (l.value.toList ++ ',' :: '\n' :: cs)) := by
  rw [chars_append, skipBlank_cons_of_blank rfl, skipBlank_cons_of_blank rfl,
    skipBlank_cons_of_blank rfl, skipBlank_cons_of_blank rfl, h.name_start]

end Line

namespace Record

variable {σ : Type} {r : Record σ} {l : Line σ}

/-- A field that was not read before is read. -/
theorem entry?_line (h : l.Reads) (hknown : r.fields.find? (·.name = l.field.name) = some l.field)
    {seen : List String} (hnew : l.field.name ∉ seen) (s : σ) (cs : List Char) :
    r.entry? {} (seen, s) (l.field.name.toList ++ ':' :: ' ' :: (l.value.toList ++ ',' :: cs)) =
      some ((l.field.name :: seen, l.set s), ',' :: cs) := by
  have hcolon : skipColon (':' :: ' ' :: (l.value.toList ++ ',' :: cs)) =
      some (l.value.toList ++ ',' :: cs) := by
    have hmark (cs : List Char) : skipBlank (':' :: cs) = some (':' :: cs) :=
      skipBlank_cons rfl (by decide) cs
    have hrest (cs : List Char) : [':'].isPrefixOf? (':' :: cs) = some cs :=
      Text.isPrefixOf?_append [':'] cs
    simp only [skipColon, hmark, hrest, Option.bind_eq_bind, Option.bind_some]
    rw [skipBlank_cons_of_blank rfl, h.value_start]
  unfold Record.entry?
  simp [h.name, hcolon, hknown, hnew, h.value]

/-- No field begins with the closing bracket. -/
theorem isPrefixOf?_line (h : l.Reads) (cs : List Char) :
    [')'].isPrefixOf? (l.field.name.toList ++ ':' :: cs) = none := by
  refine Text.isPrefixOf?_eq_none_iff.mpr fun ⟨rest, hclose⟩ => ?_
  have hname := h.name cs
  rw [← hclose] at hname
  nomatch hname

theorem exists_skipBlank_lines {lines : List (Line σ)} (hreads : ∀ l ∈ lines, l.Reads) :
    ∃ rest, skipBlank (lines.flatMap Line.chars ++ [')']) = some rest := by
  cases lines with
  | nil => exact ⟨[')'], rfl⟩
  | cons l lines =>
    rw [List.flatMap_cons, List.append_assoc,
      Line.skipBlank_chars_append (hreads l List.mem_cons_self)]
    exact ⟨_, rfl⟩

/-- The lines of a record are read up to the closing bracket. The induction is on the lines that
are left; what was read before only says which names may not come again. -/
theorem entries?_lines (lines : List (Line σ)) (hreads : ∀ l ∈ lines, l.Reads)
    (hknown : ∀ l ∈ lines, r.fields.find? (·.name = l.field.name) = some l.field)
    (hnames : (lines.map (·.field.name)).Nodup) {seen : List String}
    (hnew : ∀ l ∈ lines, l.field.name ∉ seen) {fuel : Nat} (hfuel : lines.length < fuel) (s : σ)
    {cs : List Char} (hcs : skipBlank cs = skipBlank (lines.flatMap Line.chars ++ [')'])) :
    ∃ seen', entries? (r.entry? {}) ')' fuel (seen, s) cs =
      some ((seen', lines.foldl (fun s l => l.set s) s), []) := by
  induction lines generalizing seen fuel s cs with
  | nil =>
    obtain ⟨fuel, rfl⟩ := Nat.exists_eq_add_one_of_ne_zero (Nat.ne_zero_of_lt hfuel)
    refine ⟨seen, ?_⟩
    simp only [entries?, hcs]
    rfl
  | cons l lines ih =>
    obtain ⟨fuel, rfl⟩ := Nat.exists_eq_add_one_of_ne_zero (Nat.ne_zero_of_lt hfuel)
    have hl : l.Reads := hreads l List.mem_cons_self
    have hrest : ∀ l ∈ lines, l.Reads := fun l hmem => hreads l (List.mem_cons_of_mem _ hmem)
    obtain ⟨rest, htail⟩ := exists_skipBlank_lines hrest
    have hcomma : skipComma (',' :: '\n' :: (lines.flatMap Line.chars ++ [')'])) =
        some (true, rest) := by
      rw [skipComma_cons, skipBlank_cons_of_blank rfl, htail, Option.map_some]
    rw [List.map_cons, List.nodup_cons] at hnames
    have hnew' : ∀ l' ∈ lines, l'.field.name ∉ l.field.name :: seen := by
      intro l' hmem hseen
      rcases List.mem_cons.mp hseen with heq | hseen
      · exact hnames.1 (heq ▸ List.mem_map_of_mem hmem)
      · exact hnew l' (List.mem_cons_of_mem _ hmem) hseen
    obtain ⟨seen', hread⟩ := ih hrest (fun l hmem => hknown l (List.mem_cons_of_mem _ hmem))
      hnames.2 hnew' (Nat.lt_of_succ_lt_succ hfuel) (l.set s)
      ((skipBlank_skipBlank htail).trans htail.symm)
    refine ⟨seen', ?_⟩
    rw [List.flatMap_cons, List.append_assoc, Line.skipBlank_chars_append hl] at hcs
    simp only [entries?, hcs, Option.bind_eq_bind, Option.bind_some, isPrefixOf?_line hl,
      entry?_line hl (hknown l List.mem_cons_self) (hnew l List.mem_cons_self), hcomma, hread,
      if_true, List.foldl_cons]

/-- A record is read back from the lines that were written for its fields. -/
theorem read?_writeRecord (r : Record σ) (start : σ) (lines : List (Line σ))
    (hreads : ∀ l ∈ lines, l.Reads)
    (hknown : ∀ l ∈ lines, r.fields.find? (·.name = l.field.name) = some l.field)
    (hnames : (lines.map (·.field.name)).Nodup) :
    r.read? start (writeRecord (lines.map fun l => (l.field.name, l.value))) =
      some (lines.foldl (fun s l => l.set s) start) := by
  have htext : (writeRecord (lines.map fun l => (l.field.name, l.value))).toList =
      '(' :: '\n' :: (lines.flatMap Line.chars ++ [')']) := by
    rw [writeRecord, String.toList_append, String.toList_append, String.toList_join, List.map_map,
      List.flatMap_map]
    rfl
  have hfuel : lines.length < ('\n' :: (lines.flatMap Line.chars ++ [')'])).length + 1 := by
    have hlength := length_le_length_flatMap Line.chars_ne_nil lines
    rw [List.length_cons, List.length_append]
    omega
  obtain ⟨seen, hread⟩ := entries?_lines lines hreads hknown hnames (fun _ _ => List.not_mem_nil)
    hfuel start (skipBlank_cons_of_blank (c := '\n') rfl _)
  have hstart (body : List Char) : skipBlank ('(' :: body) = some ('(' :: body) :=
    skipBlank_cons rfl (by decide) body
  have hattributes (fuel : Nat) (body : List Char) :
      attributes? {} (fuel + 1) ('(' :: body) = some ({}, '(' :: body) := rfl
  have hname (body : List Char) : r.skipName {} ('(' :: body) = some ('(' :: body) := rfl
  have hopen (body : List Char) : ['('].isPrefixOf? ('(' :: body) = some body :=
    Text.isPrefixOf?_append ['('] body
  have hend : skipBlank [] = some [] := rfl
  simp only [read?, htext, hstart, hattributes, hname, hopen, hread, hend, Option.bind_eq_bind,
    Option.bind_some]

end Record

/-! ## Strings that may be missing -/

theorem skipBlank_writeOptional (text : Option String) (cs : List Char) :
    skipBlank ((writeOptional text).toList ++ cs) = some ((writeOptional text).toList ++ cs) := by
  cases text with
  | none => rfl
  | some s =>
    rw [writeOptional, String.toList_append, String.toList_append]
    rfl

/-- A string that may be missing is read back. -/
theorem read_optionalText {σ : Type} (name : String) (set : Option String → σ → σ)
    (text : Option String) (cs : List Char) :
    (Field.optionalText name set).read {} ((writeOptional text).toList ++ ',' :: cs) =
      some (set text, ',' :: cs) := by
  cases text with
  | none => rfl
  | some s =>
    have htext : (writeOptional (some s)).toList ++ ',' :: cs =
        'S' :: 'o' :: 'm' :: 'e' :: '(' :: ((quote s).toList ++ ')' :: ',' :: cs) := by
      simp [writeOptional]
    have hnone (cs : List Char) : keyword? "None" ('S' :: cs) = none := rfl
    have hsome (cs : List Char) :
        keyword? "Some" ('S' :: 'o' :: 'm' :: 'e' :: '(' :: cs) = some ('(' :: cs) := rfl
    have hopen (cs : List Char) : skipBlank ('(' :: cs) = some ('(' :: cs) :=
      skipBlank_cons rfl (by decide) cs
    have hquote (cs : List Char) :
        skipBlank ((quote s).toList ++ cs) = some ((quote s).toList ++ cs) := by
      simpa [quote] using skipBlank_cons (c := '"') rfl (by decide) _
    simp only [Field.optionalText, htext, hnone, hsome, hopen, hquote, string?_quote,
      skipComma_close, Option.bind_eq_bind, Option.bind_some, Option.map_some]
    rfl

/-- A field that holds a string or nothing, with what is written for it. -/
def optionalLine {σ : Type} (name : String) (set : Option String → σ → σ)
    (text : Option String) : Line σ where
  field := Field.optionalText name set
  value := writeOptional text
  set := set text

theorem optionalLine_reads {σ : Type} {name : String}
    (hstart : ∀ cs, skipBlank (name.toList ++ cs) = some (name.toList ++ cs))
    (hname : ∀ cs, identifier? (name.toList ++ ':' :: cs) = some (name, ':' :: cs))
    (set : Option String → σ → σ) (text : Option String) : (optionalLine name set text).Reads where
  name_start := hstart
  name := hname
  value_start := skipBlank_writeOptional text
  value := read_optionalText name set text

end TaskDesk.Ron
