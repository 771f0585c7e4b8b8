import Mathlib.Data.List.TakeWhile
import TaskDesk.Media
import TaskDesk.Proofs.Text.Piece

/-!
# Matches in a text

A text is walked once, from left to right. Where a pattern matches, the walk goes on behind the
match; where it does not, it goes on with the next character. The patterns here are of two kinds: a
value between an opening piece and the next closing character, and a word of a language that is as
long as it can be.

## Main definitions

- `Text.ValueAt` — a value between two delimiters and where it stands
- `Text.IsLongest`, `Text.Scan` — the longest word at the front of a text, and those of a whole walk
- `Media.IsBareLink` — the words that are links by themselves

## Main results

- `Text.matchesOf_append_of_some`, `Text.matchesOf_append_of_none` — one step of a walk
- `Text.Reads.scan_iff` — the matches of a pattern that reads a language
- `Media.delimited_eq_some_iff` — a value at the front of a text
- `Media.reads_bareLink` — the pattern of bare links reads their language
-/

namespace TaskDesk

namespace Text

/-! ## A walk -/

section Walk

variable {pattern : List Char → Option (List Char × Nat)}

theorem matchesFrom_append (taken rest : List Char) :
    matchesFrom pattern taken.length (taken ++ rest) = matchesOf pattern rest := by
  induction taken with
  | nil => rfl
  | cons c taken ih => exact ih

theorem matchesOf_cons_of_some {c : Char} {cs body : List Char} {taken : Nat}
    (h : pattern (c :: cs) = some (body, taken)) :
    matchesOf pattern (c :: cs) = body :: matchesFrom pattern (taken - 1) cs := by
  simp only [matchesOf, matchesFrom, h]

theorem matchesOf_cons_of_none {c : Char} {cs : List Char} (h : pattern (c :: cs) = none) :
    matchesOf pattern (c :: cs) = matchesOf pattern cs := by
  simp only [matchesOf, matchesFrom, h]

/-- Behind a match the walk goes on. -/
theorem matchesOf_append_of_some {taken rest body : List Char} (hne : taken ≠ [])
    (h : pattern (taken ++ rest) = some (body, taken.length)) :
    matchesOf pattern (taken ++ rest) = body :: matchesOf pattern rest := by
  obtain ⟨c, taken, rfl⟩ := List.exists_cons_of_ne_nil hne
  rw [List.cons_append] at h ⊢
  rw [matchesOf_cons_of_some h]
  exact congrArg (body :: ·) (matchesFrom_append taken rest)

/-- Where nothing begins, the walk passes. -/
theorem matchesOf_append_of_none {ahead rest : List Char}
    (h : ∀ tail, tail <:+ ahead → tail ≠ [] → pattern (tail ++ rest) = none) :
    matchesOf pattern (ahead ++ rest) = matchesOf pattern rest := by
  induction ahead with
  | nil => rfl
  | cons c ahead ih =>
    have hfirst : pattern (c :: ahead ++ rest) = none :=
      h (c :: ahead) List.suffix_rfl (List.cons_ne_nil _ _)
    rw [List.cons_append] at hfirst ⊢
    rw [matchesOf_cons_of_none hfirst]
    exact ih fun tail htail => h tail (htail.trans (List.suffix_cons c ahead))

/-- There is no match exactly if none begins anywhere. -/
theorem matchesOf_eq_nil_iff {cs : List Char} :
    matchesOf pattern cs = [] ↔ ∀ tail, tail <:+ cs → tail ≠ [] → pattern tail = none := by
  constructor
  · intro h
    induction cs with
    | nil => exact fun tail htail hne => absurd (List.suffix_nil.mp htail) hne
    | cons c cs ih =>
      cases hfirst : pattern (c :: cs) with
      | some found =>
        rw [matchesOf_cons_of_some hfirst] at h
        cases h
      | none =>
        rw [matchesOf_cons_of_none hfirst] at h
        intro tail htail hne
        rcases List.suffix_cons_iff.mp htail with rfl | htail
        · exact hfirst
        · exact ih h tail htail hne
  · intro h
    have hnone := @matchesOf_append_of_none pattern cs []
    rw [List.append_nil] at hnone
    refine hnone fun tail htail hne => ?_
    rw [List.append_nil]
    exact h tail htail hne

theorem exists_of_mem_matchesFrom {skip : Nat} {cs body : List Char}
    (h : body ∈ matchesFrom pattern skip cs) :
    ∃ tail taken, tail <:+ cs ∧ pattern tail = some (body, taken) := by
  induction cs generalizing skip with
  | nil => cases skip <;> cases h
  | cons c cs ih =>
    have hlater {skip : Nat} (h : body ∈ matchesFrom pattern skip cs) :
        ∃ tail taken, tail <:+ c :: cs ∧ pattern tail = some (body, taken) := by
      obtain ⟨tail, taken, htail, hbody⟩ := ih h
      exact ⟨tail, taken, htail.trans (List.suffix_cons c cs), hbody⟩
    cases skip with
    | succ skip => exact hlater h
    | zero =>
      change body ∈ matchesOf pattern (c :: cs) at h
      cases hfirst : pattern (c :: cs) with
      | none =>
        rw [matchesOf_cons_of_none hfirst] at h
        exact hlater h
      | some found =>
        rw [matchesOf_cons_of_some hfirst] at h
        rcases List.mem_cons.mp h with rfl | h
        · exact ⟨c :: cs, found.2, List.suffix_rfl, hfirst⟩
        · exact hlater h

/-- Every match begins somewhere. -/
theorem exists_of_mem_matchesOf {cs body : List Char} (h : body ∈ matchesOf pattern cs) :
    ∃ tail taken, tail <:+ cs ∧ pattern tail = some (body, taken) :=
  exists_of_mem_matchesFrom h

end Walk

/-! ## The longest words of a language -/

/-- No longer word of the language is at the front of the text. -/
structure IsLongest (L : List Char → Prop) (cs word : List Char) : Prop where
  mem : L word
  isPrefix : word <+: cs
  length_le {other : List Char} (h : L other) (hother : other <+: cs) : other.length ≤ word.length

/-- The words that a walk from left to right takes out of a text: the longest one at each place
where one begins, behind the word before. -/
inductive Scan (L : List Char → Prop) : List Char → List (List Char) → Prop
  | done : Scan L [] []
  | pass {c : Char} {cs : List Char} {words : List (List Char)}
      (h : ∀ word, L word → ¬ word <+: c :: cs) (hrest : Scan L cs words) : Scan L (c :: cs) words
  | found {word rest : List Char} {words : List (List Char)} (h : IsLongest L (word ++ rest) word)
      (hrest : Scan L rest words) : Scan L (word ++ rest) (word :: words)

/-- The pattern matches at the front of a text what is the longest word there. -/
structure Reads (pattern : List Char → Option (List Char × Nat)) (L : List Char → Prop) :
    Prop where
  ne_nil {word : List Char} (h : L word) : word ≠ []
  of_some {cs word : List Char} {taken : Nat} (h : pattern cs = some (word, taken)) :
    IsLongest L cs word ∧ taken = word.length
  of_none {cs word : List Char} (h : pattern cs = none) (hword : L word) : ¬ word <+: cs

theorem IsLongest.unique {L : List Char → Prop} {cs v w : List Char} (hv : IsLongest L cs v)
    (hw : IsLongest L cs w) : v = w := by
  have hlength : v.length = w.length :=
    Nat.le_antisymm (hw.length_le hv.mem hv.isPrefix) (hv.length_le hw.mem hw.isPrefix)
  exact (List.prefix_of_prefix_length_le hv.isPrefix hw.isPrefix hlength.le).eq_of_length hlength

section Reads

variable {pattern : List Char → Option (List Char × Nat)} {L : List Char → Prop}

theorem Reads.eq_none (h : Reads pattern L) {cs : List Char}
    (hcs : ∀ word, L word → ¬ word <+: cs) : pattern cs = none := by
  cases hpattern : pattern cs with
  | none => rfl
  | some found =>
    have hlongest := (h.of_some hpattern).1
    exact absurd hlongest.isPrefix (hcs _ hlongest.mem)

theorem Reads.eq_some (h : Reads pattern L) {cs word : List Char} (hword : IsLongest L cs word) :
    pattern cs = some (word, word.length) := by
  cases hpattern : pattern cs with
  | none => exact absurd hword.isPrefix (h.of_none hpattern hword.mem)
  | some found =>
    obtain ⟨hlongest, htaken⟩ := h.of_some hpattern
    rw [hword.unique hlongest, ← htaken]

theorem Reads.scan_matchesOf (h : Reads pattern L) (cs : List Char) :
    Scan L cs (matchesOf pattern cs) := by
  induction hn : cs.length using Nat.strong_induction_on generalizing cs with
  | _ n ih =>
    subst hn
    cases cs with
    | nil => exact .done
    | cons c cs =>
      cases hpattern : pattern (c :: cs) with
      | none =>
        rw [matchesOf_cons_of_none hpattern]
        exact .pass (fun word hword => h.of_none hpattern hword)
          (ih cs.length (Nat.lt_succ_self _) cs rfl)
      | some found =>
        obtain ⟨word, taken⟩ := found
        obtain ⟨hlongest, rfl⟩ := h.of_some hpattern
        have hne := h.ne_nil hlongest.mem
        obtain ⟨rest, hrest⟩ := hlongest.isPrefix
        rw [← hrest] at hlongest hpattern ih ⊢
        rw [matchesOf_append_of_some hne hpattern]
        refine .found hlongest (ih rest.length ?_ rest rfl)
        have hpos := List.length_pos_iff.mpr hne
        rw [List.length_append]
        omega

/-- The matches of a pattern are the words that a walk takes out of the text, and there is but one
such walk. -/
theorem Reads.scan_iff (h : Reads pattern L) {cs : List Char} {words : List (List Char)} :
    Scan L cs words ↔ words = matchesOf pattern cs := by
  constructor
  · intro hscan
    induction hscan with
    | done => rfl
    | pass hnone _ ih => rw [ih, matchesOf_cons_of_none (h.eq_none hnone)]
    | found hlongest _ ih =>
      rw [ih, matchesOf_append_of_some (h.ne_nil hlongest.mem) (h.eq_some hlongest)]
  · rintro rfl
    exact h.scan_matchesOf cs

end Reads

/-! ## Values between delimiters -/

/-- A value that is not empty stands between an opening piece and the next closing character. -/
structure ValueAt (opening : List Char) (closing : Char) (cs ahead value behind : List Char) :
    Prop where
  eq_append : cs = ahead ++ (opening ++ (value ++ closing :: behind))
  ne_nil : value ≠ []
  not_mem : closing ∉ value

theorem takeWhile_append_cons {closing : Char} {value : List Char} (h : closing ∉ value)
    (behind : List Char) : (value ++ closing :: behind).takeWhile (· ≠ closing) = value := by
  have hvalue : ∀ c ∈ value, decide (c ≠ closing) = true := by
    intro c hc
    simpa using ne_of_mem_of_not_mem hc h
  rw [List.takeWhile_append_of_pos hvalue, List.takeWhile_cons_of_neg (by simp), List.append_nil]

/-- What ends before a text does ends with the next closing character. -/
theorem exists_of_length_takeWhile {closing : Char} {cs : List Char}
    (h : (cs.takeWhile (· ≠ closing)).length ≠ cs.length) :
    ∃ behind, cs = cs.takeWhile (· ≠ closing) ++ closing :: behind := by
  have hsplit := List.takeWhile_append_dropWhile (p := (· ≠ closing)) (l := cs)
  cases hdrop : cs.dropWhile (· ≠ closing) with
  | nil =>
    rw [hdrop, List.append_nil] at hsplit
    exact absurd (congrArg List.length hsplit) h
  | cons c behind =>
    have hne : cs.dropWhile (· ≠ closing) ≠ [] := by
      rw [hdrop]
      exact List.cons_ne_nil c behind
    have hstop := List.head_dropWhile_not (· ≠ closing) hne
    simp only [hdrop, List.head_cons, decide_eq_false_iff_not, not_not] at hstop
    rw [hdrop, hstop] at hsplit
    exact ⟨behind, hsplit.symm⟩

end Text

namespace Media

open Text

section Delimited

variable {opening : List Char} {closing : Char}

/-- A value at the front of a text. -/
theorem delimited_eq_some_iff {cs value : List Char} {taken : Nat} :
    delimited opening closing cs = some (value, taken) ↔
      taken = opening.length + value.length + 1 ∧
        ∃ behind, ValueAt opening closing cs [] value behind := by
  unfold delimited
  constructor
  · intro h
    split at h
    · cases h
    · next rest hrest =>
      simp only at h
      split at h
      · cases h
      · next hbody =>
        obtain ⟨rfl, rfl⟩ := Prod.mk.inj (Option.some.inj h)
        obtain ⟨hne, hends⟩ := not_or.mp hbody
        obtain ⟨behind, hbehind⟩ := exists_of_length_takeWhile hends
        refine ⟨rfl, behind, ?_, by simpa using hne, fun hmem => ?_⟩
        · rw [← hbehind, List.nil_append]
          exact (List.append_eq_of_isPrefixOf?_eq_some hrest).symm
        · simpa using List.mem_takeWhile_imp hmem
  · rintro ⟨rfl, behind, hcs, hne, hmem⟩
    rw [hcs, List.nil_append, isPrefixOf?_append]
    simp only [takeWhile_append_cons hmem]
    rw [if_neg]
    simp [hne]

theorem delimited_eq_none_iff {cs : List Char} :
    delimited opening closing cs = none ↔
      ∀ value behind, ¬ ValueAt opening closing cs [] value behind := by
  rw [Option.eq_none_iff_forall_ne_some]
  constructor
  · intro h value behind hvalue
    exact h _ (delimited_eq_some_iff.mpr ⟨rfl, behind, hvalue⟩)
  · rintro h ⟨value, taken⟩ hsome
    obtain ⟨-, behind, hvalue⟩ := delimited_eq_some_iff.mp hsome
    exact h value behind hvalue

/-- Where the opening piece is not, there is no value. -/
theorem delimited_eq_none_of_not_prefix {cs : List Char} (h : ¬ opening <+: cs) :
    delimited opening closing cs = none :=
  delimited_eq_none_iff.mpr fun _ _ hvalue => h ⟨_, hvalue.eq_append.symm⟩

/-- A value is found, and the walk goes on behind its closing character. -/
theorem matchesOf_delimited_append {value : List Char} (hne : value ≠ []) (hmem : closing ∉ value)
    (behind : List Char) :
    matchesOf (delimited opening closing) (opening ++ (value ++ closing :: behind)) =
      value :: matchesOf (delimited opening closing) behind := by
  have happend : opening ++ (value ++ closing :: behind) =
      opening ++ value ++ [closing] ++ behind := by
    simp
  have hfound : delimited opening closing (opening ++ value ++ [closing] ++ behind) =
      some (value, (opening ++ value ++ [closing]).length) :=
    delimited_eq_some_iff.mpr ⟨by simp; omega, behind, happend.symm, hne, hmem⟩
  rw [happend, matchesOf_append_of_some (by simp) hfound]

/-- A walk passes a text without the opening piece that comes before one. -/
theorem matchesOf_delimited_append_of_not_infix {p : Char} {ps before : List Char} (hp : p ∉ ps)
    (h : ¬ (p :: ps) <:+: before) (rest : List Char) :
    matchesOf (delimited (p :: ps) closing) (before ++ (p :: ps ++ rest)) =
      matchesOf (delimited (p :: ps) closing) (p :: ps ++ rest) := by
  refine matchesOf_append_of_none fun tail htail hne => delimited_eq_none_of_not_prefix ?_
  obtain ⟨c, tail, rfl⟩ := List.exists_cons_of_ne_nil hne
  intro hprefix
  exact h ((prefix_of_prefix_append hp hprefix).isInfix.trans htail.isInfix)

/-- There is no match exactly if there is no value anywhere. -/
theorem matchesOf_delimited_eq_nil_iff {cs : List Char} :
    matchesOf (delimited opening closing) cs = [] ↔
      ∀ ahead value behind, ¬ ValueAt opening closing cs ahead value behind := by
  rw [matchesOf_eq_nil_iff]
  constructor
  · rintro h ahead value behind ⟨rfl, hne, hmem⟩
    have hnone := h _ (List.suffix_append ahead _) (by simp)
    exact delimited_eq_none_iff.mp hnone value behind ⟨rfl, hne, hmem⟩
  · rintro h tail ⟨ahead, rfl⟩ -
    rw [delimited_eq_none_iff]
    rintro value behind ⟨rfl, hne, hmem⟩
    exact h ahead value behind ⟨rfl, hne, hmem⟩

/-- The first value is the one that no other stands before. -/
theorem head?_matchesOf_delimited {cs ahead value behind : List Char}
    (h : ValueAt opening closing cs ahead value behind)
    (hfirst : ∀ ahead' value' behind', ValueAt opening closing cs ahead' value' behind' →
      ahead.length ≤ ahead'.length) :
    (matchesOf (delimited opening closing) cs).head? = some value := by
  obtain ⟨rfl, hne, hmem⟩ := h
  rw [matchesOf_append_of_none, matchesOf_delimited_append hne hmem, List.head?_cons]
  rintro tail ⟨front, rfl⟩ htail
  rw [delimited_eq_none_iff]
  rintro value' behind' ⟨heq, hne', hmem'⟩
  rw [List.nil_append] at heq
  have hle := hfirst front value' behind' ⟨by rw [List.append_assoc, heq], hne', hmem'⟩
  have hpos := List.length_pos_iff.mpr htail
  rw [List.length_append] at hle
  omega

/-- A value that is found is part of the text and not empty. -/
theorem infix_of_mem_matchesOf_delimited {cs value : List Char}
    (h : value ∈ matchesOf (delimited opening closing) cs) : value ≠ [] ∧ value <:+: cs := by
  obtain ⟨tail, taken, htail, hfound⟩ := exists_of_mem_matchesOf h
  obtain ⟨-, behind, hvalue⟩ := delimited_eq_some_iff.mp hfound
  refine ⟨hvalue.ne_nil, List.IsInfix.trans ⟨opening, closing :: behind, ?_⟩ htail.isInfix⟩
  rw [hvalue.eq_append]
  simp

end Delimited

/-! ## Bare links -/

/-- The schemes of the web. -/
def IsScheme (scheme : List Char) : Prop :=
  scheme = "http://".toList ∨ scheme = "https://".toList

/-- A scheme of the web and at least one character behind it, all of which a link may hold. -/
def IsBareLink (word : List Char) : Prop :=
  ∃ scheme body, IsScheme scheme ∧ word = scheme ++ body ∧ body ≠ [] ∧
    ∀ c ∈ body, isLinkChar c = true

/-- No text begins with both schemes. -/
theorem IsScheme.unique {v w cs : List Char} (hv : IsScheme v) (hw : IsScheme w) (hvcs : v <+: cs)
    (hwcs : w <+: cs) : v = w := by
  have hapart : ¬ "http://".toList <+: "https://".toList := by decide
  rcases hv with rfl | rfl <;> rcases hw with rfl | rfl
  · rfl
  · exact absurd (List.prefix_of_prefix_length_le hvcs hwcs (by decide)) hapart
  · exact absurd (List.prefix_of_prefix_length_le hwcs hvcs (by decide)) hapart
  · rfl

theorem bareLink_of_not {cs : List Char} (h : ∀ scheme, IsScheme scheme → ¬ scheme <+: cs) :
    bareLink cs = none := by
  have hplain : "http://".toList.isPrefixOf? cs = none :=
    isPrefixOf?_eq_none_iff.mpr (h _ (.inl rfl))
  have hsecure : "https://".toList.isPrefixOf? cs = none :=
    isPrefixOf?_eq_none_iff.mpr (h _ (.inr rfl))
  rw [bareLink, hplain, hsecure]
  rfl

/-- Behind a scheme a bare link goes on as long as it can. -/
theorem bareLink_append {scheme : List Char} (h : IsScheme scheme) (rest : List Char) :
    bareLink (scheme ++ rest) =
      if (rest.takeWhile isLinkChar).isEmpty then none
      else some (scheme ++ rest.takeWhile isLinkChar,
        scheme.length + (rest.takeWhile isLinkChar).length) := by
  rcases h with rfl | rfl
  · have hsecure : "https://".toList.isPrefixOf? ("http://".toList ++ rest) = none := by
      rw [isPrefixOf?_eq_none_iff]
      intro hprefix
      have heq := IsScheme.unique (.inl rfl) (.inr rfl) (List.prefix_append _ rest) hprefix
      exact absurd heq (by decide)
    rw [bareLink, hsecure, isPrefixOf?_append]
    rfl
  · rw [bareLink, isPrefixOf?_append]

/-- What is at the front of a text as a bare link has its scheme. -/
theorem body_prefix_of_bareLink {scheme rest word : List Char} (hscheme : IsScheme scheme)
    (hword : IsBareLink word) (h : word <+: scheme ++ rest) :
    ∃ body, word = scheme ++ body ∧ body ≠ [] ∧ body <+: rest.takeWhile isLinkChar := by
  obtain ⟨other, body, hother, rfl, hne, hbody⟩ := hword
  obtain rfl := hother.unique hscheme ((List.prefix_append other body).trans h)
    (List.prefix_append scheme rest)
  obtain ⟨behind, rfl⟩ := (List.prefix_append_right_inj other).mp h
  refine ⟨body, rfl, hne, ?_⟩
  rw [List.takeWhile_append_of_pos hbody]
  exact List.prefix_append _ _

/-- The pattern of bare links reads their language. -/
theorem reads_bareLink : Reads bareLink IsBareLink where
  ne_nil := by
    rintro word ⟨scheme, body, -, rfl, hne, -⟩
    exact List.append_ne_nil_of_right_ne_nil scheme hne
  of_some := by
    intro cs word taken h
    by_cases hcs : ∃ scheme, IsScheme scheme ∧ scheme <+: cs
    · obtain ⟨scheme, hscheme, rest, rfl⟩ := hcs
      rw [bareLink_append hscheme] at h
      split at h
      · cases h
      · next hne =>
        obtain ⟨rfl, rfl⟩ := Prod.mk.inj (Option.some.inj h)
        refine ⟨⟨?_, ?_, fun hother hprefix => ?_⟩, by rw [List.length_append]⟩
        · exact ⟨scheme, _, hscheme, rfl, by simpa using hne, fun c hc => List.mem_takeWhile_imp hc⟩
        · exact (List.prefix_append_right_inj scheme).mpr (List.takeWhile_prefix _)
        · obtain ⟨body, rfl, -, hbody⟩ := body_prefix_of_bareLink hscheme hother hprefix
          rw [List.length_append, List.length_append]
          exact Nat.add_le_add_left hbody.length_le _
    · rw [bareLink_of_not fun scheme hscheme hprefix => hcs ⟨scheme, hscheme, hprefix⟩] at h
      cases h
  of_none := by
    intro cs word h hword hprefix
    obtain ⟨scheme, hscheme, rest, rfl⟩ : ∃ scheme, IsScheme scheme ∧ scheme <+: cs := by
      obtain ⟨scheme, body, hscheme, rfl, -⟩ := hword
      exact ⟨scheme, hscheme, (List.prefix_append scheme body).trans hprefix⟩
    obtain ⟨body, -, hne, hbody⟩ := body_prefix_of_bareLink hscheme hword hprefix
    rw [bareLink_append hscheme] at h
    split at h
    · next hnil =>
      rw [List.isEmpty_iff.mp hnil] at hbody
      exact hne (List.prefix_nil.mp hbody)
    · cases h

/-- There is no bare link exactly if behind every scheme stands something else. -/
theorem matchesOf_bareLink_eq_nil_iff {cs : List Char} :
    matchesOf bareLink cs = [] ↔
      ∀ ahead scheme c rest, IsScheme scheme → cs = ahead ++ (scheme ++ c :: rest) →
        isLinkChar c = false := by
  rw [matchesOf_eq_nil_iff]
  constructor
  · rintro h ahead scheme c rest hscheme rfl
    have hnone := h _ (List.suffix_append ahead _) (by simp)
    by_contra hc
    have hword : IsBareLink (scheme ++ [c]) :=
      ⟨scheme, [c], hscheme, rfl, List.cons_ne_nil _ _, by simpa using hc⟩
    exact reads_bareLink.of_none hnone hword ⟨rest, by simp⟩
  · rintro h tail ⟨ahead, rfl⟩ -
    refine reads_bareLink.eq_none ?_
    rintro word ⟨scheme, body, hscheme, rfl, hne, hbody⟩ ⟨rest, rfl⟩
    obtain ⟨c, body, rfl⟩ := List.exists_cons_of_ne_nil hne
    have hc := h ahead scheme c (body ++ rest) hscheme (by simp)
    rw [hbody c List.mem_cons_self] at hc
    cases hc

/-- A bare link that is found is part of the text and not empty. -/
theorem infix_of_mem_matchesOf_bareLink {cs word : List Char}
    (h : word ∈ matchesOf bareLink cs) : word ≠ [] ∧ word <:+: cs := by
  obtain ⟨tail, taken, htail, hfound⟩ := exists_of_mem_matchesOf h
  obtain ⟨hword, -⟩ := reads_bareLink.of_some hfound
  exact ⟨reads_bareLink.ne_nil hword.mem, hword.isPrefix.isInfix.trans htail.isInfix⟩

end Media

end TaskDesk
