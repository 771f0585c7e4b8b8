import Mathlib.Algebra.Group.Nat.Defs
import Mathlib.Data.Nat.Basic
import TaskDesk.Text.Utf8

/-!
# Reading back UTF-8

The reader gets back every text from its bytes. In bytes that may be anything, a byte below 0x80 is
a character of its own: it stands for itself wherever it comes, it ends what is open before it, and
no other bytes are read as that character. So a text may be taken apart at such a character before
or after its bytes are read.

## Main definitions

- `Utf8.Pending.pieces` — the pieces from within a sequence
- `Utf8.Pending.Sound` — whatever the sequence becomes is a character beyond ASCII

## Main results

- `Utf8.decodeLossy_encode`, `Utf8.decode?_encode` — a text is read back from its bytes
- `Utf8.decodeLossy_append_cons` — a text is cut at an ASCII character as its bytes are
- `Utf8.mem_of_mem_decodeLossy`, `Utf8.eq_encode_of_decodeLossy_eq` — what is read as ASCII is ASCII
-/

namespace TaskDesk.Utf8

/-! ## Piece by piece -/

/-- The pieces of the bytes that come after an open sequence. -/
def Pending.pieces (p : Pending) (bytes : List UInt8) : List (Option Char) :=
  piecesFrom [] (some p) bytes

/-- The byte continues the sequence. -/
def Pending.Takes (p : Pending) (b : UInt8) : Prop :=
  p.low ≤ b.toNat ∧ b.toNat ≤ p.high

/-- A byte that does not continue the sequence breaks it off and is read again. -/
theorem step_of_not_takes {p : Pending} {b : UInt8} (h : ¬ p.Takes b)
    (done : List (Option Char)) : step done (some p) b = step (none :: done) none b := by
  have htakes : ¬ (p.low ≤ b.toNat ∧ b.toNat ≤ p.high) := h
  simp only [step, if_neg htakes]

theorem step_none_eq (done : List (Option Char)) (b : UInt8) :
    step done none b = ((step [] none b).1 ++ done, (step [] none b).2) := by
  unfold step
  cases lead b <;> rfl

/-- What was read before stays as it is. -/
theorem step_eq (done : List (Option Char)) (pending : Option Pending) (b : UInt8) :
    step done pending b = ((step [] pending b).1 ++ done, (step [] pending b).2) := by
  cases pending with
  | none => exact step_none_eq done b
  | some p =>
    by_cases h : p.Takes b
    · have htakes : p.low ≤ b.toNat ∧ b.toNat ≤ p.high := h
      simp only [step, if_pos htakes]
      split <;> rfl
    · rw [step_of_not_takes h, step_of_not_takes h, step_none_eq, step_none_eq [none],
        List.append_assoc]
      rfl

theorem piecesFrom_eq (done : List (Option Char)) (pending : Option Pending) (bytes : List UInt8) :
    piecesFrom done pending bytes = done.reverse ++ piecesFrom [] pending bytes := by
  induction bytes generalizing done pending with
  | nil => cases pending <;> simp [piecesFrom]
  | cons b bs ih =>
    rw [piecesFrom, piecesFrom, step_eq]
    simp only
    rw [ih, ih (step [] pending b).1, List.reverse_append, List.append_assoc]

@[simp] theorem pieces_nil : pieces [] = [] :=
  rfl

theorem pieces_cons_of_whole {b : UInt8} {c : Char} (h : lead b = .whole c) (bs : List UInt8) :
    pieces (b :: bs) = some c :: pieces bs := by
  simp only [pieces, piecesFrom, step, h]
  exact piecesFrom_eq [some c] none bs

theorem pieces_cons_of_illFormed {b : UInt8} (h : lead b = .illFormed) (bs : List UInt8) :
    pieces (b :: bs) = none :: pieces bs := by
  simp only [pieces, piecesFrom, step, h]
  exact piecesFrom_eq [none] none bs

theorem pieces_cons_of_opens {b : UInt8} {p : Pending} (h : lead b = .opens p)
    (bs : List UInt8) : pieces (b :: bs) = p.pieces bs := by
  simp only [pieces, Pending.pieces, piecesFrom, step, h]

namespace Pending

@[simp] theorem pieces_nil (p : Pending) : p.pieces [] = [none] :=
  rfl

/-- The bits read so far with those of one more byte. -/
def bitsWith (p : Pending) (b : UInt8) : Nat :=
  p.bits * 64 + (b.toNat - 0x80)

/-- The last byte of a sequence. -/
theorem pieces_cons_of_last {p : Pending} {b : UInt8} (hb : p.Takes b) (hp : p.missing ≤ 1)
    (bs : List UInt8) :
    p.pieces (b :: bs) = some (Char.ofNat (p.bitsWith b)) :: Utf8.pieces bs := by
  have htakes : p.low ≤ b.toNat ∧ b.toNat ≤ p.high := hb
  simp only [pieces, piecesFrom, step, if_pos htakes, if_pos hp]
  exact piecesFrom_eq [some _] none bs

/-- The sequence after one more byte. -/
def next (p : Pending) (b : UInt8) : Pending :=
  ⟨p.bitsWith b, p.missing - 1, 0x80, 0xBF⟩

theorem pieces_cons_of_takes {p : Pending} {b : UInt8} (hb : p.Takes b) (hp : 1 < p.missing)
    (bs : List UInt8) : p.pieces (b :: bs) = (p.next b).pieces bs := by
  have htakes : p.low ≤ b.toNat ∧ b.toNat ≤ p.high := hb
  simp only [pieces, piecesFrom, step, if_pos htakes, if_neg (Nat.not_le.mpr hp)]
  rfl

theorem pieces_cons_of_not_takes {p : Pending} {b : UInt8} (hb : ¬ p.Takes b) (bs : List UInt8) :
    p.pieces (b :: bs) = none :: Utf8.pieces (b :: bs) := by
  simp only [pieces, Utf8.pieces, piecesFrom]
  rw [step_of_not_takes hb, step_none_eq, piecesFrom_eq, piecesFrom_eq (step [] none b).1,
    List.reverse_append]
  rfl

end Pending

/-! ## First bytes -/

theorem lead_of_lt {b : UInt8} (h : b.toNat < 0x80) : lead b = .whole (Char.ofNat b.toNat) := by
  simp only [lead, if_pos h]

theorem lead_two {b : UInt8} (hlow : 0xC2 ≤ b.toNat) (hhigh : b.toNat < 0xE0) :
    lead b = .opens ⟨b.toNat - 0xC0, 1, 0x80, 0xBF⟩ := by
  simp only [lead]
  rw [if_neg (by omega), if_neg (by omega), if_pos hhigh]

theorem lead_three {b : UInt8} (hlow : 0xE0 ≤ b.toNat) (hhigh : b.toNat < 0xF0) :
    lead b = .opens ⟨b.toNat - 0xE0, 2, if b.toNat = 0xE0 then 0xA0 else 0x80,
      if b.toNat = 0xED then 0x9F else 0xBF⟩ := by
  simp only [lead]
  rw [if_neg (by omega), if_neg (by omega), if_neg (by omega)]
  by_cases h0 : b.toNat = 0xE0
  · simp [h0]
  · by_cases hD : b.toNat = 0xED
    · simp [hD]
    · simp [h0, hD, hhigh]

theorem lead_four {b : UInt8} (hlow : 0xF0 ≤ b.toNat) (hhigh : b.toNat ≤ 0xF4) :
    lead b = .opens ⟨b.toNat - 0xF0, 3, if b.toNat = 0xF0 then 0x90 else 0x80,
      if b.toNat = 0xF4 then 0x8F else 0xBF⟩ := by
  simp only [lead]
  rw [if_neg (by omega), if_neg (by omega), if_neg (by omega), if_neg (by omega),
    if_neg (by omega), if_neg (by omega)]
  by_cases h0 : b.toNat = 0xF0
  · simp [h0]
  · by_cases h4 : b.toNat = 0xF4
    · simp [h4]
    · have hlt : b.toNat < 0xF4 := by omega
      simp [h0, h4, hlt]

theorem lead_of_stray {b : UInt8} (h : 0x80 ≤ b.toNat ∧ b.toNat < 0xC2 ∨ 0xF4 < b.toNat) :
    lead b = .illFormed := by
  simp only [lead]
  rcases h with ⟨hlow, hhigh⟩ | h
  · rw [if_neg (by omega), if_pos hhigh]
  · rw [if_neg (by omega), if_neg (by omega), if_neg (by omega), if_neg (by omega),
      if_neg (by omega), if_neg (by omega), if_neg (by omega), if_neg (by omega),
      if_neg (by omega)]

/-! ## Well-formed text -/

theorem Pending.pieces_last {p : Pending} {b : UInt8} (hb : p.Takes b) (hp : p.missing ≤ 1)
    {c : Char} (hc : c.toNat = p.bitsWith b) (bs : List UInt8) :
    p.pieces (b :: bs) = some c :: Utf8.pieces bs := by
  rw [pieces_cons_of_last hb hp, ← hc, Char.ofNat_toNat]

/-- The byte may stand within a sequence. -/
def IsTail (b : UInt8) : Prop :=
  0x80 ≤ b.toNat ∧ b.toNat ≤ 0xBF

theorem pieces_two {a b : UInt8} {c : Char} (hlow : 0xC2 ≤ a.toNat) (hhigh : a.toNat < 0xE0)
    (hb : IsTail b) (hc : c.toNat = (a.toNat - 0xC0) * 64 + (b.toNat - 0x80))
    (bs : List UInt8) : pieces (a :: b :: bs) = some c :: pieces bs := by
  rw [pieces_cons_of_opens (lead_two hlow hhigh)]
  refine Pending.pieces_last ?_ ?_ ?_ bs
  · exact hb
  · exact Nat.le_refl 1
  · exact hc

theorem pieces_three {a b d : UInt8} {c : Char} (hlow : 0xE0 ≤ a.toNat) (hhigh : a.toNat < 0xF0)
    (hb : IsTail b) (hlong : a.toNat = 0xE0 → 0xA0 ≤ b.toNat)
    (hsurrogate : a.toNat = 0xED → b.toNat ≤ 0x9F) (hd : IsTail d)
    (hc : c.toNat = ((a.toNat - 0xE0) * 64 + (b.toNat - 0x80)) * 64 + (d.toNat - 0x80))
    (bs : List UInt8) : pieces (a :: b :: d :: bs) = some c :: pieces bs := by
  rw [pieces_cons_of_opens (lead_three hlow hhigh)]
  refine (Pending.pieces_cons_of_takes ⟨?_, ?_⟩ ?_ _).trans (Pending.pieces_last ?_ ?_ ?_ bs)
  · dsimp only
    split
    · exact hlong ‹_›
    · exact hb.1
  · dsimp only
    split
    · exact hsurrogate ‹_›
    · exact hb.2
  · exact Nat.lt_succ_self 1
  · exact hd
  · exact Nat.le_refl 1
  · exact hc

theorem pieces_four {a b d e : UInt8} {c : Char} (hlow : 0xF0 ≤ a.toNat) (hhigh : a.toNat ≤ 0xF4)
    (hb : IsTail b) (hlong : a.toNat = 0xF0 → 0x90 ≤ b.toNat)
    (hlarge : a.toNat = 0xF4 → b.toNat ≤ 0x8F) (hd : IsTail d) (he : IsTail e)
    (hc : c.toNat = (((a.toNat - 0xF0) * 64 + (b.toNat - 0x80)) * 64 + (d.toNat - 0x80)) * 64 +
      (e.toNat - 0x80))
    (bs : List UInt8) : pieces (a :: b :: d :: e :: bs) = some c :: pieces bs := by
  rw [pieces_cons_of_opens (lead_four hlow hhigh)]
  refine (Pending.pieces_cons_of_takes ⟨?_, ?_⟩ ?_ _).trans
    ((Pending.pieces_cons_of_takes ?_ ?_ _).trans (Pending.pieces_last ?_ ?_ ?_ bs))
  · dsimp only
    split
    · exact hlong ‹_›
    · exact hb.1
  · dsimp only
    split
    · exact hlarge ‹_›
    · exact hb.2
  · exact Nat.lt_add_of_pos_left (Nat.succ_pos 1)
  · exact hd
  · exact Nat.lt_succ_self 1
  · exact he
  · exact Nat.le_refl 1
  · exact hc

/-- A character is read back from its bytes. The cases are those of its length. -/
theorem pieces_encodeChar_append (c : Char) (bs : List UInt8) :
    pieces (String.utf8EncodeChar c ++ bs) = some c :: pieces bs := by
  have hvalid : c.toNat < 0xD800 ∨ 0xDFFF < c.toNat ∧ c.toNat < 0x110000 := c.valid
  have hbyte {n : Nat} (hn : n < 256) : (UInt8.ofNat n).toNat = n := UInt8.toNat_ofNat_of_lt' hn
  have htail {n : Nat} : (UInt8.ofNat (n % 64 + 128)).toNat = n % 64 + 128 := hbyte (by omega)
  have hval : c.val.toNat = c.toNat := rfl
  simp only [String.utf8EncodeChar, hval]
  generalize hv : c.toNat = v at hvalid
  split
  · have hb : (UInt8.ofNat v).toNat = v := hbyte (by omega)
    have hlead := lead_of_lt (b := UInt8.ofNat v) (by omega)
    rw [hb, ← hv, Char.ofNat_toNat] at hlead
    rw [← hv]
    exact pieces_cons_of_whole hlead bs
  split
  · have ha : (UInt8.ofNat (v / 64 % 32 + 192)).toNat = v / 64 % 32 + 192 := hbyte (by omega)
    apply pieces_two
    all_goals simp only [IsTail, ha, htail, hv]
    all_goals omega
  split
  · have ha : (UInt8.ofNat (v / 4096 % 16 + 224)).toNat = v / 4096 % 16 + 224 := hbyte (by omega)
    apply pieces_three
    all_goals simp only [IsTail, ha, htail, hv]
    all_goals omega
  · have ha : (UInt8.ofNat (v / 262144 % 8 + 240)).toNat = v / 262144 % 8 + 240 :=
      hbyte (by omega)
    apply pieces_four
    all_goals simp only [IsTail, ha, htail, hv]
    all_goals omega

theorem pieces_encode (s : String) : pieces (encode s) = s.toList.map some := by
  unfold encode
  induction s.toList with
  | nil => rfl
  | cons c cs ih => rw [List.flatMap_cons, pieces_encodeChar_append, ih, List.map_cons]

/-- A text is read back from its bytes. -/
theorem decodeLossy_encode (s : String) : decodeLossy (encode s) = s := by
  have hget : s.toList.map ((fun piece => piece.getD '\uFFFD') ∘ some) = s.toList := by
    exact List.map_id _
  rw [decodeLossy, pieces_encode, List.map_map, hget, String.ofList_toList]

/-- No byte of a text is ill-formed. -/
theorem decode?_encode (s : String) : decode? (encode s) = some s := by
  have hwhole : (s.toList.map some).all Option.isSome := by simp
  have htext : (s.toList.map some).filterMap id = s.toList := by simp [List.filterMap_map]
  rw [decode?, pieces_encode, if_pos hwhole, htext, String.ofList_toList]

/-! ## ASCII among bytes that may be anything -/

namespace Pending

/-- The least value that the sequence can still become. -/
def least (p : Pending) : Nat :=
  (p.bits * 64 + (p.low - 0x80)) * 64 ^ (p.missing - 1)

/-- The values that the sequence can still become are below this one. -/
def limit (p : Pending) : Nat :=
  (p.bits * 64 + (p.high - 0x80) + 1) * 64 ^ (p.missing - 1)

/-- Whatever the sequence becomes is a character, and none of ASCII. -/
structure Sound (p : Pending) : Prop where
  missing_pos : 1 ≤ p.missing
  low_ge : 0x80 ≤ p.low
  least_ge : 0x80 ≤ p.least
  valid : p.limit ≤ 0xD800 ∨ 0xE000 ≤ p.least ∧ p.limit ≤ 0x110000

theorem least_next {p : Pending} (hp : 1 < p.missing) (b : UInt8) :
    (p.next b).least = p.bitsWith b * 64 ^ (p.missing - 1) := by
  obtain ⟨k, hk⟩ : ∃ k, p.missing - 1 = k + 1 := ⟨p.missing - 2, by omega⟩
  simp only [least, next, hk, Nat.add_sub_cancel, Nat.sub_self, Nat.add_zero]
  rw [Nat.pow_succ', Nat.mul_assoc]

theorem limit_next {p : Pending} (hp : 1 < p.missing) (b : UInt8) :
    (p.next b).limit = (p.bitsWith b + 1) * 64 ^ (p.missing - 1) := by
  obtain ⟨k, hk⟩ : ∃ k, p.missing - 1 = k + 1 := ⟨p.missing - 2, by omega⟩
  have hbits : p.bitsWith b * 64 + (0xBF - 0x80) + 1 = (p.bitsWith b + 1) * 64 := by omega
  simp only [limit, next, hk, Nat.add_sub_cancel, hbits]
  rw [Nat.pow_succ', Nat.mul_assoc]

/-- One more byte narrows down what the sequence can become. -/
theorem Sound.next {p : Pending} (h : p.Sound) {b : UInt8} (hb : p.Takes b)
    (hp : 1 < p.missing) : (p.next b).Sound := by
  have hleast : p.least ≤ (p.next b).least := by
    rw [least_next hp]
    exact Nat.mul_le_mul_right _ (Nat.add_le_add_left (Nat.sub_le_sub_right hb.1 _) _)
  have hlimit : (p.next b).limit ≤ p.limit := by
    rw [limit_next hp]
    refine Nat.mul_le_mul_right _ (Nat.succ_le_succ ?_)
    exact Nat.add_le_add_left (Nat.sub_le_sub_right hb.2 _) _
  refine ⟨Nat.le_sub_one_of_lt hp, le_rfl, le_trans h.least_ge hleast, ?_⟩
  rcases h.valid with hvalid | ⟨hge, hle⟩
  · exact .inl (le_trans hlimit hvalid)
  · exact .inr ⟨le_trans hge hleast, le_trans hlimit hle⟩

theorem toNat_ofNat_of_valid {n : Nat} (h : n.isValidChar) : (Char.ofNat n).toNat = n := by
  rw [Char.ofNat, dif_pos h]
  rfl

theorem Sound.toNat_ge {p : Pending} (h : p.Sound) {b : UInt8} (hb : p.Takes b)
    (hp : p.missing ≤ 1) : 0x80 ≤ (Char.ofNat (p.bitsWith b)).toNat := by
  have hone : p.missing - 1 = 0 := Nat.sub_eq_zero_of_le hp
  have hleast : p.least ≤ p.bitsWith b := by
    rw [least, hone, Nat.pow_zero, Nat.mul_one]
    exact Nat.add_le_add_left (Nat.sub_le_sub_right hb.1 _) _
  have hlimit : p.bitsWith b < p.limit := by
    rw [limit, hone, Nat.pow_zero, Nat.mul_one]
    exact Nat.lt_succ_of_le (Nat.add_le_add_left (Nat.sub_le_sub_right hb.2 _) _)
  have hvalid : (p.bitsWith b).isValidChar := by
    rcases h.valid with hle | ⟨hge, hle⟩
    · exact .inl (lt_of_lt_of_le hlimit hle)
    · exact .inr ⟨lt_of_lt_of_le (Nat.lt_succ_self _) (le_trans hge hleast),
        lt_of_lt_of_le hlimit hle⟩
  rw [toNat_ofNat_of_valid hvalid]
  exact le_trans h.least_ge hleast

/-- An open sequence becomes one piece, which is nothing of ASCII. Then reading goes on. -/
theorem Sound.exists_piece {p : Pending} (h : p.Sound) (bytes : List UInt8) :
    ∃ piece rest, p.pieces bytes = piece :: Utf8.pieces rest ∧ rest <:+ bytes ∧
      ∀ c ∈ piece, 0x80 ≤ c.toNat := by
  induction bytes generalizing p with
  | nil => exact ⟨none, [], rfl, List.suffix_rfl, by simp⟩
  | cons b bs ih =>
    by_cases hb : p.Takes b
    · by_cases hp : p.missing ≤ 1
      · refine ⟨some _, bs, pieces_cons_of_last hb hp bs, List.suffix_cons b bs, ?_⟩
        intro c hc
        rw [← Option.mem_some.mp hc]
        exact h.toNat_ge hb hp
      · have hlt : 1 < p.missing := Nat.not_le.mp hp
        obtain ⟨piece, rest, heq, hrest, hwide⟩ := ih (h.next hb hlt)
        refine ⟨piece, rest, ?_, hrest.trans (List.suffix_cons b bs), hwide⟩
        rw [pieces_cons_of_takes hb hlt, heq]
    · exact ⟨none, b :: bs, pieces_cons_of_not_takes hb bs, List.suffix_rfl, by simp⟩

end Pending

/-- A byte beyond ASCII begins nothing, or a sequence that becomes no ASCII character. -/
theorem lead_of_ge {b : UInt8} (hb : 0x80 ≤ b.toNat) :
    lead b = .illFormed ∨ ∃ p, lead b = .opens p ∧ p.Sound := by
  by_cases hstray : b.toNat < 0xC2 ∨ 0xF4 < b.toNat
  · exact .inl (lead_of_stray (hstray.imp_left fun h => ⟨hb, h⟩))
  have hrange : 0xC2 ≤ b.toNat ∧ b.toNat ≤ 0xF4 := by omega
  refine .inr ?_
  by_cases htwo : b.toNat < 0xE0
  · refine ⟨_, lead_two hrange.1 htwo, le_rfl, le_rfl, ?_, .inl ?_⟩
    all_goals simp only [Pending.least, Pending.limit]
    all_goals omega
  by_cases hthree : b.toNat < 0xF0
  · refine ⟨_, lead_three (Nat.not_lt.mp htwo) hthree, Nat.le_succ 1, ?_, ?_, ?_⟩
    all_goals simp only [Pending.least, Pending.limit]
    all_goals grind
  · refine ⟨_, lead_four (Nat.not_lt.mp hthree) hrange.2, Nat.le_add_left 1 2, ?_, ?_, ?_⟩
    all_goals simp only [Pending.least, Pending.limit]
    all_goals grind

/-- An ASCII byte is a character of its own wherever it comes, and it ends what is open. -/
theorem pieces_append_cons {b : UInt8} (hb : b.toNat < 0x80) (xs ys : List UInt8) :
    pieces (xs ++ b :: ys) = pieces xs ++ some (Char.ofNat b.toNat) :: pieces ys := by
  have hcons : pieces (b :: ys) = some (Char.ofNat b.toNat) :: pieces ys :=
    pieces_cons_of_whole (lead_of_lt hb) ys
  -- Beside the text, the induction is on an open sequence, which the byte does not continue.
  suffices h : pieces (xs ++ b :: ys) = pieces xs ++ pieces (b :: ys) ∧
      ∀ p : Pending, p.Sound → p.pieces (xs ++ b :: ys) = p.pieces xs ++ pieces (b :: ys) by
    rw [h.1, hcons]
  induction xs with
  | nil =>
    refine ⟨rfl, fun p hp => ?_⟩
    have hends : ¬ p.Takes b := fun htakes => absurd hp.low_ge (by have := htakes.1; omega)
    exact Pending.pieces_cons_of_not_takes hends ys
  | cons x xs ih =>
    have hclosed : pieces (x :: xs ++ b :: ys) = pieces (x :: xs) ++ pieces (b :: ys) := by
      rw [List.cons_append]
      by_cases hx : x.toNat < 0x80
      · rw [pieces_cons_of_whole (lead_of_lt hx), pieces_cons_of_whole (lead_of_lt hx), ih.1]
        rfl
      · rcases lead_of_ge (Nat.not_lt.mp hx) with hlead | ⟨p, hlead, hp⟩
        · rw [pieces_cons_of_illFormed hlead, pieces_cons_of_illFormed hlead, ih.1]
          rfl
        · rw [pieces_cons_of_opens hlead, pieces_cons_of_opens hlead, ih.2 p hp]
    refine ⟨hclosed, fun p hp => ?_⟩
    by_cases hx : p.Takes x
    · by_cases hmissing : p.missing ≤ 1
      · rw [List.cons_append, Pending.pieces_cons_of_last hx hmissing,
          Pending.pieces_cons_of_last hx hmissing, ih.1]
        rfl
      · have hlt : 1 < p.missing := Nat.not_le.mp hmissing
        rw [List.cons_append, Pending.pieces_cons_of_takes hx hlt,
          Pending.pieces_cons_of_takes hx hlt, ih.2 _ (hp.next hx hlt)]
    · rw [Pending.pieces_cons_of_not_takes hx, List.cons_append,
        Pending.pieces_cons_of_not_takes hx, ← List.cons_append, hclosed]
      rfl

/-- Every piece begins with a byte: an ASCII byte is the whole piece, and any other begins a piece
that is nothing of ASCII. -/
theorem pieces_cons (b : UInt8) (bs : List UInt8) :
    (b.toNat < 0x80 ∧ pieces (b :: bs) = some (Char.ofNat b.toNat) :: pieces bs) ∨
      ∃ piece rest, pieces (b :: bs) = piece :: pieces rest ∧ rest <:+ bs ∧
        ∀ c ∈ piece, 0x80 ≤ c.toNat := by
  by_cases hb : b.toNat < 0x80
  · exact .inl ⟨hb, pieces_cons_of_whole (lead_of_lt hb) bs⟩
  · rcases lead_of_ge (Nat.not_lt.mp hb) with hlead | ⟨p, hlead, hp⟩
    · exact .inr ⟨none, bs, pieces_cons_of_illFormed hlead bs, List.suffix_rfl, by simp⟩
    · rw [pieces_cons_of_opens hlead]
      exact .inr (hp.exists_piece bs)

theorem ofNat_eq_of_toNat {b : UInt8} {c : Char} (hb : b.toNat < 0x80)
    (h : Char.ofNat b.toNat = c) : UInt8.ofNat c.toNat = b := by
  have hvalid : b.toNat.isValidChar := .inl (by omega)
  rw [← h, Pending.toNat_ofNat_of_valid hvalid, UInt8.ofNat_toNat]

/-- What is read as an ASCII character is its byte. -/
theorem mem_of_mem_pieces {c : Char} (hc : c.toNat < 0x80) (bytes : List UInt8)
    (h : some c ∈ pieces bytes) : UInt8.ofNat c.toNat ∈ bytes := by
  match bytes with
  | [] => exact absurd h List.not_mem_nil
  | b :: bs =>
    rcases pieces_cons b bs with ⟨hb, heq⟩ | ⟨piece, rest, heq, hrest, hwide⟩
    · rw [heq, List.mem_cons] at h
      rcases h with h | h
      · rw [ofNat_eq_of_toNat hb (Option.some.inj h).symm]
        exact List.mem_cons_self
      · exact List.mem_cons_of_mem b (mem_of_mem_pieces hc bs h)
    · rw [heq, List.mem_cons] at h
      rcases h with h | h
      · exact absurd (hwide c (Option.mem_def.mpr h.symm)) (Nat.not_le.mpr hc)
      · have hlt := hrest.length_le
        exact List.mem_cons_of_mem b (hrest.subset (mem_of_mem_pieces hc rest h))
termination_by bytes.length

/-- What is read as ASCII text is its bytes. -/
theorem eq_of_pieces_eq {cs : List Char} (hcs : ∀ c ∈ cs, c.toNat < 0x80) {bytes : List UInt8}
    (h : pieces bytes = cs.map some) : bytes = cs.map (UInt8.ofNat ·.toNat) := by
  induction cs generalizing bytes with
  | nil =>
    cases bytes with
    | nil => rfl
    | cons b bs =>
      rcases pieces_cons b bs with ⟨-, heq⟩ | ⟨piece, rest, heq, -⟩
      · cases heq.symm.trans h
      · cases heq.symm.trans h
  | cons c cs ih =>
    cases bytes with
    | nil => cases h
    | cons b bs =>
      rcases pieces_cons b bs with ⟨hb, heq⟩ | ⟨piece, rest, heq, -, hwide⟩
      · obtain ⟨hhead, htail⟩ := List.cons.inj (heq.symm.trans h)
        rw [List.map_cons, ofNat_eq_of_toNat hb (Option.some.inj hhead),
          ih (fun d hd => hcs d (List.mem_cons_of_mem c hd)) htail]
      · obtain ⟨hhead, -⟩ := List.cons.inj (heq.symm.trans h)
        have hlt := hcs c List.mem_cons_self
        exact absurd (hwide c (Option.mem_def.mpr hhead)) (Nat.not_le.mpr hlt)

/-- An ASCII byte of a text is one of its characters. -/
theorem mem_of_mem_encode {b : UInt8} (hb : b.toNat < 0x80) {s : String} (h : b ∈ encode s) :
    Char.ofNat b.toNat ∈ s.toList := by
  obtain ⟨xs, ys, hsplit⟩ := List.append_of_mem h
  have hpieces : pieces (xs ++ b :: ys) = s.toList.map some := hsplit ▸ pieces_encode s
  rw [pieces_append_cons hb] at hpieces
  have hmem : some (Char.ofNat b.toNat) ∈ s.toList.map some :=
    hpieces ▸ List.mem_append_right _ List.mem_cons_self
  obtain ⟨c, hc, heq⟩ := List.mem_map.mp hmem
  exact Option.some.inj heq ▸ hc

/-! ## Lossy reading -/

theorem toList_decodeLossy (bytes : List UInt8) :
    (decodeLossy bytes).toList = (pieces bytes).map (·.getD '\uFFFD') := by
  rw [decodeLossy, String.toList_ofList]

/-- A text is cut at an ASCII character as its bytes are. -/
theorem decodeLossy_append_cons {b : UInt8} (hb : b.toNat < 0x80) (xs ys : List UInt8) :
    (decodeLossy (xs ++ b :: ys)).toList =
      (decodeLossy xs).toList ++ Char.ofNat b.toNat :: (decodeLossy ys).toList := by
  simp only [toList_decodeLossy, pieces_append_cons hb, List.map_append, List.map_cons,
    Option.getD_some]

/-- An ASCII character that is read stands among the bytes. -/
theorem mem_of_mem_decodeLossy {c : Char} (hc : c.toNat < 0x80) {bytes : List UInt8}
    (h : c ∈ (decodeLossy bytes).toList) : UInt8.ofNat c.toNat ∈ bytes := by
  rw [toList_decodeLossy, List.mem_map] at h
  obtain ⟨piece, hmem, hpiece⟩ := h
  cases piece with
  | none => exact absurd hc (by rw [← hpiece]; decide)
  | some d => exact mem_of_mem_pieces hc bytes (by rwa [← show d = c from hpiece])

/-- Only its own bytes are read as an ASCII text. -/
theorem eq_encode_of_decodeLossy_eq {bytes : List UInt8} {s : String}
    (hs : ∀ c ∈ s.toList, c.toNat < 0x80) (h : decodeLossy bytes = s) : bytes = encode s := by
  have hpieces : pieces bytes = s.toList.map some := by
    rw [← h, toList_decodeLossy, List.map_map]
    refine (List.map_id _).symm.trans (List.map_congr_left fun piece hpiece => ?_)
    cases piece with
    | none =>
      have hmem : '\uFFFD' ∈ s.toList := by
        rw [← h, toList_decodeLossy]
        exact List.mem_map_of_mem hpiece
      exact absurd (hs _ hmem) (by decide)
    | some c => rfl
  rw [eq_of_pieces_eq hs hpieces, eq_of_pieces_eq hs (pieces_encode s)]

end TaskDesk.Utf8
