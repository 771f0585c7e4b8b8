import Mathlib.Data.List.Basic
import TaskDesk.Text.Base64

/-!
# Base64 back and forth

Three bytes are written as four characters, and the one or two bytes that are left over at the end
are padded. A group of characters says its bytes, and the bytes say the group again, since padding
has to be canonical. So the texts that can be read are exactly the written ones.

## Main results

- `Base64.toList_encode_group` — bytes are written group by group
- `Base64.decode?_encode` — what was written is read back
- `Base64.eq_encode_of_decodeChars?` — what can be read was written
- `Base64.decode?_eq_some_iff` — a text says exactly the bytes that it is written for
-/

namespace TaskDesk.Base64

/-! ## Characters of the alphabet -/

theorem digitChar_ne_pad {n : Nat} (h : n < 64) : digitChar n ≠ '=' := by
  revert n
  decide

/-- A character with a value is the character of that value. -/
theorem digitChar_of_digitValue? {c : Char} {n : Nat} (h : digitValue? c = some n) :
    n < 64 ∧ digitChar n = c := by
  have hascii : c.toNat < 128 := by
    simp only [digitValue?] at h
    split_ifs at h with hupper hlower hdigit hplus hslash
    · omega
    · omega
    · omega
    · rw [hplus]; decide
    · rw [hslash]; decide
  -- The alphabet is small enough to go through it.
  have hall : ∀ m < 128, ∀ n ∈ digitValue? (Char.ofNat m),
      n < 64 ∧ digitChar n = Char.ofNat m := by
    decide
  have hc := hall c.toNat hascii n
  rw [Char.ofNat_toNat] at hc
  exact hc h

/-! ## What is written -/

theorem toList_encodeAfter (written : String) : (bytes : List UInt8) →
    (encodeAfter written bytes).toList = written.toList ++ (encode bytes).toList
  | [] | [_] | [_, _] => by simp [encode, encodeAfter]
  | a :: b :: c :: rest => by
    rw [encodeAfter, encode, encodeAfter, toList_encodeAfter _ rest,
      toList_encodeAfter (String.push _ _) rest]
    simp

theorem toList_encode_one (a : UInt8) :
    (encode [a]).toList = [digitChar (a.toNat / 4), digitChar (a.toNat % 4 * 16), '=', '='] := by
  simp [encode, encodeAfter]

theorem toList_encode_two (a b : UInt8) :
    (encode [a, b]).toList =
      [digitChar (a.toNat / 4), digitChar (a.toNat % 4 * 16 + b.toNat / 16),
        digitChar (b.toNat % 16 * 4), '='] := by
  simp [encode, encodeAfter]

/-- Bytes are written group by group. -/
theorem toList_encode_group (a b c : UInt8) (rest : List UInt8) :
    (encode (a :: b :: c :: rest)).toList =
      digitChar (a.toNat / 4) :: digitChar (a.toNat % 4 * 16 + b.toNat / 16) ::
        digitChar (b.toNat % 16 * 4 + c.toNat / 64) :: digitChar (c.toNat % 64) ::
          (encode rest).toList := by
  rw [encode, encodeAfter, toList_encodeAfter]
  simp

/-! ## Groups of characters -/

theorem toNat_ofNat {n : Nat} (h : n < 256) : (UInt8.ofNat n).toNat = n := by
  rw [UInt8.toNat_ofNat', Nat.mod_eq_of_lt h]

section Groups

variable {x y z w : Nat} (hx : x < 64) (hy : y < 64) (hz : z < 64) (hw : w < 64)

include hx hy in
theorem decodeChars?_one :
    decodeChars? [digitChar x, digitChar y, '=', '='] =
      if y % 16 = 0 then some [UInt8.ofNat (x * 4 + y / 16)] else none := by
  simp only [decodeChars?, digitValue?_digitChar hx, digitValue?_digitChar hy, Option.bind_eq_bind,
    Option.bind_some, true_and, if_true]

include hx hy hz in
theorem decodeChars?_two :
    decodeChars? [digitChar x, digitChar y, digitChar z, '='] =
      if z % 4 = 0 then some [UInt8.ofNat (x * 4 + y / 16), UInt8.ofNat (y % 16 * 16 + z / 4)]
      else none := by
  simp only [decodeChars?, digitValue?_digitChar hx, digitValue?_digitChar hy,
    digitValue?_digitChar hz, Option.bind_eq_bind, Option.bind_some, digitChar_ne_pad hz, true_and,
    if_true, if_false]

include hx hy hz hw in
theorem decodeChars?_group (rest : List Char) :
    decodeChars? (digitChar x :: digitChar y :: digitChar z :: digitChar w :: rest) =
      (decodeChars? rest).map fun tail =>
        UInt8.ofNat (x * 4 + y / 16) :: UInt8.ofNat (y % 16 * 16 + z / 4) ::
          UInt8.ofNat (z % 4 * 64 + w) :: tail := by
  simp only [decodeChars?, digitValue?_digitChar hx, digitValue?_digitChar hy,
    digitValue?_digitChar hz, digitValue?_digitChar hw, Option.bind_eq_bind, Option.bind_some,
    digitChar_ne_pad hz, digitChar_ne_pad hw, if_false]
  cases decodeChars? rest <;> rfl

include hx hy in
/-- A last byte whose unused bits are zero is written as its two characters again. -/
theorem toList_encode_ofNat_one (h : y % 16 = 0) :
    (encode [UInt8.ofNat (x * 4 + y / 16)]).toList = [digitChar x, digitChar y, '=', '='] := by
  rw [toList_encode_one, toNat_ofNat (by omega)]
  have hfirst : (x * 4 + y / 16) / 4 = x := by omega
  have hsecond : (x * 4 + y / 16) % 4 * 16 = y := by omega
  rw [hfirst, hsecond]

include hx hy hz in
theorem toList_encode_ofNat_two (h : z % 4 = 0) :
    (encode [UInt8.ofNat (x * 4 + y / 16), UInt8.ofNat (y % 16 * 16 + z / 4)]).toList =
      [digitChar x, digitChar y, digitChar z, '='] := by
  rw [toList_encode_two, toNat_ofNat (by omega), toNat_ofNat (by omega)]
  have hfirst : (x * 4 + y / 16) / 4 = x := by omega
  have hsecond : (x * 4 + y / 16) % 4 * 16 + (y % 16 * 16 + z / 4) / 16 = y := by omega
  have hthird : (y % 16 * 16 + z / 4) % 16 * 4 = z := by omega
  rw [hfirst, hsecond, hthird]

include hx hy hz hw in
theorem toList_encode_ofNat_group (rest : List UInt8) :
    (encode (UInt8.ofNat (x * 4 + y / 16) :: UInt8.ofNat (y % 16 * 16 + z / 4) ::
        UInt8.ofNat (z % 4 * 64 + w) :: rest)).toList =
      digitChar x :: digitChar y :: digitChar z :: digitChar w :: (encode rest).toList := by
  rw [toList_encode_group, toNat_ofNat (by omega), toNat_ofNat (by omega), toNat_ofNat (by omega)]
  have hfirst : (x * 4 + y / 16) / 4 = x := by omega
  have hsecond : (x * 4 + y / 16) % 4 * 16 + (y % 16 * 16 + z / 4) / 16 = y := by omega
  have hthird : (y % 16 * 16 + z / 4) % 16 * 4 + (z % 4 * 64 + w) / 64 = z := by omega
  have hfourth : (z % 4 * 64 + w) % 64 = w := by omega
  rw [hfirst, hsecond, hthird, hfourth]

end Groups

/-! ## What is read -/

theorem ofNat_eq {a : UInt8} {n : Nat} (h : n = a.toNat) : UInt8.ofNat n = a := by
  rw [h, UInt8.ofNat_toNat]

theorem decodeChars?_toList_encode : (bytes : List UInt8) →
    decodeChars? (encode bytes).toList = some bytes
  | [] => rfl
  | [a] => by
    have ha := a.toNat_lt
    rw [toList_encode_one, decodeChars?_one (by omega) (by omega), if_pos (by omega),
      ofNat_eq (a := a) (by omega)]
  | [a, b] => by
    have ha := a.toNat_lt
    have hb := b.toNat_lt
    rw [toList_encode_two, decodeChars?_two (by omega) (by omega) (by omega), if_pos (by omega),
      ofNat_eq (a := a) (by omega), ofNat_eq (a := b) (by omega)]
  | a :: b :: c :: rest => by
    have ha := a.toNat_lt
    have hb := b.toNat_lt
    have hc := c.toNat_lt
    rw [toList_encode_group, decodeChars?_group (by omega) (by omega) (by omega) (by omega),
      decodeChars?_toList_encode rest, Option.map_some, ofNat_eq (a := a) (by omega),
      ofNat_eq (a := b) (by omega), ofNat_eq (a := c) (by omega)]

/-- What was written is read back. -/
theorem decode?_encode (bytes : List UInt8) : decode? (encode bytes) = some bytes :=
  decodeChars?_toList_encode bytes

/-- What can be read was written. -/
theorem eq_encode_of_decodeChars? {cs : List Char} {bytes : List UInt8}
    (h : decodeChars? cs = some bytes) : (encode bytes).toList = cs := by
  fun_induction decodeChars? cs generalizing bytes with
  | case1 =>
    obtain rfl := Option.some.inj h
    rfl
  | case2 a b c d rest ih =>
    obtain ⟨x, hfirst, hfrom⟩ := Option.bind_eq_some_iff.mp h
    obtain ⟨y, hsecond, hread⟩ := Option.bind_eq_some_iff.mp hfrom
    clear h hfrom
    obtain ⟨hx, rfl⟩ := digitChar_of_digitValue? hfirst
    obtain ⟨hy, rfl⟩ := digitChar_of_digitValue? hsecond
    by_cases hc : c = '='
    · rw [if_pos hc] at hread
      split at hread
      · next hpad =>
        obtain ⟨rfl, rfl, hbits⟩ := hpad
        obtain rfl := Option.some.inj hread
        rw [hc]
        exact toList_encode_ofNat_one hx hy hbits
      · cases hread
    · rw [if_neg hc] at hread
      obtain ⟨z, hthird, hlast⟩ := Option.bind_eq_some_iff.mp hread
      clear hread
      obtain ⟨hz, rfl⟩ := digitChar_of_digitValue? hthird
      by_cases hd : d = '='
      · rw [if_pos hd] at hlast
        split at hlast
        · next hpad =>
          obtain ⟨rfl, hbits⟩ := hpad
          obtain rfl := Option.some.inj hlast
          rw [hd]
          exact toList_encode_ofNat_two hx hy hz hbits
        · cases hlast
      · rw [if_neg hd] at hlast
        obtain ⟨w, hfourth, hbehind⟩ := Option.bind_eq_some_iff.mp hlast
        obtain ⟨tail, htail, hbytes⟩ := Option.bind_eq_some_iff.mp hbehind
        obtain ⟨hw, rfl⟩ := digitChar_of_digitValue? hfourth
        obtain rfl := Option.some.inj hbytes
        rw [toList_encode_ofNat_group hx hy hz hw, ih htail]
  | case3 => cases h

/-- A text says exactly the bytes that it is written for. -/
theorem decode?_eq_some_iff {text : String} {bytes : List UInt8} :
    decode? text = some bytes ↔ text = encode bytes := by
  constructor
  · intro h
    rw [← String.toList_inj, eq_encode_of_decodeChars? h]
  · rintro rfl
    exact decode?_encode bytes

end TaskDesk.Base64
