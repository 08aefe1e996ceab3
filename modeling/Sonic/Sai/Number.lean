/-
Sai/Number.lean

Numbers of the SAI codec: `sai_serialize_number` and `sai_deserialize_number`.

A number is read with `strtoull`, whatever its type, and then cast to the type.  The
cast is not checked, so a text is read as the number it writes exactly when the
number is in the range of the type, and the text is one that `strtoull` is strict
about: not empty, without blanks in front and without a plus sign
(`number_sound_iff`).  What the codec writes is such a text, and is read back.
-/
import Sonic.Lib.Numeral

namespace Sai

open Numeral

/-- The integer types of attribute values. -/
inductive IntType where
  | uint8 | int8 | uint16 | int16 | uint32 | int32 | uint64 | int64
  deriving DecidableEq, Repr

namespace IntType

def width : IntType → ℕ
  | uint8 | int8 => 8
  | uint16 | int16 => 16
  | uint32 | int32 => 32
  | uint64 | int64 => 64

def signed : IntType → Bool
  | uint8 | uint16 | uint32 | uint64 => false
  | int8 | int16 | int32 | int64 => true

/-- The least value of a type. -/
def min (T : IntType) : ℤ := if T.signed then -2 ^ (T.width - 1) else 0

/-- The greatest value of a type. -/
def max (T : IntType) : ℤ := T.min + 2 ^ T.width - 1

/-- The values of a type. -/
abbrev Value (T : IntType) := {n : ℤ // T.min ≤ n ∧ n ≤ T.max}

/-- The cast to a type, which keeps the low bits. -/
def cast (T : IntType) (n : ℤ) : T.Value :=
  ⟨T.min + (n - T.min) % 2 ^ T.width, by
    have hpos : (0 : ℤ) < 2 ^ T.width := by positivity
    have hnonneg := Int.emod_nonneg (n - T.min) hpos.ne'
    have hlt := Int.emod_lt_of_pos (n - T.min) hpos
    unfold max
    omega⟩

variable {T : IntType}

/-- A number that agrees with a value in the low bits is cast to it. -/
theorem cast_eq {v : T.Value} {n : ℤ} (h : (2 ^ T.width : ℤ) ∣ n - v) : T.cast n = v := by
  obtain ⟨k, hk⟩ := h
  apply Subtype.ext
  show T.min + (n - T.min) % 2 ^ T.width = v
  have hmin := v.2.1
  have hmax := v.2.2
  unfold max at hmax
  have hsplit : n - T.min = (v - T.min) + 2 ^ T.width * k := by omega
  rw [hsplit, Int.add_mul_emod_self_left, Int.emod_eq_of_lt (by omega) (by omega)]
  omega

theorem val_cast {n : ℤ} (h : T.min ≤ n ∧ n ≤ T.max) : (T.cast n).1 = n := by
  rw [cast_eq (v := ⟨n, h⟩) (by simp)]

/-- The low bits of a type are low bits of sixty-four. -/
theorem width_dvd : (2 ^ T.width : ℤ) ∣ 2 ^ 64 :=
  pow_dvd_pow 2 (by cases T <;> decide)

end IntType

open IntType

variable {T : IntType} {hex : Bool} {s : List Char}

/-- `sai_serialize_number`. -/
def sai_serialize_number (number : T.Value) (hex : Bool) : List Char :=
  if hex then ['0', 'x'] ++ Nat.toDigits 16 (number.1 % 2 ^ 64).toNat
  else if number.1 < 0 then '-' :: Nat.toDigits 10 number.1.natAbs
  else Nat.toDigits 10 number.1.natAbs

/-- `sai_deserialize_number`. -/
def sai_deserialize_number (T : IntType) (s : List Char) (hex : Bool) : Option T.Value :=
  let r := strtoull s hex
  if r.erange ∨ r.endptr ≠ [] then none else some (T.cast r.number)

/-! ### What is read -/

/-- The number of a numeral as `strtoull` returns it. -/
theorem strtoull_number {t : Shape hex} (ht : t.magnitude < 2 ^ 64) :
    (2 ^ 64 : ℤ) ∣ (strtoull t.text hex).number - t.toInt := by
  rw [t.strtoull_text, if_pos ht]
  unfold Shape.toInt
  cases t.negative
  · simp
  · show (2 ^ 64 : ℤ) ∣ (((2 ^ 64 - t.magnitude) % 2 ^ 64 : ℕ) : ℤ) - -t.magnitude
    omega

theorem sai_deserialize_number_text {t : Shape hex} (ht : t.magnitude < 2 ^ 64) :
    ∃ n : ℤ, sai_deserialize_number T t.text hex = some (T.cast n) ∧ (2 ^ 64 : ℤ) ∣ n - t.toInt := by
  refine ⟨(strtoull t.text hex).number, ?_, strtoull_number ht⟩
  have hread : ¬ ((strtoull t.text hex).erange = true ∨ (strtoull t.text hex).endptr ≠ []) := by
    rw [t.strtoull_text, if_pos ht]
    simp
  rw [sai_deserialize_number, if_neg hread]

/-- A numeral in the range of the type is read as its number. -/
theorem sai_deserialize_number_of_range {t : Shape hex} (ht : t.magnitude < 2 ^ 64)
    (v : T.Value) (hv : t.toInt = v) : sai_deserialize_number T t.text hex = some v := by
  obtain ⟨n, hread, hdvd⟩ := sai_deserialize_number_text (T := T) ht
  rw [hread, cast_eq (T.width_dvd.trans (hv ▸ hdvd))]

/-- What is read is the empty text or a numeral. -/
theorem sai_deserialize_number_eq_some {v : T.Value}
    (h : sai_deserialize_number T s hex = some v) :
    s = [] ∨ ∃ t : Shape hex, t.text = s ∧ t.magnitude < 2 ^ 64 := by
  rw [sai_deserialize_number] at h
  split at h
  · exact absurd h (by simp)
  · next hread =>
      obtain ⟨herange, hend⟩ := not_or.mp hread
      refine (strtoull_endptr_eq_nil.mp (not_not.mp hend)).imp_right ?_
      rintro ⟨t, rfl⟩
      refine ⟨t, rfl, ?_⟩
      by_contra hle
      rw [t.strtoull_text, if_neg hle] at herange
      exact herange rfl

/-! ### What is written is read back -/

theorem natAbs_lt (v : T.Value) : v.1.natAbs < 2 ^ 64 := by
  obtain ⟨n, hmin, hmax⟩ := v
  cases T <;> simp [IntType.min, IntType.max, IntType.width, IntType.signed] at hmin hmax ⊢ <;> omega

/-- A decimal numeral, with or without a minus sign. -/
def decimal (negative : Bool) (n : ℕ) : Shape false where
  blanks := []
  sign := if negative then ['-'] else []
  mark := []
  digits := Nat.toDigits 10 n
  blank := by simp
  signed := by cases negative <;> simp
  marked := Or.inl rfl
  ne_nil := Nat.toDigits_ne_nil
  digit _ hc := isDigit_of_mem_toDigits (by decide) (by decide) hc

/-- A hexadecimal numeral with its mark. -/
def hexadecimal (n : ℕ) : Shape true where
  blanks := []
  sign := []
  mark := ['0', 'x']
  digits := Nat.toDigits 16 n
  blank := by simp
  signed := Or.inl rfl
  marked := Or.inr ⟨rfl, Or.inl rfl⟩
  ne_nil := Nat.toDigits_ne_nil
  digit _ hc := isDigit_of_mem_toDigits (by decide) (by decide) hc

theorem magnitude_decimal {negative : Bool} {n : ℕ} : (decimal negative n).magnitude = n :=
  value_toDigits (by decide) (by decide)

theorem magnitude_hexadecimal {n : ℕ} : (hexadecimal n).magnitude = n :=
  value_toDigits (by decide) (by decide)

/-- The numeral that is written for a value. -/
def numeralOf (v : T.Value) : (hex : Bool) → Shape hex
  | true => hexadecimal (v.1 % 2 ^ 64).toNat
  | false => decimal (v.1 < 0) v.1.natAbs

theorem text_numeralOf (v : T.Value) (hex : Bool) :
    (numeralOf v hex).text = sai_serialize_number v hex := by
  cases hex with
  | true => rfl
  | false =>
    show (if decide (v.1 < 0) = true then ['-'] else []) ++ Nat.toDigits 10 v.1.natAbs
      = if v.1 < 0 then '-' :: Nat.toDigits 10 v.1.natAbs else Nat.toDigits 10 v.1.natAbs
    simp only [decide_eq_true_eq]
    split <;> rfl

theorem magnitude_numeralOf (v : T.Value) (hex : Bool) :
    (numeralOf v hex).magnitude < 2 ^ 64 := by
  cases hex with
  | true =>
    show (hexadecimal (v.1 % 2 ^ 64).toNat).magnitude < 2 ^ 64
    rw [magnitude_hexadecimal]
    omega
  | false =>
    show (decimal (v.1 < 0) v.1.natAbs).magnitude < 2 ^ 64
    rw [magnitude_decimal]
    exact natAbs_lt v

theorem toInt_numeralOf (v : T.Value) (hex : Bool) :
    (2 ^ 64 : ℤ) ∣ (numeralOf v hex).toInt - v := by
  cases hex with
  | true =>
    show (2 ^ 64 : ℤ) ∣ ((hexadecimal (v.1 % 2 ^ 64).toNat).magnitude : ℤ) - v
    rw [magnitude_hexadecimal]
    omega
  | false =>
    have htoInt : (decimal (v.1 < 0) v.1.natAbs).toInt = v.1 := by
      unfold Shape.toInt
      rw [magnitude_decimal]
      by_cases hneg : v.1 < 0
      · rw [if_pos (by simp [decimal, Shape.negative, hneg])]
        omega
      · rw [if_neg (by simp [decimal, Shape.negative, hneg])]
        omega
    show (2 ^ 64 : ℤ) ∣ (decimal (v.1 < 0) v.1.natAbs).toInt - v
    rw [htoInt, sub_self]
    exact dvd_zero _

/-- **A number is read back**, in either base. -/
theorem sai_deserialize_serialize_number (v : T.Value) (hex : Bool) :
    sai_deserialize_number T (sai_serialize_number v hex) hex = some v := by
  obtain ⟨n, hread, hdvd⟩ := sai_deserialize_number_text (T := T) (magnitude_numeralOf v hex)
  have hcast : (2 ^ 64 : ℤ) ∣ n - v := by
    have hsum := dvd_add hdvd (toInt_numeralOf v hex)
    rwa [sub_add_sub_cancel] at hsum
  rw [← text_numeralOf, hread, cast_eq (T.width_dvd.trans hcast)]

/-! ### Texts that are read as what they write -/

/-- A text writes a number: without blanks in front, and without a plus sign. -/
def Denotes (hex : Bool) (s : List Char) (n : ℤ) : Prop :=
  ∃ t : Shape hex, t.text = s ∧ t.blanks = [] ∧ t.sign ≠ ['+'] ∧ t.toInt = n

/-- A text is read as a number of the type only if it writes it. -/
def NumberSound (T : IntType) (hex : Bool) (s : List Char) : Prop :=
  ∀ v, sai_deserialize_number T s hex = some v → Denotes hex s v.1

/-- A text that `strtoull` reads and that fits into sixty-four bits writes a number
of the type. -/
def NumberText (T : IntType) (hex : Bool) (s : List Char) : Prop :=
  s ≠ [] ∧ ∀ t : Shape hex, t.text = s → t.magnitude < 2 ^ 64 →
    t.blanks = [] ∧ t.sign ≠ ['+'] ∧ T.min ≤ t.toInt ∧ t.toInt ≤ T.max

theorem sai_deserialize_number_nil (T : IntType) (hex : Bool) :
    sai_deserialize_number T [] hex = some (T.cast 0) := by
  cases hex <;> rfl

/-- **A text is read as the number it writes exactly if it is strict.** -/
theorem number_sound_iff : NumberSound T hex s ↔ NumberText T hex s := by
  constructor
  · intro h
    refine ⟨?_, ?_⟩
    · rintro rfl
      obtain ⟨t, ht, -⟩ := h _ (sai_deserialize_number_nil T hex)
      exact t.text_ne_nil ht
    · rintro t rfl ht
      obtain ⟨n, hread, -⟩ := sai_deserialize_number_text (T := T) ht
      obtain ⟨t', htext, hblanks, hsign, hint⟩ := h _ hread
      obtain ⟨hblanks', hsign', hint'⟩ := Shape.eq_of_text_eq htext
      refine ⟨hblanks' ▸ hblanks, hsign' ▸ hsign, ?_⟩
      rw [← hint', hint]
      exact (T.cast n).2
  · rintro ⟨hne, h⟩ v hread
    rcases sai_deserialize_number_eq_some hread with hnil | ⟨t, rfl, ht⟩
    · exact absurd hnil hne
    obtain ⟨hblanks, hsign, hrange⟩ := h t rfl ht
    rw [sai_deserialize_number_of_range ht ⟨t.toInt, hrange⟩ rfl] at hread
    obtain rfl := Option.some.inj hread
    exact ⟨t, rfl, hblanks, hsign, rfl⟩

end Sai
