/-
Sai/Enum.lean

Enumerations of the SAI codec: `sai_serialize_enum` and `sai_deserialize_enum`.

The tables of the enumerations are generated from the SAI headers.  Their names are
the enumerators: different ones, and identifiers in capitals.  A value that is not in the table is
written as a number, and no number is an identifier, so every value is read back.
-/
import Sonic.Sai.Address

namespace Sai

open Numeral IntType

/-- The characters of enumerators, which are in capitals. -/
def isIdentifierChar (c : Char) : Bool :=
  ('A' ≤ c ∧ c ≤ 'Z') ∨ ('0' ≤ c ∧ c ≤ '9') ∨ c = '_'

/-- The name of an enumerator. -/
def IsIdentifier (name : List Char) : Prop :=
  (∀ c ∈ name, isIdentifierChar c) ∧ ∃ c rest, name = c :: rest ∧ isDigit 10 c = false

/-- The table of an enumeration: values and names. -/
structure sai_enum_metadata_t where
  values : List (IntType.int32.Value × List Char)
  nodup : (values.map (·.2)).Nodup
  identifier : ∀ p ∈ values, IsIdentifier p.2

/-- `sai_serialize_enum`. -/
def sai_serialize_enum (value : IntType.int32.Value) (table : Option sai_enum_metadata_t) :
    List Char :=
  match table with
  | none => sai_serialize_number value false
  | some table =>
    match table.values.find? (·.1 = value) with
    | some p => p.2
    | none => sai_serialize_number value false

/-- `sai_deserialize_enum`. -/
def sai_deserialize_enum (s : List Char) (table : Option sai_enum_metadata_t) :
    Option IntType.int32.Value :=
  match table with
  | none => sai_deserialize_number .int32 s false
  | some table =>
    match table.values.find? (·.2 = c_str s) with
    | some p => some p.1
    | none => sai_deserialize_number .int32 s false

/-- The characters of enumerators and numbers. -/
def EnumChar (c : Char) : Prop := isIdentifierChar c ∨ c = '-'

theorem enumChar_of_isDigit {c : Char} (hc : isDigit 10 c) : EnumChar c := by
  left
  have hdec : '0' ≤ c ∧ c ≤ '9' := by
    by_contra hnot
    unfold isDigit digitVal at hc
    rw [if_neg hnot] at hc
    -- a letter counts from ten
    split_ifs at hc
    all_goals simp at hc
  exact decide_eq_true (Or.inr (Or.inl hdec))

theorem enumChar_ne {c : Char} (hc : EnumChar c) :
    c ≠ ',' ∧ c ≠ ':' ∧ c ≠ '&' ∧ c ≠ '\x00' ∧ c ≠ 'n' ∧ c ≠ 's' := by
  refine ⟨?_, ?_, ?_, ?_, ?_, ?_⟩ <;> rintro rfl <;> exact absurd hc (by unfold EnumChar; decide)

variable {T : IntType}

/-- The characters of a number. -/
theorem mem_sai_serialize_number {v : T.Value} {c : Char}
    (hc : c ∈ sai_serialize_number v false) : isDigit 10 c ∨ c = '-' := by
  have hdigits : ∀ c ∈ Nat.toDigits 10 v.1.natAbs, isDigit 10 c :=
    fun c hc => isDigit_of_mem_toDigits (by decide) (by decide) hc
  rw [sai_serialize_number, if_neg (by decide)] at hc
  split at hc
  · rcases List.mem_cons.mp hc with rfl | hc
    · exact Or.inr rfl
    · exact Or.inl (hdigits c hc)
  · exact Or.inl (hdigits c hc)

theorem sai_serialize_number_ne_nil (v : T.Value) : sai_serialize_number v false ≠ [] := by
  rw [← text_numeralOf]
  exact Shape.text_ne_nil _

/-- The first character of a number. -/
theorem exists_sai_serialize_number_cons (v : T.Value) :
    ∃ c rest, sai_serialize_number v false = c :: rest ∧ (isDigit 10 c ∨ c = '-') := by
  cases htext : sai_serialize_number v false with
  | nil => exact absurd htext (sai_serialize_number_ne_nil v)
  | cons c rest => exact ⟨c, rest, rfl, mem_sai_serialize_number (htext ▸ List.mem_cons_self)⟩

/-- A number is no identifier. -/
theorem not_isIdentifier_number (v : T.Value) : ¬ IsIdentifier (sai_serialize_number v false) := by
  rintro ⟨hchars, c, rest, hcons, hc⟩
  obtain ⟨c', rest', hcons', hc'⟩ := exists_sai_serialize_number_cons v
  obtain ⟨rfl, -⟩ := List.cons.inj (hcons.symm.trans hcons')
  rcases hc' with hc' | rfl
  · rw [hc] at hc'
    exact absurd hc' (by decide)
  · exact absurd (hchars '-' (hcons ▸ List.mem_cons_self)) (by decide)

/-- The characters of what is written for an enumeration. -/
theorem mem_sai_serialize_enum {value : IntType.int32.Value} {table : Option sai_enum_metadata_t}
    {c : Char} (hc : c ∈ sai_serialize_enum value table) : EnumChar c := by
  have hnumber : c ∈ sai_serialize_number value false → EnumChar c := by
    intro hc
    exact (mem_sai_serialize_number hc).elim enumChar_of_isDigit Or.inr
  cases table with
  | none => exact hnumber hc
  | some table =>
    rw [sai_serialize_enum] at hc
    split at hc
    · next p hp => exact Or.inl ((table.identifier p (List.mem_of_find?_eq_some hp)).1 c hc)
    · exact hnumber hc

/-- **A value of an enumeration is read back**, whether it has a name or not. -/
theorem sai_deserialize_serialize_enum (value : IntType.int32.Value)
    (table : Option sai_enum_metadata_t) :
    sai_deserialize_enum (sai_serialize_enum value table) table = some value := by
  have hcut : c_str (sai_serialize_enum value table) = sai_serialize_enum value table :=
    c_str_eq fun hmem => (enumChar_ne (mem_sai_serialize_enum hmem)).2.2.2.1 rfl
  cases table with
  | none => exact sai_deserialize_serialize_number value false
  | some table =>
    rw [sai_deserialize_enum, hcut, sai_serialize_enum]
    cases hfind : table.values.find? (·.1 = value) with
    | none =>
      -- the number is not the name of another value
      have hnone : table.values.find? (·.2 = sai_serialize_number value false) = none := by
        rw [List.find?_eq_none]
        intro p hp hname
        have hident := table.identifier p hp
        rw [of_decide_eq_true hname] at hident
        exact not_isIdentifier_number value hident
      simp only [hnone]
      exact sai_deserialize_serialize_number value false
    | some p =>
      have hmem := List.mem_of_find?_eq_some hfind
      have hvalue : p.1 = value := by simpa using List.find?_some hfind
      obtain ⟨q, hq⟩ : ∃ q, table.values.find? (·.2 = p.2) = some q := by
        rw [← Option.isSome_iff_exists, List.find?_isSome]
        exact ⟨p, hmem, by simp⟩
      have hname : q.2 = p.2 := by simpa using List.find?_some hq
      obtain rfl : q = p :=
        List.inj_on_of_nodup_map table.nodup (List.mem_of_find?_eq_some hq) hmem hname
      simp only [hq, hvalue]

end Sai
