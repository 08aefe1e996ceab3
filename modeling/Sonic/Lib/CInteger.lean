/-
Lib/CInteger.lean

Signed integers as text, as the functions of the C library read them.

`readInt` reads blanks, a sign and as many digits as there are, and tells the integer and the
text that it leaves; in base zero a mark at the front says what the base is.  The functions of
the library differ in what they make of an integer that their type does not have: `strtol`
stays at the bound and sets `errno`, `stoi` and `stoul` throw, `stoul` wraps a negative number,
and `%d` keeps the low bits of what `strtol` returns.  `strtol`, `stoi` and `stoul` also say
where they stopped; a caller that wants the whole text to be a number looks at that.
-/
import Sonic.Lib.Numeral

namespace Numeral

/-- The base of a number, and the text that its digits begin.  With `auto`, base zero: a mark
`0x` with a digit after it is that of base sixteen, and another zero that of base eight. -/
def radix (auto : Bool) (s : List Char) : ℕ × List Char :=
  if auto then
    match s with
    | '0' :: x :: c :: rest =>
      if (x = 'x' ∨ x = 'X') ∧ isDigit 16 c then (16, c :: rest) else (8, s)
    | '0' :: _ => (8, s)
    | _ => (10, s)
  else (10, s)

/-- The integer at the front of a text, and what follows it. -/
def readInt (auto : Bool) (s : List Char) : Option (ℤ × List Char) :=
  let (negative, rest) := takeSign (s.dropWhile isspace)
  let (b, rest) := radix auto rest
  let ds := rest.takeWhile (isDigit b)
  if ds = [] then none
  else
    some (if negative then -(value b ds : ℤ) else value b ds, rest.dropWhile (isDigit b))

/-- The numbers of an `int`. -/
def IsInt (n : ℤ) : Prop := -2 ^ 31 ≤ n ∧ n < 2 ^ 31

instance (n : ℤ) : Decidable (IsInt n) := inferInstanceAs (Decidable (_ ∧ _))

/-- The numbers of a `long`. -/
def IsLong (n : ℤ) : Prop := -2 ^ 63 ≤ n ∧ n < 2 ^ 63

instance (n : ℤ) : Decidable (IsLong n) := inferInstanceAs (Decidable (_ ∧ _))

/-- The `long` next to an integer. -/
def saturate (n : ℤ) : ℤ := max (-2 ^ 63) (min n (2 ^ 63 - 1))

/-- What `strtol` returns, the text from `endptr` on, and whether `errno` is set. -/
structure ReadLong where
  number : ℤ
  endptr : List Char
  erange : Bool

/-- `strtol`. -/
def strtol (auto : Bool) (nptr : List Char) : ReadLong :=
  match readInt auto nptr with
  | none => ⟨0, nptr, false⟩
  | some (n, rest) => ⟨saturate n, rest, !decide (IsLong n)⟩

/-- `stoi`; `none` is an exception. -/
def stoi (s : List Char) : Option ℤ :=
  match readInt false s with
  | none => none
  | some (n, _) => if IsInt n then some n else none

/-- What `stoul` throws. -/
inductive StoulException where
  | invalid_argument | out_of_range
  deriving DecidableEq

/-- `stoul`. -/
def stoul (s : List Char) : Except StoulException ℕ :=
  match readInt false s with
  | none => .error .invalid_argument
  | some (n, _) => if n.natAbs < 2 ^ 64 then .ok (n % 2 ^ 64).toNat else .error .out_of_range

/-- `stoul` with base zero: the number and what follows it; `none` is an exception. -/
def stoul0 (s : List Char) : Option (ℕ × List Char) :=
  match readInt true s with
  | none => none
  | some (n, rest) => if n.natAbs < 2 ^ 64 then some ((n % 2 ^ 64).toNat, rest) else none

/-- `%d` into 32 bits without a sign. -/
def scanU32 (s : List Char) : Option (ℕ × List Char) :=
  match readInt false s with
  | none => none
  | some (n, rest) => some ((saturate n % 2 ^ 32).toNat, rest)

/-- `to_string` of an `int`. -/
def to_string (n : ℤ) : List Char :=
  if n < 0 then '-' :: Nat.toDigits 10 n.natAbs else Nat.toDigits 10 n.natAbs

variable {n : ℤ} {s ds rest : List Char} {auto : Bool}

/-! ### Digits -/

theorem takeWhile_digits {b : ℕ} (hds : ∀ c ∈ ds, isDigit b c) :
    ds.takeWhile (isDigit b) = ds :=
  List.takeWhile_eq_self_iff.mpr hds

theorem dropWhile_digits {b : ℕ} (hds : ∀ c ∈ ds, isDigit b c) :
    ds.dropWhile (isDigit b) = [] :=
  List.dropWhile_eq_nil_iff.mpr hds

theorem dropWhile_isspace_digits {b : ℕ} (hds : ∀ c ∈ ds, isDigit b c) :
    ds.dropWhile isspace = ds := by
  cases ds with
  | nil => rfl
  | cons c rest =>
    refine List.dropWhile_cons_of_neg ?_
    simp [(isDigit_ne (hds c List.mem_cons_self)).1]

/-- A text of digits is its number. -/
theorem readInt_digits (hne : ds ≠ []) (hds : ∀ c ∈ ds, isDigit 10 c) :
    readInt false ds = some ((value 10 ds : ℤ), []) := by
  have hsign : takeSign ds = (false, ds) := by
    obtain ⟨c, rest, rfl, hc⟩ := exists_cons_of_isDigit hne hds
    exact takeSign_of_isDigit hc
  have hradix : radix false ds = (10, ds) := rfl
  simp only [readInt, dropWhile_isspace_digits hds, hsign, hradix, takeWhile_digits hds,
    dropWhile_digits hds, if_neg hne]
  rfl

theorem readInt_minus (hne : ds ≠ []) (hds : ∀ c ∈ ds, isDigit 10 c) :
    readInt false ('-' :: ds) = some (-(value 10 ds : ℤ), []) := by
  have hspace : ('-' :: ds).dropWhile isspace = '-' :: ds := rfl
  have hradix : radix false ds = (10, ds) := rfl
  simp only [readInt, hspace, takeSign, hradix, takeWhile_digits hds, dropWhile_digits hds,
    if_neg hne]
  rfl

/-- **What `to_string` writes is read.** -/
theorem readInt_to_string : readInt false (to_string n) = some (n, []) := by
  have hne : Nat.toDigits 10 n.natAbs ≠ [] := Nat.toDigits_ne_nil
  have hds : ∀ c ∈ Nat.toDigits 10 n.natAbs, isDigit 10 c := fun c hc =>
    isDigit_of_mem_toDigits (by decide) (by decide) hc
  have hvalue : value 10 (Nat.toDigits 10 n.natAbs) = n.natAbs :=
    value_toDigits (by decide) (by decide)
  rw [to_string]
  split
  · next hneg =>
      have hn : -(n.natAbs : ℤ) = n := by omega
      rw [readInt_minus hne hds, hvalue, hn]
  · next hpos =>
      have hn : (n.natAbs : ℤ) = n := by omega
      rw [readInt_digits hne hds, hvalue, hn]

/-- What `to_string` writes of a number without a sign, `strtoull` reads to its end. -/
theorem strtoull_to_string {m : ℕ} (h : m < 2 ^ 64) :
    strtoull (to_string m) false = ⟨m, [], false⟩ := by
  let t : Shape false :=
    { blanks := []
      sign := []
      mark := []
      digits := Nat.toDigits 10 m
      blank := fun _ hc => absurd hc List.not_mem_nil
      signed := .inl rfl
      marked := .inl rfl
      ne_nil := Nat.toDigits_ne_nil
      digit := fun _ hc => isDigit_of_mem_toDigits (by decide) (by decide) hc }
  have htext : to_string m = t.text := if_neg (Int.not_lt.mpr (Int.natCast_nonneg m))
  have hmagnitude : t.magnitude = m := value_toDigits (by decide) (by decide)
  rw [htext, t.strtoull_text, hmagnitude, if_pos h]
  rfl

/-- There is nothing to read in the empty text. -/
theorem readInt_nil : readInt auto [] = none := by
  cases auto <;> rfl

/-! ### The text that is read -/

/-- A sign is taken from the front, and it says whether the number is negative. -/
theorem exists_signed (s : List Char) :
    ∃ sign, (sign = [] ∨ sign = ['+'] ∨ sign = ['-']) ∧ sign ++ (takeSign s).2 = s ∧
      ((takeSign s).1 = true ↔ sign = ['-']) := by
  unfold takeSign
  split
  · exact ⟨['-'], by simp, rfl, by simp⟩
  · exact ⟨['+'], by simp, rfl, by simp⟩
  · exact ⟨[], by simp, rfl, by simp⟩

/-- Only the first character of a text is looked at for a sign. -/
theorem takeSign_append (hne : s ≠ []) :
    takeSign (s ++ rest) = ((takeSign s).1, (takeSign s).2 ++ rest) := by
  obtain ⟨c, s, rfl⟩ := List.exists_cons_of_ne_nil hne
  unfold takeSign
  split <;> simp_all

/-- What follows a number in base ten does not go on with a digit. -/
def NoDigitNext (rest : List Char) : Prop := ∀ c, rest.head? = some c → ¬ isDigit 10 c

theorem noDigitNext_nil : NoDigitNext [] := fun _ h => absurd h (by simp)

theorem noDigitNext_cons {c : Char} (h : ¬ isDigit 10 c) : NoDigitNext (c :: rest) := by
  intro c' hc'
  obtain rfl : c = c' := by simpa using hc'
  exact h

theorem NoDigitNext.takeWhile (h : NoDigitNext rest) : rest.takeWhile (isDigit 10) = [] := by
  cases rest with
  | nil => rfl
  | cons c rest => exact List.takeWhile_cons_of_neg (h c rfl)

theorem NoDigitNext.dropWhile (h : NoDigitNext rest) : rest.dropWhile (isDigit 10) = rest := by
  cases rest with
  | nil => rfl
  | cons c rest => exact List.dropWhile_cons_of_neg (h c rfl)

theorem Shape.mark_eq_nil (t : Shape false) : t.mark = [] := by
  rcases t.marked with hmark | ⟨h, -⟩
  · exact hmark
  · cases h

/-- A numeral is read, and what follows it is left. -/
theorem readInt_text (t : Shape false) (hrest : NoDigitNext rest) :
    readInt false (t.text ++ rest) = some (t.toInt, rest) := by
  have hdrop : (t.text ++ rest).dropWhile isspace = t.sign ++ t.digits ++ rest := by
    rw [List.dropWhile_append, t.dropWhile_eq, t.mark_eq_nil, List.nil_append]
    split
    · next hempty => simp [t.ne_nil] at hempty
    · rfl
  have hsigned : takeSign (t.sign ++ t.digits ++ rest) = (t.negative, t.digits ++ rest) := by
    have htake := t.takeSign_eq
    rw [t.mark_eq_nil, List.nil_append] at htake
    rw [takeSign_append (by simp [t.ne_nil]), htake]
  have hradix : radix false (t.digits ++ rest) = (10, t.digits ++ rest) := rfl
  have hdigit : ∀ c ∈ t.digits, isDigit 10 c := t.digit
  have htake : (t.digits ++ rest).takeWhile (isDigit 10) = t.digits := by
    rw [List.takeWhile_append_of_pos hdigit, hrest.takeWhile, List.append_nil]
  have hleft : (t.digits ++ rest).dropWhile (isDigit 10) = rest := by
    rw [List.dropWhile_append_of_pos hdigit, hrest.dropWhile]
  simp only [readInt, hdrop, hsigned, hradix, htake, hleft, if_neg t.ne_nil]
  rfl

/-- **What is read in base ten is a numeral.** -/
theorem exists_shape_of_readInt (h : readInt false s = some (n, rest)) :
    ∃ t : Shape false, s = t.text ++ rest ∧ t.toInt = n ∧ NoDigitNext rest := by
  obtain ⟨sign, hsign, hsplit, hneg⟩ := exists_signed (s.dropWhile isspace)
  have hradix : ∀ l, radix false l = (10, l) := fun _ => rfl
  simp only [readInt, hradix] at h
  obtain ⟨hne, h⟩ := Option.ite_none_left_eq_some.mp h
  obtain ⟨rfl, rfl⟩ := Prod.mk.inj (Option.some.inj h)
  refine ⟨⟨s.takeWhile isspace, sign, [],
    (takeSign (s.dropWhile isspace)).2.takeWhile (isDigit 10), ?_, hsign, .inl rfl, hne, ?_⟩, ?_,
    ?_, ?_⟩
  · exact fun c hc => List.mem_takeWhile_imp hc
  · exact fun c hc => List.mem_takeWhile_imp hc
  · show s = s.takeWhile isspace ++ (sign ++ ([] ++ _)) ++ _
    rw [List.nil_append, List.append_assoc, List.append_assoc, List.takeWhile_append_dropWhile,
      hsplit, List.takeWhile_append_dropWhile]
  · show (if decide (sign = ['-']) then _ else _ : ℤ) = _
    by_cases hminus : sign = ['-']
    · rw [if_pos (decide_eq_true hminus), if_pos (hneg.mpr hminus)]
      rfl
    · rw [if_neg (by simpa using hminus), if_neg fun h => hminus (hneg.mp h)]
      rfl
  · intro c hc
    exact List.head?_dropWhile_not (isDigit 10) _ |> fun hhead => by
      rw [hc] at hhead
      simpa using hhead

/-- What the base is told by, and that no base is greater than sixteen. -/
theorem radix_spec (auto : Bool) (s : List Char) :
    ∃ mark, mark ++ (radix auto s).2 = s ∧ (∀ c ∈ mark, c = '0' ∨ c = 'x' ∨ c = 'X') ∧
      (radix auto s).1 ≤ 16 := by
  unfold radix
  split
  · split
    · split
      · next x _ _ hmark =>
          refine ⟨['0', x], rfl, ?_, le_rfl⟩
          intro c hc
          rcases List.mem_cons.mp hc with rfl | hc
          · exact .inl rfl
          · rw [List.mem_singleton.mp hc]
            exact .inr hmark.1
      · exact ⟨[], rfl, by simp, by omega⟩
    · exact ⟨[], rfl, by simp, by omega⟩
    · exact ⟨[], rfl, by simp, by omega⟩
  · exact ⟨[], rfl, by simp, by omega⟩

/-- A character that no number has. -/
def Foreign (c : Char) : Prop :=
  isspace c = false ∧ c ≠ '+' ∧ c ≠ '-' ∧ c ≠ '0' ∧ c ≠ 'x' ∧ c ≠ 'X' ∧ isDigit 16 c = false

theorem isDigit_mono {b b' : ℕ} {c : Char} (hb : b ≤ b') (hc : isDigit b c) : isDigit b' c := by
  rw [isDigit] at hc ⊢
  cases hval : digitVal c with
  | none => simp [hval] at hc
  | some d =>
    simp only [hval, Option.any_some, decide_eq_true_eq] at hc ⊢
    omega

/-- **A character that no number has is not read.** -/
theorem Foreign.mem_rest {c : Char} (hc : Foreign c) (h : readInt auto s = some (n, rest))
    (hmem : c ∈ s) : c ∈ rest := by
  obtain ⟨hspace, hplus, hminus, hzero, hx, hX, hdigit⟩ := hc
  obtain ⟨sign, hsign, hsplit, -⟩ := exists_signed (s.dropWhile isspace)
  obtain ⟨mark, hmark, hmarks, hle⟩ := radix_spec auto (takeSign (s.dropWhile isspace)).2
  simp only [readInt] at h
  obtain ⟨-, h⟩ := Option.ite_none_left_eq_some.mp h
  obtain ⟨-, rfl⟩ := Prod.mk.inj (Option.some.inj h)
  -- it is in none of the parts that are read
  rw [← List.takeWhile_append_dropWhile (p := isspace) (l := s), List.mem_append] at hmem
  rcases hmem with hmem | hmem
  · rw [List.mem_takeWhile_imp hmem] at hspace
    cases hspace
  rw [← hsplit, List.mem_append] at hmem
  rcases hmem with hmem | hmem
  · rcases hsign with rfl | rfl | rfl
    · cases hmem
    · exact absurd (List.mem_singleton.mp hmem) hplus
    · exact absurd (List.mem_singleton.mp hmem) hminus
  rw [← hmark, List.mem_append] at hmem
  rcases hmem with hmem | hmem
  · rcases hmarks c hmem with h | h | h
    · exact absurd h hzero
    · exact absurd h hx
    · exact absurd h hX
  rw [← List.takeWhile_append_dropWhile (p := isDigit _) (l := (radix auto _).2),
    List.mem_append] at hmem
  rcases hmem with hmem | hmem
  · rw [isDigit_mono hle (List.mem_takeWhile_imp hmem)] at hdigit
    cases hdigit
  · exact hmem

/-! ### The functions of the library -/

theorem isInt_of_stoi (h : stoi s = some n) : IsInt n := by
  rw [stoi] at h
  split at h
  · cases h
  · obtain ⟨hint, hn⟩ := Option.ite_none_right_eq_some.mp h
    exact Option.some.inj hn ▸ hint

theorem stoi_digits (hne : ds ≠ []) (hds : ∀ c ∈ ds, isDigit 10 c) :
    stoi ds = if IsInt (value 10 ds) then some (value 10 ds : ℤ) else none := by
  rw [stoi, readInt_digits hne hds]

/-- What `to_string` writes, `stoi` reads. -/
theorem stoi_to_string (h : IsInt n) : stoi (to_string n) = some n := by
  rw [stoi, readInt_to_string]
  exact if_pos h

theorem stoul_digits (hne : ds ≠ []) (hds : ∀ c ∈ ds, isDigit 10 c) :
    stoul ds = if value 10 ds < 2 ^ 64 then .ok (value 10 ds) else .error .out_of_range := by
  rw [stoul, readInt_digits hne hds]
  show (if (value 10 ds : ℤ).natAbs < 2 ^ 64 then _ else _) = _
  rw [Int.natAbs_natCast]
  split
  · next hlt =>
      have hmod : (value 10 ds : ℤ) % 2 ^ 64 = value 10 ds := by omega
      rw [hmod, Int.toNat_natCast]
  · rfl

theorem saturate_of_isLong (h : IsLong n) : saturate n = n := by
  obtain ⟨hlow, hhigh⟩ := h
  rw [saturate, min_eq_left (by omega), max_eq_right hlow]

end Numeral
