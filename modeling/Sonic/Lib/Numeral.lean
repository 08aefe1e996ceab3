/-
Lib/Numeral.lean

Numbers as text: digits, and the C library function that reads them.

`strtoull` skips blanks, takes a sign and, in base sixteen, a mark `0x`, and reads
as many digits as it can; a minus sign negates the number as an unsigned one.  It
reports where it stopped and whether the digits were too many, and a caller that
wants the whole text to be a number looks at both.  Such a text is a `Numeral`, or
empty: nothing is read of the empty text, and nothing is left of it
(`strtoull_endptr_eq_nil`).
-/
import Mathlib

namespace Numeral

/-- The value of a digit; the letters count on from ten. -/
def digitVal (c : Char) : Option ℕ :=
  if '0' ≤ c ∧ c ≤ '9' then some (c.toNat - '0'.toNat)
  else if 'a' ≤ c ∧ c ≤ 'f' then some (c.toNat - 'a'.toNat + 10)
  else if 'A' ≤ c ∧ c ≤ 'F' then some (c.toNat - 'A'.toNat + 10)
  else none

/-- The digits of a base. -/
def isDigit (b : ℕ) (c : Char) : Bool :=
  (digitVal c).any (· < b)

/-- The number written by some digits. -/
def value (b : ℕ) (ds : List Char) : ℕ :=
  ds.foldl (fun n c => b * n + (digitVal c).getD 0) 0

/-- `isspace`. -/
def isspace (c : Char) : Bool :=
  c = ' ' ∨ ('\t' ≤ c ∧ c ≤ '\r')

/-! ### Writing and reading digits -/

theorem digitVal_digitChar {d : ℕ} (hd : d < 16) : digitVal d.digitChar = some d := by
  interval_cases d <;> decide

theorem isDigit_digitChar {b d : ℕ} (hb : b ≤ 16) (hd : d < b) : isDigit b d.digitChar := by
  simp [isDigit, digitVal_digitChar (hd.trans_le hb), hd]

theorem value_append_singleton {b : ℕ} {ds : List Char} {c : Char} :
    value b (ds ++ [c]) = b * value b ds + (digitVal c).getD 0 := by
  simp [value, List.foldl_append]

/-- What is written is read. -/
theorem value_toDigits {b n : ℕ} (hb : 1 < b) (hb' : b ≤ 16) :
    value b (Nat.toDigits b n) = n := by
  induction n using Nat.strongRecOn with
  | _ n ih =>
    rcases Nat.lt_or_ge n b with hlt | hle
    · rw [Nat.toDigits_of_lt_base hlt]
      simp [value, digitVal_digitChar (hlt.trans_le hb')]
    · have hdigit : n % b < 16 := (Nat.mod_lt n (by omega)).trans_le hb'
      rw [Nat.toDigits_of_base_le hb hle, value_append_singleton,
        ih (n / b) (Nat.div_lt_self (by omega) hb), digitVal_digitChar hdigit]
      exact Nat.div_add_mod n b

theorem isDigit_of_mem_toDigits {b n : ℕ} (hb : 1 < b) (hb' : b ≤ 16) {c : Char}
    (hc : c ∈ Nat.toDigits b n) : isDigit b c := by
  induction n using Nat.strongRecOn with
  | _ n ih =>
    rcases Nat.lt_or_ge n b with hlt | hle
    · rw [Nat.toDigits_of_lt_base hlt, List.mem_singleton] at hc
      exact hc ▸ isDigit_digitChar hb' hlt
    · rw [Nat.toDigits_of_base_le hb hle, List.mem_append, List.mem_singleton] at hc
      rcases hc with hc | rfl
      · exact ih (n / b) (Nat.div_lt_self (by omega) hb) hc
      · exact isDigit_digitChar hb' (Nat.mod_lt n (by omega))

/-! ### The size of a number -/

theorem foldl_value {b n : ℕ} {ds : List Char} :
    ds.foldl (fun n c => b * n + (digitVal c).getD 0) n = n * b ^ ds.length + value b ds := by
  induction ds using List.reverseRecOn with
  | nil => simp [value]
  | append_singleton ds c ih =>
    rw [List.foldl_append, ih, value_append_singleton, List.length_append]
    simp only [List.foldl_cons, List.foldl_nil, List.length_singleton, pow_succ]
    ring

theorem value_cons {b : ℕ} {c : Char} {ds : List Char} :
    value b (c :: ds) = (digitVal c).getD 0 * b ^ ds.length + value b ds := by
  calc value b (c :: ds)
      = ds.foldl (fun n c => b * n + (digitVal c).getD 0) ((digitVal c).getD 0) := by simp [value]
    _ = _ := foldl_value

theorem getD_digitVal_lt {b : ℕ} {c : Char} (hc : isDigit b c) : (digitVal c).getD 0 < b := by
  cases hval : digitVal c with
  | none => simp [isDigit, hval] at hc
  | some d => simpa [isDigit, hval] using hc

theorem value_lt {b : ℕ} {ds : List Char} (hds : ∀ c ∈ ds, isDigit b c) :
    value b ds < b ^ ds.length := by
  induction ds with
  | nil => simp [value]
  | cons c ds ih =>
    have hc := getD_digitVal_lt (hds c (by simp))
    have hrest := ih fun c' hc' => hds c' (List.mem_cons_of_mem c hc')
    rw [value_cons, List.length_cons, pow_succ]
    calc (digitVal c).getD 0 * b ^ ds.length + value b ds
        < (digitVal c).getD 0 * b ^ ds.length + b ^ ds.length := Nat.add_lt_add_left hrest _
      _ = ((digitVal c).getD 0 + 1) * b ^ ds.length := by ring
      _ ≤ b * b ^ ds.length := Nat.mul_le_mul_right _ hc
      _ = b ^ ds.length * b := Nat.mul_comm _ _

theorem eq_zero_of_digitVal {c : Char} (hc : digitVal c = some 0) : c = '0' := by
  unfold digitVal at hc
  split_ifs at hc with hdec
  · have hle : c.toNat ≤ '0'.toNat := Nat.sub_eq_zero_iff_le.mp (Option.some.inj hc)
    exact le_antisymm (Char.le_def.mpr (UInt32.le_iff_toNat_le.mpr hle)) hdec.1
  all_goals simp at hc

/-- A number is as large as its digits, without the zeros in front. -/
theorem value_lt_iff {b k : ℕ} (hb : 1 < b) {ds : List Char} (hds : ∀ c ∈ ds, isDigit b c) :
    value b ds < b ^ k ↔ (ds.dropWhile (· = '0')).length ≤ k := by
  induction ds with
  | nil =>
    show 0 < b ^ k ↔ 0 ≤ k
    exact ⟨fun _ => Nat.zero_le k, fun _ => Nat.pow_pos (by omega)⟩
  | cons c ds ih =>
    have hrest : ∀ c' ∈ ds, isDigit b c' := fun c' hc' => hds c' (List.mem_cons_of_mem c hc')
    cases hval : digitVal c with
    | none => simpa [isDigit, hval] using hds c (by simp)
    | some d =>
      cases d with
      | zero =>
        obtain rfl := eq_zero_of_digitVal hval
        rw [value_cons, hval, Option.getD_some, Nat.zero_mul, Nat.zero_add, ih hrest]
        rfl
      | succ d =>
        -- no zero in front: the number has all its digits
        have hc : c ≠ '0' := by
          rintro rfl
          exact absurd (Option.some.inj hval) (Nat.succ_ne_zero d).symm
        have hdrop : (c :: ds).dropWhile (· = '0') = c :: ds := by simp [hc]
        have hle : b ^ ds.length ≤ value b (c :: ds) := by
          rw [value_cons, hval, Option.getD_some, Nat.add_mul, Nat.one_mul]
          omega
        rw [hdrop, List.length_cons, Nat.succ_le_iff]
        constructor
        · intro hlt
          exact (Nat.pow_lt_pow_iff_right hb).mp (hle.trans_lt hlt)
        · intro hlt
          exact (value_lt hds).trans_le (Nat.pow_le_pow_right (by omega) hlt)

/-! ### Reading a text -/

/-- The base of plain and of hexadecimal numbers. -/
def base (hex : Bool) : ℕ := if hex then 16 else 10

/-- A text that `strtoull` reads to its end. -/
structure Shape (hex : Bool) where
  blanks : List Char
  sign : List Char
  mark : List Char
  digits : List Char
  blank : ∀ c ∈ blanks, isspace c
  signed : sign = [] ∨ sign = ['+'] ∨ sign = ['-']
  marked : mark = [] ∨ hex = true ∧ (mark = ['0', 'x'] ∨ mark = ['0', 'X'])
  ne_nil : digits ≠ []
  digit : ∀ c ∈ digits, isDigit (base hex) c

namespace Shape

variable {hex : Bool}

def text (t : Shape hex) : List Char := t.blanks ++ (t.sign ++ (t.mark ++ t.digits))

/-- The number without its sign. -/
def magnitude (t : Shape hex) : ℕ := value (base hex) t.digits

def negative (t : Shape hex) : Bool := t.sign = ['-']

/-- The number that is written. -/
def toInt (t : Shape hex) : ℤ := if t.negative then -t.magnitude else t.magnitude

end Shape

/-- What `strtoull` returns, the text from `endptr` on, and whether `errno` is set. -/
structure Read where
  number : ℕ
  endptr : List Char
  erange : Bool

/-- Take a sign: whether it is a minus, and what follows. -/
def takeSign : List Char → Bool × List Char
  | '-' :: s => (true, s)
  | '+' :: s => (false, s)
  | s => (false, s)

/-- Skip the mark of base sixteen. -/
def skipMark (hex : Bool) : List Char → List Char
  | '0' :: 'x' :: s => if hex then s else '0' :: 'x' :: s
  | '0' :: 'X' :: s => if hex then s else '0' :: 'X' :: s
  | s => s

/-- `strtoull` in base ten or sixteen. -/
def strtoull (nptr : List Char) (hex : Bool) : Read :=
  let (negative, s) := takeSign (nptr.dropWhile isspace)
  let save := skipMark hex s
  let ds := save.takeWhile (isDigit (base hex))
  let n := value (base hex) ds
  if ds = [] then
    -- no number: a mark alone is read as the zero before the letter
    ⟨0, if save = s then nptr else s.tail, false⟩
  else if n < 2 ^ 64 then
    ⟨if negative then (2 ^ 64 - n) % 2 ^ 64 else n, save.dropWhile (isDigit (base hex)), false⟩
  else
    ⟨2 ^ 64 - 1, save.dropWhile (isDigit (base hex)), true⟩

variable {hex : Bool} {s : List Char}

theorem exists_cons_of_isDigit {b : ℕ} {ds : List Char} (hne : ds ≠ [])
    (hds : ∀ c ∈ ds, isDigit b c) : ∃ c rest, ds = c :: rest ∧ isDigit b c := by
  cases ds with
  | nil => exact absurd rfl hne
  | cons c rest => exact ⟨c, rest, rfl, hds c (by simp)⟩

/-- A digit is no blank, no sign and no mark. -/
theorem isDigit_ne {b : ℕ} {c : Char} (hc : isDigit b c) :
    isspace c = false ∧ c ≠ '+' ∧ c ≠ '-' ∧ c ≠ 'x' ∧ c ≠ 'X' := by
  refine ⟨?_, ?_, ?_, ?_, ?_⟩
  · by_contra hspace
    rcases of_decide_eq_true (eq_true_of_ne_false hspace) with rfl | ⟨-, hle⟩
    · simp [isDigit, digitVal] at hc
    · -- the digits come after the blanks
      have hlt : c < '0' := lt_of_le_of_lt hle (by decide)
      have hdigit : ¬ '0' ≤ c := not_le.mpr hlt
      have hlower : ¬ 'a' ≤ c := not_le.mpr (hlt.trans (by decide))
      have hupper : ¬ 'A' ≤ c := not_le.mpr (hlt.trans (by decide))
      simp [isDigit, digitVal, hdigit, hlower, hupper] at hc
  all_goals
    rintro rfl
    simp [isDigit, digitVal] at hc

/-! ### The shape is read -/

theorem takeSign_of_isDigit {b : ℕ} {c : Char} {rest : List Char} (hc : isDigit b c) :
    takeSign (c :: rest) = (false, c :: rest) := by
  obtain ⟨-, hplus, hminus, -, -⟩ := isDigit_ne hc
  unfold takeSign
  split <;> simp_all

theorem skipMark_digits {b : ℕ} {ds : List Char} (hds : ∀ c ∈ ds, isDigit b c) :
    skipMark hex ds = ds := by
  unfold skipMark
  split
  · exact absurd rfl (isDigit_ne (hds 'x' (by simp))).2.2.2.1
  · exact absurd rfl (isDigit_ne (hds 'X' (by simp))).2.2.2.2
  · rfl

namespace Shape

variable (t : Shape hex)

theorem skipMark_eq : skipMark hex (t.mark ++ t.digits) = t.digits := by
  rcases t.marked with hmark | ⟨rfl, hmark | hmark⟩
  · rw [hmark]
    exact skipMark_digits t.digit
  all_goals
    rw [hmark]
    rfl

/-- What follows the sign begins with a digit. -/
theorem exists_digit : ∃ c rest b, t.mark ++ t.digits = c :: rest ∧ isDigit b c := by
  rcases t.marked with hmark | ⟨-, hmark | hmark⟩
  · obtain ⟨c, rest, hds, hc⟩ := exists_cons_of_isDigit t.ne_nil t.digit
    exact ⟨c, rest, _, by rw [hmark, hds]; rfl, hc⟩
  all_goals exact ⟨'0', _, 10, by rw [hmark]; rfl, by decide⟩

theorem takeSign_eq :
    takeSign (t.sign ++ (t.mark ++ t.digits)) = (t.negative, t.mark ++ t.digits) := by
  obtain ⟨c, rest, b, hcons, hc⟩ := t.exists_digit
  rcases t.signed with hsign | hsign | hsign
  · rw [negative, hsign, List.nil_append, hcons]
    exact takeSign_of_isDigit hc
  all_goals
    rw [negative, hsign]
    rfl

theorem dropWhile_eq : t.text.dropWhile isspace = t.sign ++ (t.mark ++ t.digits) := by
  rw [text, List.dropWhile_append_of_pos t.blank]
  obtain ⟨c, rest, b, hcons, hc⟩ := t.exists_digit
  rcases t.signed with hsign | hsign | hsign
  · rw [hsign, List.nil_append, hcons, List.dropWhile_cons_of_neg]
    simp [(isDigit_ne hc).1]
  all_goals
    rw [hsign]
    rfl

theorem text_ne_nil : t.text ≠ [] := by
  simp [text, t.ne_nil]

/-- The parts of a numeral can be told from its text. -/
theorem eq_of_text_eq {t t' : Shape hex} (h : t.text = t'.text) :
    t.blanks = t'.blanks ∧ t.sign = t'.sign ∧ t.toInt = t'.toInt := by
  have hrest : t.sign ++ (t.mark ++ t.digits) = t'.sign ++ (t'.mark ++ t'.digits) := by
    rw [← t.dropWhile_eq, h, t'.dropWhile_eq]
  have hsigned := congrArg takeSign hrest
  rw [t.takeSign_eq, t'.takeSign_eq] at hsigned
  obtain ⟨hnegative, hmarked⟩ := Prod.mk.inj hsigned
  have hdigits : t.digits = t'.digits := by
    rw [← t.skipMark_eq, hmarked, t'.skipMark_eq]
  refine ⟨?_, ?_, ?_⟩
  · rw [text, text, hrest] at h
    exact List.append_cancel_right h
  · rw [hmarked] at hrest
    exact List.append_cancel_right hrest
  · rw [toInt, toInt, magnitude, magnitude, hnegative, hdigits]

/-- **A numeral is read to its end**, and its digits may be too many. -/
theorem strtoull_text :
    strtoull t.text hex =
      if t.magnitude < 2 ^ 64 then
        ⟨if t.negative then (2 ^ 64 - t.magnitude) % 2 ^ 64 else t.magnitude, [], false⟩
      else ⟨2 ^ 64 - 1, [], true⟩ := by
  have htake : t.digits.takeWhile (isDigit (base hex)) = t.digits :=
    List.takeWhile_eq_self_iff.mpr t.digit
  have hdrop : t.digits.dropWhile (isDigit (base hex)) = [] :=
    List.dropWhile_eq_nil_iff.mpr t.digit
  simp only [strtoull, t.dropWhile_eq, t.takeSign_eq, t.skipMark_eq, htake, hdrop,
    if_neg t.ne_nil, magnitude]
  rfl

end Shape

/-! ### Only the shape is read to its end -/

theorem exists_sign (s : List Char) :
    ∃ sign, (sign = [] ∨ sign = ['+'] ∨ sign = ['-']) ∧ sign ++ (takeSign s).2 = s := by
  unfold takeSign
  split
  · exact ⟨['-'], by simp, rfl⟩
  · exact ⟨['+'], by simp, rfl⟩
  · exact ⟨[], by simp, rfl⟩

theorem exists_mark (hex : Bool) (s : List Char) :
    ∃ mark, (mark = [] ∨ hex = true ∧ (mark = ['0', 'x'] ∨ mark = ['0', 'X'])) ∧
      mark ++ skipMark hex s = s := by
  unfold skipMark
  split
  · cases hex
    · exact ⟨[], by simp, rfl⟩
    · exact ⟨['0', 'x'], by simp, rfl⟩
  · cases hex
    · exact ⟨[], by simp, rfl⟩
    · exact ⟨['0', 'X'], by simp, rfl⟩
  · exact ⟨[], by simp, rfl⟩

/-- **The texts that are read to their end**: the numerals and the empty text. -/
theorem strtoull_endptr_eq_nil :
    (strtoull s hex).endptr = [] ↔ s = [] ∨ ∃ t : Shape hex, t.text = s := by
  constructor
  · intro hend
    rcases eq_or_ne s [] with hs | hs
    · exact Or.inl hs
    obtain ⟨sign, hsigned, hsign⟩ := exists_sign (s.dropWhile isspace)
    obtain ⟨mark, hmarked, hmark⟩ := exists_mark hex (takeSign (s.dropWhile isspace)).2
    let rest := (takeSign (s.dropWhile isspace)).2
    let save := skipMark hex rest
    have hends : (strtoull s hex).endptr
        = if save.takeWhile (isDigit (base hex)) = [] then
            if save = rest then s else rest.tail
          else save.dropWhile (isDigit (base hex)) := by
      simp only [strtoull]
      split_ifs <;> rfl
    rw [hends] at hend
    split_ifs at hend with hds hsave
    · exact absurd hend hs
    · -- a mark was skipped, and its letter is left
      have hrest : mark ++ save = rest := hmark
      rcases hmarked with rfl | ⟨-, rfl | rfl⟩
      · exact absurd hrest hsave
      all_goals simp [← hrest] at hend
    · have hdigits := List.dropWhile_eq_nil_iff.mp hend
      refine Or.inr ⟨⟨s.takeWhile isspace, sign, mark, save, ?_, hsigned, hmarked, ?_, hdigits⟩, ?_⟩
      · exact fun c hc => List.mem_takeWhile_imp hc
      · intro hnil
        exact hds (by rw [hnil]; rfl)
      · show s.takeWhile isspace ++ (sign ++ (mark ++ save)) = s
        rw [show mark ++ save = rest from hmark, hsign, List.takeWhile_append_dropWhile]
  · rintro (rfl | ⟨t, rfl⟩)
    · cases hex <;> rfl
    · rw [t.strtoull_text]
      split <;> rfl

end Numeral
