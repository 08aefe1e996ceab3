/-
Lib/NetworkOrder.lean

Bytes in the order of the network, as bits and as a number.

The bit 0 is the first of the first byte.  Clearing the bits behind the first `m` gives the first
number of a block, setting them the last one, and the numbers between these are those with the same
first `m` bits (`between_iff`).  `memcmp` compares the numbers.
-/
import Mathlib.Data.Nat.Digits.Defs
import Mathlib.Data.List.Basic
import Mathlib.Tactic.Ring

namespace NetworkOrder

/-- The number that the bytes write, the most significant one first. -/
def number (bs : List UInt8) : ℕ := Nat.ofDigits 256 (bs.map UInt8.toNat).reverse

/-- The bit `i` from the front. -/
def bit (bs : List UInt8) (i : ℕ) : Bool := (bs.getD (i / 8) 0).toNat.testBit (7 - i % 8)

/-- `memcmp` of as many bytes as there are: the difference of the first ones that differ. -/
def memcmp : List UInt8 → List UInt8 → ℤ
  | b :: bs, c :: cs => if b = c then memcmp bs cs else b.toNat - c.toNat
  | _, _ => 0

variable {bs cs : List UInt8} {A B N k m : ℕ}

/-! ### Blocks of numbers -/

/-- Two numbers are in one block of `2 ^ k` if their bits above agree. -/
theorem div_eq_iff (hA : A < 2 ^ N) (hB : B < 2 ^ N) (hk : k ≤ N) :
    A / 2 ^ k = B / 2 ^ k ↔ ∀ i < N - k, A.testBit (N - 1 - i) = B.testBit (N - 1 - i) := by
  constructor
  · intro h i hi
    have hbit := congrArg (Nat.testBit · (N - 1 - i - k)) h
    simp only [Nat.testBit_div_two_pow] at hbit
    rwa [show N - 1 - i - k + k = N - 1 - i by omega] at hbit
  · intro h
    apply Nat.eq_of_testBit_eq
    intro j
    rw [Nat.testBit_div_two_pow, Nat.testBit_div_two_pow]
    rcases Nat.lt_or_ge (j + k) N with hj | hj
    · have hbit := h (N - 1 - (j + k)) (by omega)
      rwa [show N - 1 - (N - 1 - (j + k)) = j + k by omega] at hbit
    · -- above the width both numbers have no bits
      have hlarge : 2 ^ N ≤ 2 ^ (j + k) := Nat.pow_le_pow_right (by decide) hj
      rw [Nat.testBit_lt_two_pow (hA.trans_le hlarge), Nat.testBit_lt_two_pow (hB.trans_le hlarge)]

/-- The block of a number, from its first to its last one. -/
theorem mem_block_iff (A B k : ℕ) :
    A / 2 ^ k * 2 ^ k ≤ B ∧ B ≤ A / 2 ^ k * 2 ^ k + (2 ^ k - 1) ↔ B / 2 ^ k = A / 2 ^ k := by
  have hpos : 0 < 2 ^ k := Nat.two_pow_pos k
  rw [Nat.div_eq_iff hpos]
  constructor
  · rintro ⟨hlow, hhigh⟩
    exact ⟨hlow, by omega⟩
  · rintro ⟨hlow, hhigh⟩
    exact ⟨hlow, by omega⟩

/-! ### The number of some bytes -/

theorem number_cons (b : UInt8) (bs : List UInt8) :
    number (b :: bs) = 2 ^ (8 * bs.length) * b.toNat + number bs := by
  rw [number, List.map_cons, List.reverse_cons, Nat.ofDigits_append, List.length_reverse,
    List.length_map, Nat.ofDigits_singleton, Nat.add_comm, number, pow_mul]
  rfl

theorem number_lt (bs : List UInt8) : number bs < 2 ^ (8 * bs.length) := by
  induction bs with
  | nil => exact Nat.one_pos
  | cons b bs ih =>
    have hb : b.toNat + 1 ≤ 2 ^ 8 := b.toNat_lt
    rw [number_cons, List.length_cons]
    calc 2 ^ (8 * bs.length) * b.toNat + number bs
        < 2 ^ (8 * bs.length) * (b.toNat + 1) := by rw [Nat.mul_succ]; omega
      _ ≤ 2 ^ (8 * bs.length) * 2 ^ 8 := Nat.mul_le_mul_left _ hb
      _ = 2 ^ (8 * (bs.length + 1)) := by rw [← pow_add]; rfl

theorem testBit_number {i : ℕ} (hi : i < 8 * bs.length) :
    (number bs).testBit (8 * bs.length - 1 - i) = bit bs i := by
  induction bs generalizing i with
  | nil => exact absurd hi (Nat.not_lt_zero i)
  | cons b bs ih =>
    rw [List.length_cons] at hi ⊢
    rw [number_cons, Nat.testBit_two_pow_mul_add _ (number_lt bs)]
    by_cases hfirst : i < 8
    · -- a bit of the first byte
      rw [if_neg (by omega), bit, Nat.div_eq_of_lt hfirst, Nat.mod_eq_of_lt hfirst]
      show b.toNat.testBit _ = b.toNat.testBit _
      congr 1
      omega
    · have hback := ih (i := i - 8) (by omega)
      rw [if_pos (by omega), show 8 * (bs.length + 1) - 1 - i = 8 * bs.length - 1 - (i - 8) by
        omega, hback, bit, bit, show i / 8 = (i - 8) / 8 + 1 by omega,
        show (i - 8) % 8 = i % 8 by omega, List.getD_cons_succ]

theorem testBit_number_of_lt {j : ℕ} (hj : j < 8 * bs.length) :
    (number bs).testBit j = bit bs (8 * bs.length - 1 - j) := by
  rw [← testBit_number (by omega), show 8 * bs.length - 1 - (8 * bs.length - 1 - j) = j by omega]

/-! ### Masks -/

/-- Without the bits from `m` on, the number is the first of its block. -/
theorem number_of_cleared (hlen : cs.length = bs.length)
    (h : ∀ i < 8 * bs.length, bit cs i = (bit bs i && decide (i < m))) :
    number cs = number bs / 2 ^ (8 * bs.length - m) * 2 ^ (8 * bs.length - m) := by
  apply Nat.eq_of_testBit_eq
  intro j
  rw [Nat.mul_comm, Nat.testBit_two_pow_mul, Nat.testBit_div_two_pow]
  rcases Nat.lt_or_ge j (8 * bs.length) with hj | hj
  · have hbit := h (8 * bs.length - 1 - j) (by omega)
    have hcs : (number cs).testBit j = bit cs (8 * bs.length - 1 - j) := by
      rw [testBit_number_of_lt (hlen ▸ hj), hlen]
    rw [hcs, hbit, ← testBit_number_of_lt hj]
    by_cases hm : 8 * bs.length - m ≤ j
    · rw [show j - (8 * bs.length - m) + (8 * bs.length - m) = j by omega]
      simp [hm, show 8 * bs.length - 1 - j < m by omega]
    · simp [hm, show ¬ 8 * bs.length - 1 - j < m by omega]
  · have hlarge : 2 ^ (8 * bs.length) ≤ 2 ^ j := Nat.pow_le_pow_right (by decide) hj
    have hzero := Nat.testBit_lt_two_pow ((number_lt bs).trans_le hlarge)
    have hcs := number_lt cs
    rw [hlen] at hcs
    rw [Nat.testBit_lt_two_pow (hcs.trans_le hlarge),
      show j - (8 * bs.length - m) + (8 * bs.length - m) = j by omega, hzero, Bool.and_false]

/-- With all bits from `m` on, the number is the last of its block. -/
theorem number_of_filled (hlen : cs.length = bs.length)
    (h : ∀ i < 8 * bs.length, bit cs i = (bit bs i || decide (m ≤ i))) :
    number cs = number bs / 2 ^ (8 * bs.length - m) * 2 ^ (8 * bs.length - m) +
      (2 ^ (8 * bs.length - m) - 1) := by
  have hpos : 0 < 2 ^ (8 * bs.length - m) := Nat.two_pow_pos _
  apply Nat.eq_of_testBit_eq
  intro j
  rw [Nat.mul_comm, Nat.testBit_two_pow_mul_add _ (Nat.sub_lt hpos Nat.one_pos),
    Nat.testBit_two_pow_sub_one, Nat.testBit_div_two_pow]
  rcases Nat.lt_or_ge j (8 * bs.length) with hj | hj
  · have hbit := h (8 * bs.length - 1 - j) (by omega)
    have hcs : (number cs).testBit j = bit cs (8 * bs.length - 1 - j) := by
      rw [testBit_number_of_lt (hlen ▸ hj), hlen]
    rw [hcs, hbit, ← testBit_number_of_lt hj]
    by_cases hm : j < 8 * bs.length - m
    · simp [hm, show m ≤ 8 * bs.length - 1 - j by omega]
    · rw [if_neg hm, show j - (8 * bs.length - m) + (8 * bs.length - m) = j by omega]
      simp [show ¬ m ≤ 8 * bs.length - 1 - j by omega]
  · have hlarge : 2 ^ (8 * bs.length) ≤ 2 ^ j := Nat.pow_le_pow_right (by decide) hj
    have hzero := Nat.testBit_lt_two_pow ((number_lt bs).trans_le hlarge)
    have hcs := number_lt cs
    rw [hlen] at hcs
    rw [Nat.testBit_lt_two_pow (hcs.trans_le hlarge), if_neg (by omega),
      show j - (8 * bs.length - m) + (8 * bs.length - m) = j by omega, hzero]

/-- Between the bytes without the bits from `m` on and those with all of them are the bytes with
the same bits before. -/
theorem between_iff {first last ds : List UInt8} (hm : m ≤ 8 * bs.length)
    (hds : ds.length = bs.length) (hfirst : first.length = bs.length)
    (hlast : last.length = bs.length)
    (hclear : ∀ i < 8 * bs.length, bit first i = (bit bs i && decide (i < m)))
    (hfill : ∀ i < 8 * bs.length, bit last i = (bit bs i || decide (m ≤ i))) :
    number first ≤ number ds ∧ number ds ≤ number last ↔ ∀ i < m, bit ds i = bit bs i := by
  have hlt := number_lt ds
  rw [hds] at hlt
  rw [number_of_cleared hfirst hclear, number_of_filled hlast hfill, mem_block_iff,
    div_eq_iff hlt (number_lt bs) (Nat.sub_le _ _),
    show 8 * bs.length - (8 * bs.length - m) = m by omega]
  refine forall₂_congr fun i hi => ?_
  have hback : (number ds).testBit (8 * ds.length - 1 - i) = bit ds i :=
    testBit_number (by omega)
  rw [hds] at hback
  rw [hback, testBit_number (by omega)]

/-! ### Comparison -/

theorem memcmp_eq_zero_iff (hlen : bs.length = cs.length) : memcmp bs cs = 0 ↔ bs = cs := by
  induction bs generalizing cs with
  | nil =>
    obtain rfl := List.length_eq_zero_iff.mp hlen.symm
    exact iff_of_true rfl rfl
  | cons b bs ih =>
    cases cs with
    | nil => exact absurd hlen (Nat.succ_ne_zero _)
    | cons c cs =>
      rw [memcmp, List.cons.injEq]
      by_cases hbc : b = c
      · rw [if_pos hbc, ih (Nat.succ.inj hlen), and_iff_right hbc]
      · rw [if_neg hbc]
        refine iff_of_false (fun hzero => hbc ?_) fun h => hbc h.1
        exact UInt8.toNat_inj.mp (Int.ofNat.inj (sub_eq_zero.mp hzero))

/-- `memcmp` is negative for the smaller number. -/
theorem memcmp_neg_iff (hlen : bs.length = cs.length) :
    memcmp bs cs < 0 ↔ number bs < number cs := by
  induction bs generalizing cs with
  | nil =>
    obtain rfl := List.length_eq_zero_iff.mp hlen.symm
    exact iff_of_false (lt_irrefl _) (lt_irrefl _)
  | cons b bs ih =>
    cases cs with
    | nil => exact absurd hlen (Nat.succ_ne_zero _)
    | cons c cs =>
      have hlen' : bs.length = cs.length := Nat.succ.inj hlen
      have hbs := number_lt bs
      have hcs := number_lt cs
      rw [memcmp, number_cons, number_cons, hlen']
      rw [hlen'] at hbs
      by_cases hbc : b = c
      · rw [if_pos hbc, ih hlen', hbc]
        omega
      · have hne : b.toNat ≠ c.toNat := fun h => hbc (UInt8.toNat_inj.mp h)
        -- the first bytes decide, since what follows is less than one of their steps
        have hstep : ∀ x y : ℕ, x < y →
            2 ^ (8 * cs.length) * x + 2 ^ (8 * cs.length) ≤ 2 ^ (8 * cs.length) * y := by
          intro x y hxy
          rw [← Nat.mul_succ]
          exact Nat.mul_le_mul_left _ hxy
        rw [if_neg hbc]
        rcases Nat.lt_or_gt_of_ne hne with hlt | hgt
        · have hle := hstep _ _ hlt
          exact iff_of_true (by omega) (by omega)
        · have hle := hstep _ _ hgt
          exact iff_of_false (by omega) (by omega)

end NetworkOrder
