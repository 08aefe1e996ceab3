/-
Lib/Countdown.lean

Count-downs that a periodic check lowers.

A count-down of `time` is lowered by `poll` at every check that holds, and fires at the
check that finds no more than `poll` left; then it starts anew.  So it fires at every
`time ⌈/⌉ poll`-th check in a row.  `Phase` relates what is left to the number of checks
that have held in a row; it is all that a proof about a count-down needs.
-/
import Mathlib

namespace Countdown

variable {poll time left n : ℕ}

/-- A check that holds: whether the count-down fires, and what is left. -/
def lower (poll time left : ℕ) : Bool × ℕ :=
  if left ≤ poll then (true, time) else (false, left - poll)

/-- `left` is what is left of `time` after `n` checks that held in a row. -/
structure Phase (poll time left n : ℕ) : Prop where
  pos : 0 < left
  turn : left ⌈/⌉ poll + n % (time ⌈/⌉ poll) = time ⌈/⌉ poll

/-! ### The checks that a time takes -/

theorem ceilDiv_pos (hp : 0 < poll) (ht : 0 < time) : 0 < time ⌈/⌉ poll := by
  refine Nat.pos_of_ne_zero fun h => ?_
  have hle := (ceilDiv_le_iff_le_mul hp).mp (le_of_eq h)
  omega

theorem ceilDiv_eq_one_iff (hp : 0 < poll) (ht : 0 < time) : time ⌈/⌉ poll = 1 ↔ time ≤ poll := by
  have hpos := ceilDiv_pos hp ht
  have hle : time ⌈/⌉ poll ≤ 1 ↔ time ≤ poll * 1 := ceilDiv_le_iff_le_mul hp
  rw [mul_one] at hle
  rw [← hle]
  omega

theorem ceilDiv_sub (hp : 0 < poll) (h : poll < time) :
    (time - poll) ⌈/⌉ poll + 1 = time ⌈/⌉ poll := by
  have hsplit : time + poll - 1 = (time - poll + poll - 1) + poll := by omega
  rw [Nat.ceilDiv_eq_add_pred_div, Nat.ceilDiv_eq_add_pred_div, hsplit, Nat.add_div_right _ hp]

/-! ### Phases -/

/-- Nothing has held yet. -/
theorem phase_zero_iff : Phase poll time left 0 ↔ 0 < left ∧ left ⌈/⌉ poll = time ⌈/⌉ poll := by
  constructor
  · intro h
    have hturn := h.turn
    rw [Nat.zero_mod, Nat.add_zero] at hturn
    exact ⟨h.pos, hturn⟩
  · rintro ⟨hpos, hturn⟩
    refine ⟨hpos, ?_⟩
    rw [Nat.zero_mod, Nat.add_zero]
    exact hturn

theorem Phase.start (ht : 0 < time) : Phase poll time time 0 :=
  phase_zero_iff.mpr ⟨ht, rfl⟩

/-- The checks of a round are counted up to its length. -/
theorem dvd_succ_iff {m : ℕ} (hm : 0 < m) : m ∣ n + 1 ↔ n % m + 1 = m := by
  obtain ⟨b, rfl⟩ : ∃ b, m = b + 1 := ⟨m - 1, by omega⟩
  rw [Nat.dvd_iff_mod_eq_zero, Nat.succ_mod_succ_eq_zero_iff]
  omega

theorem succ_mod {m : ℕ} (h : n % m + 1 < m) : (n + 1) % m = n % m + 1 := by
  have hone : 1 % m = 1 := Nat.mod_eq_of_lt (by omega)
  rw [Nat.add_mod, hone, Nat.mod_eq_of_lt h]

/-- A count-down fires at every `time ⌈/⌉ poll`-th check. -/
theorem Phase.fires_iff (hp : 0 < poll) (h : Phase poll time left n) :
    (Countdown.lower poll time left).1 = true ↔ time ⌈/⌉ poll ∣ n + 1 := by
  have hfire : (Countdown.lower poll time left).1 = true ↔ left ≤ poll := by
    unfold Countdown.lower
    split <;> simp_all
  have hpos := ceilDiv_pos hp h.pos
  have hturn := h.turn
  rw [hfire, ← ceilDiv_eq_one_iff hp h.pos, dvd_succ_iff (by omega)]
  omega

/-- The phase after a check that held. -/
theorem Phase.lower (hp : 0 < poll) (ht : 0 < time) (h : Phase poll time left n) :
    Phase poll time (Countdown.lower poll time left).2 (n + 1) := by
  have hfires := h.fires_iff hp
  unfold Countdown.lower at hfires ⊢
  split at hfires
  next hle =>
    rw [if_pos hle]
    have hdvd := Nat.mod_eq_zero_of_dvd (hfires.mp rfl)
    exact ⟨ht, by rw [hdvd, Nat.add_zero]⟩
  next hgt =>
    rw [if_neg hgt]
    show Phase poll time (left - poll) (n + 1)
    have hturn := h.turn
    have hsub := ceilDiv_sub hp (Nat.lt_of_not_le hgt)
    have hpos := ceilDiv_pos hp (show 0 < left - poll by omega)
    refine ⟨by omega, ?_⟩
    rw [succ_mod (by omega)]
    omega

end Countdown
