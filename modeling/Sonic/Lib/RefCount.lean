/-
Lib/RefCount.lean

Reference counters.

The counters are a table: an object has a counter from when it is known on.  A
reference to an object that is not known is a fault, and so is a counter below zero.
Counters are exact (`Exact`) if they are the numbers of references there are, and
nothing refers to what is not known.  Counting up and down along lists of references
keeps them exact, and while they are exact no counter falls below zero
(`incAll_ok`, `decAll_ok`).
-/
import Sonic.Lib.Table
import Sonic.Lib.Outcome

namespace RefCount

open Outcome

/-- Why a reference was not counted. -/
inductive Fault where
  | missing | negative
  deriving DecidableEq, Repr

variable {K : Type} [DecidableEq K] {R R' : Table K ℤ} {occ : K → ℤ} {k : K} {ks : List K}

/-- One reference more. -/
def inc (R : Table K ℤ) (k : K) : Except Fault (Table K ℤ) :=
  match R.lookup k with
  | none => .error .missing
  | some n => .ok (R.insert k (n + 1))

/-- One reference less. -/
def dec (R : Table K ℤ) (k : K) : Except Fault (Table K ℤ) :=
  match R.lookup k with
  | none => .error .missing
  | some n => if n - 1 < 0 then .error .negative else .ok (R.insert k (n - 1))

def incAll (R : Table K ℤ) (ks : List K) : Except Fault (Table K ℤ) := ks.foldlM inc R

def decAll (R : Table K ℤ) (ks : List K) : Except Fault (Table K ℤ) := ks.foldlM dec R

/-- The counters are the numbers of references. -/
def Exact (R : Table K ℤ) (occ : K → ℤ) : Prop :=
  ∀ k, (∀ n, R.lookup k = some n → n = occ k) ∧ (R.lookup k = none → occ k = 0)

/-- The references that `k` alone is. -/
def one (k k' : K) : ℤ := if k' = k then 1 else 0

theorem Exact.counter {n : ℤ} (h : Exact R occ) (hk : R.lookup k = some n) : n = occ k :=
  (h k).1 n hk

theorem Exact.known (h : Exact R occ) (hk : occ k ≠ 0) : (R.lookup k).isSome := by
  by_contra hnone
  rw [Bool.not_eq_true, Option.isSome_eq_false_iff, Option.isNone_iff_eq_none] at hnone
  exact hk ((h k).2 hnone)

theorem Exact.congr {occ' : K → ℤ} (h : Exact R occ) (hocc : ∀ k, occ' k = occ k) :
    Exact R occ' := by
  intro k
  rw [hocc k]
  exact h k

/-- A new counter starts at zero. -/
theorem Exact.insert (h : Exact R occ) (hk : R.lookup k = none) : Exact (R.insert k 0) occ := by
  intro k'
  rw [Table.lookup_insert_eq]
  by_cases hkk : k' = k
  · subst hkk
    rw [if_pos rfl]
    refine ⟨?_, by simp⟩
    rintro n hn
    rw [← Option.some.inj hn, (h k').2 hk]
  · rw [if_neg hkk]
    exact h k'

/-- A counter that is zero may go. -/
theorem Exact.erase (h : Exact R occ) (hk : occ k = 0) : Exact (R.erase k) occ := by
  intro k'
  rw [Table.lookup_erase_eq]
  by_cases hkk : k' = k
  · subst hkk
    rw [if_pos rfl]
    exact ⟨by simp, fun _ => hk⟩
  · rw [if_neg hkk]
    exact h k'

/-- The counter of one object changed by as much as its references. -/
theorem Exact.shift {n d : ℤ} (h : Exact R occ) (hk : R.lookup k = some n) :
    Exact (R.insert k (n + d)) fun k' => occ k' + d * one k k' := by
  intro k'
  show (∀ m, (R.insert k (n + d)).lookup k' = some m → m = occ k' + d * one k k')
    ∧ ((R.insert k (n + d)).lookup k' = none → occ k' + d * one k k' = 0)
  rw [Table.lookup_insert_eq]
  by_cases hkk : k' = k
  · subst hkk
    rw [if_pos rfl, one, if_pos rfl, mul_one]
    refine ⟨?_, by simp⟩
    rintro m hm
    rw [← Option.some.inj hm, h.counter hk]
  · rw [if_neg hkk, one, if_neg hkk, mul_zero, add_zero]
    exact h k'

/-! ### One reference -/

theorem inc_eq_ok : inc R k = .ok R' ↔ ∃ n, R.lookup k = some n ∧ R' = R.insert k (n + 1) := by
  unfold inc
  cases hk : R.lookup k with
  | none => simp
  | some n =>
    constructor
    · intro h
      exact ⟨n, rfl, (Except.ok.inj h).symm⟩
    · rintro ⟨_, hn, rfl⟩
      rw [Option.some.inj hn]

theorem dec_eq_ok :
    dec R k = .ok R' ↔ ∃ n, R.lookup k = some n ∧ 0 ≤ n - 1 ∧ R' = R.insert k (n - 1) := by
  unfold dec
  cases hk : R.lookup k with
  | none => simp
  | some n =>
    show (if n - 1 < 0 then Except.error Fault.negative else Except.ok (R.insert k (n - 1)))
      = Except.ok R' ↔ _
    by_cases hneg : n - 1 < 0
    · rw [if_pos hneg]
      refine ⟨by simp, ?_⟩
      rintro ⟨_, hn, hpos, -⟩
      obtain rfl := Option.some.inj hn
      omega
    · rw [if_neg hneg]
      constructor
      · intro h
        exact ⟨n, rfl, by omega, (Except.ok.inj h).symm⟩
      · rintro ⟨_, hn, -, rfl⟩
        rw [Option.some.inj hn]

theorem Exact.inc (h : Exact R occ) (hinc : inc R k = .ok R') :
    Exact R' fun k' => occ k' + one k k' := by
  obtain ⟨n, hk, rfl⟩ := inc_eq_ok.mp hinc
  exact (h.shift hk).congr fun k' => by ring

theorem Exact.dec (h : Exact R occ) (hdec : dec R k = .ok R') :
    Exact R' fun k' => occ k' - one k k' := by
  obtain ⟨n, hk, -, rfl⟩ := dec_eq_ok.mp hdec
  exact (h.shift (d := -1) hk).congr fun k' => by ring

/-- Counting makes nothing known, and nothing unknown. -/
theorem inc_known (hinc : inc R k = .ok R') (k' : K) :
    (R'.lookup k').isSome = (R.lookup k').isSome := by
  obtain ⟨n, hk, rfl⟩ := inc_eq_ok.mp hinc
  rw [Table.lookup_insert_eq]
  split
  · next h => rw [h, hk]; rfl
  · rfl

theorem dec_known (hdec : dec R k = .ok R') (k' : K) :
    (R'.lookup k').isSome = (R.lookup k').isSome := by
  obtain ⟨n, hk, -, rfl⟩ := dec_eq_ok.mp hdec
  rw [Table.lookup_insert_eq]
  split
  · next h => rw [h, hk]; rfl
  · rfl

/-! ### Lists of references -/

theorem count_cons_one {k k' : K} {ks : List K} :
    ((k :: ks).count k' : ℤ) = ks.count k' + one k k' := by
  unfold one
  rw [List.count_cons, Nat.cast_add]
  by_cases h : k' = k
  · subst h
    simp
  · have h' : ¬ (k == k') = true := fun heq => h (beq_iff_eq.mp heq).symm
    rw [if_neg h, if_neg h']
    rfl

theorem Exact.incAll (h : Exact R occ) (hinc : incAll R ks = .ok R') :
    Exact R' fun k' => occ k' + ks.count k' := by
  induction ks generalizing R occ with
  | nil =>
    obtain rfl := Except.ok.inj hinc
    exact h.congr fun k' => by simp
  | cons k ks ih =>
    obtain ⟨R₁, hk, hks⟩ := foldlM_cons_eq_ok.mp hinc
    refine (ih (h.inc hk) hks).congr fun k' => ?_
    rw [count_cons_one]
    ring

theorem Exact.decAll (h : Exact R occ) (hdec : decAll R ks = .ok R') :
    Exact R' fun k' => occ k' - ks.count k' := by
  induction ks generalizing R occ with
  | nil =>
    obtain rfl := Except.ok.inj hdec
    exact h.congr fun k' => by simp
  | cons k ks ih =>
    obtain ⟨R₁, hk, hks⟩ := foldlM_cons_eq_ok.mp hdec
    refine (ih (h.dec hk) hks).congr fun k' => ?_
    rw [count_cons_one]
    ring

theorem incAll_known (hinc : incAll R ks = .ok R') (k' : K) :
    (R'.lookup k').isSome = (R.lookup k').isSome := by
  induction ks generalizing R with
  | nil =>
    obtain rfl := Except.ok.inj hinc
    rfl
  | cons k ks ih =>
    obtain ⟨R₁, hk, hks⟩ := foldlM_cons_eq_ok.mp hinc
    rw [ih hks, inc_known hk]

theorem decAll_known (hdec : decAll R ks = .ok R') (k' : K) :
    (R'.lookup k').isSome = (R.lookup k').isSome := by
  induction ks generalizing R with
  | nil =>
    obtain rfl := Except.ok.inj hdec
    rfl
  | cons k ks ih =>
    obtain ⟨R₁, hk, hks⟩ := foldlM_cons_eq_ok.mp hdec
    rw [ih hks, dec_known hk]

/-- References to what is known are counted. -/
theorem incAll_ok (h : ∀ k ∈ ks, (R.lookup k).isSome) : ∃ R', incAll R ks = .ok R' := by
  induction ks generalizing R with
  | nil => exact ⟨R, rfl⟩
  | cons k ks ih =>
    obtain ⟨n, hk⟩ := Option.isSome_iff_exists.mp (h k List.mem_cons_self)
    have hinc : inc R k = .ok (R.insert k (n + 1)) := inc_eq_ok.mpr ⟨n, hk, rfl⟩
    obtain ⟨R', hks⟩ := ih (R := R.insert k (n + 1)) fun k' hk' => by
      rw [inc_known hinc]
      exact h k' (List.mem_cons_of_mem _ hk')
    exact ⟨R', foldlM_cons_eq_ok.mpr ⟨_, hinc, hks⟩⟩

/-- **References that are there are taken back**: exact counters do not fall below zero. -/
theorem decAll_ok (h : Exact R occ) (hks : ∀ k, (ks.count k : ℤ) ≤ occ k) :
    ∃ R', decAll R ks = .ok R' := by
  induction ks generalizing R occ with
  | nil => exact ⟨R, rfl⟩
  | cons k ks ih =>
    -- the counter is at least the number of references that are left to take back
    have hle : (ks.count k : ℤ) + 1 ≤ occ k := by
      have := hks k
      rw [count_cons_one, one, if_pos rfl] at this
      exact this
    obtain ⟨n, hk⟩ := Option.isSome_iff_exists.mp (h.known (k := k) (by omega))
    have hn : n = occ k := h.counter hk
    have hdec : dec R k = .ok (R.insert k (n - 1)) := dec_eq_ok.mpr ⟨n, hk, by omega, rfl⟩
    obtain ⟨R', hrest⟩ := ih (h.dec hdec) fun k' => by
      have := hks k'
      rw [count_cons_one] at this
      omega
    exact ⟨R', foldlM_cons_eq_ok.mpr ⟨_, hdec, hrest⟩⟩

/-! ### Counters of 32 bits -/

theorem toNat_inc {n : UInt32} (h : n ≠ 2 ^ 32 - 1) : ((n + 1).toNat : ℤ) = n.toNat + 1 := by
  have hne : n.toNat ≠ 2 ^ 32 - 1 := fun heq => h (UInt32.toNat_inj.mp heq)
  have hlt := n.toNat_lt
  rw [UInt32.toNat_add, show (1 : UInt32).toNat = 1 from rfl, Nat.mod_eq_of_lt (by omega)]
  rfl

theorem toNat_dec {n : UInt32} (h : n ≠ 0) : ((n - 1).toNat : ℤ) = n.toNat + -1 := by
  have hne : n.toNat ≠ 0 := fun heq => h (UInt32.toNat_inj.mp heq)
  have hle : (1 : UInt32) ≤ n := by
    rw [UInt32.le_iff_toNat_le, show (1 : UInt32).toNat = 1 from rfl]
    omega
  rw [UInt32.toNat_sub_of_le _ _ hle, show (1 : UInt32).toNat = 1 from rfl]
  omega

end RefCount
