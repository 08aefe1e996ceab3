/-
Lib/LexPrefix.lean

Prefixes in the lexicographic order of lists.

The lists that start with `p` are an interval (`isPrefix_of_le_of_le`), and the intervals of two
lists of which neither starts with the other lie one before the other (`append_lt_append`).  In a
sorted list of such lists the last one that is not after `x` is the one that `x` starts with, if
there is one (`getLast?_takeWhile_le`).
-/
import Mathlib.Data.List.Lex
import Mathlib.Data.List.Sort
import Mathlib.Data.List.TakeWhile

namespace LexPrefix

variable {α : Type*} [LinearOrder α] {p q x y z s t : List α}

theorem append_lt_append_iff (p : List α) : p ++ s < p ++ t ↔ s < t := by
  induction p with
  | nil => exact Iff.rfl
  | cons a p ih => rw [List.cons_append, List.cons_append, List.cons_lt_cons_self, ih]

theorem append_le_append_iff (p : List α) : p ++ s ≤ p ++ t ↔ s ≤ t := by
  rw [← not_lt, ← not_lt, append_lt_append_iff]

theorem not_lt_nil : ¬ x < [] := nofun

theorem nil_le (x : List α) : [] ≤ x := not_lt.mp not_lt_nil

theorem le_append (p s : List α) : p ≤ p ++ s := by
  have h := (append_le_append_iff p).mpr (nil_le s)
  rwa [List.append_nil] at h

theorem cons_le_cons_iff {a b : α} : a :: x ≤ b :: y ↔ a < b ∨ a = b ∧ x ≤ y := by
  rw [← not_lt, List.cons_lt_cons_iff, not_or, not_lt, not_and, not_lt, le_iff_lt_or_eq]
  constructor
  · rintro ⟨hlt | rfl, h⟩
    · exact .inl hlt
    · exact .inr ⟨rfl, h rfl⟩
  · rintro (hlt | ⟨rfl, h⟩)
    · exact ⟨.inl hlt, fun heq => absurd heq (ne_of_gt hlt)⟩
    · exact ⟨.inr rfl, fun _ => h⟩

/-- What starts with `p` is an interval. -/
theorem isPrefix_of_le_of_le (hx : p <+: x) (hz : p <+: z) (hxy : x ≤ y) (hyz : y ≤ z) :
    p <+: y := by
  induction p generalizing x y z with
  | nil => exact List.nil_prefix
  | cons a p ih =>
    obtain ⟨s, rfl⟩ := hx
    obtain ⟨t, rfl⟩ := hz
    cases y with
    | nil => exact absurd hxy (not_le_of_gt (List.nil_lt_cons ..))
    | cons b y =>
      -- the first element is between `a` and `a`
      rcases cons_le_cons_iff.mp hxy with hab | ⟨rfl, hsy⟩
      · rcases cons_le_cons_iff.mp hyz with hba | ⟨rfl, -⟩
        · exact absurd hab hba.asymm
        · exact absurd hab (lt_irrefl _)
      rcases cons_le_cons_iff.mp hyz with haa | ⟨-, hyt⟩
      · exact absurd haa (lt_irrefl _)
      · exact (List.prefix_cons_inj a).mpr (ih ⟨s, rfl⟩ ⟨t, rfl⟩ hsy hyt)

/-- Of two lists of which neither starts with the other, all that starts with the first is before
all that starts with the second. -/
theorem append_lt_append (hlt : p < q) (hpq : ¬ p <+: q) (s t : List α) : p ++ s < q ++ t := by
  by_contra hge
  exact hpq (isPrefix_of_le_of_le (List.prefix_refl p) (List.prefix_append p s) hlt.le
    ((le_append q t).trans (not_lt.mp hge)))

theorem append_le_of_lt (hlt : p < x) (hpx : ¬ p <+: x) (s : List α) : p ++ s < x := by
  have h := append_lt_append hlt hpx s []
  rwa [List.append_nil] at h

/-! ### Lists of prefixes -/

variable {l : List (List α)}

/-- Of two members neither starts with the other. -/
def Free (l : List (List α)) : Prop := ∀ p ∈ l, ∀ q ∈ l, p <+: q → p = q

/-- A list is in two parts, before and after `x`. -/
theorem takeWhile_le_append (hl : l.Pairwise (· < ·)) (x : List α) :
    (∀ p, p ∈ l.takeWhile (· ≤ x) ↔ p ∈ l ∧ p ≤ x) ∧
      ∀ p, p ∈ l.dropWhile (· ≤ x) ↔ p ∈ l ∧ x < p := by
  induction l with
  | nil => exact ⟨fun p => ⟨nofun, nofun⟩, fun p => ⟨nofun, nofun⟩⟩
  | cons q l ih =>
    obtain ⟨hq, hl⟩ := List.pairwise_cons.mp hl
    obtain ⟨htake, hdrop⟩ := ih hl
    by_cases hle : q ≤ x
    · rw [List.takeWhile_cons_of_pos (by simpa using hle),
        List.dropWhile_cons_of_pos (by simpa using hle)]
      refine ⟨fun p => ?_, fun p => ?_⟩
      · rw [List.mem_cons, List.mem_cons, htake, or_and_right]
        exact or_congr_left ⟨fun h => ⟨h, h ▸ hle⟩, And.left⟩
      · rw [hdrop, List.mem_cons, or_and_right]
        exact ⟨.inr, fun h => h.resolve_left fun h => absurd (h.1 ▸ h.2) (not_lt.mpr hle)⟩
    · -- all that follows is after `x` too
      have hafter : ∀ p ∈ q :: l, x < p := by
        intro p hp
        rcases List.mem_cons.mp hp with rfl | hp
        · exact not_le.mp hle
        · exact (not_le.mp hle).trans (hq p hp)
      rw [List.takeWhile_cons_of_neg (by simpa using hle),
        List.dropWhile_cons_of_neg (by simpa using hle)]
      refine ⟨fun p => ⟨nofun, fun h => ?_⟩, fun p => ⟨fun hp => ⟨hp, hafter p hp⟩, And.left⟩⟩
      exact absurd (hafter p h.1) (not_lt.mpr h.2)

/-- The last member that is not after `x` is the one that `x` starts with. -/
theorem getLast?_takeWhile_le (hl : l.Pairwise (· < ·)) (hfree : Free l) (hp : p ∈ l)
    (hpx : p <+: x) : (l.takeWhile (· ≤ x)).getLast? = some p := by
  obtain ⟨s, rfl⟩ := hpx
  obtain ⟨before, after, rfl⟩ := List.append_of_mem hp
  obtain ⟨-, hafter, hbefore⟩ := List.pairwise_append.mp hl
  have hle : ∀ q ∈ before, decide (q ≤ p ++ s) = true := fun q hq =>
    decide_eq_true ((hbefore q hq p List.mem_cons_self).le.trans (le_append p s))
  have hnil : after.takeWhile (fun q => decide (q ≤ p ++ s)) = [] := by
    cases after with
    | nil => rfl
    | cons q after =>
      have hpq : p < q := (List.pairwise_cons.mp hafter).1 q List.mem_cons_self
      have hnot : ¬ p <+: q := fun h => absurd
        (hfree p hp q (List.mem_append_right _ (List.mem_cons_of_mem _ List.mem_cons_self)) h)
        hpq.ne
      have hgt := append_le_of_lt hpq hnot s
      exact List.takeWhile_cons_of_neg (by simpa using hgt)
  have hself : decide (p ≤ p ++ s) = true := decide_eq_true (le_append p s)
  rw [List.takeWhile_append_of_pos hle, List.takeWhile_cons, hself, if_pos rfl, hnil,
    List.getLast?_append]
  rfl

end LexPrefix
