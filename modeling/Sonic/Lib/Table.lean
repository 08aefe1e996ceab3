/-
Lib/Table.lean

Finite tables with unique keys, and sums over their entries.

A table is Mathlib's `AList` with values of one type, so that looking up, storing and
erasing are Mathlib's.  What is added is the sum of a weight over the entries, which
storing and erasing change at one key only (`sum_insert`, `sum_erase`): a counter that
is to be the number of entries of some kind is compared with such a sum.
-/
import Mathlib.Data.List.AList
import Mathlib.Algebra.BigOperators.Group.List.Basic
import Mathlib.Algebra.Order.BigOperators.Group.List
import Mathlib.Tactic

/-- A finite table. -/
abbrev Table (K V : Type*) := AList fun _ : K => V

namespace Table

variable {K V : Type*} [DecidableEq K]

/-- `t[k] = f(t[k])`, where a key that is not there gets a default first. -/
def update (k : K) (default : V) (f : V → V) (t : Table K V) : Table K V :=
  t.insert k (f ((t.lookup k).getD default))

omit [DecidableEq K] in
theorem nodupKeys_map {W : Type*} {f : K → V → W} {l : List (Sigma fun _ : K => V)}
    (h : l.NodupKeys) :
    (l.map fun e => (⟨e.1, f e.1 e.2⟩ : Sigma fun _ : K => W)).NodupKeys := by
  have hkeys : (l.map fun e => (⟨e.1, f e.1 e.2⟩ : Sigma fun _ : K => W)).keys = l.keys := by
    rw [List.keys, List.keys, List.map_map]
    rfl
  show (List.keys _).Nodup
  rw [hkeys]
  exact h

/-- Every value changed, by its key. -/
def map {W : Type*} (f : K → V → W) (t : Table K V) : Table K W :=
  ⟨t.entries.map fun e => ⟨e.1, f e.1 e.2⟩, nodupKeys_map t.nodupKeys⟩

/-- The sum of a weight over the entries. -/
def sum (f : K → V → ℤ) (t : Table K V) : ℤ := (t.entries.map fun e => f e.1 e.2).sum

variable {t : Table K V} {k k' : K} {v v' : V} {f g : K → V → ℤ}

theorem mem_of_lookup (h : t.lookup k = some v) : k ∈ t :=
  AList.lookup_isSome.mp (by rw [h]; rfl)

/-- Storing a key that is there adds none. -/
theorem mem_insert_of_mem (h : k ∈ t) : k' ∈ t.insert k v ↔ k' ∈ t := by
  rw [AList.mem_insert]
  exact ⟨fun h' => h'.elim (fun h' => h' ▸ h) id, .inr⟩

theorem lookup_insert_eq :
    (t.insert k v).lookup k' = if k' = k then some v else t.lookup k' := by
  split
  · next h =>
      subst h
      exact AList.lookup_insert t
  · next h => exact AList.lookup_insert_ne h

theorem lookup_erase_eq :
    (t.erase k).lookup k' = if k' = k then none else t.lookup k' := by
  split
  · next h =>
      subst h
      exact AList.lookup_erase k' t
  · next h => exact AList.lookup_erase_ne h

theorem lookup_insert_iff :
    (t.insert k v).lookup k' = some v' ↔ (k' = k ∧ v' = v) ∨ (k' ≠ k ∧ t.lookup k' = some v') := by
  rw [lookup_insert_eq]
  split
  · next h =>
      rw [Option.some.injEq]
      exact ⟨fun h' => .inl ⟨h, h'.symm⟩, fun h' => (h'.resolve_right fun h' => h'.1 h).2.symm⟩
  · next h => exact ⟨fun h' => .inr ⟨h, h'⟩, fun h' => (h'.resolve_left fun h' => h h'.1).2⟩

theorem lookup_erase_iff :
    (t.erase k).lookup k' = some v' ↔ k' ≠ k ∧ t.lookup k' = some v' := by
  rw [lookup_erase_eq]
  split
  · next h => exact ⟨nofun, fun h' => absurd h h'.1⟩
  · next h => exact ⟨fun h' => ⟨h, h'⟩, And.right⟩

theorem lookup_update {d : V} {h : V → V} :
    (t.update k d h).lookup k' = if k' = k then some (h ((t.lookup k).getD d)) else t.lookup k' :=
  lookup_insert_eq

theorem lookup_map {W : Type*} {h : K → V → W} : (t.map h).lookup k = (t.lookup k).map (h k) := by
  obtain ⟨entries, hnodup⟩ := t
  show (entries.map fun e => (⟨e.1, h e.1 e.2⟩ : Sigma fun _ : K => W)).dlookup k
    = (entries.dlookup k).map (h k)
  clear hnodup
  induction entries with
  | nil => rfl
  | cons e entries ih =>
    rw [List.map_cons]
    by_cases he : k = e.1
    · subst he
      rw [List.dlookup_cons_eq, List.dlookup_cons_eq entries e.1 e.2]
      rfl
    · rw [List.dlookup_cons_ne _ (⟨e.1, h e.1 e.2⟩ : Sigma fun _ : K => W) he,
        List.dlookup_cons_ne entries e he, ih]

/-- The entries are what can be looked up. -/
theorem mem_entries {e : Sigma fun _ : K => V} : e ∈ t.entries ↔ t.lookup e.1 = some e.2 :=
  (List.mem_dlookup_iff t.nodupKeys (b := e.2)).symm

/-! ### Sums -/

/-- Without a key, its weight is gone. -/
theorem sum_erase : sum f (t.erase k) = sum f t - ((t.lookup k).map (f k)).getD 0 := by
  obtain ⟨entries, hnodup⟩ := t
  show ((entries.kerase k).map fun e => f e.1 e.2).sum
    = (entries.map fun e => f e.1 e.2).sum - ((entries.dlookup k).map (f k)).getD 0
  clear hnodup
  induction entries with
  | nil => simp
  | cons e entries ih =>
    rw [List.map_cons, List.sum_cons]
    by_cases h : k = e.1
    · subst h
      rw [List.kerase_cons_eq rfl, List.dlookup_cons_eq entries e.1 e.2]
      simp
    · rw [List.kerase_cons_ne h, List.dlookup_cons_ne entries e h, List.map_cons,
        List.sum_cons, ih]
      ring

/-- A key that is stored has its weight beside those of the other keys. -/
theorem sum_insert_erase : sum f (t.insert k v) = f k v + sum f (t.erase k) := by
  have hentries : (t.insert k v).entries = ⟨k, v⟩ :: (t.erase k).entries := AList.entries_insert
  unfold sum
  rw [hentries, List.map_cons, List.sum_cons]

/-- A key that is stored has its new weight instead of the old one. -/
theorem sum_insert :
    sum f (t.insert k v) = sum f t + f k v - ((t.lookup k).map (f k)).getD 0 := by
  rw [sum_insert_erase, sum_erase]
  ring

/-- Weights that agree on the entries have the same sum. -/
theorem sum_congr (h : ∀ k v, t.lookup k = some v → f k v = g k v) : sum f t = sum g t := by
  refine congrArg List.sum (List.map_congr_left fun e he => ?_)
  exact h e.1 e.2 (mem_entries.mp he)

theorem sum_nonneg (h : ∀ k v, t.lookup k = some v → 0 ≤ f k v) : 0 ≤ sum f t := by
  refine List.sum_nonneg fun x hx => ?_
  obtain ⟨e, he, rfl⟩ := List.mem_map.mp hx
  exact h e.1 e.2 (mem_entries.mp he)

/-- One entry weighs at most as much as all, when no weight is negative. -/
theorem le_sum (h : ∀ k v, t.lookup k = some v → 0 ≤ f k v) (hk : t.lookup k = some v) :
    f k v ≤ sum f t := by
  have herase : 0 ≤ sum f (t.erase k) := by
    refine sum_nonneg fun k' v' hk' => ?_
    rw [lookup_erase_eq] at hk'
    split at hk'
    · cases hk'
    · exact h k' v' hk'
  have hsum := sum_erase (t := t) (k := k) (f := f)
  rw [hk, Option.map_some, Option.getD_some] at hsum
  omega

/-- A sum of zeros and ones that is positive has a one. -/
theorem exists_of_sum_pos (h : 0 < sum f t) : ∃ k v, t.lookup k = some v ∧ 0 < f k v := by
  by_contra hnone
  push Not at hnone
  have hle : sum f t ≤ (t.entries.map fun _ => (0 : ℤ)).sum :=
    List.sum_le_sum fun e he => hnone e.1 e.2 (mem_entries.mp he)
  rw [List.map_const', List.sum_replicate, smul_zero] at hle
  omega

/-- The number of entries. -/
def size (t : Table K V) : ℤ := sum (fun _ _ => 1) t

theorem size_erase : size (t.erase k) = size t - (if t.lookup k = none then 0 else 1) := by
  unfold size
  rw [sum_erase]
  cases t.lookup k <;> simp

omit [DecidableEq K] in
theorem size_eq_length : size t = t.entries.length := by
  unfold size sum
  simp

end Table
