/-
Lib/TreeMap.lean

Lookups in an ordered map after storing or erasing, by whether the keys are equal.

The lemmas of the library compare the keys by their order; here the order is that of a type
with decidable equality, so that `if_pos` and `if_neg` take the facts about keys as they are.
-/
import Mathlib

namespace TreeMap

open Std (ExtTreeMap)

variable {K V : Type} [Ord K] [Std.TransOrd K] [Std.LawfulEqOrd K] [DecidableEq K]
  {m : ExtTreeMap K V} {k k' : K} {v : V}

theorem getElem?_insert : (m.insert k v)[k']? = if k = k' then some v else m[k']? := by
  rw [ExtTreeMap.getElem?_insert]
  simp only [Std.compare_eq_iff_eq]

theorem getElem?_erase : (m.erase k)[k']? = if k = k' then none else m[k']? := by
  rw [ExtTreeMap.getElem?_erase]
  simp only [Std.compare_eq_iff_eq]

theorem getElem?_modify {f : V → V} :
    (m.modify k f)[k']? = if k = k' then m[k']?.map f else m[k']? := by
  rw [ExtTreeMap.getElem?_modify]
  simp only [Std.compare_eq_iff_eq]
  split_ifs with h
  · rw [h]
  · rfl

theorem getElem?_insert_self : (m.insert k v)[k]? = some v := getElem?_insert.trans (if_pos rfl)

theorem getElem?_insert_ne (h : k ≠ k') : (m.insert k v)[k']? = m[k']? :=
  getElem?_insert.trans (if_neg h)

theorem getElem?_erase_ne (h : k ≠ k') : (m.erase k)[k']? = m[k']? :=
  getElem?_erase.trans (if_neg h)

omit [Std.LawfulEqOrd K] [DecidableEq K] in
theorem mem_iff : k ∈ m ↔ ∃ v, m[k]? = some v := by
  rw [ExtTreeMap.mem_iff_isSome_getElem?, Option.isSome_iff_exists]

omit [Std.LawfulEqOrd K] [DecidableEq K] in
theorem not_mem_iff : k ∉ m ↔ m[k]? = none := by
  rw [mem_iff, Option.eq_none_iff_forall_ne_some, not_exists]

end TreeMap
