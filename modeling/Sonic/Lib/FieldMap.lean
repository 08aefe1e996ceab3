/-
Lib/FieldMap.lean

Finite field maps and the two ways a field list acts on them.

A field map is a `Std.ExtTreeMap`: ordered, extensional and computable.
`merge h fvs` writes the pairs of `fvs` into `h` one after the other, so the
last pair of a field wins; `h ∪ g` overlays the whole map `g` on `h`.  The two
are tied together by `union_merge` (merging into the overlay is overlaying the
merged map) and `merge_toList` (overlaying is merging the pairs of a map).
-/
import Mathlib

namespace FieldMap

open Std (ExtTreeMap TransOrd LawfulEqOrd)

variable {F V : Type*} [Ord F] [TransOrd F] [LawfulEqOrd F]

/-- Write the pairs of `fvs` into `h`, in order. -/
def merge (h : ExtTreeMap F V) (fvs : List (F × V)) : ExtTreeMap F V :=
  fvs.foldl (fun h fv => h.insert fv.1 fv.2) h

variable {h g : ExtTreeMap F V} {fvs gvs : List (F × V)}

omit [LawfulEqOrd F] in
@[simp] theorem merge_nil : merge h [] = h := rfl

omit [LawfulEqOrd F] in
@[simp] theorem merge_cons (fv : F × V) :
    merge h (fv :: fvs) = merge (h.insert fv.1 fv.2) fvs := rfl

omit [LawfulEqOrd F] in
theorem merge_append : merge h (fvs ++ gvs) = merge (merge h fvs) gvs :=
  List.foldl_append

/-! ### Lookups -/

/-- A field the list does not name keeps its value. -/
theorem getElem?_merge_of_not_mem {f : F} (hf : ∀ fv ∈ fvs, fv.1 ≠ f) :
    (merge h fvs)[f]? = h[f]? := by
  induction fvs generalizing h with
  | nil => rfl
  | cons fv fvs ih =>
    have hne : fv.1 ≠ f := hf fv (by simp)
    rw [merge_cons, ih fun fv' hfv' => hf fv' (by simp [hfv'])]
    simp [ExtTreeMap.getElem?_insert, hne]

/-- A field the list names gets its value from the list alone. -/
theorem getElem?_merge_congr {f : F} (hf : ∃ fv ∈ fvs, fv.1 = f) :
    (merge h fvs)[f]? = (merge g fvs)[f]? := by
  induction fvs generalizing h g with
  | nil => simp at hf
  | cons fv fvs ih =>
    simp only [merge_cons]
    by_cases hrest : ∃ fv' ∈ fvs, fv'.1 = f
    · exact ih hrest
    · have hout : ∀ fv' ∈ fvs, fv'.1 ≠ f := fun fv' hm he => hrest ⟨fv', hm, he⟩
      have hhead : fv.1 = f := by
        obtain ⟨fv', hm, he⟩ := hf
        rcases List.mem_cons.mp hm with rfl | hm
        · exact he
        · exact absurd he (hout fv' hm)
      rw [getElem?_merge_of_not_mem hout, getElem?_merge_of_not_mem hout, hhead]
      simp

/-- The fields after a merge: the old ones and the ones the list names. -/
theorem mem_merge {f : F} : f ∈ merge h fvs ↔ f ∈ h ∨ ∃ fv ∈ fvs, fv.1 = f := by
  induction fvs generalizing h with
  | nil => simp
  | cons fv fvs ih =>
    rw [merge_cons, ih, ExtTreeMap.mem_insert]
    simp only [Std.compare_eq_iff_eq, List.mem_cons, exists_eq_or_imp]
    tauto

/-- The value of a merged field is the old one or one of the pairs of the list. -/
theorem getElem?_merge_cases {f : F} {v : V} (hv : (merge h fvs)[f]? = some v) :
    h[f]? = some v ∨ (f, v) ∈ fvs := by
  induction fvs using List.reverseRecOn with
  | nil => exact Or.inl hv
  | append_singleton fvs fv ih =>
    rw [merge_append] at hv
    simp only [merge_cons, merge_nil, ExtTreeMap.getElem?_insert,
      Std.compare_eq_iff_eq] at hv
    split at hv
    · next he =>
        obtain rfl := Option.some.inj hv
        exact Or.inr (by simp [← Std.compare_eq_iff_eq.mp he])
    · exact (ih hv).imp_right (List.mem_append_left _)

theorem mem_of_getElem?_merge_empty {f : F} {v : V}
    (hv : (merge (∅ : ExtTreeMap F V) fvs)[f]? = some v) : (f, v) ∈ fvs := by
  rcases getElem?_merge_cases hv with hempty | hmem
  · rw [ExtTreeMap.getElem?_empty] at hempty
    cases hempty
  · exact hmem

/-- A field all of whose pairs agree gets their value. -/
theorem getElem?_merge_of_forall {f : F} {v : V} (hmem : ∃ fv ∈ fvs, fv.1 = f)
    (hall : ∀ fv ∈ fvs, fv.1 = f → fv.2 = v) : (merge h fvs)[f]? = some v := by
  rw [getElem?_merge_congr (g := ∅) hmem]
  obtain ⟨w, hw⟩ := Option.isSome_iff_exists.mp
    (ExtTreeMap.isSome_getElem?_iff_mem.mpr (mem_merge.mpr (Or.inr hmem)))
  have hwv : w = v := hall (f, w) (mem_of_getElem?_merge_empty hw) rfl
  rw [hw, hwv]

/-- The map that a list of fields makes with a value for each. -/
theorem getElem?_merge_map {g : F → V} {l : List F} {f : F} [Decidable (f ∈ l)] :
    (merge (∅ : ExtTreeMap F V) (l.map fun f => (f, g f)))[f]?
      = if f ∈ l then some (g f) else none := by
  by_cases hf : f ∈ l
  · rw [if_pos hf]
    refine getElem?_merge_of_forall ⟨(f, g f), List.mem_map.mpr ⟨f, hf, rfl⟩, rfl⟩ ?_
    intro fv hfv he
    obtain ⟨f', -, rfl⟩ := List.mem_map.mp hfv
    exact congrArg g he
  · rw [if_neg hf]
    refine (getElem?_merge_of_not_mem ?_).trans ExtTreeMap.getElem?_empty
    intro fv hfv he
    obtain ⟨f', hf', rfl⟩ := List.mem_map.mp hfv
    exact hf (he ▸ hf')

/-- A map with no more fields than one it contains is that one. -/
theorem eq_of_contains_of_size_le (hsub : ∀ (f : F) (v : V), g[f]? = some v → h[f]? = some v)
    (hsize : h.size ≤ g.size) : h = g := by
  have hkeys : g.keys ⊆ h.keys := by
    intro f hf
    obtain ⟨v, hv⟩ := Option.isSome_iff_exists.mp
      (ExtTreeMap.isSome_getElem?_iff_mem.mpr (ExtTreeMap.mem_keys.mp hf))
    exact ExtTreeMap.mem_keys.mpr
      (ExtTreeMap.isSome_getElem?_iff_mem.mp (by simp [hsub f v hv]))
  have hperm : g.keys.Perm h.keys := by
    refine (List.subperm_of_subset ExtTreeMap.nodup_keys hkeys).perm_of_length_le ?_
    simpa using hsize
  apply ExtTreeMap.ext_getElem?
  intro f
  rcases hg : g[f]? with - | v
  · have hnot : f ∉ h := by
      rw [← ExtTreeMap.mem_keys, ← hperm.mem_iff, ExtTreeMap.mem_keys,
        ← ExtTreeMap.isSome_getElem?_iff_mem, hg]
      simp
    exact ExtTreeMap.getElem?_eq_none hnot
  · exact hsub f v hg

theorem erase_of_not_mem {f : F} (hf : f ∉ h) : h.erase f = h := by
  apply ExtTreeMap.ext_getElem?
  intro f'
  rw [ExtTreeMap.getElem?_erase]
  split
  · next he =>
      rw [← Std.compare_eq_iff_eq.mp he, ExtTreeMap.getElem?_eq_none hf]
  · rfl

/-- Taking the pairs of a field out of a list and putting one at its end writes
that field last. -/
theorem merge_filter_concat [DecidableEq F] (f : F) (v : V) :
    merge h (fvs.filter (·.1 ≠ f) ++ [(f, v)]) = (merge h fvs).insert f v := by
  rw [merge_append]
  show (merge h (fvs.filter (·.1 ≠ f))).insert f v = (merge h fvs).insert f v
  apply ExtTreeMap.ext_getElem?
  intro f'
  by_cases he : f = f'
  · simp [he]
  · simp only [ExtTreeMap.getElem?_insert, Std.compare_eq_iff_eq, if_neg he]
    -- the pairs taken out are not those of `f'`
    clear v
    induction fvs generalizing h with
    | nil => rfl
    | cons fv fvs ih =>
      by_cases hfv : fv.1 = f
      · have hne : ∀ v, (h.insert fv.1 v)[f']? = h[f']? := by
          intro v
          simp [ExtTreeMap.getElem?_insert, hfv, he]
        rw [List.filter_cons_of_neg (by simpa using hfv), merge_cons, ih]
        by_cases hmem : ∃ gv ∈ fvs, gv.1 = f'
        · exact getElem?_merge_congr hmem
        · push Not at hmem
          rw [getElem?_merge_of_not_mem hmem, getElem?_merge_of_not_mem hmem, hne]
      · rw [List.filter_cons_of_pos (by simpa using hfv), merge_cons, merge_cons, ih]

/-- A list that names finitely many of infinitely many fields does not say what
the merged map is. -/
theorem exists_merge_ne [Infinite F] [Nonempty V] (fvs : List (F × V)) :
    ∃ g : ExtTreeMap F V, merge g fvs ≠ merge ∅ fvs := by
  classical
  obtain ⟨f, hf⟩ := Infinite.exists_notMem_finset (fvs.map Prod.fst).toFinset
  have hout : ∀ fv ∈ fvs, fv.1 ≠ f := by
    rintro fv hfv rfl
    exact hf (List.mem_toFinset.mpr (List.mem_map_of_mem hfv))
  obtain ⟨v⟩ := ‹Nonempty V›
  refine ⟨(∅ : ExtTreeMap F V).insert f v, ?_⟩
  intro he
  have hf' := congrArg (·[f]?) he
  simp only [getElem?_merge_of_not_mem hout] at hf'
  simp at hf'

/-! ### Merge and overlay -/

omit [LawfulEqOrd F] in
theorem union_insert (f : F) (v : V) : h ∪ g.insert f v = (h ∪ g).insert f v :=
  ExtTreeMap.union_insert_right_eq_insert_union (p := ⟨f, v⟩)

theorem union_empty : h ∪ (∅ : ExtTreeMap F V) = h := by
  apply ExtTreeMap.ext_getElem?
  simp [ExtTreeMap.getElem?_union]

theorem empty_union : (∅ : ExtTreeMap F V) ∪ h = h := by
  apply ExtTreeMap.ext_getElem?
  simp [ExtTreeMap.getElem?_union]

/-- An overlay is all there is when it has every field. -/
theorem union_eq_right_iff : h ∪ g = g ↔ ∀ f ∈ h, f ∈ g := by
  constructor
  · intro he f hf
    rw [← he]
    exact ExtTreeMap.mem_union_iff.mpr (Or.inl hf)
  · intro hsub
    apply ExtTreeMap.ext_getElem?
    intro f
    rw [ExtTreeMap.getElem?_union]
    rcases hg : g[f]? with - | v
    · have hnot : f ∉ h := by
        intro hf
        have hmem := ExtTreeMap.isSome_getElem?_iff_mem.mpr (hsub f hf)
        rw [hg] at hmem
        exact absurd hmem (by simp)
      simp [ExtTreeMap.getElem?_eq_none hnot]
    · simp

omit [LawfulEqOrd F] in
/-- Merging into an overlay is overlaying the merged map. -/
theorem union_merge : h ∪ merge g fvs = merge (h ∪ g) fvs := by
  induction fvs generalizing g with
  | nil => rfl
  | cons fv fvs ih => simp only [merge_cons, ih, union_insert]

/-- Merging a list is overlaying the map the list alone makes. -/
theorem merge_eq_union : merge h fvs = h ∪ merge ∅ fvs := by
  rw [union_merge, union_empty]

/-- The pairs of a map, merged into nothing, give the map back. -/
theorem merge_empty_toList : merge ∅ g.toList = g := by
  apply ExtTreeMap.ext_getElem?
  intro f
  rcases hg : g[f]? with - | v
  · refine (getElem?_merge_of_not_mem ?_).trans ExtTreeMap.getElem?_empty
    rintro ⟨f', v'⟩ hm rfl
    rw [ExtTreeMap.mem_toList_iff_getElem?_eq_some.mp hm] at hg
    exact absurd hg (by simp)
  · have hmem : f ∈ merge (∅ : ExtTreeMap F V) g.toList :=
      mem_merge.mpr (Or.inr
        ⟨(f, v), ExtTreeMap.mem_toList_iff_getElem?_eq_some.mpr hg, rfl⟩)
    obtain ⟨w, hw⟩ := Option.isSome_iff_exists.mp (ExtTreeMap.isSome_getElem?_iff_mem.mpr hmem)
    have hin := ExtTreeMap.mem_toList_iff_getElem?_eq_some.mp (mem_of_getElem?_merge_empty hw)
    rw [hw, ← hin, hg]

/-- Overlaying a map is merging its pairs. -/
theorem merge_toList : merge h g.toList = h ∪ g := by
  rw [merge_eq_union, merge_empty_toList]

/-- A merge leaves nothing exactly when there was nothing and nothing came. -/
theorem merge_eq_empty : merge h fvs = ∅ ↔ h = ∅ ∧ fvs = [] := by
  constructor
  · intro he
    rcases fvs with - | ⟨fv, fvs⟩
    · exact ⟨he, rfl⟩
    · have hm : fv.1 ∈ merge h (fv :: fvs) := mem_merge.mpr (Or.inr ⟨fv, by simp, rfl⟩)
      rw [he] at hm
      exact absurd hm ExtTreeMap.not_mem_empty
  · rintro ⟨rfl, rfl⟩
    rfl

end FieldMap
