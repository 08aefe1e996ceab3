/-
Lib/LastWins.lean

Stores in which the last write of a key wins, filled in an order that nobody promised.

`Access D K V` is a way to read and write a store `D` by keys; a search tree is one, and so is
a tree of trees under pairs of keys.  What a list of writes leaves under a key does not depend
on the order of the list exactly if all its writes of the key agree (`get_putAll_perm_iff`).
-/
import Mathlib

namespace LastWins

open Std (ExtTreeMap TransOrd LawfulEqOrd)

/-- Reading and writing a store by keys. -/
structure Access (D K V : Type*) where
  get : D → K → Option V
  put : D → K → V → D
  get_put_self : ∀ d k v, get (put d k v) k = some v
  get_put_ne : ∀ d k k' v, k ≠ k' → get (put d k v) k' = get d k'

namespace Access

variable {D K V : Type*} {s : Access D K V} {d : D} {l : List (K × V)} {k : K} {v : V}

/-- Write the pairs of a list, in order. -/
def putAll (s : Access D K V) (d : D) (l : List (K × V)) : D :=
  l.foldl (fun d p => s.put d p.1 p.2) d

theorem putAll_concat {p : K × V} : s.putAll d (l ++ [p]) = s.put (s.putAll d l) p.1 p.2 := by
  rw [putAll, List.foldl_append]
  rfl

/-- A loop that writes what some of its elements stand for. -/
theorem foldl_eq_putAll {E : Type*} {l : List E} {f : E → Option (K × V)} {g : D → E → D}
    (h : ∀ d e, g d e = match f e with | none => d | some p => s.put d p.1 p.2) :
    l.foldl g d = s.putAll d (l.filterMap f) := by
  induction l generalizing d with
  | nil => rfl
  | cons e l ih =>
    rw [List.foldl_cons, ih, h]
    cases hf : f e with
    | none => rw [List.filterMap_cons_none hf]
    | some p =>
      rw [List.filterMap_cons_some hf]
      rfl

/-- A key that is not written keeps its value. -/
theorem get_putAll_of_not_mem (h : ∀ p ∈ l, p.1 ≠ k) : s.get (s.putAll d l) k = s.get d k := by
  induction l using List.reverseRecOn with
  | nil => rfl
  | append_singleton l p ih =>
    rw [putAll_concat, s.get_put_ne _ _ _ _ (h p (by simp))]
    exact ih fun q hq => h q (List.mem_append_left _ hq)

/-- A key that is written has one of the values written. -/
theorem exists_get_putAll_of_mem (h : ∃ p ∈ l, p.1 = k) :
    ∃ v, s.get (s.putAll d l) k = some v ∧ (k, v) ∈ l := by
  induction l using List.reverseRecOn with
  | nil =>
    obtain ⟨p, hp, -⟩ := h
    exact absurd hp List.not_mem_nil
  | append_singleton l p ih =>
    rw [putAll_concat]
    by_cases hp : p.1 = k
    · obtain rfl := hp
      exact ⟨p.2, s.get_put_self _ _ _, List.mem_append_right _ (List.mem_singleton_self p)⟩
    · obtain ⟨q, hq, hqk⟩ := h
      have hql : q ∈ l := by
        rcases List.mem_append.mp hq with hq | hq
        · exact hq
        · exact absurd (List.mem_singleton.mp hq ▸ hqk) hp
      obtain ⟨v, hget, hmem⟩ := ih ⟨q, hql, hqk⟩
      refine ⟨v, ?_, List.mem_append_left _ hmem⟩
      rw [s.get_put_ne _ _ _ _ hp, hget]

/-- Nothing is read under a key exactly if it is written nowhere. -/
theorem get_putAll_eq_none_iff :
    s.get (s.putAll d l) k = none ↔ s.get d k = none ∧ ∀ p ∈ l, p.1 ≠ k := by
  by_cases h : ∃ p ∈ l, p.1 = k
  · obtain ⟨v, hget, -⟩ := exists_get_putAll_of_mem (s := s) (d := d) h
    rw [hget]
    refine iff_of_false (Option.some_ne_none v) fun hnone => ?_
    obtain ⟨p, hp, hpk⟩ := h
    exact hnone.2 p hp hpk
  · have hnot : ∀ p ∈ l, p.1 ≠ k := fun p hp hpk => h ⟨p, hp, hpk⟩
    rw [get_putAll_of_not_mem hnot]
    exact ⟨fun hnone => ⟨hnone, hnot⟩, And.left⟩

/-- The writes of the key agree on the value. -/
def Agree (l : List (K × V)) (k : K) (v : V) : Prop :=
  (∃ p ∈ l, p.1 = k) ∧ ∀ p ∈ l, p.1 = k → p.2 = v

theorem get_putAll_of_agree (h : Agree l k v) : s.get (s.putAll d l) k = some v := by
  obtain ⟨w, hget, hmem⟩ := exists_get_putAll_of_mem (s := s) (d := d) h.1
  rw [hget, ← h.2 (k, w) hmem rfl]

theorem Agree.perm {l' : List (K × V)} (h : Agree l k v) (hperm : l'.Perm l) : Agree l' k v := by
  obtain ⟨⟨p, hp, hpk⟩, hall⟩ := h
  exact ⟨⟨p, hperm.mem_iff.mpr hp, hpk⟩, fun q hq => hall q (hperm.mem_iff.mp hq)⟩

/-- **A key is read the same after the writes of a list, gone through in any order, exactly if
they agree.** -/
theorem get_putAll_perm_iff {E : Type*} {l : List E} {f : E → Option (K × V)}
    (hd : s.get d k = none) :
    (∀ l' : List E, l'.Perm l → s.get (s.putAll d (l'.filterMap f)) k = some v) ↔
      Agree (l.filterMap f) k v := by
  constructor
  · intro h
    refine ⟨?_, fun p hp hpk => ?_⟩
    · by_contra hnot
      have hnone := (get_putAll_eq_none_iff (s := s)).mpr
        ⟨hd, fun p hp hpk => hnot ⟨p, hp, hpk⟩⟩
      rw [h l (List.Perm.refl l)] at hnone
      cases hnone
    · -- the order in which this write is the last one
      obtain ⟨e, he, hfe⟩ := List.mem_filterMap.mp hp
      obtain ⟨before, after, rfl⟩ := List.append_of_mem he
      have hlast := h (before ++ after ++ [e])
        ((List.perm_append_singleton e _).trans List.perm_middle.symm)
      rw [List.filterMap_append, List.filterMap_cons, hfe, List.filterMap_nil, putAll_concat, hpk,
        s.get_put_self] at hlast
      exact Option.some.inj hlast
  · intro h l' hperm
    exact get_putAll_of_agree (h.perm (hperm.filterMap f))

end Access

/-! ### Search trees -/

section Trees

variable {A B V : Type*} [Ord A] [TransOrd A] [LawfulEqOrd A] [Ord B] [TransOrd B] [LawfulEqOrd B]

/-- A search tree. -/
def tree : Access (ExtTreeMap A V) A V where
  get d a := d[a]?
  put d a v := d.insert a v
  get_put_self d a v := by simp
  get_put_ne d a a' v hne := by simp [ExtTreeMap.getElem?_insert, hne]

/-- A tree of trees, where a missing tree is an empty one. -/
def nested : Access (ExtTreeMap A (ExtTreeMap B V)) (A × B) V where
  get d k := d[k.1]?.bind (·[k.2]?)
  put d k v := d.insert k.1 ((d[k.1]?.getD ∅).insert k.2 v)
  get_put_self d k v := by simp
  get_put_ne d k k' v hne := by
    by_cases hfst : k.1 = k'.1
    · have hsnd : k.2 ≠ k'.2 := fun hsnd => hne (Prod.ext hfst hsnd)
      cases h : d[k'.1]? <;> simp [hfst, hsnd, h, ExtTreeMap.getElem?_insert]
    · simp [ExtTreeMap.getElem?_insert, hfst]

/-- A tree that a write made is not empty. -/
theorem nested_putAll_ne_empty {l : List ((A × B) × V)} {a : A} {t : ExtTreeMap B V}
    (h : (nested.putAll (∅ : ExtTreeMap A (ExtTreeMap B V)) l)[a]? = some t) : t ≠ ∅ := by
  induction l using List.reverseRecOn generalizing t with
  | nil => cases ExtTreeMap.getElem?_empty.symm.trans h
  | append_singleton l p ih =>
    rw [Access.putAll_concat] at h
    have hput : ((nested.putAll (∅ : ExtTreeMap A (ExtTreeMap B V)) l).insert p.1.1
        (((nested.putAll (∅ : ExtTreeMap A (ExtTreeMap B V)) l)[p.1.1]?.getD ∅).insert
          p.1.2 p.2))[a]? = some t := h
    rw [ExtTreeMap.getElem?_insert] at hput
    split at hput
    · obtain rfl := Option.some.inj hput
      exact ExtTreeMap.insert_ne_empty
    · exact ih hput

/-- Trees of trees none of which is empty are equal if they are read the same. -/
theorem nested_ext {d d' : ExtTreeMap A (ExtTreeMap B V)}
    (hne : ∀ (a : A) (t : ExtTreeMap B V), d[a]? = some t → t ≠ ∅)
    (hne' : ∀ (a : A) (t : ExtTreeMap B V), d'[a]? = some t → t ≠ ∅)
    (h : ∀ k, nested.get d k = nested.get d' k) : d = d' := by
  refine ExtTreeMap.ext_getElem? fun a => ?_
  have hread : ∀ b, d[a]?.bind (·[b]?) = d'[a]?.bind (·[b]?) := fun b => h (a, b)
  have hempty : ∀ t : ExtTreeMap B V, (∀ b, t[b]? = none) → t = ∅ :=
    fun t ht => ExtTreeMap.ext_getElem? fun b => by rw [ht b, ExtTreeMap.getElem?_empty]
  cases hd : d[a]? with
  | none =>
    cases hd' : d'[a]? with
    | none => rfl
    | some t' =>
      refine absurd (hempty t' fun b => ?_) (hne' a t' hd')
      have := hread b
      rw [hd, hd'] at this
      exact this.symm
  | some t =>
    cases hd' : d'[a]? with
    | none =>
      refine absurd (hempty t fun b => ?_) (hne a t hd)
      have := hread b
      rw [hd, hd'] at this
      exact this
    | some t' =>
      refine congrArg some (ExtTreeMap.ext_getElem? fun b => ?_)
      have := hread b
      rw [hd, hd'] at this
      exact this

end Trees

end LastWins
