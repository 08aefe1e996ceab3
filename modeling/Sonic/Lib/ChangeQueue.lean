/-
Lib/ChangeQueue.lean

A coalescing change queue between producers and a consumer of a keyed store.

Producers do not write the store.  They leave, for each key they touch, the
fields still to be merged (`pending`), a mark that the object is to be cleared
first (`delSet`), and the key itself in `keySet`.  The consumer pops keys: it
clears the object if it is marked, merges the pending fields and forgets the
request.  Any number of calls on one key between two pops coalesce.

What the queue is for is stated by `overlay`: the store as it will be when
everything pending has been popped.  A call acts on the overlay exactly as it
would act on the store (`overlay_set`, `overlay_del`), and a pop does not change
it (`overlay_popAll`).  Hence the overlay is the store with all calls applied,
whatever the interleaving.
-/
import Sonic.Lib.ObjectStore

open Std (ExtTreeMap TransOrd LawfulEqOrd)
open FieldMap ObjectStore

/-- The state of a coalescing change queue. -/
structure ChangeQueue (K F V : Type*) [Ord F] where
  content : K → ExtTreeMap F V
  pending : K → ExtTreeMap F V
  keySet : Finset K
  delSet : Finset K

namespace ChangeQueue

variable {K F V : Type*} [DecidableEq K] [Ord F] [TransOrd F]

/-! ### Operations -/

/-- Request that fields be merged into the object of `k`. -/
def set (q : ChangeQueue K F V) (k : K) (fvs : List (F × V)) : ChangeQueue K F V :=
  { q with
    pending := Function.update q.pending k (merge (q.pending k) fvs)
    keySet := insert k q.keySet }

/-- Request that the object of `k` be removed. -/
def del (q : ChangeQueue K F V) (k : K) : ChangeQueue K F V :=
  { q with
    pending := Function.update q.pending k ∅
    keySet := insert k q.keySet
    delSet := insert k q.delSet }

/-- Drop every request. -/
def clear (q : ChangeQueue K F V) : ChangeQueue K F V :=
  { q with pending := fun _ => ∅, keySet := ∅, delSet := ∅ }

/-- The object of `k` once its request is carried out. -/
def overlay (q : ChangeQueue K F V) (k : K) : ExtTreeMap F V :=
  (if k ∈ q.delSet then ∅ else q.content k) ∪ q.pending k

/-- Carry out the requests of the keys `ks`. -/
def popAll (q : ChangeQueue K F V) (ks : List K) : ChangeQueue K F V where
  content k := if k ∈ ks then q.overlay k else q.content k
  pending k := if k ∈ ks then ∅ else q.pending k
  keySet := q.keySet \ ks.toFinset
  delSet := q.delSet \ ks.toFinset

/-- Carry out the request of one key that has been taken out of the key set. -/
def pop (q : ChangeQueue K F V) (k : K) : ChangeQueue K F V :=
  { q with
    content := Function.update q.content k (q.overlay k)
    pending := Function.update q.pending k ∅
    delSet := q.delSet.erase k }

/-- A call issued by a producer. -/
def issue (q : ChangeQueue K F V) : Call K F V → ChangeQueue K F V
  | .set k fvs => q.set k fvs
  | .del k => q.del k

/-- Nothing is requested. -/
structure Idle (q : ChangeQueue K F V) : Prop where
  pending : ∀ k, q.pending k = ∅
  keySet : q.keySet = ∅
  delSet : q.delSet = ∅

/-- A queue keeps its requests under the keys of its key set. -/
structure Tidy (q : ChangeQueue K F V) : Prop where
  delSet_subset : q.delSet ⊆ q.keySet
  pending_mem : ∀ k, q.pending k ≠ ∅ → k ∈ q.keySet

variable {q : ChangeQueue K F V} {k k' : K} {fvs : List (F × V)} {ks : List K}
  {c : Call K F V}

/-- A call leaves the contents alone. -/
@[simp] theorem content_issue : (q.issue c).content = q.content := by
  cases c <;> rfl

omit [DecidableEq K] [TransOrd F] in
theorem Idle.tidy (h : q.Idle) : q.Tidy := by
  refine ⟨?_, ?_⟩
  · simp [h.delSet]
  · intro k hk
    exact absurd (h.pending k) hk

/-! ### Tidiness is an invariant -/

theorem Tidy.set (h : q.Tidy) : (q.set k fvs).Tidy := by
  refine ⟨h.delSet_subset.trans (Finset.subset_insert _ _), ?_⟩
  intro k' hk'
  by_cases he : k' = k
  · rw [he]
    exact Finset.mem_insert_self k _
  · have hold : q.pending k' ≠ ∅ := by
      simpa [ChangeQueue.set, Function.update_of_ne he] using hk'
    exact Finset.mem_insert_of_mem (h.pending_mem k' hold)

omit [TransOrd F] in
theorem Tidy.del (h : q.Tidy) : (q.del k).Tidy := by
  refine ⟨Finset.insert_subset_insert _ h.delSet_subset, ?_⟩
  intro k' hk'
  by_cases he : k' = k
  · rw [he]
    exact Finset.mem_insert_self k _
  · have hold : q.pending k' ≠ ∅ := by
      simpa [ChangeQueue.del, Function.update_of_ne he] using hk'
    exact Finset.mem_insert_of_mem (h.pending_mem k' hold)

theorem Tidy.issue (h : q.Tidy) : (q.issue c).Tidy := by
  cases c with
  | set k fvs => exact h.set
  | del k => exact h.del

theorem Tidy.popAll (h : q.Tidy) : (q.popAll ks).Tidy := by
  refine ⟨Finset.sdiff_subset_sdiff h.delSet_subset subset_rfl, ?_⟩
  intro k hk
  by_cases hmem : k ∈ ks
  · exact absurd (if_pos hmem) hk
  · have hold : q.pending k ≠ ∅ := by
      simpa [ChangeQueue.popAll, hmem] using hk
    exact Finset.mem_sdiff.mpr ⟨h.pending_mem k hold, by simpa using hmem⟩

omit [DecidableEq K] [TransOrd F] in
/-- With an empty key set nothing is left pending. -/
theorem Tidy.idle (h : q.Tidy) (hempty : q.keySet = ∅) : q.Idle := by
  refine ⟨?_, hempty, Finset.subset_empty.mp (hempty ▸ h.delSet_subset)⟩
  intro k
  by_contra hne
  have hk := h.pending_mem k hne
  rw [hempty] at hk
  exact absurd hk (Finset.notMem_empty k)

/-! ### The overlay -/

section Overlay

variable [LawfulEqOrd F]

theorem Idle.overlay (h : q.Idle) : q.overlay = q.content := by
  funext k
  simp [ChangeQueue.overlay, h.delSet, h.pending, union_empty]

omit [LawfulEqOrd F] in
/-- A `set` merges its fields into the overlay. -/
theorem overlay_set : (q.set k fvs).overlay = (Call.set k fvs).apply q.overlay := by
  funext k'
  by_cases he : k' = k
  · subst he
    simp only [overlay, set, Call.apply, Call.key, Call.onObject, Function.update_self,
      union_merge]
    rfl
  · simp only [overlay, set, Call.apply, Call.key, Function.update_of_ne he]
    rfl

/-- A `del` removes the object from the overlay. -/
theorem overlay_del : (q.del k).overlay = (Call.del k).apply q.overlay := by
  funext k'
  by_cases he : k' = k
  · subst he
    simp [overlay, del, Call.apply, Call.key, Call.onObject, union_empty]
  · simp [overlay, del, Call.apply, Call.key, he]

/-- **A call acts on the overlay as it would act on the store.** -/
theorem overlay_issue : (q.issue c).overlay = c.apply q.overlay := by
  cases c with
  | set k fvs => exact overlay_set
  | del k => exact overlay_del

/-- **A pop does not change the overlay.** -/
theorem overlay_popAll : (q.popAll ks).overlay = q.overlay := by
  funext k
  by_cases hk : k ∈ ks
  · simp [overlay, popAll, hk, union_empty]
  · simp [overlay, popAll, hk]

/-- Keys are popped one after the other. -/
theorem foldl_pop :
    ks.foldl pop q =
      { q.popAll ks with keySet := q.keySet } := by
  induction ks generalizing q with
  | nil => simp [popAll]
  | cons k ks ih =>
    rw [List.foldl_cons, ih]
    simp only [popAll, pop, mk.injEq, true_and]
    refine ⟨?_, ?_, ?_⟩
    · funext k'
      by_cases he : k' = k
      · subst he
        simp [overlay, union_empty]
      · simp [overlay, he]
    · funext k'
      by_cases he : k' = k <;> simp [he]
    · ext k'
      simp only [List.toFinset_cons, Finset.mem_sdiff, Finset.mem_erase, Finset.mem_insert]
      tauto

end Overlay

/-! ### What the consumer is told -/

/-- The call the consumer infers for a popped key: no pending field means that
the key is gone. -/
def deliver (q : ChangeQueue K F V) (k : K) : Call K F V :=
  if (q.pending k).isEmpty then .del k else .set k (q.pending k).toList

/-- Every queued key has a removal or a field to show for it. -/
def Justified (q : ChangeQueue K F V) : Prop :=
  ∀ k ∈ q.keySet, k ∈ q.delSet ∨ q.pending k ≠ ∅

omit [DecidableEq K] in
@[simp] theorem key_deliver : (q.deliver k).key = k := by
  unfold deliver
  split <;> rfl

omit [DecidableEq K] [TransOrd F] in
theorem Idle.justified (h : q.Idle) : q.Justified := by
  intro k hk
  rw [h.keySet] at hk
  exact absurd hk (Finset.notMem_empty k)

/-- A `set` that names a field justifies its key. -/
theorem Justified.set [LawfulEqOrd F] (h : q.Justified) (hfvs : fvs ≠ []) :
    (q.set k fvs).Justified := by
  intro k' hk'
  by_cases he : k' = k
  · subst he
    refine Or.inr ?_
    simp only [ChangeQueue.set, Function.update_self]
    exact fun hnil => hfvs (merge_eq_empty.mp hnil).2
  · have hold : k' ∈ q.keySet := Finset.mem_of_mem_insert_of_ne hk' he
    simpa [ChangeQueue.set, Function.update_of_ne he] using h k' hold

omit [TransOrd F] in
theorem Justified.del (h : q.Justified) : (q.del k).Justified := by
  intro k' hk'
  by_cases he : k' = k
  · rw [he]
    exact Or.inl (Finset.mem_insert_self k _)
  · have hold : k' ∈ q.keySet := Finset.mem_of_mem_insert_of_ne hk' he
    rcases h k' hold with hdel | hpend
    · exact Or.inl (Finset.mem_insert_of_mem hdel)
    · exact Or.inr (by simpa [ChangeQueue.del, Function.update_of_ne he] using hpend)

theorem Justified.popAll (h : q.Justified) : (q.popAll ks).Justified := by
  intro k hk
  obtain ⟨hkey, hnot⟩ := Finset.mem_sdiff.mp hk
  have hks : k ∉ ks := by simpa using hnot
  rcases h k hkey with hdel | hpend
  · exact Or.inl (Finset.mem_sdiff.mpr ⟨hdel, hnot⟩)
  · exact Or.inr (by simpa [ChangeQueue.popAll, hks] using hpend)

omit [DecidableEq K] in
/-- A key without pending fields removes the consumer's object. -/
theorem deliver_onObject_of_eq (hp : q.pending k = ∅) (o : ExtTreeMap F V) :
    (q.deliver k).onObject o = ∅ := by
  simp [deliver, hp, Call.onObject]

omit [DecidableEq K] in
/-- A key with pending fields merges them, whether or not a removal was
coalesced with them. -/
theorem deliver_onObject_of_ne [LawfulEqOrd F] (hp : q.pending k ≠ ∅)
    (o : ExtTreeMap F V) : (q.deliver k).onObject o = o ∪ q.pending k := by
  have hne : (q.pending k).isEmpty = false := by
    simpa [ExtTreeMap.isEmpty_iff] using hp
  simp [deliver, hne, Call.onObject, merge_toList]

end ChangeQueue
