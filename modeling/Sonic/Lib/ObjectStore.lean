/-
Lib/ObjectStore.lean

Keyed stores of field maps, and the meaning of a history of calls on them.

A store sends a key to the field map of its object; a key without an object has
the empty map.  There are two calls: `set` merges fields into the object of a
key and `del` removes the object.  `replay` applies a history in order.  Since a
call touches only its own key, a history acts on a key through the calls of that
key alone (`replay_apply`): this is the bridge by which every statement about a
whole table is proved one key at a time.
-/
import Sonic.Lib.FieldMap

namespace ObjectStore

open Std (ExtTreeMap TransOrd LawfulEqOrd)
open FieldMap

variable {K F V : Type*} [DecidableEq K] [Ord F] [TransOrd F]

/-- One call on a keyed store. -/
inductive Call (K F V : Type*)
  | set (key : K) (fvs : List (F × V))
  | del (key : K)
  deriving DecidableEq

/-- The key a call is about. -/
def Call.key : Call K F V → K
  | .set k _ => k
  | .del k => k

/-- What a call does to the object of its key. -/
def Call.onObject (o : ExtTreeMap F V) : Call K F V → ExtTreeMap F V
  | .set _ fvs => merge o fvs
  | .del _ => ∅

/-- What a call does to a store. -/
def Call.apply (store : K → ExtTreeMap F V) (c : Call K F V) :
    K → ExtTreeMap F V :=
  Function.update store c.key (c.onObject (store c.key))

/-- Apply a history of calls, in order. -/
def replay (store : K → ExtTreeMap F V) (calls : List (Call K F V)) :
    K → ExtTreeMap F V :=
  calls.foldl Call.apply store

/-- The object a history of calls makes of `o` at the key `k`. -/
def replayAt (k : K) (o : ExtTreeMap F V) (calls : List (Call K F V)) :
    ExtTreeMap F V :=
  (calls.filter (·.key = k)).foldl Call.onObject o

variable {store : K → ExtTreeMap F V} {calls calls' : List (Call K F V)}
  {c : Call K F V} {k : K} {o : ExtTreeMap F V}

@[simp] theorem replay_nil : replay store [] = store := rfl

@[simp] theorem replay_cons :
    replay store (c :: calls) = replay (c.apply store) calls := rfl

theorem replay_append :
    replay store (calls ++ calls') = replay (replay store calls) calls' :=
  List.foldl_append

@[simp] theorem replayAt_nil : replayAt k o [] = o := rfl

theorem replayAt_append :
    replayAt k o (calls ++ calls') = replayAt k (replayAt k o calls) calls' := by
  simp [replayAt, List.filter_append, List.foldl_append]

theorem replayAt_cons_self (h : c.key = k) :
    replayAt k o (c :: calls) = replayAt k (c.onObject o) calls := by
  simp [replayAt, h]

theorem replayAt_cons_ne (h : c.key ≠ k) :
    replayAt k o (c :: calls) = replayAt k o calls := by
  simp [replayAt, h]

/-- A call of another key is invisible at `k`. -/
theorem replayAt_of_forall_ne (h : ∀ c ∈ calls, c.key ≠ k) :
    replayAt k o calls = o := by
  have hnil : calls.filter (·.key = k) = [] := by
    simpa [List.filter_eq_nil_iff] using h
  simp [replayAt, hnil]

/-- **A history acts on each key through the calls of that key.** -/
theorem replay_apply : replay store calls k = replayAt k (store k) calls := by
  induction calls generalizing store with
  | nil => rfl
  | cons c calls ih =>
    rw [replay_cons, ih]
    by_cases hk : c.key = k
    · rw [replayAt_cons_self hk]
      subst hk
      simp [Call.apply]
    · rw [replayAt_cons_ne hk, Call.apply, Function.update_of_ne (Ne.symm hk)]

/-- One call for each key of a duplicate-free list: each key sees its own call. -/
theorem replayAt_map {f : K → Call K F V} (hf : ∀ k, (f k).key = k) {ks : List K}
    (hks : ks.Nodup) :
    replayAt k o (ks.map f) = if k ∈ ks then (f k).onObject o else o := by
  induction ks with
  | nil => rfl
  | cons k' ks ih =>
    obtain ⟨hnot, hks⟩ := List.nodup_cons.mp hks
    rw [List.map_cons]
    by_cases hk : k' = k
    · subst hk
      rw [replayAt_cons_self (hf _), replayAt_of_forall_ne]
      · simp
      · intro c hc
        obtain ⟨k, hk, rfl⟩ := List.mem_map.mp hc
        rw [hf]
        exact fun he => hnot (he ▸ hk)
    · rw [replayAt_cons_ne (by rwa [hf]), ih hks]
      simp [Ne.symm hk]

/-! ### Histories made entry by entry -/

/-- Of the entries with pairwise different keys, one has the key of a member. -/
theorem filter_key_of_mem {α : Type*} (key : α → K) {l : List α} (hl : (l.map key).Nodup)
    {a : α} (ha : a ∈ l) : l.filter (key · = key a) = [a] := by
  induction l with
  | nil => simp at ha
  | cons b l ih =>
    obtain ⟨hnot, hl⟩ := List.nodup_cons.mp hl
    rcases List.mem_cons.mp ha with rfl | ha
    · have hrest : l.filter (key · = key a) = [] := by
        rw [List.filter_eq_nil_iff]
        intro b hb
        have hne : key b ≠ key a := fun he => hnot (he ▸ List.mem_map_of_mem hb)
        simpa using hne
      rw [List.filter_cons_of_pos (by simp), hrest]
    · have hne : key b ≠ key a := fun he => hnot (he ▸ List.mem_map_of_mem ha)
      rw [List.filter_cons_of_neg (by simpa using hne), ih hl ha]

/-- The entry of a key in a map. -/
theorem filter_toList [Ord K] [TransOrd K] [LawfulEqOrd K] {α : Type*} {m : ExtTreeMap K α} :
    m.toList.filter (·.1 = k) = m[k]?.toList.map fun a => (k, a) := by
  have hnodup : (m.toList.map Prod.fst).Nodup := by
    rw [ExtTreeMap.map_fst_toList_eq_keys]
    exact ExtTreeMap.nodup_keys
  rcases hm : m[k]? with - | a
  · have hnone : m.toList.filter (·.1 = k) = [] := by
      rw [List.filter_eq_nil_iff]
      rintro ⟨k', a⟩ hmem he
      obtain rfl : k' = k := of_decide_eq_true he
      rw [ExtTreeMap.mem_toList_iff_getElem?_eq_some.mp hmem] at hm
      exact absurd hm (by simp)
    rw [hnone]
    rfl
  · exact filter_key_of_mem Prod.fst hnodup (ExtTreeMap.mem_toList_iff_getElem?_eq_some.mpr hm)

/-- A list is traversed without failure when no member fails. -/
theorem mapM_eq_some_iff {α β : Type*} {f : α → Option β} {l : List α} {bs : List β} (d : β) :
    l.mapM f = some bs ↔
      (∀ a ∈ l, f a = some ((f a).getD d)) ∧ bs = l.map fun a => (f a).getD d := by
  induction l generalizing bs with
  | nil => simp [eq_comm]
  | cons a l ih =>
    rw [List.mapM_cons]
    rcases ha : f a with - | b
    · simp [ha]
    · constructor
      · intro h
        obtain ⟨b', hb, hrest⟩ := Option.bind_eq_some_iff.mp h
        obtain rfl := Option.some.inj hb
        obtain ⟨bs', hl, hbs⟩ := Option.bind_eq_some_iff.mp hrest
        obtain ⟨hall, rfl⟩ := ih.mp hl
        obtain rfl := Option.some.inj hbs
        simpa [ha] using hall
      · rintro ⟨hall, rfl⟩
        have hl := ih.mpr ⟨fun a' ha' => hall a' (by simp [ha']), rfl⟩
        simp [ha, hl]

omit [Ord F] [TransOrd F] in
/-- The calls of a key in a history that has calls of its key for each entry. -/
theorem filter_flatMap_key {α : Type*} (key : α → K) {f : α → List (Call K F V)} {l : List α}
    (hf : ∀ a ∈ l, ∀ c ∈ f a, c.key = key a) :
    (l.flatMap f).filter (·.key = k) = (l.filter (key · = k)).flatMap f := by
  induction l with
  | nil => rfl
  | cons a l ih =>
    rw [List.flatMap_cons, List.filter_append, ih fun a' ha' => hf a' (by simp [ha'])]
    by_cases hk : key a = k
    · have hall : (f a).filter (·.key = k) = f a := by
        rw [List.filter_eq_self]
        intro c hc
        simpa [hf a (by simp) c hc] using hk
      rw [List.filter_cons_of_pos (by simpa using hk), List.flatMap_cons, hall]
    · have hnone : (f a).filter (·.key = k) = [] := by
        rw [List.filter_eq_nil_iff]
        intro c hc
        simpa [hf a (by simp) c hc] using hk
      rw [List.filter_cons_of_neg (by simpa using hk), hnone, List.nil_append]

/-! ### Histories of one object -/

/-- The call removes the object. -/
def Call.isDel : Call K F V → Bool
  | .set _ _ => false
  | .del _ => true

omit [DecidableEq K] in
theorem Call.onObject_of_isDel (h : c.isDel = true) : c.onObject o = ∅ := by
  cases c with
  | set key fvs => simp [Call.isDel] at h
  | del key => rfl

omit [DecidableEq K] in
/-- After a removal nothing of the old object is left. -/
theorem foldl_onObject_eq_of_isDel (h : ∃ c ∈ calls, c.isDel = true)
    (o o' : ExtTreeMap F V) :
    calls.foldl Call.onObject o = calls.foldl Call.onObject o' := by
  induction calls generalizing o o' with
  | nil => simp at h
  | cons c calls ih =>
    obtain ⟨c', hmem, hdel⟩ := h
    rcases List.mem_cons.mp hmem with rfl | hmem
    · simp only [List.foldl_cons, Call.onObject_of_isDel hdel]
    · exact ih ⟨c', hmem, hdel⟩ _ _

end ObjectStore
