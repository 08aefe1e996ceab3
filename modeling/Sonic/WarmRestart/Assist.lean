/-
WarmRestart/Assist.lean

Reconciling an application table after a warm restart (`AppRestartAssist`).

The table is read into a cache, where every entry is a field list that ends with
a state: STALE at first, then SAME, NEW or DELETE as the application repeats its
updates.  `reconcile` pushes what the states say.

An entry is compared with what the cache holds, not with what the table held,
and the comparison is one-sided (`contains`).  So SAME may mean "same as an
update that was never pushed" or "some of the fields of the table"; `Settled`
says for a key exactly when neither matters (`cache_reconciled_iff`).
-/
import Sonic.Common.TableRead

namespace AppRestartAssist

open Std (ExtTreeMap)
open Redis Swss FieldMap ObjectStore

/-! ### The cache -/

/-- `cache_state_t`. -/
inductive CacheState
  | stale
  | same
  | new
  | delete
  deriving DecidableEq

def cacheStateMap : List (CacheState × String) :=
  [(.stale, "STALE"), (.same, "SAME"), (.new, "NEW"), (.delete, "DELETE")]

def CACHE_STATE_FIELD : String := "cache-state"

/-- `cacheStateMap.at(state)`. -/
def CacheState.name (state : CacheState) : String :=
  (cacheStateMap.lookup state).getD ""

/-- `setCacheEntryState`: write the state into the last pair. -/
def setCacheEntryState (fvVector : List FieldValueTuple) (state : CacheState) :
    List FieldValueTuple :=
  match fvVector.getLast? with
  | some back => fvVector.dropLast ++ [(back.1, state.name)]
  | none => fvVector

/-- `getCacheEntryState`: read the state of the last pair; `none` if it is invalid. -/
def getCacheEntryState (fvVector : List FieldValueTuple) : Option CacheState := do
  let back ← fvVector.getLast?
  (cacheStateMap.find? (·.2 = back.2)).map (·.1)

/-- `contains`: the left vector contains all elements of the right vector. -/
def contains (left right : List FieldValueTuple) : Bool :=
  right.all fun rv => left.contains rv

/-- `appTableCacheMap` and `m_warmStartInProgress`. -/
structure State where
  appTableCacheMap : ExtTreeMap String (List FieldValueTuple)
  m_warmStartInProgress : Bool

/-! ### The operations -/

/-- `readTableToMap`. -/
def readTableToMap (m_appTable : Table) : State where
  appTableCacheMap := m_appTable.getKeys.foldl (fun cache key =>
      match m_appTable.get key with
      | none => cache
      | some fv => cache.insert key (setCacheEntryState (fv ++ [(CACHE_STATE_FIELD, "")]) .stale))
    ∅
  m_warmStartInProgress := true

/-- The cache after `insertToMap`. -/
def insertToCache (cache : ExtTreeMap String (List FieldValueTuple)) (key : String)
    (fvVector : List FieldValueTuple) (delete_key : Bool) :
    ExtTreeMap String (List FieldValueTuple) :=
  match cache[key]? with
  | some found =>
    if delete_key then
      cache.insert key (setCacheEntryState found .delete)
    else if ¬ contains found fvVector then
      cache.insert key (setCacheEntryState (fvVector ++ [(CACHE_STATE_FIELD, "")]) .new)
    else
      cache.insert key (setCacheEntryState found .same)
  | none =>
    if delete_key then cache
    else cache.insert key (setCacheEntryState (fvVector ++ [(CACHE_STATE_FIELD, "")]) .new)

/-- `insertToMap`. -/
def insertToMap (s : State) (key : String) (fvVector : List FieldValueTuple)
    (delete_key : Bool) : State :=
  { s with appTableCacheMap := insertToCache s.appTableCacheMap key fvVector delete_key }

/-- What `reconcile` pushes for one entry; `none` if its state is invalid. -/
def reconcileEntry (key : String) (fvVector : List FieldValueTuple) :
    Option (List (Call String String String)) :=
  match getCacheEntryState fvVector with
  | some .same => some []
  | some .stale | some .delete => some [.del key]
  | some .new => some [.set key fvVector.dropLast]
  | none => none

/-- `reconcile`: what is pushed, and the state after it. -/
def reconcile (s : State) : Option (List (Call String String String) × State) := do
  let pushed ← s.appTableCacheMap.toList.mapM fun iter => reconcileEntry iter.1 iter.2
  some (pushed.flatten, { appTableCacheMap := ∅, m_warmStartInProgress := false })

/-- The arguments of one call of `insertToMap`. -/
structure Insert where
  key : String
  fvVector : List FieldValueTuple
  delete_key : Bool
  deriving DecidableEq

/-- A sequence of calls of `insertToMap`. -/
def insertAll (s : State) (calls : List Insert) : State :=
  calls.foldl (fun s c => insertToMap s c.key c.fvVector c.delete_key) s

/-! ### What is to be reached -/

/-- The calls of one key. -/
def callsOf (calls : List Insert) (key : String) : List Insert :=
  calls.filter (·.key = key)

/-- The application's latest state of a key, from the calls of that key. -/
def latest (calls : List Insert) : Hash :=
  match calls.getLast? with
  | some c => if c.delete_key then ∅ else merge ∅ c.fvVector
  | none => ∅

/-- The pushed operations bring a key of the table to its latest state, without
writing what the table holds already. -/
structure Reconciled (store : String → Hash) (pushed : List (Call String String String))
    (calls : List Insert) (key : String) : Prop where
  latest : replay store pushed key = latest (callsOf calls key)
  not_rewritten : ∀ c, (callsOf calls key).getLast? = some c → c.delete_key = false →
    store key ≠ ∅ → merge ∅ c.fvVector = store key → ∀ op ∈ pushed, op.key ≠ key

/-! ### Entries -/

/-- An entry of the cache, apart from its encoding as a vector. -/
structure Entry where
  fvs : List FieldValueTuple
  state : CacheState
  deriving DecidableEq

/-- The vector of an entry: the state is the value of the last pair. -/
def Entry.vector (e : Entry) : List FieldValueTuple :=
  e.fvs ++ [(CACHE_STATE_FIELD, e.state.name)]

/-- What a call makes of the entry of its key. -/
def Entry.next (e : Option Entry) (c : Insert) : Option Entry :=
  match e with
  | some e =>
    if c.delete_key then some ⟨e.fvs, .delete⟩
    else if contains e.vector c.fvVector then some ⟨e.fvs, .same⟩
    else some ⟨c.fvVector, .new⟩
  | none => if c.delete_key then none else some ⟨c.fvVector, .new⟩

/-- The entry of a key that held the object `o`, after the calls of that key. -/
def entryAfter (o : Hash) (calls : List Insert) : Option Entry :=
  calls.foldl Entry.next ((readReply o).map fun fv => ⟨fv, .stale⟩)

/-- When the last call of a key is an update: the entry before it contains the
update and the object is that update; or it does not, the update has every field
of the object, and it is no mere repetition of the object. -/
def Settled (o : Hash) (calls : List Insert) : Prop :=
  ∀ c, calls.getLast? = some c → c.delete_key = false →
    if ∃ e, entryAfter o calls.dropLast = some e ∧ contains e.vector c.fvVector then
      o = merge ∅ c.fvVector
    else
      (∀ f ∈ o, ∃ fv ∈ c.fvVector, fv.1 = f) ∧ (o ≠ ∅ → merge ∅ c.fvVector ≠ o)

variable {e : Entry} {state : CacheState} {fvs : List FieldValueTuple} {key k : String}
  {cache : ExtTreeMap String (List FieldValueTuple)} {c : Insert} {calls : List Insert}
  {m_appTable : Table} {store : String → Hash} {o : Hash}

/-! ### Encoding and decoding the state -/

@[simp] theorem setCacheEntryState_new :
    setCacheEntryState (fvs ++ [(CACHE_STATE_FIELD, "")]) state = Entry.vector ⟨fvs, state⟩ := by
  simp [setCacheEntryState, Entry.vector]

@[simp] theorem setCacheEntryState_vector :
    setCacheEntryState e.vector state = Entry.vector ⟨e.fvs, state⟩ := by
  simp [setCacheEntryState, Entry.vector]

theorem find_cacheStateMap :
    (cacheStateMap.find? (·.2 = state.name)).map (·.1) = some state := by
  cases state <;> decide

/-- Every state is read back. -/
@[simp] theorem getCacheEntryState_vector : getCacheEntryState e.vector = some e.state := by
  simp [getCacheEntryState, Entry.vector, ← find_cacheStateMap]

@[simp] theorem dropLast_vector : e.vector.dropLast = e.fvs := by
  simp [Entry.vector]

/-- What is pushed for an entry. -/
def Entry.push (key : String) (e : Entry) : List (Call String String String) :=
  match e.state with
  | .same => []
  | .stale => [.del key]
  | .delete => [.del key]
  | .new => [.set key e.fvs]

theorem reconcileEntry_vector : reconcileEntry key e.vector = some (e.push key) := by
  unfold reconcileEntry Entry.push
  rw [getCacheEntryState_vector, dropLast_vector]
  cases e.state <;> rfl

theorem key_of_mem_reconcileEntry {iter : String × List FieldValueTuple}
    {op : Call String String String} (h : op ∈ (reconcileEntry iter.1 iter.2).getD []) :
    op.key = iter.1 := by
  unfold reconcileEntry at h
  split at h
  · simp at h
  · obtain rfl : op = .del iter.1 := by simpa using h
    rfl
  · obtain rfl : op = .del iter.1 := by simpa using h
    rfl
  · obtain rfl : op = .set iter.1 iter.2.dropLast := by simpa using h
    rfl
  · simp at h

/-! ### The cache, entry by entry -/

/-- After the table is read, the cache has a stale entry for every object. -/
theorem getElem?_readTableToMap (h : m_appTable.Reads store) :
    (readTableToMap m_appTable).appTableCacheMap[k]?
      = (entryAfter (store k) []).map Entry.vector := by
  have hloop : ∀ (keys : List String) (cache : ExtTreeMap String (List FieldValueTuple)),
      (keys.foldl (fun cache key =>
        match m_appTable.get key with
        | none => cache
        | some fv =>
          cache.insert key (setCacheEntryState (fv ++ [(CACHE_STATE_FIELD, "")]) .stale))
        cache)[k]?
        = if k ∈ keys then
            ((m_appTable.get k).map fun fv => Entry.vector ⟨fv, .stale⟩).or cache[k]?
          else cache[k]? := by
    intro keys
    induction keys with
    | nil => exact fun cache => rfl
    | cons key keys ih =>
      intro cache
      rw [List.foldl_cons, ih]
      by_cases hk : key = k
      · subst hk
        rcases m_appTable.get key with - | fv <;> simp
      · rcases m_appTable.get key with - | fv <;>
          simp [hk, Ne.symm hk, ExtTreeMap.getElem?_insert]
  show (m_appTable.getKeys.foldl _ ∅)[k]? = _
  rw [hloop]
  by_cases hk : k ∈ m_appTable.getKeys
  · rw [if_pos hk, h.get k hk]
    simp [entryAfter, Function.comp_def]
  · have hempty : store k = ∅ := by
      by_contra hne
      exact hk ((h.mem_getKeys k).mpr hne)
    rw [if_neg hk, hempty, entryAfter, readReply_eq_none.mpr rfl]
    simp

/-- A call changes the entry of its key. -/
theorem getElem?_insertToMap {s : State} (entry : String → Option Entry)
    (h : ∀ k, s.appTableCacheMap[k]? = (entry k).map Entry.vector) :
    (insertToMap s c.key c.fvVector c.delete_key).appTableCacheMap[k]?
      = (if c.key = k then Entry.next (entry k) c else entry k).map Entry.vector := by
  show (insertToCache s.appTableCacheMap c.key c.fvVector c.delete_key)[k]? = _
  unfold insertToCache
  rw [h c.key]
  by_cases hk : c.key = k
  · subst hk
    rw [if_pos rfl]
    rcases hentry : entry c.key with - | e
    · by_cases hdel : c.delete_key = true
      · simp [Entry.next, hdel, h, hentry]
      · simp [Entry.next, hdel]
    · by_cases hdel : c.delete_key = true
      · simp [Entry.next, hdel]
      · by_cases hcont : contains e.vector c.fvVector = true <;>
          simp [Entry.next, hdel, hcont]
  · rw [if_neg hk]
    rcases entry c.key with - | e
    · by_cases hdel : c.delete_key = true <;>
        simp [hdel, hk, h, ExtTreeMap.getElem?_insert]
    · by_cases hdel : c.delete_key = true
      · simp [hdel, hk, h, ExtTreeMap.getElem?_insert]
      · by_cases hcont : contains e.vector c.fvVector = true <;>
          simp [hdel, hcont, hk, h, ExtTreeMap.getElem?_insert]

/-- The entry of a key after any calls depends on the calls of that key. -/
theorem getElem?_insertAll (h : m_appTable.Reads store) :
    (insertAll (readTableToMap m_appTable) calls).appTableCacheMap[k]?
      = (entryAfter (store k) (callsOf calls k)).map Entry.vector := by
  induction calls using List.reverseRecOn generalizing k with
  | nil => exact getElem?_readTableToMap h
  | append_singleton calls c ih =>
    rw [insertAll, List.foldl_append]
    refine (getElem?_insertToMap
      (fun k => entryAfter (store k) (callsOf calls k)) fun k => ih).trans ?_
    by_cases hk : c.key = k
    · simp [callsOf, hk, entryAfter, List.filter_append]
    · simp [callsOf, hk, List.filter_append]

/-! ### Reconciling -/

/-- `reconcile` throws nothing, and pushes for each key what its entry says. -/
theorem reconcile_eq {s : State} (entry : String → Option Entry)
    (h : ∀ k, s.appTableCacheMap[k]? = (entry k).map Entry.vector) :
    ∃ pushed, reconcile s = some (pushed, ⟨∅, false⟩) ∧
      ∀ k, pushed.filter (·.key = k) = (entry k).elim [] (Entry.push k) := by
  let push : String × List FieldValueTuple → List (Call String String String) :=
    fun iter => (reconcileEntry iter.1 iter.2).getD []
  have hpush : ∀ iter ∈ s.appTableCacheMap.toList,
      reconcileEntry iter.1 iter.2 = some (push iter) := by
    intro iter hiter
    have hget := ExtTreeMap.mem_toList_iff_getElem?_eq_some.mp hiter
    rw [h] at hget
    obtain ⟨e, -, hvec⟩ := Option.map_eq_some_iff.mp hget
    simp [push, ← hvec, reconcileEntry_vector]
  refine ⟨(s.appTableCacheMap.toList.map push).flatten, ?_, ?_⟩
  · rw [reconcile, (mapM_eq_some_iff []).mpr ⟨hpush, rfl⟩]
    rfl
  · intro k
    rw [← List.flatMap_def, filter_flatMap_key Prod.fst
      fun iter _ op hop => key_of_mem_reconcileEntry hop, filter_toList, h]
    rcases entry k with - | e
    · rfl
    · simp [reconcileEntry_vector]

/-! ### One key -/

theorem entryAfter_concat : entryAfter o (calls ++ [c]) = Entry.next (entryAfter o calls) c := by
  simp [entryAfter, List.foldl_append]

/-- An object that is there has an entry, whatever the calls. -/
theorem entryAfter_ne_none (ho : o ≠ ∅) : entryAfter o calls ≠ none := by
  induction calls using List.reverseRecOn with
  | nil =>
    have hread : readReply o ≠ none := fun hnone => ho (readReply_eq_none.mp hnone)
    simpa [entryAfter] using hread
  | append_singleton calls c ih =>
    rw [entryAfter_concat]
    obtain ⟨e, he⟩ := Option.ne_none_iff_exists'.mp ih
    rw [he, Entry.next]
    split
    · simp
    · split <;> simp

/-- What is pushed for a key in the end. -/
def pushedOf (key : String) (o : Hash) (calls : List Insert) :
    List (Call String String String) :=
  (entryAfter o calls).elim [] (Entry.push key)

/-- `Reconciled`, on one object. -/
structure ObjectReconciled (key : String) (o : Hash) (calls : List Insert) : Prop where
  latest : (pushedOf key o calls).foldl Call.onObject o = latest calls
  not_rewritten : ∀ c, calls.getLast? = some c → c.delete_key = false →
    o ≠ ∅ → merge ∅ c.fvVector = o → pushedOf key o calls = []

theorem latest_concat :
    latest (calls ++ [c]) = if c.delete_key then ∅ else merge ∅ c.fvVector := by
  simp [latest]

/-- A key that nobody updates, or that is deleted last, comes out right. -/
theorem objectReconciled_of_delete
    (h : ∀ c, calls.getLast? = some c → c.delete_key = true) : ObjectReconciled key o calls := by
  refine ⟨?_, ?_⟩
  · rcases List.eq_nil_or_concat' calls with rfl | ⟨calls, c, rfl⟩
    · show (pushedOf key o []).foldl Call.onObject o = ∅
      by_cases ho : o = ∅
      · have hread : readReply o = none := readReply_eq_none.mpr ho
        have hpush : pushedOf key o [] = [] := by
          simp [pushedOf, entryAfter, hread]
        rw [hpush]
        exact ho
      · obtain ⟨fv, hfv⟩ : ∃ fv, readReply o = some fv :=
          Option.ne_none_iff_exists'.mp fun hnone => ho (readReply_eq_none.mp hnone)
        simp [pushedOf, entryAfter, hfv, Entry.push, Call.onObject]
    · have hdel : c.delete_key = true := h c (by simp)
      rw [latest_concat, if_pos hdel, pushedOf, entryAfter_concat]
      rcases he : entryAfter o calls with - | e
      · -- without an entry there never was an object
        have ho : o = ∅ := by
          by_contra hne
          exact entryAfter_ne_none hne he
        simp [Entry.next, hdel, ho]
      · simp [Entry.next, hdel, Entry.push, Call.onObject]
  · intro c hc hnot
    rw [h c hc] at hnot
    exact absurd hnot (by simp)

/-- A key whose last call is an update comes out right exactly when it is settled. -/
theorem objectReconciled_concat_iff (hset : c.delete_key = false) :
    ObjectReconciled key o (calls ++ [c]) ↔
      if ∃ e, entryAfter o calls = some e ∧ contains e.vector c.fvVector then
        o = merge ∅ c.fvVector
      else
        (∀ f ∈ o, ∃ fv ∈ c.fvVector, fv.1 = f) ∧ (o ≠ ∅ → merge ∅ c.fvVector ≠ o) := by
  have hlatest : latest (calls ++ [c]) = merge ∅ c.fvVector := by
    simp [latest_concat, hset]
  split
  · next hcont =>
      -- the entry becomes SAME, and nothing is pushed
      obtain ⟨e, he, hcont⟩ := hcont
      have hpush : pushedOf key o (calls ++ [c]) = [] := by
        simp [pushedOf, entryAfter_concat, he, Entry.next, hset, hcont, Entry.push]
      constructor
      · intro h
        simpa [hpush, hlatest] using h.latest
      · intro ho
        refine ⟨?_, ?_⟩
        · rw [hpush, hlatest]
          exact ho
        · intro _ _ _ _ _
          exact hpush
  · next hcont =>
      -- the entry becomes NEW, and the update is merged into the object
      have hpush : pushedOf key o (calls ++ [c]) = [.set key c.fvVector] := by
        rcases he : entryAfter o calls with - | e
        · simp [pushedOf, entryAfter_concat, he, Entry.next, hset, Entry.push]
        · have hnot : ¬ contains e.vector c.fvVector = true := fun hyes => hcont ⟨e, he, hyes⟩
          simp [pushedOf, entryAfter_concat, he, Entry.next, hset, hnot, Entry.push]
      have hmerge : merge o c.fvVector = merge ∅ c.fvVector ↔
          ∀ f ∈ o, ∃ fv ∈ c.fvVector, fv.1 = f := by
        rw [merge_eq_union, union_eq_right_iff]
        simp [mem_merge]
      constructor
      · intro h
        refine ⟨hmerge.mp ?_, ?_⟩
        · have hobject := h.latest
          rwa [hpush, hlatest] at hobject
        · intro ho he
          have hnil := h.not_rewritten c (by simp) hset ho he
          rw [hpush] at hnil
          exact absurd hnil (by simp)
      · rintro ⟨hfields, hne⟩
        refine ⟨?_, ?_⟩
        · rw [hpush, hlatest]
          exact hmerge.mpr hfields
        · intro c' hc' _ ho he
          obtain rfl : c = c' := by simpa using hc'
          exact absurd he (hne ho)

theorem objectReconciled_iff : ObjectReconciled key o calls ↔ Settled o calls := by
  rcases List.eq_nil_or_concat' calls with rfl | ⟨calls, c, rfl⟩
  · exact ⟨fun _ c hc => absurd hc (by simp),
      fun _ => objectReconciled_of_delete fun c hc => absurd hc (by simp)⟩
  rcases hdel : c.delete_key
  · rw [objectReconciled_concat_iff hdel]
    constructor
    · intro h c' hc' _
      obtain rfl : c = c' := by simpa using hc'
      simpa using h
    · intro h
      simpa using h c (by simp) hdel
  · have hlast : ∀ c', (calls ++ [c]).getLast? = some c' → c'.delete_key = true := by
      intro c' hc'
      obtain rfl : c = c' := by simpa using hc'
      exact hdel
    refine ⟨?_, fun _ => objectReconciled_of_delete hlast⟩
    intro _ c' hc' hset
    rw [hlast c' hc'] at hset
    exact absurd hset (by simp)

/-! ### The table -/

theorem reconciled_iff_object {pushed : List (Call String String String)}
    (hpushed : pushed.filter (·.key = key) = pushedOf key (store key) (callsOf calls key)) :
    Reconciled store pushed calls key
      ↔ ObjectReconciled key (store key) (callsOf calls key) := by
  have hnone : (∀ op ∈ pushed, op.key ≠ key) ↔
      pushedOf key (store key) (callsOf calls key) = [] := by
    rw [← hpushed, List.filter_eq_nil_iff]
    simp
  constructor
  · intro h
    refine ⟨?_, ?_⟩
    · rw [← hpushed, ← h.latest, replay_apply]
      rfl
    · intro c hc hset ho he
      exact hnone.mp (h.not_rewritten c hc hset ho he)
  · intro h
    refine ⟨?_, ?_⟩
    · rw [← h.latest, replay_apply, replayAt, hpushed]
    · intro c hc hset ho he
      exact hnone.mpr (h.not_rewritten c hc hset ho he)

/-- What is pushed for a table that is read as `store`. -/
theorem exists_reconcile (h : m_appTable.Reads store) (calls : List Insert) :
    ∃ pushed, reconcile (insertAll (readTableToMap m_appTable) calls)
        = some (pushed, ⟨∅, false⟩) ∧
      ∀ key, Reconciled store pushed calls key ↔ Settled (store key) (callsOf calls key) := by
  obtain ⟨pushed, hrec, hpushed⟩ :=
    reconcile_eq (fun k => entryAfter (store k) (callsOf calls k)) fun k => getElem?_insertAll h
  exact ⟨pushed, hrec, fun key =>
    (reconciled_iff_object (hpushed key)).trans objectReconciled_iff⟩

end AppRestartAssist
