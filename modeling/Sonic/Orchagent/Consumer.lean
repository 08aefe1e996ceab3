/-
Orchagent/Consumer.lean

The pending tasks of an orch (`Consumer`, orch.cpp).

`m_toSync` has one slot a key.  `addToSync` files the popped entries: a DEL, and
any entry of a key without a slot, takes the slot; another entry is combined
with the task of the slot, whatever that task is.

Replaying the slots is replaying the tasks they stand for exactly when no key
has a SET after a DEL (`replay_addToSync_iff`): a pending DEL that a SET is
combined with is lost, and so is the removal of the fields the SET does not
name.
-/
import Sonic.Common.Table

namespace Orchagent

open Std (ExtTreeMap)
open FieldMap ObjectStore Swss

/-- `SyncMap`: the slot of a key holds a task of that key. -/
structure SyncMap where
  map : ExtTreeMap String KeyOpFieldsValuesTuple
  keyed : ∀ (key : String) (kco : KeyOpFieldsValuesTuple),
    map[key]? = some kco → kco.kfvKey = key

namespace SyncMap

def empty : SyncMap := ⟨∅, by simp⟩

/-- `m_toSync[key] = entry`. -/
def put (m_toSync : SyncMap) (entry : KeyOpFieldsValuesTuple) : SyncMap where
  map := m_toSync.map.insert entry.kfvKey entry
  keyed := by
    intro key kco h
    rw [ExtTreeMap.getElem?_insert] at h
    split at h
    · next he =>
        obtain rfl := Option.some.inj h
        exact Std.compare_eq_iff_eq.mp he
    · exact m_toSync.keyed key kco h

/-- The tasks in the order of their keys. -/
def tasks (m_toSync : SyncMap) : List KeyOpFieldsValuesTuple :=
  m_toSync.map.toList.map (·.2)

/-- The calls the tasks stand for. -/
def calls (m_toSync : SyncMap) : List (Call String String String) :=
  m_toSync.tasks.map (·.call)

end SyncMap

/-- Every new field is erased from the existing values and put at their end. -/
def combineValues (existing_values new_values : List FieldValueTuple) : List FieldValueTuple :=
  new_values.foldl (fun existing_values it => existing_values.filter (·.1 ≠ it.1) ++ [it])
    existing_values

/-- What `addToSync` does with one entry. -/
def addEntry (m_toSync : SyncMap) (entry : KeyOpFieldsValuesTuple) : SyncMap :=
  match m_toSync.map[entry.kfvKey]? with
  | none => m_toSync.put entry
  | some existing_data =>
    if entry.kfvOp = DEL_COMMAND then
      m_toSync.put entry
    else
      m_toSync.put ⟨entry.kfvKey, entry.kfvOp,
        combineValues existing_data.kfvFieldsValues entry.kfvFieldsValues⟩

/-- `Consumer::addToSync`: the new pending tasks, and the number of entries. -/
def addToSync (m_toSync : SyncMap) (entries : List KeyOpFieldsValuesTuple) : SyncMap × ℕ :=
  (entries.foldl addEntry m_toSync, entries.length)

/-- The tasks of one key: the pending one, then the entries. -/
def history (m_toSync : SyncMap) (entries : List KeyOpFieldsValuesTuple) (key : String) :
    List KeyOpFieldsValuesTuple :=
  m_toSync.map[key]?.toList ++ entries.filter (·.kfvKey = key)

/-- If one of the tasks is a DEL, the last one is. -/
def Coalescible (tasks : List KeyOpFieldsValuesTuple) : Prop :=
  (∃ kco ∈ tasks, kco.kfvOp = DEL_COMMAND) →
    ∃ kco, tasks.getLast? = some kco ∧ kco.kfvOp = DEL_COMMAND

variable {m_toSync : SyncMap} {entries tasks : List KeyOpFieldsValuesTuple}
  {entry kco : KeyOpFieldsValuesTuple} {key : String} {o : ExtTreeMap String String}
  {slot : Option KeyOpFieldsValuesTuple}

/-! ### The calls of tuples -/

@[simp] theorem key_call : kco.call.key = kco.kfvKey := by
  unfold KeyOpFieldsValuesTuple.call
  split <;> rfl

theorem isDel_call : kco.call.isDel = true ↔ kco.kfvOp = DEL_COMMAND := by
  unfold KeyOpFieldsValuesTuple.call
  split <;> simp_all [Call.isDel]

theorem onObject_call_of_ne (h : kco.kfvOp ≠ DEL_COMMAND) :
    kco.call.onObject o = merge o kco.kfvFieldsValues := by
  simp [KeyOpFieldsValuesTuple.call, h, Call.onObject]

/-- Merging combined values is merging the existing ones and then the new ones. -/
theorem merge_combineValues {existing_values new_values : List FieldValueTuple} :
    merge o (combineValues existing_values new_values)
      = merge (merge o existing_values) new_values := by
  induction new_values generalizing existing_values with
  | nil => rfl
  | cons it new_values ih =>
    show merge o (combineValues (existing_values.filter (·.1 ≠ it.1) ++ [it]) new_values)
      = merge ((merge o existing_values).insert it.1 it.2) new_values
    rw [ih, merge_filter_concat]

/-! ### One slot -/

/-- What becomes of the slot of a key when an entry of that key is added. -/
def addToSlot (slot : Option KeyOpFieldsValuesTuple) (entry : KeyOpFieldsValuesTuple) :
    Option KeyOpFieldsValuesTuple :=
  match slot with
  | none => some entry
  | some existing_data =>
    if entry.kfvOp = DEL_COMMAND then some entry
    else some ⟨entry.kfvKey, entry.kfvOp,
      combineValues existing_data.kfvFieldsValues entry.kfvFieldsValues⟩

/-- What a slot does to the object of its key. -/
def slotOnObject (slot : Option KeyOpFieldsValuesTuple) (o : ExtTreeMap String String) :
    ExtTreeMap String String :=
  slot.elim o (·.call.onObject o)

theorem SyncMap.getElem?_put :
    (m_toSync.put entry).map[key]?
      = if entry.kfvKey = key then some entry else m_toSync.map[key]? := by
  simp [SyncMap.put, ExtTreeMap.getElem?_insert]

theorem getElem?_addEntry :
    (addEntry m_toSync entry).map[key]?
      = if entry.kfvKey = key then addToSlot m_toSync.map[key]? entry
        else m_toSync.map[key]? := by
  by_cases hk : entry.kfvKey = key
  · subst hk
    rcases hm : m_toSync.map[entry.kfvKey]? with - | existing_data
    · simp [addEntry, hm, addToSlot, SyncMap.getElem?_put]
    · by_cases hop : entry.kfvOp = DEL_COMMAND <;>
        simp [addEntry, hm, hop, addToSlot, SyncMap.getElem?_put]
  · rcases hm : m_toSync.map[entry.kfvKey]? with - | existing_data
    · simp [addEntry, hm, SyncMap.getElem?_put, hk]
    · by_cases hop : entry.kfvOp = DEL_COMMAND <;>
        simp [addEntry, hm, hop, SyncMap.getElem?_put, hk]

/-- The slot of a key depends on the entries of that key alone. -/
theorem getElem?_addToSync :
    (addToSync m_toSync entries).1.map[key]?
      = (entries.filter (·.kfvKey = key)).foldl addToSlot m_toSync.map[key]? := by
  show (entries.foldl addEntry m_toSync).map[key]? = _
  induction entries generalizing m_toSync with
  | nil => rfl
  | cons entry entries ih =>
    rw [List.foldl_cons, ih, getElem?_addEntry]
    by_cases hk : entry.kfvKey = key
    · rw [if_pos hk, List.filter_cons_of_pos (by simpa using hk), List.foldl_cons]
    · rw [if_neg hk, List.filter_cons_of_neg (by simpa using hk)]

/-- The slot of a key is its history, filed from nothing. -/
theorem getElem?_addToSync_eq_history :
    (addToSync m_toSync entries).1.map[key]?
      = (history m_toSync entries key).foldl addToSlot none := by
  rw [getElem?_addToSync, history, List.foldl_append]
  rcases m_toSync.map[key]? with - | existing_data <;> rfl

/-! ### What a slot stands for -/

/-- The task in a slot has the operation of the last task filed. -/
theorem exists_foldl_addToSlot_concat (tasks : List KeyOpFieldsValuesTuple)
    (entry : KeyOpFieldsValuesTuple) :
    ∃ kco, (tasks ++ [entry]).foldl addToSlot none = some kco ∧ kco.kfvOp = entry.kfvOp := by
  rw [List.foldl_append]
  show ∃ kco, addToSlot (tasks.foldl addToSlot none) entry = some kco ∧ _
  rcases tasks.foldl addToSlot none with - | existing_data
  · exact ⟨entry, rfl, rfl⟩
  · by_cases hop : entry.kfvOp = DEL_COMMAND
    · exact ⟨entry, if_pos hop, rfl⟩
    · exact ⟨_, if_neg hop, rfl⟩

/-- SETs are combined into a SET that does what they do. -/
theorem slotOnObject_of_forall_ne (h : ∀ kco ∈ tasks, kco.kfvOp ≠ DEL_COMMAND) :
    slotOnObject (tasks.foldl addToSlot none) o
      = (tasks.map (·.call)).foldl Call.onObject o := by
  induction tasks using List.reverseRecOn generalizing o with
  | nil => rfl
  | append_singleton tasks entry ih =>
    have hentry : entry.kfvOp ≠ DEL_COMMAND := h entry (by simp)
    have htasks : ∀ kco ∈ tasks, kco.kfvOp ≠ DEL_COMMAND :=
      fun kco hmem => h kco (List.mem_append_left _ hmem)
    rw [List.foldl_append, List.map_append, List.foldl_append, ← ih htasks]
    show slotOnObject (addToSlot (tasks.foldl addToSlot none) entry) o
      = entry.call.onObject (slotOnObject (tasks.foldl addToSlot none) o)
    rcases List.eq_nil_or_concat' tasks with rfl | ⟨tasks', last, rfl⟩
    · rfl
    · -- the slot is taken by a SET: the last task filed was one
      obtain ⟨existing_data, hslot, hop⟩ :=
        exists_foldl_addToSlot_concat tasks' last
      have hlast : existing_data.kfvOp ≠ DEL_COMMAND := by
        rw [hop]
        exact htasks last (by simp)
      rw [hslot]
      simp only [addToSlot, if_neg hentry, slotOnObject, Option.elim_some]
      calc (KeyOpFieldsValuesTuple.mk entry.kfvKey entry.kfvOp
            (combineValues existing_data.kfvFieldsValues entry.kfvFieldsValues)).call.onObject o
          = merge o (combineValues existing_data.kfvFieldsValues entry.kfvFieldsValues) :=
            onObject_call_of_ne hentry
        _ = merge (merge o existing_data.kfvFieldsValues) entry.kfvFieldsValues :=
            merge_combineValues
        _ = entry.call.onObject (existing_data.call.onObject o) := by
            rw [onObject_call_of_ne hentry, onObject_call_of_ne hlast]

/-- **A slot stands for its history exactly if that is coalescible.** -/
theorem slotOnObject_iff :
    (∀ o, slotOnObject (tasks.foldl addToSlot none) o
        = (tasks.map (·.call)).foldl Call.onObject o) ↔ Coalescible tasks := by
  by_cases hdel : ∃ kco ∈ tasks, kco.kfvOp = DEL_COMMAND
  · have hcalls : ∃ c ∈ tasks.map (·.call), c.isDel = true := by
      obtain ⟨kco, hmem, hop⟩ := hdel
      exact ⟨kco.call, List.mem_map_of_mem hmem, isDel_call.mpr hop⟩
    rcases List.eq_nil_or_concat' tasks with rfl | ⟨tasks', last, rfl⟩
    · simp at hdel
    obtain ⟨kco, hslot, hop⟩ := exists_foldl_addToSlot_concat tasks' last
    constructor
    · intro h _
      refine ⟨last, by simp, ?_⟩
      by_contra hlast
      -- a SET in the slot keeps what the object had, the history does not
      obtain ⟨o, ho⟩ := exists_merge_ne (F := String) (V := String) kco.kfvFieldsValues
      have hset : kco.kfvOp ≠ DEL_COMMAND := hop ▸ hlast
      have hslot' : ∀ o, slotOnObject (some kco) o = merge o kco.kfvFieldsValues :=
        fun o => onObject_call_of_ne hset
      apply ho
      rw [← hslot', ← hslot', ← hslot, h, h]
      exact foldl_onObject_eq_of_isDel hcalls o ∅
    · intro h o
      obtain ⟨last', hlast, hop'⟩ := h hdel
      have he : last = last' := by simpa using hlast
      subst he
      rw [hslot, List.map_append, List.foldl_append]
      show kco.call.onObject o = last.call.onObject _
      rw [Call.onObject_of_isDel (isDel_call.mpr (hop.trans hop')),
        Call.onObject_of_isDel (isDel_call.mpr hop')]
  · constructor
    · intro _ h
      exact absurd h hdel
    · intro _ o
      push Not at hdel
      exact slotOnObject_of_forall_ne hdel

/-! ### The whole map -/

/-- Replaying the tasks acts on each key through its slot. -/
theorem SyncMap.replayAt_calls :
    replayAt key o m_toSync.calls = slotOnObject m_toSync.map[key]? o := by
  have hcalls : m_toSync.calls = m_toSync.map.toList.flatMap fun it => [it.2.call] := by
    rw [SyncMap.calls, SyncMap.tasks, List.map_map]
    exact List.map_eq_flatMap
  have hkeys : ∀ it ∈ m_toSync.map.toList, ∀ c ∈ [it.2.call], c.key = it.1 := by
    intro it hit c hc
    obtain rfl := List.mem_singleton.mp hc
    rw [key_call]
    exact m_toSync.keyed it.1 it.2 (ExtTreeMap.mem_toList_iff_getElem?_eq_some.mp hit)
  rw [replayAt, hcalls, filter_flatMap_key Prod.fst hkeys, filter_toList]
  rcases m_toSync.map[key]? with - | kco <;> rfl

/-- Replaying the old tasks and the entries acts on each key through its history. -/
theorem replayAt_history :
    replayAt key o (m_toSync.calls ++ entries.map (·.call))
      = ((history m_toSync entries key).map (·.call)).foldl Call.onObject o := by
  have hentries : (entries.map (·.call)).filter (·.key = key)
      = (entries.filter (·.kfvKey = key)).map (·.call) := by
    simp [List.filter_map, Function.comp_def]
  rw [replayAt_append, SyncMap.replayAt_calls, history, List.map_append, List.foldl_append,
    ← hentries]
  rcases m_toSync.map[key]? with - | existing_data <;> rfl

/-- **The pending tasks replay as the history they were made from exactly when
every key has a coalescible one.** -/
theorem replay_addToSync_iff (m_toSync : SyncMap) (entries : List KeyOpFieldsValuesTuple) :
    (∀ store : String → ExtTreeMap String String,
      replay store (addToSync m_toSync entries).1.calls
        = replay store (m_toSync.calls ++ entries.map (·.call))) ↔
      ∀ key, Coalescible (history m_toSync entries key) := by
  constructor
  · intro h key
    refine slotOnObject_iff.mp ?_
    intro o
    have hkey := congrFun (h fun _ => o) key
    rwa [replay_apply, replay_apply, SyncMap.replayAt_calls, replayAt_history,
      getElem?_addToSync_eq_history] at hkey
  · intro h store
    funext key
    rw [replay_apply, replay_apply, SyncMap.replayAt_calls, replayAt_history,
      getElem?_addToSync_eq_history]
    exact slotOnObject_iff.mpr (h key) (store key)

/-- A SET combined with a pending DEL keeps the fields the DEL was to remove. -/
theorem not_replay_addToSync_of_del_set :
    ¬ ∀ (m_toSync : SyncMap) (entries : List KeyOpFieldsValuesTuple)
        (store : String → ExtTreeMap String String),
      replay store (addToSync m_toSync entries).1.calls
        = replay store (m_toSync.calls ++ entries.map (·.call)) := by
  intro h
  let pending := SyncMap.empty.put ⟨"k", "DEL", []⟩
  let store : String → ExtTreeMap String String := fun _ => {("g", "w")}
  have hkey := congrArg (·["g"]?) (congrFun (h pending [⟨"k", "SET", [("f", "v")]⟩] store) "k")
  revert hkey
  decide

end Orchagent
