/-
Orchagent/Sweep.lean

The usual loop of `doTask`: the pending tasks are handled in the order of their keys, and
those that are done are erased from `m_toSync`.

What every call of the handler keeps, a pass keeps (`sweep_keeps`).  A task is pending after
a pass exactly if it was not done, provided that the answer does not depend on the tasks
handled before it (`getElem?_sweep`).
-/
import Sonic.Orchagent.Consumer
import Sonic.Lib.Transition

namespace Orchagent

open Std (ExtTreeMap)
open Swss
open Transition (Meets)

namespace SyncMap

/-- `m_toSync.erase(it)`. -/
def erase (m_toSync : SyncMap) (key : String) : SyncMap where
  map := m_toSync.map.erase key
  keyed := by
    intro key' kco h
    rw [ExtTreeMap.getElem?_erase] at h
    split at h
    · cases h
    · exact m_toSync.keyed key' kco h

variable {m_toSync : SyncMap} {key key' : String} {task : KeyOpFieldsValuesTuple}

theorem getElem?_erase :
    (m_toSync.erase key).map[key']? = if key = key' then none else m_toSync.map[key']? := by
  show (m_toSync.map.erase key)[key']? = _
  rw [ExtTreeMap.getElem?_erase]
  simp only [Std.compare_eq_iff_eq]

theorem mem_tasks : task ∈ m_toSync.tasks ↔ m_toSync.map[task.kfvKey]? = some task := by
  rw [tasks, List.mem_map]
  constructor
  · rintro ⟨e, he, rfl⟩
    have hlookup := ExtTreeMap.mem_toList_iff_getElem?_eq_some.mp he
    rw [m_toSync.keyed _ _ hlookup]
    exact hlookup
  · intro h
    exact ⟨(task.kfvKey, task), ExtTreeMap.mem_toList_iff_getElem?_eq_some.mpr h, rfl⟩

/-- The tasks have different keys. -/
theorem keys_nodup (m_toSync : SyncMap) : (m_toSync.tasks.map (·.kfvKey)).Nodup := by
  have hkeys : m_toSync.tasks.map (·.kfvKey) = m_toSync.map.toList.map (·.1) := by
    rw [tasks, List.map_map]
    refine List.map_congr_left fun e he => ?_
    exact m_toSync.keyed e.1 e.2 (ExtTreeMap.mem_toList_iff_getElem?_eq_some.mp he)
  rw [hkeys]
  refine List.Pairwise.map _ ?_ m_toSync.map.distinct_keys_toList
  intro a b h heq
  exact h (Std.compare_eq_iff_eq.mpr heq)

end SyncMap

variable {σ : Type*} (handle : σ → KeyOpFieldsValuesTuple → σ × Bool)

/-- One task of the loop: `handle` says whether it is done. -/
def sweepStep (p : SyncMap × σ) (task : KeyOpFieldsValuesTuple) : SyncMap × σ :=
  let r := handle p.2 task
  (if r.2 then p.1.erase task.kfvKey else p.1, r.1)

/-- The loop over `m_toSync`. -/
def sweep (m_toSync : SyncMap) (orch : σ) : SyncMap × σ :=
  m_toSync.tasks.foldl (sweepStep handle) (m_toSync, orch)

variable {handle} {m_toSync : SyncMap} {orch : σ} {tasks : List KeyOpFieldsValuesTuple}
  {task : KeyOpFieldsValuesTuple} {I : σ → Prop} {p : SyncMap × σ}

theorem foldl_sweepStep_keeps (hp : I p.2)
    (hstep : ∀ s, ∀ task ∈ tasks, I s → I (handle s task).1) :
    I (tasks.foldl (sweepStep handle) p).2 := by
  induction tasks generalizing p with
  | nil => exact hp
  | cons task tasks ih =>
    refine ih (hstep p.2 task List.mem_cons_self hp) ?_
    exact fun s task' hmem => hstep s task' (List.mem_cons_of_mem _ hmem)

/-- **What the handler keeps under a guard, a pass keeps whose tasks all meet the guard** in
the states that they are handled in. -/
theorem sweep_keeps_of_meets {C : σ → KeyOpFieldsValuesTuple → Prop} (horch : I orch)
    (hmeets : Meets C (fun s task => (handle s task).1) orch m_toSync.tasks)
    (hstep : ∀ s task, I s → C s task → I (handle s task).1) :
    I (sweep handle m_toSync orch).2 := by
  show I (m_toSync.tasks.foldl (sweepStep handle) (m_toSync, orch)).2
  generalize m_toSync.tasks = tasks at hmeets ⊢
  generalize m_toSync = kept
  induction tasks generalizing orch kept with
  | nil => exact horch
  | cons task tasks ih => exact ih (hstep orch task horch hmeets.1) hmeets.2 _

/-- **What the handler keeps, the pass keeps.** -/
theorem sweep_keeps (horch : I orch)
    (hstep : ∀ s, ∀ task ∈ m_toSync.tasks, I s → I (handle s task).1) :
    I (sweep handle m_toSync orch).2 :=
  foldl_sweepStep_keeps horch hstep

/-- The slot of a key that no task has is not touched. -/
theorem getElem?_foldl_sweepStep_of_notMem {key : String}
    (hout : key ∉ tasks.map (·.kfvKey)) :
    (tasks.foldl (sweepStep handle) p).1.map[key]? = p.1.map[key]? := by
  induction tasks generalizing p with
  | nil => rfl
  | cons task tasks ih =>
    rw [List.map_cons, List.mem_cons, not_or] at hout
    rw [List.foldl_cons, ih hout.2]
    show (if (handle p.2 task).2 then p.1.erase task.kfvKey else p.1).map[key]? = _
    split
    · rw [SyncMap.getElem?_erase, if_neg (Ne.symm hout.1)]
    · rfl

variable (handle) in
/-- **A task is pending after the pass exactly if it is not done**, where the answer is the
same in every state that the pass may handle it in. -/
theorem getElem?_sweep {done : Bool} (hmem : task ∈ m_toSync.tasks) (horch : I orch)
    (hstep : ∀ s, ∀ task ∈ m_toSync.tasks, I s → I (handle s task).1)
    (hdone : ∀ s, I s → (handle s task).2 = done) :
    (sweep handle m_toSync orch).1.map[task.kfvKey]? = if done then none else some task := by
  have hslot := SyncMap.mem_tasks.mp hmem
  obtain ⟨before, after, htasks⟩ := List.append_of_mem hmem
  have hnodup := m_toSync.keys_nodup
  rw [htasks, List.map_append, List.map_cons] at hnodup
  have hafter : task.kfvKey ∉ after.map (·.kfvKey) :=
    (List.nodup_cons.mp (List.nodup_append.mp hnodup).2.1).1
  have hbefore : task.kfvKey ∉ before.map (·.kfvKey) := fun h =>
    (List.nodup_append.mp hnodup).2.2 _ h _ List.mem_cons_self rfl
  rw [sweep, htasks, List.foldl_append, List.foldl_cons,
    getElem?_foldl_sweepStep_of_notMem hafter]
  -- the state in which the task is handled
  have hI : I (before.foldl (sweepStep handle) (m_toSync, orch)).2 := by
    refine foldl_sweepStep_keeps horch fun s task' hin => hstep s task' ?_
    rw [htasks]
    exact List.mem_append_left _ hin
  have hsame : (before.foldl (sweepStep handle) (m_toSync, orch)).1.map[task.kfvKey]?
      = some task := (getElem?_foldl_sweepStep_of_notMem hbefore).trans hslot
  generalize before.foldl (sweepStep handle) (m_toSync, orch) = p at hI hsame ⊢
  show (if (handle p.2 task).2 then p.1.erase task.kfvKey else p.1).map[task.kfvKey]? = _
  rw [hdone p.2 hI]
  split
  · rw [SyncMap.getElem?_erase, if_pos rfl]
  · exact hsame

end Orchagent
