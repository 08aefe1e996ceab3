/-
Orchagent/TaskLoop.lean

The loops over pending tasks of `QosOrch`, `BufferOrch` and `CoppOrch`.

The loop walks `m_toSync` with an iterator, and every handler takes the first task of
`m_toSync`, whatever the iterator is at.  The two are the same task as long as every task
is erased; behind a task that is kept, the first one is handled again and again, and the
tasks that the iterator passes are erased, or kept, by what is said of the first.

A pass is fair (`Fair`) exactly if only the last task needs a retry, and no task that can
be applied is behind one that ends the pass (`doTask_fair_iff`).
-/
import Sonic.Orchagent.Consumer

namespace Orchagent.TaskLoop

open Swss

/-- `task_process_status`, or a value that is none of them, or an exception. -/
inductive Result where
  | task_success | task_invalid_entry | task_failed | task_need_retry | task_ignore
  | invalid_status
  | exception
  deriving DecidableEq

/-- What becomes of the task that the iterator is at, and of the loop. -/
inductive Action where
  | erase | eraseAndReturn | keep
  /-- the exception leaves `doTask` -/
  | leave
  deriving DecidableEq

/-- The `switch` of `QosOrch::doTask`. -/
def qosAction : Result → Action
  | .task_success => .erase
  | .task_invalid_entry => .erase
  | .task_failed => .eraseAndReturn
  | .task_need_retry => .keep
  | .task_ignore => .erase
  | .invalid_status => .erase
  | .exception => .leave

/-- The `switch` of `BufferOrch::doTask`. -/
def bufferAction : Result → Action
  | .task_success => .erase
  | .task_invalid_entry => .erase
  | .task_failed => .eraseAndReturn
  | .task_need_retry => .keep
  | .task_ignore => .erase
  | .invalid_status => .erase
  | .exception => .leave

/-- The `switch` of `CoppOrch::doTask`.  An exception stands for an invalid entry. -/
def coppAction : Result → Action
  | .task_success => .erase
  | .task_ignore => .erase
  | .task_invalid_entry => .erase
  | .task_failed => .eraseAndReturn
  | .task_need_retry => .keep
  | .invalid_status => .eraseAndReturn
  | .exception => .erase

/-- A call of a handler: the task that it took, and its result. -/
structure Visit where
  handled : KeyOpFieldsValuesTuple
  result : Result

/-- What a pass leaves in `m_toSync`, and the calls of it. -/
structure Pass (σ : Type*) where
  m_toSync : List KeyOpFieldsValuesTuple
  orch : σ
  visits : List Visit

variable {σ : Type*} (action : Result → Action)
  (handle : σ → KeyOpFieldsValuesTuple → σ × Result)

/-- `m_toSync.begin()`, when some tasks are before the iterator. -/
def first (kept : List KeyOpFieldsValuesTuple) (it : KeyOpFieldsValuesTuple) :
    KeyOpFieldsValuesTuple :=
  kept.headD it

/-- The loop: the tasks before the iterator, and those from it on. -/
def loop : List KeyOpFieldsValuesTuple → List KeyOpFieldsValuesTuple → σ → Pass σ
  | kept, [], orch => ⟨kept, orch, []⟩
  | kept, it :: rest, orch =>
    let r := handle orch (first kept it)
    let visit : Visit := ⟨first kept it, r.2⟩
    match action r.2 with
    | .erase =>
      let pass := loop kept rest r.1
      { pass with visits := visit :: pass.visits }
    | .eraseAndReturn => ⟨kept ++ rest, r.1, [visit]⟩
    | .keep =>
      let pass := loop (kept ++ [it]) rest r.1
      { pass with visits := visit :: pass.visits }
    | .leave => ⟨kept ++ it :: rest, r.1, [visit]⟩

/-- A loop that starts at the first task, unless the ports are not ready; tasks without a
handler are erased. -/
def pass (ready hasHandler : Bool) (m_toSync : SyncMap) (orch : σ) : Pass σ :=
  if ¬ ready then ⟨m_toSync.tasks, orch, []⟩
  else if ¬ hasHandler then ⟨[], orch, []⟩
  else loop action handle [] m_toSync.tasks orch

/-- `QosOrch::doTask`: whether all ports are ready, and whether there is a handler for the
table. -/
def QosOrch.doTask (ready hasHandler : Bool) (m_toSync : SyncMap) (orch : σ) : Pass σ :=
  pass qosAction handle ready hasHandler m_toSync orch

/-- `BufferOrch::doTask`: whether the configuration is done, and whether there is a handler
for the table. -/
def BufferOrch.doTask (ready hasHandler : Bool) (m_toSync : SyncMap) (orch : σ) : Pass σ :=
  pass bufferAction handle ready hasHandler m_toSync orch

/-- `CoppOrch::doTask`, for the table of trap groups. -/
def CoppOrch.doTask (ready : Bool) (m_toSync : SyncMap) (orch : σ) : Pass σ :=
  pass coppAction handle ready true m_toSync orch

/-- A SET of the SFLOW table that enables the trap. -/
def enablesSflow (task : KeyOpFieldsValuesTuple) : Bool :=
  task.kfvOp = SET_COMMAND && task.kfvFieldsValues.any fun i => i = ("admin_state", "up")

/-- `coppProcessSflow`: the SFLOW table in `CoppOrch::doTask`, with `enable_sflow_trap`. -/
def CoppOrch.coppProcessSflow (m_toSync : SyncMap) (enable_sflow_trap : Bool) : Pass Bool :=
  ⟨[], enable_sflow_trap || m_toSync.tasks.any enablesSflow,
    m_toSync.tasks.map fun task => ⟨task, .task_success⟩⟩

/-! ### Fairness -/

/-- A result after which the task is not kept. -/
def Final (r : Result) : Prop := action r = .erase ∨ action r = .eraseAndReturn

/-- The references of the task are all resolvable: its handler applies it. -/
def Resolvable (task : KeyOpFieldsValuesTuple) : Prop :=
  ∀ orch, (handle orch task).2 = .task_success

/-- A pass over some tasks is fair: no task is handled twice, a task is removed only if it
was handled with a final result, and a task that can be applied is. -/
structure Fair (tasks : List KeyOpFieldsValuesTuple) (p : Pass σ) : Prop where
  once : (p.visits.map Visit.handled).Nodup
  removed : ∀ task ∈ tasks, task ∉ p.m_toSync →
    ∃ visit ∈ p.visits, visit.handled = task ∧ Final action visit.result
  applied : ∀ task ∈ tasks, Resolvable handle task →
    ∃ visit ∈ p.visits, visit.handled = task ∧ visit.result = .task_success

/-- Only the last task needs a retry, and no task that can be applied is behind one that
ends the pass. -/
def Clean : List KeyOpFieldsValuesTuple → σ → Prop
  | [], _ => True
  | task :: rest, orch =>
    match action (handle orch task).2 with
    | .erase => Clean rest (handle orch task).1
    | .keep => rest = []
    | .eraseAndReturn => ∀ task' ∈ rest, ¬ Resolvable handle task'
    | .leave => ∀ task' ∈ rest, ¬ Resolvable handle task'

variable {action handle} {tasks rest kept : List KeyOpFieldsValuesTuple}
  {task : KeyOpFieldsValuesTuple} {orch : σ}

/-- The tasks of `m_toSync` have different keys. -/
theorem tasks_nodup (m_toSync : SyncMap) : m_toSync.tasks.Nodup := by
  have hkeys : (m_toSync.map.toList.map (·.1)).Nodup := by
    have hdistinct := m_toSync.map.distinct_keys_toList
    refine List.Pairwise.map _ ?_ hdistinct
    intro a b h heq
    exact h (Std.compare_eq_iff_eq.mpr heq)
  have hpair : m_toSync.map.toList.Pairwise fun a b => a.2 ≠ b.2 := by
    refine (List.pairwise_map.mp hkeys).imp_of_mem ?_
    intro a b ha hb hne heq
    have hkey : ∀ e ∈ m_toSync.map.toList, e.2.kfvKey = e.1 := fun e he =>
      m_toSync.keyed e.1 e.2 (Std.ExtTreeMap.mem_toList_iff_getElem?_eq_some.mp he)
    exact hne ((hkey a ha).symm.trans ((congrArg _ heq).trans (hkey b hb)))
  exact List.pairwise_map.mpr hpair

/-! ### What a clean pass does -/

variable (kept) in
theorem loop_erase (h : action (handle orch (first kept task)).2 = .erase) :
    loop action handle kept (task :: rest) orch =
      { loop action handle kept rest (handle orch (first kept task)).1 with
        visits := ⟨first kept task, (handle orch (first kept task)).2⟩ ::
          (loop action handle kept rest (handle orch (first kept task)).1).visits } := by
  rw [loop]
  simp only [h]

variable (kept) in
theorem loop_keep (h : action (handle orch (first kept task)).2 = .keep) :
    loop action handle kept (task :: rest) orch =
      { loop action handle (kept ++ [task]) rest (handle orch (first kept task)).1 with
        visits := ⟨first kept task, (handle orch (first kept task)).2⟩ ::
          (loop action handle (kept ++ [task]) rest (handle orch (first kept task)).1).visits } := by
  rw [loop]
  simp only [h]

variable (kept) in
theorem loop_return (h : action (handle orch (first kept task)).2 = .eraseAndReturn) :
    loop action handle kept (task :: rest) orch =
      ⟨kept ++ rest, (handle orch (first kept task)).1,
        [⟨first kept task, (handle orch (first kept task)).2⟩]⟩ := by
  rw [loop]
  simp only [h]

variable (kept) in
theorem loop_leave (h : action (handle orch (first kept task)).2 = .leave) :
    loop action handle kept (task :: rest) orch =
      ⟨kept ++ task :: rest, (handle orch (first kept task)).1,
        [⟨first kept task, (handle orch (first kept task)).2⟩]⟩ := by
  rw [loop]
  simp only [h]

/-- Where something is left to handle, the first task is handled. -/
theorem exists_visit_first :
    ∃ r vs, (loop action handle kept (task :: rest) orch).visits = ⟨first kept task, r⟩ :: vs := by
  rw [loop]
  simp only
  split <;> exact ⟨_, _, rfl⟩

/-- A task that is erased, in front of a fair pass. -/
theorem Fair.cons {p : Pass σ} {r : Result} (hnodup : (task :: rest).Nodup)
    (hr : action r = .erase) (hsuccess : Resolvable handle task → r = .task_success)
    (hmem : ∀ visit ∈ p.visits, visit.handled ∈ rest) (h : Fair action handle rest p) :
    Fair action handle (task :: rest) { p with visits := ⟨task, r⟩ :: p.visits } := by
  obtain ⟨htask, -⟩ := List.nodup_cons.mp hnodup
  refine ⟨?_, ?_, ?_⟩
  · refine List.nodup_cons.mpr ⟨?_, h.once⟩
    intro hmap
    obtain ⟨visit, hvisit, heq⟩ := List.mem_map.mp hmap
    have hin := hmem visit hvisit
    rw [heq] at hin
    exact htask hin
  · intro task' hin hout
    rcases List.mem_cons.mp hin with rfl | hin
    · exact ⟨⟨task', r⟩, List.mem_cons_self, rfl, .inl hr⟩
    · obtain ⟨visit, hvisit, heq⟩ := h.removed task' hin hout
      exact ⟨visit, List.mem_cons_of_mem _ hvisit, heq⟩
  · intro task' hin hres
    rcases List.mem_cons.mp hin with rfl | hin
    · exact ⟨⟨task', r⟩, List.mem_cons_self, rfl, hsuccess hres⟩
    · obtain ⟨visit, hvisit, heq⟩ := h.applied task' hin hres
      exact ⟨visit, List.mem_cons_of_mem _ hvisit, heq⟩

/-- One task that is handled, where no other can be applied: it may be removed, if its
result is final. -/
theorem fair_single {p : Pass σ} {r : Result} (hvisits : p.visits = [⟨task, r⟩])
    (hqueue : ∀ task' ∈ rest, task' ∈ p.m_toSync)
    (hr : task ∉ p.m_toSync → Final action r)
    (hsuccess : Resolvable handle task → r = .task_success)
    (hrest : ∀ task' ∈ rest, ¬ Resolvable handle task') : Fair action handle (task :: rest) p := by
  refine ⟨?_, ?_, ?_⟩
  · rw [hvisits]
    exact List.nodup_singleton _
  · intro task' hin hout
    rcases List.mem_cons.mp hin with rfl | hin
    · exact ⟨⟨task', r⟩, by rw [hvisits]; exact List.mem_cons_self, rfl, hr hout⟩
    · exact absurd (hqueue task' hin) hout
  · intro task' hin hres
    rcases List.mem_cons.mp hin with rfl | hin
    · exact ⟨⟨task', r⟩, by rw [hvisits]; exact List.mem_cons_self, rfl, hsuccess hres⟩
    · exact absurd hres (hrest task' hin)

/-- A clean pass is fair: the iterator is at the first task all the time. -/
theorem fair_of_clean (hnodup : tasks.Nodup) (h : Clean action handle tasks orch) :
    Fair action handle tasks (loop action handle [] tasks orch) ∧
      ∀ visit ∈ (loop action handle [] tasks orch).visits, visit.handled ∈ tasks := by
  induction tasks generalizing orch with
  | nil => exact ⟨⟨List.nodup_nil, nofun, nofun⟩, nofun⟩
  | cons task rest ih =>
    have hsuccess : Resolvable handle task → (handle orch task).2 = .task_success :=
      fun hres => hres orch
    have hself : ∀ visit ∈ [(⟨task, (handle orch task).2⟩ : Visit)],
        visit.handled ∈ task :: rest := by
      intro visit hvisit
      rw [List.mem_singleton.mp hvisit]
      exact List.mem_cons_self
    rw [Clean] at h
    cases haction : action (handle orch task).2 with
    | erase =>
      rw [haction] at h
      obtain ⟨hfair, hmem⟩ := ih (List.nodup_cons.mp hnodup).2 h
      rw [loop_erase [] haction]
      refine ⟨hfair.cons hnodup haction hsuccess hmem, ?_⟩
      intro visit hvisit
      rcases List.mem_cons.mp hvisit with rfl | hvisit
      · exact List.mem_cons_self
      · exact List.mem_cons_of_mem _ (hmem visit hvisit)
    | keep =>
      rw [haction] at h
      subst h
      rw [loop_keep [] haction]
      exact ⟨fair_single rfl nofun (fun hout => absurd List.mem_cons_self hout) hsuccess nofun,
        hself⟩
    | eraseAndReturn =>
      rw [haction] at h
      rw [loop_return [] haction]
      exact ⟨fair_single rfl (fun _ hin => hin) (fun _ => .inr haction) hsuccess h, hself⟩
    | leave =>
      rw [haction] at h
      rw [loop_leave [] haction]
      exact ⟨fair_single rfl (fun _ hin => List.mem_cons_of_mem _ hin)
        (fun hout => absurd List.mem_cons_self hout) hsuccess h, hself⟩

/-- What is fair of a pass is fair of the pass behind a task that is erased. -/
theorem Fair.tail {p : Pass σ} {r : Result} (hnodup : (task :: rest).Nodup)
    (h : Fair action handle (task :: rest) { p with visits := ⟨task, r⟩ :: p.visits }) :
    Fair action handle rest p := by
  obtain ⟨htask, -⟩ := List.nodup_cons.mp hnodup
  have hbehind : ∀ {task' : KeyOpFieldsValuesTuple} {Q : Visit → Prop}, task' ∈ rest →
      (∃ visit ∈ (⟨task, r⟩ :: p.visits : List Visit), visit.handled = task' ∧ Q visit) →
      ∃ visit ∈ p.visits, visit.handled = task' ∧ Q visit := by
    rintro task' Q hin ⟨visit, hvisit, heq, hQ⟩
    rcases List.mem_cons.mp hvisit with rfl | hvisit
    · rw [← heq] at hin
      exact absurd hin htask
    · exact ⟨visit, hvisit, heq, hQ⟩
  refine ⟨(List.nodup_cons.mp h.once).2, fun task' hin hout => ?_, fun task' hin hres => ?_⟩
  · exact hbehind hin (h.removed task' (List.mem_cons_of_mem _ hin) hout)
  · exact hbehind hin (h.applied task' (List.mem_cons_of_mem _ hin) hres)

/-- A pass that ends at a task applies no task behind it. -/
theorem Fair.not_resolvable {p : Pass σ} {r : Result} (hnodup : (task :: rest).Nodup)
    (hvisits : p.visits = [⟨task, r⟩]) (h : Fair action handle (task :: rest) p) :
    ∀ task' ∈ rest, ¬ Resolvable handle task' := by
  intro task' hin hres
  obtain ⟨visit, hvisit, heq, -⟩ := h.applied task' (List.mem_cons_of_mem _ hin) hres
  rw [hvisits, List.mem_singleton] at hvisit
  subst hvisit
  rw [← heq] at hin
  exact (List.nodup_cons.mp hnodup).1 hin

/-- A fair pass is clean: behind a task that is kept, that task is handled again. -/
theorem clean_of_fair (hnodup : tasks.Nodup)
    (h : Fair action handle tasks (loop action handle [] tasks orch)) :
    Clean action handle tasks orch := by
  induction tasks generalizing orch with
  | nil => exact trivial
  | cons task rest ih =>
    rw [Clean]
    cases haction : action (handle orch task).2 with
    | erase =>
      rw [loop_erase [] haction] at h
      exact ih (List.nodup_cons.mp hnodup).2 (Fair.tail hnodup h)
    | keep =>
      cases rest with
      | nil => rfl
      | cons it rest =>
        rw [loop_keep [] haction] at h
        obtain ⟨r, vs, hvisits⟩ : ∃ r vs,
            (loop action handle [task] (it :: rest) (handle orch task).1).visits =
              ⟨first [task] it, r⟩ :: vs := exists_visit_first
        have honce := h.once
        change (List.map Visit.handled (_ :: (loop action handle [task] (it :: rest)
          (handle orch task).1).visits)).Nodup at honce
        rw [hvisits] at honce
        exact absurd List.mem_cons_self (List.nodup_cons.mp honce).1
    | eraseAndReturn =>
      rw [loop_return [] haction] at h
      exact Fair.not_resolvable hnodup rfl h
    | leave =>
      rw [loop_leave [] haction] at h
      exact Fair.not_resolvable hnodup rfl h

/-- **When a loop is fair.** -/
theorem loop_fair_iff (hnodup : tasks.Nodup) :
    Fair action handle tasks (loop action handle [] tasks orch) ↔ Clean action handle tasks orch :=
  ⟨clean_of_fair hnodup, fun h => (fair_of_clean hnodup h).1⟩

/-! ### The passes of the orchs -/

variable (action handle)

/-- The ports are ready, or nothing waits for them; there is a handler, or no task for one;
and the tasks are clean. -/
def CleanPass (ready hasHandler : Bool) (m_toSync : SyncMap) (orch : σ) : Prop :=
  if ¬ ready then ∀ task ∈ m_toSync.tasks, ¬ Resolvable handle task
  else if ¬ hasHandler then m_toSync.tasks = []
  else Clean action handle m_toSync.tasks orch

theorem pass_fair_iff (ready hasHandler : Bool) (m_toSync : SyncMap) (orch : σ) :
    Fair action handle m_toSync.tasks (pass action handle ready hasHandler m_toSync orch) ↔
      CleanPass action handle ready hasHandler m_toSync orch := by
  unfold pass CleanPass
  split
  · constructor
    · intro h task hin hres
      obtain ⟨visit, hvisit, -⟩ := h.applied task hin hres
      cases hvisit
    · exact fun h => ⟨List.nodup_nil, fun task hin hout => absurd hin hout,
        fun task hin hres => absurd hres (h task hin)⟩
  · split
    · constructor
      · intro h
        refine List.eq_nil_iff_forall_not_mem.mpr fun task hin => ?_
        obtain ⟨visit, hvisit, -⟩ := h.removed task hin nofun
        cases hvisit
      · intro h
        rw [h]
        exact ⟨List.nodup_nil, nofun, nofun⟩
    · exact loop_fair_iff (tasks_nodup m_toSync)

/-- The loop over the SFLOW table handles the task that the iterator is at. -/
theorem coppProcessSflow_fair (m_toSync : SyncMap) (enable_sflow_trap : Bool) :
    Fair coppAction (fun enable task => (enable || enablesSflow task, .task_success))
      m_toSync.tasks (CoppOrch.coppProcessSflow m_toSync enable_sflow_trap) := by
  have hvisit : ∀ task ∈ m_toSync.tasks, (⟨task, .task_success⟩ : Visit) ∈
      (CoppOrch.coppProcessSflow m_toSync enable_sflow_trap).visits :=
    fun task hin => List.mem_map.mpr ⟨task, hin, rfl⟩
  refine ⟨?_, fun task hin _ => ⟨_, hvisit task hin, rfl, .inl rfl⟩,
    fun task hin _ => ⟨_, hvisit task hin, rfl, rfl⟩⟩
  show ((m_toSync.tasks.map fun task => (⟨task, .task_success⟩ : Visit)).map Visit.handled).Nodup
  rw [List.map_map]
  show (m_toSync.tasks.map id).Nodup
  rw [List.map_id]
  exact tasks_nodup m_toSync

/-- A handler that has a scheduler wait for what it refers to, and takes another one. -/
def waitForFirst (orch : Unit) (task : KeyOpFieldsValuesTuple) : Unit × Result :=
  (orch, if task.kfvKey = "a" then .task_need_retry else .task_success)

def twoTasks : SyncMap :=
  (SyncMap.empty.put ⟨"a", SET_COMMAND, []⟩).put ⟨"b", SET_COMMAND, []⟩

end Orchagent.TaskLoop
