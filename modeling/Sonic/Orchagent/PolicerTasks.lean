/-
Orchagent/PolicerTasks.lean

When the loop over the policer tasks conserves them.

A pass conserves the tasks (`Conserved`) exactly if every task is a SET or a DEL, every SET can
be read, every SET of a new policer has the mandatory fields, and the ASIC refuses no attribute
of an update (`doTask_conserved_iff`).  The proof takes the loop one task at a time: a task
that meets the condition leaves the question to the rest, and any other one loses a task, or
the pass.
-/
import Sonic.Orchagent.PolicerOrch

namespace Orchagent.Policer

open Std (ExtTreeMap)
open Swss
open Copp (sai_object_id_t)

/-- The policer is updated, created or removed, or the task was found invalid. -/
def Finished (visits : List Visit) (task : KeyOpFieldsValuesTuple) : Prop :=
  ∃ visit ∈ visits, visit.task = task ∧
    (visit.verdict = .completed ∨ visit.verdict = .invalid)

/-- What is asked of the calls for one task. -/
structure Visit.Sound (visit : Visit) : Prop where
  /-- what is completed has no failed call -/
  completed : visit.verdict = .completed → ∀ call ∈ visit.calls, call.ok = true
  /-- a created policer has the mandatory fields -/
  mandatory : ∀ attrs, .create attrs true ∈ visit.calls → Named .METER_TYPE attrs ∧ Named .MODE attrs

/-- The pass over `tasks` ends with those in the queue that are not finished, after the tasks
`kept` before it. -/
structure Conserves (kept tasks : List KeyOpFieldsValuesTuple) (o : Outcome) : Prop where
  exists_done : ∃ queue orch visits, o = .done (kept ++ queue) orch visits ∧
    queue.Sublist tasks ∧ (∀ task ∈ tasks, task ∈ queue ↔ ¬ Finished visits task) ∧
    (∀ visit ∈ visits, visit.Sound) ∧
    ∀ visit ∈ visits, (∃ call ∈ visit.calls, call.ok = false) → visit.task ∈ queue

/-- **The tasks are conserved**: the pass ends, erases exactly the tasks that are completed or
invalid, keeps every task with a failed call, and creates no policer that misses a mandatory
field. -/
def Conserved (m_toSync : SyncMap) (o : Outcome) : Prop := Conserves [] m_toSync.tasks o

/-- The tasks that are handled rightly: SETs that can be read, name the mandatory fields if the
policer is new, and are not refused by the ASIC if it is not; and DELs. -/
def Good (sai : Sai) (orch : PolicerOrch) (task : KeyOpFieldsValuesTuple) : Prop :=
  if task.kfvOp = SET_COMMAND then
    ∃ attrs, readFields task.kfvFieldsValues = some attrs ∧
      if task.kfvKey ∈ orch.m_syncdPolicers then
        ∀ i < (rates attrs).length, sai.set_policer_attribute task.kfvKey i = true
      else Named .METER_TYPE attrs ∧ Named .MODE attrs
  else task.kfvOp = DEL_COMMAND

variable {sai : Sai} {orch o' : PolicerOrch} {task it : KeyOpFieldsValuesTuple}
  {kept rest queue : List KeyOpFieldsValuesTuple} {visits : List Visit} {visit : Visit}
  {skip : Option ℕ} {attrs : List Attr}

/-! ### What the loop leaves -/

theorem handle_task {move : Move} (h : handle sai orch it = .next o' visit move) :
    visit.task = it := by
  unfold handle at h
  by_cases hset : it.kfvOp = SET_COMMAND
  · rw [if_pos hset] at h
    cases hread : readFields it.kfvFieldsValues with
    | none =>
      rw [hread] at h
      cases h
    | some attrs =>
      rw [hread] at h
      simp only at h
      split_ifs at h
      · obtain ⟨-, rfl, -⟩ := Turn.next.inj h
        rfl
      · unfold create at h
        simp only at h
        split at h <;> obtain ⟨-, rfl, -⟩ := Turn.next.inj h <;> rfl
  · rw [if_neg hset] at h
    split_ifs at h
    unfold remove at h
    simp only at h
    split_ifs at h <;> obtain ⟨-, rfl, -⟩ := Turn.next.inj h <;> rfl

theorem after_eq_done {o : Outcome} (h : o.after visit = .done queue o' visits) :
    ∃ rest, visits = visit :: rest ∧ o = .done queue o' rest := by
  cases o with
  | done m_toSync orch vs =>
    obtain ⟨rfl, rfl, rfl⟩ := Outcome.done.inj h
    exact ⟨vs, rfl, rfl⟩
  | thrown => cases h
  | pastEnd => cases h
  | endless => cases h

/-- What one turn of the loop leaves to the rest. -/
theorem loop_cons (h : loop sai kept none (it :: rest) orch = .done queue o' visits) :
    ∃ orch' visit vs kept' skip, visits = visit :: vs ∧ visit.task = it ∧
      (kept' = kept ∨ kept' = kept ++ [it]) ∧
      loop sai kept' skip rest orch' = .done queue o' vs := by
  rw [loop] at h
  split at h
  · cases h
  · cases h
  · rename_i orch' visit hturn
    obtain ⟨vs, hvs, hloop⟩ := after_eq_done h
    exact ⟨orch', visit, vs, _, _, hvs, handle_task hturn, Or.inr rfl, hloop⟩
  · rename_i orch' visit hturn
    obtain ⟨vs, hvs, hloop⟩ := after_eq_done h
    exact ⟨orch', visit, vs, _, _, hvs, handle_task hturn, Or.inl rfl, hloop⟩
  · rename_i orch' visit n hturn
    obtain ⟨vs, hvs, hloop⟩ := after_eq_done h
    exact ⟨orch', visit, vs, _, _, hvs, handle_task hturn, Or.inr rfl, hloop⟩

/-- The visits of a pass are of its tasks, and its queue is the kept tasks and some of its own. -/
theorem loop_done (h : loop sai kept skip rest orch = .done queue o' visits) :
    (∃ own, queue = kept ++ own ∧ own.Sublist rest) ∧ ∀ visit ∈ visits, visit.task ∈ rest := by
  induction rest generalizing kept skip orch visits with
  | nil =>
    cases skip with
    | none =>
      obtain ⟨rfl, -, rfl⟩ := Outcome.done.inj h
      exact ⟨⟨[], (List.append_nil _).symm, List.Sublist.refl _⟩, nofun⟩
    | some n => cases h
  | cons it rest ih =>
    -- a task that is kept goes to the front of the queue
    have hkeep : ∀ {kept' vs}, (∃ own, queue = kept' ++ own ∧ own.Sublist rest) →
        (kept' = kept ∨ kept' = kept ++ [it]) → (∀ visit ∈ vs, visit.task ∈ rest) →
        (∃ own, queue = kept ++ own ∧ own.Sublist (it :: rest)) ∧
          ∀ visit ∈ (vs : List Visit), visit.task ∈ it :: rest := by
      rintro kept' vs ⟨own, rfl, hsub⟩ hkept' hvs
      refine ⟨?_, fun visit hvisit => List.mem_cons_of_mem _ (hvs visit hvisit)⟩
      rcases hkept' with rfl | rfl
      · exact ⟨own, rfl, hsub.cons it⟩
      · exact ⟨it :: own, List.append_assoc _ _ _, hsub.cons_cons it⟩
    rcases skip with - | - | n
    · obtain ⟨orch', visit, vs, kept', skip', rfl, htask, hkept', hloop⟩ := loop_cons h
      obtain ⟨hqueue, hvs⟩ := ih hloop
      obtain ⟨hown, hvs⟩ := hkeep hqueue hkept' hvs
      refine ⟨hown, fun v hv => ?_⟩
      rcases List.mem_cons.mp hv with rfl | hv
      · rw [htask]
        exact List.mem_cons_self
      · exact hvs v hv
    · obtain ⟨hqueue, hvs⟩ := ih (h : loop sai kept none rest orch = _)
      exact hkeep hqueue (Or.inl rfl) hvs
    · obtain ⟨hqueue, hvs⟩ := ih (h : loop sai (kept ++ [it]) (some n) rest orch = _)
      exact hkeep hqueue (Or.inr rfl) hvs

/-- **On its way to a task that is erased the loop loses one**, or the pass. -/
theorem loop_skip {n : ℕ} (h : loop sai kept (some n) rest orch = .done queue o' visits)
    (hnodup : (kept ++ rest).Nodup) :
    ∃ lost ∈ rest, lost ∉ queue ∧ ∀ visit ∈ visits, visit.task ≠ lost := by
  induction rest generalizing kept n with
  | nil => cases h
  | cons it rest ih =>
    cases n with
    | zero =>
      have hloop : loop sai kept none rest orch = .done queue o' visits := h
      obtain ⟨⟨own, rfl, hsub⟩, hvs⟩ := loop_done hloop
      have hnot : it ∉ rest := (List.nodup_cons.mp hnodup.of_append_right).1
      refine ⟨it, List.mem_cons_self, ?_, fun visit hvisit heq => hnot (heq ▸ hvs visit hvisit)⟩
      rw [List.mem_append]
      rintro (hkept | hown)
      · exact List.disjoint_of_nodup_append hnodup hkept List.mem_cons_self
      · exact hnot (hsub.subset hown)
    | succ n =>
      have hloop : loop sai (kept ++ [it]) (some n) rest orch = .done queue o' visits := h
      obtain ⟨lost, hlost, hrest⟩ := ih hloop (by rwa [List.append_assoc])
      exact ⟨lost, List.mem_cons_of_mem _ hlost, hrest⟩

/-! ### One turn -/

theorem handle_set (h : it.kfvOp = SET_COMMAND) (hread : readFields it.kfvFieldsValues = some attrs) :
    handle sai orch it = if it.kfvKey ∈ orch.m_syncdPolicers then update sai orch it attrs
      else create sai orch it attrs := by
  rw [handle, if_pos h, hread]

/-- No refused attribute is no failed call. -/
theorem setCalls_ok_iff {key : String} : (∀ call ∈ setCalls sai key attrs, call.ok = true) ↔
    ∀ i < (rates attrs).length, sai.set_policer_attribute key i = true := by
  unfold setCalls
  constructor
  · intro h i hi
    exact h (.set (rates attrs)[i] (sai.set_policer_attribute key i))
      (List.mem_mapIdx.mpr ⟨i, hi, rfl⟩)
  · intro h call hcall
    obtain ⟨i, hi, rfl⟩ := List.mem_mapIdx.mp hcall
    exact h i hi

theorem failures_eq_zero_iff {calls : List Call} :
    calls.countP (fun call => call.ok = false) = 0 ↔ ∀ call ∈ calls, call.ok = true := by
  rw [List.countP_eq_zero]
  exact forall₂_congr fun call _ => by cases call.ok <;> decide

/-- The turn of a task that is handled rightly: it is erased as completed or invalid, or kept as
failed or referenced. -/
theorem turn_of_good (h : Good sai orch it) : ∃ orch' visit, visit.Sound ∧
    (handle sai orch it = .next orch' visit (.eraseAfter 0) ∧
        (visit.verdict = .completed ∨ visit.verdict = .invalid) ∧
        (∀ call ∈ visit.calls, call.ok = true) ∨
      handle sai orch it = .next orch' visit .keep ∧
        ¬ (visit.verdict = .completed ∨ visit.verdict = .invalid)) ∧
    ∀ key ≠ it.kfvKey, key ∈ orch'.m_syncdPolicers ↔ key ∈ orch.m_syncdPolicers := by
  unfold Good at h
  by_cases hset : it.kfvOp = SET_COMMAND
  · rw [if_pos hset] at h
    obtain ⟨attrs, hread, h⟩ := h
    rw [handle_set hset hread]
    by_cases hexists : it.kfvKey ∈ orch.m_syncdPolicers
    · -- an update without a refused attribute
      rw [if_pos hexists] at h ⊢
      have hok : ∀ call ∈ setCalls sai it.kfvKey attrs, call.ok = true := setCalls_ok_iff.mpr h
      have hzero := failures_eq_zero_iff.mpr hok
      refine ⟨orch, ⟨it, .completed, setCalls sai it.kfvKey attrs⟩, ⟨fun _ => hok, ?_⟩,
        Or.inl ⟨?_, Or.inl rfl, hok⟩, fun key _ => Iff.rfl⟩
      · intro attrs' hmem
        obtain ⟨i, hi, heq⟩ := List.mem_mapIdx.mp hmem
        cases heq
      · rw [update]
        simp only [hzero]
        rfl
    · rw [if_neg hexists] at h ⊢
      have hnamed : (decide (Named .METER_TYPE attrs ∧ Named .MODE attrs)) = true :=
        decide_eq_true h
      unfold create
      simp only [hnamed]
      cases hcreate : sai.create_policer it.kfvKey with
      | none =>
        refine ⟨orch, ⟨it, .failed, [.create attrs false]⟩, ⟨nofun, ?_⟩,
          Or.inr ⟨rfl, nofun⟩, fun key _ => Iff.rfl⟩
        intro attrs' hmem
        cases List.mem_singleton.mp hmem
      | some policer_id =>
        refine ⟨_, ⟨it, .completed, [.create attrs true]⟩, ⟨?_, ?_⟩,
          Or.inl ⟨rfl, Or.inl rfl, ?_⟩, ?_⟩
        · intro _ call hcall
          rw [List.mem_singleton.mp hcall]
          rfl
        · intro attrs' hmem
          cases List.mem_singleton.mp hmem
          exact h
        · intro call hcall
          rw [List.mem_singleton.mp hcall]
          rfl
        · intro key hne
          rw [ExtTreeMap.mem_insert]
          exact or_iff_right fun heq => hne (Std.compare_eq_iff_eq.mp heq).symm
  · rw [if_neg hset] at h
    rw [handle, if_neg hset, if_pos h]
    unfold remove
    simp only
    by_cases hexists : it.kfvKey ∉ orch.m_syncdPolicers
    · rw [if_pos hexists]
      exact ⟨orch, ⟨it, .invalid, []⟩, ⟨nofun, nofun⟩, Or.inl ⟨rfl, Or.inr rfl, nofun⟩,
        fun key _ => Iff.rfl⟩
    · rw [if_neg hexists]
      split_ifs
      · exact ⟨orch, ⟨it, .referenced, []⟩, ⟨nofun, nofun⟩, Or.inr ⟨rfl, nofun⟩,
          fun key _ => Iff.rfl⟩
      · refine ⟨_, ⟨it, .completed, [.remove true]⟩, ⟨?_, ?_⟩, Or.inl ⟨rfl, Or.inl rfl, ?_⟩, ?_⟩
        · intro _ call hcall
          rw [List.mem_singleton.mp hcall]
          rfl
        · intro attrs' hmem
          cases List.mem_singleton.mp hmem
        · intro call hcall
          rw [List.mem_singleton.mp hcall]
          rfl
        · intro key hne
          rw [ExtTreeMap.mem_erase]
          exact and_iff_right fun heq => hne (Std.compare_eq_iff_eq.mp heq).symm
      · refine ⟨orch, ⟨it, .failed, [.remove false]⟩, ⟨nofun, ?_⟩, Or.inr ⟨rfl, nofun⟩,
          fun key _ => Iff.rfl⟩
        intro attrs' hmem
        cases List.mem_singleton.mp hmem

/-- The turn of any other task. -/
theorem turn_of_not_good (h : ¬ Good sai orch it) :
    handle sai orch it = .exception ∨ handle sai orch it = .stay ∨
      ∃ orch' visit move, handle sai orch it = .next orch' visit move ∧
        ((∃ n, move = .eraseAfter (n + 1)) ∨ (move = .keep ∧ visit.verdict = .invalid) ∨
          ¬ visit.Sound) := by
  unfold Good at h
  by_cases hset : it.kfvOp = SET_COMMAND
  · rw [if_pos hset] at h
    cases hread : readFields it.kfvFieldsValues with
    | none =>
      left
      rw [handle, if_pos hset, hread]
    | some attrs =>
      right; right
      have h : ¬ _ := fun hgood => h ⟨attrs, hread, hgood⟩
      rw [handle_set hset hread]
      by_cases hexists : it.kfvKey ∈ orch.m_syncdPolicers
      · rw [if_pos hexists] at h ⊢
        refine ⟨_, _, _, rfl, Or.inl ?_⟩
        have hne : (setCalls sai it.kfvKey attrs).countP (fun call => call.ok = false) ≠ 0 :=
          fun hzero => h (setCalls_ok_iff.mp (failures_eq_zero_iff.mp hzero))
        obtain ⟨n, hn⟩ := Nat.exists_eq_succ_of_ne_zero hne
        exact ⟨n, congrArg Move.eraseAfter hn⟩
      · rw [if_neg hexists] at h ⊢
        have hnamed : (decide (Named .METER_TYPE attrs ∧ Named .MODE attrs)) = false :=
          decide_eq_false h
        unfold create
        simp only [hnamed]
        cases hcreate : sai.create_policer it.kfvKey with
        | none => exact ⟨_, _, _, rfl, Or.inr (Or.inl ⟨rfl, rfl⟩)⟩
        | some policer_id =>
          refine ⟨_, _, _, rfl, Or.inr (Or.inr fun hsound => h ?_)⟩
          exact hsound.mandatory attrs List.mem_cons_self
  · rw [if_neg hset] at h
    right; left
    rw [handle, if_neg hset, if_neg h]

/-! ### The loop, one task at a time -/

theorem finished_cons {task : KeyOpFieldsValuesTuple} : Finished (visit :: visits) task ↔
    (visit.task = task ∧ (visit.verdict = .completed ∨ visit.verdict = .invalid)) ∨
      Finished visits task := by
  unfold Finished
  simp only [List.mem_cons, or_and_right, exists_or, exists_eq_left]

/-- A task that is finished and erased leaves the question to the rest. -/
theorem conserves_erase {o : Outcome} (hnot : it ∉ rest) (htask : visit.task = it)
    (hsound : visit.Sound) (hok : ∀ call ∈ visit.calls, call.ok = true)
    (hverdict : visit.verdict = .completed ∨ visit.verdict = .invalid)
    (hvisits : ∀ {queue orch vs}, o = .done queue orch vs → ∀ v ∈ vs, v.task ∈ rest) :
    Conserves kept (it :: rest) (o.after visit) ↔ Conserves kept rest o := by
  constructor
  · rintro ⟨queue, orch, visits, hdone, hsub, hqueue, hsounds, hfailed⟩
    obtain ⟨vs, rfl, rfl⟩ := after_eq_done hdone
    have hitOut : it ∉ queue := fun hin =>
      (hqueue it List.mem_cons_self).mp hin (finished_cons.mpr (Or.inl ⟨htask, hverdict⟩))
    refine ⟨queue, orch, vs, rfl, ?_, ?_, ?_, ?_⟩
    · cases hsub with
      | cons _ hsub => exact hsub
      | cons_cons _ hsub => exact absurd List.mem_cons_self hitOut
    · intro task htaskIn
      rw [hqueue task (List.mem_cons_of_mem _ htaskIn), finished_cons,
        or_iff_right fun h => hnot (by rw [← htask, h.1]; exact htaskIn)]
    · exact fun v hv => hsounds v (List.mem_cons_of_mem _ hv)
    · exact fun v hv => hfailed v (List.mem_cons_of_mem _ hv)
  · rintro ⟨queue, orch, vs, rfl, hsub, hqueue, hsounds, hfailed⟩
    refine ⟨queue, orch, visit :: vs, rfl, hsub.cons it, ?_, ?_, ?_⟩
    · intro task htaskIn
      rw [finished_cons]
      rcases List.mem_cons.mp htaskIn with rfl | htaskIn
      · exact iff_of_false (fun hin => hnot (hsub.subset hin))
          (not_not.mpr (Or.inl ⟨htask, hverdict⟩))
      · rw [hqueue task htaskIn,
          or_iff_right fun h => hnot (by rw [← htask, h.1]; exact htaskIn)]
    · intro v hv
      rcases List.mem_cons.mp hv with rfl | hv
      · exact hsound
      · exact hsounds v hv
    · rintro v hv ⟨call, hcall, hfalse⟩
      rcases List.mem_cons.mp hv with rfl | hv
      · exact absurd (hok call hcall) (ne_true_of_eq_false hfalse)
      · exact hfailed v hv ⟨call, hcall, hfalse⟩

/-- A task that is kept leaves the question to the rest. -/
theorem conserves_keep {o : Outcome} (hnot : it ∉ rest) (htask : visit.task = it)
    (hsound : visit.Sound)
    (hverdict : ¬ (visit.verdict = .completed ∨ visit.verdict = .invalid))
    (hdone : ∀ {queue orch vs}, o = .done queue orch vs →
      (∃ own, queue = kept ++ [it] ++ own ∧ own.Sublist rest) ∧ ∀ v ∈ vs, v.task ∈ rest) :
    Conserves kept (it :: rest) (o.after visit) ↔ Conserves (kept ++ [it]) rest o := by
  constructor
  · rintro ⟨queue, orch, visits, heq, hsub, hqueue, hsounds, hfailed⟩
    obtain ⟨vs, rfl, rfl⟩ := after_eq_done heq
    obtain ⟨⟨own, hown, hownSub⟩, hvs⟩ := hdone rfl
    obtain rfl : queue = it :: own := by
      rw [List.append_assoc] at hown
      exact List.append_cancel_left hown
    refine ⟨own, orch, vs, ?_, hownSub, ?_, ?_, ?_⟩
    · rw [List.append_assoc]
      rfl
    · intro task htaskIn
      have hne : task ≠ it := fun h => hnot (h ▸ htaskIn)
      have h := hqueue task (List.mem_cons_of_mem _ htaskIn)
      rwa [List.mem_cons, or_iff_right hne, finished_cons,
        or_iff_right fun hf => hverdict hf.2] at h
    · exact fun v hv => hsounds v (List.mem_cons_of_mem _ hv)
    · intro v hv hcall
      have h := hfailed v (List.mem_cons_of_mem _ hv) hcall
      exact (List.mem_cons.mp h).resolve_left fun heq => hnot (heq ▸ hvs v hv)
  · rintro ⟨queue, orch, vs, rfl, hsub, hqueue, hsounds, hfailed⟩
    obtain ⟨-, hvs⟩ := hdone rfl
    refine ⟨it :: queue, orch, visit :: vs, ?_, hsub.cons_cons it, ?_, ?_, ?_⟩
    · rw [List.append_assoc]
      rfl
    · intro task htaskIn
      rw [finished_cons, or_iff_right fun hf => hverdict hf.2]
      rcases List.mem_cons.mp htaskIn with rfl | htaskIn
      · refine iff_of_true List.mem_cons_self ?_
        rintro ⟨v, hv, heq, -⟩
        exact hnot (heq ▸ hvs v hv)
      · have hne : task ≠ it := fun h => hnot (h ▸ htaskIn)
        rw [List.mem_cons, or_iff_right hne]
        exact hqueue task htaskIn
    · intro v hv
      rcases List.mem_cons.mp hv with rfl | hv
      · exact hsound
      · exact hsounds v hv
    · intro v hv hcall
      rcases List.mem_cons.mp hv with rfl | hv
      · rw [htask]
        exact List.mem_cons_self
      · exact List.mem_cons_of_mem _ (hfailed v hv hcall)

/-- Whether a task is handled rightly is decided by its own policer. -/
theorem good_congr (h : it.kfvKey ∈ o'.m_syncdPolicers ↔ it.kfvKey ∈ orch.m_syncdPolicers) :
    Good sai o' it ↔ Good sai orch it := by
  unfold Good
  simp only [h]

/-- A task that is not handled rightly loses a task, or the pass. -/
theorem not_conserves_of_not_good (h : ¬ Good sai orch it) (hnodup : (kept ++ it :: rest).Nodup) :
    ¬ Conserves kept (it :: rest) (loop sai kept none (it :: rest) orch) := by
  rintro ⟨queue, o', visits, hdone, hsub, hqueue, hsounds, -⟩
  rw [loop] at hdone
  rcases turn_of_not_good h with hturn | hturn | ⟨orch', visit, move, hturn, hcases⟩
  · rw [hturn] at hdone
    cases hdone
  · rw [hturn] at hdone
    cases hdone
  · rw [hturn] at hdone
    have htask := handle_task hturn
    rcases hcases with ⟨n, rfl⟩ | ⟨rfl, hverdict⟩ | hsound
    · -- the task that is erased was not handled
      obtain ⟨vs, rfl, hloop⟩ := after_eq_done hdone
      obtain ⟨lost, hlost, hout, hvs⟩ := loop_skip hloop (by rwa [List.append_assoc])
      have hne : visit.task ≠ lost := by
        rw [htask]
        rintro rfl
        exact (List.nodup_cons.mp hnodup.of_append_right).1 hlost
      apply hout
      refine List.mem_append_right _ ((hqueue lost (List.mem_cons_of_mem _ hlost)).mpr ?_)
      rintro ⟨v, hv, heq, -⟩
      rcases List.mem_cons.mp hv with rfl | hv
      · exact hne heq
      · exact hvs v hv heq
    · -- an invalid task is kept
      obtain ⟨vs, rfl, hloop⟩ := after_eq_done hdone
      obtain ⟨⟨own, hown, -⟩, -⟩ := loop_done hloop
      rw [List.append_assoc] at hown
      have hin : it ∈ queue := by
        rw [List.append_cancel_left hown]
        exact List.mem_append_left _ (List.mem_singleton_self it)
      exact (hqueue it List.mem_cons_self).mp hin
        ⟨visit, List.mem_cons_self, htask, Or.inr hverdict⟩
    · -- a policer without its mandatory fields is created
      have hmem : visit ∈ visits := by
        cases move with
        | keep =>
          obtain ⟨vs, rfl, -⟩ := after_eq_done hdone
          exact List.mem_cons_self
        | eraseAfter n =>
          cases n with
          | zero =>
            obtain ⟨vs, rfl, -⟩ := after_eq_done hdone
            exact List.mem_cons_self
          | succ n =>
            obtain ⟨vs, rfl, -⟩ := after_eq_done hdone
            exact List.mem_cons_self
      exact hsound (hsounds visit hmem)

/-- **The loop conserves its tasks exactly if all of them are handled rightly.** -/
theorem loop_conserves_iff (hkeys : (rest.map (·.kfvKey)).Nodup) (hnodup : (kept ++ rest).Nodup) :
    Conserves kept rest (loop sai kept none rest orch) ↔ ∀ task ∈ rest, Good sai orch task := by
  induction rest generalizing kept orch with
  | nil =>
    refine iff_of_true ⟨[], orch, [], ?_, List.Sublist.refl _, nofun, nofun, nofun⟩ nofun
    rw [List.append_nil]
    rfl
  | cons it rest ih =>
    by_cases hgood : Good sai orch it
    · obtain ⟨hkeyOut, hkeysRest⟩ := List.nodup_cons.mp hkeys
      have hnot : it ∉ rest := fun hin => hkeyOut (List.mem_map_of_mem (f := (·.kfvKey)) hin)
      obtain ⟨orch', visit, hsound, hturn, hothers⟩ := turn_of_good hgood
      -- the tasks behind it are as good as before
      have hrest : (∀ task ∈ rest, Good sai orch' task) ↔ ∀ task ∈ it :: rest, Good sai orch task := by
        rw [List.forall_mem_cons, and_iff_right hgood]
        refine forall₂_congr fun task htask => good_congr (hothers _ ?_)
        intro heq
        exact hkeyOut (List.mem_map.mpr ⟨task, htask, heq⟩)
      rw [← hrest]
      rcases hturn with ⟨hhandle, hverdict, hok⟩ | ⟨hhandle, hverdict⟩
      · have hstep : loop sai kept none (it :: rest) orch =
            (loop sai kept none rest orch').after visit := by
          rw [loop, hhandle]
        rw [hstep, conserves_erase hnot (handle_task hhandle) hsound hok hverdict
          fun h => (loop_done h).2]
        exact ih hkeysRest (hnodup.sublist ((List.sublist_cons_self it rest).append_left kept))
      · have hstep : loop sai kept none (it :: rest) orch =
            (loop sai (kept ++ [it]) none rest orch').after visit := by
          rw [loop, hhandle]
        rw [hstep, conserves_keep hnot (handle_task hhandle) hsound hverdict loop_done]
        exact ih hkeysRest (by rwa [List.append_assoc])
    · exact iff_of_false (not_conserves_of_not_good hgood hnodup)
        fun hall => hgood (hall it List.mem_cons_self)

/-- **The tasks are conserved exactly if every one of them is handled rightly**, or the ports are
not ready. -/
theorem doTask_conserved_iff (allPortsReady : Bool) (sai : Sai) (m_toSync : SyncMap)
    (orch : PolicerOrch) :
    Conserved m_toSync (doTask allPortsReady sai m_toSync orch) ↔
      (allPortsReady = true → ∀ task ∈ m_toSync.tasks, Good sai orch task) := by
  have hnodup : m_toSync.tasks.Nodup := m_toSync.keys_nodup.of_map
  unfold doTask
  cases allPortsReady with
  | false =>
    refine iff_of_true ?_ nofun
    refine ⟨m_toSync.tasks, orch, [], rfl, List.Sublist.refl _, ?_, nofun, nofun⟩
    exact fun task htask => iff_of_true htask nofun
  | true =>
    rw [if_neg (by decide), Conserved, loop_conserves_iff m_toSync.keys_nodup hnodup]
    exact ⟨fun h _ => h, fun h => h rfl⟩

/-! ### A task that is lost -/

/-- Two updates of policers. -/
def twoUpdates : SyncMap :=
  (SyncMap.empty.put ⟨"a", SET_COMMAND, [("cir", "1")]⟩).put ⟨"b", SET_COMMAND, [("cir", "2")]⟩

/-- Two policers. -/
def twoPolicers : PolicerOrch :=
  ⟨(∅ : ExtTreeMap String sai_object_id_t).insert "a" 1 |>.insert "b" 2, ∅⟩

/-- The ASIC refuses to set an attribute of the first policer. -/
def refuseFirst : Sai := ⟨fun _ => none, fun key _ => key ≠ "a", fun _ => true⟩

/-- **The task of the second policer is erased, and was not handled.** -/
theorem not_doTask_conserved :
    ¬ ∀ (allPortsReady : Bool) (sai : Sai) (m_toSync : SyncMap) (orch : PolicerOrch),
      Conserved m_toSync (doTask allPortsReady sai m_toSync orch) := by
  intro hall
  obtain ⟨queue, o', visits, hdone, -, hqueue, -⟩ := hall true refuseFirst twoUpdates twoPolicers
  have hrun : doTask true refuseFirst twoUpdates twoPolicers =
      .done [⟨"a", SET_COMMAND, [("cir", "1")]⟩] twoPolicers
        [⟨⟨"a", SET_COMMAND, [("cir", "1")]⟩, .failed, [.set ⟨.CIR, .u64 1⟩ false]⟩] := by
    rfl
  obtain ⟨hqueueEq, rfl, rfl⟩ := Outcome.done.inj (hrun.symm.trans hdone)
  have hin := (hqueue ⟨"b", SET_COMMAND, [("cir", "2")]⟩ (by decide)).mpr (by
    rintro ⟨visit, hvisit, heq, -⟩
    rw [List.mem_singleton.mp hvisit] at heq
    exact absurd (congrArg KeyOpFieldsValuesTuple.kfvKey heq) (by decide))
  rw [List.nil_append] at hqueueEq
  rw [← hqueueEq] at hin
  exact absurd (congrArg KeyOpFieldsValuesTuple.kfvKey (List.mem_singleton.mp hin)) (by decide)

end Orchagent.Policer
