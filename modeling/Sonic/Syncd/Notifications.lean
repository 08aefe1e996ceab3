/-
Syncd/Notifications.lean

The queue of notifications of syncd, and the thread that processes them.

The threads of the vendor push to the queue and then notify; the processing thread waits,
and takes from the queue until it is empty.  It waits without a look at the queue, and the
lock it waits with is not the lock of the queue.  So a notify between its last failing
`tryDequeue` and its wait wakes nobody (`not_notification_stranded`).  As long as no notify
is lost so (`NotifyHeard`), the thread is at work or to be woken while the queue is not
empty, and the queue drains without another push (`notification_not_stranded`).
-/
import Sonic.Lib.Transition

namespace Syncd

open Transition (Run Guarded)

/-- `KeyOpFieldsValuesTuple` of a notification. -/
structure Notification where
  op : String
  data : String
  entry : List (String × String)
  deriving DecidableEq

/-- `limit` of `ntf_queue_t`. -/
def limit : ℕ := 300000

/-- How far a call of `enqueue_notification` is. -/
inductive Call where
  /-- before `queueStats() < limit` -/
  | checking (item : Notification)
  /-- before `ntf_queue.push` -/
  | pushing (item : Notification)
  /-- before `cv.notify_all` -/
  | notifying
  deriving DecidableEq

/-- Where `ntf_process_function` is in its loop. -/
inductive Thread where
  /-- before `cv.wait` -/
  | beforeWait
  /-- in `cv.wait`, not notified -/
  | waiting
  /-- in `cv.wait`, notified -/
  | notified
  /-- before `tryDequeue` -/
  | dequeuing
  /-- in `processNotification` -/
  | processing (item : Notification)
  deriving DecidableEq

structure St where
  ntf_queue : List Notification
  calls : List Call
  thread : Thread
  /-- the notifications that were pushed, and those that were processed -/
  accepted : List Notification
  processed : List Notification

/-- No notification yet, and the thread is started. -/
def init : St := ⟨[], [], .beforeWait, [], []⟩

/-- `notify_all` wakes the thread if it waits. -/
def Thread.notify : Thread → Thread
  | .waiting => .notified
  | thread => thread

inductive Action where
  | call (item : Notification) | check | push | notify
  | wait | wake | spurious | dequeue | process
  deriving DecidableEq

/-- An action of one of the threads; a call in progress may be any of the calls. -/
inductive Step : St → Action → St → Prop
  | call {s : St} (item : Notification) :
      Step s (.call item) { s with calls := .checking item :: s.calls }
  | accept {s : St} {item : Notification} {before after : List Call}
      (hcalls : s.calls = before ++ .checking item :: after)
      (hroom : s.ntf_queue.length < limit ∨ item.op ≠ "fdb_event") :
      Step s .check { s with calls := before ++ .pushing item :: after }
  | drop {s : St} {item : Notification} {before after : List Call}
      (hcalls : s.calls = before ++ .checking item :: after)
      (hroom : ¬ (s.ntf_queue.length < limit ∨ item.op ≠ "fdb_event")) :
      Step s .check { s with calls := before ++ after }
  | push {s : St} {item : Notification} {before after : List Call}
      (hcalls : s.calls = before ++ .pushing item :: after) :
      Step s .push { s with
        ntf_queue := s.ntf_queue ++ [item]
        accepted := s.accepted ++ [item]
        calls := before ++ .notifying :: after }
  | notify {s : St} {before after : List Call}
      (hcalls : s.calls = before ++ .notifying :: after) :
      Step s .notify { s with calls := before ++ after, thread := s.thread.notify }
  | wait {s : St} (hthread : s.thread = .beforeWait) :
      Step s .wait { s with thread := .waiting }
  | wake {s : St} (hthread : s.thread = .notified) :
      Step s .wake { s with thread := .dequeuing }
  | spurious {s : St} (hthread : s.thread = .waiting) :
      Step s .spurious { s with thread := .dequeuing }
  | take {s : St} {item : Notification} {rest : List Notification}
      (hthread : s.thread = .dequeuing) (hqueue : s.ntf_queue = item :: rest) :
      Step s .dequeue { s with ntf_queue := rest, thread := .processing item }
  | empty {s : St} (hthread : s.thread = .dequeuing) (hqueue : s.ntf_queue = []) :
      Step s .dequeue { s with thread := .beforeWait }
  | process {s : St} {item : Notification} (hthread : s.thread = .processing item) :
      Step s .process { s with processed := s.processed ++ [item], thread := .dequeuing }

variable {s t : St} {es : List Action} {e : Action}

/-! ### The order of the notifications -/

/-- The notification that is being processed. -/
def Thread.item : Thread → List Notification
  | .processing item => [item]
  | _ => []

theorem Thread.item_notify (thread : Thread) : thread.notify.item = thread.item := by
  cases thread <;> rfl

/-- What was accepted is processed, in process or in the queue, in this order. -/
def InOrder (s : St) : Prop := s.accepted = s.processed ++ s.thread.item ++ s.ntf_queue

theorem inOrder_step (h : InOrder s) (hstep : Step s e t) : InOrder t := by
  unfold InOrder at h ⊢
  cases hstep with
  | call item => exact h
  | accept hcalls hroom => exact h
  | drop hcalls hroom => exact h
  | push hcalls =>
    show s.accepted ++ _ = _
    rw [h, List.append_assoc]
  | notify hcalls =>
    show s.accepted = s.processed ++ s.thread.notify.item ++ s.ntf_queue
    rw [Thread.item_notify]
    exact h
  | wait hthread =>
    rw [hthread] at h
    exact h
  | wake hthread =>
    rw [hthread] at h
    exact h
  | spurious hthread =>
    rw [hthread] at h
    exact h
  | take hthread hqueue =>
    rw [hthread, hqueue] at h
    show s.accepted = _
    rw [h]
    simp [Thread.item]
  | empty hthread hqueue =>
    rw [hthread] at h
    exact h
  | process hthread =>
    rw [hthread] at h
    show s.accepted = _
    rw [h]
    simp [Thread.item]

/-! ### Wake-ups -/

/-- The thread drains the queue. -/
def Thread.Draining : Thread → Prop
  | .dequeuing => True
  | .processing _ => True
  | _ => False

/-- A wake-up is pending: the thread is notified, or a call will notify it. -/
def WakeupPending (s : St) : Prop := s.thread = .notified ∨ .notifying ∈ s.calls

/-- While the queue is not empty, the thread drains it or is to be woken. -/
def NotStranded (s : St) : Prop := s.ntf_queue ≠ [] → s.thread.Draining ∨ WakeupPending s

/-- A notify is heard: the thread is not between its last failing dequeue and its wait, or
there is nothing to be woken for, or another call will notify. -/
def NotifyHeard (s : St) : Action → Prop
  | .notify => s.thread = .beforeWait → s.ntf_queue = [] ∨ 2 ≤ s.calls.count .notifying
  | _ => True

/-- A call that goes on leaves the others pending. -/
theorem notifying_mem_replace {before after : List Call} {c : Call} (calls : List Call)
    (hcalls : calls = before ++ c :: after) (hc : c ≠ .notifying) (hmem : .notifying ∈ calls)
    (l : List Call) : .notifying ∈ before ++ (l ++ after) := by
  rw [hcalls] at hmem
  rcases List.mem_append.mp hmem with hbefore | hafter
  · exact List.mem_append_left _ hbefore
  · rcases List.mem_cons.mp hafter with heq | hafter
    · exact absurd heq.symm hc
    · exact List.mem_append_right _ (List.mem_append_right _ hafter)

/-- **Invariant step.**  Only a notify that is not heard strands a notification. -/
theorem notStranded_step (h : NotStranded s) (hheard : NotifyHeard s e) (hstep : Step s e t) :
    NotStranded t := by
  intro hqueue
  cases hstep with
  | call item =>
    rcases h hqueue with hdraining | hnotified | hcall
    · exact Or.inl hdraining
    · exact Or.inr (Or.inl hnotified)
    · exact Or.inr (Or.inr (List.mem_cons_of_mem _ hcall))
  | @accept item before after hcalls hroom =>
    rcases h hqueue with hdraining | hnotified | hcall
    · exact Or.inl hdraining
    · exact Or.inr (Or.inl hnotified)
    · refine Or.inr (Or.inr ?_)
      exact notifying_mem_replace s.calls hcalls (by rintro ⟨⟩) hcall [.pushing item]
  | @drop item before after hcalls hroom =>
    rcases h hqueue with hdraining | hnotified | hcall
    · exact Or.inl hdraining
    · exact Or.inr (Or.inl hnotified)
    · refine Or.inr (Or.inr ?_)
      exact notifying_mem_replace s.calls hcalls (by rintro ⟨⟩) hcall []
  | push hcalls =>
    -- the call that pushed will notify
    exact Or.inr (Or.inr (List.mem_append_right _ List.mem_cons_self))
  | @notify before after hcalls =>
    cases hthread : s.thread with
    | beforeWait =>
      rcases hheard hthread with hempty | hother
      · exact absurd hempty hqueue
      · refine Or.inr (Or.inr ?_)
        rw [hcalls, List.count_append, List.count_cons_self] at hother
        refine List.count_pos_iff.mp ?_
        rw [List.count_append]
        omega
    | waiting => exact Or.inr (Or.inl rfl)
    | notified => exact Or.inr (Or.inl rfl)
    | dequeuing => exact Or.inl trivial
    | processing item => exact Or.inl trivial
  | wait hthread =>
    rcases h hqueue with hdraining | hnotified | hcall
    · rw [hthread] at hdraining
      cases hdraining
    · rw [hthread] at hnotified
      cases hnotified
    · exact Or.inr (Or.inr hcall)
  | wake hthread => exact Or.inl trivial
  | spurious hthread => exact Or.inl trivial
  | take hthread hitem => exact Or.inl trivial
  | empty hthread hempty => exact absurd hempty hqueue
  | process hthread => exact Or.inl trivial

/-! ### The queue drains -/

/-- The actions that go on without another push: those of the processing thread, and the
notifies of the calls that have pushed. -/
def Action.Own : Action → Prop
  | .notify | .wait | .wake | .dequeue | .process => True
  | _ => False

/-- Such actions, when no notify is lost. -/
def OwnHeard (s : St) (e : Action) : Prop := e.Own ∧ NotifyHeard s e

/-- How far the thread is from its wait. -/
def Thread.work : Thread → ℕ
  | .waiting => 0
  | .beforeWait => 1
  | .dequeuing => 2
  | .notified => 3
  | .processing _ => 3

/-- A bound on the actions that are left without another push. -/
def work (s : St) : ℕ :=
  4 * s.calls.count .notifying + 2 * s.ntf_queue.length + s.thread.work

theorem work_step (hown : e.Own) (hstep : Step s e t) : work t < work s := by
  unfold work
  cases hstep with
  | call item => cases hown
  | accept hcalls hroom => cases hown
  | drop hcalls hroom => cases hown
  | push hcalls => cases hown
  | @notify before after hcalls =>
    have hcount : s.calls.count .notifying = (before ++ after).count .notifying + 1 := by
      rw [hcalls, List.count_append, List.count_append, List.count_cons_self]
      omega
    have hthread : s.thread.notify.work ≤ s.thread.work + 3 := by
      cases s.thread <;> simp [Thread.notify, Thread.work]
    show 4 * (before ++ after).count .notifying + 2 * s.ntf_queue.length + s.thread.notify.work < _
    rw [hcount]
    omega
  | wait hthread =>
    rw [hthread]
    exact Nat.add_lt_add_left Nat.zero_lt_one _
  | wake hthread =>
    rw [hthread]
    exact Nat.add_lt_add_left (Nat.lt_succ_self 2) _
  | spurious hthread => cases hown
  | @take item rest hthread hqueue =>
    rw [hthread, hqueue, List.length_cons]
    show 4 * s.calls.count .notifying + 2 * rest.length + 3
      < 4 * s.calls.count .notifying + 2 * (rest.length + 1) + 2
    omega
  | empty hthread hqueue =>
    rw [hthread]
    exact Nat.add_lt_add_left (Nat.lt_succ_self 1) _
  | process hthread =>
    rw [hthread]
    exact Nat.add_lt_add_left (Nat.lt_succ_self 2) _

/-- A run without another push is no longer than the work at its start. -/
theorem length_add_work_le (hrun : Run (Guarded OwnHeard Step) s es t) :
    es.length + work t ≤ work s := by
  induction hrun with
  | nil => simp
  | snoc _ hstep ih =>
    have hwork := work_step hstep.1.1 hstep.2
    rw [List.length_append, List.length_singleton]
    omega

/-- **Where nothing can go on, the queue is empty** and nothing is in process. -/
theorem drained_of_stuck (h : NotStranded s) (hstuck : ∀ e t, ¬ Guarded OwnHeard Step s e t) :
    s.ntf_queue = [] ∧ s.thread.item = [] := by
  cases hthread : s.thread with
  | beforeWait => exact absurd ⟨⟨trivial, trivial⟩, .wait hthread⟩ (hstuck .wait _)
  | notified => exact absurd ⟨⟨trivial, trivial⟩, .wake hthread⟩ (hstuck .wake _)
  | processing item => exact absurd ⟨⟨trivial, trivial⟩, .process hthread⟩ (hstuck .process _)
  | dequeuing =>
    cases hqueue : s.ntf_queue with
    | nil => exact absurd ⟨⟨trivial, trivial⟩, .empty hthread hqueue⟩ (hstuck .dequeue _)
    | cons item rest => exact absurd ⟨⟨trivial, trivial⟩, .take hthread hqueue⟩ (hstuck .dequeue _)
  | waiting =>
    refine ⟨?_, rfl⟩
    by_contra hqueue
    rcases h hqueue with hdraining | hnotified | hcall
    · rw [hthread] at hdraining
      cases hdraining
    · rw [hthread] at hnotified
      cases hnotified
    · -- a call that notifies wakes the thread
      obtain ⟨before, after, hcalls⟩ := List.append_of_mem hcall
      refine hstuck .notify _ ⟨⟨trivial, ?_⟩, .notify hcalls⟩
      intro hbefore
      rw [hthread] at hbefore
      cases hbefore

theorem accepted_own (hown : e.Own) (hstep : Step s e t) : t.accepted = s.accepted := by
  cases hstep with
  | push hcalls => cases hown
  | _ => rfl

/-- **No notification is stranded.**  After any run in which every notify is heard, the thread
drains the queue or is to be woken while the queue is not empty; what was accepted is
processed, in process or in the queue, in the order in which it was accepted; and without
another push the threads come to an end with all of it processed. -/
theorem notification_not_stranded (hrun : Run (Guarded NotifyHeard Step) init es s) :
    (s.ntf_queue ≠ [] → s.thread.Draining ∨ WakeupPending s) ∧
      s.accepted = s.processed ++ s.thread.item ++ s.ntf_queue ∧
      ∀ fs t, Run (Guarded OwnHeard Step) s fs t → fs.length ≤ work s ∧
        ((∀ e u, ¬ Guarded OwnHeard Step t e u) → t.processed = s.accepted) := by
  have hinv : NotStranded s ∧ InOrder s := by
    refine hrun.keeps (I := fun s => NotStranded s ∧ InOrder s)
      ⟨fun hqueue => absurd rfl hqueue, rfl⟩ ?_
    intro t e u ht hstep
    exact ⟨notStranded_step ht.1 hstep.1 hstep.2, inOrder_step ht.2 hstep.2⟩
  refine ⟨hinv.1, hinv.2, ?_⟩
  intro fs t hfs
  have hlength := length_add_work_le hfs
  refine ⟨by omega, fun hstuck => ?_⟩
  have hlater : NotStranded t ∧ InOrder t ∧ t.accepted = s.accepted := by
    refine hfs.keeps (I := fun t => NotStranded t ∧ InOrder t ∧ t.accepted = s.accepted)
      ⟨hinv.1, hinv.2, rfl⟩ ?_
    intro t e u ht hstep
    exact ⟨notStranded_step ht.1 hstep.1.2 hstep.2, inOrder_step ht.2.1 hstep.2,
      (accepted_own hstep.1.1 hstep.2).trans ht.2.2⟩
  obtain ⟨hqueue, hitem⟩ := drained_of_stuck hlater.1 hstuck
  have horder : t.accepted = t.processed ++ t.thread.item ++ t.ntf_queue := hlater.2.1
  rw [hqueue, hitem, List.append_nil, List.append_nil, hlater.2.2] at horder
  exact horder.symm

/-! ### Examples -/

/-- The notification of the examples. -/
def fdbEvent : Notification := ⟨"fdb_event", "[]", []⟩

/-- A notification arrives before the thread waits: its notify wakes nobody. -/
theorem not_notification_stranded :
    ∃ s, Run Step init [.call fdbEvent, .check, .push, .notify, .wait] s ∧
      s.ntf_queue ≠ [] ∧ ¬ (s.thread.Draining ∨ WakeupPending s) := by
  refine ⟨⟨[fdbEvent], [], .waiting, [fdbEvent], []⟩, ?_, List.cons_ne_nil _ _, ?_⟩
  · refine .cons (.call fdbEvent) ?_
    refine .cons (@Step.accept _ fdbEvent [] [] rfl (Or.inl ?_)) ?_
    · exact Nat.zero_lt_succ _
    · refine .cons (@Step.push _ fdbEvent [] [] rfl) ?_
      refine .cons (@Step.notify _ [] [] rfl) ?_
      exact .single (.wait rfl)
  · rintro (hdraining | hnotified | hcall)
    · exact hdraining
    · cases hnotified
    · cases hcall

/-- A notification arrives while the thread waits. -/
theorem notification_not_stranded_waiting :
    ∃ s, Run (Guarded NotifyHeard Step) init [.wait, .call fdbEvent, .check, .push, .notify] s ∧
      s.ntf_queue ≠ [] ∧ (s.thread.Draining ∨ WakeupPending s) := by
  have hrun : Run (Guarded NotifyHeard Step) init [.wait, .call fdbEvent, .check, .push, .notify]
      ⟨[fdbEvent], [], .notified, [fdbEvent], []⟩ := by
    refine .cons ⟨trivial, .wait rfl⟩ ?_
    refine .cons ⟨trivial, .call fdbEvent⟩ ?_
    refine .cons ⟨trivial, @Step.accept _ fdbEvent [] [] rfl (Or.inl ?_)⟩ ?_
    · exact Nat.zero_lt_succ _
    · refine .cons ⟨trivial, @Step.push _ fdbEvent [] [] rfl⟩ ?_
      refine .single ⟨?_, @Step.notify _ [] [] rfl⟩
      intro hbefore
      cases hbefore
  exact ⟨_, hrun, List.cons_ne_nil _ _, (notification_not_stranded hrun).1 (List.cons_ne_nil _ _)⟩

end Syncd
