/-
Orchagent/PfcScripts.lean

The scripts of the PFC watchdog: `pfc_detect` and `pfc_restore`.

At every poll a script looks at the counters of a queue, and lowers a count-down that it
keeps in the hash of the queue while what it watches for holds.  When the time has run out
it publishes an event and the count-down starts anew.  Nothing but the script itself
changes the count-down: an entry of the configuration that is deleted and set again, or set
to another time, leaves what was left of the old one, and so do the polls at which the
script passes the queue over.

`Watch` keeps, beside the hash, what the runs of each script have seen.  On runs on which no
count-down is under way when the queue is configured or passed over (`Kept`), an event is
published exactly when its time has passed (`storms_last_their_time`).
-/
import Sonic.Lib.Countdown
import Sonic.Lib.Transition
import Sonic.Orchagent.PfcWdDb

namespace Orchagent.PfcWd

open Countdown (lower Phase)
open Swss (FieldValueTuple)
open Transition (Run Guarded)

/-! ### The detect scripts -/

/-- What the condition of a script comes to. -/
inductive Check where
  /-- there are no last values yet -/
  | firstRun
  | holds
  | fails
  /-- the script stops with an error -/
  | error
  deriving DecidableEq

/-- The parts in which the detect scripts of the platforms differ. -/
structure DetectScript where
  /-- all counters are there -/
  available : Polled → Bool
  /-- the storm condition at a poll time -/
  check : ℕ → Polled → Last → Check
  /-- the values for the next run, after a run that found a deadlock or not -/
  save : Bool → Polled → Last → Last

/-- `pfc_detect_broadcom.lua`. -/
def pfc_detect_broadcom : DetectScript where
  available c :=
    c.occupancy_bytes.isSome && c.packets.isSome && c.pfc_rx_packets.isSome &&
      c.pfc_on2off.isSome && c.queue_pause_status.isSome
  check _ c l :=
    let checked : Option Check := do
      let occupancy_bytes ← c.occupancy_bytes
      let packets ← c.packets
      let pfc_rx_packets ← c.pfc_rx_packets
      let pfc_on2off ← c.pfc_on2off
      let packets_last ← l.packets_last
      let pfc_rx_packets_last ← l.pfc_rx_packets_last
      let pfc_on2off_last ← l.pfc_on2off_last
      let queue_pause_status_last ← l.queue_pause_status_last
      if (occupancy_bytes > 0 ∧ packets = packets_last ∧ pfc_rx_packets > pfc_rx_packets_last) ∨
          c.debug_storm = some "enabled" ∨
          (occupancy_bytes = 0 ∧ pfc_rx_packets > pfc_rx_packets_last ∧
            pfc_on2off = pfc_on2off_last ∧ queue_pause_status_last = "true" ∧
            c.queue_pause_status = some "true") then
        pure .holds
      else pure .fails
    checked.getD .firstRun
  save _ c l :=
    { l with
      queue_pause_status_last := c.queue_pause_status
      packets_last := c.packets
      pfc_rx_packets_last := c.pfc_rx_packets
      pfc_on2off_last := c.pfc_on2off }

/-- `pfc_detect_mellanox.lua`.  `storm_condition` compares the time that the queue was
paused with the poll time, at the speed of the port; its arithmetic is in floating point. -/
def pfc_detect_mellanox (storm_condition : (poll_time speed duration last : ℕ) → Bool) :
    DetectScript where
  available c :=
    c.occupancy_bytes.isSome && c.packets.isSome && c.pfc_rx_packets.isSome &&
      c.pfc_duration.isSome
  check poll_time c l :=
    let checked : Option Check := do
      let occupancy_bytes ← c.occupancy_bytes
      let packets ← c.packets
      let pfc_rx_packets ← c.pfc_rx_packets
      let pfc_duration ← c.pfc_duration
      let packets_last ← l.packets_last
      let pfc_rx_packets_last ← l.pfc_rx_packets_last
      let pfc_duration_last ← l.pfc_duration_last
      match c.port_speed with
      | none => pure .error
      | some speed =>
        if (occupancy_bytes > 0 ∧ packets = packets_last ∧
              pfc_rx_packets > pfc_rx_packets_last) ∨
            c.debug_storm = some "enabled" ∨
            (occupancy_bytes = 0 ∧ packets = packets_last ∧
              storm_condition poll_time speed pfc_duration pfc_duration_last) then
          pure .holds
        else pure .fails
    checked.getD .firstRun
  save is_deadlock c l :=
    -- after a storm the last values of the port are deleted and not written again
    { l with
      packets_last := c.packets
      pfc_rx_packets_last := if is_deadlock then none else c.pfc_rx_packets
      pfc_duration_last := if is_deadlock then none else c.pfc_duration }

/-- The queues that the detect scripts look at. -/
def QueueCounters.detecting (q : QueueCounters) : Bool :=
  q.BIG_RED_SWITCH_MODE = none ∧
    (q.PFC_WD_STATUS = some "operational" ∨ q.PFC_WD_ACTION = some "alert")

/-- A run of a detect script on a queue: the hash after it, and what it publishes. -/
def pfc_detect (script : DetectScript) (poll_time : ℕ) (q : QueueCounters) :
    QueueCounters × List String :=
  if q.detecting then
    match q.PFC_WD_DETECTION_TIME with
    | none => (q, [])
    | some detection_time =>
      let time_left := q.PFC_WD_DETECTION_TIME_LEFT.getD detection_time
      -- the values are saved in every run that finds the counters
      let saved (is_deadlock : Bool) (time_left : ℕ) : QueueCounters :=
        { q with
          PFC_WD_DETECTION_TIME_LEFT := some time_left
          last := script.save is_deadlock q.polled q.last }
      if script.available q.polled then
        match script.check poll_time q.polled q.last with
        | .error => (q, [])
        | .firstRun => (saved false time_left, [])
        | .holds =>
          let (is_deadlock, time_left) := lower poll_time detection_time time_left
          (saved is_deadlock time_left, if is_deadlock then ["storm"] else [])
        | .fails =>
          (saved false detection_time,
            if q.PFC_WD_ACTION = some "alert" ∧ q.PFC_WD_STATUS ≠ some "operational" then
              ["restore"] else [])
      else (q, [])
  else (q, [])

/-! ### The restore script -/

/-- The restoration time, for the queues that `pfc_restore` looks at. -/
def QueueCounters.restoring (q : QueueCounters) : Option ℕ :=
  if q.BIG_RED_SWITCH_MODE = none ∧ q.PFC_WD_STATUS ≠ some "operational" ∧
      q.PFC_WD_ACTION ≠ some "alert" then
    q.PFC_WD_RESTORATION_TIME.join
  else none

/-- `pfc_restore.lua`: the queue has received no more pause frames. -/
def pfc_restore.check (c : Polled) (l : Last) : Check :=
  match c.pfc_rx_packets, l.pfc_rx_packets_last with
  | none, _ => .error
  | some _, none => .firstRun
  | some pfc_rx_packets, some pfc_rx_packets_last =>
    if pfc_rx_packets = pfc_rx_packets_last ∧ c.debug_storm ≠ some "enabled" then .holds
    else .fails

/-- A run of `pfc_restore.lua` on a queue. -/
def pfc_restore (poll_time : ℕ) (q : QueueCounters) : QueueCounters × List String :=
  match q.restoring with
  | none => (q, [])
  | some restoration_time =>
    let time_left := q.PFC_WD_RESTORATION_TIME_LEFT.getD restoration_time
    let saved (time_left : ℕ) : QueueCounters :=
      { q with
        PFC_WD_RESTORATION_TIME_LEFT := some time_left
        last := { q.last with pfc_rx_packets_last := q.polled.pfc_rx_packets } }
    match pfc_restore.check q.polled q.last with
    | .error =>
      -- it stops at the difference of the counters, or else when it writes the last value
      if q.last.pfc_rx_packets_last = none then
        ({ q with PFC_WD_RESTORATION_TIME_LEFT := some time_left }, [])
      else (q, [])
    | .firstRun => (saved time_left, [])
    | .holds =>
      let (is_restored, time_left) := lower poll_time restoration_time time_left
      (saved time_left, if is_restored then ["restore"] else [])
    | .fails => (saved restoration_time, [])

/-! ### What the runs have seen -/

/-- What a run of a script has seen; configuration leaves a mark between the runs. -/
inductive Seen where
  | held | lost | blind | configured
  deriving DecidableEq

def Check.seen : Check → Seen
  | .holds => .held
  | .fails => .lost
  | _ => .blind

/-- The runs in a row, up to the last, that have seen the condition hold. -/
def inRow (runs : List Seen) : ℕ := (runs.takeWhile (· = .held)).length

@[simp] theorem inRow_held {runs : List Seen} : inRow (.held :: runs) = inRow runs + 1 := rfl

theorem inRow_cons {x : Seen} {runs : List Seen} (hx : x ≠ .held) : inRow (x :: runs) = 0 := by
  unfold inRow
  rw [List.takeWhile_cons_of_neg (by simpa using hx)]
  rfl

/-- What a run of a detect script sees. -/
def detectSees (script : DetectScript) (poll_time : ℕ) (q : QueueCounters) : Seen :=
  if q.detecting ∧ q.PFC_WD_DETECTION_TIME ≠ none ∧ script.available q.polled then
    (script.check poll_time q.polled q.last).seen
  else .blind

/-- What a run of `pfc_restore` sees. -/
def restoreSees (q : QueueCounters) : Seen :=
  if q.restoring = none then .blind else (pfc_restore.check q.polled q.last).seen

/-- A queue under the watchdog; the runs of each script, the last one first. -/
structure Watch where
  queue : QueueCounters
  detectRuns : List Seen
  restoreRuns : List Seen

inductive Event where
  /-- syncd writes the counters -/
  | poll (c : Polled)
  | detect
  | restore
  | set (data : List FieldValueTuple)
  | del
  /-- a handler writes the status -/
  | status (operational : Bool)
  | bigRedSwitch (on : Bool)

namespace Watch

def init : Watch := ⟨.empty, [], []⟩

def step (script : DetectScript) (poll_time : ℕ) (w : Watch) : Event → Watch
  | .poll c => { w with queue := { w.queue with polled := c } }
  | .detect =>
    { w with
      queue := (pfc_detect script poll_time w.queue).1
      detectRuns := detectSees script poll_time w.queue :: w.detectRuns }
  | .restore =>
    { w with
      queue := (pfc_restore poll_time w.queue).1
      restoreRuns := restoreSees w.queue :: w.restoreRuns }
  | .set data =>
    match PfcWdConf.parse data with
    | none => w
    | some c =>
      ⟨w.queue.register c, .configured :: w.detectRuns, .configured :: w.restoreRuns⟩
  | .del => { w with queue := w.queue.unregister }
  | .status operational => { w with queue := w.queue.setStatus operational }
  | .bigRedSwitch on => { w with queue := w.queue.setBigRedSwitch on }

/-- `w'` is what the event makes of `w`. -/
def Steps (script : DetectScript) (poll_time : ℕ) (w : Watch) (e : Event) (w' : Watch) : Prop :=
  w' = w.step script poll_time e

/-- The next runs of the scripts publish an event when its condition has held for its time,
counted in runs up to the one that publishes. -/
structure InTime (script : DetectScript) (poll_time : ℕ) (w : Watch) : Prop where
  storm_lasted : "storm" ∈ (pfc_detect script poll_time w.queue).2 →
    ∃ t, w.queue.PFC_WD_DETECTION_TIME = some t ∧
      t ⌈/⌉ poll_time ≤ inRow (w.step script poll_time .detect).detectRuns
  storm_prompt : ∀ t, w.queue.PFC_WD_DETECTION_TIME = some t →
    inRow (w.step script poll_time .detect).detectRuns = t ⌈/⌉ poll_time →
    "storm" ∈ (pfc_detect script poll_time w.queue).2
  restore_lasted : "restore" ∈ (pfc_restore poll_time w.queue).2 →
    ∃ t, w.queue.PFC_WD_RESTORATION_TIME = some (some t) ∧
      t ⌈/⌉ poll_time ≤ inRow (w.step script poll_time .restore).restoreRuns

end Watch

/-! ### Count-downs -/

/-- No count-down for the time is under way. -/
def Idle (poll_time : ℕ) (time left : Option ℕ) : Prop :=
  ∀ t, time = some t → ∀ l, left = some l → l ⌈/⌉ poll_time = t ⌈/⌉ poll_time

/-- What is left goes with the runs in a row that have seen the condition hold. -/
structure Counting (poll_time : ℕ) (time left : Option ℕ) (runs : List Seen) : Prop where
  left_pos : ∀ l, left = some l → 0 < l
  time_pos : ∀ t, time = some t → 0 < t
  phase : ∀ t, time = some t → Phase poll_time t (left.getD t) (inRow runs)

/-- What a run makes of the count-down, by what it sees, and whether it publishes. -/
inductive Ran (poll_time : ℕ) (time left : Option ℕ) : Seen → Option ℕ → Bool → Prop
  | held {t : ℕ} (ht : time = some t) :
      Ran poll_time time left .held (some (lower poll_time t (left.getD t)).2)
        (lower poll_time t (left.getD t)).1
  | lost {t : ℕ} (ht : time = some t) : Ran poll_time time left .lost (some t) false
  | passed : Ran poll_time time left .blind left false
  | kept {t : ℕ} (ht : time = some t) :
      Ran poll_time time left .blind (some (left.getD t)) false

section Counting

variable {poll_time : ℕ} {time time' left left' : Option ℕ} {runs : List Seen} {x : Seen}
  {fired : Bool}

theorem Counting.getD_pos (h : Counting poll_time time left runs) {t : ℕ} (ht : time = some t) :
    0 < left.getD t :=
  (h.phase t ht).pos

/-- A mark or a run that sees nothing, at a time when no count-down is under way. -/
theorem Counting.interrupt (h : Counting poll_time time left runs)
    (hidle : Idle poll_time time' left) (hpos : ∀ t, time' = some t → 0 < t) (hx : x ≠ .held) :
    Counting poll_time time' left (x :: runs) := by
  refine ⟨h.left_pos, hpos, fun t ht => ?_⟩
  rw [inRow_cons hx]
  cases hl : left with
  | none => exact .start (hpos t ht)
  | some l => exact Countdown.phase_zero_iff.mpr ⟨h.left_pos l hl, hidle t ht l hl⟩

theorem Counting.congr (h : Counting poll_time time left runs)
    (hpos : ∀ l, left' = some l → 0 < l)
    (hleft : ∀ t, time = some t → left'.getD t = left.getD t) :
    Counting poll_time time left' runs := by
  refine ⟨hpos, h.time_pos, fun t ht => ?_⟩
  rw [hleft t ht]
  exact h.phase t ht

/-- A run keeps the count-down in step, if it passes the queue over only when none is under way. -/
theorem Counting.ran (hp : 0 < poll_time) (h : Counting poll_time time left runs)
    (hran : Ran poll_time time left x left' fired)
    (hidle : x = .blind → Idle poll_time time left) :
    Counting poll_time time left' (x :: runs) := by
  cases hran with
  | held ht =>
    have hphase := (h.phase _ ht).lower hp (h.time_pos _ ht)
    refine ⟨fun l hl => ?_, h.time_pos, fun t' ht' => ?_⟩
    · cases hl
      exact hphase.pos
    · obtain rfl := Option.some.inj (ht.symm.trans ht')
      exact hphase
  | lost ht =>
    refine ⟨fun l hl => ?_, h.time_pos, fun t' ht' => ?_⟩
    · cases hl
      exact h.time_pos _ ht
    · obtain rfl := Option.some.inj (ht.symm.trans ht')
      rw [inRow_cons (by decide)]
      exact .start (h.time_pos _ ht)
  | passed => exact h.interrupt (hidle rfl) h.time_pos (by decide)
  | kept ht =>
    refine (h.interrupt (hidle rfl) h.time_pos (by decide)).congr (fun l hl => ?_) ?_
    · cases hl
      exact h.getD_pos ht
    · intro t' ht'
      obtain rfl := Option.some.inj (ht.symm.trans ht')
      rfl

/-- A run that publishes ends a round of runs that have seen the condition hold. -/
theorem Counting.fired_lasted (hp : 0 < poll_time) (h : Counting poll_time time left runs)
    (hran : Ran poll_time time left x left' true) :
    ∃ t, time = some t ∧ t ⌈/⌉ poll_time ≤ inRow (x :: runs) := by
  generalize hf : true = fired at hran
  cases hran with
  | held ht =>
    have hdvd := ((h.phase _ ht).fires_iff hp).mp hf.symm
    exact ⟨_, ht, Nat.le_of_dvd (Nat.succ_pos _) hdvd⟩
  | lost ht => cases hf
  | passed => cases hf
  | kept ht => cases hf

/-- The run that ends a round publishes. -/
theorem Counting.fired_prompt (hp : 0 < poll_time) (h : Counting poll_time time left runs)
    (hran : Ran poll_time time left x left' fired) {t : ℕ} (ht : time = some t)
    (hrow : inRow (x :: runs) = t ⌈/⌉ poll_time) : fired = true := by
  -- a round has at least one run, so that the run has seen the condition hold
  have hround := Countdown.ceilDiv_pos hp (h.time_pos t ht)
  cases hran with
  | held ht' =>
    obtain rfl := Option.some.inj (ht.symm.trans ht')
    rw [inRow_held] at hrow
    exact ((h.phase _ ht).fires_iff hp).mpr (hrow ▸ dvd_rfl)
  | lost _ =>
    rw [inRow_cons (by decide)] at hrow
    omega
  | passed =>
    rw [inRow_cons (by decide)] at hrow
    omega
  | kept _ =>
    rw [inRow_cons (by decide)] at hrow
    omega

end Counting

/-! ### The scripts run count-downs -/

section Scripts

variable {script : DetectScript} {poll_time : ℕ} {q : QueueCounters}

/-- What a run of a detect script leaves alone. -/
theorem pfc_detect_frame :
    (pfc_detect script poll_time q).1.PFC_WD_DETECTION_TIME = q.PFC_WD_DETECTION_TIME ∧
    (pfc_detect script poll_time q).1.PFC_WD_RESTORATION_TIME = q.PFC_WD_RESTORATION_TIME ∧
    (pfc_detect script poll_time q).1.PFC_WD_RESTORATION_TIME_LEFT =
      q.PFC_WD_RESTORATION_TIME_LEFT := by
  unfold pfc_detect
  repeat' split
  all_goals exact ⟨rfl, rfl, rfl⟩

theorem pfc_restore_frame :
    (pfc_restore poll_time q).1.PFC_WD_DETECTION_TIME = q.PFC_WD_DETECTION_TIME ∧
    (pfc_restore poll_time q).1.PFC_WD_RESTORATION_TIME = q.PFC_WD_RESTORATION_TIME ∧
    (pfc_restore poll_time q).1.PFC_WD_DETECTION_TIME_LEFT =
      q.PFC_WD_DETECTION_TIME_LEFT := by
  unfold pfc_restore
  repeat' split
  all_goals exact ⟨rfl, rfl, rfl⟩

theorem decide_mem_ite {event : String} {b : Bool} :
    decide (event ∈ (if b = true then [event] else [])) = b := by
  cases b <;> simp

theorem pfc_detect_ran :
    Ran poll_time q.PFC_WD_DETECTION_TIME q.PFC_WD_DETECTION_TIME_LEFT
      (detectSees script poll_time q)
      (pfc_detect script poll_time q).1.PFC_WD_DETECTION_TIME_LEFT
      (decide ("storm" ∈ (pfc_detect script poll_time q).2)) := by
  by_cases hd : q.detecting = true
  · rw [pfc_detect, if_pos hd]
    cases ht : q.PFC_WD_DETECTION_TIME with
    | none =>
      rw [detectSees, if_neg (fun h => h.2.1 ht)]
      simpa using Ran.passed
    | some t =>
      by_cases ha : script.available q.polled = true
      · have hlooks : q.detecting ∧ q.PFC_WD_DETECTION_TIME ≠ none ∧
            script.available q.polled := ⟨hd, by simp [ht], ha⟩
        rw [detectSees, if_pos hlooks]
        simp only [if_pos ha]
        cases hc : script.check poll_time q.polled q.last with
        | firstRun => simpa [Check.seen] using Ran.kept rfl
        | holds =>
          dsimp only
          rw [decide_mem_ite]
          exact .held rfl
        | fails =>
          -- in alert mode the detect script may publish the end of a storm here
          have hquiet : "storm" ∉ (if q.PFC_WD_ACTION = some "alert" ∧
              q.PFC_WD_STATUS ≠ some "operational" then ["restore"] else []) := by
            split <;> decide
          dsimp only
          rw [decide_eq_false hquiet]
          exact .lost rfl
        | error => simpa [Check.seen] using Ran.passed
      · rw [detectSees, if_neg (fun h => ha h.2.2)]
        simpa [ha] using Ran.passed
  · rw [pfc_detect, if_neg hd, detectSees, if_neg (fun h => hd h.1)]
    simpa using Ran.passed

theorem restoring_eq_some {t : ℕ} (h : q.restoring = some t) :
    q.PFC_WD_RESTORATION_TIME.join = some t := by
  unfold QueueCounters.restoring at h
  split at h
  · exact h
  · cases h

theorem pfc_restore_ran :
    Ran poll_time q.PFC_WD_RESTORATION_TIME.join q.PFC_WD_RESTORATION_TIME_LEFT (restoreSees q)
      (pfc_restore poll_time q).1.PFC_WD_RESTORATION_TIME_LEFT
      (decide ("restore" ∈ (pfc_restore poll_time q).2)) := by
  unfold pfc_restore restoreSees
  cases hr : q.restoring with
  | none => simpa using Ran.passed
  | some t =>
    have ht := restoring_eq_some hr
    simp only [reduceCtorEq, if_false]
    cases hc : pfc_restore.check q.polled q.last with
    | firstRun => simpa [Check.seen] using Ran.kept ht
    | holds =>
      dsimp only
      rw [decide_mem_ite]
      exact .held ht
    | fails => simpa [Check.seen] using Ran.lost ht
    | error =>
      by_cases hlast : q.last.pfc_rx_packets_last = none
      · simpa [Check.seen, hlast] using Ran.kept ht
      · simpa [Check.seen, hlast] using Ran.passed

end Scripts

/-! ### Runs -/

section Runs

variable {script : DetectScript} {poll_time : ℕ} {w w' : Watch} {e : Event}

/-- The count-downs of both scripts are in step with their runs. -/
structure Inv (poll_time : ℕ) (w : Watch) : Prop where
  detection : Counting poll_time w.queue.PFC_WD_DETECTION_TIME
    w.queue.PFC_WD_DETECTION_TIME_LEFT w.detectRuns
  restoration : Counting poll_time w.queue.PFC_WD_RESTORATION_TIME.join
    w.queue.PFC_WD_RESTORATION_TIME_LEFT w.restoreRuns

/-- When a run passes the queue over, and when the queue is configured, no count-down for the
time that is configured, or that the configuration gives, is under way. -/
def Kept (script : DetectScript) (poll_time : ℕ) (w : Watch) : Event → Prop
  | .detect => detectSees script poll_time w.queue = .blind →
      Idle poll_time w.queue.PFC_WD_DETECTION_TIME w.queue.PFC_WD_DETECTION_TIME_LEFT
  | .restore => restoreSees w.queue = .blind →
      Idle poll_time w.queue.PFC_WD_RESTORATION_TIME.join w.queue.PFC_WD_RESTORATION_TIME_LEFT
  | .set data => ∀ c, PfcWdConf.parse data = some c →
      Idle poll_time (some (c.detectionTime * 1000)) w.queue.PFC_WD_DETECTION_TIME_LEFT ∧
      Idle poll_time (if c.restorationTime = 0 then none else some (c.restorationTime * 1000))
        w.queue.PFC_WD_RESTORATION_TIME_LEFT
  | _ => True

theorem inv_init : Inv poll_time .init :=
  ⟨⟨by simp [Watch.init, QueueCounters.empty], by simp [Watch.init, QueueCounters.empty],
      by simp [Watch.init, QueueCounters.empty]⟩,
    ⟨by simp [Watch.init, QueueCounters.empty], by simp [Watch.init, QueueCounters.empty],
      by simp [Watch.init, QueueCounters.empty]⟩⟩

/-- Without a time there is nothing to count down. -/
theorem Counting.unset {time left : Option ℕ} {runs : List Seen}
    (h : Counting poll_time time left runs) : Counting poll_time none left runs :=
  ⟨h.left_pos, fun _ ht => (nomatch ht), fun _ ht => (nomatch ht)⟩

theorem Inv.step (hp : 0 < poll_time) (h : Inv poll_time w) (hk : Kept script poll_time w e) :
    Inv poll_time (w.step script poll_time e) := by
  cases e with
  | poll c => exact ⟨h.detection, h.restoration⟩
  | detect =>
    obtain ⟨htime, hrtime, hrleft⟩ := @pfc_detect_frame script poll_time w.queue
    refine ⟨?_, ?_⟩
    · show Counting poll_time (pfc_detect script poll_time w.queue).1.PFC_WD_DETECTION_TIME _ _
      rw [htime]
      exact h.detection.ran hp pfc_detect_ran hk
    · show Counting poll_time
        (pfc_detect script poll_time w.queue).1.PFC_WD_RESTORATION_TIME.join
        (pfc_detect script poll_time w.queue).1.PFC_WD_RESTORATION_TIME_LEFT w.restoreRuns
      rw [hrtime, hrleft]
      exact h.restoration
  | restore =>
    obtain ⟨htime, hrtime, hleft⟩ := @pfc_restore_frame poll_time w.queue
    refine ⟨?_, ?_⟩
    · show Counting poll_time (pfc_restore poll_time w.queue).1.PFC_WD_DETECTION_TIME
        (pfc_restore poll_time w.queue).1.PFC_WD_DETECTION_TIME_LEFT w.detectRuns
      rw [htime, hleft]
      exact h.detection
    · show Counting poll_time
        (pfc_restore poll_time w.queue).1.PFC_WD_RESTORATION_TIME.join _ _
      rw [hrtime]
      exact h.restoration.ran hp pfc_restore_ran hk
  | set data =>
    show Inv poll_time (match PfcWdConf.parse data with
      | none => w
      | some c =>
        ⟨w.queue.register c, .configured :: w.detectRuns, .configured :: w.restoreRuns⟩)
    cases hc : PfcWdConf.parse data with
    | none => exact h
    | some c =>
      obtain ⟨hidle, hridle⟩ := hk c hc
      have hpos := PfcWdConf.detectionTime_pos hc
      refine ⟨h.detection.interrupt hidle (fun t ht => ?_) (by decide),
        h.restoration.interrupt hridle (fun t ht => ?_) (by decide)⟩
      · cases ht
        omega
      · change (if c.restorationTime = 0 then none else some (c.restorationTime * 1000)) =
          some t at ht
        split at ht
        · cases ht
        · cases ht
          omega
  | del => exact ⟨h.detection.unset, h.restoration.unset⟩
  | status operational => exact ⟨h.detection, h.restoration⟩
  | bigRedSwitch on => exact ⟨h.detection, h.restoration⟩

theorem Inv.inTime (hp : 0 < poll_time) (h : Inv poll_time w) : w.InTime script poll_time where
  storm_lasted hs := by
    have hran := @pfc_detect_ran script poll_time w.queue
    rw [decide_eq_true hs] at hran
    exact h.detection.fired_lasted hp hran
  storm_prompt t ht hrow :=
    of_decide_eq_true (h.detection.fired_prompt hp pfc_detect_ran ht hrow)
  restore_lasted hs := by
    have hran := @pfc_restore_ran poll_time w.queue
    rw [decide_eq_true hs] at hran
    obtain ⟨t, ht, hle⟩ := h.restoration.fired_lasted hp hran
    refine ⟨t, ?_, hle⟩
    exact Option.join_eq_some_iff.mp ht

/-- **Events are published in time.**  In every run on which no count-down is under way when
the queue is configured or passed over, a storm and its end are published after the runs that
their times take, and a storm at once then. -/
theorem storms_last_their_time (hp : 0 < poll_time) {es : List Event}
    (h : Run (Guarded (Kept script poll_time) (Watch.Steps script poll_time)) .init es w) :
    w.InTime script poll_time := by
  refine Inv.inTime hp (h.keeps inv_init ?_)
  rintro w e w' hinv ⟨hk, rfl⟩
  exact hinv.step hp hk

/-- A configuration of a detection time of 300 ms. -/
def setThree : Event := .set [("detection_time", "300")]

/-- Counters of a queue that holds packets, sends none, and receives `n` pause frames. -/
def paused (n : ℕ) : Event := .poll ⟨some 100, some 7, some n, some 0, none, some "true", none, none⟩

/-- A queue is stormed for three polls of 100 ms. -/
def stormEvents : List Event :=
  [setThree, paused 0, .detect, paused 1, .detect, paused 2, .detect, paused 3]

/-- The third run of a storm publishes it. -/
theorem storm_lasts_three_runs :
    (stormEvents.foldl (Watch.step pfc_detect_broadcom 100000) .init).InTime
      pfc_detect_broadcom 100000 := by
  refine storms_last_their_time (by decide) (Run.guarded_foldl ?_)
  refine ⟨fun c _ => ⟨nofun, nofun⟩, trivial, fun _ _ _ _ hl => ?_, trivial, fun h => ?_, trivial,
    fun h => ?_, trivial, trivial⟩
  · -- the first run finds no count-down
    cases hl
  · exact absurd h (by decide +kernel)
  · exact absurd h (by decide +kernel)

/-- A queue that is configured again after two runs of a storm is declared stormed by the
next run, whatever time is configured. -/
theorem not_storms_last :
    ¬ ∀ (script : DetectScript) (poll_time : ℕ) (es : List Event) (w : Watch), 0 < poll_time →
      Run (Watch.Steps script poll_time) .init es w → w.InTime script poll_time := by
  intro h
  have hrun := h pfc_detect_broadcom 100000
    [setThree, paused 0, .detect, paused 1, .detect, paused 2, .detect, .del,
      .set [("detection_time", "5000")], paused 3] _ (by decide) (Run.foldl _ _)
  obtain ⟨t, ht, hle⟩ := hrun.storm_lasted (by decide +kernel)
  cases ht
  revert hle
  decide +kernel

end Runs

end Orchagent.PfcWd
