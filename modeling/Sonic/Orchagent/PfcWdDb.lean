/-
Orchagent/PfcWdDb.lean

What the PFC watchdog reads of CONFIG_DB, and the fields of a queue in COUNTERS_DB.

An entry of the configuration is read field by field; the times are in milliseconds and
within bounds that `PfcWdConf` carries.  Registration writes them to the queue in
microseconds, for the scripts that syncd runs at every poll; the handlers keep
`PFC_WD_STATUS`.  The count-downs and the values of the last poll belong to the scripts
and are in the same hash, which no entry of the configuration clears.
-/
import Sonic.Common.Table
import Sonic.Lib.Numeral

namespace Orchagent.PfcWd

open Numeral Swss

/-! ### Configuration -/

def PFC_WD_DETECTION_TIME_MAX : ℕ := 5 * 1000
def PFC_WD_DETECTION_TIME_MIN : ℕ := 100
def PFC_WD_RESTORATION_TIME_MAX : ℕ := 60 * 1000
def PFC_WD_RESTORATION_TIME_MIN : ℕ := 100

inductive PfcWdAction where
  | PFC_WD_ACTION_UNKNOWN | PFC_WD_ACTION_FORWARD | PFC_WD_ACTION_DROP | PFC_WD_ACTION_ALERT
  deriving DecidableEq

open PfcWdAction

def deserializeAction (key : String) : PfcWdAction :=
  if key = "forward" then PFC_WD_ACTION_FORWARD
  else if key = "drop" then PFC_WD_ACTION_DROP
  else if key = "alert" then PFC_WD_ACTION_ALERT
  else PFC_WD_ACTION_UNKNOWN

def serializeAction : PfcWdAction → String
  | PFC_WD_ACTION_FORWARD => "forward"
  | PFC_WD_ACTION_DROP => "drop"
  | PFC_WD_ACTION_ALERT => "alert"
  | PFC_WD_ACTION_UNKNOWN => "unknown"

/-- `stoul` with base 0: the number and what follows it; `none` is an exception. -/
def stoul (str : List Char) : Option (ℕ × List Char) :=
  let (negative, s) := takeSign (str.dropWhile isspace)
  let (b, s) := match s with
    | '0' :: x :: c :: rest =>
      if (x = 'x' ∨ x = 'X') ∧ isDigit 16 c then (16, c :: rest) else (8, s)
    | '0' :: _ => (8, s)
    | _ => (10, s)
  let n := value b (s.takeWhile (isDigit b))
  if s.takeWhile (isDigit b) = [] ∨ 2 ^ 64 ≤ n then none
  else some (if negative then (2 ^ 64 - n) % 2 ^ 64 else n, s.dropWhile (isDigit b))

/-- `to_uint`; `none` is an exception. -/
def to_uint (str : String) (min max : ℕ) : Option {n : ℕ // min ≤ n ∧ n ≤ max} :=
  match stoul str.toList with
  | some (ret, []) => if h : min ≤ ret ∧ ret ≤ max then some ⟨ret, h⟩ else none
  | _ => none

/-- The locals of `createEntry`: the times are 0 or within their bounds. -/
structure PfcWdConf where
  detectionTime : ℕ
  restorationTime : ℕ
  action : PfcWdAction
  detection_range : detectionTime = 0 ∨
    PFC_WD_DETECTION_TIME_MIN ≤ detectionTime ∧ detectionTime ≤ PFC_WD_DETECTION_TIME_MAX
  restoration_range : restorationTime = 0 ∨
    PFC_WD_RESTORATION_TIME_MIN ≤ restorationTime ∧ restorationTime ≤ PFC_WD_RESTORATION_TIME_MAX
  action_known : action ≠ PFC_WD_ACTION_UNKNOWN

namespace PfcWdConf

/-- According to requirements, drop action is default. -/
def initial : PfcWdConf :=
  ⟨0, 0, PFC_WD_ACTION_DROP, Or.inl rfl, Or.inl rfl, by decide⟩

/-- One field of an entry; `none` makes the entry invalid. -/
def setField (c : PfcWdConf) (fv : FieldValueTuple) : Option PfcWdConf :=
  if fv.1 = "detection_time" then
    (to_uint fv.2 PFC_WD_DETECTION_TIME_MIN PFC_WD_DETECTION_TIME_MAX).map fun ⟨n, hn⟩ =>
      { c with detectionTime := n, detection_range := Or.inr hn }
  else if fv.1 = "restoration_time" then
    (to_uint fv.2 PFC_WD_RESTORATION_TIME_MIN PFC_WD_RESTORATION_TIME_MAX).map fun ⟨n, hn⟩ =>
      { c with restorationTime := n, restoration_range := Or.inr hn }
  else if fv.1 = "action" then
    if h : deserializeAction fv.2 ≠ PFC_WD_ACTION_UNKNOWN then
      some { c with action := deserializeAction fv.2, action_known := h }
    else none
  else none

/-- The fields of an entry, in `PfcWdOrch::createEntry`; a detection time must be there. -/
def parse (data : List FieldValueTuple) : Option PfcWdConf :=
  (data.foldlM setField initial).bind fun c => if c.detectionTime = 0 then none else some c

theorem detectionTime_pos {data : List FieldValueTuple} {c : PfcWdConf}
    (h : parse data = some c) : 0 < c.detectionTime := by
  unfold parse at h
  obtain ⟨c', _, hc⟩ := Option.bind_eq_some_iff.mp h
  split at hc
  · cases hc
  · cases hc
    omega

end PfcWdConf

/-! ### The hash of a queue -/

/-- The counters of a queue and of its port that a poll reads. -/
structure Polled where
  occupancy_bytes : Option ℕ
  packets : Option ℕ
  pfc_rx_packets : Option ℕ
  pfc_on2off : Option ℕ
  pfc_duration : Option ℕ
  queue_pause_status : Option String
  debug_storm : Option String
  /-- in ASIC_DB -/
  port_speed : Option ℕ

/-- The `_last` fields. -/
structure Last where
  packets_last : Option ℕ
  pfc_rx_packets_last : Option ℕ
  pfc_on2off_last : Option ℕ
  pfc_duration_last : Option ℕ
  queue_pause_status_last : Option String

/-- The fields that the watchdog uses of one queue. -/
structure QueueCounters where
  PFC_WD_STATUS : Option String
  PFC_WD_ACTION : Option String
  BIG_RED_SWITCH_MODE : Option String
  PFC_WD_DETECTION_TIME : Option ℕ
  /-- the inner `none` is the empty text of a time that was not configured -/
  PFC_WD_RESTORATION_TIME : Option (Option ℕ)
  PFC_WD_DETECTION_TIME_LEFT : Option ℕ
  PFC_WD_RESTORATION_TIME_LEFT : Option ℕ
  polled : Polled
  last : Last

namespace QueueCounters

/-- A queue of which nothing is known. -/
def empty : QueueCounters :=
  ⟨none, none, none, none, none, none, none, ⟨none, none, none, none, none, none, none, none⟩,
    ⟨none, none, none, none, none⟩⟩

def setStatus (q : QueueCounters) (operational : Bool) : QueueCounters :=
  { q with PFC_WD_STATUS := some (if operational then "operational" else "stormed") }

/-- `PfcWdActionHandler::initWdCounters`. -/
def initWdCounters (q : QueueCounters) : QueueCounters := q.setStatus true

/-- `PfcWdActionHandler::initCounters`. -/
def initCounters (q : QueueCounters) : QueueCounters := q.setStatus false

/-- `PfcWdActionHandler::commitCounters`. -/
def commitCounters (q : QueueCounters) (periodic : Bool) : QueueCounters := q.setStatus (!periodic)

/-- What `registerInWdDb` writes to a queue. -/
def register (q : QueueCounters) (c : PfcWdConf) : QueueCounters :=
  initWdCounters { q with
    PFC_WD_DETECTION_TIME := some (c.detectionTime * 1000)
    PFC_WD_RESTORATION_TIME :=
      some (if c.restorationTime = 0 then none else some (c.restorationTime * 1000))
    PFC_WD_ACTION := some (serializeAction c.action) }

/-- What `unregisterFromWdDb` deletes of a queue. -/
def unregister (q : QueueCounters) : QueueCounters :=
  { q with
    PFC_WD_DETECTION_TIME := none
    PFC_WD_RESTORATION_TIME := none
    PFC_WD_ACTION := none
    PFC_WD_STATUS := none }

def setBigRedSwitch (q : QueueCounters) (on : Bool) : QueueCounters :=
  { q with BIG_RED_SWITCH_MODE := if on then some "enable" else none }

/-- `bake` cleans the `_last` and `_LEFT` fields. -/
def bake (q : QueueCounters) : QueueCounters :=
  { q with
    PFC_WD_DETECTION_TIME_LEFT := none
    PFC_WD_RESTORATION_TIME_LEFT := none
    last := ⟨none, none, none, none, none⟩ }

end QueueCounters

end Orchagent.PfcWd
