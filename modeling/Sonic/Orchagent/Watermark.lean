/-
Orchagent/Watermark.lean

Watermarks: the scripts that raise them, and `WatermarkOrch`, which clears them.

syncd runs a script over the ids of queues, priority groups or buffer pools at every
poll.  It raises what the three tables of watermarks have to what the counter is now; an
error ends the script, and what it has stored until then stays.  The orch stores zero for
the ids it knows.  It reads the ids of priority groups and queues from the maps of
COUNTERS_DB once, when it is first asked to clear something, and those of buffer pools
from `BufferOrch` each time.
-/
import Sonic.Lib.Table
import Sonic.Lib.Transition
import Sonic.Redis.LuaNumber

namespace Orchagent.Watermark

open Lua (Value math_max argument)

abbrev sai_object_id_t := ℕ

/-! ### The tables of watermarks -/

inductive WmTable where
  | USER_WATERMARKS | PERSISTENT_WATERMARKS | PERIODIC_WATERMARKS
  deriving DecidableEq

/-- The fields of the hashes of counters and watermarks. -/
inductive Stat where
  | SAI_QUEUE_STAT_SHARED_WATERMARK_BYTES
  | SAI_INGRESS_PRIORITY_GROUP_STAT_SHARED_WATERMARK_BYTES
  | SAI_INGRESS_PRIORITY_GROUP_STAT_XOFF_ROOM_WATERMARK_BYTES
  | SAI_BUFFER_POOL_STAT_WATERMARK_BYTES
  deriving DecidableEq

open WmTable Stat

/-- `COUNTERS`: the fields of the objects that are there. -/
abbrev Counters := sai_object_id_t → Stat → Option Value

/-- The fields of the objects in the tables of watermarks. -/
abbrev Watermarks := WmTable → sai_object_id_t → Stat → Option Value

/-- HSET. -/
def Watermarks.hset (w : Watermarks) (table : WmTable) (id : sai_object_id_t) (stat : Stat)
    (v : Value) : Watermarks :=
  fun t o s => if t = table ∧ o = id ∧ s = stat then some v else w t o s

/-! ### The scripts -/

/-- A part of a script, and whether the script goes on after it. -/
abbrev Command := Watermarks → Watermarks × Bool

/-- The commands of a script, up to an error. -/
def runScript : List Command → Watermarks → Watermarks × Bool
  | [], w => (w, true)
  | command :: rest, w =>
    let (w', goes_on) := command w
    if goes_on then runScript rest w' else (w', false)

/-- `HSET(table, last and math.max(wm, last) or wm)`. -/
def setMax (id : sai_object_id_t) (stat : Stat) (wm : Value) (table : WmTable) : Command := fun w =>
  match w table id stat with
  | none => (w.hset table id stat wm, true)
  | some last =>
    match math_max wm.tonumber last.tonumber with
    | none => (w, false)
    | some n => (w.hset table id stat (argument n), true)

/-- HSET if `wm` is higher than the last value, or there is none.  No number is compared
with one, or stored. -/
def setHigher (id : sai_object_id_t) (stat : Stat) (wm : Value) (table : WmTable) : Command := fun w =>
  match w table id stat, wm.tonumber with
  | none, none => (w, false)
  | none, some n => (w.hset table id stat (argument n), true)
  | some last, wm =>
    match wm, last.tonumber with
    | some n, some last => (if last < n then w.hset table id stat (argument n) else w, true)
    | _, _ => (w, false)

inductive Script where
  | watermark_queue | watermark_pg | watermark_bufferpool
  deriving DecidableEq

/-- The fields that a script looks at. -/
def Script.stats : Script → List Stat
  | .watermark_queue => [SAI_QUEUE_STAT_SHARED_WATERMARK_BYTES]
  | .watermark_pg => [SAI_INGRESS_PRIORITY_GROUP_STAT_SHARED_WATERMARK_BYTES,
      SAI_INGRESS_PRIORITY_GROUP_STAT_XOFF_ROOM_WATERMARK_BYTES]
  | .watermark_bufferpool => [SAI_BUFFER_POOL_STAT_WATERMARK_BYTES]

/-- What a script does with a counter that is there. -/
def Script.commands (script : Script) (id : sai_object_id_t) (stat : Stat) (wm : Value) :
    List Command :=
  match script with
  | .watermark_queue =>
    -- `if tonumber(queue_shared_wm)`
    if wm.tonumber = none then []
    else [PERIODIC_WATERMARKS, PERSISTENT_WATERMARKS, USER_WATERMARKS].map (setMax id stat wm)
  | .watermark_pg =>
    [PERIODIC_WATERMARKS, PERSISTENT_WATERMARKS, USER_WATERMARKS].map (setMax id stat wm)
  | .watermark_bufferpool =>
    [USER_WATERMARKS, PERSISTENT_WATERMARKS, PERIODIC_WATERMARKS].map (setHigher id stat wm)

/-- What a script does with a counter. -/
def Script.body (script : Script) (counters : Counters) (id : sai_object_id_t) (stat : Stat) :
    List Command :=
  match counters id stat with
  | none => []
  | some wm => script.commands id stat wm

/-- The loop of a script, from the last of its KEYS to the first. -/
def Script.loop (script : Script) (counters : Counters) (KEYS : List sai_object_id_t) :
    List Command :=
  KEYS.reverse.flatMap fun id => script.stats.flatMap fun stat => script.body counters id stat

/-! ### WatermarkOrch -/

structure St where
  /-- COUNTERS_DB -/
  counters : Counters
  watermarks : Watermarks
  COUNTERS_PG_INDEX_MAP : List sai_object_id_t
  COUNTERS_QUEUE_TYPE_MAP : List (sai_object_id_t × String)
  /-- `BufferOrch` and `PortsOrch` -/
  getBufferPoolNameOidMap : Table String sai_object_id_t
  allPortsReady : Bool
  /-- `WATERMARK_CLEAR_REQUEST`: the notifications that wait -/
  requests : List (String × String)
  m_pg_ids : List sai_object_id_t
  m_unicast_queue_ids : List sai_object_id_t
  m_multicast_queue_ids : List sai_object_id_t

/-- What can be cleared. -/
inductive ClearRequest where
  | PG_HEADROOM | PG_SHARED | Q_SHARED_UNI | Q_SHARED_MULTI | BUFFER_POOL
  deriving DecidableEq

namespace ClearRequest

def ofData (data : String) : Option ClearRequest :=
  if data = "PG_HEADROOM" then some PG_HEADROOM
  else if data = "PG_SHARED" then some PG_SHARED
  else if data = "Q_SHARED_UNI" then some Q_SHARED_UNI
  else if data = "Q_SHARED_MULTI" then some Q_SHARED_MULTI
  else if data = "BUFFER_POOL" then some BUFFER_POOL
  else none

def stat : ClearRequest → Stat
  | PG_HEADROOM => SAI_INGRESS_PRIORITY_GROUP_STAT_XOFF_ROOM_WATERMARK_BYTES
  | PG_SHARED => SAI_INGRESS_PRIORITY_GROUP_STAT_SHARED_WATERMARK_BYTES
  | Q_SHARED_UNI => SAI_QUEUE_STAT_SHARED_WATERMARK_BYTES
  | Q_SHARED_MULTI => SAI_QUEUE_STAT_SHARED_WATERMARK_BYTES
  | BUFFER_POOL => SAI_BUFFER_POOL_STAT_WATERMARK_BYTES

end ClearRequest

/-- The table that a request is about. -/
def tableOf (op : String) : Option WmTable :=
  if op = "PERSISTENT" then some PERSISTENT_WATERMARKS
  else if op = "USER" then some USER_WATERMARKS
  else none

namespace St

def init_pg_ids (s : St) : St := { s with m_pg_ids := s.m_pg_ids ++ s.COUNTERS_PG_INDEX_MAP }

def init_queue_ids (s : St) : St :=
  { s with
    m_unicast_queue_ids := s.m_unicast_queue_ids ++
      (s.COUNTERS_QUEUE_TYPE_MAP.filter fun fv => fv.2 = "SAI_QUEUE_TYPE_UNICAST").map Prod.fst
    m_multicast_queue_ids := s.m_multicast_queue_ids ++
      (s.COUNTERS_QUEUE_TYPE_MAP.filter fun fv => fv.2 ≠ "SAI_QUEUE_TYPE_UNICAST").map Prod.fst }

/-- The first lines of both `doTask`. -/
def initIds (s : St) : St :=
  let s := if s.m_pg_ids = [] then s.init_pg_ids else s
  if s.m_multicast_queue_ids = [] ∧ s.m_unicast_queue_ids = [] then s.init_queue_ids else s

/-- The ids that a request clears. -/
def ids (s : St) : ClearRequest → List sai_object_id_t
  | .PG_HEADROOM => s.m_pg_ids
  | .PG_SHARED => s.m_pg_ids
  | .Q_SHARED_UNI => s.m_unicast_queue_ids
  | .Q_SHARED_MULTI => s.m_multicast_queue_ids
  | .BUFFER_POOL => s.getBufferPoolNameOidMap.entries.map fun it => it.2

/-- `clearSingleWm`. -/
def clearSingleWm (s : St) (table : WmTable) (wm_name : Stat) (obj_ids : List sai_object_id_t) : St :=
  { s with watermarks := obj_ids.foldl (fun w id => w.hset table id wm_name (.number 0)) s.watermarks }

/-- `clearSingleWm` for what a request is about. -/
def clear (s : St) (table : WmTable) (request : ClearRequest) : St :=
  s.clearSingleWm table request.stat (s.ids request)

/-- `doTask(NotificationConsumer &)`. -/
def doNotification (s : St) : St :=
  if !s.allPortsReady then s
  else
    match s.requests with
    | [] => s.initIds
    | (op, data) :: rest =>
      let s := { s.initIds with requests := rest }
      match tableOf op, ClearRequest.ofData data with
      | some table, some request => s.clear table request
      | _, _ => s

/-- `doTask(SelectableTimer &)`. -/
def doTimer (s : St) : St :=
  [.PG_HEADROOM, .PG_SHARED, .Q_SHARED_UNI, .Q_SHARED_MULTI, .BUFFER_POOL].foldl
    (fun s request => s.clear PERIODIC_WATERMARKS request) s.initIds

end St

/-! ### Steps -/

inductive Event where
  /-- syncd writes a counter, or takes it away -/
  | counter (id : sai_object_id_t) (stat : Stat) (value : Option Value)
  | poll (script : Script) (KEYS : List sai_object_id_t)
  | request (op data : String)
  | notification
  | timer
  | allPortsReady (ready : Bool)
  | createPg (id : sai_object_id_t)
  | createQueue (id : sai_object_id_t) (type : String)
  | createPool (name : String) (id : sai_object_id_t)

def St.apply (s : St) : Event → St
  | .counter id stat value =>
    { s with counters := fun o st => if o = id ∧ st = stat then value else s.counters o st }
  | .poll script KEYS =>
    { s with watermarks := (runScript (script.loop s.counters KEYS) s.watermarks).1 }
  | .request op data => { s with requests := s.requests ++ [(op, data)] }
  | .notification => s.doNotification
  | .timer => s.doTimer
  | .allPortsReady ready => { s with allPortsReady := ready }
  | .createPg id => { s with COUNTERS_PG_INDEX_MAP := s.COUNTERS_PG_INDEX_MAP ++ [id] }
  | .createQueue id type =>
    { s with COUNTERS_QUEUE_TYPE_MAP := s.COUNTERS_QUEUE_TYPE_MAP ++ [(id, type)] }
  | .createPool name id =>
    { s with getBufferPoolNameOidMap := s.getBufferPoolNameOidMap.insert name id }

end Orchagent.Watermark
