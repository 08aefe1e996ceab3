/-
Orchagent/PfcWdOrch.lean

The runtime state of the PFC watchdog: `PfcWdSwOrch`.

A queue under the watchdog has an entry in `m_entryMap`, and while it is stormed its entry
has a handler and the queue is recorded in APPL_DB, from where a warm restart replays it.
The big red switch puts a handler of its own on every lossless queue, in `m_brsEntryMap`.
`World` keeps the configuration that the tasks have asked for beside the orch, and
`Coherent` says what the orch should hold of it.

The entry of a queue outlives a new configuration of its port; a record outlives the handler
when the port is deconfigured or the switch is set; and a DEL of a name that is no port reads
the queues of a port that has none.  On runs without these steps (`Kept`) the state is
coherent (`run_coherent`).
-/
import Sonic.Lib.Table
import Sonic.Lib.Transition
import Sonic.Orchagent.PfcWdDb

namespace Orchagent.PfcWd

open Swss (FieldValueTuple)
open Transition (Run Guarded)

abbrev sai_object_id_t := ℕ

def SAI_NULL_OBJECT_ID : sai_object_id_t := 0

def PFC_WD_TC_MAX : ℕ := 8

def PFC_WD_GLOBAL : String := "GLOBAL"
def POLL_INTERVAL_FIELD : String := "POLL_INTERVAL"
def BIG_RED_SWITCH_FIELD : String := "BIG_RED_SWITCH"
def PFC_WD_IN_STORM : String := "storm"

/-! ### Ports -/

inductive PortType where
  | PHY | OTHER
  deriving DecidableEq

structure Port where
  m_alias : String
  m_type : PortType
  m_port_id : sai_object_id_t
  m_queue_ids : List sai_object_id_t
  m_pfc_bitmask : ℕ

/-- `Port()`. -/
def Port.empty : Port := ⟨"", .OTHER, SAI_NULL_OBJECT_ID, [], 0⟩

/-- A queue of a port; physical ports have `PFC_WD_TC_MAX` of them. -/
def Port.queue (port : Port) (i : ℕ) : sai_object_id_t := port.m_queue_ids.getD i SAI_NULL_OBJECT_ID

/-- `gPortsOrch`, when all ports are ready.  The watchdog does not change it. -/
structure PortsOrch where
  m_portList : List Port
  alias_inj : ∀ p ∈ m_portList, ∀ p' ∈ m_portList, p.m_alias = p'.m_alias → p = p'
  id_inj : ∀ p ∈ m_portList, ∀ p' ∈ m_portList, p.m_type = .PHY → p'.m_type = .PHY →
    p.m_port_id = p'.m_port_id → p = p'
  /-- a physical port has a queue for every traffic class -/
  queues : ∀ p ∈ m_portList, p.m_type = .PHY → PFC_WD_TC_MAX ≤ p.m_queue_ids.length
  queues_inj : ∀ p ∈ m_portList, ∀ p' ∈ m_portList, ∀ (i j : ℕ) (q : sai_object_id_t),
    p.m_queue_ids[i]? = some q → p'.m_queue_ids[j]? = some q → p = p' ∧ i = j
  no_global : ∀ p ∈ m_portList, p.m_alias ≠ PFC_WD_GLOBAL

namespace PortsOrch

def getPort (P : PortsOrch) (name : String) : Option Port :=
  P.m_portList.find? (·.m_alias = name)

def getPortPfc (P : PortsOrch) (portId : sai_object_id_t) : Option ℕ :=
  (P.m_portList.find? fun p => p.m_type = .PHY ∧ p.m_port_id = portId).map (·.m_pfc_bitmask)

end PortsOrch

/-! ### The state -/

/-- The handler of an entry, by the class that was made. -/
inductive Handler where
  | PfcWdActionHandler | DropHandler | ForwardHandler
  deriving DecidableEq

structure PfcWdQueueEntry where
  action : PfcWdAction
  portId : sai_object_id_t
  index : ℕ
  portAlias : String
  handler : Option Handler

/-- `PfcWdSwOrch`, with the two databases that it writes. -/
structure St where
  m_entryMap : Table sai_object_id_t PfcWdQueueEntry
  m_brsEntryMap : Table sai_object_id_t PfcWdQueueEntry
  m_bigRedSwitchFlag : Bool
  /-- the hash of a queue; a hash without fields is not there -/
  countersDb : sai_object_id_t → QueueCounters
  /-- the fields of `PFC_WD_TABLE_INSTORM`, by port and queue index -/
  applDb : Table (String × ℕ) String

def init : St := ⟨∅, ∅, false, fun _ => .empty, ∅⟩

/-- `map::emplace`. -/
def emplace (t : Table sai_object_id_t PfcWdQueueEntry) (k : sai_object_id_t)
    (v : PfcWdQueueEntry) : Table sai_object_id_t PfcWdQueueEntry :=
  if (t.lookup k).isSome then t else t.insert k v

namespace St

def updateCounters (s : St) (queueId : sai_object_id_t) (f : QueueCounters → QueueCounters) : St :=
  { s with countersDb := Function.update s.countersDb queueId (f (s.countersDb queueId)) }

/-! ### The big red switch -/

/-- The handlers of a table are committed. -/
def commitHandlers (s : St) (t : Table sai_object_id_t PfcWdQueueEntry) (periodic : Bool) : St :=
  { s with
    countersDb := fun queueId =>
      if (t.lookup queueId).any (·.handler.isSome) then
        (s.countersDb queueId).commitCounters periodic
      else s.countersDb queueId }

def disableBigRedSwitchMode (s : St) : St :=
  let s := s.commitHandlers s.m_brsEntryMap false
  { s with
    m_bigRedSwitchFlag := false
    countersDb := fun queueId =>
      if (s.m_brsEntryMap.lookup queueId).isSome then
        (s.countersDb queueId).setBigRedSwitch false
      else s.countersDb queueId
    m_brsEntryMap := ∅ }

/-- A loop over the physical ports and their masks; it is left when a mask is not found. -/
def forPorts (P : PortsOrch) (f : Port → ℕ → St → St) : List Port → St → St × Bool
  | [], s => (s, true)
  | port :: ports, s =>
    if port.m_type ≠ .PHY then forPorts P f ports s
    else match P.getPortPfc port.m_port_id with
      | none => (s, false)
      | some pfcMask => forPorts P f ports (f port pfcMask s)

/-- Write to the database that the queues of a port are in BIG_RED_SWITCH mode. -/
def markPort (port : Port) (pfcMask : ℕ) (s : St) : St :=
  (List.range PFC_WD_TC_MAX).foldl (fun s i =>
    if pfcMask.testBit i = false ∧ s.m_entryMap.lookup (port.queue i) = none then s
    else s.updateCounters (port.queue i) (·.setBigRedSwitch true)) s

/-- Make the handler of a queue. -/
def brsQueue (port : Port) (s : St) (i : ℕ) : St :=
  let t := emplace s.m_brsEntryMap (port.queue i)
    ⟨.PFC_WD_ACTION_DROP, port.m_port_id, i, port.m_alias, none⟩
  match t.lookup (port.queue i) with
  | none => s
  | some entry =>
    if entry.handler = none then
      { s with m_brsEntryMap :=
          t.insert (port.queue i) { entry with handler := some .DropHandler } }.updateCounters
        (port.queue i) (·.initCounters)
    else { s with m_brsEntryMap := t }

def brsPort (port : Port) (pfcMask : ℕ) (s : St) : St :=
  ((List.range PFC_WD_TC_MAX).filter pfcMask.testBit).foldl (brsQueue port) s

def enableBigRedSwitchMode (P : PortsOrch) (s : St) : St :=
  let (s, found) := forPorts P markPort P.m_portList { s with m_bigRedSwitchFlag := true }
  if found then
    let s := s.commitHandlers s.m_entryMap false
    let s := { s with m_entryMap := s.m_entryMap.map fun _ entry => { entry with handler := none } }
    (forPorts P brsPort P.m_portList s).1
  else s

def setBigRedSwitchMode (P : PortsOrch) (s : St) (value : String) : St :=
  if value = "enable" then s.enableBigRedSwitchMode P
  else if value = "disable" then s.disableBigRedSwitchMode
  else s

/-! ### Configuration -/

/-- One queue in `registerInWdDb`. -/
def registerQueue (port : Port) (c : PfcWdConf) (s : St) (i : ℕ) : St :=
  let s := s.updateCounters (port.queue i) (·.register c)
  { s with
    m_entryMap := emplace s.m_entryMap (port.queue i)
      ⟨c.action, port.m_port_id, i, port.m_alias, none⟩ }

def registerInWdDb (P : PortsOrch) (s : St) (port : Port) (c : PfcWdConf) : St × Bool :=
  match P.getPortPfc port.m_port_id with
  | none => (s, false)
  | some pfcMask =>
    let losslessTc := (List.range PFC_WD_TC_MAX).filter pfcMask.testBit
    if losslessTc = [] then (s, false)
    else (losslessTc.foldl (registerQueue port c) s, true)

/-- One queue in `unregisterFromWdDb`; a queue that is not there is read all the same, and
`none` stands for what happens then. -/
def unregisterQueue (port : Port) (s : St) (i : ℕ) : Option St :=
  (port.m_queue_ids[i]?).map fun queueId =>
    let s :=
      if (s.m_entryMap.lookup queueId).any (·.handler.isSome) then
        s.updateCounters queueId (·.commitCounters false)
      else s
    { s with m_entryMap := s.m_entryMap.erase queueId }.updateCounters queueId (·.unregister)

def unregisterFromWdDb (s : St) (port : Port) : Option St :=
  (List.range PFC_WD_TC_MAX).foldlM (unregisterQueue port) s

inductive TaskStatus where
  | task_success | task_invalid_entry | task_need_retry
  deriving DecidableEq

/-- The fields of the entry for all ports.  The poll interval goes to syncd only. -/
def setGlobalField (P : PortsOrch) (s : St) (fv : FieldValueTuple) : St :=
  if fv.1 = POLL_INTERVAL_FIELD then s
  else if fv.1 = BIG_RED_SWITCH_FIELD then s.setBigRedSwitchMode P fv.2
  else s

def createEntry (P : PortsOrch) (s : St) (key : String) (data : List FieldValueTuple) :
    St × TaskStatus :=
  if key = PFC_WD_GLOBAL then (data.foldl (setGlobalField P) s, .task_success)
  else match P.getPort key with
    | none => (s, .task_invalid_entry)
    | some port =>
      if port.m_type ≠ .PHY then (s, .task_invalid_entry)
      else match PfcWdConf.parse data with
        | none => (s, .task_invalid_entry)
        | some c =>
          let (s, started) := s.registerInWdDb P port c
          (s, if started then .task_success else .task_need_retry)

/-- `deleteEntry` does not look whether the port was found. -/
def deleteEntry (P : PortsOrch) (s : St) (name : String) : Option St :=
  s.unregisterFromWdDb ((P.getPort name).getD .empty)

/-! ### Storms -/

/-- The handler that an action makes; there is none for an unknown action. -/
def handlerOf : PfcWdAction → Option Handler
  | .PFC_WD_ACTION_ALERT => some .PfcWdActionHandler
  | .PFC_WD_ACTION_DROP => some .DropHandler
  | .PFC_WD_ACTION_FORWARD => some .ForwardHandler
  | .PFC_WD_ACTION_UNKNOWN => none

def startWdActionOnQueue (s : St) (event : String) (queueId : sai_object_id_t) : St × Bool :=
  match s.m_entryMap.lookup queueId with
  | none => (s, false)
  | some entry =>
    if s.m_bigRedSwitchFlag then (s, true)
    else if event = "storm" then
      match handlerOf entry.action with
      | none => (s, false)
      | some handler =>
        if entry.handler = none then
          let s := s.updateCounters queueId (·.initCounters)
          ({ s with
              m_entryMap := s.m_entryMap.insert queueId { entry with handler := some handler }
              applDb := s.applDb.insert (entry.portAlias, entry.index) PFC_WD_IN_STORM }, true)
        else (s, true)
    else if event = "restore" then
      if entry.handler ≠ none then
        let s := s.updateCounters queueId (·.commitCounters false)
        ({ s with
            m_entryMap := s.m_entryMap.insert queueId { entry with handler := none }
            applDb := s.applDb.erase (entry.portAlias, entry.index) }, true)
      else (s, true)
    else (s, false)

/-- A field of a task of `PFC_WD_TABLE`: the number of a queue, and its status. -/
def replayField (port : Port) (s : St) (fv : ℤ × String) : St :=
  if fv.1 < 0 ∨ (port.m_queue_ids.length : ℤ) ≤ fv.1 then s
  else if fv.2 ≠ PFC_WD_IN_STORM then s
  else (s.startWdActionOnQueue PFC_WD_IN_STORM (port.queue fv.1.toNat)).1

/-- A task of `PFC_WD_TABLE`, less the fields that are no numbers. -/
def replay (P : PortsOrch) (s : St) (key : String) (fvs : List (ℤ × String)) : St :=
  match P.getPort key with
  | none => s
  | some port => if port.m_type ≠ .PHY then s else fvs.foldl (replayField port) s

/-! ### Warm restart -/

/-- A new orch, with the databases of the old one. -/
def restart (s : St) : St :=
  { init with
    countersDb := fun queueId => (s.countersDb queueId).bake
    applDb := s.applDb }

/-- `bake` and the first `doTask` of a new orch: the configuration, then the recorded storms. -/
def warmStart (P : PortsOrch) (s : St) (cfg : List (String × List FieldValueTuple)) : St :=
  let s := cfg.foldl (fun s task => (s.createEntry P task.1 task.2).1) s.restart
  s.applDb.entries.foldl (fun s record =>
    s.replay P record.1.1 [((record.1.2 : ℤ), record.2)]) s

end St

end Orchagent.PfcWd
