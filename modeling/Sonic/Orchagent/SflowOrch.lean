/-
Orchagent/SflowOrch.lean

The sample sessions of the ports (`SflowOrch`).

Ports with one rate share a session, an object of the ASIC, which counts its ports.  A turn of
the loop over the pending tasks first looks up the port of the alias.  The variable that takes
the port is declared before the loop: when the alias is unknown it still holds the port of the
turn before, or a default one in the first turn.
-/
import Sonic.Lib.Table
import Sonic.Lib.Transition
import Sonic.Orchagent.CoppOrch

namespace Orchagent.Sflow

open Std (ExtTreeMap)
open Swss
open Copp (sai_object_id_t SAI_NULL_OBJECT_ID stoul)

/-! ### The data -/

structure SflowPortInfo where
  admin_state : Bool
  m_sample_id : sai_object_id_t
  deriving DecidableEq

structure SflowSession where
  m_sample_id : sai_object_id_t
  ref_count : UInt32
  deriving DecidableEq

/-- What the ASIC holds. -/
structure Asic where
  /-- the sample packet objects and their rates -/
  samplepackets : ExtTreeMap sai_object_id_t UInt32
  /-- `SAI_PORT_ATTR_INGRESS_SAMPLEPACKET_ENABLE` of the ports -/
  INGRESS_SAMPLEPACKET_ENABLE : sai_object_id_t → sai_object_id_t

structure St where
  /-- `m_port_id` of the ports of `gPortsOrch` -/
  m_portList : String → Option sai_object_id_t
  m_sflowPortInfoMap : Table sai_object_id_t SflowPortInfo
  m_sflowRateSampleMap : ExtTreeMap UInt32 SflowSession
  m_sflowStatus : Bool
  /-- `m_port_id` of the variable `port` -/
  port : sai_object_id_t
  asic : Asic

def init : St := ⟨fun _ => none, ∅, ∅, false, SAI_NULL_OBJECT_ID, ⟨∅, fun _ => SAI_NULL_OBJECT_ID⟩⟩

/-- The answers of the ASIC to the calls of one turn, which makes each at most once. -/
structure Answers where
  create_samplepacket : Option sai_object_id_t
  /-- to setting a session on a port -/
  addPort : Bool
  /-- to clearing the session of a port -/
  delPort : Bool
  remove_samplepacket : Bool

/-! ### Calls to the ASIC -/

variable (s : St) (ans : Answers)

def sflowCreateSession (rate : UInt32) : Option (SflowSession × St) :=
  ans.create_samplepacket.map fun session_id =>
    (⟨session_id, 0⟩,
      { s with asic.samplepackets := s.asic.samplepackets.insert session_id rate })

def sflowDestroySession (session : SflowSession) : St × Bool :=
  if ans.remove_samplepacket then
    ({ s with asic.samplepackets := s.asic.samplepackets.erase session.m_sample_id }, true)
  else (s, false)

/-- `set_port_attribute` that succeeds. -/
def setPort (sample_id port_id : sai_object_id_t) : St :=
  { s with asic.INGRESS_SAMPLEPACKET_ENABLE :=
      Function.update s.asic.INGRESS_SAMPLEPACKET_ENABLE port_id sample_id }

def sflowAddPort (sample_id port_id : sai_object_id_t) : St × Bool :=
  if ans.addPort then (setPort s sample_id port_id, true) else (s, false)

def sflowDelPort (port_id : sai_object_id_t) : St × Bool :=
  if ans.delPort then (setPort s SAI_NULL_OBJECT_ID port_id, true) else (s, false)

/-! ### Sessions -/

/-- The first rate, in their order, whose session is `m_sample_id`. -/
def sflowSessionGetRate (m_sample_id : sai_object_id_t) : UInt32 :=
  ((s.m_sflowRateSampleMap.toList.find? fun it => it.2.m_sample_id = m_sample_id).map (·.1)).getD 0

/-- The session of a rate, created if there is none. -/
def findSession (rate : UInt32) : Option (SflowSession × St) :=
  match s.m_sflowRateSampleMap[rate]? with
  | some session => some (session, s)
  | none => (sflowCreateSession s ans rate).map fun (session, s) =>
    (session, { s with m_sflowRateSampleMap := s.m_sflowRateSampleMap.insert rate session })

/-- `m_sflowRateSampleMap[rate]` -/
def sessionAt (rate : UInt32) : SflowSession := (s.m_sflowRateSampleMap[rate]?).getD ⟨0, 0⟩

/-- `m_sflowRateSampleMap[rate].ref_count = f(ref_count)` -/
def count (rate : UInt32) (f : UInt32 → UInt32) : St :=
  let session := { sessionAt s rate with ref_count := f (sessionAt s rate).ref_count }
  { s with m_sflowRateSampleMap := s.m_sflowRateSampleMap.insert rate session }

/-- One port less has the session of a rate, which is destroyed with the last one. -/
def release (rate : UInt32) : St × Bool :=
  let s := count s rate (· - 1)
  if (sessionAt s rate).ref_count = 0 then
    match sflowDestroySession s ans (sessionAt s rate) with
    | (s, true) => ({ s with m_sflowRateSampleMap := s.m_sflowRateSampleMap.erase rate }, true)
    | (s, false) => (s, false)
  else (s, true)

def setInfo (port_id : sai_object_id_t) (port_info : SflowPortInfo) : St :=
  { s with m_sflowPortInfoMap := s.m_sflowPortInfoMap.insert port_id port_info }

def dropInfo (port_id : sai_object_id_t) : St :=
  { s with m_sflowPortInfoMap := s.m_sflowPortInfoMap.erase port_id }

/-- `sflowUpdateRate`, for a port with an entry.  That the old session is not destroyed is only
logged. -/
def sflowUpdateRate (port_id : sai_object_id_t) (port_info : SflowPortInfo) (rate : UInt32) :
    St × Bool :=
  let old_rate := sflowSessionGetRate s port_info.m_sample_id
  match findSession s ans rate with
  | none => (s, false)
  | some (new_session, s) =>
    match (if port_info.admin_state then sflowAddPort s ans new_session.m_sample_id port_id
      else (s, true)) with
    | (s, false) => (s, false)
    | (s, true) =>
      let s := setInfo s port_id { port_info with m_sample_id := new_session.m_sample_id }
      ((release (count s rate (· + 1)) ans old_rate).1, true)

def handleSflowSessionDel (port_id : sai_object_id_t) : St × Bool :=
  match s.m_sflowPortInfoMap.lookup port_id with
  | none => (s, true)
  | some sflowInfo =>
    let rate := sflowSessionGetRate s sflowInfo.m_sample_id
    match (if sflowInfo.admin_state then sflowDelPort s ans port_id else (s, true)) with
    | (s, false) => (s, false)
    | (s, true) => release (dropInfo s port_id) ans rate

/-! ### Tasks -/

/-- `sflowExtractInfo`: the administrative state and the rate; there is none if `stoul` throws,
which leaves the state as the fields before have set it. -/
def sflowExtractInfo : List FieldValueTuple → Bool → UInt32 → Bool × Option UInt32
  | [], admin, rate => (admin, some rate)
  | i :: fvs, admin, rate =>
    if i.1 = "admin_state" then
      if i.2 = "up" then sflowExtractInfo fvs true rate
      else if i.2 = "down" then sflowExtractInfo fvs false rate
      else sflowExtractInfo fvs admin rate
    else if i.1 = "sample_rate" then
      if i.2 ≠ "error" then
        match stoul i.2 with
        | none => (admin, none)
        | some n => sflowExtractInfo fvs admin (UInt32.ofNat n)
      else sflowExtractInfo fvs admin 0
    else sflowExtractInfo fvs admin rate

/-- A task of the table for all ports (`sflowStatusSet`). -/
def sflowStatusSet (t : KeyOpFieldsValuesTuple) : St :=
  if t.kfvOp = SET_COMMAND then
    { s with m_sflowStatus := (sflowExtractInfo t.kfvFieldsValues s.m_sflowStatus 0).1 }
  else if t.kfvOp = DEL_COMMAND then { s with m_sflowStatus := false }
  else s

/-- What becomes of a task: it is erased, it is kept for the next pass, or the pass ends. -/
inductive Move where
  | erase | keep | leave
  deriving DecidableEq

/-- A turn went well, or its task is kept. -/
def moved : St × Bool → St × Move
  | (s, true) => (s, .erase)
  | (s, false) => (s, .keep)

/-- A SET for a port without entry. -/
def addInfo (port_id : sai_object_id_t) (admin_state : Bool) (rate : UInt32) : St × Bool :=
  if rate = 0 then (s, false)
  else
    match findSession s ans rate with
    | none => (s, false)
    | some (session, s) =>
      match (if admin_state then sflowAddPort s ans session.m_sample_id port_id
        else (s, true)) with
      | (s, false) => (s, false)
      | (s, true) =>
        (count (setInfo s port_id ⟨admin_state, session.m_sample_id⟩) rate (· + 1), true)

/-- The administrative state of a port with an entry. -/
def setAdmin (port_id : sai_object_id_t) (admin_state : Bool) : St × Bool :=
  match s.m_sflowPortInfoMap.lookup port_id with
  | none => (s, true)
  | some sflowInfo =>
    if admin_state ≠ sflowInfo.admin_state then
      match (if admin_state then sflowAddPort s ans sflowInfo.m_sample_id port_id
        else sflowDelPort s ans port_id) with
      | (s, false) => (s, false)
      | (s, true) => (setInfo s port_id { sflowInfo with admin_state }, true)
    else (s, true)

/-- A SET for a port with an entry. -/
def updateInfo (port_id : sai_object_id_t) (sflowInfo : SflowPortInfo) (admin_state : Bool)
    (rate : UInt32) : St × Bool :=
  match (if rate ≠ sflowSessionGetRate s sflowInfo.m_sample_id then
      sflowUpdateRate s ans port_id sflowInfo rate else (s, true)) with
  | (s, false) => (s, false)
  | (s, true) => setAdmin s ans port_id admin_state

/-- What a SET wants for the port of the variable: the fields it does not name are those of the
entry. -/
def wanted (t : KeyOpFieldsValuesTuple) : Bool × Option UInt32 :=
  match s.m_sflowPortInfoMap.lookup s.port with
  | some sflowInfo => sflowExtractInfo t.kfvFieldsValues sflowInfo.admin_state
      (sflowSessionGetRate s sflowInfo.m_sample_id)
  | none => sflowExtractInfo t.kfvFieldsValues s.m_sflowStatus 0

def handleSet (t : KeyOpFieldsValuesTuple) : St × Move :=
  if s.m_sflowStatus then
    match wanted s t with
    | (_, none) => (s, .leave)
    | (admin_state, some rate) =>
      match s.m_sflowPortInfoMap.lookup s.port with
      | none => moved (addInfo s ans s.port admin_state rate)
      | some sflowInfo => moved (updateInfo s ans s.port sflowInfo admin_state rate)
  else (s, .leave)

/-- `getPort` into the variable, which an unknown alias leaves as it is. -/
def getPort (port_alias : String) : St :=
  { s with port := (s.m_portList port_alias).getD s.port }

/-- A turn of the loop. -/
def turn (t : KeyOpFieldsValuesTuple) : St × Move :=
  let s := getPort s t.kfvKey
  if t.kfvOp = SET_COMMAND then handleSet s ans t
  else if t.kfvOp = DEL_COMMAND then moved (handleSflowSessionDel s ans s.port)
  else (s, .erase)

/-- The rest of a pass, and the tasks that it leaves. -/
def loop (s : St) : List (KeyOpFieldsValuesTuple × Answers) → St × List KeyOpFieldsValuesTuple
  | [] => (s, [])
  | (t, ans) :: todo =>
    match turn s ans t with
    | (s, .erase) => loop s todo
    | (s, .keep) => ((loop s todo).1, t :: (loop s todo).2)
    | (s, .leave) => (s, t :: todo.map (·.1))

/-- A pass begins: `port` is a default one. -/
def enter : St := { s with port := SAI_NULL_OBJECT_ID }

/-- A pass over the pending tasks of the sessions. -/
def doTask (todo : List (KeyOpFieldsValuesTuple × Answers)) : St × List KeyOpFieldsValuesTuple :=
  loop (enter s) todo

/-! ### Steps -/

inductive Event where
  /-- the ports of `gPortsOrch` have become others -/
  | ports (m_portList : String → Option sai_object_id_t)
  /-- a task of the table for all ports -/
  | status (t : KeyOpFieldsValuesTuple)
  /-- a pass over the sessions begins -/
  | enter
  /-- a turn of such a pass -/
  | turn (t : KeyOpFieldsValuesTuple) (ans : Answers)

def next : Event → St
  | .ports m_portList => { s with m_portList }
  | .status t => sflowStatusSet s t
  | .enter => Sflow.enter s
  | .turn t ans => (Sflow.turn s ans t).1

/-- The ASIC gives an object that is created an id that no object has, and not the null one. -/
def Fresh : Event → Prop
  | .turn _ ans => ∀ id, ans.create_samplepacket = some id →
      id ≠ SAI_NULL_OBJECT_ID ∧ id ∉ s.asic.samplepackets
  | _ => True

/-- The steps. -/
def Step (s : St) (e : Event) (s' : St) : Prop := Fresh s e ∧ s' = next s e

end Orchagent.Sflow
