/-
Orchagent/PortsOrch.lean

The attributes of a port: the SET tasks of `PORT_TABLE` (`PortsOrch::doPortTask`).

The fields of a SET are read one after the other, and then applied attribute by attribute: an
attribute that is remembered with another value in `m_portList` is set in the ASIC.  Where SAI
refuses, the task is left for another attempt, and what has been applied stays.  A task that
is pending is combined with the SETs that come in.

The model is of one port after the ports have been configured and initialized.  Every port
has SAI objects of its own, so that a task reads and writes what is of its port only.
-/
import Sonic.Lib.CInteger
import Sonic.Orchagent.Consumer
import Sonic.Orchagent.CoppOrch

namespace Orchagent.Ports

open Swss
open Copp (sai_object_id_t SAI_NULL_OBJECT_ID stoul)

/-! ### Values -/

/-- `sai_port_fec_mode_t`. -/
inductive sai_port_fec_mode_t where
  | NONE | RS | FC
  deriving DecidableEq

/-- `sai_port_priority_flow_control_mode_t`. -/
inductive sai_port_priority_flow_control_mode_t where
  | COMBINED | SEPARATE
  deriving DecidableEq

/-- `sai_bridge_port_fdb_learning_mode_t`. -/
inductive sai_bridge_port_fdb_learning_mode_t where
  | DROP | DISABLE | HW | CPU_TRAP | CPU_LOG | FDB_NOTIFICATION
  deriving DecidableEq

def fec_mode_map : String → Option sai_port_fec_mode_t
  | "none" => some .NONE
  | "rs" => some .RS
  | "fc" => some .FC
  | _ => none

def pfc_asym_map : String → Option sai_port_priority_flow_control_mode_t
  | "on" => some .SEPARATE
  | "off" => some .COMBINED
  | _ => none

def learn_mode_map : String → Option sai_bridge_port_fdb_learning_mode_t
  | "drop" => some .DROP
  | "disable" => some .DISABLE
  | "hardware" => some .HW
  | "cpu_trap" => some .CPU_TRAP
  | "cpu_log" => some .CPU_LOG
  | "notification" => some .FDB_NOTIFICATION
  | _ => none

/-- What is remembered of a port: its entry of `m_portList`. -/
structure Port where
  m_mtu : UInt32
  m_speed : UInt32
  m_learn_mode : String
  m_autoneg : Bool
  m_admin_state_up : Bool
  m_fec_mode : sai_port_fec_mode_t
  m_bridge_port_id : sai_object_id_t
  m_pfc_asym : sai_port_priority_flow_control_mode_t
  m_pfc_bitmask : UInt8

/-- The attributes of the port in the ASIC, and the learn mode of its bridge port. -/
structure Asic where
  ADMIN_STATE : Bool
  AUTO_NEG_MODE : Bool
  SPEED : UInt32
  ADVERTISED_SPEED : List UInt32
  MTU : UInt32
  FEC_MODE : sai_port_fec_mode_t
  FDB_LEARNING_MODE : sai_bridge_port_fdb_learning_mode_t
  PRIORITY_FLOW_CONTROL_MODE : sai_port_priority_flow_control_mode_t
  PRIORITY_FLOW_CONTROL : UInt8
  PRIORITY_FLOW_CONTROL_TX : UInt8
  PRIORITY_FLOW_CONTROL_RX : UInt8
  SERDES_PREEMPHASIS : List UInt32
  SERDES_IDRIVER : List UInt32
  SERDES_IPREDRIVER : List UInt32

/-! ### Fields -/

/-- The variables that the fields of a SET are read to. -/
structure PortFields where
  an : ℤ := -1
  speed : UInt32 := 0
  mtu : UInt32 := 0
  fec_mode : String := ""
  learn_mode : String := ""
  pfc_asym : String := ""
  pre_emphasis : List UInt32 := []
  idriver : List UInt32 := []
  ipredriver : List UInt32 := []
  admin_status : String := ""

/-- `(uint32_t)stoul`; `none` is an exception. -/
def readU32 (value : String) : Option UInt32 := (stoul value).map UInt32.ofNat

/-- `(int)stoul`. -/
def readInt32 (value : String) : Option ℤ :=
  (stoul value).map fun n => (BitVec.ofNat 32 n).toInt

/-- `(uint32_t)stoul` in base sixteen. -/
def readHex (value : String) : Option UInt32 :=
  let r := Numeral.strtoull value.toList true
  if r.endptr = value.toList ∨ r.erange then none else some (UInt32.ofNat r.number)

/-- `getPortSerdesVal`. -/
def getPortSerdesVal (val_str : String) : Option (List UInt32) :=
  (tokenize val_str ',').mapM readHex

/-- The lanes: they matter only before the ports are configured. -/
def readLanes (value : String) : Option (List ℤ) :=
  (tokenize value ',').mapM fun lane_str => Numeral.stoi lane_str.toList

/-- One field of a SET; `none` is an exception. -/
def readField (r : PortFields) (i : FieldValueTuple) : Option PortFields :=
  if i.1 = "lanes" then (readLanes i.2).map fun _ => r
  else if i.1 = "admin_status" then some { r with admin_status := i.2 }
  else if i.1 = "mtu" then (readU32 i.2).map fun mtu => { r with mtu }
  else if i.1 = "speed" then (readU32 i.2).map fun speed => { r with speed }
  else if i.1 = "fec" then some { r with fec_mode := i.2 }
  else if i.1 = "learn_mode" then some { r with learn_mode := i.2 }
  else if i.1 = "pfc_asym" then some { r with pfc_asym := i.2 }
  else if i.1 = "autoneg" then (readInt32 i.2).map fun an => { r with an }
  else if i.1 = "preemphasis" then
    (getPortSerdesVal i.2).map fun vals => { r with pre_emphasis := r.pre_emphasis ++ vals }
  else if i.1 = "idriver" then
    (getPortSerdesVal i.2).map fun vals => { r with idriver := r.idriver ++ vals }
  else if i.1 = "ipredriver" then
    (getPortSerdesVal i.2).map fun vals => { r with ipredriver := r.ipredriver ++ vals }
  else some r

/-- The fields of a SET. -/
def readFields (fields : List FieldValueTuple) : Option PortFields :=
  fields.foldlM readField {}

/-! ### Attempts -/

/-- What SAI, and the buffer configuration, answer in an attempt: every call is made once at
most, but for the admin state. -/
structure Answers where
  isPortReady : Bool
  isSpeedSupported : Bool
  setPortAutoNeg : Bool
  setPortAdvSpeed : Bool
  /-- the port is brought down to set its speed -/
  setPortAdminDown : Bool
  setPortSpeed : Bool
  setPortMtu : Bool
  setPortFec : Bool
  setBridgePortLearnMode : Bool
  setPfcMode : Bool
  setPortPfc : Bool
  setPfcRx : Bool
  setPreemphasis : Bool
  setIdriver : Bool
  setIpredriver : Bool
  setPortAdminStatus : Bool

/-- An attempt on a task: `p` is the copy that is worked on, `saved` the entry of `m_portList`. -/
structure Attempt where
  p : Port
  saved : Port
  asic : Asic
  fields : PortFields
  task : List FieldValueTuple

/-- What an attribute comes to: the attempt goes on, or the task is left. -/
abbrev Result := Except Attempt Attempt

/-- `m_portList[alias] = p`. -/
def Attempt.save (a : Attempt) : Attempt := { a with saved := a.p }

section Attributes

variable (answers : Answers) (a : Attempt)

/-- The new auto negotiation, and the speed that has to be applied again: the task is modified
in place. -/
def applyAutoNeg : Result :=
  if a.fields.an ≠ -1 ∧ a.fields.an ≠ (if a.p.m_autoneg then 1 else 0) then
    if answers.setPortAutoNeg then
      let p := { a.p with m_autoneg := decide (a.fields.an ≠ 0) }
      let asic := { a.asic with AUTO_NEG_MODE := decide (a.fields.an = 1) }
      let new_speed := if a.fields.speed ≠ 0 then a.fields.speed else p.m_speed
      if new_speed ≠ 0 then
        .ok ⟨{ p with m_speed := 0 }, p, asic, { a.fields with speed := new_speed },
          a.task ++ [("speed", String.ofList (Numeral.to_string new_speed.toNat))]⟩
      else .ok ⟨{ p with m_speed := 0 }, p, asic, a.fields, a.task⟩
    else .error a
  else .ok a

/-- The speed is set, and remembered. -/
def setPortSpeed : Result :=
  if answers.setPortSpeed then
    .ok { a with
      asic := { a.asic with SPEED := a.fields.speed }
      p := { a.p with m_speed := a.fields.speed } }.save
  else .error a

/-- The speed: what is advertised if auto negotiation is on, else the speed of the port, which
is brought down before. -/
def applySpeed : Result :=
  if a.fields.speed ≠ 0 ∧ a.fields.speed ≠ a.p.m_speed then
    let a := a.save
    if a.p.m_autoneg then
      if answers.setPortAdvSpeed then
        .ok { a with
          asic := { a.asic with ADVERTISED_SPEED := [a.fields.speed] }
          p := { a.p with m_speed := a.fields.speed } }.save
      else .error a
    else if ¬ answers.isSpeedSupported then .error a
    else if a.p.m_admin_state_up then
      if answers.setPortAdminDown then
        setPortSpeed answers { a with
          asic := { a.asic with ADMIN_STATE := false }
          p := { a.p with m_admin_state_up := false } }.save
      else .error a
    else setPortSpeed answers a
  else .ok a

/-- `mtu + sizeof(struct ether_header) + FCS_LEN + VLAN_TAG_LEN`. -/
def frameSize (mtu : UInt32) : UInt32 := mtu + 22

def applyMtu : Result :=
  if a.fields.mtu ≠ 0 ∧ a.fields.mtu ≠ a.p.m_mtu then
    if answers.setPortMtu then
      .ok { a with
        asic := { a.asic with MTU := frameSize a.fields.mtu }
        p := { a.p with m_mtu := a.fields.mtu } }.save
    else .error a
  else .ok a

/-- A mode that is not known is let go. -/
def applyFec : Result :=
  if a.fields.fec_mode ≠ "" then
    match fec_mode_map a.fields.fec_mode with
    | none => .ok a
    | some mode =>
      if a.p.m_fec_mode ≠ mode then
        let a := { a with p := { a.p with m_fec_mode := mode } }
        if answers.setPortFec then
          .ok { a with asic := { a.asic with FEC_MODE := mode } }.save
        else .error a
      else .ok a
  else .ok a

/-- Without a bridge port the mode is only remembered. -/
def applyLearnMode : Result :=
  if a.fields.learn_mode ≠ "" ∧ a.p.m_learn_mode ≠ a.fields.learn_mode then
    let remembered := { a with p := { a.p with m_learn_mode := a.fields.learn_mode } }
    if a.p.m_bridge_port_id ≠ SAI_NULL_OBJECT_ID then
      match learn_mode_map a.fields.learn_mode with
      | none => .error a
      | some mode =>
        if answers.setBridgePortLearnMode then
          .ok { remembered with asic := { a.asic with FDB_LEARNING_MODE := mode } }.save
        else .error a
    else .ok remembered.save
  else .ok a

/-- `setPortPfc`, which sets the attribute that goes with the mode of `m_portList`. -/
def setPortPfc (pfc_bitmask : UInt8) : Result :=
  if answers.setPortPfc then
    match a.saved.m_pfc_asym with
    | .COMBINED => .ok { a with asic := { a.asic with PRIORITY_FLOW_CONTROL := pfc_bitmask } }
    | .SEPARATE => .ok { a with asic := { a.asic with PRIORITY_FLOW_CONTROL_TX := pfc_bitmask } }
  else .error a

/-- The bits of the received frames, if the directions are separate. -/
def setPfcRx : Result :=
  match a.p.m_pfc_asym with
  | .COMBINED => .ok a
  | .SEPARATE =>
    if answers.setPfcRx then
      .ok { a with asic := { a.asic with PRIORITY_FLOW_CONTROL_RX := 0xff } }
    else .error a

/-- `setPortPfcAsym`: the mode is remembered before it is set. -/
def setPortPfcAsym : Result :=
  let pfc := a.saved.m_pfc_bitmask
  match pfc_asym_map a.fields.pfc_asym with
  | none => .error a
  | some new_pfc_asym =>
    if a.p.m_pfc_asym = new_pfc_asym then .ok a
    else
      let a := { a with p := { a.p with m_pfc_asym := new_pfc_asym } }.save
      if answers.setPfcMode then do
        let a ← setPortPfc answers
          { a with asic := { a.asic with PRIORITY_FLOW_CONTROL_MODE := new_pfc_asym } } pfc
        setPfcRx answers a
      else .error a

def applyPfcAsym : Result :=
  if a.fields.pfc_asym ≠ "" then setPortPfcAsym answers a else .ok a

/-- A serdes attribute: it is not remembered, and set by every SET that has it. -/
def setPortSerdesAttribute (serdes_val : List UInt32) (answer : Bool) (asic : Asic) : Result :=
  if serdes_val ≠ [] then
    if answer then .ok { a with asic } else .error a
  else .ok a

def applyPreemphasis : Result :=
  setPortSerdesAttribute a a.fields.pre_emphasis answers.setPreemphasis
    { a.asic with SERDES_PREEMPHASIS := a.fields.pre_emphasis }

def applyIdriver : Result :=
  setPortSerdesAttribute a a.fields.idriver answers.setIdriver
    { a.asic with SERDES_IDRIVER := a.fields.idriver }

def applyIpredriver : Result :=
  setPortSerdesAttribute a a.fields.ipredriver answers.setIpredriver
    { a.asic with SERDES_IPREDRIVER := a.fields.ipredriver }

def applyAdminStatus : Result :=
  let up := decide (a.fields.admin_status = "up")
  if a.fields.admin_status ≠ "" ∧ a.p.m_admin_state_up ≠ up then
    if answers.setPortAdminStatus then
      .ok { a with
        asic := { a.asic with ADMIN_STATE := up }
        p := { a.p with m_admin_state_up := up } }.save
    else .error a
  else .ok a

/-- The attributes in the order of the source. -/
def applyFields : Result := do
  let a ← applyAutoNeg answers a
  let a ← applySpeed answers a
  let a ← applyMtu answers a
  let a ← applyFec answers a
  let a ← applyLearnMode answers a
  let a ← applyPfcAsym answers a
  let a ← applyPreemphasis answers a
  let a ← applyIdriver answers a
  let a ← applyIpredriver answers a
  applyAdminStatus answers a

end Attributes

/-! ### Tasks -/

/-- A port, and its task in `m_toSync`. -/
structure St where
  port : Port
  asic : Asic
  pending : Option KeyOpFieldsValuesTuple

/-- `doPortTask` on the task of the port; `none` is an exception. -/
def doPortTask (answers : Answers) (s : St) : Option St :=
  match s.pending with
  | none => some s
  | some t =>
    if t.kfvOp = SET_COMMAND then
      match readFields t.kfvFieldsValues with
      | none => none
      | some fields =>
        if ¬ answers.isPortReady then some s
        else
          match applyFields answers ⟨s.port, s.port, s.asic, fields, t.kfvFieldsValues⟩ with
          | .ok a => some ⟨a.saved, a.asic, none⟩
          | .error a => some ⟨a.saved, a.asic, some ⟨t.kfvKey, t.kfvOp, a.task⟩⟩
    else some { s with pending := none }

/-- What happens to the port: an entry of the table comes in, or its task is attempted. -/
inductive Event where
  | receive (entry : KeyOpFieldsValuesTuple)
  | attempt (answers : Answers)

def step (s : St) : Event → Option St
  | .receive entry => some { s with pending := addToSlot s.pending entry }
  | .attempt answers => doPortTask answers s

end Orchagent.Ports
