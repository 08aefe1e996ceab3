/-
Orchagent/VlanOrch.lean

The VLANs of the ports orch (`PortsOrch::doVlanTask`, portsorch.cpp).

A VLAN is found in `m_portList` by the name that is made from the number in the key, and the
ASIC knows it by an object and by an id of 16 bits.  The number is read by `stoi`, which skips
blanks, takes a sign and stops at the first character that is no digit; nothing compares it
with the ids that a VLAN can have.  A `Port` that `getPort` has not found is a fresh one.
-/
import Sonic.Common.Table
import Sonic.Lib.CInteger
import Sonic.Orchagent.CoppOrch
import Sonic.Orchagent.Sweep

namespace Orchagent.Vlan

open Numeral Swss
open Copp (sai_object_id_t stoul)

/-! ### Names -/

def VLAN_PREFIX : List Char := ['V', 'l', 'a', 'n']

/-- `VLAN_PREFIX + to_string(vlan_id)` -/
def vlanAlias (vlan_id : ℤ) : String := String.ofList (VLAN_PREFIX ++ to_string vlan_id)

/-- `substr(4)` -/
def suffix (key : String) : List Char := key.toList.drop 4

/-! ### The state -/

inductive PortType
  | CPU | PHY | MGMT | LOOPBACK | VLAN | LAG | SUBPORT | UNKNOWN
deriving DecidableEq

def DEFAULT_MTU : UInt32 := 1492

/-- The fields of `Port` that the VLANs use.  The constructor without arguments leaves `m_type`
as it is in memory; nothing that is modelled here reads it there. -/
structure Port where
  m_alias : String := ""
  m_type : PortType := .UNKNOWN
  m_mtu : UInt32 := DEFAULT_MTU
  vlan_oid : sai_object_id_t := 0
  vlan_id : ℕ := 0
  m_rif_id : sai_object_id_t := 0
  m_ingress_acl_table_group_id : sai_object_id_t := 0
  m_egress_acl_table_group_id : sai_object_id_t := 0
  m_members : Finset String := ∅
deriving DecidableEq

/-- The ports by their names, the counts of their users, and the VLANs of the ASIC: the id of
each object.  `next` is the object id that the ASIC gives out next. -/
structure PortsOrch where
  m_portList : String → Option Port
  m_port_ref_count : String → Option UInt32
  asic : sai_object_id_t → Option ℕ
  next : sai_object_id_t

/-- What SAI answers to the calls for one task: the creation or the removal of the VLAN, and
the removal of its ingress group. -/
structure Answers where
  vlan : Bool
  ingress : Bool

inductive SaiCall
  | create_vlan (vlan_id : ℕ)
  | remove_vlan (vlan_oid : sai_object_id_t)
  | set_router_interface_mtu (rif_id : sai_object_id_t) (mtu : UInt32)
  | remove_acl_table_group (group_id : sai_object_id_t)
deriving DecidableEq

namespace PortsOrch

/-! ### One VLAN -/

/-- `PortsOrch::addVlan`: the status and the call; `none` is an exception. -/
def addVlan (orch : PortsOrch) (vlan_alias : String) (answers : Answers) :
    Option (PortsOrch × List SaiCall × Bool) :=
  match stoi (suffix vlan_alias) with
  | none => none
  | some n =>
    let vlan_id := (n % 2 ^ 16).toNat
    if answers.vlan then
      let vlan : Port :=
        { m_alias := vlan_alias, m_type := .VLAN, vlan_oid := orch.next, vlan_id := vlan_id }
      some
        ({ m_portList := Function.update orch.m_portList vlan_alias (some vlan)
           m_port_ref_count := Function.update orch.m_port_ref_count vlan_alias (some 0)
           asic := Function.update orch.asic orch.next (some vlan_id)
           next := orch.next + 1 }, [.create_vlan vlan_id], true)
    else some (orch, [.create_vlan vlan_id], false)

/-- `PortsOrch::removeAclTableGroup`: the calls that it makes. -/
def removeAclTableGroup (p : Port) (ingress : Bool) : List SaiCall :=
  let egress : List SaiCall :=
    if p.m_egress_acl_table_group_id ≠ 0 then
      [.remove_acl_table_group p.m_egress_acl_table_group_id]
    else []
  match p.m_type with
  | .PHY | .LAG | .VLAN =>
    if p.m_ingress_acl_table_group_id ≠ 0 then
      .remove_acl_table_group p.m_ingress_acl_table_group_id :: if ingress then egress else []
    else egress
  | _ => []

/-- `PortsOrch::removeVlan`.  `m_port_ref_count[alias]` makes a count that is not there. -/
def removeVlan (orch : PortsOrch) (vlan : Port) (answers : Answers) :
    PortsOrch × List SaiCall × Bool :=
  let count := (orch.m_port_ref_count vlan.m_alias).getD 0
  let orch := { orch with
    m_port_ref_count := Function.update orch.m_port_ref_count vlan.m_alias (some count) }
  if 0 < count then (orch, [], false)
  else if vlan.m_members.Nonempty then (orch, [], false)
  else if answers.vlan then
    ({ orch with
        m_portList := Function.update orch.m_portList vlan.m_alias none
        m_port_ref_count := Function.update orch.m_port_ref_count vlan.m_alias none
        asic := Function.update orch.asic vlan.vlan_oid none },
      .remove_vlan vlan.vlan_oid :: removeAclTableGroup vlan answers.ingress, true)
  else (orch, [.remove_vlan vlan.vlan_oid], false)

/-! ### One task -/

/-- How the loop goes on: the task is erased, it stays in `m_toSync`, or an exception leaves
the loop. -/
inductive Done
  | erased | kept | thrown
deriving DecidableEq

structure Result where
  orch : PortsOrch
  calls : List SaiCall
  done : Done

/-- The MTU of a SET, zero if it has none; `none` is an exception. -/
def mtuOf (fvs : List FieldValueTuple) : Option UInt32 :=
  fvs.foldlM
    (fun mtu i => if i.1 = "mtu" then (stoul i.2).map UInt32.ofNat else some mtu) 0

/-- "Process attributes" -/
def processAttributes (orch : PortsOrch) (vlan_alias : String) (mtu : UInt32) :
    PortsOrch × List SaiCall :=
  match orch.m_portList vlan_alias with
  | none => (orch, [])
  | some vl =>
    if mtu ≠ 0 then
      ({ orch with
          m_portList :=
            Function.update orch.m_portList vlan_alias (some { vl with m_mtu := mtu }) },
        if vl.m_rif_id ≠ 0 then [.set_router_interface_mtu vl.m_rif_id mtu] else [])
    else (orch, [])

/-- The branch of SET. -/
def setVlan (orch : PortsOrch) (vlan_alias : String) (mtu : UInt32) (answers : Answers) :
    Result :=
  match orch.m_portList vlan_alias with
  | some _ =>
    let r := orch.processAttributes vlan_alias mtu
    ⟨r.1, r.2, .erased⟩
  | none =>
    match orch.addVlan vlan_alias answers with
    | none => ⟨orch, [], .thrown⟩
    | some (orch, calls, false) => ⟨orch, calls, .kept⟩
    | some (orch, calls, true) =>
      let r := orch.processAttributes vlan_alias mtu
      ⟨r.1, calls ++ r.2, .erased⟩

/-- The branch of DEL.  What `getPort` answers is not looked at. -/
def delVlan (orch : PortsOrch) (vlan_alias : String) (answers : Answers) : Result :=
  let vlan := (orch.m_portList vlan_alias).getD {}
  let r := orch.removeVlan vlan answers
  ⟨r.1, r.2.1, if r.2.2 then .erased else .kept⟩

/-- The body of the loop of `doVlanTask`. -/
def vlanTask (orch : PortsOrch) (task : KeyOpFieldsValuesTuple) (answers : Answers) : Result :=
  if task.kfvKey.toList.take 4 ≠ VLAN_PREFIX then ⟨orch, [], .erased⟩
  else
    match stoi (suffix task.kfvKey) with
    | none => ⟨orch, [], .thrown⟩
    | some vlan_id =>
      if task.kfvOp = SET_COMMAND then
        match mtuOf task.kfvFieldsValues with
        | none => ⟨orch, [], .thrown⟩
        | some mtu => orch.setVlan (vlanAlias vlan_id) mtu answers
      else if task.kfvOp = DEL_COMMAND then orch.delVlan (vlanAlias vlan_id) answers
      else ⟨orch, [], .erased⟩

/-- The loop over the tasks that are left: `m_toSync`, the orch, and whether an exception has
left the loop. -/
def loop (answers : String → Answers) :
    List KeyOpFieldsValuesTuple → SyncMap → PortsOrch → SyncMap × PortsOrch × Bool
  | [], m_toSync, orch => (m_toSync, orch, false)
  | task :: tasks, m_toSync, orch =>
    let r := orch.vlanTask task (answers task.kfvKey)
    match r.done with
    | .erased => loop answers tasks (m_toSync.erase task.kfvKey) r.orch
    | .kept => loop answers tasks m_toSync r.orch
    | .thrown => (m_toSync, r.orch, true)

/-- `PortsOrch::doVlanTask`.  In one pass each key has one task, so SAI's answers are given by
the key. -/
def doVlanTask (orch : PortsOrch) (answers : String → Answers) (m_toSync : SyncMap) :
    SyncMap × PortsOrch × Bool :=
  loop answers m_toSync.tasks m_toSync orch

end PortsOrch

/-! ### Runs -/

/-- The orch after its constructor: the CPU port is the only one, and the ASIC has its default
VLAN. -/
def PortsOrch.initial : PortsOrch where
  m_portList := Function.update (fun _ => none) "CPU" (some { m_alias := "CPU", m_type := .CPU })
  m_port_ref_count := Function.update (fun _ => none) "CPU" (some 0)
  asic := Function.update (fun _ => none) 1 (some 1)
  next := 2

/-- A VLAN task, or what the rest of `orchagent` does with the same maps: ports come and go,
the fields of a port are written, and its users are counted. -/
inductive Event
  | task (task : KeyOpFieldsValuesTuple) (answers : Answers)
  | setPort (alias_ : String) (p : Port)
  | removePort (alias_ : String)
  | setPortRefCount (alias_ : String) (count : Option UInt32)
  | increasePortRefCount (alias_ : String)
  | decreasePortRefCount (alias_ : String)

/-- What the others may write under a name: a port that is no VLAN, or, of a port that is
there, every field but those that say which port it is. -/
def MayWrite : Option Port → String → Port → Prop
  | none, alias_, p => p.m_alias = alias_ ∧ p.m_type ≠ .VLAN
  | some q, _, p =>
    p.m_alias = q.m_alias ∧ p.m_type = q.m_type ∧ p.vlan_oid = q.vlan_oid ∧
      p.vlan_id = q.vlan_id

instance (q : Option Port) (alias_ : String) (p : Port) : Decidable (MayWrite q alias_ p) := by
  cases q <;> exact inferInstanceAs (Decidable (_ ∧ _))

/-- There is a VLAN of this name. -/
def PortsOrch.IsVlan (orch : PortsOrch) (alias_ : String) : Prop :=
  (orch.m_portList alias_).map (·.m_type) = some .VLAN

instance (orch : PortsOrch) (alias_ : String) : Decidable (orch.IsVlan alias_) :=
  inferInstanceAs (Decidable (_ = _))

/-- One event.  Only `removeVlan` and `addVlan` remove a VLAN and start its count. -/
def PortsOrch.apply (orch : PortsOrch) : Event → PortsOrch
  | .task task answers => (orch.vlanTask task answers).orch
  | .setPort alias_ p =>
    if MayWrite (orch.m_portList alias_) alias_ p then
      { orch with m_portList := Function.update orch.m_portList alias_ (some p) }
    else orch
  | .removePort alias_ =>
    if orch.IsVlan alias_ then orch
    else { orch with m_portList := Function.update orch.m_portList alias_ none }
  | .setPortRefCount alias_ count =>
    if orch.IsVlan alias_ then orch
    else
      { orch with m_port_ref_count := Function.update orch.m_port_ref_count alias_ count }
  | .increasePortRefCount alias_ =>
    { orch with
      m_port_ref_count := Function.update orch.m_port_ref_count alias_
        ((orch.m_port_ref_count alias_).map (· + 1)) }
  | .decreasePortRefCount alias_ =>
    { orch with
      m_port_ref_count := Function.update orch.m_port_ref_count alias_
        ((orch.m_port_ref_count alias_).map (· - 1)) }

end Orchagent.Vlan
