/-
Orchagent/CoppOrch.lean

Control plane policing: `CoppOrch`.

A trap group is a set of traps that share a queue, a policer, and for some traps a generic
netlink interface.  The orch keeps the ASIC objects that it has created in five maps: groups
by name, policers and host interfaces by group, and traps and entries of the host interface
table by the kind of the trap.  The SAI calls are those that succeed: an object is created
with an identifier that none has had, and what is removed is gone.
-/
import Sonic.Common.Table
import Sonic.Common.Tokenize
import Sonic.Lib.Numeral
import Sonic.Lib.Table

namespace Orchagent.Copp

open Swss

abbrev sai_object_id_t := ℕ

def SAI_NULL_OBJECT_ID : sai_object_id_t := 0

/-! ### Names -/

/-- The kinds of traps of `trap_id_map`. -/
inductive TrapType where
  | STP | LACP | EAPOL | LLDP | PVRST | IGMP_TYPE_QUERY | IGMP_TYPE_LEAVE | IGMP_TYPE_V1_REPORT
  | IGMP_TYPE_V2_REPORT | IGMP_TYPE_V3_REPORT | SAMPLEPACKET | SWITCH_CUSTOM_RANGE_BASE
  | ARP_REQUEST | ARP_RESPONSE | DHCP | OSPF | PIM | VRRP | BGP | DHCPV6 | OSPFV6 | VRRPV6 | BGPV6
  | IPV6_NEIGHBOR_DISCOVERY | IPV6_MLD_V1_V2 | IPV6_MLD_V1_REPORT | IPV6_MLD_V1_DONE
  | MLD_V2_REPORT | IP2ME | SSH | SNMP | ROUTER_CUSTOM_RANGE_BASE | L3_MTU_ERROR | TTL_ERROR
  | UDLD | BFD | BFDV6
  deriving DecidableEq

open TrapType in
def trap_id_map : List (String × TrapType) :=
  [("stp", STP), ("lacp", LACP), ("eapol", EAPOL), ("lldp", LLDP), ("pvrst", PVRST),
    ("igmp_query", IGMP_TYPE_QUERY), ("igmp_leave", IGMP_TYPE_LEAVE),
    ("igmp_v1_report", IGMP_TYPE_V1_REPORT), ("igmp_v2_report", IGMP_TYPE_V2_REPORT),
    ("igmp_v3_report", IGMP_TYPE_V3_REPORT), ("sample_packet", SAMPLEPACKET),
    ("switch_cust_range", SWITCH_CUSTOM_RANGE_BASE), ("arp_req", ARP_REQUEST),
    ("arp_resp", ARP_RESPONSE), ("dhcp", DHCP), ("ospf", OSPF), ("pim", PIM), ("vrrp", VRRP),
    ("bgp", BGP), ("dhcpv6", DHCPV6), ("ospfv6", OSPFV6), ("vrrpv6", VRRPV6), ("bgpv6", BGPV6),
    ("neigh_discovery", IPV6_NEIGHBOR_DISCOVERY), ("mld_v1_v2", IPV6_MLD_V1_V2),
    ("mld_v1_report", IPV6_MLD_V1_REPORT), ("mld_v1_done", IPV6_MLD_V1_DONE),
    ("mld_v2_report", MLD_V2_REPORT), ("ip2me", IP2ME), ("ssh", SSH), ("snmp", SNMP),
    ("router_custom_range", ROUTER_CUSTOM_RANGE_BASE), ("l3_mtu_error", L3_MTU_ERROR),
    ("ttl_error", TTL_ERROR), ("udld", UDLD), ("bfd", BFD), ("bfdv6", BFDV6)]

def policer_meter_map : List String := ["packets", "bytes"]
def policer_mode_map : List String := ["sr_tcm", "tr_tcm", "storm"]
def policer_color_aware_map : List String := ["aware", "blind"]
def packet_action_map : List String :=
  ["drop", "forward", "copy", "copy_cancel", "trap", "log", "deny", "transit"]

def default_trap_group : String := "default"
def default_trap_ids : List TrapType := [.TTL_ERROR]

/-! ### Fields -/

/-- The attributes that the fields set. -/
inductive AttrId where
  | TRAP_TYPE | PACKET_ACTION | TRAP_GROUP | TRAP_PRIORITY | QUEUE
  | METER_TYPE | MODE | COLOR_SOURCE | CBS | CIR | PBS | PIR
  | GREEN_PACKET_ACTION | RED_PACKET_ACTION | YELLOW_PACKET_ACTION
  | HOSTIF_TYPE | HOSTIF_NAME | GENETLINK_MCGRP_NAME
  deriving DecidableEq

inductive AttrValue where
  /-- an enumerator, by the name that the map has for it -/
  | s32 (name : String)
  | number (n : ℕ)
  | oid (id : sai_object_id_t)
  | chardata (text : String)
  | trap (trap_id : TrapType)
  deriving DecidableEq

abbrev Attr := AttrId × AttrValue

/-- The attributes and traps of a SET. -/
structure Parsed where
  trap_id_list : List String
  trap_gr_attribs : List Attr
  trap_id_attribs : List Attr
  policer_attribs : List Attr
  genetlink_attribs : List Attr

def Parsed.empty : Parsed := ⟨[], [], [], [], []⟩

/-- `map::at`; `none` is an exception. -/
def enumerator (names : List String) (value : String) : Option AttrValue :=
  if value ∈ names then some (.s32 value) else none

/-- `stoul`; `none` is an exception. -/
def stoul (value : String) : Option ℕ :=
  let r := Numeral.strtoull value.toList false
  if r.endptr = value.toList ∨ r.erange then none else some r.number

/-- `strncpy` to `chardata`. -/
def chardata (value : String) : AttrValue := .chardata (String.ofList (value.toList.take 32))

/-- Why the fields of a SET are not all read. -/
inductive Reject where
  | invalid_entry | need_retry
  deriving DecidableEq

/-- A field with a value that is read by `read`, appended to one of the lists. -/
def addPolicer (p : Parsed) (id : AttrId) (value : Option AttrValue) : Except Reject Parsed :=
  match value with
  | none => .error .invalid_entry
  | some value => .ok { p with policer_attribs := p.policer_attribs ++ [(id, value)] }

/-- One field of a SET.  `mlnx` is whether the platform is a Mellanox one, which has no trap
priorities. -/
def parseField (mlnx enable_sflow_trap : Bool) (p : Parsed) (fv : FieldValueTuple) :
    Except Reject Parsed :=
  if fv.1 = "trap_ids" then
    let trap_id_list := tokenize fv.2 ','
    if "sample_packet" ∈ trap_id_list ∧ enable_sflow_trap = false then .error .need_retry
    else .ok { p with trap_id_list := trap_id_list }
  else if fv.1 = "queue" then
    match stoul fv.2 with
    | none => .error .invalid_entry
    | some n => .ok { p with
        trap_gr_attribs := p.trap_gr_attribs ++ [(.QUEUE, .number (n % 2 ^ 32))] }
  else if fv.1 = "trap_action" then
    match enumerator packet_action_map fv.2 with
    | none => .error .invalid_entry
    | some value => .ok { p with trap_id_attribs := p.trap_id_attribs ++ [(.PACKET_ACTION, value)] }
  else if fv.1 = "trap_priority" then
    if mlnx then .ok p
    else match stoul fv.2 with
      | none => .error .invalid_entry
      | some n => .ok { p with
          trap_id_attribs := p.trap_id_attribs ++ [(.TRAP_PRIORITY, .number (n % 2 ^ 32))] }
  else if fv.1 = "meter_type" then addPolicer p .METER_TYPE (enumerator policer_meter_map fv.2)
  else if fv.1 = "mode" then addPolicer p .MODE (enumerator policer_mode_map fv.2)
  else if fv.1 = "color" then addPolicer p .COLOR_SOURCE (enumerator policer_color_aware_map fv.2)
  else if fv.1 = "cbs" then addPolicer p .CBS ((stoul fv.2).map .number)
  else if fv.1 = "cir" then addPolicer p .CIR ((stoul fv.2).map .number)
  else if fv.1 = "pbs" then addPolicer p .PBS ((stoul fv.2).map .number)
  else if fv.1 = "pir" then addPolicer p .PIR ((stoul fv.2).map .number)
  else if fv.1 = "green_action" then
    addPolicer p .GREEN_PACKET_ACTION (enumerator packet_action_map fv.2)
  else if fv.1 = "red_action" then
    addPolicer p .RED_PACKET_ACTION (enumerator packet_action_map fv.2)
  else if fv.1 = "yellow_action" then
    addPolicer p .YELLOW_PACKET_ACTION (enumerator packet_action_map fv.2)
  else if fv.1 = "genetlink_name" then
    .ok { p with genetlink_attribs := p.genetlink_attribs ++
      [(.HOSTIF_TYPE, .s32 "genetlink"), (.HOSTIF_NAME, chardata fv.2)] }
  else if fv.1 = "genetlink_mcgrp_name" then
    .ok { p with genetlink_attribs := p.genetlink_attribs ++
      [(.GENETLINK_MCGRP_NAME, chardata fv.2)] }
  else .error .invalid_entry

/-! ### The ASIC -/

structure TrapGroup where
  policer : sai_object_id_t
  attribs : List Attr

structure HostifTrap where
  trap_type : TrapType
  trap_group : sai_object_id_t
  attribs : List Attr

/-- An entry of the host interface table for a trap. -/
structure HostifTableEntry where
  trap_id : sai_object_id_t
  host_if : sai_object_id_t

/-- The objects that there are, less the entry for all other packets. -/
structure Asic where
  trap_groups : Table sai_object_id_t TrapGroup
  traps : Table sai_object_id_t HostifTrap
  policers : Table sai_object_id_t (List Attr)
  hostifs : Table sai_object_id_t (List Attr)
  table_entries : Table sai_object_id_t HostifTableEntry
  /-- identifiers below it have been given -/
  next : sai_object_id_t

structure copp_trap_objects where
  trap_obj : sai_object_id_t
  trap_group_obj : sai_object_id_t

/-- `CoppOrch`, and the ASIC. -/
structure St where
  m_trap_group_map : Table String sai_object_id_t
  m_trap_group_policer_map : Table sai_object_id_t sai_object_id_t
  m_syncdTrapIds : Table TrapType copp_trap_objects
  m_trap_group_hostif_map : Table sai_object_id_t sai_object_id_t
  m_trapid_hostif_table_map : Table TrapType sai_object_id_t
  enable_sflow_trap : Bool
  asic : Asic

namespace St

/-! ### Traps -/

/-- One trap in `applyAttributesToTrapIds`. -/
def applyTrap (trap_group_id : sai_object_id_t) (trap_id_attribs : List Attr) (s : St)
    (trap_id : TrapType) : St :=
  let hostif_trap_id := s.asic.next
  { s with
    asic := { s.asic with
      traps := s.asic.traps.insert hostif_trap_id ⟨trap_id, trap_group_id, trap_id_attribs⟩
      next := s.asic.next + 1 }
    m_syncdTrapIds := s.m_syncdTrapIds.insert trap_id ⟨hostif_trap_id, trap_group_id⟩ }

def applyAttributesToTrapIds (s : St) (trap_group_id : sai_object_id_t)
    (trap_id_list : List TrapType) (trap_id_attribs : List Attr) : St :=
  trap_id_list.foldl (applyTrap trap_group_id trap_id_attribs) s

/-- `getTrapIdList`; `none` is an exception. -/
def getTrapIdList (trap_id_name_list : List String) : Option (List TrapType) :=
  trap_id_name_list.mapM fun trap_id_str =>
    (trap_id_map.find? (·.1 = trap_id_str)).map (·.2)

/-! ### Policers -/

def getPolicer (s : St) (trap_group_name : String) : sai_object_id_t :=
  match s.m_trap_group_map.lookup trap_group_name with
  | none => SAI_NULL_OBJECT_ID
  | some group => (s.m_trap_group_policer_map.lookup group).getD SAI_NULL_OBJECT_ID

/-- The group of a name that has one. -/
def group (s : St) (trap_group_name : String) : sai_object_id_t :=
  (s.m_trap_group_map.lookup trap_group_name).getD SAI_NULL_OBJECT_ID

/-- `set_hostif_trap_group_attribute`. -/
def setGroup (s : St) (group : sai_object_id_t) (f : TrapGroup → TrapGroup) : St :=
  match s.asic.trap_groups.lookup group with
  | none => s
  | some g => { s with asic := { s.asic with trap_groups := s.asic.trap_groups.insert group (f g) } }

def removePolicer (s : St) (trap_group_name : String) : St :=
  let policer_id := s.getPolicer trap_group_name
  if policer_id = SAI_NULL_OBJECT_ID then s
  else
    let s := s.setGroup (s.group trap_group_name) ({ · with policer := SAI_NULL_OBJECT_ID })
    { s with
      asic := { s.asic with policers := s.asic.policers.erase policer_id }
      m_trap_group_policer_map := s.m_trap_group_policer_map.erase (s.group trap_group_name) }

def createPolicer (s : St) (trap_group_name : String) (policer_attribs : List Attr) : St :=
  let policer_id := s.asic.next
  let s := { s with
    asic := { s.asic with
      policers := s.asic.policers.insert policer_id policer_attribs
      next := s.asic.next + 1 } }
  let s := s.setGroup (s.group trap_group_name) ({ · with policer := policer_id })
  { s with
    m_trap_group_policer_map :=
      s.m_trap_group_policer_map.insert (s.group trap_group_name) policer_id }

/-- `set_policer_attribute`. -/
def setPolicer (s : St) (policer_id : sai_object_id_t) (policer_attr : Attr) : St :=
  match s.asic.policers.lookup policer_id with
  | none => s
  | some attribs => { s with
      asic := { s.asic with
        policers := s.asic.policers.insert policer_id (policer_attr :: attribs) } }

/-! ### Generic netlink -/

def createGenetlinkHostIf (s : St) (trap_group_name : String) (genetlink_attribs : List Attr) : St :=
  let hostif_id := s.asic.next
  { s with
    asic := { s.asic with
      hostifs := s.asic.hostifs.insert hostif_id genetlink_attribs
      next := s.asic.next + 1 }
    m_trap_group_hostif_map :=
      s.m_trap_group_hostif_map.insert (s.group trap_group_name) hostif_id }

/-- `m_syncdTrapIds[trap_id]`, of which a new one has no objects. -/
def syncdTrap (s : St) (trap_id : TrapType) : copp_trap_objects :=
  (s.m_syncdTrapIds.lookup trap_id).getD ⟨SAI_NULL_OBJECT_ID, SAI_NULL_OBJECT_ID⟩

/-- One trap in `createGenetlinkHostIfTable`. -/
def addTableEntry (s : St) (trap_id : TrapType) : St :=
  match s.m_trapid_hostif_table_map.lookup trap_id with
  | some _ => s
  | none =>
    let trap := s.syncdTrap trap_id
    let s := { s with m_syncdTrapIds := s.m_syncdTrapIds.insert trap_id trap }
    match s.m_trap_group_hostif_map.lookup trap.trap_group_obj with
    | none => s
    | some hostif =>
      let hostif_table_entry := s.asic.next
      { s with
        asic := { s.asic with
          table_entries := s.asic.table_entries.insert hostif_table_entry ⟨trap.trap_obj, hostif⟩
          next := s.asic.next + 1 }
        m_trapid_hostif_table_map :=
          s.m_trapid_hostif_table_map.insert trap_id hostif_table_entry }

/-- `m_trap_group_map[trap_group_name]`, which gives a name that has no group the group 0. -/
def touchGroup (s : St) (trap_group_name : String) : St :=
  { s with
    m_trap_group_map := s.m_trap_group_map.insert trap_group_name (s.group trap_group_name) }

/-- One trap in `removeGenetlinkHostIf`. -/
def removeTableEntry (group : sai_object_id_t) (s : St)
    (it : Sigma fun _ : TrapType => copp_trap_objects) : St :=
  if it.2.trap_group_obj = group then
    match s.m_trapid_hostif_table_map.lookup it.1 with
    | none => s
    | some hostTableEntry => { s with
        asic := { s.asic with table_entries := s.asic.table_entries.erase hostTableEntry }
        m_trapid_hostif_table_map := s.m_trapid_hostif_table_map.erase it.1 }
  else s

def removeGenetlinkHostIf (s : St) (trap_group_name : String) : St :=
  let s := s.touchGroup trap_group_name
  let group := s.group trap_group_name
  let s := s.m_syncdTrapIds.entries.foldl (removeTableEntry group) s
  match s.m_trap_group_hostif_map.lookup group with
  | none => s
  | some hostif => { s with
      asic := { s.asic with hostifs := s.asic.hostifs.erase hostif }
      m_trap_group_hostif_map := s.m_trap_group_hostif_map.erase group }

/-! ### Tasks -/

inductive TaskStatus where
  | task_success | task_invalid_entry | task_need_retry | task_ignore
  deriving DecidableEq

/-- A group that is there: its policer and its attributes. -/
def setTrapGroup (s : St) (trap_group_name : String) (p : Parsed) : St :=
  let s :=
    if p.policer_attribs = [] then s
    else if s.getPolicer trap_group_name = SAI_NULL_OBJECT_ID then
      s.createPolicer trap_group_name p.policer_attribs
    else p.policer_attribs.foldl (fun s => s.setPolicer (s.getPolicer trap_group_name)) s
  p.trap_gr_attribs.foldl (fun s attr =>
    s.setGroup (s.group trap_group_name) fun g => { g with attribs := attr :: g.attribs }) s

/-- A new group, with its policer and its interface. -/
def createTrapGroup (s : St) (trap_group_name : String) (p : Parsed) : St :=
  let new_trap := s.asic.next
  let s := { s with
    asic := { s.asic with
      trap_groups := s.asic.trap_groups.insert new_trap ⟨SAI_NULL_OBJECT_ID, p.trap_gr_attribs⟩
      next := s.asic.next + 1 }
    m_trap_group_map := s.m_trap_group_map.insert trap_group_name new_trap }
  let s := if p.policer_attribs = [] then s else s.createPolicer trap_group_name p.policer_attribs
  if p.genetlink_attribs = [] then s
  else s.createGenetlinkHostIf trap_group_name p.genetlink_attribs

/-- A SET in `processCoppRule`. -/
def setCoppRule (mlnx : Bool) (s : St) (trap_group_name : String) (fvs : List FieldValueTuple) :
    St × TaskStatus :=
  match fvs.foldlM (parseField mlnx s.enable_sflow_trap) .empty with
  | .error .invalid_entry => (s, .task_invalid_entry)
  | .error .need_retry => (s, .task_need_retry)
  | .ok p =>
    let s :=
      if (s.m_trap_group_map.lookup trap_group_name).isSome then s.setTrapGroup trap_group_name p
      else s.createTrapGroup trap_group_name p
    match getTrapIdList p.trap_id_list with
    | none => (s, .task_invalid_entry)
    | some trap_id_list =>
      let group := s.group trap_group_name
      let s := s.applyAttributesToTrapIds group trap_id_list
        (p.trap_id_attribs ++ [(.TRAP_GROUP, .oid group)])
      (if p.genetlink_attribs = [] then s else trap_id_list.foldl addTableEntry s, .task_success)

/-- `remove_hostif_trap` for the traps that are recorded. -/
def removeTraps (s : St) : St :=
  let remove (traps : Table sai_object_id_t HostifTrap)
      (it : Sigma fun _ : TrapType => copp_trap_objects) := traps.erase it.2.trap_obj
  { s with asic := { s.asic with traps := s.m_syncdTrapIds.entries.foldl remove s.asic.traps } }

/-- A DEL in `processCoppRule`. -/
def delCoppRule (s : St) (trap_group_name : String) : St × TaskStatus :=
  let s := s.removePolicer trap_group_name
  let s := s.removeGenetlinkHostIf trap_group_name
  if trap_group_name = default_trap_group then (s, .task_ignore)
  else
    let group := s.group trap_group_name
    let trap_ids_to_reset := (s.m_syncdTrapIds.entries.filter
      fun it => it.2.trap_group_obj = group).map fun it => it.1
    -- a trap is removed whatever group it is in
    let s := s.removeTraps
    let default_group := s.group default_trap_group
    let s := s.applyAttributesToTrapIds default_group trap_ids_to_reset
      [(.PACKET_ACTION, .s32 "forward"), (.TRAP_GROUP, .oid default_group)]
    ({ s with
      asic := { s.asic with trap_groups := s.asic.trap_groups.erase group }
      m_trap_group_map := s.m_trap_group_map.erase trap_group_name }, .task_success)

end St

/-- The constructor: the default group is that of the switch, 1, with the default traps. -/
def init (mlnx : Bool) : St :=
  St.applyAttributesToTrapIds
    ⟨(∅ : Table String sai_object_id_t).insert default_trap_group 1, ∅, ∅, ∅, ∅, false,
      ⟨(∅ : Table sai_object_id_t TrapGroup).insert 1 ⟨SAI_NULL_OBJECT_ID, []⟩, ∅, ∅, ∅, ∅, 2⟩⟩
    1 default_trap_ids
    ([(.PACKET_ACTION, .s32 "trap"), (.TRAP_GROUP, .oid 1)] ++
      if mlnx then [] else [(.TRAP_PRIORITY, .number 0)])

end Orchagent.Copp
