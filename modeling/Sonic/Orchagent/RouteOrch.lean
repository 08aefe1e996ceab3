/-
Orchagent/RouteOrch.lean

Routes, next hop groups and neighbors: `RouteOrch` and `NeighOrch`.

The two orchs call each other, so they share one state, with what they see of the
ports, interfaces and VRFs and what they have programmed.  Every SAI call takes its
status from a function; where one fails, the code returns early with what it has done
so far.  Assertions are off, as they are in a release build.
-/
import Sonic.Lib.Table
import Sonic.Orchagent.NextHop

namespace Orchagent

open Swss (getlines)

/-! ### The state -/

abbrev sai_object_id_t := ℕ

def SAI_NULL_OBJECT_ID : sai_object_id_t := 0

inductive sai_status_t where
  | SUCCESS | ITEM_ALREADY_EXISTS | ITEM_NOT_FOUND | FAILURE
  deriving DecidableEq

inductive sai_port_oper_status_t where
  | UNKNOWN | UP | DOWN | TESTING | NOT_PRESENT
  deriving DecidableEq

/-- The calls of an operation. -/
inductive SaiCall where
  | create_route_entry | set_packet_action | set_next_hop_id | remove_route_entry
  | create_next_hop_group | remove_next_hop_group
  | create_next_hop_group_member (nexthops : NextHopGroupKey) (nexthop : NextHopKey)
  | remove_next_hop_group_member (nexthops : NextHopGroupKey) (nexthop : NextHopKey)
  | create_neighbor_entry | set_neighbor_entry_attribute | remove_neighbor_entry
  | create_next_hop | remove_next_hop

/-- The statuses of the calls of an operation. -/
abbrev Sai := SaiCall → sai_status_t

structure Port where
  m_rif_id : sai_object_id_t
  m_oper_status : sai_port_oper_status_t

/-- A next hop, with the one flag of its `nh_flags`. -/
structure NextHopEntry where
  next_hop_id : sai_object_id_t
  ref_count : ℤ
  ifdown : Bool

structure NextHopGroupEntry where
  next_hop_group_id : sai_object_id_t
  ref_count : ℤ
  nhopgroup_members : Table NextHopKey sai_object_id_t

/-- The entries that `operator[]` makes. -/
def NextHopEntry.zero : NextHopEntry := ⟨0, 0, false⟩
def NextHopGroupEntry.zero : NextHopGroupEntry := ⟨0, 0, ∅⟩

abbrev RouteTable := Table IpPrefix NextHopGroupKey
abbrev MacAddress := Inet.Bytes 6
abbrev Observer := ℕ
abbrev Host := sai_object_id_t × IpAddress

structure NextHopUpdate where
  vrf_id : sai_object_id_t
  destination : IpAddress
  ip_prefix : IpPrefix
  nexthopGroup : NextHopGroupKey

structure NextHopObserverEntry where
  routeTable : RouteTable
  observers : List Observer

/-- A route entry as it is programmed. -/
structure AsicRoute where
  forward : Bool
  next_hop_id : sai_object_id_t

structure St where
  gVirtualRouterId : sai_object_id_t
  /-- `PortsOrch` -/
  m_portList : Table Alias Port
  /-- `IntfsOrch` -/
  getRouterIntfsAlias : RouterIntfsAlias
  isPrefixSubnet : IpPrefix → List Char → Bool
  rif_ref_count : Alias → ℤ
  /-- `VRFOrch`: the ids of the names, and the references on the ids -/
  vrf_table : List Char → Option sai_object_id_t
  vrf_ref_count : sai_object_id_t → ℤ
  /-- `NeighOrch` -/
  m_syncdNeighbors : Table NextHopKey MacAddress
  m_syncdNextHops : Table NextHopKey NextHopEntry
  /-- `RouteOrch` -/
  m_nextHopGroupCount : ℤ
  m_maxNextHopGroupCount : ℤ
  m_resync : Bool
  m_syncdRoutes : Table sai_object_id_t RouteTable
  m_syncdNextHopGroups : Table NextHopGroupKey NextHopGroupEntry
  m_nextHopObservers : Table Host NextHopObserverEntry
  /-- The updates that observers were given. -/
  updates : List (Observer × NextHopUpdate)
  /-- `CrmOrch`: the used counters of `CRM_NEXTHOP_GROUP` and `CRM_NEXTHOP_GROUP_MEMBER` -/
  crm_nexthop_group : ℤ
  crm_nexthop_group_member : ℤ
  /-- The ASIC: routes, groups, members with group and next hop, and the next id. -/
  asicRoutes : Table (sai_object_id_t × IpPrefix) AsicRoute
  asicGroups : Finset sai_object_id_t
  asicMembers : Table sai_object_id_t (sai_object_id_t × sai_object_id_t)
  nextOid : sai_object_id_t
  /-- A member was removed that was not there. -/
  stray : Bool
  /-- Whether the last notification of an interface was that it is down. -/
  informedDown : Alias → Bool

namespace St

/-! ### IntfsOrch and VRFOrch -/

/-- `getRouterIntfsId`. -/
def getRouterIntfsId (s : St) (if_alias : Alias) : sai_object_id_t :=
  ((s.m_portList.lookup if_alias).map Port.m_rif_id).getD SAI_NULL_OBJECT_ID

/-- `increaseRouterIntfsRefCount` and `decreaseRouterIntfsRefCount`. -/
def addRouterIntfsRefCount (s : St) (if_alias : Alias) (n : ℤ) : St :=
  { s with rif_ref_count := Function.update s.rif_ref_count if_alias (s.rif_ref_count if_alias + n) }

/-- `increaseVrfRefCount` and `decreaseVrfRefCount`. -/
def addVrfRefCount (s : St) (vrf_id : sai_object_id_t) (n : ℤ) : St :=
  if vrf_id = s.gVirtualRouterId then s
  else { s with vrf_ref_count := Function.update s.vrf_ref_count vrf_id (s.vrf_ref_count vrf_id + n) }

/-! ### NeighOrch: next hops -/

def hasNextHop (s : St) (nexthop : NextHopKey) : Bool := (s.m_syncdNextHops.lookup nexthop).isSome

def getNextHopId (s : St) (nexthop : NextHopKey) : sai_object_id_t :=
  ((s.m_syncdNextHops.lookup nexthop).getD .zero).next_hop_id

/-- `isNextHopFlagSet`, for `NHFLAGS_IFDOWN`. -/
def isNextHopFlagSet (s : St) (nexthop : NextHopKey) : Bool :=
  ((s.m_syncdNextHops.lookup nexthop).getD .zero).ifdown

/-- `m_syncdNextHops[nexthop]`, changed. -/
def updateNextHop (s : St) (nexthop : NextHopKey) (f : NextHopEntry → NextHopEntry) : St :=
  { s with m_syncdNextHops := s.m_syncdNextHops.update nexthop .zero f }

/-- `NeighOrch::increaseNextHopRefCount` and `decreaseNextHopRefCount`. -/
def addNeighNextHopRefCount (s : St) (nexthop : NextHopKey) (n : ℤ) : St :=
  s.updateNextHop nexthop fun e => { e with ref_count := e.ref_count + n }

/-! ### The ASIC -/

/-- A group that SAI makes gets a new id. -/
def createGroup (s : St) : St :=
  { s with
    asicGroups := insert s.nextOid s.asicGroups
    nextOid := s.nextOid + 1
    m_nextHopGroupCount := s.m_nextHopGroupCount + 1
    crm_nexthop_group := s.crm_nexthop_group + 1 }

def removeGroup (s : St) (group_id : sai_object_id_t) : St :=
  { s with
    asicGroups := s.asicGroups.erase group_id
    m_nextHopGroupCount := s.m_nextHopGroupCount - 1
    crm_nexthop_group := s.crm_nexthop_group - 1 }

/-- A member that SAI makes gets a new id. -/
def createMember (s : St) (group_id next_hop_id : sai_object_id_t) : St :=
  { s with
    asicMembers := s.asicMembers.insert s.nextOid (group_id, next_hop_id)
    nextOid := s.nextOid + 1
    crm_nexthop_group_member := s.crm_nexthop_group_member + 1 }

def removeMember (s : St) (member_id : sai_object_id_t) : St :=
  { s with
    asicMembers := s.asicMembers.erase member_id
    crm_nexthop_group_member := s.crm_nexthop_group_member - 1
    stray := s.stray || (s.asicMembers.lookup member_id).isNone }

/-! ### Members of groups -/

/-- `m_syncdNextHopGroups[nexthops]`, changed. -/
def updateGroup (s : St) (nexthops : NextHopGroupKey)
    (f : NextHopGroupEntry → NextHopGroupEntry) : St :=
  { s with m_syncdNextHopGroups := s.m_syncdNextHopGroups.update nexthops .zero f }

/-- The members of a group, changed. -/
def updateMembers (s : St) (nexthops : NextHopGroupKey)
    (f : Table NextHopKey sai_object_id_t → Table NextHopKey sai_object_id_t) : St :=
  s.updateGroup nexthops fun e => { e with nhopgroup_members := f e.nhopgroup_members }

def groupEntry (s : St) (nexthops : NextHopGroupKey) : NextHopGroupEntry :=
  (s.m_syncdNextHopGroups.lookup nexthops).getD .zero

/-- The loop of `validnexthopinNextHopGroup`. -/
def validLoop (sai : Sai) (nexthop : NextHopKey) : List NextHopGroupKey → St → St × Bool
  | [], s => (s, true)
  | nexthops :: rest, s =>
    if nexthops.contains nexthop then
      if sai (.create_next_hop_group_member nexthops nexthop) ≠ .SUCCESS then (s, false)
      else
        validLoop sai nexthop rest
          ((s.createMember (s.groupEntry nexthops).next_hop_group_id (s.getNextHopId nexthop)
            ).updateMembers nexthops fun members => members.insert nexthop s.nextOid)
    else validLoop sai nexthop rest s

def validnexthopinNextHopGroup (sai : Sai) (s : St) (nexthop : NextHopKey) : St × Bool :=
  validLoop sai nexthop s.m_syncdNextHopGroups.keys s

/-- The loop of `invalidnexthopinNextHopGroup`, where `nhopgroup_members[nexthop]` makes an
entry if there is none. -/
def invalidLoop (sai : Sai) (nexthop : NextHopKey) : List NextHopGroupKey → St → St × Bool
  | [], s => (s, true)
  | nexthops :: rest, s =>
    if nexthops.contains nexthop then
      let s' := s.updateMembers nexthops fun members => members.update nexthop 0 id
      let nexthop_id := ((s.groupEntry nexthops).nhopgroup_members.lookup nexthop).getD 0
      if sai (.remove_next_hop_group_member nexthops nexthop) ≠ .SUCCESS then (s', false)
      else invalidLoop sai nexthop rest (s'.removeMember nexthop_id)
    else invalidLoop sai nexthop rest s

def invalidnexthopinNextHopGroup (sai : Sai) (s : St) (nexthop : NextHopKey) : St × Bool :=
  invalidLoop sai nexthop s.m_syncdNextHopGroups.keys s

/-- `nh_flags` with the flag on or off. -/
def setFlag (s : St) (nexthop : NextHopKey) (ifdown : Bool) : St :=
  s.updateNextHop nexthop fun e => { e with ifdown := ifdown }

/-- `setNextHopFlag`, for `NHFLAGS_IFDOWN`. -/
def setNextHopFlag (sai : Sai) (s : St) (nexthop : NextHopKey) : St × Bool :=
  if s.isNextHopFlagSet nexthop then (s, true)
  else (s.setFlag nexthop true).invalidnexthopinNextHopGroup sai nexthop

/-- `clearNextHopFlag`, for `NHFLAGS_IFDOWN`. -/
def clearNextHopFlag (sai : Sai) (s : St) (nexthop : NextHopKey) : St × Bool :=
  if s.isNextHopFlagSet nexthop then
    (s.setFlag nexthop false).validnexthopinNextHopGroup sai nexthop
  else (s, true)

/-- A next hop in the loop of `ifChangeInformNextHop`. -/
def informNextHop (sai : Sai) (s : St) (nexthop : NextHopKey) (if_up : Bool) : St × Bool :=
  if if_up then s.clearNextHopFlag sai nexthop else s.setNextHopFlag sai nexthop

/-- The loop of `ifChangeInformNextHop`. -/
def ifChangeLoop (sai : Sai) (if_alias : Alias) (if_up : Bool) : List NextHopKey → St → St × Bool
  | [], s => (s, true)
  | nexthop :: rest, s =>
    if nexthop.if_alias = if_alias then
      let (s', rc) := s.informNextHop sai nexthop if_up
      if rc then ifChangeLoop sai if_alias if_up rest s' else (s', false)
    else ifChangeLoop sai if_alias if_up rest s

/-- `ifChangeInformNextHop`. -/
def ifChangeInformNextHop (sai : Sai) (s : St) (if_alias : Alias) (if_up : Bool) : St × Bool :=
  ifChangeLoop sai if_alias if_up s.m_syncdNextHops.keys
    { s with informedDown := Function.update s.informedDown if_alias (!if_up) }

/-! ### NeighOrch: neighbors -/

/-- The entry of a next hop that SAI made. -/
def insertNextHop (s : St) (nexthop : NextHopKey) : St :=
  { s with
    nextOid := s.nextOid + 1
    m_syncdNextHops := s.m_syncdNextHops.insert nexthop ⟨s.nextOid, 0, false⟩ }

/-- `addNextHop`. -/
def addNextHop (sai : Sai) (s : St) (nexthop : NextHopKey) : St × Bool :=
  match s.m_portList.lookup nexthop.if_alias with
  | none => (s, false)
  | some p =>
    if sai .create_next_hop ≠ .SUCCESS then (s, false)
    else
      let s' := (s.insertNextHop nexthop).addRouterIntfsRefCount nexthop.if_alias 1
      if p.m_oper_status = .DOWN then ((s'.setNextHopFlag sai nexthop).1, true) else (s', true)

/-- `addNeighbor`. -/
def addNeighbor (sai : Sai) (s : St) (neighborEntry : NextHopKey) (macAddress : MacAddress) :
    St × Bool :=
  if s.getRouterIntfsId neighborEntry.if_alias = SAI_NULL_OBJECT_ID then (s, false)
  else
    match s.m_syncdNeighbors.lookup neighborEntry with
    | none =>
      match sai .create_neighbor_entry with
      | .SUCCESS =>
        let (s', rc) :=
          (s.addRouterIntfsRefCount neighborEntry.if_alias 1).addNextHop sai neighborEntry
        if rc then
          ({ s' with m_syncdNeighbors := s'.m_syncdNeighbors.insert neighborEntry macAddress },
            true)
        else if sai .remove_neighbor_entry ≠ .SUCCESS then (s', false)
        else (s'.addRouterIntfsRefCount neighborEntry.if_alias (-1), false)
      | .ITEM_ALREADY_EXISTS => (s, true)
      | _ => (s, false)
    | some _ =>
      if sai .set_neighbor_entry_attribute ≠ .SUCCESS then (s, false)
      else
        ({ s with m_syncdNeighbors := s.m_syncdNeighbors.insert neighborEntry macAddress }, true)

/-- `removeNextHop`. -/
def removeNextHop (s : St) (nexthop : NextHopKey) : St :=
  if ((s.m_syncdNextHops.lookup nexthop).getD .zero).ref_count > 0 then s
  else
    { s with m_syncdNextHops := s.m_syncdNextHops.erase nexthop }.addRouterIntfsRefCount
      nexthop.if_alias (-1)

/-- `removeNeighbor`, where `m_syncdNextHops[nexthop]` makes an entry if there is none. -/
def removeNeighbor (sai : Sai) (s : St) (neighborEntry : NextHopKey) : St × Bool :=
  if s.m_syncdNeighbors.lookup neighborEntry = none then (s, true)
  else
    let s' := s.updateNextHop neighborEntry id
    if ((s'.m_syncdNextHops.lookup neighborEntry).getD .zero).ref_count > 0 then (s', false)
    else if sai .remove_next_hop ≠ .SUCCESS ∧ sai .remove_next_hop ≠ .ITEM_NOT_FOUND then (s', false)
    else
      match sai .remove_neighbor_entry with
      | .SUCCESS =>
        (({ s' with m_syncdNeighbors := s'.m_syncdNeighbors.erase neighborEntry
          }.addRouterIntfsRefCount neighborEntry.if_alias (-1)).removeNextHop neighborEntry, true)
      | .ITEM_NOT_FOUND => (s', true)
      | _ => (s', false)

/-! ### RouteOrch: observers -/

end St

/-- `routeTable.rbegin()`: the last entry in the order of the prefixes. -/
def RouteTable.rbegin (t : RouteTable) : Option (IpPrefix × NextHopGroupKey) :=
  t.entries.foldl (fun best e =>
    match best with
    | none => some (e.1, e.2)
    | some b => if b.1 < e.1 then some (e.1, e.2) else some b) none

/-- The routes of a table that cover an address. -/
def RouteTable.covering (t : RouteTable) (dstAddr : IpAddress) : RouteTable :=
  t.entries.foldl (fun (t : RouteTable) e =>
    if e.1.isAddressInSubnet dstAddr then t.insert e.1 e.2 else t) ∅

/-- What `notifyNextHopChangeObservers` makes of an entry, and the update it gives to the
observers of it, if any. -/
def notifyEntry (vrf_id : sai_object_id_t) ( ip_prefix : IpPrefix) (nexthops : NextHopGroupKey)
    (add : Bool) (host : Host) (entry : NextHopObserverEntry) :
    NextHopObserverEntry × Option NextHopUpdate :=
  if vrf_id ≠ host.1 ∨ ! ip_prefix.isAddressInSubnet host.2 then (entry, none)
  else if add then
    let entry' := { entry with routeTable := entry.routeTable.insert ip_prefix nexthops }
    let update := some ⟨vrf_id, host.2, ip_prefix, nexthops⟩
    match entry.routeTable.lookup ip_prefix with
    | none =>
      -- an added route that is the best match
      match RouteTable.rbegin entry.routeTable with
      | some best => if best.1 < ip_prefix then (entry', update) else (entry', none)
      | none => (entry', none)
    | some old =>
      if old ≠ nexthops then
        -- a changed route that is the best match
        match RouteTable.rbegin entry.routeTable with
        | some best => if best.1 = ip_prefix then (entry', update) else (entry', none)
        | none => (entry', none)
      else (entry, none)
  else
    match entry.routeTable.lookup ip_prefix with
    | none => (entry, none)
    | some _ =>
      let entry' := { entry with routeTable := entry.routeTable.erase ip_prefix }
      match RouteTable.rbegin entry.routeTable with
      | some best =>
        -- a removed route that was the best match: there is another one
        if ip_prefix = best.1 then
          (entry', (RouteTable.rbegin entry'.routeTable).map fun route =>
            ⟨vrf_id, host.2, route.1, route.2⟩)
        else (entry', none)
      | none => (entry', none)

/-- The updates that `notifyNextHopChangeObservers` gives to the observers of an entry. -/
def notifyUpdates (vrf_id : sai_object_id_t) ( ip_prefix : IpPrefix) (nexthops : NextHopGroupKey)
    (add : Bool) (host : Host) (entry : NextHopObserverEntry) : List (Observer × NextHopUpdate) :=
  match (notifyEntry vrf_id ip_prefix nexthops add host entry).2 with
  | some update => entry.observers.map fun observer => (observer, update)
  | none => []

namespace St

/-- `notifyNextHopChangeObservers`. -/
def notifyNextHopChangeObservers (s : St) (vrf_id : sai_object_id_t) ( ip_prefix : IpPrefix)
    (nexthops : NextHopGroupKey) (add : Bool) : St :=
  { s with
    m_nextHopObservers := s.m_nextHopObservers.map fun host entry =>
      (notifyEntry vrf_id ip_prefix nexthops add host entry).1
    updates := s.updates ++ s.m_nextHopObservers.entries.flatMap fun e =>
      notifyUpdates vrf_id ip_prefix nexthops add e.1 e.2 }

/-- `attach`. -/
def attach (s : St) (observer : Observer) (dstAddr : IpAddress) (vrf_id : sai_object_id_t) : St :=
  let host : Host := (vrf_id, dstAddr)
  let entry :=
    match s.m_nextHopObservers.lookup host with
    | some entry => entry
    | none =>
      -- the prefixes that cover the destination
      ⟨RouteTable.covering ((s.m_syncdRoutes.lookup vrf_id).getD ∅) dstAddr, []⟩
  { s with
    m_nextHopObservers := s.m_nextHopObservers.insert host
      { entry with observers := entry.observers ++ [observer] }
    updates := s.updates ++
      match RouteTable.rbegin entry.routeTable with
      | some route => [(observer, ⟨vrf_id, dstAddr, route.1, route.2⟩)]
      | none => [] }

/-- `detach`. -/
def detach (s : St) (observer : Observer) (dstAddr : IpAddress) (vrf_id : sai_object_id_t) : St :=
  let host : Host := (vrf_id, dstAddr)
  match s.m_nextHopObservers.lookup host with
  | none => s
  | some entry =>
    if observer ∈ entry.observers then
      if entry.observers.erase observer = [] then
        { s with m_nextHopObservers := s.m_nextHopObservers.erase host }
      else
        { s with
          m_nextHopObservers := s.m_nextHopObservers.insert host
            { entry with observers := entry.observers.erase observer } }
    else s

/-! ### RouteOrch: references and groups -/

/-- `NextHopKey(nexthops.to_string())`, for a single next hop. -/
def nextHopOf (s : St) (nexthop : NextHopKey) : NextHopKey :=
  (NextHopKey.ofString s.getRouterIntfsAlias (NextHopGroupKey.single nexthop).to_string).getD nexthop

/-- `increaseNextHopRefCount` and `decreaseNextHopRefCount`. -/
def addNextHopRefCount (s : St) (nexthops : NextHopGroupKey) (n : ℤ) : St :=
  match nexthops.m_nexthops with
  | [] => s
  | [nh] =>
    let nexthop := s.nextHopOf nh
    if nexthop.ip_address.isZero then s.addRouterIntfsRefCount nexthop.if_alias n
    else s.addNeighNextHopRefCount nexthop n
  | _ => s.updateGroup nexthops fun e => { e with ref_count := e.ref_count + n }

def hasNextHopGroup (s : St) (nexthops : NextHopGroupKey) : Bool :=
  (s.m_syncdNextHopGroups.lookup nexthops).isSome

/-- The members that `addNextHopGroup` makes; none if a call fails. -/
def addMembers (sai : Sai) (nexthops : NextHopGroupKey) (group_id : sai_object_id_t) :
    List NextHopKey → Table NextHopKey sai_object_id_t → St →
      St × Option (Table NextHopKey sai_object_id_t)
  | [], members, s => (s, some members)
  | nexthop :: rest, members, s =>
    -- no member for a neighbor from a port that is down
    if s.isNextHopFlagSet nexthop then addMembers sai nexthops group_id rest members s
    else if sai (.create_next_hop_group_member nexthops nexthop) ≠ .SUCCESS then (s, none)
    else
      addMembers sai nexthops group_id rest (members.insert nexthop s.nextOid)
        (s.createMember group_id (s.getNextHopId nexthop))

/-- `addNextHopGroup`. -/
def addNextHopGroup (sai : Sai) (s : St) (nexthops : NextHopGroupKey) : St × Bool :=
  if s.m_maxNextHopGroupCount ≤ s.m_nextHopGroupCount then (s, false)
  else if nexthops.m_nexthops.any fun nexthop => !s.hasNextHop nexthop then (s, false)
  else if sai .create_next_hop_group ≠ .SUCCESS then (s, false)
  else
    match addMembers sai nexthops s.nextOid nexthops.m_nexthops ∅ s.createGroup with
    | (s', none) => (s', false)
    | (s', some members) =>
      let s' := nexthops.m_nexthops.foldl (fun s nexthop => s.addNeighNextHopRefCount nexthop 1) s'
      ({ s' with
        m_syncdNextHopGroups :=
          s'.m_syncdNextHopGroups.insert nexthops ⟨s.nextOid, 0, members⟩ }, true)

/-- The members of a group in the order of their keys. -/
def memberList (members : Table NextHopKey sai_object_id_t) :
    List (Sigma fun _ : NextHopKey => sai_object_id_t) :=
  members.entries.mergeSort fun a b => a.1.rank ≤ b.1.rank

/-- The loop of `removeNextHopGroup` over the members. -/
def removeMembers (sai : Sai) (nexthops : NextHopGroupKey) :
    List (Sigma fun _ : NextHopKey => sai_object_id_t) → St → St × Bool
  | [], s => (s, true)
  | nhop :: rest, s =>
    let s' := s.updateMembers nexthops fun members => members.erase nhop.1
    if s.isNextHopFlagSet nhop.1 then removeMembers sai nexthops rest s'
    else if sai (.remove_next_hop_group_member nexthops nhop.1) ≠ .SUCCESS then (s, false)
    else removeMembers sai nexthops rest (s'.removeMember nhop.2)

/-- `removeNextHopGroup`. -/
def removeNextHopGroup (sai : Sai) (s : St) (nexthops : NextHopGroupKey) : St × Bool :=
  match s.m_syncdNextHopGroups.lookup nexthops with
  | none => (s, false)
  | some entry =>
    if entry.ref_count ≠ 0 then (s, true)
    else
      let (s', rc) := removeMembers sai nexthops (memberList entry.nhopgroup_members) s
      if !rc then (s', false)
      else if sai .remove_next_hop_group ≠ .SUCCESS then (s', false)
      else
        let s' := s'.removeGroup entry.next_hop_group_id
        let s' :=
          nexthops.m_nexthops.foldl (fun s nexthop => s.addNeighNextHopRefCount nexthop (-1)) s'
        ({ s' with m_syncdNextHopGroups := s'.m_syncdNextHopGroups.erase nexthops }, true)

/-- A next hop group is removed when no route is left on it. -/
def releaseNextHops (sai : Sai) (s : St) (nexthops : NextHopGroupKey) : St :=
  let s' := s.addNextHopRefCount nexthops (-1)
  if 1 < nexthops.getSize ∧
      (s'.groupEntry nexthops).ref_count = 0 then
    (s'.removeNextHopGroup sai nexthops).1
  else s'

/-! ### RouteOrch: routes -/

/-- `m_syncdRoutes[vrf_id][ipPrefix]`. -/
def findRoute (s : St) (vrf_id : sai_object_id_t) (ipPrefix : IpPrefix) : Option NextHopGroupKey :=
  (s.m_syncdRoutes.lookup vrf_id).bind fun routes => routes.lookup ipPrefix

/-- The table of a VRF, made with a reference on the VRF when there is none. -/
def ensureTable (s : St) (vrf_id : sai_object_id_t) : St :=
  match s.m_syncdRoutes.lookup vrf_id with
  | some _ => s
  | none => { s with m_syncdRoutes := s.m_syncdRoutes.insert vrf_id ∅ }.addVrfRefCount vrf_id 1

/-- `m_syncdRoutes[vrf_id][ipPrefix] = nextHops`, and the observers are told. -/
def storeRoute (s : St) (vrf_id : sai_object_id_t) (ipPrefix : IpPrefix)
    (nextHops : NextHopGroupKey) : St :=
  { s with
    m_syncdRoutes := s.m_syncdRoutes.update vrf_id ∅ fun routes => routes.insert ipPrefix nextHops
  }.notifyNextHopChangeObservers vrf_id ipPrefix nextHops true

def setAsicRoute (s : St) (vrf_id : sai_object_id_t) (ipPrefix : IpPrefix) (r : AsicRoute) : St :=
  { s with asicRoutes := s.asicRoutes.insert (vrf_id, ipPrefix) r }

/-- The last part of `addRoute`: sync the route entry. -/
def syncRoute (sai : Sai) (s : St) (vrf_id : sai_object_id_t) (ipPrefix : IpPrefix)
    (nextHops : NextHopGroupKey) (next_hop_id : sai_object_id_t) : St × Bool :=
  match s.findRoute vrf_id ipPrefix with
  | none =>
    if sai .create_route_entry ≠ .SUCCESS then
      -- clean up the newly created next hop group entry
      (if 1 < nextHops.getSize then (s.removeNextHopGroup sai nextHops).1 else s, false)
    else
      let s' := s.setAsicRoute vrf_id ipPrefix ⟨true, next_hop_id⟩
      ((s'.addNextHopRefCount nextHops 1).storeRoute vrf_id ipPrefix nextHops, true)
  | some old =>
    -- set the packet action to forward when there was no next hop (dropped)
    if old.getSize = 0 ∧ sai .set_packet_action ≠ .SUCCESS then (s, false)
    else
      let s' := if old.getSize = 0 then s.setAsicRoute vrf_id ipPrefix ⟨true, 0⟩ else s
      if sai .set_next_hop_id ≠ .SUCCESS then (s', false)
      else
        let s' := s'.setAsicRoute vrf_id ipPrefix ⟨true, next_hop_id⟩
        let s' := (s'.addNextHopRefCount nextHops 1).releaseNextHops sai old
        (s'.storeRoute vrf_id ipPrefix nextHops, true)

/-- The id of a single next hop, if it is there: a router interface for the zero address. -/
def singleNextHopId (s : St) (nexthop : NextHopKey) : Option sai_object_id_t :=
  if nexthop.ip_address.isZero then
    if s.getRouterIntfsId nexthop.if_alias = SAI_NULL_OBJECT_ID then none
    else some (s.getRouterIntfsId nexthop.if_alias)
  else if s.hasNextHop nexthop then some (s.getNextHopId nexthop)
  else none

/-- `addRoute` for a single next hop. -/
def addRouteSingle (sai : Sai) (s : St) (vrf_id : sai_object_id_t) (ipPrefix : IpPrefix)
    (nextHop : NextHopKey) : St × Bool :=
  let s := s.ensureTable vrf_id
  match s.singleNextHopId (s.nextHopOf nextHop) with
  | none => (s, false)
  | some next_hop_id => s.syncRoute sai vrf_id ipPrefix (.single nextHop) next_hop_id

/-- The next hops of a group that are there. -/
def syncdNextHops (s : St) (nextHops : NextHopGroupKey) : List NextHopKey :=
  nextHops.m_nexthops.filter fun nexthop => s.hasNextHop nexthop

/-- `addTempRoute`: a route over one of the next hops that are there. -/
def addTempRoute (sai : Sai) (rand : ℕ) (s : St) (vrf_id : sai_object_id_t) (ipPrefix : IpPrefix)
    (nextHops : NextHopGroupKey) : St :=
  let next_hop_set := s.syncdNextHops nextHops
  match next_hop_set[rand % next_hop_set.length]? with
  | none => s
  | some nexthop =>
    match NextHopKey.ofString s.getRouterIntfsAlias nexthop.to_string with
    | none => s
    | some tmp_next_hop => (s.addRouteSingle sai vrf_id ipPrefix tmp_next_hop).1

/-- The route there is goes over a single next hop that is in a group. -/
def onMember (s : St) (route : Option NextHopGroupKey) (nextHops : NextHopGroupKey) : Bool :=
  match route.map NextHopGroupKey.m_nexthops with
  | some [nexthop] => nextHops.contains (s.nextHopOf nexthop)
  | _ => false

/-- The group of a route, made when there is none. -/
def ensureNextHopGroup (sai : Sai) (s : St) (nextHops : NextHopGroupKey) : St × Bool :=
  if s.hasNextHopGroup nextHops then (s, true) else s.addNextHopGroup sai nextHops

/-- `addRoute`. -/
def addRoute (sai : Sai) (rand : ℕ) (s : St) (vrf_id : sai_object_id_t) (ipPrefix : IpPrefix)
    (nextHops : NextHopGroupKey) : St × Bool :=
  match nextHops.m_nexthops with
  | [nextHop] => s.addRouteSingle sai vrf_id ipPrefix nextHop
  | _ =>
    let (s', rc) := (s.ensureTable vrf_id).ensureNextHopGroup sai nextHops
    if rc then
      s'.syncRoute sai vrf_id ipPrefix nextHops (s'.groupEntry nextHops).next_hop_group_id
    else if s'.onMember (s'.findRoute vrf_id ipPrefix) nextHops then (s', false)
    else (s'.addTempRoute sai rand vrf_id ipPrefix nextHops, false)

/-- `m_syncdRoutes[vrf_id].erase(ipPrefix)`. -/
def eraseRoute (s : St) (vrf_id : sai_object_id_t) (ipPrefix : IpPrefix) : St :=
  { s with m_syncdRoutes := s.m_syncdRoutes.update vrf_id ∅ fun routes => routes.erase ipPrefix }

/-- The table of a VRF is given up with the reference on the VRF when it is empty. -/
def releaseTable (s : St) (vrf_id : sai_object_id_t) : St :=
  if ((s.m_syncdRoutes.lookup vrf_id).getD ∅).entries = [] then
    { s with m_syncdRoutes := s.m_syncdRoutes.erase vrf_id }.addVrfRefCount vrf_id (-1)
  else s

/-- `removeRoute`, once the route entry is removed or, for a default route, dropped. -/
def dropRoute (sai : Sai) (s : St) (vrf_id : sai_object_id_t) (ipPrefix : IpPrefix)
    (nextHops : NextHopGroupKey) : St :=
  let s' := s.releaseNextHops sai nextHops
  if ipPrefix.isDefaultRoute then s'.storeRoute vrf_id ipPrefix .empty
  else
    ((s'.eraseRoute vrf_id ipPrefix).notifyNextHopChangeObservers vrf_id ipPrefix .empty false
      ).releaseTable vrf_id

/-- `removeRoute`. -/
def removeRoute (sai : Sai) (s : St) (vrf_id : sai_object_id_t) (ipPrefix : IpPrefix) : St × Bool :=
  match s.findRoute vrf_id ipPrefix with
  | none => (s, true)
  | some nextHops =>
    if ipPrefix.isDefaultRoute then
      -- set to blackhole for default route
      if sai .set_packet_action ≠ .SUCCESS then (s, false)
      else
        let next_hop_id := ((s.asicRoutes.lookup (vrf_id, ipPrefix)).map AsicRoute.next_hop_id).getD 0
        if sai .set_next_hop_id ≠ .SUCCESS then
          (s.setAsicRoute vrf_id ipPrefix ⟨false, next_hop_id⟩, false)
        else
          ((s.setAsicRoute vrf_id ipPrefix ⟨false, 0⟩).dropRoute sai vrf_id ipPrefix nextHops, true)
    else if sai .remove_route_entry ≠ .SUCCESS then (s, false)
    else
      ({ s with asicRoutes := s.asicRoutes.erase (vrf_id, ipPrefix)
        }.dropRoute sai vrf_id ipPrefix nextHops, true)

end St

/-! ### Tasks -/

/-- An entry of the table of routes, with the name of a VRF in its key or without. -/
inductive RouteTask where
  | resync (set : Bool)
  | set (vrf_name : Option (List Char)) ( ip_prefix : IpPrefix) (ips aliases : List Char)
  | del (vrf_name : Option (List Char)) ( ip_prefix : IpPrefix)

/-- An entry of the table of neighbors. -/
inductive NeighTask where
  | set (if_alias : Alias) (ip_address : IpAddress) (mac_address : MacAddress)
  | del (if_alias : Alias) (ip_address : IpAddress)

/-- The interfaces that no route or neighbor is programmed for. -/
def excpIntfs : List (List Char) :=
  ["eth0".toList, "lo".toList, "docker0".toList]

/-- `nhg_str`: the next hops of a task as a text.  A task without a next hop, or with fewer
aliases than next hops, reads past the end. -/
def nhgStr (ipv alsv : List (List Char)) : Option (List Char) :=
  if ipv = [] ∨ alsv.length < ipv.length then none
  else
    some ([NHG_DELIMITER].intercalate
      (List.zipWith (fun ip if_alias => ip ++ NH_DELIMITER :: if_alias) ipv alsv))

/-- `ipv.size() == 1 && IpAddress(ipv[0]).isZero()`, which throws for a text that is no address. -/
def isZeroRoute (ip : List Char) (more : List (List Char)) : Option Bool :=
  if more = [] then (IpAddress.ofString ip).map IpAddress.isZero else some false

/-- The tasks over the zero address that are not for `addRoute`. -/
def skipZero (s : St) ( ip_prefix : IpPrefix) (if_alias : List Char) : Bool :=
  if_alias = "unknown".toList || VRF_PREFIX.isPrefixOf if_alias ||
    ip_prefix.m_ip.getAddrScope ≠ .GLOBAL_SCOPE ||
      ( ip_prefix.isFullMask && s.isPrefixSubnet ip_prefix if_alias)

/-- The branch of `doTask` for a route that is set; none if the process ends. -/
def setRoute (sai : Sai) (rand : ℕ) (s : St) (vrf_id : sai_object_id_t) ( ip_prefix : IpPrefix)
    (ips aliases : List Char) : Option (St × Bool) :=
  let ipv := getlines ',' [] ips
  let alsv := getlines ',' [] aliases
  if alsv.any (· ∈ excpIntfs) then some (s.removeRoute sai vrf_id ip_prefix)
  else
    (nhgStr ipv alsv).bind fun nhg_str =>
      (NextHopGroupKey.ofString s.getRouterIntfsAlias nhg_str).bind fun nhg =>
        match ipv, alsv with
        | ip :: more, if_alias :: _ =>
          (isZeroRoute ip more).bind fun zero =>
            if zero then
              if skipZero s ip_prefix if_alias then some (s, true)
              else some (s.addRoute sai rand vrf_id ip_prefix nhg)
            else if s.findRoute vrf_id ip_prefix = some nhg then
              -- duplicate entry
              some (s, true)
            else some (s.addRoute sai rand vrf_id ip_prefix nhg)
        | _, _ => none

/-- The VRF of a task; none if its name is not known. -/
def taskVrf (s : St) : Option (List Char) → Option sai_object_id_t
  | none => some s.gVirtualRouterId
  | some vrf_name => s.vrf_table vrf_name

/-- An entry in the loop of `RouteOrch::doTask`, and whether it is erased.  The tasks that
a resync queues for the routes there are, to delete them, come as tasks of their own. -/
def doRouteTask (sai : Sai) (rand : ℕ) (s : St) : RouteTask → Option (St × Bool)
  | .resync set => some ({ s with m_resync := set }, true)
  | .set vrf_name ip_prefix ips aliases =>
    if s.m_resync then some (s, false)
    else
      match taskVrf s vrf_name with
      | none => some (s, false)
      | some vrf_id => setRoute sai rand s vrf_id ip_prefix ips aliases
  | .del vrf_name ip_prefix =>
    if s.m_resync then some (s, false)
    else
      match taskVrf s vrf_name with
      | none => some (s, false)
      | some vrf_id => some (s.removeRoute sai vrf_id ip_prefix)

/-- An entry in the loop of `NeighOrch::doTask`, and whether it is erased. -/
def doNeighTask (sai : Sai) (s : St) : NeighTask → St × Bool
  | .set if_alias ip_address mac_address =>
    if if_alias.1 ∈ excpIntfs then (s, true)
    else
      match s.m_portList.lookup if_alias with
      | none => (s, false)
      | some p =>
        if p.m_rif_id = SAI_NULL_OBJECT_ID then (s, false)
        else if s.m_syncdNeighbors.lookup ⟨ip_address, if_alias⟩ = some mac_address then (s, true)
        else s.addNeighbor sai ⟨ip_address, if_alias⟩ mac_address
  | .del if_alias ip_address =>
    if if_alias.1 ∈ excpIntfs then (s, true)
    else if s.m_syncdNeighbors.lookup ⟨ip_address, if_alias⟩ = none then (s, true)
    else s.removeNeighbor sai ⟨ip_address, if_alias⟩

/-- `updatePortOperStatus`, and the port in `m_portList`. -/
def updatePortOperStatus (sai : Sai) (s : St) (if_alias : Alias)
    (status : sai_port_oper_status_t) : St :=
  match s.m_portList.lookup if_alias with
  | none => s
  | some port =>
    if status = port.m_oper_status then s
    else
      let s' := (s.ifChangeInformNextHop sai if_alias (status = .UP)).1
      { s' with m_portList := s'.m_portList.insert if_alias { port with m_oper_status := status } }

end Orchagent
