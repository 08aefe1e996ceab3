/-
Orchagent/RouteRun.lean

Runs of `RouteOrch` and `NeighOrch`, and what a step does to the routes.

A step is one operation: an entry of a table of tasks, a notification of an interface,
an observer that comes or goes, a group that another orch makes or removes, or a change
of what the orchs see of the ports, interfaces and VRFs.  The operations on next hops
and groups leave the routes alone (`SameRoutes`), so that a step stores one route, drops
one, or none (`RouteChange`).
-/
import Sonic.Lib.Transition
import Sonic.Orchagent.RouteOrch

namespace Orchagent

open Transition (Run Guarded)
open Swss (getlines)

/-- The operations. -/
inductive Event where
  | routeTask (sai : Sai) (rand : ℕ) (task : RouteTask)
  | neighTask (sai : Sai) (task : NeighTask)
  /-- `updatePortOperStatus`: the notification of a port -/
  | portOper (sai : Sai) (if_alias : Alias) (status : sai_port_oper_status_t)
  /-- `doLagTask` with an `oper_status` -/
  | lagOper (sai : Sai) (if_alias : Alias) (if_up : Bool)
  | attach (observer : Observer) (dstAddr : IpAddress) (vrf_id : sai_object_id_t)
  | detach (observer : Observer) (dstAddr : IpAddress) (vrf_id : sai_object_id_t)
  /-- a group for another orch -/
  | addGroup (sai : Sai) (nexthops : NextHopGroupKey)
  | removeGroup (sai : Sai) (nexthops : NextHopGroupKey)
  /-- ports, interfaces and VRFs change -/
  | config (m_portList : Table Alias Port) (getRouterIntfsAlias : RouterIntfsAlias)
      (isPrefixSubnet : IpPrefix → List Char → Bool)
      (vrf_table : List Char → Option sai_object_id_t)

/-- What an operation does; none if the process ends. -/
def St.apply (s : St) : Event → Option St
  | .routeTask sai rand task => (doRouteTask sai rand s task).map (·.1)
  | .neighTask sai task => some (doNeighTask sai s task).1
  | .portOper sai if_alias status => some (updatePortOperStatus sai s if_alias status)
  | .lagOper sai if_alias if_up => some (s.ifChangeInformNextHop sai if_alias if_up).1
  | .attach observer dstAddr vrf_id => some (s.attach observer dstAddr vrf_id)
  | .detach observer dstAddr vrf_id => some (s.detach observer dstAddr vrf_id)
  | .addGroup sai nexthops =>
    some (s.ensureNextHopGroup sai nexthops).1
  | .removeGroup sai nexthops => some (s.removeNextHopGroup sai nexthops).1
  | .config m_portList getRouterIntfsAlias isPrefixSubnet vrf_table =>
    some { s with
      m_portList := m_portList
      getRouterIntfsAlias := getRouterIntfsAlias
      isPrefixSubnet := isPrefixSubnet
      vrf_table := vrf_table }

/-- A step of the orchs. -/
def Step (s : St) (e : Event) (t : St) : Prop := s.apply e = some t

/-- The default routes that the constructor programs to drop. -/
def defaultRoutes : RouteTable :=
  ((∅ : RouteTable).insert ⟨.v4 (List.Vector.replicate 4 0), 0, Nat.zero_le _⟩ .empty).insert
    ⟨.v6 (List.Vector.replicate 16 0), 0, Nat.zero_le _⟩ .empty

/-- The state after the constructors, with ports and interfaces as they may be. -/
structure Initial (s : St) : Prop where
  vrf_ref_count : s.vrf_ref_count = fun _ => 0
  m_syncdNeighbors : s.m_syncdNeighbors = ∅
  m_syncdNextHops : s.m_syncdNextHops = ∅
  m_nextHopGroupCount : s.m_nextHopGroupCount = 0
  m_syncdRoutes : s.m_syncdRoutes = (∅ : Table _ _).insert s.gVirtualRouterId defaultRoutes
  m_syncdNextHopGroups : s.m_syncdNextHopGroups = ∅
  m_nextHopObservers : s.m_nextHopObservers = ∅
  updates : s.updates = []
  crm_nexthop_group_member : s.crm_nexthop_group_member = 0
  asicRoutes : ∀ vrf_id p, s.asicRoutes.lookup (vrf_id, p)
    = if vrf_id = s.gVirtualRouterId ∧ p ∈ defaultRoutes then some ⟨false, 0⟩ else none
  asicMembers : s.asicMembers = ∅
  stray : s.stray = false
  informedDown : s.informedDown = fun _ => false

/-- Every call succeeds. -/
def allSucceed : Sai := fun _ => .SUCCESS

/-- The interface of the examples. -/
def ethernet0 : Alias := ⟨"Ethernet0".toList, by decide⟩

/-- A switch with one interface and the VRF `Vrf1`, after the constructors. -/
def oneInterface : St where
  gVirtualRouterId := 1
  m_portList := (∅ : Table Alias Port).insert ethernet0 ⟨2, .UP⟩
  getRouterIntfsAlias := fun _ _ => noAlias
  isPrefixSubnet := fun _ _ => false
  rif_ref_count := fun _ => 0
  vrf_table := fun name => if name = "Vrf1".toList then some 5 else none
  vrf_ref_count := fun _ => 0
  m_syncdNeighbors := ∅
  m_syncdNextHops := ∅
  m_nextHopGroupCount := 0
  m_maxNextHopGroupCount := 128
  m_resync := false
  m_syncdRoutes := (∅ : Table sai_object_id_t RouteTable).insert 1 defaultRoutes
  m_syncdNextHopGroups := ∅
  m_nextHopObservers := ∅
  updates := []
  crm_nexthop_group := 0
  crm_nexthop_group_member := 0
  asicRoutes :=
    ((∅ : Table (sai_object_id_t × IpPrefix) AsicRoute).insert
      (1, ⟨.v4 (List.Vector.replicate 4 0), 0, Nat.zero_le _⟩) ⟨false, 0⟩).insert
      (1, ⟨.v6 (List.Vector.replicate 16 0), 0, Nat.zero_le _⟩) ⟨false, 0⟩
  asicGroups := ∅
  asicMembers := ∅
  nextOid := 3
  stray := false
  informedDown := fun _ => false

theorem initial_oneInterface : Initial oneInterface where
  vrf_ref_count := rfl
  m_syncdNeighbors := rfl
  m_syncdNextHops := rfl
  m_nextHopGroupCount := rfl
  m_syncdRoutes := rfl
  m_syncdNextHopGroups := rfl
  m_nextHopObservers := rfl
  updates := rfl
  crm_nexthop_group_member := rfl
  asicRoutes := by
    intro vrf_id p
    have hmem : p ∈ defaultRoutes ↔ p = ⟨.v6 (List.Vector.replicate 16 0), 0, Nat.zero_le _⟩ ∨
        p = ⟨.v4 (List.Vector.replicate 4 0), 0, Nat.zero_le _⟩ := by
      rw [defaultRoutes, AList.mem_insert, AList.mem_insert]
      simp
    show oneInterface.asicRoutes.lookup (vrf_id, p)
      = if vrf_id = 1 ∧ p ∈ defaultRoutes then some ⟨false, 0⟩ else none
    unfold oneInterface
    dsimp only
    rw [Table.lookup_insert_eq, Table.lookup_insert_eq, AList.lookup_empty]
    by_cases hv : vrf_id = 1
    · grind
    · grind
  asicMembers := rfl
  stray := rfl
  informedDown := rfl

/-! ### What leaves the routes alone -/

/-- The routes and their observers are the same. -/
structure SameRoutes (s t : St) : Prop where
  m_syncdRoutes : t.m_syncdRoutes = s.m_syncdRoutes
  m_nextHopObservers : t.m_nextHopObservers = s.m_nextHopObservers
  updates : t.updates = s.updates
  gVirtualRouterId : t.gVirtualRouterId = s.gVirtualRouterId
  vrf_ref_count : t.vrf_ref_count = s.vrf_ref_count
  asicRoutes : t.asicRoutes = s.asicRoutes

namespace SameRoutes

variable {s t u : St}

theorem refl (s : St) : SameRoutes s s := ⟨rfl, rfl, rfl, rfl, rfl, rfl⟩

theorem trans (h : SameRoutes s t) (h' : SameRoutes t u) : SameRoutes s u :=
  ⟨h'.1.trans h.1, h'.2.trans h.2, h'.3.trans h.3, h'.4.trans h.4, h'.5.trans h.5, h'.6.trans h.6⟩

theorem findRoute (h : SameRoutes s t) : t.findRoute = s.findRoute := by
  funext vrf_id ipPrefix
  rw [St.findRoute, St.findRoute, h.m_syncdRoutes]

end SameRoutes

variable {sai : Sai} {rand : ℕ} {s t : St}

namespace St

theorem sameRoutes_addNextHopRefCount (nexthops : NextHopGroupKey) (n : ℤ) :
    SameRoutes s (s.addNextHopRefCount nexthops n) := by
  unfold addNextHopRefCount
  split
  · exact .refl s
  · dsimp only
    split
    · exact ⟨rfl, rfl, rfl, rfl, rfl, rfl⟩
    · exact ⟨rfl, rfl, rfl, rfl, rfl, rfl⟩
  · exact ⟨rfl, rfl, rfl, rfl, rfl, rfl⟩

theorem sameRoutes_foldl (nexthops : List NextHopKey) (n : ℤ) :
    SameRoutes s (nexthops.foldl (fun s nexthop => s.addNeighNextHopRefCount nexthop n) s) := by
  induction nexthops generalizing s with
  | nil => exact .refl s
  | cons nexthop nexthops ih =>
    have hfirst : SameRoutes s (s.addNeighNextHopRefCount nexthop n) :=
      ⟨rfl, rfl, rfl, rfl, rfl, rfl⟩
    exact hfirst.trans ih

theorem sameRoutes_addMembers {nexthops : NextHopGroupKey} {group_id : sai_object_id_t}
    (rest : List NextHopKey) (members : Table NextHopKey sai_object_id_t) :
    SameRoutes s (addMembers sai nexthops group_id rest members s).1 := by
  induction rest generalizing s members with
  | nil => exact .refl s
  | cons nexthop rest ih =>
    rw [addMembers]
    split
    · exact ih members
    · split
      · exact .refl s
      · have hfirst : SameRoutes s (s.createMember group_id (s.getNextHopId nexthop)) :=
          ⟨rfl, rfl, rfl, rfl, rfl, rfl⟩
        exact hfirst.trans (ih _)

theorem sameRoutes_addNextHopGroup (nexthops : NextHopGroupKey) :
    SameRoutes s (s.addNextHopGroup sai nexthops).1 := by
  unfold addNextHopGroup
  split
  · exact .refl s
  · split
    · exact .refl s
    · split
      · exact .refl s
      · dsimp only
        have hadd : SameRoutes s
            (addMembers sai nexthops s.nextOid nexthops.m_nexthops ∅ s.createGroup).1 := by
          refine SameRoutes.trans ?_ (sameRoutes_addMembers nexthops.m_nexthops ∅)
          exact ⟨rfl, rfl, rfl, rfl, rfl, rfl⟩
        split
        · next s' heq =>
            rw [heq] at hadd
            exact ⟨hadd.1, hadd.2, hadd.3, hadd.4, hadd.5, hadd.6⟩
        · next s' members heq =>
            rw [heq] at hadd
            have hfold := sameRoutes_foldl (s := s') nexthops.m_nexthops 1
            exact ⟨hfold.1.trans hadd.1, hfold.2.trans hadd.2, hfold.3.trans hadd.3,
              hfold.4.trans hadd.4, hfold.5.trans hadd.5, hfold.6.trans hadd.6⟩

theorem sameRoutes_ensureNextHopGroup (nexthops : NextHopGroupKey) :
    SameRoutes s (s.ensureNextHopGroup sai nexthops).1 := by
  unfold ensureNextHopGroup
  split
  · exact .refl s
  · exact sameRoutes_addNextHopGroup nexthops

theorem sameRoutes_removeMembers {nexthops : NextHopGroupKey}
    (rest : List (Sigma fun _ : NextHopKey => sai_object_id_t)) :
    SameRoutes s (removeMembers sai nexthops rest s).1 := by
  induction rest generalizing s with
  | nil => exact .refl s
  | cons nhop rest ih =>
    rw [removeMembers]
    split
    · refine SameRoutes.trans ?_ ih
      exact ⟨rfl, rfl, rfl, rfl, rfl, rfl⟩
    · split
      · exact .refl s
      · refine SameRoutes.trans ?_ ih
        exact ⟨rfl, rfl, rfl, rfl, rfl, rfl⟩

theorem sameRoutes_removeNextHopGroup (nexthops : NextHopGroupKey) :
    SameRoutes s (s.removeNextHopGroup sai nexthops).1 := by
  unfold removeNextHopGroup
  split
  · exact .refl s
  · next entry _ =>
      split
      · exact .refl s
      · have hmembers : SameRoutes s
            (removeMembers sai nexthops (memberList entry.nhopgroup_members) s).1 :=
          sameRoutes_removeMembers (memberList entry.nhopgroup_members)
        dsimp only
        split
        · exact hmembers
        · split
          · exact hmembers
          · refine hmembers.trans (SameRoutes.trans ?_ (SameRoutes.trans
              (sameRoutes_foldl nexthops.m_nexthops (-1)) ⟨rfl, rfl, rfl, rfl, rfl, rfl⟩))
            exact ⟨rfl, rfl, rfl, rfl, rfl, rfl⟩

theorem sameRoutes_releaseNextHops (nexthops : NextHopGroupKey) :
    SameRoutes s (s.releaseNextHops sai nexthops) := by
  have hcount := sameRoutes_addNextHopRefCount (s := s) nexthops (-1)
  unfold releaseNextHops
  dsimp only
  split
  · exact hcount.trans (sameRoutes_removeNextHopGroup nexthops)
  · exact hcount

theorem sameRoutes_validLoop {nexthop : NextHopKey} (rest : List NextHopGroupKey) :
    SameRoutes s (validLoop sai nexthop rest s).1 := by
  induction rest generalizing s with
  | nil => exact .refl s
  | cons nexthops rest ih =>
    rw [validLoop]
    split
    · split
      · exact .refl s
      · refine SameRoutes.trans ?_ ih
        exact ⟨rfl, rfl, rfl, rfl, rfl, rfl⟩
    · exact ih

theorem sameRoutes_invalidLoop {nexthop : NextHopKey} (rest : List NextHopGroupKey) :
    SameRoutes s (invalidLoop sai nexthop rest s).1 := by
  induction rest generalizing s with
  | nil => exact .refl s
  | cons nexthops rest ih =>
    rw [invalidLoop]
    split
    · dsimp only
      split
      · exact ⟨rfl, rfl, rfl, rfl, rfl, rfl⟩
      · refine SameRoutes.trans ?_ ih
        exact ⟨rfl, rfl, rfl, rfl, rfl, rfl⟩
    · exact ih

theorem sameRoutes_setNextHopFlag (nexthop : NextHopKey) :
    SameRoutes s (s.setNextHopFlag sai nexthop).1 := by
  unfold setNextHopFlag
  split
  · exact .refl s
  · refine SameRoutes.trans ?_ (sameRoutes_invalidLoop _)
    exact ⟨rfl, rfl, rfl, rfl, rfl, rfl⟩

theorem sameRoutes_clearNextHopFlag (nexthop : NextHopKey) :
    SameRoutes s (s.clearNextHopFlag sai nexthop).1 := by
  unfold clearNextHopFlag
  split
  · refine SameRoutes.trans ?_ (sameRoutes_validLoop _)
    exact ⟨rfl, rfl, rfl, rfl, rfl, rfl⟩
  · exact .refl s

theorem sameRoutes_informNextHop (nexthop : NextHopKey) (if_up : Bool) :
    SameRoutes s (s.informNextHop sai nexthop if_up).1 := by
  unfold informNextHop
  split
  · exact sameRoutes_clearNextHopFlag nexthop
  · exact sameRoutes_setNextHopFlag nexthop

theorem sameRoutes_ifChangeLoop {if_alias : Alias} {if_up : Bool} (rest : List NextHopKey) :
    SameRoutes s (ifChangeLoop sai if_alias if_up rest s).1 := by
  induction rest generalizing s with
  | nil => exact .refl s
  | cons nexthop rest ih =>
    rw [ifChangeLoop]
    split
    · have hflag : SameRoutes s (s.informNextHop sai nexthop if_up).1 :=
        sameRoutes_informNextHop nexthop if_up
      dsimp only
      split
      · exact hflag.trans ih
      · exact hflag
    · exact ih

theorem sameRoutes_ifChangeInformNextHop (if_alias : Alias) (if_up : Bool) :
    SameRoutes s (s.ifChangeInformNextHop sai if_alias if_up).1 := by
  refine SameRoutes.trans ?_ (sameRoutes_ifChangeLoop _)
  exact ⟨rfl, rfl, rfl, rfl, rfl, rfl⟩

theorem sameRoutes_addNextHop (nexthop : NextHopKey) :
    SameRoutes s (s.addNextHop sai nexthop).1 := by
  unfold addNextHop
  split
  · exact .refl s
  · split
    · exact .refl s
    · dsimp only
      split
      · refine SameRoutes.trans ?_ (sameRoutes_setNextHopFlag nexthop)
        exact ⟨rfl, rfl, rfl, rfl, rfl, rfl⟩
      · exact ⟨rfl, rfl, rfl, rfl, rfl, rfl⟩

theorem sameRoutes_addNeighbor (neighborEntry : NextHopKey) (macAddress : MacAddress) :
    SameRoutes s (s.addNeighbor sai neighborEntry macAddress).1 := by
  unfold addNeighbor
  split
  · exact .refl s
  · split
    · split
      · have hadd : SameRoutes s ((s.addRouterIntfsRefCount neighborEntry.if_alias 1).addNextHop sai
            neighborEntry).1 := by
          refine SameRoutes.trans ?_ (sameRoutes_addNextHop neighborEntry)
          exact ⟨rfl, rfl, rfl, rfl, rfl, rfl⟩
        dsimp only
        split
        · exact hadd.trans ⟨rfl, rfl, rfl, rfl, rfl, rfl⟩
        · split
          · exact hadd
          · exact hadd.trans ⟨rfl, rfl, rfl, rfl, rfl, rfl⟩
      · exact .refl s
      · exact .refl s
    · split
      · exact .refl s
      · exact ⟨rfl, rfl, rfl, rfl, rfl, rfl⟩

theorem sameRoutes_removeNextHop (nexthop : NextHopKey) : SameRoutes s (s.removeNextHop nexthop) := by
  unfold removeNextHop
  split
  · exact .refl s
  · exact ⟨rfl, rfl, rfl, rfl, rfl, rfl⟩

theorem sameRoutes_removeNeighbor (neighborEntry : NextHopKey) :
    SameRoutes s (s.removeNeighbor sai neighborEntry).1 := by
  unfold removeNeighbor
  split
  · exact .refl s
  · dsimp only
    split
    · exact ⟨rfl, rfl, rfl, rfl, rfl, rfl⟩
    · split
      · exact ⟨rfl, rfl, rfl, rfl, rfl, rfl⟩
      · split
        · refine SameRoutes.trans ?_ (sameRoutes_removeNextHop neighborEntry)
          exact ⟨rfl, rfl, rfl, rfl, rfl, rfl⟩
        · exact ⟨rfl, rfl, rfl, rfl, rfl, rfl⟩
        · exact ⟨rfl, rfl, rfl, rfl, rfl, rfl⟩

end St

/-- The tasks of neighbors leave the routes alone. -/
theorem sameRoutes_doNeighTask (task : NeighTask) : SameRoutes s (doNeighTask sai s task).1 := by
  cases task with
  | set if_alias ip_address mac_address =>
    rw [doNeighTask]
    split
    · exact .refl s
    · split
      · exact .refl s
      · split
        · exact .refl s
        · split
          · exact .refl s
          · exact St.sameRoutes_addNeighbor _ _
  | del if_alias ip_address =>
    rw [doNeighTask]
    split
    · exact .refl s
    · split
      · exact .refl s
      · exact St.sameRoutes_removeNeighbor _

theorem sameRoutes_updatePortOperStatus (if_alias : Alias) (status : sai_port_oper_status_t) :
    SameRoutes s (updatePortOperStatus sai s if_alias status) := by
  unfold updatePortOperStatus
  split
  · exact .refl s
  · split
    · exact .refl s
    · exact (St.sameRoutes_ifChangeInformNextHop if_alias _).trans ⟨rfl, rfl, rfl, rfl, rfl, rfl⟩

/-! ### What a step does to the routes -/

/-- The routes are the same, and their observers; a table may have been made. -/
structure SameView (s t : St) : Prop where
  findRoute : t.findRoute = s.findRoute
  m_nextHopObservers : t.m_nextHopObservers = s.m_nextHopObservers
  updates : t.updates = s.updates
  gVirtualRouterId : t.gVirtualRouterId = s.gVirtualRouterId

namespace SameView

variable {u : St}

theorem refl (s : St) : SameView s s := ⟨rfl, rfl, rfl, rfl⟩

theorem trans (h : SameView s t) (h' : SameView t u) : SameView s u :=
  ⟨h'.1.trans h.1, h'.2.trans h.2, h'.3.trans h.3, h'.4.trans h.4⟩

end SameView

theorem SameRoutes.view (h : SameRoutes s t) : SameView s t :=
  ⟨h.findRoute, h.m_nextHopObservers, h.updates, h.gVirtualRouterId⟩

/-- A step stores a route and tells the observers, drops one and tells them, or does
neither. -/
inductive RouteChange (s : St) (vrf_id : sai_object_id_t) (ipPrefix : IpPrefix) (t : St) : Prop
  | same (h : SameView s t)
  | stored (u : St) (nextHops : NextHopGroupKey) (h : SameView s u)
      (ht : t = u.storeRoute vrf_id ipPrefix nextHops)
  | dropped (hdefault : ipPrefix.isDefaultRoute = false)
      (hfind : ∀ v p, t.findRoute v p
        = if v = vrf_id ∧ p = ipPrefix then none else s.findRoute v p)
      (hobservers : t.m_nextHopObservers
        = (s.notifyNextHopChangeObservers vrf_id ipPrefix .empty false).m_nextHopObservers)
      (hupdates : t.updates = (s.notifyNextHopChangeObservers vrf_id ipPrefix .empty false).updates)
      (hvr : t.gVirtualRouterId = s.gVirtualRouterId)

namespace St

variable {vrf_id : sai_object_id_t} {ipPrefix : IpPrefix} {nextHops : NextHopGroupKey}

theorem notify_m_nextHopObservers (add : Bool) :
    (s.notifyNextHopChangeObservers vrf_id ipPrefix nextHops add).m_nextHopObservers
      = s.m_nextHopObservers.map fun host entry =>
          (notifyEntry vrf_id ipPrefix nextHops add host entry).1 := rfl

theorem notify_updates (add : Bool) :
    (s.notifyNextHopChangeObservers vrf_id ipPrefix nextHops add).updates
      = s.updates ++ s.m_nextHopObservers.entries.flatMap fun e =>
          notifyUpdates vrf_id ipPrefix nextHops add e.1 e.2 := rfl

theorem findRoute_storeRoute (v : sai_object_id_t) (p : IpPrefix) :
    (s.storeRoute vrf_id ipPrefix nextHops).findRoute v p
      = if v = vrf_id ∧ p = ipPrefix then some nextHops else s.findRoute v p := by
  show ((s.m_syncdRoutes.update vrf_id ∅ fun routes => routes.insert ipPrefix nextHops).lookup v).bind
    (fun routes => routes.lookup p) = _
  rw [Table.lookup_update]
  by_cases hv : v = vrf_id
  · rw [if_pos hv, Option.bind_some, Table.lookup_insert_eq]
    by_cases hp : p = ipPrefix
    · rw [if_pos hp, if_pos ⟨hv, hp⟩]
    · rw [if_neg hp, if_neg fun h => hp h.2, hv, findRoute]
      cases s.m_syncdRoutes.lookup vrf_id <;> rfl
  · rw [if_neg hv, if_neg fun h => hv h.1]
    rfl

theorem sameView_addVrfRefCount (n : ℤ) : SameView s (s.addVrfRefCount vrf_id n) := by
  unfold addVrfRefCount
  split
  · exact .refl s
  · exact ⟨rfl, rfl, rfl, rfl⟩

theorem sameView_ensureTable : SameView s (s.ensureTable vrf_id) := by
  unfold ensureTable
  split
  · exact .refl s
  · next hnone =>
      refine SameView.trans ?_ (sameView_addVrfRefCount 1)
      refine ⟨?_, rfl, rfl, rfl⟩
      -- an empty table has no route
      funext v p
      show ((s.m_syncdRoutes.insert vrf_id ∅).lookup v).bind (fun routes => routes.lookup p) = _
      rw [Table.lookup_insert_eq, findRoute]
      split
      · next hv =>
          rw [hv, hnone]
          rfl
      · rfl

theorem sameView_setAsicRoute (r : AsicRoute) : SameView s (s.setAsicRoute vrf_id ipPrefix r) :=
  ⟨rfl, rfl, rfl, rfl⟩

theorem routeChange_syncRoute (next_hop_id : sai_object_id_t) :
    RouteChange s vrf_id ipPrefix (s.syncRoute sai vrf_id ipPrefix nextHops next_hop_id).1 := by
  unfold syncRoute
  split
  · split
    · dsimp only
      split
      · exact .same (sameRoutes_removeNextHopGroup nextHops).view
      · exact .same (.refl s)
    · refine .stored _ nextHops ?_ rfl
      exact (sameView_setAsicRoute _).trans (sameRoutes_addNextHopRefCount nextHops 1).view
  · next old _ =>
      split
      · exact .same (.refl s)
      · have haction : SameView s
            (if old.getSize = 0 then s.setAsicRoute vrf_id ipPrefix ⟨true, 0⟩ else s) := by
          split
          · exact sameView_setAsicRoute _
          · exact .refl s
        dsimp only
        generalize (if old.getSize = 0 then s.setAsicRoute vrf_id ipPrefix ⟨true, 0⟩ else s) = s'
          at haction ⊢
        split
        · exact .same haction
        · refine .stored _ nextHops ?_ rfl
          have hset : SameView s' (s'.setAsicRoute vrf_id ipPrefix ⟨true, next_hop_id⟩) :=
            sameView_setAsicRoute _
          refine haction.trans (hset.trans ?_)
          exact (sameRoutes_addNextHopRefCount nextHops 1).view.trans
            (sameRoutes_releaseNextHops old).view

theorem RouteChange.of_view {u : St} (h : SameView s u) (h' : RouteChange u vrf_id ipPrefix t) :
    RouteChange s vrf_id ipPrefix t := by
  cases h' with
  | same h' => exact .same (h.trans h')
  | stored w nextHops h' ht => exact .stored w nextHops (h.trans h') ht
  | dropped hdefault hfind hobservers hupdates hvr =>
    refine .dropped hdefault ?_ ?_ ?_ (hvr.trans h.gVirtualRouterId)
    · rw [← h.findRoute]
      exact hfind
    · rw [hobservers, notify_m_nextHopObservers, notify_m_nextHopObservers,
        h.m_nextHopObservers]
    · rw [hupdates, notify_updates, notify_updates, h.m_nextHopObservers, h.updates]

theorem routeChange_addRouteSingle (nextHop : NextHopKey) :
    RouteChange s vrf_id ipPrefix (s.addRouteSingle sai vrf_id ipPrefix nextHop).1 := by
  unfold addRouteSingle
  dsimp only
  split
  · exact .same sameView_ensureTable
  · exact RouteChange.of_view sameView_ensureTable (routeChange_syncRoute _)

theorem routeChange_addTempRoute :
    RouteChange s vrf_id ipPrefix (s.addTempRoute sai rand vrf_id ipPrefix nextHops) := by
  unfold addTempRoute
  dsimp only
  split
  · exact .same (.refl s)
  · split
    · exact .same (.refl s)
    · exact routeChange_addRouteSingle _

/-- **Adding a route stores at most that route.** -/
theorem routeChange_addRoute :
    RouteChange s vrf_id ipPrefix (s.addRoute sai rand vrf_id ipPrefix nextHops).1 := by
  unfold addRoute
  split
  · exact routeChange_addRouteSingle _
  · have hgroup : SameView s ((s.ensureTable vrf_id).ensureNextHopGroup sai nextHops).1 :=
      sameView_ensureTable.trans (sameRoutes_ensureNextHopGroup nextHops).view
    dsimp only
    split
    · exact RouteChange.of_view hgroup (routeChange_syncRoute _)
    · split
      · exact .same hgroup
      · exact RouteChange.of_view hgroup routeChange_addTempRoute

theorem findRoute_eraseRoute (v : sai_object_id_t) (p : IpPrefix) :
    (s.eraseRoute vrf_id ipPrefix).findRoute v p
      = if v = vrf_id ∧ p = ipPrefix then none else s.findRoute v p := by
  show ((s.m_syncdRoutes.update vrf_id ∅ fun routes => routes.erase ipPrefix).lookup v).bind
    (fun routes => routes.lookup p) = _
  rw [Table.lookup_update]
  by_cases hv : v = vrf_id
  · rw [if_pos hv, Option.bind_some, Table.lookup_erase_eq]
    by_cases hp : p = ipPrefix
    · rw [if_pos hp, if_pos ⟨hv, hp⟩]
    · rw [if_neg hp, if_neg fun h => hp h.2, hv, findRoute]
      cases s.m_syncdRoutes.lookup vrf_id <;> rfl
  · rw [if_neg hv, if_neg fun h => hv h.1]
    rfl

theorem lookup_eq_none_of_entries {K V : Type} [DecidableEq K] {t : Table K V}
    (h : t.entries = []) (k : K) : t.lookup k = none := by
  rw [AList.lookup_eq_none, AList.mem_keys, AList.keys, h]
  exact List.not_mem_nil

theorem sameView_releaseTable : SameView s (s.releaseTable vrf_id) := by
  unfold releaseTable
  split
  · next hempty =>
      refine SameView.trans ?_ (sameView_addVrfRefCount (-1))
      refine ⟨?_, rfl, rfl, rfl⟩
      funext v p
      show ((s.m_syncdRoutes.erase vrf_id).lookup v).bind (fun routes => routes.lookup p) = _
      rw [Table.lookup_erase_eq, findRoute]
      split
      · next hv =>
          -- there was no route in the table
          subst hv
          cases hlookup : s.m_syncdRoutes.lookup v with
          | none => rfl
          | some routes =>
            rw [hlookup, Option.getD_some] at hempty
            exact (lookup_eq_none_of_entries hempty p).symm
      · rfl
  · exact .refl s

theorem routeChange_dropRoute :
    RouteChange s vrf_id ipPrefix (s.dropRoute sai vrf_id ipPrefix nextHops) := by
  have hrelease : SameView s (s.releaseNextHops sai nextHops) :=
    (sameRoutes_releaseNextHops nextHops).view
  unfold dropRoute
  dsimp only
  generalize s.releaseNextHops sai nextHops = u at hrelease ⊢
  split
  · exact .stored u .empty hrelease rfl
  · next hdefault =>
      refine RouteChange.of_view hrelease ?_
      have htable : SameView
          ((u.eraseRoute vrf_id ipPrefix).notifyNextHopChangeObservers vrf_id ipPrefix .empty false)
          (((u.eraseRoute vrf_id ipPrefix).notifyNextHopChangeObservers vrf_id ipPrefix .empty
            false).releaseTable vrf_id) := sameView_releaseTable
      refine .dropped (by simpa using hdefault) ?_ htable.2 htable.3 htable.4
      intro v p
      rw [htable.1]
      exact findRoute_eraseRoute v p

theorem routeChange_removeRoute :
    RouteChange s vrf_id ipPrefix (s.removeRoute sai vrf_id ipPrefix).1 := by
  unfold removeRoute
  split
  · exact .same (.refl s)
  · split
    · split
      · exact .same (.refl s)
      · dsimp only
        split
        · exact .same (sameView_setAsicRoute _)
        · exact RouteChange.of_view (sameView_setAsicRoute _) routeChange_dropRoute
    · split
      · exact .same (.refl s)
      · refine RouteChange.of_view ?_ routeChange_dropRoute
        exact ⟨rfl, rfl, rfl, rfl⟩

end St

theorem RouteChange.gVirtualRouterId {vrf_id : sai_object_id_t} {ipPrefix : IpPrefix}
    (h : RouteChange s vrf_id ipPrefix t) : t.gVirtualRouterId = s.gVirtualRouterId := by
  cases h with
  | same h => exact h.gVirtualRouterId
  | stored u nextHops h ht =>
    rw [ht]
    exact h.gVirtualRouterId
  | dropped _ _ _ _ hvr => exact hvr

/-- The prefix of a task. -/
def RouteTask.ip_prefix : RouteTask → Option IpPrefix
  | .resync _ => none
  | .set _ p _ _ => some p
  | .del _ p => some p

theorem routeChange_setRoute {vrf_id : sai_object_id_t} { ip_prefix : IpPrefix}
    {ips aliases : List Char} {r : St × Bool}
    (h : setRoute sai rand s vrf_id ip_prefix ips aliases = some r) :
    RouteChange s vrf_id ip_prefix r.1 := by
  unfold setRoute at h
  dsimp only at h
  split at h
  · obtain rfl := Option.some.inj h
    exact St.routeChange_removeRoute
  · obtain ⟨nhg_str, -, h⟩ := Option.bind_eq_some_iff.mp h
    obtain ⟨nhg, -, h⟩ := Option.bind_eq_some_iff.mp h
    split at h
    · obtain ⟨ip, -, h⟩ := Option.bind_eq_some_iff.mp h
      split at h
      · split at h
        · obtain rfl := Option.some.inj h
          exact .same (.refl s)
        · obtain rfl := Option.some.inj h
          exact St.routeChange_addRoute
      · split at h
        · obtain rfl := Option.some.inj h
          exact .same (.refl s)
        · obtain rfl := Option.some.inj h
          exact St.routeChange_addRoute
    · cases h

/-- **A task changes at most the route of its prefix.** -/
theorem routeChange_doRouteTask {task : RouteTask} {r : St × Bool}
    (h : doRouteTask sai rand s task = some r) :
    SameView s r.1 ∨ ∃ vrf_id ip_prefix, task.ip_prefix = some ip_prefix ∧
      RouteChange s vrf_id ip_prefix r.1 := by
  cases task with
  | resync set =>
    obtain rfl := Option.some.inj h
    exact Or.inl ⟨rfl, rfl, rfl, rfl⟩
  | set vrf_name ip_prefix ips aliases =>
    rw [doRouteTask] at h
    split at h
    · obtain rfl := Option.some.inj h
      exact Or.inl (.refl s)
    · split at h
      · obtain rfl := Option.some.inj h
        exact Or.inl (.refl s)
      · next vrf_id _ => exact Or.inr ⟨vrf_id, ip_prefix, rfl, routeChange_setRoute h⟩
  | del vrf_name ip_prefix =>
    rw [doRouteTask] at h
    split at h
    · obtain rfl := Option.some.inj h
      exact Or.inl (.refl s)
    · split at h
      · obtain rfl := Option.some.inj h
        exact Or.inl (.refl s)
      · next vrf_id _ =>
          obtain rfl := Option.some.inj h
          exact Or.inr ⟨vrf_id, ip_prefix, rfl, St.routeChange_removeRoute⟩

/-! ### What a task comes to -/

/-- What `doTask` makes of an entry. -/
inductive TaskAction where
  | keep
  | resync (set : Bool)
  | remove (vrf_id : sai_object_id_t) ( ip_prefix : IpPrefix)
  | add (vrf_id : sai_object_id_t) ( ip_prefix : IpPrefix) (nhg : NextHopGroupKey)

local instance lawfulBEqAlias : LawfulBEq (List Char) := inferInstance

/-- What a route that is set comes to; none if the process ends. -/
def setAction (s : St) (vrf_id : sai_object_id_t) ( ip_prefix : IpPrefix)
    (ips aliases : List Char) : Option TaskAction :=
  let ipv := getlines ',' [] ips
  let alsv := getlines ',' [] aliases
  if alsv.any (· ∈ excpIntfs) then some (.remove vrf_id ip_prefix)
  else
    (nhgStr ipv alsv).bind fun nhg_str =>
      (NextHopGroupKey.ofString s.getRouterIntfsAlias nhg_str).bind fun nhg =>
        match ipv, alsv with
        | ip :: more, if_alias :: _ =>
          (isZeroRoute ip more).bind fun zero =>
            if zero then
              if skipZero s ip_prefix if_alias then some .keep
              else some (.add vrf_id ip_prefix nhg)
            else if s.findRoute vrf_id ip_prefix = some nhg then some .keep
            else some (.add vrf_id ip_prefix nhg)
        | _, _ => none

/-- What a task comes to in a state. -/
def taskAction (s : St) : RouteTask → Option TaskAction
  | .resync set => some (.resync set)
  | .set vrf_name ip_prefix ips aliases =>
    if s.m_resync then some .keep
    else
      match taskVrf s vrf_name with
      | none => some .keep
      | some vrf_id => setAction s vrf_id ip_prefix ips aliases
  | .del vrf_name ip_prefix =>
    if s.m_resync then some .keep
    else
      match taskVrf s vrf_name with
      | none => some .keep
      | some vrf_id => some (.remove vrf_id ip_prefix)

def TaskAction.run (sai : Sai) (rand : ℕ) (s : St) : TaskAction → St
  | .keep => s
  | .resync set => { s with m_resync := set }
  | .remove vrf_id ip_prefix => (s.removeRoute sai vrf_id ip_prefix).1
  | .add vrf_id ip_prefix nhg => (s.addRoute sai rand vrf_id ip_prefix nhg).1

/-- A route that is set is kept, removed or added: that one and no other. -/
theorem setAction_cases {vrf_id : sai_object_id_t} { ip_prefix : IpPrefix} {ips aliases : List Char}
    {action : TaskAction} (h : setAction s vrf_id ip_prefix ips aliases = some action) :
    action = .keep ∨ action = .remove vrf_id ip_prefix ∨ ∃ nhg, action = .add vrf_id ip_prefix nhg := by
  unfold setAction at h
  dsimp only at h
  split at h
  · exact Or.inr (Or.inl (Option.some.inj h).symm)
  · obtain ⟨nhg_str, -, h⟩ := Option.bind_eq_some_iff.mp h
    obtain ⟨nhg, -, h⟩ := Option.bind_eq_some_iff.mp h
    split at h
    · obtain ⟨ip, -, h⟩ := Option.bind_eq_some_iff.mp h
      split_ifs at h
      · exact Or.inl (Option.some.inj h).symm
      · exact Or.inr (Or.inr ⟨nhg, (Option.some.inj h).symm⟩)
      · exact Or.inl (Option.some.inj h).symm
      · exact Or.inr (Or.inr ⟨nhg, (Option.some.inj h).symm⟩)
    · cases h

theorem setRoute_eq (vrf_id : sai_object_id_t) ( ip_prefix : IpPrefix) (ips aliases : List Char) :
    (setRoute sai rand s vrf_id ip_prefix ips aliases).map (·.1)
      = (setAction s vrf_id ip_prefix ips aliases).map (TaskAction.run sai rand s) := by
  unfold setRoute setAction
  dsimp only
  generalize getlines ',' [] ips = ipv
  generalize getlines ',' [] aliases = alsv
  split
  · rfl
  · cases nhgStr ipv alsv with
    | none => rfl
    | some nhg_str =>
      rw [Option.bind_some, Option.bind_some]
      cases NextHopGroupKey.ofString s.getRouterIntfsAlias nhg_str with
      | none => rfl
      | some nhg =>
        rw [Option.bind_some, Option.bind_some]
        rcases ipv with _ | ⟨ip, more⟩
        · rfl
        · rcases alsv with _ | ⟨if_alias, rest⟩
          · rfl
          · dsimp only
            cases isZeroRoute ip more with
            | none => rfl
            | some zero =>
              rw [Option.bind_some, Option.bind_some]
              split_ifs
              · rfl
              · rfl
              · rfl
              · rfl

/-- **A task does what it comes to.** -/
theorem doRouteTask_eq (task : RouteTask) :
    (doRouteTask sai rand s task).map (·.1) = (taskAction s task).map (TaskAction.run sai rand s) := by
  cases task with
  | resync set => rfl
  | set vrf_name ip_prefix ips aliases =>
    rw [doRouteTask, taskAction]
    split
    · rfl
    · cases taskVrf s vrf_name with
      | none => rfl
      | some vrf_id => exact setRoute_eq vrf_id ip_prefix ips aliases
  | del vrf_name ip_prefix =>
    rw [doRouteTask, taskAction]
    split
    · rfl
    · cases taskVrf s vrf_name with
      | none => rfl
      | some vrf_id => rfl

/-! ### When the calls succeed -/

namespace St

/-- The members of a group are all made. -/
theorem exists_addMembers (hsai : ∀ call, sai call = .SUCCESS) {nexthops : NextHopGroupKey}
    {group_id : sai_object_id_t} (rest : List NextHopKey)
    (members : Table NextHopKey sai_object_id_t) (s : St) :
    ∃ t members', addMembers sai nexthops group_id rest members s = (t, some members') := by
  induction rest generalizing members s with
  | nil => exact ⟨s, members, rfl⟩
  | cons nexthop rest ih =>
    rw [addMembers]
    split
    · exact ih members s
    · rw [if_neg fun h => h (hsai _)]
      exact ih _ _

/-- There is room for a group, and its next hops are there. -/
def canAddGroup (s : St) (nexthops : NextHopGroupKey) : Bool :=
  s.m_nextHopGroupCount < s.m_maxNextHopGroupCount &&
    nexthops.m_nexthops.all fun nexthop => s.hasNextHop nexthop

theorem addNextHopGroup_eq_of_not {nexthops : NextHopGroupKey} (h : s.canAddGroup nexthops = false) :
    s.addNextHopGroup sai nexthops = (s, false) := by
  unfold addNextHopGroup
  split
  · rfl
  · next hroom =>
      rw [if_pos]
      rw [canAddGroup, decide_eq_true (not_le.mp hroom), Bool.true_and, List.all_eq_false] at h
      rw [List.any_eq_true]
      simpa using h

/-- **A group is made when there is room and its next hops are there.** -/
theorem addNextHopGroup_snd (hsai : ∀ call, sai call = .SUCCESS) (nexthops : NextHopGroupKey) :
    (s.addNextHopGroup sai nexthops).2 = s.canAddGroup nexthops := by
  cases hcan : s.canAddGroup nexthops with
  | false => rw [addNextHopGroup_eq_of_not hcan]
  | true =>
    rw [canAddGroup, Bool.and_eq_true, List.all_eq_true] at hcan
    unfold addNextHopGroup
    rw [if_neg (not_le.mpr (of_decide_eq_true hcan.1)), if_neg, if_neg fun h => h (hsai _)]
    · dsimp only
      obtain ⟨t, members, heq⟩ := exists_addMembers hsai nexthops.m_nexthops ∅ s.createGroup
      rw [heq]
    · rw [List.any_eq_true]
      rintro ⟨nexthop, hmem, hnone⟩
      rw [hcan.2 nexthop hmem] at hnone
      cases hnone

theorem ensureNextHopGroup_snd (hsai : ∀ call, sai call = .SUCCESS) (nexthops : NextHopGroupKey) :
    (s.ensureNextHopGroup sai nexthops).2 = (s.hasNextHopGroup nexthops || s.canAddGroup nexthops) := by
  unfold ensureNextHopGroup
  split
  · next hhas => rw [hhas, Bool.true_or]
  · next hnot => rw [addNextHopGroup_snd hsai, Bool.eq_false_iff.mpr hnot, Bool.false_or]

/-- Without a group nothing is changed. -/
theorem ensureNextHopGroup_fst (hsai : ∀ call, sai call = .SUCCESS) {nexthops : NextHopGroupKey}
    (h : (s.ensureNextHopGroup sai nexthops).2 = false) :
    (s.ensureNextHopGroup sai nexthops).1 = s := by
  rw [ensureNextHopGroup_snd hsai, Bool.or_eq_false_iff] at h
  unfold ensureNextHopGroup
  rw [if_neg (Bool.eq_false_iff.mp h.1), addNextHopGroup_eq_of_not h.2]

/-- The next hop that `addTempRoute` takes. -/
def tempNextHop (s : St) (rand : ℕ) (nextHops : NextHopGroupKey) : Option NextHopKey :=
  ((s.syncdNextHops nextHops)[rand % (s.syncdNextHops nextHops).length]?).bind fun nexthop =>
    NextHopKey.ofString s.getRouterIntfsAlias nexthop.to_string

theorem addTempRoute_eq {vrf_id : sai_object_id_t} {ipPrefix : IpPrefix} :
    s.addTempRoute sai rand vrf_id ipPrefix nextHops
      = match s.tempNextHop rand nextHops with
        | none => s
        | some nexthop => (s.addRouteSingle sai vrf_id ipPrefix nexthop).1 := by
  unfold addTempRoute tempNextHop
  dsimp only
  cases (s.syncdNextHops nextHops)[rand % (s.syncdNextHops nextHops).length]? with
  | none => rfl
  | some nexthop =>
    cases hkey : NextHopKey.ofString s.getRouterIntfsAlias nexthop.to_string with
    | none => simp only [Option.bind_some, hkey]
    | some tmp_next_hop => simp only [Option.bind_some, hkey]

end St

end Orchagent
