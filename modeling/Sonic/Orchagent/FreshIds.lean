/-
Orchagent/FreshIds.lean

The ids that SAI gives to groups and members of groups are new ones.

`St.Fresh` says so for a state; every operation of the orchs keeps it (`fresh_step`), so
that it holds along every run.
-/
import Sonic.Orchagent.RouteRun

namespace Orchagent

open Transition (Run)

variable {sai : Sai} {rand : ℕ} {s t : St} {vrf_id : sai_object_id_t} {ipPrefix : IpPrefix}
  {nexthops : NextHopGroupKey}

namespace St

/-- SAI gives ids that no group or member in the ASIC has. -/
structure Fresh (s : St) : Prop where
  asicGroups : ∀ id, s.nextOid ≤ id → id ∉ s.asicGroups
  asicMembers : ∀ id, s.nextOid ≤ id → s.asicMembers.lookup id = none

namespace Fresh

/-! ### Objects of the ASIC -/

theorem createGroup (h : s.Fresh) : s.createGroup.Fresh where
  asicGroups := by
    intro id hid hmem
    rcases Finset.mem_insert.mp hmem with rfl | hmem
    · exact Nat.not_succ_le_self _ hid
    · exact h.asicGroups id (Nat.le_of_succ_le hid) hmem
  asicMembers := fun id hid => h.asicMembers id (Nat.le_of_succ_le hid)

theorem removeGroup (h : s.Fresh) (group_id : sai_object_id_t) : (s.removeGroup group_id).Fresh where
  asicGroups := fun id hid hmem => h.asicGroups id hid (Finset.mem_of_mem_erase hmem)
  asicMembers := h.asicMembers

theorem createMember (h : s.Fresh) (group_id next_hop_id : sai_object_id_t) :
    (s.createMember group_id next_hop_id).Fresh where
  asicGroups := fun id hid => h.asicGroups id (Nat.le_of_succ_le hid)
  asicMembers := by
    intro id hid
    show (s.asicMembers.insert s.nextOid _).lookup id = none
    rw [AList.lookup_insert_ne]
    · exact h.asicMembers id (Nat.le_of_succ_le hid)
    · rintro rfl
      exact Nat.not_succ_le_self _ hid

theorem removeMember (h : s.Fresh) (member_id : sai_object_id_t) : (s.removeMember member_id).Fresh where
  asicGroups := h.asicGroups
  asicMembers := by
    intro id hid
    show (s.asicMembers.erase member_id).lookup id = none
    rw [Table.lookup_erase_eq, h.asicMembers id hid]
    exact ite_self none

/-! ### Next hops and neighbors -/

theorem addRouterIntfsRefCount (h : s.Fresh) (if_alias : Alias) (n : ℤ) :
    (s.addRouterIntfsRefCount if_alias n).Fresh := ⟨h.1, h.2⟩

theorem updateNextHop (h : s.Fresh) (nexthop : NextHopKey) (f : NextHopEntry → NextHopEntry) :
    (s.updateNextHop nexthop f).Fresh := ⟨h.1, h.2⟩

theorem updateMembers (h : s.Fresh)
    (f : Table NextHopKey sai_object_id_t → Table NextHopKey sai_object_id_t) :
    (s.updateMembers nexthops f).Fresh := ⟨h.1, h.2⟩

theorem validLoop {nexthop : NextHopKey} (rest : List NextHopGroupKey) (h : s.Fresh) :
    (validLoop sai nexthop rest s).1.Fresh := by
  induction rest generalizing s with
  | nil => exact h
  | cons nexthops rest ih =>
    rw [St.validLoop]
    split
    · split
      · exact h
      · exact ih ((h.createMember _ _).updateMembers _)
    · exact ih h

theorem invalidLoop {nexthop : NextHopKey} (rest : List NextHopGroupKey) (h : s.Fresh) :
    (invalidLoop sai nexthop rest s).1.Fresh := by
  induction rest generalizing s with
  | nil => exact h
  | cons nexthops rest ih =>
    rw [St.invalidLoop]
    split
    · dsimp only
      split
      · exact h.updateMembers _
      · exact ih ((h.updateMembers _).removeMember _)
    · exact ih h

theorem informNextHop (h : s.Fresh) (nexthop : NextHopKey) (if_up : Bool) :
    (s.informNextHop sai nexthop if_up).1.Fresh := by
  unfold St.informNextHop clearNextHopFlag setNextHopFlag
  split
  · split
    · exact validLoop _ (h.updateNextHop _ _)
    · exact h
  · split
    · exact h
    · exact invalidLoop _ (h.updateNextHop _ _)

theorem ifChangeLoop {if_alias : Alias} {if_up : Bool} (rest : List NextHopKey) (h : s.Fresh) :
    (ifChangeLoop sai if_alias if_up rest s).1.Fresh := by
  induction rest generalizing s with
  | nil => exact h
  | cons nexthop rest ih =>
    rw [St.ifChangeLoop]
    split
    · have hinform := @informNextHop sai s h nexthop if_up
      dsimp only
      split
      · exact ih hinform
      · exact hinform
    · exact ih h

theorem ifChangeInformNextHop (h : s.Fresh) (if_alias : Alias) (if_up : Bool) :
    (s.ifChangeInformNextHop sai if_alias if_up).1.Fresh := by
  unfold St.ifChangeInformNextHop
  exact ifChangeLoop _ ⟨h.1, h.2⟩

theorem addNextHop (h : s.Fresh) (nexthop : NextHopKey) : (s.addNextHop sai nexthop).1.Fresh := by
  have hinsert : (s.insertNextHop nexthop).Fresh :=
    ⟨fun id hid => h.1 id (Nat.le_of_succ_le hid), fun id hid => h.2 id (Nat.le_of_succ_le hid)⟩
  unfold St.addNextHop
  split
  · exact h
  · split
    · exact h
    · have hrif := hinsert.addRouterIntfsRefCount nexthop.if_alias 1
      dsimp only
      split
      · exact hrif.informNextHop nexthop false
      · exact hrif

theorem addNeighbor (h : s.Fresh) (neighborEntry : NextHopKey) (macAddress : MacAddress) :
    (s.addNeighbor sai neighborEntry macAddress).1.Fresh := by
  unfold St.addNeighbor
  split
  · exact h
  · split
    · split
      · have hadd := @addNextHop sai _
          (h.addRouterIntfsRefCount neighborEntry.if_alias 1) neighborEntry
        dsimp only
        split
        · exact ⟨hadd.1, hadd.2⟩
        · split
          · exact hadd
          · exact hadd.addRouterIntfsRefCount _ _
      · exact h
      · exact h
    · split
      · exact h
      · exact ⟨h.1, h.2⟩

theorem removeNeighbor (h : s.Fresh) (neighborEntry : NextHopKey) :
    (s.removeNeighbor sai neighborEntry).1.Fresh := by
  have hup := h.updateNextHop neighborEntry id
  unfold St.removeNeighbor
  split
  · exact h
  · dsimp only
    split
    · exact hup
    · split
      · exact hup
      · split
        · unfold removeNextHop
          split
          · exact ⟨h.1, h.2⟩
          · exact ⟨h.1, h.2⟩
        · exact hup
        · exact hup

theorem doNeighTask (h : s.Fresh) (task : NeighTask) : (doNeighTask sai s task).1.Fresh := by
  unfold Orchagent.doNeighTask
  split
  · split
    · exact h
    · split
      · exact h
      · split
        · exact h
        · split
          · exact h
          · exact h.addNeighbor _ _
  · split
    · exact h
    · split
      · exact h
      · exact h.removeNeighbor _

theorem updatePortOperStatus (h : s.Fresh) (if_alias : Alias) (status : sai_port_oper_status_t) :
    (updatePortOperStatus sai s if_alias status).Fresh := by
  unfold Orchagent.updatePortOperStatus
  split
  · exact h
  · split
    · exact h
    · have hinform := @ifChangeInformNextHop sai s h if_alias (status = .UP)
      exact ⟨hinform.1, hinform.2⟩

/-! ### Groups -/

theorem addNextHopRefCount (h : s.Fresh) (n : ℤ) : (s.addNextHopRefCount nexthops n).Fresh := by
  unfold St.addNextHopRefCount
  split
  · exact h
  · dsimp only
    split
    · exact ⟨h.1, h.2⟩
    · exact ⟨h.1, h.2⟩
  · exact ⟨h.1, h.2⟩

theorem foldl (h : s.Fresh) (nexthops : List NextHopKey) (n : ℤ) :
    (nexthops.foldl (fun s nexthop => s.addNeighNextHopRefCount nexthop n) s).Fresh := by
  induction nexthops generalizing s with
  | nil => exact h
  | cons nexthop nexthops ih => exact ih (h.updateNextHop _ _)

theorem addMembers {group_id : sai_object_id_t} (rest : List NextHopKey)
    (members : Table NextHopKey sai_object_id_t) (h : s.Fresh) :
    (addMembers sai nexthops group_id rest members s).1.Fresh := by
  induction rest generalizing s members with
  | nil => exact h
  | cons nexthop rest ih =>
    rw [St.addMembers]
    split
    · exact ih members h
    · split
      · exact h
      · exact ih _ (h.createMember _ _)

theorem ensureNextHopGroup (h : s.Fresh) (nexthops : NextHopGroupKey) :
    (s.ensureNextHopGroup sai nexthops).1.Fresh := by
  unfold St.ensureNextHopGroup addNextHopGroup
  split
  · exact h
  · split
    · exact h
    · split
      · exact h
      · split
        · exact h
        · have hadd := @addMembers sai _ nexthops s.nextOid
            nexthops.m_nexthops ∅ h.createGroup
          split
          · next heq =>
              rw [heq] at hadd
              exact hadd
          · next s' members heq =>
              rw [heq] at hadd
              have hfold := hadd.foldl nexthops.m_nexthops 1
              exact ⟨hfold.1, hfold.2⟩

theorem removeMembers (rest : List (Sigma fun _ : NextHopKey => sai_object_id_t)) (h : s.Fresh) :
    (removeMembers sai nexthops rest s).1.Fresh := by
  induction rest generalizing s with
  | nil => exact h
  | cons nhop rest ih =>
    rw [St.removeMembers]
    split
    · exact ih (h.updateMembers _)
    · split
      · exact h
      · exact ih ((h.updateMembers _).removeMember _)

theorem removeNextHopGroup (h : s.Fresh) (nexthops : NextHopGroupKey) :
    (s.removeNextHopGroup sai nexthops).1.Fresh := by
  unfold St.removeNextHopGroup
  split
  · exact h
  · next entry _ =>
      split
      · exact h
      · have hmembers := @removeMembers sai s nexthops
          (memberList entry.nhopgroup_members) h
        dsimp only
        split
        · exact hmembers
        · split
          · exact hmembers
          · have hfold := (hmembers.removeGroup entry.next_hop_group_id).foldl nexthops.m_nexthops (-1)
            exact ⟨hfold.1, hfold.2⟩

theorem releaseNextHops (h : s.Fresh) (nexthops : NextHopGroupKey) :
    (s.releaseNextHops sai nexthops).Fresh := by
  have hcount := @addNextHopRefCount s nexthops h (-1)
  unfold St.releaseNextHops
  dsimp only
  split
  · exact hcount.removeNextHopGroup nexthops
  · exact hcount

/-! ### Routes -/

theorem addVrfRefCount (h : s.Fresh) (n : ℤ) : (s.addVrfRefCount vrf_id n).Fresh := by
  unfold St.addVrfRefCount
  split
  · exact h
  · exact ⟨h.1, h.2⟩

theorem ensureTable (h : s.Fresh) (vrf_id : sai_object_id_t) : (s.ensureTable vrf_id).Fresh := by
  unfold St.ensureTable
  split
  · exact h
  · refine addVrfRefCount ?_ 1
    exact ⟨h.1, h.2⟩

theorem storeRoute (h : s.Fresh) : (s.storeRoute vrf_id ipPrefix nexthops).Fresh := ⟨h.1, h.2⟩

theorem setAsicRoute (h : s.Fresh) (r : AsicRoute) : (s.setAsicRoute vrf_id ipPrefix r).Fresh :=
  ⟨h.1, h.2⟩

theorem syncRoute (h : s.Fresh) (next_hop_id : sai_object_id_t) :
    (s.syncRoute sai vrf_id ipPrefix nexthops next_hop_id).1.Fresh := by
  unfold St.syncRoute
  split
  · split
    · dsimp only
      split
      · exact h.removeNextHopGroup nexthops
      · exact h
    · exact ((h.setAsicRoute _).addNextHopRefCount 1).storeRoute
  · next old _ =>
      split
      · exact h
      · have haction : (if old.getSize = 0 then s.setAsicRoute vrf_id ipPrefix ⟨true, 0⟩ else s).Fresh := by
          split
          · exact h.setAsicRoute _
          · exact h
        dsimp only
        split
        · exact haction
        · exact (((haction.setAsicRoute _).addNextHopRefCount 1).releaseNextHops old).storeRoute

theorem addRouteSingle (h : s.Fresh) (nextHop : NextHopKey) :
    (s.addRouteSingle sai vrf_id ipPrefix nextHop).1.Fresh := by
  unfold St.addRouteSingle
  dsimp only
  split
  · exact h.ensureTable vrf_id
  · exact (h.ensureTable vrf_id).syncRoute _

theorem addRoute (h : s.Fresh) : (s.addRoute sai rand vrf_id ipPrefix nexthops).1.Fresh := by
  unfold St.addRoute
  split
  · exact h.addRouteSingle _
  · have hgroup := @ensureNextHopGroup sai _ (h.ensureTable vrf_id) nexthops
    dsimp only
    split
    · exact hgroup.syncRoute _
    · split
      · exact hgroup
      · rw [addTempRoute_eq]
        split
        · exact hgroup
        · exact hgroup.addRouteSingle _

theorem releaseTable (h : s.Fresh) : (s.releaseTable vrf_id).Fresh := by
  unfold St.releaseTable
  split
  · refine addVrfRefCount ?_ (-1)
    exact ⟨h.1, h.2⟩
  · exact h

theorem dropRoute (h : s.Fresh) : (s.dropRoute sai vrf_id ipPrefix nexthops).Fresh := by
  have hrelease := @releaseNextHops sai s h nexthops
  unfold St.dropRoute
  dsimp only
  split
  · exact hrelease.storeRoute
  · exact releaseTable ⟨hrelease.1, hrelease.2⟩

theorem removeRoute (h : s.Fresh) : (s.removeRoute sai vrf_id ipPrefix).1.Fresh := by
  unfold St.removeRoute
  split
  · exact h
  · split
    · split
      · exact h
      · dsimp only
        split
        · exact h.setAsicRoute _
        · exact (h.setAsicRoute _).dropRoute
    · split
      · exact h
      · exact dropRoute ⟨h.1, h.2⟩

theorem runAction (h : s.Fresh) (action : TaskAction) : (action.run sai rand s).Fresh := by
  cases action with
  | keep => exact h
  | resync set => exact ⟨h.1, h.2⟩
  | remove vrf_id p => exact h.removeRoute
  | add vrf_id p nhg => exact h.addRoute

theorem attach (h : s.Fresh) (observer : Observer) (dstAddr : IpAddress) :
    (s.attach observer dstAddr vrf_id).Fresh := ⟨h.1, h.2⟩

theorem detach (h : s.Fresh) (observer : Observer) (dstAddr : IpAddress) :
    (s.detach observer dstAddr vrf_id).Fresh := by
  unfold St.detach
  dsimp only
  split
  · exact h
  · split
    · split
      · exact ⟨h.1, h.2⟩
      · exact ⟨h.1, h.2⟩
    · exact h

end Fresh

end St

/-- The ASIC has no group and no member after the constructors. -/
theorem fresh_of_initial (h : Initial s) (hgroups : s.asicGroups = ∅) : s.Fresh where
  asicGroups := by
    intro id _
    rw [hgroups]
    exact Finset.notMem_empty id
  asicMembers := by
    intro id _
    rw [h.asicMembers]
    rfl

/-- **A step keeps the ids new.** -/
theorem fresh_step {e : Event} (h : s.Fresh) (hstep : Step s e t) : t.Fresh := by
  rw [Step] at hstep
  cases e with
  | routeTask sai rand task =>
    rw [St.apply, doRouteTask_eq] at hstep
    obtain ⟨action, -, rfl⟩ := Option.map_eq_some_iff.mp hstep
    exact h.runAction action
  | neighTask sai task =>
    obtain rfl := Option.some.inj hstep
    exact h.doNeighTask task
  | portOper sai if_alias status =>
    obtain rfl := Option.some.inj hstep
    exact h.updatePortOperStatus if_alias status
  | lagOper sai if_alias if_up =>
    obtain rfl := Option.some.inj hstep
    exact h.ifChangeInformNextHop if_alias if_up
  | attach observer dstAddr vrf_id =>
    obtain rfl := Option.some.inj hstep
    exact h.attach observer dstAddr
  | detach observer dstAddr vrf_id =>
    obtain rfl := Option.some.inj hstep
    exact h.detach observer dstAddr
  | addGroup sai nexthops =>
    obtain rfl := Option.some.inj hstep
    exact h.ensureNextHopGroup nexthops
  | removeGroup sai nexthops =>
    obtain rfl := Option.some.inj hstep
    exact h.removeNextHopGroup nexthops
  | config m_portList getRouterIntfsAlias isPrefixSubnet vrf_table =>
    obtain rfl := Option.some.inj hstep
    exact ⟨h.1, h.2⟩

/-- **The ids are new along every run.** -/
theorem fresh_of_run {es : List Event} (h : s.Fresh) (hrun : Run Step s es t) : t.Fresh :=
  hrun.keeps h fresh_step

end Orchagent
