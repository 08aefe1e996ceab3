/-
Orchagent/SameGroups.lean

What two states have in common as to next hop groups, and what does not matter for it.

`SameGroups` compares the groups and members in the ASIC, those that are known, and the
counters.  A route over a single next hop that is not added keeps all of it.  A group
that is not accounted for (`St.leak`) makes no difference to anything that follows: the
operations on a state with it and without end in states that differ by it again.
-/
import Sonic.Orchagent.FreshIds

namespace Orchagent

variable {sai : Sai} {rand : ℕ} {s t u : St} {vrf_id : sai_object_id_t} {ipPrefix : IpPrefix}
  {nextHops nexthops : NextHopGroupKey}

/-! ### What is compared -/

/-- The groups and members of the ASIC, the groups that are known and the counters are the
same. -/
structure SameGroups (s t : St) : Prop where
  asicGroups : t.asicGroups = s.asicGroups
  asicMembers : ∀ id, t.asicMembers.lookup id = s.asicMembers.lookup id
  m_nextHopGroupCount : t.m_nextHopGroupCount = s.m_nextHopGroupCount
  m_syncdNextHopGroups : ∀ nexthops,
    t.m_syncdNextHopGroups.lookup nexthops = s.m_syncdNextHopGroups.lookup nexthops
  ref_count : ∀ nexthop, (t.m_syncdNextHops.lookup nexthop).map NextHopEntry.ref_count
    = (s.m_syncdNextHops.lookup nexthop).map NextHopEntry.ref_count
  rif_ref_count : t.rif_ref_count = s.rif_ref_count
  crm_nexthop_group : t.crm_nexthop_group = s.crm_nexthop_group
  crm_nexthop_group_member : t.crm_nexthop_group_member = s.crm_nexthop_group_member

namespace SameGroups

theorem refl (s : St) : SameGroups s s :=
  ⟨rfl, fun _ => rfl, rfl, fun _ => rfl, fun _ => rfl, rfl, rfl, rfl⟩

theorem trans (h : SameGroups s t) (h' : SameGroups t u) : SameGroups s u :=
  ⟨h'.1.trans h.1, fun id => (h'.2 id).trans (h.2 id), h'.3.trans h.3,
    fun nexthops => (h'.4 nexthops).trans (h.4 nexthops),
    fun nexthop => (h'.5 nexthop).trans (h.5 nexthop), h'.6.trans h.6, h'.7.trans h.7,
    h'.8.trans h.8⟩

end SameGroups

namespace St

/-- The state with the temporary route of a group, if that can be installed. -/
def withTempRoute (sai : Sai) (rand : ℕ) (s : St) (vrf_id : sai_object_id_t) (ipPrefix : IpPrefix)
    (nextHops : NextHopGroupKey) : St :=
  match s.tempNextHop rand nextHops with
  | none => s
  | some nexthop =>
    if (s.addRouteSingle sai vrf_id ipPrefix nexthop).2 then
      (s.addRouteSingle sai vrf_id ipPrefix nexthop).1
    else s

/-- Nothing is left behind, up to a temporary route. -/
def LeavesNothing (sai : Sai) (rand : ℕ) (s : St) (vrf_id : sai_object_id_t) (ipPrefix : IpPrefix)
    (nextHops : NextHopGroupKey) (t : St) : Prop :=
  SameGroups s t ∨ SameGroups (s.withTempRoute sai rand vrf_id ipPrefix nextHops) t

/-- The members that are made are made with success. -/
def MembersMade (sai : Sai) (s : St) (nexthops : NextHopGroupKey) : Prop :=
  ∀ nexthop ∈ nexthops.m_nexthops, s.isNextHopFlagSet nexthop = false →
    sai (.create_next_hop_group_member nexthops nexthop) = .SUCCESS

/-- A group that was just made is removed with success. -/
def GroupRemoved (sai : Sai) (s : St) (nexthops : NextHopGroupKey) : Prop :=
  (∀ nexthop ∈ nexthops.m_nexthops, s.isNextHopFlagSet nexthop = false →
    sai (.remove_next_hop_group_member nexthops nexthop) = .SUCCESS) ∧
  sai .remove_next_hop_group = .SUCCESS

/-- The removal of a group fails before it has changed anything. -/
def RemovalStuck (sai : Sai) (s : St) (nexthops : NextHopGroupKey)
    (members : Table NextHopKey sai_object_id_t) : Prop :=
  match memberList members with
  | [] => sai .remove_next_hop_group ≠ .SUCCESS
  | nhop :: _ => s.isNextHopFlagSet nhop.1 = false ∧
      sai (.remove_next_hop_group_member nexthops nhop.1) ≠ .SUCCESS

/-- When a route that is not added leaves nothing behind. -/
def CleansUp (sai : Sai) (s : St) (vrf_id : sai_object_id_t) (ipPrefix : IpPrefix)
    (nextHops : NextHopGroupKey) : Prop :=
  nextHops.getSize = 1 ∨
  match s.m_syncdNextHopGroups.lookup nextHops with
  | some entry =>
    -- a group that was there goes with the route if it has no reference
    s.findRoute vrf_id ipPrefix ≠ none ∨ nextHops.getSize = 0 ∨ entry.ref_count ≠ 0 ∨
      RemovalStuck sai s nextHops entry.nhopgroup_members
  | none =>
    s.canAddGroup nextHops = false ∨ sai .create_next_hop_group ≠ .SUCCESS ∨
    (MembersMade sai s nextHops ∧ s.findRoute vrf_id ipPrefix = none ∧ nextHops.getSize ≠ 0 ∧
      GroupRemoved sai s nextHops)

/-! ### A route on its own -/

theorem ensureTable_eq (s : St) (vrf_id : sai_object_id_t) :
    ∃ routes counts, s.ensureTable vrf_id
      = { s with m_syncdRoutes := routes, vrf_ref_count := counts } := by
  unfold ensureTable
  split
  · exact ⟨s.m_syncdRoutes, s.vrf_ref_count, rfl⟩
  · unfold addVrfRefCount
    split
    · exact ⟨_, s.vrf_ref_count, rfl⟩
    · exact ⟨_, _, rfl⟩

theorem sameGroups_ensureTable : SameGroups s (s.ensureTable vrf_id) := by
  obtain ⟨routes, counts, heq⟩ := s.ensureTable_eq vrf_id
  rw [heq]
  exact ⟨rfl, fun _ => rfl, rfl, fun _ => rfl, fun _ => rfl, rfl, rfl, rfl⟩

theorem findRoute_ensureTable : (s.ensureTable vrf_id).findRoute = s.findRoute :=
  sameView_ensureTable.findRoute

theorem ensureTable_ensureTable : (s.ensureTable vrf_id).ensureTable vrf_id = s.ensureTable vrf_id := by
  have hsome : ((s.ensureTable vrf_id).m_syncdRoutes.lookup vrf_id).isSome := by
    unfold ensureTable
    split
    · next routes hroutes =>
        rw [hroutes]
        rfl
    · unfold addVrfRefCount
      split
      · exact Option.isSome_iff_exists.mpr ⟨∅, AList.lookup_insert _⟩
      · exact Option.isSome_iff_exists.mpr ⟨∅, AList.lookup_insert _⟩
  obtain ⟨routes, hroutes⟩ := Option.isSome_iff_exists.mp hsome
  rw [ensureTable.eq_def (s.ensureTable vrf_id), hroutes]

theorem addRouteSingle_ensureTable (nextHop : NextHopKey) :
    (s.ensureTable vrf_id).addRouteSingle sai vrf_id ipPrefix nextHop
      = s.addRouteSingle sai vrf_id ipPrefix nextHop := by
  unfold addRouteSingle
  rw [ensureTable_ensureTable]

/-- The calls for a route that is there, or for a new one, succeed. -/
def routeCalls (sai : Sai) (s : St) (vrf_id : sai_object_id_t) (ipPrefix : IpPrefix) : Bool :=
  match s.findRoute vrf_id ipPrefix with
  | none => sai .create_route_entry = .SUCCESS
  | some old =>
    (old.getSize ≠ 0 ∨ sai .set_packet_action = .SUCCESS) ∧ sai .set_next_hop_id = .SUCCESS

/-- The status of a route does not depend on its next hops. -/
theorem syncRoute_snd {next_hop_id : sai_object_id_t} :
    (s.syncRoute sai vrf_id ipPrefix nextHops next_hop_id).2 = s.routeCalls sai vrf_id ipPrefix := by
  unfold syncRoute routeCalls
  cases s.findRoute vrf_id ipPrefix with
  | none =>
    dsimp only
    split
    · next hcall => exact (decide_eq_false hcall).symm
    · next hcall => exact (decide_eq_true (not_not.mp hcall)).symm
  | some old =>
    dsimp only
    split
    · next haction =>
        exact (decide_eq_false fun h => h.1.elim (fun hsize => hsize haction.1) haction.2).symm
    · next haction =>
        have hor : old.getSize ≠ 0 ∨ sai .set_packet_action = .SUCCESS := by
          by_contra hnot
          push Not at hnot
          exact haction hnot
        split
        · next hcall => exact (decide_eq_false fun h => hcall h.2).symm
        · next hcall => exact (decide_eq_true ⟨hor, not_not.mp hcall⟩).symm

/-- A route that is there and not changed leaves the groups alone. -/
theorem sameGroups_syncRoute_of_some {old : NextHopGroupKey} {next_hop_id : sai_object_id_t}
    (hold : s.findRoute vrf_id ipPrefix = some old) (hfalse : s.routeCalls sai vrf_id ipPrefix = false) :
    SameGroups s (s.syncRoute sai vrf_id ipPrefix nextHops next_hop_id).1 := by
  rw [← @syncRoute_snd sai s vrf_id ipPrefix nextHops next_hop_id] at hfalse
  unfold syncRoute at hfalse ⊢
  rw [hold] at hfalse ⊢
  dsimp only at hfalse ⊢
  split at hfalse
  · next haction =>
      rw [if_pos haction]
      exact .refl s
  · next haction =>
      rw [if_neg haction]
      split at hfalse
      · next hcall =>
          rw [if_pos hcall]
          dsimp only
          split
          · exact ⟨rfl, fun _ => rfl, rfl, fun _ => rfl, fun _ => rfl, rfl, rfl, rfl⟩
          · exact .refl s
      · cases hfalse

/-- A new route that is not created has its group removed. -/
theorem syncRoute_fst_of_none {next_hop_id : sai_object_id_t}
    (hnone : s.findRoute vrf_id ipPrefix = none) (hfalse : s.routeCalls sai vrf_id ipPrefix = false) :
    (s.syncRoute sai vrf_id ipPrefix nextHops next_hop_id).1
      = if 1 < nextHops.getSize then (s.removeNextHopGroup sai nextHops).1 else s := by
  unfold routeCalls at hfalse
  rw [hnone] at hfalse
  unfold syncRoute
  rw [hnone]
  dsimp only
  rw [if_pos (of_decide_eq_false hfalse)]

/-- **A route over a single next hop that is not added leaves nothing behind.** -/
theorem sameGroups_addRouteSingle {nextHop : NextHopKey}
    (hfalse : (s.addRouteSingle sai vrf_id ipPrefix nextHop).2 = false) :
    SameGroups s (s.addRouteSingle sai vrf_id ipPrefix nextHop).1 := by
  refine (@sameGroups_ensureTable s vrf_id).trans ?_
  unfold addRouteSingle at hfalse ⊢
  dsimp only at hfalse ⊢
  split at hfalse
  · exact .refl _
  · rw [syncRoute_snd] at hfalse
    cases hroute : (s.ensureTable vrf_id).findRoute vrf_id ipPrefix with
    | none =>
      rw [syncRoute_fst_of_none hroute hfalse]
      exact .refl _
    | some old => exact sameGroups_syncRoute_of_some hroute hfalse

/-! ### A group that is not accounted for -/

/-- Objects of the ASIC, and what is counted of them. -/
structure Holdings where
  asicGroups : Finset sai_object_id_t
  asicMembers : Table sai_object_id_t (sai_object_id_t × sai_object_id_t)
  crm_nexthop_group : ℤ
  crm_nexthop_group_member : ℤ
  nextOid : sai_object_id_t
  stray : Bool

/-- One group more is counted than is known, and other objects are in the ASIC. -/
def leak (x : Holdings) (s : St) : St :=
  { s with
    asicGroups := x.asicGroups
    asicMembers := x.asicMembers
    crm_nexthop_group := x.crm_nexthop_group
    crm_nexthop_group_member := x.crm_nexthop_group_member
    nextOid := x.nextOid
    stray := x.stray
    m_nextHopGroupCount := s.m_nextHopGroupCount + 1 }

variable {x : Holdings}

theorem leak_nextHopOf (nexthop : NextHopKey) : (s.leak x).nextHopOf nexthop = s.nextHopOf nexthop :=
  rfl

theorem leak_isNextHopFlagSet (nexthop : NextHopKey) :
    (s.leak x).isNextHopFlagSet nexthop = s.isNextHopFlagSet nexthop := rfl

theorem leak_m_syncdNextHopGroups : (s.leak x).m_syncdNextHopGroups = s.m_syncdNextHopGroups := rfl

theorem leak_groupEntry : (s.leak x).groupEntry nexthops = s.groupEntry nexthops := rfl

theorem leak_m_syncdRoutes : (s.leak x).m_syncdRoutes = s.m_syncdRoutes := rfl

theorem leak_findRoute : (s.leak x).findRoute = s.findRoute := rfl

theorem createGroup_leak : ∃ x, s.createGroup = s.leak x ∧
    x.asicGroups = insert s.nextOid s.asicGroups ∧
      x.crm_nexthop_group = s.crm_nexthop_group + 1 :=
  ⟨⟨_, _, _, _, _, _⟩, rfl, rfl, rfl⟩

theorem removeGroup_leak (group_id : sai_object_id_t) :
    ∃ x', (s.leak x).removeGroup group_id = (s.removeGroup group_id).leak x' := by
  refine ⟨⟨x.asicGroups.erase group_id, x.asicMembers, x.crm_nexthop_group - 1,
    x.crm_nexthop_group_member, x.nextOid, x.stray⟩, ?_⟩
  unfold removeGroup leak
  dsimp only
  rw [sub_add_cancel, add_sub_cancel_right]

theorem removeMember_leak (member_id : sai_object_id_t) :
    ∃ x', (s.leak x).removeMember member_id = (s.removeMember member_id).leak x' :=
  ⟨⟨x.asicGroups, x.asicMembers.erase member_id, x.crm_nexthop_group,
    x.crm_nexthop_group_member - 1, x.nextOid,
    x.stray || (x.asicMembers.lookup member_id).isNone⟩, rfl⟩

theorem addVrfRefCount_leak (n : ℤ) :
    (s.leak x).addVrfRefCount vrf_id n = (s.addVrfRefCount vrf_id n).leak x := by
  unfold addVrfRefCount
  show (if vrf_id = s.gVirtualRouterId then _ else _) = _
  split
  · rfl
  · rfl

/-- The members that are made are objects of the ASIC only. -/
theorem addMembers_leak {group_id : sai_object_id_t} (rest : List NextHopKey)
    (members : Table NextHopKey sai_object_id_t) (x : Holdings) :
    ∃ x', (addMembers sai nexthops group_id rest members (s.leak x)).1 = s.leak x' ∧
      x'.asicGroups = x.asicGroups ∧ x'.crm_nexthop_group = x.crm_nexthop_group := by
  induction rest generalizing members x with
  | nil => exact ⟨x, rfl, rfl, rfl⟩
  | cons nexthop rest ih =>
    rw [addMembers]
    split
    · exact ih members x
    · split
      · exact ⟨x, rfl, rfl, rfl⟩
      · exact ih _ ⟨_, _, _, _, _, _⟩

theorem addNextHopRefCount_leak (n : ℤ) :
    (s.leak x).addNextHopRefCount nexthops n = (s.addNextHopRefCount nexthops n).leak x := by
  unfold addNextHopRefCount
  split
  · rfl
  · next nh _ =>
      dsimp only
      rw [leak_nextHopOf]
      split
      · rfl
      · rfl
  · rfl

theorem foldl_leak (nexthops : List NextHopKey) (n : ℤ) :
    nexthops.foldl (fun s nexthop => s.addNeighNextHopRefCount nexthop n) (s.leak x)
      = (nexthops.foldl (fun s nexthop => s.addNeighNextHopRefCount nexthop n) s).leak x := by
  induction nexthops generalizing s with
  | nil => rfl
  | cons nexthop nexthops ih => exact @ih (s.addNeighNextHopRefCount nexthop n)

theorem removeMembers_leak (rest : List (Sigma fun _ : NextHopKey => sai_object_id_t))
    (x : Holdings) (s : St) :
    ∃ x', removeMembers sai nexthops rest (s.leak x)
      = ((removeMembers sai nexthops rest s).1.leak x', (removeMembers sai nexthops rest s).2) := by
  induction rest generalizing x s with
  | nil => exact ⟨x, rfl⟩
  | cons nhop rest ih =>
    rw [removeMembers, removeMembers, leak_isNextHopFlagSet]
    split
    · exact ih x (s.updateMembers nexthops fun members => members.erase nhop.1)
    · split
      · exact ⟨x, rfl⟩
      · let s' := s.updateMembers nexthops fun members => members.erase nhop.1
        obtain ⟨x', hmember⟩ := removeMember_leak (s := s') (x := x) nhop.2
        obtain ⟨x'', heq⟩ := ih x' (s'.removeMember nhop.2)
        refine ⟨x'', ?_⟩
        rw [← hmember] at heq
        exact heq

theorem removeNextHopGroup_leak (nexthops : NextHopGroupKey) (x : Holdings) (s : St) :
    ∃ x', (s.leak x).removeNextHopGroup sai nexthops
      = ((s.removeNextHopGroup sai nexthops).1.leak x', (s.removeNextHopGroup sai nexthops).2) := by
  unfold removeNextHopGroup
  rw [leak_m_syncdNextHopGroups]
  cases s.m_syncdNextHopGroups.lookup nexthops with
  | none => exact ⟨x, rfl⟩
  | some entry =>
    dsimp only
    split
    · exact ⟨x, rfl⟩
    · obtain ⟨x', heq⟩ :=
        @removeMembers_leak sai nexthops
          (memberList entry.nhopgroup_members) x s
      rw [heq]
      dsimp only
      split
      · exact ⟨x', rfl⟩
      · split
        · exact ⟨x', rfl⟩
        · obtain ⟨x'', hgroup⟩ :=
            removeGroup_leak (s := (removeMembers sai nexthops
              (memberList entry.nhopgroup_members) s).1) (x := x') entry.next_hop_group_id
          rw [hgroup, foldl_leak]
          exact ⟨x'', rfl⟩

theorem releaseNextHops_leak (nexthops : NextHopGroupKey) (x : Holdings) (s : St) :
    ∃ x', (s.leak x).releaseNextHops sai nexthops = (s.releaseNextHops sai nexthops).leak x' := by
  unfold releaseNextHops
  rw [addNextHopRefCount_leak]
  dsimp only
  rw [leak_groupEntry]
  split
  · obtain ⟨x', heq⟩ := @removeNextHopGroup_leak sai nexthops x
      (s.addNextHopRefCount nexthops (-1))
    rw [heq]
    exact ⟨x', rfl⟩
  · exact ⟨x, rfl⟩

theorem ensureTable_leak : (s.leak x).ensureTable vrf_id = (s.ensureTable vrf_id).leak x := by
  unfold ensureTable
  rw [leak_m_syncdRoutes]
  cases s.m_syncdRoutes.lookup vrf_id with
  | some routes => rfl
  | none =>
    show (leak x { s with m_syncdRoutes := s.m_syncdRoutes.insert vrf_id ∅ }).addVrfRefCount
      vrf_id 1 = _
    rw [addVrfRefCount_leak]

theorem syncRoute_leak (next_hop_id : sai_object_id_t) (x : Holdings) (s : St) :
    ∃ x', (s.leak x).syncRoute sai vrf_id ipPrefix nextHops next_hop_id
      = ((s.syncRoute sai vrf_id ipPrefix nextHops next_hop_id).1.leak x',
        (s.syncRoute sai vrf_id ipPrefix nextHops next_hop_id).2) := by
  unfold syncRoute
  rw [leak_findRoute]
  cases s.findRoute vrf_id ipPrefix with
  | none =>
    dsimp only
    split
    · split
      · obtain ⟨x', heq⟩ := @removeNextHopGroup_leak sai nextHops x s
        rw [heq]
        exact ⟨x', rfl⟩
      · exact ⟨x, rfl⟩
    · refine ⟨x, ?_⟩
      show (((s.setAsicRoute vrf_id ipPrefix _).leak x).addNextHopRefCount nextHops 1 |>.storeRoute
        vrf_id ipPrefix nextHops, true) = _
      rw [addNextHopRefCount_leak]
      rfl
  | some old =>
    dsimp only
    split
    · exact ⟨x, rfl⟩
    · have haction : (if old.getSize = 0 then (s.leak x).setAsicRoute vrf_id ipPrefix ⟨true, 0⟩
          else s.leak x)
          = (if old.getSize = 0 then s.setAsicRoute vrf_id ipPrefix ⟨true, 0⟩ else s).leak x := by
        split
        · rfl
        · rfl
      rw [haction]
      generalize (if old.getSize = 0 then s.setAsicRoute vrf_id ipPrefix ⟨true, 0⟩ else s) = s'
      split
      · exact ⟨x, rfl⟩
      · obtain ⟨x', heq⟩ := @releaseNextHops_leak sai old x
          ((s'.setAsicRoute vrf_id ipPrefix ⟨true, next_hop_id⟩).addNextHopRefCount nextHops 1)
        refine ⟨x', ?_⟩
        show (((s'.setAsicRoute vrf_id ipPrefix _).leak x).addNextHopRefCount nextHops 1
          |>.releaseNextHops sai old |>.storeRoute vrf_id ipPrefix nextHops, true) = _
        rw [addNextHopRefCount_leak, heq]
        rfl

/-- **What is not accounted for is left where it is.** -/
theorem addRouteSingle_leak (nextHop : NextHopKey) (x : Holdings) (s : St) :
    ∃ x', (s.leak x).addRouteSingle sai vrf_id ipPrefix nextHop
      = ((s.addRouteSingle sai vrf_id ipPrefix nextHop).1.leak x',
        (s.addRouteSingle sai vrf_id ipPrefix nextHop).2) := by
  unfold addRouteSingle
  dsimp only
  rw [ensureTable_leak]
  have hid : ((s.ensureTable vrf_id).leak x).singleNextHopId
      (((s.ensureTable vrf_id).leak x).nextHopOf nextHop)
      = (s.ensureTable vrf_id).singleNextHopId ((s.ensureTable vrf_id).nextHopOf nextHop) := rfl
  rw [hid]
  cases (s.ensureTable vrf_id).singleNextHopId ((s.ensureTable vrf_id).nextHopOf nextHop) with
  | none => exact ⟨x, rfl⟩
  | some next_hop_id => exact syncRoute_leak next_hop_id x _

end St

end Orchagent
