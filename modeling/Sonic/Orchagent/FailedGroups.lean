/-
Orchagent/FailedGroups.lean

What a route that is not added leaves behind of its next hop group.

`addRoute` gives up at several places.  Where the group is not made, nothing is changed
but for the temporary route.  Where a member of it is not made, the group and the
members before stay in the ASIC and in the counters, although the group is not known
(`St.leak`): whatever follows is the same with them as without, so they are never
accounted for.  Where the group is made and the route is not, the group is removed
again if the route is a new one, and stays without a reference otherwise.
-/
import Sonic.Orchagent.GroupCalls

namespace Orchagent

variable {sai : Sai} {rand : ℕ} {s t u : St} {vrf_id : sai_object_id_t} {ipPrefix : IpPrefix}
  {nextHops nexthops : NextHopGroupKey}

namespace St

variable {x : Holdings} {members : Table NextHopKey sai_object_id_t}

/-! ### What is left behind -/

theorem addRouteSingle_snd_of_routeCalls {nextHop : NextHopKey}
    (hcalls : s.routeCalls sai vrf_id ipPrefix = false) :
    (s.addRouteSingle sai vrf_id ipPrefix nextHop).2 = false := by
  unfold addRouteSingle
  dsimp only
  split
  · rfl
  · rw [syncRoute_snd]
    unfold routeCalls at hcalls ⊢
    rw [findRoute_ensureTable]
    exact hcalls

/-- No temporary route is installed where the calls for a route fail. -/
theorem withTempRoute_of_routeCalls (hcalls : s.routeCalls sai vrf_id ipPrefix = false) :
    s.withTempRoute sai rand vrf_id ipPrefix nextHops = s := by
  unfold withTempRoute
  split
  · rfl
  · rw [addRouteSingle_snd_of_routeCalls hcalls]
    rfl

/-- What is left behind of a group that was known. -/
theorem leavesNothing_known_iff {entry : NextHopGroupEntry} {next_hop_id : sai_object_id_t}
    (hsize : nextHops.getSize ≠ 1)
    (hentry : s.m_syncdNextHopGroups.lookup nextHops = some entry)
    (hcalls : s.routeCalls sai vrf_id ipPrefix = false) :
    LeavesNothing sai rand s vrf_id ipPrefix nextHops
        (s.syncRoute sai vrf_id ipPrefix nextHops next_hop_id).1 ↔
      CleansUp sai s vrf_id ipPrefix nextHops := by
  unfold LeavesNothing CleansUp
  rw [withTempRoute_of_routeCalls hcalls, or_self, hentry, or_iff_right hsize]
  dsimp only
  cases hroute : s.findRoute vrf_id ipPrefix with
  | some old => exact iff_of_true (sameGroups_syncRoute_of_some hroute hcalls) (.inl nofun)
  | none =>
    rw [syncRoute_fst_of_none hroute hcalls, or_iff_right (not_not.mpr rfl)]
    by_cases hzero : nextHops.getSize = 0
    · rw [if_neg (by omega)]
      exact iff_of_true (.refl s) (.inl hzero)
    · rw [if_pos (by omega), or_iff_right hzero]
      by_cases href : entry.ref_count = 0
      · rw [or_iff_right (not_not.mpr href)]
        exact sameGroups_removeNextHopGroup_iff hentry href
      · have hkept : s.removeNextHopGroup sai nextHops = (s, true) := by
          unfold removeNextHopGroup
          rw [hentry]
          exact if_pos href
        rw [hkept]
        exact iff_of_true (.refl s) (.inl href)

/-- A group that is not made leaves nothing but a temporary route. -/
theorem leavesNothing_addTempRoute :
    LeavesNothing sai rand s vrf_id ipPrefix nextHops
      (s.addTempRoute sai rand vrf_id ipPrefix nextHops) := by
  unfold LeavesNothing withTempRoute
  rw [addTempRoute_eq]
  cases s.tempNextHop rand nextHops with
  | none => exact .inl (.refl s)
  | some nexthop =>
    dsimp only
    cases hrc : (s.addRouteSingle sai vrf_id ipPrefix nexthop).2 with
    | false => exact .inl (sameGroups_addRouteSingle hrc)
    | true => exact .inr (.refl _)

/-- One group more is counted. -/
theorem not_sameGroups_leak : ¬ SameGroups s (s.leak x) := by
  intro h
  have hcount : s.m_nextHopGroupCount + 1 = s.m_nextHopGroupCount := h.m_nextHopGroupCount
  omega

/-- **A group that is not accounted for is left behind**, with a temporary route and without. -/
theorem not_leavesNothing_leak :
    ¬ LeavesNothing sai rand s vrf_id ipPrefix nextHops (s.leak x) ∧
    ¬ LeavesNothing sai rand s vrf_id ipPrefix nextHops
      ((s.leak x).addTempRoute sai rand vrf_id ipPrefix nextHops) := by
  unfold LeavesNothing withTempRoute
  have htemp : (s.leak x).tempNextHop rand nextHops = s.tempNextHop rand nextHops := rfl
  rw [addTempRoute_eq, htemp]
  cases s.tempNextHop rand nextHops with
  | none => exact ⟨(or_self _).mp.mt not_sameGroups_leak, (or_self _).mp.mt not_sameGroups_leak⟩
  | some nexthop =>
    obtain ⟨x', heq⟩ := @addRouteSingle_leak sai vrf_id
      ipPrefix nexthop x s
    dsimp only
    rw [heq]
    dsimp only
    cases hrc : (s.addRouteSingle sai vrf_id ipPrefix nexthop).2 with
    | false =>
      have hsame := sameGroups_addRouteSingle hrc
      have hcount := hsame.m_nextHopGroupCount
      refine ⟨(or_self _).mp.mt not_sameGroups_leak, (or_self _).mp.mt fun h => ?_⟩
      have hcount' : _ + 1 = s.m_nextHopGroupCount := h.m_nextHopGroupCount
      omega
    | true =>
      have hcases := @count_addRouteSingle sai s vrf_id
        ipPrefix nexthop
      rw [if_pos rfl]
      refine ⟨not_or.mpr ⟨not_sameGroups_leak, fun h => ?_⟩,
        not_or.mpr ⟨fun h => ?_, not_sameGroups_leak⟩⟩
      · have hcount : s.m_nextHopGroupCount + 1 = _ := h.m_nextHopGroupCount
        rcases hcases with hcase | ⟨hcase, -⟩
        · omega
        · omega
      · have hcount : _ + 1 = s.m_nextHopGroupCount := h.m_nextHopGroupCount
        rcases hcases with hcase | ⟨-, k, hhas, hgone⟩
        · omega
        · -- the group that the temporary route replaces is gone
          have hback := h.m_syncdNextHopGroups k
          rw [hasNextHopGroup] at hhas
          rw [← hback] at hhas
          exact Bool.false_ne_true (hgone.symm.trans hhas)

/-- What is left behind of a new group. -/
theorem leavesNothing_new_iff {next_hop_id : sai_object_id_t} (hsize : nextHops.getSize ≠ 1)
    (hfresh : s.Fresh) (hcan : s.canAddGroup nextHops = true)
    (hnone : s.m_syncdNextHopGroups.lookup nextHops = none)
    (hgroups : x.asicGroups = insert s.nextOid s.asicGroups)
    (hcrm : x.crm_nexthop_group = s.crm_nexthop_group + 1)
    (hids : Made s (memberIds members) (s.leak x))
    (hmem : ∀ nexthop, nexthop ∈ members ↔
      nexthop ∈ nextHops.m_nexthops ∧ s.isNextHopFlagSet nexthop = false)
    (hcalls : s.routeCalls sai vrf_id ipPrefix = false) :
    LeavesNothing sai rand s vrf_id ipPrefix nextHops
        ((s.withGroup x nextHops members).syncRoute sai vrf_id ipPrefix nextHops next_hop_id).1 ↔
      s.findRoute vrf_id ipPrefix = none ∧ nextHops.getSize ≠ 0 ∧ GroupRemoved sai s nextHops := by
  have hcalls' : (s.withGroup x nextHops members).routeCalls sai vrf_id ipPrefix = false := by
    unfold routeCalls at hcalls ⊢
    rw [withGroup_findRoute]
    exact hcalls
  -- a state that still knows the group is not the same
  have hknown : ∀ t, SameGroups (s.withGroup x nextHops members) t → ¬ SameGroups s t := by
    intro t h h'
    have hboth := (h.m_syncdNextHopGroups nextHops).symm.trans (h'.m_syncdNextHopGroups nextHops)
    rw [withGroup_lookup, hnone] at hboth
    cases hboth
  unfold LeavesNothing
  rw [withTempRoute_of_routeCalls hcalls, or_self]
  cases hroute : s.findRoute vrf_id ipPrefix with
  | some old =>
    have hroute' : (s.withGroup x nextHops members).findRoute vrf_id ipPrefix = some old := by
      rw [withGroup_findRoute, hroute]
    exact iff_of_false (hknown _ (sameGroups_syncRoute_of_some hroute' hcalls')) nofun
  | none =>
    have hroute' : (s.withGroup x nextHops members).findRoute vrf_id ipPrefix = none := by
      rw [withGroup_findRoute, hroute]
    rw [syncRoute_fst_of_none hroute' hcalls', and_iff_right rfl]
    by_cases hzero : nextHops.getSize = 0
    · rw [if_neg (by omega)]
      exact iff_of_false (hknown _ (.refl _)) fun h => h.1 hzero
    · rw [if_pos (by omega)]
      refine (sameGroups_remove_withGroup_iff hfresh hcan hnone hgroups hcrm hids hmem).trans ?_
      exact (and_iff_right hzero).symm

/-- The table of a VRF makes no difference to what is left behind. -/
theorem leavesNothing_ensureTable :
    LeavesNothing sai rand (s.ensureTable vrf_id) vrf_id ipPrefix nextHops t ↔
      LeavesNothing sai rand s vrf_id ipPrefix nextHops t := by
  have hsame : ∀ u, SameGroups (s.ensureTable vrf_id) u ↔ SameGroups s u := by
    intro u
    obtain ⟨tables, counts, heq⟩ := s.ensureTable_eq vrf_id
    rw [heq]
    exact ⟨fun h => ⟨h.1, h.2, h.3, h.4, h.5, h.6, h.7, h.8⟩,
      fun h => ⟨h.1, h.2, h.3, h.4, h.5, h.6, h.7, h.8⟩⟩
  have htemp : (s.ensureTable vrf_id).tempNextHop rand nextHops = s.tempNextHop rand nextHops := by
    obtain ⟨tables, counts, heq⟩ := s.ensureTable_eq vrf_id
    rw [heq]
    rfl
  unfold LeavesNothing withTempRoute
  rw [htemp]
  cases s.tempNextHop rand nextHops with
  | none => exact or_congr (hsame t) (hsame t)
  | some nexthop =>
    dsimp only
    rw [addRouteSingle_ensureTable]
    split
    · exact or_congr_left (hsame t)
    · exact or_congr (hsame t) (hsame t)

theorem cleansUp_ensureTable :
    CleansUp sai (s.ensureTable vrf_id) vrf_id ipPrefix nextHops ↔
      CleansUp sai s vrf_id ipPrefix nextHops := by
  unfold CleansUp
  rw [findRoute_ensureTable]
  obtain ⟨tables, counts, heq⟩ := s.ensureTable_eq vrf_id
  rw [heq]
  exact Iff.rfl

/-- `addRoute` for a group, when the table of the VRF is there. -/
theorem addRoute_group_eq (hsize : nextHops.getSize ≠ 1) :
    s.addRoute sai rand vrf_id ipPrefix nextHops =
      let r := (s.ensureTable vrf_id).ensureNextHopGroup sai nextHops
      if r.2 then
        r.1.syncRoute sai vrf_id ipPrefix nextHops (r.1.groupEntry nextHops).next_hop_group_id
      else if r.1.onMember (r.1.findRoute vrf_id ipPrefix) nextHops then (r.1, false)
      else (r.1.addTempRoute sai rand vrf_id ipPrefix nextHops, false) := by
  unfold addRoute
  split
  · next nextHop hone =>
      rw [NextHopGroupKey.getSize, hone] at hsize
      exact absurd rfl hsize
  · rfl

/-- **A route whose group is not made in full is not added, and leaves the group behind.** -/
theorem not_leavesNothing_of_member (hsize : nextHops.getSize ≠ 1)
    (hentry : (s.ensureTable vrf_id).m_syncdNextHopGroups.lookup nextHops = none)
    (hcan : (s.ensureTable vrf_id).canAddGroup nextHops = true)
    (hcreate : sai .create_next_hop_group = .SUCCESS)
    (hmade : ¬ MembersMade sai (s.ensureTable vrf_id) nextHops) :
    (s.addRoute sai rand vrf_id ipPrefix nextHops).2 = false ∧
    ¬ LeavesNothing sai rand (s.ensureTable vrf_id) vrf_id ipPrefix nextHops
      (s.addRoute sai rand vrf_id ipPrefix nextHops).1 := by
  have hhas : ¬ (s.ensureTable vrf_id).hasNextHopGroup nextHops = true := by
    rw [hasNextHopGroup, hentry]
    exact Bool.false_ne_true
  obtain ⟨x, heq⟩ := addNextHopGroup_eq_leak hcan hcreate hmade
  rw [addRoute_group_eq hsize, ensureNextHopGroup, if_neg hhas, heq]
  dsimp only
  rw [if_neg Bool.false_ne_true]
  split
  · exact ⟨rfl, not_leavesNothing_leak.1⟩
  · exact ⟨rfl, not_leavesNothing_leak.2⟩

/-- **What a route that is not added leaves behind.**  Nothing is left of the next hop group
just if the group cannot be made at all, if it was there and is not removed for the route,
or if it is removed again; a group with a member that is not made stays, and so does a new
group of a route that is there. -/
theorem addRoute_leavesNothing_iff (hfresh : s.Fresh)
    (hfalse : (s.addRoute sai rand vrf_id ipPrefix nextHops).2 = false) :
    LeavesNothing sai rand s vrf_id ipPrefix nextHops
        (s.addRoute sai rand vrf_id ipPrefix nextHops).1 ↔
      CleansUp sai s vrf_id ipPrefix nextHops := by
  by_cases hsize : nextHops.getSize = 1
  · obtain ⟨nextHop, rfl⟩ := NextHopGroupKey.getSize_eq_one.mp hsize
    exact iff_of_true (.inl (sameGroups_addRouteSingle hfalse)) (.inl hsize)
  rw [← leavesNothing_ensureTable, ← cleansUp_ensureTable]
  have hfresh' : (s.ensureTable vrf_id).Fresh := by
    obtain ⟨tables, counts, heq⟩ := s.ensureTable_eq vrf_id
    rw [heq]
    exact ⟨hfresh.1, hfresh.2⟩
  cases hentry : (s.ensureTable vrf_id).m_syncdNextHopGroups.lookup nextHops with
  | some entry =>
    have hhas : (s.ensureTable vrf_id).hasNextHopGroup nextHops = true := by
      rw [hasNextHopGroup, hentry]
      rfl
    rw [addRoute_group_eq hsize, ensureNextHopGroup, if_pos hhas] at hfalse ⊢
    exact leavesNothing_known_iff hsize hentry (syncRoute_snd.symm.trans hfalse)
  | none =>
    have hhas : ¬ (s.ensureTable vrf_id).hasNextHopGroup nextHops = true := by
      rw [hasNextHopGroup, hentry]
      exact Bool.false_ne_true
    have hclean : CleansUp sai (s.ensureTable vrf_id) vrf_id ipPrefix nextHops ↔
        (s.ensureTable vrf_id).canAddGroup nextHops = false ∨
        sai .create_next_hop_group ≠ .SUCCESS ∨
        (MembersMade sai (s.ensureTable vrf_id) nextHops ∧
          (s.ensureTable vrf_id).findRoute vrf_id ipPrefix = none ∧
          nextHops.getSize ≠ 0 ∧ GroupRemoved sai (s.ensureTable vrf_id) nextHops) := by
      unfold CleansUp
      rw [hentry, or_iff_right hsize]
    rw [hclean]
    by_cases hmakes : (s.ensureTable vrf_id).canAddGroup nextHops = true ∧
        sai .create_next_hop_group = .SUCCESS
    · obtain ⟨hcan, hcreate⟩ := hmakes
      rw [or_iff_right (fun h => Bool.false_ne_true (h.symm.trans hcan)),
        or_iff_right (not_not.mpr hcreate)]
      by_cases hmade : MembersMade sai (s.ensureTable vrf_id) nextHops
      · obtain ⟨x, members, heq, hgroups, hcrm, hids, hmem⟩ :=
          addNextHopGroup_eq_withGroup hfresh' hcan hcreate hmade
        rw [addRoute_group_eq hsize, ensureNextHopGroup, if_neg hhas, heq] at hfalse ⊢
        have hcalls : (s.ensureTable vrf_id).routeCalls sai vrf_id ipPrefix = false := by
          have hsync := syncRoute_snd.symm.trans hfalse
          unfold routeCalls at hsync ⊢
          rw [withGroup_findRoute] at hsync
          exact hsync
        rw [and_iff_right hmade]
        exact leavesNothing_new_iff hsize hfresh' hcan hentry hgroups hcrm hids hmem hcalls
      · exact iff_of_false (not_leavesNothing_of_member hsize hentry hcan hcreate hmade).2
          fun h => hmade h.1
    · -- the group is not made
      have heq : (s.ensureTable vrf_id).addNextHopGroup sai nextHops
          = (s.ensureTable vrf_id, false) := by
        cases hcan : (s.ensureTable vrf_id).canAddGroup nextHops with
        | false => exact addNextHopGroup_eq_of_not hcan
        | true => exact addNextHopGroup_eq_of_create fun hcreate => hmakes ⟨hcan, hcreate⟩
      rw [addRoute_group_eq hsize, ensureNextHopGroup, if_neg hhas, heq]
      refine iff_of_true ?_ ?_
      · dsimp only
        rw [if_neg Bool.false_ne_true]
        split
        · exact .inl (.refl _)
        · exact leavesNothing_addTempRoute
      · rcases not_and_or.mp hmakes with hcan | hcreate
        · exact .inl (Bool.eq_false_iff.mpr hcan)
        · exact .inr (.inl hcreate)

end St

/-! ### A member that is not made -/

/-- Two neighbors on the interface of the examples. -/
def neighbor (n : UInt8) : NextHopKey := ⟨.v4 ⟨[10, 0, 0, n], rfl⟩, ethernet0⟩

def twoNeighbors : NextHopGroupKey := (NextHopGroupKey.single (neighbor 1)).add (neighbor 2)

/-- The next hops of both neighbors are there. -/
def twoNextHops : St :=
  { oneInterface with
    m_syncdNextHops :=
      ((∅ : Table NextHopKey NextHopEntry).insert (neighbor 1) ⟨3, 0, false⟩).insert (neighbor 2)
        ⟨4, 0, false⟩
    nextOid := 5 }

/-- The second member of a group is not made. -/
def secondMemberFails : Sai
  | .create_next_hop_group_member _ nexthop => if nexthop = neighbor 2 then .FAILURE else .SUCCESS
  | _ => .SUCCESS

theorem fresh_twoNextHops : twoNextHops.Fresh :=
  ⟨fun _ _ => Finset.notMem_empty _, fun _ _ => rfl⟩

/-- The route of the example: a subnet over both neighbors. -/
def subnet : IpPrefix := ⟨.v4 ⟨[10, 1, 0, 0], rfl⟩, 16, by decide⟩

theorem addRoute_secondMemberFails :
    (twoNextHops.addRoute secondMemberFails 0 1 subnet twoNeighbors).2 = false ∧
    ¬ St.LeavesNothing secondMemberFails 0 (twoNextHops.ensureTable 1) 1 subnet twoNeighbors
      (twoNextHops.addRoute secondMemberFails 0 1 subnet twoNeighbors).1 := by
  refine St.not_leavesNothing_of_member (by decide) rfl (by decide) rfl fun h => ?_
  have hmade := h (neighbor 2) (by decide) (by decide)
  cases hmade

theorem addRoute_leavesNothing_iff_second :
    St.LeavesNothing secondMemberFails 0 twoNextHops 1 subnet twoNeighbors
        (twoNextHops.addRoute secondMemberFails 0 1 subnet twoNeighbors).1 ↔
      St.CleansUp secondMemberFails twoNextHops 1 subnet twoNeighbors :=
  St.addRoute_leavesNothing_iff fresh_twoNextHops addRoute_secondMemberFails.1

/-- **A route that is not added may leave its group behind.** -/
theorem not_addRoute_leavesNothing :
    ¬ ∀ (sai : Sai) (rand : ℕ) (s : St) (vrf_id : sai_object_id_t) (ipPrefix : IpPrefix)
      (nextHops : NextHopGroupKey), s.Fresh →
      (s.addRoute sai rand vrf_id ipPrefix nextHops).2 = false →
      St.LeavesNothing sai rand s vrf_id ipPrefix nextHops
        (s.addRoute sai rand vrf_id ipPrefix nextHops).1 := by
  intro h
  obtain ⟨hfalse, hleft⟩ := addRoute_secondMemberFails
  exact hleft (St.leavesNothing_ensureTable.mpr (h _ _ _ _ _ _ fresh_twoNextHops hfalse))

end Orchagent
