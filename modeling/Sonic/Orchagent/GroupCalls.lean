/-
Orchagent/GroupCalls.lean

Next hop groups made and removed, call by call.

`removeNextHopGroup` gives up the members one by one, and keeps what is left of the
group where a call fails.  `addNextHopGroup` makes them one by one, and forgets the
group where a call fails (`addNextHopGroup_eq_leak`).  A group that was just made and is
removed again leaves nothing behind if the calls for that succeed.
-/
import Sonic.Orchagent.SameGroups

namespace Orchagent

variable {sai : Sai} {rand : ℕ} {s t u : St} {vrf_id : sai_object_id_t} {ipPrefix : IpPrefix}
  {nextHops nexthops : NextHopGroupKey}

namespace St

variable {x : Holdings}

/-! ### Removing a group -/

/-- Members of a group are gone, and nothing else but what they are in the ASIC. -/
structure Shrunk (nexthops : NextHopGroupKey) (s t : St) : Prop where
  asicGroups : t.asicGroups = s.asicGroups
  m_nextHopGroupCount : t.m_nextHopGroupCount = s.m_nextHopGroupCount
  m_syncdNextHops : t.m_syncdNextHops = s.m_syncdNextHops
  rif_ref_count : t.rif_ref_count = s.rif_ref_count
  crm_nexthop_group : t.crm_nexthop_group = s.crm_nexthop_group
  others : ∀ k, k ≠ nexthops → t.m_syncdNextHopGroups.lookup k = s.m_syncdNextHopGroups.lookup k
  known : s.hasNextHopGroup nexthops → t.hasNextHopGroup nexthops
  gone : ∀ nexthop, (s.groupEntry nexthops).nhopgroup_members.lookup nexthop = none →
    (t.groupEntry nexthops).nhopgroup_members.lookup nexthop = none

namespace Shrunk

theorem refl (s : St) : Shrunk nexthops s s :=
  ⟨rfl, rfl, rfl, rfl, rfl, fun _ _ => rfl, id, fun _ => id⟩

theorem trans (h : Shrunk nexthops s t) (h' : Shrunk nexthops t u) : Shrunk nexthops s u :=
  ⟨h'.1.trans h.1, h'.2.trans h.2, h'.3.trans h.3, h'.4.trans h.4, h'.5.trans h.5,
    fun k hk => (h'.6 k hk).trans (h.6 k hk), fun hs => h'.7 (h.7 hs),
    fun nexthop hs => h'.8 nexthop (h.8 nexthop hs)⟩

end Shrunk

/-- A member of a group that is given up. -/
def dropMember (s : St) (nexthops : NextHopGroupKey) (nexthop : NextHopKey) : St :=
  s.updateMembers nexthops fun members => members.erase nexthop

theorem lookup_dropMember (nexthop : NextHopKey) (k : NextHopGroupKey) :
    (s.dropMember nexthops nexthop).m_syncdNextHopGroups.lookup k
      = if k = nexthops then
          some { s.groupEntry nexthops with
            nhopgroup_members := (s.groupEntry nexthops).nhopgroup_members.erase nexthop }
        else s.m_syncdNextHopGroups.lookup k :=
  Table.lookup_update

theorem groupEntry_dropMember (nexthop : NextHopKey) :
    (s.dropMember nexthops nexthop).groupEntry nexthops
      = { s.groupEntry nexthops with
          nhopgroup_members := (s.groupEntry nexthops).nhopgroup_members.erase nexthop } := by
  rw [groupEntry, lookup_dropMember, if_pos rfl]
  rfl

theorem shrunk_dropMember (nexthop : NextHopKey) :
    Shrunk nexthops s (s.dropMember nexthops nexthop) := by
  refine ⟨rfl, rfl, rfl, rfl, rfl, ?_, ?_, ?_⟩
  · intro k hk
    rw [lookup_dropMember, if_neg hk]
  · intro _
    rw [hasNextHopGroup, lookup_dropMember, if_pos rfl]
    rfl
  · intro nh hnone
    rw [groupEntry_dropMember, Table.lookup_erase_eq, hnone]
    exact ite_self none

theorem shrunk_removeMember (member_id : sai_object_id_t) :
    Shrunk nexthops s (s.removeMember member_id) :=
  ⟨rfl, rfl, rfl, rfl, rfl, fun _ _ => rfl, id, fun _ => id⟩

theorem shrunk_removeMembers (rest : List (Sigma fun _ : NextHopKey => sai_object_id_t)) (s : St) :
    Shrunk nexthops s (removeMembers sai nexthops rest s).1 := by
  induction rest generalizing s with
  | nil => exact .refl s
  | cons nhop rest ih =>
    have hdrop : Shrunk nexthops s (s.dropMember nexthops nhop.1) := shrunk_dropMember nhop.1
    rw [removeMembers]
    split
    · exact hdrop.trans (ih _)
    · split
      · exact .refl s
      · exact hdrop.trans ((shrunk_removeMember nhop.2).trans (ih _))

/-- The members are all given up when the calls for them succeed. -/
theorem removeMembers_snd (rest : List (Sigma fun _ : NextHopKey => sai_object_id_t)) (s : St) :
    (removeMembers sai nexthops rest s).2 = true ↔
      ∀ nhop ∈ rest, s.isNextHopFlagSet nhop.1 = false →
        sai (.remove_next_hop_group_member nexthops nhop.1) = .SUCCESS := by
  induction rest generalizing s with
  | nil => exact iff_of_true rfl fun _ h => absurd h List.not_mem_nil
  | cons nhop rest ih =>
    rw [removeMembers, List.forall_mem_cons]
    split
    · next hflag =>
        rw [hflag]
        exact (ih _).trans ⟨fun h => ⟨fun hup => Bool.noConfusion hup, h⟩, And.right⟩
    · next hflag =>
        split
        · next hcall =>
            exact iff_of_false Bool.false_ne_true fun h => hcall (h.1 (Bool.eq_false_iff.mpr hflag))
        · next hcall =>
            exact (ih _).trans ⟨fun h => ⟨fun _ => not_not.mp hcall, h⟩, And.right⟩

theorem foldl_eq (nexthops : List NextHopKey) (n : ℤ) (s : St) :
    nexthops.foldl (fun s nexthop => s.addNeighNextHopRefCount nexthop n) s
      = { s with m_syncdNextHops :=
          (nexthops.foldl (fun s nexthop => s.addNeighNextHopRefCount nexthop n) s).m_syncdNextHops
        } := by
  induction nexthops generalizing s with
  | nil => rfl
  | cons nexthop nexthops ih => exact ih (s.addNeighNextHopRefCount nexthop n)

/-- The references of the next hops of a group. -/
theorem lookup_foldl {nexthops : List NextHopKey} (hnodup : nexthops.Nodup) (n : ℤ) (s : St)
    (nexthop : NextHopKey) :
    (nexthops.foldl (fun s nexthop => s.addNeighNextHopRefCount nexthop n) s
      ).m_syncdNextHops.lookup nexthop
      = if nexthop ∈ nexthops then
          some { (s.m_syncdNextHops.lookup nexthop).getD .zero with
            ref_count := ((s.m_syncdNextHops.lookup nexthop).getD .zero).ref_count + n }
        else s.m_syncdNextHops.lookup nexthop := by
  induction nexthops generalizing s with
  | nil => rfl
  | cons nh nexthops ih =>
    obtain ⟨hnot, hnodup⟩ := List.nodup_cons.mp hnodup
    have hfirst : ∀ k, (s.addNeighNextHopRefCount nh n).m_syncdNextHops.lookup k
        = if k = nh then
            some { (s.m_syncdNextHops.lookup nh).getD .zero with
              ref_count := ((s.m_syncdNextHops.lookup nh).getD .zero).ref_count + n }
          else s.m_syncdNextHops.lookup k := fun k => Table.lookup_update
    rw [List.foldl_cons, ih hnodup, hfirst]
    by_cases hk : nexthop = nh
    · subst hk
      rw [if_neg hnot, if_pos rfl, if_pos List.mem_cons_self]
    · rw [if_neg hk]
      exact if_congr (List.mem_cons.trans (or_iff_right hk)).symm rfl rfl

/-- **A group is removed, or only some of its members are**; then it is still known. -/
theorem removeNextHopGroup_cases {entry : NextHopGroupEntry}
    (hentry : s.m_syncdNextHopGroups.lookup nexthops = some entry) (hzero : entry.ref_count = 0) :
    (((removeMembers sai nexthops (memberList entry.nhopgroup_members) s).2 = false ∨
        sai .remove_next_hop_group ≠ .SUCCESS) ∧
      (s.removeNextHopGroup sai nexthops).1
        = (removeMembers sai nexthops (memberList entry.nhopgroup_members) s).1) ∨
    ((removeMembers sai nexthops (memberList entry.nhopgroup_members) s).2 = true ∧
      sai .remove_next_hop_group = .SUCCESS ∧
      (s.removeNextHopGroup sai nexthops).1
        = let s' := (nexthops.m_nexthops.foldl (fun s nexthop => s.addNeighNextHopRefCount nexthop (-1))
            ((removeMembers sai nexthops (memberList entry.nhopgroup_members) s).1.removeGroup
              entry.next_hop_group_id))
          { s' with m_syncdNextHopGroups := s'.m_syncdNextHopGroups.erase nexthops }) := by
  unfold removeNextHopGroup
  rw [hentry]
  dsimp only
  rw [if_neg (not_not.mpr hzero)]
  cases hrc : (removeMembers sai nexthops (memberList entry.nhopgroup_members) s).2 with
  | false => exact .inl ⟨.inl rfl, rfl⟩
  | true =>
    by_cases hcall : sai .remove_next_hop_group = .SUCCESS
    · refine .inr ⟨rfl, hcall, ?_⟩
      rw [if_neg (not_not.mpr hcall)]
      rfl
    · refine .inl ⟨.inr hcall, ?_⟩
      rw [if_pos hcall]
      rfl

theorem memberList_perm (members : Table NextHopKey sai_object_id_t) :
    (memberList members).Perm members.entries := List.mergeSort_perm _ _

/-- The removal of a group that was there changes something if it gets anywhere. -/
theorem sameGroups_removeNextHopGroup_iff {entry : NextHopGroupEntry}
    (hentry : s.m_syncdNextHopGroups.lookup nexthops = some entry) (hzero : entry.ref_count = 0) :
    SameGroups s (s.removeNextHopGroup sai nexthops).1 ↔
      RemovalStuck sai s nexthops entry.nhopgroup_members := by
  have hgroup : s.groupEntry nexthops = entry := by
    rw [groupEntry, hentry]
    rfl
  -- a group without the entry it had is not the same
  have hlost : ∀ t : St, t.m_syncdNextHopGroups.lookup nexthops ≠ some entry → ¬ SameGroups s t :=
    fun t ht h => ht ((h.m_syncdNextHopGroups nexthops).trans hentry)
  unfold RemovalStuck
  cases hlist : memberList entry.nhopgroup_members with
  | nil =>
    dsimp only
    obtain ⟨hfail, heq⟩ | ⟨-, hcall, heq⟩ := @removeNextHopGroup_cases sai s _ _ hentry hzero
    · rw [hlist] at hfail heq
      rw [heq]
      exact iff_of_true (.refl s) (hfail.resolve_left nofun)
    · refine iff_of_false (hlost _ ?_) (not_not.mpr hcall)
      rw [heq, AList.lookup_erase]
      nofun
  | cons nhop rest =>
    dsimp only
    have hmember : entry.nhopgroup_members.lookup nhop.1 = some nhop.2 := by
      refine Table.mem_entries.mp ((memberList_perm _).mem_iff.mp ?_)
      rw [hlist]
      exact List.mem_cons_self
    by_cases hstuck : s.isNextHopFlagSet nhop.1 = false ∧
        sai (.remove_next_hop_group_member nexthops nhop.1) ≠ .SUCCESS
    · have hstop : removeMembers sai nexthops (nhop :: rest) s = (s, false) := by
        rw [removeMembers, hstuck.1, if_neg Bool.false_ne_true, if_pos hstuck.2]
      refine iff_of_true ?_ hstuck
      obtain ⟨-, heq⟩ | ⟨hrc, -⟩ := @removeNextHopGroup_cases sai s _ _ hentry hzero
      · rw [heq, hlist, hstop]
        exact .refl s
      · rw [hlist, hstop] at hrc
        cases hrc
    · refine iff_of_false ?_ hstuck
      -- the first member is given up, and does not come back
      have hgone : ((removeMembers sai nexthops (nhop :: rest) s).1.groupEntry nexthops
          ).nhopgroup_members.lookup nhop.1 = none := by
        have hdrop : ((s.dropMember nexthops nhop.1).groupEntry nexthops
            ).nhopgroup_members.lookup nhop.1 = none := by
          rw [groupEntry_dropMember]
          exact AList.lookup_erase _ _
        rw [removeMembers]
        split
        · exact (shrunk_removeMembers rest _).gone _ hdrop
        · next hflag =>
            rw [if_neg fun hcall => hstuck ⟨Bool.eq_false_iff.mpr hflag, hcall⟩]
            exact ((shrunk_removeMember nhop.2).trans (shrunk_removeMembers rest _)).gone _ hdrop
      refine hlost _ fun hback => ?_
      obtain ⟨-, heq⟩ | ⟨-, -, heq⟩ := @removeNextHopGroup_cases sai s _ _ hentry hzero
      · rw [heq, hlist] at hback
        rw [groupEntry, hback, Option.getD_some, hmember] at hgone
        cases hgone
      · rw [heq, AList.lookup_erase] at hback
        cases hback

/-- A group that is released is gone, or the number of groups is what it was. -/
theorem count_removeNextHopGroup :
    (s.removeNextHopGroup sai nexthops).1.m_nextHopGroupCount = s.m_nextHopGroupCount ∨
    ((s.removeNextHopGroup sai nexthops).1.m_nextHopGroupCount = s.m_nextHopGroupCount - 1 ∧
      s.hasNextHopGroup nexthops ∧
      (s.removeNextHopGroup sai nexthops).1.hasNextHopGroup nexthops = false) := by
  cases hentry : s.m_syncdNextHopGroups.lookup nexthops with
  | none =>
    unfold removeNextHopGroup
    rw [hentry]
    exact .inl rfl
  | some entry =>
    by_cases hzero : entry.ref_count = 0
    · have hshrunk := @shrunk_removeMembers sai nexthops
        (memberList entry.nhopgroup_members) s
      obtain ⟨-, heq⟩ | ⟨-, -, heq⟩ := @removeNextHopGroup_cases sai s _ _ hentry hzero
      · rw [heq]
        exact .inl hshrunk.m_nextHopGroupCount
      · rw [heq, foldl_eq]
        refine .inr ⟨?_, ?_, ?_⟩
        · exact congrArg (· - 1) hshrunk.m_nextHopGroupCount
        · rw [hasNextHopGroup, hentry]
          rfl
        · show (AList.lookup nexthops (AList.erase nexthops _)).isSome = false
          rw [AList.lookup_erase]
          rfl
    · unfold removeNextHopGroup
      rw [hentry]
      dsimp only
      rw [if_pos hzero]
      exact .inl rfl

theorem addNextHopRefCount_group (hsize : 1 < nexthops.getSize) (n : ℤ) :
    s.addNextHopRefCount nexthops n
      = s.updateGroup nexthops fun e => { e with ref_count := e.ref_count + n } := by
  unfold addNextHopRefCount
  unfold NextHopGroupKey.getSize at hsize
  split
  · next hnil =>
      rw [hnil] at hsize
      cases hsize
  · next hone =>
      rw [hone] at hsize
      exact absurd hsize (lt_irrefl 1)
  · rfl

theorem addNextHopRefCount_single (nexthop : NextHopKey) (n : ℤ) :
    (s.addNextHopRefCount (.single nexthop) n).m_nextHopGroupCount = s.m_nextHopGroupCount ∧
    (s.addNextHopRefCount (.single nexthop) n).m_syncdNextHopGroups = s.m_syncdNextHopGroups := by
  show (ite _ _ _ : St).m_nextHopGroupCount = _ ∧ (ite _ _ _ : St).m_syncdNextHopGroups = _
  split
  · exact ⟨rfl, rfl⟩
  · exact ⟨rfl, rfl⟩

theorem count_addNextHopRefCount (n : ℤ) :
    (s.addNextHopRefCount nexthops n).m_nextHopGroupCount = s.m_nextHopGroupCount := by
  unfold addNextHopRefCount
  split
  · rfl
  · dsimp only
    split
    · rfl
    · rfl
  · rfl

theorem count_releaseNextHops :
    (s.releaseNextHops sai nexthops).m_nextHopGroupCount = s.m_nextHopGroupCount ∨
    ((s.releaseNextHops sai nexthops).m_nextHopGroupCount = s.m_nextHopGroupCount - 1 ∧
      s.hasNextHopGroup nexthops ∧ (s.releaseNextHops sai nexthops).hasNextHopGroup nexthops = false) := by
  unfold releaseNextHops
  dsimp only
  split
  · next hlast =>
      have hcount := @count_addNextHopRefCount s nexthops (-1)
      rcases @count_removeNextHopGroup sai (s.addNextHopRefCount nexthops (-1)) nexthops with
        h | ⟨h, -, hgone⟩
      · exact .inl (h.trans hcount)
      · refine .inr ⟨h.trans (congrArg (· - 1) hcount), ?_, hgone⟩
        -- a group that was not known would have a negative count now
        by_contra hnot
        have hnone : s.m_syncdNextHopGroups.lookup nexthops = none := by
          simpa [hasNextHopGroup] using hnot
        have hzero := hlast.2
        rw [addNextHopRefCount_group hlast.1, groupEntry, updateGroup, Table.lookup_update,
          if_pos rfl, hnone] at hzero
        cases hzero
  · exact .inl (count_addNextHopRefCount (-1))

/-- A route that is set takes its next hops and gives up the old ones. -/
theorem syncRoute_fst_of_true {next_hop_id : sai_object_id_t}
    (htrue : s.routeCalls sai vrf_id ipPrefix = true) :
    ∃ routes, (s.syncRoute sai vrf_id ipPrefix nextHops next_hop_id).1
      = ((s.findRoute vrf_id ipPrefix).elim
          ({ s with asicRoutes := routes }.addNextHopRefCount nextHops 1)
          fun old => ({ s with asicRoutes := routes }.addNextHopRefCount nextHops 1).releaseNextHops
            sai old).storeRoute vrf_id ipPrefix nextHops := by
  unfold routeCalls at htrue
  unfold syncRoute
  cases hroute : s.findRoute vrf_id ipPrefix with
  | none =>
    rw [hroute] at htrue
    dsimp only
    rw [if_neg (not_not.mpr (of_decide_eq_true htrue))]
    exact ⟨_, rfl⟩
  | some old =>
    rw [hroute] at htrue
    obtain ⟨haction, hcall⟩ := of_decide_eq_true htrue
    dsimp only
    rw [if_neg fun h => haction.elim (fun hsize => hsize h.1) h.2, if_neg (not_not.mpr hcall)]
    split
    · exact ⟨_, rfl⟩
    · exact ⟨_, rfl⟩

/-- **A route over a single next hop adds no group**, and removes one at most. -/
theorem count_addRouteSingle (nextHop : NextHopKey) :
    (s.addRouteSingle sai vrf_id ipPrefix nextHop).1.m_nextHopGroupCount = s.m_nextHopGroupCount ∨
    ((s.addRouteSingle sai vrf_id ipPrefix nextHop).1.m_nextHopGroupCount
        = s.m_nextHopGroupCount - 1 ∧
      ∃ k, s.hasNextHopGroup k ∧
        (s.addRouteSingle sai vrf_id ipPrefix nextHop).1.hasNextHopGroup k = false) := by
  obtain ⟨tables, counts, heq⟩ := s.ensureTable_eq vrf_id
  unfold addRouteSingle
  rw [heq]
  dsimp only
  split
  · exact .inl rfl
  · next next_hop_id _ =>
      generalize hs' : { s with m_syncdRoutes := tables, vrf_ref_count := counts } = s'
      have hcount : s'.m_nextHopGroupCount = s.m_nextHopGroupCount := by
        rw [← hs']
      have hgroups : s'.m_syncdNextHopGroups = s.m_syncdNextHopGroups := by
        rw [← hs']
      clear hs' heq
      cases hcalls : s'.routeCalls sai vrf_id ipPrefix with
      | false =>
        cases hroute : s'.findRoute vrf_id ipPrefix with
        | none =>
          rw [syncRoute_fst_of_none hroute hcalls]
          exact .inl hcount
        | some old =>
          exact .inl ((sameGroups_syncRoute_of_some hroute hcalls).m_nextHopGroupCount.trans
            hcount)
      | true =>
        obtain ⟨routes, hsync⟩ := @syncRoute_fst_of_true sai s' vrf_id ipPrefix
          (.single nextHop) next_hop_id hcalls
        rw [hsync]
        obtain ⟨hcount', hgroups'⟩ :=
          @addNextHopRefCount_single { s' with asicRoutes := routes } nextHop 1
        cases s'.findRoute vrf_id ipPrefix with
        | none => exact .inl (hcount'.trans hcount)
        | some old =>
          rcases @count_releaseNextHops sai
            ({ s' with asicRoutes := routes }.addNextHopRefCount (.single nextHop) 1) old with
            h | ⟨h, hold, hgone⟩
          · exact .inl (h.trans (hcount'.trans hcount))
          · refine .inr ⟨h.trans (congrArg (· - 1) (hcount'.trans hcount)), old, ?_, hgone⟩
            rw [hasNextHopGroup, hgroups'] at hold
            rw [hasNextHopGroup, ← hgroups]
            exact hold

/-! ### Making a group -/

/-- The ASIC has the members of `s`, and new ones with the given ids. -/
structure Made (s : St) (ids : List sai_object_id_t) (t : St) : Prop where
  nodup : ids.Nodup
  fresh : ∀ id ∈ ids, s.asicMembers.lookup id = none ∧ id < t.nextOid
  unused : ∀ id, t.nextOid ≤ id → s.asicMembers.lookup id = none
  lookup : ∀ id, id ∉ ids → t.asicMembers.lookup id = s.asicMembers.lookup id
  count : t.crm_nexthop_group_member = s.crm_nexthop_group_member + ids.length

namespace Made

variable {ids : List sai_object_id_t} {id : sai_object_id_t}

theorem createMember (h : Made s ids t) (group_id next_hop_id : sai_object_id_t) :
    Made s (t.nextOid :: ids) (t.createMember group_id next_hop_id) := by
  have hnot : t.nextOid ∉ ids := fun hmem => lt_irrefl _ (h.fresh _ hmem).2
  refine ⟨List.nodup_cons.mpr ⟨hnot, h.nodup⟩, ?_, ?_, ?_, ?_⟩
  · intro id hid
    rcases List.mem_cons.mp hid with rfl | hid
    · exact ⟨h.unused _ le_rfl, Nat.lt_succ_self _⟩
    · exact ⟨(h.fresh id hid).1, Nat.lt_succ_of_lt (h.fresh id hid).2⟩
  · exact fun id hid => h.unused id (Nat.le_of_succ_le hid)
  · intro id hid
    show (t.asicMembers.insert t.nextOid _).lookup id = _
    rw [AList.lookup_insert_ne (List.ne_of_not_mem_cons hid)]
    exact h.lookup id (List.not_mem_of_not_mem_cons hid)
  · show t.crm_nexthop_group_member + 1 = _
    rw [h.count, List.length_cons]
    push_cast
    ring

theorem removeMember (h : Made s (id :: ids) t) : Made s ids (t.removeMember id) := by
  obtain ⟨hnot, hnodup⟩ := List.nodup_cons.mp h.nodup
  refine ⟨hnodup, fun k hk => h.fresh k (List.mem_cons_of_mem _ hk), h.unused, ?_, ?_⟩
  · intro k hk
    show (t.asicMembers.erase id).lookup k = _
    by_cases hid : k = id
    · subst hid
      rw [AList.lookup_erase]
      exact (h.fresh k List.mem_cons_self).1.symm
    · rw [AList.lookup_erase_ne hid]
      exact h.lookup k fun hmem => (List.mem_cons.mp hmem).elim hid hk
  · show t.crm_nexthop_group_member - 1 = _
    rw [h.count, List.length_cons]
    push_cast
    ring

theorem perm {ids' : List sai_object_id_t} (h : Made s ids t) (hperm : ids.Perm ids') :
    Made s ids' t :=
  ⟨hperm.nodup_iff.mp h.nodup, fun id hid => h.fresh id (hperm.mem_iff.mpr hid), h.unused,
    fun id hid => h.lookup id fun hmem => hid (hperm.mem_iff.mp hmem),
    h.count.trans (by rw [hperm.length_eq])⟩

end Made

/-- The ids of the members of a group. -/
def memberIds (members : Table NextHopKey sai_object_id_t) : List sai_object_id_t :=
  members.entries.map fun e => e.2

/-- The members are all made when the calls for them succeed. -/
theorem addMembers_snd {group_id : sai_object_id_t} (rest : List NextHopKey)
    (members : Table NextHopKey sai_object_id_t) (s : St) :
    (addMembers sai nexthops group_id rest members s).2.isSome ↔
      ∀ nexthop ∈ rest, s.isNextHopFlagSet nexthop = false →
        sai (.create_next_hop_group_member nexthops nexthop) = .SUCCESS := by
  induction rest generalizing members s with
  | nil => exact iff_of_true rfl fun _ h => absurd h List.not_mem_nil
  | cons nexthop rest ih =>
    rw [addMembers, List.forall_mem_cons]
    split
    · next hflag =>
        rw [hflag]
        exact (ih members s).trans ⟨fun h => ⟨fun hup => Bool.noConfusion hup, h⟩, And.right⟩
    · next hflag =>
        split
        · next hcall =>
            exact iff_of_false Bool.false_ne_true fun h => hcall (h.1 (Bool.eq_false_iff.mpr hflag))
        · next hcall =>
            exact (ih _ _).trans ⟨fun h => ⟨fun _ => not_not.mp hcall, h⟩, And.right⟩

/-- The members that are made, with their ids. -/
theorem addMembers_spec {group_id : sai_object_id_t} {rest : List NextHopKey}
    {members members' : Table NextHopKey sai_object_id_t} (hrest : rest.Nodup)
    (hnot : ∀ nexthop ∈ rest, nexthop ∉ members) (hmade : Made u (memberIds members) s)
    (h : (addMembers sai nexthops group_id rest members s).2 = some members') :
    Made u (memberIds members') (addMembers sai nexthops group_id rest members s).1 ∧
    ∀ nexthop, nexthop ∈ members' ↔
      nexthop ∈ members ∨ (nexthop ∈ rest ∧ s.isNextHopFlagSet nexthop = false) := by
  induction rest generalizing members s with
  | nil =>
    cases h
    exact ⟨hmade, fun nexthop => (or_iff_left fun h => List.not_mem_nil h.1).symm⟩
  | cons nexthop rest ih =>
    obtain ⟨hnew, hrest⟩ := List.nodup_cons.mp hrest
    obtain ⟨hout, hnot⟩ := List.forall_mem_cons.mp hnot
    rw [addMembers] at h ⊢
    split at h
    · next hflag =>
        rw [if_pos hflag]
        obtain ⟨hmade', hmem⟩ := ih hrest hnot hmade h
        refine ⟨hmade', fun k => (hmem k).trans (or_congr_right ?_)⟩
        refine and_congr_left fun hk => ?_
        rw [List.mem_cons, or_iff_right]
        rintro rfl
        rw [hflag] at hk
        cases hk
    · next hflag =>
        rw [if_neg hflag]
        split at h
        · cases h
        · next hcall =>
            rw [if_neg hcall]
            have hids : memberIds (members.insert nexthop s.nextOid)
                = s.nextOid :: memberIds members := by
              rw [memberIds, AList.entries_insert_of_notMem hout]
              rfl
            have hstep : Made u (memberIds (members.insert nexthop s.nextOid))
                (s.createMember group_id (s.getNextHopId nexthop)) := by
              rw [hids]
              exact hmade.createMember _ _
            obtain ⟨hmade', hmem⟩ := ih hrest (fun k hk hin => by
              rcases AList.mem_insert _ |>.mp hin with rfl | hin
              · exact hnew hk
              · exact hnot k hk hin) hstep h
            refine ⟨hmade', fun k => (hmem k).trans ?_⟩
            rw [AList.mem_insert, List.mem_cons]
            constructor
            · rintro ((rfl | hin) | hk)
              · exact .inr ⟨.inl rfl, Bool.eq_false_iff.mpr hflag⟩
              · exact .inl hin
              · exact .inr ⟨.inr hk.1, hk.2⟩
            · rintro (hin | ⟨rfl | hk, hup⟩)
              · exact .inl (.inr hin)
              · exact .inl (.inl rfl)
              · exact .inr ⟨hk, hup⟩

/-- Members that were made are given up again. -/
theorem removeMembers_made {rest : List (Sigma fun _ : NextHopKey => sai_object_id_t)}
    (hup : ∀ nhop ∈ rest, s.isNextHopFlagSet nhop.1 = false)
    (hcalls : (removeMembers sai nexthops rest s).2 = true)
    (hmade : Made u (rest.map fun e => e.2) s) :
    Made u [] (removeMembers sai nexthops rest s).1 := by
  induction rest generalizing s with
  | nil => exact hmade
  | cons nhop rest ih =>
    obtain ⟨hfirst, hup⟩ := List.forall_mem_cons.mp hup
    rw [removeMembers, hfirst, if_neg Bool.false_ne_true] at hcalls ⊢
    split at hcalls
    · cases hcalls
    · next hcall =>
        rw [if_neg hcall]
        have hdrop : Made u (nhop.2 :: rest.map fun e => e.2) (s.dropMember nexthops nhop.1) :=
          ⟨hmade.1, hmade.2, hmade.3, hmade.4, hmade.5⟩
        exact ih hup hcalls hdrop.removeMember

/-- The state with a new group that is known. -/
def withGroup (s : St) (x : Holdings) (nexthops : NextHopGroupKey)
    (members : Table NextHopKey sai_object_id_t) : St :=
  { (nexthops.m_nexthops.foldl (fun s nexthop => s.addNeighNextHopRefCount nexthop 1) s).leak x with
    m_syncdNextHopGroups := s.m_syncdNextHopGroups.insert nexthops ⟨s.nextOid, 0, members⟩ }

theorem addNextHopGroup_eq (hcan : s.canAddGroup nexthops = true)
    (hcreate : sai .create_next_hop_group = .SUCCESS) :
    s.addNextHopGroup sai nexthops =
      match addMembers sai nexthops s.nextOid nexthops.m_nexthops ∅ s.createGroup with
      | (s', none) => (s', false)
      | (s', some members) =>
        let s' := nexthops.m_nexthops.foldl (fun s nexthop => s.addNeighNextHopRefCount nexthop 1) s'
        ({ s' with
          m_syncdNextHopGroups :=
            s'.m_syncdNextHopGroups.insert nexthops ⟨s.nextOid, 0, members⟩ }, true) := by
  rw [canAddGroup, Bool.and_eq_true, List.all_eq_true] at hcan
  have hall : ¬ nexthops.m_nexthops.any (fun nexthop => !s.hasNextHop nexthop) = true := by
    rw [List.any_eq_true]
    rintro ⟨nexthop, hmem, hnone⟩
    rw [hcan.2 nexthop hmem] at hnone
    cases hnone
  unfold addNextHopGroup
  exact (if_neg (not_le.mpr (of_decide_eq_true hcan.1))).trans
    ((if_neg hall).trans (if_neg (not_not.mpr hcreate)))

/-- A group that SAI does not make changes nothing. -/
theorem addNextHopGroup_eq_of_create (hcreate : sai .create_next_hop_group ≠ .SUCCESS) :
    s.addNextHopGroup sai nexthops = (s, false) := by
  unfold addNextHopGroup
  rw [if_pos hcreate, ite_self, ite_self]

/-- **A group that is not made in full is not accounted for.** -/
theorem addNextHopGroup_eq_leak (hcan : s.canAddGroup nexthops = true)
    (hcreate : sai .create_next_hop_group = .SUCCESS) (hmade : ¬ MembersMade sai s nexthops) :
    ∃ x, s.addNextHopGroup sai nexthops = (s.leak x, false) := by
  obtain ⟨x, hgroup, -⟩ := @createGroup_leak s
  obtain ⟨x', hmembers, -⟩ := @addMembers_leak sai s nexthops
    s.nextOid nexthops.m_nexthops ∅ x
  refine ⟨x', ?_⟩
  rw [← hgroup] at hmembers
  have hnone : (addMembers sai nexthops s.nextOid nexthops.m_nexthops ∅ s.createGroup).2 = none := by
    by_contra hsome
    exact hmade ((addMembers_snd nexthops.m_nexthops ∅ s.createGroup).mp
      (Option.isSome_iff_ne_none.mpr hsome))
  rw [addNextHopGroup_eq hcan hcreate]
  rw [← Prod.mk.eta (p := addMembers sai nexthops s.nextOid nexthops.m_nexthops ∅ s.createGroup),
    hnone, hmembers]

/-- **A group that is made in full**, with the ids of its members. -/
theorem addNextHopGroup_eq_withGroup (hfresh : s.Fresh) (hcan : s.canAddGroup nexthops = true)
    (hcreate : sai .create_next_hop_group = .SUCCESS) (hmade : MembersMade sai s nexthops) :
    ∃ x members, s.addNextHopGroup sai nexthops = (s.withGroup x nexthops members, true) ∧
      x.asicGroups = insert s.nextOid s.asicGroups ∧
      x.crm_nexthop_group = s.crm_nexthop_group + 1 ∧
      Made s (memberIds members) (s.leak x) ∧
      ∀ nexthop, nexthop ∈ members ↔
        nexthop ∈ nexthops.m_nexthops ∧ s.isNextHopFlagSet nexthop = false := by
  obtain ⟨x, hgroup, hgroups, hcrm⟩ := @createGroup_leak s
  obtain ⟨x', hmembers, hgroups', hcrm'⟩ := @addMembers_leak sai s
    nexthops s.nextOid nexthops.m_nexthops ∅ x
  rw [← hgroup] at hmembers
  obtain ⟨members, hsome⟩ := Option.isSome_iff_exists.mp
    ((@addMembers_snd sai nexthops s.nextOid nexthops.m_nexthops ∅ s.createGroup).mpr hmade)
  have hstart : Made s (memberIds ∅) s.createGroup :=
    ⟨List.nodup_nil, nofun, fun id hid => hfresh.asicMembers id (Nat.le_of_succ_le hid),
      fun _ _ => rfl, (add_zero _).symm⟩
  obtain ⟨hids, hmem⟩ := addMembers_spec nexthops.nodup (fun nexthop _ => AList.notMem_empty nexthop)
    hstart hsome
  rw [hmembers] at hids
  refine ⟨x', members, ?_, hgroups'.trans hgroups, hcrm'.trans hcrm, hids, fun nexthop => ?_⟩
  · rw [addNextHopGroup_eq hcan hcreate]
    rw [← Prod.mk.eta (p := addMembers sai nexthops s.nextOid nexthops.m_nexthops ∅ s.createGroup),
      hsome, hmembers]
    unfold withGroup
    dsimp only
    rw [foldl_leak, foldl_eq]
    rfl
  · exact (hmem nexthop).trans (or_iff_right (AList.notMem_empty nexthop))

variable {x : Holdings} {members : Table NextHopKey sai_object_id_t}

theorem withGroup_isNextHopFlagSet (nexthop : NextHopKey) :
    (s.withGroup x nexthops members).isNextHopFlagSet nexthop = s.isNextHopFlagSet nexthop := by
  show (((nexthops.m_nexthops.foldl (fun s nexthop => s.addNeighNextHopRefCount nexthop 1) s
    ).m_syncdNextHops.lookup nexthop).getD .zero).ifdown = _
  rw [lookup_foldl nexthops.nodup]
  split
  · rfl
  · rfl

theorem withGroup_findRoute : (s.withGroup x nexthops members).findRoute = s.findRoute := by
  unfold withGroup
  rw [foldl_eq]
  rfl

theorem withGroup_lookup : (s.withGroup x nexthops members).m_syncdNextHopGroups.lookup nexthops
    = some ⟨s.nextOid, 0, members⟩ :=
  AList.lookup_insert _

/-- **A new group that is removed again leaves nothing behind**, if the calls for that
succeed. -/
theorem sameGroups_remove_withGroup_iff (hfresh : s.Fresh) (hcan : s.canAddGroup nexthops = true)
    (hnone : s.m_syncdNextHopGroups.lookup nexthops = none)
    (hgroups : x.asicGroups = insert s.nextOid s.asicGroups)
    (hcrm : x.crm_nexthop_group = s.crm_nexthop_group + 1)
    (hids : Made s (memberIds members) (s.leak x))
    (hmem : ∀ nexthop, nexthop ∈ members ↔
      nexthop ∈ nexthops.m_nexthops ∧ s.isNextHopFlagSet nexthop = false) :
    SameGroups s ((s.withGroup x nexthops members).removeNextHopGroup sai nexthops).1 ↔
      GroupRemoved sai s nexthops := by
  rw [canAddGroup, Bool.and_eq_true, List.all_eq_true] at hcan
  have hup : ∀ nhop ∈ memberList members, nhop.1 ∈ nexthops.m_nexthops ∧
      s.isNextHopFlagSet nhop.1 = false := fun nhop hnhop =>
    (hmem nhop.1).mp (AList.mem_keys.mpr
      (List.mem_map_of_mem ((memberList_perm members).mem_iff.mp hnhop)))
  have hcalls : (removeMembers sai nexthops (memberList members) (s.withGroup x nexthops members)).2
      = true ↔ ∀ nexthop ∈ nexthops.m_nexthops, s.isNextHopFlagSet nexthop = false →
        sai (.remove_next_hop_group_member nexthops nexthop) = .SUCCESS := by
    refine (removeMembers_snd _ _).trans ⟨fun h nexthop hin hflag => ?_, fun h nhop hnhop _ => ?_⟩
    · obtain ⟨id, hid⟩ := Option.isSome_iff_exists.mp
        (AList.lookup_isSome.mpr ((hmem nexthop).mpr ⟨hin, hflag⟩))
      have hlist : (⟨nexthop, id⟩ : Sigma fun _ : NextHopKey => sai_object_id_t) ∈
          memberList members := (memberList_perm members).mem_iff.mpr (Table.mem_entries.mpr hid)
      exact h _ hlist ((withGroup_isNextHopFlagSet nexthop).trans hflag)
    · exact h nhop.1 (hup nhop hnhop).1 (hup nhop hnhop).2
  have hshrunk := @shrunk_removeMembers sai nexthops (memberList members)
    (s.withGroup x nexthops members)
  obtain ⟨hfail, heq⟩ | ⟨hrc, hcall, heq⟩ :=
    @removeNextHopGroup_cases sai (s.withGroup x nexthops members) _ _ withGroup_lookup rfl
  · -- the group is still known
    refine iff_of_false (fun h => ?_) fun h => ?_
    · have hknown := hshrunk.known (by
        rw [hasNextHopGroup, withGroup_lookup]
        rfl)
      rw [hasNextHopGroup, ← heq, h.m_syncdNextHopGroups, hnone] at hknown
      cases hknown
    · exact hfail.elim (fun hrc => Bool.false_ne_true (hrc.symm.trans (hcalls.mpr h.1)))
        fun hcall => hcall h.2
  · refine iff_of_true ?_ ⟨hcalls.mp hrc, hcall⟩
    have hback : Made s [] (removeMembers sai nexthops (memberList members)
        (s.withGroup x nexthops members)).1 := by
      refine removeMembers_made (fun nhop hnhop => ?_) hrc ?_
      · exact (withGroup_isNextHopFlagSet nhop.1).trans (hup nhop hnhop).2
      · have hperm : (memberIds members).Perm ((memberList members).map fun e => e.2) :=
          List.Perm.map _ (memberList_perm members).symm
        have hmade := hids.perm hperm
        exact ⟨hmade.1, hmade.2, hmade.3, hmade.4, hmade.5⟩
    rw [heq]
    dsimp only
    rw [foldl_eq]
    generalize hs' : (removeMembers sai nexthops (memberList members)
      (s.withGroup x nexthops members)).1 = s' at hback hshrunk
    refine ⟨?_, fun id => hback.lookup id List.not_mem_nil, ?_, ?_, ?_, ?_, ?_, ?_⟩
    · show s'.asicGroups.erase s.nextOid = s.asicGroups
      rw [hshrunk.asicGroups]
      show x.asicGroups.erase s.nextOid = s.asicGroups
      rw [hgroups]
      exact Finset.erase_insert (hfresh.asicGroups _ le_rfl)
    · show s'.m_nextHopGroupCount - 1 = s.m_nextHopGroupCount
      rw [hshrunk.m_nextHopGroupCount]
      show (nexthops.m_nexthops.foldl (fun s nexthop => s.addNeighNextHopRefCount nexthop 1) s
        ).m_nextHopGroupCount + 1 - 1 = _
      rw [foldl_eq]
      exact add_sub_cancel_right _ _
    · intro k
      show (AList.erase nexthops s'.m_syncdNextHopGroups).lookup k = _
      by_cases hk : k = nexthops
      · subst hk
        rw [AList.lookup_erase, hnone]
      · rw [AList.lookup_erase_ne hk, hshrunk.others k hk]
        exact AList.lookup_insert_ne hk
    · intro nexthop
      show ((nexthops.m_nexthops.foldl (fun s nexthop => s.addNeighNextHopRefCount nexthop (-1))
        (s'.removeGroup s.nextOid)).m_syncdNextHops.lookup nexthop).map NextHopEntry.ref_count = _
      have hbefore : (s'.removeGroup s.nextOid).m_syncdNextHops
          = (nexthops.m_nexthops.foldl (fun s nexthop => s.addNeighNextHopRefCount nexthop 1) s
            ).m_syncdNextHops := hshrunk.m_syncdNextHops
      rw [lookup_foldl nexthops.nodup, hbefore, lookup_foldl nexthops.nodup]
      split
      · next hin =>
          obtain ⟨e, he⟩ := Option.isSome_iff_exists.mp (hcan.2 nexthop hin)
          rw [he]
          exact congrArg some (add_neg_cancel_right e.ref_count 1)
      · rfl
    · show s'.rif_ref_count = _
      rw [hshrunk.rif_ref_count]
      show (nexthops.m_nexthops.foldl (fun s nexthop => s.addNeighNextHopRefCount nexthop 1) s
        ).rif_ref_count = _
      rw [foldl_eq]
    · show s'.crm_nexthop_group - 1 = _
      rw [hshrunk.crm_nexthop_group]
      show x.crm_nexthop_group - 1 = _
      rw [hcrm]
      exact add_sub_cancel_right _ _
    · exact hback.count.trans (add_zero _)

end St

end Orchagent
