/-
Orchagent/VrfReference.lean

The reference that routes hold on their VRF.

`addRoute` makes the table of a VRF, with a reference on the VRF, before it is known
whether there is a route to put in it, and `removeRoute` gives the table up when its last
route goes; a default route never goes.  So a route that could not be added, and a
default route that was deleted, leave the reference behind.  A run without these
(`NoLeak`) holds a reference exactly while a route that was set is programmed
(`vrf_reference_iff_live`).
-/
import Sonic.Orchagent.RouteRun

namespace Orchagent

open Transition (Run Guarded)

variable {sai : Sai} {rand : ℕ} {s t : St} {v w : sai_object_id_t} {p ipPrefix : IpPrefix}
  {nextHops : NextHopGroupKey}

/-! ### The table of a VRF -/

def St.hasTable (s : St) (vrf_id : sai_object_id_t) : Bool := (s.m_syncdRoutes.lookup vrf_id).isSome

/-- The reference on a VRF stands for its table, and what is programmed is what is in it. -/
structure Held (v : sai_object_id_t) (s : St) : Prop where
  reference : s.vrf_ref_count v = if s.hasTable v then 1 else 0
  programmed : ∀ p, (s.asicRoutes.lookup (v, p)).isSome = (s.findRoute v p).isSome

/-- There is a route in the table of a VRF, if there is a table. -/
def NoEmptyTable (v : sai_object_id_t) (s : St) : Prop :=
  s.hasTable v = true → ∃ p, (s.findRoute v p).isSome = true

theorem SameRoutes.hasTable (h : SameRoutes s t) : t.hasTable v = s.hasTable v := by
  rw [St.hasTable, St.hasTable, h.m_syncdRoutes]

theorem Held.of_sameRoutes (h : SameRoutes s t) (hs : Held v s) : Held v t := by
  refine ⟨?_, ?_⟩
  · rw [h.vrf_ref_count, h.hasTable]
    exact hs.reference
  · intro p
    rw [h.asicRoutes, h.findRoute]
    exact hs.programmed p

theorem NoEmptyTable.of_sameRoutes (h : SameRoutes s t) (hs : NoEmptyTable v s) :
    NoEmptyTable v t := by
  unfold NoEmptyTable
  rw [h.hasTable, h.findRoute]
  exact hs

namespace St

theorem vrf_ref_count_addVrfRefCount (n : ℤ) :
    (s.addVrfRefCount w n).vrf_ref_count v
      = s.vrf_ref_count v + if v = w ∧ w ≠ s.gVirtualRouterId then n else 0 := by
  unfold addVrfRefCount
  split
  · next hdefault => rw [if_neg fun h => h.2 hdefault, add_zero]
  · next hvrf =>
      show Function.update s.vrf_ref_count w (s.vrf_ref_count w + n) v = _
      by_cases hv : v = w
      · subst hv
        rw [Function.update_self, if_pos ⟨rfl, hvrf⟩]
      · rw [Function.update_of_ne hv, if_neg fun h => hv h.1, add_zero]

theorem hasTable_addVrfRefCount (n : ℤ) : (s.addVrfRefCount w n).hasTable v = s.hasTable v := by
  unfold addVrfRefCount
  split
  · rfl
  · rfl

theorem asicRoutes_addVrfRefCount (n : ℤ) : (s.addVrfRefCount w n).asicRoutes = s.asicRoutes := by
  unfold addVrfRefCount
  split
  · rfl
  · rfl

theorem hasTable_ensureTable : (s.ensureTable w).hasTable v = (s.hasTable v || v = w) := by
  unfold ensureTable
  split
  · next routes hsome =>
      by_cases hv : v = w
      · rw [hv, hasTable, hsome, decide_eq_true rfl]
        rfl
      · rw [decide_eq_false hv, Bool.or_false]
  · rw [hasTable_addVrfRefCount]
    show ((s.m_syncdRoutes.insert w ∅).lookup v).isSome = _
    rw [Table.lookup_insert_eq]
    by_cases hv : v = w
    · rw [if_pos hv, decide_eq_true hv, Bool.or_true]
      rfl
    · rw [if_neg hv, decide_eq_false hv, Bool.or_false]
      rfl

theorem asicRoutes_ensureTable : (s.ensureTable w).asicRoutes = s.asicRoutes := by
  unfold ensureTable
  split
  · rfl
  · exact asicRoutes_addVrfRefCount 1

/-- A table that is made takes a reference. -/
theorem held_ensureTable (hv : v ≠ s.gVirtualRouterId) (hs : Held v s) :
    Held v (s.ensureTable w) := by
  refine ⟨?_, ?_⟩
  · rw [hasTable_ensureTable]
    unfold ensureTable
    split
    · next routes hsome =>
        by_cases hvw : v = w
        · have htable : s.hasTable v = true := by rw [hvw, hasTable, hsome]; rfl
          rw [hs.reference, htable]
          rfl
        · rw [hs.reference, decide_eq_false hvw, Bool.or_false]
    · next hnone =>
        rw [vrf_ref_count_addVrfRefCount]
        show s.vrf_ref_count v + (if v = w ∧ w ≠ s.gVirtualRouterId then 1 else 0) = _
        by_cases hvw : v = w
        · subst hvw
          have htable : s.hasTable v = false := by rw [hasTable, hnone]; rfl
          rw [if_pos ⟨rfl, hv⟩, hs.reference, htable, decide_eq_true rfl]
          rfl
        · rw [if_neg fun h => hvw h.1, hs.reference, decide_eq_false hvw, Bool.or_false, add_zero]
  · intro p
    rw [asicRoutes_ensureTable, sameView_ensureTable.1]
    exact hs.programmed p

/-! ### Routes that are added -/

theorem hasTable_storeRoute :
    (s.storeRoute w ipPrefix nextHops).hasTable v = (s.hasTable v || v = w) := by
  show ((s.m_syncdRoutes.update w ∅ fun routes => routes.insert ipPrefix nextHops).lookup v).isSome
    = _
  rw [Table.lookup_update]
  by_cases hv : v = w
  · rw [if_pos hv, decide_eq_true hv, Bool.or_true]
    rfl
  · rw [if_neg hv, decide_eq_false hv, Bool.or_false]
    rfl

theorem isSome_setAsicRoute (r : AsicRoute) (p : IpPrefix) :
    ((s.setAsicRoute w ipPrefix r).asicRoutes.lookup (v, p)).isSome
      = ((s.asicRoutes.lookup (v, p)).isSome || (v = w ∧ p = ipPrefix : Bool)) := by
  show ((s.asicRoutes.insert (w, ipPrefix) r).lookup (v, p)).isSome = _
  rw [Table.lookup_insert_eq]
  by_cases hp : v = w ∧ p = ipPrefix
  · rw [if_pos (Prod.ext hp.1 hp.2), decide_eq_true hp, Bool.or_true]
    rfl
  · rw [if_neg fun h => hp (Prod.mk.inj h), decide_eq_false hp, Bool.or_false]

/-- What holds of a VRF while a route of it is programmed and not stored yet. -/
structure Pending (v w : sai_object_id_t) (ipPrefix : IpPrefix) (s : St) : Prop where
  table : s.hasTable w = true
  reference : s.vrf_ref_count v = if s.hasTable v then 1 else 0
  programmed : ∀ p, (s.asicRoutes.lookup (v, p)).isSome
    = ((s.findRoute v p).isSome || (v = w ∧ p = ipPrefix : Bool))

theorem Pending.of_sameRoutes (h : SameRoutes s t) (hs : Pending v w ipPrefix s) :
    Pending v w ipPrefix t := by
  refine ⟨?_, ?_, ?_⟩
  · rw [h.hasTable]
    exact hs.table
  · rw [h.vrf_ref_count, h.hasTable]
    exact hs.reference
  · intro p
    rw [h.asicRoutes, h.findRoute]
    exact hs.programmed p

theorem pending_setAsicRoute (htable : s.hasTable w = true) (hs : Held v s) (r : AsicRoute) :
    Pending v w ipPrefix (s.setAsicRoute w ipPrefix r) := by
  refine ⟨htable, hs.reference, ?_⟩
  intro p
  rw [isSome_setAsicRoute, hs.programmed]
  rfl

/-- A route that is programmed is stored in a table that is there. -/
theorem Pending.storeRoute (hs : Pending v w ipPrefix s) :
    Held v (s.storeRoute w ipPrefix nextHops) := by
  refine ⟨?_, ?_⟩
  · show s.vrf_ref_count v = _
    rw [hs.reference, hasTable_storeRoute]
    by_cases hv : v = w
    · rw [hv, hs.table]
      rfl
    · rw [decide_eq_false hv, Bool.or_false]
  · intro p
    show (s.asicRoutes.lookup (v, p)).isSome = _
    rw [hs.programmed p, findRoute_storeRoute]
    by_cases hp : v = w ∧ p = ipPrefix
    · rw [if_pos hp, decide_eq_true hp, Bool.or_true]
      rfl
    · rw [if_neg hp, decide_eq_false hp, Bool.or_false]

/-- What adding a route does to the VRFs, and when there is a route after it. -/
structure Added (v w : sai_object_id_t) (ipPrefix : IpPrefix) (can : Bool) (s t : St) : Prop where
  held : Held v t
  table : ∀ u, t.hasTable u = (s.hasTable u || u = w)
  others : ∀ u q, ¬ (u = w ∧ q = ipPrefix) → t.findRoute u q = s.findRoute u q
  kept : (s.findRoute w ipPrefix).isSome = true → (t.findRoute w ipPrefix).isSome = true
  added : can = true → (t.findRoute w ipPrefix).isSome = true

theorem Added.of_sameRoutes (htable : s.hasTable w = true) (hs : Held v s) (h : SameRoutes s t) :
    Added v w ipPrefix false s t := by
  refine ⟨hs.of_sameRoutes h, ?_, ?_, ?_, ?_⟩
  · intro u
    rw [h.hasTable]
    by_cases hu : u = w
    · rw [hu, htable]
      rfl
    · rw [decide_eq_false hu, Bool.or_false]
  · intro u q _
    rw [h.findRoute]
  · rw [h.findRoute]
    exact id
  · rintro ⟨⟩

theorem Added.storeRoute (hs : Pending v w ipPrefix t) (h : t.findRoute = s.findRoute)
    (htable : ∀ u, t.hasTable u = s.hasTable u) (can : Bool) :
    Added v w ipPrefix can s (t.storeRoute w ipPrefix nextHops) := by
  have hstored : ((t.storeRoute w ipPrefix nextHops).findRoute w ipPrefix).isSome = true := by
    rw [findRoute_storeRoute, if_pos ⟨rfl, rfl⟩]
    rfl
  refine ⟨hs.storeRoute, ?_, ?_, fun _ => hstored, fun _ => hstored⟩
  · intro u
    rw [hasTable_storeRoute, htable]
  · intro u q hq
    rw [findRoute_storeRoute, if_neg hq, h]

/-- **A route that is synced is stored and programmed**, when the calls succeed. -/
theorem added_syncRoute (hsai : ∀ call, sai call = .SUCCESS) (htable : s.hasTable w = true)
    (hs : Held v s) (next_hop_id : sai_object_id_t) (can : Bool) :
    Added v w ipPrefix can s (s.syncRoute sai w ipPrefix nextHops next_hop_id).1 := by
  unfold syncRoute
  simp only [hsai]
  split
  · rw [if_neg (by simp)]
    have hcount := sameRoutes_addNextHopRefCount (s := s.setAsicRoute w ipPrefix ⟨true, next_hop_id⟩)
      nextHops 1
    refine Added.storeRoute (s := s) ?_ hcount.findRoute (fun u => hcount.hasTable) can
    exact (pending_setAsicRoute htable hs _).of_sameRoutes hcount
  · next old hold =>
      rw [if_neg (by simp), if_neg (by simp)]
      -- the route is programmed twice when it was dropped before
      have hset : Pending v w ipPrefix
          ((if old.getSize = 0 then s.setAsicRoute w ipPrefix ⟨true, 0⟩ else s).setAsicRoute w ipPrefix
            ⟨true, next_hop_id⟩) := by
        split
        · refine ⟨htable, hs.reference, ?_⟩
          intro p
          rw [isSome_setAsicRoute, isSome_setAsicRoute, hs.programmed, Bool.or_assoc, Bool.or_self]
          rfl
        · exact pending_setAsicRoute htable hs _
      have hroutes : (if old.getSize = 0 then s.setAsicRoute w ipPrefix ⟨true, 0⟩ else s).m_syncdRoutes
          = s.m_syncdRoutes := by
        split
        · rfl
        · rfl
      generalize (if old.getSize = 0 then s.setAsicRoute w ipPrefix ⟨true, 0⟩ else s) = u
        at hset hroutes ⊢
      have hrelease : SameRoutes (u.setAsicRoute w ipPrefix ⟨true, next_hop_id⟩)
          (((u.setAsicRoute w ipPrefix ⟨true, next_hop_id⟩).addNextHopRefCount nextHops 1).releaseNextHops
            sai old) :=
        (sameRoutes_addNextHopRefCount nextHops 1).trans (sameRoutes_releaseNextHops old)
      refine Added.storeRoute (hset.of_sameRoutes hrelease) ?_ ?_ can
      · rw [hrelease.findRoute]
        funext v' q
        show (u.m_syncdRoutes.lookup v').bind _ = _
        rw [hroutes]
        rfl
      · intro v'
        rw [hrelease.hasTable]
        show (u.m_syncdRoutes.lookup v').isSome = _
        rw [hroutes]
        rfl

theorem Added.of_ensureTable {can : Bool} (h : Added v w ipPrefix can (s.ensureTable w) t) :
    Added v w ipPrefix can s t := by
  obtain ⟨hheld, htable, hothers, hkept, hadded⟩ := h
  rw [sameView_ensureTable.1] at hothers hkept
  refine ⟨hheld, ?_, hothers, hkept, hadded⟩
  intro u
  rw [htable, hasTable_ensureTable, Bool.or_assoc, Bool.or_self]

theorem Added.of_sameRoutes_trans {can : Bool} {u : St} (h : SameRoutes s u)
    (hadd : Added v w ipPrefix can u t) : Added v w ipPrefix can s t := by
  obtain ⟨hheld, htable, hothers, hkept, hadded⟩ := hadd
  rw [h.findRoute] at hothers hkept
  refine ⟨hheld, ?_, hothers, hkept, hadded⟩
  intro v'
  rw [htable, h.hasTable]

theorem Added.weaken {can can' : Bool} (h : Added v w ipPrefix can s t)
    (hcan : can' = true → can = true) : Added v w ipPrefix can' s t :=
  ⟨h.held, h.table, h.others, h.kept, fun h' => h.added (hcan h')⟩

/-- The next hops of a route can be had: the id of a single one, or a group that is there or
can be made, or else a temporary next hop. -/
def canAdd (s : St) (rand : ℕ) (nextHops : NextHopGroupKey) : Bool :=
  match nextHops.m_nexthops with
  | [nextHop] => (s.singleNextHopId (s.nextHopOf nextHop)).isSome
  | _ => s.hasNextHopGroup nextHops || s.canAddGroup nextHops ||
      (s.tempNextHop rand nextHops).any fun nextHop =>
        (s.singleNextHopId (s.nextHopOf nextHop)).isSome

/-- What a route depends on is not changed by making a table. -/
theorem ensureTable_next_hops :
    (s.ensureTable w).m_syncdNextHops = s.m_syncdNextHops ∧
      (s.ensureTable w).m_portList = s.m_portList ∧
      (s.ensureTable w).getRouterIntfsAlias = s.getRouterIntfsAlias ∧
      (s.ensureTable w).m_syncdNextHopGroups = s.m_syncdNextHopGroups ∧
      (s.ensureTable w).m_nextHopGroupCount = s.m_nextHopGroupCount ∧
      (s.ensureTable w).m_maxNextHopGroupCount = s.m_maxNextHopGroupCount := by
  unfold ensureTable addVrfRefCount
  split
  · exact ⟨rfl, rfl, rfl, rfl, rfl, rfl⟩
  · split
    · exact ⟨rfl, rfl, rfl, rfl, rfl, rfl⟩
    · exact ⟨rfl, rfl, rfl, rfl, rfl, rfl⟩

theorem canAdd_ensureTable : (s.ensureTable w).canAdd rand nextHops = s.canAdd rand nextHops := by
  obtain ⟨hhops, hports, hintfs, hgroups, hcount, hmax⟩ := ensureTable_next_hops (s := s) (w := w)
  unfold canAdd singleNextHopId nextHopOf hasNextHopGroup canAddGroup tempNextHop syncdNextHops
    getRouterIntfsId getNextHopId hasNextHop
  rw [hhops, hports, hintfs, hgroups, hcount, hmax]

theorem added_addRouteSingle (hsai : ∀ call, sai call = .SUCCESS) (hv : v ≠ s.gVirtualRouterId)
    (hs : Held v s) (nextHop : NextHopKey) :
    Added v w ipPrefix (s.singleNextHopId (s.nextHopOf nextHop)).isSome s
      (s.addRouteSingle sai w ipPrefix nextHop).1 := by
  obtain ⟨hhops, hports, hintfs, -⟩ := ensureTable_next_hops (s := s) (w := w)
  have hid : (s.ensureTable w).singleNextHopId ((s.ensureTable w).nextHopOf nextHop)
      = s.singleNextHopId (s.nextHopOf nextHop) := by
    unfold singleNextHopId nextHopOf getRouterIntfsId getNextHopId hasNextHop
    rw [hhops, hports, hintfs]
  have hheld : Held v (s.ensureTable w) := held_ensureTable hv hs
  have htable : (s.ensureTable w).hasTable w = true := by
    rw [hasTable_ensureTable, decide_eq_true rfl, Bool.or_true]
  apply Added.of_ensureTable
  unfold addRouteSingle
  dsimp only
  rw [hid]
  cases s.singleNextHopId (s.nextHopOf nextHop) with
  | none => exact Added.of_sameRoutes htable hheld (.refl _)
  | some next_hop_id => exact added_syncRoute hsai htable hheld next_hop_id _

theorem findRoute_of_not_hasTable (h : s.hasTable w = false) : s.findRoute w ipPrefix = none := by
  rw [findRoute, Option.not_isSome_iff_eq_none.mp (ne_true_of_eq_false h)]
  rfl

/-- **Adding a route**: in a VRF without a table there is one after it if its next hops can
be had. -/
theorem added_addRoute (hsai : ∀ call, sai call = .SUCCESS) (hv : v ≠ s.gVirtualRouterId)
    (hs : Held v s) :
    Added v w ipPrefix (!s.hasTable w && s.canAdd rand nextHops) s
      (s.addRoute sai rand w ipPrefix nextHops).1 := by
  unfold addRoute
  split
  · next nextHop hsingle =>
      have hcan : s.canAdd rand nextHops = (s.singleNextHopId (s.nextHopOf nextHop)).isSome := by
        unfold canAdd
        rw [hsingle]
      refine (added_addRouteSingle hsai hv hs nextHop).weaken ?_
      rw [Bool.and_eq_true, hcan]
      exact And.right
  · next hgroup =>
      have hheld : Held v (s.ensureTable w) := held_ensureTable hv hs
      have htable : (s.ensureTable w).hasTable w = true := by
        rw [hasTable_ensureTable, decide_eq_true rfl, Bool.or_true]
      have hmade : SameRoutes (s.ensureTable w) ((s.ensureTable w).ensureNextHopGroup sai nextHops).1 :=
        sameRoutes_ensureNextHopGroup nextHops
      apply Added.of_ensureTable
      dsimp only
      split
      · refine Added.of_sameRoutes_trans hmade (added_syncRoute hsai ?_ (hheld.of_sameRoutes hmade) _ _)
        rw [hmade.hasTable]
        exact htable
      · next hrc =>
          -- the group is not there and cannot be made
          have hfalse := Bool.eq_false_iff.mpr hrc
          rw [ensureNextHopGroup_fst hsai hfalse]
          rw [ensureNextHopGroup_snd hsai, Bool.or_eq_false_iff] at hfalse
          split
          · next hmember =>
              -- there is a route, so the table was there
              refine (Added.of_sameRoutes htable hheld (.refl _)).weaken ?_
              intro hcan
              rw [Bool.and_eq_true, Bool.not_eq_true'] at hcan
              rw [sameView_ensureTable.1, findRoute_of_not_hasTable hcan.1] at hmember
              cases hmember
          · have hcan : s.canAdd rand nextHops
                = ((s.ensureTable w).tempNextHop rand nextHops).any fun nextHop =>
                  ((s.ensureTable w).singleNextHopId ((s.ensureTable w).nextHopOf nextHop)).isSome := by
              rw [← canAdd_ensureTable (w := w)]
              unfold canAdd
              split
              · next nextHop hsingle => exact absurd hsingle (hgroup nextHop)
              · rw [hfalse.1, hfalse.2]
                rfl
            rw [addTempRoute_eq, hcan]
            cases (s.ensureTable w).tempNextHop rand nextHops with
            | none =>
              refine (Added.of_sameRoutes htable hheld (.refl _)).weaken ?_
              rw [Option.any_none, Bool.and_false]
              exact id
            | some nextHop =>
              have hv' : v ≠ (s.ensureTable w).gVirtualRouterId := by
                rw [sameView_ensureTable.4]
                exact hv
              refine (added_addRouteSingle hsai hv' hheld nextHop).weaken ?_
              rw [Option.any_some, Bool.and_eq_true]
              exact And.right

/-! ### Routes that are removed -/

theorem hasTable_eraseRoute (htable : s.hasTable w = true) :
    (s.eraseRoute w ipPrefix).hasTable v = s.hasTable v := by
  show ((s.m_syncdRoutes.update w ∅ fun routes => routes.erase ipPrefix).lookup v).isSome = _
  rw [Table.lookup_update]
  split
  · next hv =>
      rw [hv, htable]
      rfl
  · rfl

/-- A table that is given up gives its reference back. -/
theorem held_releaseTable (hv : v ≠ s.gVirtualRouterId) (htable : s.hasTable w = true)
    (hs : Held v s) : Held v (s.releaseTable w) := by
  refine ⟨?_, ?_⟩
  · unfold releaseTable
    split
    · rw [vrf_ref_count_addVrfRefCount, hasTable_addVrfRefCount]
      show s.vrf_ref_count v + (if v = w ∧ w ≠ s.gVirtualRouterId then -1 else 0)
        = if ((s.m_syncdRoutes.erase w).lookup v).isSome then 1 else 0
      rw [Table.lookup_erase_eq]
      by_cases hvw : v = w
      · subst hvw
        rw [if_pos ⟨rfl, hv⟩, if_pos rfl, hs.reference, htable]
        rfl
      · rw [if_neg fun h => hvw h.1, if_neg hvw, add_zero]
        exact hs.reference
    · exact hs.reference
  · intro p
    rw [sameView_releaseTable.1]
    unfold releaseTable
    split
    · rw [asicRoutes_addVrfRefCount]
      exact hs.programmed p
    · exact hs.programmed p

theorem noEmptyTable_releaseTable (hs : v ≠ w → NoEmptyTable v s) :
    NoEmptyTable v (s.releaseTable w) := by
  intro htable
  rw [sameView_releaseTable.1]
  unfold releaseTable at htable
  split at htable
  · rw [hasTable_addVrfRefCount] at htable
    have hlookup : ((s.m_syncdRoutes.erase w).lookup v).isSome = true := htable
    rw [Table.lookup_erase_eq] at hlookup
    split at hlookup
    · cases hlookup
    · next hvw => exact hs hvw hlookup
  · next hentries =>
      by_cases hvw : v = w
      · -- the table was kept because it has an entry
        subst hvw
        obtain ⟨routes, hroutes⟩ := Option.isSome_iff_exists.mp htable
        rw [hroutes, Option.getD_some] at hentries
        obtain ⟨e, he⟩ := List.exists_mem_of_ne_nil _ hentries
        refine ⟨e.1, ?_⟩
        rw [findRoute, hroutes, Option.bind_some, Table.mem_entries.mp he]
        rfl
      · exact hs hvw htable

/-- What removing a route does to a VRF. -/
structure Removed (v w : sai_object_id_t) (ipPrefix : IpPrefix) (s t : St) : Prop where
  held : Held v t
  noEmptyTable : NoEmptyTable v t
  findRoute : ∀ q, t.findRoute v q = if v = w ∧ q = ipPrefix then none else s.findRoute v q

theorem removed_dropRoute (hv : v ≠ s.gVirtualRouterId) (htable : s.hasTable w = true)
    (hdefault : ipPrefix.isDefaultRoute = false)
    (hreference : s.vrf_ref_count v = if s.hasTable v then 1 else 0)
    (hprogrammed : ∀ p, (s.asicRoutes.lookup (v, p)).isSome
      = ((s.eraseRoute w ipPrefix).findRoute v p).isSome)
    (hnoEmpty : NoEmptyTable v s) :
    Removed v w ipPrefix s (s.dropRoute sai w ipPrefix nextHops) := by
  have hrelease : SameRoutes s (s.releaseNextHops sai nextHops) := sameRoutes_releaseNextHops nextHops
  unfold dropRoute
  dsimp only
  generalize s.releaseNextHops sai nextHops = u at hrelease ⊢
  rw [if_neg (by rw [hdefault]; exact Bool.false_ne_true)]
  have hutable : u.hasTable w = true := by
    rw [hrelease.hasTable]
    exact htable
  have herase : ∀ v' q, (u.eraseRoute w ipPrefix).findRoute v' q
      = if v' = w ∧ q = ipPrefix then none else s.findRoute v' q := by
    intro v' q
    rw [findRoute_eraseRoute, hrelease.findRoute]
  have hheld : Held v ((u.eraseRoute w ipPrefix).notifyNextHopChangeObservers w ipPrefix .empty
      false) := by
    refine ⟨?_, ?_⟩
    · show u.vrf_ref_count v = if (u.eraseRoute w ipPrefix).hasTable v then 1 else 0
      rw [hasTable_eraseRoute hutable, hrelease.vrf_ref_count, hrelease.hasTable]
      exact hreference
    · intro p
      show (u.asicRoutes.lookup (v, p)).isSome = ((u.eraseRoute w ipPrefix).findRoute v p).isSome
      rw [hrelease.asicRoutes, hprogrammed p, herase, findRoute_eraseRoute]
  refine ⟨held_releaseTable ?_ ?_ hheld, noEmptyTable_releaseTable ?_, ?_⟩
  · show v ≠ u.gVirtualRouterId
    rw [hrelease.gVirtualRouterId]
    exact hv
  · show (u.eraseRoute w ipPrefix).hasTable w = true
    rw [hasTable_eraseRoute hutable]
    exact hutable
  · intro hvw hvtable
    have hvtable' : (u.eraseRoute w ipPrefix).hasTable v = true := hvtable
    rw [hasTable_eraseRoute hutable, hrelease.hasTable] at hvtable'
    obtain ⟨p, hp⟩ := hnoEmpty hvtable'
    refine ⟨p, ?_⟩
    show ((u.eraseRoute w ipPrefix).findRoute v p).isSome = true
    rw [herase, if_neg fun h => hvw h.1]
    exact hp
  · intro q
    rw [sameView_releaseTable.1]
    exact herase v q

/-- **Removing a route**: a VRF gives its reference back with its last route, unless that
is a default route. -/
theorem removed_removeRoute (hsai : ∀ call, sai call = .SUCCESS) (hv : v ≠ s.gVirtualRouterId)
    (hs : Held v s) (hnoEmpty : NoEmptyTable v s)
    (hdefault : w = v → ipPrefix.isDefaultRoute = true → s.findRoute w ipPrefix = none) :
    Removed v w ipPrefix s (s.removeRoute sai w ipPrefix).1 := by
  unfold removeRoute
  simp only [hsai]
  cases hfind : s.findRoute w ipPrefix with
  | none =>
    refine ⟨hs, hnoEmpty, ?_⟩
    intro q
    show s.findRoute v q = _
    by_cases heq : v = w ∧ q = ipPrefix
    · rw [if_pos heq, heq.1, heq.2, hfind]
    · rw [if_neg heq]
  | some nextHops =>
    have htable : s.hasTable w = true := by
      by_contra hnone
      rw [findRoute_of_not_hasTable (Bool.eq_false_iff.mpr hnone)] at hfind
      cases hfind
    dsimp only
    split
    · next hp =>
        -- a default route of another VRF is stored as dropped
        have hvw : v ≠ w := by
          intro heq
          rw [hdefault heq.symm hp] at hfind
          cases hfind
        rw [if_neg (by simp), if_neg (by simp)]
        unfold dropRoute
        dsimp only
        rw [if_pos hp]
        have hrelease : SameRoutes (s.setAsicRoute w ipPrefix ⟨false, 0⟩)
            ((s.setAsicRoute w ipPrefix ⟨false, 0⟩).releaseNextHops sai nextHops) :=
          sameRoutes_releaseNextHops nextHops
        have hpending : Pending v w ipPrefix
            ((s.setAsicRoute w ipPrefix ⟨false, 0⟩).releaseNextHops sai nextHops) :=
          (pending_setAsicRoute htable hs _).of_sameRoutes hrelease
        refine ⟨hpending.storeRoute, ?_, ?_⟩
        · intro hvtable
          rw [hasTable_storeRoute, hrelease.hasTable, decide_eq_false hvw, Bool.or_false] at hvtable
          obtain ⟨q, hq⟩ := hnoEmpty hvtable
          refine ⟨q, ?_⟩
          rw [findRoute_storeRoute, if_neg fun h => hvw h.1, hrelease.findRoute]
          exact hq
        · intro q
          rw [findRoute_storeRoute, if_neg fun h => hvw h.1, if_neg fun h => hvw h.1,
            hrelease.findRoute]
          rfl
    · next hp =>
        rw [if_neg (by simp)]
        have hdrop : Removed v w ipPrefix { s with asicRoutes := s.asicRoutes.erase (w, ipPrefix) }
            ({ s with asicRoutes := s.asicRoutes.erase (w, ipPrefix) }.dropRoute sai w ipPrefix
              nextHops) := by
          refine removed_dropRoute hv htable (Bool.eq_false_iff.mpr hp) hs.reference ?_ hnoEmpty
          intro p
          show ((s.asicRoutes.erase (w, ipPrefix)).lookup (v, p)).isSome = _
          rw [Table.lookup_erase_eq, findRoute_eraseRoute]
          by_cases heq : v = w ∧ p = ipPrefix
          · rw [if_pos heq, if_pos (Prod.ext heq.1 heq.2)]
            rfl
          · rw [if_neg heq, if_neg fun h => heq (Prod.mk.inj h)]
            exact hs.programmed p
        exact ⟨hdrop.held, hdrop.noEmptyTable, hdrop.findRoute⟩

end St

/-! ### Runs -/

/-- The routes of a task that are set and not deleted since, after the task is done. -/
def noteTask (s : St) (live : Set (sai_object_id_t × IpPrefix)) :
    RouteTask → Set (sai_object_id_t × IpPrefix)
  | .resync _ => live
  | .set vrf_name ip_prefix _ _ =>
    if s.m_resync then live
    else
      match taskVrf s vrf_name with
      | none => live
      | some vrf_id => insert (vrf_id, ip_prefix) live
  | .del vrf_name ip_prefix =>
    if s.m_resync then live
    else
      match taskVrf s vrf_name with
      | none => live
      | some vrf_id => live \ {(vrf_id, ip_prefix)}

/-- A state with the routes that are set and not deleted since. -/
abbrev Noted := St × Set (sai_object_id_t × IpPrefix)

/-- A step, and the note of its task. -/
def NotedStep (x : Noted) (e : Event) (y : Noted) : Prop :=
  Step x.1 e y.1 ∧
    y.2 = match e with
      | .routeTask _ _ task => noteTask x.1 x.2 task
      | _ => x.2

/-- The actions that leave no reference behind in a VRF: no default route is removed, and
the first route of the VRF can be added. -/
def TaskAction.NoLeak (v : sai_object_id_t) (rand : ℕ) (s : St) : TaskAction → Prop
  | .keep => True
  | .resync _ => True
  | .remove w p => w = v → p.isDefaultRoute = true → s.findRoute w p = none
  | .add w _ nhg => w = v → s.hasTable w = false → s.canAdd rand nhg = true

/-- The tasks of routes succeed in their calls and leave no reference behind. -/
def NoLeak (v : sai_object_id_t) (x : Noted) : Event → Prop
  | .routeTask sai rand task =>
    (∀ call, sai call = .SUCCESS) ∧
      ∀ action, taskAction x.1 task = some action → action.NoLeak v rand x.1
  | _ => True

/-- The invariant of a VRF other than the default one. -/
structure VrfInv (v : sai_object_id_t) (x : Noted) : Prop where
  other : v ≠ x.1.gVirtualRouterId
  held : Held v x.1
  noEmptyTable : NoEmptyTable v x.1
  live : ∀ p, (x.1.findRoute v p).isSome = true → (v, p) ∈ x.2

/-- A task keeps the notes of the routes that it does not remove, and takes one of the route
that it adds. -/
theorem noteTask_spec (live : Set (sai_object_id_t × IpPrefix)) {task : RouteTask}
    {action : TaskAction} (h : taskAction s task = some action) :
    (∀ q ∈ live, q ∈ noteTask s live task ∨ action = .remove q.1 q.2) ∧
      ∀ w p nhg, action = .add w p nhg → (w, p) ∈ noteTask s live task := by
  cases task with
  | resync set =>
    obtain rfl := Option.some.inj h
    exact ⟨fun q hq => Or.inl hq, by rintro w p nhg ⟨⟩⟩
  | set vrf_name ip_prefix ips aliases =>
    rw [taskAction] at h
    rw [noteTask]
    split at h
    · next hresync =>
        obtain rfl := Option.some.inj h
        rw [if_pos hresync]
        exact ⟨fun q hq => Or.inl hq, by rintro w p nhg ⟨⟩⟩
    · next hresync =>
        rw [if_neg hresync]
        cases hvrf : taskVrf s vrf_name with
        | none =>
          rw [hvrf] at h
          obtain rfl := Option.some.inj h
          exact ⟨fun q hq => Or.inl hq, by rintro w p nhg ⟨⟩⟩
        | some vrf_id =>
          rw [hvrf] at h
          refine ⟨fun q hq => Or.inl (Set.mem_insert_of_mem _ hq), ?_⟩
          intro w p nhg hadd
          rcases setAction_cases h with rfl | rfl | ⟨nhg', rfl⟩
          · cases hadd
          · cases hadd
          · cases hadd
            exact Set.mem_insert _ _
  | del vrf_name ip_prefix =>
    rw [taskAction] at h
    rw [noteTask]
    split at h
    · next hresync =>
        obtain rfl := Option.some.inj h
        rw [if_pos hresync]
        exact ⟨fun q hq => Or.inl hq, by rintro w p nhg ⟨⟩⟩
    · next hresync =>
        rw [if_neg hresync]
        cases hvrf : taskVrf s vrf_name with
        | none =>
          rw [hvrf] at h
          obtain rfl := Option.some.inj h
          exact ⟨fun q hq => Or.inl hq, by rintro w p nhg ⟨⟩⟩
        | some vrf_id =>
          rw [hvrf] at h
          obtain rfl := Option.some.inj h
          refine ⟨?_, by rintro w p nhg ⟨⟩⟩
          intro q hq
          by_cases heq : q = (vrf_id, ip_prefix)
          · exact Or.inr (by rw [heq])
          · exact Or.inl ⟨hq, heq⟩

/-- What a task comes to keeps the invariant. -/
theorem vrfInv_action {x : Noted} {live : Set (sai_object_id_t × IpPrefix)} {action : TaskAction}
    (hsai : ∀ call, sai call = .SUCCESS) (hx : VrfInv v x) (hguard : action.NoLeak v rand x.1)
    (hkept : ∀ q ∈ x.2, q ∈ live ∨ action = .remove q.1 q.2)
    (hadded : ∀ w p nhg, action = .add w p nhg → (w, p) ∈ live) :
    VrfInv v (action.run sai rand x.1, live) := by
  obtain ⟨hother, hheld, hnoEmpty, hlive⟩ := hx
  cases action with
  | keep =>
    refine ⟨hother, hheld, hnoEmpty, ?_⟩
    intro p hp
    exact (hkept _ (hlive p hp)).resolve_right (by rintro ⟨⟩)
  | resync set =>
    refine ⟨hother, ⟨hheld.reference, hheld.programmed⟩, hnoEmpty, ?_⟩
    intro p hp
    exact (hkept _ (hlive p hp)).resolve_right (by rintro ⟨⟩)
  | remove w p =>
    have hremoved : St.Removed v w p x.1 (x.1.removeRoute sai w p).1 :=
      St.removed_removeRoute hsai hother hheld hnoEmpty hguard
    refine ⟨?_, hremoved.held, hremoved.noEmptyTable, ?_⟩
    · show v ≠ (x.1.removeRoute sai w p).1.gVirtualRouterId
      rw [St.routeChange_removeRoute.gVirtualRouterId]
      exact hother
    · intro q hq
      have hfind : ((x.1.removeRoute sai w p).1.findRoute v q).isSome = true := hq
      rw [hremoved.findRoute] at hfind
      split at hfind
      · cases hfind
      · next hne =>
          refine (hkept _ (hlive q hfind)).resolve_right ?_
          rintro ⟨⟩
          exact hne ⟨rfl, rfl⟩
  | add w p nhg =>
    have hadd : St.Added v w p (!x.1.hasTable w && x.1.canAdd rand nhg) x.1
        (x.1.addRoute sai rand w p nhg).1 := St.added_addRoute hsai hother hheld
    refine ⟨?_, hadd.held, ?_, ?_⟩
    · show v ≠ (x.1.addRoute sai rand w p nhg).1.gVirtualRouterId
      rw [St.routeChange_addRoute.gVirtualRouterId]
      exact hother
    · show NoEmptyTable v (x.1.addRoute sai rand w p nhg).1
      intro htable
      cases hbefore : x.1.hasTable v with
      | false =>
        -- the table is new, and its first route can be added
        rw [hadd.table, hbefore, Bool.false_or] at htable
        obtain rfl := of_decide_eq_true htable
        refine ⟨p, hadd.added ?_⟩
        rw [hbefore, hguard rfl hbefore]
        rfl
      | true =>
        obtain ⟨q, hq⟩ := hnoEmpty hbefore
        refine ⟨q, ?_⟩
        by_cases heq : v = w ∧ q = p
        · rw [heq.1, heq.2] at hq ⊢
          exact hadd.kept hq
        · rw [hadd.others v q heq]
          exact hq
    · intro q hq
      by_cases heq : v = w ∧ q = p
      · rw [heq.1, heq.2]
        exact hadded w p nhg rfl
      · have hfind : ((x.1.addRoute sai rand w p nhg).1.findRoute v q).isSome = true := hq
        rw [hadd.others v q heq] at hfind
        exact (hkept _ (hlive q hfind)).resolve_right (by rintro ⟨⟩)

theorem VrfInv.of_sameRoutes {live : Set (sai_object_id_t × IpPrefix)} (hx : VrfInv v (s, live))
    (h : SameRoutes s t) : VrfInv v (t, live) := by
  refine ⟨?_, hx.held.of_sameRoutes h, hx.noEmptyTable.of_sameRoutes h, ?_⟩
  · show v ≠ t.gVirtualRouterId
    rw [h.gVirtualRouterId]
    exact hx.other
  · show ∀ p, (t.findRoute v p).isSome = true → _
    rw [h.findRoute]
    exact hx.live

/-- **Invariant step.** -/
theorem vrfInv_step {x y : Noted} {e : Event} (hx : VrfInv v x) (hguard : NoLeak v x e)
    (hstep : NotedStep x e y) : VrfInv v y := by
  obtain ⟨s, live⟩ := x
  obtain ⟨t, live'⟩ := y
  obtain ⟨hstep, hnote⟩ := hstep
  cases e with
  | routeTask sai rand task =>
    obtain rfl : live' = noteTask s live task := hnote
    have htask : (taskAction s task).map (TaskAction.run sai rand s) = some t := by
      rw [← doRouteTask_eq]
      exact hstep
    obtain ⟨action, haction, rfl⟩ := Option.map_eq_some_iff.mp htask
    obtain ⟨hkept, hadded⟩ := noteTask_spec live haction
    exact vrfInv_action hguard.1 hx (hguard.2 action haction) hkept hadded
  | neighTask sai task =>
    obtain rfl := Option.some.inj hstep
    obtain rfl : live' = live := hnote
    exact hx.of_sameRoutes (sameRoutes_doNeighTask task)
  | portOper sai if_alias status =>
    obtain rfl := Option.some.inj hstep
    obtain rfl : live' = live := hnote
    exact hx.of_sameRoutes (sameRoutes_updatePortOperStatus if_alias status)
  | lagOper sai if_alias if_up =>
    obtain rfl := Option.some.inj hstep
    obtain rfl : live' = live := hnote
    exact hx.of_sameRoutes (St.sameRoutes_ifChangeInformNextHop if_alias if_up)
  | attach observer dstAddr vrf_id =>
    obtain rfl := Option.some.inj hstep
    obtain rfl : live' = live := hnote
    exact ⟨hx.other, ⟨hx.held.reference, hx.held.programmed⟩, hx.noEmptyTable, hx.live⟩
  | detach observer dstAddr vrf_id =>
    obtain rfl := Option.some.inj hstep
    obtain rfl : live' = live := hnote
    unfold St.detach
    dsimp only
    split
    · exact hx
    · split
      · split
        · exact ⟨hx.other, ⟨hx.held.reference, hx.held.programmed⟩, hx.noEmptyTable, hx.live⟩
        · exact ⟨hx.other, ⟨hx.held.reference, hx.held.programmed⟩, hx.noEmptyTable, hx.live⟩
      · exact hx
  | addGroup sai nexthops =>
    obtain rfl := Option.some.inj hstep
    obtain rfl : live' = live := hnote
    exact hx.of_sameRoutes (St.sameRoutes_ensureNextHopGroup nexthops)
  | removeGroup sai nexthops =>
    obtain rfl := Option.some.inj hstep
    obtain rfl : live' = live := hnote
    exact hx.of_sameRoutes (St.sameRoutes_removeNextHopGroup nexthops)
  | config m_portList getRouterIntfsAlias isPrefixSubnet vrf_table =>
    obtain rfl := Option.some.inj hstep
    obtain rfl : live' = live := hnote
    refine hx.of_sameRoutes ?_
    exact ⟨rfl, rfl, rfl, rfl, rfl, rfl⟩

theorem vrfInv_initial {s : St} (h : Initial s) (hv : v ≠ s.gVirtualRouterId) :
    VrfInv v (s, ∅) := by
  have hlookup : s.m_syncdRoutes.lookup v = none := by
    rw [h.m_syncdRoutes, AList.lookup_insert_ne hv]
    exact AList.lookup_empty v
  have htable : s.hasTable v = false := by
    rw [St.hasTable, hlookup]
    rfl
  have hfind : ∀ p, s.findRoute v p = none := fun p => St.findRoute_of_not_hasTable htable
  refine ⟨hv, ⟨?_, ?_⟩, ?_, ?_⟩
  · show s.vrf_ref_count v = if s.hasTable v then 1 else 0
    rw [h.vrf_ref_count, htable]
    rfl
  · intro p
    rw [h.asicRoutes, if_neg fun heq => hv heq.1, hfind]
    rfl
  · intro htrue
    rw [htable] at htrue
    cases htrue
  · intro p hp
    rw [hfind] at hp
    cases hp

/-- **The reference on a VRF stands for its live routes.**  After any run without a leak in
the VRF, routes hold one reference on it if a route that was set and not deleted since is
programmed, and none otherwise. -/
theorem vrf_reference_iff_live {s₀ s : St} {es : List Event}
    {live : Set (sai_object_id_t × IpPrefix)} (h₀ : Initial s₀) (hv : v ≠ s₀.gVirtualRouterId)
    (hrun : Run (Guarded (NoLeak v) NotedStep) (s₀, ∅) es (s, live)) :
    (s.vrf_ref_count v = 0 ∨ s.vrf_ref_count v = 1) ∧
      (s.vrf_ref_count v = 1 ↔ ∃ p, (v, p) ∈ live ∧ (s.asicRoutes.lookup (v, p)).isSome = true) ∧
      ((∀ p, (v, p) ∉ live) → s.vrf_ref_count v = 0) := by
  have hinv : VrfInv v (s, live) :=
    hrun.keeps (vrfInv_initial h₀ hv) fun hx hstep => vrfInv_step hx hstep.1 hstep.2
  have href : s.vrf_ref_count v = if s.hasTable v then 1 else 0 := hinv.held.reference
  have hprogrammed : ∀ p, (s.asicRoutes.lookup (v, p)).isSome = (s.findRoute v p).isSome :=
    hinv.held.programmed
  cases htable : s.hasTable v with
  | false =>
    rw [htable, if_neg Bool.false_ne_true] at href
    refine ⟨Or.inl href, ?_, fun _ => href⟩
    constructor
    · intro hone
      rw [href] at hone
      cases hone
    · rintro ⟨p, -, hp⟩
      rw [hprogrammed, St.findRoute_of_not_hasTable htable] at hp
      cases hp
  | true =>
    rw [htable, if_pos rfl] at href
    obtain ⟨p, hp⟩ := hinv.noEmptyTable htable
    have hlive : (v, p) ∈ live := hinv.live p hp
    refine ⟨Or.inr href, ⟨fun _ => ⟨p, hlive, ?_⟩, fun _ => href⟩, fun hnone => absurd hlive (hnone p)⟩
    rw [hprogrammed]
    exact hp

/-! ### Examples -/

theorem exampleMask_le : 8 ≤ 32 := by decide

theorem exampleDefaultMask_le : 0 ≤ 32 := Nat.zero_le _

/-- The prefixes of the examples: a network, and the default route. -/
def exampleNet : IpPrefix := ⟨.v4 (10 ::ᵥ List.Vector.replicate 3 0), 8, exampleMask_le⟩
def exampleDefault : IpPrefix := ⟨.v4 (List.Vector.replicate 4 0), 0, exampleDefaultMask_le⟩

/-- A route of the VRF `Vrf1`, over the interface. -/
def vrf1Set (p : IpPrefix) (ips : String) : Event :=
  .routeTask allSucceed 0 (.set (some "Vrf1".toList) p ips.toList "Ethernet0".toList)
def vrf1Del (p : IpPrefix) : Event :=
  .routeTask allSucceed 0 (.del (some "Vrf1".toList) p)

/-- A route is set and deleted: whether the tasks are done, and the references that are left. -/
def afterSetDel (p : IpPrefix) (ips : String) : Option (Bool × Option sai_object_id_t × ℤ) :=
  (oneInterface.apply (vrf1Set p ips)).bind fun s =>
    (s.apply (vrf1Del p)).map fun t =>
      (s.m_resync, taskVrf s (some "Vrf1".toList), t.vrf_ref_count 5)

theorem exists_run_setDel {p : IpPrefix} {ips : String} {n : ℤ}
    (h : afterSetDel p ips = some (false, some 5, n)) :
    ∃ t, Run NotedStep (oneInterface, ∅) [vrf1Set p ips, vrf1Del p] (t, ∅) ∧
      t.vrf_ref_count 5 = n := by
  obtain ⟨s, hs, h⟩ := Option.bind_eq_some_iff.mp h
  obtain ⟨t, ht, h⟩ := Option.map_eq_some_iff.mp h
  obtain ⟨hresync, h⟩ := Prod.mk.inj h
  obtain ⟨hvrf, hcount⟩ := Prod.mk.inj h
  have hset : NotedStep (oneInterface, ∅) (vrf1Set p ips) (s, {(5, p)}) := by
    refine ⟨hs, ?_⟩
    show ({(5, p)} : Set (sai_object_id_t × IpPrefix)) = insert (5, p) ∅
    rw [insert_empty_eq]
  have hdel : NotedStep (s, {(5, p)}) (vrf1Del p) (t, ∅) := by
    refine ⟨ht, ?_⟩
    show ∅ = noteTask s {(5, p)} (.del (some "Vrf1".toList) p)
    rw [noteTask, hresync, hvrf]
    exact (Set.sdiff_self).symm
  exact ⟨t, Run.cons hset (Run.single hdel), hcount⟩

set_option maxRecDepth 4000 in
/-- A route over a next hop that is not there, and a default route: both are deleted, and the
reference stays. -/
theorem not_vrf_reference_iff_live :
    (∃ t, Run NotedStep (oneInterface, ∅)
        [vrf1Set exampleNet "10.0.0.9", vrf1Del exampleNet] (t, ∅) ∧ t.vrf_ref_count 5 = 1) ∧
      ∃ t, Run NotedStep (oneInterface, ∅)
        [vrf1Set exampleDefault "0.0.0.0", vrf1Del exampleDefault] (t, ∅) ∧ t.vrf_ref_count 5 = 1 :=
  ⟨exists_run_setDel (by decide), exists_run_setDel (by decide)⟩

set_option maxRecDepth 4000 in
/-- A route over the interface is set. -/
theorem vrf_reference_iff_live_set :
    ∃ t, oneInterface.apply (vrf1Set exampleNet "0.0.0.0") = some t ∧ t.vrf_ref_count 5 = 1 ∧
      ∃ p, (5, p) ∈ ({(5, exampleNet)} : Set (sai_object_id_t × IpPrefix)) ∧
        (t.asicRoutes.lookup (5, p)).isSome = true := by
  have haction : taskAction oneInterface (.set (some "Vrf1".toList) exampleNet "0.0.0.0".toList
      "Ethernet0".toList) = some (.add 5 exampleNet
        (.single ⟨.v4 (List.Vector.replicate 4 0), ethernet0⟩)) := rfl
  obtain ⟨t, ht⟩ : ∃ t, oneInterface.apply (vrf1Set exampleNet "0.0.0.0") = some t :=
    Option.isSome_iff_exists.mp (by decide)
  have hcount : (oneInterface.apply (vrf1Set exampleNet "0.0.0.0")).map
      (fun t => t.vrf_ref_count 5) = some 1 := by decide
  rw [ht] at hcount
  have hset : NotedStep (oneInterface, ∅) (vrf1Set exampleNet "0.0.0.0")
      (t, {(5, exampleNet)}) := by
    refine ⟨ht, ?_⟩
    show ({(5, exampleNet)} : Set (sai_object_id_t × IpPrefix)) = insert (5, exampleNet) ∅
    rw [insert_empty_eq]
  have hguard : NoLeak 5 (oneInterface, ∅) (vrf1Set exampleNet "0.0.0.0") := by
    refine ⟨fun _ => rfl, ?_⟩
    intro action h
    obtain rfl := Option.some.inj (haction.symm.trans h)
    exact fun _ _ => rfl
  obtain ⟨-, hiff, -⟩ :=
    vrf_reference_iff_live initial_oneInterface (by decide) (Run.single ⟨hguard, hset⟩)
  have hone : t.vrf_ref_count 5 = 1 := Option.some.inj hcount
  exact ⟨t, ht, hone, hiff.mp hone⟩

end Orchagent
