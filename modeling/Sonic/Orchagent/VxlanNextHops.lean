/-
Orchagent/VxlanNextHops.lean

The next hops of VXLAN tunnels and their counts.

`Counted s uses` says that the next hops of every tunnel are counted by `uses`: the count of
one is the number of its uses, there is one for what is used only, and the next hops of the
ASIC are those of the tunnels.  A creation that returns a next hop adds a use of it, and a
removal takes one; the maps of the tunnels may change meanwhile.
-/
import Sonic.Orchagent.VxlanOrch

namespace Orchagent.Vxlan

/-- The next hop that a tunnel has for a key. -/
def St.nextHopRef (s : St) (k : String × nh_key_t) : Option sai_object_id_t :=
  (s.vxlan_tunnel_table_.lookup k.1).bind fun t =>
    (t.nh_tunnels_.lookup k.2).map nh_tunnel_t.nh_id

/-- One use more or less of a key of a tunnel. -/
def bump (uses : String → nh_key_t → ℤ) (name : String) (key : nh_key_t) (d : ℤ) :
    String → nh_key_t → ℤ :=
  fun n k => uses n k + if n = name ∧ k = key then d else 0

structure Counted (s : St) (uses : String → nh_key_t → ℤ) : Prop where
  count : ∀ {name t}, s.vxlan_tunnel_table_.lookup name = some t → ∀ key,
    ((t.nh_tunnels_.lookup key).map nh_tunnel_t.ref_count).getD 0 = uses name key
  pos : ∀ {name t key nh}, s.vxlan_tunnel_table_.lookup name = some t →
    t.nh_tunnels_.lookup key = some nh → 0 < nh.ref_count
  owned : Owned s.nextHopRef (· ∈ s.asic.next_hops)
  given : s.asic.next_hops.Given s.asic.next
  next_pos : 0 < s.asic.next

variable {s s' : St} {a a' a'' : Asic} {name : String} {t t' : VxlanTunnel} {key : nh_key_t}
  {uses : String → nh_key_t → ℤ} {ok : SaiCall → Bool} {b : Bool} {i : sai_object_id_t}

theorem Counted.congr {uses' : String → nh_key_t → ℤ} (h : Counted s uses)
    (huses : ∀ name key, uses' name key = uses name key) : Counted s uses' :=
  { h with count := fun ht key => (h.count ht key).trans (huses _ key).symm }

/-! ### Calls that leave the next hops -/

/-- The next hops are left, and the identifiers go up. -/
structure Leaves (a a' : Asic) : Prop where
  next_hops : a'.next_hops = a.next_hops
  next_le : a.next ≤ a'.next

theorem Leaves.refl (a : Asic) : Leaves a a := ⟨rfl, Nat.le_refl _⟩

theorem Leaves.trans (h : Leaves a a') (h' : Leaves a' a'') : Leaves a a'' :=
  ⟨h'.next_hops.trans h.next_hops, h.next_le.trans h'.next_le⟩

theorem leaves_create_map {map_t : MAP_T} (h : a.create_tunnel_map b map_t = .ok (i, a')) :
    Leaves a a' := by
  unfold Asic.create_tunnel_map at h
  split at h
  · obtain ⟨-, rfl⟩ := Prod.mk.inj (Except.ok.inj h)
    exact Leaves.refl a
  split at h
  · obtain ⟨-, rfl⟩ := Prod.mk.inj (Except.ok.inj h)
    exact ⟨rfl, Nat.le_succ _⟩
  · cases h

theorem leaves_create_tunnel {tunnel : Tunnel} (h : a.create_tunnel b tunnel = .ok (i, a')) :
    Leaves a a' := by
  unfold Asic.create_tunnel at h
  split at h
  · obtain ⟨-, rfl⟩ := Prod.mk.inj (Except.ok.inj h)
    exact ⟨rfl, Nat.le_succ _⟩
  · cases h

theorem leaves_create_term {term : TunnelTerm}
    (h : a.create_tunnel_termination b term = .ok (i, a')) : Leaves a a' := by
  unfold Asic.create_tunnel_termination at h
  split at h
  · obtain ⟨-, rfl⟩ := Prod.mk.inj (Except.ok.inj h)
    exact ⟨rfl, Nat.le_succ _⟩
  · cases h

theorem leaves_create_entry {map_t : MAP_T} {map_id vni vlan_id obj_id : ℕ} {encap : Bool}
    (h : a.create_tunnel_map_entry b map_t map_id vni vlan_id obj_id encap = .ok (i, a')) :
    Leaves a a' := by
  unfold Asic.create_tunnel_map_entry at h
  split at h
  · cases h
  split at h
  · obtain ⟨-, rfl⟩ := Prod.mk.inj (Except.ok.inj h)
    exact ⟨rfl, Nat.le_succ _⟩
  · cases h

/-- An entry of a map that there is: its creation succeeds or fails. -/
theorem create_entry_or {map_t : MAP_T} (hmap : map_t ≠ .MAP_TO_INVALID)
    (a : Asic) (b : Bool) (map_id vni vlan_id obj_id : ℕ) (encap : Bool) :
    a.create_tunnel_map_entry b map_t map_id vni vlan_id obj_id encap = .error .runtime_error ∨
    ∃ i a', a.create_tunnel_map_entry b map_t map_id vni vlan_id obj_id encap = .ok (i, a') := by
  unfold Asic.create_tunnel_map_entry
  rw [if_neg hmap]
  split
  · exact .inr ⟨_, _, rfl⟩
  · exact .inl rfl

theorem leaves_remove_entry (h : a.remove_tunnel_map_entry b i = .ok a') : Leaves a a' := by
  unfold Asic.remove_tunnel_map_entry at h
  split at h
  · obtain rfl := Except.ok.inj h
    exact Leaves.refl a
  split at h
  · obtain rfl := Except.ok.inj h
    exact ⟨rfl, Nat.le_refl _⟩
  · cases h

theorem leaves_createTunnel (encap decap : MAP_T) (encap_ttl : ℕ) :
    Leaves a (t.createTunnel ok encap decap encap_ttl a).1 ∧
    (t.createTunnel ok encap decap encap_ttl a).2.nh_tunnels_ = t.nh_tunnels_ := by
  unfold VxlanTunnel.createTunnel
  dsimp only
  split
  · exact ⟨Leaves.refl a, rfl⟩
  next hdecap =>
  split
  · exact ⟨leaves_create_map hdecap, rfl⟩
  next hencap =>
  split
  · exact ⟨(leaves_create_map hdecap).trans (leaves_create_map hencap), rfl⟩
  next htunnel =>
  have hthree := ((leaves_create_map hdecap).trans (leaves_create_map hencap)).trans
    (leaves_create_tunnel htunnel)
  split
  · exact ⟨hthree, rfl⟩
  next hterm =>
  exact ⟨hthree.trans (leaves_create_term hterm), rfl⟩

/-- A tunnel is stored with the next hops that it had. -/
theorem Counted.store (h : Counted s uses) (ht : s.vxlan_tunnel_table_.lookup name = some t)
    (ha : Leaves s.asic a) (hnh : t'.nh_tunnels_ = t.nh_tunnels_) :
    Counted (s.store name a t') uses where
  count hu key := by
    rcases Table.lookup_insert_iff.mp hu with ⟨rfl, rfl⟩ | ⟨-, hu⟩
    · rw [hnh]
      exact h.count ht key
    · exact h.count hu key
  pos hu hkey := by
    rcases Table.lookup_insert_iff.mp hu with ⟨rfl, rfl⟩ | ⟨-, hu⟩
    · rw [hnh] at hkey
      exact h.pos ht hkey
    · exact h.pos hu hkey
  owned := by
    refine h.owned.congr (fun k => ?_) fun i => ?_
    · show ((s.vxlan_tunnel_table_.insert name t').lookup k.1).bind _ = s.nextHopRef k
      rw [Table.lookup_insert_eq]
      split
      · next hk => rw [St.nextHopRef, hk, ht, Option.bind_some, Option.bind_some, hnh]
      · rfl
    · show i ∈ a.next_hops ↔ _
      rw [ha.next_hops]
  given := by
    show a.next_hops.Given a.next
    rw [ha.next_hops]
    exact h.given.mono ha.next_le
  next_pos := h.next_pos.trans_le ha.next_le

/-! ### Creating and removing -/

/-- The next hops of one tunnel are replaced. -/
theorem nextHopRef_store (k : String × nh_key_t) : (s.store name a t').nextHopRef k =
    if k.1 = name then (t'.nh_tunnels_.lookup k.2).map nh_tunnel_t.nh_id else s.nextHopRef k := by
  show ((s.vxlan_tunnel_table_.insert name t').lookup k.1).bind _ = _
  rw [Table.lookup_insert_eq]
  split <;> rfl

/-- The tunnels, less their next hops, are those of before. -/
def SameTunnels (s s' : St) : Prop :=
  ∀ n, (s'.vxlan_tunnel_table_.lookup n).map (fun t => (t.active_, t.tunnel_map_)) =
    (s.vxlan_tunnel_table_.lookup n).map fun t => (t.active_, t.tunnel_map_)

theorem SameTunnels.store (ht : s.vxlan_tunnel_table_.lookup name = some t)
    (hactive : t'.active_ = t.active_) (hmap : t'.tunnel_map_ = t.tunnel_map_) :
    SameTunnels s (s.store name a t') := by
  intro n
  show ((s.vxlan_tunnel_table_.insert name t').lookup n).map _ = _
  rw [Table.lookup_insert_eq]
  split
  · next hn => rw [hn, ht, Option.map_some, Option.map_some, hactive, hmap]
  · rfl

/-- The count of a next hop that stays changes. -/
theorem Counted.adjust (h : Counted s uses) (ht : s.vxlan_tunnel_table_.lookup name = some t)
    {nh : nh_tunnel_t} (hnh : t.nh_tunnels_.lookup key = some nh) {n : ℤ} (hn : 0 < n) :
    Counted (s.store name s.asic
      { t with nh_tunnels_ := t.nh_tunnels_.insert key { nh with ref_count := n } })
      (bump uses name key (n - nh.ref_count)) where
  count {name' u} hu key' := by
    rcases Table.lookup_insert_iff.mp hu with ⟨rfl, rfl⟩ | ⟨hne, hu⟩
    · have hcount := h.count ht key'
      show ((AList.lookup key' (t.nh_tunnels_.insert key _)).map _).getD 0 = _
      rw [Table.lookup_insert_eq]
      by_cases hkey : key' = key
      · subst hkey
        rw [hnh] at hcount
        rw [if_pos rfl, bump, if_pos ⟨rfl, rfl⟩, ← hcount]
        show n = nh.ref_count + (n - nh.ref_count)
        omega
      · rw [if_neg hkey, bump, if_neg fun hand => hkey hand.2, hcount, add_zero]
    · rw [bump, if_neg fun hand => hne hand.1, add_zero]
      exact h.count hu key'
  pos {name' u key' nh'} hu hkey := by
    rcases Table.lookup_insert_iff.mp hu with ⟨rfl, rfl⟩ | ⟨-, hu⟩
    · rcases Table.lookup_insert_iff.mp hkey with ⟨rfl, rfl⟩ | ⟨-, hkey⟩
      · exact hn
      · exact h.pos ht hkey
    · exact h.pos hu hkey
  owned := by
    refine h.owned.congr (fun k => ?_) fun i => Iff.rfl
    rw [nextHopRef_store]
    split
    · next hk =>
        rw [St.nextHopRef, hk, ht, Option.bind_some]
        show (AList.lookup k.2 (t.nh_tunnels_.insert key _)).map _ = _
        rw [Table.lookup_insert_eq]
        split
        · next hkey => rw [hkey, hnh]; rfl
        · rfl
    · rfl
  given := h.given
  next_pos := h.next_pos

/-- A next hop for a key that has none. -/
theorem Counted.insert (h : Counted s uses) (ht : s.vxlan_tunnel_table_.lookup name = some t)
    (hnone : t.nh_tunnels_.lookup key = none) (nh : NextHopTunnel) :
    Counted (s.store name
      { s.asic with
        next_hops := s.asic.next_hops.insert s.asic.next nh, next := s.asic.next + 1 }
      { t with nh_tunnels_ := t.nh_tunnels_.insert key ⟨s.asic.next, 1⟩ })
      (bump uses name key 1) where
  count {name' u} hu key' := by
    rcases Table.lookup_insert_iff.mp hu with ⟨rfl, rfl⟩ | ⟨hne, hu⟩
    · have hcount := h.count ht key'
      show ((AList.lookup key' (t.nh_tunnels_.insert key _)).map _).getD 0 = _
      rw [Table.lookup_insert_eq]
      by_cases hkey : key' = key
      · subst hkey
        rw [hnone] at hcount
        rw [if_pos rfl, bump, if_pos ⟨rfl, rfl⟩, ← hcount]
        rfl
      · rw [if_neg hkey, bump, if_neg fun hand => hkey hand.2, hcount, add_zero]
    · rw [bump, if_neg fun hand => hne hand.1, add_zero]
      exact h.count hu key'
  pos {name' u key' nh'} hu hkey := by
    rcases Table.lookup_insert_iff.mp hu with ⟨rfl, rfl⟩ | ⟨-, hu⟩
    · rcases Table.lookup_insert_iff.mp hkey with ⟨rfl, rfl⟩ | ⟨-, hkey⟩
      · exact Int.one_pos
      · exact h.pos ht hkey
    · exact h.pos hu hkey
  owned := by
    refine h.owned.insert (k := (name, key)) (i := s.asic.next) ?_ h.given.not_mem (fun k => ?_)
      fun i => AList.mem_insert _
    · rw [St.nextHopRef, ht, Option.bind_some, hnone]
      rfl
    · obtain ⟨n, key'⟩ := k
      rw [nextHopRef_store]
      by_cases hn : n = name
      · subst hn
        rw [if_pos rfl]
        show (AList.lookup key' (t.nh_tunnels_.insert key _)).map _ = _
        rw [Table.lookup_insert_eq]
        by_cases hkey : key' = key
        · rw [if_pos hkey, if_pos (by rw [hkey])]
          rfl
        · rw [if_neg hkey, if_neg fun heq => hkey (Prod.mk.inj heq).2, St.nextHopRef, ht]
          rfl
      · rw [if_neg hn, if_neg fun heq => hn (Prod.mk.inj heq).1]
  given := h.given.insert ⟨h.next_pos, Nat.lt_succ_self _⟩ (Nat.le_succ _)
  next_pos := Nat.succ_pos _

/-- The last use of a next hop goes, and the next hop with it. -/
theorem Counted.erase (h : Counted s uses) (ht : s.vxlan_tunnel_table_.lookup name = some t)
    {nh : nh_tunnel_t} (hnh : t.nh_tunnels_.lookup key = some nh) (hone : nh.ref_count = 1) :
    Counted (s.store name
      { s.asic with next_hops := s.asic.next_hops.erase nh.nh_id }
      { t with nh_tunnels_ := t.nh_tunnels_.erase key }) (bump uses name key (-1)) where
  count {name' u} hu key' := by
    rcases Table.lookup_insert_iff.mp hu with ⟨rfl, rfl⟩ | ⟨hne, hu⟩
    · have hcount := h.count ht key'
      show ((AList.lookup key' (t.nh_tunnels_.erase key)).map _).getD 0 = _
      rw [Table.lookup_erase_eq]
      by_cases hkey : key' = key
      · subst hkey
        rw [hnh] at hcount
        rw [if_pos rfl, bump, if_pos ⟨rfl, rfl⟩, ← hcount]
        show (0 : ℤ) = nh.ref_count + -1
        omega
      · rw [if_neg hkey, bump, if_neg fun hand => hkey hand.2, hcount, add_zero]
    · rw [bump, if_neg fun hand => hne hand.1, add_zero]
      exact h.count hu key'
  pos {name' u key' nh'} hu hkey := by
    rcases Table.lookup_insert_iff.mp hu with ⟨rfl, rfl⟩ | ⟨-, hu⟩
    · exact h.pos ht (Table.lookup_erase_iff.mp hkey).2
    · exact h.pos hu hkey
  owned := by
    refine h.owned.erase (k := (name, key)) (i := nh.nh_id) ?_ (fun k => ?_)
      fun i => AList.mem_erase
    · rw [St.nextHopRef, ht, Option.bind_some, hnh]
      rfl
    · obtain ⟨n, key'⟩ := k
      rw [nextHopRef_store]
      by_cases hn : n = name
      · subst hn
        rw [if_pos rfl]
        show (AList.lookup key' (t.nh_tunnels_.erase key)).map _ = _
        rw [Table.lookup_erase_eq]
        by_cases hkey : key' = key
        · rw [if_pos hkey, if_pos (by rw [hkey])]
          rfl
        · rw [if_neg hkey, if_neg fun heq => hkey (Prod.mk.inj heq).2, St.nextHopRef, ht]
          rfl
      · rw [if_neg hn, if_neg fun heq => hn (Prod.mk.inj heq).1]
  given := h.given.erase
  next_pos := h.next_pos

/-! ### The calls of the VNET orch -/

/-- A next hop that is created, or counted once more; or the call fails and nothing is done. -/
theorem Counted.createNextHopTunnel (h : Counted s uses) (hname : name ∈ s.vxlan_tunnel_table_)
    (ok : SaiCall → Bool) (key : nh_key_t) :
    s.createNextHopTunnel ok name key = (s, .error .runtime_error) ∨
    ∃ s' nh_id, s.createNextHopTunnel ok name key = (s', .ok nh_id) ∧
      nh_id ≠ SAI_NULL_OBJECT_ID ∧ Counted s' (bump uses name key 1) ∧ SameTunnels s s' := by
  obtain ⟨t, ht⟩ := Option.isSome_iff_exists.mp (AList.lookup_isSome.mpr hname)
  unfold St.createNextHopTunnel
  rw [ht]
  dsimp only
  cases hnh : t.nh_tunnels_.lookup key with
  | some nh =>
    have href : s.nextHopRef (name, key) = some nh.nh_id := by
      rw [St.nextHopRef, ht, Option.bind_some, hnh]
      rfl
    have hne : nh.nh_id ≠ SAI_NULL_OBJECT_ID :=
      Nat.pos_iff_ne_zero.mp (h.given _ (h.owned.live_of href)).1
    have hget : t.getNextHop key = nh.nh_id := by rw [VxlanTunnel.getNextHop, hnh]; rfl
    have hinc : t.incNextHopRefCount key = { t with
        nh_tunnels_ := t.nh_tunnels_.insert key { nh with ref_count := nh.ref_count + 1 } } := by
      rw [VxlanTunnel.incNextHopRefCount, Table.update, hnh]
      rfl
    have hcounted := h.adjust ht hnh (n := nh.ref_count + 1) (by have := h.pos ht hnh; omega)
    rw [add_sub_cancel_left] at hcounted
    refine .inr ⟨_, nh.nh_id, by rw [hget, if_pos hne, hinc], hne, hcounted, ?_⟩
    exact SameTunnels.store ht rfl rfl
  | none =>
    have hget : t.getNextHop key = SAI_NULL_OBJECT_ID := by
      rw [VxlanTunnel.getNextHop, hnh]
      rfl
    rw [hget, if_neg (fun hne => hne rfl), Asic.create_nexthop_tunnel]
    cases hok : ok .create_next_hop with
    | false => exact .inl rfl
    | true =>
      have hupdate : t.updateNextHop key s.asic.next = { t with
          nh_tunnels_ := t.nh_tunnels_.insert key ⟨s.asic.next, 1⟩ } := by
        rw [VxlanTunnel.updateNextHop, hnh]
      refine .inr ⟨_, s.asic.next, ?_, Nat.pos_iff_ne_zero.mp h.next_pos,
        h.insert ht hnh ⟨key.ip_addr, t.ids_.tunnel_id, key.vni, key.mac_address⟩,
        SameTunnels.store ht rfl rfl⟩
      rw [if_pos rfl]
      dsimp only
      rw [hupdate]

theorem Counted.removeNextHopTunnel (h : Counted s uses)
    (ht : s.vxlan_tunnel_table_.lookup name = some t) {nh : nh_tunnel_t}
    (hnh : t.nh_tunnels_.lookup key = some nh)
    (hok : nh.ref_count = 1 → ok .remove_next_hop = true) :
    ∃ s', s.removeNextHopTunnel ok name key = (s', .ok true) ∧
      Counted s' (bump uses name key (-1)) ∧ SameTunnels s s' := by
  have hpos := h.pos ht hnh
  unfold St.removeNextHopTunnel VxlanTunnel.removeNextHop
  rw [ht]
  dsimp only
  rw [hnh]
  dsimp only
  by_cases hone : nh.ref_count = 1
  · have href : s.nextHopRef (name, key) = some nh.nh_id := by
      rw [St.nextHopRef, ht, Option.bind_some, hnh]
      rfl
    rw [if_pos (by omega), Asic.remove_next_hop, if_pos ⟨hok hone, h.owned.live_of href⟩]
    have herase : (t.nh_tunnels_.insert key { nh with ref_count := nh.ref_count - 1 }).erase key =
        t.nh_tunnels_.erase key := by
      refine AList.ext ?_
      show (List.kinsert key _ t.nh_tunnels_.entries).kerase key = t.nh_tunnels_.entries.kerase key
      exact List.kerase_cons_eq (by rfl)
    dsimp only
    rw [herase]
    exact ⟨_, rfl, h.erase ht hnh hone, SameTunnels.store ht rfl rfl⟩
  · rw [if_neg (by omega)]
    have hcounted := h.adjust ht hnh (n := nh.ref_count - 1) (by omega)
    rw [show nh.ref_count - 1 - nh.ref_count = -1 by omega] at hcounted
    exact ⟨_, rfl, hcounted, SameTunnels.store ht rfl rfl⟩

/-- Preparing a tunnel for a VNET leaves the next hops. -/
theorem leaves_activate (ok : SaiCall → Bool) (map : tunnel_map_type_t) (encap_ttl : ℕ) (a : Asic)
    (t : VxlanTunnel) :
    Leaves a (t.activate ok map encap_ttl a).1 ∧
    (t.activate ok map encap_ttl a).2.nh_tunnels_ = t.nh_tunnels_ := by
  unfold VxlanTunnel.activate
  split
  · exact ⟨Leaves.refl a, rfl⟩
  · cases map with
    | TUNNEL_MAP_T_VIRTUAL_ROUTER => exact leaves_createTunnel ..
    | TUNNEL_MAP_T_BRIDGE => exact leaves_createTunnel ..
    | TUNNEL_MAP_T_VLAN => exact ⟨Leaves.refl a, rfl⟩

theorem Counted.createVxlanTunnelMap (h : Counted s uses) (ok : SaiCall → Bool) (name : String)
    (map : tunnel_map_type_t) (vni encap decap encap_ttl : ℕ) :
    Counted (s.createVxlanTunnelMap ok name map vni encap decap encap_ttl).1 uses := by
  unfold St.createVxlanTunnelMap
  cases ht : s.vxlan_tunnel_table_.lookup name with
  | none => exact h
  | some t =>
    obtain ⟨hleaves, hnh⟩ := leaves_activate ok map encap_ttl s.asic t
    dsimp only
    split
    · exact h.store ht hleaves hnh
    next hencap =>
    split
    · exact h.store ht (hleaves.trans (leaves_create_entry hencap)) hnh
    next hdecap =>
    exact h.store ht
      ((hleaves.trans (leaves_create_entry hencap)).trans (leaves_create_entry hdecap)) hnh

theorem Counted.leave (h : Counted s uses) (ha : Leaves s.asic a) :
    Counted { s with asic := a } uses where
  count := h.count
  pos := h.pos
  owned := h.owned.congr (fun _ => rfl) fun i => by rw [← ha.next_hops]
  given := by
    show a.next_hops.Given a.next
    rw [ha.next_hops]
    exact h.given.mono ha.next_le
  next_pos := h.next_pos.trans_le ha.next_le

/-- What is thrown for an entry is caught. -/
theorem caught_remove_entry {e : Thrown} (h : a.remove_tunnel_map_entry b i = .error e) :
    caught e = .ok false := by
  unfold Asic.remove_tunnel_map_entry at h
  split at h
  · cases h
  split at h
  · cases h
  · obtain rfl := Except.error.inj h
    rfl

/-- The removal of a map leaves the tunnels and the next hops, and throws nothing. -/
theorem Counted.removeVxlanTunnelMap (h : Counted s uses) (ok : SaiCall → Bool) (name : String)
    (vni : ℕ) :
    ∃ s' b, s.removeVxlanTunnelMap ok name vni = (s', .ok b) ∧ Counted s' uses ∧
      s'.vxlan_tunnel_table_ = s.vxlan_tunnel_table_ := by
  unfold St.removeVxlanTunnelMap
  split
  · exact ⟨_, _, rfl, h, rfl⟩
  split
  · exact ⟨_, _, rfl, h, rfl⟩
  dsimp only
  split
  · next he => exact ⟨s, false, by rw [caught_remove_entry he], h, rfl⟩
  next hencap =>
  split
  · next he =>
      exact ⟨_, false, by rw [caught_remove_entry he], h.leave (leaves_remove_entry hencap), rfl⟩
  next hdecap =>
  exact ⟨_, _, rfl, h.leave ((leaves_remove_entry hencap).trans (leaves_remove_entry hdecap)), rfl⟩

/-- A tunnel without uses. -/
theorem Counted.addTunnel (h : Counted s uses) (src_ip : IpAddress) (dst_ip : Option IpAddress)
    (hunused : name ∉ s.vxlan_tunnel_table_ → ∀ key, uses name key = 0) :
    Counted (s.addTunnel name src_ip dst_ip).1 uses := by
  rcases St.addTunnel_cases s name src_ip dst_ip with heq | ⟨hnew, dst, heq⟩
  · rw [heq]
    exact h
  · rw [heq]
    have hnone := AList.lookup_eq_none.mpr hnew
    exact {
      count := fun {n u} hu key => by
        rcases Table.lookup_insert_iff.mp hu with ⟨rfl, rfl⟩ | ⟨-, hu⟩
        · exact (hunused hnew key).symm
        · exact h.count hu key
      pos := fun {n u key nh} hu hkey => by
        rcases Table.lookup_insert_iff.mp hu with ⟨-, rfl⟩ | ⟨-, hu⟩
        · cases hkey
        · exact h.pos hu hkey
      owned := h.owned.congr (fun k => by
        rw [nextHopRef_store]
        split
        · next hk => rw [St.nextHopRef, hk, hnone]; rfl
        · rfl) fun i => Iff.rfl
      given := h.given
      next_pos := h.next_pos }

end Orchagent.Vxlan
