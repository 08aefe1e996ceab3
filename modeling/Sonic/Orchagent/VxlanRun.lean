/-
Orchagent/VxlanRun.lean

Runs of the VXLAN orchs.

The objects of the tunnels should be exactly those that the orchs refer to (`Exact`), whatever
calls fail.  What breaks this is a creation that fails halfway, a second creation of a tunnel
that is active, a map entry that replaces or outlives another, and the removal of a tunnel that
was ever created, which leaves its maps.  Histories without these (`Safe`) keep it.  The objects
and who refers to them are `Refs`, kept by each SAI call on its own; the creation of a tunnel is
four of these calls.
-/
import Sonic.Lib.Transition
import Sonic.Orchagent.VxlanOrch

namespace Orchagent.Vxlan

open Transition

/-! ### Histories -/

/-- A task, or a call of the VNET orch, with the outcomes of its SAI calls. -/
inductive Event where
  | addTunnel (name : String) (src_ip : IpAddress) (dst_ip : Option IpAddress)
  | delTunnel (ok : SaiCall → Bool) (name : String)
  | addTunnelMap (ok : SaiCall → Bool) (key : FullKey) (vlan : Option ℕ) (vni : ℕ)
  | delTunnelMap (ok : SaiCall → Bool) (key : FullKey)
  | addVrfMap (ok : SaiCall → Bool) (key : FullKey) (vni : ℕ) (vrf_name : String)
      (vrf : Option sai_object_id_t)
  | delVrfMap (key : FullKey)
  | createVxlanTunnelMap (ok : SaiCall → Bool) (name : String) (map : tunnel_map_type_t) (vni : ℕ)
      (encap decap : sai_object_id_t) (encap_ttl : ℕ)
  | removeVxlanTunnelMap (ok : SaiCall → Bool) (name : String) (vni : ℕ)

def St.run (s : St) : Event → St × Except Thrown Bool
  | .addTunnel name src_ip dst_ip => s.addTunnel name src_ip dst_ip
  | .delTunnel ok name => s.delTunnel ok name
  | .addTunnelMap ok key vlan vni => s.addTunnelMap ok key vlan vni
  | .delTunnelMap ok key => s.delTunnelMap ok key
  | .addVrfMap ok key vni vrf_name vrf => s.addVrfMap ok key vni vrf_name vrf
  | .delVrfMap key => s.delVrfMap key
  | .createVxlanTunnelMap ok name map vni encap decap encap_ttl =>
    s.createVxlanTunnelMap ok name map vni encap decap encap_ttl
  | .removeVxlanTunnelMap ok name vni => s.removeVxlanTunnelMap ok name vni

def St.step (s : St) (e : Event) : St := (s.run e).1

/-! ### References -/

/-- An identifier that is not null. -/
def oid (id : sai_object_id_t) : Option sai_object_id_t :=
  if id = SAI_NULL_OBJECT_ID then none else some id

/-- What may refer to an entry of a map. -/
inductive EntryRef where
  | mapper (name : String) (vni : ℕ) (encap : Bool)
  | vlan (key : FullKey)
  | vrf (key : FullKey) (encap : Bool)
  deriving DecidableEq

namespace St

/-- The map of a tunnel for a direction. -/
def mapRef (s : St) (k : String × Bool) : Option sai_object_id_t :=
  (s.vxlan_tunnel_table_.lookup k.1).bind fun t =>
    oid (if k.2 then t.ids_.tunnel_encap_id else t.ids_.tunnel_decap_id)

def tunnelRef (s : St) (name : String) : Option sai_object_id_t :=
  (s.vxlan_tunnel_table_.lookup name).bind fun t => oid t.ids_.tunnel_id

def termRef (s : St) (name : String) : Option sai_object_id_t :=
  (s.vxlan_tunnel_table_.lookup name).bind fun t => oid t.ids_.tunnel_term_id

def entryRef (s : St) : EntryRef → Option sai_object_id_t
  | .mapper name vni encap => (s.vxlan_tunnel_table_.lookup name).bind fun t =>
    (t.tunnel_map_entries_.lookup vni).map fun ids => if encap then ids.1 else ids.2
  | .vlan key => s.vxlan_tunnel_map_table_.lookup key
  | .vrf key encap => (s.vxlan_vrf_table_.lookup key).map fun entry =>
    if encap then entry.encap_id else entry.decap_id

end St

/-- The objects are those that are referred to, by one reference each. -/
structure Refs (s : St) : Prop where
  maps : Owned s.mapRef (· ∈ s.asic.tunnel_maps)
  tunnels : Owned s.tunnelRef (· ∈ s.asic.tunnels)
  terms : Owned s.termRef (· ∈ s.asic.terms)
  entries : Owned s.entryRef (· ∈ s.asic.map_entries)

/-- The objects are those that are referred to, and a tunnel that is not active has none. -/
structure Exact (s : St) : Prop extends Refs s where
  inactive : ∀ {name t}, s.vxlan_tunnel_table_.lookup name = some t → t.active_ = false →
    t.ids_ = ⟨0, 0, 0, 0⟩

/-- What a step does to the tunnels besides: an active one is not created again, a VNI whose map
is removed is forgotten, and nothing is left of a tunnel that is removed. -/
structure Tidy (s : St) (e : Event) : Prop where
  once : ∀ {name t t'}, s.vxlan_tunnel_table_.lookup name = some t → t.active_ = true →
    (s.step e).vxlan_tunnel_table_.lookup name = some t' →
    t'.ids_ = t.ids_ ∧ t'.active_ = true
  forgotten : ∀ {ok name vni t}, e = .removeVxlanTunnelMap ok name vni → (s.run e).2 = .ok true →
    (s.step e).vxlan_tunnel_table_.lookup name = some t → vni ∉ t.tunnel_map_entries_
  removed : ∀ {ok name}, e = .delTunnel ok name → name ∈ s.vxlan_tunnel_table_ →
    name ∉ (s.step e).vxlan_tunnel_table_ →
    (∀ encap i, s.mapRef (name, encap) = some i → i ∉ (s.step e).asic.tunnel_maps) ∧
    (∀ i, s.tunnelRef name = some i → i ∉ (s.step e).asic.tunnels) ∧
    (∀ i, s.termRef name = some i → i ∉ (s.step e).asic.terms) ∧
    (∀ vni encap i, s.entryRef (.mapper name vni encap) = some i →
      i ∉ (s.step e).asic.map_entries) ∧
    (∀ entry i, s.entryRef (.vlan (name, entry)) = some i → i ∉ (s.step e).asic.map_entries) ∧
    ∀ entry encap i, s.entryRef (.vrf (name, entry) encap) = some i →
      i ∉ (s.step e).asic.map_entries

/-! ### Safe steps -/

/-- The calls that create a tunnel all succeed, or the first one fails. -/
def AllOrNone (ok : SaiCall → Bool) (encap : MAP_T) : Prop :=
  ok .create_decap_map = false ∨
    ((encap ≠ .MAP_TO_INVALID → ok .create_encap_map = true) ∧ ok .create_tunnel = true ∧
      ok .create_term = true)

def Safe (s : St) : Event → Prop
  | .addTunnel _ _ _ => True
  | .delTunnel ok name => ∀ t, s.vxlan_tunnel_table_.lookup name = some t →
      (t.ids_.tunnel_term_id ≠ SAI_NULL_OBJECT_ID ∧ ok .remove_term = false) ∨
      (t.active_ = false ∧ ∀ entry, (name, entry) ∉ s.vxlan_tunnel_map_table_)
  | .addTunnelMap ok key vlan vni => ∀ t, s.vxlan_tunnel_table_.lookup key.1 = some t →
      vlan.isSome → vni % 2 ^ 32 < 2 ^ 24 → t.active_ = false → AllOrNone ok .MAP_TO_INVALID
  | .delTunnelMap _ _ => True
  | .addVrfMap ok key vni _ vrf => ∀ t, s.vxlan_tunnel_table_.lookup key.1 = some t →
      vni % 2 ^ 32 < 2 ^ 24 → key ∉ s.vxlan_vrf_table_ → vrf.isSome →
      t.active_ = false ∧ AllOrNone ok .VRID_TO_VNI ∧
      (ok .create_decap_map = true → ok .create_encap_entry = true → ok .create_decap_entry = true)
  | .delVrfMap _ => True
  | .createVxlanTunnelMap ok name map vni _ _ _ => ∀ t,
      s.vxlan_tunnel_table_.lookup name = some t →
      (t.active_ = false → map ≠ .TUNNEL_MAP_T_VLAN → AllOrNone ok .VRID_TO_VNI) ∧
      ((if t.active_ then t.tunnel_map_.1 ≠ .MAP_TO_INVALID
        else map ≠ .TUNNEL_MAP_T_VLAN ∧ ok .create_decap_map = true) →
        ok .create_encap_entry = true →
        ok .create_decap_entry = true ∧ vni ∉ t.tunnel_map_entries_)
  | .removeVxlanTunnelMap ok name vni => ∀ t, s.vxlan_tunnel_table_.lookup name = some t →
      t.active_ = true → vni ∈ t.tunnel_map_entries_ → ok .remove_encap_entry = false

/-! ### The invariant -/

/-- The references are exact, and a tunnel that is not active has neither objects nor maps. -/
structure Inv (s : St) : Prop extends Refs s where
  inactive : ∀ {name t}, s.vxlan_tunnel_table_.lookup name = some t → t.active_ = false →
    t.ids_ = ⟨0, 0, 0, 0⟩ ∧ t.tunnel_map_ = (.MAP_TO_INVALID, .MAP_TO_INVALID) ∧
    ∀ vni, t.tunnel_map_entries_.lookup vni = none
  decap : ∀ {name t}, s.vxlan_tunnel_table_.lookup name = some t → t.active_ = true →
    t.tunnel_map_.2 ≠ .MAP_TO_INVALID
  vrf_active : ∀ {key}, key ∈ s.vxlan_vrf_table_ →
    ∃ t, s.vxlan_tunnel_table_.lookup key.1 = some t ∧ t.active_ = true

/-- The identifiers that are in use have been given. -/
structure Fresh (a : Asic) : Prop where
  next_pos : 0 < a.next
  maps : a.tunnel_maps.Given a.next
  tunnels : a.tunnels.Given a.next
  terms : a.terms.Given a.next
  entries : a.map_entries.Given a.next

variable {s : St} {a : Asic} {name : String} {t t' : VxlanTunnel} {ok : SaiCall → Bool}

theorem Fresh.next_given (h : Fresh a) : 0 < a.next ∧ a.next < a.next + 1 :=
  ⟨h.next_pos, Nat.lt_succ_self _⟩

theorem oid_pos {i : sai_object_id_t} (h : 0 < i) : oid i = some i :=
  if_neg (Nat.pos_iff_ne_zero.mp h)

theorem oid_null : oid SAI_NULL_OBJECT_ID = none := rfl

/-- A tunnel that is stored is the one that is looked up. -/
theorem bind_store {β : Type} (f : VxlanTunnel → Option β) (n : String) :
    ((s.store name a t).vxlan_tunnel_table_.lookup n).bind f =
      if n = name then f t else (s.vxlan_tunnel_table_.lookup n).bind f := by
  show ((s.vxlan_tunnel_table_.insert name t).lookup n).bind f = _
  rw [Table.lookup_insert_eq]
  split <;> rfl

theorem store_store {a' : Asic} : (s.store name a t).store name a' t' = s.store name a' t' := by
  show St.mk ((s.vxlan_tunnel_table_.insert name t).insert name t') _ _ _ _ = _
  rw [AList.insert_insert]
  rfl

theorem lookup_store : (s.store name a t).vxlan_tunnel_table_.lookup name = some t :=
  AList.lookup_insert _

/-- What a tunnel says is as before when the tunnel that is stored says it too. -/
theorem bind_store_same {β : Type} {f : VxlanTunnel → Option β}
    (ht : s.vxlan_tunnel_table_.lookup name = some t) (hf : f t' = f t) (n : String) :
    ((s.store name a t').vxlan_tunnel_table_.lookup n).bind f =
      (s.vxlan_tunnel_table_.lookup n).bind f := by
  rw [bind_store]
  split
  · next heq => rw [heq, ht, hf]; rfl
  · rfl

/-- A tunnel is stored that has other identifiers only where it says so. -/
theorem Refs.entries_store (h : Refs s) (ht : s.vxlan_tunnel_table_.lookup name = some t)
    (hent : t'.tunnel_map_entries_ = t.tunnel_map_entries_)
    (ha : ∀ i, i ∈ a.map_entries ↔ i ∈ s.asic.map_entries) :
    Owned (s.store name a t').entryRef (· ∈ a.map_entries) := by
  refine h.entries.congr (fun k => ?_) ha
  cases k with
  | mapper n vni encap => exact bind_store_same ht (by rw [hent]) n
  | vlan key => rfl
  | vrf key encap => rfl

/-- A tunnel is stored with the identifiers that it had. -/
theorem Refs.store (h : Refs s) (ht : s.vxlan_tunnel_table_.lookup name = some t)
    (hids : t'.ids_ = t.ids_) (hmaps : a.tunnel_maps = s.asic.tunnel_maps)
    (htunnels : a.tunnels = s.asic.tunnels) (hterms : a.terms = s.asic.terms)
    (hentries : Owned (s.store name a t').entryRef (· ∈ a.map_entries)) :
    Refs (s.store name a t') := by
  refine ⟨h.maps.congr (fun k => ?_) fun i => ?_, h.tunnels.congr (fun n => ?_) fun i => ?_,
    h.terms.congr (fun n => ?_) fun i => ?_, hentries⟩
  · exact bind_store_same ht (by rw [hids]) k.1
  · show i ∈ a.tunnel_maps ↔ _
    rw [hmaps]
  · exact bind_store_same ht (by rw [hids]) n
  · show i ∈ a.tunnels ↔ _
    rw [htunnels]
  · exact bind_store_same ht (by rw [hids]) n
  · show i ∈ a.terms ↔ _
    rw [hterms]

/-! ### The objects of a tunnel -/

/-- A tunnel that has no objects gets new ones. -/
theorem Refs.create (h : Refs s) (ht : s.vxlan_tunnel_table_.lookup name = some t)
    (hids : t.ids_ = ⟨0, 0, 0, 0⟩) {ids : tunnel_ids_t}
    (hmaps : Owned (fun k => if k.1 = name then
        oid (if k.2 then ids.tunnel_encap_id else ids.tunnel_decap_id) else s.mapRef k)
      (· ∈ a.tunnel_maps))
    (htunnel : 0 < ids.tunnel_id ∧ ids.tunnel_id ∉ s.asic.tunnels)
    (htunnels : ∀ i, i ∈ a.tunnels ↔ i = ids.tunnel_id ∨ i ∈ s.asic.tunnels)
    (hterm : 0 < ids.tunnel_term_id ∧ ids.tunnel_term_id ∉ s.asic.terms)
    (hterms : ∀ i, i ∈ a.terms ↔ i = ids.tunnel_term_id ∨ i ∈ s.asic.terms)
    (hentries : ∀ i, i ∈ a.map_entries ↔ i ∈ s.asic.map_entries) {maps : MAP_T × MAP_T} :
    Refs (s.store name a { t with ids_ := ids, active_ := true, tunnel_map_ := maps }) := by
  have hnone : ∀ {f : VxlanTunnel → Option sai_object_id_t}, f t = none →
      (s.vxlan_tunnel_table_.lookup name).bind f = none := by
    intro f hf
    rw [ht, Option.bind_some, hf]
  refine ⟨hmaps.congr (fun k => ?_) fun _ => Iff.rfl, ?_, ?_, h.entries_store ht rfl hentries⟩
  · exact bind_store _ k.1
  · refine h.tunnels.insert (hnone (by rw [hids]; rfl)) htunnel.2 (fun n => ?_) htunnels
    rw [St.tunnelRef, bind_store, oid_pos htunnel.1]
    rfl
  · refine h.terms.insert (hnone (by rw [hids]; rfl)) hterm.2 (fun n => ?_) hterms
    rw [St.termRef, bind_store, oid_pos hterm.1]
    rfl

/-- The maps of a tunnel that has none. -/
theorem Refs.create_maps (h : Refs s) (hf : Fresh s.asic)
    (ht : s.vxlan_tunnel_table_.lookup name = some t) (hids : t.ids_ = ⟨0, 0, 0, 0⟩)
    (decap encap : MAP_T) :
    Owned (fun k => if k.1 = name then oid (if k.2 then SAI_NULL_OBJECT_ID else s.asic.next)
        else s.mapRef k) (· ∈ s.asic.tunnel_maps.insert s.asic.next decap) ∧
    Owned (fun k => if k.1 = name then oid (if k.2 then s.asic.next + 1 else s.asic.next)
        else s.mapRef k)
      (· ∈ (s.asic.tunnel_maps.insert s.asic.next decap).insert (s.asic.next + 1) encap) := by
  have hnone : ∀ b, s.mapRef (name, b) = none := by
    intro b
    rw [St.mapRef, ht, Option.bind_some, hids]
    cases b <;> rfl
  have hdecap : Owned (fun k => if k = (name, false) then some s.asic.next else s.mapRef k)
      (· ∈ s.asic.tunnel_maps.insert s.asic.next decap) :=
    h.maps.insert (hnone false) hf.maps.not_mem (fun _ => rfl) fun i => AList.mem_insert _
  refine ⟨hdecap.congr (fun k => ?_) fun _ => Iff.rfl, ?_⟩
  · obtain ⟨n, b⟩ := k
    by_cases hn : n = name
    · subst hn
      cases b <;> simp [oid_pos hf.next_pos, oid_null, hnone]
    · rw [if_neg hn, if_neg fun heq => hn (Prod.mk.inj heq).1]
  · have hnew : s.asic.next + 1 ∉ s.asic.tunnel_maps.insert s.asic.next decap := fun hmem =>
      Nat.lt_irrefl _ ((hf.maps.insert hf.next_given (Nat.le_succ _)) _ hmem).2
    refine hdecap.insert (k := (name, true)) ?_ hnew (fun k => ?_) fun i => AList.mem_insert _
    · rw [if_neg (by simp), hnone]
    · obtain ⟨n, b⟩ := k
      by_cases hn : n = name
      · subst hn
        cases b <;> simp [oid_pos hf.next_pos, oid_pos (Nat.succ_pos _)]
      · rw [if_neg hn, if_neg fun heq => hn (Prod.mk.inj heq).1,
          if_neg fun heq => hn (Prod.mk.inj heq).1]

/-- A creation that fails at its first call leaves nothing. -/
theorem createTunnel_none (hids : t.ids_ = ⟨0, 0, 0, 0⟩) {encap decap : MAP_T}
    (hdecap : decap ≠ .MAP_TO_INVALID) (hok : ok .create_decap_map = false) (encap_ttl : ℕ) :
    t.createTunnel ok encap decap encap_ttl a = (a, t) := by
  unfold VxlanTunnel.createTunnel Asic.create_tunnel_map
  simp only [if_neg hdecap, hok, Bool.false_eq_true, if_false]
  obtain ⟨src, dst, active, ids, maps, entries, nhs⟩ := t
  obtain rfl : ids = ⟨0, 0, 0, 0⟩ := hids
  rfl

/-- A creation whose calls all succeed. -/
theorem Refs.createTunnel (h : Refs s) (hf : Fresh s.asic)
    (ht : s.vxlan_tunnel_table_.lookup name = some t) (hids : t.ids_ = ⟨0, 0, 0, 0⟩)
    {encap decap : MAP_T} (hdecap : decap ≠ .MAP_TO_INVALID) (hok : ok .create_decap_map = true)
    (hrest : (encap ≠ .MAP_TO_INVALID → ok .create_encap_map = true) ∧ ok .create_tunnel = true ∧
      ok .create_term = true) (encap_ttl : ℕ) :
    ∃ a ids, t.createTunnel ok encap decap encap_ttl s.asic =
        (a, { t with ids_ := ids, active_ := true, tunnel_map_ := (encap, decap) }) ∧
      Refs (s.store name a { t with
        ids_ := ids, active_ := true, tunnel_map_ := (encap, decap) }) ∧
      Fresh a ∧ a.map_entries = s.asic.map_entries := by
  obtain ⟨hencap_ok, htunnel_ok, hterm_ok⟩ := hrest
  have hnew : ∀ {V : Type} {table : Table sai_object_id_t V} (k : ℕ), table.Given s.asic.next →
      s.asic.next + k ∉ table := fun k hgiven hmem =>
    Nat.not_lt.mpr (Nat.le_add_right _ k) (hgiven _ hmem).2
  have hle : ∀ k, s.asic.next ≤ s.asic.next + k := fun k => Nat.le_add_right _ k
  have hlt : ∀ {k k'}, k < k' → 0 < s.asic.next + k ∧ s.asic.next + k < s.asic.next + k' :=
    fun hk => ⟨Nat.add_pos_left hf.next_pos _, Nat.add_lt_add_left hk _⟩
  obtain ⟨hdecap_map, hmaps⟩ := h.create_maps hf ht hids decap encap
  unfold VxlanTunnel.createTunnel Asic.create_tunnel_map Asic.create_tunnel
    Asic.create_tunnel_termination
  by_cases hencap : encap = .MAP_TO_INVALID
  · -- the map of the decapsulation only
    simp only [if_neg hdecap, hok, if_true, if_pos hencap, htunnel_ok, hterm_ok]
    refine ⟨_, _, rfl, ?_, ?_, rfl⟩
    · refine h.create ht hids hdecap_map ⟨Nat.succ_pos _, hnew 1 hf.tunnels⟩ (fun i => ?_)
        ⟨Nat.succ_pos _, hnew 2 hf.terms⟩ (fun i => ?_) fun i => ?_
      · exact AList.mem_insert _
      · exact AList.mem_insert _
      · exact Iff.rfl
    · exact {
        next_pos := Nat.succ_pos _
        maps := hf.maps.insert (hlt (by decide : 0 < 3)) (hle 3)
        tunnels := hf.tunnels.insert (hlt (by decide : 1 < 3)) (hle 3)
        terms := hf.terms.insert (hlt (by decide : 2 < 3)) (hle 3)
        entries := hf.entries.mono (hle 3) }
  · simp only [if_neg hdecap, hok, if_true, if_neg hencap, hencap_ok hencap, htunnel_ok, hterm_ok]
    refine ⟨_, _, rfl, ?_, ?_, rfl⟩
    · refine h.create ht hids hmaps ⟨Nat.succ_pos _, hnew 2 hf.tunnels⟩ (fun i => ?_)
        ⟨Nat.succ_pos _, hnew 3 hf.terms⟩ (fun i => ?_) fun i => ?_
      · exact AList.mem_insert _
      · exact AList.mem_insert _
      · exact Iff.rfl
    · exact {
        next_pos := Nat.succ_pos _
        maps := (hf.maps.insert (hlt (by decide : 0 < 4)) (hle 4)).insert
          (hlt (by decide : 1 < 4)) (Nat.le_refl _)
        tunnels := hf.tunnels.insert (hlt (by decide : 2 < 4)) (hle 4)
        terms := hf.terms.insert (hlt (by decide : 3 < 4)) (hle 4)
        entries := hf.entries.mono (hle 4) }

/-! ### Preparing a tunnel -/

/-- A tunnel that is active is as it was. -/
def Same (t t' : VxlanTunnel) : Prop := t.active_ = true → t'.ids_ = t.ids_ ∧ t'.active_ = true

theorem Inv.store (h : Inv s) (ht : s.vxlan_tunnel_table_.lookup name = some t)
    (hrefs : Refs (s.store name a t'))
    (hinactive : t'.active_ = false → t'.ids_ = ⟨0, 0, 0, 0⟩ ∧
      t'.tunnel_map_ = (.MAP_TO_INVALID, .MAP_TO_INVALID) ∧
      ∀ vni, t'.tunnel_map_entries_.lookup vni = none)
    (hdecap : t'.active_ = true → t'.tunnel_map_.2 ≠ .MAP_TO_INVALID)
    (hsame : Same t t') : Inv (s.store name a t') := by
  refine { hrefs with
    inactive := fun {n u} hu hoff => ?_
    decap := fun {n u} hu hon => ?_
    vrf_active := fun {key} hkey => ?_ }
  · rcases Table.lookup_insert_iff.mp hu with ⟨-, rfl⟩ | ⟨-, hu⟩
    · exact hinactive hoff
    · exact h.inactive hu hoff
  · rcases Table.lookup_insert_iff.mp hu with ⟨-, rfl⟩ | ⟨-, hu⟩
    · exact hdecap hon
    · exact h.decap hu hon
  · obtain ⟨u, hu, hon⟩ := h.vrf_active hkey
    by_cases hn : key.1 = name
    · rw [hn, ht] at hu
      obtain rfl := Option.some.inj hu
      exact ⟨t', by rw [hn]; exact lookup_store, (hsame hon).2⟩
    · exact ⟨u, Table.lookup_insert_iff.mpr (.inr ⟨hn, hu⟩), hon⟩

/-- The tunnel of a task once it has been created, if it had to be and could be. -/
structure Prepared (ok : SaiCall → Bool) (s : St) (name : String) (t : VxlanTunnel) (a : Asic)
    (t' : VxlanTunnel) : Prop where
  inv : Inv (s.store name a t')
  fresh : Fresh a
  same : Same t t'
  own_entries : t'.tunnel_map_entries_ = t.tunnel_map_entries_
  created : t'.active_ = t.active_ ∨ ok .create_decap_map = true

theorem Prepared.refl (h : Inv s) (hf : Fresh s.asic)
    (ht : s.vxlan_tunnel_table_.lookup name = some t) : Prepared ok s name t s.asic t where
  inv := h.store ht (h.toRefs.store ht rfl rfl rfl rfl (h.entries_store ht rfl fun _ => Iff.rfl))
    (h.inactive ht) (h.decap ht) fun hon => ⟨rfl, hon⟩
  fresh := hf
  same := fun hon => ⟨rfl, hon⟩
  own_entries := rfl
  created := .inl rfl

theorem Prepared.create (h : Inv s) (hf : Fresh s.asic)
    (ht : s.vxlan_tunnel_table_.lookup name = some t) (hoff : t.active_ = false)
    (encap decap : MAP_T) (hdecap : decap ≠ .MAP_TO_INVALID) (hok : AllOrNone ok encap)
    (encap_ttl : ℕ) :
    Prepared ok s name t (t.createTunnel ok encap decap encap_ttl s.asic).1
      (t.createTunnel ok encap decap encap_ttl s.asic).2 := by
  obtain ⟨hids, -, hnone⟩ := h.inactive ht hoff
  cases hfirst : ok .create_decap_map with
  | false =>
    rw [createTunnel_none hids hdecap hfirst]
    exact Prepared.refl h hf ht
  | true =>
    have hrest := hok.resolve_left (by rw [hfirst]; exact Bool.noConfusion)
    obtain ⟨a', ids, heq, hrefs, hfresh, -⟩ :=
      h.toRefs.createTunnel hf ht hids hdecap hfirst hrest encap_ttl
    rw [heq]
    have hsame : Same t { t with ids_ := ids, active_ := true, tunnel_map_ := (encap, decap) } :=
      fun hon => by
        rw [hoff] at hon
        cases hon
    exact ⟨h.store ht hrefs nofun (fun _ => hdecap) hsame, hfresh, hsame, rfl, .inr hfirst⟩

/-! ### Entries -/

/-- An entry of a map is created, or nothing is. -/
theorem create_entry {b : Bool} {map_t : MAP_T} {map_id vni vlan_id obj_id : ℕ} {encap : Bool}
    {r : Except Thrown (sai_object_id_t × Asic)}
    (h : a.create_tunnel_map_entry b map_t map_id vni vlan_id obj_id encap = r) :
    (∃ e, r = .error e ∧ (map_t = .MAP_TO_INVALID ∨ b = false)) ∨
    (map_t ≠ .MAP_TO_INVALID ∧ b = true ∧ ∃ entry, r = .ok (a.next, { a with
      map_entries := a.map_entries.insert a.next entry, next := a.next + 1 })) := by
  unfold Asic.create_tunnel_map_entry at h
  split at h
  · next hmap => exact .inl ⟨_, h.symm, .inl hmap⟩
  · next hmap =>
      cases b with
      | false => exact .inl ⟨_, h.symm, .inr rfl⟩
      | true => exact .inr ⟨hmap, rfl, _, h.symm⟩

theorem Fresh.entry (h : Fresh a) (entry : MapEntry) : Fresh { a with
    map_entries := a.map_entries.insert a.next entry, next := a.next + 1 } where
  next_pos := Nat.succ_pos _
  maps := h.maps.mono (Nat.le_succ _)
  tunnels := h.tunnels.mono (Nat.le_succ _)
  terms := h.terms.mono (Nat.le_succ _)
  entries := h.entries.insert h.next_given (Nat.le_succ _)

/-- The two entries of a VNI of a tunnel that has none for it. -/
theorem Inv.mapper (h : Inv s) (hf : Fresh s.asic)
    (ht : s.vxlan_tunnel_table_.lookup name = some t) (hon : t.active_ = true) {vni : ℕ}
    (hvni : t.tunnel_map_entries_.lookup vni = none) (entry entry' : MapEntry) :
    Inv (s.store name
      { s.asic with
        map_entries :=
          (s.asic.map_entries.insert s.asic.next entry).insert (s.asic.next + 1) entry'
        next := s.asic.next + 1 + 1 }
      (t.insertMapperEntry s.asic.next (s.asic.next + 1) vni)) := by
  have hnone : ∀ encap, s.entryRef (.mapper name vni encap) = none := by
    intro encap
    show (s.vxlan_tunnel_table_.lookup name).bind _ = none
    rw [ht, Option.bind_some, hvni]
    rfl
  have hnew : s.asic.next + 1 ∉ s.asic.map_entries := fun hmem =>
    absurd (hf.entries _ hmem).2 (by omega)
  have hdecap : t.tunnel_map_.2 ≠ .MAP_TO_INVALID := h.decap ht hon
  refine h.store ht (h.toRefs.store ht rfl rfl rfl rfl ?_) (fun hoff => ?_)
    (fun _ => hdecap) fun _ => ⟨rfl, hon⟩
  · refine h.entries.insert_pair _ _ _ _ (hnone false) (hnone true) (by simp) hnew hf.entries.not_mem
      (Nat.succ_ne_self _) (fun k => ?_) fun i => ?_
    · cases k with
      | mapper n v encap =>
        rw [St.entryRef, bind_store]
        by_cases hn : n = name
        · subst hn
          rw [if_pos rfl]
          show ((t.tunnel_map_entries_.insert vni _).lookup v).map _ = _
          rw [Table.lookup_insert_eq]
          by_cases hv : v = vni
          · subst hv
            cases encap <;> simp
          · rw [if_neg hv, if_neg (by simp [hv]), if_neg (by simp [hv]), St.entryRef, ht]
            rfl
        · rw [if_neg hn, if_neg (by simp [hn]), if_neg (by simp [hn])]
          rfl
      | vlan key => simp [St.entryRef, St.store]
      | vrf key encap => simp [St.entryRef, St.store]
    · show i ∈ (s.asic.map_entries.insert s.asic.next entry).insert (s.asic.next + 1) entry' ↔ _
      rw [AList.mem_insert, AList.mem_insert]
  · have hoff : t.active_ = false := hoff
    rw [hon] at hoff
    cases hoff

/-- Entries that the tunnels do not keep. -/
theorem Inv.others (h : Inv s) {vlans : Table FullKey sai_object_id_t}
    {vrfs : Table FullKey vrf_map_entry_t} {vrf_tunnel : Table String sai_object_id_t}
    (hmaps : a.tunnel_maps = s.asic.tunnel_maps) (htunnels : a.tunnels = s.asic.tunnels)
    (hterms : a.terms = s.asic.terms)
    (hentries : Owned
      (St.entryRef ⟨s.vxlan_tunnel_table_, vlans, vrfs, vrf_tunnel, a⟩) (· ∈ a.map_entries))
    (hvrf : ∀ {key}, key ∈ vrfs →
      ∃ t, s.vxlan_tunnel_table_.lookup key.1 = some t ∧ t.active_ = true) :
    Inv ⟨s.vxlan_tunnel_table_, vlans, vrfs, vrf_tunnel, a⟩ where
  maps := h.maps.congr (fun _ => rfl) fun i => by rw [← hmaps]
  tunnels := h.tunnels.congr (fun _ => rfl) fun i => by rw [← htunnels]
  terms := h.terms.congr (fun _ => rfl) fun i => by rw [← hterms]
  entries := hentries
  inactive := h.inactive
  decap := h.decap
  vrf_active := hvrf

/-! ### The steps -/

/-- What is kept, and what a step is to do. -/
def Kept (s : St) (e : Event) : Prop :=
  (Inv (s.step e) ∧ Fresh (s.step e).asic) ∧ Tidy s e

/-- The tunnels are as they were. -/
theorem Tidy.of_same {e : Event}
    (h : ∀ {n t'}, (s.step e).vxlan_tunnel_table_.lookup n = some t' →
      ∀ {t}, s.vxlan_tunnel_table_.lookup n = some t → Same t t')
    (hforgotten : ∀ ok n vni, e ≠ .removeVxlanTunnelMap ok n vni)
    (hremoved : ∀ ok n, e ≠ .delTunnel ok n) : Tidy s e where
  once ht hon ht' := h ht' ht hon
  forgotten he := absurd he (hforgotten _ _ _)
  removed he := absurd he (hremoved _ _)

/-- The other tunnels are left, and the one that is stored is as it was. -/
theorem Same.stored (ht : s.vxlan_tunnel_table_.lookup name = some t) (hsame : Same t t')
    {n : String} {u u' : VxlanTunnel}
    (hu' : (s.vxlan_tunnel_table_.insert name t').lookup n = some u')
    (hu : s.vxlan_tunnel_table_.lookup n = some u) : Same u u' := by
  rcases Table.lookup_insert_iff.mp hu' with ⟨rfl, rfl⟩ | ⟨-, hu'⟩
  · rw [ht] at hu
    obtain rfl := Option.some.inj hu
    exact hsame
  · rw [hu'] at hu
    obtain rfl := Option.some.inj hu
    exact fun hon => ⟨rfl, hon⟩

theorem Same.refl {n : String} {u u' : VxlanTunnel}
    (hu' : s.vxlan_tunnel_table_.lookup n = some u')
    (hu : s.vxlan_tunnel_table_.lookup n = some u) : Same u u' := by
  rw [hu'] at hu
  obtain rfl := Option.some.inj hu
  exact fun hon => ⟨rfl, hon⟩

/-- A new tunnel has no objects. -/
theorem Inv.new (h : Inv s) (hnew : name ∉ s.vxlan_tunnel_table_) {src_ip dst : IpAddress} :
    Inv (s.store name s.asic (.new src_ip dst)) := by
  have hnone := AList.lookup_eq_none.mpr hnew
  have hrefs : ∀ {β : Type} (f : VxlanTunnel → Option β) (n : String),
      f (.new src_ip dst) = none →
      ((s.store name s.asic (.new src_ip dst)).vxlan_tunnel_table_.lookup n).bind f =
        (s.vxlan_tunnel_table_.lookup n).bind f := by
    intro β f n hf'
    rw [bind_store]
    split
    · next hn => rw [hn, hnone, hf']; rfl
    · rfl
  refine ⟨⟨?_, ?_, ?_, ?_⟩, fun {n t} ht hoff => ?_, fun {n t} ht hon => ?_, fun {key} hkey => ?_⟩
  · exact h.maps.congr (fun k => hrefs _ k.1 (by cases k.2 <;> rfl)) fun _ => Iff.rfl
  · exact h.tunnels.congr (fun n => hrefs _ n rfl) fun _ => Iff.rfl
  · exact h.terms.congr (fun n => hrefs _ n rfl) fun _ => Iff.rfl
  · refine h.entries.congr (fun k => ?_) fun _ => Iff.rfl
    cases k with
    | mapper n vni encap => exact hrefs _ n rfl
    | vlan key => rfl
    | vrf key encap => rfl
  · rcases Table.lookup_insert_iff.mp ht with ⟨-, rfl⟩ | ⟨-, ht⟩
    · exact ⟨rfl, rfl, fun _ => rfl⟩
    · exact h.inactive ht hoff
  · rcases Table.lookup_insert_iff.mp ht with ⟨-, rfl⟩ | ⟨-, ht⟩
    · cases hon
    · exact h.decap ht hon
  · obtain ⟨t, ht, hon⟩ := h.vrf_active hkey
    refine ⟨t, Table.lookup_insert_iff.mpr (.inr ⟨?_, ht⟩), hon⟩
    intro hn
    rw [hn, hnone] at ht
    cases ht

theorem kept_addTunnel (h : Inv s) (hf : Fresh s.asic) (src_ip : IpAddress)
    (dst_ip : Option IpAddress) : Kept s (.addTunnel name src_ip dst_ip) := by
  have htidy : (∀ {n t'},
      (s.addTunnel name src_ip dst_ip).1.vxlan_tunnel_table_.lookup n = some t' →
      ∀ {t}, s.vxlan_tunnel_table_.lookup n = some t → Same t t') →
      Tidy s (.addTunnel name src_ip dst_ip) := fun hsame => Tidy.of_same hsame nofun nofun
  show (Inv (s.addTunnel name src_ip dst_ip).1 ∧ Fresh (s.addTunnel name src_ip dst_ip).1.asic) ∧ _
  rcases St.addTunnel_cases s name src_ip dst_ip with heq | ⟨hnew, dst, heq⟩
  · rw [heq] at htidy ⊢
    exact ⟨⟨h, hf⟩, htidy fun hu' _ hu => Same.refl hu' hu⟩
  · rw [heq] at htidy ⊢
    refine ⟨⟨h.new hnew, hf⟩, htidy fun {n t'} hu' t hu => ?_⟩
    rcases Table.lookup_insert_iff.mp hu' with ⟨rfl, -⟩ | ⟨-, hu'⟩
    · rw [AList.lookup_eq_none.mpr hnew] at hu
      cases hu
    · exact Same.refl hu' hu

theorem Kept.of_same {e : Event} {s' : St} (hstep : s.step e = s') (h : Inv s')
    (hf : Fresh s'.asic)
    (hsame : ∀ {n u'}, s'.vxlan_tunnel_table_.lookup n = some u' →
      ∀ {u}, s.vxlan_tunnel_table_.lookup n = some u → Same u u')
    (hforgotten : ∀ ok n vni, e ≠ .removeVxlanTunnelMap ok n vni)
    (hremoved : ∀ ok n, e ≠ .delTunnel ok n) : Kept s e := by
  subst hstep
  exact ⟨⟨h, hf⟩, Tidy.of_same hsame hforgotten hremoved⟩

/-- A tunnel is created when it is not active. -/
theorem Prepared.exists (h : Inv s) (hf : Fresh s.asic)
    (ht : s.vxlan_tunnel_table_.lookup name = some t) (encap decap : MAP_T)
    (hdecap : decap ≠ .MAP_TO_INVALID) (hok : t.active_ = false → AllOrNone ok encap)
    (encap_ttl : ℕ) : ∃ a t', (if t.active_ then (s.asic, t)
      else t.createTunnel ok encap decap encap_ttl s.asic) = (a, t') ∧ Prepared ok s name t a t' := by
  cases hactive : t.active_ with
  | true => exact ⟨s.asic, t, rfl, Prepared.refl h hf ht⟩
  | false =>
    exact ⟨_, _, rfl, Prepared.create h hf ht hactive encap decap hdecap (hok hactive) encap_ttl⟩

theorem kept_addTunnelMap (h : Inv s) (hf : Fresh s.asic) {key : FullKey} {vlan : Option ℕ}
    {vni : ℕ} (hsafe : Safe s (.addTunnelMap ok key vlan vni)) :
    Kept s (.addTunnelMap ok key vlan vni) := by
  have hkeep : ∀ {s'}, (s.addTunnelMap ok key vlan vni).1 = s' → Inv s' → Fresh s'.asic →
      (∀ {n u'}, s'.vxlan_tunnel_table_.lookup n = some u' →
        ∀ {u}, s.vxlan_tunnel_table_.lookup n = some u → Same u u') →
      Kept s (.addTunnelMap ok key vlan vni) := fun hstep h hf hsame =>
    Kept.of_same hstep h hf hsame nofun nofun
  cases vlan with
  | none => exact hkeep rfl h hf fun hu' _ hu => Same.refl hu' hu
  | some vlan_id =>
    unfold St.addTunnelMap at hkeep
    dsimp only at hkeep
    by_cases hvni : 2 ^ 24 ≤ vni % 2 ^ 32
    · rw [if_pos hvni] at hkeep
      exact hkeep rfl h hf fun hu' _ hu => Same.refl hu' hu
    rw [if_neg hvni] at hkeep
    cases ht : s.vxlan_tunnel_table_.lookup key.1 with
    | none =>
      rw [ht] at hkeep
      exact hkeep rfl h hf fun hu' _ hu => Same.refl hu' hu
    | some t =>
      obtain ⟨a, t', hprep, hp⟩ := Prepared.exists h hf ht .MAP_TO_INVALID
        .VNI_TO_VLAN_ID nofun (hsafe t ht rfl (Nat.lt_of_not_le hvni)) 0
      rw [ht] at hkeep
      dsimp only at hkeep
      rw [hprep] at hkeep
      dsimp only at hkeep
      have hsame : ∀ {n u'}, (s.store key.1 a t').vxlan_tunnel_table_.lookup n = some u' →
          ∀ {u}, s.vxlan_tunnel_table_.lookup n = some u → Same u u' := fun hu' _ hu =>
        Same.stored ht hp.same hu' hu
      by_cases hmem : key ∈ (s.store key.1 a t').vxlan_tunnel_map_table_
      · rw [if_pos hmem] at hkeep
        exact hkeep rfl hp.inv hp.fresh hsame
      rw [if_neg hmem] at hkeep
      have hnone := AList.lookup_eq_none.mpr hmem
      rcases create_entry (a := a) (b := ok .create_decap_entry) rfl with
        ⟨e, he, -⟩ | ⟨-, -, entry, he⟩
      · rw [he] at hkeep
        exact hkeep rfl hp.inv hp.fresh hsame
      · rw [he] at hkeep
        refine hkeep rfl ?_ (hp.fresh.entry entry) hsame
        refine hp.inv.others rfl rfl rfl ?_ hp.inv.vrf_active
        refine hp.inv.entries.insert (k := .vlan key) hnone hp.fresh.entries.not_mem
          (fun k => ?_) fun i => AList.mem_insert _
        cases k with
        | mapper n v encap => rfl
        | vlan key' =>
          show (s.vxlan_tunnel_map_table_.insert key a.next).lookup key' = _
          rw [Table.lookup_insert_eq]
          exact if_congr (by simp) rfl rfl
        | vrf key' encap => rfl

theorem kept_delTunnelMap (h : Inv s) (hf : Fresh s.asic) {key : FullKey} :
    Kept s (.delTunnelMap ok key) := by
  have hkeep : ∀ {s'}, (s.delTunnelMap ok key).1 = s' → Inv s' → Fresh s'.asic →
      s'.vxlan_tunnel_table_ = s.vxlan_tunnel_table_ → Kept s (.delTunnelMap ok key) :=
    fun hstep h hf hsame => Kept.of_same hstep h hf
      (fun hu' _ hu => Same.refl (by rwa [hsame] at hu') hu) nofun nofun
  unfold St.delTunnelMap Asic.remove_tunnel_map_entry at hkeep
  cases hkey : s.vxlan_tunnel_map_table_.lookup key with
  | none =>
    rw [hkey] at hkeep
    exact hkeep rfl h hf rfl
  | some i =>
    have hlive : i ∈ s.asic.map_entries :=
      h.entries.live_of (show s.entryRef (.vlan key) = some i from hkey)
    have hne : i ≠ SAI_NULL_OBJECT_ID := Nat.pos_iff_ne_zero.mp (hf.entries i hlive).1
    rw [hkey] at hkeep
    dsimp only at hkeep
    rw [if_neg hne] at hkeep
    by_cases hok : ok .remove_decap_entry = true
    · rw [if_pos ⟨hok, hlive⟩] at hkeep
      refine hkeep rfl ?_ { hf with entries := hf.entries.erase } rfl
      refine h.others rfl rfl rfl ?_ h.vrf_active
      refine h.entries.erase (k := .vlan key) hkey (fun k => ?_) fun j => AList.mem_erase
      cases k with
      | mapper n v encap => rfl
      | vlan key' =>
        show (s.vxlan_tunnel_map_table_.erase key).lookup key' = _
        rw [Table.lookup_erase_eq]
        exact if_congr (by simp) rfl rfl
      | vrf key' encap => rfl
    · rw [if_neg fun hall => hok hall.1] at hkeep
      exact hkeep rfl h hf rfl

/-- A tunnel without objects goes. -/
theorem Inv.erase (h : Inv s) (ht : s.vxlan_tunnel_table_.lookup name = some t)
    (hoff : t.active_ = false) :
    Inv { s with vxlan_tunnel_table_ := s.vxlan_tunnel_table_.erase name } := by
  obtain ⟨hids, -, hnone⟩ := h.inactive ht hoff
  have hrefs : ∀ {β : Type} (f : VxlanTunnel → Option β) (n : String), f t = none →
      ((s.vxlan_tunnel_table_.erase name).lookup n).bind f =
        (s.vxlan_tunnel_table_.lookup n).bind f := by
    intro β f n hf
    rw [Table.lookup_erase_eq]
    split
    · next hn => rw [hn, ht, Option.bind_some, hf]; rfl
    · rfl
  refine ⟨⟨?_, ?_, ?_, ?_⟩, fun hu => h.inactive (Table.lookup_erase_iff.mp hu).2,
    fun hu => h.decap (Table.lookup_erase_iff.mp hu).2, fun {key} hkey => ?_⟩
  · exact h.maps.congr (fun k => hrefs _ k.1 (by rw [hids]; cases k.2 <;> rfl)) fun _ => Iff.rfl
  · exact h.tunnels.congr (fun n => hrefs _ n (by rw [hids]; rfl)) fun _ => Iff.rfl
  · exact h.terms.congr (fun n => hrefs _ n (by rw [hids]; rfl)) fun _ => Iff.rfl
  · refine h.entries.congr (fun k => ?_) fun _ => Iff.rfl
    cases k with
    | mapper n vni encap => exact hrefs _ n (by rw [hnone]; rfl)
    | vlan key => rfl
    | vrf key encap => rfl
  · obtain ⟨u, hu, hon⟩ := h.vrf_active hkey
    refine ⟨u, Table.lookup_erase_iff.mpr ⟨?_, hu⟩, hon⟩
    intro hn
    rw [hn, ht] at hu
    obtain rfl := Option.some.inj hu
    rw [hoff] at hon
    cases hon

theorem kept_delTunnel (h : Inv s) (hf : Fresh s.asic) (hsafe : Safe s (.delTunnel ok name)) :
    Kept s (.delTunnel ok name) := by
  -- nothing is done
  have hnothing : (s.delTunnel ok name).1 = s → Kept s (.delTunnel ok name) := by
    intro heq
    have hstep : s.step (.delTunnel ok name) = s := heq
    refine ⟨by rw [hstep]; exact ⟨h, hf⟩, fun ht hon ht' => ?_, nofun, fun {ok' n} he hmem hgone => ?_⟩
    · rw [hstep] at ht'
      exact Same.refl ht' ht hon
    · rw [hstep] at hgone
      exact absurd hmem hgone
  cases ht : s.vxlan_tunnel_table_.lookup name with
  | none => exact hnothing (by rw [St.delTunnel, ht])
  | some t =>
    rcases hsafe t ht with ⟨hterm, hok⟩ | ⟨hoff, hvlan⟩
    · refine hnothing ?_
      unfold St.delTunnel Asic.remove_tunnel_termination
      rw [ht]
      dsimp only
      rw [if_neg hterm, if_neg (by rw [hok]; exact fun hall => Bool.noConfusion hall.1)]
    · obtain ⟨hids, -, hnone⟩ := h.inactive ht hoff
      have hstep : s.step (.delTunnel ok name) =
          { s with vxlan_tunnel_table_ := s.vxlan_tunnel_table_.erase name } := by
        show (s.delTunnel ok name).1 = _
        unfold St.delTunnel Asic.remove_tunnel_termination Asic.remove_tunnel
        rw [ht]
        dsimp only
        rw [hids]
        rfl
      refine ⟨by rw [hstep]; exact ⟨h.erase ht hoff, hf⟩, fun hu hon hu' => ?_, nofun,
        fun {ok' n} he _ _ => ?_⟩
      · rw [hstep] at hu'
        exact Same.refl (Table.lookup_erase_iff.mp hu').2 hu hon
      · -- the tunnel has nothing that could be left
        obtain ⟨-, rfl⟩ : ok = ok' ∧ name = n := by
          injection he with h₁ h₂
          exact ⟨h₁, h₂⟩
        have hbind : ∀ {β : Type} {f : VxlanTunnel → Option β} {i}, f t = none →
            (s.vxlan_tunnel_table_.lookup name).bind f ≠ some i := by
          intro β f i hf'
          rw [ht, Option.bind_some, hf']
          exact nofun
        refine ⟨fun encap i hi => absurd hi (hbind (by rw [hids]; cases encap <;> rfl)),
          fun i hi => absurd hi (hbind (by rw [hids]; rfl)),
          fun i hi => absurd hi (hbind (by rw [hids]; rfl)),
          fun vni encap i hi => absurd hi (hbind (by rw [hnone]; rfl)),
          fun entry i hi => absurd (Table.mem_of_lookup hi) (hvlan entry),
          fun entry encap i hi => ?_⟩
        obtain ⟨ids, hlook, -⟩ := Option.map_eq_some_iff.mp hi
        obtain ⟨u, hu, hon⟩ := h.vrf_active (Table.mem_of_lookup hlook)
        rw [ht] at hu
        obtain rfl := Option.some.inj hu
        rw [hoff] at hon
        cases hon

/-- A map of a VNI is removed only when nothing is. -/
theorem kept_removeVxlanTunnelMap (h : Inv s) (hf : Fresh s.asic) {vni : ℕ}
    (hsafe : Safe s (.removeVxlanTunnelMap ok name vni)) :
    Kept s (.removeVxlanTunnelMap ok name vni) := by
  have hkeep : (s.removeVxlanTunnelMap ok name vni).1 = s →
      ((s.removeVxlanTunnelMap ok name vni).2 = .ok true →
        ∀ t, s.vxlan_tunnel_table_.lookup name = some t → vni ∉ t.tunnel_map_entries_) →
      Kept s (.removeVxlanTunnelMap ok name vni) := by
    intro heq hforgotten
    have hstep : s.step (.removeVxlanTunnelMap ok name vni) = s := heq
    refine ⟨by rw [hstep]; exact ⟨h, hf⟩, fun ht hon ht' => ?_, fun {ok' n v t} he hres ht => ?_,
      nofun⟩
    · rw [hstep] at ht'
      exact Same.refl ht' ht hon
    · obtain ⟨rfl, rfl⟩ : name = n ∧ vni = v := by
        injection he with _ h₁ h₂
        exact ⟨h₁, h₂⟩
      rw [hstep] at ht
      exact hforgotten hres t ht
  cases ht : s.vxlan_tunnel_table_.lookup name with
  | none =>
    refine hkeep (by rw [St.removeVxlanTunnelMap, ht]) fun _ t ht' => ?_
    rw [ht] at ht'
    cases ht'
  | some t =>
    unfold St.removeVxlanTunnelMap Asic.remove_tunnel_map_entry at hkeep
    rw [ht] at hkeep
    dsimp only at hkeep
    cases hon : t.active_ with
    | false =>
      rw [if_pos hon] at hkeep
      exact hkeep rfl nofun
    | true =>
      rw [if_neg (by rw [hon]; exact nofun)] at hkeep
      by_cases hvni : vni ∈ t.tunnel_map_entries_
      · -- the first removal fails
        obtain ⟨ids, hids⟩ := Option.isSome_iff_exists.mp (AList.lookup_isSome.mpr hvni)
        have hmapper : t.getMapperEntry vni = ids := by rw [VxlanTunnel.getMapperEntry, hids]; rfl
        have href : s.entryRef (.mapper name vni true) = some ids.1 := by
          show (s.vxlan_tunnel_table_.lookup name).bind _ = _
          rw [ht, Option.bind_some, hids]
          rfl
        have hne : ids.1 ≠ SAI_NULL_OBJECT_ID :=
          Nat.pos_iff_ne_zero.mp (hf.entries _ (h.entries.live_of href)).1
        rw [hmapper, if_neg hne, hsafe t ht hon hvni] at hkeep
        exact hkeep rfl nofun
      · have hmapper : t.getMapperEntry vni = (SAI_NULL_OBJECT_ID, SAI_NULL_OBJECT_ID) := by
          rw [VxlanTunnel.getMapperEntry, AList.lookup_eq_none.mpr hvni]
          rfl
        rw [hmapper] at hkeep
        refine hkeep rfl fun _ t' ht' => ?_
        obtain rfl := Option.some.inj ht'
        exact hvni

theorem kept_addVrfMap (h : Inv s) (hf : Fresh s.asic) {key : FullKey} {vni : ℕ}
    {vrf_name : String} {vrf : Option sai_object_id_t}
    (hsafe : Safe s (.addVrfMap ok key vni vrf_name vrf)) :
    Kept s (.addVrfMap ok key vni vrf_name vrf) := by
  have hkeep : ∀ {s'}, (s.addVrfMap ok key vni vrf_name vrf).1 = s' → Inv s' → Fresh s'.asic →
      (∀ {n u'}, s'.vxlan_tunnel_table_.lookup n = some u' →
        ∀ {u}, s.vxlan_tunnel_table_.lookup n = some u → Same u u') →
      Kept s (.addVrfMap ok key vni vrf_name vrf) := fun hstep h hf hsame =>
    Kept.of_same hstep h hf hsame nofun nofun
  unfold St.addVrfMap at hkeep
  cases ht : s.vxlan_tunnel_table_.lookup key.1 with
  | none =>
    rw [ht] at hkeep
    exact hkeep rfl h hf fun hu' _ hu => Same.refl hu' hu
  | some t =>
    rw [ht] at hkeep
    dsimp only at hkeep
    by_cases hvni : 2 ^ 24 ≤ vni % 2 ^ 32
    · rw [if_pos hvni] at hkeep
      exact hkeep rfl h hf fun hu' _ hu => Same.refl hu' hu
    rw [if_neg hvni] at hkeep
    by_cases hmem : key ∈ s.vxlan_vrf_table_
    · rw [if_pos hmem] at hkeep
      exact hkeep rfl h hf fun hu' _ hu => Same.refl hu' hu
    rw [if_neg hmem] at hkeep
    cases vrf with
    | none => exact hkeep rfl h hf fun hu' _ hu => Same.refl hu' hu
    | some vrf_id =>
      obtain ⟨hoff, hcreate, hentries⟩ := hsafe t ht (Nat.lt_of_not_le hvni) hmem rfl
      obtain ⟨a, t', hprep, hp⟩ : ∃ a t',
          t.createTunnel ok .VRID_TO_VNI .VNI_TO_VRID 0 s.asic = (a, t') ∧
          Prepared ok s key.1 t a t' :=
        ⟨_, _, rfl, Prepared.create h hf ht hoff .VRID_TO_VNI .VNI_TO_VRID nofun hcreate 0⟩
      dsimp only at hkeep
      rw [hprep] at hkeep
      dsimp only at hkeep
      have hsame : ∀ {n u'}, (s.store key.1 a t').vxlan_tunnel_table_.lookup n = some u' →
          ∀ {u}, s.vxlan_tunnel_table_.lookup n = some u → Same u u' := fun hu' _ hu =>
        Same.stored ht hp.same hu' hu
      rcases create_entry (a := a) (b := ok .create_encap_entry) rfl with
        ⟨e, he, -⟩ | ⟨hmap, hencap, entry, he⟩
      · rw [VxlanTunnel.addEncapMapperEntry, he] at hkeep
        exact hkeep rfl hp.inv hp.fresh hsame
      -- the tunnel has its maps, so it has been created
      have hon : t'.active_ = true := by
        cases hactive : t'.active_ with
        | true => rfl
        | false =>
          have hmaps := (hp.inv.inactive lookup_store hactive).2.1
          exact absurd (congrArg Prod.fst hmaps) hmap
      have hfirst := hp.created.resolve_left (by rw [hon, hoff]; exact nofun)
      have hdecap := hentries hfirst hencap
      rw [VxlanTunnel.addEncapMapperEntry, he] at hkeep
      dsimp only at hkeep
      rcases create_entry (a := { a with
          map_entries := a.map_entries.insert a.next entry, next := a.next + 1 })
          (b := ok .create_decap_entry) rfl with ⟨e, -, hbad⟩ | ⟨-, -, entry', he'⟩
      · rcases hbad with hbad | hbad
        · exact absurd hbad (hp.inv.decap lookup_store hon)
        · rw [hdecap] at hbad
          cases hbad
      · rw [VxlanTunnel.addDecapMapperEntry, he'] at hkeep
        refine hkeep rfl ?_ ((hp.fresh.entry entry).entry entry') hsame
        have hnone := AList.lookup_eq_none.mpr hmem
        have hnew : a.next + 1 ∉ a.map_entries := fun hi =>
          absurd (hp.fresh.entries _ hi).2 (by omega)
        refine hp.inv.others rfl rfl rfl ?_ fun {key'} hkey' => ?_
        · refine hp.inv.entries.insert_pair (.vrf key false) (.vrf key true)
            (a.next + 1) a.next ?_ ?_ (by simp) hnew hp.fresh.entries.not_mem
            (Nat.succ_ne_self _) (fun k => ?_) fun i => ?_
          · show (s.vxlan_vrf_table_.lookup key).map _ = none
            rw [hnone]
            rfl
          · show (s.vxlan_vrf_table_.lookup key).map _ = none
            rw [hnone]
            rfl
          · cases k with
            | mapper n v encap => simp [St.entryRef, St.store]
            | vlan key' => simp [St.entryRef, St.store]
            | vrf key' encap =>
              show ((s.vxlan_vrf_table_.insert key _).lookup key').map _ = _
              rw [Table.lookup_insert_eq]
              by_cases hk : key' = key
              · subst hk
                cases encap <;> simp
              · rw [if_neg hk, if_neg (by simp [hk]), if_neg (by simp [hk])]
                rfl
          · show i ∈ (a.map_entries.insert a.next entry).insert (a.next + 1) entry' ↔
              i = a.next + 1 ∨ i = a.next ∨ i ∈ a.map_entries
            rw [AList.mem_insert, AList.mem_insert]
        · rcases (AList.mem_insert _).mp hkey' with rfl | hkey'
          · exact ⟨t', lookup_store, hon⟩
          · exact hp.inv.vrf_active hkey'

theorem kept_createVxlanTunnelMap (h : Inv s) (hf : Fresh s.asic) {map : tunnel_map_type_t}
    {vni : ℕ} {encap decap : sai_object_id_t} {encap_ttl : ℕ}
    (hsafe : Safe s (.createVxlanTunnelMap ok name map vni encap decap encap_ttl)) :
    Kept s (.createVxlanTunnelMap ok name map vni encap decap encap_ttl) := by
  have hkeep : ∀ {s'}, (s.createVxlanTunnelMap ok name map vni encap decap encap_ttl).1 = s' →
      Inv s' → Fresh s'.asic →
      (∀ {n u'}, s'.vxlan_tunnel_table_.lookup n = some u' →
        ∀ {u}, s.vxlan_tunnel_table_.lookup n = some u → Same u u') →
      Kept s (.createVxlanTunnelMap ok name map vni encap decap encap_ttl) :=
    fun hstep h hf hsame => Kept.of_same hstep h hf hsame nofun nofun
  unfold St.createVxlanTunnelMap at hkeep
  cases ht : s.vxlan_tunnel_table_.lookup name with
  | none =>
    rw [ht] at hkeep
    exact hkeep rfl h hf fun hu' _ hu => Same.refl hu' hu
  | some t =>
    obtain ⟨hcreate, hentries⟩ := hsafe t ht
    -- the tunnel is created when it is not active, with the maps of the type
    obtain ⟨a, t', hprep, hp, hready⟩ : ∃ a t',
        t.activate ok map encap_ttl s.asic = (a, t') ∧ Prepared ok s name t a t' ∧
        (t'.tunnel_map_.1 ≠ .MAP_TO_INVALID → if t.active_ then t.tunnel_map_.1 ≠ .MAP_TO_INVALID
          else map ≠ .TUNNEL_MAP_T_VLAN ∧ ok .create_decap_map = true) := by
      unfold VxlanTunnel.activate
      cases hactive : t.active_ with
      | true => exact ⟨_, _, rfl, Prepared.refl h hf ht, id⟩
      | false =>
        have hfirst : ∀ {a t'}, Prepared ok s name t a t' →
            t'.tunnel_map_.1 ≠ .MAP_TO_INVALID → ok .create_decap_map = true := by
          intro a t' hp hmap
          refine hp.created.resolve_left fun hoff => hmap ?_
          exact congrArg Prod.fst (hp.inv.inactive lookup_store (hoff.trans hactive)).2.1
        have hall := hcreate hactive
        cases map with
        | TUNNEL_MAP_T_VLAN =>
          refine ⟨_, _, rfl, Prepared.refl h hf ht, fun hmap => absurd ?_ hmap⟩
          exact congrArg Prod.fst (h.inactive ht hactive).2.1
        | TUNNEL_MAP_T_BRIDGE =>
          have hok : AllOrNone ok .BRIDGE_TO_VNI :=
            (hall nofun).imp id fun hok => ⟨fun _ => hok.1 nofun, hok.2⟩
          have hp := Prepared.create h hf ht hactive .BRIDGE_TO_VNI .VNI_TO_BRIDGE nofun
            hok encap_ttl
          exact ⟨_, _, rfl, hp, fun hmap => ⟨nofun, hfirst hp hmap⟩⟩
        | TUNNEL_MAP_T_VIRTUAL_ROUTER =>
          have hp := Prepared.create h hf ht hactive .VRID_TO_VNI .VNI_TO_VRID nofun
            (hall nofun) encap_ttl
          exact ⟨_, _, rfl, hp, fun hmap => ⟨nofun, hfirst hp hmap⟩⟩
    rw [ht] at hkeep
    dsimp only at hkeep
    rw [hprep] at hkeep
    dsimp only at hkeep
    have hsame : ∀ {n u'}, (s.store name a t').vxlan_tunnel_table_.lookup n = some u' →
        ∀ {u}, s.vxlan_tunnel_table_.lookup n = some u → Same u u' := fun hu' _ hu =>
      Same.stored ht hp.same hu' hu
    rcases create_entry (a := a) (b := ok .create_encap_entry) rfl with
      ⟨e, he, -⟩ | ⟨hmap, hencap, entry, he⟩
    · rw [VxlanTunnel.addEncapMapperEntry, he] at hkeep
      exact hkeep rfl hp.inv hp.fresh hsame
    obtain ⟨hdecap, hvni⟩ := hentries (hready hmap) hencap
    have hon : t'.active_ = true := by
      cases hactive : t'.active_ with
      | true => rfl
      | false =>
        have hmaps := (hp.inv.inactive lookup_store hactive).2.1
        exact absurd (congrArg Prod.fst hmaps) hmap
    rw [VxlanTunnel.addEncapMapperEntry, he] at hkeep
    dsimp only at hkeep
    rcases create_entry (a := { a with
        map_entries := a.map_entries.insert a.next entry, next := a.next + 1 })
        (b := ok .create_decap_entry) rfl with ⟨e, -, hbad⟩ | ⟨-, -, entry', he'⟩
    · rcases hbad with hbad | hbad
      · exact absurd hbad (hp.inv.decap lookup_store hon)
      · rw [hdecap] at hbad
        cases hbad
    · rw [VxlanTunnel.addDecapMapperEntry, he'] at hkeep
      have hinv := hp.inv.mapper hp.fresh lookup_store hon
        (by rw [hp.own_entries]; exact AList.lookup_eq_none.mpr hvni) entry entry'
      rw [store_store] at hinv
      refine hkeep rfl hinv ((hp.fresh.entry entry).entry entry') fun hu' _ hu => ?_
      exact Same.stored ht (show Same t (t'.insertMapperEntry a.next (a.next + 1) vni) from hp.same) hu' hu

/-! ### Runs -/

theorem inv_init : Inv .init ∧ Fresh St.init.asic := by
  have hmaps : ∀ k, St.init.mapRef k = none := fun _ => rfl
  have hentries : ∀ k, St.init.entryRef k = none := by
    intro k
    cases k <;> rfl
  refine ⟨⟨⟨?_, ?_, ?_, ?_⟩, nofun, nofun, nofun⟩, ⟨Nat.one_pos, nofun, nofun, nofun, nofun⟩⟩
  · exact Owned.empty.congr hmaps fun i => iff_of_false (AList.notMem_empty i) id
  · exact Owned.empty.congr (fun _ => rfl) fun i => iff_of_false (AList.notMem_empty i) id
  · exact Owned.empty.congr (fun _ => rfl) fun i => iff_of_false (AList.notMem_empty i) id
  · exact Owned.empty.congr hentries fun i => iff_of_false (AList.notMem_empty i) id

theorem kept_step (h : Inv s) (hf : Fresh s.asic) {e : Event} (hsafe : Safe s e) : Kept s e := by
  cases e with
  | addTunnel name src_ip dst_ip => exact kept_addTunnel h hf src_ip dst_ip
  | delTunnel ok name => exact kept_delTunnel h hf hsafe
  | addTunnelMap ok key vlan vni => exact kept_addTunnelMap h hf hsafe
  | delTunnelMap ok key => exact kept_delTunnelMap h hf
  | addVrfMap ok key vni vrf_name vrf => exact kept_addVrfMap h hf hsafe
  | delVrfMap key =>
    exact Kept.of_same rfl h hf (fun hu' _ hu => Same.refl hu' hu) nofun nofun
  | createVxlanTunnelMap ok name map vni encap decap encap_ttl =>
    exact kept_createVxlanTunnelMap h hf hsafe
  | removeVxlanTunnelMap ok name vni => exact kept_removeVxlanTunnelMap h hf hsafe

/-- **Tunnels leak nothing.**  On runs of safe steps, with any failures that are not among those
excluded, the objects are those that the orchs refer to, and no step of the run creates an
active tunnel again, remembers a map that it removed or leaves what it made for a tunnel. -/
theorem run_leakless {es : List Event} {s : St}
    (h : Run (Guarded Safe (fun s e s' => s' = s.step e)) .init es s) :
    Exact s ∧ ∀ e, Safe s e → Tidy s e := by
  have hinv : Inv s ∧ Fresh s.asic := by
    refine h.keeps (I := fun s => Inv s ∧ Fresh s.asic) inv_init ?_
    rintro s e _ ⟨hinv, hf⟩ ⟨hsafe, rfl⟩
    exact (kept_step hinv hf hsafe).1
  refine ⟨⟨hinv.1.toRefs, fun ht hoff => (hinv.1.inactive ht hoff).1⟩, fun e hsafe => ?_⟩
  exact (kept_step hinv.1 hinv.2 hsafe).2

def vtepIp : IpAddress := .v4 (10 ::ᵥ 1 ::ᵥ 0 ::ᵥ 32 ::ᵥ .nil)

/-- A tunnel is created for a VNET, and a VLAN gets no entry, since that call fails. -/
def vtepEvents : List Event :=
  [.addTunnel "vtep" vtepIp none,
    .createVxlanTunnelMap (fun _ => true) "vtep" .TUNNEL_MAP_T_VIRTUAL_ROUTER 8000 7 7 128,
    .addTunnelMap (fun call => call ≠ .create_decap_entry) ("vtep", "map_1") (some 50) 5000]

theorem vtep_leakless : Exact (vtepEvents.foldl St.step .init) ∧
    ∀ e, Safe (vtepEvents.foldl St.step .init) e → Tidy (vtepEvents.foldl St.step .init) e := by
  refine run_leakless (Run.guarded_foldl ⟨trivial, ?_, ?_, trivial⟩)
  · intro t ht
    have hnew : (St.init.step (.addTunnel "vtep" vtepIp none)).vxlan_tunnel_table_.lookup "vtep" =
        some (.new vtepIp (.v4 (List.Vector.replicate 4 0))) := rfl
    rw [hnew] at ht
    obtain rfl := Option.some.inj ht
    exact ⟨fun _ _ => .inr ⟨fun _ => rfl, rfl, rfl⟩, fun _ _ => ⟨rfl, AList.notMem_empty _⟩⟩
  · exact fun _ _ _ _ _ => .inr ⟨fun _ => rfl, rfl, rfl⟩

/-- A DEL of a tunnel leaves both of its maps. -/
theorem not_run_leakless :
    ¬ ∀ (es : List Event) (s : St), Run (fun s e s' => s' = s.step e) .init es s → Exact s := by
  intro h
  have hexact := h [.addTunnel "vtep" vtepIp none,
    .createVxlanTunnelMap (fun _ => true) "vtep" .TUNNEL_MAP_T_VIRTUAL_ROUTER 8000 7 7 128,
    .delTunnel (fun _ => true) "vtep"] _ (Run.foldl _ _)
  have hrun : let s := [Event.addTunnel "vtep" vtepIp none,
        .createVxlanTunnelMap (fun _ => true) "vtep" .TUNNEL_MAP_T_VIRTUAL_ROUTER 8000 7 7 128,
        .delTunnel (fun _ => true) "vtep"].foldl St.step .init
      s.vxlan_tunnel_table_.keys = [] ∧ 1 ∈ s.asic.tunnel_maps := by
    decide +kernel
  obtain ⟨hkeys, hmem⟩ := hrun
  obtain ⟨k, hk⟩ := hexact.maps.owned hmem
  obtain ⟨t, ht, -⟩ := Option.bind_eq_some_iff.mp hk
  have hin := AList.mem_keys.mp (Table.mem_of_lookup ht)
  rw [hkeys] at hin
  cases hin

end Orchagent.Vxlan
