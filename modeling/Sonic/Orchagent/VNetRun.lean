/-
Orchagent/VNetRun.lean

Runs of the VNET orchs, with VNETs as virtual routers.

The route entries should be those of the VNETs' prefixes in the routers of the VNETs and of
their peers, and a next hop of a tunnel should be counted by the tunnel routes that use it
(`Mirrors`).  A loop over the routers that stops halfway breaks the first, and a tunnel route
whose next hop was counted before an entry failed the second.  A SET of a VNET that there is
uses an object that was not made, and a DEL of a route that was not set, or is a tunnel route,
does not return.  Histories without these steps (`Safe`) keep both and return.
-/
import Sonic.Lib.Transition
import Sonic.Orchagent.VNetOrch
import Sonic.Orchagent.VxlanNextHops

namespace Orchagent.VNet

open Transition
open Vxlan (nh_key_t VxlanTunnel Counted bump)
open VNetRoute (NextHop)

/-! ### Histories -/

inductive Event where
  | addTunnel (tunnel_name : String) (src_ip : IpAddress) (dst_ip : Option IpAddress)
  | addVNet (sai : Sai) (vnet : String) (f : VNetFields)
  | delVNet (sai : Sai) (vnet : String)
  | setRoute (env : Env) (sai : Sai) (vnet : String) (p : IpPrefix) (nh : NextHop)
  | delRoute (env : Env) (sai : Sai) (vnet : String) (p : IpPrefix)
  | setTunnelRoute (sai : Sai) (vnet : String) (p : IpPrefix) (endp : tunnelEndpoint)
  | delTunnelRoute (sai : Sai) (vnet : String) (p : IpPrefix)

namespace St

def run (s : St) : Event → St × Outcome
  | .addTunnel tunnel_name src_ip dst_ip =>
    ({ s with vxlan := (s.vxlan.addTunnel tunnel_name src_ip dst_ip).1 }, .returns true)
  | .addVNet sai vnet f => s.addVNet sai vnet f
  | .delVNet sai vnet => s.delVNet sai vnet
  | .setRoute env sai vnet p nh => s.setRoute env sai vnet p nh
  | .delRoute env sai vnet p => s.delRoute env sai vnet p
  | .setTunnelRoute sai vnet p endp => s.setTunnelRoute sai vnet p endp
  | .delTunnelRoute sai vnet p => s.delTunnelRoute sai vnet p

def step (s : St) (e : Event) : St := (s.run e).1

end St

/-- The routers of a VNET and of its peers. -/
def InRouters (vnets : Table String VNetVrfObject) (v : VNetVrfObject) (r : Vxlan.sai_object_id_t) :
    Prop :=
  r = v.vr_id ∨ ∃ peer ∈ v.peer_list_, ∃ v', vnets.lookup peer = some v' ∧ r = v'.vr_id

/-- The route entries are those of the prefixes of the VNETs. -/
structure Installed (vnets : Table String VNetVrfObject)
    (routes : Table (Vxlan.sai_object_id_t × IpPrefix) Vxlan.sai_object_id_t) : Prop where
  /-- an entry is for a prefix of a VNET in whose routers it is -/
  routes : ∀ r p, (r, p) ∈ routes ↔
    ∃ name v, vnets.lookup name = some v ∧ v.hasRoute p = true ∧ InRouters vnets v r
  /-- and for one VNET only -/
  disjoint : ∀ {n n' v v' p r}, n ≠ n' → vnets.lookup n = some v → vnets.lookup n' = some v' →
    v.hasRoute p = true → v'.hasRoute p = true → InRouters vnets v r → ¬ InRouters vnets v' r
  peers : ∀ {name v p}, vnets.lookup name = some v → v.hasRoute p = true →
    ∀ peer ∈ v.peer_list_, peer ∈ vnets

/-- The tunnel routes of a VNET that use a next hop. -/
def VNetVrfObject.uses (v : VNetVrfObject) (tunnel : String) (key : nh_key_t) : ℤ :=
  if v.tunnel_ = tunnel then Table.sum (fun _ endp => if endp.key = key then 1 else 0) v.tunnels_
  else 0

/-- The number of tunnel routes that use a next hop of a tunnel. -/
def uses (vnets : Table String VNetVrfObject) (tunnel : String) (key : nh_key_t) : ℤ :=
  Table.sum (fun _ v => v.uses tunnel key) vnets

/-- What the orch keeps is what there is. -/
structure Mirrors (s : St) : Prop where
  installed : Installed s.vnet_table_ s.asic.routes
  next_hops : Counted s.vxlan (uses s.vnet_table_)

/-- A step returns, and a SET of a VNET leaves those that there are. -/
structure Returns (s : St) (e : Event) : Prop where
  returns : ∃ done, (s.run e).2 = .returns done
  updates : ∀ {sai name f}, e = .addVNet sai name f → ∀ {n v}, s.vnet_table_.lookup n = some v →
    (s.step e).vnet_table_.lookup n = some v

/-! ### Safe steps -/

/-- The calls that create a tunnel succeed. -/
def Created (ok : Vxlan.SaiCall → Bool) : Prop :=
  ok .create_decap_map = true ∧ ok .create_encap_map = true ∧ ok .create_tunnel = true ∧
    ok .create_term = true

/-- The next hop of a tunnel route can be removed, if it is to be. -/
def Removable (s : St) (sai : Sai) (v : VNetVrfObject) (p : IpPrefix) : Prop :=
  ∀ endp t nh, v.tunnels_.lookup p = some endp →
    s.vxlan.vxlan_tunnel_table_.lookup v.tunnel_ = some t →
    t.nh_tunnels_.lookup endp.key = some nh → nh.ref_count = 1 →
    sai.vxlan .remove_next_hop = true

def Safe (s : St) : Event → Prop
  | .addTunnel _ _ _ => True
  | .addVNet sai vnet f => ∀ t, s.vxlan.vxlan_tunnel_table_.lookup f.vxlan_tunnel = some t →
      vnet ∉ s.vnet_table_ ∧ ((f.scope ≠ "default" ∧ sai.create_router = false) ∨
        t.active_ = true ∨ Created sai.vxlan)
  | .delVNet sai vnet => ∀ v, s.vnet_table_.lookup vnet = some v → v.getRouteCount = 0 →
      (s.vxlan.removeVxlanTunnelMap sai.vxlan v.tunnel_ v.vni_).2 = .ok true →
      ∀ n v', s.vnet_table_.lookup n = some v' → vnet ∈ v'.peer_list_ → v'.getRouteCount = 0
  | .setRoute env sai vnet p nh => ∀ v vr_set nh_id, s.vnet_table_.lookup vnet = some v →
      s.vrSet v = some vr_set → St.via env nh = .found nh_id → v.hasRoute p = true ∨
        ∀ r ∈ vr_set, sai.route r = true ∧ (r, p) ∉ s.asic.routes
  | .delRoute env sai vnet p => p ∈ s.routeOrch.syncd_routes_ ∧
      ∀ v, s.vnet_table_.lookup vnet = some v → v.tunnels_.lookup p = none ∧
        ∀ nh vr_set nh_id, v.routes_.lookup p = some nh → s.vrSet v = some vr_set →
          St.via env nh = .found nh_id → ∀ r ∈ vr_set, sai.route r = true
  | .setTunnelRoute sai vnet p endp => ∀ v vr_set, s.vnet_table_.lookup vnet = some v →
      s.vrSet v = some vr_set →
      (s.vxlan.nextHopRef (v.tunnel_, endp.key) = none ∧ sai.vxlan .create_next_hop = false) ∨
        ∀ r ∈ vr_set, sai.route r = true ∧ (r, p) ∉ s.asic.routes
  | .delTunnelRoute sai vnet p => ∀ v vr_set, s.vnet_table_.lookup vnet = some v →
      s.vrSet v = some vr_set →
      (∀ r, vr_set.head? = some r → ¬ (sai.route r = true ∧ (r, p) ∈ s.asic.routes)) ∨
        (v.hasRoute p = true ∧ (∀ r ∈ vr_set, sai.route r = true) ∧ Removable s sai v p)

/-! ### The routers of a VNET -/

variable {s : St} {v : VNetVrfObject} {vr_set : List Vxlan.sai_object_id_t}
  {r : Vxlan.sai_object_id_t} {p q : IpPrefix} {sai : Sai}
  {routes : Table (Vxlan.sai_object_id_t × IpPrefix) Vxlan.sai_object_id_t}

theorem ingress_eq_some {vnets : List String} {ids : List Vxlan.sai_object_id_t} :
    s.ingress vnets = some ids → (∀ vnet ∈ vnets, vnet ∈ s.vnet_table_) ∧
      ∀ r, r ∈ ids ↔ ∃ vnet ∈ vnets, ∃ v, s.vnet_table_.lookup vnet = some v ∧ r = v.vr_id := by
  induction vnets generalizing ids with
  | nil =>
    intro h
    obtain rfl : [] = ids := Option.some.inj h
    exact ⟨nofun, fun r => ⟨nofun, nofun⟩⟩
  | cons vnet vnets ih =>
    intro h
    rw [St.ingress, List.mapM_cons] at h
    obtain ⟨id, hid, h⟩ := Option.bind_eq_some_iff.mp h
    obtain ⟨ids', hids, h⟩ := Option.bind_eq_some_iff.mp h
    obtain rfl : id :: ids' = ids := Option.some.inj h
    obtain ⟨v, hv, rfl⟩ := Option.map_eq_some_iff.mp hid
    obtain ⟨hmem, hiff⟩ := ih hids
    refine ⟨fun x hx => ?_, fun r => ?_⟩
    · rcases List.mem_cons.mp hx with rfl | hx
      · exact Table.mem_of_lookup hv
      · exact hmem x hx
    · rw [List.mem_cons, hiff]
      constructor
      · rintro (rfl | ⟨x, hx, w, hw, rfl⟩)
        · exact ⟨vnet, List.mem_cons_self .., v, hv, rfl⟩
        · exact ⟨x, List.mem_cons_of_mem _ hx, w, hw, rfl⟩
      · rintro ⟨x, hx, w, hw, rfl⟩
        rcases List.mem_cons.mp hx with rfl | hx
        · rw [hv] at hw
          exact .inl (congrArg _ (Option.some.inj hw).symm)
        · exact .inr ⟨x, hx, w, hw, rfl⟩

/-- A set that a loop makes has what is put in, once. -/
theorem foldl_insert (l set : List Vxlan.sai_object_id_t)
    (hset : OrderedSet.Ordered (fun id => id) set) :
    (l.foldl (fun set id => OrderedSet.insert (fun id => id) id set) set).Nodup ∧
    ∀ r, r ∈ l.foldl (fun set id => OrderedSet.insert (fun id => id) id set) set ↔
      r ∈ l ∨ r ∈ set := by
  induction l generalizing set with
  | nil => exact ⟨hset.nodup, fun r => ⟨.inr, fun h => h.resolve_left nofun⟩⟩
  | cons id l ih =>
    obtain ⟨hnodup, hiff⟩ := ih _ hset.insert
    refine ⟨hnodup, fun r => ?_⟩
    rw [List.foldl_cons, hiff, List.mem_cons]
    constructor
    · rintro (h | h)
      · exact .inl (.inr h)
      · exact (OrderedSet.mem_insert_subset h).imp .inl fun h => h
    · rintro ((rfl | h) | h)
      · exact .inr (OrderedSet.mem_insert_self fun _ _ h => h)
      · exact .inl h
      · exact .inr (OrderedSet.mem_insert_of_mem h)

/-- The routers of a VNET whose peers are all there. -/
theorem vrSet_eq_some (h : s.vrSet v = some vr_set) :
    (∀ peer ∈ v.peer_list_, peer ∈ s.vnet_table_) ∧ vr_set.Nodup ∧
      ∀ r, r ∈ vr_set ↔ InRouters s.vnet_table_ v r := by
  obtain ⟨ids, hids, rfl⟩ := Option.map_eq_some_iff.mp h
  obtain ⟨hpeers, hiff⟩ := ingress_eq_some hids
  obtain ⟨hnodup, hmem⟩ := foldl_insert (v.vr_id :: ids) [] List.Pairwise.nil
  refine ⟨hpeers, hnodup, fun r => ?_⟩
  rw [hmem, List.mem_cons, hiff]
  exact ⟨fun h => h.resolve_right nofun, .inl⟩

/-! ### The loops over the routers -/

/-- Every entry is created. -/
theorem addRoutes_all (nh_id : Vxlan.sai_object_id_t) (hnodup : vr_set.Nodup)
    (h : ∀ r ∈ vr_set, sai.route r = true ∧ (r, p) ∉ routes) :
    ∃ routes', St.addRoutes sai p nh_id vr_set routes = (routes', true) ∧
      ∀ r q, (r, q) ∈ routes' ↔ (q = p ∧ r ∈ vr_set) ∨ (r, q) ∈ routes := by
  induction vr_set generalizing routes with
  | nil => exact ⟨routes, rfl, fun r q => ⟨.inr, fun h => h.resolve_left fun h => nomatch h.2⟩⟩
  | cons vr_id vr_set ih =>
    obtain ⟨hnot, hnodup⟩ := List.nodup_cons.mp hnodup
    have hhead := h vr_id (List.mem_cons_self ..)
    have htail : ∀ r ∈ vr_set,
        sai.route r = true ∧ (r, p) ∉ routes.insert (vr_id, p) nh_id := by
      intro r hr
      obtain ⟨hok, hfree⟩ := h r (List.mem_cons_of_mem _ hr)
      refine ⟨hok, fun hmem => ?_⟩
      rcases (AList.mem_insert _).mp hmem with heq | hmem
      · exact hnot ((Prod.mk.inj heq).1 ▸ hr)
      · exact hfree hmem
    obtain ⟨routes', heq, hiff⟩ := ih hnodup htail
    refine ⟨routes', by rw [St.addRoutes, if_pos hhead, heq], fun r q => ?_⟩
    rw [hiff, AList.mem_insert, Prod.mk.injEq, List.mem_cons]
    tauto

/-- Nothing is created when the entries are there. -/
theorem addRoutes_none (sai : Sai) (nh_id : Vxlan.sai_object_id_t)
    (h : ∀ r ∈ vr_set, (r, p) ∈ routes) :
    (St.addRoutes sai p nh_id vr_set routes).1 = routes := by
  cases vr_set with
  | nil => rfl
  | cons vr_id vr_set =>
    rw [St.addRoutes, if_neg fun hand => hand.2 (h vr_id (List.mem_cons_self ..))]

/-- Every entry is removed. -/
theorem delRoutes_all (hnodup : vr_set.Nodup)
    (h : ∀ r ∈ vr_set, sai.route r = true ∧ (r, p) ∈ routes) :
    ∃ routes', St.delRoutes sai p vr_set routes = (routes', true) ∧
      ∀ r q, (r, q) ∈ routes' ↔ ¬ (q = p ∧ r ∈ vr_set) ∧ (r, q) ∈ routes := by
  induction vr_set generalizing routes with
  | nil => exact ⟨routes, rfl, fun r q => ⟨fun h => ⟨fun hand => (nomatch hand.2), h⟩, And.right⟩⟩
  | cons vr_id vr_set ih =>
    obtain ⟨hnot, hnodup⟩ := List.nodup_cons.mp hnodup
    have hhead := h vr_id (List.mem_cons_self ..)
    have htail : ∀ r ∈ vr_set,
        sai.route r = true ∧ (r, p) ∈ routes.erase (vr_id, p) := by
      intro r hr
      obtain ⟨hok, hmem⟩ := h r (List.mem_cons_of_mem _ hr)
      refine ⟨hok, AList.mem_erase.mpr ⟨fun heq => ?_, hmem⟩⟩
      exact hnot ((Prod.mk.inj heq).1 ▸ hr)
    obtain ⟨routes', heq, hiff⟩ := ih hnodup htail
    refine ⟨routes', by rw [St.delRoutes, if_pos hhead, heq], fun r q => ?_⟩
    rw [hiff, AList.mem_erase, ne_eq, Prod.mk.injEq, List.mem_cons]
    tauto

/-- Nothing is removed when the first removal fails. -/
theorem delRoutes_none
    (h : ∀ r, vr_set.head? = some r → ¬ (sai.route r = true ∧ (r, p) ∈ routes)) :
    (St.delRoutes sai p vr_set routes).1 = routes ∧
      (vr_set ≠ [] → (St.delRoutes sai p vr_set routes).2 = false) := by
  cases vr_set with
  | nil => exact ⟨rfl, fun hne => absurd rfl hne⟩
  | cons vr_id vr_set =>
    rw [St.delRoutes, if_neg (h vr_id rfl)]
    exact ⟨rfl, fun _ => rfl⟩

/-! ### The entries of a VNET -/

section Installed

variable {vnets : Table String VNetVrfObject} {n : String} {v' w : VNetVrfObject}
  {routes' : Table (Vxlan.sai_object_id_t × IpPrefix) Vxlan.sai_object_id_t}

/-- The routers do not change with the routes of a VNET. -/
theorem inRouters_insert (hv : vnets.lookup n = some v) (hvr : v'.vr_id = v.vr_id) :
    InRouters (vnets.insert n v') w r ↔ InRouters vnets w r := by
  have hold : ∀ peer, (∃ u, (vnets.insert n v').lookup peer = some u ∧ r = u.vr_id) ↔
      ∃ u, vnets.lookup peer = some u ∧ r = u.vr_id := by
    intro peer
    rw [Table.lookup_insert_eq]
    split
    · next heq =>
        subst heq
        constructor
        · rintro ⟨u, hu, rfl⟩
          obtain rfl := Option.some.inj hu
          exact ⟨v, hv, hvr⟩
        · rintro ⟨u, hu, rfl⟩
          rw [hv] at hu
          obtain rfl := Option.some.inj hu
          exact ⟨v', rfl, hvr.symm⟩
    · rfl
  unfold InRouters
  simp only [hold]

theorem inRouters_congr (hvr : v'.vr_id = v.vr_id) (hpeers : v'.peer_list_ = v.peer_list_) :
    InRouters vnets v' r ↔ InRouters vnets v r := by
  unfold InRouters
  rw [hvr, hpeers]

/-- A prefix is added to a VNET, with its entries. -/
theorem Installed.add (h : Installed vnets routes) (hv : vnets.lookup n = some v)
    (hvr : v'.vr_id = v.vr_id) (hpeers : v'.peer_list_ = v.peer_list_)
    (hhas : ∀ q, v'.hasRoute q = true ↔ q = p ∨ v.hasRoute q = true)
    (hall : ∀ peer ∈ v.peer_list_, peer ∈ vnets)
    (hfree : ∀ r, InRouters vnets v r → (r, p) ∉ routes)
    (hroutes : ∀ r q, (r, q) ∈ routes' ↔ (q = p ∧ InRouters vnets v r) ∨ (r, q) ∈ routes) :
    Installed (vnets.insert n v') routes' := by
  have hin : ∀ {w r}, InRouters (vnets.insert n v') w r ↔ InRouters vnets w r :=
    inRouters_insert hv hvr
  have hin' : ∀ {r}, InRouters vnets v' r ↔ InRouters vnets v r := inRouters_congr hvr hpeers
  -- nobody else has the prefix in one of these routers
  have hother : ∀ {n' u r}, n' ≠ n → vnets.lookup n' = some u → u.hasRoute p = true →
      InRouters vnets v r → ¬ InRouters vnets u r := fun _ hu hup hr hr' =>
    hfree _ hr ((h.routes _ _).mpr ⟨_, _, hu, hup, hr'⟩)
  refine ⟨fun r q => ?_, fun {n₁ n₂ v₁ v₂ q r} hne h₁ h₂ hp₁ hp₂ hr => ?_,
    fun hu hq peer hpeer => ?_⟩
  · rw [hroutes, h.routes]
    constructor
    · rintro (⟨rfl, hr⟩ | ⟨name, u, hu, huq, hr⟩)
      · exact ⟨n, v', AList.lookup_insert _, (hhas q).mpr (.inl rfl), hin.mpr (hin'.mpr hr)⟩
      · by_cases hn : name = n
        · subst hn
          rw [hv] at hu
          obtain rfl := Option.some.inj hu
          exact ⟨name, v', AList.lookup_insert _, (hhas q).mpr (.inr huq), hin.mpr (hin'.mpr hr)⟩
        · exact ⟨name, u, Table.lookup_insert_iff.mpr (.inr ⟨hn, hu⟩), huq, hin.mpr hr⟩
    · rintro ⟨name, u, hu, huq, hr⟩
      rcases Table.lookup_insert_iff.mp hu with ⟨rfl, rfl⟩ | ⟨-, hu⟩
      · have hr := hin'.mp (hin.mp hr)
        rcases (hhas q).mp huq with rfl | huq
        · exact .inl ⟨rfl, hr⟩
        · exact .inr ⟨name, v, hv, huq, hr⟩
      · exact .inr ⟨name, u, hu, huq, hin.mp hr⟩
  · rw [hin] at hr ⊢
    rcases Table.lookup_insert_iff.mp h₁ with ⟨rfl, rfl⟩ | ⟨hn₁, hold₁⟩
    · obtain ⟨-, hold₂⟩ := (Table.lookup_insert_iff.mp h₂).resolve_left fun h => hne h.1.symm
      have hr := hin'.mp hr
      rcases (hhas q).mp hp₁ with rfl | hp₁
      · exact hother hne.symm hold₂ hp₂ hr
      · exact h.disjoint hne hv hold₂ hp₁ hp₂ hr
    · rcases Table.lookup_insert_iff.mp h₂ with ⟨rfl, rfl⟩ | ⟨-, hold₂⟩
      · rw [hin']
        rcases (hhas q).mp hp₂ with rfl | hp₂
        · exact fun hr' => hother hn₁ hold₁ hp₁ hr' hr
        · exact h.disjoint hne hold₁ hv hp₁ hp₂ hr
      · exact h.disjoint hne hold₁ hold₂ hp₁ hp₂ hr
  · refine (AList.mem_insert _).mpr (.inr ?_)
    rcases Table.lookup_insert_iff.mp hu with ⟨rfl, rfl⟩ | ⟨-, hu⟩
    · exact hall peer (hpeers ▸ hpeer)
    · exact h.peers hu hq peer hpeer

/-- A prefix is removed from a VNET, with its entries. -/
theorem Installed.remove (h : Installed vnets routes) (hv : vnets.lookup n = some v)
    (hvr : v'.vr_id = v.vr_id) (hpeers : v'.peer_list_ = v.peer_list_)
    (hp : v.hasRoute p = true)
    (hhas : ∀ q, v'.hasRoute q = true ↔ q ≠ p ∧ v.hasRoute q = true)
    (hroutes : ∀ r q, (r, q) ∈ routes' ↔ ¬ (q = p ∧ InRouters vnets v r) ∧ (r, q) ∈ routes) :
    Installed (vnets.insert n v') routes' := by
  have hin : ∀ {w r}, InRouters (vnets.insert n v') w r ↔ InRouters vnets w r :=
    inRouters_insert hv hvr
  have hin' : ∀ {r}, InRouters vnets v' r ↔ InRouters vnets v r := inRouters_congr hvr hpeers
  -- what a VNET has now it had before
  have hold : ∀ {n' u q}, (vnets.insert n v').lookup n' = some u → u.hasRoute q = true →
      ∃ u₀, vnets.lookup n' = some u₀ ∧ u₀.hasRoute q = true ∧ u₀.peer_list_ = u.peer_list_ ∧
        (∀ r, InRouters vnets u₀ r ↔ InRouters vnets u r) ∧ (n' = n → q ≠ p) := by
    intro n' u q hu huq
    rcases Table.lookup_insert_iff.mp hu with ⟨rfl, rfl⟩ | ⟨hn, hu⟩
    · obtain ⟨hne, huq⟩ := (hhas q).mp huq
      exact ⟨v, hv, huq, hpeers.symm, fun r => hin'.symm, fun _ => hne⟩
    · exact ⟨u, hu, huq, rfl, fun r => Iff.rfl, fun heq => absurd heq hn⟩
  refine ⟨fun r q => ?_, fun {n₁ n₂ v₁ v₂ q r} hne h₁ h₂ hp₁ hp₂ hr => ?_,
    fun hu hq peer hpeer => ?_⟩
  · rw [hroutes, h.routes]
    constructor
    · rintro ⟨hnot, name, u, hu, huq, hr⟩
      by_cases hn : name = n
      · subst hn
        rw [hv] at hu
        obtain rfl := Option.some.inj hu
        have hne : q ≠ p := fun heq => hnot ⟨heq, hr⟩
        exact ⟨name, v', AList.lookup_insert _, (hhas q).mpr ⟨hne, huq⟩, hin.mpr (hin'.mpr hr)⟩
      · exact ⟨name, u, Table.lookup_insert_iff.mpr (.inr ⟨hn, hu⟩), huq, hin.mpr hr⟩
    · rintro ⟨name, u, hu, huq, hr⟩
      obtain ⟨u₀, hu₀, huq₀, -, hiff, hne⟩ := hold hu huq
      have hr₀ := (hiff r).mpr (hin.mp hr)
      refine ⟨?_, name, u₀, hu₀, huq₀, hr₀⟩
      rintro ⟨rfl, hr'⟩
      by_cases hn : name = n
      · exact hne hn rfl
      · exact h.disjoint hn hu₀ hv huq₀ hp hr₀ hr'
  · rw [hin] at hr ⊢
    obtain ⟨u₁, hu₁, hq₁, -, hiff₁, -⟩ := hold h₁ hp₁
    obtain ⟨u₂, hu₂, hq₂, -, hiff₂, -⟩ := hold h₂ hp₂
    rw [← hiff₂]
    exact h.disjoint hne hu₁ hu₂ hq₁ hq₂ ((hiff₁ r).mpr hr)
  · obtain ⟨u₀, hu₀, huq₀, hpeers₀, -⟩ := hold hu hq
    exact (AList.mem_insert _).mpr (.inr (h.peers hu₀ huq₀ peer (hpeers₀ ▸ hpeer)))

/-- VNETs without routes come and go: those that have routes keep their routers. -/
theorem Installed.congr {vnets' : Table String VNetVrfObject} (h : Installed vnets routes)
    (hhas : ∀ {name v p}, v.hasRoute p = true →
      (vnets'.lookup name = some v ↔ vnets.lookup name = some v))
    (hpeers : ∀ {name v p peer}, vnets.lookup name = some v → v.hasRoute p = true →
      peer ∈ v.peer_list_ → vnets'.lookup peer = vnets.lookup peer) :
    Installed vnets' routes := by
  have hin : ∀ {name v p r}, vnets.lookup name = some v → v.hasRoute p = true →
      (InRouters vnets' v r ↔ InRouters vnets v r) := by
    intro name v p r hv hp
    refine or_congr_right ?_
    constructor
    · rintro ⟨peer, hpeer, u, hu, rfl⟩
      exact ⟨peer, hpeer, u, (hpeers hv hp hpeer) ▸ hu, rfl⟩
    · rintro ⟨peer, hpeer, u, hu, rfl⟩
      exact ⟨peer, hpeer, u, (hpeers hv hp hpeer).symm ▸ hu, rfl⟩
  refine ⟨fun r p => ?_, fun hne h₁ h₂ hp₁ hp₂ hr => ?_, fun hv hp peer hpeer => ?_⟩
  · rw [h.routes]
    constructor
    · rintro ⟨name, v, hv, hp, hr⟩
      exact ⟨name, v, (hhas hp).mpr hv, hp, (hin hv hp).mpr hr⟩
    · rintro ⟨name, v, hv, hp, hr⟩
      have hv := (hhas hp).mp hv
      exact ⟨name, v, hv, hp, (hin hv hp).mp hr⟩
  · have h₁ := (hhas hp₁).mp h₁
    have h₂ := (hhas hp₂).mp h₂
    rw [hin h₂ hp₂]
    exact h.disjoint hne h₁ h₂ hp₁ hp₂ ((hin h₁ hp₁).mp hr)
  · have hv := (hhas hp).mp hv
    have hmem := h.peers hv hp peer hpeer
    rw [← AList.lookup_isSome, hpeers hv hp hpeer]
    exact AList.lookup_isSome.mpr hmem

end Installed

/-! ### The uses of the next hops -/

section Uses

variable {vnets : Table String VNetVrfObject} {n : String} {v' : VNetVrfObject}
  {endp : tunnelEndpoint}

theorem uses_insert (hv : vnets.lookup n = some v) (name : String) (key : nh_key_t) :
    uses (vnets.insert n v') name key =
      uses vnets name key + v'.uses name key - v.uses name key := by
  unfold uses
  rw [Table.sum_insert, hv]
  rfl

/-- A tunnel route is one use more. -/
theorem uses_add (hv : vnets.lookup n = some v) (hnone : v.tunnels_.lookup p = none)
    (name : String) (key : nh_key_t) :
    uses (vnets.insert n { v with tunnels_ := v.tunnels_.insert p endp }) name key =
      bump (uses vnets) v.tunnel_ endp.key 1 name key := by
  rw [uses_insert hv]
  unfold VNetVrfObject.uses bump
  by_cases hname : v.tunnel_ = name
  · rw [if_pos hname, if_pos hname, Table.sum_insert, hnone]
    by_cases hkey : endp.key = key
    · rw [if_pos hkey, if_pos ⟨hname.symm, hkey.symm⟩, Option.map_none, Option.getD_none]
      ring
    · rw [if_neg hkey, if_neg fun hand => hkey hand.2.symm, Option.map_none, Option.getD_none]
      ring
  · rw [if_neg hname, if_neg hname, if_neg fun hand => hname hand.1.symm]
    ring

/-- A tunnel route that goes is one use less. -/
theorem uses_remove (hv : vnets.lookup n = some v) (hp : v.tunnels_.lookup p = some endp)
    (name : String) (key : nh_key_t) :
    uses (vnets.insert n { v with tunnels_ := v.tunnels_.erase p }) name key =
      bump (uses vnets) v.tunnel_ endp.key (-1) name key := by
  rw [uses_insert hv]
  unfold VNetVrfObject.uses bump
  by_cases hname : v.tunnel_ = name
  · rw [if_pos hname, if_pos hname, Table.sum_erase, hp]
    by_cases hkey : endp.key = key
    · rw [if_pos ⟨hname.symm, hkey.symm⟩, Option.map_some, Option.getD_some, if_pos hkey]
      ring
    · rw [if_neg fun hand => hkey hand.2.symm, Option.map_some, Option.getD_some, if_neg hkey]
      ring
  · rw [if_neg hname, if_neg hname, if_neg fun hand => hname hand.1.symm]
    ring

/-- The other routes are no uses. -/
theorem uses_routes (hv : vnets.lookup n = some v) {rs : Table IpPrefix NextHop} (name : String)
    (key : nh_key_t) :
    uses (vnets.insert n { v with routes_ := rs }) name key = uses vnets name key := by
  rw [uses_insert hv]
  exact add_sub_cancel_right _ _

theorem uses_nonneg (w : VNetVrfObject) (name : String) (key : nh_key_t) : 0 ≤ w.uses name key := by
  unfold VNetVrfObject.uses
  split
  · refine Table.sum_nonneg fun q endp _ => ?_
    split <;> decide
  · exact le_refl 0

/-- A tunnel route uses its next hop. -/
theorem uses_pos (hv : vnets.lookup n = some v) (hp : v.tunnels_.lookup p = some endp) :
    0 < uses vnets v.tunnel_ endp.key := by
  have hown : 1 ≤ v.uses v.tunnel_ endp.key := by
    unfold VNetVrfObject.uses
    rw [if_pos rfl]
    have hle := Table.le_sum (f := fun _ e => if e.key = endp.key then (1 : ℤ) else 0)
      (fun q e _ => by split <;> decide) hp
    rwa [if_pos rfl] at hle
  have hle := Table.le_sum (f := fun _ w => w.uses v.tunnel_ endp.key)
    (fun _ w _ => uses_nonneg w _ _) hv
  exact Int.lt_of_lt_of_le Int.one_pos (hown.trans hle)

theorem uses_new {w : VNetVrfObject} (hnew : n ∉ vnets) (hw : w.tunnels_ = ∅) (name : String)
    (key : nh_key_t) : uses (vnets.insert n w) name key = uses vnets name key := by
  have hzero : w.uses name key = 0 := by
    unfold VNetVrfObject.uses
    rw [hw]
    split <;> rfl
  unfold uses
  rw [Table.sum_insert, AList.lookup_eq_none.mpr hnew, hzero]
  simp

theorem uses_erase (hv : vnets.lookup n = some v) (hnone : ∀ p, v.tunnels_.lookup p = none)
    (name : String) (key : nh_key_t) : uses (vnets.erase n) name key = uses vnets name key := by
  have hzero : v.uses name key = 0 := by
    unfold VNetVrfObject.uses
    split
    · refine (Table.sum_congr (g := fun _ _ => 0) fun p endp hp => ?_).trans ?_
      · rw [hnone p] at hp
        cases hp
      · simp [Table.sum]
    · rfl
  unfold uses
  rw [Table.sum_erase, hv, Option.map_some, Option.getD_some, hzero, sub_zero]

/-- Nobody uses a tunnel that no VNET has. -/
theorem uses_unused {name : String} (h : ∀ {n v}, vnets.lookup n = some v → v.tunnel_ ≠ name)
    (key : nh_key_t) : uses vnets name key = 0 := by
  refine (Table.sum_congr (g := fun _ _ => 0) fun n v hv => ?_).trans ?_
  · exact if_neg (h hv)
  · simp [Table.sum]

end Uses

/-! ### The tunnels -/

/-- An active tunnel has the maps of virtual routers. -/
def AllVrf (s : Vxlan.St) : Prop :=
  ∀ {n t}, s.vxlan_tunnel_table_.lookup n = some t → t.active_ = true →
    t.tunnel_map_ = (.VRID_TO_VNI, .VNI_TO_VRID)

theorem AllVrf.same {s s' : Vxlan.St} (h : AllVrf s) (hs : Vxlan.SameTunnels s s') : AllVrf s' := by
  intro n t ht hon
  have hsame := hs n
  rw [ht, Option.map_some] at hsame
  obtain ⟨t₀, ht₀, heq⟩ := Option.map_eq_some_iff.mp hsame.symm
  obtain ⟨hactive, hmap⟩ := Prod.mk.inj heq
  exact hmap.symm.trans (h ht₀ (hactive.trans hon))

theorem same_mem {s s' : Vxlan.St} (hs : Vxlan.SameTunnels s s') (name : String) :
    name ∈ s'.vxlan_tunnel_table_ ↔ name ∈ s.vxlan_tunnel_table_ := by
  have hsame := congrArg Option.isSome (hs name)
  rw [Option.isSome_map, Option.isSome_map] at hsame
  rw [← AList.lookup_isSome, ← AList.lookup_isSome, hsame]

/-- The map of a VNET is made when its tunnel is active or can be made so. -/
theorem AllVrf.createVxlanTunnelMap {s : Vxlan.St} {t : VxlanTunnel} {ok : Vxlan.SaiCall → Bool}
    {name : String} (h : AllVrf s) (ht : s.vxlan_tunnel_table_.lookup name = some t)
    (hok : t.active_ = true ∨ Created ok) (vni encap decap encap_ttl : ℕ) :
    ∃ s' b, s.createVxlanTunnelMap ok name .TUNNEL_MAP_T_VIRTUAL_ROUTER vni encap decap encap_ttl =
        (s', .ok b) ∧ AllVrf s' ∧
      ∀ n, n ∈ s'.vxlan_tunnel_table_ ↔ n ∈ s.vxlan_tunnel_table_ := by
  obtain ⟨a, t', hprep, hon, hmap⟩ : ∃ a t', t.activate ok .TUNNEL_MAP_T_VIRTUAL_ROUTER encap_ttl
      s.asic = (a, t') ∧ t'.active_ = true ∧ t'.tunnel_map_ = (.VRID_TO_VNI, .VNI_TO_VRID) := by
    unfold VxlanTunnel.activate
    cases hactive : t.active_ with
    | true => exact ⟨_, _, rfl, hactive, h ht hactive⟩
    | false =>
      obtain ⟨hdecap, hencap, htunnel, hterm⟩ :=
        hok.resolve_left (by rw [hactive]; exact Bool.noConfusion)
      unfold VxlanTunnel.createTunnel Vxlan.Asic.create_tunnel_map Vxlan.Asic.create_tunnel
        Vxlan.Asic.create_tunnel_termination
      simp only [hdecap, hencap, htunnel, hterm, reduceCtorEq, if_false, if_true]
      exact ⟨_, _, rfl, rfl, rfl⟩
  have hstore : ∀ {a' t''}, t''.tunnel_map_ = t'.tunnel_map_ → AllVrf (s.store name a' t'') ∧
      ∀ n, n ∈ (s.store name a' t'').vxlan_tunnel_table_ ↔ n ∈ s.vxlan_tunnel_table_ := by
    intro a' t'' hmap'
    refine ⟨fun {n u} hu hactive => ?_, fun n => Table.mem_insert_of_mem (Table.mem_of_lookup ht)⟩
    rcases Table.lookup_insert_iff.mp hu with ⟨-, rfl⟩ | ⟨-, hu⟩
    · exact hmap'.trans hmap
    · exact h hu hactive
  unfold Vxlan.St.createVxlanTunnelMap
  rw [ht]
  dsimp only
  rw [hprep]
  dsimp only
  have hencap : t'.tunnel_map_.1 ≠ .MAP_TO_INVALID := by rw [hmap]; exact nofun
  have hdecap : t'.tunnel_map_.2 ≠ .MAP_TO_INVALID := by rw [hmap]; exact nofun
  rcases Vxlan.create_entry_or hencap a (ok .create_encap_entry) t'.ids_.tunnel_encap_id vni 0 encap
    true with he | ⟨i, a', he⟩
  · rw [VxlanTunnel.addEncapMapperEntry, he]
    exact ⟨_, false, rfl, hstore rfl⟩
  rw [VxlanTunnel.addEncapMapperEntry, he]
  dsimp only
  rcases Vxlan.create_entry_or hdecap a' (ok .create_decap_entry) t'.ids_.tunnel_decap_id vni 0
    decap false with hd | ⟨j, a'', hd⟩
  · rw [VxlanTunnel.addDecapMapperEntry, hd]
    exact ⟨_, false, rfl, hstore rfl⟩
  · rw [VxlanTunnel.addDecapMapperEntry, hd]
    exact ⟨_, true, rfl, hstore rfl⟩

/-! ### The invariant -/

structure Inv (s : St) : Prop extends Mirrors s where
  once : ∀ {n v}, s.vnet_table_.lookup n = some v → ∀ p,
    v.routes_.lookup p = none ∨ v.tunnels_.lookup p = none
  ids : ∀ {n v}, s.vnet_table_.lookup n = some v → v.vr_id ≠ Vxlan.SAI_NULL_OBJECT_ID
  tunnel : ∀ {n v}, s.vnet_table_.lookup n = some v →
    v.tunnel_ ∈ s.vxlan.vxlan_tunnel_table_
  vrf : AllVrf s.vxlan
  observers : s.routeOrch.next_hop_observers_ = ∅
  next_pos : 0 < s.asic.next

/-- What is kept, and what a step is to do. -/
def Kept (s : St) (e : Event) : Prop := Inv (s.step e) ∧ Returns s e

theorem Kept.of {e : Event} {s' : St} {done : Bool} (hrun : s.run e = (s', .returns done))
    (h : Inv s') (hne : ∀ sai n f, e ≠ .addVNet sai n f) : Kept s e := by
  have hstep : s.step e = s' := congrArg Prod.fst hrun
  exact ⟨hstep ▸ h, ⟨done, congrArg Prod.snd hrun⟩, fun he => absurd he (hne _ _ _)⟩

section Steps

variable {vnet n : String} {v' : VNetVrfObject} {vx : Vxlan.St} {ro : VNetRoute.St}
  {routes' : Table (Vxlan.sai_object_id_t × IpPrefix) Vxlan.sai_object_id_t}

/-- The observers are not among what the VNETs keep. -/
theorem Inv.observed (h : Inv s) (hro : ro.next_hop_observers_ = ∅) :
    Inv { s with routeOrch := ro } :=
  { h with observers := hro }

/-- The tunnels change, with the next hops counted as before. -/
theorem Inv.tunnels (h : Inv s) (hcount : Counted vx (uses s.vnet_table_)) (hvrf : AllVrf vx)
    (hmem : ∀ n, n ∈ s.vxlan.vxlan_tunnel_table_ → n ∈ vx.vxlan_tunnel_table_) :
    Inv { s with vxlan := vx } :=
  { h with next_hops := hcount, vrf := hvrf, tunnel := fun hv => hmem _ (h.tunnel hv) }

/-- The routes of a VNET change, with their entries and their next hops. -/
theorem Inv.replace (h : Inv s) (hv : s.vnet_table_.lookup n = some v)
    (htun : v'.tunnel_ = v.tunnel_) (hvr : v'.vr_id = v.vr_id)
    (honce : ∀ p, v'.routes_.lookup p = none ∨ v'.tunnels_.lookup p = none)
    (hinst : Installed (s.vnet_table_.insert n v') routes')
    (hcount : Counted vx (uses (s.vnet_table_.insert n v'))) (hvrf : AllVrf vx)
    (hmem : ∀ n, n ∈ s.vxlan.vxlan_tunnel_table_ → n ∈ vx.vxlan_tunnel_table_) :
    Inv ({ s with vxlan := vx, asic := { s.asic with routes := routes' } }.setVNet n v') := by
  have hold : ∀ {n' u}, (s.vnet_table_.insert n v').lookup n' = some u →
      (u = v' ∨ s.vnet_table_.lookup n' = some u) := by
    intro n' u hu
    exact (Table.lookup_insert_iff.mp hu).imp And.right And.right
  refine ⟨⟨hinst, hcount⟩, fun {n' u} hu p => ?_, fun {n' u} hu => ?_, fun {n' u} hu => ?_, hvrf,
    h.observers, h.next_pos⟩
  · rcases hold hu with rfl | hu
    · exact honce p
    · exact h.once hu p
  · rcases hold hu with rfl | hu
    · rw [hvr]
      exact h.ids hv
    · exact h.ids hu
  · rcases hold hu with rfl | hu
    · rw [htun]
      exact hmem _ (h.tunnel hv)
    · exact hmem _ (h.tunnel hu)

theorem hasRoute_iff {q : IpPrefix} :
    v.hasRoute q = true ↔ (v.routes_.lookup q).isSome ∨ (v.tunnels_.lookup q).isSome := by
  rw [VNetVrfObject.hasRoute, Bool.or_eq_true]

/-- A VNET that counts no routes has none. -/
theorem routeless (h : v.getRouteCount = 0) :
    (∀ p, v.hasRoute p = false) ∧ ∀ p, v.tunnels_.lookup p = none := by
  have hempty : ∀ {V : Type} (t : Table IpPrefix V), t.entries.length = 0 →
      ∀ p, t.lookup p = none := by
    intro V t ht p
    cases hp : t.lookup p with
    | none => rfl
    | some x =>
      have hmem : (⟨p, x⟩ : Sigma fun _ : IpPrefix => V) ∈ t.entries := Table.mem_entries.mpr hp
      rw [List.eq_nil_of_length_eq_zero ht] at hmem
      cases hmem
  obtain ⟨hroutes, htunnels⟩ := Nat.add_eq_zero_iff.mp h
  refine ⟨fun p => ?_, hempty _ htunnels⟩
  rw [VNetVrfObject.hasRoute, hempty _ hroutes p, hempty _ htunnels p]
  rfl

/-- A tunnel route is added where none is. -/
theorem kept_setTunnelRoute (h : Inv s) {endp : tunnelEndpoint}
    (hsafe : Safe s (.setTunnelRoute sai vnet p endp)) :
    Kept s (.setTunnelRoute sai vnet p endp) := by
  have hkeep : ∀ {s' done}, s.setTunnelRoute sai vnet p endp = (s', .returns done) → Inv s' →
      Kept s (.setTunnelRoute sai vnet p endp) := fun heq h => Kept.of heq h nofun
  unfold St.setTunnelRoute at hkeep
  cases hv : s.vnet_table_.lookup vnet with
  | none =>
    rw [hv] at hkeep
    exact hkeep rfl h
  | some v =>
    rw [hv] at hkeep
    dsimp only at hkeep
    cases hset : s.vrSet v with
    | none =>
      rw [hset] at hkeep
      exact hkeep rfl h
    | some vr_set =>
      rw [hset] at hkeep
      dsimp only at hkeep
      rcases h.next_hops.createNextHopTunnel (h.tunnel hv) sai.vxlan endp.key with
        heq | ⟨vx, nh_id, heq, hne, hcount, hsame⟩
      · rw [heq] at hkeep
        exact hkeep rfl h
      -- the next hop is there, so the routes can be installed
      have hfree := (hsafe v vr_set hv hset).resolve_left fun hand => by
        have hfail : s.vxlan.createNextHopTunnel sai.vxlan v.tunnel_ endp.key =
            (s.vxlan, .error .runtime_error) := by
          obtain ⟨t, ht⟩ := Option.isSome_iff_exists.mp (AList.lookup_isSome.mpr (h.tunnel hv))
          have hnone := hand.1
          rw [Vxlan.St.nextHopRef, ht, Option.bind_some] at hnone
          unfold Vxlan.St.createNextHopTunnel
          rw [ht]
          dsimp only
          rw [VxlanTunnel.getNextHop, hnone, Option.getD_none, if_neg (fun hne => hne rfl),
            Vxlan.Asic.create_nexthop_tunnel, hand.2]
          rfl
        rw [hfail] at heq
        cases (Prod.mk.inj heq).2
      obtain ⟨hpeers, hnodup, hin⟩ := vrSet_eq_some hset
      obtain ⟨routes', hadd, hiff⟩ := addRoutes_all nh_id hnodup hfree
      rw [heq] at hkeep
      dsimp only at hkeep
      rw [if_neg hne, hadd] at hkeep
      have hno : v.hasRoute p = false := by
        by_contra hhas
        have hr := (hin v.vr_id).mpr (.inl rfl)
        refine (hfree _ hr).2 ((h.installed.routes _ _).mpr ⟨vnet, v, hv, ?_, .inl rfl⟩)
        exact Bool.not_eq_false _ ▸ hhas
      have hnone : v.routes_.lookup p = none ∧ v.tunnels_.lookup p = none := by
        rw [VNetVrfObject.hasRoute, Bool.or_eq_false_iff] at hno
        exact ⟨Option.not_isSome_iff_eq_none.mp (by rw [hno.1]; exact Bool.noConfusion),
          Option.not_isSome_iff_eq_none.mp (by rw [hno.2]; exact Bool.noConfusion)⟩
      have hv' : v.addTunnelRoute p endp =
          { v with tunnels_ := v.tunnels_.insert p endp } := by
        rw [VNetVrfObject.addTunnelRoute, hno]
        rfl
      rw [hv'] at hkeep
      refine hkeep rfl (h.replace hv rfl rfl (fun q => ?_) ?_ ?_ (AllVrf.same h.vrf hsame)
        fun n hn => (same_mem hsame n).mpr hn)
      · by_cases hq : q = p
        · exact .inl (hq ▸ hnone.1)
        · refine (h.once hv q).imp_right fun hq' => ?_
          show (v.tunnels_.insert p endp).lookup q = none
          rw [Table.lookup_insert_eq, if_neg hq, hq']
      · refine h.installed.add hv rfl rfl (fun q => ?_) hpeers
          (fun r hr => (hfree r ((hin r).mpr hr)).2) fun r q => ?_
        · rw [hasRoute_iff, hasRoute_iff]
          show _ ∨ ((v.tunnels_.insert p endp).lookup q).isSome ↔ _
          rw [Table.lookup_insert_eq]
          by_cases hq : q = p
          · simp [hq]
          · simp [hq]
        · rw [hiff, hin]
      · exact hcount.congr (uses_add hv hnone.2)

/-- A route whose entries are removed goes, with the use of its next hop. -/
theorem Inv.removeRoute (h : Inv s) (hv : s.vnet_table_.lookup vnet = some v)
    (hp : v.hasRoute p = true) (hrem : Removable s sai v p)
    (hroutes : ∀ r q, (r, q) ∈ routes' ↔
      ¬ (q = p ∧ InRouters s.vnet_table_ v r) ∧ (r, q) ∈ s.asic.routes) :
    ∃ s', (s.setRoutes routes').removeRoute sai vnet v p = (s', none) ∧ Inv s' := by
  unfold St.removeRoute
  cases hendp : v.tunnels_.lookup p with
  | some endp =>
    obtain ⟨t, ht⟩ := Option.isSome_iff_exists.mp (AList.lookup_isSome.mpr (h.tunnel hv))
    -- the route uses its next hop, so this is there
    obtain ⟨nh, hnh⟩ : ∃ nh, t.nh_tunnels_.lookup endp.key = some nh := by
      have hcount := h.next_hops.count ht endp.key
      have hpos := uses_pos hv hendp
      cases hnh : t.nh_tunnels_.lookup endp.key with
      | some nh => exact ⟨nh, rfl⟩
      | none =>
        rw [hnh] at hcount
        exact absurd hcount (ne_of_lt hpos)
    obtain ⟨vx, heq, hcount, hsame⟩ := h.next_hops.removeNextHopTunnel ht hnh
      (hrem endp t nh hendp ht hnh)
    have heq' : (s.setRoutes routes').vxlan.removeNextHopTunnel sai.vxlan v.tunnel_ endp.key =
        (vx, .ok true) := heq
    dsimp only
    rw [heq']
    have hroute := (h.once hv p).resolve_right (by rw [hendp]; exact nofun)
    refine ⟨_, rfl, h.replace hv rfl rfl (fun q => ?_) ?_ ?_ (AllVrf.same h.vrf hsame)
      fun n hn => (same_mem hsame n).mpr hn⟩
    · refine (h.once hv q).imp_right fun hq => ?_
      show (v.tunnels_.erase p).lookup q = none
      rw [Table.lookup_erase_eq, hq, ite_self]
    · refine h.installed.remove hv rfl rfl hp (fun q => ?_) hroutes
      rw [hasRoute_iff, hasRoute_iff]
      show _ ∨ ((v.tunnels_.erase p).lookup q).isSome ↔ _
      rw [Table.lookup_erase_eq]
      by_cases hq : q = p
      · subst hq
        simp [hroute]
      · simp [hq]
    · exact hcount.congr (uses_remove hv hendp)
  | none =>
    refine ⟨_, rfl, h.replace hv rfl rfl (fun q => ?_) ?_ ?_ h.vrf fun n hn => hn⟩
    · refine (h.once hv q).imp_left fun hq => ?_
      show (v.routes_.erase p).lookup q = none
      rw [Table.lookup_erase_eq, hq, ite_self]
    · refine h.installed.remove hv rfl rfl hp (fun q => ?_) hroutes
      rw [hasRoute_iff, hasRoute_iff]
      show ((v.routes_.erase p).lookup q).isSome ∨ _ ↔ _
      rw [Table.lookup_erase_eq]
      by_cases hq : q = p
      · subst hq
        simp [hendp]
      · simp [hq]
    · exact h.next_hops.congr (uses_routes hv)

/-- The entries of a route are there, and removing them leaves those of the others. -/
theorem Inv.delRoutes (h : Inv s) (hv : s.vnet_table_.lookup vnet = some v)
    (hp : v.hasRoute p = true) (hset : s.vrSet v = some vr_set)
    (hok : ∀ r ∈ vr_set, sai.route r = true) :
    ∃ routes', St.delRoutes sai p vr_set s.asic.routes = (routes', true) ∧
      ∀ r q, (r, q) ∈ routes' ↔
        ¬ (q = p ∧ InRouters s.vnet_table_ v r) ∧ (r, q) ∈ s.asic.routes := by
  obtain ⟨-, hnodup, hin⟩ := vrSet_eq_some hset
  have hthere : ∀ r ∈ vr_set, sai.route r = true ∧ (r, p) ∈ s.asic.routes := fun r hr =>
    ⟨hok r hr, (h.installed.routes r p).mpr ⟨vnet, v, hv, hp, (hin r).mp hr⟩⟩
  obtain ⟨routes', heq, hiff⟩ := delRoutes_all hnodup hthere
  refine ⟨routes', heq, fun r q => ?_⟩
  rw [hiff, hin]

/-- No router is null, so that none is skipped. -/
theorem Inv.filter_vrSet (h : Inv s) (hv : s.vnet_table_.lookup vnet = some v)
    (hset : s.vrSet v = some vr_set) :
    vr_set.filter (· ≠ Vxlan.SAI_NULL_OBJECT_ID) = vr_set := by
  obtain ⟨-, -, hin⟩ := vrSet_eq_some hset
  refine List.filter_eq_self.mpr fun r hr => decide_eq_true ?_
  rcases (hin r).mp hr with rfl | ⟨peer, -, u, hu, rfl⟩
  · exact h.ids hv
  · exact h.ids hu

theorem kept_delTunnelRoute (h : Inv s) (hsafe : Safe s (.delTunnelRoute sai vnet p)) :
    Kept s (.delTunnelRoute sai vnet p) := by
  have hkeep : ∀ {s' done}, s.delTunnelRoute sai vnet p = (s', .returns done) → Inv s' →
      Kept s (.delTunnelRoute sai vnet p) := fun heq h => Kept.of heq h nofun
  unfold St.delTunnelRoute at hkeep
  cases hv : s.vnet_table_.lookup vnet with
  | none =>
    rw [hv] at hkeep
    exact hkeep rfl h
  | some v =>
    rw [hv] at hkeep
    dsimp only at hkeep
    cases hset : s.vrSet v with
    | none =>
      rw [hset] at hkeep
      exact hkeep rfl h
    | some vr_set =>
      rw [hset] at hkeep
      dsimp only at hkeep
      rcases hsafe v vr_set hv hset with hfirst | ⟨hp, hok, hrem⟩
      · obtain ⟨hroutes, hfail⟩ := delRoutes_none hfirst
        have hne : vr_set ≠ [] := by
          rintro rfl
          exact nomatch ((vrSet_eq_some hset).2.2 v.vr_id).mpr (.inl rfl)
        have heq : St.delRoutes sai p vr_set s.asic.routes = (s.asic.routes, false) :=
          Prod.ext hroutes (hfail hne)
        rw [heq] at hkeep
        exact hkeep rfl h
      · obtain ⟨routes', hdel, hiff⟩ := h.delRoutes hv hp hset hok
        obtain ⟨s', heq, hinv⟩ := h.removeRoute hv hp hrem hiff
        rw [hdel] at hkeep
        dsimp only at hkeep
        rw [if_pos hp, heq] at hkeep
        exact hkeep rfl hinv

theorem kept_delRoute (h : Inv s) {env : Env} (hsafe : Safe s (.delRoute env sai vnet p)) :
    Kept s (.delRoute env sai vnet p) := by
  have hkeep : ∀ {s' done}, s.delRoute env sai vnet p = (s', .returns done) → Inv s' →
      Kept s (.delRoute env sai vnet p) := fun heq h => Kept.of heq h nofun
  obtain ⟨hsyncd, hsafe⟩ := hsafe
  -- without observers the route is only forgotten
  obtain ⟨ro, hro, hobs⟩ : ∃ ro, s.routeOrch.delRoute p = .ok ro ∧
      ro.next_hop_observers_ = ∅ := by
    obtain ⟨entry, hentry⟩ := Option.isSome_iff_exists.mp (AList.lookup_isSome.mpr hsyncd)
    unfold VNetRoute.St.delRoute
    rw [hentry, h.observers]
    exact ⟨_, rfl, h.observers⟩
  have h := h.observed hobs
  unfold St.delRoute at hkeep
  rw [hro] at hkeep
  dsimp only at hkeep
  cases hv : s.vnet_table_.lookup vnet with
  | none =>
    rw [hv] at hkeep
    exact hkeep rfl h
  | some v =>
    rw [hv] at hkeep
    dsimp only at hkeep
    obtain ⟨htunnel, hsafe⟩ := hsafe v hv
    cases hp : v.hasRoute p with
    | false =>
      rw [if_pos hp] at hkeep
      exact hkeep rfl h
    | true =>
      rw [if_neg (by rw [hp]; exact nofun)] at hkeep
      obtain ⟨nh, hnh⟩ : ∃ nh, v.routes_.lookup p = some nh := by
        rcases hasRoute_iff.mp hp with hsome | hsome
        · exact Option.isSome_iff_exists.mp hsome
        · rw [htunnel] at hsome
          cases hsome
      rw [hnh] at hkeep
      dsimp only at hkeep
      by_cases hsub : St.isSubnet nh ∧ St.rif env nh = none
      · rw [if_pos hsub] at hkeep
        exact hkeep rfl h
      rw [if_neg hsub] at hkeep
      cases hset : s.vrSet v with
      | none =>
        have hset' : { s with routeOrch := ro }.vrSet v = none := hset
        rw [hset'] at hkeep
        exact hkeep rfl h
      | some vr_set =>
        have hset' : { s with routeOrch := ro }.vrSet v = some vr_set := hset
        rw [hset'] at hkeep
        dsimp only at hkeep
        cases hvia : St.via env nh with
        | missing =>
          rw [hvia] at hkeep
          exact hkeep rfl h
        | ecmp =>
          rw [hvia] at hkeep
          exact hkeep rfl h
        | found nh_id =>
          rw [hvia] at hkeep
          obtain ⟨routes', hdel, hiff⟩ :=
            h.delRoutes hv hp hset' (hsafe nh vr_set nh_id hnh hset hvia)
          have hrem : Removable { s with routeOrch := ro } sai v p := by
            intro endp t nh' hendp
            rw [htunnel] at hendp
            cases hendp
          obtain ⟨s', heq, hinv⟩ := h.removeRoute hv hp hrem hiff
          dsimp only at hkeep
          rw [h.filter_vrSet hv hset', hdel] at hkeep
          dsimp only at hkeep
          rw [heq] at hkeep
          exact hkeep rfl hinv

theorem kept_setRoute (h : Inv s) {env : Env} {nh : NextHop}
    (hsafe : Safe s (.setRoute env sai vnet p nh)) : Kept s (.setRoute env sai vnet p nh) := by
  have hkeep : ∀ {s' done}, s.setRoute env sai vnet p nh = (s', .returns done) → Inv s' →
      Kept s (.setRoute env sai vnet p nh) := fun heq h => Kept.of heq h nofun
  have hobs : (s.routeOrch.addRoute vnet p nh).next_hop_observers_ = ∅ := by
    unfold VNetRoute.St.addRoute
    rw [h.observers]
    rfl
  have h := h.observed hobs
  unfold St.setRoute at hkeep
  dsimp only at hkeep
  cases hv : s.vnet_table_.lookup vnet with
  | none =>
    rw [hv] at hkeep
    exact hkeep rfl h
  | some v =>
    rw [hv] at hkeep
    dsimp only at hkeep
    by_cases hsub : St.isSubnet nh ∧ St.rif env nh = none
    · rw [if_pos hsub] at hkeep
      exact hkeep rfl h
    rw [if_neg hsub] at hkeep
    cases hset : s.vrSet v with
    | none =>
      have hset' : { s with routeOrch := s.routeOrch.addRoute vnet p nh }.vrSet v = none := hset
      rw [hset'] at hkeep
      exact hkeep rfl h
    | some vr_set =>
      have hset' : { s with routeOrch := s.routeOrch.addRoute vnet p nh }.vrSet v =
        some vr_set := hset
      rw [hset'] at hkeep
      dsimp only at hkeep
      cases hvia : St.via env nh with
      | missing =>
        rw [hvia] at hkeep
        exact hkeep rfl h
      | ecmp =>
        rw [hvia] at hkeep
        exact hkeep rfl h
      | found nh_id =>
        rw [hvia] at hkeep
        dsimp only at hkeep
        rw [h.filter_vrSet hv hset'] at hkeep
        obtain ⟨hpeers, hnodup, hin⟩ := vrSet_eq_some hset
        by_cases hp : v.hasRoute p = true
        · -- the entries are there, and so is the route
          have hthere : ∀ r ∈ vr_set, (r, p) ∈ s.asic.routes := fun r hr =>
            (h.installed.routes r p).mpr ⟨vnet, v, hv, hp, (hin r).mp hr⟩
          rw [addRoutes_none sai nh_id hthere, VNetVrfObject.addRoute, if_pos hp] at hkeep
          have hlook : ∀ n, (s.vnet_table_.insert vnet v).lookup n =
              s.vnet_table_.lookup n := by
            intro n
            rw [Table.lookup_insert_eq]
            split
            · next heq => rw [heq, hv]
            · rfl
          refine hkeep rfl (h.replace hv rfl rfl (h.once hv) ?_ ?_ h.vrf fun n hn => hn)
          · exact h.installed.congr (fun _ => by rw [hlook]) fun _ _ _ => hlook _
          · refine h.next_hops.congr fun name key => ?_
            rw [uses_insert hv]
            exact add_sub_cancel_right _ _
        · have hfree := (hsafe v vr_set nh_id hv hset hvia).resolve_left hp
          obtain ⟨routes', hadd, hiff⟩ := addRoutes_all nh_id hnodup hfree
          rw [hadd] at hkeep
          have hno : v.hasRoute p = false := Bool.not_eq_true _ ▸ hp
          have hnone : v.tunnels_.lookup p = none := by
            rw [VNetVrfObject.hasRoute, Bool.or_eq_false_iff] at hno
            exact Option.not_isSome_iff_eq_none.mp (by rw [hno.2]; exact Bool.noConfusion)
          rw [VNetVrfObject.addRoute, if_neg hp] at hkeep
          refine hkeep rfl (h.replace hv rfl rfl (fun q => ?_) ?_ ?_ h.vrf fun n hn => hn)
          · by_cases hq : q = p
            · exact .inr (hq ▸ hnone)
            · refine (h.once hv q).imp_left fun hq' => ?_
              show (v.routes_.insert p nh).lookup q = none
              rw [Table.lookup_insert_eq, if_neg hq, hq']
          · refine h.installed.add hv rfl rfl (fun q => ?_) hpeers
              (fun r hr => (hfree r ((hin r).mpr hr)).2) fun r q => ?_
            · rw [hasRoute_iff, hasRoute_iff]
              show ((v.routes_.insert p nh).lookup q).isSome ∨ _ ↔ _
              rw [Table.lookup_insert_eq]
              by_cases hq : q = p
              · simp [hq]
              · simp [hq]
            · rw [hiff, hin]
          · exact h.next_hops.congr (uses_routes hv)

/-- A new VNET has no routes, and is no peer of one that has. -/
theorem Inv.new (h : Inv s) (hnew : vnet ∉ s.vnet_table_) (hroutes : v.routes_ = ∅)
    (htunnels : v.tunnels_ = ∅) (hid : v.vr_id ≠ Vxlan.SAI_NULL_OBJECT_ID)
    (hcount : Counted vx (uses s.vnet_table_)) (hvrf : AllVrf vx)
    (hmem : ∀ n, n ∈ vx.vxlan_tunnel_table_ ↔ n ∈ s.vxlan.vxlan_tunnel_table_)
    (htun : v.tunnel_ ∈ vx.vxlan_tunnel_table_) {a : Asic} (ha : a.routes = s.asic.routes)
    (hpos : 0 < a.next) :
    Inv { s with vxlan := vx, asic := a, vnet_table_ := s.vnet_table_.insert vnet v } := by
  have hnone : ∀ p, v.hasRoute p = false := by
    intro p
    rw [VNetVrfObject.hasRoute, hroutes, htunnels]
    rfl
  have hold : ∀ {n u}, (s.vnet_table_.insert vnet v).lookup n = some u →
      (u = v ∨ s.vnet_table_.lookup n = some u) := by
    intro n u hu
    exact (Table.lookup_insert_iff.mp hu).imp And.right And.right
  refine ⟨⟨?_, hcount.congr (uses_new hnew htunnels)⟩, fun {n u} hu p => ?_, fun {n u} hu => ?_,
    fun {n u} hu => ?_, hvrf, h.observers, hpos⟩
  · show Installed (s.vnet_table_.insert vnet v) a.routes
    rw [ha]
    refine h.installed.congr (fun {n u p} hp => ?_) fun {n u p peer} hu hp hpeer => ?_
    · rw [Table.lookup_insert_iff]
      constructor
      · rintro (⟨-, rfl⟩ | ⟨-, hu⟩)
        · rw [hnone] at hp
          cases hp
        · exact hu
      · refine fun hu => .inr ⟨?_, hu⟩
        rintro rfl
        exact hnew (Table.mem_of_lookup hu)
    · rw [Table.lookup_insert_eq, if_neg]
      rintro rfl
      exact hnew (h.installed.peers hu hp peer hpeer)
  · rcases hold hu with rfl | hu
    · exact .inl (by rw [hroutes]; rfl)
    · exact h.once hu p
  · rcases hold hu with rfl | hu
    · exact hid
    · exact h.ids hu
  · rcases hold hu with rfl | hu
    · exact htun
    · exact (hmem _).mpr (h.tunnel hu)

theorem kept_addVNet (h : Inv s) {f : VNetFields} (hsafe : Safe s (.addVNet sai vnet f)) :
    Kept s (.addVNet sai vnet f) := by
  have hkeep : ∀ {s' done}, s.addVNet sai vnet f = (s', .returns done) → Inv s' →
      (∀ {n v}, s.vnet_table_.lookup n = some v → s'.vnet_table_.lookup n = some v) →
      Kept s (.addVNet sai vnet f) := by
    intro s' done heq h hold
    have hstep : s.step (.addVNet sai vnet f) = s' := congrArg Prod.fst heq
    refine ⟨hstep ▸ h, ⟨done, congrArg Prod.snd heq⟩, fun _ n v hv => ?_⟩
    rw [hstep]
    exact hold hv
  unfold St.addVNet at hkeep
  by_cases htun : f.vxlan_tunnel ∉ s.vxlan.vxlan_tunnel_table_
  · rw [if_pos htun] at hkeep
    exact hkeep rfl h fun hv => hv
  rw [if_neg htun] at hkeep
  obtain ⟨t, ht⟩ := Option.isSome_iff_exists.mp (AList.lookup_isSome.mpr (not_not.mp htun))
  obtain ⟨hnew, hready⟩ := hsafe t ht
  rw [if_neg hnew] at hkeep
  -- the router of the VNET, if it can be made
  cases hobj : s.createObj sai f with
  | none =>
    rw [hobj] at hkeep
    exact hkeep rfl h fun hv => hv
  | some made =>
    obtain ⟨vr_id, a⟩ := made
    have hmade : vr_id ≠ Vxlan.SAI_NULL_OBJECT_ID ∧ a.routes = s.asic.routes ∧ 0 < a.next ∧
        ¬ (f.scope ≠ "default" ∧ sai.create_router = false) := by
      unfold St.createObj at hobj
      split at hobj
      · next hscope =>
          obtain ⟨rfl, rfl⟩ := Prod.mk.inj (Option.some.inj hobj)
          exact ⟨Nat.one_ne_zero, rfl, h.next_pos, fun hand => hand.1 hscope⟩
      · split at hobj
        · next hok =>
            obtain ⟨rfl, rfl⟩ := Prod.mk.inj (Option.some.inj hobj)
            refine ⟨Nat.pos_iff_ne_zero.mp h.next_pos, rfl, Nat.succ_pos _, fun hand => ?_⟩
            rw [hand.2] at hok
            cases hok
        · cases hobj
    obtain ⟨hid, hroutes, hpos, hnot⟩ := hmade
    obtain ⟨vx, b, heq, hvrf, hmem⟩ := AllVrf.createVxlanTunnelMap h.vrf ht
      (hready.resolve_left hnot) (f.vni % 2 ^ 32) vr_id vr_id VXLAN_ENCAP_TTL
    have hcount := h.next_hops.createVxlanTunnelMap sai.vxlan f.vxlan_tunnel
      .TUNNEL_MAP_T_VIRTUAL_ROUTER (f.vni % 2 ^ 32) vr_id vr_id VXLAN_ENCAP_TTL
    rw [heq] at hcount
    rw [hobj] at hkeep
    dsimp only at hkeep
    rw [heq] at hkeep
    refine hkeep rfl ?_ fun {n v} hv => Table.lookup_insert_iff.mpr (.inr ⟨?_, hv⟩)
    · exact h.new hnew rfl rfl hid hcount hvrf hmem ((hmem _).mpr (not_not.mp htun)) hroutes hpos
    · rintro rfl
      exact hnew (Table.mem_of_lookup hv)

/-- A VNET without routes goes, when no peer of one that has routes. -/
theorem Inv.erase (h : Inv s) (hv : s.vnet_table_.lookup vnet = some v)
    (hroutes : v.getRouteCount = 0)
    (hpeer : ∀ n v', s.vnet_table_.lookup n = some v' → vnet ∈ v'.peer_list_ →
      v'.getRouteCount = 0) (sai : Sai) :
    Inv { s with
      asic := St.destroy s.asic sai v.vr_id, vnet_table_ := s.vnet_table_.erase vnet } := by
  obtain ⟨hnone, hno⟩ := routeless hroutes
  have hold : ∀ {n u}, (s.vnet_table_.erase vnet).lookup n = some u →
      s.vnet_table_.lookup n = some u := fun hu => (Table.lookup_erase_iff.mp hu).2
  have hasic : (St.destroy s.asic sai v.vr_id).routes = s.asic.routes ∧
      (St.destroy s.asic sai v.vr_id).next = s.asic.next := by
    unfold St.destroy
    split <;> exact ⟨rfl, rfl⟩
  refine ⟨⟨?_, h.next_hops.congr (uses_erase hv hno)⟩, fun hu => h.once (hold hu),
    fun hu => h.ids (hold hu), fun hu => h.tunnel (hold hu), h.vrf, h.observers, ?_⟩
  · show Installed (s.vnet_table_.erase vnet) (St.destroy s.asic sai v.vr_id).routes
    rw [hasic.1]
    refine h.installed.congr (fun {n u p} hp => ?_) fun {n u p peer} hu hp hmem => ?_
    · rw [Table.lookup_erase_iff]
      refine ⟨And.right, fun hu => ⟨?_, hu⟩⟩
      rintro rfl
      rw [hv] at hu
      obtain rfl := Option.some.inj hu
      rw [hnone] at hp
      cases hp
    · rw [Table.lookup_erase_eq, if_neg]
      rintro rfl
      rw [(routeless (hpeer n u hu hmem)).1] at hp
      cases hp
  · show 0 < (St.destroy s.asic sai v.vr_id).next
    rw [hasic.2]
    exact h.next_pos

theorem kept_delVNet (h : Inv s) (hsafe : Safe s (.delVNet sai vnet)) :
    Kept s (.delVNet sai vnet) := by
  have hkeep : ∀ {s' done}, s.delVNet sai vnet = (s', .returns done) → Inv s' →
      Kept s (.delVNet sai vnet) := fun heq h => Kept.of heq h nofun
  unfold St.delVNet at hkeep
  cases hv : s.vnet_table_.lookup vnet with
  | none =>
    rw [hv] at hkeep
    exact hkeep rfl h
  | some v =>
    rw [hv] at hkeep
    dsimp only at hkeep
    by_cases hroutes : v.getRouteCount = 0
    swap
    · rw [if_pos hroutes] at hkeep
      exact hkeep rfl h
    rw [if_neg (not_not.mpr hroutes)] at hkeep
    obtain ⟨vx, b, heq, hcount, htable⟩ :=
      h.next_hops.removeVxlanTunnelMap sai.vxlan v.tunnel_ v.vni_
    have hinv := h.tunnels hcount (fun {n t} ht => h.vrf (htable ▸ ht)) fun n hn => htable ▸ hn
    rw [heq] at hkeep
    cases b with
    | false => exact hkeep rfl hinv
    | true => exact hkeep rfl (hinv.erase hv hroutes (hsafe v hv hroutes (by rw [heq])) sai)

/-- A tunnel that is added is not active, and no VNET has it yet. -/
theorem kept_addTunnel (h : Inv s) (name : String) (src_ip : IpAddress)
    (dst_ip : Option IpAddress) : Kept s (.addTunnel name src_ip dst_ip) := by
  have hunused : name ∉ s.vxlan.vxlan_tunnel_table_ →
      ∀ key, uses s.vnet_table_ name key = 0 := by
    refine fun hnew key => uses_unused (fun {n v} hv heq => hnew ?_) key
    rw [← heq]
    exact h.tunnel hv
  have hcount := h.next_hops.addTunnel src_ip dst_ip hunused
  refine Kept.of rfl (h.tunnels hcount ?_ ?_) nofun
  · rcases Vxlan.St.addTunnel_cases s.vxlan name src_ip dst_ip with heq | ⟨-, dst, heq⟩
    · rw [heq]
      exact h.vrf
    · rw [heq]
      intro n t ht hactive
      rcases Table.lookup_insert_iff.mp ht with ⟨-, rfl⟩ | ⟨-, ht⟩
      · cases hactive
      · exact h.vrf ht hactive
  · intro n hn
    rcases Vxlan.St.addTunnel_cases s.vxlan name src_ip dst_ip with heq | ⟨-, dst, heq⟩
    · rw [heq]
      exact hn
    · rw [heq]
      exact (AList.mem_insert _).mpr (.inr hn)

end Steps

/-! ### Runs -/

theorem inv_init : Inv init where
  installed := {
    routes := fun r p => by
      refine iff_of_false (AList.notMem_empty _) ?_
      rintro ⟨name, v, hv, -⟩
      cases hv
    disjoint := fun _ hv => nomatch hv
    peers := fun hv => nomatch hv }
  next_hops := {
    count := fun ht => nomatch ht
    pos := fun ht => nomatch ht
    owned := Owned.empty.congr (fun _ => rfl) fun i => iff_of_false (AList.notMem_empty i) id
    given := nofun
    next_pos := Nat.one_pos }
  once := fun hv => nomatch hv
  ids := fun hv => nomatch hv
  tunnel := fun hv => nomatch hv
  vrf := fun ht => nomatch ht
  observers := rfl
  next_pos := Nat.two_pos

theorem kept_step (h : Inv s) {e : Event} (hsafe : Safe s e) : Kept s e := by
  cases e with
  | addTunnel name src_ip dst_ip => exact kept_addTunnel h name src_ip dst_ip
  | addVNet sai vnet f => exact kept_addVNet h hsafe
  | delVNet sai vnet => exact kept_delVNet h hsafe
  | setRoute env sai vnet p nh => exact kept_setRoute h hsafe
  | delRoute env sai vnet p => exact kept_delRoute h hsafe
  | setTunnelRoute sai vnet p endp => exact kept_setTunnelRoute h hsafe
  | delTunnelRoute sai vnet p => exact kept_delTunnelRoute h hsafe

def allOk : Sai := ⟨fun _ => true, true, true, fun _ => true⟩

def vnet1 : VNetFields := ⟨"vtep", 8000, [], none, ""⟩

def vnetPrefix : IpPrefix := ⟨.v4 ⟨[100, 100, 1, 0], rfl⟩, 24, by decide⟩

def vnetEndpoint : tunnelEndpoint :=
  ⟨.v4 ⟨[10, 1, 0, 32], rfl⟩, ⟨[0, 18, 52, 86, 120, 154], rfl⟩, 8000⟩

/-- A VNET of a tunnel, and a tunnel route of it. -/
def vnetEvents : List Event :=
  [.addTunnel "vtep" (.v4 ⟨[10, 1, 0, 1], rfl⟩) none, .addVNet allOk "Vnet_1" vnet1,
    .setTunnelRoute allOk "Vnet_1" vnetPrefix vnetEndpoint]

/-- A second SET of the tunnel route. -/
def vnetRepeated : List Event :=
  vnetEvents ++ [.setTunnelRoute allOk "Vnet_1" vnetPrefix vnetEndpoint]

end Orchagent.VNet
