/-
Orchagent/VxlanOrch.lean

VXLAN tunnels: `VxlanTunnel`, `VxlanTunnelOrch`, `VxlanTunnelMapOrch` and `VxlanVrfMapOrch`.

A tunnel in the ASIC is up to four objects: a map for each direction, the tunnel itself and an
entry that terminates it.  They are created when the tunnel is first needed, by whichever of
the three orchs needs it.  Entries of the maps are kept by the tunnel for the VNETs, and by the
orchs of their own tables for VLANs and VRFs.  The outcome of each SAI call of a task is given
(`ok`), so that a task may fail at any call; an object that is not there cannot be removed.
-/
import Sonic.Lib.Ownership
import Sonic.Orchagent.IpPrefix

namespace Orchagent.Vxlan

abbrev sai_object_id_t := ℕ
abbrev MacAddress := Sai.sai_mac_t

def SAI_NULL_OBJECT_ID : sai_object_id_t := 0

inductive MAP_T where
  | MAP_TO_INVALID | VNI_TO_VLAN_ID | VLAN_ID_TO_VNI | VRID_TO_VNI | VNI_TO_VRID
  | BRIDGE_TO_VNI | VNI_TO_BRIDGE
  deriving DecidableEq

inductive tunnel_map_type_t where
  | TUNNEL_MAP_T_VLAN | TUNNEL_MAP_T_BRIDGE | TUNNEL_MAP_T_VIRTUAL_ROUTER
  deriving DecidableEq

/-! ### The ASIC -/

/-- The SAI calls of a task, none of which a task makes twice. -/
inductive SaiCall where
  | create_decap_map | create_encap_map | create_tunnel | create_term
  | create_encap_entry | create_decap_entry | create_next_hop
  | remove_term | remove_tunnel | remove_encap_entry | remove_decap_entry | remove_next_hop
  deriving DecidableEq

/-- What is thrown: `at` of a map, or a call that fails. -/
inductive Thrown where
  | out_of_range | runtime_error
  deriving DecidableEq

structure Tunnel where
  decap_mapper : sai_object_id_t
  encap_mapper : sai_object_id_t
  src_ip : Option IpAddress
  encap_ttl : ℕ

structure TunnelTerm where
  action_tunnel_id : sai_object_id_t
  dst_ip : IpAddress
  /-- the other end of a tunnel between two points -/
  src_ip : Option IpAddress

inductive MapEntryValue where
  | object (id : sai_object_id_t)
  | vlan (vlan_id : ℕ)

structure MapEntry where
  map_t : MAP_T
  tunnel_map : sai_object_id_t
  /-- the value is the key of the entry, and the VNI its value -/
  encap : Bool
  value : MapEntryValue
  vni : ℕ

structure NextHopTunnel where
  ip : IpAddress
  tunnel_id : sai_object_id_t
  vni : ℕ
  mac : MacAddress

structure Asic where
  tunnel_maps : Table sai_object_id_t MAP_T
  tunnels : Table sai_object_id_t Tunnel
  terms : Table sai_object_id_t TunnelTerm
  map_entries : Table sai_object_id_t MapEntry
  next_hops : Table sai_object_id_t NextHopTunnel
  /-- identifiers below it have been given -/
  next : sai_object_id_t

namespace Asic

def create_tunnel_map (a : Asic) (ok : Bool) (map_t : MAP_T) :
    Except Thrown (sai_object_id_t × Asic) :=
  if map_t = .MAP_TO_INVALID then .ok (SAI_NULL_OBJECT_ID, a)
  else if ok then
    .ok (a.next, { a with tunnel_maps := a.tunnel_maps.insert a.next map_t, next := a.next + 1 })
  else .error .runtime_error

def create_tunnel_map_entry (a : Asic) (ok : Bool) (map_t : MAP_T)
    (tunnel_map_id : sai_object_id_t) (vni vlan_id : ℕ) (obj_id : sai_object_id_t)
    (encap : Bool) : Except Thrown (sai_object_id_t × Asic) :=
  if map_t = .MAP_TO_INVALID then .error .out_of_range
  else if ok then
    let value := if obj_id = SAI_NULL_OBJECT_ID then .vlan vlan_id else .object obj_id
    .ok (a.next, { a with
      map_entries := a.map_entries.insert a.next ⟨map_t, tunnel_map_id, encap, value, vni⟩
      next := a.next + 1 })
  else .error .runtime_error

def remove_tunnel_map_entry (a : Asic) (ok : Bool) (obj_id : sai_object_id_t) :
    Except Thrown Asic :=
  if obj_id = SAI_NULL_OBJECT_ID then .ok a
  else if ok ∧ obj_id ∈ a.map_entries then
    .ok { a with map_entries := a.map_entries.erase obj_id }
  else .error .runtime_error

def create_tunnel (a : Asic) (ok : Bool) (tunnel : Tunnel) :
    Except Thrown (sai_object_id_t × Asic) :=
  if ok then .ok (a.next, { a with tunnels := a.tunnels.insert a.next tunnel, next := a.next + 1 })
  else .error .runtime_error

def remove_tunnel (a : Asic) (ok : Bool) (tunnel_id : sai_object_id_t) : Except Thrown Asic :=
  if tunnel_id = SAI_NULL_OBJECT_ID then .ok a
  else if ok ∧ tunnel_id ∈ a.tunnels then .ok { a with tunnels := a.tunnels.erase tunnel_id }
  else .error .runtime_error

def create_tunnel_termination (a : Asic) (ok : Bool) (term : TunnelTerm) :
    Except Thrown (sai_object_id_t × Asic) :=
  if ok then .ok (a.next, { a with terms := a.terms.insert a.next term, next := a.next + 1 })
  else .error .runtime_error

def remove_tunnel_termination (a : Asic) (ok : Bool) (term_table_id : sai_object_id_t) :
    Except Thrown Asic :=
  if term_table_id = SAI_NULL_OBJECT_ID then .ok a
  else if ok ∧ term_table_id ∈ a.terms then .ok { a with terms := a.terms.erase term_table_id }
  else .error .runtime_error

def create_nexthop_tunnel (a : Asic) (ok : Bool) (nh : NextHopTunnel) :
    Except Thrown (sai_object_id_t × Asic) :=
  if ok then .ok (a.next, { a with next_hops := a.next_hops.insert a.next nh, next := a.next + 1 })
  else .error .runtime_error

def remove_next_hop (a : Asic) (ok : Bool) (nh_id : sai_object_id_t) : Except Thrown Asic :=
  if ok ∧ nh_id ∈ a.next_hops then .ok { a with next_hops := a.next_hops.erase nh_id }
  else .error .runtime_error

end Asic

/-! ### `VxlanTunnel` -/

structure tunnel_ids_t where
  tunnel_encap_id : sai_object_id_t
  tunnel_decap_id : sai_object_id_t
  tunnel_id : sai_object_id_t
  tunnel_term_id : sai_object_id_t
  deriving DecidableEq

structure nh_key_t where
  ip_addr : IpAddress
  mac_address : MacAddress
  vni : ℕ
  deriving DecidableEq

structure nh_tunnel_t where
  nh_id : sai_object_id_t
  ref_count : ℤ

structure VxlanTunnel where
  src_ip_ : IpAddress
  dst_ip_ : IpAddress
  active_ : Bool
  ids_ : tunnel_ids_t
  /-- the map of the encapsulation, and of the decapsulation -/
  tunnel_map_ : MAP_T × MAP_T
  tunnel_map_entries_ : Table ℕ (sai_object_id_t × sai_object_id_t)
  nh_tunnels_ : Table nh_key_t nh_tunnel_t

namespace VxlanTunnel

def new (srcIp dstIp : IpAddress) : VxlanTunnel :=
  ⟨srcIp, dstIp, false, ⟨0, 0, 0, 0⟩, (.MAP_TO_INVALID, .MAP_TO_INVALID), ∅, ∅⟩

/-- `createTunnel`; a tunnel that is not created keeps the identifiers of what is. -/
def createTunnel (ok : SaiCall → Bool) (encap decap : MAP_T) (encap_ttl : ℕ) (a : Asic)
    (t : VxlanTunnel) : Asic × VxlanTunnel :=
  let t := { t with ids_ := { t.ids_ with
    tunnel_decap_id := SAI_NULL_OBJECT_ID, tunnel_encap_id := SAI_NULL_OBJECT_ID } }
  match a.create_tunnel_map (ok .create_decap_map) decap with
  | .error _ => (a, t)
  | .ok (decap_id, a) =>
    let t := { t with ids_ := { t.ids_ with tunnel_decap_id := decap_id } }
    match a.create_tunnel_map (ok .create_encap_map) encap with
    | .error _ => (a, t)
    | .ok (encap_id, a) =>
      let t := { t with ids_ := { t.ids_ with tunnel_encap_id := encap_id } }
      match a.create_tunnel (ok .create_tunnel) ⟨decap_id, encap_id,
          if encap = .MAP_TO_INVALID then none else some t.src_ip_, encap_ttl⟩ with
      | .error _ => (a, t)
      | .ok (tunnel_id, a) =>
        let t := { t with ids_ := { t.ids_ with tunnel_id := tunnel_id } }
        match a.create_tunnel_termination (ok .create_term) ⟨tunnel_id, t.src_ip_,
            if t.dst_ip_.isZero then none else some t.dst_ip_⟩ with
        | .error _ => (a, t)
        | .ok (term_id, a) =>
          (a, { t with
            ids_ := { t.ids_ with tunnel_term_id := term_id }
            active_ := true
            tunnel_map_ := (encap, decap) })

/-- A tunnel that is not active is created, in `createVxlanTunnelMap`. -/
def activate (ok : SaiCall → Bool) (map : tunnel_map_type_t) (encap_ttl : ℕ) (a : Asic)
    (t : VxlanTunnel) : Asic × VxlanTunnel :=
  if t.active_ then (a, t)
  else match map with
    | .TUNNEL_MAP_T_VIRTUAL_ROUTER => t.createTunnel ok .VRID_TO_VNI .VNI_TO_VRID encap_ttl a
    | .TUNNEL_MAP_T_BRIDGE => t.createTunnel ok .BRIDGE_TO_VNI .VNI_TO_BRIDGE encap_ttl a
    | .TUNNEL_MAP_T_VLAN => (a, t)

def addEncapMapperEntry (ok : SaiCall → Bool) (a : Asic) (t : VxlanTunnel)
    (obj : sai_object_id_t) (vni : ℕ) : Except Thrown (sai_object_id_t × Asic) :=
  a.create_tunnel_map_entry (ok .create_encap_entry) t.tunnel_map_.1 t.ids_.tunnel_encap_id
    vni 0 obj true

def addDecapMapperEntry (ok : SaiCall → Bool) (a : Asic) (t : VxlanTunnel)
    (obj : sai_object_id_t) (vni : ℕ) : Except Thrown (sai_object_id_t × Asic) :=
  a.create_tunnel_map_entry (ok .create_decap_entry) t.tunnel_map_.2 t.ids_.tunnel_decap_id
    vni 0 obj false

def insertMapperEntry (t : VxlanTunnel) (encap decap : sai_object_id_t) (vni : ℕ) : VxlanTunnel :=
  { t with tunnel_map_entries_ := t.tunnel_map_entries_.insert vni (encap, decap) }

def getMapperEntry (t : VxlanTunnel) (vni : ℕ) : sai_object_id_t × sai_object_id_t :=
  (t.tunnel_map_entries_.lookup vni).getD (SAI_NULL_OBJECT_ID, SAI_NULL_OBJECT_ID)

def updateNextHop (t : VxlanTunnel) (key : nh_key_t) (nh_id : sai_object_id_t) : VxlanTunnel :=
  match t.nh_tunnels_.lookup key with
  | none => { t with nh_tunnels_ := t.nh_tunnels_.insert key ⟨nh_id, 1⟩ }
  | some _ => t

def getNextHop (t : VxlanTunnel) (key : nh_key_t) : sai_object_id_t :=
  ((t.nh_tunnels_.lookup key).map nh_tunnel_t.nh_id).getD SAI_NULL_OBJECT_ID

def incNextHopRefCount (t : VxlanTunnel) (key : nh_key_t) : VxlanTunnel :=
  { t with nh_tunnels_ := t.nh_tunnels_.update key ⟨SAI_NULL_OBJECT_ID, 0⟩ fun nh =>
      { nh with ref_count := nh.ref_count + 1 } }

/-- `removeNextHop`: the count goes down before the next hop is removed. -/
def removeNextHop (ok : SaiCall → Bool) (a : Asic) (t : VxlanTunnel) (key : nh_key_t) :
    Asic × VxlanTunnel × Except Thrown Bool :=
  match t.nh_tunnels_.lookup key with
  | none => (a, t, .ok false)
  | some nh =>
    let t := { t with
      nh_tunnels_ := t.nh_tunnels_.insert key { nh with ref_count := nh.ref_count - 1 } }
    if nh.ref_count - 1 = 0 then
      match a.remove_next_hop (ok .remove_next_hop) nh.nh_id with
      | .error e => (a, t, .error e)
      | .ok a => (a, { t with nh_tunnels_ := t.nh_tunnels_.erase key }, .ok true)
    else (a, t, .ok true)

end VxlanTunnel

/-! ### The orchs -/

/-- The two parts of a key of the tables of maps. -/
abbrev FullKey := String × String

structure vrf_map_entry_t where
  encap_id : sai_object_id_t
  decap_id : sai_object_id_t

structure St where
  vxlan_tunnel_table_ : Table String VxlanTunnel
  vxlan_tunnel_map_table_ : Table FullKey sai_object_id_t
  vxlan_vrf_table_ : Table FullKey vrf_map_entry_t
  vxlan_vrf_tunnel_ : Table String sai_object_id_t
  asic : Asic

def St.init : St := ⟨∅, ∅, ∅, ∅, ⟨∅, ∅, ∅, ∅, ∅, 1⟩⟩

/-- What a handler does with what is thrown: it catches `runtime_error` only. -/
def caught : Thrown → Except Thrown Bool
  | .runtime_error => .ok false
  | .out_of_range => .error .out_of_range

namespace St

def store (s : St) (tunnelName : String) (a : Asic) (t : VxlanTunnel) : St :=
  { s with asic := a, vxlan_tunnel_table_ := s.vxlan_tunnel_table_.insert tunnelName t }

/-- `VxlanTunnelOrch::createVxlanTunnelMap`. -/
def createVxlanTunnelMap (ok : SaiCall → Bool) (s : St) (tunnelName : String)
    (map : tunnel_map_type_t) (vni : ℕ) (encap decap : sai_object_id_t) (encap_ttl : ℕ) :
    St × Except Thrown Bool :=
  match s.vxlan_tunnel_table_.lookup tunnelName with
  | none => (s, .ok false)
  | some tunnel_obj =>
    let (a, t) := tunnel_obj.activate ok map encap_ttl s.asic
    match t.addEncapMapperEntry ok a encap vni with
    | .error e => (s.store tunnelName a t, caught e)
    | .ok (encap_id, a) =>
      match t.addDecapMapperEntry ok a decap vni with
      | .error e => (s.store tunnelName a t, caught e)
      | .ok (decap_id, a) =>
        (s.store tunnelName a (t.insertMapperEntry encap_id decap_id vni), .ok true)

/-- `VxlanTunnelOrch::removeVxlanTunnelMap`: the entry of the VNI is left in the tunnel. -/
def removeVxlanTunnelMap (ok : SaiCall → Bool) (s : St) (tunnelName : String) (vni : ℕ) :
    St × Except Thrown Bool :=
  match s.vxlan_tunnel_table_.lookup tunnelName with
  | none => (s, .ok false)
  | some tunnel_obj =>
    if tunnel_obj.active_ = false then (s, .ok false)
    else
      let mapper := tunnel_obj.getMapperEntry vni
      match s.asic.remove_tunnel_map_entry (ok .remove_encap_entry) mapper.1 with
      | .error e => (s, caught e)
      | .ok a =>
        match a.remove_tunnel_map_entry (ok .remove_decap_entry) mapper.2 with
        | .error e => ({ s with asic := a }, caught e)
        | .ok a => ({ s with asic := a }, .ok true)

/-- `VxlanTunnelOrch::addOperation`. -/
def addTunnel (s : St) (tunnel_name : String) (src_ip : IpAddress) (dst_ip : Option IpAddress) :
    St × Except Thrown Bool :=
  let zero : IpAddress :=
    if src_ip.isV4 then .v4 (List.Vector.replicate 4 0) else .v6 (List.Vector.replicate 16 0)
  let dst := dst_ip.getD zero
  if dst.isV4 ≠ src_ip.isV4 then (s, .ok true)
  else if tunnel_name ∈ s.vxlan_tunnel_table_ then (s, .ok true)
  else (s.store tunnel_name s.asic (.new src_ip dst), .ok true)

/-- A tunnel is added when there is none of its name. -/
theorem addTunnel_cases (s : St) (name : String) (src_ip : IpAddress) (dst_ip : Option IpAddress) :
    (s.addTunnel name src_ip dst_ip).1 = s ∨
    (name ∉ s.vxlan_tunnel_table_ ∧ ∃ dst,
      (s.addTunnel name src_ip dst_ip).1 = s.store name s.asic (.new src_ip dst)) := by
  unfold St.addTunnel
  dsimp only
  generalize dst_ip.getD _ = dst
  split
  · exact .inl rfl
  split
  · exact .inl rfl
  · next hnew => exact .inr ⟨hnew, dst, rfl⟩

/-- `VxlanTunnelOrch::delOperation`: neither the maps nor their entries are removed. -/
def delTunnel (ok : SaiCall → Bool) (s : St) (tunnel_name : String) : St × Except Thrown Bool :=
  match s.vxlan_tunnel_table_.lookup tunnel_name with
  | none => (s, .ok true)
  | some t =>
    match s.asic.remove_tunnel_termination (ok .remove_term) t.ids_.tunnel_term_id with
    | .error e => (s, caught e)
    | .ok a =>
      match a.remove_tunnel (ok .remove_tunnel) t.ids_.tunnel_id with
      | .error e => ({ s with asic := a }, caught e)
      | .ok a => ({ s with
          asic := a
          vxlan_tunnel_table_ := s.vxlan_tunnel_table_.erase tunnel_name }, .ok true)

/-- `VxlanTunnelMapOrch::addOperation`.  `vlan` is the VLAN, if there is one with the
identifier of the request. -/
def addTunnelMap (ok : SaiCall → Bool) (s : St) (full_tunnel_map_entry_name : FullKey)
    (vlan : Option ℕ) (vni : ℕ) : St × Except Thrown Bool :=
  match vlan with
  | none => (s, .ok false)
  | some vlan_id =>
    let vni_id := vni % 2 ^ 32
    if 2 ^ 24 ≤ vni_id then (s, .ok true)
    else match s.vxlan_tunnel_table_.lookup full_tunnel_map_entry_name.1 with
      | none => (s, .ok false)
      | some tunnel_obj =>
        let (a, t) :=
          if tunnel_obj.active_ then (s.asic, tunnel_obj)
          else tunnel_obj.createTunnel ok .MAP_TO_INVALID .VNI_TO_VLAN_ID 0 s.asic
        let s := s.store full_tunnel_map_entry_name.1 a t
        if full_tunnel_map_entry_name ∈ s.vxlan_tunnel_map_table_ then (s, .ok true)
        else match a.create_tunnel_map_entry (ok .create_decap_entry) .VNI_TO_VLAN_ID
            t.ids_.tunnel_decap_id vni_id vlan_id SAI_NULL_OBJECT_ID false with
          | .error e => (s, caught e)
          | .ok (tunnel_map_entry_id, a) => ({ s with
              asic := a
              vxlan_tunnel_map_table_ := s.vxlan_tunnel_map_table_.insert
                full_tunnel_map_entry_name tunnel_map_entry_id }, .ok true)

/-- `VxlanTunnelMapOrch::delOperation`. -/
def delTunnelMap (ok : SaiCall → Bool) (s : St) (full_tunnel_map_entry_name : FullKey) :
    St × Except Thrown Bool :=
  match s.vxlan_tunnel_map_table_.lookup full_tunnel_map_entry_name with
  | none => (s, .ok true)
  | some tunnel_map_entry_id =>
    match s.asic.remove_tunnel_map_entry (ok .remove_decap_entry) tunnel_map_entry_id with
    | .error e => (s, caught e)
    | .ok a => ({ s with
        asic := a
        vxlan_tunnel_map_table_ :=
          s.vxlan_tunnel_map_table_.erase full_tunnel_map_entry_name }, .ok true)

/-- `VxlanVrfMapOrch::addOperation`.  `vrf` is the router of the VRF, if there is one: the
tunnel is created whether it is active or not. -/
def addVrfMap (ok : SaiCall → Bool) (s : St) (full_map_entry_name : FullKey) (vni : ℕ)
    (vrf_name : String) (vrf : Option sai_object_id_t) : St × Except Thrown Bool :=
  match s.vxlan_tunnel_table_.lookup full_map_entry_name.1 with
  | none => (s, .ok false)
  | some tunnel_obj =>
    let vni_id := vni % 2 ^ 32
    if 2 ^ 24 ≤ vni_id then (s, .ok true)
    else if full_map_entry_name ∈ s.vxlan_vrf_table_ then (s, .ok true)
    else match vrf with
      | none => (s, .ok false)
      | some vrf_id =>
        let (a, t) := tunnel_obj.createTunnel ok .VRID_TO_VNI .VNI_TO_VRID 0 s.asic
        match t.addEncapMapperEntry ok a vrf_id vni_id with
        | .error e => (s.store full_map_entry_name.1 a t, caught e)
        | .ok (encap_id, a) =>
          match t.addDecapMapperEntry ok a vrf_id vni_id with
          | .error e => (s.store full_map_entry_name.1 a t, caught e)
          | .ok (decap_id, a) => ({ s.store full_map_entry_name.1 a t with
              vxlan_vrf_table_ :=
                s.vxlan_vrf_table_.insert full_map_entry_name ⟨encap_id, decap_id⟩
              vxlan_vrf_tunnel_ :=
                s.vxlan_vrf_tunnel_.insert vrf_name t.ids_.tunnel_id }, .ok true)

/-- `VxlanVrfMapOrch::delOperation`. -/
def delVrfMap (s : St) (_full_map_entry_name : FullKey) : St × Except Thrown Bool := (s, .ok true)

/-- `VxlanTunnelOrch::createNextHopTunnel`. -/
def createNextHopTunnel (ok : SaiCall → Bool) (s : St) (tunnelName : String) (key : nh_key_t) :
    St × Except Thrown sai_object_id_t :=
  match s.vxlan_tunnel_table_.lookup tunnelName with
  | none => (s, .ok SAI_NULL_OBJECT_ID)
  | some t =>
    let nh_id := t.getNextHop key
    if nh_id ≠ SAI_NULL_OBJECT_ID then
      (s.store tunnelName s.asic (t.incNextHopRefCount key), .ok nh_id)
    else match s.asic.create_nexthop_tunnel (ok .create_next_hop)
        ⟨key.ip_addr, t.ids_.tunnel_id, key.vni, key.mac_address⟩ with
      | .error e => (s, .error e)
      | .ok (nh_id, a) => (s.store tunnelName a (t.updateNextHop key nh_id), .ok nh_id)

/-- `VxlanTunnelOrch::removeNextHopTunnel`. -/
def removeNextHopTunnel (ok : SaiCall → Bool) (s : St) (tunnelName : String) (key : nh_key_t) :
    St × Except Thrown Bool :=
  match s.vxlan_tunnel_table_.lookup tunnelName with
  | none => (s, .ok false)
  | some t =>
    let (a, t, res) := t.removeNextHop ok s.asic key
    (s.store tunnelName a t, res)

end St

end Orchagent.Vxlan
