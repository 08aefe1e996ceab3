/-
Orchagent/VNetOrch.lean

VNETs as virtual routers: `VNetVrfObject`, `VNetOrch` and the route tasks of `VNetRouteOrch`.

A VNET has a virtual router, which is the default one when its scope is that.  A route of a
VNET is installed in its router and in those of its peers; a tunnel route has a next hop of
the tunnel of the VNET, which is counted.  The outcomes of the SAI calls of a task are given:
a route entry that is there cannot be created again, and one that is not cannot be removed.
-/
import Sonic.Lib.OrderedSet
import Sonic.Orchagent.VNetObservers
import Sonic.Orchagent.VxlanOrch

namespace Orchagent.VNet

open Vxlan (Thrown nh_key_t)
open VNetRoute (NextHop)

def VXLAN_ENCAP_TTL : ℕ := 128

/-- The default virtual router. -/
def gVirtualRouterId : Vxlan.sai_object_id_t := 1

/-! ### The data -/

structure tunnelEndpoint where
  ip : IpAddress
  mac : Vxlan.MacAddress
  vni : ℕ
  deriving DecidableEq

def tunnelEndpoint.key (endp : tunnelEndpoint) : nh_key_t := ⟨endp.ip, endp.mac, endp.vni⟩

/-- A VNET.  Of the router types it has the one of `vr_cntxt`, `ING_VR_VALID`. -/
structure VNetVrfObject where
  peer_list_ : List String
  tunnel_ : String
  vni_ : ℕ
  scope_ : String
  vr_id : Vxlan.sai_object_id_t
  tunnels_ : Table IpPrefix tunnelEndpoint
  routes_ : Table IpPrefix NextHop

namespace VNetVrfObject

variable (v : VNetVrfObject) (ipPrefix : IpPrefix)

def hasRoute : Bool := (v.routes_.lookup ipPrefix).isSome || (v.tunnels_.lookup ipPrefix).isSome

def addTunnelRoute (endp : tunnelEndpoint) : VNetVrfObject :=
  if v.hasRoute ipPrefix then v else { v with tunnels_ := v.tunnels_.insert ipPrefix endp }

def addRoute (nh : NextHop) : VNetVrfObject :=
  if v.hasRoute ipPrefix then v else { v with routes_ := v.routes_.insert ipPrefix nh }

def getRouteCount : ℕ := v.routes_.entries.length + v.tunnels_.entries.length

end VNetVrfObject

/-- The routers and the route entries that there are. -/
structure Asic where
  routers : Table Vxlan.sai_object_id_t (Option Vxlan.MacAddress)
  routes : Table (Vxlan.sai_object_id_t × IpPrefix) Vxlan.sai_object_id_t
  /-- identifiers below it have been given -/
  next : Vxlan.sai_object_id_t

structure St where
  vnet_table_ : Table String VNetVrfObject
  routeOrch : VNetRoute.St
  vxlan : Vxlan.St
  asic : Asic

/-- The outcomes of the calls of a task: those for the tunnels, for the router of the VNET and
for the route entry in each router. -/
structure Sai where
  vxlan : Vxlan.SaiCall → Bool
  create_router : Bool
  remove_router : Bool
  route : Vxlan.sai_object_id_t → Bool

/-- How a handler ends: an exception of `std::logic_error` is not caught in it, and neither a null
pointer nor a failed assertion is survived. -/
inductive Outcome where
  | returns (done : Bool)
  | throws (e : Thrown)
  | crashes
  deriving DecidableEq

/-- The router interfaces of the ports, and the next hops, that there are when a task runs. -/
structure Env where
  getPort : String → Option Vxlan.sai_object_id_t
  getNextHopId : IpAddress → String → Option Vxlan.sai_object_id_t

/-! ### VNETs -/

/-- The fields of a SET of a VNET. -/
structure VNetFields where
  vxlan_tunnel : String
  vni : ℕ
  peer_list : List String
  src_mac : Option Vxlan.MacAddress
  scope : String

namespace St

/-- The router that `createObj` makes for a VNET; `none` is a call that fails. -/
def createObj (s : St) (sai : Sai) (f : VNetFields) : Option (Vxlan.sai_object_id_t × Asic) :=
  if f.scope = "default" then some (gVirtualRouterId, s.asic)
  else if sai.create_router then
    some (s.asic.next, { s.asic with
      routers := s.asic.routers.insert s.asic.next f.src_mac, next := s.asic.next + 1 })
  else none

/-- The destructor of a VNET. -/
def destroy (a : Asic) (sai : Sai) (vr_id : Vxlan.sai_object_id_t) : Asic :=
  if sai.remove_router then { a with routers := a.routers.erase vr_id } else a

/-- `VNetOrch::addOperation`.  The object is made for a new VNET only, and used for any. -/
def addVNet (s : St) (sai : Sai) (vnet_name : String) (f : VNetFields) : St × Outcome :=
  if f.vxlan_tunnel ∉ s.vxlan.vxlan_tunnel_table_ then (s, .returns false)
  else if vnet_name ∈ s.vnet_table_ then (s, .crashes)
  else match s.createObj sai f with
    | none => (s, .returns false)
    | some (vr_id, a) =>
      let vni := f.vni % 2 ^ 32
      match s.vxlan.createVxlanTunnelMap sai.vxlan f.vxlan_tunnel .TUNNEL_MAP_T_VIRTUAL_ROUTER
          vni vr_id vr_id VXLAN_ENCAP_TTL with
      | (vxlan, .error e) => ({ s with vxlan := vxlan, asic := destroy a sai vr_id }, .throws e)
      | (vxlan, .ok _) => ({ s with
          vxlan := vxlan
          asic := a
          vnet_table_ := s.vnet_table_.insert vnet_name
            ⟨f.peer_list, f.vxlan_tunnel, vni, f.scope, vr_id, ∅, ∅⟩ }, .returns true)

/-- `VNetOrch::delOperation`. -/
def delVNet (s : St) (sai : Sai) (vnet_name : String) : St × Outcome :=
  match s.vnet_table_.lookup vnet_name with
  | none => (s, .returns true)
  | some v =>
    if v.getRouteCount ≠ 0 then (s, .returns false)
    else match s.vxlan.removeVxlanTunnelMap sai.vxlan v.tunnel_ v.vni_ with
      | (vxlan, .error e) => ({ s with vxlan := vxlan }, .throws e)
      | (vxlan, .ok false) => ({ s with vxlan := vxlan }, .returns false)
      | (vxlan, .ok true) => ({ s with
          vxlan := vxlan
          asic := destroy s.asic sai v.vr_id
          vnet_table_ := s.vnet_table_.erase vnet_name }, .returns true)

/-! ### Routes -/

/-- The routers of the VNETs of a list, if there are all of these. -/
def ingress (s : St) (vnets : List String) : Option (List Vxlan.sai_object_id_t) :=
  vnets.mapM fun vnet => (s.vnet_table_.lookup vnet).map VNetVrfObject.vr_id

/-- `vr_set`: the router of a VNET and those of its peers, if there are all of these. -/
def vrSet (s : St) (v : VNetVrfObject) : Option (List Vxlan.sai_object_id_t) :=
  (s.ingress v.peer_list_).map fun ids =>
    (v.vr_id :: ids).foldl (fun set id => OrderedSet.insert (fun id => id) id set) []

/-- `add_route` in the routers, up to the first that fails. -/
def addRoutes (sai : Sai) (pfx : IpPrefix) (nh_id : Vxlan.sai_object_id_t) :
    List Vxlan.sai_object_id_t → Table (Vxlan.sai_object_id_t × IpPrefix) Vxlan.sai_object_id_t →
    Table (Vxlan.sai_object_id_t × IpPrefix) Vxlan.sai_object_id_t × Bool
  | [], routes => (routes, true)
  | vr_id :: vr_set, routes =>
    if sai.route vr_id ∧ (vr_id, pfx) ∉ routes then
      addRoutes sai pfx nh_id vr_set (routes.insert (vr_id, pfx) nh_id)
    else (routes, false)

/-- `del_route` in the routers, up to the first that fails. -/
def delRoutes (sai : Sai) (pfx : IpPrefix) :
    List Vxlan.sai_object_id_t → Table (Vxlan.sai_object_id_t × IpPrefix) Vxlan.sai_object_id_t →
    Table (Vxlan.sai_object_id_t × IpPrefix) Vxlan.sai_object_id_t × Bool
  | [], routes => (routes, true)
  | vr_id :: vr_set, routes =>
    if sai.route vr_id ∧ (vr_id, pfx) ∈ routes then
      delRoutes sai pfx vr_set (routes.erase (vr_id, pfx))
    else (routes, false)

def setRoutes (s : St)
    (routes : Table (Vxlan.sai_object_id_t × IpPrefix) Vxlan.sai_object_id_t) : St :=
  { s with asic := { s.asic with routes := routes } }

def setVNet (s : St) (vnet : String) (v : VNetVrfObject) : St :=
  { s with vnet_table_ := s.vnet_table_.insert vnet v }

/-- `VNetVrfObject::removeRoute`: the next hop of a tunnel route goes first. -/
def removeRoute (s : St) (sai : Sai) (vnet : String) (v : VNetVrfObject) (ipPrefix : IpPrefix) :
    St × Option Thrown :=
  match v.tunnels_.lookup ipPrefix with
  | some endp =>
    match s.vxlan.removeNextHopTunnel sai.vxlan v.tunnel_ endp.key with
    | (vxlan, .error e) => ({ s with vxlan := vxlan }, some e)
    | (vxlan, .ok _) => ({ s with vxlan := vxlan }.setVNet vnet
        { v with tunnels_ := v.tunnels_.erase ipPrefix }, none)
  | none => (s.setVNet vnet { v with routes_ := v.routes_.erase ipPrefix }, none)

/-- A SET of a tunnel route: the next hop is counted before the route is installed.  The handler
catches what its creation throws, and is done. -/
def setTunnelRoute (s : St) (sai : Sai) (vnet : String) (ipPrefix : IpPrefix)
    (endp : tunnelEndpoint) : St × Outcome :=
  match s.vnet_table_.lookup vnet with
  | none => (s, .returns false)
  | some v =>
    match s.vrSet v with
    | none => (s, .returns false)
    | some vr_set =>
      match s.vxlan.createNextHopTunnel sai.vxlan v.tunnel_ endp.key with
      | (vxlan, .error .runtime_error) => ({ s with vxlan := vxlan }, .returns true)
      | (vxlan, .error .out_of_range) => ({ s with vxlan := vxlan }, .throws .out_of_range)
      | (vxlan, .ok nh_id) =>
        let s := { s with vxlan := vxlan }
        if nh_id = Vxlan.SAI_NULL_OBJECT_ID then (s, .returns true)
        else match addRoutes sai ipPrefix nh_id vr_set s.asic.routes with
          | (routes, false) => (s.setRoutes routes, .returns false)
          | (routes, true) =>
            ((s.setRoutes routes).setVNet vnet (v.addTunnelRoute ipPrefix endp),
              .returns true)

/-- A DEL of a tunnel route. -/
def delTunnelRoute (s : St) (sai : Sai) (vnet : String) (ipPrefix : IpPrefix) : St × Outcome :=
  match s.vnet_table_.lookup vnet with
  | none => (s, .returns true)
  | some v =>
    match s.vrSet v with
    | none => (s, .returns false)
    | some vr_set =>
      match delRoutes sai ipPrefix vr_set s.asic.routes with
      | (routes, false) => (s.setRoutes routes, .returns false)
      | (routes, true) =>
        let s := s.setRoutes routes
        if v.hasRoute ipPrefix then
          match s.removeRoute sai vnet v ipPrefix with
          | (s, none) => (s, .returns true)
          | (s, some .runtime_error) => (s, .returns true)
          | (s, some .out_of_range) => (s, .throws .out_of_range)
        else (s, .returns true)

/-- What a route leads to: a subnet by its interface, another one by its only next hop. -/
inductive Via where
  | found (nh_id : Vxlan.sai_object_id_t)
  | missing
  /-- a route of several next hops -/
  | ecmp

/-- `is_subnet`. -/
def isSubnet (nh : NextHop) : Bool :=
  nh.ips.length = 0 || IpAddress.v4 (List.Vector.replicate 4 0) ∈ nh.ips

/-- The interface of a subnet, if there is one. -/
def rif (env : Env) (nh : NextHop) : Option Vxlan.sai_object_id_t :=
  (env.getPort nh.ifname).bind fun m_rif_id =>
    if m_rif_id = Vxlan.SAI_NULL_OBJECT_ID then none else some m_rif_id

def via (env : Env) (nh : NextHop) : Via :=
  if isSubnet nh then
    match rif env nh with
    | some nh_id => .found nh_id
    | none => .missing
  else match nh.ips with
    | [ip] =>
      match env.getNextHopId ip nh.ifname with
      | some nh_id => .found nh_id
      | none => .missing
    | _ => .ecmp

/-- A SET of a route, after `addRoute` for the observers: a router whose entry fails ends the
loop, and the route is kept all the same. -/
def setRoute (s : St) (env : Env) (sai : Sai) (vnet : String) (ipPrefix : IpPrefix)
    (nh : NextHop) : St × Outcome :=
  let s := { s with routeOrch := s.routeOrch.addRoute vnet ipPrefix nh }
  match s.vnet_table_.lookup vnet with
  | none => (s, .returns false)
  | some v =>
    if isSubnet nh ∧ rif env nh = none then (s, .returns false)
    else match s.vrSet v with
      | none => (s, .returns false)
      | some vr_set =>
        match via env nh with
        | .missing => (s, .returns false)
        | .ecmp => (s, .returns true)
        | .found nh_id =>
          let routes := addRoutes sai ipPrefix nh_id
            (vr_set.filter (· ≠ Vxlan.SAI_NULL_OBJECT_ID)) s.asic.routes
          ((s.setRoutes routes.1).setVNet vnet (v.addRoute ipPrefix nh), .returns true)

/-- A DEL of a route, after `delRoute` for the observers, which asserts that the route was set.
`getRouteNextHop` throws for a tunnel route. -/
def delRoute (s : St) (env : Env) (sai : Sai) (vnet : String) (ipPrefix : IpPrefix) :
    St × Outcome :=
  match s.routeOrch.delRoute ipPrefix with
  | .error _ => (s, .crashes)
  | .ok routeOrch =>
    let s := { s with routeOrch := routeOrch }
    match s.vnet_table_.lookup vnet with
    | none => (s, .returns true)
    | some v =>
      if v.hasRoute ipPrefix = false then (s, .returns true)
      else match v.routes_.lookup ipPrefix with
        | none => (s, .throws .out_of_range)
        | some nh =>
          if isSubnet nh ∧ rif env nh = none then (s, .returns false)
          else match s.vrSet v with
            | none => (s, .returns false)
            | some vr_set =>
              match via env nh with
              | .missing => (s, .returns false)
              | .ecmp => (s, .returns true)
              | .found _ =>
                let routes := delRoutes sai ipPrefix
                  (vr_set.filter (· ≠ Vxlan.SAI_NULL_OBJECT_ID)) s.asic.routes
                match (s.setRoutes routes.1).removeRoute sai vnet v ipPrefix with
                | (s, none) => (s, .returns true)
                | (s, some .runtime_error) => (s, .returns true)
                | (s, some .out_of_range) => (s, .throws .out_of_range)

end St

def init : St := ⟨∅, VNetRoute.init, Vxlan.St.init, ⟨(∅ : Table _ _).insert 1 none, ∅, 2⟩⟩

end Orchagent.VNet
