/-
Fpmsyncd/RouteSync.lean

Routes of the kernel as entries of the table of routes (`RouteSync::onRouteMsg`).

A route has a list of next hops, with a gateway or without.  The gateways and the names of the
interfaces become two texts, separated by commas; the zero address stands for no gateway, and
`unknown` for an interface that has no name.
-/
import Sonic.Common.Table
import Sonic.Orchagent.NextHop

namespace Fpmsyncd

open Orchagent (IpAddress AddressText)
open Swss (FieldValueTuple)

/-- `nl_addr2str` of libnl for the address of a gateway, which writes what `inet_pton` reads. -/
structure NlAddr where
  nl_addr2str : IpAddress → List Char
  text : ∀ addr, AddressText addr (nl_addr2str addr)

/-- `rtnl_nexthop`. -/
structure Nexthop where
  gateway : Option IpAddress
  ifindex : ℕ

/-- `rtnl_route_get_family`. -/
inductive Family where
  | AF_INET | AF_INET6

/-- What is written of a next hop without gateway. -/
def Family.zero : Family → List Char
  | .AF_INET => "0.0.0.0".toList
  | .AF_INET6 => "::".toList

/-- `rtnl_route_get_type`. -/
inductive RouteType where
  | RTN_BLACKHOLE | RTN_UNICAST | other

variable (nl : NlAddr) (getIfName : ℕ → Option (List Char))

def gatewayText (family : Family) (nexthop : Nexthop) : List Char :=
  match nexthop.gateway with
  | some addr => nl.nl_addr2str addr
  | none => family.zero

def ifNameText (nexthop : Nexthop) : List Char :=
  (getIfName nexthop.ifindex).getD "unknown".toList

/-- A text for each next hop, and commas between. -/
def separated (text : Nexthop → List Char) : List Nexthop → List Char
  | [] => []
  | [nexthop] => text nexthop
  | nexthop :: more => text nexthop ++ ',' :: separated text more

def getNextHopGw (family : Family) (nexthops : List Nexthop) : List Char :=
  separated (gatewayText nl family) nexthops

def getNextHopIf (nexthops : List Nexthop) : List Char := separated (ifNameText getIfName) nexthops

/-- The fields that are set for a new route; a route of another type or without next hops is
left out. -/
def newRoute (family : Family) (type : RouteType) (nexthops : List Nexthop) :
    Option (List FieldValueTuple) :=
  match type with
  | .RTN_BLACKHOLE => some [("blackhole", "true")]
  | .RTN_UNICAST =>
    if nexthops = [] then none
    else some [("nexthop", String.ofList (getNextHopGw nl family nexthops)),
      ("ifname", String.ofList (getNextHopIf getIfName nexthops))]
  | .other => none

theorem separated_eq (text : Nexthop → List Char) (nexthops : List Nexthop) :
    separated text nexthops = [','].intercalate (nexthops.map text) := by
  induction nexthops with
  | nil => rfl
  | cons nexthop more ih =>
    cases more with
    | nil => exact List.intercalate_singleton.symm
    | cons next more =>
      rw [separated, ih, List.map_cons, List.map_cons, List.map_cons,
        List.intercalate_cons_cons, List.append_assoc]
      · rfl
      · exact List.cons_ne_nil next more

end Fpmsyncd
