/-
Orchagent/TunnelDecapOrch.lean

Tunnels that are decapsulated (`TunnelDecapOrch`).

A tunnel has an entry of the ASIC for every address at which it ends.  No two tunnels have one
address: an address that is taken is left out.  A SET of a tunnel that exists applies each field
as it is read, before the next one has been found valid.

The addresses are kept themselves, where the source keeps their texts: no two have one text
(`IpAddress.ofString_to_string`).  The ASIC numbers its objects.
-/
import Sonic.Common.Table
import Sonic.Common.Tokenize
import Sonic.Lib.OrderedSet
import Sonic.Orchagent.CoppOrch
import Sonic.Orchagent.IpPrefix

namespace Orchagent.TunnelDecap

open Std (ExtTreeMap)
open Swss

abbrev sai_object_id_t := Copp.sai_object_id_t

/-! ### Addresses -/

def IP_DELIMITER : Char := ','

/-- `IpAddresses`: a set of addresses, in their order. -/
structure IpAddresses where
  m_ips : List IpAddress
  ordered : OrderedSet.Ordered IpAddress.rank m_ips
  deriving DecidableEq

namespace IpAddresses

def empty : IpAddresses := ⟨[], List.Pairwise.nil⟩

def add (ips : IpAddresses) (ip : IpAddress) : IpAddresses :=
  ⟨OrderedSet.insert IpAddress.rank ip ips.m_ips, ips.ordered.insert⟩

/-- The constructor from a text; `none` is an exception. -/
def ofString (ipsStr : String) : Option IpAddresses :=
  ((tokenize ipsStr IP_DELIMITER).mapM fun ip => IpAddress.ofString ip.toList).map
    fun ips => ips.foldl add empty

end IpAddresses

/-! ### The data -/

structure TunnelTermEntry where
  tunnel_term_id : sai_object_id_t
  ip_address : IpAddress
  deriving DecidableEq

structure TunnelEntry where
  tunnel_id : sai_object_id_t
  overlay_intf_id : sai_object_id_t
  tunnel_term_info : List TunnelTermEntry
  deriving DecidableEq

/-- A tunnel of the ASIC.  A mode that is the empty text is what the attribute before it has
left in the union of values. -/
structure Tunnel where
  overlay_interface : sai_object_id_t
  encap_src_ip : Option IpAddress
  ecn_mode : String
  ttl_mode : String
  dscp_mode : String
  deriving DecidableEq

/-- An entry of the termination table of the ASIC. -/
structure TermTableEntry where
  action_tunnel_id : sai_object_id_t
  dst_ip : IpAddress
  deriving DecidableEq

structure Asic where
  /-- the next object -/
  next : sai_object_id_t
  router_interfaces : Finset sai_object_id_t
  tunnels : ExtTreeMap sai_object_id_t Tunnel
  terms : ExtTreeMap sai_object_id_t TermTableEntry

structure St where
  tunnelTable : ExtTreeMap String TunnelEntry
  existingIps : Finset IpAddress
  asic : Asic

def init : St := ⟨∅, ∅, ⟨0, ∅, ∅, ∅⟩⟩

/-- The answers of the ASIC while one field is applied, or a tunnel is created or removed: then
no address gets two entries, and no object is removed twice. -/
structure Sai where
  create_router_interface : Bool
  create_tunnel : Bool
  create_tunnel_term_table_entry : IpAddress → Bool
  set_tunnel_attribute : Bool
  remove_tunnel_term_table_entry : sai_object_id_t → Bool
  remove_tunnel : Bool
  remove_router_interface : Bool

variable (s : St) (sai : Sai)

/-! ### Termination entries -/

/-- The addresses of a tunnel change. -/
def modifyInfo (key : String) (f : List TunnelTermEntry → List TunnelTermEntry) : St :=
  { s with tunnelTable := s.tunnelTable.modify key fun tunnel_info =>
      { tunnel_info with tunnel_term_info := f tunnel_info.tunnel_term_info } }

/-- An entry is created and recorded. -/
def createTerm (tunnelKey : String) (tunnel_id : sai_object_id_t) (ip : IpAddress) : St :=
  let s' := modifyInfo s tunnelKey (· ++ [⟨s.asic.next, ip⟩])
  { s' with
    existingIps := insert ip s.existingIps
    asic.next := s.asic.next + 1
    asic.terms := s.asic.terms.insert s.asic.next ⟨tunnel_id, ip⟩ }

/-- `addDecapTunnelTermEntries`, from an address on. -/
def addDecapTunnelTermEntries (s : St) (tunnelKey : String) (tunnel_id : sai_object_id_t) :
    List IpAddress → St × Bool
  | [] => (s, true)
  | ip :: tunnel_ips =>
    if ip ∈ s.existingIps then addDecapTunnelTermEntries s tunnelKey tunnel_id tunnel_ips
    else if sai.create_tunnel_term_table_entry ip then
      addDecapTunnelTermEntries (createTerm s tunnelKey tunnel_id ip) tunnelKey tunnel_id
        tunnel_ips
    else (s, false)

/-- An entry is removed, and its address is free. -/
def dropTerm (t : TunnelTermEntry) : St :=
  { s with
    existingIps := s.existingIps.erase t.ip_address
    asic.terms := s.asic.terms.erase t.tunnel_term_id }

def removeDecapTunnelTermEntry (t : TunnelTermEntry) : St × Bool :=
  if sai.remove_tunnel_term_table_entry t.tunnel_term_id then (dropTerm s t, true) else (s, false)

/-- The loop of `setIpAttribute` over the original addresses. -/
def keepTerms (s : St) (key : String) (new_ip_addresses : IpAddresses) :
    List TunnelTermEntry → St × Bool
  | [] => (s, true)
  | t :: rest =>
    if t.ip_address ∉ new_ip_addresses.m_ips then
      match removeDecapTunnelTermEntry s sai t with
      | (s, false) => (s, false)
      | (s, true) => keepTerms s key new_ip_addresses rest
    else keepTerms (modifyInfo s key (· ++ [t])) key new_ip_addresses rest

/-- `setIpAttribute`, of a tunnel with the entry `tunnel_info`. -/
def setIpAttribute (key : String) (tunnel_info : TunnelEntry) (new_ip_addresses : IpAddresses) :
    St × Bool :=
  match keepTerms sai (modifyInfo s key fun _ => []) key new_ip_addresses
      tunnel_info.tunnel_term_info with
  | (s, false) => (s, false)
  | (s, true) =>
    addDecapTunnelTermEntries sai s key tunnel_info.tunnel_id new_ip_addresses.m_ips

/-- A mode of a tunnel, by the field that gives it. -/
def Tunnel.setMode (tunnel : Tunnel) (field value : String) : Tunnel :=
  if field = "ecn_mode" then { tunnel with ecn_mode := value }
  else if field = "ttl_mode" then { tunnel with ttl_mode := value }
  else if field = "dscp_mode" then { tunnel with dscp_mode := value }
  else tunnel

/-- `setTunnelAttribute`; the value has been checked. -/
def setTunnelAttribute (field value : String) (existing_tunnel_id : sai_object_id_t) : St × Bool :=
  if sai.set_tunnel_attribute then
    let tunnels := s.asic.tunnels.modify existing_tunnel_id (·.setMode field value)
    ({ s with asic.tunnels := tunnels }, true)
  else (s, false)

/-! ### Tunnels -/

/-- What the fields of a SET say. -/
structure Fields where
  tunnel_type : String
  ip_addresses : IpAddresses
  src_ip : Option IpAddress
  dscp_mode : String
  ecn_mode : String
  ttl_mode : String
  deriving DecidableEq

def Fields.empty : Fields := ⟨"", .empty, none, "", "", ""⟩

/-- An overlay interface and a tunnel are created and recorded. -/
def createTunnel (key : String) (f : Fields) : St :=
  let overlayIfId := s.asic.next
  let tunnel_id := s.asic.next + 1
  { s with
    tunnelTable := s.tunnelTable.insert key ⟨tunnel_id, overlayIfId, []⟩
    asic.next := s.asic.next + 2
    asic.router_interfaces := insert overlayIfId s.asic.router_interfaces
    asic.tunnels := s.asic.tunnels.insert tunnel_id
      ⟨overlayIfId, f.src_ip, f.ecn_mode, f.ttl_mode, f.dscp_mode⟩ }

/-- `addDecapTunnel`. -/
def addDecapTunnel (key : String) (f : Fields) : St × Bool :=
  if sai.create_router_interface then
    if sai.create_tunnel then
      addDecapTunnelTermEntries sai (createTunnel s key f) key (s.asic.next + 1)
        f.ip_addresses.m_ips
    else
      -- the overlay interface stays
      ({ s with
        asic.next := s.asic.next + 1
        asic.router_interfaces := insert s.asic.next s.asic.router_interfaces }, false)
  else (s, false)

/-- The loop of `removeDecapTunnel` over the addresses. -/
def removeTerms (s : St) : List TunnelTermEntry → St × Bool
  | [] => (s, true)
  | t :: rest =>
    match removeDecapTunnelTermEntry s sai t with
    | (s, false) => (s, false)
    | (s, true) => removeTerms s rest

/-- `removeDecapTunnel`, of a tunnel with the entry `tunnel_info`. -/
def removeDecapTunnel (key : String) (tunnel_info : TunnelEntry) : St × Bool :=
  match removeTerms sai s tunnel_info.tunnel_term_info with
  | (s, false) => (s, false)
  | (s, true) =>
    let s := modifyInfo s key fun _ => []
    if sai.remove_tunnel then
      let s := { s with asic.tunnels := s.asic.tunnels.erase tunnel_info.tunnel_id }
      if sai.remove_router_interface then
        ({ s with
          tunnelTable := s.tunnelTable.erase key
          asic.router_interfaces := s.asic.router_interfaces.erase tunnel_info.overlay_intf_id },
          true)
      else (s, false)
    else (s, false)

/-! ### Tasks -/

/-- A field of a SET, when it is accepted. -/
def readField (f : Fields) (i : FieldValueTuple) : Option Fields :=
  if i.1 = "tunnel_type" then
    if i.2 ≠ "IPINIP" then none else some { f with tunnel_type := i.2 }
  else if i.1 = "dst_ip" then
    (IpAddresses.ofString i.2).map fun ip_addresses => { f with ip_addresses }
  else if i.1 = "src_ip" then
    (IpAddress.ofString i.2.toList).map fun src_ip => { f with src_ip := some src_ip }
  else if i.1 = "dscp_mode" then
    if i.2 ≠ "uniform" ∧ i.2 ≠ "pipe" then none else some { f with dscp_mode := i.2 }
  else if i.1 = "ecn_mode" then
    if i.2 ≠ "copy_from_outer" ∧ i.2 ≠ "standard" then none else some { f with ecn_mode := i.2 }
  else if i.1 = "ttl_mode" then
    if i.2 ≠ "uniform" ∧ i.2 ≠ "pipe" then none else some { f with ttl_mode := i.2 }
  else some f

/-- A field of a SET is applied to a tunnel that exists; `f` has been read from it. -/
def applyField (key : String) (f : Fields) (i : FieldValueTuple) : St × Bool :=
  match s.tunnelTable[key]? with
  | none => (s, true)
  | some tunnel_info =>
    if i.1 = "dst_ip" then setIpAttribute s sai key tunnel_info f.ip_addresses
    else if i.1 = "dscp_mode" ∨ i.1 = "ecn_mode" ∨ i.1 = "ttl_mode" then
      setTunnelAttribute s sai i.1 i.2 tunnel_info.tunnel_id
    else (s, true)

/-- The loop over the fields of a SET: what they say, unless one is not valid, and whether all
that was applied was.  The answers while a field is applied are those of the number of fields
after it, and one. -/
def readFields (s : St) (sai : ℕ → Sai) (key : String) (f : Fields) :
    List FieldValueTuple → St × Option Fields × Bool
  | [] => (s, some f, true)
  | i :: rest =>
    match readField f i with
    | none => (s, none, true)
    | some f =>
      let (s', applied) := applyField s (sai (rest.length + 1)) key f i
      let (s', valid, all) := readFields s' sai key f rest
      (s', valid, applied && all)

/-- A turn of the loop over the tasks, and whether what it has done succeeded. -/
def handleTask (sai : ℕ → Sai) (t : KeyOpFieldsValuesTuple) : St × Bool :=
  if t.kfvOp = SET_COMMAND then
    if t.kfvKey ∈ s.tunnelTable then
      let (s, valid, applied) := readFields s sai t.kfvKey .empty t.kfvFieldsValues
      (s, valid.isSome && applied)
    else
      match t.kfvFieldsValues.foldlM readField .empty with
      | none => (s, false)
      | some f => addDecapTunnel s (sai 0) t.kfvKey f
  else if t.kfvOp = DEL_COMMAND then
    match s.tunnelTable[t.kfvKey]? with
    | none => (s, false)
    | some tunnel_info => removeDecapTunnel s (sai 0) t.kfvKey tunnel_info
  else (s, true)

/-- A task with the answers to its calls. -/
structure Task where
  kco : KeyOpFieldsValuesTuple
  sai : ℕ → Sai

def next (e : Task) : St := (handleTask s e.sai e.kco).1

end Orchagent.TunnelDecap
