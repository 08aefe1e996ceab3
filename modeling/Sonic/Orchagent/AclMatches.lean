/-
Orchagent/AclMatches.lean

The values of an ACL rule: `validateAddPriority` and `validateAddMatch` (aclorch.cpp).

An attribute of a rule is a name and a text.  The name says how the text is read: a list of
ports, the name of a kind of IP packets, a number, a number and a mask, a prefix or a range of
ports.  An exception of a reader rejects the attribute; the first element of an empty vector is
read where there is none (`Outcome.undefined`).
-/
import Sonic.Common.Tokenize
import Sonic.Lib.CInteger
import Sonic.Orchagent.IpPrefix

namespace Orchagent.AclMatch

open Inet (Bytes)
open Numeral Swss

abbrev sai_object_id_t := ℕ

/-! ### Names -/

def RULE_PRIORITY : String := "PRIORITY"

/-- The fields of `aclMatchLookup`. -/
inductive MatchField
  | IN_PORTS | OUT_PORTS | SRC_IP | DST_IP | SRC_IPV6 | DST_IPV6 | L4_SRC_PORT | L4_DST_PORT
  | ETHER_TYPE | IP_PROTOCOL | TCP_FLAGS | IP_TYPE | DSCP | L4_SRC_PORT_RANGE | L4_DST_PORT_RANGE
  | TC | ICMP_TYPE | ICMP_CODE | ICMPV6_TYPE | ICMPV6_CODE | TUNNEL_VNI | INNER_ETHER_TYPE
  | INNER_IP_PROTOCOL | INNER_L4_SRC_PORT | INNER_L4_DST_PORT
deriving DecidableEq

open MatchField in
def aclMatchLookup : List (String × MatchField) :=
  [("IN_PORTS", IN_PORTS), ("OUT_PORTS", OUT_PORTS), ("SRC_IP", SRC_IP), ("DST_IP", DST_IP),
    ("SRC_IPV6", SRC_IPV6), ("DST_IPV6", DST_IPV6), ("L4_SRC_PORT", L4_SRC_PORT),
    ("L4_DST_PORT", L4_DST_PORT), ("ETHER_TYPE", ETHER_TYPE), ("IP_PROTOCOL", IP_PROTOCOL),
    ("TCP_FLAGS", TCP_FLAGS), ("IP_TYPE", IP_TYPE), ("DSCP", DSCP), ("TC", TC),
    ("ICMP_TYPE", ICMP_TYPE), ("ICMP_CODE", ICMP_CODE), ("ICMPV6_TYPE", ICMPV6_TYPE),
    ("ICMPV6_CODE", ICMPV6_CODE), ("L4_SRC_PORT_RANGE", L4_SRC_PORT_RANGE),
    ("L4_DST_PORT_RANGE", L4_DST_PORT_RANGE), ("TUNNEL_VNI", TUNNEL_VNI),
    ("INNER_ETHER_TYPE", INNER_ETHER_TYPE), ("INNER_IP_PROTOCOL", INNER_IP_PROTOCOL),
    ("INNER_L4_SRC_PORT", INNER_L4_SRC_PORT), ("INNER_L4_DST_PORT", INNER_L4_DST_PORT)]

/-- The keys of `aclIpTypeLookup`. -/
def aclIpTypeLookup : List String :=
  ["ANY", "IP", "NON_IP", "IPV4ANY", "NON_IPv4", "IPV6ANY", "NON_IPv6", "ARP", "ARP_REQUEST",
    "ARP_REPLY"]

/-! ### The rule -/

/-- `sai_attribute_value_t`, as the attributes of an entry use it. -/
inductive MatchValue
  | objlist (list : List sai_object_id_t)
  /-- an enumerator of `sai_acl_ip_type_t`, by the name that the map has for it -/
  | ip_type (name : String)
  | number (data mask : ℕ)
  | ip4 (data mask : Bytes 4)
  | ip6 (data mask : Bytes 16)
  | u32range (min max : ℕ)

/-- The members of `AclRule` that the attributes are put in. -/
structure AclRule where
  m_priority : ℕ
  m_inPorts : List sai_object_id_t
  m_outPorts : List sai_object_id_t
  m_matches : MatchField → Option MatchValue

/-- What a call comes to: an answer, or a read behind the end of a vector. -/
inductive Outcome
  | returned (rule : AclRule) (accepted : Bool)
  | undefined

/-! ### The priority -/

/-- `AclRule::validateAddPriority`, where `m_minPriority` and `m_maxPriority` are the bounds of
the switch. -/
def AclRule.validateAddPriority (rule : AclRule) (m_minPriority m_maxPriority : ℕ)
    (attr_name attr_value : String) : AclRule × Bool :=
  if attr_name = RULE_PRIORITY then
    let r := strtol true attr_value.toList
    let m_priority := (r.number % 2 ^ 32).toNat
    ({ rule with m_priority := m_priority },
      !r.erange && r.endptr = [] && m_minPriority ≤ m_priority && m_priority ≤ m_maxPriority)
  else (rule, false)

/-! ### Readers of one value -/

/-- What a reader comes to.  An exception is caught by the caller and rejects the value. -/
inductive Parsed
  | value (v : MatchValue)
  | rejected
  | undefined

/-- `to_uint`; `none` is an exception.  `str[idx]` is the null character at the end of the text,
and it is one at a null character inside. -/
def to_uint (str : List Char) (max : ℕ) : Option ℕ :=
  match stoul0 str with
  | none => none
  | some (ret, rest) =>
    if rest.head?.getD '\x00' ≠ '\x00' then none
    else if max < ret then none
    else some ret

/-- A number of as many bits as `max` has: its mask has all of them. -/
def parseNumber (max : ℕ) (attr_value : String) : Parsed :=
  match to_uint attr_value.toList max with
  | none => .rejected
  | some data => .value (.number data max)

/-- "Support both exact value match and value/mask match": TCP flags and DSCP. -/
def parseMasked (max : ℕ) (attr_value : String) : Parsed :=
  match tokenize attr_value '/' with
  | [] => .undefined
  | data :: rest =>
    match to_uint data.toList max with
    | none => .rejected
    | some data =>
      match rest with
      | [mask] =>
        match to_uint mask.toList max with
        | none => .rejected
        | some mask => .value (.number data mask)
      | _ => .value (.number data max)

/-- `sscanf(…, "%d-%d", …)`: the two numbers, and what is left of the text. -/
def scanRange (attr_value : List Char) : Option (ℕ × ℕ × List Char) :=
  match scanU32 attr_value with
  | some (min, '-' :: rest) =>
    match scanU32 rest with
    | some (max, rest) => some (min, max, rest)
    | none => none
  | _ => none

def USHRT_MAX : ℕ := 65535

def parseRange (attr_value : String) : Parsed :=
  match scanRange attr_value.toList with
  | none => .rejected
  | some (min, max, _) =>
    if USHRT_MAX < min ∨ USHRT_MAX < max ∨ max < min then .rejected
    else .value (.u32range min max)

/-- The constructor `IpPrefix(const string &)`; `none` is an exception. -/
def ipPrefixOfString (ipPrefixStr : List Char) : Option IpPrefix :=
  let ipStr := ipPrefixStr.takeWhile (· ≠ '/')
  let ip := if ipStr = [] then some (.v4 (List.Vector.replicate 4 0)) else IpAddress.ofString ipStr
  ip.bind fun m_ip =>
    let bits := match m_ip with | .v4 _ => 32 | .v6 _ => 128
    let mask : Option ℤ :=
      if '/' ∈ ipPrefixStr then stoi (ipPrefixStr.dropWhile (· ≠ '/')).tail
      else some bits
    mask.bind fun m_mask =>
      if m_mask < 0 then none
      else
        if h : m_mask.toNat ≤ match m_ip with | .v4 _ => 32 | .v6 _ => 128 then
          some ⟨m_ip, m_mask.toNat, h⟩
        else none

def parseV4 (attr_value : String) : Parsed :=
  match ipPrefixOfString attr_value.toList with
  | some ⟨.v4 addr, m_mask, _⟩ => .value (.ip4 addr (getMask 4 m_mask))
  | _ => .rejected

def parseV6 (attr_value : String) : Parsed :=
  match ipPrefixOfString attr_value.toList with
  | some ⟨.v6 addr, m_mask, _⟩ => .value (.ip6 addr (getMask 16 m_mask))
  | _ => .rejected

def to_upper (str : String) : String := String.ofList (str.toList.map Char.toUpper)

/-- `processIpType` -/
def parseIpType (attr_value : String) : Parsed :=
  if to_upper attr_value ∈ aclIpTypeLookup then .value (.ip_type (to_upper attr_value))
  else .rejected

/-- The loop over the names of ports: the ids so far, and whether all are found. -/
def readPorts (getPort : String → Option sai_object_id_t) :
    List String → List sai_object_id_t → List sai_object_id_t × Bool
  | [], oids => (oids, true)
  | alias_ :: ports, oids =>
    match getPort alias_ with
    | none => (oids, false)
    | some m_port_id => readPorts getPort ports (oids ++ [m_port_id])

/-! ### A match -/

namespace AclRule

/-- A list of ports, which is kept in the rule by `store` while it is read. -/
def addPorts (rule : AclRule) (getPort : String → Option sai_object_id_t)
    (store : AclRule → List sai_object_id_t → AclRule) (attr_value : String) :
    AclRule × Parsed :=
  let ports := tokenize attr_value ','
  if ports = [] then (rule, .rejected)
  else
    let r := readPorts getPort ports []
    (store rule r.1, if r.2 then .value (.objlist r.1) else .rejected)

/-- The `try` block of `validateAddMatch`: the branches by the name of the attribute. -/
def parseMatch (rule : AclRule) (getPort : String → Option sai_object_id_t) (field : MatchField)
    (attr_value : String) : AclRule × Parsed :=
  match field with
  | .IN_PORTS => rule.addPorts getPort (fun rule oids => { rule with m_inPorts := oids }) attr_value
  | .OUT_PORTS =>
    rule.addPorts getPort (fun rule oids => { rule with m_outPorts := oids }) attr_value
  | .IP_TYPE => (rule, parseIpType attr_value)
  | .TCP_FLAGS => (rule, parseMasked 0x3F attr_value)
  | .ETHER_TYPE | .L4_SRC_PORT | .L4_DST_PORT => (rule, parseNumber 0xFFFF attr_value)
  | .DSCP => (rule, parseMasked 0x3F attr_value)
  | .IP_PROTOCOL => (rule, parseNumber 0xFF attr_value)
  | .SRC_IP | .DST_IP => (rule, parseV4 attr_value)
  | .SRC_IPV6 | .DST_IPV6 => (rule, parseV6 attr_value)
  | .L4_SRC_PORT_RANGE | .L4_DST_PORT_RANGE => (rule, parseRange attr_value)
  | .TC => (rule, parseNumber 0xFF attr_value)
  | .ICMP_TYPE | .ICMP_CODE | .ICMPV6_TYPE | .ICMPV6_CODE => (rule, parseNumber 0xFF attr_value)
  | .TUNNEL_VNI => (rule, parseNumber 0xFFFFFFFF attr_value)
  | .INNER_ETHER_TYPE | .INNER_L4_SRC_PORT | .INNER_L4_DST_PORT =>
    (rule, parseNumber 0xFFFF attr_value)
  | .INNER_IP_PROTOCOL => (rule, parseNumber 0xFF attr_value)

/-- `AclRule::validateAddMatch`. -/
def validateAddMatch (rule : AclRule) (getPort : String → Option sai_object_id_t)
    (attr_name attr_value : String) : Outcome :=
  match aclMatchLookup.lookup attr_name with
  | none => .returned rule false
  | some field =>
    match rule.parseMatch getPort field attr_value with
    | (rule, .value value) =>
      .returned
        { rule with m_matches := Function.update rule.m_matches field (some value) } true
    | (rule, .rejected) => .returned rule false
    | (_, .undefined) => .undefined

end AclRule

end Orchagent.AclMatch
