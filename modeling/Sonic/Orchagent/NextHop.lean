/-
Orchagent/NextHop.lean

Next hops and next hop groups: `NextHopKey` and `NextHopGroupKey`.

A next hop is an address and the alias of an interface.  As a text it is both with an
`@` between, and the text is parsed again wherever a single next hop is needed.  The
alias is looked up on the way if it is missing or the name of a VRF, so the next hop
that comes back may be another one; it is the same if the alias is plain
(`NextHopKey.reparse_of_plain`).
-/
import Sonic.Common.Tokenize
import Sonic.Lib.OrderedSet
import Sonic.Orchagent.IpPrefix

namespace Orchagent

open Swss (getlines)

def NH_DELIMITER : Char := '@'
def NHG_DELIMITER : Char := ','
def VRF_PREFIX : List Char := ['V', 'r', 'f']

/-- The alias of an interface.  It has no delimiter in it: the constructors of next hops
throw for others. -/
abbrev Alias := {name : List Char // NH_DELIMITER ∉ name ∧ NHG_DELIMITER ∉ name}

/-- `string()`. -/
def noAlias : Alias := ⟨[], by simp⟩

/-- `IntfsOrch::getRouterIntfsAlias`: the interface with a subnet that an address is in,
in a VRF; the name of the VRF may be missing. -/
abbrev RouterIntfsAlias := IpAddress → List Char → Alias

/-- A text of an address: it is read back, and has the characters of addresses only. -/
structure AddressText (ip : IpAddress) (text : List Char) : Prop where
  read : IpAddress.ofString text = some ip
  chars : ∀ c ∈ text, Sai.AddressChar c

theorem AddressText.of_to_string (ip : IpAddress) : AddressText ip ip.to_string :=
  ⟨IpAddress.ofString_to_string ip, fun _ => IpAddress.mem_to_string⟩

theorem AddressText.not_mem {ip : IpAddress} {text : List Char} (h : AddressText ip text) :
    NH_DELIMITER ∉ text ∧ NHG_DELIMITER ∉ text := by
  constructor
  · intro hmem
    exact absurd (h.chars _ hmem) (by unfold Sai.AddressChar; decide)
  · intro hmem
    exact (Sai.addressChar_ne (h.chars _ hmem)).2.1 rfl

/-- `NextHopKey`. -/
structure NextHopKey where
  ip_address : IpAddress
  if_alias : Alias
  deriving DecidableEq

namespace NextHopKey

/-- What `operator<` compares. -/
def rank (nh : NextHopKey) : (ℕ ×ₗ ℕ) ×ₗ List Char := toLex (nh.ip_address.rank, nh.if_alias.1)

/-- `to_string`. -/
def to_string (nh : NextHopKey) : List Char := nh.ip_address.to_string ++ NH_DELIMITER :: nh.if_alias.1

variable (getRouterIntfsAlias : RouterIntfsAlias)

/-- The constructor from a text, which throws for others than these. -/
def ofString (str : List Char) : Option NextHopKey :=
  if NHG_DELIMITER ∈ str then none
  else
    match getlines NH_DELIMITER [] str with
    | [ip] => (IpAddress.ofString ip).map fun ip => ⟨ip, getRouterIntfsAlias ip []⟩
    | [ip, if_alias] =>
      (IpAddress.ofString ip).bind fun ip =>
        if VRF_PREFIX.isPrefixOf if_alias then some ⟨ip, getRouterIntfsAlias ip if_alias⟩
        else if h : NH_DELIMITER ∉ if_alias ∧ NHG_DELIMITER ∉ if_alias then some ⟨ip, if_alias, h⟩
        else none
    | _ => none

/-- The next hop that comes back from the text of a next hop. -/
def reparse (nh : NextHopKey) : NextHopKey :=
  if nh.if_alias.1 = [] then ⟨nh.ip_address, getRouterIntfsAlias nh.ip_address []⟩
  else if VRF_PREFIX.isPrefixOf nh.if_alias.1 then
    ⟨nh.ip_address, getRouterIntfsAlias nh.ip_address nh.if_alias.1⟩
  else nh

/-- The alias stands for itself: it is there, and not the name of a VRF. -/
def Plain (nh : NextHopKey) : Prop := nh.if_alias.1 ≠ [] ∧ ¬ VRF_PREFIX.isPrefixOf nh.if_alias.1

variable {getRouterIntfsAlias} {nh : NextHopKey}

theorem rank_injective : Function.Injective rank := by
  intro a b h
  obtain ⟨hip, halias⟩ := Prod.mk.inj (toLex.injective h)
  have hip' := IpAddress.rank_injective hip
  cases a
  cases b
  simp only at hip' halias
  rw [hip', Subtype.ext halias]

/-- **A text of an address and an alias is parsed**, with the alias looked up again. -/
theorem ofString_text {text : List Char} (htext : AddressText nh.ip_address text) :
    ofString getRouterIntfsAlias (text ++ NH_DELIMITER :: nh.if_alias.1) =
      some (nh.reparse getRouterIntfsAlias) := by
  obtain ⟨ip, if_alias, hat, hcomma⟩ := nh
  have hnone : NHG_DELIMITER ∉ text ++ NH_DELIMITER :: if_alias := by
    intro hmem
    rcases List.mem_append.mp hmem with hc | hc
    · exact htext.not_mem.2 hc
    · rcases List.mem_cons.mp hc with hc | hc
      · exact absurd hc (by decide)
      · exact hcomma hc
  have htokens : getlines NH_DELIMITER [] (text ++ NH_DELIMITER :: if_alias)
      = text :: if if_alias = [] then [] else [if_alias] := by
    rw [Swss.getlines_append htext.not_mem.1, Swss.getlines_of_not_mem hat]
    rfl
  have hread : IpAddress.ofString text = some ip := htext.read
  show ofString getRouterIntfsAlias (text ++ NH_DELIMITER :: if_alias) = _
  rw [ofString, if_neg hnone, htokens]
  by_cases hnil : if_alias = []
  · -- without an alias there is one token
    subst hnil
    show (IpAddress.ofString text).map (fun ip => NextHopKey.mk ip _) = _
    rw [hread]
    rfl
  · simp only [if_neg hnil, hread, Option.bind_some, reparse]
    split
    · rfl
    · rw [dif_pos ⟨hat, hcomma⟩]

/-- **The text of a next hop is parsed**, with its alias looked up again. -/
theorem ofString_to_string :
    ofString getRouterIntfsAlias nh.to_string = some (nh.reparse getRouterIntfsAlias) :=
  ofString_text (.of_to_string nh.ip_address)

theorem reparse_of_plain (h : nh.Plain) : nh.reparse getRouterIntfsAlias = nh := by
  rw [reparse, if_neg h.1, if_neg h.2]

end NextHopKey

/-- `NextHopGroupKey`: a set of next hops, in their order. -/
structure NextHopGroupKey where
  m_nexthops : List NextHopKey
  ordered : OrderedSet.Ordered NextHopKey.rank m_nexthops
  deriving DecidableEq

namespace NextHopGroupKey

/-- `NextHopGroupKey()`: no next hop, the route is dropped. -/
def empty : NextHopGroupKey := ⟨[], List.Pairwise.nil⟩

/-- A set with one more next hop. -/
def add (nh : NextHopKey) (nhs : NextHopGroupKey) : NextHopGroupKey :=
  ⟨OrderedSet.insert NextHopKey.rank nh nhs.m_nexthops, nhs.ordered.insert⟩

def getSize (nhs : NextHopGroupKey) : ℕ := nhs.m_nexthops.length

def contains (nhs : NextHopGroupKey) (nh : NextHopKey) : Bool := nh ∈ nhs.m_nexthops

/-- `to_string`. -/
def to_string (nhs : NextHopGroupKey) : List Char :=
  [NHG_DELIMITER].intercalate (nhs.m_nexthops.map NextHopKey.to_string)

/-- The constructor from a text. -/
def ofString (getRouterIntfsAlias : RouterIntfsAlias) (nexthops : List Char) :
    Option NextHopGroupKey :=
  ((getlines NHG_DELIMITER [] nexthops).mapM (NextHopKey.ofString getRouterIntfsAlias)).map
    fun nhv => nhv.foldl (fun nhs nh => nhs.add nh) empty

/-- The set of one next hop. -/
def single (nh : NextHopKey) : NextHopGroupKey := ⟨[nh], List.pairwise_singleton _ _⟩

variable {nhs : NextHopGroupKey} {nh : NextHopKey} {getRouterIntfsAlias : RouterIntfsAlias}

theorem ext {nhs' : NextHopGroupKey} (h : nhs.m_nexthops = nhs'.m_nexthops) : nhs = nhs' := by
  cases nhs
  cases nhs'
  simp only at h
  subst h
  rfl

theorem getSize_eq_one : nhs.getSize = 1 ↔ ∃ nh, nhs = single nh := by
  constructor
  · intro h
    obtain ⟨nh, hnh⟩ := List.length_eq_one_iff.mp h
    exact ⟨nh, ext hnh⟩
  · rintro ⟨nh, rfl⟩
    rfl

theorem nodup (nhs : NextHopGroupKey) : nhs.m_nexthops.Nodup := nhs.ordered.nodup

end NextHopGroupKey

end Orchagent
