/-
Orchagent/IpPrefix.lean

IP addresses and prefixes: `IpAddress` and `IpPrefix` of swss-common.

Prefixes are ordered by the length of their masks first.  Of the prefixes that cover an
address and are canonical, no two have masks of the same length
(`IpPrefix.eq_of_covers`), so the last of them in the order is the longest.
-/
import Sonic.Lib.CInteger
import Sonic.Sai.Address

namespace Orchagent

open Inet (Bytes)

/-! ### Addresses -/

/-- `IpAddress`: the bytes in the order of the network. -/
inductive IpAddress where
  | v4 (addr : Bytes 4)
  | v6 (addr : Bytes 16)
  deriving DecidableEq

namespace IpAddress

/-- `m_ip.family`: `AF_INET` or `AF_INET6`. -/
def family : IpAddress → ℕ
  | .v4 _ => 2
  | .v6 _ => 10

def isV4 : IpAddress → Bool
  | .v4 _ => true
  | .v6 _ => false

def isZero : IpAddress → Bool
  | .v4 addr => addr.toList.all (· = 0)
  | .v6 addr => addr.toList.all (· = 0)

/-- The bytes as a number: `ipv4_addr` as the host reads it, `ipv6_addr` as `memcmp`
compares it. -/
def number : IpAddress → ℕ
  | .v4 addr => Nat.ofDigits 256 (addr.toList.map UInt8.toNat)
  | .v6 addr => Nat.ofDigits 256 (addr.toList.map UInt8.toNat).reverse

/-- What `operator<` compares. -/
def rank (ip : IpAddress) : ℕ ×ₗ ℕ := toLex (ip.family, ip.number)

inductive AddrScope where
  | GLOBAL_SCOPE | LINK_SCOPE | HOST_SCOPE | MCAST_SCOPE
  deriving DecidableEq

/-- `getAddrScope`. -/
def getAddrScope : IpAddress → AddrScope
  | .v4 addr =>
    if addr.toList.take 2 = [169, 254] then .LINK_SCOPE
    else if addr.toList = [127, 0, 0, 1] then .HOST_SCOPE
    else if addr.head &&& 0xf0 = 224 then .MCAST_SCOPE
    else .GLOBAL_SCOPE
  | .v6 addr =>
    if addr.head = 0xfe ∧ addr.tail.head &&& 0xc0 = 0x80 then .LINK_SCOPE
    else if addr.toList = List.replicate 15 0 ++ [1] then .HOST_SCOPE
    else if addr.head = 0xff then .MCAST_SCOPE
    else .GLOBAL_SCOPE

/-- `to_string`. -/
def to_string : IpAddress → List Char
  | .v4 addr => Inet.inet_ntop4 addr
  | .v6 addr => Inet.inet_ntop6 addr

/-- The constructor from a text, which throws for one that is no address. -/
def ofString (ipStr : List Char) : Option IpAddress :=
  if ':' ∈ ipStr then (Inet.inet_pton6 (Sai.c_str ipStr)).map .v6
  else (Inet.inet_pton4 (Sai.c_str ipStr)).map .v4

theorem bytes_inj {n : ℕ} {a b : Bytes n}
    (h : a.toList.map UInt8.toNat = b.toList.map UInt8.toNat) : a = b := by
  apply List.Vector.toList_injective
  exact List.map_injective_iff.mpr (fun _ _ => UInt8.toNat_inj.mp) h

theorem digits_inj {n : ℕ} {a b : Bytes n}
    (h : Nat.ofDigits 256 (a.toList.map UInt8.toNat) = Nat.ofDigits 256 (b.toList.map UInt8.toNat)) :
    a = b := by
  have hlt : ∀ c : Bytes n, ∀ d ∈ c.toList.map UInt8.toNat, d < 256 := by
    intro c d hd
    obtain ⟨byte, -, rfl⟩ := List.mem_map.mp hd
    exact byte.toNat_lt
  exact bytes_inj (Nat.ofDigits_inj_of_len_eq (by decide) (by simp) (hlt a) (hlt b) h)

/-- Different addresses are ordered. -/
theorem rank_injective : Function.Injective rank := by
  intro a b h
  obtain ⟨hfamily, hnumber⟩ := Prod.mk.inj (toLex.injective h)
  cases a with
  | v4 a =>
    cases b with
    | v4 b => exact congrArg v4 (digits_inj hnumber)
    | v6 b => exact absurd hfamily (show (2 : ℕ) ≠ 10 by decide)
  | v6 a =>
    cases b with
    | v4 b => exact absurd hfamily (show (10 : ℕ) ≠ 2 by decide)
    | v6 b =>
      have hlt : ∀ c : Bytes 16, ∀ d ∈ (c.toList.map UInt8.toNat).reverse, d < 256 := by
        intro c d hd
        obtain ⟨byte, -, rfl⟩ := List.mem_map.mp (List.mem_reverse.mp hd)
        exact byte.toNat_lt
      have hrev := Nat.ofDigits_inj_of_len_eq (b := 256) (by decide) (by simp) (hlt a) (hlt b)
        hnumber
      exact congrArg v6 (bytes_inj (List.reverse_injective hrev))

/-- **An address is read back from its text.** -/
theorem ofString_to_string (ip : IpAddress) : ofString ip.to_string = some ip := by
  cases ip with
  | v4 addr =>
    have hcolon : ':' ∉ Inet.inet_ntop4 addr := by
      intro hmem
      rcases Inet.mem_inet_ntop4 hmem with hc | hc
      · exact absurd hc (by decide)
      · exact absurd hc (by decide)
    have hcut : Sai.c_str (Inet.inet_ntop4 addr) = Inet.inet_ntop4 addr := Sai.c_str_ipv4 addr
    rw [ofString, to_string, if_neg hcolon, hcut, Inet.inet_pton4_ntop4]
    rfl
  | v6 addr =>
    have hcut : Sai.c_str (Inet.inet_ntop6 addr) = Inet.inet_ntop6 addr := Sai.c_str_ipv6 addr
    have hcolon : ':' ∈ Inet.inet_ntop6 addr := by
      by_contra hnone
      exact absurd (Inet.inet_pton6_eq_none_of_not_mem hnone)
        (by rw [Inet.inet_pton6_ntop6]; exact Option.some_ne_none addr)
    rw [ofString, to_string, if_pos hcolon, hcut, Inet.inet_pton6_ntop6]
    rfl

/-- The characters of an address. -/
theorem mem_to_string {ip : IpAddress} {c : Char} (hc : c ∈ ip.to_string) : Sai.AddressChar c := by
  cases ip with
  | v4 addr => exact Sai.addressChar_ipv4 hc
  | v6 addr => exact Sai.addressChar_ipv6 hc

end IpAddress

/-! ### Prefixes -/

/-- The bytes of `getMask`. -/
def getMask (n ones : ℕ) : Bytes n :=
  List.Vector.ofFn fun i : Fin n =>
    if i < ones / 8 then 0xFF
    else if i = ones / 8 then UInt8.ofNat (0xFF * 2 ^ (8 - ones % 8))
    else 0

/-- The bytes that a mask keeps. -/
def maskWith {n : ℕ} (addr mask : Bytes n) : Bytes n := List.Vector.map₂ (· &&& ·) addr mask

/-- `IpPrefix`, which is valid: the constructors throw for longer masks. -/
structure IpPrefix where
  m_ip : IpAddress
  m_mask : ℕ
  valid : m_mask ≤ match m_ip with | .v4 _ => 32 | .v6 _ => 128
  deriving DecidableEq

namespace IpPrefix

/-- The constructor of `IpPrefix` from a text; `none` is an exception. -/
def ofString (ipPrefixStr : List Char) : Option IpPrefix :=
  let ipStr := ipPrefixStr.takeWhile (· ≠ '/')
  (if ipStr = [] then some (.v4 (List.Vector.replicate 4 0)) else IpAddress.ofString ipStr).bind
    fun m_ip =>
      let bits := match m_ip with | .v4 _ => 32 | .v6 _ => 128
      if '/' ∈ ipPrefixStr then
        (Numeral.stoi (ipPrefixStr.dropWhile (· ≠ '/')).tail).bind fun m_mask =>
          if h : 0 ≤ m_mask ∧ m_mask.toNat ≤ bits then some ⟨m_ip, m_mask.toNat, h.2⟩ else none
      else some ⟨m_ip, bits, le_refl _⟩

def isDefaultRoute (p : IpPrefix) : Bool := p.m_mask = 0

def isFullMask (p : IpPrefix) : Bool := if p.m_ip.isV4 then p.m_mask = 32 else p.m_mask = 128

/-- `isAddressInSubnet`. -/
def isAddressInSubnet (p : IpPrefix) (addr : IpAddress) : Bool :=
  match p.m_ip, addr with
  | .v4 a, .v4 b => maskWith a (getMask 4 p.m_mask) = maskWith b (getMask 4 p.m_mask)
  | .v6 a, .v6 b => maskWith a (getMask 16 p.m_mask) = maskWith b (getMask 16 p.m_mask)
  | _, _ => false

/-- The address of `getSubnet`. -/
def subnetIp (p : IpPrefix) : IpAddress :=
  match p.m_ip with
  | .v4 a => .v4 (maskWith a (getMask 4 p.m_mask))
  | .v6 a => .v6 (maskWith a (getMask 16 p.m_mask))

/-- A prefix is masked: it is its own subnet. -/
def Canonical (p : IpPrefix) : Prop := p.subnetIp = p.m_ip

/-- What `operator<` compares: the mask first. -/
def rank (p : IpPrefix) : ℕ ×ₗ (ℕ ×ₗ ℕ) := toLex (p.m_mask, p.m_ip.rank)

instance : LT IpPrefix := ⟨fun p q => p.rank < q.rank⟩

instance : DecidableLT IpPrefix := fun p q => inferInstanceAs (Decidable (p.rank < q.rank))

variable {p q : IpPrefix} {addr : IpAddress}

theorem rank_injective : Function.Injective rank := by
  intro p q h
  obtain ⟨hmask, hip⟩ := Prod.mk.inj (toLex.injective h)
  have hip' := IpAddress.rank_injective hip
  cases p
  cases q
  simp only at hmask hip'
  subst hmask hip'
  rfl

theorem lt_iff : p < q ↔ p.rank < q.rank := Iff.rfl

theorem mask_le_of_lt (h : p < q) : p.m_mask ≤ q.m_mask := by
  rcases Prod.Lex.lt_iff.mp h with hlt | ⟨heq, -⟩
  · exact hlt.le
  · exact heq.le

/-- The subnet of a prefix that covers an address is the subnet of the address. -/
theorem eq_of_covers (hp : p.Canonical) (hq : q.Canonical) (hcp : p.isAddressInSubnet addr)
    (hcq : q.isAddressInSubnet addr) (hmask : p.m_mask = q.m_mask) : p = q := by
  obtain ⟨p_ip, m, hpv⟩ := p
  obtain ⟨q_ip, m', hqv⟩ := q
  obtain rfl : m = m' := hmask
  cases addr with
  | v4 b =>
    cases p_ip with
    | v6 a => exact absurd hcp (by simp [isAddressInSubnet])
    | v4 a =>
      cases q_ip with
      | v6 a' => exact absurd hcq (by simp [isAddressInSubnet])
      | v4 a' =>
        have ha : maskWith a (getMask 4 m) = maskWith b (getMask 4 m) :=
          of_decide_eq_true hcp
        have ha' : maskWith a' (getMask 4 m) = maskWith b (getMask 4 m) :=
          of_decide_eq_true hcq
        have hca : maskWith a (getMask 4 m) = a := IpAddress.v4.inj hp
        have hca' : maskWith a' (getMask 4 m) = a' := IpAddress.v4.inj hq
        obtain rfl : a = a' := by rw [← hca, ← hca', ha, ha']
        rfl
  | v6 b =>
    cases p_ip with
    | v4 a => exact absurd hcp (by simp [isAddressInSubnet])
    | v6 a =>
      cases q_ip with
      | v4 a' => exact absurd hcq (by simp [isAddressInSubnet])
      | v6 a' =>
        have ha : maskWith a (getMask 16 m) = maskWith b (getMask 16 m) :=
          of_decide_eq_true hcp
        have ha' : maskWith a' (getMask 16 m) = maskWith b (getMask 16 m) :=
          of_decide_eq_true hcq
        have hca : maskWith a (getMask 16 m) = a := IpAddress.v6.inj hp
        have hca' : maskWith a' (getMask 16 m) = a' := IpAddress.v6.inj hq
        obtain rfl : a = a' := by rw [← hca, ← hca', ha, ha']
        rfl

end IpPrefix

end Orchagent
