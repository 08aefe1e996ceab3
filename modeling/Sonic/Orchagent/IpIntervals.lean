/-
Orchagent/IpIntervals.lean

Prefixes are intervals of addresses.

The rest of `IpPrefix`: masks, subnets, broadcast addresses, the operators and the text.  A mask
keeps the bits up to its length, so an address is in a prefix when it has the same first bits, which
is when it lies between the address of the subnet and the broadcast address.  Both operators go
through the words and bytes of an address (`prefix_laws`).
-/
import Mathlib.Order.RelClasses
import Sonic.Lib.NetworkOrder
import Sonic.Orchagent.RequestGrammar

namespace Orchagent

open Inet (Bytes)
open NetworkOrder (memcmp)

/-! ### Operators of addresses -/

namespace IpAddress

def bytes : IpAddress → List UInt8
  | .v4 addr => addr.toList
  | .v6 addr => addr.toList

/-- The bit `i` of an address, from the front. -/
def bit (ip : IpAddress) (i : ℕ) : Bool := NetworkOrder.bit ip.bytes i

/-- The address as a number in the order of the network. -/
def netNumber (ip : IpAddress) : ℕ := NetworkOrder.number ip.bytes

/-- `operator<`: the words of IPv4 addresses are compared as the host reads them. -/
def less (ip o : IpAddress) : Bool :=
  if ip.family ≠ o.family then ip.family < o.family
  else
    match ip, o with
    | .v4 addr, .v4 addr' => number (.v4 addr) < number (.v4 addr')
    | _, _ => memcmp ip.bytes o.bytes < 0

/-- `operator==`. -/
def equal (ip o : IpAddress) : Bool :=
  ip.family = o.family &&
    match ip, o with
    | .v4 addr, .v4 addr' => number (.v4 addr) = number (.v4 addr')
    | _, _ => memcmp ip.bytes o.bytes = 0

variable {ip o : IpAddress}

theorem less_iff : ip.less o ↔ ip.rank < o.rank := by
  rw [rank, rank, Prod.Lex.toLex_lt_toLex]
  cases ip with
  | v4 addr =>
    cases o with
    | v4 addr' => simp [less, family]
    | v6 addr' => simp [less, family]
  | v6 addr =>
    cases o with
    | v4 addr' => simp [less, family]
    | v6 addr' =>
      have hcmp : memcmp addr.toList addr'.toList < 0 ↔
          number (.v6 addr) < number (.v6 addr') := by
        have hlen : addr.toList.length = addr'.toList.length := by simp
        exact NetworkOrder.memcmp_neg_iff hlen
      have hless : less (.v6 addr) (.v6 addr') =
          decide (memcmp addr.toList addr'.toList < 0) := if_neg (not_not.mpr rfl)
      rw [hless, decide_eq_true_iff, hcmp]
      simp [family]

theorem equal_iff : ip.equal o ↔ ip = o := by
  cases ip with
  | v4 addr =>
    cases o with
    | v4 addr' =>
      have hnumber : number (.v4 addr) = number (.v4 addr') ↔ addr = addr' :=
        ⟨digits_inj, fun h => h ▸ rfl⟩
      rw [IpAddress.v4.injEq, ← hnumber]
      simp [equal, family]
    | v6 addr' => simp [equal, family]
  | v6 addr =>
    cases o with
    | v4 addr' => simp [equal, family]
    | v6 addr' =>
      have hlen : addr.toList.length = addr'.toList.length := by simp
      have hcmp : memcmp addr.toList addr'.toList = 0 ↔ addr = addr' :=
        (NetworkOrder.memcmp_eq_zero_iff hlen).trans List.Vector.toList_injective.eq_iff
      rw [IpAddress.v6.injEq, ← hcmp]
      refine (iff_of_eq (Bool.and_eq_true _ _)).trans ?_
      exact (and_iff_right (decide_eq_true rfl)).trans decide_eq_true_iff

end IpAddress

/-! ### Masks -/

section Masks

variable {n : ℕ} {addr mask : Bytes n} {i : ℕ}

/-- `getMask` of an IPv4 prefix: 64 bits are shifted, cut to 32 and turned to the order of the
network. -/
def getMaskV4 (m_mask : ℕ) : Bytes 4 :=
  let word : BitVec 64 := (0xFFFFFFFF#64 <<< (32 - m_mask)) &&& 0xFFFFFFFF#64
  ⟨[24, 16, 8, 0].map fun s => UInt8.ofNat (word >>> s).toNat, rfl⟩

/-- What the bits of an address are in `prefix[i] | ~mask[i]`. -/
def fillWith (addr mask : Bytes n) : Bytes n :=
  List.Vector.map₂ (fun a m => a ||| ~~~ m) addr mask

theorem getMaskV4_eq : ∀ m ≤ 32, getMaskV4 m = getMask 4 m := by
  decide

/-- A mask has as many ones as its length says. -/
theorem bit_getMask {m : ℕ} (hi : i < 8 * n) :
    NetworkOrder.bit (getMask n m).toList i = decide (i < m) := by
  have hbyte : ∀ j, (if j < m / 8 then 0xFF
      else if j = m / 8 then UInt8.ofNat (0xFF * 2 ^ (8 - m % 8)) else 0) =
      Sai.populatedByte m j := by
    intro j
    unfold Sai.populatedByte
    by_cases hmod : m % 8 = 0
    · -- a mask of whole bytes ends with a byte whose ones are all shifted out
      have hout : UInt8.ofNat (0xFF * 2 ^ (8 - m % 8)) = 0 := by
        rw [hmod]
        rfl
      rw [hout]
      simp [hmod]
    · simp [hmod]
  have hmask : getMask n m = List.Vector.ofFn fun j : Fin n => Sai.populatedByte m j := by
    refine congrArg List.Vector.ofFn (funext fun j => ?_)
    exact hbyte j
  rw [hmask]
  exact (Sai.maskBit_ofFn hi).trans Sai.testBit_populatedByte

theorem bit_map₂ {f : UInt8 → UInt8 → UInt8} (hi : i < 8 * n) :
    NetworkOrder.bit (List.Vector.map₂ f addr mask).toList i =
      (f (addr.toList.getD (i / 8) 0) (mask.toList.getD (i / 8) 0)).toNat.testBit (7 - i % 8) := by
  have hlt : i / 8 < n := by omega
  obtain ⟨as, has⟩ := addr
  obtain ⟨ms, hms⟩ := mask
  show ((List.zipWith f as ms).getD (i / 8) 0).toNat.testBit _ = _
  show _ = (f (as.getD (i / 8) 0) (ms.getD (i / 8) 0)).toNat.testBit _
  rw [List.getD_eq_getElem _ _ (by simp [has, hms, hlt]), List.getElem_zipWith,
    List.getD_eq_getElem _ _ (has ▸ hlt), List.getD_eq_getElem _ _ (hms ▸ hlt)]

theorem bit_maskWith (hi : i < 8 * n) :
    NetworkOrder.bit (maskWith addr mask).toList i =
      (NetworkOrder.bit addr.toList i && NetworkOrder.bit mask.toList i) := by
  rw [maskWith, bit_map₂ hi, UInt8.toNat_and, Nat.testBit_and]
  rfl

theorem bit_fillWith (hi : i < 8 * n) :
    NetworkOrder.bit (fillWith addr mask).toList i =
      (NetworkOrder.bit addr.toList i || !NetworkOrder.bit mask.toList i) := by
  have hnot : ∀ b : UInt8, ∀ k < 8, (~~~ b).toNat.testBit (7 - k) = !b.toNat.testBit (7 - k) := by
    intro b k hk
    have hlt : 7 - k < 8 := by omega
    have hsub : UInt8.size - 1 - b.toNat = 2 ^ 8 - (b.toNat + 1) := by
      show 255 - b.toNat = 256 - (b.toNat + 1)
      omega
    rw [UInt8.toNat_not, hsub, Nat.testBit_two_pow_sub_succ b.toNat_lt]
    simp [hlt]
  rw [fillWith, bit_map₂ hi, UInt8.toNat_or, Nat.testBit_or, hnot _ _ (Nat.mod_lt i (by decide))]
  rfl

end Masks

/-! ### Prefixes -/

namespace IpPrefix

def getMask (p : IpPrefix) : IpAddress :=
  match p.m_ip with
  | .v4 _ => .v4 (getMaskV4 p.m_mask)
  | .v6 _ => .v6 (Orchagent.getMask 16 p.m_mask)

/-- `getBroadcastIp`. -/
def getBroadcastIp (p : IpPrefix) : IpAddress :=
  match p.m_ip with
  | .v4 addr => .v4 (fillWith addr (getMaskV4 p.m_mask))
  | .v6 addr => .v6 (fillWith addr (Orchagent.getMask 16 p.m_mask))

/-- The constructor from a word and a mask; `none` is an exception. -/
def ofV4 (addr : Bytes 4) (mask : ℕ) : Option IpPrefix :=
  if h : mask ≤ 32 then some ⟨.v4 addr, mask, h⟩ else none

def to_string (p : IpPrefix) : List Char := p.m_ip.to_string ++ '/' :: Numeral.to_string p.m_mask

/-- `getSubnet`: that of an IPv6 prefix is read from a text. -/
def getSubnet (p : IpPrefix) : Option IpPrefix :=
  match p.m_ip with
  | .v4 addr => ofV4 (maskWith addr (getMaskV4 p.m_mask)) p.m_mask
  | .v6 addr =>
    ofString (Inet.inet_ntop6 (maskWith addr (Orchagent.getMask 16 p.m_mask)) ++
      '/' :: Numeral.to_string p.m_mask)

/-- `operator<`. -/
def less (p o : IpPrefix) : Bool :=
  if p.m_mask ≠ o.m_mask then p.m_mask < o.m_mask else p.m_ip.less o.m_ip

/-- `operator==`. -/
def equal (p o : IpPrefix) : Bool := p.m_ip.equal o.m_ip && p.m_mask = o.m_mask

variable {p q : IpPrefix} {a b : IpAddress}

/-! ### Addresses of a prefix -/

/-- The address has the bits of the prefix up to the length of the mask. -/
def Agrees (p : IpPrefix) (a : IpAddress) : Prop :=
  a.family = p.m_ip.family ∧ ∀ i < p.m_mask, a.bit i = p.m_ip.bit i

theorem maskWith_eq_iff {n m : ℕ} (hm : m ≤ 8 * n) {x y : Bytes n} :
    maskWith x (Orchagent.getMask n m) = maskWith y (Orchagent.getMask n m) ↔
      ∀ i < m, NetworkOrder.bit y.toList i = NetworkOrder.bit x.toList i := by
  have hbit : ∀ z : Bytes n, ∀ i < 8 * n,
      Sai.maskBit (maskWith z (Orchagent.getMask n m)) i =
        (NetworkOrder.bit z.toList i && decide (i < m)) := by
    intro z i hi
    rw [← bit_getMask hi, ← bit_maskWith hi]
    rfl
  constructor
  · intro h i hi
    have hlt : i < 8 * n := hi.trans_le hm
    have hx := hbit x i hlt
    rw [h, hbit y i hlt] at hx
    simpa [hi] using hx
  · intro h
    refine Sai.eq_of_maskBit fun i hi => ?_
    rw [hbit x i hi, hbit y i hi]
    by_cases him : i < m
    · rw [h i him]
    · simp [him]

/-- An address is in a prefix if it has its first bits. -/
theorem isAddressInSubnet_iff : p.isAddressInSubnet a ↔ p.Agrees a := by
  obtain ⟨m_ip, m, hvalid⟩ := p
  cases m_ip with
  | v4 x =>
    cases a with
    | v4 y =>
      show decide (maskWith x (Orchagent.getMask 4 m) = maskWith y (Orchagent.getMask 4 m)) =
        true ↔ _
      rw [decide_eq_true_iff, maskWith_eq_iff hvalid]
      exact (and_iff_right rfl).symm
    | v6 y =>
      have hne : (10 : ℕ) ≠ 2 := by decide
      exact iff_of_false Bool.false_ne_true fun h => hne h.1
  | v6 x =>
    cases a with
    | v4 y =>
      have hne : (2 : ℕ) ≠ 10 := by decide
      exact iff_of_false Bool.false_ne_true fun h => hne h.1
    | v6 y =>
      show decide (maskWith x (Orchagent.getMask 16 m) = maskWith y (Orchagent.getMask 16 m)) =
        true ↔ _
      rw [decide_eq_true_iff, maskWith_eq_iff hvalid]
      exact (and_iff_right rfl).symm

theorem between_bytes_iff {n m : ℕ} (hm : m ≤ 8 * n) {x y : Bytes n} :
    NetworkOrder.number (maskWith x (Orchagent.getMask n m)).toList ≤
        NetworkOrder.number y.toList ∧
      NetworkOrder.number y.toList ≤
        NetworkOrder.number (fillWith x (Orchagent.getMask n m)).toList ↔
      ∀ i < m, NetworkOrder.bit y.toList i = NetworkOrder.bit x.toList i := by
  have hlen : ∀ z : Bytes n, z.toList.length = n := fun z => z.toList_length
  refine NetworkOrder.between_iff ?_ ?_ ?_ ?_ ?_ ?_
  · rwa [hlen]
  · rw [hlen, hlen]
  · rw [hlen, hlen]
  · rw [hlen, hlen]
  · intro i hi
    rw [hlen] at hi
    rw [bit_maskWith hi, bit_getMask hi]
  · intro i hi
    rw [hlen] at hi
    rw [bit_fillWith hi, bit_getMask hi]
    by_cases him : i < m
    · simp [him, Nat.not_le.mpr him]
    · simp [him, Nat.not_lt.mp him]

/-- The addresses with the first bits of a prefix are those from its subnet to its broadcast
address. -/
theorem agrees_iff_between (hfamily : a.family = p.m_ip.family) :
    p.Agrees a ↔ p.subnetIp.netNumber ≤ a.netNumber ∧ a.netNumber ≤ p.getBroadcastIp.netNumber := by
  obtain ⟨m_ip, m, hvalid⟩ := p
  cases m_ip with
  | v4 x =>
    cases a with
    | v4 y =>
      rw [getBroadcastIp, getMaskV4_eq m hvalid]
      exact (and_iff_right rfl).trans (between_bytes_iff hvalid).symm
    | v6 y => exact absurd hfamily (show (10 : ℕ) ≠ 2 by decide)
  | v6 x =>
    cases a with
    | v4 y => exact absurd hfamily (show (2 : ℕ) ≠ 10 by decide)
    | v6 y => exact (and_iff_right rfl).trans (between_bytes_iff hvalid).symm

theorem mem_iff_between (hfamily : a.family = p.m_ip.family) : p.isAddressInSubnet a ↔
    p.subnetIp.netNumber ≤ a.netNumber ∧ a.netNumber ≤ p.getBroadcastIp.netNumber :=
  isAddressInSubnet_iff.trans (agrees_iff_between hfamily)

/-- Of two prefixes with an address in common, the longer one is inside the other. -/
theorem nested (hp : p.isAddressInSubnet a) (hq : q.isAddressInSubnet a)
    (hmask : p.m_mask ≤ q.m_mask) (hb : q.isAddressInSubnet b) : p.isAddressInSubnet b := by
  rw [isAddressInSubnet_iff] at hp hq hb ⊢
  refine ⟨hb.1.trans (hq.1.symm.trans hp.1), fun i hi => ?_⟩
  have hiq : i < q.m_mask := hi.trans_le hmask
  calc b.bit i = q.m_ip.bit i := hb.2 i hiq
    _ = a.bit i := (hq.2 i hiq).symm
    _ = p.m_ip.bit i := hp.2 i hi

/-! ### Texts -/

theorem ofString_to_string (p : IpPrefix) : ofString p.to_string = some p := by
  have hslash : ∀ c ∈ p.m_ip.to_string, (c ≠ '/' : Bool) = true := fun c hc =>
    decide_eq_true (Sai.addressChar_ne (IpAddress.mem_to_string hc)).1
  have htake : p.to_string.takeWhile (· ≠ '/') = p.m_ip.to_string := by
    rw [to_string, List.takeWhile_append_of_pos hslash, List.takeWhile_cons_of_neg (by simp),
      List.append_nil]
  have hdrop : (p.to_string.dropWhile (· ≠ '/')).tail = Numeral.to_string p.m_mask := by
    rw [to_string, List.dropWhile_append_of_pos hslash, List.dropWhile_cons_of_neg (by simp)]
    rfl
  have hread := IpAddress.ofString_to_string p.m_ip
  refine RequestParser.prefix_ofString_eq_some_iff.mpr ⟨.inr ⟨?_, ?_⟩, .inr ⟨?_, ?_⟩⟩
  · rw [htake]
    intro hnil
    rw [hnil] at hread
    cases hread
  · rw [htake]
    exact hread
  · exact List.mem_append_right _ List.mem_cons_self
  · rw [hdrop]
    have hle := (RequestParser.mask_le p).trans (RequestParser.bitsOf_le _)
    exact Numeral.stoi_to_string ⟨by omega, by omega⟩

/-! ### Subnets -/

theorem subnet_valid (p : IpPrefix) :
    p.m_mask ≤ match p.subnetIp with | .v4 _ => 32 | .v6 _ => 128 := by
  obtain ⟨m_ip, m, hvalid⟩ := p
  cases m_ip <;> exact hvalid

/-- The subnet of a prefix: no exception is thrown, and the text is read as the address. -/
theorem getSubnet_eq (p : IpPrefix) : p.getSubnet = some ⟨p.subnetIp, p.m_mask, p.subnet_valid⟩ := by
  obtain ⟨m_ip, m, hvalid⟩ := p
  cases m_ip with
  | v4 addr =>
    rw [getSubnet]
    show ofV4 (maskWith addr (getMaskV4 m)) m = _
    rw [getMaskV4_eq m hvalid]
    exact dif_pos hvalid
  | v6 addr => exact ofString_to_string ⟨.v6 (maskWith addr (Orchagent.getMask 16 m)), m, hvalid⟩

theorem maskWith_idem {n m : ℕ} (hm : m ≤ 8 * n) (x : Bytes n) :
    maskWith (maskWith x (Orchagent.getMask n m)) (Orchagent.getMask n m) =
      maskWith x (Orchagent.getMask n m) := by
  refine (maskWith_eq_iff hm).mpr fun i hi => ?_
  have hlt : i < 8 * n := hi.trans_le hm
  rw [bit_maskWith hlt, bit_getMask hlt, decide_eq_true hi, Bool.and_true]

/-- A subnet is its own subnet. -/
theorem subnetIp_subnet (p : IpPrefix) :
    subnetIp ⟨p.subnetIp, p.m_mask, p.subnet_valid⟩ = p.subnetIp := by
  obtain ⟨m_ip, m, hvalid⟩ := p
  cases m_ip with
  | v4 addr => exact congrArg IpAddress.v4 (maskWith_idem hvalid addr)
  | v6 addr => exact congrArg IpAddress.v6 (maskWith_idem hvalid addr)

theorem getSubnet_idem {r : IpPrefix} (h : p.getSubnet = some r) : r.getSubnet = some r := by
  rw [getSubnet_eq] at h
  obtain rfl := Option.some.inj h
  rw [getSubnet_eq]
  congr 2
  exact subnetIp_subnet p

theorem mem_getSubnet_iff {r : IpPrefix} (h : p.getSubnet = some r) :
    r.isAddressInSubnet a ↔ p.isAddressInSubnet a := by
  rw [getSubnet_eq] at h
  obtain rfl := Option.some.inj h
  have hfamily : p.subnetIp.family = p.m_ip.family := by
    obtain ⟨m_ip, m, hvalid⟩ := p
    cases m_ip <;> rfl
  have hbits : ∀ i < p.m_mask, p.subnetIp.bit i = p.m_ip.bit i := by
    obtain ⟨m_ip, m, hvalid⟩ := p
    have hkept : ∀ {n : ℕ} (x : Bytes n), m ≤ 8 * n → ∀ i < m,
        NetworkOrder.bit (maskWith x (Orchagent.getMask n m)).toList i =
          NetworkOrder.bit x.toList i := by
      intro n x hm i hi
      have hlt : i < 8 * n := hi.trans_le hm
      rw [bit_maskWith hlt, bit_getMask hlt, decide_eq_true hi, Bool.and_true]
    cases m_ip with
    | v4 x => exact hkept x hvalid
    | v6 x => exact hkept x hvalid
  rw [isAddressInSubnet_iff, isAddressInSubnet_iff]
  show a.family = p.subnetIp.family ∧ (∀ i < p.m_mask, a.bit i = p.subnetIp.bit i) ↔ _
  rw [hfamily]
  refine and_congr_right' (forall₂_congr fun i hi => ?_)
  rw [hbits i hi]

/-! ### The order -/

theorem less_iff : p.less q ↔ p.rank < q.rank := by
  rw [rank, rank, Prod.Lex.toLex_lt_toLex, less]
  by_cases hmask : p.m_mask = q.m_mask
  · rw [if_neg (not_not.mpr hmask), IpAddress.less_iff]
    simp [hmask]
  · rw [if_pos hmask]
    simp [hmask]

theorem equal_iff : p.equal q ↔ p = q := by
  rw [equal, Bool.and_eq_true, IpAddress.equal_iff, decide_eq_true_iff]
  constructor
  · rintro ⟨hip, hmask⟩
    obtain ⟨p_ip, m, hp⟩ := p
    obtain ⟨q_ip, m', hq⟩ := q
    subst hip hmask
    rfl
  · rintro rfl
    exact ⟨rfl, rfl⟩

theorem less_trichotomy (p q : IpPrefix) : p.less q ∨ p.equal q ∨ q.less p := by
  rw [less_iff, less_iff, equal_iff]
  exact (lt_trichotomy p.rank q.rank).imp_right (Or.imp_left fun h => rank_injective h)

theorem less_strictTotal : IsStrictTotalOrder IpPrefix (fun p q => p.less q = true) where
  irrefl p h := lt_irrefl _ (less_iff.mp h)
  trans p q r hpq hqr := less_iff.mpr ((less_iff.mp hpq).trans (less_iff.mp hqr))
  trichotomous p q hpq hqp := by
    rcases less_trichotomy p q with h | h | h
    · exact absurd h hpq
    · exact equal_iff.mp h
    · exact absurd h hqp

theorem less_of_shorter (h : p.m_mask < q.m_mask) : p.less q := by
  rw [less, if_pos (ne_of_lt h)]
  exact decide_eq_true h

/-! ### The laws -/

/-- A prefix is the interval from its subnet to its broadcast address, and its subnet is the same
prefix without the bits of a host. -/
def Interval (p : IpPrefix) : Prop :=
  ∃ subnet, p.getSubnet = some subnet ∧
    (∀ a, a.family = p.m_ip.family →
      (p.isAddressInSubnet a ↔ ∀ i < p.m_mask, a.bit i = p.m_ip.bit i) ∧
      (p.isAddressInSubnet a ↔ subnet.m_ip.netNumber ≤ a.netNumber ∧
        a.netNumber ≤ p.getBroadcastIp.netNumber)) ∧
    subnet.getSubnet = some subnet ∧ subnet.m_mask = p.m_mask ∧
    ∀ a, subnet.isAddressInSubnet a ↔ p.isAddressInSubnet a

/-- Two prefixes with an address in common are one inside the other. -/
def Nested (p q : IpPrefix) : Prop :=
  ∀ a, p.isAddressInSubnet a → q.isAddressInSubnet a → p.m_mask ≤ q.m_mask →
    ∀ b, q.isAddressInSubnet b → p.isAddressInSubnet b

/-- The texts whose mask is written with digits, and whose address has no end before the mask. -/
def PlainText (text : List Char) : Prop :=
  '\x00' ∉ text.takeWhile (· ≠ '/') ∧
    ∀ c ∈ (text.dropWhile (· ≠ '/')).tail, Numeral.isDigit 10 c

theorem interval (p : IpPrefix) : p.Interval := by
  have hsubnet := p.getSubnet_eq
  refine ⟨_, hsubnet, fun a hfamily => ⟨?_, ?_⟩, getSubnet_idem hsubnet, rfl, fun a =>
    mem_getSubnet_iff hsubnet⟩
  · exact isAddressInSubnet_iff.trans (and_iff_right hfamily)
  · exact mem_iff_between hfamily

theorem equal_iff_not_less : p.equal q ↔ ¬ p.less q ∧ ¬ q.less p := by
  constructor
  · intro h
    obtain rfl := equal_iff.mp h
    rw [less_iff]
    exact ⟨lt_irrefl _, lt_irrefl _⟩
  · rintro ⟨hpq, hqp⟩
    rcases less_trichotomy p q with h | h | h
    · exact absurd h hpq
    · exact h
    · exact absurd h hqp

/-- A plain text is read exactly if it is that of a prefix. -/
theorem ofString_plain_iff {text : List Char} (h : PlainText text) (pfx : IpPrefix) :
    ofString text = some pfx ↔ RequestParser.IsPrefix text pfx := by
  have hmask : pfx.m_mask ≤ 128 := (RequestParser.mask_le pfx).trans (RequestParser.bitsOf_le _)
  rw [RequestParser.prefix_ofString_eq_some_iff, RequestParser.IsPrefix,
    RequestParser.isFullMask_iff, RequestParser.isNumber_iff_stoi hmask]
  apply and_congr
  · exact or_congr_right (and_congr_right' (and_iff_right h.1).symm)
  · exact or_congr_right (and_congr_right' (and_iff_left h.2).symm)

/-- An address, with the mask of the whole address or with one that is written with digits. -/
def IsAddressLen (text : List Char) (pfx : IpPrefix) : Prop :=
  RequestParser.IsAddress (text.takeWhile (· ≠ '/')) pfx.m_ip ∧
    ('/' ∉ text ∧ pfx.isFullMask = true ∨
      '/' ∈ text ∧ RequestParser.IsNumber (text.dropWhile (· ≠ '/')).tail pfx.m_mask)

/-- **Prefixes are intervals of addresses**, nested or apart, in a strict total order by the length
of their masks first; they come back from their texts, and of the plain texts exactly those of an
address, or of none for the address of zeros, with or without a length are read. -/
theorem prefix_laws (p q : IpPrefix) :
    p.Interval ∧ p.Nested q ∧
      (IsStrictTotalOrder IpPrefix (fun p q => p.less q = true) ∧
        (p.equal q ↔ ¬ p.less q ∧ ¬ q.less p) ∧ (p.equal q ↔ p = q) ∧
        (p.m_mask < q.m_mask → p.less q)) ∧
      ofString p.to_string = some p ∧
      ∀ text, PlainText text → ∀ pfx, ofString text = some pfx ↔ RequestParser.IsPrefix text pfx :=
  ⟨p.interval, fun _ hp hq hmask _ hb => nested hp hq hmask hb,
    ⟨less_strictTotal, equal_iff_not_less, equal_iff, less_of_shorter⟩, p.ofString_to_string,
    fun _ htext => ofString_plain_iff htext⟩

/-- A mask without an address is read as a prefix of the address of zeros. -/
theorem not_prefix_laws : ¬ ∀ text pfx, ofString text = some pfx ↔ IsAddressLen text pfx := by
  intro h
  have hread : ofString ['/', '8'] = some ⟨.v4 (List.Vector.replicate 4 0), 8, by decide⟩ := rfl
  have haddr : IpAddress.ofString [] = some (.v4 (List.Vector.replicate 4 0)) :=
    ((h _ _).mp hread).1.2
  cases haddr

end IpPrefix

end Orchagent
