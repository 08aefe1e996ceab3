/-
Orchagent/RequestGrammar.lean

What the texts of a request mean.

`Denotes` is the grammar of each type: the value that a text writes.  The functions of the library
read more than these texts, and `Careless` are the others: a number with blanks, a sign or letters
around it, one that does not fit, and an address that ends before its text.  What `parseItem`
reads is what a text denotes, or the text is careless (`denotes_iff`).
-/
import Sonic.Orchagent.RequestParser

namespace Orchagent.RequestParser

open Inet (Bytes)
open Numeral (isDigit digitVal value stoul IsInt)
open Swss (getlines)
open request_types_t

/-! ### The grammar of the types -/

/-- The number that some digits write. -/
def IsNumber (text : List Char) (n : ℕ) : Prop :=
  text ≠ [] ∧ (∀ c ∈ text, isDigit 10 c) ∧ value 10 text = n

/-- Six bytes of two digits each, with one of the separators between them. -/
def IsMac (text : List Char) (mac : Bytes 6) : Prop :=
  ∃ sep ∈ [':', '-'], ∃ digits : List (Char × Char),
    (∀ d ∈ digits, isDigit 16 d.1 ∧ isDigit 16 d.2) ∧
    text = [sep].intercalate (digits.map fun d => [d.1, d.2]) ∧
    mac.toList.map UInt8.toNat = digits.map fun d => value 16 [d.1, d.2]

/-- The whole text is an address. -/
def IsAddress (text : List Char) (addr : IpAddress) : Prop :=
  '\x00' ∉ text ∧ IpAddress.ofString text = some addr

/-- An address, or nothing for the one of zeros, and a mask, or nothing for that of the whole
address. -/
def IsPrefix (text : List Char) (pfx : IpPrefix) : Prop :=
  let ipStr := text.takeWhile (· ≠ '/')
  (ipStr = [] ∧ pfx.m_ip = .v4 (List.Vector.replicate 4 0) ∨
      ipStr ≠ [] ∧ IsAddress ipStr pfx.m_ip) ∧
    ('/' ∉ text ∧ pfx.isFullMask = true ∨
      '/' ∈ text ∧ IsNumber (text.dropWhile (· ≠ '/')).tail pfx.m_mask)

def IsVlan (text : List Char) (vid : ℕ) : Prop :=
  ∃ id, text = vlan_prefix ++ id ∧ IsNumber id vid ∧ 1 ≤ vid ∧ vid ≤ 4094

/-- The strings between the commas; an empty one at the end is none. -/
def setItems (text : List Char) : List (List Char) :=
  let parts := text.splitOn ','
  if parts.getLast? = some [] then parts.dropLast else parts

/-- The value that a text writes. -/
def Denotes : (t : request_types_t) → String → Value t → Prop
  | REQ_T_NOT_USED, _, _ => False
  | REQ_T_BOOL, text, b => text = toString b
  | REQ_T_STRING, text, str => str = text
  | REQ_T_MAC_ADDRESS, text, mac => IsMac text.toList mac
  | REQ_T_PACKET_ACTION, text, action => (text, action) ∈ packet_actions
  | REQ_T_IP, text, addr => IsAddress text.toList addr
  | REQ_T_IP_PREFIX, text, pfx => IsPrefix text.toList pfx
  | REQ_T_VLAN, text, vid => IsVlan text.toList vid.toNat
  | REQ_T_UINT, text, n => IsNumber text.toList n.toNat
  | REQ_T_SET, text, items => items = ((setItems text.toList).map String.ofList).toFinset

/-- The texts that the library reads and that write no value of the type. -/
def Careless : request_types_t → List Char → Prop
  | REQ_T_UINT, text => (∃ n, stoul text = .ok n) ∧ ∃ c ∈ text, ¬ isDigit 10 c
  | REQ_T_VLAN, text =>
    ∃ id n, text = vlan_prefix ++ id ∧ stoul id = .ok n ∧
      1 ≤ n % 2 ^ 16 ∧ n % 2 ^ 16 ≤ 4094 ∧ ((∃ c ∈ id, ¬ isDigit 10 c) ∨ 4094 < n)
  | REQ_T_IP, text => (IpAddress.ofString text).isSome ∧ '\x00' ∈ text
  | REQ_T_IP_PREFIX, text =>
    (IpPrefix.ofString text).isSome ∧ ('\x00' ∈ text.takeWhile (· ≠ '/') ∨
      ∃ c ∈ (text.dropWhile (· ≠ '/')).tail, ¬ isDigit 10 c)
  | _, _ => False

variable {text : List Char} {n : ℕ}

/-! ### Numbers -/

theorem stoul_of_isNumber (h : IsNumber text n) (hlt : n < 2 ^ 64) : stoul text = .ok n := by
  obtain ⟨hne, hdigits, rfl⟩ := h
  rw [Numeral.stoul_digits hne hdigits, if_pos hlt]

theorem isNumber_of_stoul (h : stoul text = .ok n) (hdigits : ∀ c ∈ text, isDigit 10 c) :
    IsNumber text n := by
  have hne : text ≠ [] := by
    rintro rfl
    cases h
  rw [Numeral.stoul_digits hne hdigits] at h
  split at h
  · exact ⟨hne, hdigits, Except.ok.inj h⟩
  · cases h

theorem lt_of_stoul (h : stoul text = .ok n) : n < 2 ^ 64 := by
  rw [stoul] at h
  split at h
  · cases h
  · split at h
    · obtain rfl := Except.ok.inj h
      omega
    · cases h

theorem parseUint_eq_ok_iff {str : String} {ret : UInt64} :
    parseUint str = .ok ret ↔ stoul str.toList = .ok ret.toNat := by
  rw [parseUint]
  cases h : stoul str.toList with
  | error e =>
    constructor
    · intro hok
      cases e <;> cases hok
    · intro hok
      cases hok
  | ok n =>
    have hlt : n < 2 ^ 64 := lt_of_stoul h
    show Except.ok _ = Except.ok _ ↔ _
    rw [Except.ok.injEq, Except.ok.injEq, ← UInt64.toNat_inj, UInt64.toNat_ofNat_of_lt' hlt]

theorem denotes_uint {str : String} {ret : UInt64} :
    IsNumber str.toList ret.toNat ↔
      parseUint str = .ok ret ∧ ¬ Careless REQ_T_UINT str.toList := by
  rw [parseUint_eq_ok_iff]
  constructor
  · intro h
    refine ⟨stoul_of_isNumber h ret.toNat_lt, ?_⟩
    rintro ⟨-, c, hc, hnot⟩
    exact hnot (h.2.1 c hc)
  · rintro ⟨hok, hcareful⟩
    refine isNumber_of_stoul hok fun c hc => ?_
    by_contra hnot
    exact hcareful ⟨⟨_, hok⟩, c, hc, hnot⟩

theorem parseVlan_eq_ok_iff {str : String} {ret : UInt16} :
    parseVlan str = .ok ret ↔ ∃ id n, str.toList = vlan_prefix ++ id ∧ stoul id = .ok n ∧
      n % 2 ^ 16 = ret.toNat ∧ 1 ≤ ret.toNat ∧ ret.toNat ≤ 4094 := by
  rw [parseVlan]
  split
  · next hprefix =>
      constructor
      · intro h
        cases h
      · rintro ⟨id, n, htext, -⟩
        exact absurd (by rw [htext, List.take_left]) hprefix
  · next hprefix =>
      obtain ⟨id, htext⟩ : ∃ id, str.toList = vlan_prefix ++ id := by
        have hcut := List.take_append_drop vlan_prefix.length str.toList
        rw [not_not.mp hprefix] at hcut
        exact ⟨_, hcut.symm⟩
      have hid : ∀ id', str.toList = vlan_prefix ++ id' ↔ id' = id := fun id' => by
        rw [htext]
        exact ⟨fun h => (List.append_cancel_left h).symm, fun h => h ▸ rfl⟩
      simp only [hid, exists_eq_left, exists_and_left]
      rw [htext, List.drop_left]
      cases hread : stoul id with
      | error e =>
        constructor
        · intro h
          cases e <;> cases h
        · rintro ⟨n, h, -⟩
          cases h
      | ok n =>
        have hret : (UInt16.ofNat n).toNat = n % 2 ^ 16 := UInt16.toNat_ofNat'
        have hrange : UInt16.ofNat n = 0 ∨ UInt16.ofNat n > 4094 ↔
            ¬ (1 ≤ n % 2 ^ 16 ∧ n % 2 ^ 16 ≤ 4094) := by
          rw [← UInt16.toNat_inj, gt_iff_lt, UInt16.lt_iff_toNat_lt, hret]
          show _ = 0 ∨ 4094 < _ ↔ _
          omega
        simp only [hrange]
        constructor
        · intro h
          split at h
          · cases h
          · next hin =>
              obtain rfl := Except.ok.inj h
              obtain ⟨hlow, hhigh⟩ := not_not.mp hin
              exact ⟨n, rfl, hret.symm, hret ▸ hlow, hret ▸ hhigh⟩
        · rintro ⟨m, hm, hmod, hlow, hhigh⟩
          obtain rfl := Except.ok.inj hm
          rw [if_neg (not_not.mpr ⟨hmod ▸ hlow, hmod ▸ hhigh⟩), Except.ok.injEq,
            ← UInt16.toNat_inj, hret, hmod]

theorem denotes_vlan {str : String} {ret : UInt16} :
    IsVlan str.toList ret.toNat ↔
      parseVlan str = .ok ret ∧ ¬ Careless REQ_T_VLAN str.toList := by
  rw [parseVlan_eq_ok_iff]
  constructor
  · rintro ⟨id, htext, hnumber, hlow, hhigh⟩
    have hread := stoul_of_isNumber hnumber (by omega)
    have hmod : ret.toNat % 2 ^ 16 = ret.toNat := Nat.mod_eq_of_lt ret.toNat_lt
    refine ⟨⟨id, _, htext, hread, hmod, hlow, hhigh⟩, ?_⟩
    rintro ⟨id', n, htext', hread', -, -, hcareless⟩
    obtain rfl := List.append_cancel_left (htext'.symm.trans htext)
    obtain rfl := Except.ok.inj (hread'.symm.trans hread)
    rcases hcareless with ⟨c, hc, hnot⟩ | hlarge
    · exact hnot (hnumber.2.1 c hc)
    · exact absurd hhigh (Nat.not_le.mpr hlarge)
  · rintro ⟨⟨id, n, htext, hread, hmod, hlow, hhigh⟩, hcareful⟩
    have hsmall : (∀ c ∈ id, isDigit 10 c) ∧ n ≤ 4094 := by
      by_contra hnot
      refine hcareful ⟨id, n, htext, hread, hmod ▸ hlow, hmod ▸ hhigh, ?_⟩
      rw [not_and_or, not_forall] at hnot
      simpa using hnot
    obtain ⟨hdigits, hle⟩ := hsmall
    have hn : n = ret.toNat := by
      rw [← hmod, Nat.mod_eq_of_lt (by omega)]
    exact ⟨id, htext, hn ▸ isNumber_of_stoul hread hdigits, hlow, hhigh⟩

/-! ### Addresses -/

theorem parseIpAddress_eq_ok_iff {str : String} {addr : IpAddress} :
    parseIpAddress str = .ok addr ↔ IpAddress.ofString str.toList = some addr := by
  rw [parseIpAddress]
  cases IpAddress.ofString str.toList <;> simp

theorem denotes_ip {str : String} {addr : IpAddress} :
    IsAddress str.toList addr ↔
      parseIpAddress str = .ok addr ∧ ¬ Careless REQ_T_IP str.toList := by
  rw [parseIpAddress_eq_ok_iff]
  constructor
  · rintro ⟨hwhole, hread⟩
    exact ⟨hread, fun h => hwhole h.2⟩
  · rintro ⟨hread, hcareful⟩
    refine ⟨fun hnul => hcareful ⟨?_, hnul⟩, hread⟩
    rw [hread]
    rfl

theorem parseIpPrefix_eq_ok_iff {str : String} {pfx : IpPrefix} :
    parseIpPrefix str = .ok pfx ↔ IpPrefix.ofString str.toList = some pfx := by
  rw [parseIpPrefix]
  cases IpPrefix.ofString str.toList <;> simp

/-- The longest mask of an address. -/
def bitsOf : IpAddress → ℕ
  | .v4 _ => 32
  | .v6 _ => 128

theorem isFullMask_iff {pfx : IpPrefix} : pfx.isFullMask = true ↔ pfx.m_mask = bitsOf pfx.m_ip := by
  obtain ⟨addr, mask, hvalid⟩ := pfx
  cases addr <;> simp [IpPrefix.isFullMask, IpAddress.isV4, bitsOf]

theorem mask_le (pfx : IpPrefix) : pfx.m_mask ≤ bitsOf pfx.m_ip := by
  obtain ⟨addr, mask, hvalid⟩ := pfx
  cases addr <;> exact hvalid

theorem bitsOf_le : ∀ addr : IpAddress, bitsOf addr ≤ 128
  | .v4 _ => show 32 ≤ 128 by decide
  | .v6 _ => le_refl 128

/-- What the constructor of a prefix reads. -/
theorem prefix_ofString_eq_some_iff {pfx : IpPrefix} :
    IpPrefix.ofString text = some pfx ↔
      (text.takeWhile (· ≠ '/') = [] ∧ pfx.m_ip = .v4 (List.Vector.replicate 4 0) ∨
        text.takeWhile (· ≠ '/') ≠ [] ∧
          IpAddress.ofString (text.takeWhile (· ≠ '/')) = some pfx.m_ip) ∧
      ('/' ∉ text ∧ pfx.m_mask = bitsOf pfx.m_ip ∨
        '/' ∈ text ∧ Numeral.stoi (text.dropWhile (· ≠ '/')).tail = some (pfx.m_mask : ℤ)) := by
  rw [IpPrefix.ofString]
  generalize text.takeWhile (· ≠ '/') = ipStr
  generalize (text.dropWhile (· ≠ '/')).tail = maskStr
  have haddr : ∀ addr, (if ipStr = [] then some (.v4 (List.Vector.replicate 4 0)) else
        IpAddress.ofString ipStr) = some addr ↔
      (ipStr = [] ∧ addr = .v4 (List.Vector.replicate 4 0) ∨
        ipStr ≠ [] ∧ IpAddress.ofString ipStr = some addr) := by
    intro addr
    by_cases hnil : ipStr = []
    · rw [if_pos hnil, Option.some.injEq, eq_comm]
      exact ⟨fun h => .inl ⟨hnil, h⟩, fun h => h.elim And.right fun h => absurd hnil h.1⟩
    · rw [if_neg hnil]
      exact ⟨fun h => .inr ⟨hnil, h⟩, fun h => h.elim (fun h => absurd h.1 hnil) And.right⟩
  rw [← haddr, Option.bind_eq_some_iff]
  obtain ⟨m_ip, m_mask, hvalid⟩ := pfx
  have hmask : m_mask ≤ bitsOf m_ip := mask_le ⟨m_ip, m_mask, hvalid⟩
  by_cases hslash : '/' ∈ text
  · simp only [hslash, not_true_eq_false, false_and, true_and, false_or, if_true]
    constructor
    · rintro ⟨addr, haddr, hread⟩
      obtain ⟨mask, hstoi, hmade⟩ := Option.bind_eq_some_iff.mp hread
      obtain ⟨hrange, hmade⟩ := Option.dite_none_right_eq_some.mp hmade
      obtain ⟨rfl, rfl⟩ := IpPrefix.mk.inj (Option.some.inj hmade)
      rw [Int.toNat_of_nonneg hrange.1]
      exact ⟨haddr, hstoi⟩
    · rintro ⟨haddr, hstoi⟩
      refine ⟨m_ip, haddr, Option.bind_eq_some_iff.mpr ⟨m_mask, hstoi, ?_⟩⟩
      exact dif_pos ⟨Int.natCast_nonneg _, by cases m_ip <;> exact hmask⟩
  · simp only [hslash, not_false_eq_true, false_and, true_and, or_false, if_false]
    constructor
    · rintro ⟨addr, haddr, hmade⟩
      obtain ⟨rfl, rfl⟩ := IpPrefix.mk.inj (Option.some.inj hmade)
      exact ⟨haddr, by cases addr <;> rfl⟩
    · rintro ⟨haddr, hfull⟩
      refine ⟨m_ip, haddr, ?_⟩
      cases m_ip <;> exact congrArg some (IpPrefix.mk.injEq .. ▸ ⟨rfl, hfull.symm⟩)

/-- A mask that is written with digits. -/
theorem isNumber_iff_stoi {m : ℕ} (hm : m ≤ 128) :
    IsNumber text m ↔ Numeral.stoi text = some (m : ℤ) ∧ ∀ c ∈ text, isDigit 10 c := by
  constructor
  · rintro ⟨hne, hdigits, rfl⟩
    refine ⟨?_, hdigits⟩
    have hint : IsInt (value 10 text) := ⟨by omega, by omega⟩
    rw [Numeral.stoi_digits hne hdigits, if_pos hint]
  · rintro ⟨hread, hdigits⟩
    have hne : text ≠ [] := by
      rintro rfl
      cases hread
    rw [Numeral.stoi_digits hne hdigits] at hread
    obtain ⟨-, hvalue⟩ := Option.ite_none_right_eq_some.mp hread
    exact ⟨hne, hdigits, Int.ofNat.inj (Option.some.inj hvalue)⟩

theorem denotes_prefix {str : String} {pfx : IpPrefix} :
    IsPrefix str.toList pfx ↔
      parseIpPrefix str = .ok pfx ∧ ¬ Careless REQ_T_IP_PREFIX str.toList := by
  rw [parseIpPrefix_eq_ok_iff]
  have hmask : pfx.m_mask ≤ 128 := (mask_le pfx).trans (bitsOf_le _)
  constructor
  · rintro ⟨haddr, hrest⟩
    rw [isFullMask_iff, isNumber_iff_stoi hmask] at hrest
    refine ⟨prefix_ofString_eq_some_iff.mpr ⟨?_, ?_⟩, ?_⟩
    · exact haddr.imp_right fun h => ⟨h.1, h.2.2⟩
    · exact hrest.imp_right fun h => ⟨h.1, h.2.1⟩
    · rintro ⟨-, hnul | ⟨c, hc, hnot⟩⟩
      · rcases haddr with ⟨hnil, -⟩ | ⟨-, hwhole, -⟩
        · rw [hnil] at hnul
          cases hnul
        · exact hwhole hnul
      · rcases hrest with ⟨hslash, -⟩ | ⟨-, -, hdigits⟩
        · rw [List.dropWhile_eq_nil_iff.mpr] at hc
          · cases hc
          · intro d hd
            exact decide_eq_true fun heq => hslash (heq ▸ hd)
        · exact hnot (hdigits c hc)
  · rintro ⟨hread, hcareful⟩
    obtain ⟨haddr, hrest⟩ := prefix_ofString_eq_some_iff.mp hread
    have hsome : (IpPrefix.ofString str.toList).isSome := by
      rw [hread]
      rfl
    constructor
    · exact haddr.imp_right fun h => ⟨h.1, fun hnul => hcareful ⟨hsome, .inl hnul⟩, h.2⟩
    · rw [isFullMask_iff, isNumber_iff_stoi hmask]
      refine hrest.imp_right fun h => ⟨h.1, h.2, fun c hc => ?_⟩
      by_contra hnot
      exact hcareful ⟨hsome, .inr ⟨c, hc, hnot⟩⟩

/-! ### Hardware addresses -/

theorem digitVal_lt {c : Char} {d : ℕ} (h : digitVal c = some d) : d < 16 := by
  have hlt : ∀ {c lo hi : Char}, lo ≤ c ∧ c ≤ hi → c.toNat - lo.toNat ≤ hi.toNat - lo.toNat := by
    intro c lo hi hc
    have hle : c.toNat ≤ hi.toNat := UInt32.le_iff_toNat_le.mp (Char.le_def.mp hc.2)
    omega
  unfold digitVal at h
  split_ifs at h with hdecimal hlower hupper
  · obtain rfl := Option.some.inj h
    exact (hlt hdecimal).trans_lt (by decide)
  · obtain rfl := Option.some.inj h
    exact Nat.lt_of_le_of_lt (Nat.add_le_add_right (hlt hlower) 10) (by decide)
  · obtain rfl := Option.some.inj h
    exact Nat.lt_of_le_of_lt (Nat.add_le_add_right (hlt hupper) 10) (by decide)

theorem isDigit_iff {c : Char} : isDigit 16 c ↔ ∃ d, digitVal c = some d := by
  rw [isDigit, Option.any_eq_true]
  constructor
  · rintro ⟨d, hd, -⟩
    exact ⟨d, hd⟩
  · rintro ⟨d, hd⟩
    exact ⟨d, hd, decide_eq_true (digitVal_lt hd)⟩

theorem byte_toNat : ∀ l < 16, ∀ r < 16,
    (UInt8.ofNat l <<< 4 ||| UInt8.ofNat r).toNat = 16 * l + r := by
  decide

theorem hexByte_eq_some_iff {left right : Char} {b : UInt8} :
    hexByte left right = some b ↔
      isDigit 16 left ∧ isDigit 16 right ∧ b.toNat = value 16 [left, right] := by
  rw [isDigit_iff, isDigit_iff, hexByte]
  have hvalue : ∀ l r, digitVal left = some l → digitVal right = some r →
      (UInt8.ofNat l <<< 4 ||| UInt8.ofNat r).toNat = value 16 [left, right] := by
    intro l r hl hr
    rw [byte_toNat l (digitVal_lt hl) r (digitVal_lt hr)]
    simp [value, hl, hr]
  constructor
  · intro h
    obtain ⟨l, hl, h⟩ := Option.bind_eq_some_iff.mp h
    obtain ⟨r, hr, h⟩ := Option.bind_eq_some_iff.mp h
    obtain rfl := Option.some.inj h
    exact ⟨⟨l, hl⟩, ⟨r, hr⟩, hvalue l r hl hr⟩
  · rintro ⟨⟨l, hl⟩, ⟨r, hr⟩, hb⟩
    rw [hl, hr]
    refine congrArg some (UInt8.toNat_inj.mp ?_)
    rw [hvalue l r hl hr, hb]

/-- **The text of a hardware address**, with either separator and digits of either case. -/
theorem parseMacString_eq_some_iff {mac : Bytes 6} :
    parseMacString text = some mac ↔ IsMac text mac := by
  constructor
  · intro h
    unfold parseMacString at h
    split at h
    · next l₀ r₀ s₀ l₁ r₁ s₁ l₂ r₂ s₂ l₃ r₃ s₃ l₄ r₄ s₄ l₅ r₅ =>
        obtain ⟨hsame, hchecked⟩ := Option.ite_none_left_eq_some.mp h
        obtain ⟨hsep, hread⟩ := Option.ite_none_left_eq_some.mp hchecked
        clear h hchecked
        obtain ⟨rfl, rfl, rfl, rfl⟩ := not_not.mp hsame
        obtain ⟨b₀, h₀, h⟩ := Option.bind_eq_some_iff.mp hread
        obtain ⟨b₁, h₁, h⟩ := Option.bind_eq_some_iff.mp h
        obtain ⟨b₂, h₂, h⟩ := Option.bind_eq_some_iff.mp h
        obtain ⟨b₃, h₃, h⟩ := Option.bind_eq_some_iff.mp h
        obtain ⟨b₄, h₄, h⟩ := Option.bind_eq_some_iff.mp h
        obtain ⟨b₅, h₅, h⟩ := Option.bind_eq_some_iff.mp h
        obtain rfl := Option.some.inj h
        rw [hexByte_eq_some_iff] at h₀ h₁ h₂ h₃ h₄ h₅
        refine ⟨s₀, ?_, [(l₀, r₀), (l₁, r₁), (l₂, r₂), (l₃, r₃), (l₄, r₄), (l₅, r₅)], ?_, rfl, ?_⟩
        · simpa [or_iff_not_imp_left] using hsep
        · simp [h₀, h₁, h₂, h₃, h₄, h₅]
        · simp [List.Vector.toList_cons, h₀, h₁, h₂, h₃, h₄, h₅]
    · cases h
  · rintro ⟨sep, hsep, digits, hdigits, rfl, hbytes⟩
    have hlength : digits.length = 6 := by
      simpa using (congrArg List.length hbytes).symm
    obtain ⟨bytes, hsix⟩ := mac
    match bytes, hsix, digits, hlength with
    | [b₀, b₁, b₂, b₃, b₄, b₅], _, [d₀, d₁, d₂, d₃, d₄, d₅], _ =>
      have hread : ∀ {d : Char × Char} {b : UInt8},
          d ∈ [d₀, d₁, d₂, d₃, d₄, d₅] → b.toNat = value 16 [d.1, d.2] →
          hexByte d.1 d.2 = some b := fun hd hb =>
        hexByte_eq_some_iff.mpr ⟨(hdigits _ hd).1, (hdigits _ hd).2, hb⟩
      simp only [List.Vector.toList_mk, List.map_cons, List.cons.injEq] at hbytes
      obtain ⟨h₀, h₁, h₂, h₃, h₄, h₅, -⟩ := hbytes
      show parseMacString [d₀.1, d₀.2, sep, d₁.1, d₁.2, sep, d₂.1, d₂.2, sep, d₃.1, d₃.2, sep,
        d₄.1, d₄.2, sep, d₅.1, d₅.2] = _
      have hsep' : ¬ (sep ≠ ':' ∧ sep ≠ '-') := by
        simpa [or_iff_not_imp_left] using hsep
      rw [parseMacString, if_neg (not_not.mpr ⟨rfl, rfl, rfl, rfl⟩), if_neg hsep',
        hread (by simp) h₀, hread (by simp) h₁, hread (by simp) h₂, hread (by simp) h₃,
        hread (by simp) h₄, hread (by simp) h₅]
      rfl

theorem denotes_mac {str : String} {mac : Bytes 6} :
    IsMac str.toList mac ↔ parseMacAddress str = .ok mac := by
  rw [← parseMacString_eq_some_iff, parseMacAddress]
  cases parseMacString str.toList <;> simp

/-! ### Words -/

theorem denotes_bool {str : String} {b : Bool} : str = toString b ↔ parseBool str = .ok b := by
  rw [parseBool]
  constructor
  · rintro rfl
    cases b <;> rfl
  · intro h
    split at h
    · next htrue => exact Except.ok.inj h ▸ htrue
    · split at h
      · next hfalse => exact Except.ok.inj h ▸ hfalse
      · cases h

theorem denotes_action {str : String} {action : sai_packet_action_t} :
    (str, action) ∈ packet_actions ↔ parsePacketAction str = .ok action := by
  have hlookup : (str, action) ∈ packet_actions ↔ packet_actions.lookup str = some action := by
    constructor
    · intro h
      simp only [packet_actions, List.mem_cons, Prod.mk.injEq, List.not_mem_nil, or_false] at h
      rcases h with h | h | h | h | h | h | h | h <;> (obtain ⟨rfl, rfl⟩ := h; rfl)
    · intro h
      obtain ⟨before, later, hsplit, -⟩ := List.lookup_eq_some_iff.mp h
      rw [hsplit]
      exact List.mem_append_right _ List.mem_cons_self
  rw [hlookup, parsePacketAction]
  cases packet_actions.lookup str <;> simp

/-! ### Sets -/

/-- `getline` splits at the separators, but for an empty string at the end. -/
theorem getlines_splitOn {token : Char} {tmp s : List Char} :
    getlines token tmp s =
      let parts := (s.splitOn token).modifyHead (tmp ++ ·)
      if parts.getLast? = some [] then parts.dropLast else parts := by
  induction s generalizing tmp with
  | nil =>
    show (if tmp = [] then [] else [tmp]) = if some (tmp ++ []) = some [] then [] else [tmp ++ []]
    simp
  | cons c s ih =>
    obtain ⟨first, rest, hsplit⟩ := List.exists_cons_of_ne_nil (List.splitOn_ne_nil token s)
    rw [getlines]
    split
    · next hc =>
        have hcons : (c :: s).splitOn token = [] :: first :: rest := by
          rw [List.splitOn_cons_eq_if_modifyHead, if_pos (by simpa using hc), hsplit]
        rw [ih, hsplit, hcons]
        simp only [List.modifyHead_cons, List.nil_append, List.append_nil,
          List.getLast?_cons_cons, List.dropLast_cons_cons]
        split <;> rfl
    · next hc =>
        have hcons : (c :: s).splitOn token = (c :: first) :: rest := by
          rw [List.splitOn_cons_eq_if_modifyHead, if_neg (by simpa using hc), hsplit]
          rfl
        rw [ih, hsplit, hcons]
        simp only [List.modifyHead_cons, List.append_assoc, List.singleton_append]

theorem denotes_set {str : String} {items : Finset String} :
    items = ((setItems str.toList).map String.ofList).toFinset ↔ parseSet str = items := by
  have hitems : getlines ',' [] str.toList = setItems str.toList := by
    rw [getlines_splitOn, setItems]
    obtain ⟨first, rest, hsplit⟩ :=
      List.exists_cons_of_ne_nil (List.splitOn_ne_nil ',' str.toList)
    rw [hsplit]
    rfl
  rw [parseSet, hitems, eq_comm]

/-! ### What is read -/

/-- **What a text denotes is what is read of it, unless it is careless.** -/
theorem denotes_iff {t : request_types_t} {str : String} {v : Value t} :
    Denotes t str v ↔ parseItem t str = .ok v ∧ ¬ Careless t str.toList := by
  cases t with
  | REQ_T_NOT_USED => exact v.elim
  | REQ_T_BOOL => exact denotes_bool.trans (and_iff_left id).symm
  | REQ_T_STRING =>
    show v = str ↔ Except.ok str = Except.ok v ∧ ¬ False
    rw [Except.ok.injEq, eq_comm]
    exact (and_iff_left id).symm
  | REQ_T_MAC_ADDRESS => exact denotes_mac.trans (and_iff_left id).symm
  | REQ_T_PACKET_ACTION => exact denotes_action.trans (and_iff_left id).symm
  | REQ_T_IP => exact denotes_ip
  | REQ_T_IP_PREFIX => exact denotes_prefix
  | REQ_T_VLAN => exact denotes_vlan
  | REQ_T_UINT => exact denotes_uint
  | REQ_T_SET =>
    show v = _ ↔ Except.ok (parseSet str) = Except.ok v ∧ ¬ False
    rw [Except.ok.injEq, denotes_set]
    exact (and_iff_left id).symm

/-- A careless text is read. -/
theorem exists_of_careless {t : request_types_t} {str : String} (h : Careless t str.toList) :
    ∃ v, parseItem t str = .ok v := by
  cases t with
  | REQ_T_IP =>
    obtain ⟨addr, haddr⟩ := Option.isSome_iff_exists.mp h.1
    exact ⟨addr, parseIpAddress_eq_ok_iff.mpr haddr⟩
  | REQ_T_IP_PREFIX =>
    obtain ⟨pfx, hpfx⟩ := Option.isSome_iff_exists.mp h.1
    exact ⟨pfx, parseIpPrefix_eq_ok_iff.mpr hpfx⟩
  | REQ_T_VLAN =>
    obtain ⟨id, n, htext, hread, hlow, hhigh, -⟩ := h
    have hret : (UInt16.ofNat n).toNat = n % 2 ^ 16 := UInt16.toNat_ofNat'
    exact ⟨UInt16.ofNat n, parseVlan_eq_ok_iff.mpr
      ⟨id, n, htext, hread, hret.symm, hret ▸ hlow, hret ▸ hhigh⟩⟩
  | REQ_T_UINT =>
    obtain ⟨⟨n, hread⟩, -⟩ := h
    refine ⟨UInt64.ofNat n, parseUint_eq_ok_iff.mpr ?_⟩
    rw [UInt64.toNat_ofNat_of_lt' (lt_of_stoul hread)]
    exact hread
  | _ => exact h.elim

end Orchagent.RequestParser
