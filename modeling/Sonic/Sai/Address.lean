/-
Sai/Address.lean

Object ids and addresses of the SAI codec: ids, MAC and IP addresses, prefixes.

The decoders look at the whole text only in part.  An object id is accepted exactly
when it is well written (`object_id_exact`).  A prefix is split at slashes, so one at
the very end is not seen, its address is read up to the first NUL, and its length is
a number cast to eight bits; `prefix_exact_iff` says when this makes no difference.
-/
import Sonic.Common.Tokenize
import Sonic.Lib.Inet
import Sonic.Sai.Number

namespace Sai

open Numeral Inet
open Swss (getlines)

/-- `s.c_str()`: a C string ends at the first NUL. -/
def c_str (s : List Char) : List Char := s.takeWhile (· ≠ '\x00')

/-! ### Object ids -/

abbrev sai_object_id_t := UInt64

def oidMark : List Char := ['o', 'i', 'd', ':', '0', 'x']

/-- `sai_serialize_object_id`. -/
def sai_serialize_object_id (oid : sai_object_id_t) : List Char :=
  oidMark ++ Nat.toDigits 16 oid.toNat

/-- `sai_deserialize_object_id`. -/
def sai_deserialize_object_id (s : List Char) : Option sai_object_id_t :=
  if oidMark.isPrefixOf s then
    let r := strtoull (s.drop 4) true
    if r.erange ∨ r.endptr ≠ [] then none else some (UInt64.ofNat r.number)
  else none

/-! ### MAC addresses -/

abbrev sai_mac_t := Bytes 6

/-- A digit of base sixteen as a capital. -/
def hexCapital (d : ℕ) : Char := if d < 10 then d.digitChar else d.digitChar.toUpper

/-- A byte as `%02X` writes it. -/
def hexByte (b : UInt8) : List Char := [hexCapital (b.toNat / 16), hexCapital (b.toNat % 16)]

/-- `sai_serialize_mac`. -/
def sai_serialize_mac (mac : sai_mac_t) : List Char :=
  [':'].intercalate (mac.toList.map hexByte)

/-- `char_to_int`, which throws for other characters. -/
def char_to_int (c : Char) : Option ℕ := digitVal c

/-- The byte `j` of a MAC address. -/
def macByte (s : List Char) (j : ℕ) : Option UInt8 :=
  (s[3 * j]?.bind char_to_int).bind fun h =>
    (s[3 * j + 1]?.bind char_to_int).map fun l => UInt8.ofNat (16 * h + l)

/-- `sai_deserialize_mac`. -/
def sai_deserialize_mac (s : List Char) : Option sai_mac_t :=
  if s.length ≠ 6 * 2 + 5 then none
  else
    match macByte s 0, macByte s 1, macByte s 2, macByte s 3, macByte s 4, macByte s 5 with
    | some b₀, some b₁, some b₂, some b₃, some b₄, some b₅ => some ⟨[b₀, b₁, b₂, b₃, b₄, b₅], rfl⟩
    | _, _, _, _, _, _ => none

/-! ### IP addresses -/

abbrev sai_ip4_t := Bytes 4
abbrev sai_ip6_t := Bytes 16

inductive sai_ip_address_t where
  | ipv4 (addr : sai_ip4_t)
  | ipv6 (addr : sai_ip6_t)
  deriving DecidableEq

def sai_serialize_ipv4 (ip : sai_ip4_t) : List Char := inet_ntop4 ip

def sai_serialize_ipv6 (ip : sai_ip6_t) : List Char := inet_ntop6 ip

def sai_deserialize_ipv4 (s : List Char) : Option sai_ip4_t := inet_pton4 (c_str s)

def sai_deserialize_ipv6 (s : List Char) : Option sai_ip6_t := inet_pton6 (c_str s)

/-- `sai_serialize_ip_address`. -/
def sai_serialize_ip_address : sai_ip_address_t → List Char
  | .ipv4 addr => sai_serialize_ipv4 addr
  | .ipv6 addr => sai_serialize_ipv6 addr

/-- `sai_deserialize_ip_address`. -/
def sai_deserialize_ip_address (s : List Char) : Option sai_ip_address_t :=
  match inet_pton4 (c_str s) with
  | some addr => some (.ipv4 addr)
  | none => (inet_pton6 (c_str s)).map .ipv6

/-! ### Prefixes -/

inductive sai_ip_prefix_t where
  | ipv4 (addr mask : sai_ip4_t)
  | ipv6 (addr mask : sai_ip6_t)
  deriving DecidableEq

variable {n : ℕ}

/-- The bit `i` of a mask, from the front. -/
def maskBit (mask : Bytes n) (i : ℕ) : Bool :=
  (mask.toList.getD (i / 8) 0).toNat.testBit (7 - i % 8)

/-- One round of the loop of `get_ip_mask`: the ones counted, and whether a zero was seen. -/
def maskStep (mask : Bytes n) (st : ℕ × Bool) (i : ℕ) : Option (ℕ × Bool) :=
  let bit := maskBit mask i
  if st.2 && bit then none else some (if bit then st.1 + 1 else st.1, st.2 || !bit)

/-- `get_ip_mask`, which throws for a one after a zero. -/
def get_ip_mask (mask : Bytes n) : Option ℕ :=
  ((List.range (8 * n)).foldlM (maskStep mask) (0, false)).map (·.1)

/-- The byte `i` of a mask of some ones. -/
def populatedByte (bits i : ℕ) : UInt8 :=
  if i < bits / 8 then 0xFF
  else if i = bits / 8 ∧ bits % 8 ≠ 0 then UInt8.ofNat (0xFF * 2 ^ (8 - bits % 8))
  else 0

/-- `sai_populate_ip_mask`, which throws for too many bits. -/
def sai_populate_ip_mask (bits : ℕ) (n : ℕ) : Option (Bytes n) :=
  if 8 * n < bits then none
  else some (List.Vector.ofFn fun i : Fin n => populatedByte bits i)

/-- `sai_serialize_ip_prefix`. -/
def sai_serialize_ip_prefix : sai_ip_prefix_t → Option (List Char)
  | .ipv4 addr mask =>
    (get_ip_mask mask).map fun ones : ℕ =>
      sai_serialize_ipv4 addr ++ '/' :: sai_serialize_number (IntType.uint8.cast ones) false
  | .ipv6 addr mask =>
    (get_ip_mask mask).map fun ones : ℕ =>
      sai_serialize_ipv6 addr ++ '/' :: sai_serialize_number (IntType.int32.cast ones) false

/-- `sai_deserialize_ip_prefix`. -/
def sai_deserialize_ip_prefix (s : List Char) : Option sai_ip_prefix_t :=
  match getlines '/' [] s with
  | [ip, len] =>
    (sai_deserialize_number .uint8 len false).bind fun mask =>
      match inet_pton4 (c_str ip) with
      | some addr => (sai_populate_ip_mask mask.1.toNat 4).map (.ipv4 addr)
      | none =>
        match inet_pton6 (c_str ip) with
        | some addr => (sai_populate_ip_mask mask.1.toNat 16).map (.ipv6 addr)
        | none => none
  | _ => none

variable {s : List Char}

/-! ### Object ids are read back -/

/-- The text after `oid:` with its mark, as a numeral. -/
def markedShape (ds : List Char) (hne : ds ≠ []) (hds : ∀ c ∈ ds, isDigit 16 c) : Shape true :=
  { hexadecimal 0 with digits := ds, ne_nil := hne, digit := hds }

/-- A numeral that begins with the mark is its mark and digits. -/
theorem digits_of_text_eq {t : Shape true} {ds : List Char} (h : t.text = '0' :: 'x' :: ds) :
    t.digits = ds := by
  have hdrop : t.text.dropWhile isspace = '0' :: 'x' :: ds := by
    rw [h]
    rfl
  rw [t.dropWhile_eq] at hdrop
  have hsign := congrArg takeSign hdrop
  rw [t.takeSign_eq] at hsign
  rw [← t.skipMark_eq, (Prod.mk.inj hsign).2]
  rfl

/-- What is read of an object id that is well written. -/
theorem sai_deserialize_object_id_mark {ds : List Char} (hne : ds ≠ [])
    (hds : ∀ c ∈ ds, isDigit 16 c) (hfits : value 16 ds < 2 ^ 64) :
    sai_deserialize_object_id (oidMark ++ ds) = some (UInt64.ofNat (value 16 ds)) := by
  have hmark : oidMark.isPrefixOf (oidMark ++ ds) = true := by
    rw [List.isPrefixOf_iff_prefix]
    exact List.prefix_append oidMark ds
  have hread : strtoull ((oidMark ++ ds).drop 4) true = ⟨value 16 ds, [], false⟩ :=
    ((markedShape ds hne hds).strtoull_text).trans (if_pos hfits)
  rw [sai_deserialize_object_id, if_pos hmark, hread]
  rfl

/-- **An object id is read back.** -/
theorem sai_deserialize_serialize_object_id (oid : sai_object_id_t) :
    sai_deserialize_object_id (sai_serialize_object_id oid) = some oid := by
  have hvalue : value 16 (Nat.toDigits 16 oid.toNat) = oid.toNat :=
    value_toDigits (by decide) (by decide)
  rw [sai_serialize_object_id, sai_deserialize_object_id_mark Nat.toDigits_ne_nil
    (fun c hc => isDigit_of_mem_toDigits (by decide) (by decide) hc)
    (by rw [hvalue]; exact oid.toNat_lt), hvalue, UInt64.ofNat_toNat]

/-- A text is accepted as an object id exactly if it is the mark and one to sixteen
digits, the zeros in front not counted. -/
def ObjectIdExact (s : List Char) : Prop :=
  (sai_deserialize_object_id s).isSome ↔
    ∃ ds, s = oidMark ++ ds ∧ ds ≠ [] ∧ (∀ c ∈ ds, isDigit 16 c) ∧
      (ds.dropWhile (· = '0')).length ≤ 16

/-- **Object ids are accepted exactly.** -/
theorem object_id_exact (s : List Char) : ObjectIdExact s := by
  constructor
  · intro h
    obtain ⟨oid, h⟩ := Option.isSome_iff_exists.mp h
    unfold sai_deserialize_object_id at h
    split at h
    · next hmark =>
        obtain ⟨ds, rfl⟩ := List.isPrefixOf_iff_prefix.mp hmark
        change (if (strtoull ('0' :: 'x' :: ds) true).erange = true ∨
          (strtoull ('0' :: 'x' :: ds) true).endptr ≠ [] then none else _) = _ at h
        split at h
        · exact absurd h (by simp)
        · next hread =>
            obtain ⟨herange, hend⟩ := not_or.mp hread
            obtain ⟨t, htext⟩ := (strtoull_endptr_eq_nil.mp (not_not.mp hend)).resolve_left
              (List.cons_ne_nil _ _)
            have hdigits := digits_of_text_eq htext
            have hds : ∀ c ∈ ds, isDigit 16 c := hdigits ▸ t.digit
            have hfits : value 16 ds < 16 ^ 16 := by
              by_contra hle
              rw [← htext, t.strtoull_text, if_neg (by rw [Shape.magnitude, hdigits]; exact hle)]
                at herange
              exact herange rfl
            exact ⟨ds, rfl, hdigits ▸ t.ne_nil, hds, (value_lt_iff (by decide) hds).mp hfits⟩
    · exact absurd h (by simp)
  · rintro ⟨ds, rfl, hne, hds, hlen⟩
    have hfits : value 16 ds < 16 ^ 16 := (value_lt_iff (by decide) hds).mpr hlen
    rw [sai_deserialize_object_id_mark hne hds hfits]
    rfl

/-! ### MAC and IP addresses are read back -/

theorem digitVal_hexCapital {d : ℕ} (hd : d < 16) : digitVal (hexCapital d) = some d := by
  interval_cases d <;> decide

theorem exists_bytes6 (mac : sai_mac_t) :
    ∃ b₀ b₁ b₂ b₃ b₄ b₅, mac = ⟨[b₀, b₁, b₂, b₃, b₄, b₅], rfl⟩ := by
  obtain ⟨l, hl⟩ := mac
  match l, hl with
  | [b₀, b₁, b₂, b₃, b₄, b₅], _ => exact ⟨b₀, b₁, b₂, b₃, b₄, b₅, rfl⟩

theorem macByte_eq {j : ℕ} {b : UInt8} (hhi : s[3 * j]? = some (hexCapital (b.toNat / 16)))
    (hlo : s[3 * j + 1]? = some (hexCapital (b.toNat % 16))) : macByte s j = some b := by
  have hb := b.toNat_lt
  have hhi' : digitVal (hexCapital (b.toNat / 16)) = some (b.toNat / 16) :=
    digitVal_hexCapital (by omega)
  have hlo' : digitVal (hexCapital (b.toNat % 16)) = some (b.toNat % 16) :=
    digitVal_hexCapital (by omega)
  simp only [macByte, hhi, hlo, char_to_int, Option.bind_some, hhi', hlo', Option.map_some]
  rw [Nat.div_add_mod, UInt8.ofNat_toNat]

/-- **A MAC address is read back.** -/
theorem sai_deserialize_serialize_mac (mac : sai_mac_t) :
    sai_deserialize_mac (sai_serialize_mac mac) = some mac := by
  obtain ⟨b₀, b₁, b₂, b₃, b₄, b₅, rfl⟩ := exists_bytes6 mac
  have htext : sai_serialize_mac ⟨[b₀, b₁, b₂, b₃, b₄, b₅], rfl⟩
      = hexByte b₀ ++ ':' :: (hexByte b₁ ++ ':' :: (hexByte b₂ ++ ':' :: (hexByte b₃ ++
          ':' :: (hexByte b₄ ++ ':' :: hexByte b₅)))) := by
    simp [sai_serialize_mac, List.Vector.toList]
  rw [htext, sai_deserialize_mac, if_neg (by simp [hexByte]), macByte_eq (b := b₀) rfl rfl,
    macByte_eq (b := b₁) rfl rfl, macByte_eq (b := b₂) rfl rfl, macByte_eq (b := b₃) rfl rfl,
    macByte_eq (b := b₄) rfl rfl, macByte_eq (b := b₅) rfl rfl]

theorem c_str_eq (h : '\x00' ∉ s) : c_str s = s := by
  refine List.takeWhile_eq_self_iff.mpr fun c hc => ?_
  have hne : c ≠ '\x00' := fun he => h (he ▸ hc)
  simpa using hne

/-- The characters of an address. -/
def AddressChar (c : Char) : Prop := isDigit 16 c ∨ c = ':' ∨ c = '.'

theorem addressChar_ne {c : Char} (hc : AddressChar c) :
    c ≠ '/' ∧ c ≠ ',' ∧ c ≠ '&' ∧ c ≠ '\x00' ∧ c ≠ 'n' ∧ c ≠ 's' := by
  refine ⟨?_, ?_, ?_, ?_, ?_, ?_⟩ <;> rintro rfl <;> exact absurd hc (by unfold AddressChar; decide)

theorem addressChar_ipv4 {addr : sai_ip4_t} {c : Char} (hc : c ∈ sai_serialize_ipv4 addr) :
    AddressChar c :=
  (mem_inet_ntop4 hc).imp isDigit_sixteen Or.inr

theorem addressChar_ipv6 {addr : sai_ip6_t} {c : Char} (hc : c ∈ sai_serialize_ipv6 addr) :
    AddressChar c :=
  mem_inet_ntop6 hc

theorem c_str_ipv4 (addr : sai_ip4_t) : c_str (sai_serialize_ipv4 addr) = inet_ntop4 addr :=
  c_str_eq fun h => (addressChar_ne (addressChar_ipv4 h)).2.2.2.1 rfl

theorem c_str_ipv6 (addr : sai_ip6_t) : c_str (sai_serialize_ipv6 addr) = inet_ntop6 addr :=
  c_str_eq fun h => (addressChar_ne (addressChar_ipv6 h)).2.2.2.1 rfl

theorem sai_deserialize_serialize_ipv4 (addr : sai_ip4_t) :
    sai_deserialize_ipv4 (sai_serialize_ipv4 addr) = some addr := by
  rw [sai_deserialize_ipv4, c_str_ipv4, inet_pton4_ntop4]

theorem sai_deserialize_serialize_ipv6 (addr : sai_ip6_t) :
    sai_deserialize_ipv6 (sai_serialize_ipv6 addr) = some addr := by
  rw [sai_deserialize_ipv6, c_str_ipv6, inet_pton6_ntop6]

/-- **An IP address is read back**, in its family. -/
theorem sai_deserialize_serialize_ip_address (a : sai_ip_address_t) :
    sai_deserialize_ip_address (sai_serialize_ip_address a) = some a := by
  cases a with
  | ipv4 addr => rw [sai_serialize_ip_address, sai_deserialize_ip_address, c_str_ipv4, inet_pton4_ntop4]
  | ipv6 addr =>
    rw [sai_serialize_ip_address, sai_deserialize_ip_address, c_str_ipv6, inet_pton4_ntop6,
      inet_pton6_ntop6]
    rfl

/-! ### Masks -/

/-- A mask is some ones, and zeros after them. -/
def Ones (mask : Bytes n) (ones : ℕ) : Prop := ∀ i < 8 * n, maskBit mask i = decide (i < ones)

/-- A mask has a one after a zero. -/
def Mixed (mask : Bytes n) : Prop :=
  ∃ i j, i < j ∧ j < 8 * n ∧ maskBit mask i = false ∧ maskBit mask j = true

/-- What the loop of `get_ip_mask` knows after `k` bits. -/
def MaskRead (mask : Bytes n) (k : ℕ) : Option (ℕ × Bool) → Prop
  | some (ones, zeros) =>
    ones ≤ k ∧ (zeros = true ↔ ones < k) ∧ ∀ i < k, maskBit mask i = decide (i < ones)
  | none => ∃ i j, i < j ∧ j < k ∧ maskBit mask i = false ∧ maskBit mask j = true

theorem MaskRead.step {mask : Bytes n} {k ones : ℕ} {zeros : Bool}
    (h : MaskRead mask k (some (ones, zeros))) :
    MaskRead mask (k + 1) (maskStep mask (ones, zeros) k) := by
  obtain ⟨hle, hzeros, hbits⟩ := h
  cases hbit : maskBit mask k with
  | false =>
    -- a zero: the ones are counted
    have hstep : maskStep mask (ones, zeros) k = some (ones, true) := by
      simp [maskStep, hbit]
    rw [hstep]
    refine ⟨by omega, by simp; omega, fun i hi => ?_⟩
    rcases Nat.lt_succ_iff_lt_or_eq.mp hi with hi | rfl
    · exact hbits i hi
    · rw [hbit]
      simp [hle]
  | true =>
    cases hz : zeros with
    | true =>
      have hlt : ones < k := hzeros.mp hz
      have hstep : maskStep mask (ones, true) k = none := by simp [maskStep, hbit]
      rw [hstep]
      exact ⟨ones, k, hlt, by omega, by rw [hbits ones hlt]; simp, hbit⟩
    | false =>
      have hk : ones = k := by
        have hnot : ¬ ones < k := fun hlt => by simp [hz] at hzeros; omega
        omega
      have hstep : maskStep mask (ones, false) k = some (ones + 1, false) := by
        simp [maskStep, hbit]
      rw [hstep]
      refine ⟨by omega, by simp [hk], fun i hi => ?_⟩
      rcases Nat.lt_succ_iff_lt_or_eq.mp hi with hi | rfl
      · rw [hbits i hi]
        simp; omega
      · rw [hbit, hk]
        simp

theorem maskRead (mask : Bytes n) (k : ℕ) :
    MaskRead mask k ((List.range k).foldlM (maskStep mask) (0, false)) := by
  induction k with
  | zero => exact ⟨le_refl 0, by simp, by simp⟩
  | succ k ih =>
    rw [List.range_succ, List.foldlM_append]
    cases hst : (List.range k).foldlM (maskStep mask) (0, false) with
    | none =>
      rw [hst] at ih
      obtain ⟨i, j, hij, hj, hbits⟩ := ih
      exact ⟨i, j, hij, by omega, hbits⟩
    | some st =>
      rw [hst] at ih
      show MaskRead mask (k + 1) ([k].foldlM (maskStep mask) st)
      rw [List.foldlM_cons, show (fun st' => List.foldlM (maskStep mask) st' ([] : List ℕ))
        = pure from rfl, bind_pure]
      exact ih.step

/-- **The number of ones of a mask**, if the mask is not mixed. -/
theorem get_ip_mask_spec (mask : Bytes n) :
    (∀ ones, get_ip_mask mask = some ones → ones ≤ 8 * n ∧ Ones mask ones) ∧
      (get_ip_mask mask = none ↔ Mixed mask) := by
  have hread := maskRead mask (8 * n)
  unfold get_ip_mask
  cases hst : (List.range (8 * n)).foldlM (maskStep mask) (0, false) with
  | none =>
    rw [hst] at hread
    exact ⟨by simp, fun _ => hread, fun _ => rfl⟩
  | some st =>
    obtain ⟨ones, zeros⟩ := st
    rw [hst] at hread
    obtain ⟨hle, -, hbits⟩ := hread
    refine ⟨?_, ⟨fun h => absurd h (by simp), ?_⟩⟩
    · rintro k hk
      obtain rfl := Option.some.inj hk
      exact ⟨hle, hbits⟩
    · rintro ⟨i, j, hij, hj, hzero, hone⟩
      rw [hbits i (by omega)] at hzero
      rw [hbits j hj] at hone
      have hi := of_decide_eq_false hzero
      have hj' := of_decide_eq_true hone
      omega

/-- The bits of a byte of a mask of some ones. -/
theorem testBit_populatedByte {bits i : ℕ} :
    (populatedByte bits (i / 8)).toNat.testBit (7 - i % 8) = decide (i < bits) := by
  have hfull : ∀ k < 8, (0xFF : UInt8).toNat.testBit (7 - k) = true := by decide
  have hpart : ∀ r < 8, r ≠ 0 → ∀ k < 8,
      (UInt8.ofNat (0xFF * 2 ^ (8 - r))).toNat.testBit (7 - k) = decide (k < r) := by decide
  have hmod : i % 8 < 8 := Nat.mod_lt i (by decide)
  unfold populatedByte
  split_ifs with hlt heq
  · rw [hfull _ hmod, eq_comm, decide_eq_true_iff]
    omega
  · rw [hpart _ (Nat.mod_lt bits (by decide)) heq.2 _ hmod]
    congr 1
    rw [eq_iff_iff]
    omega
  · have hge : ¬ i < bits := by
      intro hi
      omega
    simp [hge]

theorem maskBit_ofFn {f : ℕ → UInt8} {i : ℕ} (hi : i < 8 * n) :
    maskBit (List.Vector.ofFn fun j : Fin n => f j) i = (f (i / 8)).toNat.testBit (7 - i % 8) := by
  have hlt : i / 8 < n := by omega
  unfold maskBit
  rw [List.Vector.toList_ofFn, List.getD_eq_getElem _ _ (by simpa using hlt), List.getElem_ofFn]

theorem eq_of_testBit {b b' : UInt8}
    (h : ∀ k < 8, b.toNat.testBit (7 - k) = b'.toNat.testBit (7 - k)) : b = b' := by
  apply UInt8.toNat_inj.mp
  apply Nat.eq_of_testBit_eq
  intro k
  rcases Nat.lt_or_ge k 8 with hk | hk
  · have hbit := h (7 - k) (by omega)
    rwa [show 7 - (7 - k) = k by omega] at hbit
  · have hlarge : 2 ^ 8 ≤ 2 ^ k := Nat.pow_le_pow_right (by decide) hk
    rw [Nat.testBit_lt_two_pow (b.toNat_lt.trans_le hlarge),
      Nat.testBit_lt_two_pow (b'.toNat_lt.trans_le hlarge)]

/-- Masks with the same bits are the same. -/
theorem eq_of_maskBit {mask mask' : Bytes n}
    (h : ∀ i < 8 * n, maskBit mask i = maskBit mask' i) : mask = mask' := by
  apply List.Vector.toList_injective
  apply List.ext_getElem (by simp)
  intro j hj hj'
  have hjn : j < n := by simpa using hj
  apply eq_of_testBit
  intro k hk
  have hbit := h (8 * j + k) (by omega)
  unfold maskBit at hbit
  rwa [show (8 * j + k) / 8 = j by omega, show (8 * j + k) % 8 = k by omega,
    List.getD_eq_getElem _ _ hj, List.getD_eq_getElem _ _ hj'] at hbit

/-- **A mask is made from its number of ones.** -/
theorem sai_populate_ip_mask_get {mask : Bytes n} {ones : ℕ} (h : get_ip_mask mask = some ones) :
    sai_populate_ip_mask ones n = some mask := by
  obtain ⟨hle, hbits⟩ := (get_ip_mask_spec mask).1 ones h
  rw [sai_populate_ip_mask, if_neg (by omega)]
  refine congrArg some (eq_of_maskBit fun i hi => ?_)
  rw [maskBit_ofFn hi, testBit_populatedByte, hbits i hi]

/-! ### Prefixes are read back -/

/-- The length of a prefix is written in decimal, whatever its type. -/
theorem sai_serialize_number_cast {T : IntType} {k : ℕ} (hT : T.min ≤ k ∧ k ≤ T.max) :
    sai_serialize_number (T.cast k) false = Nat.toDigits 10 k := by
  have hval : (T.cast k).1 = k := IntType.val_cast hT
  rw [sai_serialize_number, hval, if_neg (by simp), if_neg (by omega), Int.natAbs_natCast]

theorem range_uint8 {k : ℕ} (hk : k ≤ 128) :
    IntType.uint8.min ≤ k ∧ k ≤ IntType.uint8.max := by
  refine ⟨?_, ?_⟩
  · show (0 : ℤ) ≤ k
    omega
  · show (k : ℤ) ≤ 0 + 2 ^ 8 - 1
    omega

theorem range_int32 {k : ℕ} (hk : k ≤ 128) :
    IntType.int32.min ≤ k ∧ k ≤ IntType.int32.max := by
  refine ⟨?_, ?_⟩
  · show (-2 ^ 31 : ℤ) ≤ k
    omega
  · show (k : ℤ) ≤ -2 ^ 31 + 2 ^ 32 - 1
    omega

theorem sai_deserialize_number_length {k : ℕ} (hk : k ≤ 128) :
    sai_deserialize_number .uint8 (Nat.toDigits 10 k) false = some (IntType.uint8.cast k) := by
  rw [← sai_serialize_number_cast (range_uint8 hk)]
  exact sai_deserialize_serialize_number _ false

/-- The parts of a prefix are told apart. -/
theorem getlines_prefix {addr : List Char} {k : ℕ} (haddr : ∀ c ∈ addr, AddressChar c) :
    getlines '/' [] (addr ++ '/' :: Nat.toDigits 10 k) = [addr, Nat.toDigits 10 k] := by
  have hdigits : '/' ∉ Nat.toDigits 10 k := fun hmem =>
    absurd (isDigit_of_mem_toDigits (by decide) (by decide) hmem) (by decide)
  rw [Swss.getlines_append fun hmem => (addressChar_ne (haddr _ hmem)).1 rfl,
    Swss.getlines_of_not_mem hdigits, List.nil_append, List.nil_append,
    if_neg Nat.toDigits_ne_nil]

/-- **A prefix is read back.** -/
theorem sai_deserialize_serialize_ip_prefix {p : sai_ip_prefix_t} {text : List Char}
    (h : sai_serialize_ip_prefix p = some text) : sai_deserialize_ip_prefix text = some p := by
  cases p with
  | ipv4 addr mask =>
    obtain ⟨ones, hones, rfl⟩ := Option.map_eq_some_iff.mp h
    have hle : ones ≤ 128 := ((get_ip_mask_spec mask).1 ones hones).1.trans (by decide)
    rw [sai_serialize_number_cast (range_uint8 hle), sai_deserialize_ip_prefix,
      getlines_prefix fun c hc => addressChar_ipv4 hc]
    simp only [sai_deserialize_number_length hle, Option.bind_some, c_str_ipv4,
      inet_pton4_ntop4, IntType.val_cast (range_uint8 hle), Int.toNat_natCast,
      sai_populate_ip_mask_get hones, Option.map_some]
  | ipv6 addr mask =>
    obtain ⟨ones, hones, rfl⟩ := Option.map_eq_some_iff.mp h
    have hle : ones ≤ 128 := ((get_ip_mask_spec mask).1 ones hones).1
    rw [sai_serialize_number_cast (range_int32 hle), sai_deserialize_ip_prefix,
      getlines_prefix fun c hc => addressChar_ipv6 hc]
    simp only [sai_deserialize_number_length hle, Option.bind_some, c_str_ipv6,
      inet_pton4_ntop6, inet_pton6_ntop6, IntType.val_cast (range_uint8 hle),
      Int.toNat_natCast, sai_populate_ip_mask_get hones, Option.map_some]

/-! ### The texts of prefixes -/

/-- An address and a length that fit together. -/
def Fits (addr : List Char) (len : ℕ) : Prop :=
  (inet_pton4 addr).isSome ∧ len ≤ 32 ∨ (inet_pton6 addr).isSome ∧ len ≤ 128

/-- A text is an address, a slash and a length that fits. -/
def IsIpPrefix (s : List Char) : Prop :=
  ∃ (addr len : List Char) (k : ℕ), s = addr ++ '/' :: len ∧ Denotes false len k ∧ Fits addr k

/-- A text is accepted as a prefix exactly if it is one. -/
def PrefixExact (s : List Char) : Prop :=
  ( sai_deserialize_ip_prefix s).isSome ↔ IsIpPrefix s

/-- The low byte of the number that `strtoull` reads, which is zero for the empty text. -/
def LowByte (len : List Char) (m : ℕ) : Prop :=
  len = [] ∧ m = 0 ∨
    ∃ t : Shape false, t.text = len ∧ t.magnitude < 2 ^ 64 ∧ (m : ℤ) = t.toInt % 256

/-- Where an address up to its first NUL and the low byte of a length fit together, the
text has no slash at its end and no NUL in the address, and writes that length. -/
def PrefixText (s : List Char) : Prop :=
  ∀ (addr len : List Char) (m : ℕ), '/' ∉ addr → '/' ∉ len → LowByte len m →
    Fits (c_str addr) m →
      s ≠ addr ++ '/' :: (len ++ ['/']) ∧
        (s = addr ++ '/' :: len → len ≠ [] → '\x00' ∉ addr ∧ Denotes false len m)

theorem lowByte_iff {len : List Char} {m : ℕ} :
    LowByte len m ↔ ∃ v, sai_deserialize_number .uint8 len false = some v ∧ v.1.toNat = m := by
  have hcast : ∀ n : ℤ, (IntType.uint8.cast n).1 = n % 256 := by
    intro n
    show (0 : ℤ) + (n - 0) % 2 ^ 8 = n % 256
    omega
  constructor
  · rintro (⟨rfl, rfl⟩ | ⟨t, rfl, ht, hm⟩)
    · exact ⟨_, sai_deserialize_number_nil .uint8 false, rfl⟩
    · obtain ⟨n, hread, hdvd⟩ := sai_deserialize_number_text (T := .uint8) ht
      refine ⟨_, hread, ?_⟩
      rw [hcast]
      omega
  · rintro ⟨v, hread, rfl⟩
    rcases sai_deserialize_number_eq_some hread with rfl | ⟨t, rfl, ht⟩
    · rw [sai_deserialize_number_nil] at hread
      obtain rfl := Option.some.inj hread
      exact Or.inl ⟨rfl, rfl⟩
    · obtain ⟨n, hread', hdvd⟩ := sai_deserialize_number_text (T := .uint8) ht
      obtain rfl := Option.some.inj (hread.symm.trans hread')
      refine Or.inr ⟨t, rfl, ht, ?_⟩
      rw [hcast]
      omega

theorem sai_populate_ip_mask_isSome {bits n : ℕ} :
    (sai_populate_ip_mask bits n).isSome ↔ bits ≤ 8 * n := by
  unfold sai_populate_ip_mask
  split <;> simp <;> omega

/-- Two tokens are accepted if the length can be read and fits the address. -/
theorem prefix_isSome {ip len : List Char} (htokens : getlines '/' [] s = [ip, len]) :
    ( sai_deserialize_ip_prefix s).isSome ↔ ∃ m, LowByte len m ∧ Fits (c_str ip) m := by
  simp only [ sai_deserialize_ip_prefix, htokens, lowByte_iff]
  cases hread : sai_deserialize_number .uint8 len false with
  | none => simp
  | some v =>
    have hiff : (∃ m, (∃ v', some v = some v' ∧ v'.1.toNat = m) ∧ Fits (c_str ip) m)
        ↔ Fits (c_str ip) v.1.toNat := by
      constructor
      · rintro ⟨m, ⟨v', hv, rfl⟩, hfits⟩
        rwa [Option.some.inj hv]
      · exact fun hfits => ⟨_, ⟨v, rfl, rfl⟩, hfits⟩
    rw [hiff, Option.bind_some, Fits]
    cases h₄ : inet_pton4 (c_str ip) with
    | some addr => simp [sai_populate_ip_mask_isSome, inet_pton6_eq_none_of_inet_pton4 h₄]
    | none =>
      cases h₆ : inet_pton6 (c_str ip) with
      | some addr => simp [sai_populate_ip_mask_isSome]
      | none => simp

/-- The texts that are accepted as prefixes. -/
theorem sai_deserialize_ip_prefix_isSome :
    ( sai_deserialize_ip_prefix s).isSome ↔
      ∃ (addr len : List Char) (m : ℕ), '/' ∉ addr ∧ '/' ∉ len ∧
        (s = addr ++ '/' :: len ∧ len ≠ [] ∨ s = addr ++ '/' :: (len ++ ['/'])) ∧
          LowByte len m ∧ Fits (c_str addr) m := by
  constructor
  · intro h
    obtain ⟨ip, len, htokens⟩ : ∃ ip len, getlines '/' [] s = [ip, len] := by
      unfold sai_deserialize_ip_prefix at h
      split at h
      · next ip len htokens => exact ⟨ip, len, htokens⟩
      · exact absurd h (by simp)
    obtain ⟨hip, hlen, hs⟩ := Swss.getlines_eq_pair htokens
    obtain ⟨m, hm, hfits⟩ := (prefix_isSome htokens).mp h
    exact ⟨ip, len, m, hip, hlen, hs, hm, hfits⟩
  · rintro ⟨addr, len, m, haddr, hlen, hs, hm, hfits⟩
    have htokens : getlines '/' [] s = [addr, len] := by
      rcases hs with ⟨rfl, hne⟩ | rfl
      · rw [Swss.getlines_append haddr, Swss.getlines_of_not_mem hlen]
        simp [hne]
      · rw [Swss.getlines_append haddr, Swss.getlines_append hlen]
        rfl
    exact (prefix_isSome htokens).mpr ⟨m, hm, hfits⟩

theorem slash_not_mem_text {hex : Bool} (t : Shape hex) : '/' ∉ t.text := by
  intro hmem
  simp only [Shape.text, List.mem_append] at hmem
  rcases hmem with hmem | hmem | hmem | hmem
  · exact absurd (t.blank _ hmem) (by decide)
  · rcases t.signed with h | h | h <;> simp [h] at hmem
  · rcases t.marked with h | ⟨-, h | h⟩ <;> simp [h] at hmem
  · exact absurd (t.digit _ hmem) (by cases hex <;> decide)

/-- A prefix has one slash, and no NUL in its address. -/
theorem IsIpPrefix.parts (h : IsIpPrefix s) :
    ∃ (addr len : List Char) (k : ℕ), s = addr ++ '/' :: len ∧ Denotes false len k ∧
      Fits addr k ∧ '/' ∉ addr ∧ '\x00' ∉ addr ∧ '/' ∉ len ∧ len ≠ [] ∧ LowByte len k := by
  obtain ⟨addr, len, k, hs, ⟨t, rfl, hblanks, hsign, hint⟩, hfits⟩ := h
  have hchars : ∀ c ∈ addr, AddressChar c := by
    intro c hc
    rcases hfits with ⟨hsome, -⟩ | ⟨hsome, -⟩
    · obtain ⟨a, ha⟩ := Option.isSome_iff_exists.mp hsome
      exact (mem_of_inet_pton4 ha hc).imp isDigit_sixteen Or.inr
    · obtain ⟨a, ha⟩ := Option.isSome_iff_exists.mp hsome
      exact mem_of_inet_pton6 ha hc
  have hk : k ≤ 128 := by
    rcases hfits with ⟨-, hk⟩ | ⟨-, hk⟩ <;> omega
  have hmag : t.magnitude < 2 ^ 64 := by
    unfold Shape.toInt at hint
    split at hint <;> omega
  exact ⟨addr, t.text, k, hs, ⟨t, rfl, hblanks, hsign, hint⟩, hfits,
    fun hmem => (addressChar_ne (hchars _ hmem)).1 rfl,
    fun hmem => (addressChar_ne (hchars _ hmem)).2.2.2.1 rfl, slash_not_mem_text t, t.text_ne_nil,
    Or.inr ⟨t, rfl, hmag, by omega⟩⟩

theorem LowByte.unique {len : List Char} {m k : ℕ} (hm : LowByte len m) (hk : LowByte len k) :
    m = k := by
  obtain ⟨v, hv, rfl⟩ := lowByte_iff.mp hm
  obtain ⟨v', hv', rfl⟩ := lowByte_iff.mp hk
  rw [Option.some.inj (hv.symm.trans hv')]

/-- **A prefix is accepted exactly if the text is strict.** -/
theorem prefix_exact_iff : PrefixExact s ↔ PrefixText s := by
  constructor
  · intro h addr len m haddr hlen hm hfits
    refine ⟨?_, ?_⟩
    · -- a slash at the end is not seen by the code
      rintro rfl
      have hprefix := h.mp (sai_deserialize_ip_prefix_isSome.mpr
        ⟨addr, len, m, haddr, hlen, Or.inr rfl, hm, hfits⟩)
      obtain ⟨addr', len', k, hs, -, -, haddr', -, hlen', -⟩ := hprefix.parts
      obtain ⟨-, -, rfl⟩ := (List.append_cons_inj_of_notMem haddr' hlen').mp hs.symm
      exact hlen' (by simp)
    · rintro rfl hne
      have hprefix := h.mp (sai_deserialize_ip_prefix_isSome.mpr
        ⟨addr, len, m, haddr, hlen, Or.inl ⟨rfl, hne⟩, hm, hfits⟩)
      obtain ⟨addr', len', k, hs, hdenotes, -, haddr', hnul, hlen', -, hlow⟩ := hprefix.parts
      obtain ⟨rfl, -, rfl⟩ := (List.append_cons_inj_of_notMem haddr' hlen').mp hs.symm
      obtain rfl := hm.unique hlow
      exact ⟨hnul, hdenotes⟩
  · intro h
    constructor
    · intro hsome
      obtain ⟨addr, len, m, haddr, hlen, hs, hm, hfits⟩ :=
        sai_deserialize_ip_prefix_isSome.mp hsome
      obtain ⟨hend, htext⟩ := h addr len m haddr hlen hm hfits
      obtain ⟨rfl, hne⟩ := hs.resolve_right hend
      obtain ⟨hnul, hdenotes⟩ := htext rfl hne
      rw [c_str_eq hnul] at hfits
      exact ⟨addr, len, m, rfl, hdenotes, hfits⟩
    · intro hprefix
      obtain ⟨addr, len, k, rfl, -, hfits, haddr, hnul, hlen, hne, hlow⟩ := hprefix.parts
      refine sai_deserialize_ip_prefix_isSome.mpr
        ⟨addr, len, k, haddr, hlen, Or.inl ⟨rfl, hne⟩, hlow, ?_⟩
      rwa [c_str_eq hnul]

/-- **The decoders reject what is outside the type exactly for strict texts**: numbers
and prefixes need one, object ids do not. -/
theorem sai_decoding_iff (T : IntType) (hex : Bool) (s : List Char) :
    (NumberSound T hex s ↔ NumberText T hex s) ∧ (PrefixExact s ↔ PrefixText s) ∧
      ObjectIdExact s :=
  ⟨number_sound_iff, prefix_exact_iff, object_id_exact s⟩

/-- The number 264 is accepted as a length of eight bits: it is read as eight. -/
theorem not_sai_decoding_of_wide :
    ¬ ((∀ (T : IntType) (hex : Bool) (s : List Char), NumberSound T hex s) ∧
      (∀ s, PrefixExact s) ∧ ∀ s, ObjectIdExact s) := by
  rintro ⟨-, hprefix, -⟩
  let text : List Char := ['1', '.', '2', '.', '3', '.', '4', '/', '2', '6', '4']
  obtain ⟨addr, len, k, hs, ⟨t, rfl, -, -, hint⟩, hfits, -⟩ :=
    (( hprefix text).mp (by decide)).parts
  have hparts := (List.append_cons_inj_of_notMem
    (show '/' ∉ ['1', '.', '2', '.', '3', '.', '4'] by decide)
    (show '/' ∉ ['2', '6', '4'] by decide)).mp hs
  have htext : t.text = (decimal false 264).text := hparts.2.2.symm.trans (by decide)
  rw [(Shape.eq_of_text_eq htext).2.2, show (decimal false 264).toInt = 264 by decide] at hint
  rcases hfits with ⟨-, hk⟩ | ⟨-, hk⟩ <;> omega

end Sai
