/-
Sai/AttrRoundTrip.lean

Attribute values are read back.

Each codec of `AttrValue` gets its round trip, and the two switches are put together
from them.  Two branches fail, and always: the enabled ACL field with a list of bytes,
and the ACL capability of which only the count was written
(`attr_value_round_trip_iff`).
-/
import Sonic.Sai.AttrValue

namespace Sai

open Numeral IntType Json
open Swss (getlines)

/-! ### Simple values are read back -/

theorem sai_deserialize_serialize_bool (b : Bool) :
    sai_deserialize_bool (sai_serialize_bool b) = some b := by
  cases b <;> rfl

theorem toNat_ofNat_byte (b : UInt8) : (Char.ofNat b.toNat).toNat = b.toNat := by
  have hlt := b.toNat_lt
  have hvalid : b.toNat.isValidChar := Or.inl (by omega)
  rw [Char.ofNat, dif_pos hvalid]
  rfl

theorem eq_backslash_of_toNat {b : UInt8} (h : Char.ofNat b.toNat = '\\') :
    b = UInt8.ofNat '\\'.toNat := by
  rw [← h, toNat_ofNat_byte, UInt8.ofNat_toNat]

theorem chardataLoop_plain {c : Char} (hc : c ≠ '\\') (rest : List Char) :
    chardataLoop (c :: rest) = (chardataLoop rest).map (UInt8.ofNat c.toNat :: ·) := by
  rw [chardataLoop.eq_def]
  exact if_neg hc

/-- One byte is read back, whatever follows. -/
theorem chardataLoop_byte (b : UInt8) (rest : List Char) :
    chardataLoop (chardataByte b ++ rest) = (chardataLoop rest).map (b :: ·) := by
  show chardataLoop ((if isPlainChar (Char.ofNat b.toNat) = true then [Char.ofNat b.toNat]
    else if Char.ofNat b.toNat = '\\' then ['\\', '\\'] else '\\' :: 'x' :: hexByte b) ++ rest) = _
  split_ifs with hplain hslash
  · -- a plain character stands for itself
    have hne : Char.ofNat b.toNat ≠ '\\' := by
      intro he
      rw [he] at hplain
      exact absurd hplain (by decide)
    rw [List.singleton_append, chardataLoop_plain hne, toNat_ofNat_byte, UInt8.ofNat_toNat]
  · rw [eq_backslash_of_toNat hslash]
    rfl
  · have hb := b.toNat_lt
    have hhi : digitVal (hexCapital (b.toNat / 16)) = some (b.toNat / 16) :=
      digitVal_hexCapital (by omega)
    have hlo : digitVal (hexCapital (b.toNat % 16)) = some (b.toNat % 16) :=
      digitVal_hexCapital (by omega)
    show ((char_to_int (hexCapital (b.toNat / 16))).bind fun h =>
      (char_to_int (hexCapital (b.toNat % 16))).bind fun l =>
        (chardataLoop rest).map fun bytes => UInt8.ofNat (16 * h + l) :: bytes) = _
    simp only [char_to_int, hhi, hlo, Option.bind_some, Nat.div_add_mod, UInt8.ofNat_toNat]

theorem chardataLoop_bytes (bytes : List UInt8) :
    chardataLoop (bytes.flatMap chardataByte) = some bytes := by
  induction bytes with
  | nil => rfl
  | cons b bytes ih =>
    rw [List.flatMap_cons, chardataLoop_byte, ih]
    rfl

/-- No byte stands after a NUL. -/
def NoBytesAfterNul (data : Inet.Bytes 32) : Prop :=
  ∀ b ∈ data.toList.dropWhile (· ≠ 0), b = 0

/-- **A character array is read back**, up to its first NUL. -/
theorem sai_deserialize_serialize_chardata {data : Inet.Bytes 32} (h : NoBytesAfterNul data) :
    sai_deserialize_chardata (sai_serialize_chardata data) = some data := by
  have hsplit := List.takeWhile_append_dropWhile (p := (· ≠ (0 : UInt8))) (l := data.toList)
  have hrest : data.toList.dropWhile (· ≠ 0)
      = List.replicate (data.toList.dropWhile (· ≠ 0)).length 0 := List.eq_replicate_of_mem h
  have hlen : (data.toList.takeWhile (· ≠ 0)).length + (data.toList.dropWhile (· ≠ 0)).length
      = 32 := by
    rw [← List.length_append, hsplit, List.Vector.toList_length]
  rw [sai_deserialize_chardata, sai_serialize_chardata, chardataLoop_bytes, Option.bind_some,
    dif_pos (by omega)]
  refine congrArg some (List.Vector.toList_injective ?_)
  show data.toList.takeWhile (· ≠ 0)
    ++ List.replicate (32 - (data.toList.takeWhile (· ≠ 0)).length) 0 = data.toList
  rw [show 32 - (data.toList.takeWhile (· ≠ 0)).length
    = (data.toList.dropWhile (· ≠ 0)).length by omega, ← hrest, hsplit]

theorem comma_not_mem_number {T : IntType} (v : T.Value) :
    ',' ∉ sai_serialize_number v false := by
  intro hmem
  rcases mem_sai_serialize_number hmem with hc | hc
  · exact absurd hc (by decide)
  · exact absurd hc (by decide)

theorem sai_deserialize_serialize_range {T : IntType} (range : sai_range_t T) :
    sai_deserialize_range T (sai_serialize_range range) = some range := by
  have htokens : getlines ',' [] (sai_serialize_range range)
      = [sai_serialize_number range.min false, sai_serialize_number range.max false] := by
    rw [sai_serialize_range, Swss.getlines_append (comma_not_mem_number _),
      Swss.getlines_of_not_mem (comma_not_mem_number _), List.nil_append, List.nil_append,
      if_neg (sai_serialize_number_ne_nil _)]
  simp only [sai_deserialize_range, htokens, sai_deserialize_serialize_number,
    Option.bind_some, Option.map_some]

/-! ### The items of lists -/

theorem numberCodec (T : IntType) :
    ItemCodec (fun v : T.Value => sai_serialize_number v false)
      (fun s => sai_deserialize_number T s false) where
  comma := comma_not_mem_number
  ne_nil := sai_serialize_number_ne_nil
  ne_null v hmem := by
    rcases mem_sai_serialize_number hmem with hc | hc
    · exact absurd hc (by decide)
    · exact absurd hc (by decide)
  read_back v := sai_deserialize_serialize_number v false

/-- The characters of an object id. -/
theorem mem_sai_serialize_object_id {oid : sai_object_id_t} {c : Char}
    (hc : c ∈ sai_serialize_object_id oid) : c ∈ oidMark ∨ isDigit 16 c := by
  rcases List.mem_append.mp hc with hc | hc
  · exact Or.inl hc
  · exact Or.inr (isDigit_of_mem_toDigits (by decide) (by decide) hc)

theorem not_mem_object_id {oid : sai_object_id_t} {c : Char} (hmark : c ∉ oidMark)
    (hdigit : isDigit 16 c = false) : c ∉ sai_serialize_object_id oid := by
  intro hmem
  rcases mem_sai_serialize_object_id hmem with hc | hc
  · exact hmark hc
  · rw [hdigit] at hc
    exact absurd hc (by decide)

theorem oidCodec : ItemCodec sai_serialize_object_id sai_deserialize_object_id where
  comma _ := not_mem_object_id (by decide) (by decide)
  ne_nil _ := List.cons_ne_nil _ _
  ne_null _ := not_mem_object_id (by decide) (by decide)
  read_back := sai_deserialize_serialize_object_id

theorem sai_serialize_enum_ne_nil (value : IntType.int32.Value)
    (table : Option sai_enum_metadata_t) : sai_serialize_enum value table ≠ [] := by
  cases table with
  | none => exact sai_serialize_number_ne_nil value
  | some table =>
    rw [sai_serialize_enum]
    split
    · next p hp =>
        obtain ⟨-, c, rest, hcons, -⟩ := table.identifier p (List.mem_of_find?_eq_some hp)
        rw [hcons]
        exact List.cons_ne_nil c rest
    · exact sai_serialize_number_ne_nil value

theorem enumCodec (table : Option sai_enum_metadata_t) :
    ItemCodec (fun value => sai_serialize_enum value table)
      (fun s => sai_deserialize_enum s table) where
  comma _ hmem := (enumChar_ne (mem_sai_serialize_enum hmem)).1 rfl
  ne_nil value := sai_serialize_enum_ne_nil value table
  ne_null _ hmem := (enumChar_ne (mem_sai_serialize_enum hmem)).2.2.2.2.1 rfl
  read_back value := sai_deserialize_serialize_enum value table

theorem addressChar_ip_address {a : sai_ip_address_t} {c : Char}
    (hc : c ∈ sai_serialize_ip_address a) : AddressChar c := by
  cases a with
  | ipv4 addr => exact addressChar_ipv4 hc
  | ipv6 addr => exact addressChar_ipv6 hc

theorem sai_serialize_ip_address_ne_nil (a : sai_ip_address_t) :
    sai_serialize_ip_address a ≠ [] := by
  intro hnil
  have hread := sai_deserialize_serialize_ip_address a
  rw [hnil] at hread
  have hempty : sai_deserialize_ip_address [] = none := by decide
  rw [hempty] at hread
  cases hread

theorem ipCodec : ItemCodec sai_serialize_ip_address sai_deserialize_ip_address where
  comma _ hmem := (addressChar_ne (addressChar_ip_address hmem)).2.1 rfl
  ne_nil := sai_serialize_ip_address_ne_nil
  ne_null _ hmem := (addressChar_ne (addressChar_ip_address hmem)).2.2.2.2.1 rfl
  read_back := sai_deserialize_serialize_ip_address

/-! ### Lists of objects are read back -/

section JsonList

variable {α : Type} {item : α → Json} {read : Json → Option α}

theorem storedItems_map (h : ∀ a, Stored (item a)) (items : List α) :
    StoredItems (items.map item) := by
  induction items with
  | nil => trivial
  | cons a items ih => exact ⟨h a, ih⟩

theorem cast_toNat {T : IntType} {v : T.Value} (h : 0 ≤ v.1) : T.cast v.1.toNat = v :=
  IntType.cast_eq (by rw [Int.toNat_of_nonneg h, sub_self]; exact dvd_zero _)

theorem toNat_lt {T : IntType} (v : T.Value) : v.1.toNat < 2 ^ 64 := by
  have hlt := natAbs_lt v
  omega

/-- **A list of objects is read back.** -/
theorem deserialize_serializeJsonList (hstored : ∀ a, Stored (item a))
    (hread : ∀ a, read (item a) = some a) (l : SaiList α) (countOnly : Bool) :
    ∃ l', deserializeJsonList read (serializeJsonList item l countOnly) countOnly = some l' ∧
      l.Same countOnly l' := by
  obtain ⟨count, list, hlength⟩ := l
  -- the text is that of an object of two members
  let items : Json := (if countOnly then none else list).elim .null fun l => .array (l.map item)
  let j : Json := .object [("count".toList, .number count.1.toNat), ("list".toList, items)]
  have htext : serializeJsonList item ⟨count, list, hlength⟩ countOnly = dump j := rfl
  have hitems : Stored items := by
    show Stored ((if countOnly then none else list).elim .null fun l => .array (l.map item))
    cases (if countOnly then none else list) with
    | none => trivial
    | some l => exact storedItems_map hstored l
  have hparse : parse (dump j) = some j := by
    apply parse_dump
    refine ⟨?_, toNat_lt count, hitems, trivial⟩
    simp only [List.pairwise_pair]
    decide
  have hcount : IntType.uint32.cast count.1.toNat = count := cast_toNat count.2.1
  rw [htext, deserializeJsonList, hparse, Option.bind_some,
    show get "count".toList j = .number count.1.toNat from rfl, toNumber?, Option.bind_some,
    hcount, show get "list".toList j = items from rfl]
  cases countOnly with
  | true => exact ⟨SaiList.null count, rfl, rfl, Or.inl rfl⟩
  | false =>
    cases list with
    | none => exact ⟨SaiList.null count, rfl, rfl, Or.inr (Or.inr rfl)⟩
    | some l =>
      have hlen : (l.length : ℤ) = count.1 := hlength l rfl
      refine ⟨⟨count, some l, hlength⟩, ?_, rfl, Or.inr (Or.inr rfl)⟩
      show deserializeJsonItems read count (.array (l.map item)) = _
      simp only [deserializeJsonItems, mapM_read_back hread l, dif_pos hlen]

end JsonList

variable (E : SaiEnums)

/-- Members are in order if their keys are. -/
theorem pairwise_members {members : List (List Char × Json)} (keys : List (List Char))
    (h : members.map (·.1) = keys) (hkeys : keys.Pairwise (· < ·)) :
    members.Pairwise fun m m' => m.1 < m'.1 := by
  subst keys
  exact List.pairwise_map.mp hkeys

theorem byteMember_number {j : Json} {key : String} {v : IntType.uint8.Value}
    (h : get key.toList j = .number v.1.toNat) : byteMember j key = some v := by
  rw [byteMember, h, toNumber?, Option.map_some, cast_toNat v.2.1]

theorem member_string {α : Type} {j : Json} {key : String} {s : List Char}
    {read : List Char → Option α} (h : get key.toList j = .string s) :
    member j key read = read s := by
  rw [member, h]
  rfl

theorem stored_qos_map_params (params : sai_qos_map_params_t) :
    Stored (sai_serialize_qos_map_params E params) := by
  refine ⟨?_, trivial, toNat_lt _, toNat_lt _, toNat_lt _, toNat_lt _, toNat_lt _, toNat_lt _,
    trivial⟩
  exact pairwise_members ["color".toList, "dot1p".toList, "dscp".toList, "pg".toList,
    "prio".toList, "qidx".toList, "tc".toList] rfl (by decide)

theorem sai_deserialize_serialize_qos_map_params (params : sai_qos_map_params_t) :
    sai_deserialize_qos_map_params E (sai_serialize_qos_map_params E params) = some params := by
  have hcolor : member (sai_serialize_qos_map_params E params) "color"
      (fun s => sai_deserialize_enum s E.enum_sai_packet_color_t) = some params.color :=
    (member_string rfl).trans (sai_deserialize_serialize_enum _ _)
  rw [sai_deserialize_qos_map_params, byteMember_number (v := params.tc) rfl,
    byteMember_number (v := params.dscp) rfl, byteMember_number (v := params.dot1p) rfl,
    byteMember_number (v := params.prio) rfl, byteMember_number (v := params.pg) rfl,
    byteMember_number (v := params.queue_index) rfl, hcolor]
  rfl

theorem stored_qos_map (qosmap : sai_qos_map_t) : Stored (sai_serialize_qos_map E qosmap) := by
  refine ⟨?_, stored_qos_map_params E qosmap.key, stored_qos_map_params E qosmap.value, trivial⟩
  exact pairwise_members ["key".toList, "value".toList] rfl (by decide)

theorem sai_deserialize_serialize_qos_map (qosmap : sai_qos_map_t) :
    sai_deserialize_qos_map E (sai_serialize_qos_map E qosmap) = some qosmap := by
  have hkey : get "key".toList (sai_serialize_qos_map E qosmap)
      = sai_serialize_qos_map_params E qosmap.key := rfl
  have hvalue : get "value".toList (sai_serialize_qos_map E qosmap)
      = sai_serialize_qos_map_params E qosmap.value := rfl
  rw [sai_deserialize_qos_map, hkey, hvalue, sai_deserialize_serialize_qos_map_params,
    sai_deserialize_serialize_qos_map_params]
  rfl

theorem stored_acl_resource (aclresource : sai_acl_resource_t) :
    Stored (sai_serialize_acl_resource E aclresource) := by
  refine ⟨?_, trivial, trivial, trivial, trivial⟩
  exact pairwise_members ["avail_num".toList, "bind_point".toList, "stage".toList] rfl (by decide)

theorem sai_deserialize_serialize_acl_resource (aclresource : sai_acl_resource_t) :
    sai_deserialize_acl_resource E (sai_serialize_acl_resource E aclresource)
      = some aclresource := by
  have hstage : member (sai_serialize_acl_resource E aclresource) "stage"
      (fun s => sai_deserialize_enum s E.enum_sai_acl_stage_t) = some aclresource.stage :=
    (member_string rfl).trans (sai_deserialize_serialize_enum _ _)
  have hbind : member (sai_serialize_acl_resource E aclresource) "bind_point"
      (fun s => sai_deserialize_enum s E.enum_sai_acl_bind_point_type_t)
        = some aclresource.bind_point :=
    (member_string rfl).trans (sai_deserialize_serialize_enum _ _)
  have havail : member (sai_serialize_acl_resource E aclresource) "avail_num"
      (fun s => sai_deserialize_number .uint32 s false) = some aclresource.avail_num :=
    (member_string rfl).trans (sai_deserialize_serialize_number _ _)
  rw [sai_deserialize_acl_resource, hstage, hbind, havail]
  rfl

/-! ### Texts of ACL data -/

/-- A character that is in no number, enumerator, address, object id or list. -/
def Foreign (c : Char) : Prop :=
  isDigit 16 c = false ∧ isIdentifierChar c = false ∧ c ∉ oidMark ∧ c ∉ nullText ∧
    c ≠ '-' ∧ c ≠ ':' ∧ c ≠ ',' ∧ c ≠ '.'

theorem foreign_ampersand : Foreign '&' := by
  refine ⟨rfl, rfl, ?_, ?_, ?_, ?_, ?_, ?_⟩ <;> decide

theorem foreign_s : Foreign 's' := by
  refine ⟨rfl, rfl, ?_, ?_, ?_, ?_, ?_, ?_⟩ <;> decide

namespace Foreign

variable {c : Char}

theorem not_mem_number (h : Foreign c) {T : IntType} (v : T.Value) :
    c ∉ sai_serialize_number v false := by
  intro hmem
  rcases mem_sai_serialize_number hmem with hc | hc
  · have hdigit := Inet.isDigit_sixteen hc
    rw [h.1] at hdigit
    exact absurd hdigit (by decide)
  · exact h.2.2.2.2.1 hc

theorem not_mem_enum (h : Foreign c) (value : IntType.int32.Value)
    (table : Option sai_enum_metadata_t) : c ∉ sai_serialize_enum value table := by
  intro hmem
  rcases mem_sai_serialize_enum hmem with hc | hc
  · rw [h.2.1] at hc
    exact absurd hc (by decide)
  · exact h.2.2.2.2.1 hc

theorem not_mem_object_id (h : Foreign c) (oid : sai_object_id_t) :
    c ∉ sai_serialize_object_id oid :=
  Sai.not_mem_object_id h.2.2.1 h.1

theorem not_addressChar (h : Foreign c) : ¬ AddressChar c := by
  rintro (hc | hc | hc)
  · rw [h.1] at hc
    exact absurd hc (by decide)
  · exact h.2.2.2.2.2.1 hc
  · exact h.2.2.2.2.2.2.2 hc

theorem not_mem_hexByte (h : Foreign c) (b : UInt8) : c ∉ hexByte b := by
  have hdigit : ∀ d < 16, c ≠ hexCapital d := by
    rintro d hd rfl
    have hfalse := h.1
    rw [isDigit, digitVal_hexCapital hd] at hfalse
    exact of_decide_eq_false hfalse hd
  have hb := b.toNat_lt
  intro hmem
  rcases List.mem_pair.mp hmem with hc | hc
  · exact hdigit _ (by omega) hc
  · exact hdigit _ (by omega) hc

theorem not_mem_mac (h : Foreign c) (mac : sai_mac_t) : c ∉ sai_serialize_mac mac := by
  intro hmem
  rcases Swss.mem_intercalate hmem with hc | ⟨text, htext, hc⟩
  · exact h.2.2.2.2.2.1 (List.mem_singleton.mp hc)
  · obtain ⟨b, -, rfl⟩ := List.mem_map.mp htext
    exact h.not_mem_hexByte b hc

theorem not_mem_list (h : Foreign c) {α : Type} {serialize_item : α → List Char}
    (hitem : ∀ a, c ∉ serialize_item a) (l : SaiList α) (countOnly : Bool) :
    c ∉ sai_serialize_list l countOnly serialize_item := by
  have hcount := h.not_mem_number l.count
  have hnull : c ∉ ':' :: nullText := List.not_mem_cons_of_ne_of_not_mem h.2.2.2.2.2.1 h.2.2.2.1
  have hitems : ∀ items : List α, c ∉ ':' :: [','].intercalate (items.map serialize_item) := by
    intro items
    refine List.not_mem_cons_of_ne_of_not_mem h.2.2.2.2.2.1 fun hmem => ?_
    rcases Swss.mem_intercalate hmem with hc | ⟨text, htext, hc⟩
    · exact h.2.2.2.2.2.2.1 (List.mem_singleton.mp hc)
    · obtain ⟨a, -, rfl⟩ := List.mem_map.mp htext
      exact hitem a hc
  unfold sai_serialize_list
  cases countOnly with
  | true => exact hcount
  | false =>
    cases l.list with
    | none => exact fun hmem => (List.mem_append.mp hmem).elim hcount hnull
    | some items =>
      simp only [Bool.false_eq_true, if_false]
      split
      · exact fun hmem => (List.mem_append.mp hmem).elim hcount hnull
      · exact fun hmem => (List.mem_append.mp hmem).elim hcount (hitems items)

/-- The data of ACL fields and actions, where a truth value may be `false`. -/
theorem not_mem_aclData (h : Foreign c) (table : Option sai_enum_metadata_t) (countOnly : Bool)
    {d : AclDataType} (hd : d ≠ .BOOL) (data : d.Data) :
    c ∉ serializeAclData table countOnly d data := by
  cases d with
  | BOOL => exact absurd rfl hd
  | UINT8 | INT8 | UINT16 | INT16 | UINT32 => exact h.not_mem_number data
  | INT32 => exact h.not_mem_enum data table
  | MAC => exact h.not_mem_mac data
  | IPV4 => exact fun hmem => h.not_addressChar (addressChar_ipv4 hmem)
  | IPV6 => exact fun hmem => h.not_addressChar (addressChar_ipv6 hmem)
  | OBJECT_ID => exact h.not_mem_object_id data
  | OBJECT_LIST => exact h.not_mem_list h.not_mem_object_id data countOnly
  | UINT8_LIST => exact h.not_mem_list h.not_mem_number data countOnly

end Foreign

variable {table : Option sai_enum_metadata_t} {countOnly : Bool} {d : AclDataType}

theorem ampersand_not_mem_aclData (table : Option sai_enum_metadata_t) (countOnly : Bool)
    (data : d.Data) :
    '&' ∉ serializeAclData table countOnly d data := by
  by_cases hd : d = .BOOL
  · subst hd
    show '&' ∉ sai_serialize_bool data
    cases data <;> decide
  · exact foreign_ampersand.not_mem_aclData table countOnly hd data

/-- Enabled data is not the word `disabled`. -/
theorem serializeAclData_ne_disabled (data : d.Data) :
    serializeAclData table countOnly d data ≠ disabledText := by
  by_cases hd : d = .BOOL
  · subst hd
    show sai_serialize_bool data ≠ disabledText
    cases data <;> decide
  · intro heq
    apply foreign_s.not_mem_aclData table countOnly hd data
    rw [heq]
    decide

/-! ### ACL fields and actions are read back -/

/-- The same data, where an empty list may be NULL. -/
def AclDataType.Same (countOnly : Bool) : (d : AclDataType) → d.Data → d.Data → Prop
  | .OBJECT_LIST, data, data' => SaiList.Same countOnly data data'
  | .UINT8_LIST, data, data' => SaiList.Same countOnly data data'
  | _, data, data' => data = data'

theorem deserialize_serializeAclData (table : Option sai_enum_metadata_t) (countOnly : Bool)
    (hd : d ≠ .UINT8_LIST) (data : d.Data) :
    ∃ data', deserializeAclData table countOnly d (serializeAclData table countOnly d data)
        = some data' ∧ d.Same countOnly data data' := by
  cases d with
  | BOOL => exact ⟨data, sai_deserialize_serialize_bool data, rfl⟩
  | UINT8 | INT8 | UINT16 | INT16 | UINT32 =>
    exact ⟨data, sai_deserialize_serialize_number data false, rfl⟩
  | INT32 => exact ⟨data, sai_deserialize_serialize_enum data table, rfl⟩
  | MAC => exact ⟨data, sai_deserialize_serialize_mac data, rfl⟩
  | IPV4 => exact ⟨data, sai_deserialize_serialize_ipv4 data, rfl⟩
  | IPV6 => exact ⟨data, sai_deserialize_serialize_ipv6 data, rfl⟩
  | OBJECT_ID => exact ⟨data, sai_deserialize_serialize_object_id data, rfl⟩
  | OBJECT_LIST => exact sai_deserialize_serialize_list oidCodec data countOnly
  | UINT8_LIST => exact absurd rfl hd

/-- A mask is written with its mark, or there is none and it is not read. -/
theorem exists_aclMask (countOnly : Bool) (hd : d ≠ .UINT8_LIST) (mask : d.Mask) :
    ∃ text, deserializeAclMask d text = some mask ∧
      (serializeAclMask countOnly d mask = maskMark ++ text ∨
        serializeAclMask countOnly d mask = [] ∧ text = []) := by
  cases d with
  | BOOL | OBJECT_ID | OBJECT_LIST => exact ⟨[], rfl, Or.inr ⟨rfl, rfl⟩⟩
  | UINT8 | INT8 | UINT16 | INT16 | UINT32 | INT32 =>
    exact ⟨_, sai_deserialize_serialize_number mask true, Or.inl rfl⟩
  | MAC => exact ⟨_, sai_deserialize_serialize_mac mask, Or.inl rfl⟩
  | IPV4 => exact ⟨_, sai_deserialize_serialize_ipv4 mask, Or.inl rfl⟩
  | IPV6 => exact ⟨_, sai_deserialize_serialize_ipv6 mask, Or.inl rfl⟩
  | UINT8_LIST => exact absurd rfl hd

/-- The first mark ends the data. -/
theorem splitMask_mark {data : List Char} (h : '&' ∉ data) (text : List Char) :
    splitMask (data ++ (maskMark ++ text)) = (data, text) := by
  induction data with
  | nil => rfl
  | cons c data ih =>
    obtain ⟨hc, hdata⟩ := List.ne_and_not_mem_of_not_mem_cons h
    have hmark : ¬ maskMark.isPrefixOf (c :: (data ++ (maskMark ++ text))) = true := by
      rw [List.isPrefixOf_iff_prefix]
      exact fun hpre => hc (List.cons_prefix_cons.mp hpre).1
    rw [List.cons_append, splitMask, if_neg hmark, ih hdata]

theorem splitMask_of_not_mem {data : List Char} (h : '&' ∉ data) :
    splitMask data = (data, []) := by
  induction data with
  | nil => rfl
  | cons c data ih =>
    obtain ⟨hc, hdata⟩ := List.ne_and_not_mem_of_not_mem_cons h
    have hmark : ¬ maskMark.isPrefixOf (c :: data) = true := by
      rw [List.isPrefixOf_iff_prefix]
      exact fun hpre => hc (List.cons_prefix_cons.mp hpre).1
    rw [splitMask, if_neg hmark, ih hdata]

/-- The same field; of one that is disabled, only that. -/
def sai_acl_field_data_t.Same (countOnly : Bool) (field field' : sai_acl_field_data_t d) : Prop :=
  field.enable = field'.enable ∧
    (field.enable = true → d.Same countOnly field.data field'.data ∧ field.mask = field'.mask)

/-- The same action; of one that is disabled, only that. -/
def sai_acl_action_data_t.Same (countOnly : Bool) (action action' : sai_acl_action_data_t d) :
    Prop :=
  action.enable = action'.enable ∧
    (action.enable = true → d.Same countOnly action.parameter action'.parameter)

/-- **An action is read back.** -/
theorem sai_deserialize_serialize_acl_action (table : Option sai_enum_metadata_t)
    (countOnly : Bool) (hd : d ≠ .UINT8_LIST) (action : sai_acl_action_data_t d) :
    ∃ action', sai_deserialize_acl_action (sai_serialize_acl_action table action countOnly) table d
        countOnly = some action' ∧ action.Same countOnly action' := by
  obtain ⟨enable, parameter⟩ := action
  cases enable with
  | false =>
    refine ⟨⟨false, d.zeroData⟩, ?_, rfl, fun h => Bool.noConfusion h⟩
    show sai_deserialize_acl_action disabledText table d countOnly = _
    rw [sai_deserialize_acl_action, if_pos rfl]
  | true =>
    obtain ⟨parameter', hread, hsame⟩ := deserialize_serializeAclData table countOnly hd
      parameter
    refine ⟨⟨true, parameter'⟩, ?_, rfl, fun _ => hsame⟩
    show sai_deserialize_acl_action (serializeAclData table countOnly d parameter) table d
      countOnly = _
    rw [sai_deserialize_acl_action, if_neg (serializeAclData_ne_disabled parameter), hread]
    rfl

/-- The text of an enabled field is data and mask, and not the word `disabled`. -/
theorem exists_text_acl_field (table : Option sai_enum_metadata_t) (countOnly : Bool)
    (hd : d ≠ .UINT8_LIST) (data : d.Data) (mask : d.Mask) :
    ∃ text, deserializeAclMask d text = some mask ∧
      splitMask (serializeAclData table countOnly d data ++ serializeAclMask countOnly d mask)
        = (serializeAclData table countOnly d data, text) ∧
      serializeAclData table countOnly d data ++ serializeAclMask countOnly d mask
        ≠ disabledText := by
  have hamp := ampersand_not_mem_aclData table countOnly data
  obtain ⟨text, hread, hmask | ⟨hmask, rfl⟩⟩ := exists_aclMask countOnly hd mask
  · refine ⟨text, hread, ?_, ?_⟩
    · rw [hmask, splitMask_mark hamp]
    · rw [hmask]
      intro heq
      have hmem : '&' ∈ disabledText := by
        rw [← heq]
        simp [maskMark]
      exact absurd hmem (by decide)
  · refine ⟨[], hread, ?_, ?_⟩
    · rw [hmask, List.append_nil, splitMask_of_not_mem hamp]
    · rw [hmask, List.append_nil]
      exact serializeAclData_ne_disabled data

/-- **A field is read back**, unless it is an enabled list of bytes. -/
theorem sai_deserialize_serialize_acl_field (table : Option sai_enum_metadata_t)
    (countOnly : Bool) (field : sai_acl_field_data_t d) (hd : d ≠ .UINT8_LIST ∨ field.enable = false) :
    ∃ field', sai_deserialize_acl_field (sai_serialize_acl_field table field countOnly) table d
        countOnly = some field' ∧ field.Same countOnly field' := by
  obtain ⟨enable, data, mask⟩ := field
  cases enable with
  | false =>
    refine ⟨⟨false, d.zeroData, d.zeroMask⟩, ?_, rfl, fun h => Bool.noConfusion h⟩
    show sai_deserialize_acl_field disabledText table d countOnly = _
    rw [sai_deserialize_acl_field, if_pos rfl]
  | true =>
    have hd' : d ≠ .UINT8_LIST := hd.resolve_right (by simp)
    obtain ⟨data', hread, hsame⟩ := deserialize_serializeAclData table countOnly hd' data
    obtain ⟨text, hmask, hsplit, hne⟩ := exists_text_acl_field table countOnly hd' data mask
    refine ⟨⟨true, data', mask⟩, ?_, rfl, fun _ => ⟨hsame, rfl⟩⟩
    show sai_deserialize_acl_field (serializeAclData table countOnly d data
      ++ serializeAclMask countOnly d mask) table d countOnly = _
    rw [sai_deserialize_acl_field, if_neg hne, hsplit, hread, Option.bind_some, hmask]
    rfl

/-- An enabled list of bytes is not read at all. -/
theorem sai_deserialize_acl_field_u8list (table : Option sai_enum_metadata_t) (countOnly : Bool)
    {field : sai_acl_field_data_t .UINT8_LIST} (h : field.enable = true) :
    sai_deserialize_acl_field (sai_serialize_acl_field table field countOnly) table .UINT8_LIST
      countOnly = none := by
  have hne : sai_serialize_acl_field table field countOnly ≠ disabledText := by
    rw [sai_serialize_acl_field, if_pos h]
    intro heq
    have hmem : '&' ∈ disabledText := by
      rw [← heq]
      simp [serializeAclMask, maskMark]
    exact absurd hmem (by decide)
  rw [sai_deserialize_acl_field, if_neg hne]
  rfl

/-! ### ACL capabilities -/

theorem colon_not_mem_bool (b : Bool) : ':' ∉ sai_serialize_bool b := by
  cases b <;> decide

/-- The two parts of a capability are told apart. -/
theorem sai_deserialize_acl_capability_text (mandatory : Bool) (list : List Char) :
    sai_deserialize_acl_capability E (sai_serialize_bool mandatory ++ ':' :: list)
      = (sai_deserialize_enum_list list E.enum_sai_acl_action_type_t false).map
          fun list => ⟨mandatory, list⟩ := by
  obtain ⟨htake, hdrop⟩ := Swss.span_of_not_mem (colon_not_mem_bool mandatory) list
  rw [sai_deserialize_acl_capability, if_neg (by simp), htake, hdrop,
    sai_deserialize_serialize_bool, Option.bind_some]

/-- **A capability is read back**, unless it was written as its count only. -/
theorem sai_deserialize_serialize_acl_capability (cap : sai_acl_capability_t) :
    ∃ cap', sai_deserialize_acl_capability E (sai_serialize_acl_capability E cap false) = some cap' ∧
      cap.is_action_list_mandatory = cap'.is_action_list_mandatory ∧
      cap.action_list.Same false cap'.action_list := by
  obtain ⟨list', hread, hsame⟩ := sai_deserialize_serialize_list
    (enumCodec E.enum_sai_acl_action_type_t) cap.action_list false
  refine ⟨⟨cap.is_action_list_mandatory, list'⟩, ?_, rfl, hsame⟩
  rw [sai_serialize_acl_capability, sai_deserialize_acl_capability_text, sai_serialize_enum_list,
    sai_deserialize_enum_list, hread]
  rfl

/-- A count alone is not read: the list is looked for after it. -/
theorem sai_deserialize_acl_capability_count (cap : sai_acl_capability_t) :
    sai_deserialize_acl_capability E (sai_serialize_acl_capability E cap true) = none := by
  have hcount : sai_serialize_enum_list cap.action_list E.enum_sai_acl_action_type_t true
      = sai_serialize_number cap.action_list.count false := rfl
  rw [sai_serialize_acl_capability, sai_deserialize_acl_capability_text, hcount,
    sai_deserialize_enum_list, sai_deserialize_list, if_neg (by decide),
    if_pos (colon_not_mem_number _)]
  rfl

/-! ### Attribute values -/

/-- Two values of a type are the same: lists as far as they were asked for. -/
def sai_attr_value_type_t.Same (countOnly : Bool) :
    (T : sai_attr_value_type_t) → T.Value → T.Value → Prop
  | .OBJECT_LIST, v, v' => SaiList.Same countOnly v v'
  | .UINT8_LIST, v, v' => SaiList.Same countOnly v v'
  | .INT8_LIST, v, v' => SaiList.Same countOnly v v'
  | .UINT16_LIST, v, v' => SaiList.Same countOnly v v'
  | .INT16_LIST, v, v' => SaiList.Same countOnly v v'
  | .UINT32_LIST, v, v' => SaiList.Same countOnly v v'
  | .INT32_LIST, v, v' => SaiList.Same countOnly v v'
  | .VLAN_LIST, v, v' => SaiList.Same countOnly v v'
  | .QOS_MAP_LIST, v, v' => SaiList.Same countOnly v v'
  | .ACL_RESOURCE_LIST, v, v' => SaiList.Same countOnly v v'
  | .IP_ADDRESS_LIST, v, v' => SaiList.Same countOnly v v'
  | .ACL_FIELD_DATA _, v, v' => sai_acl_field_data_t.Same countOnly v v'
  | .ACL_ACTION_DATA _ _, v, v' => sai_acl_action_data_t.Same countOnly v v'
  | .ACL_CAPABILITY, v, v' =>
    v.is_action_list_mandatory = v'.is_action_list_mandatory ∧
      v.action_list.Same countOnly v'.action_list
  | _, v, v' => v = v'

/-- The values that have a text: no bytes after a NUL, no mixed masks. -/
def sai_attr_value_type_t.Regular : (T : sai_attr_value_type_t) → T.Value → Prop
  | .CHARDATA, v => NoBytesAfterNul v
  | .IP_PREFIX, v => ¬ sai_ip_prefix_t.MaskMixed v
  | _, _ => True

/-- A value is written, and read as the same value. -/
def RoundTrips (md : sai_attr_metadata_t) (v : md.attrvaluetype.Value) (countOnly : Bool) : Prop :=
  ∃ s v', sai_serialize_attr_value E md v countOnly = some s ∧
    sai_deserialize_attr_value E s md countOnly = some v' ∧ md.attrvaluetype.Same countOnly v v'

/-- The values whose branch of the reader matches the writer. -/
def sai_attr_value_type_t.Readable (countOnly : Bool) :
    (T : sai_attr_value_type_t) → T.Value → Prop
  | .ACL_FIELD_DATA d, v => d ≠ .UINT8_LIST ∨ v.enable = false
  | .ACL_CAPABILITY, _ => countOnly = false
  | _, _ => True

/-- The values that are not readable have no round trip. -/
theorem RoundTrips.readable {md : sai_attr_metadata_t} {v : md.attrvaluetype.Value}
    (h : RoundTrips E md v countOnly) : md.attrvaluetype.Readable countOnly v := by
  obtain ⟨T, table⟩ := md
  obtain ⟨s, v', hwrite, hread, -⟩ := h
  cases T with
  | ACL_FIELD_DATA d =>
    by_cases hd : d = .UINT8_LIST
    · subst hd
      obtain rfl := Option.some.inj hwrite
      refine Or.inr (Bool.eq_false_iff.mpr fun henable => ?_)
      have hnone := sai_deserialize_acl_field_u8list table countOnly henable
      exact absurd (hnone.symm.trans hread) (by simp)
    · exact Or.inl hd
  | ACL_CAPABILITY =>
    obtain rfl := Option.some.inj hwrite
    refine Bool.eq_false_iff.mpr fun hcount => ?_
    subst hcount
    have hnone := sai_deserialize_acl_capability_count E v
    exact absurd (hnone.symm.trans hread) (by simp)
  | _ => trivial

/-- The values that are readable have one. -/
theorem roundTrips_of_readable {md : sai_attr_metadata_t} {v : md.attrvaluetype.Value}
    (hv : md.attrvaluetype.Regular v) (h : md.attrvaluetype.Readable countOnly v) :
    RoundTrips E md v countOnly := by
  obtain ⟨T, table⟩ := md
  -- lists are the same up to an empty one
  have hlist : ∀ {α : Type} {write : α → List Char} {read : List Char → Option α}
      (_ : ItemCodec write read) (l : SaiList α),
      ∃ s l', some (sai_serialize_list l countOnly write) = some s ∧
        sai_deserialize_list s countOnly read = some l' ∧ l.Same countOnly l' := by
    intro α write read hcodec l
    obtain ⟨l', hread, hsame⟩ := sai_deserialize_serialize_list hcodec l countOnly
    exact ⟨_, l', rfl, hread, hsame⟩
  cases T with
  | BOOL => exact ⟨_, v, rfl, sai_deserialize_serialize_bool v, rfl⟩
  | CHARDATA => exact ⟨_, v, rfl, sai_deserialize_serialize_chardata hv, rfl⟩
  | UINT8 | INT8 | UINT16 | INT16 | UINT32 | UINT64 | INT64 =>
    exact ⟨_, v, rfl, sai_deserialize_serialize_number v false, rfl⟩
  | INT32 => exact ⟨_, v, rfl, sai_deserialize_serialize_enum v table, rfl⟩
  | MAC => exact ⟨_, v, rfl, sai_deserialize_serialize_mac v, rfl⟩
  | IPV4 => exact ⟨_, v, rfl, sai_deserialize_serialize_ipv4 v, rfl⟩
  | IPV6 => exact ⟨_, v, rfl, sai_deserialize_serialize_ipv6 v, rfl⟩
  | POINTER => exact ⟨_, v, rfl, sai_deserialize_serialize_number v true, rfl⟩
  | IP_ADDRESS => exact ⟨_, v, rfl, sai_deserialize_serialize_ip_address v, rfl⟩
  | IP_PREFIX =>
    obtain ⟨text, htext⟩ := Option.ne_none_iff_exists'.mp
      fun hnone => hv (sai_serialize_ip_prefix_eq_none.mp hnone)
    exact ⟨text, v, htext, sai_deserialize_serialize_ip_prefix htext, rfl⟩
  | OBJECT_ID => exact ⟨_, v, rfl, sai_deserialize_serialize_object_id v, rfl⟩
  | OBJECT_LIST => exact hlist oidCodec v
  | UINT8_LIST | INT8_LIST | UINT16_LIST | INT16_LIST | UINT32_LIST | VLAN_LIST =>
    exact hlist (numberCodec _) v
  | INT32_LIST => exact hlist (enumCodec table) v
  | UINT32_RANGE | INT32_RANGE => exact ⟨_, v, rfl, sai_deserialize_serialize_range v, rfl⟩
  | QOS_MAP_LIST =>
    obtain ⟨l', hread, hsame⟩ := deserialize_serializeJsonList (stored_qos_map E)
      (sai_deserialize_serialize_qos_map E) v countOnly
    exact ⟨_, l', rfl, hread, hsame⟩
  | ACL_RESOURCE_LIST =>
    obtain ⟨l', hread, hsame⟩ := deserialize_serializeJsonList (stored_acl_resource E)
      (sai_deserialize_serialize_acl_resource E) v countOnly
    exact ⟨_, l', rfl, hread, hsame⟩
  | IP_ADDRESS_LIST => exact hlist ipCodec v
  | ACL_FIELD_DATA d =>
    obtain ⟨field', hread, hsame⟩ := sai_deserialize_serialize_acl_field table countOnly v h
    exact ⟨_, field', rfl, hread, hsame⟩
  | ACL_ACTION_DATA d hd =>
    obtain ⟨action', hread, hsame⟩ := sai_deserialize_serialize_acl_action table countOnly hd v
    exact ⟨_, action', rfl, hread, hsame⟩
  | ACL_CAPABILITY =>
    obtain rfl : countOnly = false := h
    obtain ⟨cap', hread, hsame⟩ := sai_deserialize_serialize_acl_capability E v
    exact ⟨_, cap', rfl, hread, hsame⟩

/-- **An attribute value has a round trip exactly if its branch of the reader matches
the writer**: for all but enabled ACL fields with lists of bytes, and capabilities as
counts. -/
theorem attr_value_round_trip_iff (E : SaiEnums) (md : sai_attr_metadata_t)
    (v : md.attrvaluetype.Value) (countOnly : Bool) (hv : md.attrvaluetype.Regular v) :
    RoundTrips E md v countOnly ↔ md.attrvaluetype.Readable countOnly v :=
  ⟨RoundTrips.readable E, roundTrips_of_readable E hv⟩

/-- An enumeration without names. -/
def noNames : sai_enum_metadata_t := ⟨[], List.nodup_nil, by simp⟩

/-- Enumerations without names. -/
def noEnums : SaiEnums := ⟨noNames, noNames, noNames, noNames⟩

/-- A number has a round trip. -/
theorem attr_value_round_trip_uint16 :
    RoundTrips noEnums ⟨.UINT16, none⟩ (IntType.uint16.cast 1500) false :=
  (attr_value_round_trip_iff noEnums ⟨.UINT16, none⟩ (IntType.uint16.cast 1500) false
    trivial).mpr trivial

/-- The ACL field `{1, 2}` with the mask `{255, 255}` is written, and not read. -/
theorem not_attr_value_round_trip_u8list :
    ¬ ∀ (E : SaiEnums) (md : sai_attr_metadata_t) (v : md.attrvaluetype.Value)
      (countOnly : Bool), md.attrvaluetype.Regular v → RoundTrips E md v countOnly := by
  intro h
  let bytes (a b : ℤ) : SaiList IntType.uint8.Value :=
    ⟨IntType.uint32.cast 2, some [IntType.uint8.cast a, IntType.uint8.cast b],
      fun l hl => by obtain rfl := Option.some.inj hl; rfl⟩
  have hround := h noEnums ⟨.ACL_FIELD_DATA .UINT8_LIST, none⟩ ⟨true, bytes 1 2, bytes 255 255⟩
    false trivial
  rcases hround.readable with hd | henable
  · exact hd rfl
  · exact absurd henable (by simp)

end Sai
