/-
Sai/AttrValue.lean

Attribute values of the SAI codec: `sai_serialize_attr_value` and its inverse.

The value of an attribute is of the type its metadata names, so writer and reader go
through the same types, each with its own codec.  Two branches of the reader do not
match the writer: masked lists of ACL fields, which are written and not read, and ACL
capabilities, which are read as if they had been written in full
(`attr_value_round_trip_iff`).
-/
import Sonic.Sai.ListCodec
import Sonic.Sai.MetaKey

namespace Sai

open Numeral IntType Json
open Swss (getlines)

/-! ### The types -/

/-- The types of ACL data, after `SAI_ATTR_VALUE_TYPE_ACL_FIELD_DATA_`. -/
inductive AclDataType where
  | BOOL | UINT8 | INT8 | UINT16 | INT16 | UINT32 | INT32 | MAC | IPV4 | IPV6
  | OBJECT_ID | OBJECT_LIST | UINT8_LIST
  deriving DecidableEq, Repr

/-- The types of attribute values that are written, after `SAI_ATTR_VALUE_TYPE_`.
There are no actions with lists of bytes. -/
inductive sai_attr_value_type_t where
  | BOOL | CHARDATA | UINT8 | INT8 | UINT16 | INT16 | UINT32 | INT32 | UINT64 | INT64
  | MAC | IPV4 | IPV6 | POINTER | IP_ADDRESS | IP_PREFIX | OBJECT_ID | OBJECT_LIST
  | UINT8_LIST | INT8_LIST | UINT16_LIST | INT16_LIST | UINT32_LIST | INT32_LIST
  | UINT32_RANGE | INT32_RANGE | VLAN_LIST | QOS_MAP_LIST | ACL_RESOURCE_LIST
  | IP_ADDRESS_LIST
  | ACL_FIELD_DATA (d : AclDataType)
  | ACL_ACTION_DATA (d : AclDataType) (hd : d ≠ .UINT8_LIST)
  | ACL_CAPABILITY
  deriving DecidableEq, Repr

/-- The metadata of an attribute, as far as its value needs it. -/
structure sai_attr_metadata_t where
  attrvaluetype : sai_attr_value_type_t
  enummetadata : Option sai_enum_metadata_t

/-- The enumerations inside attribute values. -/
structure SaiEnums where
  enum_sai_packet_color_t : sai_enum_metadata_t
  enum_sai_acl_stage_t : sai_enum_metadata_t
  enum_sai_acl_bind_point_type_t : sai_enum_metadata_t
  enum_sai_acl_action_type_t : sai_enum_metadata_t

/-- A range, as its least and greatest number. -/
structure sai_range_t (T : IntType) where
  min : T.Value
  max : T.Value
  deriving DecidableEq

structure sai_qos_map_params_t where
  tc : IntType.uint8.Value
  dscp : IntType.uint8.Value
  dot1p : IntType.uint8.Value
  prio : IntType.uint8.Value
  pg : IntType.uint8.Value
  queue_index : IntType.uint8.Value
  color : IntType.int32.Value
  deriving DecidableEq

structure sai_qos_map_t where
  key : sai_qos_map_params_t
  value : sai_qos_map_params_t
  deriving DecidableEq

structure sai_acl_resource_t where
  stage : IntType.int32.Value
  bind_point : IntType.int32.Value
  avail_num : IntType.uint32.Value
  deriving DecidableEq

structure sai_acl_capability_t where
  is_action_list_mandatory : Bool
  action_list : SaiList IntType.int32.Value

/-- The data of an ACL field or action. -/
def AclDataType.Data : AclDataType → Type
  | .BOOL => Bool
  | .UINT8 => IntType.uint8.Value
  | .INT8 => IntType.int8.Value
  | .UINT16 => IntType.uint16.Value
  | .INT16 => IntType.int16.Value
  | .UINT32 => IntType.uint32.Value
  | .INT32 => IntType.int32.Value
  | .MAC => sai_mac_t
  | .IPV4 => sai_ip4_t
  | .IPV6 => sai_ip6_t
  | .OBJECT_ID => sai_object_id_t
  | .OBJECT_LIST => SaiList sai_object_id_t
  | .UINT8_LIST => SaiList IntType.uint8.Value

/-- The mask of an ACL field, if its type has one. -/
def AclDataType.Mask : AclDataType → Type
  | .BOOL | .OBJECT_ID | .OBJECT_LIST => Unit
  | d => d.Data

structure sai_acl_field_data_t (d : AclDataType) where
  enable : Bool
  data : d.Data
  mask : d.Mask

structure sai_acl_action_data_t (d : AclDataType) where
  enable : Bool
  parameter : d.Data

/-- The values of a type. -/
def sai_attr_value_type_t.Value : sai_attr_value_type_t → Type
  | .BOOL => Bool
  | .CHARDATA => Inet.Bytes 32
  | .UINT8 => IntType.uint8.Value
  | .INT8 => IntType.int8.Value
  | .UINT16 => IntType.uint16.Value
  | .INT16 => IntType.int16.Value
  | .UINT32 => IntType.uint32.Value
  | .INT32 => IntType.int32.Value
  | .UINT64 => IntType.uint64.Value
  | .INT64 => IntType.int64.Value
  | .MAC => sai_mac_t
  | .IPV4 => sai_ip4_t
  | .IPV6 => sai_ip6_t
  | .POINTER => IntType.uint64.Value
  | .IP_ADDRESS => sai_ip_address_t
  | .IP_PREFIX => sai_ip_prefix_t
  | .OBJECT_ID => sai_object_id_t
  | .OBJECT_LIST => SaiList sai_object_id_t
  | .UINT8_LIST => SaiList IntType.uint8.Value
  | .INT8_LIST => SaiList IntType.int8.Value
  | .UINT16_LIST => SaiList IntType.uint16.Value
  | .INT16_LIST => SaiList IntType.int16.Value
  | .UINT32_LIST => SaiList IntType.uint32.Value
  | .INT32_LIST => SaiList IntType.int32.Value
  | .UINT32_RANGE => sai_range_t .uint32
  | .INT32_RANGE => sai_range_t .int32
  | .VLAN_LIST => SaiList IntType.uint16.Value
  | .QOS_MAP_LIST => SaiList sai_qos_map_t
  | .ACL_RESOURCE_LIST => SaiList sai_acl_resource_t
  | .IP_ADDRESS_LIST => SaiList sai_ip_address_t
  | .ACL_FIELD_DATA d => sai_acl_field_data_t d
  | .ACL_ACTION_DATA d _ => sai_acl_action_data_t d
  | .ACL_CAPABILITY => sai_acl_capability_t

/-! ### Simple values -/

/-- `sai_serialize_bool`. -/
def sai_serialize_bool (b : Bool) : List Char := if b then "true".toList else "false".toList

/-- `sai_deserialize_bool`. -/
def sai_deserialize_bool (s : List Char) : Option Bool :=
  if s = "true".toList then some true
  else if s = "false".toList then some false
  else none

/-- The characters that `sai_serialize_chardata` writes as they are. -/
def isPlainChar (c : Char) : Bool :=
  ('0' ≤ c ∧ c ≤ '9') ∨ ('a' ≤ c ∧ c ≤ 'z') ∨ ('A' ≤ c ∧ c ≤ 'Z')

/-- One byte of `sai_serialize_chardata`. -/
def chardataByte (b : UInt8) : List Char :=
  let c := Char.ofNat b.toNat
  if isPlainChar c then [c]
  else if c = '\\' then ['\\', '\\']
  else '\\' :: 'x' :: hexByte b

/-- `sai_serialize_chardata`: the bytes up to the first NUL. -/
def sai_serialize_chardata (data : Inet.Bytes 32) : List Char :=
  (data.toList.takeWhile (· ≠ 0)).flatMap chardataByte

/-- The loop of `sai_deserialize_chardata`. -/
def chardataLoop : List Char → Option (List UInt8)
  | [] => some []
  | c :: s =>
    if c = '\\' then
      match s with
      | '\\' :: s => (chardataLoop s).map fun bytes => UInt8.ofNat '\\'.toNat :: bytes
      | 'x' :: h :: l :: s =>
        (char_to_int h).bind fun h => (char_to_int l).bind fun l =>
          (chardataLoop s).map fun bytes => UInt8.ofNat (16 * h + l) :: bytes
      | _ => none
    else (chardataLoop s).map fun bytes => UInt8.ofNat c.toNat :: bytes

/-- `sai_deserialize_chardata`: the bytes, and NULs after them. -/
def sai_deserialize_chardata (s : List Char) : Option (Inet.Bytes 32) :=
  (chardataLoop s).bind fun bytes =>
    if h : bytes.length ≤ 32 then
      some ⟨bytes ++ List.replicate (32 - bytes.length) 0, by simp; omega⟩
    else none

/-- `sai_serialize_range`. -/
def sai_serialize_range {T : IntType} (range : sai_range_t T) : List Char :=
  sai_serialize_number range.min false ++ ',' :: sai_serialize_number range.max false

/-- `sai_deserialize_range`. -/
def sai_deserialize_range (T : IntType) (s : List Char) : Option (sai_range_t T) :=
  match getlines ',' [] s with
  | [least, greatest] =>
    (sai_deserialize_number T least false).bind fun least =>
      (sai_deserialize_number T greatest false).map fun greatest => ⟨least, greatest⟩
  | _ => none

/-! ### Lists -/

/-- `sai_serialize_number_list`. -/
def sai_serialize_number_list {T : IntType} (list : SaiList T.Value) (countOnly hex : Bool) :
    List Char :=
  sai_serialize_list list countOnly fun item => sai_serialize_number item hex

/-- `sai_deserialize_number_list`, which is called with decimal numbers only. -/
def sai_deserialize_number_list (T : IntType) (s : List Char) (countOnly : Bool) :
    Option (SaiList T.Value) :=
  sai_deserialize_list s countOnly fun sitem => sai_deserialize_number T sitem false

def sai_serialize_oid_list (list : SaiList sai_object_id_t) (countOnly : Bool) : List Char :=
  sai_serialize_list list countOnly sai_serialize_object_id

def sai_deserialize_oid_list (s : List Char) (countOnly : Bool) :
    Option (SaiList sai_object_id_t) :=
  sai_deserialize_list s countOnly sai_deserialize_object_id

def sai_serialize_enum_list (list : SaiList IntType.int32.Value)
    (table : Option sai_enum_metadata_t) (countOnly : Bool) : List Char :=
  sai_serialize_list list countOnly fun item => sai_serialize_enum item table

def sai_deserialize_enum_list (s : List Char) (table : Option sai_enum_metadata_t)
    (countOnly : Bool) : Option (SaiList IntType.int32.Value) :=
  sai_deserialize_list s countOnly fun sitem => sai_deserialize_enum sitem table

def sai_serialize_ip_address_list (list : SaiList sai_ip_address_t) (countOnly : Bool) :
    List Char :=
  sai_serialize_list list countOnly sai_serialize_ip_address

def sai_deserialize_ip_address_list (s : List Char) (countOnly : Bool) :
    Option (SaiList sai_ip_address_t) :=
  sai_deserialize_list s countOnly sai_deserialize_ip_address

/-! ### Lists as JSON -/

/-- A list as an object: `sai_serialize_qos_map_list` and
`sai_serialize_acl_resource_list` for their items. -/
def serializeJsonList {α : Type} (item : α → Json) (list : SaiList α) (countOnly : Bool) :
    List Char :=
  let items := if countOnly then none else list.list
  dump (Json.null
    |> set "count".toList (.number list.count.1.toNat)
    |> set "list".toList (items.elim .null fun items => .array (items.map item)))

theorem length_eq_of_some {α : Type} {items : List α} {count : IntType.uint32.Value}
    (h : (items.length : ℤ) = count.1) : ∀ l ∈ some items, (l.length : ℤ) = count.1 := by
  intro l hl
  obtain rfl := Option.some.inj hl
  exact h

/-- The items of a list, which have to be as many as the count says.  A list that is no
array is not modelled. -/
def deserializeJsonItems {α : Type} (item : Json → Option α) (count : IntType.uint32.Value) :
    Json → Option (SaiList α)
  | .null => some (SaiList.null count)
  | .array arr =>
    match arr.mapM item with
    | none => none
    | some items =>
      if h : (items.length : ℤ) = count.1 then
        some ⟨count, some items, length_eq_of_some h⟩
      else none
  | _ => none

/-- The inverse: `sai_deserialize_qos_map_list` and `sai_deserialize_acl_resource_list`
for their items. -/
def deserializeJsonList {α : Type} (item : Json → Option α) (s : List Char) (countOnly : Bool) :
    Option (SaiList α) :=
  (parse s).bind fun j =>
    (toNumber? (get "count".toList j)).bind fun n : ℕ =>
      let count := IntType.uint32.cast n
      if countOnly then some (SaiList.null count)
      else deserializeJsonItems item count (get "list".toList j)

variable (E : SaiEnums)

/-- `sai_serialize_qos_map_params`. -/
def sai_serialize_qos_map_params (params : sai_qos_map_params_t) : Json :=
  Json.null
    |> set "tc".toList (.number params.tc.1.toNat)
    |> set "dscp".toList (.number params.dscp.1.toNat)
    |> set "dot1p".toList (.number params.dot1p.1.toNat)
    |> set "prio".toList (.number params.prio.1.toNat)
    |> set "pg".toList (.number params.pg.1.toNat)
    |> set "qidx".toList (.number params.queue_index.1.toNat)
    |> set "color".toList (.string (sai_serialize_enum params.color E.enum_sai_packet_color_t))

/-- `sai_serialize_qos_map`. -/
def sai_serialize_qos_map (qosmap : sai_qos_map_t) : Json :=
  Json.null
    |> set "key".toList (sai_serialize_qos_map_params E qosmap.key)
    |> set "value".toList (sai_serialize_qos_map_params E qosmap.value)

/-- A member that is a number, cast to a byte. -/
def byteMember (j : Json) (key : String) : Option IntType.uint8.Value :=
  (toNumber? (get key.toList j)).map fun n : ℕ => IntType.uint8.cast n

/-- `sai_deserialize_qos_map_params`. -/
def sai_deserialize_qos_map_params (j : Json) : Option sai_qos_map_params_t :=
  (byteMember j "tc").bind fun tc =>
    (byteMember j "dscp").bind fun dscp =>
      (byteMember j "dot1p").bind fun dot1p =>
        (byteMember j "prio").bind fun prio =>
          (byteMember j "pg").bind fun pg =>
            (byteMember j "qidx").bind fun queue_index =>
              (member j "color" fun s => sai_deserialize_enum s E.enum_sai_packet_color_t).map
                fun color => ⟨tc, dscp, dot1p, prio, pg, queue_index, color⟩

/-- `sai_deserialize_qos_map`. -/
def sai_deserialize_qos_map (j : Json) : Option sai_qos_map_t :=
  (sai_deserialize_qos_map_params E (get "key".toList j)).bind fun key =>
    (sai_deserialize_qos_map_params E (get "value".toList j)).map fun value => ⟨key, value⟩

def sai_serialize_qos_map_list (qosmap : SaiList sai_qos_map_t) (countOnly : Bool) : List Char :=
  serializeJsonList (sai_serialize_qos_map E) qosmap countOnly

def sai_deserialize_qos_map_list (s : List Char) (countOnly : Bool) :
    Option (SaiList sai_qos_map_t) :=
  deserializeJsonList (sai_deserialize_qos_map E) s countOnly

/-- `sai_serialize_acl_resource`. -/
def sai_serialize_acl_resource (aclresource : sai_acl_resource_t) : Json :=
  Json.null
    |> set "stage".toList (.string (sai_serialize_enum aclresource.stage E.enum_sai_acl_stage_t))
    |> set "bind_point".toList
        (.string (sai_serialize_enum aclresource.bind_point E.enum_sai_acl_bind_point_type_t))
    |> set "avail_num".toList (.string (sai_serialize_number aclresource.avail_num false))

/-- `sai_deserialize_acl_resource`. -/
def sai_deserialize_acl_resource (j : Json) : Option sai_acl_resource_t :=
  (member j "stage" fun s => sai_deserialize_enum s E.enum_sai_acl_stage_t).bind fun stage =>
    (member j "bind_point" fun s =>
        sai_deserialize_enum s E.enum_sai_acl_bind_point_type_t).bind fun bind_point =>
      (member j "avail_num" fun s => sai_deserialize_number .uint32 s false).map fun avail_num =>
        ⟨stage, bind_point, avail_num⟩

def sai_serialize_acl_resource_list (aclresource : SaiList sai_acl_resource_t)
    (countOnly : Bool) : List Char :=
  serializeJsonList (sai_serialize_acl_resource E) aclresource countOnly

def sai_deserialize_acl_resource_list (s : List Char) (countOnly : Bool) :
    Option (SaiList sai_acl_resource_t) :=
  deserializeJsonList (sai_deserialize_acl_resource E) s countOnly

/-! ### ACL fields and actions -/

/-- The data of an enabled field or action, as `sai_serialize_acl_field` and
`sai_serialize_acl_action` write it. -/
def serializeAclData (enummetadata : Option sai_enum_metadata_t) (countOnly : Bool) :
    (d : AclDataType) → d.Data → List Char
  | .BOOL, booldata => sai_serialize_bool booldata
  | .UINT8, u8 => sai_serialize_number u8 false
  | .INT8, s8 => sai_serialize_number s8 false
  | .UINT16, u16 => sai_serialize_number u16 false
  | .INT16, s16 => sai_serialize_number s16 false
  | .UINT32, u32 => sai_serialize_number u32 false
  | .INT32, s32 => sai_serialize_enum s32 enummetadata
  | .MAC, mac => sai_serialize_mac mac
  | .IPV4, ip4 => sai_serialize_ipv4 ip4
  | .IPV6, ip6 => sai_serialize_ipv6 ip6
  | .OBJECT_ID, oid => sai_serialize_object_id oid
  | .OBJECT_LIST, objlist => sai_serialize_oid_list objlist countOnly
  | .UINT8_LIST, u8list => sai_serialize_number_list u8list countOnly false

/-- The data as it is read.  The branch for lists of bytes is commented out in the
source, so they throw. -/
def deserializeAclData (enummetadata : Option sai_enum_metadata_t) (countOnly : Bool) :
    (d : AclDataType) → List Char → Option d.Data
  | .BOOL, s => sai_deserialize_bool s
  | .UINT8, s => sai_deserialize_number .uint8 s false
  | .INT8, s => sai_deserialize_number .int8 s false
  | .UINT16, s => sai_deserialize_number .uint16 s false
  | .INT16, s => sai_deserialize_number .int16 s false
  | .UINT32, s => sai_deserialize_number .uint32 s false
  | .INT32, s => sai_deserialize_enum s enummetadata
  | .MAC, s => sai_deserialize_mac s
  | .IPV4, s => sai_deserialize_ipv4 s
  | .IPV6, s => sai_deserialize_ipv6 s
  | .OBJECT_ID, s => sai_deserialize_object_id s
  | .OBJECT_LIST, s => sai_deserialize_oid_list s countOnly
  | .UINT8_LIST, _ => none

def maskMark : List Char := ['&', 'm', 'a', 's', 'k', ':']

/-- The mask of an enabled field with its mark, for the types that have one. -/
def serializeAclMask (countOnly : Bool) : (d : AclDataType) → d.Mask → List Char
  | .BOOL, _ | .OBJECT_ID, _ | .OBJECT_LIST, _ => []
  | .UINT8, u8 => maskMark ++ sai_serialize_number u8 true
  | .INT8, s8 => maskMark ++ sai_serialize_number s8 true
  | .UINT16, u16 => maskMark ++ sai_serialize_number u16 true
  | .INT16, s16 => maskMark ++ sai_serialize_number s16 true
  | .UINT32, u32 => maskMark ++ sai_serialize_number u32 true
  | .INT32, s32 => maskMark ++ sai_serialize_number s32 true
  | .MAC, mac => maskMark ++ sai_serialize_mac mac
  | .IPV4, ip4 => maskMark ++ sai_serialize_ipv4 ip4
  | .IPV6, ip6 => maskMark ++ sai_serialize_ipv6 ip6
  | .UINT8_LIST, u8list => maskMark ++ sai_serialize_number_list u8list countOnly true

/-- The mask as it is read. -/
def deserializeAclMask : (d : AclDataType) → List Char → Option d.Mask
  | .BOOL, _ | .OBJECT_ID, _ | .OBJECT_LIST, _ => some ()
  | .UINT8, s => sai_deserialize_number .uint8 s true
  | .INT8, s => sai_deserialize_number .int8 s true
  | .UINT16, s => sai_deserialize_number .uint16 s true
  | .INT16, s => sai_deserialize_number .int16 s true
  | .UINT32, s => sai_deserialize_number .uint32 s true
  | .INT32, s => sai_deserialize_number .int32 s true
  | .MAC, s => sai_deserialize_mac s
  | .IPV4, s => sai_deserialize_ipv4 s
  | .IPV6, s => sai_deserialize_ipv6 s
  | .UINT8_LIST, _ => none

/-- The zeros that `memset` leaves as data. -/
def AclDataType.zeroData : (d : AclDataType) → d.Data
  | .BOOL => false
  | .UINT8 => IntType.uint8.cast 0
  | .INT8 => IntType.int8.cast 0
  | .UINT16 => IntType.uint16.cast 0
  | .INT16 => IntType.int16.cast 0
  | .UINT32 => IntType.uint32.cast 0
  | .INT32 => IntType.int32.cast 0
  | .MAC => List.Vector.replicate 6 0
  | .IPV4 => List.Vector.replicate 4 0
  | .IPV6 => List.Vector.replicate 16 0
  | .OBJECT_ID => (0 : UInt64)
  | .OBJECT_LIST => SaiList.null (IntType.uint32.cast 0)
  | .UINT8_LIST => SaiList.null (IntType.uint32.cast 0)

/-- The zeros that `memset` leaves as mask. -/
def AclDataType.zeroMask : (d : AclDataType) → d.Mask
  | .BOOL | .OBJECT_ID | .OBJECT_LIST => ()
  | .UINT8 => IntType.uint8.cast 0
  | .INT8 => IntType.int8.cast 0
  | .UINT16 => IntType.uint16.cast 0
  | .INT16 => IntType.int16.cast 0
  | .UINT32 => IntType.uint32.cast 0
  | .INT32 => IntType.int32.cast 0
  | .MAC => List.Vector.replicate 6 0
  | .IPV4 => List.Vector.replicate 4 0
  | .IPV6 => List.Vector.replicate 16 0
  | .UINT8_LIST => SaiList.null (IntType.uint32.cast 0)

def disabledText : List Char := ['d', 'i', 's', 'a', 'b', 'l', 'e', 'd']

/-- `sai_serialize_acl_action`. -/
def sai_serialize_acl_action (enummetadata : Option sai_enum_metadata_t) {d : AclDataType}
    (action : sai_acl_action_data_t d) (countOnly : Bool) : List Char :=
  if action.enable then serializeAclData enummetadata countOnly d action.parameter
  else disabledText

/-- `sai_deserialize_acl_action`. -/
def sai_deserialize_acl_action (s : List Char) (enummetadata : Option sai_enum_metadata_t)
    (d : AclDataType) (countOnly : Bool) : Option (sai_acl_action_data_t d) :=
  if s = disabledText then some ⟨false, d.zeroData⟩
  else (deserializeAclData enummetadata countOnly d s).map fun parameter => ⟨true, parameter⟩

/-- `sai_serialize_acl_field`. -/
def sai_serialize_acl_field (enummetadata : Option sai_enum_metadata_t) {d : AclDataType}
    (field : sai_acl_field_data_t d) (countOnly : Bool) : List Char :=
  if field.enable then
    serializeAclData enummetadata countOnly d field.data ++ serializeAclMask countOnly d field.mask
  else disabledText

/-- `sfield` and `smask`: what stands before and after the first `&mask:`. -/
def splitMask : List Char → List Char × List Char
  | [] => ([], [])
  | c :: s =>
    if maskMark.isPrefixOf (c :: s) then ([], (c :: s).drop 6)
    else (c :: (splitMask s).1, (splitMask s).2)

/-- `sai_deserialize_acl_field`. -/
def sai_deserialize_acl_field (s : List Char) (enummetadata : Option sai_enum_metadata_t)
    (d : AclDataType) (countOnly : Bool) : Option (sai_acl_field_data_t d) :=
  if s = disabledText then some ⟨false, d.zeroData, d.zeroMask⟩
  else
    (deserializeAclData enummetadata countOnly d (splitMask s).1).bind fun data =>
      (deserializeAclMask d (splitMask s).2).map fun mask => ⟨true, data, mask⟩

/-- `sai_serialize_acl_capability`. -/
def sai_serialize_acl_capability (cap : sai_acl_capability_t) (countOnly : Bool) : List Char :=
  sai_serialize_bool cap.is_action_list_mandatory ++
    ':' :: sai_serialize_enum_list cap.action_list E.enum_sai_acl_action_type_t countOnly

/-- `sai_deserialize_acl_capability`, which is not told whether to read the count only. -/
def sai_deserialize_acl_capability (s : List Char) : Option sai_acl_capability_t :=
  if ':' ∉ s then none
  else
    (sai_deserialize_bool (s.takeWhile (· ≠ ':'))).bind fun mandatory =>
      (sai_deserialize_enum_list (s.dropWhile (· ≠ ':')).tail E.enum_sai_acl_action_type_t
        false).map fun list => ⟨mandatory, list⟩

/-! ### Values -/

/-- `sai_serialize_attr_value`. -/
def sai_serialize_attr_value :
    (md : sai_attr_metadata_t) → md.attrvaluetype.Value → Bool → Option (List Char)
  | ⟨.BOOL, _⟩, booldata, _ => some (sai_serialize_bool booldata)
  | ⟨.CHARDATA, _⟩, chardata, _ => some (sai_serialize_chardata chardata)
  | ⟨.UINT8, _⟩, u8, _ => some (sai_serialize_number u8 false)
  | ⟨.INT8, _⟩, s8, _ => some (sai_serialize_number s8 false)
  | ⟨.UINT16, _⟩, u16, _ => some (sai_serialize_number u16 false)
  | ⟨.INT16, _⟩, s16, _ => some (sai_serialize_number s16 false)
  | ⟨.UINT32, _⟩, u32, _ => some (sai_serialize_number u32 false)
  | ⟨.INT32, enummetadata⟩, s32, _ => some (sai_serialize_enum s32 enummetadata)
  | ⟨.UINT64, _⟩, u64, _ => some (sai_serialize_number u64 false)
  | ⟨.INT64, _⟩, s64, _ => some (sai_serialize_number s64 false)
  | ⟨.MAC, _⟩, mac, _ => some (sai_serialize_mac mac)
  | ⟨.IPV4, _⟩, ip4, _ => some (sai_serialize_ipv4 ip4)
  | ⟨.IPV6, _⟩, ip6, _ => some (sai_serialize_ipv6 ip6)
  | ⟨.POINTER, _⟩, ptr, _ => some (sai_serialize_number ptr true)
  | ⟨.IP_ADDRESS, _⟩, ipaddr, _ => some (sai_serialize_ip_address ipaddr)
  | ⟨.IP_PREFIX, _⟩, ipprefix, _ => sai_serialize_ip_prefix ipprefix
  | ⟨.OBJECT_ID, _⟩, oid, _ => some (sai_serialize_object_id oid)
  | ⟨.OBJECT_LIST, _⟩, objlist, countOnly => some (sai_serialize_oid_list objlist countOnly)
  | ⟨.UINT8_LIST, _⟩, u8list, countOnly => some (sai_serialize_number_list u8list countOnly false)
  | ⟨.INT8_LIST, _⟩, s8list, countOnly => some (sai_serialize_number_list s8list countOnly false)
  | ⟨.UINT16_LIST, _⟩, u16list, countOnly =>
    some (sai_serialize_number_list u16list countOnly false)
  | ⟨.INT16_LIST, _⟩, s16list, countOnly =>
    some (sai_serialize_number_list s16list countOnly false)
  | ⟨.UINT32_LIST, _⟩, u32list, countOnly =>
    some (sai_serialize_number_list u32list countOnly false)
  | ⟨.INT32_LIST, enummetadata⟩, s32list, countOnly =>
    some (sai_serialize_enum_list s32list enummetadata countOnly)
  | ⟨.UINT32_RANGE, _⟩, u32range, _ => some (sai_serialize_range u32range)
  | ⟨.INT32_RANGE, _⟩, s32range, _ => some (sai_serialize_range s32range)
  | ⟨.VLAN_LIST, _⟩, vlanlist, countOnly =>
    some (sai_serialize_number_list vlanlist countOnly false)
  | ⟨.QOS_MAP_LIST, _⟩, qosmap, countOnly => some (sai_serialize_qos_map_list E qosmap countOnly)
  | ⟨.ACL_RESOURCE_LIST, _⟩, aclresource, countOnly =>
    some (sai_serialize_acl_resource_list E aclresource countOnly)
  | ⟨.IP_ADDRESS_LIST, _⟩, ipaddrlist, countOnly =>
    some (sai_serialize_ip_address_list ipaddrlist countOnly)
  | ⟨.ACL_FIELD_DATA _, enummetadata⟩, aclfield, countOnly =>
    some (sai_serialize_acl_field enummetadata aclfield countOnly)
  | ⟨.ACL_ACTION_DATA _ _, enummetadata⟩, aclaction, countOnly =>
    some (sai_serialize_acl_action enummetadata aclaction countOnly)
  | ⟨.ACL_CAPABILITY, _⟩, aclcapability, countOnly =>
    some (sai_serialize_acl_capability E aclcapability countOnly)

/-- `sai_deserialize_attr_value`. -/
def sai_deserialize_attr_value (s : List Char) :
    (md : sai_attr_metadata_t) → Bool → Option md.attrvaluetype.Value
  | ⟨.BOOL, _⟩, _ => sai_deserialize_bool s
  | ⟨.CHARDATA, _⟩, _ => sai_deserialize_chardata s
  | ⟨.UINT8, _⟩, _ => sai_deserialize_number .uint8 s false
  | ⟨.INT8, _⟩, _ => sai_deserialize_number .int8 s false
  | ⟨.UINT16, _⟩, _ => sai_deserialize_number .uint16 s false
  | ⟨.INT16, _⟩, _ => sai_deserialize_number .int16 s false
  | ⟨.UINT32, _⟩, _ => sai_deserialize_number .uint32 s false
  | ⟨.INT32, enummetadata⟩, _ => sai_deserialize_enum s enummetadata
  | ⟨.UINT64, _⟩, _ => sai_deserialize_number .uint64 s false
  | ⟨.INT64, _⟩, _ => sai_deserialize_number .int64 s false
  | ⟨.MAC, _⟩, _ => sai_deserialize_mac s
  | ⟨.IPV4, _⟩, _ => sai_deserialize_ipv4 s
  | ⟨.IPV6, _⟩, _ => sai_deserialize_ipv6 s
  | ⟨.POINTER, _⟩, _ => sai_deserialize_number .uint64 s true
  | ⟨.IP_ADDRESS, _⟩, _ => sai_deserialize_ip_address s
  | ⟨.IP_PREFIX, _⟩, _ => sai_deserialize_ip_prefix s
  | ⟨.OBJECT_ID, _⟩, _ => sai_deserialize_object_id s
  | ⟨.OBJECT_LIST, _⟩, countOnly => sai_deserialize_oid_list s countOnly
  | ⟨.UINT8_LIST, _⟩, countOnly => sai_deserialize_number_list .uint8 s countOnly
  | ⟨.INT8_LIST, _⟩, countOnly => sai_deserialize_number_list .int8 s countOnly
  | ⟨.UINT16_LIST, _⟩, countOnly => sai_deserialize_number_list .uint16 s countOnly
  | ⟨.INT16_LIST, _⟩, countOnly => sai_deserialize_number_list .int16 s countOnly
  | ⟨.UINT32_LIST, _⟩, countOnly => sai_deserialize_number_list .uint32 s countOnly
  | ⟨.INT32_LIST, enummetadata⟩, countOnly => sai_deserialize_enum_list s enummetadata countOnly
  | ⟨.UINT32_RANGE, _⟩, _ => sai_deserialize_range .uint32 s
  | ⟨.INT32_RANGE, _⟩, _ => sai_deserialize_range .int32 s
  | ⟨.VLAN_LIST, _⟩, countOnly => sai_deserialize_number_list .uint16 s countOnly
  | ⟨.QOS_MAP_LIST, _⟩, countOnly => sai_deserialize_qos_map_list E s countOnly
  | ⟨.ACL_RESOURCE_LIST, _⟩, countOnly => sai_deserialize_acl_resource_list E s countOnly
  | ⟨.IP_ADDRESS_LIST, _⟩, countOnly => sai_deserialize_ip_address_list s countOnly
  | ⟨.ACL_FIELD_DATA d, enummetadata⟩, countOnly =>
    sai_deserialize_acl_field s enummetadata d countOnly
  | ⟨.ACL_ACTION_DATA d _, enummetadata⟩, countOnly =>
    sai_deserialize_acl_action s enummetadata d countOnly
  | ⟨.ACL_CAPABILITY, _⟩, _ => sai_deserialize_acl_capability E s

end Sai
