/-
Sai/Metadata.lean

The metadata of attributes, attribute values, and what they refer to.

The metadata is generated from the SAI headers: for every object type the attributes
with their flags.  The value of an attribute is a union, and the metadata says which
member is meant; here a union is what is read from each of its members.  A value refers
to the object ids in it, unless it is an ACL field or action that is not enabled
(`references`).  Values are stored as copies, made by writing and reading them, and a
copy refers to the same objects (`copyValue_references`).
-/
import Sonic.Sai.AttrRoundTrip
import Sonic.Lib.RefCount

namespace Sai

open IntType

/-! ### Object types and object ids -/

def SAI_OBJECT_TYPE_PORT : ℤ := 1
def SAI_OBJECT_TYPE_VIRTUAL_ROUTER : ℤ := 3
def SAI_OBJECT_TYPE_ROUTER_INTERFACE : ℤ := 6
def SAI_OBJECT_TYPE_ACL_TABLE : ℤ := 7
def SAI_OBJECT_TYPE_QUEUE : ℤ := 21
def SAI_OBJECT_TYPE_SCHEDULER_GROUP : ℤ := 23
def SAI_OBJECT_TYPE_BUFFER_POOL : ℤ := 24
def SAI_OBJECT_TYPE_BUFFER_PROFILE : ℤ := 25
def SAI_OBJECT_TYPE_INGRESS_PRIORITY_GROUP : ℤ := 26
def SAI_OBJECT_TYPE_SWITCH : ℤ := 33
def SAI_OBJECT_TYPE_VLAN : ℤ := 38
def SAI_OBJECT_TYPE_BRIDGE : ℤ := 57

def SAI_NULL_OBJECT_ID : sai_object_id_t := 0

deriving instance DecidableEq for sai_object_meta_key_t

/-- The type that is no type. -/
def nullType : sai_object_type_t := ⟨SAI_OBJECT_TYPE_NULL, by decide⟩

variable (M : SaiMetadata)

/-- The bits 48 to 55 of an id. -/
def typeByte (object_id : sai_object_id_t) : sai_object_type_t :=
  IntType.int32.cast ((object_id >>> 48) &&& 0xFF).toNat

/-- `sai_object_type_query`. -/
def sai_object_type_query (object_id : sai_object_id_t) : sai_object_type_t :=
  if object_id = SAI_NULL_OBJECT_ID then nullType
  else if (typeByte object_id).1 = SAI_OBJECT_TYPE_NULL ∨
      M.extensionsMax ≤ (typeByte object_id).1 then nullType
  else typeByte object_id

/-- `redis_construct_object_id`, of a switch: its index, its type, and its index again. -/
def switchIdOf (sw_index : UInt64) : sai_object_id_t :=
  (sw_index <<< 56) ||| ((33 : UInt64) <<< 48) ||| sw_index

/-- `sai_switch_id_query`, which throws for an id without a type. -/
def sai_switch_id_query (oid : sai_object_id_t) : Option sai_object_id_t :=
  if oid = SAI_NULL_OBJECT_ID then some oid
  else
    let object_type := sai_object_type_query M oid
    if object_type.1 = SAI_OBJECT_TYPE_NULL then none
    else if object_type.1 = SAI_OBJECT_TYPE_SWITCH then some oid
    else some (switchIdOf ((oid >>> 56) &&& 0xFF))

/-! ### Keys -/

def fdbKey (fdb_entry : sai_fdb_entry_t) : sai_object_meta_key_t :=
  ⟨⟨SAI_OBJECT_TYPE_FDB_ENTRY, by decide⟩, .fdb_entry fdb_entry, rfl⟩

def neighborKey (neighbor_entry : sai_neighbor_entry_t) : sai_object_meta_key_t :=
  ⟨⟨SAI_OBJECT_TYPE_NEIGHBOR_ENTRY, by decide⟩, .neighbor_entry neighbor_entry, rfl⟩

def routeEntryKey (route_entry : sai_route_entry_t) : sai_object_meta_key_t :=
  ⟨⟨SAI_OBJECT_TYPE_ROUTE_ENTRY, by decide⟩, .route_entry route_entry, rfl⟩

theorem object_id_of {objecttype : sai_object_type_t} {oid : sai_object_id_t}
    (hf : ¬ objecttype.1 = SAI_OBJECT_TYPE_FDB_ENTRY)
    (hr : ¬ objecttype.1 = SAI_OBJECT_TYPE_ROUTE_ENTRY)
    (hn : ¬ objecttype.1 = SAI_OBJECT_TYPE_NEIGHBOR_ENTRY) :
    (sai_object_key_t.object_id oid).Of objecttype.1 := ⟨hf, hr, hn⟩

/-- The key with `objectkey.key.object_id = oid`.  The id is the first member of the
union; read as an entry, it is the switch of an entry that is zero otherwise. -/
def oidKey (objecttype : sai_object_type_t) (oid : sai_object_id_t) : sai_object_meta_key_t :=
  if hf : objecttype.1 = SAI_OBJECT_TYPE_FDB_ENTRY then
    ⟨objecttype, .fdb_entry ⟨oid, ⟨List.replicate 6 0, rfl⟩, 0⟩, hf⟩
  else if hr : objecttype.1 = SAI_OBJECT_TYPE_ROUTE_ENTRY then
    ⟨objecttype, .route_entry ⟨oid, 0,
      .ipv4 ⟨List.replicate 4 0, rfl⟩ ⟨List.replicate 4 0, rfl⟩⟩, hr⟩
  else if hn : objecttype.1 = SAI_OBJECT_TYPE_NEIGHBOR_ENTRY then
    ⟨objecttype, .neighbor_entry ⟨oid, 0, .ipv4 ⟨List.replicate 4 0, rfl⟩⟩, hn⟩
  else ⟨objecttype, .object_id oid, object_id_of hf hr hn⟩

@[simp] theorem objecttype_oidKey (objecttype : sai_object_type_t) (oid : sai_object_id_t) :
    (oidKey objecttype oid).objecttype = objecttype := by
  unfold oidKey
  split_ifs <;> rfl

/-- The object ids in the struct members of a key, with their allowed types: the
`structmembers` of the entries. -/
def sai_object_key_t.structmembers : sai_object_key_t → List (sai_object_id_t × List ℤ)
  | .object_id _ => []
  | .fdb_entry entry =>
    [(entry.switch_id, [SAI_OBJECT_TYPE_SWITCH]),
      (entry.bv_id, [SAI_OBJECT_TYPE_BRIDGE, SAI_OBJECT_TYPE_VLAN])]
  | .neighbor_entry entry =>
    [(entry.switch_id, [SAI_OBJECT_TYPE_SWITCH]),
      (entry.rif_id, [SAI_OBJECT_TYPE_ROUTER_INTERFACE])]
  | .route_entry entry =>
    [(entry.switch_id, [SAI_OBJECT_TYPE_SWITCH]),
      (entry.vr_id, [SAI_OBJECT_TYPE_VIRTUAL_ROUTER])]

/-- The objects that a key refers to. -/
def sai_object_key_t.references (key : sai_object_key_t) : List sai_object_id_t :=
  key.structmembers.map (·.1)

/-! ### Attributes -/

/-- A union: what is read from each of its members. -/
abbrev sai_attribute_value_t := (T : sai_attr_value_type_t) → T.Value

namespace sai_attribute_value_t

def booldata (value : sai_attribute_value_t) : Bool := value .BOOL
def s32 (value : sai_attribute_value_t) : IntType.int32.Value := value .INT32
def oid (value : sai_attribute_value_t) : sai_object_id_t := value .OBJECT_ID
def objlist (value : sai_attribute_value_t) : SaiList sai_object_id_t := value .OBJECT_LIST

end sai_attribute_value_t

structure sai_attribute_t where
  id : ℕ
  value : sai_attribute_value_t

/-- A condition of an attribute: another one has a value. -/
structure sai_attr_condition_t where
  attrid : ℕ
  booldata : Bool
  s32 : IntType.int32.Value

/-- The metadata of an attribute. -/
structure AttrMetadata extends sai_attr_metadata_t where
  attrid : ℕ
  attridname : List Char
  /-- `SAI_HAS_FLAG_MANDATORY_ON_CREATE` and so on -/
  mandatoryOnCreate : Bool
  readOnly : Bool
  createOnly : Bool
  key : Bool
  allowedobjecttypes : List ℤ
  allownullobjectid : Bool
  isenum : Bool
  isenumlist : Bool
  isconditional : Bool
  conditions : List sai_attr_condition_t
  defaultvalue : Option sai_attribute_value_t

/-- `isoidattribute`. -/
def AttrMetadata.isoidattribute (md : AttrMetadata) : Bool := md.allowedobjecttypes ≠ []

/-- `sai_metadata_is_allowed_enum_value`. -/
def AttrMetadata.sai_metadata_is_allowed_enum_value (md : AttrMetadata)
    (value : IntType.int32.Value) : Bool :=
  match md.enummetadata with
  | none => false
  | some emd => emd.values.any (·.1 = value)

/-- The object types whose objects are entries, with a key instead of an id. -/
def IsEntryType (objecttype : sai_object_type_t) : Prop :=
  objecttype.1 = SAI_OBJECT_TYPE_FDB_ENTRY ∨ objecttype.1 = SAI_OBJECT_TYPE_ROUTE_ENTRY ∨
    objecttype.1 = SAI_OBJECT_TYPE_NEIGHBOR_ENTRY

theorem objectkey_oidKey {objecttype : sai_object_type_t} (h : ¬ IsEntryType objecttype)
    (oid : sai_object_id_t) : (oidKey objecttype oid).objectkey = .object_id oid := by
  unfold oidKey
  rw [dif_neg fun hf => h (Or.inl hf), dif_neg fun hr => h (Or.inr (Or.inl hr)),
    dif_neg fun hn => h (Or.inr (Or.inr hn))]

instance (objecttype : sai_object_type_t) : Decidable (IsEntryType objecttype) :=
  inferInstanceAs (Decidable (_ ∨ _ ∨ _))

/-- The types of the objects that belong to a port. -/
def IsPortRelated (objecttype : sai_object_type_t) : Prop :=
  objecttype.1 = SAI_OBJECT_TYPE_QUEUE ∨ objecttype.1 = SAI_OBJECT_TYPE_SCHEDULER_GROUP ∨
    objecttype.1 = SAI_OBJECT_TYPE_INGRESS_PRIORITY_GROUP

instance (objecttype : sai_object_type_t) : Decidable (IsPortRelated objecttype) :=
  inferInstanceAs (Decidable (_ ∨ _ ∨ _))

/-- The generated metadata. -/
structure Metadata extends SaiMetadata where
  enums : SaiEnums
  attrmetadata : sai_object_type_t → List AttrMetadata
  isnonobjectid_entry : ∀ objecttype, IsEntryType objecttype → isnonobjectid objecttype = true
  isnonobjectid_port : ∀ objecttype, objecttype.1 = SAI_OBJECT_TYPE_PORT ∨ IsPortRelated objecttype →
    isnonobjectid objecttype = false
  /-- what a switch can do with ACLs is not set -/
  readOnly_capability : ∀ objecttype, ∀ md ∈ attrmetadata objecttype,
    md.attrvaluetype = .ACL_CAPABILITY → md.readOnly = true

/-- `sai_metadata_get_attr_metadata`. -/
def Metadata.sai_metadata_get_attr_metadata (M : Metadata) (objecttype : sai_object_type_t)
    (attrid : ℕ) : Option AttrMetadata :=
  if M.Valid objecttype then (M.attrmetadata objecttype).find? (·.attrid = attrid) else none

/-- `sai_metadata_get_attr_by_id`. -/
def sai_metadata_get_attr_by_id (id : ℕ) (attr_list : List sai_attribute_t) :
    Option sai_attribute_t :=
  attr_list.find? (·.id = id)

/-! ### What values refer to -/

def SaiList.items {α : Type} (l : SaiList α) : List α := l.list.getD []

def AclDataType.references : (d : AclDataType) → d.Data → List sai_object_id_t
  | .OBJECT_ID, oid => [oid]
  | .OBJECT_LIST, objlist => objlist.items
  | _, _ => []

/-- The object ids in a value, if it is enabled. -/
def sai_attr_value_type_t.references : (T : sai_attr_value_type_t) → T.Value →
    List sai_object_id_t
  | .OBJECT_ID, oid => [oid]
  | .OBJECT_LIST, objlist => objlist.items
  | .ACL_FIELD_DATA d, aclfield => if aclfield.enable then d.references aclfield.data else []
  | .ACL_ACTION_DATA d _, aclaction =>
    if aclaction.enable then d.references aclaction.parameter else []
  | _, _ => []

/-- The object ids in the value of an attribute. -/
def AttrMetadata.references (md : AttrMetadata) (value : sai_attribute_value_t) :
    List sai_object_id_t :=
  md.attrvaluetype.references (value md.attrvaluetype)

/-! ### Copies -/

/-- `SaiAttrWrapper`: the copy of an attribute with its metadata. -/
structure SaiAttrWrapper where
  m_meta : AttrMetadata
  m_attr : sai_attribute_t

def SaiAttrWrapper.references (w : SaiAttrWrapper) : List sai_object_id_t :=
  w.m_meta.references w.m_attr.value

variable (E : SaiEnums)

/-- A value that is written and read again. -/
def copyValue (md : sai_attr_metadata_t) (v : md.attrvaluetype.Value) :
    Option md.attrvaluetype.Value :=
  (sai_serialize_attr_value E md v false).bind fun s => sai_deserialize_attr_value E s md false

/-- The constructor of `SaiAttrWrapper`, which throws if the value has no text or the text
is not read. -/
def SaiAttrWrapper.copy (md : AttrMetadata) (attr : sai_attribute_t) : Option SaiAttrWrapper :=
  (copyValue E md.tosai_attr_metadata_t (attr.value md.attrvaluetype)).map fun v =>
    ⟨md, attr.id, Function.update attr.value md.attrvaluetype v⟩

theorem items_of_same {α : Type} {l l' : SaiList α} (h : l.Same false l') :
    l'.items = l.items := by
  obtain ⟨hcount, hfalse | hzero | hlist⟩ := h
  · cases hfalse
  · -- two lists of no items
    have hitems : ∀ l : SaiList α, l.count.1 = 0 → l.items = [] := by
      intro l hl
      unfold SaiList.items
      cases hlist : l.list with
      | none => rfl
      | some items =>
        have hlen := l.length_eq items hlist
        rw [hl] at hlen
        exact List.length_eq_zero_iff.mp (by exact_mod_cast hlen)
    rw [hitems l hzero, hitems l' (hcount ▸ hzero)]
  · unfold SaiList.items
    rw [hlist]

theorem AclDataType.references_of_same {d : AclDataType} {data data' : d.Data}
    (h : d.Same false data data') : d.references data' = d.references data := by
  cases d with
  | OBJECT_ID => exact congrArg (fun oid => [oid]) (Eq.symm h)
  | OBJECT_LIST => exact items_of_same h
  | _ => rfl

/-- Values that are the same refer to the same objects. -/
theorem references_of_same {T : sai_attr_value_type_t} {v v' : T.Value} (h : T.Same false v v') :
    T.references v' = T.references v := by
  cases T with
  | OBJECT_ID => exact congrArg (fun oid => [oid]) (Eq.symm h)
  | OBJECT_LIST => exact items_of_same h
  | ACL_FIELD_DATA d =>
    obtain ⟨henable, hdata⟩ := h
    show (if v'.enable then d.references v'.data else [])
      = if v.enable then d.references v.data else []
    rw [← henable]
    split
    · next he => exact AclDataType.references_of_same (hdata he).1
    · rfl
  | ACL_ACTION_DATA d hd =>
    obtain ⟨henable, hdata⟩ := h
    show (if v'.enable then d.references v'.parameter else [])
      = if v.enable then d.references v.parameter else []
    rw [← henable]
    split
    · next he => exact AclDataType.references_of_same (hdata he)
    · rfl
  | _ => rfl

/-- The values of a type refer to nothing, or they all have a round trip. -/
theorem references_nil_or_readable (T : sai_attr_value_type_t) :
    (∀ v : T.Value, T.references v = []) ∨ ∀ v : T.Value, T.Regular v ∧ T.Readable false v := by
  cases T with
  | CHARDATA | IP_PREFIX | ACL_CAPABILITY => exact Or.inl fun v => rfl
  | ACL_FIELD_DATA d =>
    by_cases hd : d = .UINT8_LIST
    · subst hd
      left
      intro v
      show (if v.enable then [] else []) = ([] : List sai_object_id_t)
      split <;> rfl
    · exact Or.inr fun v => ⟨trivial, Or.inl hd⟩
  | _ => exact Or.inr fun v => ⟨trivial, trivial⟩

/-- **A copy refers to the same objects.** -/
theorem copyValue_references {md : sai_attr_metadata_t} {v v' : md.attrvaluetype.Value}
    (h : copyValue E md v = some v') :
    md.attrvaluetype.references v' = md.attrvaluetype.references v := by
  rcases references_nil_or_readable md.attrvaluetype with hnil | hreadable
  · rw [hnil v, hnil v']
  · obtain ⟨s, v'', hwrite, hread, hsame⟩ :=
      roundTrips_of_readable E (hreadable v).1 (hreadable v).2
    rw [copyValue, hwrite, Option.bind_some, hread] at h
    obtain rfl := Option.some.inj h
    exact references_of_same hsame

theorem SaiAttrWrapper.copy_references {md : AttrMetadata} {attr : sai_attribute_t}
    {w : SaiAttrWrapper} (h : SaiAttrWrapper.copy E md attr = some w) :
    w.m_meta = md ∧ w.m_attr.id = attr.id ∧ w.references = md.references attr.value := by
  obtain ⟨v, hv, rfl⟩ := Option.map_eq_some_iff.mp h
  refine ⟨rfl, rfl, ?_⟩
  show md.attrvaluetype.references (Function.update attr.value md.attrvaluetype v md.attrvaluetype)
    = md.attrvaluetype.references (attr.value md.attrvaluetype)
  rw [Function.update_self]
  exact copyValue_references E hv

/-! ### Values with one member -/

/-- The value of which every member is zero. -/
def sai_attribute_value_t.zero : sai_attribute_value_t
  | .BOOL => false
  | .CHARDATA => ⟨List.replicate 32 0, rfl⟩
  | .UINT8 => IntType.uint8.cast 0
  | .INT8 => IntType.int8.cast 0
  | .UINT16 => IntType.uint16.cast 0
  | .INT16 => IntType.int16.cast 0
  | .UINT32 => IntType.uint32.cast 0
  | .INT32 => IntType.int32.cast 0
  | .UINT64 => IntType.uint64.cast 0
  | .INT64 => IntType.int64.cast 0
  | .MAC => ⟨List.replicate 6 0, rfl⟩
  | .IPV4 => ⟨List.replicate 4 0, rfl⟩
  | .IPV6 => ⟨List.replicate 16 0, rfl⟩
  | .POINTER => IntType.uint64.cast 0
  | .IP_ADDRESS => .ipv4 ⟨List.replicate 4 0, rfl⟩
  | .IP_PREFIX => .ipv4 ⟨List.replicate 4 0, rfl⟩ ⟨List.replicate 4 0, rfl⟩
  | .OBJECT_ID => SAI_NULL_OBJECT_ID
  | .OBJECT_LIST => SaiList.null (IntType.uint32.cast 0)
  | .UINT8_LIST => SaiList.null (IntType.uint32.cast 0)
  | .INT8_LIST => SaiList.null (IntType.uint32.cast 0)
  | .UINT16_LIST => SaiList.null (IntType.uint32.cast 0)
  | .INT16_LIST => SaiList.null (IntType.uint32.cast 0)
  | .UINT32_LIST => SaiList.null (IntType.uint32.cast 0)
  | .INT32_LIST => SaiList.null (IntType.uint32.cast 0)
  | .UINT32_RANGE => ⟨IntType.uint32.cast 0, IntType.uint32.cast 0⟩
  | .INT32_RANGE => ⟨IntType.int32.cast 0, IntType.int32.cast 0⟩
  | .VLAN_LIST => SaiList.null (IntType.uint32.cast 0)
  | .QOS_MAP_LIST => SaiList.null (IntType.uint32.cast 0)
  | .ACL_RESOURCE_LIST => SaiList.null (IntType.uint32.cast 0)
  | .IP_ADDRESS_LIST => SaiList.null (IntType.uint32.cast 0)
  | .ACL_FIELD_DATA d => ⟨false, d.zeroData, d.zeroMask⟩
  | .ACL_ACTION_DATA d _ => ⟨false, d.zeroData⟩
  | .ACL_CAPABILITY => ⟨false, SaiList.null (IntType.uint32.cast 0)⟩

/-- An attribute with one member of its value. -/
def sai_attribute_t.of (id : ℕ) (T : sai_attr_value_type_t) (v : T.Value) : sai_attribute_t :=
  ⟨id, Function.update sai_attribute_value_t.zero T v⟩

end Sai
