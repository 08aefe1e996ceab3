/-
Sai/MetaDb.lean

The metadata database of sairedis: the objects that exist with their attributes, and how
often each of them is referred to.

A call of the API is validated, handed to the vendor, and recorded if the vendor
succeeded.  Here is what the database holds and how calls are recorded: the functions
`meta_generic_validation_post_…`.  Recording throws where the database contradicts itself
(`Fatal`), and for attributes that it does not support.
-/
import Sonic.Sai.Metadata
import Sonic.Lib.OrderedSet

namespace Sai.Meta

open IntType Outcome

/-- The exceptions with `FATAL` in their text. -/
inductive Fatal where
  /-- "object oid … not in reference map" -/
  | notInReferenceMap
  /-- "object oid … reference count is negative!" -/
  | negative
  /-- "object oid … already in reference map" -/
  | alreadyInReferenceMap
  /-- "removing object oid … but reference count is" -/
  | stillReferenced
  /-- "object … doesn't exist" -/
  | doesntExist
  /-- "object … already exists" -/
  | alreadyExists
  deriving DecidableEq, Repr

inductive Exn where
  | fatal (f : Fatal)
  /-- "serialization type is not supported yet" -/
  | unsupported
  /-- a key or a value has no text, or the text of a value is not read -/
  | serialize
  /-- "not expected NULL" -/
  | unexpectedNull
  /-- `std::out_of_range`, or a pointer that is NULL -/
  | crash
  deriving DecidableEq, Repr

/-- A `FATAL` exception. -/
def Exn.IsFatal (e : Exn) : Prop := ∃ f, e = .fatal f

theorem not_isFatal_unsupported : ¬ Exn.IsFatal .unsupported := by rintro ⟨f, hf⟩; cases hf

theorem not_isFatal_serialize : ¬ Exn.IsFatal .serialize := by rintro ⟨f, hf⟩; cases hf

theorem not_isFatal_unexpectedNull : ¬ Exn.IsFatal .unexpectedNull := by rintro ⟨f, hf⟩; cases hf

theorem not_isFatal_crash : ¬ Exn.IsFatal .crash := by rintro ⟨f, hf⟩; cases hf

/-- The database. -/
structure St where
  ObjectReferences : Table sai_object_id_t ℤ
  ObjectAttrHash : Table sai_object_meta_key_t (Table ℕ SaiAttrWrapper)
  AttributeKeys : Table sai_object_meta_key_t (List Char)
  map_port_to_related_set : Table sai_object_id_t (List sai_object_id_t)

/-- `meta_init_db`. -/
def meta_init_db : St := ⟨∅, ∅, ∅, ∅⟩

/-! ### References -/

def object_reference_exists (s : St) (oid : sai_object_id_t) : Bool :=
  (s.ObjectReferences.lookup oid).isSome

/-- The exception for a reference that was not counted. -/
def faultExn : RefCount.Fault → Exn
  | .missing => .fatal .notInReferenceMap
  | .negative => .fatal .negative

/-- New counters, or the exception. -/
def counted (s : St) : Except RefCount.Fault (Table sai_object_id_t ℤ) → Except Exn St
  | .ok R => .ok { s with ObjectReferences := R }
  | .error fault => .error (faultExn fault)

def object_reference_inc (s : St) (oid : sai_object_id_t) : Except Exn St :=
  if oid = SAI_NULL_OBJECT_ID then .ok s else counted s (RefCount.inc s.ObjectReferences oid)

def object_reference_dec (s : St) (oid : sai_object_id_t) : Except Exn St :=
  if oid = SAI_NULL_OBJECT_ID then .ok s else counted s (RefCount.dec s.ObjectReferences oid)

/-- `object_reference_inc` of a list. -/
def object_reference_inc_list (s : St) (list : List sai_object_id_t) : Except Exn St :=
  list.foldlM object_reference_inc s

/-- `object_reference_dec` of a list. -/
def object_reference_dec_list (s : St) (list : List sai_object_id_t) : Except Exn St :=
  list.foldlM object_reference_dec s

def object_reference_insert (s : St) (oid : sai_object_id_t) : Except Exn St :=
  if object_reference_exists s oid then .error (.fatal .alreadyInReferenceMap)
  else .ok { s with ObjectReferences := s.ObjectReferences.insert oid 0 }

def object_reference_count (s : St) (oid : sai_object_id_t) : Except Exn ℤ :=
  match s.ObjectReferences.lookup oid with
  | some count => .ok count
  | none => .error (.fatal .notInReferenceMap)

def object_reference_remove (s : St) (oid : sai_object_id_t) : Except Exn St :=
  match s.ObjectReferences.lookup oid with
  | some count =>
    if 0 < count then .error (.fatal .stillReferenced)
    else .ok { s with ObjectReferences := s.ObjectReferences.erase oid }
  | none => .ok s

/-! ### Objects -/

def object_exists (s : St) (meta_key : sai_object_meta_key_t) : Bool :=
  (s.ObjectAttrHash.lookup meta_key).isSome

def get_object_previous_attr (s : St) (meta_key : sai_object_meta_key_t) (md : AttrMetadata) :
    Option SaiAttrWrapper :=
  (s.ObjectAttrHash.lookup meta_key).bind fun attrs => attrs.lookup md.attrid

/-- `set_object`, which stores a copy of the attribute. -/
def set_object (M : Metadata) (s : St) (meta_key : sai_object_meta_key_t) (md : AttrMetadata)
    (attr : sai_attribute_t) : Except Exn St :=
  match s.ObjectAttrHash.lookup meta_key with
  | none => .error (.fatal .doesntExist)
  | some attrs =>
    match SaiAttrWrapper.copy M.enums md attr with
    | none => .error .serialize
    | some w =>
      .ok { s with
        ObjectAttrHash := s.ObjectAttrHash.insert meta_key (attrs.insert attr.id w) }

/-- `get_object_attributes`; an unordered map is gone through in some order. -/
def get_object_attributes (s : St) (meta_key : sai_object_meta_key_t) :
    Except Exn (List SaiAttrWrapper) :=
  match s.ObjectAttrHash.lookup meta_key with
  | none => .error (.fatal .doesntExist)
  | some attrs => .ok (attrs.entries.map (·.2))

def remove_object (s : St) (meta_key : sai_object_meta_key_t) : Except Exn St :=
  if object_exists s meta_key then
    .ok { s with ObjectAttrHash := s.ObjectAttrHash.erase meta_key }
  else .error (.fatal .doesntExist)

def create_object (s : St) (meta_key : sai_object_meta_key_t) : Except Exn St :=
  if object_exists s meta_key then .error (.fatal .alreadyExists)
  else .ok { s with ObjectAttrHash := s.ObjectAttrHash.insert meta_key ∅ }

/-! ### Recording a create -/

variable (M : Metadata)

/-- The types that `meta_generic_validation_post_create` supports. -/
def inPostCreate : sai_attr_value_type_t → Bool
  | .ACL_CAPABILITY => false
  | .ACL_FIELD_DATA .UINT8_LIST => false
  | _ => true

/-- The text of an attribute that is a key, in `construct_key`; the others throw. -/
def keyAttrText (md : AttrMetadata) (value : sai_attribute_value_t) : Except Exn (List Char) :=
  match md.attrvaluetype with
  | .UINT32_LIST =>
    .ok ([','].intercalate ((value .UINT32_LIST).items.map fun n => sai_serialize_number n false))
  | .INT32 => .ok (sai_serialize_number value.s32 false)
  | .UINT32 => .ok (sai_serialize_number (value .UINT32) false)
  | .UINT8 => .ok (sai_serialize_number (value .UINT8) false)
  | .UINT16 => .ok (sai_serialize_number (value .UINT16) false)
  | .OBJECT_ID => .ok (sai_serialize_object_id value.oid)
  | _ => .error .unsupported

/-- `construct_key`: the attributes that are keys, in the order of their ids. -/
def construct_key (objecttype : sai_object_type_t) (attr_list : List sai_attribute_t) :
    Except Exn (List Char) := do
  let keys ← attr_list.foldlM (fun (keys : List (ℕ × List Char)) attr =>
    match M.sai_metadata_get_attr_metadata objecttype attr.id with
    | none => .error .crash
    | some md =>
      if md.key then do
        let text ← keyAttrText md attr.value
        let name := md.attridname ++ ':' :: text
        .ok (OrderedSet.insert Prod.fst (md.attrid, name)
          (OrderedSet.erase Prod.fst (md.attrid, name) keys))
      else .ok keys) []
  .ok (keys.flatMap fun k => k.2 ++ [';'])

variable {M} in
/-- Key attributes have a text, or one that is not FATAL is thrown. -/
theorem construct_key_safe {objecttype : sai_object_type_t}
    {attr_list : List sai_attribute_t} :
    Safe Exn.IsFatal (fun _ => True) (construct_key M objecttype attr_list) := by
  unfold construct_key
  refine Safe.bind (Q := fun _ => True) ?_ fun keys _ _ => trivial
  refine Safe.foldlM (I := fun _ _ => True) trivial fun attr rest keys _ => ?_
  split
  · exact not_isFatal_crash
  · next md _ =>
      split
      · refine Safe.bind (Q := fun _ => True) ?_ fun text _ _ => trivial
        unfold keyAttrText
        split <;> first | trivial | exact not_isFatal_unsupported
      · trivial

/-- The part of `meta_generic_validation_post_create` about the id that was created: it
gets a counter, unless it is not what was to be created. -/
def insertCreated (s : St) (objecttype : sai_object_type_t) (oid switch_id : sai_object_id_t) :
    Except Exn St :=
  let object_type := sai_object_type_query M.toSaiMetadata oid
  if oid = SAI_NULL_OBJECT_ID ∨ object_type.1 = SAI_OBJECT_TYPE_NULL ∨ object_type ≠ objecttype then
    .ok s
  else if objecttype.1 ≠ SAI_OBJECT_TYPE_SWITCH then
    match sai_switch_id_query M.toSaiMetadata oid with
    | none => .error .crash
    | some query_switch_id =>
      if ¬ object_reference_exists s query_switch_id ∨ switch_id ≠ query_switch_id then .ok s
      else object_reference_insert s oid
  else object_reference_insert s oid

/-- An attribute in `meta_generic_validation_post_create`. -/
def postCreateAttr (meta_key : sai_object_meta_key_t) (s : St) (attr : sai_attribute_t) :
    Except Exn St :=
  match M.sai_metadata_get_attr_metadata meta_key.objecttype attr.id with
  | none => .error .crash
  | some md =>
    if inPostCreate md.attrvaluetype then do
      let s ← object_reference_inc_list s (md.references attr.value)
      set_object M s meta_key md attr
    else .error .unsupported

/-- Is one of the attributes a key?  (The variable that says so starts uninitialised in the
source, and is taken to be false.) -/
def hasKeys (objecttype : sai_object_type_t) (attr_list : List sai_attribute_t) : Bool :=
  attr_list.any fun attr =>
    ((M.sai_metadata_get_attr_metadata objecttype attr.id).map (·.key)).getD false

/-- The part of `meta_generic_validation_post_create` about the key: the new id, or the
members of the entry. -/
def createdKey (s : St) (meta_key : sai_object_meta_key_t) (switch_id : sai_object_id_t) :
    Except Exn St :=
  match meta_key.objectkey with
  | .object_id oid => insertCreated M s meta_key.objecttype oid switch_id
  | key => object_reference_inc_list s key.references

/-- The part of `meta_generic_validation_post_create` about the attributes that are keys. -/
def recordKeys (s : St) (meta_key : sai_object_meta_key_t) (attr_list : List sai_attribute_t) :
    Except Exn St :=
  if hasKeys M meta_key.objecttype attr_list then
    (construct_key M meta_key.objecttype attr_list).map fun key =>
      { s with AttributeKeys := s.AttributeKeys.insert meta_key key }
  else .ok s

/-- `meta_generic_validation_post_create`, where no warm boot was announced. -/
def meta_generic_validation_post_create (s : St) (meta_key : sai_object_meta_key_t)
    (switch_id : sai_object_id_t) (attr_list : List sai_attribute_t) : Except Exn St := do
  let s ← create_object s meta_key
  let s ← createdKey M s meta_key switch_id
  let s ← attr_list.foldlM (postCreateAttr M meta_key) s
  recordKeys M s meta_key attr_list

/-! ### Recording a remove -/

/-- The types that `meta_generic_validation_post_remove` supports. -/
def inPostRemove : sai_attr_value_type_t → Bool
  | .VLAN_LIST => false
  | .ACL_CAPABILITY => false
  | .ACL_FIELD_DATA .UINT8_LIST => false
  | _ => true

/-- An attribute in `meta_generic_validation_post_remove`. -/
def postRemoveAttr (objecttype : sai_object_type_t) (s : St) (w : SaiAttrWrapper) :
    Except Exn St :=
  match M.sai_metadata_get_attr_metadata objecttype w.m_attr.id with
  | none => .error .crash
  | some md =>
    if inPostRemove md.attrvaluetype then
      object_reference_dec_list s (md.references w.m_attr.value)
    else .error .unsupported

/-- The part of `meta_generic_validation_post_remove` about the key. -/
def removedKey (s : St) (meta_key : sai_object_meta_key_t) : Except Exn St :=
  match meta_key.objectkey with
  | .object_id oid => object_reference_remove s oid
  | key => object_reference_dec_list s key.references

/-- `meta_generic_validation_post_remove` up to the objects related to a port: the
references of the object are taken back, and the object is removed. -/
def postRemoveObject (s : St) (meta_key : sai_object_meta_key_t) : Except Exn St := do
  let attrs ← get_object_attributes s meta_key
  let s ← attrs.foldlM (postRemoveAttr M meta_key.objecttype) s
  let s ← removedKey s meta_key
  let s ← remove_object s meta_key
  .ok { s with AttributeKeys := s.AttributeKeys.erase meta_key }

/-- The id of a port, by its key. -/
def portId (meta_key : sai_object_meta_key_t) : Option sai_object_id_t :=
  match meta_key.objectkey with
  | .object_id oid => if meta_key.objecttype.1 = SAI_OBJECT_TYPE_PORT then some oid else none
  | _ => none

/-- `post_port_remove`, by the function that removes the related objects. -/
def post_port_remove (post_remove : St → sai_object_meta_key_t → Except Exn St) (s : St)
    (port_id : sai_object_id_t) : Except Exn St :=
  match s.map_port_to_related_set.lookup port_id with
  | none => .ok s
  | some related => do
      let s ← related.foldlM (fun s oid =>
        post_remove s (oidKey (sai_object_type_query M.toSaiMetadata oid) oid)) s
      .ok { s with map_port_to_related_set := s.map_port_to_related_set.insert port_id [] }

/-- `meta_generic_validation_post_remove`, which calls itself for the objects related to a
port.  Every call removes an object before it calls itself, so there are at most as many
nested calls as objects; without objects the call throws. -/
def postRemove : ℕ → St → sai_object_meta_key_t → Except Exn St
  | 0, s, meta_key =>
    if meta_key.objecttype.1 = SAI_OBJECT_TYPE_SWITCH then .ok s
    else .error (.fatal .doesntExist)
  | n + 1, s, meta_key =>
    -- the database was cleared with the switch
    if meta_key.objecttype.1 = SAI_OBJECT_TYPE_SWITCH then .ok s
    else do
      let s ← postRemoveObject M s meta_key
      match portId meta_key with
      | some port_id => post_port_remove M (postRemove n) s port_id
      | none => .ok s

def meta_generic_validation_post_remove (s : St) (meta_key : sai_object_meta_key_t) :
    Except Exn St :=
  postRemove M s.ObjectAttrHash.entries.length s meta_key

/-! ### Recording a set -/

/-- The types that `meta_generic_validation_post_set` supports. -/
def inPostSet : sai_attr_value_type_t → Bool
  | .VLAN_LIST => false
  | .ACL_FIELD_DATA .UINT8_LIST => false
  | _ => true

/-- The references of the previous value are taken back, if there is one. -/
def releasePrevious (s : St) (meta_key : sai_object_meta_key_t) (md : AttrMetadata) :
    Except Exn St :=
  match get_object_previous_attr s meta_key md with
  | some previous_attr => object_reference_dec_list s (md.references previous_attr.m_attr.value)
  | none => .ok s

/-- `meta_generic_validation_post_set`. -/
def meta_generic_validation_post_set (s : St) (meta_key : sai_object_meta_key_t)
    (attr : sai_attribute_t) : Except Exn St :=
  match M.sai_metadata_get_attr_metadata meta_key.objecttype attr.id with
  | none => .error .crash
  | some md =>
    if inPostSet md.attrvaluetype then do
      let s ← releasePrevious s meta_key md
      let s ← object_reference_inc_list s (md.references attr.value)
      set_object M s meta_key md attr
    else .error .unsupported

/-! ### Recording a get -/

/-- The types that `meta_generic_validation_post_get` supports. -/
def inPostGet : sai_attr_value_type_t → Bool
  | .ACL_FIELD_DATA .UINT8_LIST => false
  | _ => true

/-- An object id that was not known is from now on, and so is its object.  The text of the
key throws for entries that have none. -/
def snoop (s : St) (oid : sai_object_id_t) : Except Exn St :=
  let ot := sai_object_type_query M.toSaiMetadata oid
  if oid = SAI_NULL_OBJECT_ID ∨ ot.1 = SAI_OBJECT_TYPE_NULL ∨ object_reference_exists s oid then .ok s
  else do
    let s ← object_reference_insert s oid
    if (sai_serialize_object_meta_key M.toSaiMetadata (oidKey ot oid)).isNone then
      .error .serialize
    else if object_exists s (oidKey ot oid) then .ok s
    else create_object s (oidKey ot oid)

/-- `meta_generic_validation_post_get_objlist`: duplicates are known the second time. -/
def meta_generic_validation_post_get_objlist (s : St) (list : List sai_object_id_t) :
    Except Exn St :=
  list.foldlM (snoop M) s

/-- `meta_add_port_to_related_map`. -/
def meta_add_port_to_related_map (s : St) (port_id : sai_object_id_t)
    (list : List sai_object_id_t) : Except Exn St :=
  list.foldlM (fun s rel =>
    if rel = SAI_NULL_OBJECT_ID then .error .unexpectedNull
    else .ok { s with
      map_port_to_related_set :=
        s.map_port_to_related_set.update port_id [] (OrderedSet.insert UInt64.toNat rel) }) s

def SAI_PORT_ATTR_QOS_QUEUE_LIST : ℕ := 5
def SAI_PORT_ATTR_QOS_SCHEDULER_GROUP_LIST : ℕ := 7
def SAI_PORT_ATTR_INGRESS_PRIORITY_GROUP_LIST : ℕ := 24

/-- An attribute in `meta_post_port_get`. -/
def postPortGetAttr (port_id : sai_object_id_t) (s : St) (attr : sai_attribute_t) :
    Except Exn St :=
  if attr.id = SAI_PORT_ATTR_QOS_QUEUE_LIST ∨ attr.id = SAI_PORT_ATTR_QOS_SCHEDULER_GROUP_LIST ∨
      attr.id = SAI_PORT_ATTR_INGRESS_PRIORITY_GROUP_LIST then
    meta_add_port_to_related_map s port_id attr.value.objlist.items
  else .ok s

/-- `meta_post_port_get`. -/
def meta_post_port_get (s : St) (port_id : sai_object_id_t) (attr_list : List sai_attribute_t) :
    Except Exn St :=
  attr_list.foldlM (postPortGetAttr port_id) s

/-- An attribute in `meta_generic_validation_post_get`. -/
def postGetAttr (objecttype : sai_object_type_t) (s : St) (attr : sai_attribute_t) :
    Except Exn St :=
  match M.sai_metadata_get_attr_metadata objecttype attr.id with
  | none => .error .crash
  | some md =>
    if inPostGet md.attrvaluetype then
      meta_generic_validation_post_get_objlist M s (md.references attr.value)
    else .error .unsupported

/-- `meta_generic_validation_post_get`, which stores no attributes. -/
def meta_generic_validation_post_get (s : St) (meta_key : sai_object_meta_key_t)
    (attr_list : List sai_attribute_t) : Except Exn St := do
  let s ← attr_list.foldlM (postGetAttr M meta_key.objecttype) s
  match portId meta_key with
  | some port_id => meta_post_port_get s port_id attr_list
  | none => .ok s

end Sai.Meta
