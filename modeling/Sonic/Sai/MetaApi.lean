/-
Sai/MetaApi.lean

The calls of the metadata database: `meta_sai_create_…`, `meta_sai_remove_…`,
`meta_sai_set_…`, `meta_sai_get_…`, and FDB events.

A call is validated, then the vendor is called, then the call is recorded.  What the vendor
answers is an input of the call: a status, the id of the new object, the values that were
asked for.  A call returns a status with the new database, or throws.
-/
import Sonic.Sai.MetaValidation
import Sonic.Lib.Transition

namespace Sai.Meta

open IntType Outcome

variable (M : Metadata) (s : St)

/-- What a call returns. -/
abbrev Result := Except Exn (sai_status_t × St)

/-- Go on if a validation passed. -/
def validated (check : Check) (next : Result) : Result :=
  match check with
  | .ok () => next
  | .error (.returns status) => .ok (status, s)
  | .error (.throws e) => .error e

/-- Record a call if the vendor succeeded. -/
def recorded (status : sai_status_t) (post : Except Exn St) : Result :=
  if status = .SUCCESS then do
    let s ← post
    .ok (status, s)
  else .ok (status, s)

/-- A remove whose id or entry was validated. -/
def removeValidated (meta_key : sai_object_meta_key_t) (status : sai_status_t) : Result := do
  let (verdict, s) ← meta_generic_validation_remove M s meta_key
  if verdict ≠ .SUCCESS then .ok (verdict, s)
  else recorded s status (meta_generic_validation_post_remove M s meta_key)

/-! ### Objects with ids -/

/-- `meta_sai_validate_oid`; nothing is known of an id that is to be created. -/
def meta_sai_validate_oid (object_type : sai_object_type_t) (object_id : Option sai_object_id_t) :
    Check := do
  require (SAI_OBJECT_TYPE_NULL < object_type.1 ∧ object_type.1 < M.extensionsMax)
    .INVALID_PARAMETER
  if M.isnonobjectid object_type then throws .unsupported
  else
    match object_id with
    | none => passed
    | some oid => do
        require (oid ≠ SAI_NULL_OBJECT_ID) .INVALID_PARAMETER
        let ot := sai_object_type_query M.toSaiMetadata oid
        require (ot.1 ≠ SAI_OBJECT_TYPE_NULL) .INVALID_PARAMETER
        require (ot = object_type) .INVALID_PARAMETER
        require (object_exists s (oidKey object_type oid) = true) .INVALID_PARAMETER

/-- `meta_sai_create_oid`, where the vendor answers with a status and an id. -/
def meta_sai_create_oid (object_type : sai_object_type_t) (switch_id : sai_object_id_t)
    (attr_list : List sai_attribute_t) (status : sai_status_t) (object_id : sai_object_id_t) :
    Result :=
  validated s (meta_sai_validate_oid M s object_type none) <|
    validated s (meta_generic_validation_create M s (oidKey object_type SAI_NULL_OBJECT_ID)
        switch_id attr_list) <|
      -- the switch of a switch is itself
      let switch_id := if object_type.1 = SAI_OBJECT_TYPE_SWITCH then object_id else switch_id
      recorded s status
        (meta_generic_validation_post_create M s (oidKey object_type object_id) switch_id attr_list)

/-- `meta_sai_remove_oid`. -/
def meta_sai_remove_oid (object_type : sai_object_type_t) (object_id : sai_object_id_t)
    (status : sai_status_t) : Result :=
  validated s (meta_sai_validate_oid M s object_type object_id) <|
    removeValidated M s (oidKey object_type object_id) status

/-- `meta_sai_set_oid`. -/
def meta_sai_set_oid (object_type : sai_object_type_t) (object_id : sai_object_id_t)
    (attr : sai_attribute_t) (status : sai_status_t) : Result :=
  validated s (meta_sai_validate_oid M s object_type object_id) <|
    validated s (meta_generic_validation_set M s (oidKey object_type object_id) attr) <|
      recorded s status
        (meta_generic_validation_post_set M s (oidKey object_type object_id) attr)

/-- `meta_sai_get_oid`, where the vendor answers with a status and the attributes. -/
def meta_sai_get_oid (object_type : sai_object_type_t) (object_id : sai_object_id_t)
    (attr_list : List sai_attribute_t) (status : sai_status_t) (reply : List sai_attribute_t) :
    Result :=
  validated s (meta_sai_validate_oid M s object_type object_id) <|
    validated s (meta_generic_validation_get M s (oidKey object_type object_id) attr_list) <|
      recorded s status
        (meta_generic_validation_post_get M s (oidKey object_type object_id) reply)

/-! ### Entries -/

/-- The key of an entry has a text. -/
def checkText (meta_key : sai_object_meta_key_t) : Check :=
  if (sai_serialize_object_meta_key M.toSaiMetadata meta_key).isNone then throws .serialize
  else passed

/-- An entry that is to be created is not there, another one is. -/
def checkEntry (meta_key : sai_object_meta_key_t) (create : Bool) : Check := do
  checkText M meta_key
  if create then require (object_exists s meta_key = false) .ITEM_ALREADY_EXISTS
  else require (object_exists s meta_key = true) .INVALID_PARAMETER

/-- `meta_sai_validate_fdb_entry`. -/
def meta_sai_validate_fdb_entry (fdb_entry : sai_fdb_entry_t) (create : Bool) : Check :=
  checkEntry M s (fdbKey fdb_entry) create

/-- The object in an entry exists and is of its type. -/
def checkEntryMember (oid : sai_object_id_t) (expected : sai_object_type_t) : Check := do
  require (oid ≠ SAI_NULL_OBJECT_ID) .INVALID_PARAMETER
  let object_type := sai_object_type_query M.toSaiMetadata oid
  require (object_type.1 ≠ SAI_OBJECT_TYPE_NULL) .INVALID_PARAMETER
  require (object_type = expected) .INVALID_PARAMETER
  require (object_exists s (oidKey expected oid) = true) .INVALID_PARAMETER

/-- `meta_sai_validate_neighbor_entry`. -/
def meta_sai_validate_neighbor_entry (neighbor_entry : sai_neighbor_entry_t) (create : Bool) :
    Check := do
  checkEntryMember M s neighbor_entry.rif_id ⟨SAI_OBJECT_TYPE_ROUTER_INTERFACE, by decide⟩
  checkEntry M s (neighborKey neighbor_entry) create

/-- `is_ipv6_mask_valid`: no bit after a zero. -/
def is_ipv6_mask_valid (mask : Inet.Bytes 16) : Bool := (get_ip_mask mask).isSome

/-- `meta_sai_validate_route_entry`. -/
def meta_sai_validate_route_entry (route_entry : sai_route_entry_t) (create : Bool) : Check := do
  match route_entry.destination with
  | .ipv4 _ _ => passed
  | .ipv6 _ mask => require (is_ipv6_mask_valid mask = true) .INVALID_PARAMETER
  checkEntryMember M s route_entry.vr_id ⟨SAI_OBJECT_TYPE_VIRTUAL_ROUTER, by decide⟩
  checkEntry M s (routeEntryKey route_entry) create

/-- `meta_sai_create_…_entry`, by its validation. -/
def createEntry (check : Check) (meta_key : sai_object_meta_key_t) (switch_id : sai_object_id_t)
    (attr_list : List sai_attribute_t) (status : sai_status_t) : Result :=
  validated s check <|
    validated s (meta_generic_validation_create M s meta_key switch_id attr_list) <|
      recorded s status (meta_generic_validation_post_create M s meta_key switch_id attr_list)

/-- `meta_sai_remove_…_entry`, by its validation. -/
def removeEntry (check : Check) (meta_key : sai_object_meta_key_t) (status : sai_status_t) :
    Result :=
  validated s check (removeValidated M s meta_key status)

/-- `meta_sai_set_…_entry`, by its validation. -/
def setEntry (check : Check) (meta_key : sai_object_meta_key_t) (attr : sai_attribute_t)
    (status : sai_status_t) : Result :=
  validated s check <|
    validated s (meta_generic_validation_set M s meta_key attr) <|
      recorded s status (meta_generic_validation_post_set M s meta_key attr)

/-- `meta_sai_get_…_entry`, by its validation. -/
def getEntry (check : Check) (meta_key : sai_object_meta_key_t) (attr_list : List sai_attribute_t)
    (status : sai_status_t) (reply : List sai_attribute_t) : Result :=
  validated s check <|
    validated s (meta_generic_validation_get M s meta_key attr_list) <|
      recorded s status (meta_generic_validation_post_get M s meta_key reply)

def meta_sai_create_fdb_entry (fdb_entry : sai_fdb_entry_t) (attr_list : List sai_attribute_t)
    (status : sai_status_t) : Result :=
  createEntry M s (meta_sai_validate_fdb_entry M s fdb_entry true) (fdbKey fdb_entry)
    fdb_entry.switch_id attr_list status

def meta_sai_remove_fdb_entry (fdb_entry : sai_fdb_entry_t) (status : sai_status_t) : Result :=
  removeEntry M s (meta_sai_validate_fdb_entry M s fdb_entry false) (fdbKey fdb_entry) status

def meta_sai_set_fdb_entry (fdb_entry : sai_fdb_entry_t) (attr : sai_attribute_t)
    (status : sai_status_t) : Result :=
  setEntry M s (meta_sai_validate_fdb_entry M s fdb_entry false) (fdbKey fdb_entry) attr status

/-- `meta_sai_get_fdb_entry`: the entry may be missing in the database, up to
`meta_generic_validation_get`. -/
def meta_sai_get_fdb_entry (fdb_entry : sai_fdb_entry_t) (attr_list : List sai_attribute_t)
    (status : sai_status_t) (reply : List sai_attribute_t) : Result :=
  getEntry M s (checkText M (fdbKey fdb_entry)) (fdbKey fdb_entry) attr_list status reply

def meta_sai_create_neighbor_entry (neighbor_entry : sai_neighbor_entry_t) (attr_list : List sai_attribute_t)
    (status : sai_status_t) : Result :=
  createEntry M s (meta_sai_validate_neighbor_entry M s neighbor_entry true) (neighborKey neighbor_entry)
    neighbor_entry.switch_id attr_list status

def meta_sai_remove_neighbor_entry (neighbor_entry : sai_neighbor_entry_t) (status : sai_status_t) : Result :=
  removeEntry M s (meta_sai_validate_neighbor_entry M s neighbor_entry false) (neighborKey neighbor_entry) status

def meta_sai_set_neighbor_entry (neighbor_entry : sai_neighbor_entry_t) (attr : sai_attribute_t)
    (status : sai_status_t) : Result :=
  setEntry M s (meta_sai_validate_neighbor_entry M s neighbor_entry false) (neighborKey neighbor_entry) attr status

def meta_sai_get_neighbor_entry (neighbor_entry : sai_neighbor_entry_t)
    (attr_list : List sai_attribute_t) (status : sai_status_t) (reply : List sai_attribute_t) :
    Result :=
  getEntry M s (meta_sai_validate_neighbor_entry M s neighbor_entry false) (neighborKey neighbor_entry)
    attr_list status reply

def meta_sai_create_route_entry (route_entry : sai_route_entry_t) (attr_list : List sai_attribute_t)
    (status : sai_status_t) : Result :=
  createEntry M s (meta_sai_validate_route_entry M s route_entry true) (routeEntryKey route_entry)
    route_entry.switch_id attr_list status

def meta_sai_remove_route_entry (route_entry : sai_route_entry_t) (status : sai_status_t) : Result :=
  removeEntry M s (meta_sai_validate_route_entry M s route_entry false) (routeEntryKey route_entry) status

def meta_sai_set_route_entry (route_entry : sai_route_entry_t) (attr : sai_attribute_t)
    (status : sai_status_t) : Result :=
  setEntry M s (meta_sai_validate_route_entry M s route_entry false) (routeEntryKey route_entry) attr status

def meta_sai_get_route_entry (route_entry : sai_route_entry_t)
    (attr_list : List sai_attribute_t) (status : sai_status_t) (reply : List sai_attribute_t) :
    Result :=
  getEntry M s (meta_sai_validate_route_entry M s route_entry false) (routeEntryKey route_entry)
    attr_list status reply

/-- An entry of one of the three types. -/
inductive Entry where
  | fdb (fdb_entry : sai_fdb_entry_t)
  | neighbor (neighbor_entry : sai_neighbor_entry_t)
  | route (route_entry : sai_route_entry_t)
  deriving DecidableEq

def Entry.key : Entry → sai_object_meta_key_t
  | .fdb fdb_entry => fdbKey fdb_entry
  | .neighbor neighbor_entry => neighborKey neighbor_entry
  | .route route_entry => routeEntryKey route_entry

/-! ### FDB events -/

inductive sai_fdb_event_t where
  | LEARNED | AGED | MOVE | FLUSHED
  /-- any other number -/
  | other
  deriving DecidableEq, Repr

structure sai_fdb_event_notification_data_t where
  event_type : sai_fdb_event_t
  fdb_entry : sai_fdb_entry_t
  attr : List sai_attribute_t

def SAI_FDB_ENTRY_ATTR_TYPE : ℕ := 0
def SAI_FDB_ENTRY_ATTR_BRIDGE_PORT_ID : ℕ := 3
def SAI_FDB_ENTRY_TYPE_DYNAMIC : IntType.int32.Value := ⟨0, by decide⟩

def zero_mac : sai_mac_t := List.Vector.replicate 6 0

/-- The bridge port of a flush, if it is given and not NULL, is that of the entry. -/
def portMatches (bpid : Option sai_attribute_t) (attrs : Table ℕ SaiAttrWrapper) : Bool :=
  match bpid with
  | none => true
  | some bpid =>
    bpid.value.oid = SAI_NULL_OBJECT_ID ∨
      (attrs.lookup SAI_FDB_ENTRY_ATTR_BRIDGE_PORT_ID).map (·.m_attr.value.oid)
        = some bpid.value.oid

/-- The vlan or bridge of a flush, if it is not NULL, is that of the entry. -/
def bvMatches (data : sai_fdb_event_notification_data_t) (fdb_entry : sai_fdb_entry_t) : Bool :=
  data.fdb_entry.bv_id = SAI_NULL_OBJECT_ID ∨ data.fdb_entry.bv_id = fdb_entry.bv_id

/-- An object in `meta_sai_on_fdb_flush_event_consolidated`: is it an FDB entry that is
flushed?  An FDB entry without a type throws. -/
def flushes (data : sai_fdb_event_notification_data_t) (bpid : Option sai_attribute_t)
    (type : sai_attribute_t) (meta_key : sai_object_meta_key_t) (attrs : Table ℕ SaiAttrWrapper) :
    Except Exn Bool :=
  match meta_key.objectkey with
  | .fdb_entry fdb_entry =>
    match attrs.lookup SAI_FDB_ENTRY_ATTR_TYPE with
    | none => .error .crash
    | some w =>
      .ok (decide (w.m_attr.value.s32 = type.value.s32) && portMatches bpid attrs &&
        bvMatches data fdb_entry)
  | _ => .ok false

/-- The objects that are flushed, in some order. -/
def toremove (data : sai_fdb_event_notification_data_t) (bpid : Option sai_attribute_t)
    (type : sai_attribute_t) :
    List (Sigma fun _ : sai_object_meta_key_t => Table ℕ SaiAttrWrapper) →
      Except Exn (List sai_object_meta_key_t)
  | [] => .ok []
  | e :: objects => do
      let flushed ← flushes data bpid type e.1 e.2
      let keys ← toremove data bpid type objects
      .ok (if flushed then e.1 :: keys else keys)

/-- `meta_sai_on_fdb_flush_event_consolidated`, which reads the type without asking whether
there is one. -/
def meta_sai_on_fdb_flush_event_consolidated (data : sai_fdb_event_notification_data_t) :
    Except Exn St :=
  let bpid := sai_metadata_get_attr_by_id SAI_FDB_ENTRY_ATTR_BRIDGE_PORT_ID data.attr
  match sai_metadata_get_attr_by_id SAI_FDB_ENTRY_ATTR_TYPE data.attr with
  | none => .error .crash
  | some type => do
      let keys ← toremove data bpid type s.ObjectAttrHash.entries
      keys.foldlM (meta_generic_validation_post_remove M) s

theorem fdbType_valid : IntType.int32.min ≤ SAI_OBJECT_TYPE_FDB_ENTRY ∧
    SAI_OBJECT_TYPE_FDB_ENTRY ≤ IntType.int32.max := by decide

/-- The type of FDB entries. -/
def fdbType : sai_object_type_t := ⟨SAI_OBJECT_TYPE_FDB_ENTRY, fdbType_valid⟩

/-- The object ids of an event are known from now on. -/
def snoopEvent (data : sai_fdb_event_notification_data_t) : Except Exn St := do
  let s ← snoop M s data.fdb_entry.bv_id
  data.attr.foldlM (fun s attr =>
    match M.sai_metadata_get_attr_metadata fdbType attr.id with
    | none => .ok s
    | some md => if md.attrvaluetype = .OBJECT_ID then snoop M s attr.value.oid else .ok s) s

/-- The attribute `SAI_FDB_ENTRY_ATTR_TYPE` that learned entries get. -/
def dynamicAttr (local0 : sai_attribute_t) : sai_attribute_t :=
  ⟨SAI_FDB_ENTRY_ATTR_TYPE, Function.update local0.value .INT32 SAI_FDB_ENTRY_TYPE_DYNAMIC⟩

/-- The attributes that a learned entry is created with: one attribute alone is taken for
the bridge port, and the type is added. -/
def learnedAttrs : List sai_attribute_t → List sai_attribute_t
  | [local0] => [local0, dynamicAttr local0]
  | list => list

/-- An attribute of a MOVE event: it is set, if it can be. -/
def moveAttr (meta_key : sai_object_meta_key_t) (s : St) (attr : sai_attribute_t) :
    Except Exn St :=
  match meta_generic_validation_set M s meta_key attr with
  | .ok () => meta_generic_validation_post_set M s meta_key attr
  | .error (.returns _) => .ok s
  | .error (.throws e) => .error e

/-- `meta_sai_on_fdb_event_single`. -/
def meta_sai_on_fdb_event_single (data : sai_fdb_event_notification_data_t) : Except Exn St := do
  let meta_key := fdbKey data.fdb_entry
  let s ← snoopEvent M s data
  match data.event_type with
  | .LEARNED =>
    if object_exists s meta_key then .ok s
    else
      let list := learnedAttrs data.attr
      match meta_generic_validation_create M s meta_key data.fdb_entry.switch_id list with
      | .ok () =>
        meta_generic_validation_post_create M s meta_key data.fdb_entry.switch_id list
      | .error (.returns _) => .ok s
      | .error (.throws e) => .error e
  | .AGED =>
    if object_exists s meta_key then meta_generic_validation_post_remove M s meta_key else .ok s
  | .FLUSHED =>
    if data.fdb_entry.mac_address = zero_mac then meta_sai_on_fdb_flush_event_consolidated M s data
    else if object_exists s meta_key then meta_generic_validation_post_remove M s meta_key
    else .ok s
  | .MOVE =>
    if object_exists s meta_key then data.attr.foldlM (moveAttr M meta_key) s else .ok s
  | .other => .ok s

/-! ### Runs -/

/-- A call, with the answer of the vendor. -/
inductive Call where
  | create_oid (object_type : sai_object_type_t) (switch_id : sai_object_id_t)
      (attr_list : List sai_attribute_t) (status : sai_status_t) (object_id : sai_object_id_t)
  | remove_oid (object_type : sai_object_type_t) (object_id : sai_object_id_t)
      (status : sai_status_t)
  | set_oid (object_type : sai_object_type_t) (object_id : sai_object_id_t)
      (attr : sai_attribute_t) (status : sai_status_t)
  | get_oid (object_type : sai_object_type_t) (object_id : sai_object_id_t)
      (attr_list : List sai_attribute_t) (status : sai_status_t) (reply : List sai_attribute_t)
  | create_entry (entry : Entry) (attr_list : List sai_attribute_t) (status : sai_status_t)
  | remove_entry (entry : Entry) (status : sai_status_t)
  | set_entry (entry : Entry) (attr : sai_attribute_t) (status : sai_status_t)
  | get_entry (entry : Entry) (attr_list : List sai_attribute_t) (status : sai_status_t)
      (reply : List sai_attribute_t)
  | fdb_event (data : sai_fdb_event_notification_data_t)

/-- What a call does; an event has no status. -/
def perform : Call → Result
  | .create_oid object_type switch_id attr_list status object_id =>
    meta_sai_create_oid M s object_type switch_id attr_list status object_id
  | .remove_oid object_type object_id status => meta_sai_remove_oid M s object_type object_id status
  | .set_oid object_type object_id attr status =>
    meta_sai_set_oid M s object_type object_id attr status
  | .get_oid object_type object_id attr_list status reply =>
    meta_sai_get_oid M s object_type object_id attr_list status reply
  | .create_entry (.fdb entry) attr_list status => meta_sai_create_fdb_entry M s entry attr_list status
  | .create_entry (.neighbor entry) attr_list status => meta_sai_create_neighbor_entry M s entry attr_list status
  | .create_entry (.route entry) attr_list status => meta_sai_create_route_entry M s entry attr_list status
  | .remove_entry (.fdb entry) status => meta_sai_remove_fdb_entry M s entry status
  | .remove_entry (.neighbor entry) status => meta_sai_remove_neighbor_entry M s entry status
  | .remove_entry (.route entry) status => meta_sai_remove_route_entry M s entry status
  | .set_entry (.fdb entry) attr status => meta_sai_set_fdb_entry M s entry attr status
  | .set_entry (.neighbor entry) attr status => meta_sai_set_neighbor_entry M s entry attr status
  | .set_entry (.route entry) attr status => meta_sai_set_route_entry M s entry attr status
  | .get_entry (.fdb entry) attr_list status reply => meta_sai_get_fdb_entry M s entry attr_list status reply
  | .get_entry (.neighbor entry) attr_list status reply => meta_sai_get_neighbor_entry M s entry attr_list status reply
  | .get_entry (.route entry) attr_list status reply => meta_sai_get_route_entry M s entry attr_list status reply
  | .fdb_event data => (meta_sai_on_fdb_event_single M s data).map fun s => (.SUCCESS, s)

/-- A call that returns. -/
def Step (s : St) (call : Call) (s' : St) : Prop := ∃ status, perform M s call = .ok (status, s')

end Sai.Meta
