/-
Sai/MetaValidation.lean

Validation of the calls of the metadata database: `meta_generic_validation_…`.

A validation goes through its checks and stops at the first that fails, with the status
that the call returns, or with an exception.  Validations read the database; only that of
a remove may also clear it.  What a validation has passed is what recording relies on: the
objects that attributes and entries refer to are known
(`checkValue_references`, `validate_non_object_references`).
-/
import Sonic.Sai.MetaDb

namespace Sai.Meta

open IntType Outcome

/-- `sai_status_t`, as far as statuses are told apart. -/
inductive sai_status_t where
  | SUCCESS | FAILURE | INVALID_PARAMETER | ITEM_ALREADY_EXISTS | MANDATORY_ATTRIBUTE_MISSING
  | other (code : ℤ)
  deriving DecidableEq, Repr

/-- How a validation stops. -/
inductive Stop where
  | returns (status : sai_status_t)
  | throws (e : Exn)
  deriving DecidableEq

/-- A check, which passes or stops the validation. -/
abbrev Check := Except Stop Unit

def passed : Check := .ok ()

def require (p : Prop) [Decidable p] (status : sai_status_t) : Check :=
  if p then .ok () else .error (.returns status)

def throws (e : Exn) : Check := .error (.throws e)

def MAX_LIST_COUNT : ℤ := 0x1000

variable (M : Metadata) (s : St)

/-! ### Values -/

/-- The loop of `meta_generic_validation_objlist`. -/
def objlistLoop (md : AttrMetadata) (switch_id : sai_object_id_t) :
    ℕ → List sai_object_id_t → sai_object_type_t → List sai_object_id_t → Check
  | _, _, _, [] => passed
  | i, oids, object_type, oid :: list => do
      require (oid ∉ oids) .INVALID_PARAMETER
      if oid = SAI_NULL_OBJECT_ID then do
        require (md.allownullobjectid = true) .INVALID_PARAMETER
        objlistLoop md switch_id (i + 1) oids object_type list
      else do
        let ot := sai_object_type_query M.toSaiMetadata oid
        require (ot.1 ≠ SAI_OBJECT_TYPE_NULL) .INVALID_PARAMETER
        require (ot.1 ∈ md.allowedobjecttypes) .INVALID_PARAMETER
        require (object_reference_exists s oid = true) .INVALID_PARAMETER
        -- all objects on a list are of one type
        require (1 < i → object_type = ot) .INVALID_PARAMETER
        match sai_switch_id_query M.toSaiMetadata oid with
        | none => throws .crash
        | some query_switch_id => do
            require (object_reference_exists s query_switch_id = true) .INVALID_PARAMETER
            require (query_switch_id = switch_id) .INVALID_PARAMETER
            objlistLoop md switch_id (i + 1) (oid :: oids) ot list

/-- `meta_generic_validation_objlist` of one object. -/
def validationOid (md : AttrMetadata) (switch_id oid : sai_object_id_t) : Check :=
  objlistLoop M s md switch_id 0 [] nullType [oid]

/-- `meta_generic_validation_objlist`. -/
def meta_generic_validation_objlist (md : AttrMetadata) (switch_id : sai_object_id_t)
    (objlist : SaiList sai_object_id_t) : Check := do
  require (objlist.count.1 ≤ MAX_LIST_COUNT) .INVALID_PARAMETER
  match objlist.list with
  | none => require (objlist.count.1 = 0) .INVALID_PARAMETER
  | some list => objlistLoop M s md switch_id 0 [] nullType list

/-- `meta_genetic_validation_list`. -/
def meta_genetic_validation_list {α : Type} (vlist : SaiList α) : Check := do
  require (vlist.count.1 ≤ MAX_LIST_COUNT) .INVALID_PARAMETER
  require (¬ (vlist.count.1 = 0 ∧ vlist.list.isSome)) .INVALID_PARAMETER
  require (vlist.list.isSome ∨ vlist.count.1 = 0) .INVALID_PARAMETER

def SAI_HOSTIF_NAME_SIZE : ℕ := 16

/-- The name of a host interface: not empty, not too long, and of printable characters. -/
def validationName (chardata : Inet.Bytes 32) : Check := do
  let name := (chardata.toList.take SAI_HOSTIF_NAME_SIZE).takeWhile (· ≠ 0)
  require (name.length ≠ SAI_HOSTIF_NAME_SIZE) .INVALID_PARAMETER
  require (name.length ≠ 0) .INVALID_PARAMETER
  require (∀ c ∈ name, 0x20 ≤ c ∧ c ≤ 0x7e) .INVALID_PARAMETER

def SAI_SCHEDULER_GROUP_ATTR_SCHEDULER_PROFILE_ID : ℕ := 5

/-- The value of an attribute, in `meta_generic_validation_create` and
`meta_generic_validation_set`.  The address families need no check: addresses are of one of
the two. -/
def checkValue (create : Bool) (objecttype : sai_object_type_t) (md : AttrMetadata)
    (switch_id : sai_object_id_t) (value : sai_attribute_value_t) : Check :=
  match md.attrvaluetype with
  | .CHARDATA => if create then validationName (value .CHARDATA) else throws .unsupported
  | .OBJECT_ID =>
    -- a workaround: this profile can be NULL, other than the metadata says
    if create = false ∧ objecttype.1 = SAI_OBJECT_TYPE_SCHEDULER_GROUP ∧
        md.attrid = SAI_SCHEDULER_GROUP_ATTR_SCHEDULER_PROFILE_ID ∧
        value.oid = SAI_NULL_OBJECT_ID then passed
    else validationOid M s md switch_id value.oid
  | .OBJECT_LIST => meta_generic_validation_objlist M s md switch_id value.objlist
  | .ACL_FIELD_DATA .OBJECT_ID =>
    let aclfield := value (.ACL_FIELD_DATA .OBJECT_ID)
    if aclfield.enable then validationOid M s md switch_id aclfield.data else passed
  | .ACL_FIELD_DATA .OBJECT_LIST =>
    let aclfield := value (.ACL_FIELD_DATA .OBJECT_LIST)
    if aclfield.enable then meta_generic_validation_objlist M s md switch_id aclfield.data
    else passed
  | .ACL_FIELD_DATA .UINT8_LIST => throws .unsupported
  | .ACL_ACTION_DATA .OBJECT_ID h =>
    let aclaction := value (.ACL_ACTION_DATA .OBJECT_ID h)
    if aclaction.enable then validationOid M s md switch_id aclaction.parameter else passed
  | .ACL_ACTION_DATA .OBJECT_LIST h =>
    let aclaction := value (.ACL_ACTION_DATA .OBJECT_LIST h)
    if aclaction.enable then
      meta_generic_validation_objlist M s md switch_id aclaction.parameter
    else passed
  | .UINT8_LIST => meta_genetic_validation_list (value .UINT8_LIST)
  | .INT8_LIST => meta_genetic_validation_list (value .INT8_LIST)
  | .UINT16_LIST => meta_genetic_validation_list (value .UINT16_LIST)
  | .INT16_LIST => meta_genetic_validation_list (value .INT16_LIST)
  | .UINT32_LIST => meta_genetic_validation_list (value .UINT32_LIST)
  | .INT32_LIST => meta_genetic_validation_list (value .INT32_LIST)
  | .QOS_MAP_LIST => meta_genetic_validation_list (value .QOS_MAP_LIST)
  | .ACL_RESOURCE_LIST => meta_genetic_validation_list (value .ACL_RESOURCE_LIST)
  | .IP_ADDRESS_LIST => meta_genetic_validation_list (value .IP_ADDRESS_LIST)
  | .UINT32_RANGE =>
    require ((value .UINT32_RANGE).min.1 ≤ (value .UINT32_RANGE).max.1) .INVALID_PARAMETER
  | .INT32_RANGE =>
    require ((value .INT32_RANGE).min.1 ≤ (value .INT32_RANGE).max.1) .INVALID_PARAMETER
  | .VLAN_LIST => throws .unsupported
  | .ACL_CAPABILITY =>
    if create then throws .unsupported
    else meta_genetic_validation_list (value .ACL_CAPABILITY).action_list
  | _ => passed

/-- The number that an enumeration is compared by. -/
def enumValue (md : AttrMetadata) (value : sai_attribute_value_t) : IntType.int32.Value :=
  match md.attrvaluetype with
  | .ACL_FIELD_DATA .INT32 => (value (.ACL_FIELD_DATA .INT32)).data
  | .ACL_ACTION_DATA .INT32 h => (value (.ACL_ACTION_DATA .INT32 h)).parameter
  | _ => value.s32

/-- The enumerations of a value.  The loop over the items of a list starts at the count,
and checks none. -/
def checkEnum (md : AttrMetadata) (value : sai_attribute_value_t) : Check := do
  require (md.isenum = true → md.sai_metadata_is_allowed_enum_value (enumValue md value) = true)
    .INVALID_PARAMETER
  require (md.isenumlist = true →
      (value .INT32_LIST).count.1 = 0 ∨ (value .INT32_LIST).list.isSome) .INVALID_PARAMETER

/-! ### Create -/

/-- `meta_extract_switch_id`. -/
def meta_extract_switch_id (meta_key : sai_object_meta_key_t) (switch_id : sai_object_id_t) :
    sai_object_id_t :=
  match meta_key.objectkey with
  | .object_id _ => switch_id
  | .fdb_entry entry => entry.switch_id
  | .neighbor_entry entry => entry.switch_id
  | .route_entry entry => entry.switch_id

/-- A struct member in `meta_generic_validate_non_object_on_create`. -/
def checkMember (objecttype : sai_object_type_t) (switch_id : sai_object_id_t)
    (m : sai_object_id_t × List ℤ) : Check :=
  if m.1 = SAI_NULL_OBJECT_ID then
    -- a workaround for FDB entries
    require (objecttype.1 = SAI_OBJECT_TYPE_FDB_ENTRY) .INVALID_PARAMETER
  else do
    require (object_reference_exists s m.1 = true) .INVALID_PARAMETER
    require ((sai_object_type_query M.toSaiMetadata m.1).1 ∈ m.2) .INVALID_PARAMETER
    match sai_switch_id_query M.toSaiMetadata m.1 with
    | none => throws .crash
    | some oid_switch_id => do
        require (object_reference_exists s oid_switch_id = true) .INVALID_PARAMETER
        require (switch_id = oid_switch_id) .INVALID_PARAMETER

/-- `meta_generic_validate_non_object_on_create`. -/
def meta_generic_validate_non_object_on_create (meta_key : sai_object_meta_key_t)
    (switch_id : sai_object_id_t) : Check :=
  meta_key.objectkey.structmembers.forM (checkMember M s meta_key.objecttype switch_id)

/-- The type of switches. -/
def switchType : sai_object_type_t := ⟨SAI_OBJECT_TYPE_SWITCH, by decide⟩

/-- The switch that an object is created on; a switch is on none. -/
def checkSwitch (meta_key : sai_object_meta_key_t) (switch_id : sai_object_id_t) :
    Except Stop sai_object_id_t :=
  if meta_key.objecttype.1 = SAI_OBJECT_TYPE_SWITCH then .ok SAI_NULL_OBJECT_ID
  else do
    let switch_id := meta_extract_switch_id meta_key switch_id
    require (switch_id ≠ SAI_NULL_OBJECT_ID) .INVALID_PARAMETER
    require ((sai_object_type_query M.toSaiMetadata switch_id).1 = SAI_OBJECT_TYPE_SWITCH)
      .INVALID_PARAMETER
    require (object_exists s (oidKey switchType switch_id) = true) .INVALID_PARAMETER
    require (object_reference_exists s switch_id = true) .INVALID_PARAMETER
    .ok switch_id

/-- The attributes one by one, with the ids of those before. -/
def checkAttrs (objecttype : sai_object_type_t) (switch_id : sai_object_id_t) :
    List ℕ → List sai_attribute_t → Check
  | _, [] => passed
  | attrs, attr :: attr_list =>
    match M.sai_metadata_get_attr_metadata objecttype attr.id with
    | none => .error (.returns .FAILURE)
    | some md => do
        require (attr.id ∉ attrs) .INVALID_PARAMETER
        require (md.readOnly = false) .INVALID_PARAMETER
        checkValue M s true objecttype md switch_id attr.value
        checkEnum md attr.value
        checkAttrs objecttype switch_id (attr.id :: attrs) attr_list

def SAI_BUFFER_PROFILE_ATTR_POOL_ID : ℕ := 0
def SAI_BUFFER_PROFILE_ATTR_SHARED_DYNAMIC_TH : ℕ := 3
def SAI_BUFFER_PROFILE_ATTR_SHARED_STATIC_TH : ℕ := 4
def SAI_BUFFER_POOL_ATTR_THRESHOLD_MODE : ℕ := 3
def SAI_BUFFER_POOL_THRESHOLD_MODE_STATIC : ℤ := 0
def SAI_BUFFER_POOL_THRESHOLD_MODE_DYNAMIC : ℤ := 1
def SAI_ACL_TABLE_ATTR_FIELD_ACL_RANGE_TYPE : ℕ := 0x1139

/-- The type of buffer pools. -/
def bufferPoolType : sai_object_type_t := ⟨SAI_OBJECT_TYPE_BUFFER_POOL, by decide⟩

/-- The threshold mode of a buffer pool. -/
def thresholdMode (pool_id : sai_object_id_t) : Except Stop ℤ :=
  match M.sai_metadata_get_attr_metadata bufferPoolType SAI_BUFFER_POOL_ATTR_THRESHOLD_MODE with
  | none => .error (.throws .crash)
  | some pool_md =>
    match get_object_previous_attr s (oidKey bufferPoolType pool_id) pool_md with
    | some prev => .ok prev.m_attr.value.s32.1
    | none =>
      match pool_md.defaultvalue with
      | none => .error (.throws .crash)
      | some value => .ok value.s32.1

/-- A mandatory attribute that was not passed.  The thresholds of buffer profiles depend on
the mode of their pool; the range type of ACL tables is let go. -/
def checkMissing (objecttype : sai_object_type_t) (attr_list : List sai_attribute_t)
    (md : AttrMetadata) : Check :=
  if objecttype.1 = SAI_OBJECT_TYPE_BUFFER_PROFILE ∧
      (md.attrid = SAI_BUFFER_PROFILE_ATTR_SHARED_DYNAMIC_TH ∨
        md.attrid = SAI_BUFFER_PROFILE_ATTR_SHARED_STATIC_TH) then
    match sai_metadata_get_attr_by_id SAI_BUFFER_PROFILE_ATTR_POOL_ID attr_list with
    | none => .error (.returns .MANDATORY_ATTRIBUTE_MISSING)
    | some pool_id_attr =>
      if pool_id_attr.value.oid = SAI_NULL_OBJECT_ID then passed
      else do
        let mode ← thresholdMode M s pool_id_attr.value.oid
        require (¬ (mode = SAI_BUFFER_POOL_THRESHOLD_MODE_DYNAMIC ∧
              md.attrid = SAI_BUFFER_PROFILE_ATTR_SHARED_DYNAMIC_TH ∨
            mode = SAI_BUFFER_POOL_THRESHOLD_MODE_STATIC ∧
              md.attrid = SAI_BUFFER_PROFILE_ATTR_SHARED_STATIC_TH))
          .MANDATORY_ATTRIBUTE_MISSING
  else
    require (md.attrid = SAI_ACL_TABLE_ATTR_FIELD_ACL_RANGE_TYPE ∧
      objecttype.1 = SAI_OBJECT_TYPE_ACL_TABLE) .MANDATORY_ATTRIBUTE_MISSING

/-- Was the attribute passed? -/
def isPassed (attr_list : List sai_attribute_t) (attrid : ℕ) : Bool :=
  attr_list.any (·.id = attrid)

def checkMandatory (objecttype : sai_object_type_t) (attr_list : List sai_attribute_t) : Check :=
  (M.attrmetadata objecttype).forM fun md =>
    if md.mandatoryOnCreate ∧ ¬ md.isconditional ∧ ¬ isPassed attr_list md.attrid then
      checkMissing M s objecttype attr_list md
    else passed

/-- Is one of the conditions of an attribute met? -/
def conditionMet (objecttype : sai_object_type_t) (attr_list : List sai_attribute_t) :
    List sai_attr_condition_t → Except Stop Bool
  | [] => .ok false
  | c :: conditions =>
    match M.sai_metadata_get_attr_metadata objecttype c.attrid with
    | none => .error (.throws .crash)
    | some cmd =>
      let passedValue := (sai_metadata_get_attr_by_id c.attrid attr_list).map (·.value)
      match passedValue.or cmd.defaultvalue with
      | none => .error (.throws .crash)
      | some cvalue =>
        if cmd.attrvaluetype = .BOOL then
          if c.booldata = cvalue.booldata then .ok true
          else conditionMet objecttype attr_list conditions
        else if c.s32 = enumValue cmd cvalue then .ok true
        else conditionMet objecttype attr_list conditions

/-- Conditional attributes are passed exactly if a condition is met. -/
def checkConditional (objecttype : sai_object_type_t) (attr_list : List sai_attribute_t) :
    Check :=
  (M.attrmetadata objecttype).forM fun md =>
    if md.isconditional then do
      let any ← conditionMet M objecttype attr_list md.conditions
      if any then require (isPassed attr_list md.attrid = true) .MANDATORY_ATTRIBUTE_MISSING
      else require (isPassed attr_list md.attrid = false) .INVALID_PARAMETER
    else passed

/-- No other object has the same key attributes. -/
def checkKeys (objecttype : sai_object_type_t) (attr_list : List sai_attribute_t) : Check :=
  if hasKeys M objecttype attr_list then
    match construct_key M objecttype attr_list with
    | .error e => throws e
    | .ok key => require (∀ e ∈ s.AttributeKeys.entries, e.2 ≠ key) .INVALID_PARAMETER
  else passed

/-- An entry is not there yet; an object that is created has no id yet. -/
def checkNotThere (meta_key : sai_object_meta_key_t) : Check :=
  match meta_key.objectkey with
  | .object_id _ => passed
  | _ => require (object_exists s meta_key = false) .ITEM_ALREADY_EXISTS

/-- `meta_generic_validation_create`. -/
def meta_generic_validation_create (meta_key : sai_object_meta_key_t)
    (switch_id : sai_object_id_t) (attr_list : List sai_attribute_t) : Check := do
  require (attr_list.length ≤ MAX_LIST_COUNT) .INVALID_PARAMETER
  let switch_id ← checkSwitch M s meta_key switch_id
  meta_generic_validate_non_object_on_create M s meta_key switch_id
  checkAttrs M s meta_key.objecttype switch_id [] attr_list
  checkNotThere s meta_key
  require (M.attrmetadata meta_key.objecttype ≠ []) .FAILURE
  checkMandatory M s meta_key.objecttype attr_list
  checkConditional M meta_key.objecttype attr_list
  checkKeys M s meta_key.objecttype attr_list

/-! ### Set and get -/

/-- The switch that a set is validated for. -/
def setSwitch (meta_key : sai_object_meta_key_t) : Except Stop sai_object_id_t :=
  match meta_key.objectkey with
  | .object_id oid =>
    match sai_switch_id_query M.toSaiMetadata oid with
    | none => .error (.throws .crash)
    | some switch_id => do
        require (object_reference_exists s switch_id = true) .INVALID_PARAMETER
        .ok switch_id
  | _ => .ok (meta_extract_switch_id meta_key SAI_NULL_OBJECT_ID)

/-- The object of a set or get is there, and is of the type of the function. -/
def checkThere (meta_key : sai_object_meta_key_t) : Check := do
  require (object_exists s meta_key = true) .INVALID_PARAMETER
  match meta_key.objectkey with
  | .object_id oid => do
      let object_type := sai_object_type_query M.toSaiMetadata oid
      require (object_type.1 ≠ SAI_OBJECT_TYPE_NULL) .INVALID_PARAMETER
      require (object_type = meta_key.objecttype) .INVALID_PARAMETER
  | _ => passed

/-- `meta_generic_validation_set`, where the unit tests are not enabled. -/
def meta_generic_validation_set (meta_key : sai_object_meta_key_t) (attr : sai_attribute_t) :
    Check :=
  match M.sai_metadata_get_attr_metadata meta_key.objecttype attr.id with
  | none => .error (.returns .FAILURE)
  | some md => do
      require (md.readOnly = false) .INVALID_PARAMETER
      require (md.createOnly = false) .INVALID_PARAMETER
      require (md.key = false) .INVALID_PARAMETER
      let switch_id ← setSwitch M s meta_key
      checkValue M s false meta_key.objecttype md switch_id attr.value
      checkEnum md attr.value
      checkThere M s meta_key

def MAXIMUM_VLAN_NUMBER : ℤ := 4094

/-- The buffer for a value, in `meta_generic_validation_get`. -/
def checkBuffer (md : AttrMetadata) (value : sai_attribute_value_t) : Check :=
  match md.attrvaluetype with
  | .OBJECT_LIST => meta_genetic_validation_list value.objlist
  | .VLAN_LIST => do
      let vlanlist := value .VLAN_LIST
      require (¬ (vlanlist.count.1 = 0 ∧ vlanlist.list.isSome)) .INVALID_PARAMETER
      require (vlanlist.list.isSome ∨ vlanlist.count.1 = 0) .INVALID_PARAMETER
      require (vlanlist.count.1 ≤ MAXIMUM_VLAN_NUMBER) .INVALID_PARAMETER
  | .ACL_FIELD_DATA .OBJECT_LIST =>
    meta_genetic_validation_list (value (.ACL_FIELD_DATA .OBJECT_LIST)).data
  | .ACL_FIELD_DATA .UINT8_LIST => throws .unsupported
  | .ACL_ACTION_DATA .OBJECT_LIST h =>
    meta_genetic_validation_list (value (.ACL_ACTION_DATA .OBJECT_LIST h)).parameter
  | .UINT8_LIST => meta_genetic_validation_list (value .UINT8_LIST)
  | .INT8_LIST => meta_genetic_validation_list (value .INT8_LIST)
  | .UINT16_LIST => meta_genetic_validation_list (value .UINT16_LIST)
  | .INT16_LIST => meta_genetic_validation_list (value .INT16_LIST)
  | .UINT32_LIST => meta_genetic_validation_list (value .UINT32_LIST)
  | .INT32_LIST => meta_genetic_validation_list (value .INT32_LIST)
  | .QOS_MAP_LIST => meta_genetic_validation_list (value .QOS_MAP_LIST)
  | .ACL_RESOURCE_LIST => meta_genetic_validation_list (value .ACL_RESOURCE_LIST)
  | .IP_ADDRESS_LIST => meta_genetic_validation_list (value .IP_ADDRESS_LIST)
  | .ACL_CAPABILITY => meta_genetic_validation_list (value .ACL_CAPABILITY).action_list
  | .IP_PREFIX => throws .unsupported
  | _ => passed

/-- `meta_generic_validation_get`. -/
def meta_generic_validation_get (meta_key : sai_object_meta_key_t)
    (attr_list : List sai_attribute_t) : Check := do
  require (1 ≤ attr_list.length) .INVALID_PARAMETER
  require (attr_list.length ≤ MAX_LIST_COUNT) .INVALID_PARAMETER
  attr_list.forM fun attr =>
    match M.sai_metadata_get_attr_metadata meta_key.objecttype attr.id with
    | none => .error (.returns .FAILURE)
    | some md => checkBuffer md attr.value
  checkThere M s meta_key

/-! ### Remove -/

/-- An attribute in `meta_is_object_in_default_state`: object ids have to be NULL. -/
def isDefault (w : SaiAttrWrapper) : Bool :=
  if w.m_meta.readOnly then true
  else if ¬ w.m_meta.isoidattribute then true
  else
    match w.m_meta.attrvaluetype with
    | .OBJECT_ID => w.m_attr.value.oid = SAI_NULL_OBJECT_ID
    | .OBJECT_LIST => w.m_attr.value.objlist.items.all (· = SAI_NULL_OBJECT_ID)
    | _ => false

/-- `meta_is_object_in_default_state`. -/
def meta_is_object_in_default_state (oid : sai_object_id_t) : Except Exn Bool :=
  if oid = SAI_NULL_OBJECT_ID then .error .unexpectedNull
  else if ¬ object_reference_exists s oid then .ok false
  else
    let meta_key := oidKey (sai_object_type_query M.toSaiMetadata oid) oid
    if (sai_serialize_object_meta_key M.toSaiMetadata meta_key).isNone then .error .serialize
    else
      match s.ObjectAttrHash.lookup meta_key with
      | none => .ok false
      | some attrs => .ok (attrs.entries.all fun e => isDefault e.2)

/-- The port, or one of its related objects, in `meta_port_remove_validation`. -/
def checkRemovable (oid : sai_object_id_t) : Except Exn Bool := do
  let count ← object_reference_count s oid
  if count ≠ 0 then .ok false else meta_is_object_in_default_state M s oid

/-- The loop of `meta_port_remove_validation`. -/
def checkRelated : List sai_object_id_t → Except Exn sai_status_t
  | [] => .ok .SUCCESS
  | oid :: related => do
      let removable ← checkRemovable M s oid
      if removable then checkRelated related else .ok .FAILURE

/-- `meta_port_remove_validation`. -/
def meta_port_remove_validation (port_id : sai_object_id_t) : Except Exn sai_status_t :=
  match s.map_port_to_related_set.lookup port_id with
  -- no queues, priority groups or scheduler groups were queried
  | none => .ok .SUCCESS
  | some related => checkRelated M s (port_id :: related)

/-- `meta_generic_validation_remove`.  Removing a switch that is referred to clears the
database. -/
def meta_generic_validation_remove (meta_key : sai_object_meta_key_t) :
    Except Exn (sai_status_t × St) :=
  if ¬ object_exists s meta_key then .ok (.INVALID_PARAMETER, s)
  else
    match meta_key.objectkey with
    | .object_id oid =>
      let object_type := sai_object_type_query M.toSaiMetadata oid
      if oid = SAI_NULL_OBJECT_ID ∨ object_type.1 = SAI_OBJECT_TYPE_NULL ∨
          object_type ≠ meta_key.objecttype then .ok (.INVALID_PARAMETER, s)
      else
        match s.ObjectReferences.lookup oid with
        | none => .ok (.INVALID_PARAMETER, s)
        | some count =>
          if count ≠ 0 then
            if object_type.1 = SAI_OBJECT_TYPE_SWITCH then .ok (.SUCCESS, meta_init_db)
            else .ok (.INVALID_PARAMETER, s)
          else if meta_key.objecttype.1 = SAI_OBJECT_TYPE_PORT then do
            let status ← meta_port_remove_validation M s oid
            .ok (status, s)
          else .ok (.SUCCESS, s)
    | _ => .ok (.SUCCESS, s)

/-! ### How validations stop -/

variable {M s}

/-- An exception that is FATAL, or a status that is none of failure. -/
def Stop.IsBad (stop : Stop) : Prop :=
  (∃ e, stop = .throws e ∧ e.IsFatal) ∨ stop = .returns .SUCCESS

/-- A validation that throws nothing that is FATAL, and returns no success where it stops. -/
def Quiet {α : Type} (check : Except Stop α) : Prop := Safe Stop.IsBad (fun _ => True) check

theorem Quiet.bind {α β : Type} {check : Except Stop α} {next : α → Except Stop β}
    (h : Quiet check) (hnext : ∀ a, Quiet (next a)) : Quiet (check >>= next) :=
  Safe.bind h fun a _ _ => hnext a

theorem quiet_ok {α : Type} {a : α} : Quiet (.ok a) := trivial

/-- A status that says that something failed. -/
class Failing (status : sai_status_t) : Prop where
  ne_success : status ≠ .SUCCESS

instance : Failing .FAILURE := ⟨by decide⟩
instance : Failing .INVALID_PARAMETER := ⟨by decide⟩
instance : Failing .ITEM_ALREADY_EXISTS := ⟨by decide⟩
instance : Failing .MANDATORY_ATTRIBUTE_MISSING := ⟨by decide⟩

theorem quiet_returns {α : Type} {status : sai_status_t} [Failing status] :
    Quiet (.error (.returns status) : Except Stop α) := by
  rintro (⟨e, he, -⟩ | hsuccess)
  · cases he
  · exact Failing.ne_success (Stop.returns.inj hsuccess)

theorem quiet_throws {α : Type} {e : Exn} (h : ¬ e.IsFatal) :
    Quiet (.error (.throws e) : Except Stop α) := by
  rintro (⟨e', he, hfatal⟩ | hsuccess)
  · cases he
    exact h hfatal
  · cases hsuccess

theorem quiet_require {p : Prop} [Decidable p] {status : sai_status_t} [Failing status] :
    Quiet (require p status) := by
  unfold require
  split
  · exact quiet_ok
  · exact quiet_returns

theorem quiet_ite {p : Prop} [Decidable p] {α : Type} {a b : Except Stop α} (ha : Quiet a)
    (hb : Quiet b) : Quiet (if p then a else b) := by
  split
  · exact ha
  · exact hb

theorem quiet_forM {α : Type} {f : α → Check} {l : List α} (h : ∀ a ∈ l, Quiet (f a)) :
    Quiet (l.forM f) := by
  induction l with
  | nil => exact quiet_ok
  | cons a l ih =>
    refine Quiet.bind (h a List.mem_cons_self) fun _ => ?_
    exact ih fun b hb => h b (List.mem_cons_of_mem _ hb)

theorem quiet_objlistLoop {md : AttrMetadata} {switch_id : sai_object_id_t} {i : ℕ}
    {oids list : List sai_object_id_t} {object_type : sai_object_type_t} :
    Quiet (objlistLoop M s md switch_id i oids object_type list) := by
  induction list generalizing i oids object_type with
  | nil => exact quiet_ok
  | cons oid list ih =>
    unfold objlistLoop
    refine quiet_require.bind fun _ => quiet_ite (quiet_require.bind fun _ => ih) ?_
    refine quiet_require.bind fun _ => quiet_require.bind fun _ => quiet_require.bind fun _ =>
      quiet_require.bind fun _ => ?_
    split
    · exact quiet_throws not_isFatal_crash
    · exact quiet_require.bind fun _ => quiet_require.bind fun _ => ih

theorem quiet_objlist {md : AttrMetadata} {switch_id : sai_object_id_t}
    {objlist : SaiList sai_object_id_t} :
    Quiet (meta_generic_validation_objlist M s md switch_id objlist) := by
  refine quiet_require.bind fun _ => ?_
  split
  · exact quiet_require
  · exact quiet_objlistLoop

theorem quiet_list {α : Type} {vlist : SaiList α} : Quiet (meta_genetic_validation_list vlist) :=
  quiet_require.bind fun _ => quiet_require.bind fun _ => quiet_require

theorem quiet_checkValue {create : Bool} {objecttype : sai_object_type_t} {md : AttrMetadata}
    {switch_id : sai_object_id_t} {value : sai_attribute_value_t} :
    Quiet (checkValue M s create objecttype md switch_id value) := by
  unfold checkValue
  split
  · refine quiet_ite ?_ (quiet_throws not_isFatal_unsupported)
    exact quiet_require.bind fun _ => quiet_require.bind fun _ => quiet_require
  · exact quiet_ite quiet_ok quiet_objlistLoop
  · exact quiet_objlist
  · exact quiet_ite quiet_objlistLoop quiet_ok
  · exact quiet_ite quiet_objlist quiet_ok
  · exact quiet_throws not_isFatal_unsupported
  · exact quiet_ite quiet_objlistLoop quiet_ok
  · exact quiet_ite quiet_objlist quiet_ok
  all_goals first
    | exact quiet_list
    | exact quiet_require
    | exact quiet_throws not_isFatal_unsupported
    | exact quiet_ite (quiet_throws not_isFatal_unsupported) quiet_list
    | exact quiet_ok

theorem quiet_checkEnum {md : AttrMetadata} {value : sai_attribute_value_t} :
    Quiet (checkEnum md value) :=
  quiet_require.bind fun _ => quiet_require

theorem quiet_checkMember {objecttype : sai_object_type_t} {switch_id : sai_object_id_t}
    {m : sai_object_id_t × List ℤ} : Quiet (checkMember M s objecttype switch_id m) := by
  refine quiet_ite quiet_require ?_
  refine quiet_require.bind fun _ => quiet_require.bind fun _ => ?_
  split
  · exact quiet_throws not_isFatal_crash
  · exact quiet_require.bind fun _ => quiet_require

theorem quiet_checkSwitch {meta_key : sai_object_meta_key_t} {switch_id : sai_object_id_t} :
    Quiet (checkSwitch M s meta_key switch_id) :=
  quiet_ite quiet_ok <| quiet_require.bind fun _ => quiet_require.bind fun _ =>
    quiet_require.bind fun _ => quiet_require.bind fun _ => quiet_ok

theorem quiet_checkAttrs {objecttype : sai_object_type_t} {switch_id : sai_object_id_t}
    {attrs : List ℕ} {attr_list : List sai_attribute_t} :
    Quiet (checkAttrs M s objecttype switch_id attrs attr_list) := by
  induction attr_list generalizing attrs with
  | nil => exact quiet_ok
  | cons attr attr_list ih =>
    unfold checkAttrs
    split
    · exact quiet_returns
    · exact quiet_require.bind fun _ => quiet_require.bind fun _ =>
        quiet_checkValue.bind fun _ => quiet_checkEnum.bind fun _ => ih

theorem quiet_thresholdMode {pool_id : sai_object_id_t} : Quiet (thresholdMode M s pool_id) := by
  unfold thresholdMode
  split
  · exact quiet_throws not_isFatal_crash
  · split
    · exact quiet_ok
    · split
      · exact quiet_throws not_isFatal_crash
      · exact quiet_ok

theorem quiet_checkMissing {objecttype : sai_object_type_t} {attr_list : List sai_attribute_t}
    {md : AttrMetadata} : Quiet (checkMissing M s objecttype attr_list md) := by
  refine quiet_ite ?_ quiet_require
  split
  · exact quiet_returns
  · exact quiet_ite quiet_ok (quiet_thresholdMode.bind fun _ => quiet_require)

theorem quiet_conditionMet {objecttype : sai_object_type_t} {attr_list : List sai_attribute_t}
    {conditions : List sai_attr_condition_t} :
    Quiet (conditionMet M objecttype attr_list conditions) := by
  induction conditions with
  | nil => exact quiet_ok
  | cons c conditions ih =>
    unfold conditionMet
    split
    · exact quiet_throws not_isFatal_crash
    · dsimp only
      split
      · exact quiet_throws not_isFatal_crash
      · exact quiet_ite (quiet_ite quiet_ok ih) (quiet_ite quiet_ok ih)

theorem quiet_checkKeys {objecttype : sai_object_type_t} {attr_list : List sai_attribute_t} :
    Quiet (checkKeys M s objecttype attr_list) := by
  refine quiet_ite ?_ quiet_ok
  split
  · next e he => exact quiet_throws (construct_key_safe.not_bad he)
  · exact quiet_require

theorem quiet_checkNotThere {meta_key : sai_object_meta_key_t} :
    Quiet (checkNotThere s meta_key) := by
  unfold checkNotThere
  split
  · exact quiet_ok
  · exact quiet_require

theorem quiet_create {meta_key : sai_object_meta_key_t} {switch_id : sai_object_id_t}
    {attr_list : List sai_attribute_t} :
    Quiet (meta_generic_validation_create M s meta_key switch_id attr_list) := by
  refine quiet_require.bind fun _ => quiet_checkSwitch.bind fun switch_id => ?_
  refine (quiet_forM fun _ _ => quiet_checkMember).bind fun _ => quiet_checkAttrs.bind fun _ =>
    quiet_checkNotThere.bind fun _ => quiet_require.bind fun _ => ?_
  refine (quiet_forM fun _ _ => quiet_ite quiet_checkMissing quiet_ok).bind fun _ => ?_
  refine (quiet_forM fun _ _ => quiet_ite ?_ quiet_ok).bind fun _ => quiet_checkKeys
  exact quiet_conditionMet.bind fun _ => quiet_ite quiet_require quiet_require

theorem quiet_checkThere {meta_key : sai_object_meta_key_t} : Quiet (checkThere M s meta_key) := by
  refine quiet_require.bind fun _ => ?_
  split
  · exact quiet_require.bind fun _ => quiet_require
  · exact quiet_ok

theorem quiet_setSwitch {meta_key : sai_object_meta_key_t} : Quiet (setSwitch M s meta_key) := by
  unfold setSwitch
  split
  · split
    · exact quiet_throws not_isFatal_crash
    · exact quiet_require.bind fun _ => quiet_ok
  · exact quiet_ok

theorem quiet_set {meta_key : sai_object_meta_key_t} {attr : sai_attribute_t} :
    Quiet (meta_generic_validation_set M s meta_key attr) := by
  unfold meta_generic_validation_set
  split
  · exact quiet_returns
  · exact quiet_require.bind fun _ => quiet_require.bind fun _ => quiet_require.bind fun _ =>
      quiet_setSwitch.bind fun _ => quiet_checkValue.bind fun _ => quiet_checkEnum.bind fun _ =>
        quiet_checkThere

theorem quiet_checkBuffer {md : AttrMetadata} {value : sai_attribute_value_t} :
    Quiet (checkBuffer md value) := by
  unfold checkBuffer
  split
  all_goals first
    | exact quiet_list
    | exact quiet_throws not_isFatal_unsupported
    | exact quiet_require.bind fun _ => quiet_require.bind fun _ => quiet_require
    | exact quiet_ok

theorem quiet_get {meta_key : sai_object_meta_key_t} {attr_list : List sai_attribute_t} :
    Quiet (meta_generic_validation_get M s meta_key attr_list) := by
  refine quiet_require.bind fun _ => quiet_require.bind fun _ => ?_
  refine (quiet_forM fun attr _ => ?_).bind fun _ => quiet_checkThere
  split
  · exact quiet_returns
  · exact quiet_checkBuffer

/-! ### What validations have passed -/

/-- What may be referred to. -/
def Known (s : St) (oid : sai_object_id_t) : Prop :=
  oid = SAI_NULL_OBJECT_ID ∨ object_reference_exists s oid = true

theorem require_eq_ok {p : Prop} [Decidable p] {status : sai_status_t} :
    require p status = .ok () ↔ p := by
  unfold require
  split
  · next h => exact iff_of_true rfl h
  · next h =>
      refine iff_of_false ?_ h
      intro hok
      cases hok

/-- A check that is followed by another one. -/
theorem check_bind {α : Type} {check : Check} {next : Unit → Except Stop α} {a : α} :
    check >>= next = .ok a ↔ check = .ok () ∧ next () = .ok a := by
  rw [bind_eq_ok]
  constructor
  · rintro ⟨_, hcheck, hnext⟩
    exact ⟨hcheck, hnext⟩
  · rintro ⟨hcheck, hnext⟩
    exact ⟨(), hcheck, hnext⟩

theorem objlistLoop_known {md : AttrMetadata} {switch_id : sai_object_id_t} {i : ℕ}
    {oids list : List sai_object_id_t} {object_type : sai_object_type_t}
    (h : objlistLoop M s md switch_id i oids object_type list = .ok ()) :
    ∀ oid ∈ list, Known s oid := by
  induction list generalizing i oids object_type with
  | nil =>
    intro oid hoid
    cases hoid
  | cons a list ih =>
    rw [objlistLoop, check_bind] at h
    obtain ⟨-, h⟩ := h
    intro oid hoid
    split at h
    · next hnull =>
        rw [check_bind] at h
        rcases List.mem_cons.mp hoid with rfl | hmem
        · exact Or.inl hnull
        · exact ih h.2 oid hmem
    · simp only [check_bind, require_eq_ok] at h
      obtain ⟨-, -, hexists, -, h⟩ := h
      split at h
      · cases h
      · simp only [check_bind] at h
        rcases List.mem_cons.mp hoid with rfl | hmem
        · exact Or.inr hexists
        · exact ih h.2.2 oid hmem

theorem objlist_known {md : AttrMetadata} {switch_id : sai_object_id_t}
    {objlist : SaiList sai_object_id_t}
    (h : meta_generic_validation_objlist M s md switch_id objlist = .ok ()) :
    ∀ oid ∈ objlist.items, Known s oid := by
  rw [meta_generic_validation_objlist, check_bind] at h
  intro oid hoid
  unfold SaiList.items at hoid
  cases hlist : objlist.list with
  | none =>
    rw [hlist] at hoid
    cases hoid
  | some list =>
    rw [hlist] at hoid h
    exact objlistLoop_known h.2 oid hoid

/-- **What a valid value refers to is known.** -/
theorem checkValue_references {create : Bool} {objecttype : sai_object_type_t}
    {md : AttrMetadata} {switch_id : sai_object_id_t} {value : sai_attribute_value_t}
    (h : checkValue M s create objecttype md switch_id value = .ok ()) :
    ∀ oid ∈ md.references value, Known s oid := by
  obtain ⟨⟨T, table⟩, _⟩ := md
  unfold checkValue at h
  intro oid hoid
  cases T with
  | OBJECT_ID =>
    obtain rfl := List.mem_singleton.mp hoid
    change (if create = false ∧ objecttype.1 = SAI_OBJECT_TYPE_SCHEDULER_GROUP ∧ _ ∧
      value.oid = SAI_NULL_OBJECT_ID then passed else _) = _ at h
    split at h
    · next hnull => exact Or.inl hnull.2.2.2
    · exact objlistLoop_known h _ List.mem_cons_self
  | OBJECT_LIST => exact objlist_known h oid hoid
  | ACL_FIELD_DATA d =>
    change oid ∈ (if _ then d.references _ else []) at hoid
    split at hoid
    · next henable =>
        cases d with
        | OBJECT_ID =>
          obtain rfl := List.mem_singleton.mp hoid
          exact objlistLoop_known ((if_pos henable).symm.trans h) _ List.mem_cons_self
        | OBJECT_LIST => exact objlist_known ((if_pos henable).symm.trans h) oid hoid
        | _ => cases hoid
    · cases hoid
  | ACL_ACTION_DATA d hd =>
    change oid ∈ (if _ then d.references _ else []) at hoid
    split at hoid
    · next henable =>
        cases d with
        | OBJECT_ID =>
          obtain rfl := List.mem_singleton.mp hoid
          exact objlistLoop_known ((if_pos henable).symm.trans h) _ List.mem_cons_self
        | OBJECT_LIST => exact objlist_known ((if_pos henable).symm.trans h) oid hoid
        | _ => cases hoid
    · cases hoid
  | _ => cases hoid

/-- A valid value is of a type that can be taken back. -/
theorem checkValue_supported {create : Bool} {objecttype ot : sai_object_type_t}
    {md : AttrMetadata} {switch_id : sai_object_id_t} {value : sai_attribute_value_t}
    (hmd : md ∈ M.attrmetadata ot) (hro : md.readOnly = false)
    (h : checkValue M s create objecttype md switch_id value = .ok ()) :
    inPostRemove md.attrvaluetype = true := by
  have hcap := M.readOnly_capability ot md hmd
  rw [hro] at hcap
  obtain ⟨⟨T, table⟩, _⟩ := md
  cases T with
  | VLAN_LIST => cases h
  | ACL_CAPABILITY => cases hcap rfl
  | ACL_FIELD_DATA d =>
    cases d with
    | UINT8_LIST => cases h
    | _ => rfl
  | _ => rfl

theorem mem_attrmetadata {objecttype : sai_object_type_t} {id : ℕ} {md : AttrMetadata}
    (h : M.sai_metadata_get_attr_metadata objecttype id = some md) :
    md ∈ M.attrmetadata objecttype := by
  unfold Metadata.sai_metadata_get_attr_metadata at h
  split at h
  · exact List.mem_of_find?_eq_some h
  · cases h

/-- **What an entry refers to is known.** -/
theorem checkMember_known {objecttype : sai_object_type_t} {switch_id : sai_object_id_t}
    {m : sai_object_id_t × List ℤ} (h : checkMember M s objecttype switch_id m = .ok ()) :
    Known s m.1 := by
  unfold checkMember at h
  split at h
  · next hnull => exact Or.inl hnull
  · rw [check_bind, require_eq_ok] at h
    exact Or.inr h.1

theorem validate_non_object_references {meta_key : sai_object_meta_key_t}
    {switch_id : sai_object_id_t}
    (h : meta_generic_validate_non_object_on_create M s meta_key switch_id = .ok ()) :
    ∀ oid ∈ meta_key.objectkey.references, Known s oid := by
  unfold meta_generic_validate_non_object_on_create at h
  unfold sai_object_key_t.references
  intro oid hoid
  obtain ⟨m, hm, rfl⟩ := List.mem_map.mp hoid
  generalize meta_key.objectkey.structmembers = members at h hm
  induction members with
  | nil => cases hm
  | cons m' members ih =>
    change (checkMember M s meta_key.objecttype switch_id m' >>= fun _ =>
      members.forM (checkMember M s meta_key.objecttype switch_id)) = _ at h
    rw [check_bind] at h
    rcases List.mem_cons.mp hm with rfl | hmem
    · exact checkMember_known h.1
    · exact ih h.2 hmem

/-- An attribute whose references are known, and which can be taken back. -/
def Recordable (M : Metadata) (s : St) (objecttype : sai_object_type_t)
    (attr : sai_attribute_t) : Prop :=
  ∀ md, M.sai_metadata_get_attr_metadata objecttype attr.id = some md →
    inPostRemove md.attrvaluetype = true ∧ ∀ oid ∈ md.references attr.value, Known s oid

/-- The attributes of a valid create: their ids are different, and each can be recorded. -/
theorem checkAttrs_spec {objecttype : sai_object_type_t} {switch_id : sai_object_id_t}
    {attrs : List ℕ} {attr_list : List sai_attribute_t}
    (h : checkAttrs M s objecttype switch_id attrs attr_list = .ok ()) :
    (attr_list.map (·.id)).Nodup ∧ (∀ attr ∈ attr_list, attr.id ∉ attrs) ∧
      ∀ attr ∈ attr_list, Recordable M s objecttype attr := by
  induction attr_list generalizing attrs with
  | nil => simp
  | cons attr attr_list ih =>
    unfold checkAttrs at h
    split at h
    · cases h
    · next md hmd =>
        simp only [check_bind, require_eq_ok] at h
        obtain ⟨hnew, hro, hvalue, -, h⟩ := h
        obtain ⟨hnodup, hseen, hknown⟩ := ih h
        refine ⟨?_, ?_, ?_⟩
        · rw [List.map_cons, List.nodup_cons]
          refine ⟨?_, hnodup⟩
          intro hmem
          obtain ⟨attr', hmem', heq⟩ := List.mem_map.mp hmem
          exact hseen attr' hmem' (heq ▸ List.mem_cons_self)
        · intro attr' hmem
          rcases List.mem_cons.mp hmem with rfl | hmem'
          · exact hnew
          · exact fun hin => hseen attr' hmem' (List.mem_cons_of_mem _ hin)
        · intro attr' hmem md' hmd'
          rcases List.mem_cons.mp hmem with rfl | hmem'
          · obtain rfl := Option.some.inj (hmd.symm.trans hmd')
            exact ⟨checkValue_supported (mem_attrmetadata hmd) hro hvalue,
              checkValue_references hvalue⟩
          · exact hknown attr' hmem' md' hmd'

/-- What a valid create has passed. -/
structure Creatable (M : Metadata) (s : St) (meta_key : sai_object_meta_key_t)
    (attr_list : List sai_attribute_t) : Prop where
  members : ∀ oid ∈ meta_key.objectkey.references, Known s oid
  nodup : (attr_list.map (·.id)).Nodup
  recordable : ∀ attr ∈ attr_list, Recordable M s meta_key.objecttype attr
  notThere : meta_key.objectkey.references ≠ [] → object_exists s meta_key = false

theorem validation_create_spec {meta_key : sai_object_meta_key_t} {switch_id : sai_object_id_t}
    {attr_list : List sai_attribute_t}
    (h : meta_generic_validation_create M s meta_key switch_id attr_list = .ok ()) :
    Creatable M s meta_key attr_list := by
  unfold meta_generic_validation_create at h
  rw [check_bind, bind_eq_ok] at h
  obtain ⟨-, switch_id, -, h⟩ := h
  simp only [check_bind] at h
  obtain ⟨hmembers, hattrs, hnot, -⟩ := h
  obtain ⟨hnodup, -, hknown⟩ := checkAttrs_spec hattrs
  refine ⟨validate_non_object_references hmembers, hnodup, hknown, ?_⟩
  intro hentry
  unfold checkNotThere at hnot
  split at hnot
  · next hoid =>
      rw [hoid] at hentry
      exact absurd rfl hentry
  · exact require_eq_ok.mp hnot

/-- What a valid set has passed. -/
theorem validation_set_spec {meta_key : sai_object_meta_key_t} {attr : sai_attribute_t}
    (h : meta_generic_validation_set M s meta_key attr = .ok ()) :
    Recordable M s meta_key.objecttype attr ∧ object_exists s meta_key = true := by
  unfold meta_generic_validation_set at h
  split at h
  · cases h
  · next md hmd =>
      rw [check_bind, check_bind, check_bind, bind_eq_ok] at h
      obtain ⟨hro, -, -, switch_id, -, h⟩ := h
      simp only [check_bind] at h
      obtain ⟨hvalue, -, hthere⟩ := h
      rw [checkThere, check_bind, require_eq_ok] at hthere
      refine ⟨fun md' hmd' => ?_, hthere.1⟩
      obtain rfl := Option.some.inj (hmd.symm.trans hmd')
      exact ⟨checkValue_supported (mem_attrmetadata hmd) (require_eq_ok.mp hro) hvalue,
        checkValue_references hvalue⟩

end Sai.Meta
