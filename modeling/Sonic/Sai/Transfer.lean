/-
Sai/Transfer.lean

Copying an attribute value to the caller: `transfer_attribute` (saiserialize.cpp).

The caller's value has lists of the lengths that its counts say.  A list that fits is copied
and its count is set; of one that does not fit only the count is set, and the status says so
(`Faithful`).  Three cases do otherwise: a list without room is taken as a question for the
count, the masked lists of an ACL field are copied without a look at the status of the second
one, and of an ACL field of 32 bits only the low half is copied
(`transfer_attribute_faithful_iff`).
-/
import Sonic.Sai.AttrValue

namespace Sai.Transfer

open IntType

/-! ### Destinations -/

/-- A list of the caller: the count, and the memory behind the pointer. -/
structure Buffer (α : Type) where
  count : IntType.uint32.Value
  list : Option (List α)

def buffer {α : Type} (l : SaiList α) : Buffer α := ⟨l.count, l.list⟩

/-- ACL data of the caller. -/
def AclDest : AclDataType → Type
  | .OBJECT_LIST => Buffer sai_object_id_t
  | .UINT8_LIST => Buffer IntType.uint8.Value
  | d => d.Data

/-- The mask of an ACL field of the caller. -/
def AclMaskDest : AclDataType → Type
  | .BOOL | .OBJECT_ID | .OBJECT_LIST => Unit
  | d => AclDest d

structure AclFieldDest (d : AclDataType) where
  enable : Bool
  data : AclDest d
  mask : AclMaskDest d

structure AclActionDest (d : AclDataType) where
  enable : Bool
  parameter : AclDest d

structure AclCapabilityDest where
  is_action_list_mandatory : Bool
  action_list : Buffer IntType.int32.Value

/-- The values of the caller after a transfer. -/
def Dest : sai_attr_value_type_t → Type
  | .OBJECT_LIST => Buffer sai_object_id_t
  | .UINT8_LIST => Buffer IntType.uint8.Value
  | .INT8_LIST => Buffer IntType.int8.Value
  | .UINT16_LIST => Buffer IntType.uint16.Value
  | .INT16_LIST => Buffer IntType.int16.Value
  | .UINT32_LIST => Buffer IntType.uint32.Value
  | .INT32_LIST => Buffer IntType.int32.Value
  | .VLAN_LIST => Buffer IntType.uint16.Value
  | .QOS_MAP_LIST => Buffer sai_qos_map_t
  | .ACL_RESOURCE_LIST => Buffer sai_acl_resource_t
  | .IP_ADDRESS_LIST => Buffer sai_ip_address_t
  | .ACL_FIELD_DATA d => AclFieldDest d
  | .ACL_ACTION_DATA d _ => AclActionDest d
  | .ACL_CAPABILITY => AclCapabilityDest
  | T => T.Value

inductive sai_status_t
  | SUCCESS | BUFFER_OVERFLOW | FAILURE
deriving DecidableEq

/-- What a transfer comes to: the caller's value and a status, an exception, or a write behind
the end of a list. -/
inductive Outcome (α : Type)
  | returned (dst : α) (status : sai_status_t)
  | throws
  | undefined

namespace Outcome

variable {α β : Type}

def map (f : α → β) : Outcome α → Outcome β
  | returned dst status => returned (f dst) status
  | throws => throws
  | undefined => undefined

/-- `RETURN_ON_ERROR`: `first` is the value to return with an error, and `next` goes on. -/
def returnOnError (o : Outcome α) (first : α → β) (next : α → Outcome β) : Outcome β :=
  match o with
  | returned dst status => if status ≠ .SUCCESS then returned (first dst) status else next dst
  | throws => throws
  | undefined => undefined

end Outcome

/-! ### The transfer -/

variable {α : Type}

/-- `transfer_primitive`: the destination becomes the source. -/
def transfer_primitive (src _dst : α) : α := src

/-- The loop of `transfer_list`; `none` is a write behind the end. -/
def copyItems : List α → List α → Option (List α)
  | [], dst => some dst
  | _ :: _, [] => none
  | item :: src, item' :: dst => (copyItems src dst).map (transfer_primitive item item' :: ·)

/-- `transfer_list` -/
def transfer_list (src dst : SaiList α) (countOnly : Bool) : Outcome (Buffer α) :=
  if countOnly = true ∨ dst.count.1 = 0 then
    .returned ⟨transfer_primitive src.count dst.count, dst.list⟩ .SUCCESS
  else
    match dst.list with
    | none => .returned (buffer dst) .FAILURE
    | some items =>
      if src.count.1 ≤ dst.count.1 then
        if src.list.isNone ∧ 0 < src.count.1 then .throws
        else
          match copyItems (src.list.getD []) items with
          | none => .undefined
          | some items => .returned ⟨transfer_primitive src.count dst.count, some items⟩ .SUCCESS
      else .returned ⟨transfer_primitive src.count dst.count, some items⟩ .BUFFER_OVERFLOW

/-- `transfer_primitive` of the member `u16` of a union that holds 32 bits, on a host with the
low half first. -/
def transferLow (src dst : IntType.uint32.Value) : IntType.uint32.Value :=
  IntType.uint32.cast (dst.1 / 2 ^ 16 * 2 ^ 16 + src.1 % 2 ^ 16)

/-- The cases `SAI_ATTR_VALUE_TYPE_ACL_FIELD_DATA_…` of `transfer_attribute`. -/
def transferAclField (d : AclDataType) (src dst : sai_acl_field_data_t d) (countOnly : Bool) :
    Outcome (AclFieldDest d) :=
  let enable := transfer_primitive src.enable dst.enable
  match d, src, dst with
  | .BOOL, src, dst | .OBJECT_ID, src, dst =>
    .returned ⟨enable, transfer_primitive src.data dst.data, ()⟩ .SUCCESS
  | .UINT8, src, dst | .INT8, src, dst | .UINT16, src, dst | .INT16, src, dst | .INT32, src, dst
  | .MAC, src, dst | .IPV4, src, dst | .IPV6, src, dst =>
    .returned
      ⟨enable, transfer_primitive src.data dst.data, transfer_primitive src.mask dst.mask⟩
      .SUCCESS
  | .UINT32, src, dst =>
    .returned ⟨enable, transferLow src.data dst.data, transferLow src.mask dst.mask⟩ .SUCCESS
  | .OBJECT_LIST, src, dst =>
    (transfer_list src.data dst.data countOnly).map fun data => ⟨enable, data, ()⟩
  | .UINT8_LIST, src, dst =>
    (transfer_list src.mask dst.mask countOnly).returnOnError
      (fun mask => ⟨enable, buffer dst.data, mask⟩)
      fun mask =>
        -- the status of the data is not looked at
        match transfer_list src.data dst.data countOnly with
        | .returned data _ => .returned ⟨enable, data, mask⟩ .SUCCESS
        | .throws => .throws
        | .undefined => .undefined

/-- The cases `SAI_ATTR_VALUE_TYPE_ACL_ACTION_DATA_…`. -/
def transferAclAction (d : AclDataType) (hd : d ≠ .UINT8_LIST) (src dst : sai_acl_action_data_t d)
    (countOnly : Bool) : Outcome (AclActionDest d) :=
  let enable := transfer_primitive src.enable dst.enable
  match d, hd, src, dst with
  | .BOOL, _, src, dst | .UINT8, _, src, dst | .INT8, _, src, dst | .UINT16, _, src, dst
  | .INT16, _, src, dst | .UINT32, _, src, dst | .INT32, _, src, dst | .MAC, _, src, dst
  | .IPV4, _, src, dst | .IPV6, _, src, dst | .OBJECT_ID, _, src, dst =>
    .returned ⟨enable, transfer_primitive src.parameter dst.parameter⟩ .SUCCESS
  | .OBJECT_LIST, _, src, dst =>
    (transfer_list src.parameter dst.parameter countOnly).map fun parameter => ⟨enable, parameter⟩

/-- `transfer_attribute` -/
def transfer_attribute (T : sai_attr_value_type_t) (src dst : T.Value) (countOnly : Bool) :
    Outcome (Dest T) :=
  match T, src, dst with
  | .BOOL, src, dst | .CHARDATA, src, dst | .UINT8, src, dst | .INT8, src, dst
  | .UINT16, src, dst | .INT16, src, dst | .UINT32, src, dst | .INT32, src, dst
  | .UINT64, src, dst | .INT64, src, dst | .MAC, src, dst | .IPV4, src, dst | .IPV6, src, dst
  | .POINTER, src, dst | .IP_ADDRESS, src, dst | .IP_PREFIX, src, dst | .OBJECT_ID, src, dst
  | .UINT32_RANGE, src, dst | .INT32_RANGE, src, dst =>
    .returned (transfer_primitive src dst) .SUCCESS
  | .OBJECT_LIST, src, dst | .UINT8_LIST, src, dst | .INT8_LIST, src, dst
  | .UINT16_LIST, src, dst | .INT16_LIST, src, dst | .UINT32_LIST, src, dst
  | .INT32_LIST, src, dst | .VLAN_LIST, src, dst | .QOS_MAP_LIST, src, dst
  | .ACL_RESOURCE_LIST, src, dst | .IP_ADDRESS_LIST, src, dst =>
    transfer_list src dst countOnly
  | .ACL_FIELD_DATA d, src, dst => transferAclField d src dst countOnly
  | .ACL_ACTION_DATA d hd, src, dst => transferAclAction d hd src dst countOnly
  | .ACL_CAPABILITY, src, dst =>
    (transfer_list src.action_list dst.action_list countOnly).map fun action_list =>
      ⟨transfer_primitive src.is_action_list_mandatory dst.is_action_list_mandatory, action_list⟩

/-! ### The property -/

/-- A transfer that succeeds if everything fits, with a value that `holds` the source, and tells
the caller what is `counted` if something does not. -/
def Result {β : Type} (fits : Prop) (holds counted : β → Prop) (o : Outcome β) : Prop :=
  (fits → ∃ dst, o = .returned dst .SUCCESS ∧ holds dst) ∧
    (¬ fits → ∃ dst, o = .returned dst .BUFFER_OVERFLOW ∧ counted dst)

/-- The list fits in the caller's list. -/
def ListFits (src dst : SaiList α) : Prop := src.count.1 ≤ dst.count.1

/-- The caller's list has the count and the items of the source. -/
def ListHolds (src : SaiList α) (dst : Buffer α) : Prop :=
  dst.count = src.count ∧ (src.count.1 ≠ 0 → dst.list.isSome) ∧
    (dst.list.getD []).take src.count.1.toNat = src.list.getD []

/-- If the list does not fit, then the caller is told its count. -/
def ListCounted (src dst : SaiList α) (dst' : Buffer α) : Prop :=
  ¬ ListFits src dst → dst'.count = src.count

def AclFits : (d : AclDataType) → d.Data → d.Data → Prop
  | .OBJECT_LIST, src, dst | .UINT8_LIST, src, dst => ListFits src dst
  | _, _, _ => True

def AclHolds : (d : AclDataType) → d.Data → AclDest d → Prop
  | .OBJECT_LIST, src, dst | .UINT8_LIST, src, dst => ListHolds src dst
  | .BOOL, src, dst | .UINT8, src, dst | .INT8, src, dst | .UINT16, src, dst | .INT16, src, dst
  | .UINT32, src, dst | .INT32, src, dst | .MAC, src, dst | .IPV4, src, dst | .IPV6, src, dst
  | .OBJECT_ID, src, dst => dst = src

def AclCounted : (d : AclDataType) → d.Data → d.Data → AclDest d → Prop
  | .OBJECT_LIST, src, dst, dst' | .UINT8_LIST, src, dst, dst' => ListCounted src dst dst'
  | _, _, _, _ => True

def MaskFits : (d : AclDataType) → d.Mask → d.Mask → Prop
  | .UINT8_LIST, src, dst => ListFits src dst
  | _, _, _ => True

def MaskHolds : (d : AclDataType) → d.Mask → AclMaskDest d → Prop
  | .UINT8_LIST, src, dst => ListHolds src dst
  | .BOOL, _, _ | .OBJECT_ID, _, _ | .OBJECT_LIST, _, _ => True
  | .UINT8, src, dst | .INT8, src, dst | .UINT16, src, dst | .INT16, src, dst
  | .UINT32, src, dst | .INT32, src, dst | .MAC, src, dst | .IPV4, src, dst
  | .IPV6, src, dst => dst = src

def MaskCounted : (d : AclDataType) → d.Mask → d.Mask → AclMaskDest d → Prop
  | .UINT8_LIST, src, dst, dst' => ListCounted src dst dst'
  | _, _, _, _ => True

/-- Every list of the value fits in the caller's. -/
def Fits : (T : sai_attr_value_type_t) → T.Value → T.Value → Prop
  | .OBJECT_LIST, src, dst | .UINT8_LIST, src, dst | .INT8_LIST, src, dst
  | .UINT16_LIST, src, dst | .INT16_LIST, src, dst | .UINT32_LIST, src, dst
  | .INT32_LIST, src, dst | .VLAN_LIST, src, dst | .QOS_MAP_LIST, src, dst
  | .ACL_RESOURCE_LIST, src, dst | .IP_ADDRESS_LIST, src, dst => ListFits src dst
  | .ACL_FIELD_DATA d, src, dst => AclFits d src.data dst.data ∧ MaskFits d src.mask dst.mask
  | .ACL_ACTION_DATA d _, src, dst => AclFits d src.parameter dst.parameter
  | .ACL_CAPABILITY, src, dst => ListFits src.action_list dst.action_list
  | _, _, _ => True

/-- The caller's value is the source, in every field that the type uses. -/
def Holds : (T : sai_attr_value_type_t) → T.Value → Dest T → Prop
  | .OBJECT_LIST, src, dst | .UINT8_LIST, src, dst | .INT8_LIST, src, dst
  | .UINT16_LIST, src, dst | .INT16_LIST, src, dst | .UINT32_LIST, src, dst
  | .INT32_LIST, src, dst | .VLAN_LIST, src, dst | .QOS_MAP_LIST, src, dst
  | .ACL_RESOURCE_LIST, src, dst | .IP_ADDRESS_LIST, src, dst => ListHolds src dst
  | .ACL_FIELD_DATA d, src, dst =>
    dst.enable = src.enable ∧ AclHolds d src.data dst.data ∧ MaskHolds d src.mask dst.mask
  | .ACL_ACTION_DATA d _, src, dst =>
    dst.enable = src.enable ∧ AclHolds d src.parameter dst.parameter
  | .ACL_CAPABILITY, src, dst =>
    dst.is_action_list_mandatory = src.is_action_list_mandatory ∧
      ListHolds src.action_list dst.action_list
  | .BOOL, src, dst | .CHARDATA, src, dst | .UINT8, src, dst | .INT8, src, dst
  | .UINT16, src, dst | .INT16, src, dst | .UINT32, src, dst | .INT32, src, dst
  | .UINT64, src, dst | .INT64, src, dst | .MAC, src, dst | .IPV4, src, dst | .IPV6, src, dst
  | .POINTER, src, dst | .IP_ADDRESS, src, dst | .IP_PREFIX, src, dst | .OBJECT_ID, src, dst
  | .UINT32_RANGE, src, dst | .INT32_RANGE, src, dst => dst = src

/-- The caller is told the count of every list that does not fit. -/
def Counted : (T : sai_attr_value_type_t) → T.Value → T.Value → Dest T → Prop
  | .OBJECT_LIST, src, dst, dst' | .UINT8_LIST, src, dst, dst' | .INT8_LIST, src, dst, dst'
  | .UINT16_LIST, src, dst, dst' | .INT16_LIST, src, dst, dst' | .UINT32_LIST, src, dst, dst'
  | .INT32_LIST, src, dst, dst' | .VLAN_LIST, src, dst, dst' | .QOS_MAP_LIST, src, dst, dst'
  | .ACL_RESOURCE_LIST, src, dst, dst' | .IP_ADDRESS_LIST, src, dst, dst' =>
    ListCounted src dst dst'
  | .ACL_FIELD_DATA d, src, dst, dst' =>
    AclCounted d src.data dst.data dst'.data ∧ MaskCounted d src.mask dst.mask dst'.mask
  | .ACL_ACTION_DATA d _, src, dst, dst' => AclCounted d src.parameter dst.parameter dst'.parameter
  | .ACL_CAPABILITY, src, dst, dst' =>
    ListCounted src.action_list dst.action_list dst'.action_list
  | _, _, _, _ => True

/-- **A transfer is faithful**: it copies the value if every list fits; otherwise it reports
that, and the counts.  No write behind the end of a list is either of the two. -/
def Faithful (T : sai_attr_value_type_t) (src dst : T.Value) (o : Outcome (Dest T)) : Prop :=
  Result (Fits T src dst) (Holds T src) (Counted T src dst) o

/-! ### The condition -/

/-- A list that is transferred as claimed: the caller's list has room for an item if there is
one, it is not NULL if it has room, and a list that is NULL and is to be copied is empty. -/
def ListMeets (src dst : SaiList α) : Prop :=
  (dst.count.1 = 0 → src.count.1 = 0) ∧ (dst.count.1 ≠ 0 → dst.list.isSome) ∧
    (src.list = none → src.count.1 = 0 ∨ dst.count.1 < src.count.1)

/-- The high halves are the same. -/
def SameHigh (src dst : IntType.uint32.Value) : Prop := src.1 / 2 ^ 16 = dst.1 / 2 ^ 16

def AclFieldMeets : (d : AclDataType) → sai_acl_field_data_t d → sai_acl_field_data_t d → Prop
  | .UINT32, src, dst => SameHigh src.data dst.data ∧ SameHigh src.mask dst.mask
  | .OBJECT_LIST, src, dst => ListMeets src.data dst.data
  | .UINT8_LIST, src, dst =>
    ListMeets src.mask dst.mask ∧ ListFits src.data dst.data ∧
      (ListFits src.mask dst.mask → ListMeets src.data dst.data)
  | _, _, _ => True

def AclActionMeets : (d : AclDataType) → d ≠ .UINT8_LIST → sai_acl_action_data_t d →
    sai_acl_action_data_t d → Prop
  | .OBJECT_LIST, _, src, dst => ListMeets src.parameter dst.parameter
  | _, _, _, _ => True

/-- The condition of a transfer, by the type. -/
def Meets : (T : sai_attr_value_type_t) → T.Value → T.Value → Prop
  | .OBJECT_LIST, src, dst | .UINT8_LIST, src, dst | .INT8_LIST, src, dst
  | .UINT16_LIST, src, dst | .INT16_LIST, src, dst | .UINT32_LIST, src, dst
  | .INT32_LIST, src, dst | .VLAN_LIST, src, dst | .QOS_MAP_LIST, src, dst
  | .ACL_RESOURCE_LIST, src, dst | .IP_ADDRESS_LIST, src, dst => ListMeets src dst
  | .ACL_FIELD_DATA d, src, dst => AclFieldMeets d src dst
  | .ACL_ACTION_DATA d hd, src, dst => AclActionMeets d hd src dst
  | .ACL_CAPABILITY, src, dst => ListMeets src.action_list dst.action_list
  | _, _, _ => True

/-! ### Lists -/

variable {β : Type} {fits : Prop} {holds counted : α → Prop} {holds' counted' : β → Prop}
  {o : Outcome α} {f : α → β} {src dst : SaiList α}

theorem copyItems_eq {items room : List α} (h : items.length ≤ room.length) :
    copyItems items room = some (items ++ room.drop items.length) := by
  induction items generalizing room with
  | nil => rfl
  | cons item items ih =>
    cases room with
    | nil => exact absurd h (Nat.not_succ_le_zero _)
    | cons item' room =>
      rw [copyItems, ih (Nat.le_of_succ_le_succ h)]
      rfl

/-- A value is put around the result. -/
theorem result_map (hholds : ∀ a, holds' (f a) ↔ holds a)
    (hcounted : ∀ a, counted' (f a) ↔ counted a) :
    Result fits holds' counted' (o.map f) ↔ Result fits holds counted o := by
  have hstatus : ∀ (P' : β → Prop) (P : α → Prop) (status : sai_status_t),
      (∀ a, P' (f a) ↔ P a) →
        ((∃ dst, o.map f = .returned dst status ∧ P' dst) ↔
          ∃ dst, o = .returned dst status ∧ P dst) := by
    intro P' P status hP
    cases o with
    | returned a status' =>
      constructor
      · rintro ⟨dst, heq, hdst⟩
        obtain ⟨rfl, rfl⟩ := Outcome.returned.inj heq
        exact ⟨a, rfl, (hP a).mp hdst⟩
      · rintro ⟨dst, heq, hdst⟩
        obtain ⟨rfl, rfl⟩ := Outcome.returned.inj heq
        exact ⟨f a, rfl, (hP a).mpr hdst⟩
    | throws => exact iff_of_false (fun ⟨_, h, _⟩ => nomatch h) fun ⟨_, h, _⟩ => nomatch h
    | undefined => exact iff_of_false (fun ⟨_, h, _⟩ => nomatch h) fun ⟨_, h, _⟩ => nomatch h
  exact and_congr (imp_congr_right fun _ => hstatus _ _ _ hholds)
    (imp_congr_right fun _ => hstatus _ _ _ hcounted)

/-- A value without lists is returned. -/
theorem result_returned {a : α} (hfits : fits) :
    Result fits holds counted (.returned a .SUCCESS) ↔ holds a := by
  constructor
  · intro h
    obtain ⟨dst, heq, hdst⟩ := h.1 hfits
    obtain ⟨rfl, -⟩ := Outcome.returned.inj heq
    exact hdst
  · intro h
    exact ⟨fun _ => ⟨a, rfl, h⟩, fun hno => absurd hfits hno⟩

/-- What `transfer_list` does with a list that fits, if the condition is met. -/
theorem transfer_list_of_fits (hmeets : ListMeets src dst) (hfits : ListFits src dst) :
    ∃ dst', transfer_list src dst false = .returned dst' .SUCCESS ∧ ListHolds src dst' := by
  obtain ⟨hzero, hnull, hsrc⟩ := hmeets
  rw [transfer_list]
  by_cases hroom : dst.count.1 = 0
  · rw [if_pos (.inr hroom)]
    refine ⟨_, rfl, rfl, fun hno => absurd (hzero hroom) hno, ?_⟩
    have hempty : src.list.getD [] = [] := by
      cases hlist : src.list with
      | none => rfl
      | some items =>
        have hlen := src.length_eq items hlist
        rw [hzero hroom] at hlen
        rw [Option.getD_some]
        exact List.eq_nil_of_length_eq_zero (by omega)
    rw [hempty, hzero hroom]
    rfl
  · rw [if_neg (by simp [hroom])]
    obtain ⟨room, hlist⟩ := Option.isSome_iff_exists.mp (hnull hroom)
    have hlen := dst.length_eq room hlist
    have hfits' : src.count.1 ≤ dst.count.1 := hfits
    rw [hlist]
    dsimp only
    rw [if_pos hfits']
    have hsome : ¬ (src.list.isNone = true ∧ 0 < src.count.1) := by
      rintro ⟨hnone, hpos⟩
      rcases hsrc (Option.isNone_iff_eq_none.mp hnone) with h | h
      · omega
      · exact absurd hfits (not_le.mpr h)
    have hitems : (src.list.getD []).length = src.count.1.toNat := by
      cases hsrcs : src.list with
      | none =>
        have hcount : src.count.1 ≤ 0 := by
          by_contra hpos
          exact hsome ⟨by rw [hsrcs]; rfl, by omega⟩
        show 0 = _
        omega
      | some items =>
        have hlen' := src.length_eq items hsrcs
        show items.length = _
        omega
    rw [if_neg hsome, copyItems_eq (by omega)]
    refine ⟨_, rfl, rfl, fun _ => rfl, ?_⟩
    show ((src.list.getD []) ++ _).take _ = _
    rw [← hitems, List.take_left]

theorem transfer_list_of_not_fits (hmeets : ListMeets src dst) (hfits : ¬ ListFits src dst) :
    ∃ dst', transfer_list src dst false = .returned dst' .BUFFER_OVERFLOW ∧
      dst'.count = src.count := by
  obtain ⟨hzero, hnull, -⟩ := hmeets
  have hroom : dst.count.1 ≠ 0 := by
    intro hroom
    exact hfits (by rw [ListFits, hzero hroom, hroom])
  obtain ⟨room, hlist⟩ := Option.isSome_iff_exists.mp (hnull hroom)
  have hfits' : ¬ src.count.1 ≤ dst.count.1 := hfits
  rw [transfer_list, if_neg (by simp [hroom]), hlist]
  dsimp only
  rw [if_neg hfits']
  exact ⟨_, rfl, rfl⟩

/-- The ways in which a list is not transferred as claimed. -/
theorem transfer_list_of_not_meets (h : ¬ ListMeets src dst) :
    (¬ ListFits src dst ∧ ∃ dst', transfer_list src dst false = .returned dst' .SUCCESS) ∨
      (dst.count.1 ≠ 0 ∧ dst.list = none ∧
        transfer_list src dst false = .returned (buffer dst) .FAILURE) ∨
      transfer_list src dst false = .throws := by
  by_cases hroom : dst.count.1 = 0
  · left
    have hpos : src.count.1 ≠ 0 := by
      intro hzero
      exact h ⟨fun _ => hzero, fun hno => absurd hroom hno, fun _ => .inl hzero⟩
    have hmin : 0 ≤ src.count.1 := src.count.2.1
    refine ⟨?_, ?_⟩
    · rw [ListFits, hroom]
      omega
    · rw [transfer_list, if_pos (.inr hroom)]
      exact ⟨_, rfl⟩
  · right
    rw [transfer_list, if_neg (by simp [hroom])]
    cases hlist : dst.list with
    | none => exact .inl ⟨hroom, rfl, rfl⟩
    | some room =>
      right
      -- the list has room, so it is the source that is NULL
      have hsrc : ¬ (src.list = none → src.count.1 = 0 ∨ dst.count.1 < src.count.1) := by
        intro hsrc
        exact h ⟨fun hno => absurd hno hroom, fun _ => by rw [hlist]; rfl, hsrc⟩
      obtain ⟨hnull, hcount⟩ := Classical.not_imp.mp hsrc
      rw [not_or, not_lt] at hcount
      have hmin : 0 ≤ src.count.1 := src.count.2.1
      dsimp only
      rw [if_pos hcount.2, if_pos ⟨by rw [hnull]; rfl, by omega⟩]

/-- **A list is transferred as claimed exactly if the condition is met.** -/
theorem transfer_list_result :
    Result (ListFits src dst) (ListHolds src) (ListCounted src dst) (transfer_list src dst false) ↔
      ListMeets src dst := by
  constructor
  · intro h
    by_contra hmeets
    rcases transfer_list_of_not_meets hmeets with ⟨hfits, dst', hdst⟩ | ⟨-, -, hfail⟩ | hthrows
    · obtain ⟨d, heq, -⟩ := h.2 hfits
      rw [hdst] at heq
      cases heq
    · by_cases hfits : ListFits src dst
      · obtain ⟨d, heq, -⟩ := h.1 hfits
        rw [hfail] at heq
        cases heq
      · obtain ⟨d, heq, -⟩ := h.2 hfits
        rw [hfail] at heq
        cases heq
    · by_cases hfits : ListFits src dst
      · obtain ⟨d, heq, -⟩ := h.1 hfits
        rw [hthrows] at heq
        cases heq
      · obtain ⟨d, heq, -⟩ := h.2 hfits
        rw [hthrows] at heq
        cases heq
  · intro hmeets
    refine ⟨transfer_list_of_fits hmeets, fun hfits => ?_⟩
    obtain ⟨d, heq, hcount⟩ := transfer_list_of_not_fits hmeets hfits
    exact ⟨d, heq, fun _ => hcount⟩

/-- The same with a value put around the list. -/
theorem result_list {f : Buffer α → β} (hfits : fits ↔ ListFits src dst)
    (hholds : ∀ a, holds' (f a) ↔ ListHolds src a)
    (hcounted : ∀ a, counted' (f a) ↔ ListCounted src dst a) :
    Result fits holds' counted' ((transfer_list src dst false).map f) ↔ ListMeets src dst := by
  rw [result_map hholds hcounted, propext hfits]
  exact transfer_list_result

/-! ### ACL fields -/

theorem transferLow_eq_iff {src dst : IntType.uint32.Value} :
    transferLow src dst = src ↔ SameHigh src dst := by
  have hsrc : 0 ≤ src.1 ∧ src.1 ≤ 4294967295 := src.2
  have hdst : 0 ≤ dst.1 ∧ dst.1 ≤ 4294967295 := dst.2
  have hrange : IntType.uint32.min ≤ dst.1 / 2 ^ 16 * 2 ^ 16 + src.1 % 2 ^ 16 ∧
      dst.1 / 2 ^ 16 * 2 ^ 16 + src.1 % 2 ^ 16 ≤ IntType.uint32.max := by
    show 0 ≤ dst.1 / 2 ^ 16 * 2 ^ 16 + src.1 % 2 ^ 16 ∧
      dst.1 / 2 ^ 16 * 2 ^ 16 + src.1 % 2 ^ 16 ≤ 4294967295
    omega
  rw [Subtype.ext_iff, transferLow, val_cast hrange, SameHigh]
  constructor
  · intro h
    omega
  · intro h
    omega

/-- What the masked lists of an ACL field come to. -/
theorem transferAclField_masked {src dst : sai_acl_field_data_t .UINT8_LIST} :
    transferAclField .UINT8_LIST src dst false =
      (transfer_list src.mask dst.mask false).returnOnError
        (fun mask => ⟨src.enable, buffer dst.data, mask⟩)
        fun mask =>
          match transfer_list src.data dst.data false with
          | .returned data _ => .returned ⟨src.enable, data, mask⟩ .SUCCESS
          | .throws => .throws
          | .undefined => .undefined := rfl

/-- A masked list: the mask is transferred as claimed, the data fits, and it is transferred as
claimed if it is its turn. -/
theorem transfer_masked_result (src dst : sai_acl_field_data_t .UINT8_LIST) :
    Faithful (.ACL_FIELD_DATA .UINT8_LIST) src dst (transferAclField .UINT8_LIST src dst false) ↔
      AclFieldMeets .UINT8_LIST src dst := by
  rw [transferAclField_masked]
  constructor
  · rintro ⟨hfits, hover⟩
    have hmask : ListMeets src.mask dst.mask := by
      by_contra hmeets
      rcases transfer_list_of_not_meets hmeets with ⟨hno, m, hm⟩ | ⟨-, -, hm⟩ | hm
      · obtain ⟨d, heq, -⟩ := hover fun h => hno h.2
        rw [hm] at heq
        simp only [Outcome.returnOnError] at heq
        revert heq
        cases transfer_list src.data dst.data false <;> nofun
      · rw [hm] at hfits hover
        by_cases h : Fits (.ACL_FIELD_DATA .UINT8_LIST) src dst
        · obtain ⟨d, heq, -⟩ := hfits h
          cases heq
        · obtain ⟨d, heq, -⟩ := hover h
          cases heq
      · rw [hm] at hfits hover
        by_cases h : Fits (.ACL_FIELD_DATA .UINT8_LIST) src dst
        · obtain ⟨d, heq, -⟩ := hfits h
          cases heq
        · obtain ⟨d, heq, -⟩ := hover h
          cases heq
    have hdata : ListFits src.data dst.data := by
      by_contra hno
      obtain ⟨d, heq, hcounted, -⟩ := hover fun h => hno h.1
      by_cases hmfits : ListFits src.mask dst.mask
      · -- the status of the data is not returned
        obtain ⟨m, hm, -⟩ := transfer_list_of_fits hmask hmfits
        rw [hm] at heq
        simp only [Outcome.returnOnError] at heq
        revert heq
        cases transfer_list src.data dst.data false <;> nofun
      · -- the data is not looked at
        obtain ⟨m, hm, -⟩ := transfer_list_of_not_fits hmask hmfits
        rw [hm] at heq
        obtain ⟨rfl, -⟩ := Outcome.returned.inj heq
        have hcount : dst.data.count = src.data.count := hcounted hno
        exact hno (le_of_eq (congrArg Subtype.val hcount.symm))
    refine ⟨hmask, hdata, fun hmfits => ?_⟩
    by_contra hmeets
    obtain ⟨m, hm, -⟩ := transfer_list_of_fits hmask hmfits
    obtain ⟨d, heq, -, hholds, -⟩ := hfits ⟨hdata, hmfits⟩
    rw [hm] at heq
    rcases transfer_list_of_not_meets hmeets with ⟨hno, -⟩ | ⟨hroom, hnull, hd⟩ | hd
    · exact hno hdata
    · rw [hd] at heq
      obtain ⟨rfl, -⟩ := Outcome.returned.inj heq
      obtain ⟨hcount, hsome, -⟩ := hholds
      have hcount' : dst.data.count = src.data.count := hcount
      have hlist : (dst.data.list).isSome = true := hsome (by rw [← hcount']; exact hroom)
      rw [hnull] at hlist
      cases hlist
    · rw [hd] at heq
      cases heq
  · rintro ⟨hmask, hdata, hturn⟩
    by_cases hmfits : ListFits src.mask dst.mask
    · obtain ⟨m, hm, hmholds⟩ := transfer_list_of_fits hmask hmfits
      obtain ⟨d, hd, hdholds⟩ := transfer_list_of_fits (hturn hmfits) hdata
      rw [hm, hd]
      exact (result_returned (show Fits (.ACL_FIELD_DATA .UINT8_LIST) src dst from
        ⟨hdata, hmfits⟩)).mpr ⟨rfl, hdholds, hmholds⟩
    · obtain ⟨m, hm, hmcount⟩ := transfer_list_of_not_fits hmask hmfits
      rw [hm]
      refine ⟨fun h => absurd h.2 hmfits, fun _ => ⟨_, rfl, ?_, fun _ => hmcount⟩⟩
      exact fun hno => absurd hdata hno

/-! ### All types -/

theorem transferAclField_result (d : AclDataType) (src dst : sai_acl_field_data_t d) :
    Faithful (.ACL_FIELD_DATA d) src dst (transferAclField d src dst false) ↔
      AclFieldMeets d src dst := by
  cases d with
  | UINT8_LIST => exact transfer_masked_result src dst
  | OBJECT_LIST =>
    refine result_list ⟨fun h => h.1, fun h => ⟨h, trivial⟩⟩ (fun a => ?_) fun a => ?_
    · exact ⟨fun h => h.2.1, fun h => ⟨rfl, h, trivial⟩⟩
    · exact ⟨fun h => h.1, fun h => ⟨h, trivial⟩⟩
  | UINT32 =>
    refine (result_returned ⟨trivial, trivial⟩).trans ?_
    constructor
    · exact fun h => ⟨transferLow_eq_iff.mp h.2.1, transferLow_eq_iff.mp h.2.2⟩
    · exact fun h => ⟨rfl, transferLow_eq_iff.mpr h.1, transferLow_eq_iff.mpr h.2⟩
  | BOOL | OBJECT_ID =>
    exact (result_returned ⟨trivial, trivial⟩).trans (iff_of_true ⟨rfl, rfl, trivial⟩ trivial)
  | _ => exact (result_returned ⟨trivial, trivial⟩).trans (iff_of_true ⟨rfl, rfl, rfl⟩ trivial)

theorem transferAclAction_result (d : AclDataType) (hd : d ≠ .UINT8_LIST)
    (src dst : sai_acl_action_data_t d) :
    Faithful (.ACL_ACTION_DATA d hd) src dst (transferAclAction d hd src dst false) ↔
      AclActionMeets d hd src dst := by
  cases d with
  | UINT8_LIST => exact absurd rfl hd
  | OBJECT_LIST =>
    exact result_list Iff.rfl (fun a => and_iff_right rfl) fun a => Iff.rfl
  | _ => exact (result_returned trivial).trans (iff_of_true ⟨rfl, rfl⟩ trivial)

/-- **A transfer is faithful exactly if the condition of its type is met.** -/
theorem transfer_attribute_faithful_iff (T : sai_attr_value_type_t) (src dst : T.Value) :
    Faithful T src dst (transfer_attribute T src dst false) ↔ Meets T src dst := by
  cases T with
  | ACL_FIELD_DATA d => exact transferAclField_result d src dst
  | ACL_ACTION_DATA d hd => exact transferAclAction_result d hd src dst
  | ACL_CAPABILITY =>
    exact result_list Iff.rfl (fun a => and_iff_right rfl) fun a => Iff.rfl
  | OBJECT_LIST | UINT8_LIST | INT8_LIST | UINT16_LIST | INT16_LIST | UINT32_LIST | INT32_LIST
  | VLAN_LIST | QOS_MAP_LIST | ACL_RESOURCE_LIST | IP_ADDRESS_LIST => exact transfer_list_result
  | _ => exact (result_returned trivial).trans (iff_of_true rfl trivial)

/-- **Not every transfer is faithful**: of an ACL field of 32 bits the high half stays. -/
theorem not_transfer_attribute_faithful :
    ¬ ∀ (T : sai_attr_value_type_t) (src dst : T.Value),
      Faithful T src dst (transfer_attribute T src dst false) := by
  intro h
  obtain ⟨d, heq, -, hdata, -⟩ :=
    (h (.ACL_FIELD_DATA .UINT32) ⟨true, IntType.uint32.cast 0x10000, IntType.uint32.cast 0⟩
      ⟨false, IntType.uint32.cast 0, IntType.uint32.cast 0⟩).1 ⟨trivial, trivial⟩
  obtain ⟨rfl, -⟩ := Outcome.returned.inj heq
  have hlow : transferLow (IntType.uint32.cast 0x10000) (IntType.uint32.cast 0)
      = IntType.uint32.cast 0x10000 := hdata
  exact absurd hlow (by decide)

end Sai.Transfer
