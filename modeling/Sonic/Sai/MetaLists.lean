/-
Sai/MetaLists.lean

Lists that validation accepts.

A list of object ids is well formed if its entries that are not NULL are there, of the
given switch, all different and of one type that the attribute allows, and if NULL is only
where the attribute allows it.  The loop of `meta_generic_validation_objlist` compares the
type of an entry with that of the entry before only from the third place on
(`objlistLoop_iff`, `Chain`): the first two entries may be of different types, and after
two NULLs no entry is accepted.  The items of a list of enumerations are not looked at.
`lists_wellFormed_iff` says when the lists of a call are accepted as they should be.
-/
import Sonic.Sai.MetaRuns

namespace Sai.Meta

open IntType Outcome
open Transition (Run Guarded)

/-! ### Well-formed lists -/

section Lists

variable (M : Metadata) (s : St) (md : AttrMetadata) (switch_id : sai_object_id_t)

/-- The entries that are not NULL. -/
def entries (list : List sai_object_id_t) : List sai_object_id_t :=
  list.filter (· ≠ SAI_NULL_OBJECT_ID)

/-- The object is there, of an allowed type, and of the given switch. -/
structure Member (oid : sai_object_id_t) : Prop where
  allowed : (sai_object_type_query M.toSaiMetadata oid).1 ∈ md.allowedobjecttypes
  there : object_reference_exists s oid = true
  belongs : sai_switch_id_query M.toSaiMetadata oid = some switch_id

/-- What is asked of a list but for its types. -/
structure Basic (list : List sai_object_id_t) : Prop where
  members : ∀ oid ∈ entries list, Member M s md switch_id oid
  distinct : (entries list).Nodup
  null : SAI_NULL_OBJECT_ID ∈ list → md.allownullobjectid = true

/-- All entries are of one type. -/
def SameTypes (list : List sai_object_id_t) : Prop :=
  ∀ a ∈ entries list, ∀ b ∈ entries list,
    sai_object_type_query M.toSaiMetadata a = sai_object_type_query M.toSaiMetadata b

/-- A list of object ids as an attribute should have it. -/
structure WellFormedList (list : List sai_object_id_t) : Prop
    extends Basic M s md switch_id list where
  sameTypes : SameTypes M list

/-- The types as the loop compares them: from the third place on, and with the type of the
entry before, which is NULL if there is none. -/
def Chain : ℕ → sai_object_type_t → List sai_object_id_t → Prop
  | _, _, [] => True
  | i, object_type, oid :: list =>
    if oid = SAI_NULL_OBJECT_ID then Chain (i + 1) object_type list
    else
      (1 < i → object_type = sai_object_type_query M.toSaiMetadata oid) ∧
        Chain (i + 1) (sai_object_type_query M.toSaiMetadata oid) list

/-- The first two entries are of different types, and the others of the second one's. -/
def MixedHead : List sai_object_id_t → Prop
  | a :: b :: rest =>
    a ≠ SAI_NULL_OBJECT_ID ∧ b ≠ SAI_NULL_OBJECT_ID ∧
      sai_object_type_query M.toSaiMetadata a ≠ sai_object_type_query M.toSaiMetadata b ∧
      ∀ c ∈ entries rest,
        sai_object_type_query M.toSaiMetadata c = sai_object_type_query M.toSaiMetadata b
  | _ => False

/-- Two NULLs, and then entries of one type. -/
def NullHead : List sai_object_id_t → Prop
  | a :: b :: rest =>
    a = SAI_NULL_OBJECT_ID ∧ b = SAI_NULL_OBJECT_ID ∧ entries rest ≠ [] ∧ SameTypes M rest
  | _ => False

end Lists

variable {M : Metadata} {s : St} {md : AttrMetadata} {switch_id : sai_object_id_t}

@[simp] theorem entries_nil : entries [] = [] := rfl

@[simp] theorem entries_null {list : List sai_object_id_t} :
    entries (SAI_NULL_OBJECT_ID :: list) = entries list := rfl

theorem entries_cons {oid : sai_object_id_t} {list : List sai_object_id_t}
    (h : oid ≠ SAI_NULL_OBJECT_ID) : entries (oid :: list) = oid :: entries list :=
  List.filter_cons_of_pos (decide_eq_true h)

theorem mem_entries {oid : sai_object_id_t} {list : List sai_object_id_t} :
    oid ∈ entries list ↔ oid ∈ list ∧ oid ≠ SAI_NULL_OBJECT_ID := by
  rw [entries, List.mem_filter, decide_eq_true_iff]

/-- An object of a switch has a type. -/
theorem typed_of_belongs {oid : sai_object_id_t} (h : oid ≠ SAI_NULL_OBJECT_ID)
    (hswitch : sai_switch_id_query M.toSaiMetadata oid = some switch_id) :
    (sai_object_type_query M.toSaiMetadata oid).1 ≠ SAI_OBJECT_TYPE_NULL := by
  intro hnull
  unfold sai_switch_id_query at hswitch
  rw [if_neg h, if_pos hnull] at hswitch
  cases hswitch

theorem basic_null {list : List sai_object_id_t} :
    Basic M s md switch_id (SAI_NULL_OBJECT_ID :: list) ↔
      md.allownullobjectid = true ∧ Basic M s md switch_id list := by
  constructor
  · rintro ⟨hmembers, hdistinct, hnull⟩
    have hallowed := hnull List.mem_cons_self
    exact ⟨hallowed, hmembers, hdistinct, fun _ => hallowed⟩
  · rintro ⟨hallowed, hmembers, hdistinct, -⟩
    exact ⟨hmembers, hdistinct, fun _ => hallowed⟩

theorem basic_cons {oid : sai_object_id_t} {list : List sai_object_id_t}
    (h : oid ≠ SAI_NULL_OBJECT_ID) :
    Basic M s md switch_id (oid :: list) ↔
      Member M s md switch_id oid ∧ oid ∉ entries list ∧ Basic M s md switch_id list := by
  have hentries : entries (oid :: list) = oid :: entries list := entries_cons h
  constructor
  · rintro ⟨hmembers, hdistinct, hnull⟩
    rw [hentries] at hmembers hdistinct
    obtain ⟨hnot, hdistinct⟩ := List.nodup_cons.mp hdistinct
    exact ⟨hmembers oid List.mem_cons_self, hnot, fun o ho => hmembers o (List.mem_cons_of_mem _ ho),
      hdistinct, fun hmem => hnull (List.mem_cons_of_mem _ hmem)⟩
  · rintro ⟨hmember, hnot, hmembers, hdistinct, hnull⟩
    refine ⟨?_, ?_, ?_⟩
    · rw [hentries]
      exact List.forall_mem_cons.mpr ⟨hmember, hmembers⟩
    · rw [hentries]
      exact List.nodup_cons.mpr ⟨hnot, hdistinct⟩
    · intro hmem
      rcases List.mem_cons.mp hmem with heq | hmem
      · exact absurd heq.symm h
      · exact hnull hmem

theorem sameTypes_null {list : List sai_object_id_t} :
    SameTypes M (SAI_NULL_OBJECT_ID :: list) ↔ SameTypes M list := Iff.rfl

theorem sameTypes_cons {oid : sai_object_id_t} {list : List sai_object_id_t}
    (h : oid ≠ SAI_NULL_OBJECT_ID) :
    SameTypes M (oid :: list) ↔ ∀ c ∈ entries list,
      sai_object_type_query M.toSaiMetadata c = sai_object_type_query M.toSaiMetadata oid := by
  unfold SameTypes
  rw [entries_cons h]
  constructor
  · intro hsame c hc
    exact hsame c (List.mem_cons_of_mem _ hc) oid List.mem_cons_self
  · intro hsame a ha b hb
    have heq : ∀ c ∈ oid :: entries list,
        sai_object_type_query M.toSaiMetadata c = sai_object_type_query M.toSaiMetadata oid :=
      List.forall_mem_cons.mpr ⟨rfl, hsame⟩
    rw [heq a ha, heq b hb]

/-! ### What the loop accepts -/

/-- **What the loop accepts**, after the entries `oids`.  The induction is along the list;
its entries are also new. -/
theorem objlistLoop_iff {i : ℕ} {oids list : List sai_object_id_t}
    {object_type : sai_object_type_t} (hoids : SAI_NULL_OBJECT_ID ∉ oids) :
    objlistLoop M s md switch_id i oids object_type list = .ok () ↔
      Basic M s md switch_id list ∧ (∀ oid ∈ entries list, oid ∉ oids) ∧
        (entries list ≠ [] → object_reference_exists s switch_id = true) ∧
        Chain M i object_type list := by
  induction list generalizing i oids object_type with
  | nil =>
    refine iff_of_true rfl ⟨⟨?_, List.nodup_nil, ?_⟩, ?_, ?_, trivial⟩
    · exact fun oid h => absurd h List.not_mem_nil
    · exact fun h => absurd h List.not_mem_nil
    · exact fun oid h => absurd h List.not_mem_nil
    · exact fun h => absurd rfl h
  | cons oid list ih =>
    unfold objlistLoop Chain
    rw [check_bind, require_eq_ok]
    by_cases hnull : oid = SAI_NULL_OBJECT_ID
    · subst hnull
      rw [if_pos rfl, if_pos rfl, check_bind, require_eq_ok, ih hoids, basic_null, entries_null]
      constructor
      · rintro ⟨-, hallowed, hbasic, hrest⟩
        exact ⟨⟨hallowed, hbasic⟩, hrest⟩
      · rintro ⟨⟨hallowed, hbasic⟩, hrest⟩
        exact ⟨hoids, hallowed, hbasic, hrest⟩
    · rw [if_neg hnull, if_neg hnull, basic_cons hnull, entries_cons hnull,
        List.forall_mem_cons]
      simp only [check_bind, require_eq_ok]
      have hoids' : SAI_NULL_OBJECT_ID ∉ oid :: oids := by
        rw [List.mem_cons, not_or]
        exact ⟨fun heq => hnull heq.symm, hoids⟩
      constructor
      · rintro ⟨hnew, htyped, hallowed, hthere, hchain, h⟩
        cases hswitch : sai_switch_id_query M.toSaiMetadata oid with
        | none =>
          rw [hswitch] at h
          cases h
        | some query_switch_id =>
          rw [hswitch] at h
          simp only [check_bind, require_eq_ok] at h
          obtain ⟨hknown, rfl, h⟩ := h
          obtain ⟨hbasic, hdisjoint, -, hrest⟩ := (ih hoids').mp h
          refine ⟨⟨⟨hallowed, hthere, hswitch⟩, ?_, hbasic⟩, ⟨hnew, ?_⟩, fun _ => hknown,
            hchain, hrest⟩
          · exact fun hmem => hdisjoint oid hmem List.mem_cons_self
          · exact fun o ho hmem => hdisjoint o ho (List.mem_cons_of_mem _ hmem)
      · rintro ⟨⟨hmember, hnot, hbasic⟩, ⟨hnew, hdisjoint⟩, hknown, hchain, hrest⟩
        have hknown := hknown (List.cons_ne_nil _ _)
        refine ⟨hnew, typed_of_belongs hnull hmember.belongs, hmember.allowed, hmember.there,
          hchain, ?_⟩
        rw [hmember.belongs]
        simp only [check_bind, require_eq_ok, true_and]
        refine ⟨hknown, (ih hoids').mpr ⟨hbasic, ?_, fun _ => hknown, hrest⟩⟩
        intro o ho hmem
        rcases List.mem_cons.mp hmem with rfl | hmem
        · exact hnot ho
        · exact hdisjoint o ho hmem

/-- From the third place on all entries have the type of the one before. -/
theorem chain_of_two_le {i : ℕ} (hi : 2 ≤ i) {object_type : sai_object_type_t}
    {list : List sai_object_id_t} :
    Chain M i object_type list ↔
      ∀ c ∈ entries list, sai_object_type_query M.toSaiMetadata c = object_type := by
  induction list generalizing i object_type with
  | nil => exact iff_of_true trivial fun c h => absurd h List.not_mem_nil
  | cons oid list ih =>
    unfold Chain
    by_cases hnull : oid = SAI_NULL_OBJECT_ID
    · subst hnull
      rw [if_pos rfl, ih (by omega), entries_null]
    · rw [if_neg hnull, ih (by omega), entries_cons hnull, List.forall_mem_cons]
      constructor
      · rintro ⟨hhead, hrest⟩
        obtain rfl := hhead (by omega)
        exact ⟨rfl, hrest⟩
      · rintro ⟨rfl, hrest⟩
        exact ⟨fun _ => rfl, hrest⟩

/-- **The types are compared as they should be** but for the two kinds of heads. -/
theorem chain_iff_sameTypes {list : List sai_object_id_t}
    (htyped : ∀ oid ∈ entries list, sai_object_type_query M.toSaiMetadata oid ≠ nullType) :
    (Chain M 0 nullType list ↔ SameTypes M list) ↔ ¬ MixedHead M list ∧ ¬ NullHead M list := by
  -- the first two places are not compared: the cases are which of them are NULL
  rcases list with - | ⟨a, - | ⟨b, rest⟩⟩
  · refine iff_of_true (iff_of_true trivial ?_) ⟨id, id⟩
    exact fun a h => absurd h List.not_mem_nil
  · refine iff_of_true (iff_of_true ?_ ?_) ⟨id, id⟩
    · simp [Chain]
    · by_cases ha : a = SAI_NULL_OBJECT_ID
      · subst ha
        exact fun a h => absurd h List.not_mem_nil
      · exact (sameTypes_cons ha).mpr fun c h => absurd h List.not_mem_nil
  · unfold MixedHead NullHead
    simp only [Chain, Nat.zero_add]
    by_cases ha : a = SAI_NULL_OBJECT_ID
    · subst ha
      rw [if_pos rfl, sameTypes_null]
      by_cases hb : b = SAI_NULL_OBJECT_ID
      · subst hb
        rw [if_pos rfl, chain_of_two_le (le_refl 2), sameTypes_null]
        have hchain : (∀ c ∈ entries rest, sai_object_type_query M.toSaiMetadata c = nullType) ↔
            entries rest = [] := by
          constructor
          · intro hall
            refine List.eq_nil_iff_forall_not_mem.mpr fun c hc => ?_
            exact htyped c hc (hall c hc)
          · intro hnil c hc
            rw [hnil] at hc
            cases hc
        have hempty : entries rest = [] → SameTypes M rest := by
          intro hnil c hc
          rw [hnil] at hc
          cases hc
        rw [hchain]
        tauto
      · rw [if_neg hb, chain_of_two_le (le_refl 2), sameTypes_cons hb]
        tauto
    · rw [if_neg ha, sameTypes_cons ha]
      by_cases hb : b = SAI_NULL_OBJECT_ID
      · subst hb
        rw [if_pos rfl, chain_of_two_le (le_refl 2), entries_null]
        tauto
      · rw [if_neg hb, chain_of_two_le (le_refl 2), entries_cons hb, List.forall_mem_cons]
        constructor
        · intro h
          refine ⟨?_, fun hhead => ha hhead.1⟩
          rintro ⟨-, -, hne, hrest⟩
          have hsame := h.mp ⟨by omega, by omega, hrest⟩
          exact hne hsame.1.symm
        · rintro ⟨hmixed, -⟩
          constructor
          · rintro ⟨-, -, hrest⟩
            have heq : sai_object_type_query M.toSaiMetadata a
                = sai_object_type_query M.toSaiMetadata b := by
              by_contra hne
              exact hmixed ⟨ha, hb, hne, hrest⟩
            rw [heq]
            exact ⟨rfl, hrest⟩
          · rintro ⟨heq, hrest⟩
            rw [heq]
            exact ⟨by omega, by omega, hrest⟩

/-! ### The lists of attributes -/

section Attributes

variable (M : Metadata) (s : St)

/-- The list of object ids in the value of an attribute, unless it is that of an ACL field
or action that is not enabled. -/
def oidList (md : AttrMetadata) (value : sai_attribute_value_t) :
    Option (SaiList sai_object_id_t) :=
  match md.attrvaluetype with
  | .OBJECT_LIST => some value.objlist
  | .ACL_FIELD_DATA .OBJECT_LIST =>
    let aclfield := value (.ACL_FIELD_DATA .OBJECT_LIST)
    if aclfield.enable then some aclfield.data else none
  | .ACL_ACTION_DATA .OBJECT_LIST h =>
    let aclaction := value (.ACL_ACTION_DATA .OBJECT_LIST h)
    if aclaction.enable then some aclaction.parameter else none
  | _ => none

/-- An attribute whose values are no enumerations. -/
def IsNoEnum (md : AttrMetadata) : Prop := md.isenum = false ∧ md.isenumlist = false

/-- An attribute that is a list of enumerations. -/
def IsEnumList (md : AttrMetadata) : Prop :=
  md.attrvaluetype = .INT32_LIST ∧ md.isenum = false ∧ md.isenumlist = true

/-- What create and set check of one value. -/
def validateValue (create : Bool) (objecttype : sai_object_type_t) (md : AttrMetadata)
    (switch_id : sai_object_id_t) (value : sai_attribute_value_t) : Check := do
  checkValue M s create objecttype md switch_id value
  checkEnum md value

/-- All listed values are allowed. -/
def AllowedValues (md : AttrMetadata) (value : sai_attribute_value_t) : Prop :=
  ∀ v ∈ (value .INT32_LIST).items, md.sai_metadata_is_allowed_enum_value v = true

/-- **Lists are accepted as they should be**: lists of object ids that are not too long
exactly if they are well formed, and lists of enumerations only if all values are allowed. -/
structure Judged (create : Bool) (objecttype : sai_object_type_t) (md : AttrMetadata)
    (switch_id : sai_object_id_t) (value : sai_attribute_value_t) : Prop where
  oids : IsNoEnum md → ∀ objlist, oidList md value = some objlist →
    objlist.count.1 ≤ MAX_LIST_COUNT → (objlist.list = none → objlist.count.1 = 0) →
      (validateValue M s create objecttype md switch_id value = .ok () ↔
        WellFormedList M s md switch_id objlist.items)
  enums : IsEnumList md → validateValue M s create objecttype md switch_id value = .ok () →
    AllowedValues md value

/-- A list of object ids is judged right: the switch is there if it matters, and the first
two places hide nothing.  Where the switch is not there nothing should be accepted. -/
def FitsOids (md : AttrMetadata) (switch_id : sai_object_id_t) (list : List sai_object_id_t) :
    Prop :=
  Basic M s md switch_id list →
    if entries list ≠ [] → object_reference_exists s switch_id = true then
      ¬ MixedHead M list ∧ ¬ NullHead M list
    else ¬ SameTypes M list

/-- When the lists of a value are accepted as they should be. -/
structure Fits (md : AttrMetadata) (switch_id : sai_object_id_t)
    (value : sai_attribute_value_t) : Prop where
  oids : IsNoEnum md → ∀ objlist, oidList md value = some objlist →
    objlist.count.1 ≤ MAX_LIST_COUNT → (objlist.list = none → objlist.count.1 = 0) →
      FitsOids M s md switch_id objlist.items
  enums : IsEnumList md →
    AllowedValues md value ∨ MAX_LIST_COUNT < (value .INT32_LIST).count.1

end Attributes

/-- A list of object ids is given to `meta_generic_validation_objlist`. -/
theorem checkValue_oidList {create : Bool} {objecttype : sai_object_type_t}
    {value : sai_attribute_value_t} {objlist : SaiList sai_object_id_t}
    (h : oidList md value = some objlist) :
    checkValue M s create objecttype md switch_id value
      = meta_generic_validation_objlist M s md switch_id objlist := by
  obtain ⟨⟨T, table⟩, _⟩ := md
  cases T with
  | OBJECT_LIST =>
    obtain rfl := Option.some.inj h
    rfl
  | ACL_FIELD_DATA d =>
    cases d with
    | OBJECT_LIST =>
      change (if (value (.ACL_FIELD_DATA .OBJECT_LIST)).enable then _ else _) = _ at h
      show (if (value (.ACL_FIELD_DATA .OBJECT_LIST)).enable then _ else _) = _
      split at h
      · next henable =>
          obtain rfl := Option.some.inj h
          rw [if_pos henable]
      · cases h
    | _ => cases h
  | ACL_ACTION_DATA d hd =>
    cases d with
    | OBJECT_LIST =>
      change (if (value (.ACL_ACTION_DATA .OBJECT_LIST hd)).enable then _ else _) = _ at h
      show (if (value (.ACL_ACTION_DATA .OBJECT_LIST hd)).enable then _ else _) = _
      split at h
      · next henable =>
          obtain rfl := Option.some.inj h
          rw [if_pos henable]
      · cases h
    | _ => cases h
  | _ => cases h

theorem checkEnum_of_isNoEnum {value : sai_attribute_value_t} (h : IsNoEnum md) :
    checkEnum md value = .ok () := by
  unfold checkEnum
  rw [check_bind, require_eq_ok, require_eq_ok, h.1, h.2]
  exact ⟨fun hf => absurd hf Bool.false_ne_true, fun hf => absurd hf Bool.false_ne_true⟩

/-- **What is accepted of a list of object ids.** -/
theorem validateValue_oidList {create : Bool} {objecttype : sai_object_type_t}
    {value : sai_attribute_value_t} {objlist : SaiList sai_object_id_t} (hno : IsNoEnum md)
    (h : oidList md value = some objlist) (hcount : objlist.count.1 ≤ MAX_LIST_COUNT)
    (hnone : objlist.list = none → objlist.count.1 = 0) :
    validateValue M s create objecttype md switch_id value = .ok () ↔
      Basic M s md switch_id objlist.items ∧
        (entries objlist.items ≠ [] → object_reference_exists s switch_id = true) ∧
        Chain M 0 nullType objlist.items := by
  unfold validateValue
  rw [check_bind, checkValue_oidList h, meta_generic_validation_objlist, check_bind,
    require_eq_ok, and_iff_left (checkEnum_of_isNoEnum hno), and_iff_right hcount]
  cases hlist : objlist.list with
  | none =>
    have hitems : objlist.items = [] := by rw [SaiList.items, hlist]; rfl
    rw [hitems]
    refine iff_of_true (require_eq_ok.mpr (hnone hlist)) ⟨⟨?_, List.nodup_nil, ?_⟩, ?_, trivial⟩
    · exact fun oid hmem => absurd hmem List.not_mem_nil
    · exact fun hmem => absurd hmem List.not_mem_nil
    · exact fun hne => absurd rfl hne
  | some list =>
    have hitems : objlist.items = list := by rw [SaiList.items, hlist]; rfl
    rw [hitems]
    show objlistLoop M s md switch_id 0 [] nullType list = .ok () ↔ _
    rw [objlistLoop_iff List.not_mem_nil]
    constructor
    · rintro ⟨hbasic, -, hrest⟩
      exact ⟨hbasic, hrest⟩
    · rintro ⟨hbasic, hrest⟩
      exact ⟨hbasic, fun oid _ => List.not_mem_nil, hrest⟩

/-- The entries of a list that passed the other checks have types. -/
theorem Basic.typed {list : List sai_object_id_t} (h : Basic M s md switch_id list) :
    ∀ oid ∈ entries list, sai_object_type_query M.toSaiMetadata oid ≠ nullType := by
  intro oid hmem heq
  refine typed_of_belongs (mem_entries.mp hmem).2 (h.members oid hmem).belongs ?_
  rw [heq]
  rfl

/-- **When a list of object ids is accepted as it should be.** -/
theorem judged_oids_iff {create : Bool} {objecttype : sai_object_type_t}
    {value : sai_attribute_value_t} {objlist : SaiList sai_object_id_t} (hno : IsNoEnum md)
    (h : oidList md value = some objlist) (hcount : objlist.count.1 ≤ MAX_LIST_COUNT)
    (hnone : objlist.list = none → objlist.count.1 = 0) :
    (validateValue M s create objecttype md switch_id value = .ok () ↔
      WellFormedList M s md switch_id objlist.items) ↔
        FitsOids M s md switch_id objlist.items := by
  rw [validateValue_oidList hno h hcount hnone]
  unfold FitsOids
  have hwell : WellFormedList M s md switch_id objlist.items ↔
      Basic M s md switch_id objlist.items ∧ SameTypes M objlist.items :=
    ⟨fun hw => ⟨hw.toBasic, hw.sameTypes⟩, fun hw => ⟨hw.1, hw.2⟩⟩
  rw [hwell]
  by_cases hbasic : Basic M s md switch_id objlist.items
  · have hchain := chain_iff_sameTypes hbasic.typed
    rw [and_iff_right hbasic, and_iff_right hbasic]
    by_cases hknown : entries objlist.items ≠ [] → object_reference_exists s switch_id = true
    · rw [if_pos hknown, and_iff_right hknown, hchain]
      exact ⟨fun h _ => h, fun h => h hbasic⟩
    · -- nothing is accepted without the switch
      rw [if_neg hknown]
      constructor
      · intro h _ hsame
        exact hknown (h.mpr hsame).1
      · intro h
        exact iff_of_false (fun haccepted => hknown haccepted.1) (h hbasic)
  · exact iff_of_true (iff_of_false (fun h => hbasic h.1) fun h => hbasic h.1)
      fun h => absurd h hbasic

/-- **When a list of enumerations is accepted only as it should be**: its values are not
looked at, only its length. -/
theorem judged_enums_iff {create : Bool} {objecttype : sai_object_type_t}
    {value : sai_attribute_value_t} (hlist : IsEnumList md) :
    (validateValue M s create objecttype md switch_id value = .ok () →
      AllowedValues md value) ↔
        AllowedValues md value ∨ MAX_LIST_COUNT < (value .INT32_LIST).count.1 := by
  obtain ⟨htype, hisenum, hisenumlist⟩ := hlist
  have hvalue : checkValue M s create objecttype md switch_id value
      = meta_genetic_validation_list (value .INT32_LIST) := by
    unfold checkValue
    rw [htype]
  have hpassed : validateValue M s create objecttype md switch_id value = .ok () ↔
      (value .INT32_LIST).count.1 ≤ MAX_LIST_COUNT ∧
        ¬ ((value .INT32_LIST).count.1 = 0 ∧ (value .INT32_LIST).list.isSome) ∧
        ((value .INT32_LIST).list.isSome ∨ (value .INT32_LIST).count.1 = 0) := by
    unfold validateValue checkEnum meta_genetic_validation_list at *
    rw [check_bind, hvalue]
    simp only [check_bind, require_eq_ok, hisenum, hisenumlist]
    tauto
  -- a list without values has only allowed values
  have hempty : (value .INT32_LIST).items = [] → AllowedValues md value := by
    intro hnil v hv
    rw [hnil] at hv
    cases hv
  constructor
  · intro h
    by_contra hnot
    rw [not_or, not_lt] at hnot
    have hitems : (value .INT32_LIST).items ≠ [] := fun hnil => hnot.1 (hempty hnil)
    refine hnot.1 (h (hpassed.mpr ⟨hnot.2, ?_⟩))
    cases hsome : (value .INT32_LIST).list with
    | none =>
      refine absurd ?_ hitems
      show (value .INT32_LIST).list.getD [] = []
      rw [hsome]
      rfl
    | some items =>
      have hlength := (value .INT32_LIST).length_eq items hsome
      refine ⟨?_, Or.inl rfl⟩
      rintro ⟨hzero, -⟩
      rw [hzero] at hlength
      refine hitems ?_
      show (value .INT32_LIST).list.getD [] = []
      rw [hsome]
      exact List.length_eq_zero_iff.mp (by exact_mod_cast hlength)
  · rintro (hall | hlong) h
    · exact hall
    · exact absurd (hpassed.mp h).1 (not_le.mpr hlong)

theorem judged_iff {create : Bool} {objecttype : sai_object_type_t}
    {value : sai_attribute_value_t} :
    Judged M s create objecttype md switch_id value ↔ Fits M s md switch_id value := by
  constructor
  · rintro ⟨hoids, henums⟩
    refine ⟨fun hno objlist h hcount hnone => ?_, fun hlist => ?_⟩
    · exact (judged_oids_iff hno h hcount hnone).mp (hoids hno objlist h hcount hnone)
    · exact (judged_enums_iff hlist).mp (henums hlist)
  · rintro ⟨hoids, henums⟩
    refine ⟨fun hno objlist h hcount hnone => ?_, fun hlist => ?_⟩
    · exact (judged_oids_iff hno h hcount hnone).mpr (hoids hno objlist h hcount hnone)
    · exact (judged_enums_iff hlist).mpr (henums hlist)

/-! ### The lists of calls -/

/-- A create or a set, as it is validated. -/
inductive AttrCall where
  | create (meta_key : sai_object_meta_key_t) (switch_id : sai_object_id_t)
      (attr_list : List sai_attribute_t)
  | set (meta_key : sai_object_meta_key_t) (attr : sai_attribute_t)

namespace AttrCall

def isCreate : AttrCall → Bool
  | .create _ _ _ => true
  | .set _ _ => false

def objecttype : AttrCall → sai_object_type_t
  | .create meta_key _ _ => meta_key.objecttype
  | .set meta_key _ => meta_key.objecttype

def attrs : AttrCall → List sai_attribute_t
  | .create _ _ attr_list => attr_list
  | .set _ attr => [attr]

variable (M : Metadata) (s : St)

/-- The switch that the lists are validated for. -/
def switch : AttrCall → Except Stop sai_object_id_t
  | .create meta_key switch_id _ => checkSwitch M s meta_key switch_id
  | .set meta_key _ => setSwitch M s meta_key

def validation : AttrCall → Check
  | .create meta_key switch_id attr_list =>
    meta_generic_validation_create M s meta_key switch_id attr_list
  | .set meta_key attr => meta_generic_validation_set M s meta_key attr

/-- The lists of a call are accepted as they should be. -/
def ListsJudged (call : AttrCall) : Prop :=
  ∀ switch_id, call.switch M s = .ok switch_id → ∀ attr ∈ call.attrs, ∀ md,
    M.sai_metadata_get_attr_metadata call.objecttype attr.id = some md →
      Judged M s call.isCreate call.objecttype md switch_id attr.value

/-- The lists of a call leave out what is not compared. -/
def ListsFit (call : AttrCall) : Prop :=
  ∀ switch_id, call.switch M s = .ok switch_id → ∀ attr ∈ call.attrs, ∀ md,
    M.sai_metadata_get_attr_metadata call.objecttype attr.id = some md →
      Fits M s md switch_id attr.value

end AttrCall

/-- **When the lists of a call are accepted as they should be.** -/
theorem lists_judged_iff (M : Metadata) (s : St) (call : AttrCall) :
    call.ListsJudged M s ↔ call.ListsFit M s := by
  constructor
  · intro h switch_id hswitch attr hmem md hmd
    exact judged_iff.mp (h switch_id hswitch attr hmem md hmd)
  · intro h switch_id hswitch attr hmem md hmd
    exact judged_iff.mpr (h switch_id hswitch attr hmem md hmd)

/-! ### A mixed list -/

def SAI_OBJECT_TYPE_LAG : ℤ := 2
def SAI_OBJECT_TYPE_ACL_ENTRY : ℤ := 8
def SAI_OBJECT_TYPE_LAG_MEMBER : ℤ := 27
def SAI_LAG_ATTR_PORT_LIST : ℕ := 0
def SAI_ACL_ENTRY_ATTR_ACTION_REDIRECT_LIST : ℕ := 0x2001

def lagType : sai_object_type_t := ⟨SAI_OBJECT_TYPE_LAG, by decide⟩
def aclEntryType : sai_object_type_t := ⟨SAI_OBJECT_TYPE_ACL_ENTRY, by decide⟩
def sampleLagId : sai_object_id_t := 0x0002000000000004

/-- Where ACL entries redirect to. -/
def redirectList : AttrMetadata :=
  plainAttr SAI_ACL_ENTRY_ATTR_ACTION_REDIRECT_LIST (.ACL_ACTION_DATA .OBJECT_LIST (by decide))
    false false [SAI_OBJECT_TYPE_PORT, SAI_OBJECT_TYPE_LAG]

def redirectAttrs (objecttype : sai_object_type_t) : List AttrMetadata :=
  if objecttype.1 = SAI_OBJECT_TYPE_LAG then
    [plainAttr SAI_LAG_ATTR_PORT_LIST .OBJECT_LIST false true [SAI_OBJECT_TYPE_LAG_MEMBER]]
  else if objecttype.1 = SAI_OBJECT_TYPE_ACL_ENTRY then [redirectList]
  else sampleAttrs objecttype

/-- The metadata with attributes of LAGs and ACL entries, too. -/
def redirectMetadata : Metadata :=
  { sampleMetadata with
    attrmetadata := redirectAttrs
    readOnly_capability := by
      intro objecttype
      unfold redirectAttrs
      split_ifs
      · simp [plainAttr]
      · simp [redirectList, plainAttr]
      · exact fun md => sampleAttrs_capability md }

def createLag : Call := .create_oid lagType sampleSwitchId [] .SUCCESS sampleLagId

/-- A port, and a LAG. -/
def portAndLag : SaiList sai_object_id_t :=
  ⟨IntType.uint32.cast 2, some [samplePortId, sampleLagId], fun items h => by cases h; rfl⟩

def redirectAttr : sai_attribute_t :=
  .of SAI_ACL_ENTRY_ATTR_ACTION_REDIRECT_LIST (.ACL_ACTION_DATA .OBJECT_LIST (by decide))
    ⟨true, portAndLag⟩

/-- An ACL entry that redirects to a port and a LAG. -/
def redirectEntry : AttrCall :=
  .create (oidKey aclEntryType SAI_NULL_OBJECT_ID) sampleSwitchId [redirectAttr]

/-- **A list of a port and a LAG is accepted**, in a database that holds both. -/
theorem not_lists_judged :
    ¬ ∀ (M : Metadata) (calls : List Call) (s : St),
      Run (Guarded (Promised M) (Step M)) meta_init_db calls s →
        ∀ call : AttrCall, call.ListsJudged M s := by
  intro h
  have hreached : ∃ s, Run (Guarded (Promised redirectMetadata) (Step redirectMetadata))
      meta_init_db [createSwitch, getPorts, createLag] s ∧
        (decide (redirectEntry.switch redirectMetadata s = .ok sampleSwitchId) &&
          decide (validateValue redirectMetadata s true aclEntryType redirectList sampleSwitchId
            redirectAttr.value = .ok ())) = true := reached_of_performAll (by decide +kernel)
  obtain ⟨s, hrun, hs⟩ := hreached
  obtain ⟨hswitch, hvalid⟩ := Bool.and_eq_true_iff.mp hs
  have hjudged := h redirectMetadata _ s hrun redirectEntry sampleSwitchId
    (of_decide_eq_true hswitch) redirectAttr List.mem_cons_self redirectList rfl
  have hwell := (hjudged.oids ⟨rfl, rfl⟩ portAndLag rfl (by decide) fun h => by cases h).mp
    (of_decide_eq_true hvalid)
  have hsame := hwell.sameTypes samplePortId (by decide) sampleLagId (by decide)
  exact absurd hsame (by decide)

end Sai.Meta
