/-
Sai/MetaFailures.lean

Calls of the metadata database that fail, and removals that succeed.

A call that returns another status than success leaves the database as it was, and what was
removed with success is gone (`Atomic`), in every state of the database.  The exception are
switches: a switch that is referred to takes the database along before the vendor is asked,
and a switch that nothing refers to stays when it was removed (`atomic_iff`).
-/
import Sonic.Sai.MetaCalls

namespace Sai.Meta

open IntType Outcome RefCount
open Transition (Run Guarded)

variable {M : Metadata} {s s' s₁ : St} {oid : sai_object_id_t} {status verdict : sai_status_t}
  {meta_key : sai_object_meta_key_t} {attr_list : List sai_attribute_t}

/-! ### What is removed is gone -/

/-- Nothing has come into the database. -/
structure Shrinks (s s' : St) : Prop where
  objects : ∀ key, object_exists s key = false → object_exists s' key = false
  known : ∀ oid, object_reference_exists s oid = false → object_reference_exists s' oid = false

theorem Shrinks.refl : Shrinks s s := ⟨fun _ h => h, fun _ h => h⟩

theorem Shrinks.trans (h : Shrinks s s₁) (h' : Shrinks s₁ s') : Shrinks s s' :=
  ⟨fun key hkey => h'.objects key (h.objects key hkey),
    fun oid hoid => h'.known oid (h.known oid hoid)⟩

/-- An object is gone, with its counter. -/
structure IsGone (s : St) (meta_key : sai_object_meta_key_t) : Prop where
  object : object_exists s meta_key = false
  counter : ∀ oid, meta_key.objectkey = .object_id oid → object_reference_exists s oid = false

theorem IsGone.shrinks (h : IsGone s meta_key) (hs : Shrinks s s') : IsGone s' meta_key :=
  ⟨hs.objects meta_key h.object, fun oid hoid => hs.known oid (h.counter oid hoid)⟩

/-- A postcondition of what returns, whatever is thrown. -/
def Returns {α : Type} (Q : α → Prop) (x : Except Exn α) : Prop := Safe (fun _ => False) Q x

theorem Returns.bind {α β : Type} {Q : α → Prop} {R : β → Prop} {x : Except Exn α}
    {f : α → Except Exn β} (h : Returns Q x) (hf : ∀ a, Q a → Returns R (f a)) :
    Returns R (x >>= f) :=
  Safe.bind h fun a _ ha => hf a ha

theorem returns_error {α : Type} {Q : α → Prop} {e : Exn} : Returns Q (.error e) := not_false

theorem dec_list_returns {list : List sai_object_id_t} :
    Returns (Shrinks s) (object_reference_dec_list s list) := by
  rw [object_reference_dec_list_eq]
  cases hdec : decAll s.ObjectReferences (list.filter (· ≠ SAI_NULL_OBJECT_ID)) with
  | error fault => exact returns_error
  | ok R =>
    refine ⟨fun key hkey => hkey, fun oid hoid => ?_⟩
    exact (decAll_known hdec oid).trans hoid

theorem postRemoveAttrs_returns {objecttype : sai_object_type_t} {ws : List SaiAttrWrapper} :
    Returns (Shrinks s) (ws.foldlM (postRemoveAttr M objecttype) s) := by
  refine Safe.foldlM (I := fun _ => Shrinks s) Shrinks.refl fun w rest s₁ hs₁ => ?_
  unfold postRemoveAttr
  split
  · exact returns_error
  · split
    · exact dec_list_returns.imp fun s₂ _ hs₂ => hs₁.trans hs₂
    · exact returns_error

/-- The key of an object that is removed has no counter any more. -/
theorem removedKey_returns :
    Returns (fun s' => Shrinks s s' ∧ ∀ oid, meta_key.objectkey = .object_id oid →
        object_reference_exists s' oid = false) (removedKey s meta_key) := by
  unfold removedKey
  split
  · next oid hoid =>
      unfold object_reference_remove
      split
      · split
        · exact returns_error
        · refine ⟨⟨fun key hkey => hkey, fun oid' hoid' => ?_⟩, fun oid' hoid' => ?_⟩
          · rw [object_reference_exists, Table.lookup_erase_eq]
            split
            · rfl
            · exact hoid'
          · rw [hoid] at hoid'
            obtain rfl := sai_object_key_t.object_id.inj hoid'
            rw [object_reference_exists, Table.lookup_erase_eq, if_pos rfl]
            rfl
      · next hnone =>
          refine ⟨Shrinks.refl, fun oid' hoid' => ?_⟩
          rw [hoid] at hoid'
          obtain rfl := sai_object_key_t.object_id.inj hoid'
          rw [object_reference_exists, hnone]
          rfl
  · next hkey => exact dec_list_returns.imp fun s₁ _ hs₁ => ⟨hs₁, fun oid hoid => absurd hoid (hkey oid)⟩

/-- **An object that was removed is gone**, and nothing has come in its place. -/
theorem postRemoveObject_returns :
    Returns (fun s' => Shrinks s s' ∧ IsGone s' meta_key) (postRemoveObject M s meta_key) := by
  unfold postRemoveObject get_object_attributes
  split
  · exact returns_error
  · show Returns _ (List.foldlM (postRemoveAttr M meta_key.objecttype) s _ >>= _)
    refine Returns.bind postRemoveAttrs_returns fun s₁ hs₁ => ?_
    refine Returns.bind removedKey_returns fun s₂ hs₂ => ?_
    obtain ⟨hshrinks, hcounter⟩ := hs₂
    unfold remove_object
    split
    · refine ⟨(hs₁.trans hshrinks).trans ⟨fun key hkey => ?_, fun oid hoid => hoid⟩, ?_, hcounter⟩
      · rw [object_exists, Table.lookup_erase_eq]
        split
        · rfl
        · exact hkey
      · rw [object_exists, Table.lookup_erase_eq, if_pos rfl]
        rfl
    · exact returns_error

theorem postRemove_returns {n : ℕ} :
    Returns (fun s' => Shrinks s s' ∧
        (meta_key.objecttype.1 ≠ SAI_OBJECT_TYPE_SWITCH → IsGone s' meta_key))
      (postRemove M n s meta_key) := by
  induction n generalizing s meta_key with
  | zero =>
    unfold postRemove
    split
    · next hswitch => exact ⟨Shrinks.refl, fun hne => absurd hswitch hne⟩
    · exact returns_error
  | succ n ih =>
    unfold postRemove
    split
    · next hswitch => exact ⟨Shrinks.refl, fun hne => absurd hswitch hne⟩
    · refine Returns.bind postRemoveObject_returns fun s₁ hs₁ => ?_
      split
      · next port_id _ =>
          -- the related objects are removed after it
          unfold post_port_remove
          split
          · exact ⟨hs₁.1, fun _ => hs₁.2⟩
          · refine Returns.bind (Q := Shrinks s₁) ?_ fun s₂ hs₂ => ?_
            · exact Safe.foldlM (I := fun _ => Shrinks s₁) Shrinks.refl fun oid rest s₂ hs₂ =>
                ih.imp fun s₃ _ hs₃ => hs₂.trans hs₃.1
            · exact ⟨hs₁.1.trans ⟨hs₂.objects, hs₂.known⟩,
                fun _ => hs₁.2.shrinks ⟨hs₂.objects, hs₂.known⟩⟩
      · exact ⟨hs₁.1, fun _ => hs₁.2⟩

/-! ### What a call returns -/

/-- The validation of a remove that returns: it rejects the object, accepts it, or clears
the database for a switch. -/
theorem validation_remove_cases
    (h : meta_generic_validation_remove M s meta_key = .ok (verdict, s₁)) :
    (verdict ≠ .SUCCESS ∧ s₁ = s) ∨
    (verdict = .SUCCESS ∧ s₁ = s ∧
      ∀ oid, meta_key.objectkey = .object_id oid → s.ObjectReferences.lookup oid = some 0) ∨
    (verdict = .SUCCESS ∧ s₁ = meta_init_db ∧ meta_key.objecttype.1 = SAI_OBJECT_TYPE_SWITCH ∧
      ∃ oid count, meta_key.objectkey = .object_id oid ∧
        s.ObjectReferences.lookup oid = some count ∧ count ≠ 0) := by
  unfold meta_generic_validation_remove at h
  split at h
  · cases h
    exact Or.inl ⟨by decide, rfl⟩
  · split at h
    · next oid hkey =>
        dsimp only at h
        split at h
        · cases h
          exact Or.inl ⟨by decide, rfl⟩
        · next hid =>
            have htype : sai_object_type_query M.toSaiMetadata oid = meta_key.objecttype := by
              by_contra hne
              exact hid (Or.inr (Or.inr hne))
            split at h
            · cases h
              exact Or.inl ⟨by decide, rfl⟩
            · next count hcount =>
                split at h
                · next hne =>
                    split at h
                    · next hswitch =>
                        cases h
                        exact Or.inr (Or.inr ⟨rfl, rfl, htype ▸ hswitch, oid, count, hkey, hcount, hne⟩)
                    · cases h
                      exact Or.inl ⟨by decide, rfl⟩
                · next hzero =>
                    have hcount0 : ∀ oid, meta_key.objectkey = .object_id oid →
                        s.ObjectReferences.lookup oid = some 0 := by
                      intro oid' hoid'
                      rw [hkey] at hoid'
                      rw [← sai_object_key_t.object_id.inj hoid', hcount, not_not.mp hzero]
                    split at h
                    · obtain ⟨st, -, hst⟩ := bind_eq_ok.mp h
                      cases hst
                      by_cases hsuccess : verdict = .SUCCESS
                      · exact Or.inr (Or.inl ⟨hsuccess, rfl, hcount0⟩)
                      · exact Or.inl ⟨hsuccess, rfl⟩
                    · cases h
                      exact Or.inr (Or.inl ⟨rfl, rfl, hcount0⟩)
    · next hkey =>
        cases h
        exact Or.inr (Or.inl ⟨rfl, rfl, fun oid hoid => absurd hoid (hkey oid)⟩)

theorem validated_eq_ok {check : Check} {next : Result} {r : sai_status_t × St}
    (h : validated s check next = .ok r) :
    (check = .ok () ∧ next = .ok r) ∨ (check = .error (.returns r.1) ∧ r.2 = s) := by
  unfold validated at h
  split at h
  · exact Or.inl ⟨rfl, h⟩
  · cases h
    exact Or.inr ⟨rfl, rfl⟩
  · cases h

theorem recorded_eq_ok {post : Except Exn St} {r : sai_status_t × St}
    (h : recorded s status post = .ok r) :
    r.1 = status ∧ ((status = .SUCCESS ∧ post = .ok r.2) ∨ (status ≠ .SUCCESS ∧ r.2 = s)) := by
  unfold recorded at h
  split at h
  · next hsuccess =>
      obtain ⟨s', hpost, hr⟩ := bind_eq_ok.mp h
      cases hr
      exact ⟨rfl, Or.inl ⟨hsuccess, hpost⟩⟩
  · next hfailed =>
      cases h
      exact ⟨rfl, Or.inr ⟨hfailed, rfl⟩⟩

/-! ### Failures -/

/-- The object that a call removes. -/
def Call.removedKey : Call → Option sai_object_meta_key_t
  | .remove_oid object_type object_id _ => some (oidKey object_type object_id)
  | .remove_entry entry _ => some entry.key
  | _ => none

/-- A call that creates, sets or removes. -/
def Call.IsChange : Call → Prop
  | .get_oid .. | .get_entry .. | .fdb_event _ => False
  | _ => True

/-- A call that does not succeed changes nothing, and what is removed with success is
gone. -/
def Atomic (M : Metadata) (s : St) (call : Call) : Prop :=
  ∀ status s', perform M s call = .ok (status, s') →
    (status ≠ .SUCCESS → s' = s) ∧
      (status = .SUCCESS → ∀ meta_key, call.removedKey = some meta_key → IsGone s' meta_key)

/-- The removal of a switch that is referred to and that the vendor refuses to remove, or of
a switch that nothing refers to and that the vendor removes. -/
def SwitchMisremoved (M : Metadata) (s : St) : Call → Prop
  | .remove_oid object_type object_id status =>
    object_type.1 = SAI_OBJECT_TYPE_SWITCH ∧
      meta_sai_validate_oid M s object_type (some object_id) = .ok () ∧
      ∃ count, s.ObjectReferences.lookup object_id = some count ∧
        (count ≠ 0 ∧ status ≠ .SUCCESS ∨ count = 0 ∧ status = .SUCCESS)
  | _ => False

/-- A call that is validated and recorded, and does nothing else, changes nothing if it
does not succeed. -/
theorem unchanged_of_recorded {check check' : Check} {post : Except Exn St}
    (h : validated s check (validated s check' (recorded s status post)) = .ok (verdict, s'))
    (hfailed : verdict ≠ .SUCCESS) : s' = s := by
  rcases validated_eq_ok h with ⟨-, h⟩ | ⟨-, hs⟩
  · rcases validated_eq_ok h with ⟨-, h⟩ | ⟨-, hs⟩
    · obtain ⟨hverdict, ⟨hsuccess, -⟩ | ⟨-, hs⟩⟩ := recorded_eq_ok h
      · exact absurd (hverdict.trans hsuccess) hfailed
      · exact hs
    · exact hs
  · exact hs

/-- A remove that returns: it fails and changes nothing, or the object is gone, or it is
the removal of a switch. -/
theorem removeValidated_cases (h : removeValidated M s meta_key status = .ok (verdict, s')) :
    (verdict ≠ .SUCCESS ∧ s' = s) ∨
    (verdict = .SUCCESS ∧ IsGone s' meta_key) ∨
    (meta_key.objecttype.1 = SAI_OBJECT_TYPE_SWITCH ∧ verdict = .SUCCESS ∧ status = .SUCCESS ∧
      s' = s ∧ ∀ oid, meta_key.objectkey = .object_id oid →
        s.ObjectReferences.lookup oid = some 0) ∨
    (meta_key.objecttype.1 = SAI_OBJECT_TYPE_SWITCH ∧ verdict = status ∧ status ≠ .SUCCESS ∧
      s' = meta_init_db ∧ ∃ oid count, meta_key.objectkey = .object_id oid ∧
        s.ObjectReferences.lookup oid = some count ∧ count ≠ 0) := by
  obtain ⟨⟨found, s₁⟩, hfound, hrest⟩ := bind_eq_ok.mp h
  clear h
  replace hrest : (if found ≠ .SUCCESS then Except.ok (found, s₁)
    else recorded s₁ status (meta_generic_validation_post_remove M s₁ meta_key))
      = .ok (verdict, s') := hrest
  rcases validation_remove_cases hfound with ⟨hne, rfl⟩ | ⟨rfl, rfl, hzero⟩ | ⟨rfl, rfl, hswitch, hcount⟩
  · rw [if_pos hne] at hrest
    cases hrest
    exact Or.inl ⟨hne, rfl⟩
  · rw [if_neg (by simp)] at hrest
    obtain ⟨hverdict, ⟨hsuccess, hpost⟩ | ⟨hfailed, hs⟩⟩ := recorded_eq_ok hrest
    · by_cases hswitch : meta_key.objecttype.1 = SAI_OBJECT_TYPE_SWITCH
      · rw [post_remove_switch hswitch] at hpost
        cases hpost
        exact Or.inr (Or.inr (Or.inl ⟨hswitch, hverdict.trans hsuccess, hsuccess, rfl, hzero⟩))
      · have hgone : Returns _ (meta_generic_validation_post_remove M s₁ meta_key) :=
          postRemove_returns
        exact Or.inr (Or.inl ⟨hverdict.trans hsuccess, (hgone.post hpost).2 hswitch⟩)
    · exact Or.inl ⟨fun hv => hfailed (hverdict.symm.trans hv), hs⟩
  · -- the database was cleared
    rw [if_neg (by simp), post_remove_switch hswitch] at hrest
    have hcleared : s' = meta_init_db ∧ verdict = status := by
      obtain ⟨hverdict, ⟨-, hpost⟩ | ⟨-, hs⟩⟩ := recorded_eq_ok hrest
      · cases hpost
        exact ⟨rfl, hverdict⟩
      · exact ⟨hs, hverdict⟩
    obtain ⟨rfl, rfl⟩ := hcleared
    by_cases hsuccess : verdict = .SUCCESS
    · refine Or.inr (Or.inl ⟨hsuccess, ?_, fun oid _ => ?_⟩)
      · simp [object_exists, meta_init_db]
      · simp [object_reference_exists, meta_init_db]
    · exact Or.inr (Or.inr (Or.inr ⟨hswitch, rfl, hsuccess, rfl, hcount⟩))

/-- What the validation of a switch that is to be removed does. -/
theorem switch_validation {object_type : sai_object_type_t} {count : ℤ}
    (hswitch : object_type.1 = SAI_OBJECT_TYPE_SWITCH)
    (hvalid : meta_sai_validate_oid M s object_type (some oid) = .ok ())
    (hcount : s.ObjectReferences.lookup oid = some count) :
    meta_generic_validation_remove M s (oidKey object_type oid)
      = .ok (.SUCCESS, if count ≠ 0 then meta_init_db else s) := by
  obtain ⟨hentry, hnull, hot, htype, hexists⟩ := validate_oid_spec hvalid
  unfold meta_generic_validation_remove
  rw [if_neg (not_not.mpr hexists), objectkey_oidKey hentry, objecttype_oidKey]
  dsimp only
  rw [if_neg (by rw [htype] at hot ⊢; tauto), hcount]
  dsimp only
  by_cases hzero : count ≠ 0
  · rw [if_pos hzero, if_pos hzero, if_pos (by rw [htype]; exact hswitch)]
  · have hport : object_type.1 ≠ SAI_OBJECT_TYPE_PORT := by
      rw [hswitch]
      decide
    rw [if_neg hzero, if_neg hzero, if_neg hport]

/-- The removal of a switch, by its counter and the vendor. -/
theorem remove_switch_eq {object_type : sai_object_type_t} {count : ℤ}
    (hswitch : object_type.1 = SAI_OBJECT_TYPE_SWITCH)
    (hvalid : meta_sai_validate_oid M s object_type (some oid) = .ok ())
    (hcount : s.ObjectReferences.lookup oid = some count) :
    perform M s (.remove_oid object_type oid status)
      = .ok (status, if count ≠ 0 then meta_init_db else s) := by
  have hkey : (oidKey object_type oid).objecttype.1 = SAI_OBJECT_TYPE_SWITCH := by
    rw [objecttype_oidKey]
    exact hswitch
  show validated s (meta_sai_validate_oid M s object_type (some oid)) _ = _
  rw [hvalid]
  show removeValidated M s (oidKey object_type oid) status = _
  rw [removeValidated, switch_validation hswitch hvalid hcount]
  show recorded _ status (meta_generic_validation_post_remove M _ (oidKey object_type oid)) = _
  rw [post_remove_switch hkey, recorded]
  split <;> rfl

/-- A remove is atomic if it is not that of a switch against its counter. -/
theorem atomic_remove {check : Check} (hquiet : Quiet check)
    (hpassed : check = .ok () → ∀ oid count, meta_key.objectkey = .object_id oid →
      meta_key.objecttype.1 = SAI_OBJECT_TYPE_SWITCH → s.ObjectReferences.lookup oid = some count →
        ¬ (count ≠ 0 ∧ status ≠ .SUCCESS ∨ count = 0 ∧ status = .SUCCESS))
    (hkey : meta_key.objecttype.1 = SAI_OBJECT_TYPE_SWITCH →
      ∃ oid, meta_key.objectkey = .object_id oid)
    (h : validated s check (removeValidated M s meta_key status) = .ok (verdict, s')) :
    (verdict ≠ .SUCCESS → s' = s) ∧ (verdict = .SUCCESS → IsGone s' meta_key) := by
  rcases validated_eq_ok h with ⟨hcheck, h⟩ | ⟨hcheck, hs⟩
  · rcases removeValidated_cases h with ⟨hne, hs⟩ | ⟨hsuccess, hgone⟩ |
      ⟨hswitch, -, hsuccess, -, hzero⟩ | ⟨hswitch, -, hfailed, -, oid, count, hoid, hcount, hne⟩
    · exact ⟨fun _ => hs, fun hsuccess => absurd hsuccess hne⟩
    · exact ⟨fun hne => absurd hsuccess hne, fun _ => hgone⟩
    · obtain ⟨oid, hoid⟩ := hkey hswitch
      exact absurd (Or.inr ⟨rfl, hsuccess⟩) (hpassed hcheck oid 0 hoid hswitch (hzero oid hoid))
    · exact absurd (Or.inl ⟨hne, hfailed⟩) (hpassed hcheck oid count hoid hswitch hcount)
  · exact ⟨fun _ => hs, fun hsuccess => absurd hsuccess (hquiet.returns verdict hcheck)⟩

theorem not_entry_of_switch {object_type : sai_object_type_t}
    (h : object_type.1 = SAI_OBJECT_TYPE_SWITCH) : ¬ IsEntryType object_type := by
  rintro (ht | ht | ht) <;> rw [ht] at h <;> revert h <;> decide

theorem entry_not_switch (entry : Entry) : entry.key.objecttype.1 ≠ SAI_OBJECT_TYPE_SWITCH := by
  cases entry with
  | fdb entry => exact show SAI_OBJECT_TYPE_FDB_ENTRY ≠ SAI_OBJECT_TYPE_SWITCH by decide
  | neighbor entry => exact show SAI_OBJECT_TYPE_NEIGHBOR_ENTRY ≠ SAI_OBJECT_TYPE_SWITCH by decide
  | route entry => exact show SAI_OBJECT_TYPE_ROUTE_ENTRY ≠ SAI_OBJECT_TYPE_SWITCH by decide

/-! ### A switch -/

/-- The calls of a run, one after the other, as long as they return and are as promised. -/
def performAll (M : Metadata) (s : St) : List Call → Option St
  | [] => some s
  | call :: calls =>
    if Promised M s call then
      match perform M s call with
      | .ok r => performAll M r.2 calls
      | .error _ => none
    else none

theorem run_of_performAll {calls : List Call} (h : performAll M s calls = some s') :
    Run (Guarded (Promised M) (Step M)) s calls s' := by
  induction calls generalizing s with
  | nil =>
    cases h
    exact .nil
  | cons call calls ih =>
    unfold performAll at h
    split at h
    · next hp =>
        split at h
        · next r hr => exact .cons ⟨hp, r.1, hr⟩ (ih h)
        · cases h
    · cases h

/-- The metadata of an attribute that is no enumeration and has no condition. -/
def plainAttr (id : ℕ) (T : sai_attr_value_type_t) (mandatory readOnly : Bool)
    (allowed : List ℤ) : AttrMetadata where
  attrvaluetype := T
  enummetadata := none
  attrid := id
  attridname := []
  mandatoryOnCreate := mandatory
  readOnly := readOnly
  createOnly := false
  key := false
  allowedobjecttypes := allowed
  allownullobjectid := true
  isenum := false
  isenumlist := false
  isconditional := false
  conditions := []
  defaultvalue := none

def SAI_SWITCH_ATTR_PORT_LIST : ℕ := 2
def SAI_SWITCH_ATTR_INIT_SWITCH : ℕ := 30
def SAI_PORT_ATTR_QOS_SCHEDULER_PROFILE_ID : ℕ := 50
def SAI_SCHEDULER_ATTR_SCHEDULING_WEIGHT : ℕ := 1
def SAI_OBJECT_TYPE_SCHEDULER : ℤ := 22

/-- Some attributes of switches, ports and schedulers. -/
def switchAttrs : List AttrMetadata :=
  [plainAttr SAI_SWITCH_ATTR_PORT_LIST .OBJECT_LIST false true [SAI_OBJECT_TYPE_PORT],
    plainAttr SAI_SWITCH_ATTR_INIT_SWITCH .BOOL true false []]

def portAttrs : List AttrMetadata :=
  [plainAttr SAI_PORT_ATTR_QOS_QUEUE_LIST .OBJECT_LIST false true [SAI_OBJECT_TYPE_QUEUE],
    plainAttr SAI_PORT_ATTR_QOS_SCHEDULER_PROFILE_ID .OBJECT_ID false false
      [SAI_OBJECT_TYPE_SCHEDULER]]

def schedulerAttrs : List AttrMetadata :=
  [plainAttr SAI_SCHEDULER_ATTR_SCHEDULING_WEIGHT .UINT8 false false []]

def sampleAttrs (objecttype : sai_object_type_t) : List AttrMetadata :=
  if objecttype.1 = SAI_OBJECT_TYPE_SWITCH then switchAttrs
  else if objecttype.1 = SAI_OBJECT_TYPE_PORT then portAttrs
  else if objecttype.1 = SAI_OBJECT_TYPE_SCHEDULER then schedulerAttrs
  else []

theorem sampleAttrs_capability {objecttype : sai_object_type_t} :
    ∀ md ∈ sampleAttrs objecttype, md.attrvaluetype = .ACL_CAPABILITY → md.readOnly = true := by
  unfold sampleAttrs
  split_ifs <;> simp [switchAttrs, portAttrs, schedulerAttrs, plainAttr]

/-- The metadata with these attributes. -/
def sampleMetadata : Metadata where
  enum_sai_object_type_t := noNames
  extensionsMax := SAI_OBJECT_TYPE_MAX
  isnonobjectid objecttype := IsEntryType objecttype
  max_le := le_refl _
  enums := noEnums
  attrmetadata := sampleAttrs
  isnonobjectid_entry := fun _ h => decide_eq_true h
  isnonobjectid_port := by
    intro objecttype h
    refine decide_eq_false ?_
    rintro (ht | ht | ht) <;> rcases h with h | h | h | h <;> rw [ht] at h <;> revert h <;> decide
  readOnly_capability := fun _ => sampleAttrs_capability

def sampleSwitchId : sai_object_id_t := switchIdOf 0

def createSwitch : Call :=
  .create_oid switchType SAI_NULL_OBJECT_ID [.of SAI_SWITCH_ATTR_INIT_SWITCH .BOOL true] .SUCCESS
    sampleSwitchId

/-- A run reaches a state of which something is decided. -/
theorem reached_of_performAll {calls : List Call} {p : St → Bool}
    (h : ((performAll M s calls).map p).getD false = true) :
    ∃ s', Run (Guarded (Promised M) (Step M)) s calls s' ∧ p s' = true := by
  cases hall : performAll M s calls with
  | none =>
    rw [hall] at h
    cases h
  | some s' =>
    rw [hall] at h
    exact ⟨s', run_of_performAll hall, h⟩

/-! ### Atomic calls -/

/-- **A call is atomic exactly if** it is not the removal of a switch against its counter. -/
theorem atomic_iff (M : Metadata) (s : St) (call : Call) (hchange : call.IsChange) :
    Atomic M s call ↔ ¬ SwitchMisremoved M s call := by
  constructor
  · -- such a removal does not fail without a trace, or leaves the switch
    intro hatomic hmis
    cases call with
    | remove_oid object_type object_id status =>
      obtain ⟨hswitch, hvalid, count, hcount, hcase⟩ := hmis
      obtain ⟨-, -, -, -, hexists⟩ := validate_oid_spec hvalid
      obtain ⟨hunchanged, hgone⟩ :=
        hatomic status _ (remove_switch_eq hswitch hvalid hcount)
      rcases hcase with ⟨hne, hfailed⟩ | ⟨hzero, hsuccess⟩
      · have hinit := hunchanged hfailed
        rw [if_pos hne] at hinit
        rw [← hinit] at hexists
        simp [object_exists, meta_init_db] at hexists
      · have hobject := (hgone hsuccess _ rfl).object
        rw [if_neg (not_not.mpr hzero), hexists] at hobject
        cases hobject
    | _ => exact hmis
  · intro hmis status s' h
    cases call with
    | create_oid object_type switch_id attr_list st object_id =>
      exact ⟨unchanged_of_recorded h, fun _ key hkey => by cases hkey⟩
    | set_oid object_type object_id attr st =>
      exact ⟨unchanged_of_recorded h, fun _ key hkey => by cases hkey⟩
    | create_entry entry attr_list st =>
      refine ⟨?_, fun _ key hkey => by cases hkey⟩
      cases entry <;> exact unchanged_of_recorded h
    | set_entry entry attr st =>
      refine ⟨?_, fun _ key hkey => by cases hkey⟩
      cases entry <;> exact unchanged_of_recorded h
    | remove_oid object_type object_id st =>
      have hpassed : meta_sai_validate_oid M s object_type (some object_id) = .ok () →
          ∀ oid count, (oidKey object_type object_id).objectkey = .object_id oid →
            (oidKey object_type object_id).objecttype.1 = SAI_OBJECT_TYPE_SWITCH →
              s.ObjectReferences.lookup oid = some count →
                ¬ (count ≠ 0 ∧ st ≠ .SUCCESS ∨ count = 0 ∧ st = .SUCCESS) := by
        intro hvalid oid count hoid hswitch hcount hcase
        rw [objectkey_oidKey (validate_oid_spec hvalid).1] at hoid
        obtain rfl := sai_object_key_t.object_id.inj hoid
        rw [objecttype_oidKey] at hswitch
        exact hmis ⟨hswitch, hvalid, count, hcount, hcase⟩
      have hkey : (oidKey object_type object_id).objecttype.1 = SAI_OBJECT_TYPE_SWITCH →
          ∃ oid, (oidKey object_type object_id).objectkey = .object_id oid := by
        intro hswitch
        rw [objecttype_oidKey] at hswitch
        exact ⟨object_id, objectkey_oidKey (not_entry_of_switch hswitch) object_id⟩
      obtain ⟨hunchanged, hgone⟩ := atomic_remove quiet_validate_oid hpassed hkey h
      refine ⟨hunchanged, fun hsuccess key hkey => ?_⟩
      cases hkey
      exact hgone hsuccess
    | remove_entry entry st =>
      have hswitch := entry_not_switch entry
      have hatomic : (status ≠ .SUCCESS → s' = s) ∧ (status = .SUCCESS → IsGone s' entry.key) := by
        cases entry with
        | fdb entry =>
          exact atomic_remove quiet_checkEntry (fun _ _ _ _ h => absurd h hswitch)
            (fun h => absurd h hswitch) h
        | neighbor entry =>
          exact atomic_remove quiet_validate_neighbor_entry (fun _ _ _ _ h => absurd h hswitch)
            (fun h => absurd h hswitch) h
        | route entry =>
          exact atomic_remove quiet_validate_route_entry (fun _ _ _ _ h => absurd h hswitch)
            (fun h => absurd h hswitch) h
      refine ⟨hatomic.1, fun hsuccess key hkey => ?_⟩
      cases hkey
      exact hatomic.2 hsuccess
    | get_oid => exact hchange.elim
    | get_entry => exact hchange.elim
    | fdb_event => exact hchange.elim

theorem atomic_createSwitch : Atomic sampleMetadata meta_init_db createSwitch :=
  (atomic_iff sampleMetadata meta_init_db createSwitch trivial).mpr id

/-- **A switch that was removed is still there**: nothing refers to the new switch, so the
database is not cleared with it. -/
theorem not_atomic_remove_switch :
    ¬ ∀ (M : Metadata) (calls : List Call) (s : St),
      Run (Guarded (Promised M) (Step M)) meta_init_db calls s →
        ∀ call : Call, call.IsChange → Atomic M s call := by
  intro h
  have hreached : ∃ s, Run (Guarded (Promised sampleMetadata) (Step sampleMetadata)) meta_init_db
      [createSwitch] s ∧ (decide (s.ObjectReferences.lookup sampleSwitchId = some 0) &&
        decide (meta_sai_validate_oid sampleMetadata s switchType (some sampleSwitchId) = .ok ()))
          = true := reached_of_performAll (by decide +kernel)
  obtain ⟨s, hrun, hs⟩ := hreached
  obtain ⟨hcount, hvalid⟩ := Bool.and_eq_true_iff.mp hs
  have hremove : perform sampleMetadata s (.remove_oid switchType sampleSwitchId .SUCCESS)
      = .ok (.SUCCESS, if (0 : ℤ) ≠ 0 then meta_init_db else s) :=
    remove_switch_eq rfl (of_decide_eq_true hvalid) (of_decide_eq_true hcount)
  have hatomic := h sampleMetadata [createSwitch] s hrun
    (.remove_oid switchType sampleSwitchId .SUCCESS) trivial
  have hgone := (hatomic _ _ hremove).2 rfl _ rfl
  have hcounter := hgone.counter sampleSwitchId rfl
  rw [object_reference_exists, if_neg (by simp), of_decide_eq_true hcount] at hcounter
  cases hcounter

end Sai.Meta
