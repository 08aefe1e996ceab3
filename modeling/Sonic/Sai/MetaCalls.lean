/-
Sai/MetaCalls.lean

What the calls of the metadata database may throw.

Validation throws nothing that is FATAL, with one exception: the removal of a port goes
through the objects that were once listed for the port, and one of them may be gone
(`StaleRelated`).  Whatever else a validation passed is recorded without a FATAL exception,
and the database stays consistent (`perform_safe`).
-/
import Sonic.Sai.MetaReferences

namespace Sai.Meta

open IntType Outcome RefCount

variable {M : Metadata} {s s' : St} {oid : sai_object_id_t} {bad : Exn → Prop}
  {meta_key : sai_object_meta_key_t} {attr_list : List sai_attribute_t} {status : sai_status_t}

/-! ### The validation of ids and entries -/

theorem quiet_validate_oid {object_type : sai_object_type_t} {object_id : Option sai_object_id_t} :
    Quiet (meta_sai_validate_oid M s object_type object_id) := by
  refine quiet_require.bind fun _ => quiet_ite (quiet_throws not_isFatal_unsupported) ?_
  cases object_id with
  | none => exact quiet_ok
  | some oid =>
    exact quiet_require.bind fun _ => quiet_require.bind fun _ => quiet_require.bind fun _ =>
      quiet_require

theorem quiet_checkText : Quiet (checkText M meta_key) :=
  quiet_ite (quiet_throws not_isFatal_serialize) quiet_ok

theorem quiet_checkEntry {create : Bool} : Quiet (checkEntry M s meta_key create) :=
  quiet_checkText.bind fun _ => quiet_ite quiet_require quiet_require

theorem quiet_checkEntryMember {expected : sai_object_type_t} :
    Quiet (checkEntryMember M s oid expected) :=
  quiet_require.bind fun _ => quiet_require.bind fun _ => quiet_require.bind fun _ => quiet_require

theorem quiet_validate_neighbor_entry {neighbor_entry : sai_neighbor_entry_t} {create : Bool} :
    Quiet (meta_sai_validate_neighbor_entry M s neighbor_entry create) :=
  quiet_checkEntryMember.bind fun _ => quiet_checkEntry

theorem quiet_validate_route_entry {route_entry : sai_route_entry_t} {create : Bool} :
    Quiet (meta_sai_validate_route_entry M s route_entry create) := by
  have hrest : Quiet (checkEntryMember M s route_entry.vr_id
      ⟨SAI_OBJECT_TYPE_VIRTUAL_ROUTER, by decide⟩ >>= fun _ =>
        checkEntry M s (routeEntryKey route_entry) create) :=
    quiet_checkEntryMember.bind fun _ => quiet_checkEntry
  unfold meta_sai_validate_route_entry
  split
  · exact hrest
  · exact quiet_require.bind fun _ => hrest

/-- A validation that throws nothing FATAL. -/
theorem Quiet.throws {check : Check} (h : Quiet check) :
    ∀ e, check = .error (.throws e) → ¬ Exn.IsFatal e := by
  intro e he hfatal
  exact h.not_bad he (Or.inl ⟨e, rfl, hfatal⟩)

/-- A validation that stops does not return success. -/
theorem Quiet.returns {check : Check} (h : Quiet check) :
    ∀ status, check = .error (.returns status) → status ≠ .SUCCESS := by
  intro status hreturns hsuccess
  exact h.not_bad hreturns (Or.inr (hsuccess ▸ rfl))

/-- A valid id is that of an object of the type. -/
theorem validate_oid_spec {object_type : sai_object_type_t}
    (h : meta_sai_validate_oid M s object_type (some oid) = .ok ()) :
    ¬ IsEntryType object_type ∧ oid ≠ SAI_NULL_OBJECT_ID ∧
      (sai_object_type_query M.toSaiMetadata oid).1 ≠ SAI_OBJECT_TYPE_NULL ∧
      sai_object_type_query M.toSaiMetadata oid = object_type ∧
      object_exists s (oidKey object_type oid) = true := by
  rw [meta_sai_validate_oid, check_bind] at h
  obtain ⟨-, h⟩ := h
  split at h
  · cases h
  · next hid =>
      simp only [check_bind, require_eq_ok] at h
      exact ⟨fun hentry => hid (M.isnonobjectid_entry object_type hentry), h⟩

/-- An object is created of a type that has ids. -/
theorem validate_new_spec {object_type : sai_object_type_t}
    (h : meta_sai_validate_oid M s object_type none = .ok ()) : ¬ IsEntryType object_type := by
  rw [meta_sai_validate_oid, check_bind] at h
  obtain ⟨-, h⟩ := h
  split at h
  · cases h
  · next hid => exact fun hentry => hid (M.isnonobjectid_entry object_type hentry)

/-! ### The objects related to a port -/

/-- The removal of a port reaches a related object that is gone: those before it, and the
port itself, are as they have to be. -/
def StaleRelated (M : Metadata) (s : St) (port_id : sai_object_id_t) : Prop :=
  ∃ before oid after, s.map_port_to_related_set.lookup port_id = some (before ++ oid :: after) ∧
    object_reference_exists s oid = false ∧
    ∀ r ∈ port_id :: before, checkRemovable M s r = .ok true

/-- An id of a type that has ids, by which an object can be looked up. -/
structure HasText (M : Metadata) (oid : sai_object_id_t) : Prop where
  ne_null : oid ≠ SAI_NULL_OBJECT_ID
  text : (sai_serialize_object_meta_key M.toSaiMetadata (idKey M oid)).isSome = true

/-- An id whose counter is there is checked without an exception. -/
theorem checkRemovable_safe (htext : HasText M oid) (hexists : object_reference_exists s oid = true) :
    Safe bad (fun _ => True) (checkRemovable M s oid) := by
  obtain ⟨count, hcount⟩ := Option.isSome_iff_exists.mp hexists
  have hget : object_reference_count s oid = .ok count := by
    rw [object_reference_count, hcount]
  unfold checkRemovable
  rw [hget]
  show Safe bad _ (if count ≠ 0 then _ else meta_is_object_in_default_state M s oid)
  split
  · trivial
  · unfold meta_is_object_in_default_state
    rw [if_neg htext.ne_null, hexists, if_neg (by simp)]
    dsimp only
    split
    · next hnone =>
        have hsome := htext.text
        unfold idKey at hsome
        rw [Option.isNone_iff_eq_none] at hnone
        rw [hnone] at hsome
        cases hsome
    · split <;> trivial

/-- What an object that can be removed with its port is like. -/
theorem checkRemovable_spec (h : checkRemovable M s oid = .ok true) :
    s.ObjectReferences.lookup oid = some 0 ∧
      ∃ attrs, s.ObjectAttrHash.lookup (idKey M oid) = some attrs ∧
        ∀ id w, attrs.lookup id = some w → isDefault w = true := by
  unfold checkRemovable object_reference_count at h
  cases hcount : s.ObjectReferences.lookup oid with
  | none =>
    rw [hcount] at h
    cases h
  | some count =>
    rw [hcount] at h
    replace h : (if count ≠ 0 then Except.ok false
      else meta_is_object_in_default_state M s oid) = .ok true := h
    split at h
    · cases h
    · next hzero =>
        obtain rfl := not_not.mp hzero
        refine ⟨rfl, ?_⟩
        unfold meta_is_object_in_default_state at h
        split at h
        · cases h
        · split at h
          · cases h
          · dsimp only at h
            split at h
            · cases h
            · split at h
              · cases h
              · next attrs hattrs =>
                  refine ⟨attrs, hattrs, fun id w hw => ?_⟩
                  have hall := List.all_eq_true.mp (Except.ok.inj h)
                  exact hall ⟨id, w⟩ (Table.mem_entries.mpr hw)

/-- The walk along related objects that reaches none that is gone throws nothing; if it
succeeds, all of them can be removed. -/
theorem checkRelated_safe {related : List sai_object_id_t}
    (htext : ∀ oid ∈ related, HasText M oid)
    (h : ∀ before oid after, related = before ++ oid :: after →
      (∀ r ∈ before, checkRemovable M s r = .ok true) → object_reference_exists s oid = true) :
    Safe bad (fun status => status = .SUCCESS → ∀ r ∈ related, checkRemovable M s r = .ok true)
      (checkRelated M s related) := by
  induction related with
  | nil => exact fun _ _ hr => by cases hr
  | cons oid related ih =>
    have hexists := h [] oid related rfl (by simp)
    refine (checkRemovable_safe (htext oid List.mem_cons_self) hexists).bind
      fun removable hremovable _ => ?_
    cases removable with
    | false => exact fun hsuccess => by cases hsuccess
    | true =>
      refine (ih (fun r hr => htext r (List.mem_cons_of_mem _ hr)) ?_).imp
        fun status _ hstatus hsuccess r hr => ?_
      · intro before oid' after heq hbefore
        refine h (oid :: before) oid' after (by rw [heq]; rfl) fun r hr => ?_
        rcases List.mem_cons.mp hr with rfl | hmem
        · exact hremovable
        · exact hbefore r hmem
      · rcases List.mem_cons.mp hr with rfl | hmem
        · exact hremovable
        · exact hstatus hsuccess r hmem

/-- The walk that reaches an object that is gone throws. -/
theorem checkRelated_throws {before after : List sai_object_id_t}
    (hbefore : ∀ r ∈ before, checkRemovable M s r = .ok true)
    (hgone : object_reference_exists s oid = false) :
    checkRelated M s (before ++ oid :: after) = .error (.fatal .notInReferenceMap) := by
  induction before with
  | nil =>
    have hnone : s.ObjectReferences.lookup oid = none := by
      rwa [object_reference_exists, Option.isSome_eq_false_iff, Option.isNone_iff_eq_none] at hgone
    have hcheck : checkRemovable M s oid = .error (.fatal .notInReferenceMap) := by
      rw [checkRemovable, object_reference_count, hnone]
      rfl
    rw [List.nil_append, checkRelated, hcheck]
    rfl
  | cons r before ih =>
    rw [List.cons_append, checkRelated, hbefore r List.mem_cons_self]
    exact ih fun r' hr' => hbefore r' (List.mem_cons_of_mem _ hr')

theorem cast_byte {n : ℕ} (h : n ≤ 0xFF) : (IntType.int32.cast n).1 = n := by
  have hmin : IntType.int32.min = -2147483648 := by
    norm_num [IntType.min, IntType.signed, IntType.width]
  have hmax : IntType.int32.max = 2147483647 := by
    norm_num [IntType.max, IntType.min, IntType.signed, IntType.width]
  refine IntType.val_cast ⟨?_, ?_⟩
  · rw [hmin]
    exact le_trans (by norm_num) (Int.natCast_nonneg n)
  · rw [hmax]
    exact_mod_cast h.trans (by norm_num)

theorem typeByte_nonneg : 0 ≤ (typeByte oid).1 := by
  have hff : (0xFF : UInt64).toNat = 0xFF := by simp
  have hle : ((oid >>> 48) &&& 0xFF).toNat ≤ 0xFF := by
    rw [UInt64.toNat_and, hff]
    exact Nat.and_le_right
  rw [typeByte, cast_byte hle]
  exact Int.natCast_nonneg _

/-- The type that an id has is a type. -/
theorem valid_query (h : (sai_object_type_query M.toSaiMetadata oid).1 ≠ SAI_OBJECT_TYPE_NULL) :
    M.Valid (sai_object_type_query M.toSaiMetadata oid) := by
  unfold sai_object_type_query at h ⊢
  split_ifs at h ⊢ with hnull hot
  · exact absurd rfl h
  · exact absurd rfl h
  · obtain ⟨hne, hlt⟩ := not_or.mp hot
    exact ⟨lt_of_le_of_ne typeByte_nonneg (Ne.symm hne), not_le.mp hlt⟩

/-- An id of a type that has ids can be looked up. -/
theorem hasText_of_id (hid : M.isnonobjectid (sai_object_type_query M.toSaiMetadata oid) = false)
    (htype : (sai_object_type_query M.toSaiMetadata oid).1 ≠ SAI_OBJECT_TYPE_NULL) :
    HasText M oid := by
  have hentry : ¬ IsEntryType (sai_object_type_query M.toSaiMetadata oid) := by
    intro h
    rw [M.isnonobjectid_entry _ h] at hid
    cases hid
  constructor
  · rintro rfl
    exact htype (by rw [sai_object_type_query, if_pos rfl]; rfl)
  · have hvalid : M.Valid (idKey M oid).objecttype := by
      rw [idKey, objecttype_oidKey]
      exact valid_query htype
    rw [sai_serialize_object_meta_key, if_pos hvalid, idKey, objectkey_oidKey hentry,
      objecttype_oidKey]
    dsimp only
    rw [hid]
    rfl

theorem PortRelated.hasText (h : PortRelated M oid) : HasText M oid := by
  refine hasText_of_id (M.isnonobjectid_port _ (Or.inr h)) ?_
  rcases h with h | h | h <;> rw [h] <;> decide

/-! ### The validation of a remove -/

/-- A key is that of an id only. -/
theorem objectkey_idKey {oid' : sai_object_id_t} (h : (idKey M oid).objectkey = .object_id oid') :
    oid' = oid := by
  unfold idKey oidKey at h
  split_ifs at h
  exact (sai_object_key_t.object_id.inj h).symm

/-- An object that is checked for its port can be removed. -/
theorem removable_of_check (hc : Consistent M s) (h : checkRemovable M s oid = .ok true) :
    Removable s (idKey M oid) := by
  obtain ⟨hcount, attrs, hattrs, -⟩ := checkRemovable_spec h
  refine ⟨⟨attrs, hattrs⟩, fun oid' hoid' => ?_⟩
  rw [objectkey_idKey hoid']
  exact (hc.exact.counter hcount).symm

/-- What the validation of a remove may find. -/
inductive Verdict (M : Metadata) (s : St) (meta_key : sai_object_meta_key_t) :
    sai_status_t × St → Prop where
  | rejected {status : sai_status_t} (h : status ≠ .SUCCESS) : Verdict M s meta_key (status, s)
  | accepted (removable : Removable s meta_key)
      (related : ∀ oid ∈ relatedOf s meta_key, Removable s (idKey M oid))
      (checked : ∀ port_id, portId meta_key = some port_id →
        s.map_port_to_related_set.lookup port_id ≠ none →
          ∀ oid ∈ port_id :: relatedOf s meta_key, checkRemovable M s oid = .ok true) :
      Verdict M s meta_key (.SUCCESS, s)
  /-- the database was cleared for a switch that is referred to -/
  | cleared (hswitch : meta_key.objecttype.1 = SAI_OBJECT_TYPE_SWITCH) {oid : sai_object_id_t}
      (hkey : meta_key.objectkey = .object_id oid)
      (hcount : ∃ count, s.ObjectReferences.lookup oid = some count ∧ count ≠ 0) :
      Verdict M s meta_key (.SUCCESS, meta_init_db)

/-- The validation of the removal of a port. -/
theorem port_validation_safe (hc : Consistent M s)
    (hport : (sai_object_type_query M.toSaiMetadata oid).1 = SAI_OBJECT_TYPE_PORT)
    (hexists : object_reference_exists s oid = true) (hstale : ¬ StaleRelated M s oid) :
    Safe bad (fun status => status = .SUCCESS → s.map_port_to_related_set.lookup oid ≠ none →
        ∀ r ∈ oid :: (s.map_port_to_related_set.lookup oid).getD [],
          checkRemovable M s r = .ok true)
      (meta_port_remove_validation M s oid) := by
  unfold meta_port_remove_validation
  cases hlook : s.map_port_to_related_set.lookup oid with
  | none => exact fun _ hne => absurd rfl hne
  | some related =>
    have htext : HasText M oid := by
      refine hasText_of_id (M.isnonobjectid_port _ (Or.inl hport)) ?_
      rw [hport]
      decide
    refine (checkRelated_safe ?_ ?_).imp fun status _ hstatus hsuccess _ => hstatus hsuccess
    · intro r hr
      rcases List.mem_cons.mp hr with rfl | hmem
      · exact htext
      · exact ((hc.related oid related hlook).2 r hmem).hasText
    · intro before r after heq hbefore
      cases before with
      | nil =>
        obtain ⟨rfl, -⟩ := List.cons.inj heq
        exact hexists
      | cons port before =>
        obtain ⟨rfl, rfl⟩ := List.cons.inj heq
        by_contra hgone
        exact hstale ⟨before, r, after, hlook, Bool.eq_false_iff.mpr hgone, hbefore⟩

/-- **The validation of a remove throws nothing**, unless a related object of a port is
gone. -/
theorem validation_remove_safe (hc : Consistent M s)
    (hstale : ∀ port_id, portId meta_key = some port_id → ¬ StaleRelated M s port_id) :
    Safe bad (Verdict M s meta_key) (meta_generic_validation_remove M s meta_key) := by
  unfold meta_generic_validation_remove
  split
  · exact .rejected (by decide)
  · next hthere =>
      have hattrs : ∃ attrs, s.ObjectAttrHash.lookup meta_key = some attrs :=
        Option.isSome_iff_exists.mp (not_not.mp hthere)
      split
      · next oid hkey =>
          have hzero : ∀ count : ℤ, s.ObjectReferences.lookup oid = some count → count = 0 →
              Removable s meta_key := by
            intro count hcount h0
            refine ⟨hattrs, fun oid' hoid' => ?_⟩
            rw [hkey] at hoid'
            obtain rfl := sai_object_key_t.object_id.inj hoid'
            rw [← hc.exact.counter hcount, h0]
          dsimp only
          split
          · exact .rejected (by decide)
          · next hid =>
              push Not at hid
              obtain ⟨-, hnull, htype⟩ := hid
              split
              · exact .rejected (by decide)
              · next count hcount =>
                  split
                  · next hne =>
                      split
                      · next hswitch => exact .cleared (htype ▸ hswitch) hkey ⟨count, hcount, hne⟩
                      · exact .rejected (by decide)
                  · next h0 =>
                      have hremovable := hzero count hcount (not_not.mp h0)
                      split
                      · next hport =>
                          have hid : portId meta_key = some oid := by
                            rw [portId, hkey]
                            exact if_pos hport
                          have hrelated : relatedOf s meta_key
                              = (s.map_port_to_related_set.lookup oid).getD [] := by
                            rw [relatedOf, hid]
                            rfl
                          have hexists : object_reference_exists s oid = true :=
                            Option.isSome_iff_exists.mpr ⟨count, hcount⟩
                          refine (port_validation_safe hc (htype ▸ hport) hexists
                            (hstale oid hid)).bind fun status _ hstatus => ?_
                          by_cases hsuccess : status = .SUCCESS
                          · subst hsuccess
                            have hchecked := hstatus rfl
                            rw [← hrelated] at hchecked
                            refine .accepted hremovable (fun oid' hoid' => ?_) fun port_id hp hq => ?_
                            · have hlook : s.map_port_to_related_set.lookup oid ≠ none := by
                                intro hnone
                                rw [hrelated, hnone] at hoid'
                                cases hoid'
                              exact removable_of_check hc
                                (hchecked hlook oid' (List.mem_cons_of_mem _ hoid'))
                            · obtain rfl := Option.some.inj (hid.symm.trans hp)
                              exact hchecked hq
                          · exact .rejected hsuccess
                      · next hport =>
                          have hnone := portId_eq_none hport
                          refine .accepted hremovable (fun oid' hoid' => ?_) fun port_id hp => ?_
                          · rw [relatedOf, hnone] at hoid'
                            cases hoid'
                          · rw [hnone] at hp
                            cases hp
      · next hkey =>
          have hnone : portId meta_key = none := by
            unfold portId
            split
            · next oid hoid => exact absurd hoid (hkey oid)
            · rfl
          refine .accepted ⟨hattrs, fun oid hoid => absurd hoid (hkey oid)⟩
            (fun oid' hoid' => ?_) fun port_id hp => ?_
          · rw [relatedOf, hnone] at hoid'
            cases hoid'
          · rw [hnone] at hp
            cases hp

/-! ### Calls -/

/-- A switch is not recorded as removed: the database was cleared with it, or is not. -/
theorem post_remove_switch (h : meta_key.objecttype.1 = SAI_OBJECT_TYPE_SWITCH) :
    meta_generic_validation_post_remove M s meta_key = .ok s := by
  have hn : ∀ n, postRemove M n s meta_key = .ok s := by
    intro n
    cases n with
    | zero => rw [postRemove, if_pos h]
    | succ n => rw [postRemove, if_pos h]
  exact hn _

/-- What a remove may do. -/
inductive Removal (M : Metadata) (s : St) (meta_key : sai_object_meta_key_t)
    (status : sai_status_t) : sai_status_t × St → Prop where
  /-- it is rejected, or the vendor fails -/
  | failed {st : sai_status_t} (h : st ≠ .SUCCESS) : Removal M s meta_key status (st, s)
  | removed {s' : St} (hswitch : meta_key.objecttype.1 ≠ SAI_OBJECT_TYPE_SWITCH)
      (verdict : Verdict M s meta_key (.SUCCESS, s)) (removable : Removable s meta_key)
      (consistent : Consistent M s')
      (cleared : Cleared s s' (meta_key :: (relatedOf s meta_key).map (idKey M))) :
      Removal M s meta_key status (.SUCCESS, s')
  /-- a switch that nothing refers to stays -/
  | kept (hswitch : meta_key.objecttype.1 = SAI_OBJECT_TYPE_SWITCH) :
      Removal M s meta_key status (.SUCCESS, s)
  /-- a switch that is referred to takes the database along, whatever the vendor does -/
  | cleared (hswitch : meta_key.objecttype.1 = SAI_OBJECT_TYPE_SWITCH) :
      Removal M s meta_key status (status, meta_init_db)

theorem removeValidated_safe (hc : Consistent M s)
    (hstale : ∀ port_id, portId meta_key = some port_id → ¬ StaleRelated M s port_id) :
    Safe bad (Removal M s meta_key status) (removeValidated M s meta_key status) := by
  unfold removeValidated
  refine (validation_remove_safe hc hstale).bind ?_
  rintro ⟨verdict, s₁⟩ - hverdict
  show Safe bad _ (if verdict ≠ .SUCCESS then _ else _)
  cases hverdict with
  | rejected h =>
    rw [if_pos h]
    exact .failed h
  | cleared hswitch hkey hcount =>
    rw [if_neg (by simp), post_remove_switch hswitch]
    refine recorded_safe (fun _ => .cleared hswitch) fun _ => .cleared hswitch
  | accepted removable related checked =>
    rw [if_neg (by simp)]
    refine recorded_safe (fun hfailed => .failed hfailed) fun hstatus => ?_
    subst hstatus
    by_cases hswitch : meta_key.objecttype.1 = SAI_OBJECT_TYPE_SWITCH
    · rw [post_remove_switch hswitch]
      exact .kept hswitch
    · exact (post_remove_safe hc hswitch removable related).imp fun s' _ hs' =>
        .removed hswitch (.accepted removable related checked) removable hs'.1 hs'.2

theorem Removal.consistent (hc : Consistent M s) {r : sai_status_t × St}
    (h : Removal M s meta_key status r) : Consistent M r.2 := by
  cases h with
  | failed _ => exact hc
  | removed _ _ _ hs' _ => exact hs'
  | kept _ => exact hc
  | cleared _ => exact consistent_init

/-- What is recorded keeps what the recording keeps. -/
theorem recorded_keeps {I : St → Prop} {post : Except Exn St} (hs : I s)
    (hpost : status = .SUCCESS → Safe bad I post) :
    Safe bad (fun r => I r.2) (recorded s status post) := by
  refine recorded_safe (fun _ => hs) fun hsuccess => ?_
  exact (hpost hsuccess).imp fun s' _ hs' => hs'

/-- A validation that passes leads on to the rest of the call. -/
theorem validated_keeps {I : St → Prop} {check : Check} {next : Result} (hcheck : Quiet check)
    (hs : I s) (hnext : check = .ok () → Safe Exn.IsFatal (fun r => I r.2) next) :
    Safe Exn.IsFatal (fun r => I r.2) (validated s check next) :=
  validated_safe hcheck.throws (fun _ _ => hs) hnext

/-- A new object, or a new entry, is recorded. -/
theorem created_safe {switch_id : sai_object_id_t} (hc : Consistent M s)
    (hcreatable : Creatable M s meta_key attr_list)
    (hnone : status = .SUCCESS → object_exists s meta_key = false)
    (hnew : status = .SUCCESS → ∀ oid, meta_key.objectkey = .object_id oid →
      object_reference_exists s oid = false) :
    Safe Exn.IsFatal (fun r => Consistent M r.2)
      (recorded s status
        (meta_generic_validation_post_create M s meta_key switch_id attr_list)) := by
  refine recorded_keeps hc fun hsuccess => ?_
  have hlook : s.ObjectAttrHash.lookup meta_key = none := by
    have h := hnone hsuccess
    rw [object_exists, Option.isSome_eq_false_iff, Option.isNone_iff_eq_none] at h
    exact h
  exact post_create_safe hc hlook (hnew hsuccess) hcreatable

theorem create_oid_safe {object_type : sai_object_type_t} {switch_id object_id : sai_object_id_t}
    (hc : Consistent M s)
    (hfresh : status = .SUCCESS → object_reference_exists s object_id = false ∧
      object_exists s (oidKey object_type object_id) = false) :
    Safe Exn.IsFatal (fun r => Consistent M r.2)
      (meta_sai_create_oid M s object_type switch_id attr_list status object_id) := by
  refine validated_keeps quiet_validate_oid hc fun hvalid => ?_
  refine validated_keeps quiet_create hc fun hcreate => ?_
  have hkey : ∀ oid, (oidKey object_type oid).objectkey = .object_id oid :=
    objectkey_oidKey (validate_new_spec hvalid)
  refine created_safe hc ?_ (fun hsuccess => (hfresh hsuccess).2) fun hsuccess oid hoid => ?_
  · -- what was validated for the id NULL holds for the new id
    obtain ⟨-, hnodup, hrecordable, -⟩ := validation_create_spec hcreate
    rw [objecttype_oidKey] at hrecordable
    refine ⟨?_, hnodup, ?_, fun hentry => ?_⟩
    · rw [hkey]
      exact fun oid hoid => by cases hoid
    · rw [objecttype_oidKey]
      exact hrecordable
    · rw [hkey] at hentry
      exact absurd rfl hentry
  · rw [hkey] at hoid
    rw [← sai_object_key_t.object_id.inj hoid]
    exact (hfresh hsuccess).1

/-- The members of an entry make its key one of no id. -/
theorem createEntry_safe {check : Check} {switch_id : sai_object_id_t} (hc : Consistent M s)
    (hcheck : Quiet check) (hentry : meta_key.objectkey.references ≠ []) :
    Safe Exn.IsFatal (fun r => Consistent M r.2)
      (createEntry M s check meta_key switch_id attr_list status) := by
  refine validated_keeps hcheck hc fun _ => ?_
  refine validated_keeps quiet_create hc fun hcreate => ?_
  have hcreatable := validation_create_spec hcreate
  refine created_safe hc hcreatable (fun _ => hcreatable.notThere hentry) fun _ oid hoid => ?_
  rw [hoid] at hentry
  exact absurd rfl hentry

/-- An attribute that was validated is recorded. -/
theorem setRecorded_safe {attr : sai_attribute_t} (hc : Consistent M s)
    (hset : meta_generic_validation_set M s meta_key attr = .ok ()) :
    Safe Exn.IsFatal (Consistent M) (meta_generic_validation_post_set M s meta_key attr) := by
  obtain ⟨hrecordable, hexists⟩ := validation_set_spec hset
  obtain ⟨attrs, hattrs⟩ := Option.isSome_iff_exists.mp hexists
  exact (post_set_safe hc hattrs hrecordable).imp fun s' _ hs' => hs'.1

theorem set_safe {check : Check} {attr : sai_attribute_t} (hc : Consistent M s)
    (hcheck : Quiet check) :
    Safe Exn.IsFatal (fun r => Consistent M r.2) (setEntry M s check meta_key attr status) := by
  refine validated_keeps hcheck hc fun _ => ?_
  refine validated_keeps quiet_set hc fun hset => ?_
  exact recorded_keeps hc fun _ => setRecorded_safe hc hset

theorem get_safe {check : Check} {reply : List sai_attribute_t} (hc : Consistent M s)
    (hcheck : Quiet check)
    (hvalid : status = .SUCCESS → ValidReply M meta_key.objecttype reply)
    (hport : status = .SUCCESS → meta_key.objecttype.1 = SAI_OBJECT_TYPE_PORT →
      ValidPortReply M reply) :
    Safe Exn.IsFatal (fun r => Consistent M r.2)
      (getEntry M s check meta_key attr_list status reply) := by
  refine validated_keeps hcheck hc fun _ => ?_
  refine validated_keeps quiet_get hc fun _ => ?_
  exact recorded_keeps hc fun hsuccess =>
    post_get_safe hc (hvalid hsuccess) (hport hsuccess)

theorem remove_safe {check : Check} (hc : Consistent M s) (hcheck : Quiet check)
    (hstale : check = .ok () →
      ∀ port_id, portId meta_key = some port_id → ¬ StaleRelated M s port_id) :
    Safe Exn.IsFatal (fun r => Consistent M r.2) (removeEntry M s check meta_key status) := by
  refine validated_keeps hcheck hc fun hpassed => ?_
  exact (removeValidated_safe hc (hstale hpassed)).imp fun r _ hr => hr.consistent hc

/-! ### FDB events -/

/-- The ids in an event are valid. -/
def ValidEvent (M : Metadata) (data : sai_fdb_event_notification_data_t) : Prop :=
  ValidId M data.fdb_entry.bv_id ∧ ∀ attr ∈ data.attr,
    ∀ md ∈ M.sai_metadata_get_attr_metadata fdbType attr.id,
      md.attrvaluetype = .OBJECT_ID → ValidId M attr.value.oid

instance {data : sai_fdb_event_notification_data_t} : Decidable (ValidEvent M data) :=
  inferInstanceAs (Decidable (_ ∧ ∀ attr ∈ data.attr,
    ∀ md ∈ M.sai_metadata_get_attr_metadata fdbType attr.id, _))

variable {data : sai_fdb_event_notification_data_t}

theorem snoopEvent_safe (hc : Consistent M s) (hvalid : ValidEvent M data) :
    Safe Exn.IsFatal (fun s' => Consistent M s' ∧ SameEntries s s') (snoopEvent M s data) := by
  obtain ⟨hbv, hattr⟩ := hvalid
  unfold snoopEvent
  refine (snoop_safe hc hbv).bind fun s₁ _ hs₁ => ?_
  refine Safe.foldlM (I := fun rest s' => (Consistent M s' ∧ SameEntries s s') ∧ rest ⊆ data.attr)
    ⟨hs₁, List.Subset.refl _⟩ (fun attr rest s₂ hs₂ => ?_) |>.imp fun s₃ _ hs₃ => hs₃.1
  obtain ⟨⟨hc₂, hsame⟩, hsub⟩ := hs₂
  have hrest : rest ⊆ data.attr := fun a ha => hsub (List.mem_cons_of_mem _ ha)
  split
  · exact ⟨⟨hc₂, hsame⟩, hrest⟩
  · next md hmd =>
      split
      · next htype =>
          exact (snoop_safe hc₂ (hattr attr (hsub List.mem_cons_self) md hmd htype)).imp
            fun s₃ _ hs₃ => ⟨⟨hs₃.1, hsame.trans hs₃.2⟩, hrest⟩
      · exact ⟨⟨hc₂, hsame⟩, hrest⟩

/-- An entry that is there can be removed. -/
theorem removable_fdb {fdb_entry : sai_fdb_entry_t} (h : object_exists s (fdbKey fdb_entry) = true) :
    Removable s (fdbKey fdb_entry) :=
  ⟨Option.isSome_iff_exists.mp h, fun oid hoid => by cases hoid⟩

/-- An FDB entry is removed alone. -/
theorem removed_fdb_safe {fdb_entry : sai_fdb_entry_t} (hc : Consistent M s)
    (h : object_exists s (fdbKey fdb_entry) = true) :
    Safe Exn.IsFatal (fun s' => Consistent M s' ∧ Cleared s s' [fdbKey fdb_entry])
      (meta_generic_validation_post_remove M s (fdbKey fdb_entry)) :=
  have hswitch : SAI_OBJECT_TYPE_FDB_ENTRY ≠ SAI_OBJECT_TYPE_SWITCH := by decide
  post_remove_safe hc hswitch (removable_fdb h) fun oid hoid => by cases hoid

/-- What is flushed: different FDB entries that are there. -/
theorem toremove_spec {bpid : Option sai_attribute_t} {type : sai_attribute_t}
    {objects : List (Sigma fun _ : sai_object_meta_key_t => Table ℕ SaiAttrWrapper)}
    {keys : List sai_object_meta_key_t} (h : toremove data bpid type objects = .ok keys) :
    keys.Sublist (objects.map (·.1)) ∧ ∀ key ∈ keys, ∃ fdb_entry, key = fdbKey fdb_entry := by
  induction objects generalizing keys with
  | nil =>
    cases h
    exact ⟨.slnil, by simp⟩
  | cons e objects ih =>
    rw [toremove] at h
    obtain ⟨flushed, hflushed, h⟩ := bind_eq_ok.mp h
    obtain ⟨rest, hrest, h⟩ := bind_eq_ok.mp h
    obtain ⟨hsub, hfdb⟩ := ih hrest
    cases h
    cases flushed with
    | false => exact ⟨hsub.cons e.1, hfdb⟩
    | true =>
      refine ⟨hsub.cons_cons e.1, fun key hkey => ?_⟩
      rcases List.mem_cons.mp hkey with rfl | hmem
      · obtain ⟨⟨objecttype, objectkey, hmatch⟩, attrs⟩ := e
        unfold flushes at hflushed
        cases objectkey with
        | fdb_entry fdb_entry =>
          have htype : objecttype = fdbType := Subtype.ext hmatch
          subst htype
          exact ⟨fdb_entry, rfl⟩
        | object_id oid => cases hflushed
        | route_entry entry => cases hflushed
        | neighbor_entry entry => cases hflushed
      · exact hfdb key hmem

/-- An FDB entry without a type throws what is not FATAL. -/
theorem toremove_error {bpid : Option sai_attribute_t} {type : sai_attribute_t}
    {objects : List (Sigma fun _ : sai_object_meta_key_t => Table ℕ SaiAttrWrapper)} {e : Exn}
    (h : toremove data bpid type objects = .error e) : ¬ e.IsFatal := by
  have hsafe : Safe Exn.IsFatal (fun _ => True) (toremove data bpid type objects) := by
    clear h
    induction objects with
    | nil => trivial
    | cons object objects ih =>
      rw [toremove]
      refine Safe.bind (Q := fun _ => True) ?_ fun flushed _ _ => ih.bind fun keys _ _ => trivial
      unfold flushes
      split
      · split
        · exact not_isFatal_crash
        · trivial
      · trivial
  exact hsafe.not_bad h

/-- While entries are flushed: those that are left are there. -/
structure Flushing (M : Metadata) (keys : List sai_object_meta_key_t) (s : St) : Prop where
  consistent : Consistent M s
  nodup : keys.Nodup
  fdb : ∀ key ∈ keys, ∃ fdb_entry, key = fdbKey fdb_entry ∧ object_exists s key = true

theorem flush_consolidated_safe (hc : Consistent M s) :
    Safe Exn.IsFatal (Consistent M) (meta_sai_on_fdb_flush_event_consolidated M s data) := by
  unfold meta_sai_on_fdb_flush_event_consolidated
  dsimp only
  split
  · exact not_isFatal_crash
  · next type _ =>
      refine Safe.bind (Q := fun keys => Flushing M keys s) ?_ fun keys _ hkeys => ?_
      · cases hremove : toremove data (sai_metadata_get_attr_by_id SAI_FDB_ENTRY_ATTR_BRIDGE_PORT_ID
            data.attr) type s.ObjectAttrHash.entries with
        | error e => exact toremove_error hremove
        | ok keys =>
          obtain ⟨hsub, hfdb⟩ := toremove_spec hremove
          refine ⟨hc, hsub.nodup s.ObjectAttrHash.nodupKeys, fun key hkey => ?_⟩
          obtain ⟨fdb_entry, rfl⟩ := hfdb key hkey
          refine ⟨fdb_entry, rfl, ?_⟩
          obtain ⟨e, he, hekey⟩ := List.mem_map.mp (hsub.subset hkey)
          refine Option.isSome_iff_exists.mpr ⟨e.2, ?_⟩
          rw [← hekey]
          exact Table.mem_entries.mp he
      · refine (Safe.foldlM (I := Flushing M) hkeys fun key rest s₁ hs₁ => ?_).imp
          fun s₂ _ hs₂ => hs₂.consistent
        obtain ⟨fdb_entry, rfl, hexists⟩ := hs₁.fdb key List.mem_cons_self
        obtain ⟨hnotin, hnodup⟩ := List.nodup_cons.mp hs₁.nodup
        refine (removed_fdb_safe hs₁.consistent hexists).imp fun s₂ _ hs₂ => ?_
        refine ⟨hs₂.1, hnodup, fun key' hkey' => ?_⟩
        obtain ⟨fdb_entry', rfl, hexists'⟩ := hs₁.fdb key' (List.mem_cons_of_mem _ hkey')
        refine ⟨fdb_entry', rfl, ?_⟩
        have hne : fdbKey fdb_entry' ∉ [fdbKey fdb_entry] := by
          intro hmem
          rw [List.mem_singleton.mp hmem] at hkey'
          exact hnotin hkey'
        rw [object_exists, hs₂.2.hash, if_neg hne]
        exact hexists'

theorem moveAttr_safe {attr : sai_attribute_t} (hc : Consistent M s) :
    Safe Exn.IsFatal (Consistent M) (moveAttr M meta_key s attr) := by
  unfold moveAttr
  cases hset : meta_generic_validation_set M s meta_key attr with
  | ok _ => exact setRecorded_safe hc hset
  | error stop =>
    cases stop with
    | returns status => exact hc
    | throws e => exact quiet_set.throws e hset

/-- **An FDB event keeps the database consistent.** -/
theorem fdb_event_safe (hc : Consistent M s) (hvalid : ValidEvent M data) :
    Safe Exn.IsFatal (Consistent M) (meta_sai_on_fdb_event_single M s data) := by
  unfold meta_sai_on_fdb_event_single
  refine (snoopEvent_safe hc hvalid).bind fun s₁ _ hs₁ => ?_
  obtain ⟨hc₁, -⟩ := hs₁
  have hremove : object_exists s₁ (fdbKey data.fdb_entry) = true → Safe Exn.IsFatal (Consistent M)
      (meta_generic_validation_post_remove M s₁ (fdbKey data.fdb_entry)) := by
    intro hexists
    exact (removed_fdb_safe hc₁ hexists).imp fun s₂ _ hs₂ => hs₂.1
  split
  · -- learned
    split
    · exact hc₁
    · next hnone =>
        dsimp only
        cases hcreate : meta_generic_validation_create M s₁ (fdbKey data.fdb_entry)
            data.fdb_entry.switch_id (learnedAttrs data.attr) with
        | error stop =>
          cases stop with
          | returns status => exact hc₁
          | throws e => exact quiet_create.throws e hcreate
        | ok _ =>
          refine post_create_safe hc₁ ?_ (fun oid hoid => by cases hoid)
            (validation_create_spec hcreate)
          rw [object_exists, Bool.not_eq_true, Option.isSome_eq_false_iff,
            Option.isNone_iff_eq_none] at hnone
          exact hnone
  · -- aged
    split
    · next hexists => exact hremove hexists
    · exact hc₁
  · -- flushed
    split
    · exact flush_consolidated_safe hc₁
    · split
      · next hexists => exact hremove hexists
      · exact hc₁
  · -- moved
    split
    · exact (Safe.foldlM (I := fun _ => Consistent M) hc₁ fun attr rest s hs => moveAttr_safe hs)
    · exact hc₁
  · exact hc₁

/-! ### Any call -/

/-- What the vendor and the notifications promise about a call: ids of new objects are
fresh, ids that are returned are ids of objects, and what a port lists belongs to ports. -/
def Promised (M : Metadata) (s : St) : Call → Prop
  | .create_oid object_type _ _ status object_id =>
    status = .SUCCESS → object_reference_exists s object_id = false ∧
      object_exists s (oidKey object_type object_id) = false
  | .get_oid object_type _ _ status reply =>
    status = .SUCCESS → ValidReply M object_type reply ∧
      (object_type.1 = SAI_OBJECT_TYPE_PORT → ValidPortReply M reply)
  | .get_entry entry _ status reply =>
    status = .SUCCESS → ValidReply M entry.key.objecttype reply
  | .fdb_event data => ValidEvent M data
  | _ => True

instance : (call : Call) → Decidable (Promised M s call)
  | .create_oid _ _ _ _ _ => inferInstanceAs (Decidable (_ → _ ∧ _))
  | .get_oid _ _ _ _ _ => inferInstanceAs (Decidable (_ → _ ∧ (_ → _)))
  | .get_entry _ _ _ _ => inferInstanceAs (Decidable (_ → ValidReply _ _ _))
  | .fdb_event data => inferInstanceAs (Decidable (ValidEvent M data))
  | .remove_oid _ _ _ | .set_oid _ _ _ _ | .create_entry _ _ _ | .remove_entry _ _
  | .set_entry _ _ _ => isTrue trivial

/-- The call removes a port, and reaches a related object that is gone. -/
def StaleRemoval (M : Metadata) (s : St) : Call → Prop
  | .remove_oid object_type object_id _ =>
    object_type.1 = SAI_OBJECT_TYPE_PORT ∧
      meta_sai_validate_oid M s object_type (some object_id) = .ok () ∧
      StaleRelated M s object_id
  | _ => False

theorem portId_oidKey {object_type : sai_object_type_t} {port_id : sai_object_id_t}
    (h : portId (oidKey object_type oid) = some port_id) :
    object_type.1 = SAI_OBJECT_TYPE_PORT ∧ port_id = oid := by
  have hport : object_type.1 = SAI_OBJECT_TYPE_PORT := by
    by_contra hne
    have hnone : portId (oidKey object_type oid) = none :=
      portId_eq_none (by rw [objecttype_oidKey]; exact hne)
    rw [hnone] at h
    cases h
  have hentry : ¬ IsEntryType object_type := by
    rintro (ht | ht | ht) <;> rw [ht] at hport <;> revert hport <;> decide
  rw [portId, objectkey_oidKey hentry, objecttype_oidKey] at h
  replace h : (if object_type.1 = SAI_OBJECT_TYPE_PORT then some oid else none) = some port_id := h
  rw [if_pos hport] at h
  exact ⟨hport, (Option.some.inj h).symm⟩

theorem entry_references (entry : Entry) : entry.key.objectkey.references ≠ [] := by
  cases entry <;> simp [Entry.key, fdbKey, neighborKey, routeEntryKey,
    sai_object_key_t.references, sai_object_key_t.structmembers]

theorem portId_entry (entry : Entry) : portId entry.key = none := by
  cases entry <;> rfl

theorem entry_not_port (entry : Entry) : entry.key.objecttype.1 ≠ SAI_OBJECT_TYPE_PORT := by
  cases entry with
  | fdb entry => exact show SAI_OBJECT_TYPE_FDB_ENTRY ≠ SAI_OBJECT_TYPE_PORT by decide
  | neighbor entry => exact show SAI_OBJECT_TYPE_NEIGHBOR_ENTRY ≠ SAI_OBJECT_TYPE_PORT by decide
  | route entry => exact show SAI_OBJECT_TYPE_ROUTE_ENTRY ≠ SAI_OBJECT_TYPE_PORT by decide

/-- **No call throws what is FATAL**, unless it removes a port of which a related object is
gone; and every call that returns leaves the database consistent. -/
theorem perform_safe {call : Call} (hc : Consistent M s) (hp : Promised M s call)
    (hstale : ¬ StaleRemoval M s call) :
    Safe Exn.IsFatal (fun r => Consistent M r.2) (perform M s call) := by
  cases call with
  | create_oid object_type switch_id attr_list status object_id => exact create_oid_safe hc hp
  | remove_oid object_type object_id status =>
    refine remove_safe hc quiet_validate_oid fun hvalid port_id hport hrelated => ?_
    obtain ⟨htype, rfl⟩ := portId_oidKey hport
    exact hstale ⟨htype, hvalid, hrelated⟩
  | set_oid object_type object_id attr status => exact set_safe hc quiet_validate_oid
  | get_oid object_type object_id attr_list status reply =>
    refine get_safe hc quiet_validate_oid (fun hs => ?_) fun hs hport => ?_
    · rw [objecttype_oidKey]
      exact (hp hs).1
    · rw [objecttype_oidKey] at hport
      exact (hp hs).2 hport
  | create_entry entry attr_list status =>
    have hentry := entry_references entry
    cases entry with
    | fdb entry => exact createEntry_safe hc quiet_checkEntry hentry
    | neighbor entry => exact createEntry_safe hc quiet_validate_neighbor_entry hentry
    | route entry => exact createEntry_safe hc quiet_validate_route_entry hentry
  | remove_entry entry status =>
    have hport : ∀ port_id, portId entry.key = some port_id → ¬ StaleRelated M s port_id := by
      intro port_id h
      rw [portId_entry] at h
      cases h
    cases entry with
    | fdb entry => exact remove_safe hc quiet_checkEntry fun _ => hport
    | neighbor entry => exact remove_safe hc quiet_validate_neighbor_entry fun _ => hport
    | route entry => exact remove_safe hc quiet_validate_route_entry fun _ => hport
  | set_entry entry attr status =>
    cases entry with
    | fdb entry => exact set_safe hc quiet_checkEntry
    | neighbor entry => exact set_safe hc quiet_validate_neighbor_entry
    | route entry => exact set_safe hc quiet_validate_route_entry
  | get_entry entry attr_list status reply =>
    have hport := entry_not_port entry
    cases entry with
    | fdb entry => exact get_safe hc quiet_checkText hp fun _ h => absurd h hport
    | neighbor entry =>
      exact get_safe hc quiet_validate_neighbor_entry hp fun _ h => absurd h hport
    | route entry => exact get_safe hc quiet_validate_route_entry hp fun _ h => absurd h hport
  | fdb_event data =>
    have hsafe : Safe Exn.IsFatal (Consistent M) (meta_sai_on_fdb_event_single M s data) :=
      fdb_event_safe hc hp
    rw [perform]
    cases hevent : meta_sai_on_fdb_event_single M s data with
    | ok s' => exact hsafe.post hevent
    | error e => exact hsafe.not_bad hevent

/-- The removal that reaches a related object that is gone throws. -/
theorem stale_throws {object_type : sai_object_type_t} {object_id : sai_object_id_t}
    (h : StaleRemoval M s (.remove_oid object_type object_id status)) :
    perform M s (.remove_oid object_type object_id status)
      = .error (.fatal .notInReferenceMap) := by
  obtain ⟨hport, hvalid, before, gone, after, hrelated, hgone, hbefore⟩ := h
  obtain ⟨hentry, hnull, hot, htype, hexists⟩ := validate_oid_spec hvalid
  have hcount := (checkRemovable_spec (hbefore object_id List.mem_cons_self)).1
  have hwalk : meta_port_remove_validation M s object_id = .error (.fatal .notInReferenceMap) := by
    rw [meta_port_remove_validation, hrelated]
    exact checkRelated_throws hbefore hgone
  have hvalidation : meta_generic_validation_remove M s (oidKey object_type object_id)
      = .error (.fatal .notInReferenceMap) := by
    unfold meta_generic_validation_remove
    rw [if_neg (not_not.mpr hexists), objectkey_oidKey hentry, objecttype_oidKey]
    dsimp only
    rw [if_neg (by rw [htype] at hot ⊢; tauto), hcount]
    dsimp only
    rw [if_neg (by simp), if_pos hport, hwalk]
    rfl
  show validated s (meta_sai_validate_oid M s object_type (some object_id)) _ = _
  rw [hvalid]
  show removeValidated M s (oidKey object_type object_id) status = _
  rw [removeValidated, hvalidation]
  rfl

end Sai.Meta
