/-
Sai/MetaReferences.lean

The reference counters of the metadata database are exact.

The references that there are (`occ`) are counted over the stored attributes and over the
members of entries.  Recording a call counts up and down what it stores and removes, so the
counters stay equal to the references (`Consistent`), and a counter is never taken below
zero.  Validation has made sure that what is referred to is known.
-/
import Sonic.Sai.MetaApi

namespace Sai.Meta

open IntType Outcome RefCount
open Transition (Run Guarded)

variable {M : Metadata} {s s' : St} {oid : sai_object_id_t} {list : List sai_object_id_t}

/-! ### The references -/

/-- How often a list refers to an object; NULL is not counted. -/
def weight (list : List sai_object_id_t) (oid : sai_object_id_t) : ℤ :=
  (list.filter (· ≠ SAI_NULL_OBJECT_ID)).count oid

/-- How often some attributes refer to an object. -/
def attrsWeight (attrs : Table ℕ SaiAttrWrapper) (oid : sai_object_id_t) : ℤ :=
  Table.sum (fun _ w => weight w.references oid) attrs

/-- How often an object with its key refers to an object. -/
def objectWeight (meta_key : sai_object_meta_key_t) (attrs : Table ℕ SaiAttrWrapper)
    (oid : sai_object_id_t) : ℤ :=
  weight meta_key.objectkey.references oid + attrsWeight attrs oid

/-- How often the objects of the database refer to an object. -/
def occ (s : St) (oid : sai_object_id_t) : ℤ :=
  Table.sum (fun meta_key attrs => objectWeight meta_key attrs oid) s.ObjectAttrHash

/-- What is stored under an id: an attribute with that id and its metadata, of a type that
can be taken back. -/
structure TypedAttr (M : Metadata) (objecttype : sai_object_type_t) (id : ℕ)
    (w : SaiAttrWrapper) : Prop where
  meta_eq : M.sai_metadata_get_attr_metadata objecttype id = some w.m_meta
  id_eq : w.m_attr.id = id
  supported : inPostRemove w.m_meta.attrvaluetype = true

/-- Stored attributes have the metadata of their ids. -/
def Typed (M : Metadata) (s : St) : Prop :=
  ∀ meta_key attrs id w, s.ObjectAttrHash.lookup meta_key = some attrs →
    attrs.lookup id = some w → TypedAttr M meta_key.objecttype id w

/-- The id of a queue, a scheduler group or a priority group. -/
def PortRelated (M : Metadata) (oid : sai_object_id_t) : Prop :=
  IsPortRelated (sai_object_type_query M.toSaiMetadata oid)

instance : Decidable (PortRelated M oid) := inferInstanceAs (Decidable (IsPortRelated _))

/-- The objects related to a port are a set of queues, scheduler groups and priority groups. -/
def RelatedSets (M : Metadata) (s : St) : Prop :=
  ∀ port_id related, s.map_port_to_related_set.lookup port_id = some related →
    OrderedSet.Ordered UInt64.toNat related ∧ ∀ oid ∈ related, PortRelated M oid

/-- The database is consistent: counters are exact. -/
structure Consistent (M : Metadata) (s : St) : Prop where
  exact : Exact s.ObjectReferences (occ s)
  typed : Typed M s
  related : RelatedSets M s

theorem weight_nonneg : 0 ≤ weight list oid := Int.natCast_nonneg _

theorem attrsWeight_nonneg {attrs : Table ℕ SaiAttrWrapper} : 0 ≤ attrsWeight attrs oid :=
  Table.sum_nonneg fun _ _ _ => weight_nonneg

theorem objectWeight_nonneg {meta_key : sai_object_meta_key_t} {attrs : Table ℕ SaiAttrWrapper} :
    0 ≤ objectWeight meta_key attrs oid :=
  add_nonneg weight_nonneg attrsWeight_nonneg

/-- An object refers at most as often as all objects do. -/
theorem objectWeight_le_occ {meta_key : sai_object_meta_key_t} {attrs : Table ℕ SaiAttrWrapper}
    (h : s.ObjectAttrHash.lookup meta_key = some attrs) :
    objectWeight meta_key attrs oid ≤ occ s oid :=
  Table.le_sum (f := fun meta_key attrs => objectWeight meta_key attrs oid)
    (fun _ _ _ => objectWeight_nonneg) h

theorem occ_nonneg : 0 ≤ occ s oid := Table.sum_nonneg fun _ _ _ => objectWeight_nonneg

theorem consistent_init : Consistent M meta_init_db where
  exact := fun oid => ⟨by simp [meta_init_db], fun _ => rfl⟩
  typed := fun _ _ _ _ h => by simp [meta_init_db] at h
  related := fun _ _ h => by simp [meta_init_db] at h

theorem occ_congr (h : s'.ObjectAttrHash = s.ObjectAttrHash) : occ s' oid = occ s oid := by
  unfold occ
  rw [h]

theorem Typed.congr (ht : Typed M s) (h : s'.ObjectAttrHash = s.ObjectAttrHash) : Typed M s' := by
  unfold Typed
  rw [h]
  exact ht

theorem RelatedSets.congr (hr : RelatedSets M s)
    (h : s'.map_port_to_related_set = s.map_port_to_related_set) : RelatedSets M s' := by
  unfold RelatedSets
  rw [h]
  exact hr

/-! ### Counting -/

/-- New counters, and nothing else. -/
structure Recounted (s s' : St) (occ' : sai_object_id_t → ℤ) : Prop where
  eq : s' = { s with ObjectReferences := s'.ObjectReferences }
  exact : Exact s'.ObjectReferences occ'
  known : ∀ oid, object_reference_exists s' oid = object_reference_exists s oid

theorem Recounted.hash {occ' : sai_object_id_t → ℤ} (h : Recounted s s' occ') :
    s'.ObjectAttrHash = s.ObjectAttrHash := by
  rw [h.eq]

theorem Recounted.map {occ' : sai_object_id_t → ℤ} (h : Recounted s s' occ') :
    s'.map_port_to_related_set = s.map_port_to_related_set := by
  rw [h.eq]

theorem Recounted.knows {occ' : sai_object_id_t → ℤ} (h : Recounted s s' occ')
    (hoid : Known s oid) : Known s' oid := by
  rcases hoid with hnull | hexists
  · exact Or.inl hnull
  · exact Or.inr ((h.known oid).trans hexists)

/-- Counting along a list, one after the other or in the table at once. -/
theorem foldlM_counted (count : Table sai_object_id_t ℤ → sai_object_id_t →
    Except Fault (Table sai_object_id_t ℤ)) (s : St) (list : List sai_object_id_t) :
    list.foldlM (fun s oid => if oid = SAI_NULL_OBJECT_ID then Except.ok s
        else counted s (count s.ObjectReferences oid)) s
      = counted s ((list.filter (· ≠ SAI_NULL_OBJECT_ID)).foldlM count s.ObjectReferences) := by
  induction list generalizing s with
  | nil => rfl
  | cons a list ih =>
    rw [List.foldlM_cons]
    by_cases ha : a = SAI_NULL_OBJECT_ID
    · rw [if_pos ha, List.filter_cons_of_neg (by simpa using ha)]
      exact ih s
    · rw [if_neg ha, List.filter_cons_of_pos (by simpa using ha), List.foldlM_cons]
      cases count s.ObjectReferences a with
      | error fault => rfl
      | ok R =>
        show List.foldlM _ { s with ObjectReferences := R } list
          = counted s ((list.filter (· ≠ SAI_NULL_OBJECT_ID)).foldlM count R)
        rw [ih]
        cases (list.filter (· ≠ SAI_NULL_OBJECT_ID)).foldlM count R with
        | error fault => rfl
        | ok R' => rfl

theorem object_reference_inc_list_eq :
    object_reference_inc_list s list
      = counted s (incAll s.ObjectReferences (list.filter (· ≠ SAI_NULL_OBJECT_ID))) :=
  foldlM_counted inc s list

theorem object_reference_dec_list_eq :
    object_reference_dec_list s list
      = counted s (decAll s.ObjectReferences (list.filter (· ≠ SAI_NULL_OBJECT_ID))) :=
  foldlM_counted dec s list

variable {occ' : sai_object_id_t → ℤ} {bad : Exn → Prop}

theorem mem_filter_null {a : sai_object_id_t} :
    a ∈ list.filter (· ≠ SAI_NULL_OBJECT_ID) ↔ a ∈ list ∧ a ≠ SAI_NULL_OBJECT_ID := by
  rw [List.mem_filter, decide_eq_true_iff]

/-- References to what is known are counted. -/
theorem inc_list_safe (h : Exact s.ObjectReferences occ') (hknown : ∀ oid ∈ list, Known s oid) :
    Safe bad (fun s' => Recounted s s' fun oid => occ' oid + weight list oid)
      (object_reference_inc_list s list) := by
  have hcounted : ∀ a ∈ list.filter (· ≠ SAI_NULL_OBJECT_ID),
      (s.ObjectReferences.lookup a).isSome = true := by
    intro a ha
    obtain ⟨hmem, hne⟩ := mem_filter_null.mp ha
    exact (hknown a hmem).resolve_left hne
  obtain ⟨R, hR⟩ := incAll_ok hcounted
  rw [object_reference_inc_list_eq, hR]
  exact ⟨rfl, h.incAll hR, fun oid => incAll_known hR oid⟩

/-- References that are there are taken back. -/
theorem dec_list_safe (h : Exact s.ObjectReferences occ')
    (hle : ∀ oid, weight list oid ≤ occ' oid) :
    Safe bad (fun s' => Recounted s s' fun oid => occ' oid - weight list oid)
      (object_reference_dec_list s list) := by
  have hcount : ∀ oid, ((list.filter (· ≠ SAI_NULL_OBJECT_ID)).count oid : ℤ) ≤ occ' oid := hle
  obtain ⟨R, hR⟩ := decAll_ok h hcount
  rw [object_reference_dec_list_eq, hR]
  exact ⟨rfl, h.decAll hR, fun oid => decAll_known hR oid⟩

/-! ### Storing an attribute -/

variable {meta_key : sai_object_meta_key_t} {attrs : Table ℕ SaiAttrWrapper} {id : ℕ}
  {w : SaiAttrWrapper} {md : AttrMetadata} {attr : sai_attribute_t}

/-- The references of the attribute that is stored under an id. -/
def storedWeight (attrs : Table ℕ SaiAttrWrapper) (id : ℕ) (oid : sai_object_id_t) : ℤ :=
  ((attrs.lookup id).map fun w => weight w.references oid).getD 0

theorem attrsWeight_insert :
    attrsWeight (attrs.insert id w) oid
      = attrsWeight attrs oid + weight w.references oid - storedWeight attrs id oid :=
  Table.sum_insert

/-- Other attributes of an object: its references instead of the old ones. -/
theorem occ_insert {attrs' : Table ℕ SaiAttrWrapper}
    (h : s.ObjectAttrHash.lookup meta_key = some attrs)
    (hs' : s'.ObjectAttrHash = s.ObjectAttrHash.insert meta_key attrs') :
    occ s' oid = occ s oid + attrsWeight attrs' oid - attrsWeight attrs oid := by
  unfold occ
  rw [hs', Table.sum_insert, h, Option.map_some, Option.getD_some]
  unfold objectWeight
  ring

theorem Typed.insert (h : Typed M s) {attrs' : Table ℕ SaiAttrWrapper}
    (hs' : s'.ObjectAttrHash = s.ObjectAttrHash.insert meta_key attrs')
    (hattrs : ∀ id w, attrs'.lookup id = some w → TypedAttr M meta_key.objecttype id w) :
    Typed M s' := by
  intro key' attrs'' id w hkey hid
  rw [hs', Table.lookup_insert_eq] at hkey
  split at hkey
  · next heq =>
      obtain rfl := Option.some.inj hkey
      subst heq
      exact hattrs id w hid
  · exact h key' attrs'' id w hkey hid

/-- What storing an attribute changes. -/
structure Stored (M : Metadata) (s s' : St) (meta_key : sai_object_meta_key_t) (md : AttrMetadata)
    (attr : sai_attribute_t) (attrs : Table ℕ SaiAttrWrapper) (w : SaiAttrWrapper) : Prop where
  eq : s' = { s with
    ObjectAttrHash := s.ObjectAttrHash.insert meta_key (attrs.insert attr.id w) }
  meta_eq : w.m_meta = md
  id_eq : w.m_attr.id = attr.id
  references : w.references = md.references attr.value

theorem Stored.hash (h : Stored M s s' meta_key md attr attrs w) :
    s'.ObjectAttrHash = s.ObjectAttrHash.insert meta_key (attrs.insert attr.id w) := by
  rw [h.eq]

theorem Stored.refs (h : Stored M s s' meta_key md attr attrs w) :
    s'.ObjectReferences = s.ObjectReferences := by
  rw [h.eq]

theorem Stored.map (h : Stored M s s' meta_key md attr attrs w) :
    s'.map_port_to_related_set = s.map_port_to_related_set := by
  rw [h.eq]

theorem set_object_safe (h : s.ObjectAttrHash.lookup meta_key = some attrs) :
    Safe Exn.IsFatal (fun s' => ∃ w, Stored M s s' meta_key md attr attrs w)
      (set_object M s meta_key md attr) := by
  unfold set_object
  rw [h]
  dsimp only
  cases hcopy : SaiAttrWrapper.copy M.enums md attr with
  | none => exact not_isFatal_serialize
  | some w =>
    obtain ⟨hmeta, hid, hrefs⟩ := SaiAttrWrapper.copy_references M.enums hcopy
    exact ⟨w, rfl, hmeta, hid, hrefs⟩

/-- Storing an attribute keeps the types. -/
theorem Stored.typed (h : Stored M s s' meta_key md attr attrs w) (ht : Typed M s)
    (hattrs : s.ObjectAttrHash.lookup meta_key = some attrs)
    (hmd : M.sai_metadata_get_attr_metadata meta_key.objecttype attr.id = some md)
    (hsupported : inPostRemove md.attrvaluetype = true) : Typed M s' := by
  refine ht.insert h.hash fun id w' hid => ?_
  rw [Table.lookup_insert_eq] at hid
  split at hid
  · next heq =>
      obtain rfl := Option.some.inj hid
      subst heq
      exact ⟨by rw [h.meta_eq]; exact hmd, h.id_eq, by rw [h.meta_eq]; exact hsupported⟩
  · exact ht meta_key attrs id w' hattrs hid

/-- Storing an attribute changes the references by those of the attribute. -/
theorem Stored.occ (h : Stored M s s' meta_key md attr attrs w)
    (hattrs : s.ObjectAttrHash.lookup meta_key = some attrs) :
    occ s' oid = occ s oid + weight (md.references attr.value) oid - storedWeight attrs attr.id oid := by
  rw [occ_insert hattrs h.hash, attrsWeight_insert, h.references]
  ring

/-! ### Create -/

variable {attr_list : List sai_attribute_t} {switch_id : sai_object_id_t}

/-- While the attributes of a new object are recorded: those that are left are not stored. -/
structure Creating (M : Metadata) (meta_key : sai_object_meta_key_t)
    (rest : List sai_attribute_t) (s : St) : Prop where
  consistent : Consistent M s
  fresh : ∃ attrs, s.ObjectAttrHash.lookup meta_key = some attrs ∧
    ∀ attr ∈ rest, attrs.lookup attr.id = none
  nodup : (rest.map (·.id)).Nodup
  recordable : ∀ attr ∈ rest, Recordable M s meta_key.objecttype attr

/-- The references of an attribute are counted, and it is stored. -/
theorem postCreateAttr_safe {rest : List sai_attribute_t}
    (h : Creating M meta_key (attr :: rest) s) :
    Safe Exn.IsFatal (Creating M meta_key rest) (postCreateAttr M meta_key s attr) := by
  obtain ⟨attrs, hattrs, hnone⟩ := h.fresh
  have hattr := hnone attr List.mem_cons_self
  have hnodup : attr.id ∉ rest.map (·.id) ∧ (rest.map (·.id)).Nodup := by
    have := h.nodup
    rwa [List.map_cons, List.nodup_cons] at this
  unfold postCreateAttr
  split
  · exact not_isFatal_crash
  · next md hmd =>
      split
      · obtain ⟨hsupported, hknown⟩ := h.recordable attr List.mem_cons_self md hmd
        refine (inc_list_safe h.consistent.exact hknown).bind fun s₁ _ hs₁ => ?_
        have hattrs₁ : s₁.ObjectAttrHash.lookup meta_key = some attrs := by
          rw [hs₁.hash]
          exact hattrs
        refine (set_object_safe hattrs₁).imp fun s₂ _ => ?_
        rintro ⟨w, hs₂⟩
        refine ⟨⟨?_, hs₂.typed (h.consistent.typed.congr hs₁.hash) hattrs₁ hmd hsupported,
          (h.consistent.related.congr hs₁.map).congr hs₂.map⟩,
          ?_, hnodup.2, ?_⟩
        · -- what was counted is what was stored
          rw [hs₂.refs]
          refine hs₁.exact.congr fun oid => ?_
          rw [hs₂.occ hattrs₁, occ_congr hs₁.hash, storedWeight, hattr]
          show occ s oid + _ - 0 = _
          ring
        · refine ⟨attrs.insert attr.id w, by rw [hs₂.hash]; exact AList.lookup_insert _, ?_⟩
          intro attr' hmem
          rw [Table.lookup_insert_eq, if_neg]
          · exact hnone attr' (List.mem_cons_of_mem _ hmem)
          · exact fun heq => hnodup.1 (heq ▸ List.mem_map_of_mem hmem)
        · intro attr' hmem md' hmd'
          obtain ⟨hsupported', hknown'⟩ :=
            h.recordable attr' (List.mem_cons_of_mem _ hmem) md' hmd'
          refine ⟨hsupported', fun oid hoid => ?_⟩
          have hs₁known := hs₁.knows (hknown' oid hoid)
          unfold Known object_reference_exists
          rw [hs₂.refs]
          exact hs₁known
      · exact not_isFatal_unsupported

/-- A new object without attributes refers to what its key refers to. -/
theorem occ_create (h : s.ObjectAttrHash.lookup meta_key = none)
    (hs' : s'.ObjectAttrHash = s.ObjectAttrHash.insert meta_key ∅) :
    occ s' oid = occ s oid + weight meta_key.objectkey.references oid := by
  unfold occ
  rw [hs', Table.sum_insert, h]
  show _ + (weight meta_key.objectkey.references oid + 0) - 0 = _
  ring

theorem typed_create (ht : Typed M s)
    (hs' : s'.ObjectAttrHash = s.ObjectAttrHash.insert meta_key ∅) : Typed M s' :=
  ht.insert hs' fun _ _ hid => by simp at hid

/-- The id that was created gets a counter, or is no id of what was to be created. -/
theorem insertCreated_safe {objecttype : sai_object_type_t}
    (hnew : object_reference_exists s oid = false) :
    Safe Exn.IsFatal
      (fun s' => s' = s ∨ s' = { s with ObjectReferences := s.ObjectReferences.insert oid 0 })
      (insertCreated M s objecttype oid switch_id) := by
  have hinsert : object_reference_insert s oid
      = .ok { s with ObjectReferences := s.ObjectReferences.insert oid 0 } := by
    rw [object_reference_insert, hnew]
    rfl
  unfold insertCreated
  dsimp only
  split
  · exact Or.inl rfl
  · split
    · split
      · exact not_isFatal_crash
      · split
        · exact Or.inl rfl
        · rw [hinsert]
          exact Or.inr rfl
    · rw [hinsert]
      exact Or.inr rfl

/-- What is recorded of the key makes the counters exact for the new object. -/
theorem createdKey_safe (hc : Consistent M s) (hnone : s.ObjectAttrHash.lookup meta_key = none)
    (hnew : ∀ oid, meta_key.objectkey = .object_id oid → object_reference_exists s oid = false)
    (hmembers : ∀ oid ∈ meta_key.objectkey.references, Known s oid) :
    Safe Exn.IsFatal
      (fun s' => Consistent M s' ∧ s'.ObjectAttrHash = s.ObjectAttrHash.insert meta_key ∅ ∧
        ∀ oid, Known s oid → Known s' oid)
      (createdKey M { s with ObjectAttrHash := s.ObjectAttrHash.insert meta_key ∅ } meta_key
        switch_id) := by
  set s₁ : St := { s with ObjectAttrHash := s.ObjectAttrHash.insert meta_key ∅ } with hs₁
  have hocc : ∀ oid, occ s₁ oid = occ s oid + weight meta_key.objectkey.references oid :=
    fun oid => occ_create hnone rfl
  have htyped : Typed M s₁ := typed_create hc.typed rfl
  unfold createdKey
  split
  · next oid hoid =>
      have hzero : ∀ oid, occ s₁ oid = occ s oid := by
        intro oid'
        rw [hocc, hoid]
        exact add_zero _
      refine (insertCreated_safe (s := s₁) (hnew oid hoid)).imp fun s' _ => ?_
      rintro (rfl | rfl)
      · exact ⟨⟨hc.exact.congr hzero, htyped, hc.related⟩, rfl, fun _ h => h⟩
      · have hfresh : s.ObjectReferences.lookup oid = none := by
          have := hnew oid hoid
          rwa [object_reference_exists, Option.isSome_eq_false_iff,
            Option.isNone_iff_eq_none] at this
        refine ⟨⟨(hc.exact.insert hfresh).congr hzero, htyped, hc.related⟩, rfl, ?_⟩
        rintro oid' (hnull | hexists)
        · exact Or.inl hnull
        · right
          show ((s.ObjectReferences.insert oid 0).lookup oid').isSome = true
          rw [Table.lookup_insert_eq]
          split
          · rfl
          · exact hexists
  · refine (inc_list_safe (s := s₁) hc.exact hmembers).imp fun s' _ hs' => ?_
    refine ⟨⟨?_, htyped.congr hs'.hash, (hc.related : RelatedSets M s₁).congr hs'.map⟩, hs'.hash,
      fun oid h => hs'.knows h⟩
    exact hs'.exact.congr fun oid => by rw [occ_congr hs'.hash, hocc]

/-- **Recording a create keeps the database consistent.** -/
theorem post_create_safe (hc : Consistent M s) (hnone : s.ObjectAttrHash.lookup meta_key = none)
    (hnew : ∀ oid, meta_key.objectkey = .object_id oid → object_reference_exists s oid = false)
    (h : Creatable M s meta_key attr_list) :
    Safe Exn.IsFatal (Consistent M)
      (meta_generic_validation_post_create M s meta_key switch_id attr_list) := by
  have hcreate : create_object s meta_key
      = .ok { s with ObjectAttrHash := s.ObjectAttrHash.insert meta_key ∅ } := by
    rw [create_object, object_exists, hnone]
    rfl
  unfold meta_generic_validation_post_create
  rw [hcreate]
  show Safe _ _ (createdKey M _ meta_key switch_id >>= _)
  refine (createdKey_safe hc hnone hnew h.members).bind fun s₁ _ hs₁ => ?_
  obtain ⟨hc₁, hhash, hknown⟩ := hs₁
  have hstart : Creating M meta_key attr_list s₁ := by
    refine ⟨hc₁, ⟨∅, by rw [hhash]; exact AList.lookup_insert _, by simp⟩, h.nodup, ?_⟩
    intro attr hmem md hmd
    obtain ⟨hsupported, hrefs⟩ := h.recordable attr hmem md hmd
    exact ⟨hsupported, fun oid hoid => hknown oid (hrefs oid hoid)⟩
  refine (Safe.foldlM (I := Creating M meta_key) hstart
    fun attr rest s hs => postCreateAttr_safe hs).bind fun s₂ _ hs₂ => ?_
  -- the key attributes have no part in the counters
  unfold recordKeys
  split
  · cases hkey : construct_key M meta_key.objecttype attr_list with
    | error e => exact construct_key_safe.not_bad hkey
    | ok key => exact ⟨hs₂.consistent.exact, hs₂.consistent.typed, hs₂.consistent.related⟩
  · exact hs₂.consistent

/-! ### Remove -/

/-- How often some attributes refer to an object. -/
def listWeight (ws : List SaiAttrWrapper) (oid : sai_object_id_t) : ℤ :=
  (ws.map fun w => weight w.references oid).sum

theorem listWeight_nonneg {ws : List SaiAttrWrapper} : 0 ≤ listWeight ws oid := by
  refine List.sum_nonneg fun x hx => ?_
  obtain ⟨w, -, rfl⟩ := List.mem_map.mp hx
  exact weight_nonneg

theorem attrsWeight_eq : attrsWeight attrs oid = listWeight (attrs.entries.map (·.2)) oid := by
  unfold attrsWeight listWeight Table.sum
  rw [List.map_map]
  rfl

/-- The references of attributes are taken back one by one. -/
theorem postRemoveAttrs_safe {objecttype : sai_object_type_t} {ws : List SaiAttrWrapper}
    (h : Exact s.ObjectReferences occ')
    (htyped : ∀ w ∈ ws, TypedAttr M objecttype w.m_attr.id w)
    (hle : ∀ oid, listWeight ws oid ≤ occ' oid) :
    Safe bad (fun s' => Recounted s s' fun oid => occ' oid - listWeight ws oid)
      (ws.foldlM (postRemoveAttr M objecttype) s) := by
  induction ws generalizing s occ' with
  | nil => exact ⟨rfl, h.congr fun oid => sub_zero _, fun _ => rfl⟩
  | cons w ws ih =>
    have hsum : ∀ oid, listWeight (w :: ws) oid = weight w.references oid + listWeight ws oid :=
      fun oid => List.sum_cons
    rw [List.foldlM_cons]
    refine Safe.bind (Q := fun s' => Recounted s s' fun oid => occ' oid - weight w.references oid)
      ?_ fun s₁ _ hs₁ => ?_
    · unfold postRemoveAttr
      obtain ⟨hmeta, -, hsupported⟩ := htyped w List.mem_cons_self
      rw [hmeta]
      show Safe _ _ (if inPostRemove w.m_meta.attrvaluetype = true then _ else _)
      rw [if_pos hsupported]
      refine dec_list_safe h fun oid => ?_
      have hle' := hle oid
      have hrest : 0 ≤ listWeight ws oid := listWeight_nonneg
      rw [hsum] at hle'
      exact (le_add_of_nonneg_right hrest).trans hle'
    · refine (ih hs₁.exact (fun w' hw' => htyped w' (List.mem_cons_of_mem _ hw')) ?_).imp
        fun s₂ _ hs₂ => ?_
      · intro oid
        have hle' := hle oid
        rw [hsum] at hle'
        linarith
      · refine ⟨?_, hs₂.exact.congr fun oid => ?_, fun oid => (hs₂.known oid).trans (hs₁.known oid)⟩
        · have heq := hs₂.eq
          rw [hs₁.eq] at heq
          exact heq
        · rw [hsum]
          ring

/-- The counter of an id goes with it, or the members of an entry are taken back. -/
theorem removedKey_safe (h : Exact s.ObjectReferences occ')
    (hzero : ∀ oid, meta_key.objectkey = .object_id oid → occ' oid = 0)
    (hle : ∀ oid, weight meta_key.objectkey.references oid ≤ occ' oid) :
    Safe bad (fun s' =>
        s' = { s with ObjectReferences := s'.ObjectReferences } ∧
        Exact s'.ObjectReferences
          (fun oid => occ' oid - weight meta_key.objectkey.references oid) ∧
        ∀ oid, object_reference_exists s' oid
          = (object_reference_exists s oid && decide (meta_key.objectkey ≠ .object_id oid)))
      (removedKey s meta_key) := by
  unfold removedKey
  split
  · next oid hoid =>
      have hnil : ∀ oid, occ' oid - weight meta_key.objectkey.references oid = occ' oid := by
        intro oid
        rw [hoid]
        exact sub_zero _
      have hdec : ∀ oid', decide (sai_object_key_t.object_id oid ≠ .object_id oid') = !decide (oid' = oid) := by
        intro oid'
        by_cases heq : oid' = oid
        · subst heq
          simp
        · have : sai_object_key_t.object_id oid ≠ .object_id oid' := fun hk =>
            heq (sai_object_key_t.object_id.inj hk).symm
          simp [this, heq]
      unfold object_reference_remove
      cases hlook : s.ObjectReferences.lookup oid with
      | none =>
        refine ⟨rfl, h.congr hnil, fun oid' => ?_⟩
        rw [hoid, hdec]
        by_cases heq : oid' = oid
        · subst heq
          rw [object_reference_exists, hlook]
          rfl
        · simp [heq]
      | some n =>
        have hn : n = 0 := (h.counter hlook).trans (hzero oid hoid)
        show Safe _ _ (if 0 < n then Except.error _ else Except.ok _)
        rw [if_neg (by omega)]
        refine ⟨rfl, (h.erase (hzero oid hoid)).congr hnil, fun oid' => ?_⟩
        rw [hoid, hdec]
        show ((s.ObjectReferences.erase oid).lookup oid').isSome = _
        rw [Table.lookup_erase_eq]
        by_cases heq : oid' = oid
        · simp [heq]
        · rw [if_neg heq]
          simp [heq, object_reference_exists]
  · next hkey =>
      refine (dec_list_safe h hle).imp fun s' _ hs' => ⟨hs'.eq, hs'.exact, fun oid => ?_⟩
      have hne : meta_key.objectkey ≠ .object_id oid := hkey oid
      rw [hs'.known, decide_eq_true hne, Bool.and_true]

/-- What removing an object leaves. -/
structure Gone (M : Metadata) (s s' : St) (meta_key : sai_object_meta_key_t) : Prop where
  consistent : Consistent M s'
  hash : s'.ObjectAttrHash = s.ObjectAttrHash.erase meta_key
  map : s'.map_port_to_related_set = s.map_port_to_related_set
  known : ∀ oid, object_reference_exists s' oid
    = (object_reference_exists s oid && decide (meta_key.objectkey ≠ .object_id oid))

/-- An object that is gone took its references along. -/
theorem occ_erase (h : s.ObjectAttrHash.lookup meta_key = some attrs)
    (hs' : s'.ObjectAttrHash = s.ObjectAttrHash.erase meta_key) :
    occ s' oid = occ s oid - objectWeight meta_key attrs oid := by
  unfold occ
  rw [hs', Table.sum_erase, h]
  rfl

/-- **Recording that an object is removed keeps the database consistent**, if nothing refers
to it. -/
theorem postRemoveObject_safe (hc : Consistent M s)
    (hattrs : s.ObjectAttrHash.lookup meta_key = some attrs)
    (hzero : ∀ oid, meta_key.objectkey = .object_id oid → occ s oid = 0) :
    Safe bad (fun s' => Gone M s s' meta_key) (postRemoveObject M s meta_key) := by
  have hget : get_object_attributes s meta_key = .ok (attrs.entries.map (·.2)) := by
    rw [get_object_attributes, hattrs]
  have htyped : ∀ w ∈ attrs.entries.map (·.2),
      TypedAttr M meta_key.objecttype w.m_attr.id w := by
    intro w hw
    obtain ⟨e, he, rfl⟩ := List.mem_map.mp hw
    have ht := hc.typed meta_key attrs e.1 e.2 hattrs (Table.mem_entries.mp he)
    rw [ht.id_eq]
    exact ht
  have hobject : ∀ oid, objectWeight meta_key attrs oid ≤ occ s oid :=
    fun oid => objectWeight_le_occ hattrs
  have hsplit : ∀ oid, objectWeight meta_key attrs oid
      = weight meta_key.objectkey.references oid + listWeight (attrs.entries.map (·.2)) oid := by
    intro oid
    rw [← attrsWeight_eq]
    rfl
  unfold postRemoveObject
  rw [hget]
  refine (postRemoveAttrs_safe (s := s) hc.exact htyped fun oid => ?_).bind fun s₁ _ hs₁ => ?_
  · have hle := hobject oid
    have hkey : 0 ≤ weight meta_key.objectkey.references oid := weight_nonneg
    rw [hsplit] at hle
    linarith
  show Safe bad _ (removedKey s₁ meta_key >>= _)
  refine (removedKey_safe hs₁.exact ?_ ?_).bind fun s₂ _ hs₂ => ?_
  · -- nothing refers to the object, itself included
    intro oid hoid
    have hle := hobject oid
    have hpos : 0 ≤ listWeight (attrs.entries.map (·.2)) oid := listWeight_nonneg
    have hkey : 0 ≤ weight meta_key.objectkey.references oid := weight_nonneg
    rw [hsplit, hzero oid hoid] at hle
    have hz := hzero oid hoid
    linarith
  · intro oid
    have hle := hobject oid
    rw [hsplit] at hle
    linarith
  obtain ⟨heq, hexact, hknown⟩ := hs₂
  have hhash : s₂.ObjectAttrHash = s.ObjectAttrHash := by
    rw [heq]
    exact hs₁.hash
  have hremove : remove_object s₂ meta_key
      = .ok { s₂ with ObjectAttrHash := s₂.ObjectAttrHash.erase meta_key } := by
    rw [remove_object, object_exists, hhash, hattrs]
    rfl
  rw [hremove]
  refine ⟨⟨?_, ?_, ?_⟩, ?_, ?_, ?_⟩
  · refine hexact.congr fun oid => ?_
    refine (occ_erase hattrs (congrArg (AList.erase meta_key) hhash)).trans ?_
    rw [hsplit]
    ring
  · intro key' attrs' id w hkey hid
    have hkey' : (s₂.ObjectAttrHash.erase meta_key).lookup key' = some attrs' := hkey
    rw [hhash, Table.lookup_erase_eq] at hkey'
    split at hkey'
    · cases hkey'
    · exact hc.typed key' attrs' id w hkey' hid
  · refine hc.related.congr ?_
    show s₂.map_port_to_related_set = _
    rw [heq]
    exact hs₁.map
  · exact congrArg (AList.erase meta_key) hhash
  · show s₂.map_port_to_related_set = _
    rw [heq]
    exact hs₁.map
  · intro oid
    rw [← hs₁.known oid]
    exact hknown oid

/-! ### Remove of a port -/

/-- Some objects are gone, and no others. -/
structure Cleared (s s' : St) (keys : List sai_object_meta_key_t) : Prop where
  hash : ∀ key, s'.ObjectAttrHash.lookup key
    = if key ∈ keys then none else s.ObjectAttrHash.lookup key
  known : ∀ oid, object_reference_exists s' oid
    = (object_reference_exists s oid && decide (∀ key ∈ keys, key.objectkey ≠ .object_id oid))

theorem Cleared.nil : Cleared s s [] := ⟨fun _ => by simp, fun _ => by simp⟩

theorem Cleared.append {s'' : St} {keys keys' : List sai_object_meta_key_t}
    (h : Cleared s s' keys) (h' : Cleared s' s'' keys') : Cleared s s'' (keys ++ keys') := by
  constructor
  · intro key
    rw [h'.hash, h.hash]
    by_cases hk : key ∈ keys' <;> by_cases hk' : key ∈ keys <;> simp [hk, hk']
  · intro oid
    rw [h'.known, h.known, Bool.and_assoc, ← Bool.decide_and]
    congr 2
    simp only [List.forall_mem_append]

theorem Gone.cleared (h : Gone M s s' meta_key) : Cleared s s' [meta_key] := by
  constructor
  · intro key
    rw [h.hash, Table.lookup_erase_eq]
    simp
  · intro oid
    rw [h.known]
    simp

/-- The key of an object by its id alone. -/
def idKey (M : Metadata) (oid : sai_object_id_t) : sai_object_meta_key_t :=
  oidKey (sai_object_type_query M.toSaiMetadata oid) oid

/-- The objects that are removed with an object. -/
def relatedOf (s : St) (meta_key : sai_object_meta_key_t) : List sai_object_id_t :=
  ((portId meta_key).bind s.map_port_to_related_set.lookup).getD []

/-- An object that is there, and that nothing refers to. -/
def Removable (s : St) (meta_key : sai_object_meta_key_t) : Prop :=
  (∃ attrs, s.ObjectAttrHash.lookup meta_key = some attrs) ∧
    ∀ oid, meta_key.objectkey = .object_id oid → occ s oid = 0

theorem PortRelated.type (h : PortRelated M oid) :
    (idKey M oid).objecttype.1 ≠ SAI_OBJECT_TYPE_SWITCH ∧
      (idKey M oid).objecttype.1 ≠ SAI_OBJECT_TYPE_PORT ∧
      (idKey M oid).objectkey = .object_id oid := by
  unfold PortRelated IsPortRelated at h
  unfold idKey
  rw [objecttype_oidKey]
  have hentry : ¬ IsEntryType (sai_object_type_query M.toSaiMetadata oid) := by
    rintro (ht | ht | ht) <;> rw [ht] at h <;> revert h <;> decide
  refine ⟨?_, ?_, objectkey_oidKey hentry oid⟩
  · intro ht
    rw [ht] at h
    revert h
    decide
  · intro ht
    rw [ht] at h
    revert h
    decide

theorem portId_eq_none (h : meta_key.objecttype.1 ≠ SAI_OBJECT_TYPE_PORT) :
    portId meta_key = none := by
  unfold portId
  split
  · exact if_neg h
  · rfl

/-- An object that is no port is removed alone. -/
theorem postRemove_leaf_safe {n : ℕ} (hn : 0 < n) (hc : Consistent M s)
    (hswitch : meta_key.objecttype.1 ≠ SAI_OBJECT_TYPE_SWITCH)
    (hport : meta_key.objecttype.1 ≠ SAI_OBJECT_TYPE_PORT) (h : Removable s meta_key) :
    Safe bad (fun s' => Gone M s s' meta_key) (postRemove M n s meta_key) := by
  obtain ⟨n, rfl⟩ := Nat.exists_eq_succ_of_ne_zero hn.ne'
  obtain ⟨⟨attrs, hattrs⟩, hzero⟩ := h
  rw [postRemove, if_neg hswitch, portId_eq_none hport]
  exact (postRemoveObject_safe hc hattrs hzero).bind fun s₁ _ hs₁ => hs₁

/-- Objects that stay are referred to as before or less. -/
theorem Gone.occ_le (h : Gone M s s' meta_key) : occ s' oid ≤ occ s oid := by
  cases hattrs : s.ObjectAttrHash.lookup meta_key with
  | none =>
    refine le_of_eq ?_
    unfold occ
    rw [h.hash, Table.sum_erase, hattrs]
    exact sub_zero _
  | some attrs =>
    rw [occ_erase hattrs h.hash]
    exact sub_le_self _ objectWeight_nonneg

/-- Another object that can be removed still can. -/
theorem Gone.removable {key' : sai_object_meta_key_t} (h : Gone M s s' meta_key)
    (hne : key' ≠ meta_key) (hr : Removable s key') : Removable s' key' := by
  obtain ⟨⟨attrs, hattrs⟩, hzero⟩ := hr
  refine ⟨⟨attrs, ?_⟩, fun oid hoid => ?_⟩
  · rw [h.hash, Table.lookup_erase_eq, if_neg hne]
    exact hattrs
  · exact le_antisymm (h.occ_le.trans (hzero oid hoid).le) occ_nonneg

theorem idKey_injective {oid' : sai_object_id_t} (h : PortRelated M oid) (h' : PortRelated M oid')
    (heq : idKey M oid = idKey M oid') : oid = oid' := by
  have hkey := congrArg sai_object_meta_key_t.objectkey heq
  rw [h.type.2.2, h'.type.2.2] at hkey
  exact sai_object_key_t.object_id.inj hkey

/-- The related objects that are left to remove. -/
structure Removing (M : Metadata) (n : ℕ) (s₀ : St) (all rest : List sai_object_id_t) (s : St) :
    Prop where
  consistent : Consistent M s
  cleared : ∃ done, all = done ++ rest ∧ Cleared s₀ s (done.map (idKey M))
  map : s.map_port_to_related_set = s₀.map_port_to_related_set
  nodup : rest.Nodup
  removable : ∀ oid ∈ rest, PortRelated M oid ∧ Removable s (idKey M oid)
  fuel : rest ≠ [] → 0 < n

theorem post_port_remove_safe {n : ℕ} {port_id : sai_object_id_t} (hc : Consistent M s)
    (hr : ∀ oid ∈ (s.map_port_to_related_set.lookup port_id).getD [], Removable s (idKey M oid))
    (hn : (s.map_port_to_related_set.lookup port_id).getD [] ≠ [] → 0 < n) :
    Safe bad
      (fun s' => Consistent M s' ∧
        Cleared s s' (((s.map_port_to_related_set.lookup port_id).getD []).map (idKey M)))
      (post_port_remove M (postRemove M n) s port_id) := by
  unfold post_port_remove
  cases hlook : s.map_port_to_related_set.lookup port_id with
  | none => exact ⟨hc, Cleared.nil⟩
  | some related =>
    rw [hlook] at hr hn
    obtain ⟨hordered, hrel⟩ := hc.related port_id related hlook
    have hstart : Removing M n s related related s := by
      refine ⟨hc, ⟨[], rfl, Cleared.nil⟩, rfl, ?_, fun oid hoid => ⟨hrel oid hoid, hr oid hoid⟩, hn⟩
      exact hordered.imp fun hlt heq => by
        subst heq
        exact lt_irrefl _ hlt
    show Safe _ _ (List.foldlM (fun s oid => postRemove M n s (idKey M oid)) s related >>= _)
    refine (Safe.foldlM (I := Removing M n s related) hstart fun oid rest s₁ hs₁ => ?_).bind
      fun s₂ _ hs₂ => ?_
    · obtain ⟨hport, hremovable⟩ := hs₁.removable oid List.mem_cons_self
      obtain ⟨hnotin, hnodup⟩ := List.nodup_cons.mp hs₁.nodup
      refine (postRemove_leaf_safe (hs₁.fuel (by simp)) hs₁.consistent hport.type.1
        hport.type.2.1 hremovable).imp fun s₂ _ hs₂ => ?_
      obtain ⟨done, hall, hcleared⟩ := hs₁.cleared
      refine ⟨hs₂.consistent, ⟨done ++ [oid], by rw [hall]; simp, ?_⟩, hs₂.map.trans hs₁.map,
        hnodup, ?_, fun _ => hs₁.fuel (by simp)⟩
      · rw [List.map_append]
        exact hcleared.append hs₂.cleared
      · intro oid' hmem
        obtain ⟨hport', hremovable'⟩ := hs₁.removable oid' (List.mem_cons_of_mem _ hmem)
        refine ⟨hport', hs₂.removable (fun heq => ?_) hremovable'⟩
        exact hnotin (idKey_injective hport' hport heq ▸ hmem)
    · obtain ⟨done, hall, hcleared⟩ := hs₂.cleared
      rw [List.append_nil] at hall
      subst hall
      refine ⟨⟨hs₂.consistent.exact, hs₂.consistent.typed, ?_⟩, hcleared.hash, hcleared.known⟩
      intro port' related' hport'
      rw [Table.lookup_insert_eq] at hport'
      split at hport'
      · obtain rfl := Option.some.inj hport'
        exact ⟨List.Pairwise.nil, by simp⟩
      · exact hs₂.consistent.related port' related' hport'

theorem length_pos (h : s.ObjectAttrHash.lookup meta_key = some attrs) :
    0 < s.ObjectAttrHash.entries.length := by
  refine List.length_pos_of_mem (a := ⟨meta_key, attrs⟩) ?_
  exact Table.mem_entries.mpr h

theorem length_erase (h : s.ObjectAttrHash.lookup meta_key = some attrs) :
    (s.ObjectAttrHash.erase meta_key).entries.length + 1 = s.ObjectAttrHash.entries.length := by
  have hsize := Table.size_erase (t := s.ObjectAttrHash) (k := meta_key)
  rw [h, if_neg (by simp), Table.size_eq_length, Table.size_eq_length] at hsize
  omega

/-- **Recording that an object is removed keeps the database consistent**, together with
the objects related to it: nothing refers to any of them. -/
theorem post_remove_safe (hc : Consistent M s)
    (hswitch : meta_key.objecttype.1 ≠ SAI_OBJECT_TYPE_SWITCH) (h : Removable s meta_key)
    (hrelated : ∀ oid ∈ relatedOf s meta_key, Removable s (idKey M oid)) :
    Safe bad
      (fun s' => Consistent M s' ∧
        Cleared s s' (meta_key :: (relatedOf s meta_key).map (idKey M)))
      (meta_generic_validation_post_remove M s meta_key) := by
  obtain ⟨⟨attrs, hattrs⟩, hzero⟩ := h
  unfold meta_generic_validation_post_remove
  obtain ⟨n, hn⟩ := Nat.exists_eq_succ_of_ne_zero (length_pos hattrs).ne'
  rw [hn, postRemove, if_neg hswitch]
  refine (postRemoveObject_safe hc hattrs hzero).bind fun s₁ _ hs₁ => ?_
  cases hport : portId meta_key with
  | none =>
    have hnil : relatedOf s meta_key = [] := by
      rw [relatedOf, hport]
      rfl
    rw [hnil]
    exact ⟨hs₁.consistent, hs₁.cleared⟩
  | some port_id =>
    have hlook : relatedOf s meta_key = (s₁.map_port_to_related_set.lookup port_id).getD [] := by
      rw [relatedOf, hport, hs₁.map]
      rfl
    rw [hlook] at hrelated ⊢
    -- the related objects are no ports
    have hne : ∀ oid ∈ (s₁.map_port_to_related_set.lookup port_id).getD [],
        idKey M oid ≠ meta_key := by
      intro oid hoid heq
      cases hrel : s₁.map_port_to_related_set.lookup port_id with
      | none =>
        rw [hrel] at hoid
        cases hoid
      | some related =>
        rw [hrel] at hoid
        have hr := (hs₁.consistent.related port_id related hrel).2 oid hoid
        have hnone := portId_eq_none hr.type.2.1
        rw [heq, hport] at hnone
        cases hnone
    refine (post_port_remove_safe hs₁.consistent
      (fun oid hoid => hs₁.removable (hne oid hoid) (hrelated oid hoid)) ?_).imp
      fun s₂ _ hs₂ => ⟨hs₂.1, hs₁.cleared.append hs₂.2⟩
    -- the first of them is an object that is left
    intro hrest
    obtain ⟨oid, hoid⟩ := List.exists_mem_of_ne_nil _ hrest
    obtain ⟨⟨attrs', hattrs'⟩, -⟩ := hs₁.removable (hne oid hoid) (hrelated oid hoid)
    have hpos := length_pos hattrs'
    rw [hs₁.hash] at hpos
    have hlen := length_erase hattrs
    omega

/-! ### Set -/

theorem attrid_eq {objecttype : sai_object_type_t}
    (h : M.sai_metadata_get_attr_metadata objecttype id = some md) : md.attrid = id := by
  unfold Metadata.sai_metadata_get_attr_metadata at h
  split at h
  · simpa using List.find?_some h
  · cases h

/-- The references of the previous value are taken back. -/
theorem releasePrevious_safe (hc : Consistent M s)
    (hattrs : s.ObjectAttrHash.lookup meta_key = some attrs)
    (hmd : M.sai_metadata_get_attr_metadata meta_key.objecttype id = some md) :
    Safe Exn.IsFatal (fun s' => Recounted s s' fun oid => occ s oid - storedWeight attrs id oid)
      (releasePrevious s meta_key md) := by
  have hprevious : get_object_previous_attr s meta_key md = attrs.lookup id := by
    rw [get_object_previous_attr, hattrs, attrid_eq hmd]
    rfl
  unfold releasePrevious storedWeight
  rw [hprevious]
  cases hw : attrs.lookup id with
  | none => exact ⟨rfl, hc.exact.congr fun oid => sub_zero _, fun _ => rfl⟩
  | some w =>
    -- what is stored has the metadata of its id
    have hmeta : w.m_meta = md :=
      Option.some.inj ((hc.typed meta_key attrs id w hattrs hw).meta_eq.symm.trans hmd)
    have hrefs : w.references = md.references w.m_attr.value := by
      rw [← hmeta]
      rfl
    show Safe _ (fun s' => Recounted s s' fun oid => occ s oid - weight w.references oid) _
    rw [hrefs]
    refine dec_list_safe hc.exact fun oid => ?_
    rw [← hrefs]
    have hstored : weight w.references oid ≤ attrsWeight attrs oid :=
      Table.le_sum (f := fun _ w => weight w.references oid) (fun _ _ _ => weight_nonneg) hw
    have hobject : objectWeight meta_key attrs oid ≤ occ s oid := objectWeight_le_occ hattrs
    have hkey : 0 ≤ weight meta_key.objectkey.references oid := weight_nonneg
    unfold objectWeight at hobject
    linarith

/-- **Recording a set keeps the database consistent.** -/
theorem post_set_safe (hc : Consistent M s)
    (hattrs : s.ObjectAttrHash.lookup meta_key = some attrs)
    (hrecordable : Recordable M s meta_key.objecttype attr) :
    Safe Exn.IsFatal
      (fun s' => Consistent M s' ∧ ∃ md w, Stored M { s with ObjectReferences := s'.ObjectReferences }
        s' meta_key md attr attrs w)
      (meta_generic_validation_post_set M s meta_key attr) := by
  unfold meta_generic_validation_post_set
  split
  · exact not_isFatal_crash
  · next md hmd =>
      split
      · refine (releasePrevious_safe hc hattrs hmd).bind fun s₁ _ hs₁ => ?_
        obtain ⟨hsupported, hknown⟩ := hrecordable md hmd
        refine (inc_list_safe hs₁.exact
          fun oid hoid => hs₁.knows (hknown oid hoid)).bind fun s₂ _ hs₂ => ?_
        have hhash₂ : s₂.ObjectAttrHash = s.ObjectAttrHash := hs₂.hash.trans hs₁.hash
        have hattrs₂ : s₂.ObjectAttrHash.lookup meta_key = some attrs := by
          rw [hhash₂]
          exact hattrs
        refine (set_object_safe hattrs₂).imp fun s₃ _ => ?_
        rintro ⟨w, hs₃⟩
        refine ⟨⟨?_, hs₃.typed (hc.typed.congr hhash₂) hattrs₂ hmd hsupported,
          hc.related.congr (hs₃.map.trans (hs₂.map.trans hs₁.map))⟩, md, w, ?_⟩
        · rw [hs₃.refs]
          refine hs₂.exact.congr fun oid => ?_
          rw [hs₃.occ hattrs₂, occ_congr hhash₂]
          ring
        · refine ⟨?_, hs₃.meta_eq, hs₃.id_eq, hs₃.references⟩
          have h₁ := hs₁.eq
          have h₂ := hs₂.eq
          have h₃ := hs₃.eq
          rw [h₂, h₁] at h₃
          rw [h₃]
      · exact not_isFatal_unsupported

/-! ### Get -/

/-- A valid object id: not that of an entry. -/
def ValidId (M : Metadata) (oid : sai_object_id_t) : Prop :=
  ¬ IsEntryType (sai_object_type_query M.toSaiMetadata oid)

instance : Decidable (ValidId M oid) := inferInstanceAs (Decidable (¬ IsEntryType _))

/-- The entries are as before. -/
def SameEntries (s s' : St) : Prop :=
  ∀ key : sai_object_meta_key_t, (∀ oid, key.objectkey ≠ .object_id oid) →
    s'.ObjectAttrHash.lookup key = s.ObjectAttrHash.lookup key

/-- An id that becomes known is referred to by nothing yet. -/
theorem snoop_safe (hc : Consistent M s) (hvalid : ValidId M oid) :
    Safe Exn.IsFatal (fun s' => Consistent M s' ∧ SameEntries s s') (snoop M s oid) := by
  unfold snoop
  dsimp only
  split
  · exact ⟨hc, fun _ _ => rfl⟩
  · next hnot =>
      push Not at hnot
      have hnew : object_reference_exists s oid = false := Bool.eq_false_iff.mpr hnot.2.2
      have hfresh : s.ObjectReferences.lookup oid = none := by
        rwa [object_reference_exists, Option.isSome_eq_false_iff, Option.isNone_iff_eq_none] at hnew
      rw [object_reference_insert, hnew]
      show Safe _ _ (if _ then _ else _)
      split
      · exact not_isFatal_serialize
      · set s₁ : St := { s with ObjectReferences := s.ObjectReferences.insert oid 0 } with hs₁
        have hc₁ : Consistent M s₁ := ⟨hc.exact.insert hfresh, hc.typed, hc.related⟩
        split
        · exact ⟨hc₁, fun _ _ => rfl⟩
        · next hexists =>
            have hnone : s₁.ObjectAttrHash.lookup (idKey M oid) = none := by
              rwa [object_exists, Bool.not_eq_true, Option.isSome_eq_false_iff,
                Option.isNone_iff_eq_none] at hexists
            have hkey : (idKey M oid).objectkey = .object_id oid := objectkey_oidKey hvalid oid
            have hcreate : create_object s₁ (idKey M oid)
                = .ok { s₁ with ObjectAttrHash := s₁.ObjectAttrHash.insert (idKey M oid) ∅ } := by
              rw [create_object, object_exists, hnone]
              rfl
            show Safe _ _ (create_object s₁ (idKey M oid))
            rw [hcreate]
            refine ⟨⟨?_, typed_create hc₁.typed rfl, hc.related⟩, fun key hentry => ?_⟩
            · refine hc₁.exact.congr fun oid' => ?_
              rw [occ_create hnone rfl, hkey]
              exact add_zero _
            · show (s₁.ObjectAttrHash.insert (idKey M oid) ∅).lookup key = _
              rw [Table.lookup_insert_eq, if_neg]
              rintro rfl
              exact hentry oid hkey

theorem SameEntries.trans {s'' : St} (h : SameEntries s s') (h' : SameEntries s' s'') :
    SameEntries s s'' := fun key hkey => (h' key hkey).trans (h key hkey)

/-- The ids in a list become known. -/
theorem snoopList_safe (hc : Consistent M s) (hvalid : ∀ oid ∈ list, ValidId M oid) :
    Safe Exn.IsFatal (fun s' => Consistent M s' ∧ SameEntries s s') (list.foldlM (snoop M) s) := by
  induction list generalizing s with
  | nil => exact ⟨hc, fun _ _ => rfl⟩
  | cons oid list ih =>
    rw [List.foldlM_cons]
    refine (snoop_safe hc (hvalid oid List.mem_cons_self)).bind fun s₁ _ hs₁ => ?_
    refine (ih hs₁.1 fun oid' hoid' => hvalid oid' (List.mem_cons_of_mem _ hoid')).imp
      fun s₂ _ hs₂ => ⟨hs₂.1, hs₁.2.trans hs₂.2⟩

/-- The ids in the attributes of a reply are valid. -/
def ValidReply (M : Metadata) (objecttype : sai_object_type_t) (reply : List sai_attribute_t) :
    Prop :=
  ∀ attr ∈ reply, ∀ md ∈ M.sai_metadata_get_attr_metadata objecttype attr.id,
    ∀ oid ∈ md.references attr.value, ValidId M oid

instance {objecttype : sai_object_type_t} {reply : List sai_attribute_t} :
    Decidable (ValidReply M objecttype reply) :=
  @List.decidableBAll _ _
    (fun _ => @Option.decidableForallMem _ _ (fun _ => List.decidableBAll _ _) _) reply

/-- The lists of objects related to a port. -/
def IsRelatedList (id : ℕ) : Prop :=
  id = SAI_PORT_ATTR_QOS_QUEUE_LIST ∨ id = SAI_PORT_ATTR_QOS_SCHEDULER_GROUP_LIST ∨
    id = SAI_PORT_ATTR_INGRESS_PRIORITY_GROUP_LIST

instance : Decidable (IsRelatedList id) := inferInstanceAs (Decidable (_ ∨ _ ∨ _))

/-- The lists of a port are of queues, scheduler groups and priority groups. -/
def ValidPortReply (M : Metadata) (reply : List sai_attribute_t) : Prop :=
  ∀ attr ∈ reply, IsRelatedList attr.id →
    ∀ oid ∈ attr.value.objlist.items, oid ≠ SAI_NULL_OBJECT_ID → PortRelated M oid

instance {reply : List sai_attribute_t} : Decidable (ValidPortReply M reply) :=
  @List.decidableBAll sai_attribute_t
    (fun attr => IsRelatedList attr.id → ∀ oid ∈ attr.value.objlist.items,
      oid ≠ SAI_NULL_OBJECT_ID → PortRelated M oid)
    (fun _ => @forall_prop_decidable _ _ _ fun _ => List.decidableBAll _ _) reply

/-- What a get of a port changes beside the ids that become known. -/
def Regets (s s' : St) : Prop :=
  s' = { s with map_port_to_related_set := s'.map_port_to_related_set }

theorem addRelated_safe {port_id : sai_object_id_t} (hc : Consistent M s)
    (hlist : ∀ oid ∈ list, oid ≠ SAI_NULL_OBJECT_ID → PortRelated M oid) :
    Safe Exn.IsFatal (fun s' => Consistent M s' ∧ Regets s s')
      (meta_add_port_to_related_map s port_id list) := by
  unfold meta_add_port_to_related_map
  induction list generalizing s with
  | nil => exact ⟨hc, rfl⟩
  | cons rel list ih =>
    rw [List.foldlM_cons]
    split
    · exact not_isFatal_unexpectedNull
    · next hne =>
        have hrel := hlist rel List.mem_cons_self hne
        refine (ih (s := { s with map_port_to_related_set :=
            s.map_port_to_related_set.update port_id [] (OrderedSet.insert UInt64.toNat rel) })
          ⟨hc.exact, hc.typed, ?_⟩
          fun oid hoid => hlist oid (List.mem_cons_of_mem _ hoid)).imp fun s' _ hs' => ?_
        · -- the set of the port has one object more
          intro port' related hlook
          change (Table.update _ _ _ _).lookup port' = _ at hlook
          rw [Table.lookup_update] at hlook
          split at hlook
          · obtain rfl := Option.some.inj hlook
            cases hold : s.map_port_to_related_set.lookup port_id with
            | none =>
              refine ⟨List.pairwise_singleton _ _, fun oid hoid => ?_⟩
              rw [List.mem_singleton.mp hoid]
              exact hrel
            | some related =>
              obtain ⟨hordered, hall⟩ := hc.related port_id related hold
              refine ⟨hordered.insert, fun oid hoid => ?_⟩
              rcases OrderedSet.mem_insert_subset hoid with rfl | hmem
              · exact hrel
              · exact hall oid hmem
          · exact hc.related port' related hlook
        · refine ⟨hs'.1, ?_⟩
          have heq := hs'.2
          unfold Regets at heq ⊢
          rw [heq]

/-- **Recording a get keeps the database consistent.** -/
theorem post_get_safe {reply : List sai_attribute_t} (hc : Consistent M s)
    (hvalid : ValidReply M meta_key.objecttype reply)
    (hport : meta_key.objecttype.1 = SAI_OBJECT_TYPE_PORT → ValidPortReply M reply) :
    Safe Exn.IsFatal (Consistent M) (meta_generic_validation_post_get M s meta_key reply) := by
  unfold meta_generic_validation_post_get
  refine Safe.bind (Q := Consistent M) ?_ fun s₁ _ hs₁ => ?_
  · refine Safe.foldlM (I := fun rest s => Consistent M s ∧ rest ⊆ reply) ⟨hc, List.Subset.refl _⟩
      (fun attr rest s hs => ?_) |>.imp fun s₁ _ hs₁ => hs₁.1
    have hmem : attr ∈ reply := hs.2 List.mem_cons_self
    have hrest : rest ⊆ reply := fun a ha => hs.2 (List.mem_cons_of_mem _ ha)
    unfold postGetAttr
    split
    · exact not_isFatal_crash
    · next md hmd =>
        split
        · exact (snoopList_safe hs.1 (hvalid attr hmem md hmd)).imp fun s₂ _ hs₂ => ⟨hs₂.1, hrest⟩
        · exact not_isFatal_unsupported
  · cases hid : portId meta_key with
    | none => exact hs₁
    | some port_id =>
      have htype : meta_key.objecttype.1 = SAI_OBJECT_TYPE_PORT := by
        by_contra hne
        rw [portId_eq_none hne] at hid
        cases hid
      have hlists := hport htype
      refine Safe.foldlM (I := fun rest s => Consistent M s ∧ rest ⊆ reply)
        ⟨hs₁, List.Subset.refl _⟩ (fun attr rest s hs => ?_) |>.imp fun s₂ _ hs₂ => hs₂.1
      have hrest : rest ⊆ reply := fun a ha => hs.2 (List.mem_cons_of_mem _ ha)
      unfold postPortGetAttr
      split
      · next hlist =>
          exact (addRelated_safe hs.1 (hlists attr (hs.2 List.mem_cons_self) hlist)).imp
            fun s₂ _ hs₂ => ⟨hs₂.1, hrest⟩
      · exact ⟨hs.1, hrest⟩

/-! ### Calls -/

/-- What was validated goes on only if the validation passed. -/
theorem validated_safe {check : Check} {next : Result} {Q : sai_status_t × St → Prop}
    (hthrows : ∀ e, check = .error (.throws e) → ¬ bad e)
    (hreturns : ∀ status, check = .error (.returns status) → Q (status, s))
    (hnext : check = .ok () → Safe bad Q next) :
    Safe bad Q (validated s check next) := by
  unfold validated
  split
  · exact hnext rfl
  · next status => exact hreturns status rfl
  · next e => exact hthrows e rfl

/-- What is recorded is so only if the vendor succeeded. -/
theorem recorded_safe {status : sai_status_t} {post : Except Exn St} {Q : sai_status_t × St → Prop}
    (hfailed : status ≠ .SUCCESS → Q (status, s))
    (hpost : status = .SUCCESS → Safe bad (fun s' => Q (status, s')) post) :
    Safe bad Q (recorded s status post) := by
  unfold recorded
  split
  · next hstatus => exact (hpost hstatus).bind fun s' _ hs' => hs'
  · next hstatus => exact hfailed hstatus

end Sai.Meta
