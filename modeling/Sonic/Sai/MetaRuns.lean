/-
Sai/MetaRuns.lean

Runs of the metadata database.

The database is consistent in every state that calls and events reach, so a counter is the
number of references to an object, and an object that something refers to is not removed
(`references_exact`).  One call throws what is FATAL: the removal of a port with a related
object that was removed before it.  Another removal of a port throws nothing, and takes the
port and its related objects out of the database (`port_removal`).
-/
import Sonic.Sai.MetaFailures

namespace Sai.Meta

open IntType Outcome RefCount
open Transition (Run Guarded)

variable {M : Metadata} {s s' : St} {oid : sai_object_id_t} {status verdict : sai_status_t}
  {meta_key : sai_object_meta_key_t} {bad : Exn → Prop} {calls : List Call}

/-! ### Reachable states -/

/-- **A run keeps the database consistent.**  The removal of a port that throws is no step. -/
theorem consistent_of_run (hrun : Run (Guarded (Promised M) (Step M)) meta_init_db calls s) :
    Consistent M s := by
  refine hrun.keeps consistent_init ?_
  intro s₁ call s₂ hc hstep
  obtain ⟨hp, status, hperform⟩ := hstep
  by_cases hstale : StaleRemoval M s₁ call
  · cases call with
    | remove_oid object_type object_id status' =>
      rw [stale_throws hstale] at hperform
      cases hperform
    | _ => exact hstale.elim
  · exact (perform_safe hc hp hstale).post hperform

/-- A remove of an id that is validated does what a remove may do. -/
theorem remove_oid_cases (hc : Consistent M s) {object_type : sai_object_type_t}
    (hstale : object_type.1 = SAI_OBJECT_TYPE_PORT → ¬ StaleRelated M s oid)
    (h : perform M s (.remove_oid object_type oid status) = .ok (verdict, s')) :
    (verdict ≠ .SUCCESS ∧ s' = s) ∨
      (meta_sai_validate_oid M s object_type (some oid) = .ok () ∧
        Removal M s (oidKey object_type oid) status (verdict, s')) := by
  rcases validated_eq_ok h with ⟨hvalid, hremove⟩ | ⟨hreturns, hs⟩
  · have hsafe : Safe (fun _ => False) (Removal M s (oidKey object_type oid) status)
        (removeValidated M s (oidKey object_type oid) status) := by
      refine removeValidated_safe hc fun port_id hport => ?_
      obtain ⟨htype, rfl⟩ := portId_oidKey hport
      exact hstale htype
    exact Or.inr ⟨hvalid, hsafe.post hremove⟩
  · exact Or.inl ⟨quiet_validate_oid.returns verdict hreturns, hs⟩

/-- An object that something refers to is not removed, unless it is a switch. -/
theorem referenced_not_removed (hc : Consistent M s) {object_type : sai_object_type_t}
    (hswitch : object_type.1 ≠ SAI_OBJECT_TYPE_SWITCH) (hocc : occ s oid ≠ 0)
    (h : perform M s (.remove_oid object_type oid status) = .ok (verdict, s')) :
    verdict ≠ .SUCCESS ∧ s' = s := by
  have hstale : object_type.1 = SAI_OBJECT_TYPE_PORT → ¬ StaleRelated M s oid := by
    rintro - ⟨before, gone, after, -, -, hbefore⟩
    have hcount := (checkRemovable_spec (hbefore oid List.mem_cons_self)).1
    exact hocc (hc.exact.counter hcount).symm
  rcases remove_oid_cases hc hstale h with hfailed | ⟨hvalid, hremoval⟩
  · exact hfailed
  · have hkey : (oidKey object_type oid).objectkey = .object_id oid :=
      objectkey_oidKey (validate_oid_spec hvalid).1 oid
    cases hremoval with
    | failed hne => exact ⟨hne, rfl⟩
    | removed _ _ removable _ _ => exact absurd (removable.2 oid hkey) hocc
    | kept hs =>
      rw [objecttype_oidKey] at hs
      exact absurd hs hswitch
    | cleared hs =>
      rw [objecttype_oidKey] at hs
      exact absurd hs hswitch

/-- The type of ports. -/
def portType : sai_object_type_t := ⟨SAI_OBJECT_TYPE_PORT, by decide⟩

/-! ### Exact counters -/

/-- **The counters are exact in every state that is reached.**  What is referred to is not
removed, and a call throws a FATAL exception exactly if it is the removal of a port that
reaches a related object that is gone. -/
theorem references_exact (M : Metadata) (calls : List Call) (s : St)
    (hrun : Run (Guarded (Promised M) (Step M)) meta_init_db calls s) :
    Exact s.ObjectReferences (occ s) ∧
    (∀ (object_type : sai_object_type_t) (oid : sai_object_id_t) (status verdict : sai_status_t)
      (s' : St), object_type.1 ≠ SAI_OBJECT_TYPE_SWITCH → occ s oid ≠ 0 →
        perform M s (.remove_oid object_type oid status) = .ok (verdict, s') →
          verdict ≠ .SUCCESS ∧ s' = s) ∧
    ∀ call, Promised M s call →
      ((∃ f, perform M s call = .error (.fatal f)) ↔ StaleRemoval M s call) := by
  have hc : Consistent M s := consistent_of_run hrun
  refine ⟨hc.exact, fun object_type oid status verdict s' hswitch hocc h =>
    referenced_not_removed hc hswitch hocc h, fun call hp => ?_⟩
  constructor
  · rintro ⟨f, hf⟩
    by_contra hstale
    exact (perform_safe hc hp hstale).not_bad hf ⟨f, rfl⟩
  · intro hstale
    cases call with
    | remove_oid object_type object_id status => exact ⟨_, stale_throws hstale⟩
    | _ => exact hstale.elim

def samplePortId : sai_object_id_t := 0x0001000000000001
def sampleQueueId : sai_object_id_t := 0x0015000000000002
def sampleSchedulerId : sai_object_id_t := 0x0016000000000003

def queueType : sai_object_type_t := ⟨SAI_OBJECT_TYPE_QUEUE, by decide⟩
def schedulerType : sai_object_type_t := ⟨SAI_OBJECT_TYPE_SCHEDULER, by decide⟩

/-- A list of one object. -/
def listOf (oid : sai_object_id_t) : SaiList sai_object_id_t :=
  ⟨IntType.uint32.cast 1, some [oid], fun items h => by cases h; rfl⟩

/-- The ports of the switch are asked for. -/
def getPorts : Call :=
  .get_oid switchType sampleSwitchId
    [.of SAI_SWITCH_ATTR_PORT_LIST .OBJECT_LIST (SaiList.null (IntType.uint32.cast 0))] .SUCCESS
    [.of SAI_SWITCH_ATTR_PORT_LIST .OBJECT_LIST (listOf samplePortId)]

/-- The queues of the port are asked for. -/
def getQueues : Call :=
  .get_oid portType samplePortId
    [.of SAI_PORT_ATTR_QOS_QUEUE_LIST .OBJECT_LIST (SaiList.null (IntType.uint32.cast 0))] .SUCCESS
    [.of SAI_PORT_ATTR_QOS_QUEUE_LIST .OBJECT_LIST (listOf sampleQueueId)]

theorem references_exact_ports :
    ∃ s, Exact s.ObjectReferences (occ s) ∧ object_reference_exists s sampleQueueId = true := by
  have hreached : ∃ s, Run (Guarded (Promised sampleMetadata) (Step sampleMetadata)) meta_init_db
      [createSwitch, getPorts, getQueues] s ∧ object_reference_exists s sampleQueueId = true :=
    reached_of_performAll (by decide +kernel)
  obtain ⟨s, hrun, hs⟩ := hreached
  exact ⟨s, (references_exact sampleMetadata _ s hrun).1, hs⟩

/-- Is it the exception for a counter that is missing? -/
def isMissing : Result → Bool
  | .error (.fatal .notInReferenceMap) => true
  | _ => false

/-- **A FATAL exception is reached**: the queues of a port were asked for, the queue is
removed, and then the port. -/
theorem not_quiet_remove_port :
    ¬ ∀ (M : Metadata) (calls : List Call) (s : St),
      Run (Guarded (Promised M) (Step M)) meta_init_db calls s →
        ∀ call, Promised M s call → ¬ ∃ f, perform M s call = .error (.fatal f) := by
  intro h
  have hreached : ∃ s, Run (Guarded (Promised sampleMetadata) (Step sampleMetadata)) meta_init_db
      [createSwitch, getPorts, getQueues, .remove_oid queueType sampleQueueId .SUCCESS] s ∧
        isMissing (perform sampleMetadata s (.remove_oid portType samplePortId .SUCCESS)) = true :=
    reached_of_performAll (by decide +kernel)
  obtain ⟨s, hrun, hs⟩ := hreached
  refine h sampleMetadata _ s hrun (.remove_oid portType samplePortId .SUCCESS) trivial ?_
  unfold isMissing at hs
  split at hs
  · next heq => exact ⟨_, heq⟩
  · cases hs

/-! ### Removal of a port -/

/-- The attributes of an object that are object ids, and not read-only, are NULL. -/
def NullOids (M : Metadata) (s : St) (oid : sai_object_id_t) : Prop :=
  ∀ attrs id w, s.ObjectAttrHash.lookup (idKey M oid) = some attrs → attrs.lookup id = some w →
    w.m_meta.readOnly = false → w.m_meta.isoidattribute = true →
      ∀ r ∈ w.references, r = SAI_NULL_OBJECT_ID

theorem references_of_isDefault {w : SaiAttrWrapper} (h : isDefault w = true)
    (hro : w.m_meta.readOnly = false) (hoid : w.m_meta.isoidattribute = true) :
    ∀ r ∈ w.references, r = SAI_NULL_OBJECT_ID := by
  unfold isDefault at h
  rw [if_neg (by simp [hro]), if_neg (by simp [hoid])] at h
  intro r hr
  unfold SaiAttrWrapper.references AttrMetadata.references at hr
  split at h
  · next htype =>
      rw [htype] at hr
      rw [List.mem_singleton.mp hr]
      exact of_decide_eq_true (p := w.m_attr.value.oid = SAI_NULL_OBJECT_ID) h
  · next htype =>
      rw [htype] at hr
      exact of_decide_eq_true (List.all_eq_true.mp h r hr)
  · cases h

/-- What is checked for the removal of its port has only attributes that are NULL. -/
theorem nullOids_of_check (h : checkRemovable M s oid = .ok true) : NullOids M s oid := by
  obtain ⟨-, attrs, hattrs, hdefault⟩ := checkRemovable_spec h
  intro attrs' id w hattrs' hw hro hoid
  obtain rfl := Option.some.inj (hattrs.symm.trans hattrs')
  exact references_of_isDefault (hdefault id w hw) hro hoid

/-- A check that stops with a status. -/
def Calm (check : Check) : Prop := Safe (fun stop => ∃ e, stop = .throws e) (fun _ => True) check

theorem calm_require {p : Prop} [Decidable p] : Calm (require p status) := by
  unfold require
  split
  · trivial
  · rintro ⟨e, he⟩
    cases he

theorem calm_validate_port : Calm (meta_sai_validate_oid M s portType (some oid)) := by
  have hid : M.isnonobjectid portType = false := M.isnonobjectid_port portType (Or.inl rfl)
  refine Safe.bind calm_require fun _ _ _ => ?_
  rw [hid, if_neg (by simp)]
  exact Safe.bind calm_require fun _ _ _ => Safe.bind calm_require fun _ _ _ =>
    Safe.bind calm_require fun _ _ _ => calm_require

/-- The removal of a port throws nothing at all, unless a related object is gone. -/
theorem remove_port_safe (hc : Consistent M s) (hstale : ¬ StaleRelated M s oid) :
    Safe bad (fun _ => True) (perform M s (.remove_oid portType oid status)) := by
  refine validated_safe (fun e he => ?_) (fun _ _ => trivial) fun _ => ?_
  · exact absurd ⟨e, rfl⟩ (calm_validate_port.not_bad he)
  · refine (removeValidated_safe hc fun port_id hport => ?_).imp fun _ _ _ => trivial
    obtain ⟨-, rfl⟩ := portId_oidKey hport
    exact hstale

/-- The port, and the objects that were listed for it. -/
def portObjects (s : St) (port_id : sai_object_id_t) : List sai_object_id_t :=
  port_id :: (s.map_port_to_related_set.lookup port_id).getD []

/-- Some ids are gone with their objects, and nothing else has changed. -/
structure Removed (M : Metadata) (s s' : St) (oids : List sai_object_id_t) : Prop where
  gone : ∀ oid ∈ oids, object_reference_exists s' oid = false ∧ object_exists s' (idKey M oid) = false
  objects : ∀ key, key ∉ oids.map (idKey M) →
    s'.ObjectAttrHash.lookup key = s.ObjectAttrHash.lookup key
  known : ∀ oid, oid ∉ oids → object_reference_exists s' oid = object_reference_exists s oid

/-- Objects that are cleared by their ids are removed. -/
theorem Cleared.removed {oids : List sai_object_id_t} (h : Cleared s s' (oids.map (idKey M)))
    (hkeys : ∀ oid ∈ oids, (idKey M oid).objectkey = .object_id oid) : Removed M s s' oids := by
  refine ⟨fun oid hoid => ⟨?_, ?_⟩, fun key hkey => ?_, fun oid hoid => ?_⟩
  · rw [h.known, Bool.and_eq_false_iff]
    right
    refine decide_eq_false fun hall => ?_
    exact hall (idKey M oid) (List.mem_map_of_mem hoid) (hkeys oid hoid)
  · rw [object_exists, h.hash, if_pos (List.mem_map_of_mem hoid)]
    rfl
  · rw [h.hash, if_neg hkey]
  · rw [h.known, decide_eq_true, Bool.and_true]
    intro key hkey heq
    obtain ⟨r, hr, rfl⟩ := List.mem_map.mp hkey
    rw [objectkey_idKey heq] at hoid
    exact hoid hr

/-- The objects of a port are known by their ids. -/
theorem objectkey_portObjects (hc : Consistent M s)
    (hport : sai_object_type_query M.toSaiMetadata oid = portType) :
    ∀ r ∈ portObjects s oid, (idKey M r).objectkey = .object_id r := by
  intro r hr
  rcases List.mem_cons.mp hr with rfl | hmem
  · refine objectkey_oidKey ?_ r
    rw [hport]
    decide
  · cases hlook : s.map_port_to_related_set.lookup oid with
    | none =>
      rw [hlook] at hmem
      cases hmem
    | some related =>
      rw [hlook] at hmem
      exact ((hc.related oid related hlook).2 r hmem).type.2.2

theorem relatedOf_port (hport : sai_object_type_query M.toSaiMetadata oid = portType) :
    oidKey portType oid :: (relatedOf s (oidKey portType oid)).map (idKey M)
      = (portObjects s oid).map (idKey M) := by
  have hid : portId (oidKey portType oid) = some oid := rfl
  rw [relatedOf, hid, portObjects, List.map_cons, idKey, hport]
  rfl

/-- **The removal of a port.**  Unless a related object is gone, it throws nothing; it is
accepted only if nothing refers to the port, nor to what was listed for it, and what was
listed has only ids that are NULL, as has the port then; and it takes these objects out of
the database and leaves the others. -/
theorem port_removal (M : Metadata) (calls : List Call) (s : St)
    (hrun : Run (Guarded (Promised M) (Step M)) meta_init_db calls s) (port_id : sai_object_id_t)
    (hstale : ¬ StaleRelated M s port_id) :
    (∀ status e, perform M s (.remove_oid portType port_id status) ≠ .error e) ∧
    (∀ s', meta_generic_validation_remove M s (oidKey portType port_id) = .ok (.SUCCESS, s') →
      occ s port_id = 0 ∧ ∀ related, s.map_port_to_related_set.lookup port_id = some related →
        ∀ oid ∈ port_id :: related, occ s oid = 0 ∧ NullOids M s oid) ∧
    ∀ status s', perform M s (.remove_oid portType port_id status) = .ok (.SUCCESS, s') →
      Removed M s s' (portObjects s port_id) := by
  have hc : Consistent M s := consistent_of_run hrun
  have hid : portId (oidKey portType port_id) = some port_id := rfl
  have hswitch : (oidKey portType port_id).objecttype.1 ≠ SAI_OBJECT_TYPE_SWITCH := by
    rw [objecttype_oidKey]
    decide
  refine ⟨fun status e he => ?_, fun s' hvalid => ?_, fun status s' h => ?_⟩
  · have hsafe : Safe (fun _ => True) (fun _ => True)
        (perform M s (.remove_oid portType port_id status)) := remove_port_safe hc hstale
    exact hsafe.not_bad he trivial
  · have hsafe : Safe (fun _ => True) (Verdict M s (oidKey portType port_id))
        (meta_generic_validation_remove M s (oidKey portType port_id)) := by
      refine validation_remove_safe hc fun port hport => ?_
      obtain rfl := Option.some.inj (hid.symm.trans hport)
      exact hstale
    cases hsafe.post hvalid with
    | rejected hne => exact absurd rfl hne
    | cleared hs => exact absurd hs hswitch
    | accepted removable related checked =>
      refine ⟨removable.2 port_id rfl, fun rel hrel oid hoid => ?_⟩
      have hlook : relatedOf s (oidKey portType port_id) = rel := by
        rw [relatedOf, hid, Option.bind_some, hrel]
        rfl
      rw [hlook] at checked
      have hcheck := checked port_id hid (by rw [hrel]; simp) oid hoid
      exact ⟨(hc.exact.counter (checkRemovable_spec hcheck).1).symm, nullOids_of_check hcheck⟩
  · rcases remove_oid_cases hc (fun _ => hstale) h with ⟨hne, -⟩ | ⟨hvalid, hremoval⟩
    · exact absurd rfl hne
    · have hport := (validate_oid_spec hvalid).2.2.2.1
      cases hremoval with
      | failed hne => exact absurd rfl hne
      | kept hs => exact absurd hs hswitch
      | cleared hs => exact absurd hs hswitch
      | removed _ _ _ _ cleared =>
        rw [relatedOf_port hport] at cleared
        exact cleared.removed (objectkey_portObjects hc hport)

theorem not_stale_of_known
    (h : ∀ r ∈ (s.map_port_to_related_set.lookup oid).getD [], object_reference_exists s r = true) :
    ¬ StaleRelated M s oid := by
  rintro ⟨before, r, after, hlook, hgone, -⟩
  rw [hlook] at h
  rw [h r (by simp)] at hgone
  cases hgone

/-- Was it a success? -/
def isSuccess : Result → Bool
  | .ok (.SUCCESS, _) => true
  | _ => false

theorem isSuccess_iff {r : Result} : isSuccess r = true ↔ ∃ s, r = .ok (.SUCCESS, s) := by
  constructor
  · intro h
    unfold isSuccess at h
    split at h
    · exact ⟨_, rfl⟩
    · cases h
  · rintro ⟨s, rfl⟩
    rfl

/-- A port is removed with its queue. -/
theorem port_removal_queue :
    ∃ s s', object_reference_exists s sampleQueueId = true ∧
      Removed sampleMetadata s s' [samplePortId, sampleQueueId] := by
  have hreached : ∃ s, Run (Guarded (Promised sampleMetadata) (Step sampleMetadata)) meta_init_db
      [createSwitch, getPorts, getQueues] s ∧
        (decide (s.map_port_to_related_set.lookup samplePortId = some [sampleQueueId]) &&
          object_reference_exists s sampleQueueId &&
          isSuccess (perform sampleMetadata s (.remove_oid portType samplePortId .SUCCESS)))
            = true := reached_of_performAll (by decide +kernel)
  obtain ⟨s, hrun, hs⟩ := hreached
  simp only [Bool.and_eq_true, decide_eq_true_eq] at hs
  obtain ⟨⟨hrelated, hqueue⟩, hsuccess⟩ := hs
  obtain ⟨s', hs'⟩ := isSuccess_iff.mp hsuccess
  have hstale : ¬ StaleRelated sampleMetadata s samplePortId := by
    refine not_stale_of_known fun r hr => ?_
    rw [hrelated] at hr
    rw [List.mem_singleton.mp hr]
    exact hqueue
  have hremoved := (port_removal sampleMetadata _ s hrun samplePortId hstale).2.2 _ _ hs'
  rw [portObjects, hrelated] at hremoved
  exact ⟨s, s', hqueue, hremoved⟩

/-- The scheduler that is created. -/
def createScheduler : Call :=
  .create_oid schedulerType sampleSwitchId [] .SUCCESS sampleSchedulerId

/-- The port gets the scheduler as its profile. -/
def setProfile : Call :=
  .set_oid portType samplePortId
    (.of SAI_PORT_ATTR_QOS_SCHEDULER_PROFILE_ID .OBJECT_ID sampleSchedulerId) .SUCCESS

/-- The ids in the profile of a port. -/
def profileOf (s : St) : Option (Bool × Bool × List sai_object_id_t) :=
  ((s.ObjectAttrHash.lookup (idKey sampleMetadata samplePortId)).bind fun attrs =>
    attrs.lookup SAI_PORT_ATTR_QOS_SCHEDULER_PROFILE_ID).map fun w =>
      (w.m_meta.readOnly, w.m_meta.isoidattribute, w.references)

/-- **A port is accepted that refers to a scheduler**: no list of it was asked for. -/
theorem not_port_removal_null :
    ¬ ∀ (M : Metadata) (calls : List Call) (s : St),
      Run (Guarded (Promised M) (Step M)) meta_init_db calls s →
        ∀ (port_id : sai_object_id_t) (s' : St),
          meta_generic_validation_remove M s (oidKey portType port_id) = .ok (.SUCCESS, s') →
            NullOids M s port_id := by
  intro h
  have hreached : ∃ s, Run (Guarded (Promised sampleMetadata) (Step sampleMetadata)) meta_init_db
      [createSwitch, getPorts, createScheduler, setProfile] s ∧
        (decide (profileOf s = some (false, true, [sampleSchedulerId])) &&
          isSuccess (meta_generic_validation_remove sampleMetadata s
            (oidKey portType samplePortId))) = true := reached_of_performAll (by decide +kernel)
  obtain ⟨s, hrun, hs⟩ := hreached
  obtain ⟨hprofile, hsuccess⟩ := Bool.and_eq_true_iff.mp hs
  obtain ⟨s', hs'⟩ := isSuccess_iff.mp hsuccess
  obtain ⟨w, hw, heq⟩ := Option.map_eq_some_iff.mp (of_decide_eq_true hprofile)
  obtain ⟨attrs, hattrs, hlook⟩ := Option.bind_eq_some_iff.mp hw
  obtain ⟨hro, hoid, hrefs⟩ : w.m_meta.readOnly = false ∧ w.m_meta.isoidattribute = true ∧
      w.references = [sampleSchedulerId] := by
    simpa using heq
  have hnull := h sampleMetadata _ s hrun samplePortId s' hs' attrs _ w hattrs hlook hro hoid
    sampleSchedulerId (by rw [hrefs]; simp)
  exact absurd hnull (by decide)

end Sai.Meta
