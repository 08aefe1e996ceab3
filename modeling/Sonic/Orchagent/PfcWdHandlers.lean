/-
Orchagent/PfcWdHandlers.lean

The handlers of the PFC watchdog on the queues of one port (`PfcWdLossyHandler` and
`PfcWdZeroBufferHandler`).

A handler undoes in its destructor what its constructor did: the bit of its queue in the mask of
the port, which all handlers of the port share, and the buffer profiles of the queue and of the
priority group, which it keeps.  The lifetimes of handlers need not be nested.  The bit is set
again even if it was not set before, and a profile that could not be read is taken for null; so
handlers undo themselves (`handlers_undone`) if their calls succeed and PFC was on at their
queues.
-/
import Mathlib.Data.BitVec
import Mathlib.Logic.Function.Basic
import Sonic.Sai.Address

namespace Orchagent.PfcWdHandlers

open Sai (sai_object_id_t)

def SAI_NULL_OBJECT_ID : sai_object_id_t := 0

/-! ### The port -/

inductive sai_port_priority_flow_control_mode_t where
  | COMBINED | SEPARATE
  deriving DecidableEq

/-- The attributes that have a mask: `SAI_PORT_ATTR_PRIORITY_FLOW_CONTROL` and `_TX`. -/
inductive PfcAttr where
  | PRIORITY_FLOW_CONTROL | PRIORITY_FLOW_CONTROL_TX
  deriving DecidableEq

/-- The attribute that `setPortPfc` sets. -/
def pfcAttr : sai_port_priority_flow_control_mode_t → PfcAttr
  | .COMBINED => .PRIORITY_FLOW_CONTROL
  | .SEPARATE => .PRIORITY_FLOW_CONTROL_TX

inductive Kind where
  | lossy | zeroBuffer
  deriving DecidableEq

/-- A handler: its class, its queue and the profiles that it keeps. -/
structure Handler where
  kind : Kind
  queueId : ℕ
  m_originalQueueBufferProfile : sai_object_id_t
  m_originalPgBufferProfile : sai_object_id_t

/-- One port, its queues and its priority groups. -/
structure St where
  /-- `gPortsOrch` has the port -/
  known : Bool
  m_pfc_bitmask : BitVec 8
  m_pfc_asym : sai_port_priority_flow_control_mode_t
  /-- the masks in the ASIC -/
  asic_pfc : PfcAttr → BitVec 8
  /-- `SAI_QUEUE_ATTR_BUFFER_PROFILE_ID` of the queues -/
  queue_profile : ℕ → sai_object_id_t
  /-- `SAI_INGRESS_PRIORITY_GROUP_ATTR_BUFFER_PROFILE` of `m_priority_group_ids` -/
  pg_profile : ℕ → sai_object_id_t
  /-- the profiles of `ZeroBufferProfile`, for egress and ingress -/
  zero_profile : Bool → sai_object_id_t
  /-- the handlers that are alive -/
  handlers : ℕ → Option Handler

def getPortPfc (s : St) : Option (BitVec 8) := if s.known then some s.m_pfc_bitmask else none

/-- `setPortPfc`; `ok` is whether `set_port_attribute` succeeds. -/
def setPortPfc (ok : Bool) (s : St) (pfc_bitmask : BitVec 8) : St :=
  if s.known = false then s
  else if ok = false then s
  else
    { s with
      asic_pfc := Function.update s.asic_pfc (pfcAttr s.m_pfc_asym) pfc_bitmask
      m_pfc_bitmask := pfc_bitmask }

/-! ### Lossy handlers -/

/-- The constructor of `PfcWdLossyHandler`. -/
def lossyCreate (ok : Bool) (s : St) (queueId : ℕ) : St :=
  let pfcMask := (getPortPfc s).getD 0
  setPortPfc ok s (pfcMask &&& ~~~(1#8 <<< queueId))

/-- Its destructor. -/
def lossyDestroy (ok : Bool) (s : St) (queueId : ℕ) : St :=
  let pfcMask := (getPortPfc s).getD 0
  setPortPfc ok s (pfcMask ||| 1#8 <<< queueId)

/-! ### Handlers with a buffer of size zero -/

/-- The answers when a pool and a profile are created. -/
structure ZeroAnswers where
  pool : Bool
  profile : Option {id : sai_object_id_t // id ≠ SAI_NULL_OBJECT_ID}

/-- The answers to the calls of a constructor. -/
structure CreateAnswers where
  set_pfc : Bool
  get_queue : Bool
  egress : ZeroAnswers
  set_queue : Bool
  get_pg : Bool
  ingress : ZeroAnswers
  set_pg : Bool

/-- The answers to the calls of a destructor. -/
structure DestroyAnswers where
  set_queue : Bool
  set_pg : Bool
  set_pfc : Bool

/-- `createZeroBufferProfile`. -/
def createZeroBufferProfile (a : ZeroAnswers) (s : St) (ingress : Bool) : St :=
  if a.pool = false then s
  else
    match a.profile with
    | none => s
    | some id => { s with zero_profile := Function.update s.zero_profile ingress id.1 }

/-- The profile after `getZeroBufferProfile`, in a state that has it. -/
def getZeroBufferProfile (a : ZeroAnswers) (s : St) (ingress : Bool) : St :=
  if s.zero_profile ingress = SAI_NULL_OBJECT_ID then createZeroBufferProfile a s ingress else s

/-- The constructor of `PfcWdZeroBufferHandler`, with the profiles that it keeps. -/
def zeroBufferCreate (a : CreateAnswers) (s : St) (queueId : ℕ) :
    St × sai_object_id_t × sai_object_id_t :=
  if a.get_queue = false then (s, SAI_NULL_OBJECT_ID, SAI_NULL_OBJECT_ID)
  else
    let oldQueueProfileId := s.queue_profile queueId
    let s := getZeroBufferProfile a.egress s false
    if a.set_queue = false then (s, SAI_NULL_OBJECT_ID, SAI_NULL_OBJECT_ID)
    else
      let s := { s with
        queue_profile := Function.update s.queue_profile queueId (s.zero_profile false) }
      if s.known = false then (s, oldQueueProfileId, SAI_NULL_OBJECT_ID)
      else if a.get_pg = false then (s, oldQueueProfileId, SAI_NULL_OBJECT_ID)
      else
        let oldPgProfileId := s.pg_profile queueId
        let s := getZeroBufferProfile a.ingress s true
        if a.set_pg = false then (s, oldQueueProfileId, SAI_NULL_OBJECT_ID)
        else
          ({ s with pg_profile := Function.update s.pg_profile queueId (s.zero_profile true) },
            oldQueueProfileId, oldPgProfileId)

/-- Its destructor. -/
def zeroBufferDestroy (a : DestroyAnswers) (s : St) (h : Handler) : St :=
  if a.set_queue = false then s
  else
    let s := { s with
      queue_profile := Function.update s.queue_profile h.queueId h.m_originalQueueBufferProfile }
    if s.known = false then s
    else if a.set_pg = false then s
    else
      { s with
        pg_profile := Function.update s.pg_profile h.queueId h.m_originalPgBufferProfile }

/-! ### Steps -/

inductive Event where
  | create (id : ℕ) (kind : Kind) (queueId : ℕ) (a : CreateAnswers)
  | destroy (id : ℕ) (a : DestroyAnswers)

/-- The constructor of a handler: that of the base class comes first. -/
def create (s : St) (id : ℕ) (kind : Kind) (queueId : ℕ) (a : CreateAnswers) : St :=
  let s := lossyCreate a.set_pfc s queueId
  match kind with
  | .lossy =>
    let h : Handler := ⟨.lossy, queueId, SAI_NULL_OBJECT_ID, SAI_NULL_OBJECT_ID⟩
    { s with handlers := Function.update s.handlers id (some h) }
  | .zeroBuffer =>
    let r := zeroBufferCreate a s queueId
    let h : Handler := ⟨.zeroBuffer, queueId, r.2.1, r.2.2⟩
    { r.1 with handlers := Function.update r.1.handlers id (some h) }

/-- The destructor of a handler: that of the base class comes last. -/
def destroy (s : St) (id : ℕ) (h : Handler) (a : DestroyAnswers) : St :=
  let s := match h.kind with
    | .lossy => s
    | .zeroBuffer => zeroBufferDestroy a s h
  let s := lossyDestroy a.set_pfc s h.queueId
  { s with handlers := Function.update s.handlers id none }

def step (s : St) : Event → St
  | .create id kind queueId a =>
    match s.handlers id with
    | some _ => s
    | none => create s id kind queueId a
  | .destroy id a =>
    match s.handlers id with
    | none => s
    | some h => destroy s id h a

/-! ### What should hold -/

/-- A handler is alive on a queue. -/
def Live (s : St) (queueId : ℕ) : Prop := ∃ id h, s.handlers id = some h ∧ h.queueId = queueId

/-- The mask of a port is the one in the ASIC too. -/
def St.mask (s : St) : BitVec 8 := s.asic_pfc (pfcAttr s.m_pfc_asym)

/-- No handler is alive, and the ASIC has the mask of the port. -/
structure Start (s : St) : Prop where
  none_alive : ∀ id, s.handlers id = none
  mask : s.mask = s.m_pfc_bitmask

/-- What should hold of a state that is reached from `s₀`. -/
structure Undone (s₀ s : St) : Prop where
  /-- the mask is that of the configuration without the queues that have a handler -/
  mask : ∀ i, s.mask.getLsbD i = true ↔ s₀.mask.getLsbD i = true ∧ ¬ Live s i
  /-- without handlers the profiles are those before -/
  profiles : (∀ id, s.handlers id = none) →
    s.queue_profile = s₀.queue_profile ∧ s.pg_profile = s₀.pg_profile
  /-- no queue has lost its profile, and no priority group -/
  queue_not_null : ∀ i, s.queue_profile i = SAI_NULL_OBJECT_ID →
    s₀.queue_profile i = SAI_NULL_OBJECT_ID
  pg_not_null : ∀ i, s.pg_profile i = SAI_NULL_OBJECT_ID → s₀.pg_profile i = SAI_NULL_OBJECT_ID

/-- The states that are reached by events of which `ok` holds. -/
inductive Reached (ok : St → Event → Prop) (s₀ : St) : St → Prop
  | start (h : Start s₀) : Reached ok s₀ s₀
  | step {s e} (h : Reached ok s₀ s) (hok : ok s e) : Reached ok s₀ (step s e)

/-- `getZeroBufferProfile` returns a profile. -/
def Available (s : St) (a : ZeroAnswers) (ingress : Bool) : Prop :=
  s.zero_profile ingress ≠ SAI_NULL_OBJECT_ID ∨ a.pool = true ∧ a.profile ≠ none

/-- What an event leaves alone of which a call could not read: a port that is not known keeps its
mask, and profiles that could not be read stay until the handler is destroyed. -/
def FailedReads (s s' : St) : Event → Prop
  | .create _ _ _ a =>
    (s.known = false → s'.mask = s.mask ∧ s'.m_pfc_bitmask = s.m_pfc_bitmask ∧
      s'.pg_profile = s.pg_profile) ∧
    (a.get_queue = false → s'.queue_profile = s.queue_profile ∧ s'.pg_profile = s.pg_profile) ∧
    (a.get_pg = false → s'.pg_profile = s.pg_profile)
  | .destroy _ _ =>
    s.known = false → s'.mask = s.mask ∧ s'.m_pfc_bitmask = s.m_pfc_bitmask ∧
      s'.pg_profile = s.pg_profile

/-- The calls succeed, and PFC is on at the queue of a new handler. -/
def Succeeds (s : St) : Event → Prop
  | .create id kind queueId a => s.handlers id = none →
      s.known = true ∧ s.m_pfc_bitmask.getLsbD queueId = true ∧ a.set_pfc = true ∧
      (kind = .zeroBuffer →
        a.get_queue = true ∧ Available s a.egress false ∧ a.set_queue = true ∧
        a.get_pg = true ∧ Available s a.ingress true ∧ a.set_pg = true)
  | .destroy id a => ∀ h, s.handlers id = some h →
      a.set_pfc = true ∧ (h.kind = .zeroBuffer → a.set_queue = true ∧ a.set_pg = true)

/-! ### Masks -/

theorem getLsbD_bit (q i : ℕ) : (1#8 <<< q).getLsbD i = true ↔ i = q ∧ i < 8 := by
  rw [BitVec.getLsbD_shiftLeft]
  simp only [Bool.and_eq_true, decide_eq_true_eq, Bool.not_eq_true', decide_eq_false_iff_not]
  constructor
  · rintro ⟨⟨hlt, hle⟩, hone⟩
    have hzero : i - q = 0 := by
      by_contra hne
      simp [BitVec.getLsbD_one, hne] at hone
    omega
  · rintro ⟨rfl, hlt⟩
    simp [hlt]

/-- A constructor clears the bit of its queue. -/
theorem getLsbD_clear (mask : BitVec 8) (q i : ℕ) :
    (mask &&& ~~~(1#8 <<< q)).getLsbD i = true ↔ mask.getLsbD i = true ∧ i ≠ q := by
  rw [BitVec.getLsbD_and, BitVec.getLsbD_not, Bool.and_eq_true, Bool.and_eq_true]
  constructor
  · rintro ⟨hmask, hlt, hbit⟩
    refine ⟨hmask, fun heq => ?_⟩
    rw [(getLsbD_bit q i).mpr ⟨heq, of_decide_eq_true hlt⟩] at hbit
    cases hbit
  · rintro ⟨hmask, hne⟩
    have hlt : i < 8 := BitVec.lt_of_getLsbD hmask
    refine ⟨hmask, decide_eq_true hlt, ?_⟩
    cases hbit : (1#8 <<< q).getLsbD i with
    | false => rfl
    | true => exact absurd ((getLsbD_bit q i).mp hbit).1 hne

/-- A destructor sets the bit of its queue. -/
theorem getLsbD_set (mask : BitVec 8) (q i : ℕ) :
    (mask ||| 1#8 <<< q).getLsbD i = true ↔ mask.getLsbD i = true ∨ i = q ∧ i < 8 := by
  rw [BitVec.getLsbD_or, Bool.or_eq_true, getLsbD_bit]

/-! ### The functions, if their calls succeed -/

variable {s s' s₀ : St} {id : ℕ} {h : Handler}

theorem setPortPfc_eq (hknown : s.known = true) (mask : BitVec 8) :
    setPortPfc true s mask = { s with
      asic_pfc := Function.update s.asic_pfc (pfcAttr s.m_pfc_asym) mask
      m_pfc_bitmask := mask } := by
  rw [setPortPfc, hknown, if_neg Bool.noConfusion, if_neg Bool.noConfusion]

theorem lossyCreate_eq (hknown : s.known = true) (queueId : ℕ) :
    lossyCreate true s queueId =
      setPortPfc true s (s.m_pfc_bitmask &&& ~~~(1#8 <<< queueId)) := by
  rw [lossyCreate, getPortPfc, hknown]
  rfl

theorem lossyDestroy_eq (hknown : s.known = true) (queueId : ℕ) :
    lossyDestroy true s queueId = setPortPfc true s (s.m_pfc_bitmask ||| 1#8 <<< queueId) := by
  rw [lossyDestroy, getPortPfc, hknown]
  rfl

/-- The profile of size zero is there, and only it may be new. -/
theorem getZeroBufferProfile_spec {a : ZeroAnswers} {ingress : Bool}
    (havailable : Available s a ingress) :
    ∃ zero, zero ≠ SAI_NULL_OBJECT_ID ∧ getZeroBufferProfile a s ingress =
      { s with zero_profile := Function.update s.zero_profile ingress zero } := by
  by_cases hnull : s.zero_profile ingress = SAI_NULL_OBJECT_ID
  · obtain ⟨hpool, hprofile⟩ := havailable.resolve_left (not_not.mpr hnull)
    obtain ⟨zero, hzero⟩ := Option.ne_none_iff_exists'.mp hprofile
    refine ⟨zero.1, zero.2, ?_⟩
    rw [getZeroBufferProfile, if_pos hnull, createZeroBufferProfile, hpool,
      if_neg Bool.noConfusion, hzero]
  · refine ⟨s.zero_profile ingress, hnull, ?_⟩
    rw [getZeroBufferProfile, if_neg hnull, Function.update_eq_self]

/-- The constructor puts profiles of size zero in the place of those that it keeps. -/
theorem zeroBufferCreate_spec {a : CreateAnswers} (hknown : s.known = true)
    (hget_queue : a.get_queue = true) (hegress : Available s a.egress false)
    (hset_queue : a.set_queue = true) (hget_pg : a.get_pg = true)
    (hingress : Available s a.ingress true) (hset_pg : a.set_pg = true) (queueId : ℕ) :
    ∃ zero zero' zeros, zero ≠ SAI_NULL_OBJECT_ID ∧ zero' ≠ SAI_NULL_OBJECT_ID ∧
      zeroBufferCreate a s queueId =
        ({ s with
            queue_profile := Function.update s.queue_profile queueId zero
            pg_profile := Function.update s.pg_profile queueId zero'
            zero_profile := zeros }, s.queue_profile queueId, s.pg_profile queueId) := by
  obtain ⟨zero, hzero, hfirst⟩ := getZeroBufferProfile_spec hegress
  let s₁ : St := { s with
    zero_profile := Function.update s.zero_profile false zero
    queue_profile := Function.update s.queue_profile queueId zero }
  have hingress₁ : Available s₁ a.ingress true := hingress
  obtain ⟨zero', hzero', hsecond⟩ := getZeroBufferProfile_spec hingress₁
  refine ⟨zero, zero', Function.update s₁.zero_profile true zero', hzero, hzero', ?_⟩
  have hself : Function.update s.zero_profile false zero false = zero := Function.update_self ..
  have hself' : Function.update s₁.zero_profile true zero' true = zero' := Function.update_self ..
  have hno : ¬ true = false := Bool.noConfusion
  rw [zeroBufferCreate, hget_queue, if_neg hno, hset_queue, hfirst, hget_pg, hset_pg]
  dsimp only
  rw [hself, if_neg hno, if_neg (by rw [hknown]; exact hno), if_neg hno, if_neg hno, hsecond]
  dsimp only
  rw [hself']

theorem zeroBufferDestroy_eq {a : DestroyAnswers} (hknown : s.known = true)
    (hset_queue : a.set_queue = true) (hset_pg : a.set_pg = true) :
    zeroBufferDestroy a s h = { s with
      queue_profile := Function.update s.queue_profile h.queueId h.m_originalQueueBufferProfile
      pg_profile := Function.update s.pg_profile h.queueId h.m_originalPgBufferProfile } := by
  simp only [zeroBufferDestroy, hset_queue, hset_pg, hknown, Bool.true_eq_false, if_false]

/-! ### The invariant -/

/-- A handler is alive that has taken the profiles of a queue. -/
def Taken (s : St) (queueId : ℕ) : Prop :=
  ∃ id h, s.handlers id = some h ∧ h.kind = .zeroBuffer ∧ h.queueId = queueId

structure Inv (s₀ s : St) : Prop where
  mask : ∀ i, s.m_pfc_bitmask.getLsbD i = true ↔ s₀.mask.getLsbD i = true ∧ ¬ Live s i
  asic : s.mask = s.m_pfc_bitmask
  known : ∀ i, Live s i → s.known = true
  configured : ∀ i, Live s i → s₀.mask.getLsbD i = true
  unique : ∀ id id' h h', s.handlers id = some h → s.handlers id' = some h' →
    h.queueId = h'.queueId → id = id'
  kept : ∀ id h, s.handlers id = some h → h.kind = .zeroBuffer →
    h.m_originalQueueBufferProfile = s₀.queue_profile h.queueId ∧
      h.m_originalPgBufferProfile = s₀.pg_profile h.queueId
  profiles : ∀ i, ¬ Taken s i →
    s.queue_profile i = s₀.queue_profile i ∧ s.pg_profile i = s₀.pg_profile i
  queue_not_null : ∀ i, s.queue_profile i = SAI_NULL_OBJECT_ID →
    s₀.queue_profile i = SAI_NULL_OBJECT_ID
  pg_not_null : ∀ i, s.pg_profile i = SAI_NULL_OBJECT_ID → s₀.pg_profile i = SAI_NULL_OBJECT_ID

theorem Inv.undone (hinv : Inv s₀ s) : Undone s₀ s where
  mask i := by
    rw [hinv.asic]
    exact hinv.mask i
  profiles hnone := by
    have hfree : ∀ i, ¬ Taken s i := by
      rintro i ⟨id, h, halive, -⟩
      cases (hnone id).symm.trans halive
    exact ⟨funext fun i => (hinv.profiles i (hfree i)).1,
      funext fun i => (hinv.profiles i (hfree i)).2⟩
  queue_not_null := hinv.queue_not_null
  pg_not_null := hinv.pg_not_null

theorem inv_start (hstart : Start s) : Inv s s := by
  have hdead : ∀ {id h}, s.handlers id ≠ some h := fun halive => by
    cases (hstart.none_alive _).symm.trans halive
  have hlive : ∀ i, ¬ Live s i := by
    rintro i ⟨id, h, halive, -⟩
    exact hdead halive
  refine ⟨fun i => ?_, hstart.mask, fun i hi => absurd hi (hlive i),
    fun i hi => absurd hi (hlive i), fun id id' h h' halive => absurd halive hdead,
    fun id h halive => absurd halive hdead, fun i _ => ⟨rfl, rfl⟩, fun i hi => hi, fun i hi => hi⟩
  rw [hstart.mask]
  exact (and_iff_left (hlive i)).symm

/-- The handlers that are alive with a new one. -/
theorem exists_alive_update {P : Handler → Prop} (hnone : s.handlers id = none)
    (hhandlers : s'.handlers = Function.update s.handlers id (some h)) :
    (∃ id' h', s'.handlers id' = some h' ∧ P h') ↔
      P h ∨ ∃ id' h', s.handlers id' = some h' ∧ P h' := by
  rw [hhandlers]
  constructor
  · rintro ⟨id', h', halive, hp⟩
    by_cases hid : id' = id
    · subst hid
      rw [Function.update_self] at halive
      exact .inl (Option.some.inj halive ▸ hp)
    · rw [Function.update_of_ne hid] at halive
      exact .inr ⟨id', h', halive, hp⟩
  · rintro (hp | ⟨id', h', halive, hp⟩)
    · exact ⟨id, h, Function.update_self .., hp⟩
    · refine ⟨id', h', ?_, hp⟩
      rw [Function.update_of_ne, halive]
      rintro rfl
      cases hnone.symm.trans halive

/-- The handlers that stay alive. -/
theorem alive_removed {id' : ℕ} {h' : Handler}
    (hhandlers : s'.handlers = Function.update s.handlers id none) :
    s'.handlers id' = some h' ↔ id' ≠ id ∧ s.handlers id' = some h' := by
  rw [hhandlers]
  by_cases hid : id' = id
  · rw [hid, Function.update_self]
    constructor
    · intro h
      cases h
    · intro h
      exact absurd rfl h.1
  · rw [Function.update_of_ne hid]
    exact (and_iff_right hid).symm

/-- What a constructor changes that succeeds. -/
structure Created (s s' : St) (id : ℕ) (h : Handler) : Prop where
  handlers : s'.handlers = Function.update s.handlers id (some h)
  known : s'.known = true
  mask : s'.m_pfc_bitmask = s.m_pfc_bitmask &&& ~~~(1#8 <<< h.queueId)
  asic : s'.mask = s'.m_pfc_bitmask
  kept : h.kind = .zeroBuffer → h.m_originalQueueBufferProfile = s.queue_profile h.queueId ∧
    h.m_originalPgBufferProfile = s.pg_profile h.queueId
  profiles : ∀ i, ¬ (h.kind = .zeroBuffer ∧ h.queueId = i) →
    s'.queue_profile i = s.queue_profile i ∧ s'.pg_profile i = s.pg_profile i
  not_null : h.kind = .zeroBuffer → s'.queue_profile h.queueId ≠ SAI_NULL_OBJECT_ID ∧
    s'.pg_profile h.queueId ≠ SAI_NULL_OBJECT_ID

theorem mask_setPortPfc (hknown : s.known = true) (mask : BitVec 8) :
    (setPortPfc true s mask).mask = mask := by
  rw [setPortPfc_eq hknown]
  exact Function.update_self ..

theorem created (hknown : s.known = true) {kind : Kind} {queueId : ℕ} {a : CreateAnswers}
    (hset_pfc : a.set_pfc = true)
    (hzero : kind = .zeroBuffer →
      a.get_queue = true ∧ Available s a.egress false ∧ a.set_queue = true ∧
        a.get_pg = true ∧ Available s a.ingress true ∧ a.set_pg = true) :
    ∃ h, h.queueId = queueId ∧ Created s (create s id kind queueId a) id h := by
  have hmask := mask_setPortPfc hknown (s.m_pfc_bitmask &&& ~~~(1#8 <<< queueId))
  have hlossy : lossyCreate a.set_pfc s queueId =
      setPortPfc true s (s.m_pfc_bitmask &&& ~~~(1#8 <<< queueId)) := by
    rw [hset_pfc, lossyCreate_eq hknown]
  rw [setPortPfc_eq hknown] at hmask hlossy
  cases kind with
  | lossy =>
    rw [create, hlossy]
    refine ⟨⟨.lossy, queueId, SAI_NULL_OBJECT_ID, SAI_NULL_OBJECT_ID⟩, rfl, ?_⟩
    refine ⟨rfl, hknown, rfl, hmask, fun h => ?_, fun i _ => ⟨rfl, rfl⟩, fun h => ?_⟩ <;> cases h
  | zeroBuffer =>
    obtain ⟨hget_queue, hegress, hset_queue, hget_pg, hingress, hset_pg⟩ := hzero rfl
    let s₁ : St := { s with
      asic_pfc := Function.update s.asic_pfc (pfcAttr s.m_pfc_asym)
        (s.m_pfc_bitmask &&& ~~~(1#8 <<< queueId))
      m_pfc_bitmask := s.m_pfc_bitmask &&& ~~~(1#8 <<< queueId) }
    obtain ⟨zero, zero', zeros, hne, hne', hcreate⟩ :=
      zeroBufferCreate_spec (s := s₁) hknown hget_queue hegress hset_queue hget_pg hingress
        hset_pg queueId
    refine ⟨⟨.zeroBuffer, queueId, s.queue_profile queueId, s.pg_profile queueId⟩, rfl, ?_⟩
    rw [create, hlossy, hcreate]
    refine ⟨rfl, hknown, rfl, hmask, fun _ => ⟨rfl, rfl⟩, fun i hi => ?_, fun _ => ?_⟩
    · have hother : i ≠ queueId := fun heq => hi ⟨rfl, heq.symm⟩
      exact ⟨Function.update_of_ne hother .., Function.update_of_ne hother ..⟩
    · constructor
      · show Function.update s.queue_profile queueId zero queueId ≠ _
        rw [Function.update_self]
        exact hne
      · show Function.update s.pg_profile queueId zero' queueId ≠ _
        rw [Function.update_self]
        exact hne'

/-- **A new handler on a queue whose bit is set.** -/
theorem Inv.created (hinv : Inv s₀ s) (hnone : s.handlers id = none)
    (hbit : s.m_pfc_bitmask.getLsbD h.queueId = true) (hnew : Created s s' id h) : Inv s₀ s' := by
  obtain ⟨hconfigured, hfree⟩ := (hinv.mask h.queueId).mp hbit
  have hlive : ∀ i, Live s' i ↔ h.queueId = i ∨ Live s i := fun i =>
    exists_alive_update hnone hnew.handlers
  have htaken : ∀ i, Taken s' i ↔ (h.kind = .zeroBuffer ∧ h.queueId = i) ∨ Taken s i := fun i =>
    exists_alive_update hnone hnew.handlers
  have huntaken : ¬ Taken s h.queueId := fun ⟨id', h', halive, _, hqueue⟩ =>
    hfree ⟨id', h', halive, hqueue⟩
  have halive : ∀ id' h', s'.handlers id' = some h' →
      id' = id ∧ h' = h ∨ id' ≠ id ∧ s.handlers id' = some h' := by
    intro id' h' halive
    rw [hnew.handlers] at halive
    by_cases hid : id' = id
    · rw [hid, Function.update_self] at halive
      exact .inl ⟨hid, (Option.some.inj halive).symm⟩
    · rw [Function.update_of_ne hid] at halive
      exact .inr ⟨hid, halive⟩
  constructor
  · intro i
    rw [hnew.mask, getLsbD_clear, hinv.mask, hlive, not_or, and_assoc, and_comm (a := ¬ Live s i),
      ne_comm]
  · exact hnew.asic
  · exact fun _ _ => hnew.known
  · intro i hi
    rcases (hlive i).mp hi with rfl | hi
    · exact hconfigured
    · exact hinv.configured i hi
  · intro id₁ id₂ h₁ h₂ ha₁ ha₂ hqueue
    rcases halive id₁ h₁ ha₁ with ⟨rfl, rfl⟩ | ⟨-, hold₁⟩
    · rcases halive id₂ h₂ ha₂ with ⟨rfl, -⟩ | ⟨-, hold₂⟩
      · rfl
      · exact absurd ⟨id₂, h₂, hold₂, hqueue.symm⟩ hfree
    · rcases halive id₂ h₂ ha₂ with ⟨rfl, rfl⟩ | ⟨-, hold₂⟩
      · exact absurd ⟨id₁, h₁, hold₁, hqueue⟩ hfree
      · exact hinv.unique id₁ id₂ h₁ h₂ hold₁ hold₂ hqueue
  · intro id' h' ha' hkind
    rcases halive id' h' ha' with ⟨-, rfl⟩ | ⟨-, hold⟩
    · -- the profiles of a queue without a handler are those before
      obtain ⟨hqueue, hpg⟩ := hinv.profiles h'.queueId huntaken
      rw [← hqueue, ← hpg]
      exact hnew.kept hkind
    · exact hinv.kept id' h' hold hkind
  · intro i hi
    rw [htaken, not_or] at hi
    obtain ⟨hqueue, hpg⟩ := hnew.profiles i hi.1
    rw [hqueue, hpg]
    exact hinv.profiles i hi.2
  · intro i hi
    by_cases hown : h.kind = .zeroBuffer ∧ h.queueId = i
    · obtain ⟨hkind, rfl⟩ := hown
      exact absurd hi (hnew.not_null hkind).1
    · rw [(hnew.profiles i hown).1] at hi
      exact hinv.queue_not_null i hi
  · intro i hi
    by_cases hown : h.kind = .zeroBuffer ∧ h.queueId = i
    · obtain ⟨hkind, rfl⟩ := hown
      exact absurd hi (hnew.not_null hkind).2
    · rw [(hnew.profiles i hown).2] at hi
      exact hinv.pg_not_null i hi

/-- What a destructor changes that succeeds. -/
structure Destroyed (s s' : St) (id : ℕ) (h : Handler) : Prop where
  handlers : s'.handlers = Function.update s.handlers id none
  known : s'.known = true
  mask : s'.m_pfc_bitmask = s.m_pfc_bitmask ||| 1#8 <<< h.queueId
  asic : s'.mask = s'.m_pfc_bitmask
  own : h.kind = .zeroBuffer → s'.queue_profile h.queueId = h.m_originalQueueBufferProfile ∧
    s'.pg_profile h.queueId = h.m_originalPgBufferProfile
  profiles : ∀ i, ¬ (h.kind = .zeroBuffer ∧ h.queueId = i) →
    s'.queue_profile i = s.queue_profile i ∧ s'.pg_profile i = s.pg_profile i

theorem destroyed (hknown : s.known = true) {a : DestroyAnswers} (hset_pfc : a.set_pfc = true)
    (hzero : h.kind = .zeroBuffer → a.set_queue = true ∧ a.set_pg = true) :
    Destroyed s (destroy s id h a) id h := by
  obtain ⟨kind, queueId, oldQueueProfileId, oldPgProfileId⟩ := h
  cases kind with
  | lossy =>
    have hmask := mask_setPortPfc hknown (s.m_pfc_bitmask ||| 1#8 <<< queueId)
    rw [destroy, hset_pfc]
    dsimp only
    rw [lossyDestroy_eq hknown]
    rw [setPortPfc_eq hknown] at hmask ⊢
    refine ⟨rfl, hknown, rfl, hmask, fun h => ?_, fun i _ => ⟨rfl, rfl⟩⟩
    cases h
  | zeroBuffer =>
    obtain ⟨hset_queue, hset_pg⟩ := hzero rfl
    let s₁ : St := { s with
      queue_profile := Function.update s.queue_profile queueId oldQueueProfileId
      pg_profile := Function.update s.pg_profile queueId oldPgProfileId }
    have hknown₁ : s₁.known = true := hknown
    have hmask := mask_setPortPfc hknown₁ (s.m_pfc_bitmask ||| 1#8 <<< queueId)
    rw [destroy, hset_pfc]
    dsimp only
    rw [zeroBufferDestroy_eq hknown hset_queue hset_pg]
    show Destroyed s { lossyDestroy true s₁ queueId with
      handlers := Function.update (lossyDestroy true s₁ queueId).handlers id none } id _
    rw [lossyDestroy_eq hknown₁]
    rw [setPortPfc_eq hknown₁] at hmask ⊢
    refine ⟨rfl, hknown, rfl, hmask, fun _ => ?_, fun i hi => ?_⟩
    · exact ⟨Function.update_self .., Function.update_self ..⟩
    · have hother : i ≠ queueId := fun heq => hi ⟨rfl, heq.symm⟩
      exact ⟨Function.update_of_ne hother .., Function.update_of_ne hother ..⟩

/-- **A handler gives back what it took**, while others stay alive. -/
theorem Inv.destroyed (hinv : Inv s₀ s) (halive : s.handlers id = some h)
    (hold : Destroyed s s' id h) : Inv s₀ s' := by
  have hconfigured : s₀.mask.getLsbD h.queueId = true :=
    hinv.configured h.queueId ⟨id, h, halive, rfl⟩
  have hlt : h.queueId < 8 := BitVec.lt_of_getLsbD hconfigured
  have hstays : ∀ id' h', s'.handlers id' = some h' ↔ id' ≠ id ∧ s.handlers id' = some h' :=
    fun id' h' => alive_removed hold.handlers
  have hlive : ∀ i, Live s' i ↔ Live s i ∧ i ≠ h.queueId := by
    intro i
    constructor
    · rintro ⟨id', h', ha', rfl⟩
      obtain ⟨hne, ha⟩ := (hstays id' h').mp ha'
      exact ⟨⟨id', h', ha, rfl⟩, fun heq => hne (hinv.unique id' id h' h ha halive heq)⟩
    · rintro ⟨⟨id', h', ha, rfl⟩, hne⟩
      refine ⟨id', h', (hstays id' h').mpr ⟨?_, ha⟩, rfl⟩
      rintro rfl
      exact hne (congrArg Handler.queueId (Option.some.inj (ha.symm.trans halive)))
  constructor
  · intro i
    rw [hold.mask, getLsbD_set, hinv.mask, hlive, not_and_or, not_not]
    by_cases hi : i = h.queueId
    · subst hi
      exact ⟨fun _ => ⟨hconfigured, .inr rfl⟩, fun _ => .inr ⟨rfl, hlt⟩⟩
    · rw [or_iff_left fun h' => hi h'.1, or_iff_left hi]
  · exact hold.asic
  · exact fun _ _ => hold.known
  · exact fun i hi => hinv.configured i ((hlive i).mp hi).1
  · intro id₁ id₂ h₁ h₂ ha₁ ha₂ hqueue
    exact hinv.unique id₁ id₂ h₁ h₂ ((hstays id₁ h₁).mp ha₁).2 ((hstays id₂ h₂).mp ha₂).2 hqueue
  · intro id' h' ha' hkind
    exact hinv.kept id' h' ((hstays id' h').mp ha').2 hkind
  · intro i hi
    by_cases hown : h.kind = .zeroBuffer ∧ h.queueId = i
    · obtain ⟨hkind, rfl⟩ := hown
      rw [(hold.own hkind).1, (hold.own hkind).2]
      exact hinv.kept id h halive hkind
    · rw [(hold.profiles i hown).1, (hold.profiles i hown).2]
      refine hinv.profiles i ?_
      rintro ⟨id', h', ha, hkind, hqueue⟩
      refine hi ⟨id', h', (hstays id' h').mpr ⟨?_, ha⟩, hkind, hqueue⟩
      rintro rfl
      obtain rfl := Option.some.inj (ha.symm.trans halive)
      exact hown ⟨hkind, hqueue⟩
  · intro i hi
    by_cases hown : h.kind = .zeroBuffer ∧ h.queueId = i
    · obtain ⟨hkind, rfl⟩ := hown
      rwa [(hold.own hkind).1, (hinv.kept id h halive hkind).1] at hi
    · rw [(hold.profiles i hown).1] at hi
      exact hinv.queue_not_null i hi
  · intro i hi
    by_cases hown : h.kind = .zeroBuffer ∧ h.queueId = i
    · obtain ⟨hkind, rfl⟩ := hown
      rwa [(hold.own hkind).2, (hinv.kept id h halive hkind).2] at hi
    · rw [(hold.profiles i hown).2] at hi
      exact hinv.pg_not_null i hi

theorem Inv.step {e : Event} (hinv : Inv s₀ s) (hsucceeds : Succeeds s e) :
    Inv s₀ (step s e) := by
  cases e with
  | create id kind queueId a =>
    cases halive : s.handlers id with
    | some h =>
      rw [PfcWdHandlers.step, halive]
      exact hinv
    | none =>
      obtain ⟨hknown, hbit, hset_pfc, hzero⟩ := hsucceeds halive
      have hcreated : ∃ h, h.queueId = queueId ∧ Created s (create s id kind queueId a) id h :=
        PfcWdHandlers.created hknown hset_pfc hzero
      obtain ⟨h, rfl, hnew⟩ := hcreated
      rw [PfcWdHandlers.step, halive]
      exact hinv.created halive hbit hnew
  | destroy id a =>
    cases halive : s.handlers id with
    | none =>
      rw [PfcWdHandlers.step, halive]
      exact hinv
    | some h =>
      obtain ⟨hset_pfc, hzero⟩ := hsucceeds h halive
      have hknown := hinv.known h.queueId ⟨id, h, halive, rfl⟩
      rw [PfcWdHandlers.step, halive]
      exact hinv.destroyed halive (PfcWdHandlers.destroyed hknown hset_pfc hzero)


/-! ### Calls that read -/

theorem setPortPfc_frame (ok : Bool) (s : St) (mask : BitVec 8) :
    ∃ asic_pfc m_pfc_bitmask, setPortPfc ok s mask =
        { s with asic_pfc := asic_pfc, m_pfc_bitmask := m_pfc_bitmask } ∧
      (s.known = false → setPortPfc ok s mask = s) := by
  rw [setPortPfc]
  split
  · exact ⟨s.asic_pfc, s.m_pfc_bitmask, rfl, fun _ => rfl⟩
  · next hknown =>
      split
      · exact ⟨s.asic_pfc, s.m_pfc_bitmask, rfl, fun _ => rfl⟩
      · exact ⟨_, mask, rfl, fun h => absurd h hknown⟩

theorem getZeroBufferProfile_frame (a : ZeroAnswers) (s : St) (ingress : Bool) :
    ∃ zeros, getZeroBufferProfile a s ingress = { s with zero_profile := zeros } := by
  rw [getZeroBufferProfile]
  split
  · rw [createZeroBufferProfile]
    split
    · exact ⟨s.zero_profile, rfl⟩
    · cases a.profile with
      | none => exact ⟨s.zero_profile, rfl⟩
      | some id => exact ⟨_, rfl⟩
  · exact ⟨s.zero_profile, rfl⟩

/-- A constructor sets no profile of which it could not read the old one. -/
theorem zeroBufferCreate_frame (a : CreateAnswers) (s : St) (queueId : ℕ) :
    ∃ queue_profile pg_profile zeros, (zeroBufferCreate a s queueId).1 =
        { s with
          queue_profile := queue_profile
          pg_profile := pg_profile
          zero_profile := zeros } ∧
      (a.get_queue = false → queue_profile = s.queue_profile ∧ pg_profile = s.pg_profile) ∧
      (s.known = false ∨ a.get_pg = false → pg_profile = s.pg_profile) := by
  obtain ⟨zeros, hfirst⟩ := getZeroBufferProfile_frame a.egress s false
  rw [zeroBufferCreate]
  split
  · exact ⟨_, _, _, rfl, fun _ => ⟨rfl, rfl⟩, fun _ => rfl⟩
  · next hget_queue =>
      rw [hfirst]
      dsimp only
      split
      · exact ⟨_, _, _, rfl, fun h => absurd h hget_queue, fun _ => rfl⟩
      · split
        · exact ⟨_, _, _, rfl, fun h => absurd h hget_queue, fun _ => rfl⟩
        · next hknown =>
            split
            · exact ⟨_, _, _, rfl, fun h => absurd h hget_queue, fun _ => rfl⟩
            · next hget_pg =>
                obtain ⟨zeros', hsecond⟩ := getZeroBufferProfile_frame a.ingress
                  { s with
                    queue_profile := Function.update s.queue_profile queueId (zeros false)
                    zero_profile := zeros } true
                rw [hsecond]
                split
                · exact ⟨_, _, _, rfl, fun h => absurd h hget_queue, fun _ => rfl⟩
                · refine ⟨_, _, _, rfl, fun h => absurd h hget_queue, fun h => ?_⟩
                  exact (h.elim hknown hget_pg).elim

theorem failedReads_create (s : St) (id : ℕ) (kind : Kind) (queueId : ℕ) (a : CreateAnswers) :
    FailedReads s (create s id kind queueId a) (.create id kind queueId a) := by
  obtain ⟨asic_pfc, m_pfc_bitmask, hset, hunknown⟩ := setPortPfc_frame a.set_pfc s
    ((getPortPfc s).getD 0 &&& ~~~(1#8 <<< queueId))
  have hlossy : lossyCreate a.set_pfc s queueId =
      { s with asic_pfc := asic_pfc, m_pfc_bitmask := m_pfc_bitmask } := hset
  have hmask : s.known = false → asic_pfc = s.asic_pfc ∧ m_pfc_bitmask = s.m_pfc_bitmask := by
    intro hknown
    have hsame := hset.symm.trans (hunknown hknown)
    exact ⟨congrArg St.asic_pfc hsame, congrArg St.m_pfc_bitmask hsame⟩
  have hmask' : s.known = false →
      asic_pfc (pfcAttr s.m_pfc_asym) = s.mask ∧ m_pfc_bitmask = s.m_pfc_bitmask := by
    intro hknown
    obtain ⟨rfl, rfl⟩ := hmask hknown
    exact ⟨rfl, rfl⟩
  cases kind with
  | lossy =>
    rw [create, hlossy]
    refine ⟨fun hknown => ?_, fun _ => ⟨rfl, rfl⟩, fun _ => rfl⟩
    exact ⟨(hmask' hknown).1, (hmask' hknown).2, rfl⟩
  | zeroBuffer =>
    obtain ⟨queue_profile, pg_profile, zeros, hcreate, hqueue, hpg⟩ := zeroBufferCreate_frame a
      { s with asic_pfc := asic_pfc, m_pfc_bitmask := m_pfc_bitmask } queueId
    rw [create, hlossy, hcreate]
    refine ⟨fun hknown => ?_, hqueue, fun hget_pg => hpg (.inr hget_pg)⟩
    exact ⟨(hmask' hknown).1, (hmask' hknown).2, hpg (.inl hknown)⟩

theorem failedReads_destroy (s : St) (id : ℕ) (h : Handler) (a : DestroyAnswers) :
    FailedReads s (destroy s id h a) (.destroy id a) := by
  intro hknown
  have hpg : ∃ queue_profile, (match h.kind with
      | .lossy => s
      | .zeroBuffer => zeroBufferDestroy a s h) = { s with queue_profile := queue_profile } := by
    cases h.kind with
    | lossy => exact ⟨s.queue_profile, rfl⟩
    | zeroBuffer =>
      show ∃ queue_profile, zeroBufferDestroy a s h = { s with queue_profile := queue_profile }
      rw [zeroBufferDestroy]
      split
      · exact ⟨s.queue_profile, rfl⟩
      · exact ⟨_, if_pos hknown⟩
  obtain ⟨queue_profile, hqueue⟩ := hpg
  obtain ⟨-, -, -, hunknown⟩ := setPortPfc_frame a.set_pfc { s with queue_profile := queue_profile }
    ((getPortPfc { s with queue_profile := queue_profile }).getD 0 ||| 1#8 <<< h.queueId)
  have hlossy : lossyDestroy a.set_pfc { s with queue_profile := queue_profile } h.queueId =
      { s with queue_profile := queue_profile } := hunknown hknown
  rw [destroy, hqueue, hlossy]
  exact ⟨rfl, rfl, rfl⟩

theorem failedReads (s : St) (e : Event) : FailedReads s (step s e) e := by
  cases e with
  | create id kind queueId a =>
    rw [step]
    cases s.handlers id with
    | none => exact failedReads_create s id kind queueId a
    | some h => exact ⟨fun _ => ⟨rfl, rfl, rfl⟩, fun _ => ⟨rfl, rfl⟩, fun _ => rfl⟩
  | destroy id a =>
    rw [step]
    cases s.handlers id with
    | none => exact fun _ => ⟨rfl, rfl, rfl⟩
    | some h => exact failedReads_destroy s id h a

/-! ### Runs -/

theorem Reached.inv (h : Reached Succeeds s₀ s) : Inv s₀ s := by
  induction h with
  | start hstart => exact inv_start hstart
  | step _ hsucceeds ih => exact ih.step hsucceeds

/-- **Handlers undo themselves** in every run whose calls succeed and whose queues have PFC on; and
what a call could not read is left alone. -/
theorem handlers_undone (h : Reached Succeeds s₀ s) :
    Undone s₀ s ∧ ∀ e, FailedReads s (step s e) e :=
  ⟨h.inv.undone, failedReads s⟩

/-- A port with PFC on at the queues 3 and 4, which have the profiles 7 and 8. -/
def samplePort : St where
  known := true
  m_pfc_bitmask := 0x18#8
  m_pfc_asym := .COMBINED
  asic_pfc _ := 0x18#8
  queue_profile _ := 7
  pg_profile _ := 8
  zero_profile _ := SAI_NULL_OBJECT_ID
  handlers _ := none

theorem start_samplePort : Start samplePort := ⟨fun _ => rfl, rfl⟩

/-- Answers of success, with 9 for a profile of size zero. -/
def zeroAnswers : ZeroAnswers := ⟨true, some ⟨9, by decide⟩⟩

def createAnswers : CreateAnswers := ⟨true, true, zeroAnswers, true, true, zeroAnswers, true⟩

theorem handlers_undone_sample :
    Undone samplePort (step samplePort (.create 0 .zeroBuffer 3 createAnswers)) := by
  have hsucceeds : Succeeds samplePort (.create 0 .zeroBuffer 3 createAnswers) := by
    refine fun _ => ⟨rfl, rfl, rfl, fun _ => ⟨rfl, .inr ⟨rfl, ?_⟩, rfl, rfl, .inr ⟨rfl, ?_⟩, rfl⟩⟩
    · exact Option.some_ne_none _
    · exact Option.some_ne_none _
  exact (handlers_undone ((Reached.start start_samplePort).step hsucceeds)).1

/-- A profile that could not be read is overwritten with null when the handler is destroyed. -/
theorem not_handlers_undone :
    ¬ ∀ s₀ s : St, Reached (fun _ _ => True) s₀ s → Undone s₀ s := by
  intro h
  have hcreated := (Reached.start start_samplePort : Reached (fun _ _ => True) _ _).step
    (e := .create 0 .zeroBuffer 3 { createAnswers with get_queue := false }) trivial
  have hdestroyed := hcreated.step (e := .destroy 0 ⟨true, true, true⟩) trivial
  have hnull := (h _ _ hdestroyed).queue_not_null 3 (by decide)
  exact absurd hnull (by decide)

end Orchagent.PfcWdHandlers
