/-
Orchagent/SflowRun.lean

The sample sessions are counted exactly (`sflow_sessions_counted`).

The counts are compared with the ports of a session (`users`), first for any numbers (`Counts`):
a session that is created has none, one that is joined or left has one more or one less.  A turn
strings these together, and the numbers are those of the ports again at its end.

That a task only concerns its own port (`Apart`) does not depend on the counts, but on what the
variable holds (`Own`).
-/
import Sonic.Lib.RefCount
import Sonic.Lib.TreeMap
import Sonic.Orchagent.SflowOrch

namespace Orchagent.Sflow

open Std (ExtTreeMap)
open Swss
open Copp (sai_object_id_t SAI_NULL_OBJECT_ID)
open RefCount (one)
open Transition (Run Guarded)
open TreeMap (getElem?_insert getElem?_erase getElem?_insert_self getElem?_insert_ne
  getElem?_erase_ne mem_iff)

/-! ### What should hold -/

/-- How many ports have a session. -/
def users (info : Table sai_object_id_t SflowPortInfo) (id : sai_object_id_t) : ℤ :=
  Table.sum (fun _ i => one i.m_sample_id id) info

/-- The sample packet object that a port should have. -/
def enabled (info : Table sai_object_id_t SflowPortInfo) (port_id : sai_object_id_t) :
    sai_object_id_t :=
  match info.lookup port_id with
  | some i => if i.admin_state then i.m_sample_id else SAI_NULL_OBJECT_ID
  | none => SAI_NULL_OBJECT_ID

/-- A port has the session of a rate. -/
def Uses (s : St) (port_id : sai_object_id_t) (rate : UInt32) : Prop :=
  ∃ i session, s.m_sflowPortInfoMap.lookup port_id = some i ∧
    s.m_sflowRateSampleMap[rate]? = some session ∧ session.m_sample_id = i.m_sample_id

/-- The sessions are counted exactly. -/
structure Counted (s : St) : Prop where
  entry : ∀ rate, rate ∈ s.m_sflowRateSampleMap ↔ ∃ port_id, Uses s port_id rate
  ref_count : ∀ (rate : UInt32) (session : SflowSession),
    s.m_sflowRateSampleMap[rate]? = some session →
      (session.ref_count.toNat : ℤ) = users s.m_sflowPortInfoMap session.m_sample_id
  session : ∀ port_id ∈ s.m_sflowPortInfoMap, ∃! rate, Uses s port_id rate
  object : ∀ (id : sai_object_id_t) (rate : UInt32), s.asic.samplepackets[id]? = some rate ↔
    ∃ session, s.m_sflowRateSampleMap[rate]? = some session ∧ session.m_sample_id = id
  port : ∀ port_id, s.asic.INGRESS_SAMPLEPACKET_ENABLE port_id =
    enabled s.m_sflowPortInfoMap port_id

/-- Nothing has changed for a port. -/
def Same (s s' : St) (port_id : sai_object_id_t) : Prop :=
  s'.m_sflowPortInfoMap.lookup port_id = s.m_sflowPortInfoMap.lookup port_id ∧
    s'.asic.INGRESS_SAMPLEPACKET_ENABLE port_id = s.asic.INGRESS_SAMPLEPACKET_ENABLE port_id

/-- Nothing changes for the ports of other aliases; without a task of a port, for none. -/
def Confined (s : St) (e : Event) : Prop :=
  match e with
  | .turn t _ => ∀ port_alias port_id, port_alias ≠ t.kfvKey →
      s.m_portList port_alias = some port_id → Same s (next s e) port_id
  | _ => ∀ port_id, Same s (next s e) port_id

/-! ### The condition -/

/-- The variable holds a port of no other alias. -/
def Own (s : St) (port_alias : String) : Prop :=
  ∀ port_alias', s.m_portList port_alias' = some s.port → port_alias' = port_alias

/-- A port can join the session of a rate: there are not all too many ports, and the port gets
the session if it is a new one. -/
def Joins (s : St) (ans : Answers) (admin_state : Bool) (rate : UInt32) : Prop :=
  (sessionAt s rate).ref_count ≠ 2 ^ 32 - 1 ∧
    (s.m_sflowRateSampleMap[rate]? = none → ans.create_samplepacket ≠ none →
      admin_state = true → ans.addPort = true)

/-- A port can leave its session: with the last one the session is destroyed. -/
def Leaves (s : St) (ans : Answers) (i : SflowPortInfo) : Prop :=
  (sessionAt s (sflowSessionGetRate s i.m_sample_id)).ref_count = 1 →
    ans.remove_samplepacket = true

/-- The condition on a SET that wants `admin_state` and `rate` for the port of the variable. -/
def CalmSet (s : St) (ans : Answers) (admin_state : Bool) (rate : UInt32) : Prop :=
  match s.m_sflowPortInfoMap.lookup s.port with
  | none => rate ≠ 0 → Joins s ans admin_state rate
  | some i => rate ≠ sflowSessionGetRate s i.m_sample_id →
      Joins s ans i.admin_state rate ∧ Leaves s ans i

/-- The condition on a turn, once the variable is set. -/
def CalmTurn (s : St) (t : KeyOpFieldsValuesTuple) (ans : Answers) : Prop :=
  (t.kfvOp = SET_COMMAND → s.m_sflowStatus = true → Own s t.kfvKey ∧
    ∀ admin_state rate, wanted s t = (admin_state, some rate) →
      CalmSet s ans admin_state rate) ∧
  (t.kfvOp = DEL_COMMAND → ∀ i, s.m_sflowPortInfoMap.lookup s.port = some i →
    Own s t.kfvKey ∧ Leaves s ans i)

def Calm (s : St) : Event → Prop
  | .turn t ans => CalmTurn (getPort s t.kfvKey) t ans
  | _ => True

/-! ### Numbers -/

section Counts

variable {m : ExtTreeMap UInt32 SflowSession} {objects : ExtTreeMap sai_object_id_t UInt32}
  {occ : sai_object_id_t → ℤ} {rate rate' : UInt32} {session session' : SflowSession}
  {id : sai_object_id_t}

/-- The sessions have some numbers of ports. -/
structure Counts (m : ExtTreeMap UInt32 SflowSession)
    (objects : ExtTreeMap sai_object_id_t UInt32) (occ : sai_object_id_t → ℤ) : Prop where
  count : ∀ (rate : UInt32) (session : SflowSession), m[rate]? = some session →
    (session.ref_count.toNat : ℤ) = occ session.m_sample_id
  known : ∀ id, occ id ≠ 0 →
    ∃ (rate : UInt32) (session : SflowSession), m[rate]? = some session ∧ session.m_sample_id = id
  object : ∀ (id : sai_object_id_t) (rate : UInt32), objects[id]? = some rate ↔
    ∃ session, m[rate]? = some session ∧ session.m_sample_id = id

/-- No two rates have one session. -/
theorem Counts.distinct (h : Counts m objects occ) (hm : m[rate]? = some session)
    (hm' : m[rate']? = some session') (hid : session.m_sample_id = session'.m_sample_id) :
    rate = rate' := by
  have hobject := (h.object session'.m_sample_id rate).mpr ⟨session, hm, hid⟩
  have hobject' := (h.object session'.m_sample_id rate').mpr ⟨session', hm', rfl⟩
  rw [hobject] at hobject'
  exact Option.some.inj hobject'

/-- What no object has counts no port. -/
theorem Counts.occ_fresh (h : Counts m objects occ) (hid : id ∉ objects) : occ id = 0 := by
  by_contra hne
  obtain ⟨rate, session, hm, hsession⟩ := h.known id hne
  refine hid ?_
  rw [ExtTreeMap.mem_iff_isSome_getElem?, (h.object id rate).mpr ⟨session, hm, hsession⟩]
  rfl

/-- A session that is created counts no port. -/
theorem Counts.create (h : Counts m objects occ) (hm : m[rate]? = none) (hid : id ∉ objects) :
    Counts (m.insert rate ⟨id, 0⟩) (objects.insert id rate) occ := by
  have hnone : objects[id]? = none := ExtTreeMap.getElem?_eq_none hid
  refine ⟨fun rate' session' hm' => ?_, fun id' hne => ?_, fun id' rate' => ?_⟩
  · rw [getElem?_insert] at hm'
    split_ifs at hm' with hrate
    · obtain rfl := Option.some.inj hm'
      exact (h.occ_fresh hid).symm
    · exact h.count _ _ hm'
  · obtain ⟨rate', session', hm', hsession⟩ := h.known id' hne
    have hrate : rate ≠ rate' := by
      rintro rfl
      rw [hm] at hm'
      cases hm'
    exact ⟨rate', session', (getElem?_insert_ne hrate).trans hm', hsession⟩
  · rw [getElem?_insert, getElem?_insert]
    by_cases hrate : rate = rate'
    · subst hrate
      rw [if_pos rfl]
      by_cases heq : id = id'
      · subst heq
        rw [if_pos rfl]
        exact iff_of_true rfl ⟨_, rfl, rfl⟩
      · rw [if_neg heq]
        -- the rate had no session, and its new one is another
        refine iff_of_false (fun hobject => ?_) ?_
        · obtain ⟨session', hm', -⟩ := (h.object id' rate).mp hobject
          rw [hm] at hm'
          cases hm'
        · rintro ⟨_, ⟨⟩, hsession⟩
          exact heq hsession
    · rw [if_neg hrate]
      by_cases heq : id = id'
      · subst heq
        rw [if_pos rfl]
        refine iff_of_false (fun hobject => hrate (Option.some.inj hobject)) fun hsession => ?_
        rw [(h.object id rate').mpr hsession] at hnone
        cases hnone
      · rw [if_neg heq]
        exact h.object id' rate'

/-- The count of a session changes. -/
theorem Counts.setCount {n : UInt32} (h : Counts m objects occ) (hm : m[rate]? = some session) :
    Counts (m.insert rate { session with ref_count := n }) objects
      (Function.update occ session.m_sample_id n.toNat) := by
  refine ⟨fun rate' session' hm' => ?_, fun id' hne => ?_, fun id' rate' => ?_⟩
  · rw [getElem?_insert] at hm'
    split_ifs at hm' with hrate
    · obtain rfl := Option.some.inj hm'
      exact (Function.update_self session.m_sample_id _ occ).symm
    · have hother : session'.m_sample_id ≠ session.m_sample_id :=
        fun hid => hrate (h.distinct hm hm' hid.symm)
      rw [Function.update_of_ne hother]
      exact h.count _ _ hm'
  · by_cases hid : id' = session.m_sample_id
    · exact ⟨rate, _, getElem?_insert_self, hid.symm⟩
    · rw [Function.update_of_ne hid] at hne
      obtain ⟨rate', session', hm', hsession⟩ := h.known id' hne
      have hrate : rate ≠ rate' := by
        rintro rfl
        rw [hm] at hm'
        exact hid (Option.some.inj hm' ▸ hsession.symm)
      exact ⟨rate', session', (getElem?_insert_ne hrate).trans hm', hsession⟩
  · rw [h.object id' rate', getElem?_insert]
    split_ifs with hrate
    · subst hrate
      rw [hm]
      constructor
      · rintro ⟨_, ⟨⟩, hsession⟩
        exact ⟨_, rfl, hsession⟩
      · rintro ⟨_, ⟨⟩, hsession⟩
        exact ⟨_, rfl, hsession⟩
    · exact Iff.rfl

/-- A session that counts no port is destroyed. -/
theorem Counts.destroy (h : Counts m objects occ) (hm : m[rate]? = some session)
    (hzero : session.ref_count = 0) :
    Counts (m.erase rate) (objects.erase session.m_sample_id) occ := by
  have hocc : occ session.m_sample_id = 0 := by
    rw [← h.count _ _ hm, hzero]
    rfl
  refine ⟨fun rate' session' hm' => ?_, fun id' hne => ?_, fun id' rate' => ?_⟩
  · rw [getElem?_erase] at hm'
    split_ifs at hm'
    exact h.count _ _ hm'
  · obtain ⟨rate', session', hm', hsession⟩ := h.known id' hne
    have hrate : rate ≠ rate' := by
      rintro rfl
      rw [hm] at hm'
      obtain rfl := Option.some.inj hm'
      exact hne (hsession ▸ hocc)
    exact ⟨rate', session', (getElem?_erase_ne hrate).trans hm', hsession⟩
  · rw [getElem?_erase, getElem?_erase]
    by_cases hid : session.m_sample_id = id'
    · rw [if_pos hid]
      refine iff_of_false nofun ?_
      rintro ⟨session', hm', hsession⟩
      split_ifs at hm' with hrate
      exact hrate (h.distinct hm hm' (hid.trans hsession.symm))
    · rw [if_neg hid, h.object id' rate']
      split_ifs with hrate
      · subst hrate
        rw [hm]
        refine iff_of_false ?_ ?_
        · rintro ⟨_, ⟨⟩, hsession⟩
          exact hid hsession
        · rintro ⟨_, ⟨⟩, -⟩
      · exact Iff.rfl

end Counts

/-! ### The invariant -/

variable {s s' : St} {ans : Answers} {rate rate' : UInt32} {session session' : SflowSession}
  {port_id : sai_object_id_t} {i : SflowPortInfo} {occ : sai_object_id_t → ℤ} {e : Event}
  {admin_state : Bool} {t : KeyOpFieldsValuesTuple}

/-- Every session but that of the rate `except` has a port. -/
def AllUsed (s : St) (occ : sai_object_id_t → ℤ) (except : Option UInt32) : Prop :=
  ∀ (rate : UInt32) (session : SflowSession), s.m_sflowRateSampleMap[rate]? = some session →
    some rate ≠ except → occ session.m_sample_id ≠ 0

/-- The sessions of a state have some numbers of ports. -/
abbrev CountsOf (s : St) (occ : sai_object_id_t → ℤ) : Prop :=
  Counts s.m_sflowRateSampleMap s.asic.samplepackets occ

/-- The objects of the ports are those that they should have. -/
def Enabled (s : St) : Prop :=
  ∀ port_id, s.asic.INGRESS_SAMPLEPACKET_ENABLE port_id = enabled s.m_sflowPortInfoMap port_id

structure Inv (s : St) : Prop where
  counts : CountsOf s (users s.m_sflowPortInfoMap)
  used : AllUsed s (users s.m_sflowPortInfoMap) none
  enabled : Enabled s

theorem users_nonneg {info : Table sai_object_id_t SflowPortInfo} {id : sai_object_id_t} :
    0 ≤ users info id := by
  refine Table.sum_nonneg fun port_id i _ => ?_
  unfold one
  split_ifs
  · exact Int.one_nonneg
  · exact le_rfl

/-- A session that a port has counts a port. -/
theorem users_ne_zero (hi : s.m_sflowPortInfoMap.lookup port_id = some i) :
    users s.m_sflowPortInfoMap i.m_sample_id ≠ 0 := by
  have hle : one i.m_sample_id i.m_sample_id ≤ users s.m_sflowPortInfoMap i.m_sample_id := by
    refine Table.le_sum (f := fun _ i' => one i'.m_sample_id i.m_sample_id) (fun _ i' _ => ?_) hi
    unfold one
    split_ifs
    · exact Int.one_nonneg
    · exact le_rfl
  rw [one, if_pos rfl] at hle
  omega

theorem users_insert {info : Table sai_object_id_t SflowPortInfo} :
    users (info.insert port_id i) = users info + one i.m_sample_id -
      fun id => ((info.lookup port_id).map fun i => one i.m_sample_id id).getD 0 := by
  funext id
  exact Table.sum_insert

theorem users_erase {info : Table sai_object_id_t SflowPortInfo}
    (hi : info.lookup port_id = some i) :
    users (info.erase port_id) = users info - one i.m_sample_id := by
  funext id
  refine Table.sum_erase.trans ?_
  rw [hi]
  rfl

/-- The scan for the rate of a session finds it. -/
theorem Counts.getRate (h : CountsOf s occ) (hm : s.m_sflowRateSampleMap[rate]? = some session) :
    sflowSessionGetRate s session.m_sample_id = rate := by
  have hmem : (rate, session) ∈ s.m_sflowRateSampleMap.toList :=
    ExtTreeMap.mem_toList_iff_getElem?_eq_some.mpr hm
  unfold sflowSessionGetRate
  cases hfind : s.m_sflowRateSampleMap.toList.find?
      fun it => it.2.m_sample_id = session.m_sample_id with
  | none => exact absurd (decide_eq_true rfl) (List.find?_eq_none.mp hfind _ hmem)
  | some found =>
    have hid : found.2.m_sample_id = session.m_sample_id := by
      have hfound := List.find?_some hfind
      exact of_decide_eq_true hfound
    have hlisted : s.m_sflowRateSampleMap[found.1]? = some found.2 :=
      ExtTreeMap.mem_toList_iff_getElem?_eq_some.mp (List.mem_of_find?_eq_some hfind)
    exact h.distinct hlisted hm hid

/-- The session of a port, under the rate that the scan finds. -/
theorem Inv.exists_session (h : Inv s) (hi : s.m_sflowPortInfoMap.lookup port_id = some i) :
    ∃ session, s.m_sflowRateSampleMap[sflowSessionGetRate s i.m_sample_id]? = some session ∧
      session.m_sample_id = i.m_sample_id := by
  obtain ⟨rate, session, hm, hid⟩ := h.counts.known _ (users_ne_zero hi)
  refine ⟨session, ?_, hid⟩
  rw [← hid, h.counts.getRate hm]
  exact hm

/-! ### Sessions -/

theorem sessionAt_eq (hm : s.m_sflowRateSampleMap[rate]? = some session) :
    sessionAt s rate = session := by
  unfold sessionAt
  rw [hm]
  rfl

/-- What does not concern the sessions has not changed. -/
structure SameRest (s s' : St) : Prop where
  info : s'.m_sflowPortInfoMap = s.m_sflowPortInfoMap
  sample : s'.asic.INGRESS_SAMPLEPACKET_ENABLE = s.asic.INGRESS_SAMPLEPACKET_ENABLE

theorem SameRest.trans {s'' : St} (h : SameRest s s') (h' : SameRest s' s'') : SameRest s s'' :=
  ⟨h'.info.trans h.info, h'.sample.trans h.sample⟩

/-- The session of a rate is there, or a new one. -/
theorem findSession_cases (h : findSession s ans rate = some (session, s')) :
    (s.m_sflowRateSampleMap[rate]? = some session ∧ s' = s) ∨
    ∃ id, s.m_sflowRateSampleMap[rate]? = none ∧ ans.create_samplepacket = some id ∧
      session = ⟨id, 0⟩ ∧
      s' = { s with
        m_sflowRateSampleMap := s.m_sflowRateSampleMap.insert rate ⟨id, 0⟩
        asic.samplepackets := s.asic.samplepackets.insert id rate } := by
  unfold findSession at h
  cases hm : s.m_sflowRateSampleMap[rate]? with
  | some found =>
    rw [hm] at h
    obtain ⟨rfl, rfl⟩ := Prod.mk.inj (Option.some.inj h)
    exact .inl ⟨rfl, rfl⟩
  | none =>
    rw [hm] at h
    obtain ⟨⟨created, s₁⟩, hcreate, hresult⟩ := Option.map_eq_some_iff.mp h
    obtain ⟨id, hid, hpair⟩ := Option.map_eq_some_iff.mp hcreate
    obtain ⟨rfl, rfl⟩ := Prod.mk.inj hpair
    obtain ⟨rfl, rfl⟩ := Prod.mk.inj hresult
    exact .inr ⟨id, rfl, hid, rfl, rfl⟩

theorem findSession_rest (h : findSession s ans rate = some (session, s')) : SameRest s s' := by
  rcases findSession_cases h with ⟨-, rfl⟩ | ⟨id, -, -, -, rfl⟩
  · exact ⟨rfl, rfl⟩
  · exact ⟨rfl, rfl⟩

/-- A rate has its session then; only a new one may be without port. -/
theorem findSession_spec (hcounts : CountsOf s occ) (hused : AllUsed s occ none)
    (hfresh : ∀ id, ans.create_samplepacket = some id → id ∉ s.asic.samplepackets)
    (h : findSession s ans rate = some (session, s')) :
    CountsOf s' occ ∧ s'.m_sflowRateSampleMap[rate]? = some session ∧ AllUsed s' occ (some rate) ∧
      ∀ (rate' : UInt32) (session' : SflowSession),
        s.m_sflowRateSampleMap[rate']? = some session' →
          s'.m_sflowRateSampleMap[rate']? = some session' := by
  rcases findSession_cases h with ⟨hm, rfl⟩ | ⟨id, hm, hcreate, rfl, rfl⟩
  · exact ⟨hcounts, hm, fun rate' session' hm' _ => hused _ _ hm' nofun, fun _ _ => id⟩
  · refine ⟨hcounts.create hm (hfresh id hcreate), getElem?_insert_self,
      fun rate' session' hm' hne => ?_, fun rate' session' hm' => ?_⟩
    · have hrate : rate ≠ rate' := fun heq => hne (congrArg some heq.symm)
      have hold := (getElem?_insert_ne hrate).symm.trans hm'
      exact hused _ _ hold nofun
    · have hrate : rate ≠ rate' := by
        rintro rfl
        rw [hm] at hm'
        cases hm'
      exact (getElem?_insert_ne hrate).trans hm'

theorem count_rest {f : UInt32 → UInt32} : SameRest s (count s rate f) := ⟨rfl, rfl⟩

theorem count_lookup {f : UInt32 → UInt32}
    (hm : s.m_sflowRateSampleMap[rate]? = some session) :
    (count s rate f).m_sflowRateSampleMap[rate]? =
      some { session with ref_count := f session.ref_count } := by
  show (s.m_sflowRateSampleMap.insert _ _)[rate]? = _
  rw [getElem?_insert_self, sessionAt_eq hm]

theorem count_lookup_ne {f : UInt32 → UInt32} (hne : rate ≠ rate') :
    (count s rate f).m_sflowRateSampleMap[rate']? = s.m_sflowRateSampleMap[rate']? :=
  getElem?_insert_ne hne

/-- The count of a session changes by `d`, in the table and in the numbers. -/
theorem count_spec {f : UInt32 → UInt32} {d : ℤ} (hcounts : CountsOf s occ)
    (hm : s.m_sflowRateSampleMap[rate]? = some session)
    (hf : ((f session.ref_count).toNat : ℤ) = session.ref_count.toNat + d) :
    CountsOf (count s rate f) (fun id => occ id + d * one session.m_sample_id id) := by
  have hset := hcounts.setCount (n := f session.ref_count) hm
  have hocc : Function.update occ session.m_sample_id ((f session.ref_count).toNat : ℤ) =
      fun id => occ id + d * one session.m_sample_id id := by
    funext id
    by_cases hid : id = session.m_sample_id
    · subst hid
      rw [Function.update_self, one, if_pos rfl, hf, hcounts.count _ _ hm, mul_one]
    · rw [Function.update_of_ne hid, one, if_neg hid, mul_zero, add_zero]
  rw [hocc] at hset
  have hcount : (count s rate f).m_sflowRateSampleMap =
      s.m_sflowRateSampleMap.insert rate { session with ref_count := f session.ref_count } := by
    show s.m_sflowRateSampleMap.insert _ _ = _
    rw [sessionAt_eq hm]
  rw [CountsOf, hcount]
  exact hset

/-- **A port joins a session**, which then has one. -/
theorem join_spec (hcounts : CountsOf s occ) (hnonneg : ∀ id, 0 ≤ occ id)
    (hused : AllUsed s occ (some rate)) (hm : s.m_sflowRateSampleMap[rate]? = some session)
    (hmax : session.ref_count ≠ 2 ^ 32 - 1) :
    CountsOf (count s rate (· + 1)) (occ + one session.m_sample_id) ∧
      AllUsed (count s rate (· + 1)) (occ + one session.m_sample_id) none := by
  constructor
  · have hcount := count_spec (f := (· + 1)) (d := 1) hcounts hm (RefCount.toNat_inc hmax)
    have hocc : (fun id => occ id + 1 * one session.m_sample_id id) =
        occ + one session.m_sample_id := by
      funext id
      rw [one_mul]
      rfl
    rw [hocc] at hcount
    exact hcount
  · intro rate' session' hm' _
    show occ session'.m_sample_id + one session.m_sample_id session'.m_sample_id ≠ 0
    have hpos := hnonneg session'.m_sample_id
    unfold one
    by_cases hrate : rate = rate'
    · subst hrate
      rw [count_lookup hm] at hm'
      obtain rfl := Option.some.inj hm'
      rw [if_pos rfl]
      omega
    · rw [count_lookup_ne hrate] at hm'
      have hne := hused _ _ hm' fun heq => hrate (Option.some.inj heq).symm
      split_ifs <;> omega

theorem release_rest : SameRest s (release s ans rate).1 := by
  unfold release
  dsimp only
  split_ifs with hzero
  · unfold sflowDestroySession
    cases ans.remove_samplepacket with
    | true => exact ⟨rfl, rfl⟩
    | false => exact ⟨rfl, rfl⟩
  · exact ⟨rfl, rfl⟩

/-- **A port leaves a session**, which goes with the last one. -/
theorem release_spec (ans : Answers) (hcounts : CountsOf s occ) (hused : AllUsed s occ none)
    (hm : s.m_sflowRateSampleMap[rate]? = some session)
    (hlast : session.ref_count = 1 → ans.remove_samplepacket = true) :
    CountsOf (release s ans rate).1 (occ - one session.m_sample_id) ∧
      AllUsed (release s ans rate).1 (occ - one session.m_sample_id) none := by
  have hpos : session.ref_count ≠ 0 := by
    intro hzero
    have hcount := hcounts.count _ _ hm
    rw [hzero] at hcount
    exact hused _ _ hm nofun hcount.symm
  have hdec := RefCount.toNat_dec hpos
  have hcount := count_spec (f := (· - 1)) (d := -1) hcounts hm hdec
  have hocc : (fun id => occ id + -1 * one session.m_sample_id id) =
      occ - one session.m_sample_id := by
    funext id
    rw [neg_one_mul]
    rfl
  rw [hocc] at hcount
  have hlookup := count_lookup (f := (· - 1)) hm
  -- the other sessions have their ports
  have hothers : ∀ (rate' : UInt32) (session' : SflowSession), rate ≠ rate' →
      (count s rate (· - 1)).m_sflowRateSampleMap[rate']? = some session' →
      (occ - one session.m_sample_id) session'.m_sample_id ≠ 0 := by
    intro rate' session' hrate hm'
    rw [count_lookup_ne hrate] at hm'
    have hid : session'.m_sample_id ≠ session.m_sample_id :=
      fun hid => hrate (hcounts.distinct hm hm' hid.symm)
    show occ session'.m_sample_id - one session.m_sample_id session'.m_sample_id ≠ 0
    rw [one, if_neg hid, sub_zero]
    exact hused _ _ hm' nofun
  unfold release
  dsimp only
  rw [sessionAt_eq hlookup]
  dsimp only
  split_ifs with hzero
  · have hone : session.ref_count = 1 := by
      rw [← sub_eq_zero]
      exact hzero
    unfold sflowDestroySession
    rw [if_pos (hlast hone)]
    refine ⟨hcount.destroy hlookup hzero, fun rate' session' hm' _ => ?_⟩
    rw [getElem?_erase] at hm'
    split_ifs at hm' with hrate
    exact hothers _ _ hrate hm'
  · refine ⟨hcount, fun rate' session' hm' _ => ?_⟩
    by_cases hrate : rate = rate'
    · subst hrate
      have hnat := hcount.count _ _ hm'
      rw [hlookup] at hm'
      obtain rfl := Option.some.inj hm'
      intro hocc
      rw [← hnat] at hocc
      exact hzero (UInt32.toNat_inj.mp (Int.natCast_inj.mp hocc))
    · exact hothers _ _ hrate hm'

/-! ### What the functions can do -/

/-- A port whose state is `enable` has its object set. -/
def enabledPort (s : St) (enable : Bool) (id port_id : sai_object_id_t) : St :=
  if enable then setPort s id port_id else s

theorem enable_cases (s : St) (ans : Answers) (enable : Bool) (id port_id : sai_object_id_t) :
    ((if enable then sflowAddPort s ans id port_id else (s, true)) = (s, false) ∧
        enable = true ∧ ans.addPort = false) ∨
      (if enable then sflowAddPort s ans id port_id else (s, true)) =
        (enabledPort s enable id port_id, true) := by
  unfold sflowAddPort enabledPort
  cases enable with
  | false => exact .inr rfl
  | true =>
    cases ans.addPort with
    | false => exact .inl ⟨rfl, rfl, rfl⟩
    | true => exact .inr rfl

theorem disable_cases (s : St) (ans : Answers) (enable : Bool) (port_id : sai_object_id_t) :
    (if enable then sflowDelPort s ans port_id else (s, true)) = (s, false) ∨
      (if enable then sflowDelPort s ans port_id else (s, true)) =
        (enabledPort s enable SAI_NULL_OBJECT_ID port_id, true) := by
  unfold sflowDelPort enabledPort
  cases enable with
  | false => exact .inr rfl
  | true =>
    cases ans.delPort with
    | false => exact .inl rfl
    | true => exact .inr rfl

/-- A port that gets a new rate: no session is found, the port does not get it, or it changes
over. -/
theorem sflowUpdateRate_cases (s : St) (ans : Answers) (port_id : sai_object_id_t)
    (i : SflowPortInfo) (rate : UInt32) :
    sflowUpdateRate s ans port_id i rate = (s, false) ∨
      ∃ session s₁, findSession s ans rate = some (session, s₁) ∧
        ((sflowUpdateRate s ans port_id i rate = (s₁, false) ∧
            i.admin_state = true ∧ ans.addPort = false) ∨
          sflowUpdateRate s ans port_id i rate =
            ((release (count (setInfo (enabledPort s₁ i.admin_state session.m_sample_id port_id)
              port_id { i with m_sample_id := session.m_sample_id }) rate (· + 1)) ans
              (sflowSessionGetRate s i.m_sample_id)).1, true)) := by
  unfold sflowUpdateRate
  dsimp only
  cases hfind : findSession s ans rate with
  | none => exact .inl rfl
  | some found =>
    obtain ⟨session, s₁⟩ := found
    refine .inr ⟨session, s₁, rfl, ?_⟩
    dsimp only
    rcases enable_cases s₁ ans i.admin_state session.m_sample_id port_id with
      ⟨hset, hrefused⟩ | hset
    · rw [hset]
      exact .inl ⟨rfl, hrefused⟩
    · rw [hset]
      exact .inr rfl

/-- A port that comes in: no session is found, the port does not get it, or it joins. -/
theorem addInfo_cases (s : St) (ans : Answers) (port_id : sai_object_id_t) (admin_state : Bool)
    (rate : UInt32) :
    addInfo s ans port_id admin_state rate = (s, false) ∨
      ∃ session s₁, rate ≠ 0 ∧ findSession s ans rate = some (session, s₁) ∧
        ((addInfo s ans port_id admin_state rate = (s₁, false) ∧
            admin_state = true ∧ ans.addPort = false) ∨
          addInfo s ans port_id admin_state rate =
            (count (setInfo (enabledPort s₁ admin_state session.m_sample_id port_id) port_id
              ⟨admin_state, session.m_sample_id⟩) rate (· + 1), true)) := by
  unfold addInfo
  by_cases hzero : rate = 0
  · rw [if_pos hzero]
    exact .inl rfl
  · rw [if_neg hzero]
    cases hfind : findSession s ans rate with
    | none => exact .inl rfl
    | some found =>
      obtain ⟨session, s₁⟩ := found
      refine .inr ⟨session, s₁, hzero, rfl, ?_⟩
      dsimp only
      rcases enable_cases s₁ ans admin_state session.m_sample_id port_id with
        ⟨hset, hrefused⟩ | hset
      · rw [hset]
        exact .inl ⟨rfl, hrefused⟩
      · rw [hset]
        exact .inr rfl

/-- A port whose state is set: nothing changes, or its object is that of the new state. -/
theorem setAdmin_cases (s : St) (ans : Answers) (port_id : sai_object_id_t) (admin_state : Bool) :
    (setAdmin s ans port_id admin_state).1 = s ∨
      ∃ i, s.m_sflowPortInfoMap.lookup port_id = some i ∧
        setAdmin s ans port_id admin_state =
          (setInfo (setPort s (if admin_state then i.m_sample_id else SAI_NULL_OBJECT_ID) port_id)
            port_id { i with admin_state }, true) := by
  unfold setAdmin
  cases hi : s.m_sflowPortInfoMap.lookup port_id with
  | none => exact .inl rfl
  | some i =>
    dsimp only
    by_cases hne : admin_state ≠ i.admin_state
    · rw [if_pos hne]
      unfold sflowAddPort sflowDelPort
      cases admin_state with
      | true =>
        cases ans.addPort with
        | true => exact .inr ⟨i, rfl, rfl⟩
        | false => exact .inl rfl
      | false =>
        cases ans.delPort with
        | true => exact .inr ⟨i, rfl, rfl⟩
        | false => exact .inl rfl
    · rw [if_neg hne]
      exact .inl rfl

/-- A port that goes: it has no entry, it keeps its object, or it leaves its session. -/
theorem handleSflowSessionDel_cases (s : St) (ans : Answers) (port_id : sai_object_id_t) :
    (handleSflowSessionDel s ans port_id).1 = s ∨
      ∃ i, s.m_sflowPortInfoMap.lookup port_id = some i ∧
        handleSflowSessionDel s ans port_id =
          release (dropInfo (enabledPort s i.admin_state SAI_NULL_OBJECT_ID port_id) port_id) ans
            (sflowSessionGetRate s i.m_sample_id) := by
  unfold handleSflowSessionDel
  cases hi : s.m_sflowPortInfoMap.lookup port_id with
  | none => exact .inl rfl
  | some i =>
    dsimp only
    rcases disable_cases s ans i.admin_state port_id with hset | hset
    · rw [hset]
      exact .inl rfl
    · rw [hset]
      exact .inr ⟨i, rfl, rfl⟩

/-! ### Other ports -/

/-- Nothing has changed for other ports. -/
def Apart (port_id : sai_object_id_t) (s s' : St) : Prop := ∀ q ≠ port_id, Same s s' q

theorem Apart.refl : Apart port_id s s := fun _ _ => ⟨rfl, rfl⟩

theorem Apart.trans {s'' : St} (h : Apart port_id s s') (h' : Apart port_id s' s'') :
    Apart port_id s s'' := fun q hq =>
  ⟨(h' q hq).1.trans (h q hq).1, (h' q hq).2.trans (h q hq).2⟩

theorem SameRest.apart (h : SameRest s s') : Apart port_id s s' := by
  intro q _
  exact ⟨by rw [h.info], by rw [h.sample]⟩

theorem apart_setPort {id : sai_object_id_t} : Apart port_id s (setPort s id port_id) :=
  fun _ hq => ⟨rfl, Function.update_of_ne hq ..⟩

theorem apart_setInfo : Apart port_id s (setInfo s port_id i) :=
  fun _ hq => ⟨AList.lookup_insert_ne hq, rfl⟩

theorem apart_dropInfo : Apart port_id s (dropInfo s port_id) :=
  fun _ hq => ⟨AList.lookup_erase_ne hq, rfl⟩

theorem apart_enabledPort {enable : Bool} {id : sai_object_id_t} :
    Apart port_id s (enabledPort s enable id port_id) := by
  unfold enabledPort
  split_ifs
  · exact apart_setPort
  · exact .refl

theorem apart_updateRate : Apart port_id s (sflowUpdateRate s ans port_id i rate).1 := by
  rcases sflowUpdateRate_cases s ans port_id i rate with hsame | ⟨session, s₁, hfind, hset⟩
  · rw [hsame]
    exact .refl
  · have hfound : Apart port_id s s₁ := (findSession_rest hfind).apart
    rcases hset with ⟨hset, -⟩ | hset
    · rw [hset]
      exact hfound
    · rw [hset]
      exact (hfound.trans apart_enabledPort).trans
        (apart_setInfo.trans (count_rest.trans release_rest).apart)

theorem apart_addInfo : Apart port_id s (addInfo s ans port_id admin_state rate).1 := by
  rcases addInfo_cases s ans port_id admin_state rate with hsame | ⟨session, s₁, -, hfind, hset⟩
  · rw [hsame]
    exact .refl
  · have hfound : Apart port_id s s₁ := (findSession_rest hfind).apart
    rcases hset with ⟨hset, -⟩ | hset
    · rw [hset]
      exact hfound
    · rw [hset]
      exact (hfound.trans apart_enabledPort).trans (apart_setInfo.trans count_rest.apart)

theorem apart_setAdmin : Apart port_id s (setAdmin s ans port_id admin_state).1 := by
  rcases setAdmin_cases s ans port_id admin_state with hsame | ⟨i, -, hset⟩
  · rw [hsame]
    exact .refl
  · rw [hset]
    exact apart_setPort.trans apart_setInfo

theorem apart_del : Apart port_id s (handleSflowSessionDel s ans port_id).1 := by
  rcases handleSflowSessionDel_cases s ans port_id with hsame | ⟨i, -, hdel⟩
  · rw [hsame]
    exact .refl
  · rw [hdel]
    exact apart_enabledPort.trans (apart_dropInfo.trans release_rest.apart)

theorem apart_updateInfo : Apart port_id s (updateInfo s ans port_id i admin_state rate).1 := by
  unfold updateInfo
  have hrate : Apart port_id s (if rate ≠ sflowSessionGetRate s i.m_sample_id then
      sflowUpdateRate s ans port_id i rate else (s, true)).1 := by
    split_ifs
    · exact apart_updateRate
    · exact .refl
  cases hresult : (if rate ≠ sflowSessionGetRate s i.m_sample_id then
      sflowUpdateRate s ans port_id i rate else (s, true)) with
  | mk s₁ ok =>
    rw [hresult] at hrate
    cases ok with
    | false => exact hrate
    | true => exact hrate.trans apart_setAdmin

theorem moved_fst {r : St × Bool} : (moved r).1 = r.1 := by
  obtain ⟨s, ok⟩ := r
  cases ok <;> rfl

theorem apart_handleSet : Apart s.port s (handleSet s ans t).1 := by
  unfold handleSet
  split_ifs
  · rcases wanted s t with ⟨admin_state, - | rate⟩
    · exact .refl
    · dsimp only
      cases hi : s.m_sflowPortInfoMap.lookup s.port with
      | none =>
        dsimp only
        rw [moved_fst]
        exact apart_addInfo
      | some i =>
        dsimp only
        rw [moved_fst]
        exact apart_updateInfo
  · exact .refl

/-- **A task concerns no port of another alias**, if the variable holds none. -/
theorem confined (hcalm : Calm s e) : Confined s e := by
  cases e with
  | ports m_portList => exact fun _ => ⟨rfl, rfl⟩
  | status t =>
    intro q
    show Same s (sflowStatusSet s t) q
    unfold sflowStatusSet
    split_ifs
    · exact ⟨rfl, rfl⟩
    · exact ⟨rfl, rfl⟩
    · exact ⟨rfl, rfl⟩
  | enter => exact fun _ => ⟨rfl, rfl⟩
  | turn t ans =>
    intro port_alias q hne hq
    obtain ⟨hset, hdel⟩ := hcalm
    -- the port of another alias is not that of the variable
    have hother : Own (getPort s t.kfvKey) t.kfvKey → q ≠ (getPort s t.kfvKey).port := by
      rintro hown rfl
      exact hne (hown port_alias hq)
    show Same (getPort s t.kfvKey) (turn s ans t).1 q
    unfold turn
    dsimp only
    split_ifs with hop hop'
    · by_cases hstatus : (getPort s t.kfvKey).m_sflowStatus = true
      · exact apart_handleSet q (hother (hset hop hstatus).1)
      · unfold handleSet
        rw [if_neg hstatus]
        exact ⟨rfl, rfl⟩
    · rw [moved_fst]
      cases hi : (getPort s t.kfvKey).m_sflowPortInfoMap.lookup (getPort s t.kfvKey).port with
      | none =>
        unfold handleSflowSessionDel
        rw [hi]
        exact ⟨rfl, rfl⟩
      | some i => exact apart_del q (hother (hdel hop' i hi).1)
    · exact ⟨rfl, rfl⟩

/-! ### Turns -/

section EnabledPort

variable {enable : Bool} {id : sai_object_id_t}

@[simp] theorem enabledPort_info :
    (enabledPort s enable id port_id).m_sflowPortInfoMap = s.m_sflowPortInfoMap := by
  unfold enabledPort
  cases enable <;> rfl

@[simp] theorem enabledPort_sessions :
    (enabledPort s enable id port_id).m_sflowRateSampleMap = s.m_sflowRateSampleMap := by
  unfold enabledPort
  cases enable <;> rfl

@[simp] theorem enabledPort_objects :
    (enabledPort s enable id port_id).asic.samplepackets = s.asic.samplepackets := by
  unfold enabledPort
  cases enable <;> rfl

theorem enabledPort_sample :
    (enabledPort s enable id port_id).asic.INGRESS_SAMPLEPACKET_ENABLE port_id =
      if enable then id else s.asic.INGRESS_SAMPLEPACKET_ENABLE port_id := by
  unfold enabledPort
  cases enable with
  | true => exact Function.update_self ..
  | false => rfl

end EnabledPort

/-- The objects of the other ports are those that they should have. -/
theorem Enabled.apart (h : Enabled s) (hapart : Apart port_id s s')
    (hport : s'.asic.INGRESS_SAMPLEPACKET_ENABLE port_id =
      enabled s'.m_sflowPortInfoMap port_id) : Enabled s' := by
  intro q
  by_cases hq : q = port_id
  · subst hq
    exact hport
  · obtain ⟨hinfo, hsample⟩ := hapart q hq
    rw [hsample, h q]
    unfold enabled
    rw [hinfo]

/-- A port whose session is refused had found one that has ports. -/
theorem Inv.refused (h : Inv s) (hfind : findSession s ans rate = some (session, s'))
    (hjoins : Joins s ans admin_state rate) (hadmin : admin_state = true)
    (hrefused : ans.addPort = false) : s' = s := by
  rcases findSession_cases hfind with ⟨-, rfl⟩ | ⟨id, hm, hcreate, -⟩
  · rfl
  · have hadded := hjoins.2 hm (by rw [hcreate]; exact Option.some_ne_none _) hadmin
    rw [hrefused] at hadded
    cases hadded

/-- The session that a port joins can count it. -/
theorem ref_count_ne (hfind : findSession s ans rate = some (session, s'))
    (hjoins : Joins s ans admin_state rate) : session.ref_count ≠ 2 ^ 32 - 1 := by
  rcases findSession_cases hfind with ⟨hm, -⟩ | ⟨id, -, -, rfl, -⟩
  · have hmax := hjoins.1
    rw [sessionAt_eq hm] at hmax
    exact hmax
  · show (0 : UInt32) ≠ 2 ^ 32 - 1
    decide

theorem Inv.updateRate (h : Inv s) (hi : s.m_sflowPortInfoMap.lookup port_id = some i)
    (hfresh : ∀ id, ans.create_samplepacket = some id → id ∉ s.asic.samplepackets)
    (hrate : rate ≠ sflowSessionGetRate s i.m_sample_id)
    (hjoins : Joins s ans i.admin_state rate) (hleaves : Leaves s ans i) :
    Inv (sflowUpdateRate s ans port_id i rate).1 := by
  have hapart : Apart port_id s (sflowUpdateRate s ans port_id i rate).1 := apart_updateRate
  rcases sflowUpdateRate_cases s ans port_id i rate with
    hsame | ⟨session, s₁, hfind, ⟨hset, hadmin, hrefused⟩ | hset⟩
  · rw [hsame]
    exact h
  · rw [hset, h.refused hfind hjoins hadmin hrefused]
    exact h
  · rw [hset] at hapart ⊢
    obtain ⟨old, hold, hid⟩ := h.exists_session hi
    obtain ⟨hcounts, hm, hused, hkept⟩ := findSession_spec h.counts h.used hfresh hfind
    have hrest := findSession_rest hfind
    -- the port joins its new session
    have hcounts₂ : CountsOf (setInfo (enabledPort s₁ i.admin_state session.m_sample_id port_id)
        port_id { i with m_sample_id := session.m_sample_id }) (users s.m_sflowPortInfoMap) := by
      show Counts _ _ _
      simp only [setInfo, enabledPort_sessions, enabledPort_objects]
      exact hcounts
    have hm₂ : (setInfo (enabledPort s₁ i.admin_state session.m_sample_id port_id)
        port_id { i with m_sample_id := session.m_sample_id }).m_sflowRateSampleMap =
          s₁.m_sflowRateSampleMap := enabledPort_sessions
    obtain ⟨hcounts₃, hused₃⟩ := join_spec hcounts₂ (fun _ => users_nonneg)
      (by unfold AllUsed; rw [hm₂]; exact hused) (by rw [hm₂]; exact hm)
      (ref_count_ne hfind hjoins)
    -- and leaves its old one
    have hold₃ : (count (setInfo (enabledPort s₁ i.admin_state session.m_sample_id port_id)
        port_id { i with m_sample_id := session.m_sample_id }) rate
          (· + 1)).m_sflowRateSampleMap[sflowSessionGetRate s i.m_sample_id]? = some old := by
      rw [count_lookup_ne hrate, hm₂]
      exact hkept _ _ hold
    obtain ⟨hcounts₄, hused₄⟩ := release_spec ans hcounts₃ hused₃ hold₃ fun hone =>
      hleaves (by rw [sessionAt_eq hold]; exact hone)
    have hinfo : (release (count (setInfo (enabledPort s₁ i.admin_state session.m_sample_id port_id)
        port_id { i with m_sample_id := session.m_sample_id }) rate (· + 1)) ans
          (sflowSessionGetRate s i.m_sample_id)).1.m_sflowPortInfoMap =
        s.m_sflowPortInfoMap.insert port_id { i with m_sample_id := session.m_sample_id } := by
      rw [(count_rest.trans release_rest).info]
      show (enabledPort _ _ _ _).m_sflowPortInfoMap.insert _ _ = _
      rw [enabledPort_info, hrest.info]
    have husers : users (s.m_sflowPortInfoMap.insert port_id
        { i with m_sample_id := session.m_sample_id }) =
          users s.m_sflowPortInfoMap + one session.m_sample_id - one old.m_sample_id := by
      rw [users_insert, hi, hid]
      rfl
    refine ⟨?_, ?_, h.enabled.apart hapart ?_⟩
    · rw [hinfo, husers]
      exact hcounts₄
    · rw [hinfo, husers]
      exact hused₄
    · rw [hinfo, (count_rest.trans release_rest).sample]
      show (enabledPort _ _ _ _).asic.INGRESS_SAMPLEPACKET_ENABLE port_id = _
      rw [enabledPort_sample, hrest.sample, h.enabled port_id]
      unfold Sflow.enabled
      rw [hi, AList.lookup_insert]
      dsimp only
      cases i.admin_state with
      | true => rfl
      | false => rfl

theorem Inv.addInfo (h : Inv s) (hi : s.m_sflowPortInfoMap.lookup port_id = none)
    (hfresh : ∀ id, ans.create_samplepacket = some id → id ∉ s.asic.samplepackets)
    (hjoins : rate ≠ 0 → Joins s ans admin_state rate) :
    Inv (addInfo s ans port_id admin_state rate).1 := by
  have hapart : Apart port_id s (Sflow.addInfo s ans port_id admin_state rate).1 := apart_addInfo
  rcases addInfo_cases s ans port_id admin_state rate with
    hsame | ⟨session, s₁, hrate, hfind, ⟨hset, hadmin, hrefused⟩ | hset⟩
  · rw [hsame]
    exact h
  · rw [hset, h.refused hfind (hjoins hrate) hadmin hrefused]
    exact h
  · rw [hset] at hapart ⊢
    obtain ⟨hcounts, hm, hused, -⟩ := findSession_spec h.counts h.used hfresh hfind
    have hrest := findSession_rest hfind
    have hm₂ : (setInfo (enabledPort s₁ admin_state session.m_sample_id port_id)
        port_id ⟨admin_state, session.m_sample_id⟩).m_sflowRateSampleMap =
          s₁.m_sflowRateSampleMap := enabledPort_sessions
    have hcounts₂ : CountsOf (setInfo (enabledPort s₁ admin_state session.m_sample_id port_id)
        port_id ⟨admin_state, session.m_sample_id⟩) (users s.m_sflowPortInfoMap) := by
      show Counts _ _ _
      simp only [setInfo, enabledPort_sessions, enabledPort_objects]
      exact hcounts
    obtain ⟨hcounts₃, hused₃⟩ := join_spec hcounts₂ (fun _ => users_nonneg)
      (by unfold AllUsed; rw [hm₂]; exact hused) (by rw [hm₂]; exact hm)
      (ref_count_ne hfind (hjoins hrate))
    have hinfo : (count (setInfo (enabledPort s₁ admin_state session.m_sample_id port_id)
        port_id ⟨admin_state, session.m_sample_id⟩) rate (· + 1)).m_sflowPortInfoMap =
          s.m_sflowPortInfoMap.insert port_id ⟨admin_state, session.m_sample_id⟩ := by
      show (enabledPort _ _ _ _).m_sflowPortInfoMap.insert _ _ = _
      rw [enabledPort_info, hrest.info]
    have husers : users (s.m_sflowPortInfoMap.insert port_id ⟨admin_state, session.m_sample_id⟩) =
        users s.m_sflowPortInfoMap + one session.m_sample_id := by
      rw [users_insert, hi]
      exact sub_zero _
    refine ⟨?_, ?_, h.enabled.apart hapart ?_⟩
    · rw [hinfo, husers]
      exact hcounts₃
    · rw [hinfo, husers]
      exact hused₃
    · rw [hinfo]
      show (enabledPort _ _ _ _).asic.INGRESS_SAMPLEPACKET_ENABLE port_id = _
      rw [enabledPort_sample, hrest.sample, h.enabled port_id]
      unfold Sflow.enabled
      rw [hi, AList.lookup_insert]

theorem Inv.setAdmin (h : Inv s) : Inv (setAdmin s ans port_id admin_state).1 := by
  have hapart : Apart port_id s (Sflow.setAdmin s ans port_id admin_state).1 := apart_setAdmin
  rcases setAdmin_cases s ans port_id admin_state with hsame | ⟨i, hi, hset⟩
  · rw [hsame]
    exact h
  · rw [hset] at hapart ⊢
    have husers : users (s.m_sflowPortInfoMap.insert port_id { i with admin_state }) =
        users s.m_sflowPortInfoMap := by
      rw [users_insert, hi]
      exact add_sub_cancel_right _ _
    refine ⟨?_, ?_, h.enabled.apart hapart ?_⟩
    · show Counts _ _ (users (s.m_sflowPortInfoMap.insert port_id { i with admin_state }))
      rw [husers]
      exact h.counts
    · show AllUsed _ (users (s.m_sflowPortInfoMap.insert port_id { i with admin_state })) none
      rw [husers]
      exact h.used
    · refine (Function.update_self ..).trans ?_
      show _ = Sflow.enabled (s.m_sflowPortInfoMap.insert port_id { i with admin_state }) port_id
      unfold Sflow.enabled
      rw [AList.lookup_insert]

theorem Inv.del (h : Inv s)
    (hleaves : ∀ i, s.m_sflowPortInfoMap.lookup port_id = some i → Leaves s ans i) :
    Inv (handleSflowSessionDel s ans port_id).1 := by
  have hapart : Apart port_id s (handleSflowSessionDel s ans port_id).1 := apart_del
  rcases handleSflowSessionDel_cases s ans port_id with hsame | ⟨i, hi, hdel⟩
  · rw [hsame]
    exact h
  · rw [hdel] at hapart ⊢
    obtain ⟨session, hm, hid⟩ := h.exists_session hi
    have hsessions : (dropInfo (enabledPort s i.admin_state SAI_NULL_OBJECT_ID port_id)
        port_id).m_sflowRateSampleMap = s.m_sflowRateSampleMap := enabledPort_sessions
    have hcounts₂ : CountsOf (dropInfo (enabledPort s i.admin_state SAI_NULL_OBJECT_ID port_id)
        port_id) (users s.m_sflowPortInfoMap) := by
      show Counts _ _ _
      simp only [dropInfo, enabledPort_sessions, enabledPort_objects]
      exact h.counts
    obtain ⟨hcounts₃, hused₃⟩ := release_spec ans hcounts₂
      (by unfold AllUsed; rw [hsessions]; exact h.used) (by rw [hsessions]; exact hm)
      fun hone => hleaves i hi (by rw [sessionAt_eq hm]; exact hone)
    have hinfo : (release (dropInfo (enabledPort s i.admin_state SAI_NULL_OBJECT_ID port_id)
        port_id) ans (sflowSessionGetRate s i.m_sample_id)).1.m_sflowPortInfoMap =
          s.m_sflowPortInfoMap.erase port_id := by
      rw [release_rest.info]
      show (enabledPort _ _ _ _).m_sflowPortInfoMap.erase _ = _
      rw [enabledPort_info]
    rw [hid] at hcounts₃ hused₃
    refine ⟨?_, ?_, h.enabled.apart hapart ?_⟩
    · rw [hinfo, users_erase hi]
      exact hcounts₃
    · rw [hinfo, users_erase hi]
      exact hused₃
    · rw [hinfo, release_rest.sample]
      show (enabledPort _ _ _ _).asic.INGRESS_SAMPLEPACKET_ENABLE port_id = _
      rw [enabledPort_sample, h.enabled port_id]
      unfold Sflow.enabled
      rw [hi, AList.lookup_erase]
      dsimp only
      cases i.admin_state with
      | true => rfl
      | false => rfl

theorem Inv.updateInfo (h : Inv s) (hi : s.m_sflowPortInfoMap.lookup port_id = some i)
    (hfresh : ∀ id, ans.create_samplepacket = some id → id ∉ s.asic.samplepackets)
    (hcalm : rate ≠ sflowSessionGetRate s i.m_sample_id →
      Joins s ans i.admin_state rate ∧ Leaves s ans i) :
    Inv (updateInfo s ans port_id i admin_state rate).1 := by
  unfold Sflow.updateInfo
  have hrate : Inv (if rate ≠ sflowSessionGetRate s i.m_sample_id then
      sflowUpdateRate s ans port_id i rate else (s, true)).1 := by
    split_ifs with hne
    · exact h.updateRate hi hfresh hne (hcalm hne).1 (hcalm hne).2
    · exact h
  cases hresult : (if rate ≠ sflowSessionGetRate s i.m_sample_id then
      sflowUpdateRate s ans port_id i rate else (s, true)) with
  | mk s₁ ok =>
    rw [hresult] at hrate
    cases ok with
    | false => exact hrate
    | true => exact hrate.setAdmin

theorem Inv.handleSet (h : Inv s)
    (hfresh : ∀ id, ans.create_samplepacket = some id → id ∉ s.asic.samplepackets)
    (hcalm : s.m_sflowStatus = true → ∀ admin_state rate,
      wanted s t = (admin_state, some rate) → CalmSet s ans admin_state rate) :
    Inv (handleSet s ans t).1 := by
  unfold Sflow.handleSet
  split_ifs with hstatus
  · rcases hwanted : wanted s t with ⟨admin_state, - | rate⟩
    · exact h
    · have hset := hcalm hstatus admin_state rate hwanted
      unfold CalmSet at hset
      dsimp only
      cases hi : s.m_sflowPortInfoMap.lookup s.port with
      | none =>
        rw [hi] at hset
        dsimp only
        rw [moved_fst]
        exact h.addInfo hi hfresh hset
      | some i =>
        rw [hi] at hset
        dsimp only
        rw [moved_fst]
        exact h.updateInfo hi hfresh hset
  · exact h

/-- **A step keeps the invariant.** -/
theorem Inv.step (h : Inv s) (hcalm : Calm s e) (hstep : Step s e s') : Inv s' := by
  obtain ⟨hfresh, rfl⟩ := hstep
  cases e with
  | ports m_portList => exact ⟨h.counts, h.used, h.enabled⟩
  | status t =>
    show Inv (sflowStatusSet s t)
    unfold sflowStatusSet
    split_ifs
    · exact ⟨h.counts, h.used, h.enabled⟩
    · exact ⟨h.counts, h.used, h.enabled⟩
    · exact h
  | enter => exact ⟨h.counts, h.used, h.enabled⟩
  | turn t ans =>
    have hget : Inv (getPort s t.kfvKey) := ⟨h.counts, h.used, h.enabled⟩
    have hnew : ∀ id, ans.create_samplepacket = some id →
        id ∉ (getPort s t.kfvKey).asic.samplepackets := fun id hid => (hfresh id hid).2
    show Inv (turn s ans t).1
    unfold turn
    dsimp only
    split_ifs with hop hop'
    · exact hget.handleSet hnew fun hstatus => (hcalm.1 hop hstatus).2
    · rw [moved_fst]
      exact hget.del fun i hi => (hcalm.2 hop' i hi).2
    · exact hget

theorem inv_init : Inv init := by
  refine ⟨⟨?_, ?_, ?_⟩, ?_, fun port_id => rfl⟩
  · intro rate session hm
    exact absurd hm (by simp [init])
  · exact fun id hne => absurd rfl hne
  · intro id rate
    simp [init]
  · intro rate session hm
    exact absurd hm (by simp [init])

/-- Every port of the table uses the session of one rate. -/
theorem Inv.counted (h : Inv s) : Counted s := by
  refine ⟨fun rate => ?_, h.counts.count, fun port_id hport => ?_, h.counts.object, h.enabled⟩
  · rw [mem_iff]
    constructor
    · rintro ⟨session, hm⟩
      have hpos : 0 < users s.m_sflowPortInfoMap session.m_sample_id :=
        lt_of_le_of_ne users_nonneg (h.used _ _ hm nofun).symm
      obtain ⟨port_id, i, hi, hone⟩ := Table.exists_of_sum_pos hpos
      refine ⟨port_id, i, session, hi, hm, ?_⟩
      by_contra hne
      rw [one, if_neg hne] at hone
      exact lt_irrefl _ hone
    · rintro ⟨port_id, i, session, -, hm, -⟩
      exact ⟨session, hm⟩
  · obtain ⟨i, hi⟩ := Option.isSome_iff_exists.mp (AList.lookup_isSome.mpr hport)
    obtain ⟨session, hm, hid⟩ := h.exists_session hi
    refine ⟨sflowSessionGetRate s i.m_sample_id, ⟨i, session, hi, hm, hid⟩, ?_⟩
    rintro rate ⟨i', session', hi', hm', hid'⟩
    rw [hi] at hi'
    obtain rfl := Option.some.inj hi'
    exact h.counts.distinct hm' hm (hid'.trans hid.symm)

/-- **Sample sessions are counted exactly**: after any steps that meet the condition an entry is
that of a rate that a port uses, its count is the number of such ports, the object of a port is
its session or null, and another such step concerns no port of another alias. -/
theorem sflow_sessions_counted {es : List Event} (hrun : Run (Guarded Calm Step) init es s) :
    Counted s ∧ ∀ e, Calm s e → Confined s e := by
  have hinv : Inv s := by
    refine hrun.keeps inv_init fun {t e u} ht hstep => ?_
    exact ht.step hstep.1 hstep.2
  exact ⟨hinv.counted, fun e hcalm => confined hcalm⟩

/-! ### Passes -/

/-- The turn of a pending task, as a step. -/
def turnOf (todo : KeyOpFieldsValuesTuple × Answers) : Event := .turn todo.1 todo.2

/-- **A pass is a run**: it begins, and takes the turns of the tasks up to where it is left. -/
theorem doTask_eq (s : St) (todo : List (KeyOpFieldsValuesTuple × Answers)) :
    ∃ n, (doTask s todo).1 = (.enter :: (todo.take n).map turnOf).foldl next s := by
  show ∃ n, (loop (enter s) todo).1 = ((todo.take n).map turnOf).foldl next (enter s)
  generalize enter s = s
  induction todo generalizing s with
  | nil => exact ⟨0, rfl⟩
  | cons p todo ih =>
    obtain ⟨t, ans⟩ := p
    have hturn : next s (turnOf (t, ans)) = (turn s ans t).1 := rfl
    unfold loop
    rcases hmove : turn s ans t with ⟨s₁, - | - | -⟩
    · obtain ⟨n, hn⟩ := ih s₁
      refine ⟨n + 1, ?_⟩
      rw [List.take_succ_cons, List.map_cons, List.foldl_cons, hturn, hmove]
      exact hn
    · obtain ⟨n, hn⟩ := ih s₁
      refine ⟨n + 1, ?_⟩
      rw [List.take_succ_cons, List.map_cons, List.foldl_cons, hturn, hmove]
      exact hn
    · -- nothing is done after a turn that leaves
      refine ⟨1, ?_⟩
      rw [List.take_succ_cons, List.map_cons, List.foldl_cons, hturn, hmove]
      rfl

/-! ### Two ports -/

/-- `Ethernet0` is the only port. -/
def ethernet0 : Event := .ports fun port_alias => if port_alias = "Ethernet0" then some 1 else none

def enable : Event := .status ⟨"global", "SET", [("admin_state", "up")]⟩

/-- A rate for `Ethernet0`, whose session is the object 7. -/
def sample : Event :=
  .turn ⟨"Ethernet0", "SET", [("admin_state", "up"), ("sample_rate", "1000")]⟩
    ⟨some 7, true, true, true⟩

/-- `Ethernet4` goes, of which no port is known. -/
def remove : Event := .turn ⟨"Ethernet4", "DEL", []⟩ ⟨none, true, true, true⟩

theorem fresh_sample : Fresh ([ethernet0, enable, .enter].foldl next init) sample := by
  rintro id hid
  obtain rfl : 7 = id := Option.some.inj hid
  exact ⟨by decide, by decide⟩

theorem calm_sample : Calm ([ethernet0, enable, .enter].foldl next init) sample := by
  have hwanted : wanted (getPort ([ethernet0, enable, .enter].foldl next init) "Ethernet0")
      ⟨"Ethernet0", "SET", [("admin_state", "up"), ("sample_rate", "1000")]⟩ =
        (true, some 1000) := by decide +kernel
  refine ⟨fun _ _ => ⟨fun port_alias h => ?_, fun admin_state rate h => ?_⟩, fun hop => ?_⟩
  · by_contra hne
    have hnone : (if port_alias = "Ethernet0" then some (1 : sai_object_id_t) else none) = none :=
      if_neg hne
    rw [show (if port_alias = "Ethernet0" then some (1 : sai_object_id_t) else none) =
      some _ from h] at hnone
    cases hnone
  · rw [show wanted _ _ = (true, some 1000) from hwanted] at h
    obtain ⟨rfl, hrate⟩ := Prod.mk.inj h
    obtain rfl := Option.some.inj hrate
    exact fun _ => ⟨by decide +kernel, fun _ _ _ => rfl⟩
  · exact absurd hop (by decide)

theorem sflow_sessions_counted_sample :
    Counted ([ethernet0, enable, .enter, sample].foldl next init) ∧
      ∀ e, Calm ([ethernet0, enable, .enter, sample].foldl next init) e →
        Confined ([ethernet0, enable, .enter, sample].foldl next init) e :=
  have hrun : Run (Guarded Calm Step) init [ethernet0, enable, .enter, sample]
      ([ethernet0, enable, .enter, sample].foldl next init) :=
    .cons ⟨trivial, trivial, rfl⟩ (.cons ⟨trivial, trivial, rfl⟩ (.cons ⟨trivial, trivial, rfl⟩
      (.single ⟨calm_sample, fresh_sample, rfl⟩)))
  sflow_sessions_counted hrun

/-- **A task of an alias that is not known** takes the session of the port of the turn before. -/
theorem not_sflow_sessions_counted :
    ¬ ∀ (es : List Event) (s : St), Run Step init es s →
      Counted s ∧ ∀ e, Fresh s e → Confined s e := by
  intro hclaim
  have hrun : Run Step init [ethernet0, enable, .enter, sample]
      ([ethernet0, enable, .enter, sample].foldl next init) :=
    .cons ⟨trivial, rfl⟩ (.cons ⟨trivial, rfl⟩ (.cons ⟨trivial, rfl⟩
      (.single ⟨fresh_sample, rfl⟩)))
  have hsame := ((hclaim _ _ hrun).2 remove nofun "Ethernet0" 1 (by decide) rfl).1
  revert hsame
  decide +kernel

end Orchagent.Sflow
