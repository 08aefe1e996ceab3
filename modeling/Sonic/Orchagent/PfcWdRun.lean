/-
Orchagent/PfcWdRun.lean

Runs of the PFC watchdog: when its state is coherent.

`Core` is what every task keeps of the entries, the records and the switch, and `Covered`
that no configured queue is without an entry; a task that visits many queues has the second
only when it is done.  In the middle of a warm restart some storms are recorded that are not
replayed yet, and the mode of a queue may be left over from the old orch: `pending` and
`stale` stand for these, and are empty between the tasks.
-/
import Sonic.Lib.Visit
import Sonic.Orchagent.PfcWdOrch

namespace Orchagent.PfcWd

open Swss (FieldValueTuple)
open Transition (Run Guarded Meets)

/-! ### Ports and their queues -/

namespace PortsOrch

/-- A queue of a physical port whose traffic class is lossless. -/
structure Lossless (P : PortsOrch) (port : Port) (i : ℕ) (q : sai_object_id_t) : Prop where
  mem : port ∈ P.m_portList
  phy : port.m_type = .PHY
  lt : i < PFC_WD_TC_MAX
  bit : port.m_pfc_bitmask.testBit i = true
  queue : port.m_queue_ids[i]? = some q

variable {P : PortsOrch} {port port' : Port} {name : String} {i j : ℕ} {q : sai_object_id_t}

theorem getPort_eq_some :
    P.getPort name = some port ↔ port ∈ P.m_portList ∧ port.m_alias = name := by
  constructor
  · intro h
    exact ⟨List.mem_of_find?_eq_some h, by simpa using List.find?_some h⟩
  · rintro ⟨hmem, rfl⟩
    cases hfind : P.getPort port.m_alias with
    | none => simpa using List.find?_eq_none.mp hfind port hmem
    | some port' =>
      have halias : port'.m_alias = port.m_alias := by simpa using List.find?_some hfind
      rw [P.alias_inj port' (List.mem_of_find?_eq_some hfind) port hmem halias]

theorem getPortPfc_eq (hmem : port ∈ P.m_portList) (hphy : port.m_type = .PHY) :
    P.getPortPfc port.m_port_id = some port.m_pfc_bitmask := by
  unfold getPortPfc
  cases hfind : P.m_portList.find? fun p => p.m_type = .PHY ∧ p.m_port_id = port.m_port_id with
  | none => simpa [hphy] using List.find?_eq_none.mp hfind port hmem
  | some port' =>
    have hsome := List.find?_some hfind
    simp only [decide_eq_true_eq] at hsome
    rw [P.id_inj port' (List.mem_of_find?_eq_some hfind) port hmem hsome.1 hphy hsome.2]
    rfl

theorem getElem?_queue (hmem : port ∈ P.m_portList) (hphy : port.m_type = .PHY)
    (hi : i < PFC_WD_TC_MAX) : port.m_queue_ids[i]? = some (port.queue i) := by
  have hlt : i < port.m_queue_ids.length := Nat.lt_of_lt_of_le hi (P.queues port hmem hphy)
  rw [Port.queue, List.getD_eq_getElem?_getD, List.getElem?_eq_getElem hlt, Option.getD_some]

theorem lossless_queue (hmem : port ∈ P.m_portList) (hphy : port.m_type = .PHY)
    (hi : i < PFC_WD_TC_MAX) (hbit : port.m_pfc_bitmask.testBit i = true) :
    P.Lossless port i (port.queue i) :=
  ⟨hmem, hphy, hi, hbit, getElem?_queue hmem hphy hi⟩

theorem Lossless.queue_eq (h : P.Lossless port i q) : port.queue i = q :=
  Option.some.inj ((getElem?_queue h.mem h.phy h.lt).symm.trans h.queue)

theorem Lossless.unique (h : P.Lossless port i q) (h' : P.Lossless port' j q) :
    port = port' ∧ i = j :=
  P.queues_inj port h.mem port' h'.mem i j q h.queue h'.queue

/-- The loop over the ports is never left early. -/
theorem forPorts_eq {f : Port → ℕ → St → St} {ports : List Port} {s : St}
    (hports : ∀ port ∈ ports, port ∈ P.m_portList) :
    St.forPorts P f ports s =
      ((ports.filter (·.m_type = .PHY)).foldl (fun s port => f port port.m_pfc_bitmask s) s,
        true) := by
  induction ports generalizing s with
  | nil => rfl
  | cons port ports ih =>
    have hrest : ∀ port ∈ ports, port ∈ P.m_portList :=
      fun port h => hports port (List.mem_cons_of_mem _ h)
    by_cases hphy : port.m_type = .PHY
    · rw [St.forPorts, if_neg (not_not.mpr hphy),
        getPortPfc_eq (hports port List.mem_cons_self) hphy]
      rw [List.filter_cons_of_pos (by simpa using hphy), List.foldl_cons]
      exact ih hrest
    · rw [St.forPorts, if_pos hphy, List.filter_cons_of_neg (by simpa using hphy)]
      exact ih hrest

end PortsOrch

/-! ### What the state should be -/

/-- The orch, and the configuration of every port that the tasks have asked for. -/
structure World where
  orch : St
  conf : String → Option PfcWdConf

/-- The state is what the configuration and the storms ask for. -/
structure Coherent (P : PortsOrch) (w : World) : Prop where
  one_handler : ∀ {q e b}, w.orch.m_entryMap.lookup q = some e →
    w.orch.m_brsEntryMap.lookup q = some b → e.handler = none ∨ b.handler = none
  entry_iff : ∀ {q}, (w.orch.m_entryMap.lookup q).isSome ↔
    ∃ port i c, P.Lossless port i q ∧ w.conf port.m_alias = some c
  action : ∀ {port i q c e}, P.Lossless port i q → w.conf port.m_alias = some c →
    w.orch.m_entryMap.lookup q = some e → e.action = c.action
  storm_iff : ∀ {key}, w.orch.applDb.lookup key = some PFC_WD_IN_STORM ↔
    ∃ port q e, port ∈ P.m_portList ∧ port.m_alias = key.1 ∧
      port.m_queue_ids[key.2]? = some q ∧ w.orch.m_entryMap.lookup q = some e ∧ e.handler ≠ none
  switch_off : w.orch.m_bigRedSwitchFlag = false →
    ∀ q, (w.orch.countersDb q).BIG_RED_SWITCH_MODE = none

/-- The key of a queue in APPL_DB. -/
def PfcWdQueueEntry.key (e : PfcWdQueueEntry) : String × ℕ := (e.portAlias, e.index)

structure Core (P : PortsOrch) (pending : List (String × ℕ)) (stale : Prop)
    (conf : String → Option PfcWdConf) (s : St) : Prop where
  entry : ∀ {q e}, s.m_entryMap.lookup q = some e → ∃ port c, P.Lossless port e.index q ∧
    e.portAlias = port.m_alias ∧ conf port.m_alias = some c ∧ e.action = c.action
  recorded : ∀ {q e}, s.m_entryMap.lookup q = some e → e.handler ≠ none →
    s.applDb.lookup e.key = some PFC_WD_IN_STORM
  record : ∀ {k v}, s.applDb.lookup k = some v → v = PFC_WD_IN_STORM ∧
    (k ∈ pending ∨ ∃ q e, s.m_entryMap.lookup q = some e ∧ e.handler ≠ none ∧ e.key = k)
  switch_on : s.m_bigRedSwitchFlag = true → ∀ {q e}, s.m_entryMap.lookup q = some e →
    e.handler = none
  switch_off : s.m_bigRedSwitchFlag = false → s.m_brsEntryMap = ∅
  marked : ∀ {q}, (s.countersDb q).BIG_RED_SWITCH_MODE ≠ none →
    (s.m_bigRedSwitchFlag = true ∨ stale) ∧ ∃ port i, P.Lossless port i q
  switched : s.m_bigRedSwitchFlag = true → ∀ {port i q}, P.Lossless port i q →
    (s.m_brsEntryMap.lookup q).isSome

/-- No configured queue is without an entry. -/
def Covered (P : PortsOrch) (conf : String → Option PfcWdConf) (s : St) : Prop :=
  ∀ {port i q c}, P.Lossless port i q → conf port.m_alias = some c →
    (s.m_entryMap.lookup q).isSome

/-- No queue is stormed. -/
def Calm (s : St) : Prop := ∀ q e, s.m_entryMap.lookup q = some e → e.handler = none

section

variable {P : PortsOrch} {pending : List (String × ℕ)} {stale : Prop}
  {conf : String → Option PfcWdConf} {s s' : St} {q : sai_object_id_t}

/-- Two queues with one key are one queue. -/
theorem Core.key_inj (h : Core P pending stale conf s) {q' : sai_object_id_t}
    {e e' : PfcWdQueueEntry} (he : s.m_entryMap.lookup q = some e)
    (he' : s.m_entryMap.lookup q' = some e') (hkey : e.key = e'.key) : q = q' := by
  obtain ⟨port, _, hl, halias, _⟩ := h.entry he
  obtain ⟨port', _, hl', halias', _⟩ := h.entry he'
  obtain ⟨hname, hindex⟩ := Prod.ext_iff.mp hkey
  have hport : port = port' :=
    P.alias_inj port hl.mem port' hl'.mem (halias.symm.trans (hname.trans halias'))
  have hqueue := hl.queue
  rw [hport, show e.index = e'.index from hindex, hl'.queue] at hqueue
  exact (Option.some.inj hqueue).symm

theorem Core.coherent {w : World} (h : Core P [] False w.conf w.orch)
    (hc : Covered P w.conf w.orch) : Coherent P w where
  one_handler {q e b} he hb := by
    cases hflag : w.orch.m_bigRedSwitchFlag with
    | true => exact Or.inl (h.switch_on hflag he)
    | false =>
      rw [h.switch_off hflag] at hb
      cases hb
  entry_iff {q} := by
    constructor
    · intro hq
      obtain ⟨e, he⟩ := Option.isSome_iff_exists.mp hq
      obtain ⟨port, c, hl, _, hconf, _⟩ := h.entry he
      exact ⟨port, e.index, c, hl, hconf⟩
    · rintro ⟨port, i, c, hl, hconf⟩
      exact hc hl hconf
  action {port i q c e} hl hconf he := by
    obtain ⟨port', c', hl', _, hconf', haction⟩ := h.entry he
    obtain ⟨rfl, _⟩ := hl.unique hl'
    rw [hconf] at hconf'
    rw [haction, Option.some.inj hconf']
  storm_iff {key} := by
    constructor
    · intro hk
      obtain ⟨_, hpending | ⟨q, e, he, hne, rfl⟩⟩ := h.record hk
      · cases hpending
      · obtain ⟨port, _, hl, halias, _⟩ := h.entry he
        exact ⟨port, q, e, hl.mem, halias.symm, hl.queue, he, hne⟩
    · rintro ⟨port, q, e, hmem, halias, hqueue, he, hne⟩
      obtain ⟨port', _, hl', halias', _⟩ := h.entry he
      obtain ⟨rfl, hindex⟩ :=
        P.queues_inj port hmem port' hl'.mem key.2 e.index q hqueue hl'.queue
      have hkey : e.key = key := Prod.ext (halias'.trans halias) hindex.symm
      rw [← hkey]
      exact h.recorded he hne
  switch_off hflag q := by
    by_contra hmark
    obtain ⟨hon | hstale, _⟩ := h.marked hmark
    · rw [hflag] at hon
      cases hon
    · exact hstale

/-! ### Counters -/

@[simp] theorem brs_register {c : QueueCounters} {conf : PfcWdConf} :
    (c.register conf).BIG_RED_SWITCH_MODE = c.BIG_RED_SWITCH_MODE := rfl

@[simp] theorem brs_unregister {c : QueueCounters} :
    c.unregister.BIG_RED_SWITCH_MODE = c.BIG_RED_SWITCH_MODE := rfl

@[simp] theorem brs_initCounters {c : QueueCounters} :
    c.initCounters.BIG_RED_SWITCH_MODE = c.BIG_RED_SWITCH_MODE := rfl

@[simp] theorem brs_commitCounters {c : QueueCounters} {periodic : Bool} :
    (c.commitCounters periodic).BIG_RED_SWITCH_MODE = c.BIG_RED_SWITCH_MODE := rfl

@[simp] theorem brs_bake {c : QueueCounters} :
    c.bake.BIG_RED_SWITCH_MODE = c.BIG_RED_SWITCH_MODE := rfl

/-- The state but for the counters, among which no other queue is marked. -/
structure SameButCounters (s s' : St) : Prop where
  entryMap : s'.m_entryMap = s.m_entryMap
  brsEntryMap : s'.m_brsEntryMap = s.m_brsEntryMap
  flag : s'.m_bigRedSwitchFlag = s.m_bigRedSwitchFlag
  applDb : s'.applDb = s.applDb
  marks : ∀ q, (s'.countersDb q).BIG_RED_SWITCH_MODE = (s.countersDb q).BIG_RED_SWITCH_MODE

theorem sameButCounters_update {f : QueueCounters → QueueCounters}
    (hf : ∀ c, (f c).BIG_RED_SWITCH_MODE = c.BIG_RED_SWITCH_MODE) :
    SameButCounters s (s.updateCounters q f) := by
  refine ⟨rfl, rfl, rfl, rfl, fun q' => ?_⟩
  show (Function.update s.countersDb q (f (s.countersDb q)) q').BIG_RED_SWITCH_MODE = _
  by_cases hq : q' = q
  · rw [hq, Function.update_self, hf]
  · rw [Function.update_of_ne hq]

theorem sameButCounters_commit (s : St) (t : Table sai_object_id_t PfcWdQueueEntry)
    (periodic : Bool) :
    SameButCounters s (s.commitHandlers t periodic) := by
  refine ⟨rfl, rfl, rfl, rfl, fun q => ?_⟩
  show (if _ then (s.countersDb q).commitCounters periodic else
    s.countersDb q).BIG_RED_SWITCH_MODE = _
  split <;> rfl

theorem Core.counters (h : Core P pending stale conf s) (hs : SameButCounters s s') :
    Core P pending stale conf s' := by
  obtain ⟨hentry, hbrs, hflag, happl, hmarks⟩ := hs
  constructor
  · rw [hentry]; exact h.entry
  · rw [hentry, happl]; exact h.recorded
  · rw [hentry, happl]; exact h.record
  · rw [hentry, hflag]; exact h.switch_on
  · rw [hbrs, hflag]; exact h.switch_off
  · intro q hq
    rw [hmarks] at hq
    rw [hflag]
    exact h.marked hq
  · rw [hbrs, hflag]; exact h.switched

/-! ### Storms -/

/-- The state with another handler for a queue, and other records. -/
def St.withHandler (s : St) (q : sai_object_id_t) (entry : PfcWdQueueEntry)
    (handler : Option Handler) (applDb : Table (String × ℕ) String) : St :=
  { s with m_entryMap := s.m_entryMap.insert q { entry with handler := handler }, applDb := applDb }

/-- The entries after a handler was set: all of them were there, with their keys and actions. -/
theorem withHandler_entry {entry e' : PfcWdQueueEntry} {handler : Option Handler}
    {applDb : Table (String × ℕ) String} {q' : sai_object_id_t}
    (he : s.m_entryMap.lookup q = some entry)
    (he' : (s.withHandler q entry handler applDb).m_entryMap.lookup q' = some e') :
    ∃ e, s.m_entryMap.lookup q' = some e ∧ e'.action = e.action ∧ e'.index = e.index ∧
      e'.portAlias = e.portAlias ∧ (q' = q ∧ e'.handler = handler ∨ q' ≠ q ∧ e' = e) := by
  rcases Table.lookup_insert_iff.mp he' with ⟨rfl, rfl⟩ | ⟨hne, he'⟩
  · exact ⟨entry, he, rfl, rfl, rfl, Or.inl ⟨rfl, rfl⟩⟩
  · exact ⟨e', he', rfl, rfl, rfl, Or.inr ⟨hne, rfl⟩⟩

theorem Core.entry_withHandler (h : Core P pending stale conf s) {entry e' : PfcWdQueueEntry}
    {handler : Option Handler} {applDb : Table (String × ℕ) String} {q' : sai_object_id_t}
    (he : s.m_entryMap.lookup q = some entry)
    (he' : (s.withHandler q entry handler applDb).m_entryMap.lookup q' = some e') :
    ∃ port c, P.Lossless port e'.index q' ∧ e'.portAlias = port.m_alias ∧
      conf port.m_alias = some c ∧ e'.action = c.action := by
  obtain ⟨e, hlook, haction, hindex, halias, _⟩ := withHandler_entry he he'
  obtain ⟨port, c, hl, hname, hconf, hact⟩ := h.entry hlook
  exact ⟨port, c, hindex ▸ hl, halias.trans hname, hconf, haction.trans hact⟩

/-- A queue is stormed: it has a handler and is recorded. -/
theorem Core.storm (h : Core P pending stale conf s) {entry : PfcWdQueueEntry} {handler : Handler}
    (he : s.m_entryMap.lookup q = some entry) (hoff : s.m_bigRedSwitchFlag = false) :
    Core P pending stale conf (s.withHandler q entry (some handler)
      (s.applDb.insert entry.key PFC_WD_IN_STORM)) where
  entry he' := h.entry_withHandler he he'
  recorded {q' e'} he' hne := by
    obtain ⟨e, hlook, _, hindex, halias, ⟨rfl, _⟩ | ⟨_, rfl⟩⟩ := withHandler_entry he he'
    · obtain rfl := Option.some.inj (he.symm.trans hlook)
      have hkey : e'.key = entry.key := Prod.ext halias hindex
      rw [hkey]
      exact AList.lookup_insert _
    · show (s.applDb.insert entry.key PFC_WD_IN_STORM).lookup e'.key = _
      rw [Table.lookup_insert_eq]
      split
      · rfl
      · exact h.recorded hlook hne
  record {k v} hk := by
    rcases Table.lookup_insert_iff.mp hk with ⟨rfl, rfl⟩ | ⟨hne, hk⟩
    · exact ⟨rfl, Or.inr ⟨q, _, AList.lookup_insert _, nofun, rfl⟩⟩
    · obtain ⟨hv, hpending | ⟨q', e, hlook, hhandler, hkey⟩⟩ := h.record hk
      · exact ⟨hv, Or.inl hpending⟩
      · -- the other queue that is recorded keeps its handler
        have hq : q' ≠ q := by
          rintro rfl
          obtain rfl := Option.some.inj (he.symm.trans hlook)
          exact hne hkey.symm
        exact ⟨hv, Or.inr ⟨q', e, (AList.lookup_insert_ne hq).trans hlook, hhandler, hkey⟩⟩
  switch_on hon := by
    rw [show s.m_bigRedSwitchFlag = true from hon] at hoff
    cases hoff
  switch_off := h.switch_off
  marked := h.marked
  switched := h.switched

/-- The end of a storm: the handler and the record go. -/
theorem Core.restored (h : Core P pending stale conf s) {entry : PfcWdQueueEntry}
    (he : s.m_entryMap.lookup q = some entry) :
    Core P pending stale conf (s.withHandler q entry none (s.applDb.erase entry.key)) where
  entry he' := h.entry_withHandler he he'
  recorded {q' e'} he' hne := by
    obtain ⟨e, hlook, _, _, _, ⟨rfl, hnone⟩ | ⟨hq, rfl⟩⟩ := withHandler_entry he he'
    · exact absurd hnone hne
    · show (s.applDb.erase entry.key).lookup e'.key = _
      rw [Table.lookup_erase_eq, if_neg fun hkey => hq (h.key_inj hlook he hkey)]
      exact h.recorded hlook hne
  record {k v} hk := by
    obtain ⟨hne, hk⟩ := Table.lookup_erase_iff.mp hk
    obtain ⟨hv, hpending | ⟨q', e, hlook, hhandler, hkey⟩⟩ := h.record hk
    · exact ⟨hv, Or.inl hpending⟩
    · have hq : q' ≠ q := by
        rintro rfl
        obtain rfl := Option.some.inj (he.symm.trans hlook)
        exact hne hkey.symm
      exact ⟨hv, Or.inr ⟨q', e, (AList.lookup_insert_ne hq).trans hlook, hhandler, hkey⟩⟩
  switch_on hon := by
    intro q' e' he'
    obtain ⟨e, hlook, _, _, _, ⟨_, hnone⟩ | ⟨_, rfl⟩⟩ := withHandler_entry he he'
    · exact hnone
    · exact h.switch_on hon hlook
  switch_off := h.switch_off
  marked := h.marked
  switched := h.switched

theorem isSome_withHandler {entry : PfcWdQueueEntry} {handler : Option Handler}
    {applDb : Table (String × ℕ) String} (he : s.m_entryMap.lookup q = some entry)
    (q' : sai_object_id_t) :
    ((s.withHandler q entry handler applDb).m_entryMap.lookup q').isSome =
      (s.m_entryMap.lookup q').isSome := by
  show ((s.m_entryMap.insert q _).lookup q').isSome = _
  rw [Table.lookup_insert_eq]
  split
  · next hq => rw [hq, he]; rfl
  · rfl

/-- An event changes the handler of a queue that has an entry, with its record, or nothing. -/
theorem startWdActionOnQueue_cases (s : St) (event : String) (q : sai_object_id_t) :
    (s.startWdActionOnQueue event q).1 = s ∨
    ∃ entry s₀, s.m_entryMap.lookup q = some entry ∧ s.m_bigRedSwitchFlag = false ∧
      SameButCounters s s₀ ∧
      ((∃ handler, event = "storm" ∧ (s.startWdActionOnQueue event q).1 =
          s₀.withHandler q entry (some handler) (s₀.applDb.insert entry.key PFC_WD_IN_STORM)) ∨
        (event = "restore" ∧ (s.startWdActionOnQueue event q).1 =
          s₀.withHandler q entry none (s₀.applDb.erase entry.key))) := by
  unfold St.startWdActionOnQueue
  cases he : s.m_entryMap.lookup q with
  | none => exact Or.inl rfl
  | some entry =>
    dsimp only
    by_cases hflag : s.m_bigRedSwitchFlag = true
    · rw [if_pos hflag]
      exact Or.inl rfl
    rw [if_neg hflag]
    have hoff : s.m_bigRedSwitchFlag = false := Bool.eq_false_of_not_eq_true hflag
    by_cases hstorm : event = "storm"
    · rw [if_pos hstorm]
      cases hhandler : St.handlerOf entry.action with
      | none => exact Or.inl rfl
      | some handler =>
        dsimp only
        split
        · exact Or.inr ⟨entry, _, rfl, hoff,
            sameButCounters_update (f := (·.initCounters)) fun _ => rfl,
            Or.inl ⟨handler, hstorm, rfl⟩⟩
        · exact Or.inl rfl
    · rw [if_neg hstorm]
      by_cases hrestore : event = "restore"
      · rw [if_pos hrestore]
        split
        · exact Or.inr ⟨entry, _, rfl, hoff,
            sameButCounters_update (f := (·.commitCounters false)) fun _ => rfl,
            Or.inr ⟨hrestore, rfl⟩⟩
        · exact Or.inl rfl
      · rw [if_neg hrestore]
        exact Or.inl rfl

/-- A storm or its end. -/
theorem Core.startWdActionOnQueue (h : Core P pending stale conf s) (event : String)
    (q : sai_object_id_t) :
    Core P pending stale conf (s.startWdActionOnQueue event q).1 ∧
      ∀ q', ((s.startWdActionOnQueue event q).1.m_entryMap.lookup q').isSome =
        (s.m_entryMap.lookup q').isSome := by
  rcases startWdActionOnQueue_cases s event q with
    hsame | ⟨entry, s₀, he, hoff, hs₀, ⟨handler, _, hs'⟩ | ⟨_, hs'⟩⟩
  · rw [hsame]
    exact ⟨h, fun _ => rfl⟩
  · have he₀ : s₀.m_entryMap.lookup q = some entry := by rw [hs₀.entryMap, he]
    rw [hs', ← hs₀.entryMap]
    exact ⟨(h.counters hs₀).storm he₀ (hs₀.flag.trans hoff), isSome_withHandler he₀⟩
  · have he₀ : s₀.m_entryMap.lookup q = some entry := by rw [hs₀.entryMap, he]
    rw [hs', ← hs₀.entryMap]
    exact ⟨(h.counters hs₀).restored he₀, isSome_withHandler he₀⟩

theorem Covered.congr (h : Covered P conf s)
    (hs : ∀ q, (s.m_entryMap.lookup q).isSome → (s'.m_entryMap.lookup q).isSome) :
    Covered P conf s' :=
  fun hl hconf => hs _ (h hl hconf)

theorem replay_keeps (h : Core P pending stale conf s) (hc : Covered P conf s) {key : String}
    {fvs : List (ℤ × String)} :
    Core P pending stale conf (s.replay P key fvs) ∧ Covered P conf (s.replay P key fvs) := by
  unfold St.replay
  split
  · exact ⟨h, hc⟩
  · next port _ =>
      split
      · exact ⟨h, hc⟩
      · refine fvs.foldlRecOn (St.replayField port)
          (motive := fun s => Core P pending stale conf s ∧ Covered P conf s) ⟨h, hc⟩ ?_
        rintro s ⟨h, hc⟩ fv _
        unfold St.replayField
        split
        · exact ⟨h, hc⟩
        · split
          · exact ⟨h, hc⟩
          · obtain ⟨h', hsome⟩ := h.startWdActionOnQueue PFC_WD_IN_STORM (port.queue fv.1.toNat)
            exact ⟨h', hc.congr fun q hq => (hsome q).trans hq⟩

/-! ### The big red switch -/

theorem St.updateCounters_brs {f : QueueCounters → QueueCounters} {q' : sai_object_id_t} :
    ((s.updateCounters q f).countersDb q').BIG_RED_SWITCH_MODE =
      if q' = q then (f (s.countersDb q)).BIG_RED_SWITCH_MODE
      else (s.countersDb q').BIG_RED_SWITCH_MODE := by
  show (Function.update s.countersDb q (f (s.countersDb q)) q').BIG_RED_SWITCH_MODE = _
  by_cases hq : q' = q
  · rw [if_pos hq, hq, Function.update_self]
  · rw [if_neg hq, Function.update_of_ne hq]

theorem Core.disable (h : Core P pending stale conf s) :
    Core P pending stale conf s.disableBigRedSwitchMode where
  entry := h.entry
  recorded := h.recorded
  record := h.record
  switch_on hon := nomatch hon
  switch_off _ := rfl
  marked {q} hq := by
    have hmark : (s.m_brsEntryMap.lookup q).isSome = false ∧
        (s.countersDb q).BIG_RED_SWITCH_MODE ≠ none := by
      have hmarks := (sameButCounters_commit s s.m_brsEntryMap false).marks q
      change (if (s.m_brsEntryMap.lookup q).isSome then
        ((s.commitHandlers s.m_brsEntryMap false).countersDb q).setBigRedSwitch false
        else (s.commitHandlers s.m_brsEntryMap false).countersDb q).BIG_RED_SWITCH_MODE ≠ none at hq
      split at hq
      · exact absurd rfl hq
      · next hnone => exact ⟨Bool.eq_false_of_not_eq_true hnone, hmarks ▸ hq⟩
    obtain ⟨hon | hstale, port, i, hl⟩ := h.marked hmark.2
    · -- while the switch was on the queue had a handler there
      rw [h.switched hon hl] at hmark
      exact absurd hmark.1 (by decide)
    · exact ⟨Or.inr hstale, port, i, hl⟩
  switched hon := nomatch hon

/-- What the loops of `enableBigRedSwitchMode` keep of the state before. -/
structure Switching (P : PortsOrch) (s s' : St) : Prop where
  entryMap : s'.m_entryMap = s.m_entryMap
  applDb : s'.applDb = s.applDb
  flag : s'.m_bigRedSwitchFlag = s.m_bigRedSwitchFlag
  marks : ∀ q, (s'.countersDb q).BIG_RED_SWITCH_MODE ≠ none →
    (s.countersDb q).BIG_RED_SWITCH_MODE ≠ none ∨ ∃ port i, P.Lossless port i q

theorem Switching.refl : Switching P s s := ⟨rfl, rfl, rfl, fun _ => Or.inl⟩

theorem Switching.trans {s'' : St} (h : Switching P s s') (h' : Switching P s' s'') :
    Switching P s s'' :=
  ⟨h'.entryMap.trans h.entryMap, h'.applDb.trans h.applDb, h'.flag.trans h.flag,
    fun q hq => (h'.marks q hq).elim (h.marks q) Or.inr⟩

theorem SameButCounters.switching (h : SameButCounters s s') : Switching P s s' :=
  ⟨h.entryMap, h.applDb, h.flag, fun q hq => Or.inl (h.marks q ▸ hq)⟩

/-- The marking of a port, when every entry is that of a lossless queue. -/
theorem markPort_switching {port : Port} (hmem : port ∈ P.m_portList) (hphy : port.m_type = .PHY)
    (hentry : ∀ {q e}, s.m_entryMap.lookup q = some e → ∃ port, P.Lossless port e.index q) :
    Switching P s (St.markPort port port.m_pfc_bitmask s) := by
  unfold St.markPort
  refine List.foldlRecOn _ _ (motive := Switching P s) .refl ?_
  intro s' hs' i hi
  have hi := List.mem_range.mp hi
  split
  · exact hs'
  · next hmark =>
      refine hs'.trans ⟨rfl, rfl, rfl, fun q hq => ?_⟩
      rw [St.updateCounters_brs] at hq
      split at hq
      · next hqueue =>
          refine Or.inr ?_
          by_cases hbit : port.m_pfc_bitmask.testBit i = true
          · exact ⟨port, i, hqueue ▸ PortsOrch.lossless_queue hmem hphy hi hbit⟩
          · -- the mask does not have the class, but the queue has an entry
            have hsome : s'.m_entryMap.lookup (port.queue i) ≠ none :=
              fun hnone => hmark ⟨Bool.eq_false_of_not_eq_true hbit, hnone⟩
            obtain ⟨e, he⟩ := Option.ne_none_iff_exists'.mp hsome
            rw [hs'.entryMap] at he
            obtain ⟨port', hl⟩ := hentry he
            exact ⟨port', e.index, hqueue ▸ hl⟩
      · exact Or.inl hq

theorem emplace_isSome {t : Table sai_object_id_t PfcWdQueueEntry} {k k' : sai_object_id_t}
    {v : PfcWdQueueEntry} :
    ((emplace t k v).lookup k').isSome = ((t.lookup k').isSome || decide (k' = k)) := by
  unfold emplace
  by_cases hsome : (t.lookup k).isSome
  · rw [if_pos hsome]
    by_cases hk : k' = k
    · subst hk
      simp [hsome]
    · simp [hk]
  · rw [if_neg hsome, Table.lookup_insert_eq]
    by_cases hk : k' = k
    · simp [hk]
    · simp [hk]

theorem isSome_insert {t : Table sai_object_id_t PfcWdQueueEntry} {k k' : sai_object_id_t}
    {v : PfcWdQueueEntry} (hk' : (t.lookup k').isSome) : ((t.insert k v).lookup k').isSome := by
  rw [Table.lookup_insert_eq]
  split
  · rfl
  · exact hk'

/-- The handler of one queue: the queue has an entry then, and no entry is lost. -/
theorem brsQueue_switching (P : PortsOrch) (s : St) (port : Port) (i : ℕ) :
    Switching P s (s.brsQueue port i) ∧
      ((s.brsQueue port i).m_brsEntryMap.lookup (port.queue i)).isSome ∧
      ∀ q, (s.m_brsEntryMap.lookup q).isSome →
        ((s.brsQueue port i).m_brsEntryMap.lookup q).isSome := by
  have hkeep : ∀ q, (s.m_brsEntryMap.lookup q).isSome →
      ((emplace s.m_brsEntryMap (port.queue i)
        ⟨.PFC_WD_ACTION_DROP, port.m_port_id, i, port.m_alias, none⟩).lookup q).isSome := by
    intro q hq
    rw [emplace_isSome, hq, Bool.true_or]
  have hself : ((emplace s.m_brsEntryMap (port.queue i)
      ⟨.PFC_WD_ACTION_DROP, port.m_port_id, i, port.m_alias, none⟩).lookup
        (port.queue i)).isSome := by
    rw [emplace_isSome, decide_eq_true rfl, Bool.or_true]
  unfold St.brsQueue
  obtain ⟨entry, hlook⟩ := Option.isSome_iff_exists.mp hself
  simp only [hlook]
  split
  · refine ⟨⟨rfl, rfl, rfl, fun q hq => ?_⟩, isSome_insert hself, fun q hq =>
      isSome_insert (hkeep q hq)⟩
    rw [St.updateCounters_brs] at hq
    split at hq
    · next hqueue => exact Or.inl (hqueue ▸ hq)
    · exact Or.inl hq
  · exact ⟨⟨rfl, rfl, rfl, fun _ => Or.inl⟩, hself, hkeep⟩

theorem brsPort_switching (P : PortsOrch) (s : St) (port : Port) (pfcMask : ℕ) :
    (Switching P s (St.brsPort port pfcMask s) ∧
      ∀ q, (s.m_brsEntryMap.lookup q).isSome →
        ((St.brsPort port pfcMask s).m_brsEntryMap.lookup q).isSome) ∧
      ∀ i, i < PFC_WD_TC_MAX → pfcMask.testBit i = true →
        ((St.brsPort port pfcMask s).m_brsEntryMap.lookup (port.queue i)).isSome := by
  have hvisits := List.foldl_visits
    (l := (List.range PFC_WD_TC_MAX).filter pfcMask.testBit) (f := St.brsQueue port) (s := s)
    (I := fun s' => Switching P s s' ∧ ∀ q, (s.m_brsEntryMap.lookup q).isSome →
      (s'.m_brsEntryMap.lookup q).isSome)
    (Q := fun i s' => (s'.m_brsEntryMap.lookup (port.queue i)).isSome) ⟨.refl, fun _ => id⟩
    (fun {s' i} _ hs' => by
      obtain ⟨hsw, hself, hkeep⟩ := brsQueue_switching P s' port i
      exact ⟨⟨hs'.1.trans hsw, fun q hq => hkeep q (hs'.2 q hq)⟩, hself⟩)
    (fun {s' i j} _ _ hj => (brsQueue_switching P s' port i).2.2 _ hj)
  refine ⟨hvisits.1, fun i hi hbit => hvisits.2 i ?_⟩
  exact List.mem_filter.mpr ⟨List.mem_range.mpr hi, hbit⟩

/-- With the switch on, the entries are those before, every lossless queue has a handler of the
switch, and only lossless queues are marked. -/
structure SwitchedOn (P : PortsOrch) (s s' : St) : Prop where
  entries : ∀ q, s'.m_entryMap.lookup q = s.m_entryMap.lookup q
  applDb : s'.applDb = s.applDb
  flag : s'.m_bigRedSwitchFlag = true
  marks : ∀ q, (s'.countersDb q).BIG_RED_SWITCH_MODE ≠ none →
    (s.countersDb q).BIG_RED_SWITCH_MODE ≠ none ∨ ∃ port i, P.Lossless port i q
  switched : ∀ {port i q}, P.Lossless port i q → (s'.m_brsEntryMap.lookup q).isSome

/-- Clearing the handlers changes nothing when there are none. -/
theorem lookup_clearHandlers (hcalm : Calm s) (q : sai_object_id_t) :
    (s.m_entryMap.map fun _ entry => { entry with handler := none }).lookup q =
      s.m_entryMap.lookup q := by
  rw [Table.lookup_map]
  cases he : s.m_entryMap.lookup q with
  | none => rfl
  | some e =>
    have hnone := hcalm q e he
    cases e
    cases hnone
    rfl

theorem enable_switchedOn (hcalm : Calm s)
    (hentry : ∀ {q e}, s.m_entryMap.lookup q = some e → ∃ port, P.Lossless port e.index q) :
    SwitchedOn P s (s.enableBigRedSwitchMode P) := by
  unfold St.enableBigRedSwitchMode
  rw [PortsOrch.forPorts_eq fun _ h => h]
  -- first every lossless queue is marked
  generalize hs₁ : ((P.m_portList.filter (·.m_type = .PHY)).foldl
    (fun s port => St.markPort port port.m_pfc_bitmask s)
      { s with m_bigRedSwitchFlag := true }) = s₁
  have hmark : Switching P { s with m_bigRedSwitchFlag := true } s₁ := by
    rw [← hs₁]
    refine List.foldlRecOn _ _
      (motive := Switching P { s with m_bigRedSwitchFlag := true }) .refl ?_
    intro s' hs' port hport
    obtain ⟨hmem, hphy⟩ := List.mem_filter.mp hport
    refine hs'.trans (markPort_switching hmem (by simpa using hphy) ?_)
    intro q e he
    rw [hs'.entryMap] at he
    exact hentry he
  have hcommit := (sameButCounters_commit s₁ s₁.m_entryMap false).switching (P := P)
  have hcalm₁ : Calm (s₁.commitHandlers s₁.m_entryMap false) := by
    intro q e he
    rw [hcommit.entryMap, hmark.entryMap] at he
    exact hcalm q e he
  simp only [if_true]
  rw [PortsOrch.forPorts_eq fun _ h => h]
  -- then the handlers are cleared, and every lossless queue is given one of the switch
  generalize hs₂ : (⟨(s₁.commitHandlers s₁.m_entryMap false).m_entryMap.map fun _ entry =>
    { entry with handler := none }, (s₁.commitHandlers s₁.m_entryMap false).m_brsEntryMap,
    (s₁.commitHandlers s₁.m_entryMap false).m_bigRedSwitchFlag,
    (s₁.commitHandlers s₁.m_entryMap false).countersDb,
    (s₁.commitHandlers s₁.m_entryMap false).applDb⟩ : St) = s₂
  have hclear : ∀ q, s₂.m_entryMap.lookup q = s.m_entryMap.lookup q := by
    intro q
    rw [← hs₂]
    refine (lookup_clearHandlers hcalm₁ q).trans ?_
    rw [hcommit.entryMap, hmark.entryMap]
  have hvisits := List.foldl_visits (l := P.m_portList.filter (·.m_type = .PHY))
    (f := fun s port => St.brsPort port port.m_pfc_bitmask s) (s := s₂)
    (I := Switching P s₂)
    (Q := fun port s' => ∀ i, i < PFC_WD_TC_MAX → port.m_pfc_bitmask.testBit i = true →
      (s'.m_brsEntryMap.lookup (port.queue i)).isSome) .refl
    (fun {s' port} _ hs' =>
      ⟨hs'.trans (brsPort_switching P s' port port.m_pfc_bitmask).1.1,
        (brsPort_switching P s' port port.m_pfc_bitmask).2⟩)
    (fun {s' port port'} _ _ hport' i hi hbit =>
      (brsPort_switching P s' port port.m_pfc_bitmask).1.2 _ (hport' i hi hbit))
  obtain ⟨hbrs, hqueues⟩ := hvisits
  refine ⟨fun q => ?_, ?_, ?_, fun q hq => ?_, fun {port i q} hl => ?_⟩
  · rw [hbrs.entryMap]
    exact hclear q
  · rw [hbrs.applDb, ← hs₂]
    exact hcommit.applDb.trans hmark.applDb
  · rw [hbrs.flag, ← hs₂]
    exact hcommit.flag.trans hmark.flag
  · refine (hbrs.marks q hq).elim (fun hq => ?_) Or.inr
    rw [← hs₂] at hq
    exact (hcommit.marks q hq).elim (fun hq => hmark.marks q hq) Or.inr
  · have hmem : port ∈ P.m_portList.filter (·.m_type = .PHY) :=
      List.mem_filter.mpr ⟨hl.mem, by simpa using hl.phy⟩
    rw [← hl.queue_eq]
    exact hqueues port hmem i hl.lt hl.bit

theorem Core.switchedOn (h : Core P pending stale conf s) (hcalm : Calm s)
    (hs : SwitchedOn P s s') : Core P pending stale conf s' where
  entry he := h.entry (hs.entries _ ▸ he)
  recorded he hne := absurd (hcalm _ _ (hs.entries _ ▸ he)) hne
  record {k v} hk := by
    rw [hs.applDb] at hk
    obtain ⟨hv, hpending | ⟨q, e, he, hne, hkey⟩⟩ := h.record hk
    · exact ⟨hv, Or.inl hpending⟩
    · exact absurd (hcalm q e he) hne
  switch_on _ {q e} he := hcalm q e (hs.entries q ▸ he)
  switch_off hoff := by
    rw [hs.flag] at hoff
    cases hoff
  marked {q} hq :=
    ⟨Or.inl hs.flag, (hs.marks q hq).elim (fun hq => (h.marked hq).2) id⟩
  switched _ := hs.switched

/-- The global fields, if no queue is stormed when the switch is set. -/
theorem Core.setGlobalField (h : Core P pending stale conf s) (fv : FieldValueTuple)
    (hcalm : fv = (BIG_RED_SWITCH_FIELD, "enable") → Calm s) :
    Core P pending stale conf (s.setGlobalField P fv) ∧
      ∀ q, (s.setGlobalField P fv).m_entryMap.lookup q = s.m_entryMap.lookup q := by
  unfold St.setGlobalField
  split
  · exact ⟨h, fun _ => rfl⟩
  · split
    · next hfield =>
        unfold St.setBigRedSwitchMode
        split
        · next hvalue =>
            have hcalm := hcalm (Prod.ext hfield hvalue)
            have hon : SwitchedOn P s (s.enableBigRedSwitchMode P) :=
              enable_switchedOn hcalm fun he => by
                obtain ⟨port, _, hl, _⟩ := h.entry he
                exact ⟨port, hl⟩
            exact ⟨h.switchedOn hcalm hon, hon.entries⟩
        · split
          · exact ⟨h.disable, fun _ => rfl⟩
          · exact ⟨h, fun _ => rfl⟩
    · exact ⟨h, fun _ => rfl⟩

theorem setGlobal_keeps {data : List FieldValueTuple} (h : Core P pending stale conf s)
    (hcalm : (BIG_RED_SWITCH_FIELD, "enable") ∈ data → Calm s) :
    Core P pending stale conf (data.foldl (St.setGlobalField P) s) ∧
      ∀ q, (data.foldl (St.setGlobalField P) s).m_entryMap.lookup q = s.m_entryMap.lookup q := by
  refine data.foldlRecOn (St.setGlobalField P) (motive := fun s' =>
    Core P pending stale conf s' ∧ ∀ q, s'.m_entryMap.lookup q = s.m_entryMap.lookup q)
    ⟨h, fun _ => rfl⟩ ?_
  rintro s' ⟨h', hsame⟩ fv hfv
  obtain ⟨hcore, hlook⟩ := h'.setGlobalField fv fun heq q e he => by
    rw [hsame] at he
    exact hcalm (heq ▸ hfv) q e he
  exact ⟨hcore, fun q => (hlook q).trans (hsame q)⟩

/-! ### Configuration -/

theorem lookup_emplace {t : Table sai_object_id_t PfcWdQueueEntry} {k k' : sai_object_id_t}
    {v : PfcWdQueueEntry} :
    (emplace t k v).lookup k' =
      if k' = k ∧ t.lookup k = none then some v else t.lookup k' := by
  unfold emplace
  cases hk : t.lookup k with
  | some e => simp
  | none => simp [Table.lookup_insert_eq]

/-- A queue is registered: it has an entry then, and the entries before are as they were. -/
theorem lookup_registerQueue {port : Port} {c : PfcWdConf} {i : ℕ} (q' : sai_object_id_t) :
    (s.registerQueue port c i).m_entryMap.lookup q' =
      if q' = port.queue i ∧ s.m_entryMap.lookup (port.queue i) = none then
        some ⟨c.action, port.m_port_id, i, port.m_alias, none⟩
      else s.m_entryMap.lookup q' :=
  lookup_emplace

/-- No entry is lost or changed. -/
def Extends (s s' : St) : Prop :=
  ∀ q e, s.m_entryMap.lookup q = some e → s'.m_entryMap.lookup q = some e

theorem extends_registerQueue {port : Port} {c : PfcWdConf} {i : ℕ} :
    Extends s (s.registerQueue port c i) := by
  intro q e he
  rw [lookup_registerQueue, if_neg, he]
  rintro ⟨rfl, hnone⟩
  rw [he] at hnone
  cases hnone

theorem Core.registerQueue (h : Core P pending stale conf s) {port : Port} {c : PfcWdConf} {i : ℕ}
    (hl : P.Lossless port i (port.queue i)) (hconf : conf port.m_alias = some c) :
    Core P pending stale conf (s.registerQueue port c i) := by
  -- an entry that was not there has no handler
  have hold : ∀ {q e}, (s.registerQueue port c i).m_entryMap.lookup q = some e →
      (q = port.queue i ∧ e = ⟨c.action, port.m_port_id, i, port.m_alias, none⟩) ∨
        s.m_entryMap.lookup q = some e := by
    intro q e he
    rw [lookup_registerQueue] at he
    split at he
    · next hq => exact Or.inl ⟨hq.1, (Option.some.inj he).symm⟩
    · exact Or.inr he
  have hmarks := (sameButCounters_update (s := s) (q := port.queue i)
    (f := (·.register c)) fun _ => rfl).marks
  refine ⟨fun {q e} he => ?_, fun {q e} he hne => ?_, fun {k v} hk => ?_,
    fun hon {q e} he => ?_, h.switch_off, fun {q} hq => ?_, h.switched⟩
  · rcases hold he with ⟨rfl, rfl⟩ | he
    · exact ⟨port, c, hl, rfl, hconf, rfl⟩
    · exact h.entry he
  · rcases hold he with ⟨rfl, rfl⟩ | he
    · exact absurd rfl hne
    · exact h.recorded he hne
  · obtain ⟨hv, hpending | ⟨q, e, he, hne, hkey⟩⟩ := h.record hk
    · exact ⟨hv, Or.inl hpending⟩
    · exact ⟨hv, Or.inr ⟨q, e, extends_registerQueue q e he, hne, hkey⟩⟩
  · rcases hold he with ⟨rfl, rfl⟩ | he
    · rfl
    · exact h.switch_on hon he
  · rw [show ((s.registerQueue port c i).countersDb q).BIG_RED_SWITCH_MODE =
      (s.countersDb q).BIG_RED_SWITCH_MODE from hmarks q] at hq
    exact h.marked hq

/-- A new configuration of a port is that of its entries. -/
theorem Core.configure (h : Core P pending stale conf s) {key : String} {c : PfcWdConf}
    (haction : ∀ {port q e}, P.Lossless port e.index q → port.m_alias = key →
      s.m_entryMap.lookup q = some e → e.action = c.action) :
    Core P pending stale (Function.update conf key (some c)) s := by
  refine ⟨fun {q e} he => ?_, h.recorded, h.record, h.switch_on, h.switch_off, h.marked, h.switched⟩
  obtain ⟨port, c', hl, halias, hconf, hact⟩ := h.entry he
  by_cases hkey : port.m_alias = key
  · exact ⟨port, c, hl, halias, by rw [hkey, Function.update_self], haction hl hkey he⟩
  · exact ⟨port, c', hl, halias, by rw [Function.update_of_ne hkey, hconf], hact⟩

/-- What a SET asks for. -/
def asked (P : PortsOrch) (key : String) (data : List FieldValueTuple) : Option PfcWdConf :=
  if key = PFC_WD_GLOBAL then none
  else (P.getPort key).bind fun port =>
    if port.m_type = .PHY then PfcWdConf.parse data else none

/-- The configuration after a SET. -/
def confSet (P : PortsOrch) (conf : String → Option PfcWdConf)
    (task : String × List FieldValueTuple) : String → Option PfcWdConf :=
  match asked P task.1 task.2 with
  | none => conf
  | some c => Function.update conf task.1 (some c)

theorem confSet_none {task : String × List FieldValueTuple} (h : asked P task.1 task.2 = none) :
    confSet P conf task = conf := by
  unfold confSet
  rw [h]

theorem confSet_some {task : String × List FieldValueTuple} {c : PfcWdConf}
    (h : asked P task.1 task.2 = some c) :
    confSet P conf task = Function.update conf task.1 (some c) := by
  unfold confSet
  rw [h]

/-- A SET of a port registers its lossless queues; any other leaves the entries. -/
theorem registerInWdDb_keeps (h : Core P pending stale conf s) (hc : Covered P conf s) {port : Port}
    {c : PfcWdConf} (hmem : port ∈ P.m_portList) (hphy : port.m_type = .PHY)
    (haction : ∀ {i q e}, P.Lossless port i q → s.m_entryMap.lookup q = some e →
      e.action = c.action) :
    (Core P pending stale (Function.update conf port.m_alias (some c))
        (s.registerInWdDb P port c).1 ∧ Extends s (s.registerInWdDb P port c).1) ∧
      Covered P (Function.update conf port.m_alias (some c)) (s.registerInWdDb P port c).1 := by
  have hconf : Core P pending stale (Function.update conf port.m_alias (some c)) s :=
    h.configure fun {port' q e} hl hname he => by
      obtain rfl := P.alias_inj port' hl.mem port hmem hname
      exact haction hl he
  -- the queues of other ports have their entries already
  have hcover : ∀ {s'}, Extends s s' →
      (∀ i, i < PFC_WD_TC_MAX → port.m_pfc_bitmask.testBit i = true →
        (s'.m_entryMap.lookup (port.queue i)).isSome) →
      Covered P (Function.update conf port.m_alias (some c)) s' := by
    intro s' hext hqueues port' i q c' hl hc'
    by_cases hname : port'.m_alias = port.m_alias
    · obtain rfl := P.alias_inj port' hl.mem port hmem hname
      rw [← hl.queue_eq]
      exact hqueues i hl.lt hl.bit
    · rw [Function.update_of_ne hname] at hc'
      obtain ⟨e, he⟩ := Option.isSome_iff_exists.mp (hc hl hc')
      rw [hext q e he]
      rfl
  unfold St.registerInWdDb
  rw [PortsOrch.getPortPfc_eq hmem hphy]
  dsimp only
  split
  · next hempty =>
      refine ⟨⟨hconf, fun _ _ => id⟩, hcover (fun _ _ => id) fun i hi hbit => ?_⟩
      have hi : i ∈ (List.range PFC_WD_TC_MAX).filter port.m_pfc_bitmask.testBit :=
        List.mem_filter.mpr ⟨List.mem_range.mpr hi, hbit⟩
      rw [hempty] at hi
      cases hi
  · have hvisits := List.foldl_visits
      (l := (List.range PFC_WD_TC_MAX).filter port.m_pfc_bitmask.testBit)
      (f := St.registerQueue port c) (s := s)
      (I := fun s' => Core P pending stale (Function.update conf port.m_alias (some c)) s' ∧
        Extends s s')
      (Q := fun i s' => (s'.m_entryMap.lookup (port.queue i)).isSome)
      ⟨hconf, fun _ _ => id⟩
      (fun {s' i} hi hs' => by
        obtain ⟨hrange, hbit⟩ := List.mem_filter.mp hi
        have hl := PortsOrch.lossless_queue hmem hphy (List.mem_range.mp hrange) hbit
        refine ⟨⟨hs'.1.registerQueue hl (Function.update_self ..), fun q e he =>
          extends_registerQueue q e (hs'.2 q e he)⟩, ?_⟩
        rw [lookup_registerQueue]
        split
        · rfl
        · next hne =>
            exact Option.isSome_iff_ne_none.mpr fun hnone => hne ⟨rfl, hnone⟩)
      (fun {s' i j} _ _ hj => by
        obtain ⟨e, he⟩ := Option.isSome_iff_exists.mp hj
        rw [extends_registerQueue _ e he]
        rfl)
    refine ⟨hvisits.1, hcover hvisits.1.2 fun i hi hbit => hvisits.2 i ?_⟩
    exact List.mem_filter.mpr ⟨List.mem_range.mpr hi, hbit⟩

/-- What makes a SET safe: the switch is not set while a queue is stormed, and a port that is
configured again keeps its action. -/
def SafeSet (P : PortsOrch) (s : St) (key : String) (data : List FieldValueTuple) : Prop :=
  (key = PFC_WD_GLOBAL → (BIG_RED_SWITCH_FIELD, "enable") ∈ data → Calm s) ∧
  ∀ port c, P.getPort key = some port → PfcWdConf.parse data = some c →
    ∀ i q e, P.Lossless port i q → s.m_entryMap.lookup q = some e → e.action = c.action

theorem createEntry_keeps (h : Core P pending stale conf s) (hc : Covered P conf s) {key : String}
    {data : List FieldValueTuple} (hsafe : SafeSet P s key data) :
    Core P pending stale (confSet P conf (key, data)) (s.createEntry P key data).1 ∧
      Covered P (confSet P conf (key, data)) (s.createEntry P key data).1 := by
  unfold confSet asked St.createEntry
  dsimp only
  by_cases hglobal : key = PFC_WD_GLOBAL
  · rw [if_pos hglobal, if_pos hglobal]
    obtain ⟨hcore, hlook⟩ := setGlobal_keeps h (hsafe.1 hglobal)
    exact ⟨hcore, hc.congr fun q hq => by rw [hlook]; exact hq⟩
  · rw [if_neg hglobal, if_neg hglobal]
    cases hport : P.getPort key with
    | none => exact ⟨h, hc⟩
    | some port =>
      obtain ⟨hmem, rfl⟩ := PortsOrch.getPort_eq_some.mp hport
      dsimp only [Option.bind_some]
      by_cases hphy : port.m_type = .PHY
      · rw [if_pos hphy, if_neg (not_not.mpr hphy)]
        cases hparse : PfcWdConf.parse data with
        | none => exact ⟨h, hc⟩
        | some c =>
          obtain ⟨⟨hcore, _⟩, hcovered⟩ := registerInWdDb_keeps h hc hmem hphy
            (hsafe.2 port c hport hparse _ _ _)
          exact ⟨hcore, hcovered⟩
      · rw [if_neg hphy, if_pos hphy]
        exact ⟨h, hc⟩

/-- A queue of a port is unregistered. -/
def St.dropQueue (port : Port) (s : St) (i : ℕ) : St :=
  let s :=
    if (s.m_entryMap.lookup (port.queue i)).any (·.handler.isSome) then
      s.updateCounters (port.queue i) (·.commitCounters false)
    else s
  { s with m_entryMap := s.m_entryMap.erase (port.queue i) }.updateCounters (port.queue i)
    (·.unregister)

/-- A physical port has all the queues that are read. -/
theorem unregisterFromWdDb_eq {port : Port} (hmem : port ∈ P.m_portList)
    (hphy : port.m_type = .PHY) :
    s.unregisterFromWdDb port = some ((List.range PFC_WD_TC_MAX).foldl (St.dropQueue port) s) := by
  unfold St.unregisterFromWdDb
  have hall : ∀ i ∈ List.range PFC_WD_TC_MAX, i < PFC_WD_TC_MAX := fun i => List.mem_range.mp
  generalize List.range PFC_WD_TC_MAX = is at hall
  induction is generalizing s with
  | nil => rfl
  | cons i is ih =>
    have hstep : St.unregisterQueue port s i = some (s.dropQueue port i) := by
      unfold St.unregisterQueue
      rw [PortsOrch.getElem?_queue hmem hphy (hall i List.mem_cons_self)]
      rfl
    rw [List.foldlM_cons, hstep, List.foldl_cons]
    exact ih fun j hj => hall j (List.mem_cons_of_mem i hj)

/-- Without a queue to read there is no state. -/
theorem deleteEntry_unknown {name : String} (h : P.getPort name = none) :
    s.deleteEntry P name = none := by
  unfold St.deleteEntry
  rw [h]
  rfl

theorem lookup_dropQueue {port : Port} {i : ℕ} (q' : sai_object_id_t) :
    (s.dropQueue port i).m_entryMap.lookup q' =
      if q' = port.queue i then none else s.m_entryMap.lookup q' := by
  unfold St.dropQueue
  split
  · exact Table.lookup_erase_eq
  · exact Table.lookup_erase_eq

theorem Core.dropQueue (h : Core P pending stale conf s) {port : Port} {i : ℕ}
    (hcalm : ∀ e, s.m_entryMap.lookup (port.queue i) = some e → e.handler = none) :
    Core P pending stale conf (s.dropQueue port i) := by
  have hold : ∀ {q e}, (s.dropQueue port i).m_entryMap.lookup q = some e →
      q ≠ port.queue i ∧ s.m_entryMap.lookup q = some e := by
    intro q e he
    rw [lookup_dropQueue] at he
    split at he
    · cases he
    · next hq => exact ⟨hq, he⟩
  have happl : (s.dropQueue port i).applDb = s.applDb := by unfold St.dropQueue; split <;> rfl
  have hflag : (s.dropQueue port i).m_bigRedSwitchFlag = s.m_bigRedSwitchFlag := by
    unfold St.dropQueue; split <;> rfl
  have hbrs : (s.dropQueue port i).m_brsEntryMap = s.m_brsEntryMap := by
    unfold St.dropQueue; split <;> rfl
  have hmarks : ∀ q, ((s.dropQueue port i).countersDb q).BIG_RED_SWITCH_MODE =
      (s.countersDb q).BIG_RED_SWITCH_MODE := by
    intro q
    unfold St.dropQueue
    split
    · refine ((sameButCounters_update (f := (·.unregister)) fun _ => rfl).marks q).trans ?_
      exact (sameButCounters_update (f := (·.commitCounters false)) fun _ => rfl).marks q
    · exact (sameButCounters_update (f := (·.unregister)) fun _ => rfl).marks q
  refine ⟨fun he => h.entry (hold he).2, fun he hne => ?_, fun {k v} hk => ?_, fun hon {q e} he => ?_,
    ?_, fun {q} hq => ?_, ?_⟩
  · rw [happl]
    exact h.recorded (hold he).2 hne
  · rw [happl] at hk
    obtain ⟨hv, hpending | ⟨q, e, he, hne, hkey⟩⟩ := h.record hk
    · exact ⟨hv, Or.inl hpending⟩
    · -- the queue that is dropped is not stormed
      have hq : q ≠ port.queue i := by
        rintro rfl
        exact hne (hcalm e he)
      refine ⟨hv, Or.inr ⟨q, e, ?_, hne, hkey⟩⟩
      rw [lookup_dropQueue, if_neg hq, he]
  · exact h.switch_on (hflag ▸ hon) (hold he).2
  · rw [hflag, hbrs]
    exact h.switch_off
  · rw [hmarks] at hq
    rw [hflag]
    exact h.marked hq
  · rw [hflag, hbrs]
    exact h.switched

/-- A DEL of a physical port without a storm. -/
theorem deleteEntry_keeps (h : Core P pending stale conf s) (hc : Covered P conf s) {port : Port}
    (hport : P.getPort port.m_alias = some port) (hphy : port.m_type = .PHY)
    (hcalm : ∀ i q e, i < PFC_WD_TC_MAX → port.m_queue_ids[i]? = some q →
      s.m_entryMap.lookup q = some e → e.handler = none) :
    ∃ s', s.deleteEntry P port.m_alias = some s' ∧
      Core P pending stale (Function.update conf port.m_alias none) s' ∧
      Covered P (Function.update conf port.m_alias none) s' := by
  obtain ⟨hmem, _⟩ := PortsOrch.getPort_eq_some.mp hport
  have hdel : s.deleteEntry P port.m_alias =
      some ((List.range PFC_WD_TC_MAX).foldl (St.dropQueue port) s) := by
    unfold St.deleteEntry
    rw [hport]
    exact unregisterFromWdDb_eq hmem hphy
  have hvisits := List.foldl_visits (l := List.range PFC_WD_TC_MAX) (f := St.dropQueue port) (s := s)
    (I := fun s' => Core P pending stale conf s' ∧
      ∀ q e, s'.m_entryMap.lookup q = some e → s.m_entryMap.lookup q = some e)
    (Q := fun i s' => s'.m_entryMap.lookup (port.queue i) = none) ⟨h, fun _ _ => id⟩
    (fun {s' i} hi hs' => by
      have hi := List.mem_range.mp hi
      have hqueue := PortsOrch.getElem?_queue hmem hphy hi
      refine ⟨⟨hs'.1.dropQueue fun e he => hcalm i _ e hi hqueue (hs'.2 _ e he), ?_⟩, ?_⟩
      · intro q e he
        rw [lookup_dropQueue] at he
        split at he
        · cases he
        · exact hs'.2 q e he
      · rw [lookup_dropQueue, if_pos rfl])
    (fun {s' i j} _ _ hj => by
      rw [lookup_dropQueue]
      split
      · rfl
      · exact hj)
  -- a queue that is not one of the port keeps its entry
  have hkept : ∀ is : List ℕ, (∀ i ∈ is, i < PFC_WD_TC_MAX) → ∀ s₀ q,
      (∀ i, i < PFC_WD_TC_MAX → q ≠ port.queue i) →
      (is.foldl (St.dropQueue port) s₀).m_entryMap.lookup q = s₀.m_entryMap.lookup q := by
    intro is
    induction is with
    | nil => exact fun _ _ _ _ => rfl
    | cons i is ih =>
      intro his s₀ q hq
      rw [List.foldl_cons, ih (fun j hj => his j (List.mem_cons_of_mem i hj)) _ q hq,
        lookup_dropQueue, if_neg (hq i (his i List.mem_cons_self))]
  refine ⟨_, hdel, ?_, ?_⟩
  · obtain ⟨⟨hcore, _⟩, hqueues⟩ := hvisits
    refine ⟨fun {q e} he => ?_, hcore.recorded, hcore.record, hcore.switch_on, hcore.switch_off,
      hcore.marked, hcore.switched⟩
    obtain ⟨port', c, hl, halias, hconf, haction⟩ := hcore.entry he
    have hname : port'.m_alias ≠ port.m_alias := by
      intro hname
      obtain rfl := P.alias_inj port' hl.mem port hmem hname
      have hnone := hqueues e.index (List.mem_range.mpr hl.lt)
      rw [hl.queue_eq, he] at hnone
      cases hnone
    exact ⟨port', c, hl, halias, by rw [Function.update_of_ne hname, hconf], haction⟩
  · intro port' i q c hl hconf
    have hname : port'.m_alias ≠ port.m_alias := by
      intro hname
      rw [hname, Function.update_self] at hconf
      cases hconf
    rw [Function.update_of_ne hname] at hconf
    rw [hkept _ (fun i => List.mem_range.mp) s q ?_]
    · exact hc hl hconf
    · rintro j hj rfl
      have hqueue := PortsOrch.getElem?_queue hmem hphy hj
      obtain ⟨rfl, _⟩ := P.queues_inj port' hl.mem port hmem i j _ hl.queue hqueue
      exact hname rfl

/-! ### Warm restart -/

/-- The switch after a field of the entry for all ports. -/
def switchField (on : Bool) (fv : FieldValueTuple) : Bool :=
  if fv.1 = BIG_RED_SWITCH_FIELD then
    if fv.2 = "enable" then true else if fv.2 = "disable" then false else on
  else on

/-- The switch after a SET. -/
def switchTask (on : Bool) (task : String × List FieldValueTuple) : Bool :=
  if task.1 = PFC_WD_GLOBAL then task.2.foldl switchField on else on

/-- While no queue is stormed, a SET leaves the records and makes no storm. -/
structure Quiet (on : Bool) (s s' : St) : Prop where
  calm : Calm s'
  applDb : s'.applDb = s.applDb
  flag : s'.m_bigRedSwitchFlag = on

theorem setGlobalField_quiet (h : Core P pending stale conf s) (hcalm : Calm s)
    (fv : FieldValueTuple) :
    Quiet (switchField s.m_bigRedSwitchFlag fv) s (s.setGlobalField P fv) := by
  unfold St.setGlobalField switchField
  by_cases hpoll : fv.1 = POLL_INTERVAL_FIELD
  · rw [if_pos hpoll, hpoll, if_neg (by decide)]
    exact ⟨hcalm, rfl, rfl⟩
  rw [if_neg hpoll]
  by_cases hfield : fv.1 = BIG_RED_SWITCH_FIELD
  · rw [if_pos hfield, if_pos hfield]
    unfold St.setBigRedSwitchMode
    split
    · have hon : SwitchedOn P s (s.enableBigRedSwitchMode P) := enable_switchedOn hcalm fun he => by
        obtain ⟨port, _, hl, _⟩ := h.entry he
        exact ⟨port, hl⟩
      refine ⟨fun q e he => ?_, hon.applDb, hon.flag⟩
      rw [hon.entries] at he
      exact hcalm q e he
    · split
      · exact ⟨hcalm, rfl, rfl⟩
      · exact ⟨hcalm, rfl, rfl⟩
  · rw [if_neg hfield, if_neg hfield]
    exact ⟨hcalm, rfl, rfl⟩

theorem setGlobal_quiet {data : List FieldValueTuple} (h : Core P pending stale conf s)
    (hcalm : Calm s) :
    Quiet (data.foldl switchField s.m_bigRedSwitchFlag) s (data.foldl (St.setGlobalField P) s) := by
  induction data generalizing s with
  | nil => exact ⟨hcalm, rfl, rfl⟩
  | cons fv data ih =>
    have hfirst := setGlobalField_quiet h hcalm fv
    obtain ⟨hcore, _⟩ := h.setGlobalField fv fun _ => hcalm
    have hrest := ih hcore hfirst.calm
    rw [hfirst.flag] at hrest
    exact ⟨hrest.calm, hrest.applDb.trans hfirst.applDb, hrest.flag⟩

theorem registerInWdDb_quiet (hcalm : Calm s) {port : Port} {c : PfcWdConf} :
    Quiet s.m_bigRedSwitchFlag s (s.registerInWdDb P port c).1 := by
  unfold St.registerInWdDb
  split
  · exact ⟨hcalm, rfl, rfl⟩
  · dsimp only
    split
    · exact ⟨hcalm, rfl, rfl⟩
    · refine List.foldlRecOn _ _ (motive := Quiet s.m_bigRedSwitchFlag s) ⟨hcalm, rfl, rfl⟩ ?_
      intro s' hs' i _
      refine ⟨fun q e he => ?_, hs'.applDb, hs'.flag⟩
      rw [lookup_registerQueue] at he
      split at he
      · cases he
        rfl
      · exact hs'.calm q e he

theorem createEntry_quiet (h : Core P pending stale conf s) (hcalm : Calm s) (key : String)
    (data : List FieldValueTuple) :
    Quiet (switchTask s.m_bigRedSwitchFlag (key, data)) s (s.createEntry P key data).1 := by
  unfold St.createEntry switchTask
  dsimp only
  split
  · exact setGlobal_quiet h hcalm
  · split
    · exact ⟨hcalm, rfl, rfl⟩
    · split
      · exact ⟨hcalm, rfl, rfl⟩
      · split
        · exact ⟨hcalm, rfl, rfl⟩
        · exact registerInWdDb_quiet hcalm

/-- The tasks of a warm restart configure no port with two actions. -/
def OneAction (cfg : List (String × List FieldValueTuple)) : Prop :=
  ∀ t ∈ cfg, ∀ t' ∈ cfg, t.1 = t'.1 → t.1 ≠ PFC_WD_GLOBAL → ∀ c c',
    PfcWdConf.parse t.2 = some c → PfcWdConf.parse t'.2 = some c' → c.action = c'.action

theorem asked_eq_some {key : String} {data : List FieldValueTuple} {c : PfcWdConf}
    (h : asked P key data = some c) : key ≠ PFC_WD_GLOBAL ∧ PfcWdConf.parse data = some c := by
  unfold asked at h
  split at h
  · cases h
  · next hkey =>
      obtain ⟨port, _, hport⟩ := Option.bind_eq_some_iff.mp h
      split at hport
      · exact ⟨hkey, hport⟩
      · cases hport

/-- The configuration of a new orch. -/
theorem configure_run {cfg tasks : List (String × List FieldValueTuple)} (hone : OneAction tasks)
    (htasks : ∀ t ∈ cfg, t ∈ tasks) (h : Core P pending stale conf s) (hc : Covered P conf s)
    (hcalm : Calm s)
    (hconf : ∀ key c, conf key = some c → ∃ t ∈ tasks, t.1 = key ∧ key ≠ PFC_WD_GLOBAL ∧
      PfcWdConf.parse t.2 = some c) :
    let s' := cfg.foldl (fun s task => (s.createEntry P task.1 task.2).1) s
    Core P pending stale (cfg.foldl (confSet P) conf) s' ∧
      Covered P (cfg.foldl (confSet P) conf) s' ∧
      Quiet (cfg.foldl switchTask s.m_bigRedSwitchFlag) s s' := by
  induction cfg generalizing s conf with
  | nil => exact ⟨h, hc, hcalm, rfl, rfl⟩
  | cons task cfg ih =>
    obtain ⟨key, data⟩ := task
    have hmem : (key, data) ∈ tasks := htasks _ List.mem_cons_self
    have hsafe : SafeSet P s key data := by
      refine ⟨fun _ _ => hcalm, fun port c hport hparse i q e hl he => ?_⟩
      obtain ⟨port', c', hl', _, hconf', haction⟩ := h.entry he
      obtain ⟨rfl, _⟩ := hl.unique hl'
      obtain ⟨t, ht, hname, hne, hparse'⟩ := hconf _ _ hconf'
      have halias := (PortsOrch.getPort_eq_some.mp hport).2
      rw [haction]
      exact hone t ht _ hmem (hname.trans halias) (hname ▸ hne) c' c hparse' hparse
    obtain ⟨hcore, hcovered⟩ := createEntry_keeps h hc hsafe
    have hfirst := createEntry_quiet h hcalm key data
    have hrest := ih (fun t ht => htasks t (List.mem_cons_of_mem _ ht)) hcore hcovered
      hfirst.calm (fun key' c hkey' => by
        cases hasked : asked P key data with
        | none =>
          rw [confSet_none hasked] at hkey'
          exact hconf key' c hkey'
        | some c₀ =>
          rw [confSet_some hasked] at hkey'
          obtain ⟨hne, hparse⟩ := asked_eq_some hasked
          by_cases hk : key' = key
          · subst hk
            rw [Function.update_self] at hkey'
            exact ⟨_, hmem, rfl, hne, hparse.trans hkey'⟩
          · rw [Function.update_of_ne hk] at hkey'
            exact hconf key' c hkey')
    obtain ⟨hcore', hcovered', hquiet⟩ := hrest
    rw [hfirst.flag] at hquiet
    exact ⟨hcore', hcovered', hquiet.calm, hquiet.applDb.trans hfirst.applDb, hquiet.flag⟩

/-- A port stays configured. -/
theorem confSet_isSome {task : String × List FieldValueTuple} {key : String}
    (h : (conf key).isSome) : (confSet P conf task key).isSome := by
  cases hasked : asked P task.1 task.2 with
  | none =>
    rw [confSet_none hasked]
    exact h
  | some c =>
    rw [confSet_some hasked]
    by_cases hk : key = task.1
    · rw [hk, Function.update_self]
      rfl
    · rw [Function.update_of_ne hk]
      exact h

theorem configured_isSome {cfg : List (String × List FieldValueTuple)}
    {task : String × List FieldValueTuple} (hmem : task ∈ cfg)
    (hasked : (asked P task.1 task.2).isSome) :
    (cfg.foldl (confSet P) conf task.1).isSome := by
  have hvisits := List.foldl_visits (l := cfg) (f := confSet P) (s := conf) (I := fun _ => True)
    (Q := fun t conf => (asked P t.1 t.2).isSome → (conf t.1).isSome) trivial
    (fun {conf t} _ _ => ⟨trivial, fun ht => by
      obtain ⟨c, hc⟩ := Option.isSome_iff_exists.mp ht
      rw [confSet_some hc, Function.update_self]
      rfl⟩)
    (fun _ _ ht hasked => confSet_isSome (ht hasked))
  exact hvisits.2 task hmem hasked

/-- The queue of a key is stormed. -/
def Stormed (s : St) (key : String × ℕ) : Prop :=
  ∃ q e, s.m_entryMap.lookup q = some e ∧ e.handler ≠ none ∧ e.key = key

theorem Stormed.storm {key : String × ℕ} (h : Stormed s key) :
    Stormed (s.startWdActionOnQueue PFC_WD_IN_STORM q).1 key := by
  obtain ⟨q', e, he, hne, hkey⟩ := h
  rcases startWdActionOnQueue_cases s PFC_WD_IN_STORM q with
    hsame | ⟨entry, s₀, hentry, _, hs₀, ⟨handler, _, hs'⟩ | ⟨hevent, _⟩⟩
  · rw [hsame]
    exact ⟨q', e, he, hne, hkey⟩
  · rw [hs']
    by_cases hq : q' = q
    · subst hq
      obtain rfl := Option.some.inj (he.symm.trans hentry)
      exact ⟨q', _, AList.lookup_insert _, nofun, hkey⟩
    · refine ⟨q', e, (AList.lookup_insert_ne hq).trans ?_, hne, hkey⟩
      rw [hs₀.entryMap, he]
  · exact absurd hevent (by decide)

theorem exists_handlerOf {action : PfcWdAction} (h : action ≠ .PFC_WD_ACTION_UNKNOWN) :
    ∃ handler, St.handlerOf action = some handler := by
  cases action with
  | PFC_WD_ACTION_UNKNOWN => exact absurd rfl h
  | PFC_WD_ACTION_FORWARD => exact ⟨_, rfl⟩
  | PFC_WD_ACTION_DROP => exact ⟨_, rfl⟩
  | PFC_WD_ACTION_ALERT => exact ⟨_, rfl⟩

/-- While the switch is off, a queue with an entry is stormed by a storm. -/
theorem Core.stormed (h : Core P pending stale conf s) (hoff : s.m_bigRedSwitchFlag = false)
    {e : PfcWdQueueEntry} (he : s.m_entryMap.lookup q = some e) :
    Stormed (s.startWdActionOnQueue PFC_WD_IN_STORM q).1 e.key := by
  obtain ⟨_, c, _, _, _, haction⟩ := h.entry he
  obtain ⟨handler, hhandler⟩ := exists_handlerOf c.action_known
  unfold St.startWdActionOnQueue
  rw [he]
  dsimp only
  rw [if_neg (by rw [hoff]; decide), if_pos (show PFC_WD_IN_STORM = "storm" from rfl), haction,
    hhandler]
  dsimp only
  split
  · exact ⟨q, _, AList.lookup_insert _, nofun, rfl⟩
  · next hne => exact ⟨q, e, he, hne, rfl⟩

theorem flag_startWdActionOnQueue (event : String) (q : sai_object_id_t) :
    (s.startWdActionOnQueue event q).1.m_bigRedSwitchFlag = s.m_bigRedSwitchFlag := by
  rcases startWdActionOnQueue_cases s event q with
    hsame | ⟨entry, s₀, _, _, hs₀, ⟨handler, _, hs'⟩ | ⟨_, hs'⟩⟩
  · rw [hsame]
  · rw [hs']
    exact hs₀.flag
  · rw [hs']
    exact hs₀.flag

/-- The replay of one record is a storm of its queue. -/
theorem replay_record {port : Port} {i : ℕ} (hl : P.Lossless port i q) :
    s.replay P port.m_alias [((i : ℤ), PFC_WD_IN_STORM)] =
      (s.startWdActionOnQueue PFC_WD_IN_STORM q).1 := by
  have hlt : i < port.m_queue_ids.length := (List.getElem?_eq_some_iff.mp hl.queue).1
  have hrange : ¬ ((i : ℤ) < 0 ∨ (port.m_queue_ids.length : ℤ) ≤ (i : ℤ)) := by omega
  unfold St.replay
  rw [PortsOrch.getPort_eq_some.mpr ⟨hl.mem, rfl⟩]
  dsimp only
  rw [if_neg (not_not.mpr hl.phy), List.foldl_cons, List.foldl_nil]
  unfold St.replayField
  dsimp only
  rw [if_neg hrange, if_neg (not_not.mpr rfl), Int.toNat_natCast, hl.queue_eq]

/-- All storms that are recorded are replayed. -/
theorem replay_all (h : Core P pending stale conf s) (hc : Covered P conf s)
    (hoff : s.m_bigRedSwitchFlag = false) {records : List (Sigma fun _ : String × ℕ => String)}
    (hrecords : ∀ r ∈ records, r.2 = PFC_WD_IN_STORM ∧
      ∃ port q, P.Lossless port r.1.2 q ∧ port.m_alias = r.1.1 ∧ (conf port.m_alias).isSome)
    (hpending : ∀ k ∈ pending, ∃ r ∈ records, r.1 = k) :
    let s' := records.foldl (fun s r => s.replay P r.1.1 [((r.1.2 : ℤ), r.2)]) s
    Core P [] stale conf s' ∧ Covered P conf s' := by
  have hvisits := List.foldl_visits (l := records)
    (f := fun s r => s.replay P r.1.1 [((r.1.2 : ℤ), r.2)]) (s := s)
    (I := fun s => (Core P pending stale conf s ∧ Covered P conf s) ∧ s.m_bigRedSwitchFlag = false)
    (Q := fun r s => Stormed s r.1) ⟨⟨h, hc⟩, hoff⟩
    (fun {s r} hr hs => by
      obtain ⟨hstorm, port, q, hl, halias, hconf⟩ := hrecords r hr
      have hreplay := replay_record (s := s) hl
      rw [halias, ← hstorm] at hreplay
      refine ⟨⟨replay_keeps hs.1.1 hs.1.2, ?_⟩, ?_⟩
      · rw [hreplay, flag_startWdActionOnQueue, hs.2]
      · obtain ⟨c, hc⟩ := Option.isSome_iff_exists.mp hconf
        obtain ⟨e, he⟩ := Option.isSome_iff_exists.mp (hs.1.2 hl hc)
        obtain ⟨port', _, hl', halias', _⟩ := hs.1.1.entry he
        obtain ⟨rfl, hindex⟩ := hl.unique hl'
        have hkey : e.key = r.1 := Prod.ext (halias'.trans halias) hindex.symm
        rw [hreplay, hstorm, ← hkey]
        exact hs.1.1.stormed hs.2 he)
    (fun {s r r'} hr _ hr' => by
      obtain ⟨hstorm, port, q, hl, halias, _⟩ := hrecords r hr
      have hreplay := replay_record (s := s) hl
      rw [halias, ← hstorm] at hreplay
      rw [hreplay, hstorm]
      exact hr'.storm)
  obtain ⟨⟨⟨hcore, hcovered⟩, _⟩, hstormed⟩ := hvisits
  refine ⟨⟨hcore.entry, hcore.recorded, fun {k v} hk => ?_, hcore.switch_on, hcore.switch_off,
    hcore.marked, hcore.switched⟩, hcovered⟩
  obtain ⟨hv, hpend | hqueue⟩ := hcore.record hk
  · obtain ⟨r, hr, rfl⟩ := hpending k hpend
    exact ⟨hv, Or.inr (hstormed r hr)⟩
  · exact ⟨hv, Or.inr hqueue⟩

/-- A new orch: every storm is still to be replayed, and the marks are those of the old one. -/
theorem Core.restart (h : Core P [] False conf s) :
    Core P (s.applDb.entries.map (·.1)) (s.m_bigRedSwitchFlag = true) (fun _ => none) s.restart where
  entry he := nomatch he
  recorded he := nomatch he
  record {k v} hk :=
    ⟨(h.record hk).1, Or.inl (List.mem_map.mpr ⟨⟨k, v⟩, Table.mem_entries.mpr hk, rfl⟩)⟩
  switch_on hon := nomatch hon
  switch_off _ := rfl
  marked {q} hq := by
    obtain ⟨hon | hfalse, hl⟩ := h.marked hq
    · exact ⟨Or.inr hon, hl⟩
    · exact hfalse.elim
  switched hon := nomatch hon

/-- What makes a warm restart safe: a port has one action, a port with a recorded storm is
configured and the switch is off then, and the switch is still on if it was on. -/
structure SafeRestart (P : PortsOrch) (s : St) (cfg : List (String × List FieldValueTuple)) :
    Prop where
  one_action : OneAction cfg
  configured : ∀ k v, s.applDb.lookup k = some v →
    ∃ data, (k.1, data) ∈ cfg ∧ (asked P k.1 data).isSome
  switch_off : ∀ k v, s.applDb.lookup k = some v → cfg.foldl switchTask false = false
  switch_on : s.m_bigRedSwitchFlag = true → cfg.foldl switchTask false = true

theorem warmStart_keeps (h : Core P [] False conf s)
    {cfg : List (String × List FieldValueTuple)} (hsafe : SafeRestart P s cfg) :
    Core P [] False (cfg.foldl (confSet P) fun _ => none) (s.warmStart P cfg) ∧
      Covered P (cfg.foldl (confSet P) fun _ => none) (s.warmStart P cfg) := by
  obtain ⟨hcore, hcovered, hquiet⟩ := configure_run hsafe.one_action (fun _ ht => ht) h.restart
    (fun _ hconf => nomatch hconf) (fun _ _ he => nomatch he) (fun _ _ hconf => nomatch hconf)
  unfold St.warmStart
  dsimp only at hcore hcovered hquiet ⊢
  generalize cfg.foldl (fun s task => (s.createEntry P task.1 task.2).1) s.restart = s₁
    at hcore hcovered hquiet ⊢
  have happl : s₁.applDb = s.applDb := hquiet.applDb
  -- the marks of the old orch are there only if the switch is on again
  have hcore : Core P (s.applDb.entries.map (·.1)) False (cfg.foldl (confSet P) fun _ => none) s₁ :=
    ⟨hcore.entry, hcore.recorded, hcore.record, hcore.switch_on, hcore.switch_off,
      fun {q} hq => ⟨Or.inl ((hcore.marked hq).1.elim id fun hon =>
        hquiet.flag.trans (hsafe.switch_on hon)), (hcore.marked hq).2⟩, hcore.switched⟩
  by_cases hempty : s.applDb.entries = []
  · rw [happl, hempty]
    rw [hempty] at hcore
    exact ⟨hcore, hcovered⟩
  · obtain ⟨r, hr⟩ := List.exists_mem_of_ne_nil _ hempty
    have hoff : s₁.m_bigRedSwitchFlag = false :=
      hquiet.flag.trans (hsafe.switch_off r.1 r.2 (Table.mem_entries.mp hr))
    rw [happl]
    refine replay_all hcore hcovered hoff (fun r hr => ?_) (fun k hk => ?_)
    · have hlook := Table.mem_entries.mp hr
      obtain ⟨hv, hpending | ⟨q, e, he, _, hkey⟩⟩ := h.record hlook
      · cases hpending
      · obtain ⟨port, _, hl, halias, _⟩ := h.entry he
        have hname : port.m_alias = r.1.1 := by rw [← halias, ← hkey]; rfl
        have hindex : e.index = r.1.2 := by rw [← hkey]; rfl
        obtain ⟨data, hmem, hasked⟩ := hsafe.configured r.1 r.2 hlook
        refine ⟨hv, port, q, hindex ▸ hl, hname, ?_⟩
        rw [hname]
        exact configured_isSome hmem hasked
    · obtain ⟨r, hr, rfl⟩ := List.mem_map.mp hk
      exact ⟨r, hr, rfl⟩

end

/-! ### Runs -/

inductive WdEvent where
  | set (key : String) (data : List FieldValueTuple)
  | del (key : String)
  /-- a script publishes an event of a queue -/
  | notification (event : String) (queueId : sai_object_id_t)
  | replay (key : String) (fvs : List (ℤ × String))
  | timer
  /-- orchagent is restarted with a configuration -/
  | warmStart (cfg : List (String × List FieldValueTuple))

namespace World

def init : World := ⟨Orchagent.PfcWd.init, fun _ => none⟩

/-- One event; `none` stands for what happens when a queue is read that is not there. -/
def step (P : PortsOrch) (w : World) : WdEvent → Option World
  | .set key data =>
    some ⟨(w.orch.createEntry P key data).1, confSet P w.conf (key, data)⟩
  | .del key =>
    (w.orch.deleteEntry P key).map fun s => ⟨s, Function.update w.conf key none⟩
  | .notification event queueId => some { w with orch := (w.orch.startWdActionOnQueue event queueId).1 }
  | .replay key fvs => some { w with orch := w.orch.replay P key fvs }
  | .timer => some { w with orch := w.orch.commitHandlers w.orch.m_entryMap true }
  | .warmStart cfg => some ⟨w.orch.warmStart P cfg, cfg.foldl (confSet P) fun _ => none⟩

/-- The steps of the orch, until a step leaves no state. -/
def next (P : PortsOrch) (w : Option World) (e : WdEvent) : Option World := w.bind (step P · e)

end World

/-- The steps after which the state is what the configuration and the storms ask for. -/
def SafeStep (P : PortsOrch) (w : Option World) (e : WdEvent) : Prop :=
  ∀ w', w = some w' →
    match e with
    | .set key data => SafeSet P w'.orch key data
    | .del key => ∃ port, P.getPort key = some port ∧ port.m_type = .PHY ∧
        ∀ i q e, i < PFC_WD_TC_MAX → port.m_queue_ids[i]? = some q →
          w'.orch.m_entryMap.lookup q = some e → e.handler = none
    | .warmStart cfg => SafeRestart P w'.orch cfg
    | _ => True

section

variable {P : PortsOrch} {w w' : World} {e : WdEvent}

theorem safeStep_keeps (h : Core P [] False w.conf w.orch) (hc : Covered P w.conf w.orch)
    (hsafe : SafeStep P (some w) e) :
    ∃ w', w.step P e = some w' ∧ Core P [] False w'.conf w'.orch ∧ Covered P w'.conf w'.orch := by
  have hsafe := hsafe w rfl
  cases e with
  | set key data => exact ⟨_, rfl, createEntry_keeps h hc hsafe⟩
  | del key =>
    obtain ⟨port, hport, hphy, hcalm⟩ := hsafe
    obtain ⟨_, rfl⟩ := PortsOrch.getPort_eq_some.mp hport
    obtain ⟨s', hs', hcore, hcovered⟩ := deleteEntry_keeps h hc hport hphy hcalm
    refine ⟨⟨s', Function.update w.conf port.m_alias none⟩, ?_, hcore, hcovered⟩
    show (w.orch.deleteEntry P port.m_alias).map _ = _
    rw [hs']
    rfl
  | notification event queueId =>
    obtain ⟨hcore, hsome⟩ := h.startWdActionOnQueue event queueId
    exact ⟨_, rfl, hcore, hc.congr fun q hq => (hsome q).trans hq⟩
  | replay key fvs => exact ⟨_, rfl, replay_keeps h hc⟩
  | timer =>
    have hsame := sameButCounters_commit w.orch w.orch.m_entryMap true
    exact ⟨_, rfl, h.counters hsame, hc.congr fun q hq => by rw [hsame.entryMap]; exact hq⟩
  | warmStart cfg => exact ⟨_, rfl, warmStart_keeps h hsafe⟩

theorem core_init : Core P [] False World.init.conf World.init.orch where
  entry he := nomatch he
  recorded he := nomatch he
  record hk := nomatch hk
  switch_on hon := nomatch hon
  switch_off _ := rfl
  marked hq := absurd rfl hq
  switched hon := nomatch hon

end

/-- A port with eight queues, of which one is lossless. -/
def ethernet0 : Port := ⟨"Ethernet0", .PHY, 1, [10, 11, 12, 13, 14, 15, 16, 17], 8⟩

def onePort : PortsOrch where
  m_portList := [ethernet0]
  alias_inj p hp p' hp' _ := by
    rw [List.mem_singleton.mp hp, List.mem_singleton.mp hp']
  id_inj p hp p' hp' _ _ _ := by
    rw [List.mem_singleton.mp hp, List.mem_singleton.mp hp']
  queues p hp _ := by
    rw [List.mem_singleton.mp hp]
    decide
  queues_inj p hp p' hp' i j q hi hj := by
    obtain rfl := List.mem_singleton.mp hp
    obtain rfl := List.mem_singleton.mp hp'
    have hlt := (List.getElem?_eq_some_iff.mp hi).1
    exact ⟨rfl, (List.getElem?_inj hlt (by decide)).mp (hi.trans hj.symm)⟩
  no_global p hp := by
    rw [List.mem_singleton.mp hp]
    decide

def setDrop : WdEvent := .set "Ethernet0" [("detection_time", "200"), ("action", "drop")]

end Orchagent.PfcWd
