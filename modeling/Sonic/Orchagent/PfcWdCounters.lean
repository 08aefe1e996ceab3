/-
Orchagent/PfcWdCounters.lean

The statistics of a queue that the PFC watchdog keeps in COUNTERS_DB (`PfcWdActionHandler`).

A handler lives as long as a storm.  It remembers the hardware counters of its last commit, and
every commit adds their growth to the numbers in the database, which are texts.  After a warm
restart the mark in APPL_DB makes a new handler for a storm that goes on, and the two counters of
storms say that it is an old one.

`Storms` is what the statistics are about: how many storms there were, and the hardware counters
at the start of the last one and when they were last read.  The statistics agree with it
(`storms_conserved`) if the first and the last reading of each storm succeed and a restart loses
no growth.
-/
import Sonic.Lib.CInteger

namespace Orchagent.PfcWdActionHandler

/-! ### Counters -/

@[ext]
structure PfcWdHwStats where
  txPkt : UInt64
  txDropPkt : UInt64
  rxPkt : UInt64
  rxDropPkt : UInt64
  deriving DecidableEq

namespace PfcWdHwStats

instance : Zero PfcWdHwStats := ⟨⟨0, 0, 0, 0⟩⟩

instance : Add PfcWdHwStats := ⟨fun a b =>
  ⟨a.txPkt + b.txPkt, a.txDropPkt + b.txDropPkt, a.rxPkt + b.rxPkt, a.rxDropPkt + b.rxDropPkt⟩⟩

instance : Sub PfcWdHwStats := ⟨fun a b =>
  ⟨a.txPkt - b.txPkt, a.txDropPkt - b.txDropPkt, a.rxPkt - b.rxPkt, a.rxDropPkt - b.rxDropPkt⟩⟩

/-- Two stretches of growth make one. -/
theorem sub_add_sub (a b c : PfcWdHwStats) : (b - a) + (c - b) = c - a := by
  have hlane : ∀ a b c : UInt64, (b - a) + (c - b) = c - a := by
    intro a b c
    grind
  ext <;> exact congrArg _ (hlane _ _ _)

theorem add_sub_add_sub (t a b c : PfcWdHwStats) : t + (b - a) + (c - b) = t + (c - a) := by
  have hlane : ∀ t a b c : UInt64, t + (b - a) + (c - b) = t + (c - a) := by
    intro t a b c
    grind
  ext <;> exact congrArg _ (hlane _ _ _ _)

theorem add_sub_self (t a : PfcWdHwStats) : t + (a - a) = t := by
  have hlane : ∀ t a : UInt64, t + (a - a) = t := by
    intro t a
    grind
  ext <;> exact congrArg _ (hlane _ _)

theorem sub_self (a : PfcWdHwStats) : a - a = 0 := by
  have hlane : ∀ a : UInt64, a - a = 0 := by
    intro a
    grind
  ext <;> exact congrArg _ (hlane _)

end PfcWdHwStats

/-- The numbers of a queue. -/
structure PfcWdQueueStats where
  detectCount : UInt64
  restoreCount : UInt64
  /-- `txPkt`, `txDropPkt`, `rxPkt` and `rxDropPkt` -/
  total : PfcWdHwStats
  /-- `txPktLast`, `txDropPktLast`, `rxPktLast` and `rxDropPktLast` -/
  last : PfcWdHwStats
  operational : Bool

/-! ### The hash of the queue -/

/-- The hash of a queue in COUNTERS_DB. -/
abbrev Fields := String → Option String

/-- `Table::set`: the other fields stay. -/
def Fields.set (fields : Fields) (fvs : List (String × String)) : Fields := fun field =>
  match fvs.lookup field with
  | some value => some value
  | none => fields field

def PFC_WD_QUEUE_STATUS : String := "PFC_WD_STATUS"
def PFC_WD_QUEUE_STATUS_OPERATIONAL : String := "operational"
def PFC_WD_QUEUE_STATUS_STORMED : String := "stormed"
def PFC_WD_QUEUE_STATS_DEADLOCK_DETECTED : String := "PFC_WD_QUEUE_STATS_DEADLOCK_DETECTED"
def PFC_WD_QUEUE_STATS_DEADLOCK_RESTORED : String := "PFC_WD_QUEUE_STATS_DEADLOCK_RESTORED"

/-- The names of four counters: transmitted and received, and dropped of both. -/
structure Names where
  txPkt : String
  txDropPkt : String
  rxPkt : String
  rxDropPkt : String

/-- `PFC_WD_QUEUE_STATS_TX_PACKETS` and the three that go with it. -/
def totalNames : Names where
  txPkt := "PFC_WD_QUEUE_STATS_TX_PACKETS"
  txDropPkt := "PFC_WD_QUEUE_STATS_TX_DROPPED_PACKETS"
  rxPkt := "PFC_WD_QUEUE_STATS_RX_PACKETS"
  rxDropPkt := "PFC_WD_QUEUE_STATS_RX_DROPPED_PACKETS"

/-- `PFC_WD_QUEUE_STATS_TX_PACKETS_LAST` and the three that go with it. -/
def lastNames : Names where
  txPkt := "PFC_WD_QUEUE_STATS_TX_PACKETS_LAST"
  txDropPkt := "PFC_WD_QUEUE_STATS_TX_DROPPED_PACKETS_LAST"
  rxPkt := "PFC_WD_QUEUE_STATS_RX_PACKETS_LAST"
  rxDropPkt := "PFC_WD_QUEUE_STATS_RX_DROPPED_PACKETS_LAST"

def to_string (n : UInt64) : String := String.ofList (Nat.toDigits 10 n.toNat)

/-- `stoul`; `none` is an exception. -/
def stoul (value : String) : Option UInt64 :=
  match Numeral.stoul value.toList with
  | .ok n => some (UInt64.ofNat n)
  | .error _ => none

/-- A number of the hash, which is 0 if it is missing. -/
def number (fields : Fields) (field : String) : Option UInt64 :=
  match fields field with
  | none => some 0
  | some value => stoul value

/-- Four numbers of the hash. -/
def numbers (fields : Fields) (names : Names) : Option PfcWdHwStats := do
  let txPkt ← number fields names.txPkt
  let txDropPkt ← number fields names.txDropPkt
  let rxPkt ← number fields names.rxPkt
  let rxDropPkt ← number fields names.rxDropPkt
  some ⟨txPkt, txDropPkt, rxPkt, rxDropPkt⟩

def getQueueStats (fields : Fields) : Option PfcWdQueueStats := do
  let detectCount ← number fields PFC_WD_QUEUE_STATS_DEADLOCK_DETECTED
  let restoreCount ← number fields PFC_WD_QUEUE_STATS_DEADLOCK_RESTORED
  let total ← numbers fields totalNames
  let last ← numbers fields lastNames
  let operational := match fields PFC_WD_QUEUE_STATUS with
    | none => true
    | some value => value = PFC_WD_QUEUE_STATUS_OPERATIONAL
  some ⟨detectCount, restoreCount, total, last, operational⟩

/-- What is written of four numbers. -/
def fieldValues (names : Names) (stats : PfcWdHwStats) : List (String × String) :=
  [(names.txPkt, to_string stats.txPkt), (names.txDropPkt, to_string stats.txDropPkt),
    (names.rxPkt, to_string stats.rxPkt), (names.rxDropPkt, to_string stats.rxDropPkt)]

def updateWdCounters (fields : Fields) (stats : PfcWdQueueStats) : Fields :=
  fields.set ([(PFC_WD_QUEUE_STATS_DEADLOCK_DETECTED, to_string stats.detectCount),
    (PFC_WD_QUEUE_STATS_DEADLOCK_RESTORED, to_string stats.restoreCount)] ++
    fieldValues totalNames stats.total ++ fieldValues lastNames stats.last ++
    [(PFC_WD_QUEUE_STATUS, if stats.operational then PFC_WD_QUEUE_STATUS_OPERATIONAL
      else PFC_WD_QUEUE_STATUS_STORMED)])

def initWdCounters (fields : Fields) : Option Fields := do
  let stats ← getQueueStats fields
  some (fields.set [(PFC_WD_QUEUE_STATS_DEADLOCK_DETECTED, to_string stats.detectCount),
    (PFC_WD_QUEUE_STATS_DEADLOCK_RESTORED, to_string stats.restoreCount),
    (PFC_WD_QUEUE_STATUS, PFC_WD_QUEUE_STATUS_OPERATIONAL)])

theorem stoul_to_string (n : UInt64) : stoul (to_string n) = some n := by
  have hdigits : ∀ c ∈ Nat.toDigits 10 n.toNat, Numeral.isDigit 10 c := fun c hc =>
    Numeral.isDigit_of_mem_toDigits (by decide) (by decide) hc
  have hvalue : Numeral.value 10 (Nat.toDigits 10 n.toNat) = n.toNat :=
    Numeral.value_toDigits (by decide) (by decide)
  rw [stoul, to_string, String.toList_ofList, Numeral.stoul_digits Nat.toDigits_ne_nil hdigits,
    hvalue, if_pos n.toNat_lt]
  exact congrArg some UInt64.ofNat_toNat

theorem number_of_eq {fields : Fields} {field : String} {n : UInt64}
    (h : fields field = some (to_string n)) : number fields field = some n := by
  rw [number, h]
  exact stoul_to_string n

/-- Four numbers that are in the hash as they were written. -/
theorem numbers_of_eq {fields : Fields} {names : Names} {stats : PfcWdHwStats}
    (h : ∀ p ∈ fieldValues names stats, fields p.1 = some p.2) :
    numbers fields names = some stats := by
  have htx : fields names.txPkt = some (to_string stats.txPkt) :=
    h (names.txPkt, to_string stats.txPkt) (by simp [fieldValues])
  have htxDrop : fields names.txDropPkt = some (to_string stats.txDropPkt) :=
    h (names.txDropPkt, to_string stats.txDropPkt) (by simp [fieldValues])
  have hrx : fields names.rxPkt = some (to_string stats.rxPkt) :=
    h (names.rxPkt, to_string stats.rxPkt) (by simp [fieldValues])
  have hrxDrop : fields names.rxDropPkt = some (to_string stats.rxDropPkt) :=
    h (names.rxDropPkt, to_string stats.rxDropPkt) (by simp [fieldValues])
  rw [numbers, number_of_eq htx, number_of_eq htxDrop, number_of_eq hrx, number_of_eq hrxDrop]
  rfl

/-- **What is written is read.** -/
theorem getQueueStats_updateWdCounters (fields : Fields) (stats : PfcWdQueueStats) :
    getQueueStats (updateWdCounters fields stats) = some stats := by
  have hdetect : updateWdCounters fields stats PFC_WD_QUEUE_STATS_DEADLOCK_DETECTED =
      some (to_string stats.detectCount) := rfl
  have hrestore : updateWdCounters fields stats PFC_WD_QUEUE_STATS_DEADLOCK_RESTORED =
      some (to_string stats.restoreCount) := rfl
  have htotal : ∀ p ∈ fieldValues totalNames stats.total,
      updateWdCounters fields stats p.1 = some p.2 := by
    intro p hp
    simp only [fieldValues, List.mem_cons, List.not_mem_nil, or_false] at hp
    rcases hp with rfl | rfl | rfl | rfl <;> rfl
  have hlast : ∀ p ∈ fieldValues lastNames stats.last,
      updateWdCounters fields stats p.1 = some p.2 := by
    intro p hp
    simp only [fieldValues, List.mem_cons, List.not_mem_nil, or_false] at hp
    rcases hp with rfl | rfl | rfl | rfl <;> rfl
  have hstatus : updateWdCounters fields stats PFC_WD_QUEUE_STATUS =
      some (if stats.operational then PFC_WD_QUEUE_STATUS_OPERATIONAL
        else PFC_WD_QUEUE_STATUS_STORMED) := rfl
  rw [getQueueStats, number_of_eq hdetect, number_of_eq hrestore, numbers_of_eq htotal,
    numbers_of_eq hlast, hstatus]
  obtain ⟨detectCount, restoreCount, total, last, operational⟩ := stats
  cases operational <;> rfl

/-- The numbers survive a restart; the queue is operational. -/
theorem getQueueStats_initWdCounters {fields : Fields} {stats : PfcWdQueueStats}
    (h : getQueueStats fields = some stats) :
    ∃ fields', initWdCounters fields = some fields' ∧
      getQueueStats fields' = some { stats with operational := true } := by
  let fields' := fields.set [(PFC_WD_QUEUE_STATS_DEADLOCK_DETECTED, to_string stats.detectCount),
    (PFC_WD_QUEUE_STATS_DEADLOCK_RESTORED, to_string stats.restoreCount),
    (PFC_WD_QUEUE_STATUS, PFC_WD_QUEUE_STATUS_OPERATIONAL)]
  refine ⟨fields', by rw [initWdCounters, h]; rfl, ?_⟩
  have hdetect : fields' PFC_WD_QUEUE_STATS_DEADLOCK_DETECTED =
      some (to_string stats.detectCount) := rfl
  have hrestore : fields' PFC_WD_QUEUE_STATS_DEADLOCK_RESTORED =
      some (to_string stats.restoreCount) := rfl
  have hstatus : fields' PFC_WD_QUEUE_STATUS = some PFC_WD_QUEUE_STATUS_OPERATIONAL := rfl
  have htotal : numbers fields' totalNames = numbers fields totalNames := rfl
  have hlast : numbers fields' lastNames = numbers fields lastNames := rfl
  rw [getQueueStats] at h
  obtain ⟨detectCount, -, h⟩ := Option.bind_eq_some_iff.mp h
  obtain ⟨restoreCount, -, h⟩ := Option.bind_eq_some_iff.mp h
  obtain ⟨total, ht, h⟩ := Option.bind_eq_some_iff.mp h
  obtain ⟨last, hl, h⟩ := Option.bind_eq_some_iff.mp h
  obtain rfl := Option.some.inj h
  rw [getQueueStats, number_of_eq hdetect, number_of_eq hrestore, htotal, ht, hlast, hl, hstatus]
  rfl

/-! ### The handler -/

structure St where
  fields : Fields
  /-- `m_hwStats` of the handler, if there is one -/
  handler : Option PfcWdHwStats
  /-- `PFC_WD_IN_STORM` in APPL_DB -/
  in_storm : Bool

/-- The hardware counters, and whether `getHwCounters` succeeds in reading them. -/
structure HwRead where
  counters : PfcWdHwStats
  ok : Bool

/-- What happens at a queue. -/
inductive Event where
  /-- the scripts detect a storm -/
  | storm (hw : HwRead)
  /-- the timer commits -/
  | commit (hw : HwRead)
  /-- the scripts detect the end of a storm -/
  | restore (hw : HwRead)
  /-- a warm restart, which announces a storm again that goes on -/
  | restart (hw : HwRead)

/-- `initCounters` of a new handler, whose `m_hwStats` is uninitialised. -/
def initCounters (uninitialised : PfcWdHwStats) (fields : Fields) (hw : HwRead) :
    Option (Fields × PfcWdHwStats) :=
  if hw.ok = false then some (fields, uninitialised)
  else do
    let wdQueueStats ← getQueueStats fields
    let wdQueueStats :=
      if ¬ wdQueueStats.detectCount > wdQueueStats.restoreCount then
        { wdQueueStats with detectCount := wdQueueStats.detectCount + 1, last := 0 }
      else wdQueueStats
    some (updateWdCounters fields { wdQueueStats with operational := false }, hw.counters)

def commitCounters (fields : Fields) (m_hwStats : PfcWdHwStats) (hw : HwRead) (periodic : Bool) :
    Option (Fields × PfcWdHwStats) :=
  if hw.ok = false then some (fields, m_hwStats)
  else do
    let finalStats ← getQueueStats fields
    let restoreCount :=
      if periodic then finalStats.restoreCount else finalStats.restoreCount + 1
    some (updateWdCounters fields { finalStats with
      restoreCount := restoreCount
      operational := !periodic
      last := finalStats.last + (hw.counters - m_hwStats)
      total := finalStats.total + (hw.counters - m_hwStats) }, hw.counters)

/-- One event; `none` is an exception. -/
def step (uninitialised : PfcWdHwStats) (s : St) : Event → Option St
  | .storm hw =>
    match s.handler with
    | some _ => some s
    | none => do
        let (fields, m_hwStats) ← initCounters uninitialised s.fields hw
        some ⟨fields, some m_hwStats, true⟩
  | .commit hw =>
    match s.handler with
    | none => some s
    | some m_hwStats => do
        let (fields, m_hwStats) ← commitCounters s.fields m_hwStats hw true
        some { s with fields := fields, handler := some m_hwStats }
  | .restore hw =>
    match s.handler with
    | none => some s
    | some m_hwStats => do
        let (fields, _) ← commitCounters s.fields m_hwStats hw false
        some ⟨fields, none, false⟩
  | .restart hw => do
      let fields ← initWdCounters s.fields
      if s.in_storm then
        let (fields, m_hwStats) ← initCounters uninitialised fields hw
        some ⟨fields, some m_hwStats, true⟩
      else some ⟨fields, none, false⟩

/-! ### What the statistics are about -/

/-- The storms so far. -/
structure Storms where
  count : ℕ
  /-- the last storm goes on -/
  ongoing : Bool
  /-- the hardware counters at the start of the last storm -/
  start : PfcWdHwStats
  /-- the hardware counters when they were last read in it, or at its end -/
  seen : PfcWdHwStats
  /-- the growth during the storms before it -/
  before : PfcWdHwStats

namespace Storms

def none : Storms := ⟨0, false, 0, 0, 0⟩

def step (r : Storms) : Event → Storms
  | .storm hw =>
    if r.ongoing then r
    else ⟨r.count + 1, true, hw.counters, hw.counters, r.before + (r.seen - r.start)⟩
  | .commit hw => if r.ongoing = true ∧ hw.ok = true then { r with seen := hw.counters } else r
  | .restore hw => if r.ongoing then { r with ongoing := false, seen := hw.counters } else r
  | .restart _ => r

end Storms

/-- What should hold of the statistics: every storm is counted once, its end at most once, and the
totals and the `Last` values are the growth during all storms and during the last one. -/
def Conserved (s : St) (r : Storms) : Prop :=
  ∃ stats, getQueueStats s.fields = some stats ∧
    stats.restoreCount ≤ stats.detectCount ∧
    stats.detectCount.toNat ≤ stats.restoreCount.toNat + 1 ∧
    stats.detectCount.toNat = r.count ∧
    stats.total = r.before + (r.seen - r.start) ∧
    stats.last = r.seen - r.start

/-- The states that are reached by steps of which `ok` holds, from a queue without storms. -/
inductive Reached (uninitialised : PfcWdHwStats) (ok : St → Event → Prop) : St → Storms → Prop
  | start {fields} (h : getQueueStats fields = some ⟨0, 0, 0, 0, true⟩) :
      Reached uninitialised ok ⟨fields, none, false⟩ Storms.none
  | step {s s' r e} (h : Reached uninitialised ok s r) (hok : ok s e)
      (hstep : step uninitialised s e = some s') : Reached uninitialised ok s' (r.step e)

/-- The readings at the start and at the end of a storm succeed, so does that after a restart, and
there is no growth between the last commit and the restart; there is another number for a storm. -/
def Reliable (s : St) : Event → Prop
  | .storm hw => s.handler = none → hw.ok = true ∧
      ∀ stats, getQueueStats s.fields = some stats → stats.detectCount.toNat + 1 < 2 ^ 64
  | .commit _ => True
  | .restore hw => s.handler ≠ none → hw.ok = true
  | .restart hw => s.in_storm = true → hw.ok = true ∧ s.handler = some hw.counters

/-! ### The invariant -/

variable {uninitialised : PfcWdHwStats} {s s' : St} {r : Storms} {e : Event} {fields : Fields}
  {stats : PfcWdQueueStats} {hw : HwRead}

/-- The statistics, with the handler: there is one during a storm, and it remembers what was seen. -/
structure Inv (s : St) (r : Storms) (stats : PfcWdQueueStats) : Prop where
  read : getQueueStats s.fields = some stats
  handler : s.handler = if r.ongoing then some r.seen else none
  in_storm : s.in_storm = r.ongoing
  detected : stats.detectCount.toNat = r.count
  restored : stats.restoreCount.toNat + (if r.ongoing then 1 else 0) = r.count
  total : stats.total = r.before + (r.seen - r.start)
  last : stats.last = r.seen - r.start

theorem Inv.conserved (h : Inv s r stats) : Conserved s r := by
  have hrestored := h.restored
  have hdetected := h.detected
  refine ⟨stats, h.read, ?_, ?_, hdetected, h.total, h.last⟩
  · rw [UInt64.le_iff_toNat_le]
    split at hrestored <;> omega
  · split at hrestored <;> omega

/-- The first reading of a new handler. -/
theorem initCounters_spec (uninitialised : PfcWdHwStats) (hread : getQueueStats fields = some stats) (hok : hw.ok = true) :
    ∃ fields', initCounters uninitialised fields hw = some (fields', hw.counters) ∧
      getQueueStats fields' = some { if ¬ stats.detectCount > stats.restoreCount then
          { stats with detectCount := stats.detectCount + 1, last := 0 } else stats with
        operational := false } := by
  refine ⟨_, ?_, getQueueStats_updateWdCounters fields _⟩
  rw [initCounters, hok, if_neg Bool.noConfusion, hread]
  rfl

/-- A commit whose reading succeeds. -/
theorem commitCounters_spec (hread : getQueueStats fields = some stats) (hok : hw.ok = true)
    (m_hwStats : PfcWdHwStats) (periodic : Bool) :
    ∃ fields', commitCounters fields m_hwStats hw periodic = some (fields', hw.counters) ∧
      getQueueStats fields' = some { stats with
        restoreCount := if periodic then stats.restoreCount else stats.restoreCount + 1
        operational := !periodic
        last := stats.last + (hw.counters - m_hwStats)
        total := stats.total + (hw.counters - m_hwStats) } := by
  refine ⟨_, ?_, getQueueStats_updateWdCounters fields _⟩
  rw [commitCounters, hok, if_neg Bool.noConfusion, hread]
  rfl

/-- A step that returns, and the invariant after it. -/
def Keeps (uninitialised : PfcWdHwStats) (s : St) (r : Storms) (e : Event) : Prop :=
  ∃ s' stats', step uninitialised s e = some s' ∧ Inv s' (r.step e) stats'

/-- A new storm is counted, and its growth begins at 0. -/
theorem Inv.storm (h : Inv s r stats) (hreliable : Reliable s (.storm hw)) :
    Keeps uninitialised s r (.storm hw) := by
  cases hongoing : r.ongoing with
  | true =>
    -- the storm has a handler already
    have hhandler : s.handler = some r.seen := by rw [h.handler, hongoing]; rfl
    have hstep : step uninitialised s (.storm hw) = some s := by rw [step, hhandler]
    have hrecord : r.step (.storm hw) = r := if_pos hongoing
    exact ⟨s, stats, hstep, by rw [hrecord]; exact h⟩
  | false =>
    have hhandler : s.handler = none := by rw [h.handler, hongoing]; rfl
    obtain ⟨hok, hroom⟩ := hreliable hhandler
    have hrestored := h.restored
    rw [hongoing] at hrestored
    have hnot : ¬ stats.detectCount > stats.restoreCount := by
      rw [gt_iff_lt, UInt64.lt_iff_toNat_lt, h.detected, ← hrestored]
      exact Nat.lt_irrefl _
    have hdetect : (stats.detectCount + 1).toNat = stats.detectCount.toNat + 1 := by
      rw [UInt64.toNat_add]
      exact Nat.mod_eq_of_lt (hroom stats h.read)
    obtain ⟨fields, hinit, hread⟩ := initCounters_spec uninitialised h.read hok
    rw [if_pos hnot] at hread
    have hstep : step uninitialised s (.storm hw) = some ⟨fields, some hw.counters, true⟩ := by
      rw [step, hhandler]
      dsimp only
      rw [hinit]
      rfl
    have hrecord : r.step (.storm hw) =
        ⟨r.count + 1, true, hw.counters, hw.counters, r.before + (r.seen - r.start)⟩ :=
      if_neg (by rw [hongoing]; exact Bool.noConfusion)
    rw [Keeps, hrecord]
    refine ⟨_, _, hstep, hread, ?_, ?_, ?_, ?_, ?_, ?_⟩
    · rfl
    · rfl
    · show (stats.detectCount + 1).toNat = r.count + 1
      rw [hdetect, h.detected]
    · exact congrArg (· + 1) hrestored
    · show stats.total = _
      rw [PfcWdHwStats.add_sub_self, h.total]
    · exact (PfcWdHwStats.sub_self _).symm

/-- A commit adds the growth since the last one. -/
theorem Inv.commit (h : Inv s r stats) : Keeps uninitialised s r (.commit hw) := by
  cases hongoing : r.ongoing with
  | false =>
    have hhandler : s.handler = none := by rw [h.handler, hongoing]; rfl
    have hstep : step uninitialised s (.commit hw) = some s := by rw [step, hhandler]
    have hrecord : r.step (.commit hw) = r :=
      if_neg fun h' => Bool.noConfusion (hongoing.symm.trans h'.1)
    exact ⟨s, stats, hstep, by rw [hrecord]; exact h⟩
  | true =>
    have hhandler : s.handler = some r.seen := by rw [h.handler, hongoing]; rfl
    cases hok : hw.ok with
    | false =>
      have hstep : step uninitialised s (.commit hw) = some s := by
        rw [step, hhandler]
        dsimp only
        rw [commitCounters, if_pos hok]
        show some { s with handler := some r.seen } = some s
        rw [← hhandler]
      have hrecord : r.step (.commit hw) = r :=
        if_neg fun h' => Bool.noConfusion (hok.symm.trans h'.2)
      exact ⟨s, stats, hstep, by rw [hrecord]; exact h⟩
    | true =>
      obtain ⟨fields, hcommit, hread⟩ := commitCounters_spec h.read hok r.seen true
      have hstep : step uninitialised s (.commit hw) =
          some { s with fields := fields, handler := some hw.counters } := by
        rw [step, hhandler]
        dsimp only
        rw [hcommit]
        rfl
      have hrecord : r.step (.commit hw) = { r with seen := hw.counters } :=
        if_pos ⟨hongoing, hok⟩
      rw [Keeps, hrecord]
      refine ⟨_, _, hstep, hread, ?_, ?_, ?_, ?_, ?_, ?_⟩
      · show some hw.counters = if r.ongoing then some hw.counters else none
        rw [hongoing]
        rfl
      · exact h.in_storm
      · exact h.detected
      · exact h.restored
      · show stats.total + _ = _
        rw [h.total, PfcWdHwStats.add_sub_add_sub]
      · show stats.last + _ = _
        rw [h.last, PfcWdHwStats.sub_add_sub]

/-- The last commit adds the rest of the growth, and counts the end. -/
theorem Inv.restore (h : Inv s r stats) (hreliable : Reliable s (.restore hw)) :
    Keeps uninitialised s r (.restore hw) := by
  cases hongoing : r.ongoing with
  | false =>
    have hhandler : s.handler = none := by rw [h.handler, hongoing]; rfl
    have hstep : step uninitialised s (.restore hw) = some s := by rw [step, hhandler]
    have hrecord : r.step (.restore hw) = r := if_neg (by rw [hongoing]; exact Bool.noConfusion)
    exact ⟨s, stats, hstep, by rw [hrecord]; exact h⟩
  | true =>
    have hhandler : s.handler = some r.seen := by rw [h.handler, hongoing]; rfl
    have hok : hw.ok = true := hreliable (by rw [hhandler]; exact Option.some_ne_none _)
    have hrestored := h.restored
    rw [hongoing, if_pos rfl] at hrestored
    have hrestore : (stats.restoreCount + 1).toNat = stats.restoreCount.toNat + 1 := by
      rw [UInt64.toNat_add]
      refine Nat.mod_eq_of_lt ?_
      show stats.restoreCount.toNat + 1 < 2 ^ 64
      rw [hrestored, ← h.detected]
      exact stats.detectCount.toNat_lt
    obtain ⟨fields, hcommit, hread⟩ := commitCounters_spec h.read hok r.seen false
    have hstep : step uninitialised s (.restore hw) = some ⟨fields, none, false⟩ := by
      rw [step, hhandler]
      dsimp only
      rw [hcommit]
      rfl
    have hrecord : r.step (.restore hw) = { r with ongoing := false, seen := hw.counters } :=
      if_pos hongoing
    rw [Keeps, hrecord]
    refine ⟨_, _, hstep, hread, ?_, ?_, ?_, ?_, ?_, ?_⟩
    · rfl
    · rfl
    · exact h.detected
    · show (stats.restoreCount + 1).toNat + 0 = r.count
      rw [hrestore, ← hrestored]
    · show stats.total + _ = _
      rw [h.total, PfcWdHwStats.add_sub_add_sub]
    · show stats.last + _ = _
      rw [h.last, PfcWdHwStats.sub_add_sub]

/-- After a restart the storm is taken for an old one. -/
theorem Inv.restart (h : Inv s r stats) (hreliable : Reliable s (.restart hw)) :
    Keeps uninitialised s r (.restart hw) := by
  obtain ⟨fields, hinit, hread⟩ := getQueueStats_initWdCounters h.read
  have hrecord : r.step (.restart hw) = r := rfl
  have hrestored := h.restored
  cases hongoing : r.ongoing with
  | false =>
    have hmark : s.in_storm = false := h.in_storm.trans hongoing
    have hstep : step uninitialised s (.restart hw) = some ⟨fields, none, false⟩ := by
      rw [step, hinit, hmark]
      rfl
    refine ⟨_, { stats with operational := true }, hstep, ?_⟩
    rw [hrecord]
    refine ⟨hread, ?_, hongoing.symm, h.detected, hrestored, h.total, h.last⟩
    rw [hongoing]
    rfl
  | true =>
    have hmark : s.in_storm = true := h.in_storm.trans hongoing
    obtain ⟨hok, hsame⟩ := hreliable hmark
    have hseen : r.seen = hw.counters := by
      rw [h.handler, hongoing] at hsame
      exact Option.some.inj hsame
    rw [hongoing, if_pos rfl] at hrestored
    have hold : ¬ ¬ stats.detectCount > stats.restoreCount := by
      rw [not_not, gt_iff_lt, UInt64.lt_iff_toNat_lt, h.detected, ← hrestored]
      exact Nat.lt_succ_self _
    obtain ⟨fields', hfirst, hread'⟩ := initCounters_spec uninitialised hread hok
    rw [if_neg hold] at hread'
    have hstep : step uninitialised s (.restart hw) = some ⟨fields', some hw.counters, true⟩ := by
      rw [step, hinit, hmark]
      show (initCounters uninitialised fields hw >>= _) = _
      rw [hfirst]
      rfl
    rw [Keeps, hrecord]
    refine ⟨_, _, hstep, hread', ?_, ?_, ?_, ?_, ?_, ?_⟩
    · show some hw.counters = if r.ongoing then some r.seen else none
      rw [hongoing, if_pos rfl, hseen]
    · exact hongoing.symm
    · exact h.detected
    · exact h.restored
    · exact h.total
    · exact h.last

theorem Inv.step (h : Inv s r stats) (hreliable : Reliable s e) : Keeps uninitialised s r e := by
  cases e with
  | storm hw => exact h.storm hreliable
  | commit hw => exact h.commit
  | restore hw => exact h.restore hreliable
  | restart hw => exact h.restart hreliable

theorem exists_inv (h : Reached uninitialised Reliable s r) : ∃ stats, Inv s r stats := by
  induction h with
  | start h =>
    refine ⟨_, h, rfl, rfl, rfl, rfl, ?_, ?_⟩
    · exact (PfcWdHwStats.add_sub_self 0 0).symm
    · exact (PfcWdHwStats.sub_self 0).symm
  | step _ hreliable hstep ih =>
    obtain ⟨stats, hinv⟩ := ih
    obtain ⟨s₁, stats', hstep', hinv'⟩ := hinv.step hreliable
    obtain rfl := Option.some.inj (hstep'.symm.trans hstep)
    exact ⟨stats', hinv'⟩

/-- **The statistics of storms are conserved** in every run whose readings at the starts and ends
of storms succeed and whose restarts lose no growth; and no step of such a run throws. -/
theorem storms_conserved (h : Reached uninitialised Reliable s r) :
    Conserved s r ∧ ∀ e, Reliable s e → ∃ s', step uninitialised s e = some s' := by
  obtain ⟨stats, hinv⟩ := exists_inv h
  refine ⟨hinv.conserved, fun e hreliable => ?_⟩
  obtain ⟨s', -, hstep, -⟩ := hinv.step hreliable
  exact ⟨s', hstep⟩

/-- A queue of which the watchdog knows nothing yet. -/
theorem reached_start (uninitialised : PfcWdHwStats) (ok : St → Event → Prop) :
    Reached uninitialised ok ⟨fun _ => none, none, false⟩ Storms.none :=
  .start rfl

/-- A first storm. -/
theorem storms_conserved_first :
    ∃ s r, Reached 0 Reliable s r ∧ r.count = 1 ∧ Conserved s r := by
  have hreliable : Reliable ⟨fun _ => none, none, false⟩ (.storm ⟨⟨10, 0, 20, 0⟩, true⟩) := by
    refine fun _ => ⟨rfl, ?_⟩
    rintro stats ⟨⟩
    decide
  have hstart := reached_start 0 Reliable
  obtain ⟨s, hstep⟩ := (storms_conserved hstart).2 _ hreliable
  have hreached := hstart.step hreliable hstep
  exact ⟨s, _, hreached, rfl, (storms_conserved hreached).1⟩

/-- A storm whose first reading fails is not counted, but its end is. -/
theorem not_storms_conserved :
    ¬ ∀ (uninitialised : PfcWdHwStats) (s : St) (r : Storms),
      Reached uninitialised (fun _ _ => True) s r → Conserved s r := by
  intro h
  have hstorm := (reached_start 0 fun _ _ => True).step (e := .storm ⟨⟨10, 0, 20, 0⟩, false⟩)
    trivial rfl
  have hrestore := hstorm.step (e := .restore ⟨⟨30, 0, 40, 0⟩, true⟩) trivial rfl
  obtain ⟨stats, hread, hle, -⟩ := h 0 _ _ hrestore
  obtain rfl := Option.some.inj ((getQueueStats_updateWdCounters _ _).symm.trans hread)
  exact absurd hle (by decide)

end Orchagent.PfcWdActionHandler
