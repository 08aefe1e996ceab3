/-
Cfgmgr/VrfMgr.lean

The life of a VRF: vrfmgrd makes its Linux device (vrfmgr.cpp), and `VRFOrch` makes its virtual
router (vrforch.cpp).

A task goes from vrfmgrd to the orch through APP_DB.  In STATE_DB vrfmgrd says that a VRF is
announced (`VRF_TABLE`), and the orch says that its router is there (`VRF_OBJECT_TABLE`).  These
tables, and those of the two processes, are keyed by the name of the VRF: here they are one
record a name.  Every event is the handling or the delivery of one task, so that the processes
interleave task by task.  A command that fails ends vrfmgrd by an exception.

No routing table is given to two devices, and none is lost as long as vrfmgrd runs
(`run_tables`).
-/
import Sonic.Lib.Transition
import Sonic.Orchagent.Consumer

namespace Cfgmgr.Vrf

open Orchagent (addToSlot)
open Swss
open Transition (Run)

def VRF_TABLE_START : ℕ := 1001
def VRF_TABLE_END : ℕ := 2000

/-- CFG_VRF_TABLE or CFG_VNET_TABLE. -/
inductive CfgTable where
  | VRF | VNET
  deriving DecidableEq

structure VrfEntry where
  vrf_id : UInt64
  ref_count : ℤ

/-- What the tables have of one name. -/
structure VrfState where
  /-- the pending task of vrfmgrd, from each table -/
  cfg : CfgTable → Option KeyOpFieldsValuesTuple
  /-- `m_vrfTableMap`: the routing table of the device, which the kernel has -/
  link : Option ℕ
  /-- `m_stateVrfTable` -/
  stateVrf : Bool
  /-- what `m_appVrfTableProducer` and `m_appVnetTableProducer` have sent, and is not popped yet -/
  app : CfgTable → Option KeyOpFieldsValuesTuple
  /-- the pending task of `VRFOrch` -/
  orch : Option KeyOpFieldsValuesTuple
  vrf_table_ : Option VrfEntry
  /-- `m_stateVrfObjectTable` -/
  stateVrfObject : Bool

/-! ### vrfmgrd -/

/-- What a task of vrfmgrd changes. -/
structure VrfMgr where
  m_freeTables : Finset ℕ
  vrf : VrfState

/-- The commands of `setLink` and `delLink`. -/
inductive Cmd where
  | linkAdd | linkUp | linkDel

namespace VrfMgr

/-- `VrfMgr::getFreeTable`: the first free table, or 0. -/
def getFreeTable (m : VrfMgr) : VrfMgr × ℕ :=
  if h : m.m_freeTables.Nonempty then
    let table := m.m_freeTables.min' h
    ({ m with m_freeTables := m.m_freeTables.erase table }, table)
  else (m, 0)

/-- `VrfMgr::recycleTable` -/
def recycleTable (m : VrfMgr) (table : ℕ) : VrfMgr :=
  { m with m_freeTables := insert table m.m_freeTables }

variable (exec : Cmd → Bool)

/-- `VrfMgr::setLink`; an exception leaves the state behind. -/
def setLink (m : VrfMgr) : Except VrfMgr (VrfMgr × Bool) :=
  if m.vrf.link.isSome then .ok (m, true)
  else
    let (m, table) := m.getFreeTable
    if table = 0 then .ok (m, false)
    else if ¬ exec .linkAdd then .error m
    else
      let m := { m with vrf.link := some table }
      if ¬ exec .linkUp then .error m else .ok (m, true)

/-- `VrfMgr::delLink` -/
def delLink (m : VrfMgr) : Except VrfMgr (VrfMgr × Bool) :=
  match m.vrf.link with
  | none => .ok (m, false)
  | some table =>
    if ¬ exec .linkDel then .error m
    else .ok ({ m with vrf.link := none }.recycleTable table, true)

/-- A task for the orch. -/
def send (m : VrfMgr) (table : CfgTable) (t : KeyOpFieldsValuesTuple) : VrfMgr :=
  { m with vrf.app := Function.update m.vrf.app table (addToSlot (m.vrf.app table) t) }

/-- The VRF is announced, and its task is sent. -/
def announce (m : VrfMgr) (table : CfgTable) (t : KeyOpFieldsValuesTuple) : VrfMgr :=
  { m with vrf.stateVrf := true }.send table ⟨t.kfvKey, SET_COMMAND, t.kfvFieldsValues⟩

/-- The removal is sent, and the VRF is not announced any more. -/
def withdraw (m : VrfMgr) (table : CfgTable) (t : KeyOpFieldsValuesTuple) : VrfMgr :=
  { m with vrf.stateVrf := false }.send table ⟨t.kfvKey, DEL_COMMAND, []⟩

/-- `VrfMgr::doTask`, for one task: whether the task is erased. -/
def doTask (m : VrfMgr) (table : CfgTable) (t : KeyOpFieldsValuesTuple) :
    Except VrfMgr (VrfMgr × Bool) :=
  if t.kfvOp = SET_COMMAND then
    -- a VRF whose device has no table is announced all the same
    (m.setLink exec).map fun r => (r.1.announce table t, true)
  else if t.kfvOp = DEL_COMMAND then
    match table with
    | .VNET => ((m.withdraw .VNET t).delLink exec).map fun r => (r.1, true)
    | .VRF =>
      if m.vrf.stateVrf ∧ ¬ m.vrf.stateVrfObject then .ok (m, false)
      else
        let m := if m.vrf.stateVrf then m.withdraw .VRF t else m
        if m.vrf.stateVrfObject then .ok (m, false)
        else (m.delLink exec).map fun r => (r.1, true)
  else .ok (m, true)

end VrfMgr

/-! ### VRFOrch -/

/-- What the parser and SAI say to a task: the parser throws, a call fails, or all succeed, with
the id of a router that is created. -/
inductive Answer where
  | invalid | failed
  | success (router_id : UInt64)

namespace VrfState

/-- `VRFOrch::addOperation` -/
def addOperation (v : VrfState) : Answer → VrfState × Bool
  | .success router_id =>
    if v.vrf_table_.isSome then (v, true)
    else ({ v with vrf_table_ := some ⟨router_id, 0⟩, stateVrfObject := true }, true)
  | _ => (v, false)

/-- `VRFOrch::delOperation` -/
def delOperation (v : VrfState) (answer : Answer) : VrfState × Bool :=
  match v.vrf_table_ with
  | none => (v, true)
  | some e =>
    if e.ref_count ≠ 0 then (v, false)
    else
      match answer with
      | .success _ => ({ v with vrf_table_ := none, stateVrfObject := false }, true)
      | _ => (v, false)

/-- `Orch2::doTask`, for one task: whether the task is erased. -/
def operation (v : VrfState) (t : KeyOpFieldsValuesTuple) : Answer → VrfState × Bool
  | .invalid => (v, true)
  | answer =>
    if t.kfvOp = SET_COMMAND then v.addOperation answer
    else if t.kfvOp = DEL_COMMAND then v.delOperation answer
    else (v, true)

/-- The handling of the pending task. -/
def doTask (v : VrfState) (answer : Answer) : VrfState :=
  match v.orch with
  | none => v
  | some t =>
    let (v, erased) := v.operation t answer
    if erased then { v with orch := none } else v

/-- The orch pops the task from APP_DB. -/
def deliver (v : VrfState) : VrfState :=
  match v.app .VRF with
  | none => v
  | some t =>
    { v with app := Function.update v.app .VRF none, orch := addToSlot v.orch t }

/-- `VRFOrch::increaseVrfRefCount` and `VRFOrch::decreaseVrfRefCount` -/
def changeVrfRefCount (v : VrfState) (change : ℤ) : VrfState :=
  { v with vrf_table_ := v.vrf_table_.map fun e => { e with ref_count := e.ref_count + change } }

end VrfState

/-! ### Both -/

structure World where
  m_freeTables : Finset ℕ
  vrf : String → VrfState
  /-- vrfmgrd has not ended -/
  running : Bool

inductive Event where
  /-- a task from CONFIG_DB -/
  | config (table : CfgTable) (entry : KeyOpFieldsValuesTuple)
  | vrfmgrd (table : CfgTable) (name : String) (exec : Cmd → Bool)
  | deliver (name : String)
  | vrforch (name : String) (answer : Answer)
  /-- a user of a VRF comes or goes -/
  | reference (name : String) (change : ℤ)

def World.put (w : World) (name : String) (v : VrfState) : World :=
  { w with vrf := Function.update w.vrf name v }

/-- The pending task is handled, and erased if it is done. -/
def vrfmgrd (w : World) (table : CfgTable) (name : String) (exec : Cmd → Bool) : World :=
  match (w.vrf name).cfg table with
  | none => w
  | some t =>
    match VrfMgr.doTask exec ⟨w.m_freeTables, w.vrf name⟩ table t with
    | .error m => { w.put name m.vrf with m_freeTables := m.m_freeTables, running := false }
    | .ok (m, erased) =>
      { w.put name (if erased then { m.vrf with cfg := Function.update m.vrf.cfg table none }
          else m.vrf) with m_freeTables := m.m_freeTables }

def next (w : World) : Event → World
  | .config table entry =>
    let v := w.vrf entry.kfvKey
    w.put entry.kfvKey
      { v with cfg := Function.update v.cfg table (addToSlot (v.cfg table) entry) }
  | .vrfmgrd table name exec => if w.running then vrfmgrd w table name exec else w
  | .deliver name => w.put name (w.vrf name).deliver
  | .vrforch name answer => w.put name ((w.vrf name).doTask answer)
  | .reference name change => w.put name ((w.vrf name).changeVrfRefCount change)

/-- The processes start.  `VrfMgr::VrfMgr` has read the devices from the kernel. -/
structure Start (w : World) : Prop where
  distinct : ∀ {name name' : String} {table : ℕ}, (w.vrf name).link = some table →
    (w.vrf name').link = some table → name = name'
  /-- the kernel has no routing table 0 -/
  nonzero : ∀ name, (w.vrf name).link ≠ some 0
  free : ∀ table, table ∈ w.m_freeTables ↔ (VRF_TABLE_START ≤ table ∧ table < VRF_TABLE_END) ∧
    ∀ name, (w.vrf name).link ≠ some table
  nothing : ∀ name, (w.vrf name).app .VRF = none ∧ (w.vrf name).stateVrf = false ∧
    (w.vrf name).orch = none ∧ (w.vrf name).vrf_table_ = none ∧
    (w.vrf name).stateVrfObject = false

/-! ### A task of the orch -/

/-- What a task of the orch does: it is kept or dropped, it has nothing to do, or a router is made
or removed. -/
inductive Done (v : VrfState) (t : KeyOpFieldsValuesTuple) (answer : Answer) :
    VrfState × Bool → Prop
  | kept (h : (∀ router_id, answer ≠ .success router_id) ∨
      ∃ e, v.vrf_table_ = some e ∧ e.ref_count ≠ 0) : Done v t answer (v, false)
  | refused (h : answer = .invalid) : Done v t answer (v, true)
  | other (hset : t.kfvOp ≠ SET_COMMAND) (hdel : t.kfvOp ≠ DEL_COMMAND) : Done v t answer (v, true)
  | there (hset : t.kfvOp = SET_COMMAND) (h : v.vrf_table_.isSome) : Done v t answer (v, true)
  | gone (hdel : t.kfvOp = DEL_COMMAND) (h : v.vrf_table_ = none) : Done v t answer (v, true)
  | made (router_id : UInt64) (hset : t.kfvOp = SET_COMMAND) : Done v t answer
      ({ v with vrf_table_ := some ⟨router_id, 0⟩, stateVrfObject := true }, true)
  | removed (hdel : t.kfvOp = DEL_COMMAND) : Done v t answer
      ({ v with vrf_table_ := none, stateVrfObject := false }, true)

theorem done_operation (v : VrfState) (t : KeyOpFieldsValuesTuple) (answer : Answer) :
    Done v t answer (v.operation t answer) := by
  have hvalid : Done v t answer (if t.kfvOp = SET_COMMAND then v.addOperation answer
      else if t.kfvOp = DEL_COMMAND then v.delOperation answer else (v, true)) := by
    have hkept : (∀ router_id, answer ≠ .success router_id) → Done v t answer (v, false) :=
      fun h => .kept (.inl h)
    split
    · next hset =>
        cases answer with
        | success router_id =>
          unfold VrfState.addOperation
          dsimp only
          split
          · next hthere => exact .there hset hthere
          · exact .made router_id hset
        | _ => exact hkept fun _ h => by cases h
    split
    · next hdel =>
        unfold VrfState.delOperation
        cases he : v.vrf_table_ with
        | none => exact .gone hdel he
        | some e =>
          dsimp only
          split
          · next href => exact .kept (.inr ⟨e, he, href⟩)
          · cases answer with
            | success router_id => exact .removed hdel
            | _ => exact hkept fun _ h => by cases h
    · next hset hdel => exact .other hset hdel
  cases answer with
  | invalid => exact .refused rfl
  | _ => exact hvalid

/-! ### The routing tables -/

/-- Every device has a routing table of its own, and the others are free as long as vrfmgrd
runs. -/
structure Tables (links : String → Option ℕ) (m_freeTables : Finset ℕ) (running : Bool) : Prop where
  distinct : ∀ {name name' : String} {table : ℕ}, links name = some table →
    links name' = some table → name = name'
  unused : ∀ {name : String} {table : ℕ}, links name = some table → table ∉ m_freeTables
  nonzero : ∀ name, links name ≠ some 0
  zero : 0 ∉ m_freeTables
  covered : running = true → ∀ {table : ℕ}, VRF_TABLE_START ≤ table → table < VRF_TABLE_END →
    table ∈ m_freeTables ∨ ∃ name, links name = some table

section Tables

variable {links : String → Option ℕ} {free : Finset ℕ} {running : Bool} {name : String} {id : ℕ}

theorem Tables.lost (h : Tables links free running) : Tables links (free.erase id) false where
  distinct := h.distinct
  unused hlink hfree := h.unused hlink (Finset.mem_of_mem_erase hfree)
  nonzero := h.nonzero
  zero hfree := h.zero (Finset.mem_of_mem_erase hfree)
  covered hrun := absurd hrun Bool.false_ne_true

theorem Tables.mono {running' : Bool} (h : Tables links free running)
    (hrun : running' = true → running = true) : Tables links free running' where
  distinct := h.distinct
  unused := h.unused
  nonzero := h.nonzero
  zero := h.zero
  covered hrunning := h.covered (hrun hrunning)

theorem Tables.taken (h : Tables links free running) (hid : id ∈ free) (hnew : links name = none) :
    Tables (Function.update links name (some id)) (free.erase id) running := by
  obtain ⟨hdistinct, hunused, hnonzero, hzero, hcovered⟩ := h
  refine ⟨by grind [Function.update_apply], by grind [Function.update_apply],
    by grind [Function.update_apply], by grind, fun hrun table hlo hhi => ?_⟩
  by_cases htable : table = id
  · exact .inr ⟨name, htable ▸ Function.update_self ..⟩
  refine (hcovered hrun hlo hhi).imp (fun h => Finset.mem_erase.mpr ⟨htable, h⟩) ?_
  rintro ⟨name', hname'⟩
  refine ⟨name', (Function.update_of_ne ?_ ..).trans hname'⟩
  rintro rfl
  cases hnew.symm.trans hname'

theorem Tables.given (h : Tables links free running) (hold : links name = some id) :
    Tables (Function.update links name none) (insert id free) running := by
  obtain ⟨hdistinct, hunused, hnonzero, hzero, hcovered⟩ := h
  refine ⟨by grind [Function.update_apply], by grind [Function.update_apply],
    by grind [Function.update_apply], by grind, fun hrun table hlo hhi => ?_⟩
  rcases hcovered hrun hlo hhi with hfree | ⟨name', hname'⟩
  · exact .inl (Finset.mem_insert_of_mem hfree)
  by_cases hname : name' = name
  · obtain rfl := Option.some.inj (hold.symm.trans (hname ▸ hname'))
    exact .inl (Finset.mem_insert_self ..)
  · exact .inr ⟨name', (Function.update_of_ne hname ..).trans hname'⟩

end Tables

/-- What becomes of the tables: nothing, one is taken, for a device or before the process ends,
or that of a device is free again. -/
inductive Change (m m' : VrfMgr) : Bool → Prop
  | none {running : Bool} (hfree : m'.m_freeTables = m.m_freeTables)
      (hlink : m'.vrf.link = m.vrf.link) : Change m m' running
  | lost {id : ℕ} (hfree : m'.m_freeTables = m.m_freeTables.erase id)
      (hlink : m'.vrf.link = m.vrf.link) : Change m m' false
  | taken {running : Bool} {id : ℕ} (hid : id ∈ m.m_freeTables) (hnew : m.vrf.link = .none)
      (hfree : m'.m_freeTables = m.m_freeTables.erase id) (hlink : m'.vrf.link = some id) :
      Change m m' running
  | given {running : Bool} {id : ℕ} (hold : m.vrf.link = some id)
      (hfree : m'.m_freeTables = insert id m.m_freeTables) (hlink : m'.vrf.link = .none) :
      Change m m' running

/-- The state that a call leaves behind, and whether the process goes on. -/
def Leaves (P : VrfMgr → Bool → Prop) : Except VrfMgr (VrfMgr × Bool) → Prop
  | .error m => P m false
  | .ok (m, _) => P m true

variable {m : VrfMgr} {exec : Cmd → Bool} {table : CfgTable} {t : KeyOpFieldsValuesTuple}
  {P : VrfMgr → Bool → Prop} {w : World}

/-- What `setLink` does: the device is there, no table is free, or a table is taken. -/
theorem leaves_setLink (hzero : 0 ∉ m.m_freeTables) {f : VrfMgr × Bool → VrfMgr × Bool}
    (hthere : m.vrf.link.isSome = true → P (f (m, true)).1 true)
    (hfull : m.vrf.link = none → m.m_freeTables = ∅ → P (f (m, false)).1 true)
    (htaken : ∀ id ∈ m.m_freeTables, m.vrf.link = none →
      P { m with m_freeTables := m.m_freeTables.erase id } false ∧
      P ⟨m.m_freeTables.erase id, { m.vrf with link := some id }⟩ false ∧
      P (f (⟨m.m_freeTables.erase id, { m.vrf with link := some id }⟩, true)).1 true) :
    Leaves P ((m.setLink exec).map f) := by
  unfold VrfMgr.setLink
  by_cases hlink : m.vrf.link.isSome = true
  · rw [if_pos hlink]
    exact hthere hlink
  rw [if_neg hlink]
  have hnone := Option.not_isSome_iff_eq_none.mp hlink
  unfold VrfMgr.getFreeTable
  by_cases hfree : m.m_freeTables.Nonempty
  · have hmem := m.m_freeTables.min'_mem hfree
    obtain ⟨hadd, hup, hmade⟩ := htaken _ hmem hnone
    rw [dif_pos hfree]
    dsimp only
    rw [if_neg fun h : m.m_freeTables.min' hfree = 0 => hzero (h ▸ hmem)]
    split
    · exact hadd
    · split
      · exact hup
      · exact hmade
  · rw [dif_neg hfree]
    exact hfull hnone (Finset.not_nonempty_iff_eq_empty.mp hfree)

/-- What `delLink` does. -/
theorem leaves_delLink {f : VrfMgr × Bool → VrfMgr × Bool} (hkept : P m false)
    (hgone : m.vrf.link = none → P (f (m, false)).1 true)
    (hgiven : ∀ id, m.vrf.link = some id →
      P (f (⟨insert id m.m_freeTables, { m.vrf with link := none }⟩, true)).1 true) :
    Leaves P ((m.delLink exec).map f) := by
  unfold VrfMgr.delLink
  cases hlink : m.vrf.link with
  | none => exact hgone hlink
  | some id =>
    dsimp only
    split
    · exact hkept
    · exact hgiven id hlink

/-- A task that is sent, and what is announced, are no matter. -/
theorem change_doTask (hzero : 0 ∉ m.m_freeTables) :
    Leaves (Change m) (m.doTask exec table t) := by
  have hdel : ∀ {m' : VrfMgr}, m'.m_freeTables = m.m_freeTables → m'.vrf.link = m.vrf.link →
      Leaves (Change m) ((m'.delLink exec).map fun r => (r.1, true)) := by
    intro m' hfree hlink
    refine leaves_delLink (.none hfree hlink) (fun _ => .none hfree hlink) fun id hid => ?_
    exact .given (hlink ▸ hid) (congrArg (insert id) hfree) rfl
  unfold VrfMgr.doTask
  split
  · refine leaves_setLink hzero (fun _ => .none rfl rfl) (fun _ _ => .none rfl rfl) ?_
    exact fun id hid hnew => ⟨.lost rfl rfl, .taken hid hnew rfl rfl, .taken hid hnew rfl rfl⟩
  split
  · cases table with
    | VNET => exact hdel rfl rfl
    | VRF =>
      dsimp only
      split
      · exact .none rfl rfl
      split
      · split
        · exact .none rfl rfl
        · exact hdel rfl rfl
      · split
        · exact .none rfl rfl
        · exact hdel rfl rfl
  · exact .none rfl rfl

/-- The devices, by the names of the VRFs. -/
def World.links (w : World) (name : String) : Option ℕ := (w.vrf name).link

theorem links_put {name : String} {v : VrfState} :
    (w.put name v).links = Function.update w.links name v.link :=
  funext fun _ => Function.apply_update (fun _ v => v.link) w.vrf name v _

abbrev World.Tables (w : World) : Prop := Vrf.Tables w.links w.m_freeTables w.running

theorem tables_change {name : String} {v : VrfState} {m : VrfMgr} {running : Bool} (ht : w.Tables)
    (hrun : running = true → w.running = true) (hv : v.link = m.vrf.link)
    (h : Change ⟨w.m_freeTables, w.vrf name⟩ m running) :
    Tables (w.put name v).links m.m_freeTables running := by
  have hsame : Function.update w.links name (w.vrf name).link = w.links :=
    Function.update_eq_self ..
  rw [links_put, hv]
  cases h with
  | none hfree hlink =>
    rw [hfree, hlink, hsame]
    exact ht.mono hrun
  | lost hfree hlink =>
    rw [hfree, hlink, hsame]
    exact ht.lost
  | taken hid hnew hfree hlink =>
    rw [hfree, hlink]
    exact (ht.taken hid hnew).mono hrun
  | given hold hfree hlink =>
    rw [hfree, hlink]
    exact (ht.given hold).mono hrun

theorem tables_put {name : String} {v : VrfState} (ht : w.Tables)
    (hlink : v.link = (w.vrf name).link) : (w.put name v).Tables :=
  tables_change (m := ⟨w.m_freeTables, v⟩) ht id rfl (.none rfl hlink)

/-- **Every event keeps the tables.** -/
theorem tables_next (ht : w.Tables) (e : Event) : (next w e).Tables := by
  cases e with
  | config table entry => exact tables_put ht rfl
  | vrfmgrd table name exec =>
    unfold next
    dsimp only
    by_cases hrun : w.running = true
    · rw [if_pos hrun]
      unfold vrfmgrd
      cases (w.vrf name).cfg table with
      | none => exact ht
      | some t =>
        have hchange : Leaves (Change ⟨w.m_freeTables, w.vrf name⟩)
            (VrfMgr.doTask exec ⟨w.m_freeTables, w.vrf name⟩ table t) := change_doTask ht.zero
        dsimp only
        generalize VrfMgr.doTask exec ⟨w.m_freeTables, w.vrf name⟩ table t = r at hchange ⊢
        cases r with
        | error m => exact tables_change ht (absurd · Bool.false_ne_true) rfl hchange
        | ok r =>
          obtain ⟨m, erased⟩ := r
          refine (tables_change ht (fun _ => hrun) ?_ hchange).mono fun _ => rfl
          cases erased <;> rfl
    · rw [if_neg hrun]
      exact ht
  | deliver name =>
    refine tables_put ht ?_
    unfold VrfState.deliver
    split <;> rfl
  | vrforch name answer =>
    refine tables_put ht ?_
    unfold VrfState.doTask
    cases (w.vrf name).orch with
    | none => rfl
    | some t =>
      have hdone := done_operation (w.vrf name) t answer
      dsimp only
      generalize (w.vrf name).operation t answer = r at hdone ⊢
      cases hdone <;> rfl
  | reference name change => exact tables_put ht rfl

/-- **No routing table is given to two devices, and none is lost as long as vrfmgrd runs**, in
every run, whichever commands fail. -/
theorem run_tables {w' : World} {es : List Event} (hw : Start w)
    (h : Run (fun w e w' => w' = next w e) w es w') : w'.Tables := by
  refine h.keeps (I := World.Tables) ?_ fun ht hstep => hstep ▸ tables_next ht _
  refine ⟨hw.distinct, fun hlink hfree => ((hw.free _).mp hfree).2 _ hlink, hw.nonzero,
    fun hfree => ?_, fun _ table hlo hhi => ?_⟩
  · exact absurd ((hw.free 0).mp hfree).1.1 (by decide)
  · by_cases hused : ∃ name, w.links name = some table
    · exact .inr hused
    · exact .inl ((hw.free table).mpr ⟨⟨hlo, hhi⟩, fun name h => hused ⟨name, h⟩⟩)

/-- The device of a VRF is there when the processes start. -/
def boot : World where
  m_freeTables := Finset.Ico 1002 VRF_TABLE_END
  vrf name := ⟨fun _ => none, if name = "Vrf1" then some 1001 else none, false, fun _ => none, none,
    none, false⟩
  running := true

theorem link_boot {name : String} {table : ℕ} (h : (boot.vrf name).link = some table) :
    name = "Vrf1" ∧ table = 1001 := by
  have h' : (if name = "Vrf1" then some 1001 else none) = some table := h
  split at h'
  · next hname => exact ⟨hname, (Option.some.inj h').symm⟩
  · cases h'

theorem start_boot : Start boot where
  distinct h h' := (link_boot h).1.trans (link_boot h').1.symm
  nonzero name h := absurd (link_boot h).2 (by decide)
  free table := by
    have hfree : table ∈ boot.m_freeTables ↔ 1002 ≤ table ∧ table < VRF_TABLE_END := Finset.mem_Ico
    have hused : (∀ name, (boot.vrf name).link ≠ some table) ↔ table ≠ 1001 := by
      refine ⟨fun h htable => h "Vrf1" (htable ▸ rfl), fun h name hlink => ?_⟩
      exact h (link_boot hlink).2
    rw [hfree, hused, VRF_TABLE_START]
    omega
  nothing name := ⟨rfl, rfl, rfl, rfl, rfl⟩

def setTask : KeyOpFieldsValuesTuple := ⟨"Vrf1", SET_COMMAND, [("NULL", "NULL")]⟩

/-- The VRF is set, and its task comes to the orch. -/
def setEvents : List Event :=
  [.config .VRF setTask, .vrfmgrd .VRF "Vrf1" fun _ => true, .deliver "Vrf1"]

theorem run_tables_boot : (setEvents.foldl next boot).Tables :=
  run_tables start_boot (Run.foldl boot setEvents)

end Cfgmgr.Vrf
