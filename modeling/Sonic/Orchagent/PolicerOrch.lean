/-
Orchagent/PolicerOrch.lean

The policers of the switch, and the loop over their pending tasks (`PolicerOrch`).

The loop advances its iterator once for every attribute of an update that the ASIC refuses, and
then erases the task that the iterator has come to: one that it has not handled, or none at
all.  It creates a policer without its mandatory fields after it has logged their absence, and
an exception of a reader leaves the loop.
-/
import Sonic.Orchagent.CoppOrch
import Sonic.Orchagent.Sweep

namespace Orchagent.Policer

open Std (ExtTreeMap)
open Swss
open Copp (sai_object_id_t)

/-! ### Fields -/

inductive AttrId
  | METER_TYPE | MODE | COLOR_SOURCE | CBS | CIR | PBS | PIR
  | RED_PACKET_ACTION | GREEN_PACKET_ACTION | YELLOW_PACKET_ACTION
deriving DecidableEq

inductive AttrValue
  /-- an enumerator, by the name that its map has for it -/
  | s32 (name : String)
  | u64 (n : ℕ)
deriving DecidableEq

structure Attr where
  id : AttrId
  value : AttrValue
deriving DecidableEq

def meter_type_map : List String := ["PACKETS", "BYTES"]

def policer_mode_map : List String := ["SR_TCM", "TR_TCM", "STORM_CONTROL"]

def policer_color_source_map : List String := ["AWARE", "BLIND"]

def packet_action_map : List String :=
  ["DROP", "FORWARD", "COPY", "COPY_CANCEL", "TRAP", "LOG", "DENY", "TRANSIT"]

/-- `to_upper` -/
def to_upper (s : String) : String := String.ofList (s.toList.map Char.toUpper)

/-- `map::at`; `none` is an exception. -/
def enumerator (names : List String) (value : String) : Option AttrValue :=
  if value ∈ names then some (.s32 value) else none

/-- `stoul`; `none` is an exception. -/
def number (value : String) : Option AttrValue := (Copp.stoul value).map .u64

/-- The attribute of a field, and how its value is read; `none` is an unknown field. -/
def reader (field : String) : Option (AttrId × (String → Option AttrValue)) :=
  if field = "METER_TYPE" then some (.METER_TYPE, enumerator meter_type_map)
  else if field = "MODE" then some (.MODE, enumerator policer_mode_map)
  else if field = "COLOR_SOURCE" then some (.COLOR_SOURCE, enumerator policer_color_source_map)
  else if field = "CBS" then some (.CBS, number)
  else if field = "CIR" then some (.CIR, number)
  else if field = "PBS" then some (.PBS, number)
  else if field = "PIR" then some (.PIR, number)
  else if field = "RED_PACKET_ACTION" then some (.RED_PACKET_ACTION, enumerator packet_action_map)
  else if field = "GREEN_PACKET_ACTION" then
    some (.GREEN_PACKET_ACTION, enumerator packet_action_map)
  else if field = "YELLOW_PACKET_ACTION" then
    some (.YELLOW_PACKET_ACTION, enumerator packet_action_map)
  else none

/-- The loop over the fields of a SET: `attrs`; `none` is an exception. -/
def readFields : List FieldValueTuple → Option (List Attr)
  | [] => some []
  | i :: rest =>
    match reader (to_upper i.1) with
    | none => readFields rest
    | some (id, read) => do
        let value ← read (to_upper i.2)
        let attrs ← readFields rest
        some (⟨id, value⟩ :: attrs)

/-- An attribute is among the attributes of a SET: `meter_type` and `mode`. -/
def Named (id : AttrId) (attrs : List Attr) : Prop := ∃ attr ∈ attrs, attr.id = id

instance {id : AttrId} {attrs : List Attr} : Decidable (Named id attrs) :=
  inferInstanceAs (Decidable (∃ attr ∈ attrs, attr.id = id))

/-- The attributes that an update sets. -/
def rates (attrs : List Attr) : List Attr :=
  attrs.filter fun attr => attr.id = .CBS ∨ attr.id = .CIR ∨ attr.id = .PBS ∨ attr.id = .PIR

/-! ### One task -/

structure PolicerOrch where
  m_syncdPolicers : ExtTreeMap String sai_object_id_t
  m_policerRefCounts : ExtTreeMap String ℤ

/-- The answers of the ASIC in one pass, in which every key is handled at most once.  Setting is
by the position of the attribute among those that the update sets. -/
structure Sai where
  create_policer : String → Option sai_object_id_t
  set_policer_attribute : String → ℕ → Bool
  remove_policer : String → Bool

/-- A call to the ASIC, and whether it succeeded. -/
inductive Call
  | create (attrs : List Attr) (ok : Bool)
  | set (attr : Attr) (ok : Bool)
  | remove (ok : Bool)

def Call.ok : Call → Bool
  | .create _ ok => ok
  | .set _ ok => ok
  | .remove ok => ok

/-- What became of a task that was handled. -/
inductive Verdict
  | completed
  /-- an error that no retry mends is logged -/
  | invalid
  | failed
  | referenced
deriving DecidableEq

structure Visit where
  task : KeyOpFieldsValuesTuple
  verdict : Verdict
  calls : List Call

/-- What becomes of the iterator. -/
inductive Move
  /-- `it++` -/
  | keep
  /-- `it++` some times, then `it = m_toSync.erase(it)` -/
  | eraseAfter (n : ℕ)

/-- The turn of a task. -/
inductive Turn
  | next (orch : PolicerOrch) (visit : Visit) (move : Move)
  | exception
  /-- neither SET nor DEL: the iterator stays where it is -/
  | stay

/-- The calls that set the attributes of an update. -/
def setCalls (sai : Sai) (key : String) (attrs : List Attr) : List Call :=
  (rates attrs).mapIdx fun i attr => .set attr (sai.set_policer_attribute key i)

/-- The branch of `doTask` that creates a policer. -/
def create (sai : Sai) (orch : PolicerOrch) (task : KeyOpFieldsValuesTuple) (attrs : List Attr) :
    Turn :=
  let key := task.kfvKey
  let named : Bool := Named .METER_TYPE attrs ∧ Named .MODE attrs
  match sai.create_policer key with
  | none =>
    .next orch ⟨task, if named then .failed else .invalid, [.create attrs false]⟩ .keep
  | some policer_id =>
    .next ⟨orch.m_syncdPolicers.insert key policer_id, orch.m_policerRefCounts.insert key 0⟩
      ⟨task, if named then .completed else .invalid, [.create attrs true]⟩ (.eraseAfter 0)

/-- The branch of `doTask` that updates a policer. -/
def update (sai : Sai) (orch : PolicerOrch) (task : KeyOpFieldsValuesTuple) (attrs : List Attr) :
    Turn :=
  let calls := setCalls sai task.kfvKey attrs
  let failures := calls.countP fun call => call.ok = false
  .next orch ⟨task, if failures = 0 then .completed else .failed, calls⟩ (.eraseAfter failures)

/-- The branch of `doTask` for a DEL. -/
def remove (sai : Sai) (orch : PolicerOrch) (task : KeyOpFieldsValuesTuple) : Turn :=
  let key := task.kfvKey
  if key ∉ orch.m_syncdPolicers then .next orch ⟨task, .invalid, []⟩ (.eraseAfter 0)
  else if 0 < orch.m_policerRefCounts[key]?.getD 0 then .next orch ⟨task, .referenced, []⟩ .keep
  else if sai.remove_policer key then
    .next ⟨orch.m_syncdPolicers.erase key, orch.m_policerRefCounts.erase key⟩
      ⟨task, .completed, [.remove true]⟩ (.eraseAfter 0)
  else .next orch ⟨task, .failed, [.remove false]⟩ .keep

/-- The body of the loop of `doTask`. -/
def handle (sai : Sai) (orch : PolicerOrch) (task : KeyOpFieldsValuesTuple) : Turn :=
  if task.kfvOp = SET_COMMAND then
    match readFields task.kfvFieldsValues with
    | none => .exception
    | some attrs =>
      if task.kfvKey ∈ orch.m_syncdPolicers then update sai orch task attrs
      else create sai orch task attrs
  else if task.kfvOp = DEL_COMMAND then remove sai orch task
  else .stay

/-! ### The loop -/

/-- How a pass ends. -/
inductive Outcome
  | done (m_toSync : List KeyOpFieldsValuesTuple) (orch : PolicerOrch) (visits : List Visit)
  /-- an exception leaves `doTask` -/
  | thrown
  /-- the iterator is advanced, or an element erased, at the end -/
  | pastEnd
  | endless

/-- A visit before those of the rest of the pass. -/
def Outcome.after (visit : Visit) : Outcome → Outcome
  | .done m_toSync orch visits => .done m_toSync orch (visit :: visits)
  | o => o

/-- The loop: the tasks that are kept, whether the iterator is on its way to a task that is
erased and how many steps it still takes, and the tasks from the iterator on. -/
def loop (sai : Sai) : List KeyOpFieldsValuesTuple → Option ℕ → List KeyOpFieldsValuesTuple →
    PolicerOrch → Outcome
  | kept, none, [], orch => .done kept orch []
  | _, some _, [], _ => .pastEnd
  | kept, some 0, _ :: rest, orch => loop sai kept none rest orch
  | kept, some (n + 1), it :: rest, orch => loop sai (kept ++ [it]) (some n) rest orch
  | kept, none, it :: rest, orch =>
    match handle sai orch it with
    | .exception => .thrown
    | .stay => .endless
    | .next orch visit .keep => (loop sai (kept ++ [it]) none rest orch).after visit
    | .next orch visit (.eraseAfter 0) => (loop sai kept none rest orch).after visit
    | .next orch visit (.eraseAfter (n + 1)) =>
      (loop sai (kept ++ [it]) (some n) rest orch).after visit

/-- `PolicerOrch::doTask`, with the answer of `allPortsReady`. -/
def doTask (allPortsReady : Bool) (sai : Sai) (m_toSync : SyncMap) (orch : PolicerOrch) :
    Outcome :=
  if ¬ allPortsReady then .done m_toSync.tasks orch []
  else loop sai [] none m_toSync.tasks orch

end Orchagent.Policer
