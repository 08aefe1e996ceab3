/-
AclLoader/Update.lean

`full_update` and `incremental_update`.

Both make one call of the connector after the other and stop at the first exception, with what
was written so far in the database: `run` gives the database and the exception.  `full_update`
removes the old rules, of the current table only if there is one, and writes the new ones.
`incremental_update` asks for the kind of the table of every rule, new and old, before it writes;
then it removes all old data plane rules, writes the new ones, and compares the control plane
rules one by one.
-/
import Sonic.AclLoader.Priorities

namespace SonicUtilities

open Redis PyText Swsssdk Outcome
open Std (ExtTreeMap)

/-! ### Calls in a row -/

/-- Make the calls up to the first exception. -/
def run : List (Db → Except PyError Db) → Db → Db × Option PyError
  | [], db => (db, none)
  | call :: calls, db =>
    match call db with
    | .ok db => run calls db
    | .error e => (db, some e)

theorem run_append {calls calls' : List (Db → Except PyError Db)} {db : Db} :
    run (calls ++ calls') db =
      match run calls db with
      | (db, none) => run calls' db
      | (db, some e) => (db, some e) := by
  induction calls generalizing db with
  | nil => rfl
  | cons call calls ih =>
    rw [List.cons_append, run, run]
    cases call db with
    | ok db => exact ih
    | error e => rfl

/-- The database of configurations. -/
def configdb : ConfigDBConnector := ⟨"|"⟩

/-- An exception of the connector. -/
def raised {α : Type} : Except Exn α → Except PyError α
  | .ok a => .ok a
  | .error .wrongType => .error .response

/-- `key[0]`. -/
def keyTable : Key → Except PyError String
  | .tuple first _ _ => .ok first
  | .str key =>
    match key.toList with
    | [] => .error .indexError
    | c :: _ => .ok (String.ofList [c])

/-- The row that is written for a rule. -/
def ruleRow (props : RuleProps) : Dict String FieldValue :=
  props.mapValues fun value => .str value.text

/-- The row is the one that was read: `cmp` is zero.  A number is not the text that it is
stored as. -/
def sameRow (props : RuleProps) (row : Option Row) : Bool :=
  row = some (ruleRow props).toMap ∧ props.items.all fun p =>
    match p.2 with
    | .str _ => true
    | .int _ => false

namespace AclLoader

variable (L : AclLoader)

/-- `mod_entry(ACL_RULE, key, None)`. -/
def removeRule (key : Key) (db : Db) : Except PyError Db :=
  raised (configdb.modEntry ACL_RULE key none db)

/-- `mod_entry(ACL_RULE, key, rules_info[key])`. -/
def writeRule (rule : Key × RuleProps) (db : Db) : Except PyError Db :=
  raised (configdb.modEntry ACL_RULE rule.1 (some (ruleRow rule.2)) db)

/-- `current_table is None or current_table == key[0]`. -/
def inCurrentTable (key : Key) : Except PyError Bool :=
  match L.current_table with
  | none => .ok true
  | some table => do
      let first ← keyTable key
      .ok (table = first)

/-- One turn of the first loop of `full_update`. -/
def removeInTable (key : Key) (db : Db) : Except PyError Db := do
  let inTable ← L.inCurrentTable key
  if inTable then removeRule key db else .ok db

/-- `full_update`, for the old rules in the order `keys`; `mod_config` of one table is a
`mod_entry` for each rule. -/
def fullUpdate (keys : List Key) (rules : Rules) : Db → Db × Option PyError :=
  run (keys.map L.removeInTable ++ rules.items.map writeRule)

/-- Whether the table of a rule is for the control plane. -/
def ruleControlPlane (key : Key) : Except PyError Bool := do
  let first ← keyTable key
  L.isTableControlPlane first

/-- One turn of the last loop of `incremental_update`. -/
def changeRule (o : Orders) (rule : Key × RuleProps) (db : Db) : Except PyError Db :=
  if sameRow rule.2 L.rules_db_info[rule.1]? then .ok db
  else raised (configdb.setEntry o ACL_RULE rule.1 (some (ruleRow rule.2)) db)

/-- `incremental_update`, for the old rules in the order `keys`. -/
def incrementalUpdate (o : Orders) (keys : List Key) (rules : Rules) (db : Db) :
    Db × Option PyError :=
  match rules.items.mapM (fun rule => L.ruleControlPlane rule.1) with
  | .error e => (db, some e)
  | .ok _ =>
    match keys.mapM L.ruleControlPlane with
    | .error e => (db, some e)
    | .ok _ =>
      let isControlPlane := fun key => L.ruleControlPlane key = .ok true
      let current_dataplane := keys.filter fun key => ¬ isControlPlane key
      let current_controlplane := keys.filter fun key => isControlPlane key
      let new_dataplane := rules.items.filter fun rule => ¬ isControlPlane rule.1
      let new_controlplane := rules.items.filter fun rule => isControlPlane rule.1
      let added := new_controlplane.filter fun rule => rule.1 ∉ current_controlplane
      let removed := current_controlplane.filter fun key =>
        key ∉ new_controlplane.map Prod.fst
      let existing := rules.items.filter fun rule => rule.1 ∈ current_controlplane
      run (current_dataplane.map removeRule ++ new_dataplane.map writeRule ++
        added.map writeRule ++ removed.map removeRule ++ existing.map (L.changeRule o)) db

end AclLoader

end SonicUtilities
