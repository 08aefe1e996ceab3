/-
Common/ProducerStateTable.lean

The producer side of a state table: the scripts behind `set`, `del` and `clear`.

A call is marshalled into the flat argument list of EVALSHA and executed by a
Lua script, atomically.  `evalSet`, `evalDel` and `evalClear` are the calls with
their argument lists as the C++ builds them and the scripts as the server runs
them; the theorems `evalSet_eq`, `evalDel_eq` and `evalClear_eq` read the
positional encoding back and give the effect of each call on the database.  All
later modules work with the effects.

With a temporary view active, `set` and `del` do not reach the database at all:
they edit the view kept in the producer (`ProducerStateTable.set`).
-/
import Sonic.Common.Table

namespace Swss

open Redis
open Std (ExtTreeMap)

/-! ### The scripts -/

/-- `luaSet`. -/
def luaSet : Script Db := fun KEYS ARGV db => do
  let keySet ← Lua.index KEYS 2
  let key ← Lua.index ARGV 2
  let (db, added) := db.sadd keySet key
  let db ← Lua.forLoop 0 ((KEYS.length : ℤ) - 3) (fun db i => do
      let hash ← Lua.index KEYS (3 + i)
      let field ← Lua.index ARGV (3 + i * 2)
      let value ← Lua.index ARGV (4 + i * 2)
      some (db.hset hash field value)) db
  if added > 0 then
    let channel ← Lua.index KEYS 1
    let _ ← Lua.index ARGV 1
    some (db.publish channel)
  else some db

/-- `luaDel`. -/
def luaDel : Script Db := fun KEYS ARGV db => do
  let keySet ← Lua.index KEYS 2
  let key ← Lua.index ARGV 2
  let (db, added) := db.sadd keySet key
  let delSet ← Lua.index KEYS 4
  let db := (db.sadd delSet key).1
  let hash ← Lua.index KEYS 3
  let db := db.del hash
  if added > 0 then
    let channel ← Lua.index KEYS 1
    let _ ← Lua.index ARGV 1
    some (db.publish channel)
  else some db

/-- `luaClear`. -/
def luaClear : Script Db := fun KEYS _ db => do
  let keySet ← Lua.index KEYS 1
  let db := db.del keySet
  let statePrefix ← Lua.index KEYS 2
  let db := db.delAll (db.keys statePrefix)
  let delSet ← Lua.index KEYS 3
  some (db.del delSet)

/-! ### The calls -/

variable (t : TableBase) (key : String) (values : List FieldValueTuple)

/-- `ProducerStateTable::set` outside a temporary view. -/
def evalSet (db : Db) : Option Db :=
  let args := [t.getChannelName, t.getKeySetName]
    ++ List.replicate values.length (t.getStateHashPrefix ++ t.getKeyName key)
    ++ (["G", key] ++ flatten values)
  evalsha luaSet (toString (values.length + 2)) args db

/-- `ProducerStateTable::del` outside a temporary view. -/
def evalDel (db : Db) : Option Db :=
  let args := [t.getChannelName, t.getKeySetName,
      t.getStateHashPrefix ++ t.getKeyName key, t.getDelKeySetName]
    ++ ["G", key, "''", "''"]
  evalsha luaDel "4" args db

/-- `ProducerStateTable::clear`. -/
def evalClear (db : Db) : Option Db :=
  let args := [t.getKeySetName, t.getStateHashPrefix ++ t.tableName, t.getDelKeySetName]
  evalsha luaClear "3" args db

/-! ### The effects -/

/-- Announce a key that a call has added to the key set. -/
def announce (added : ℕ) (db : Db) : Db :=
  if added > 0 then db.publish t.getChannelName else db

/-- The effect of `set`. -/
def setEffect (db : Db) : Db :=
  let (db, added) := db.sadd t.getKeySetName key
  announce t added (db.hsetAll (t.getStateHashPrefix ++ t.getKeyName key) values)

/-- The effect of `del`. -/
def delEffect (db : Db) : Db :=
  let (db, added) := db.sadd t.getKeySetName key
  announce t added ((db.sadd t.getDelKeySetName key).1.del
    (t.getStateHashPrefix ++ t.getKeyName key))

/-- The effect of `clear`. -/
def clearEffect (db : Db) : Db :=
  let db := db.del t.getKeySetName
  (db.delAll (db.keys (t.getStateHashPrefix ++ t.tableName))).del t.getDelKeySetName

variable {t : TableBase} {key k : String} {values : List FieldValueTuple} {db : Db}

/-- **The positional arguments of `set` are read back as they were meant.** -/
theorem evalSet_eq : evalSet t key values db = some (setEffect t key values db) := by
  have hkeys : ∀ i, i < values.length →
      (List.replicate values.length (t.getStateHashPrefix ++ t.getKeyName key))[i]?
        = some (t.getStateHashPrefix ++ t.getKeyName key) := by
    intro i hi
    simp [hi]
  have hloop : ∀ db' : Db, Lua.forLoop 0 (((values.length + 2 : ℕ) : ℤ) - 3) (fun db i => do
      let hash ← Lua.index ([t.getChannelName, t.getKeySetName]
        ++ List.replicate values.length (t.getStateHashPrefix ++ t.getKeyName key)) (3 + i)
      let field ← Lua.index (["G", key] ++ flatten values) (3 + i * 2)
      let value ← Lua.index (["G", key] ++ flatten values) (4 + i * 2)
      some (db.hset hash field value)) db'
        = some (db'.hsetAll (t.getStateHashPrefix ++ t.getKeyName key) values) := by
    refine Lua.forLoop_eq_foldl (by push_cast; ring) ?_
    intro db' i fv hfv
    have hi : i < values.length := (List.getElem?_eq_some_iff.mp hfv).1
    obtain ⟨hfield, hvalue⟩ := getElem?_flatten hfv []
    rw [List.append_nil] at hfield hvalue
    rw [show 3 + (0 + i) = i + 2 + 1 by omega, show 3 + (0 + i) * 2 = 2 * i + 2 + 1 by omega,
      show 4 + (0 + i) * 2 = 2 * i + 1 + 2 + 1 by omega]
    simp [hkeys i hi, hfield, hvalue]
  have hlen : ([t.getChannelName, t.getKeySetName]
      ++ List.replicate values.length (t.getStateHashPrefix ++ t.getKeyName key)).length
        = values.length + 2 := by
    simp
  rw [evalSet, evalsha_append hlen.symm, luaSet, hlen]
  simp only [Option.bind_eq_bind] at hloop ⊢
  simp only [hloop]
  by_cases hadded : key ∈ db.smembers t.getKeySetName <;>
    simp [setEffect, announce, Db.sadd, hadded]

/-- The positional arguments of `del` are read back as they were meant. -/
theorem evalDel_eq : evalDel t key db = some (delEffect t key db) := by
  rw [evalDel, show ("4" : String) = toString 4 from rfl, evalsha_append (n := 4) rfl, luaDel]
  by_cases hadded : key ∈ db.smembers t.getKeySetName <;>
    simp [delEffect, announce, Db.sadd, hadded]

/-- The positional arguments of `clear` are read back as they were meant. -/
theorem evalClear_eq : evalClear t db = some (clearEffect t db) := by
  rw [evalClear, show ("3" : String) = toString 3 from rfl, ← List.append_nil (_ :: _),
    evalsha_append (n := 3) rfl, luaClear]
  simp [clearEffect]

/-! ### The producer with its temporary view -/

/-- `TableMap` and `TableDump`. -/
abbrev TableMap := ExtTreeMap String String
abbrev TableDump := ExtTreeMap String TableMap

/-- The members of `ProducerStateTable` that its calls read and write. -/
structure ProducerStateTable where
  table : TableBase
  tempViewActive : Bool
  tempViewState : TableDump

namespace ProducerStateTable

/-- The writes `m_tempViewState[key][field] = value` of `set`: a call without
fields does not even create the key. -/
def tempViewSet (view : TableDump) (key : String) (values : List FieldValueTuple) :
    TableDump :=
  values.foldl (fun view iv => view.insert key ((view.getD key ∅).insert iv.1 iv.2)) view

/-- `ProducerStateTable::set`. -/
def set (p : ProducerStateTable) (key : String) (values : List FieldValueTuple) (db : Db) :
    Option (ProducerStateTable × Db) :=
  if p.tempViewActive then
    -- write to the temporary view instead of the database
    some ({ p with tempViewState := tempViewSet p.tempViewState key values }, db)
  else do
    let db ← evalSet p.table key values db
    some (p, db)

/-- `ProducerStateTable::del`. -/
def del (p : ProducerStateTable) (key : String) (db : Db) :
    Option (ProducerStateTable × Db) :=
  if p.tempViewActive then
    some ({ p with tempViewState := p.tempViewState.erase key }, db)
  else do
    let db ← evalDel p.table key db
    some (p, db)

end ProducerStateTable

end Swss
