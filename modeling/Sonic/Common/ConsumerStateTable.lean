/-
Common/ConsumerStateTable.lean

The consumer side of a state table: the script behind `pops` and the tuples the
C++ makes of its reply.

SPOP picks its keys at random, so the popped keys are a parameter of the script;
`IsSpop` says which lists the server may reply.  For each key the script clears
the hash if the key is in the delete set, reads the pending hash, copies it into
the table and removes it.  The C++ then takes a tuple without fields for a
deletion.
-/
import Sonic.Common.ProducerStateTable

namespace Swss

open Redis
open FieldMap (merge merge_toList)

/-- The body of the loop of `consumer_state_table_pops.lua` for one key. -/
def luaPopKey (tablename statePrefix delSet : String)
    (acc : Db × List (String × List FieldValueTuple)) (key : String) :
    Db × List (String × List FieldValueTuple) :=
  -- check if there was a request to delete the key, clear it in the table first
  let (db, num) := acc.1.srem delSet key
  let db := if num = 1 then db.del (tablename ++ key) else db
  -- push the new set of fields and values for this key into the table
  let fieldvalues := (db.hgetall (statePrefix ++ tablename ++ key)).toList
  let db := db.hsetAll (tablename ++ key) fieldvalues
  -- clean up the key in the temporary state table
  (db.del (statePrefix ++ tablename ++ key), acc.2 ++ [(key, fieldvalues)])

/-- `consumer_state_table_pops.lua`, for SPOP replying `popped`. -/
def luaPops (popped : List String) : Script (Db × List (String × List FieldValueTuple)) :=
  fun KEYS ARGV db => do
    let tablename ← Lua.index KEYS 2
    let statePrefix ← Lua.index ARGV 2
    let keySet ← Lua.index KEYS 1
    let count ← Lua.index ARGV 1
    let _ ← Lua.tonumber count
    let delSet ← Lua.index KEYS 3
    some (popped.foldl (luaPopKey tablename statePrefix delSet) (db.spop keySet popped, []))

/-- The tuple made of one element of the reply. -/
def readTuple (reply : String × List FieldValueTuple) : KeyOpFieldsValuesTuple where
  kfvKey := reply.1
  -- if there is no field-value pair, the key is already deleted
  kfvOp := if reply.2.isEmpty then DEL_COMMAND else SET_COMMAND
  kfvFieldsValues := reply.2

/-- `ConsumerStateTable::pops`. -/
def evalPops (t : TableBase) (popBatchSize : ℕ) (popped : List String) (db : Db) :
    Option (Db × List KeyOpFieldsValuesTuple) := do
  let (db, reply) ← evalsha (luaPops popped) "3"
    ([t.getKeySetName, t.tableName ++ ":", t.getDelKeySetName]
      ++ [toString popBatchSize, t.getStateHashPrefix]) db
  some (db, reply.map readTuple)

/-- The effect of `pops` on the database, and its reply. -/
def popsEffect (t : TableBase) (popped : List String) (db : Db) :
    Db × List (String × List FieldValueTuple) :=
  popped.foldl (luaPopKey (t.tableName ++ ":") t.getStateHashPrefix t.getDelKeySetName)
    (db.spop t.getKeySetName popped, [])

variable {t : TableBase} {popBatchSize : ℕ} {popped : List String} {db : Db}

/-- The positional arguments of `pops` are read back as they were meant. -/
theorem evalPops_eq :
    evalPops t popBatchSize popped db =
      some ((popsEffect t popped db).1, (popsEffect t popped db).2.map readTuple) := by
  rw [evalPops, show ("3" : String) = toString 3 from rfl, evalsha_append (n := 3) rfl, luaPops]
  simp [popsEffect]

end Swss
