/-
Common/ConsumerTable.lean

The ordered queue of commands: `ProducerTable`, the script behind `ConsumerTable::pops`, and the
tuples that the C++ makes of its reply.

A command is three strings at the head of a list: its key, its value and its operation, which has
one more letter in front for set or del.  The script cuts the oldest commands off the list, decodes
their values, writes what they say to the table and replies all of them.  What it has done when one
of its statements fails stays done; only the reply is lost.
-/
import Sonic.Common.Table
import Sonic.Common.Tokenize
import Sonic.Lib.Json

namespace Swss

open Redis

/-- What a C function sees of a string: its characters up to the first null. -/
def c_str (s : String) : String := String.ofList (s.toList.takeWhile (· ≠ '\x00'))

/-! ### The producer -/

/-- `JSon::buildJson`: an array, to save the order. -/
def buildJson (fv : List FieldValueTuple) : String :=
  String.ofList (Json.dump (.array
    (fv.flatMap fun i => [.string i.1.toList, .string i.2.toList])))

/-- The arguments of a command in the pipeline. -/
structure QueueCommand where
  key : String
  value : String
  op : String
  deriving DecidableEq

namespace ProducerTable

def enqueueDbChange (key value op : String) : QueueCommand := ⟨c_str key, c_str value, c_str op⟩

def set (key : String) (values : List FieldValueTuple) (op : String) : QueueCommand :=
  enqueueDbChange key (buildJson values) ("S" ++ op)

def del (key op : String) : QueueCommand := enqueueDbChange key "\x7b\x7d" ("D" ++ op)

/-- `luaEnque`: LPUSH of the key, the value and the operation. -/
def luaEnque (c : QueueCommand) (queue : List String) : List String :=
  c.op :: c.value :: c.key :: queue

end ProducerTable

/-! ### The script -/

namespace ConsumerTable

/-- `string.find` of a character, with what is before and what is after it. -/
def find (s : String) (c : Char) : Option (String × String) :=
  if c ∈ s.toList then
    some (String.ofList (s.toList.takeWhile (· ≠ c)),
      String.ofList (s.toList.dropWhile (· ≠ c)).tail)
  else none

/-- `string.gmatch` of the longest pieces without a vertical bar. -/
def pieces (s : String) : List String :=
  ((s.toList.splitOn '|').filter (· ≠ [])).map String.ofList

/-- The items of an array, two by two. -/
def pairUp : List Json → Option (List FieldValueTuple)
  | [] => some []
  | .string field :: .string value :: items =>
    (pairUp items).map ((String.ofList field, String.ofList value) :: ·)
  | _ => none

/-- `cjson.decode` of a value of the queue, and what `#` counts of it: nothing of an object. -/
def decode (value : String) : Option (List FieldValueTuple) :=
  match Json.parse value.toList with
  | some (.array items) => pairUp items
  | some (.object _) => some []
  | _ => none

/-- The operations that write to the table. -/
def writing : List String := ["set", "SET", "create", "remove", "DEL"]

/-- The operations that only trigger actions or get data. -/
def triggering : List String :=
  ["flush", "flushresponse", "get", "getresponse", "notify", "get_stats", "clear_stats",
    "attr_enum_values_capability_query", "attr_enum_values_capability_response",
    "object_type_get_availability_query", "object_type_get_availability_response"]

/-- The loop over the attributes of one object, and whether it went through. -/
def hsetPieces (keyname : String) : List String → Db → Db × Bool
  | [], db => (db, true)
  | value :: values, db =>
    match find value '=' with
    | none => (db, false)
    | some (attr, val) => hsetPieces keyname values (db.hset keyname attr val)

/-- The loop over the objects of a bulk operation. -/
def bulkLoop (tablename key op : String) : List FieldValueTuple → Db → Db × Bool
  | [], db => (db, true)
  | (field, vars) :: ret, db =>
    let keyname := tablename ++ ":" ++ key ++ ":" ++ field
    if op = "bulkremove" then bulkLoop tablename key op ret (db.del keyname)
    else
      match hsetPieces keyname (pieces vars) db with
      | (db, true) => bulkLoop tablename key op ret db
      | (db, false) => (db, false)

/-- What one command does to the table, and whether no statement failed. -/
def applyCommand (tablename dbop : String) (ret : KeyOpFieldsValuesTuple) (db : Db) : Db × Bool :=
  if ret.kfvOp = "bulkset" ∨ ret.kfvOp = "bulkcreate" ∨ ret.kfvOp = "bulkremove" then
    -- the key is an object type and a number
    match find ret.kfvKey ':' with
    | none => (db, false)
    | some (key, _) => bulkLoop tablename key ret.kfvOp ret.kfvFieldsValues db
  else if ret.kfvOp ∈ writing then
    let keyname := if ret.kfvKey = "" then tablename else tablename ++ ":" ++ ret.kfvKey
    if dbop = "D" then (db.del keyname, true)
    else (db.hsetAll keyname ret.kfvFieldsValues, true)
  else (db, ret.kfvOp ∈ triggering)

/-- The loop over the commands, from the end of the list on. -/
def popLoop (tablename : String) : List String → List KeyOpFieldsValuesTuple → Db →
    Db × Option (List KeyOpFieldsValuesTuple)
  | [], rets, db => (db, some rets)
  | key :: value :: op :: keys, rets, db =>
    match decode value with
    | none => (db, none)
    | some fvs =>
      let ret : KeyOpFieldsValuesTuple := ⟨key, String.ofList (op.toList.drop 1), fvs⟩
      match applyCommand tablename (String.ofList (op.toList.take 1)) ret db with
      | (db, true) => popLoop tablename keys (rets ++ [ret]) db
      | (db, false) => (db, none)
  | _, _, db => (db, none)

/-- Where the last elements of a list begin: 0 from the end is the head. -/
def lastFrom (queue : List String) (popsize : ℕ) : ℕ :=
  if popsize = 0 then 0 else queue.length - popsize

/-- What LTRIM leaves without as many elements: it leaves all without none. -/
def trimmed (queue : List String) (popsize : ℕ) : List String :=
  if popsize = 0 then queue else queue.take (queue.length - popsize)

/-- `consumer_table_pops.lua`: the list that is left, the database, and the reply if there is
one. -/
def luaPops (tablename : String) (batch : ℕ) (queue : List String) (db : Db) :
    List String × Db × Option (List KeyOpFieldsValuesTuple) :=
  let popsize := batch * 3
  let keys := queue.drop (lastFrom queue popsize)
  (trimmed queue popsize, popLoop tablename keys.reverse [] db)

/-! ### The consumer -/

/-- The tuple made of an element of the reply, by its C strings. -/
def readElement (ret : KeyOpFieldsValuesTuple) : KeyOpFieldsValuesTuple :=
  ⟨c_str ret.kfvKey, c_str ret.kfvOp, ret.kfvFieldsValues.map fun e => (c_str e.1, c_str e.2)⟩

end ConsumerTable

end Swss
