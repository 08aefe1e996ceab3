/-
Swsssdk/ConfigDb.lean

`ConfigDBConnector`: typed rows over the hashes of a database.

A list value is stored under the name of its field and an `@`, a row without fields as the
placeholder `NULL`, a tuple key as its parts joined by the separator of the class.  Tables are
found by the separator of the database that the connector is opened on.

The server gives the fields of a hash and the names of KEYS in an unspecified order, which is
not the same from call to call: every call has its own `Orders`.  The keys of the database that
hold something else than a hash are the sets of `Redis.Db`; a command for hashes on one of them
is an error.
-/
import Sonic.Redis.Glob
import Sonic.Lib.Outcome
import Sonic.Lib.PyText

namespace Swsssdk

open Redis PyText
open Std (ExtTreeMap)

/-! ### The data -/

/-- A dict, in the order in which it is gone through. -/
structure Dict (K V : Type*) where
  items : List (K × V)
  nodup : (items.map Prod.fst).Nodup

/-- The value of a field of a row. -/
inductive FieldValue where
  | str (value : String)
  | list (value : List String)
  deriving DecidableEq

/-- A row that was read. -/
abbrev Row := ExtTreeMap String FieldValue

/-- A key: a string or a tuple of two or more. -/
inductive Key where
  | str (key : String)
  | tuple (first second : String) (rest : List String)
  deriving DecidableEq

/-- The strings a key is made of. -/
def Key.parts : Key → List String
  | .str key => [key]
  | .tuple first second rest => first :: second :: rest

theorem Key.parts_injective : Function.Injective Key.parts := by
  intro a b h
  cases a with
  | str key =>
    cases b with
    | str key' => exact congrArg Key.str (List.cons.inj h).1
    | tuple first second rest => cases (List.cons.inj h).2
  | tuple first second rest =>
    cases b with
    | str key' => cases (List.cons.inj h).2
    | tuple first' second' rest' =>
      obtain ⟨rfl, htail⟩ := List.cons.inj h
      obtain ⟨rfl, rfl⟩ := List.cons.inj htail
      rfl

instance : Ord Key := ⟨fun a b => compare a.parts b.parts⟩

instance : Std.TransOrd Key :=
  inferInstanceAs (Std.TransCmp (compareOn Key.parts))

instance : Std.LawfulEqOrd Key where
  eq_of_compare h := Key.parts_injective (Std.LawfulEqCmp.eq_of_compare h)

/-- What a call raises. -/
inductive Exn where
  /-- `redis.ResponseError`: the key holds the wrong kind of value. -/
  | wrongType
  deriving DecidableEq

/-- The orders of the replies within one call. -/
structure Orders where
  hgetall : List (String × String) → List (String × String)
  keys : List String → List String
  hgetall_perm : ∀ l, (hgetall l).Perm l
  keys_perm : ∀ l, (keys l).Perm l

/-! ### The client -/

/-- HGETALL. -/
def hgetall (o : Orders) (name : String) (db : Db) : Except Exn (List (String × String)) :=
  if db.smembers name = ∅ then .ok (o.hgetall (db.hgetall name).toList) else .error .wrongType

/-- HMSET. -/
def hmset (name : String) (values : List (String × String)) (db : Db) : Except Exn Db :=
  if db.smembers name = ∅ then .ok (db.hsetAll name values) else .error .wrongType

/-- HDEL. -/
def hdel (name field : String) (db : Db) : Except Exn Db :=
  if db.smembers name = ∅ then .ok (db.hdelAll name [field]) else .error .wrongType

/-! ### Raw and typed rows -/

/-- `key.endswith("@")`. -/
def endsWithAt (key : String) : Bool := key.toList.getLast? = some '@'

/-- One turn of the loop of `__raw_to_typed`. -/
def readField (typed : Row) (raw : String × String) : Row :=
  if raw.1 = "NULL" then typed
  else if endsWithAt raw.1 then
    typed.insert (String.ofList raw.1.toList.dropLast) (.list (split ',' raw.2))
  else typed.insert raw.1 (.str raw.2)

/-- `__raw_to_typed`. -/
def rawToTyped (raw : List (String × String)) : Row := raw.foldl readField ∅

/-- The raw name of a field. -/
def rawName (key : String) : FieldValue → String
  | .str _ => key
  | .list _ => key ++ "@"

/-- The raw value of a field. -/
def rawValue : FieldValue → String
  | .str value => value
  | .list value => join ',' value

/-- `__typed_to_raw`. -/
def typedToRaw (data : List (String × FieldValue)) : List (String × String) :=
  if data = [] then [("NULL", "NULL")]
  else data.map fun field => (rawName field.1 field.2, rawValue field.2)

/-! ### Keys -/

/-- `ConfigDBConnector.KEY_SEPARATOR`, of the class. -/
def KEY_SEPARATOR : Char := '|'

/-- `serialize_key`. -/
def serializeKey : Key → String
  | .str key => key
  | .tuple first second rest => join KEY_SEPARATOR (first :: second :: rest)

/-- `deserialize_key`. -/
def deserializeKey (key : String) : Key :=
  match split KEY_SEPARATOR key with
  | first :: second :: rest => .tuple first second rest
  | _ => .str key

/-! ### The connector -/

structure ConfigDBConnector where
  /-- `self.TABLE_NAME_SEPARATOR`: the separator of the database. -/
  TABLE_NAME_SEPARATOR : String

/-- A table that was read. -/
abbrev TableData := ExtTreeMap Key Row

namespace ConfigDBConnector

variable (c : ConfigDBConnector) (o : Orders)

/-- `_hash`. -/
def hashName (table : String) (key : Key) : String :=
  upper table ++ c.TABLE_NAME_SEPARATOR ++ serializeKey key

/-- `get_entry`. -/
def getEntry (table : String) (key : Key) (db : Db) : Except Exn Row := do
  let raw ← hgetall o (c.hashName table key) db
  .ok (rawToTyped raw)

/-- `set_entry`; `none` is `None`. -/
def setEntry (table : String) (key : Key) (data : Option (Dict String FieldValue)) (db : Db) :
    Except Exn Db := do
  let key := Key.str (serializeKey key)
  let hash := c.hashName table key
  match data with
  | none => .ok (db.del hash)
  | some data =>
    let original ← c.getEntry o table key db
    let db ← hmset hash (typedToRaw data.items) db
    let removed := original.toList.filter fun field => field.1 ∉ data.items.map Prod.fst
    removed.foldlM (fun db field => hdel hash (rawName field.1 field.2) db) db

/-- `mod_entry`. -/
def modEntry (table : String) (key : Key) (data : Option (Dict String FieldValue)) (db : Db) :
    Except Exn Db :=
  let key := Key.str (serializeKey key)
  let hash := c.hashName table key
  match data with
  | none => .ok (db.del hash)
  | some data => hmset hash (typedToRaw data.items) db

/-- The pattern of the names of a table. -/
def tablePattern (table : String) : String := upper table ++ c.TABLE_NAME_SEPARATOR ++ "*"

/-- `get_table`. -/
def getTable (table : String) (db : Db) : Except Exn TableData :=
  (o.keys (db.keysMatching (c.tablePattern table))).foldlM
    (fun data name => do
      let raw ← hgetall o name db
      let entry := rawToTyped raw
      match splitOnce c.TABLE_NAME_SEPARATOR name with
      | none => .ok data
      | some (_, row) => .ok (data.insert (deserializeKey row) entry)) ∅

/-- `mod_config`. -/
def modConfig (data : Dict String (Dict Key (Dict String FieldValue))) (db : Db) :
    Except Exn Db :=
  data.items.foldlM (fun db table =>
    table.2.items.foldlM (fun db entry => c.modEntry table.1 entry.1 (some entry.2) db) db) db

/-- `get_config`. -/
def getConfig (db : Db) : Except Exn (ExtTreeMap String TableData) :=
  (o.keys (db.keysMatching "*")).foldlM
    (fun data name =>
      match splitOnce c.TABLE_NAME_SEPARATOR name with
      | none => .ok data
      | some (table, row) => do
          let raw ← hgetall o name db
          let entry := rawToTyped raw
          .ok (data.insert table ((data[table]?.getD ∅).insert (deserializeKey row) entry))) ∅

end ConfigDBConnector

end Swsssdk
