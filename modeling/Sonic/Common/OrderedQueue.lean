/-
Common/OrderedQueue.lean

The ordered queue delivers every call once and in order, and the table is the replay of what it has
delivered.

`Request` is a call as its client means it, with the objects of a bulk call and their attributes,
and `singles` what it stands for in the table.  A call is sound if the script does just that
(`applyCommand_sound`); one that is not may fail the script, and then the whole batch is lost,
since it has been cut off the list before.
-/
import Sonic.Common.ConsumerTable
import Sonic.Syncd.BulkEvent

namespace Swss

open Redis Syncd

/-! ### Calls -/

/-- The bulk operations. -/
inductive Bulk where
  | bulkcreate
  | bulkset
  | bulkremove
  deriving DecidableEq

def Bulk.op : Bulk → String
  | .bulkcreate => "bulkcreate"
  | .bulkset => "bulkset"
  | .bulkremove => "bulkremove"

/-- A call of a producer table: any set, any del, and the bulk calls of the library. -/
inductive Request where
  | set (key : String) (values : List FieldValueTuple) (op : String)
  | del (key op : String)
  | bulk (api : Bulk) (object_type count : String)
      (objects : List (String × List FieldValueTuple))

/-- What a single call stands for in the table. -/
inductive Single where
  | write (key : String) (values : List FieldValueTuple)
  | remove (key : String)

/-- The name of the hash of a key. -/
def keyname (tablename key : String) : String :=
  if key = "" then tablename else tablename ++ ":" ++ key

def Single.apply (tablename : String) (db : Db) : Single → Db
  | .write key values => db.hsetAll (keyname tablename key) values
  | .remove key => db.del (keyname tablename key)

namespace Request

/-- The operations that write fields, and those that remove an object. -/
def creating : List String := ["set", "SET", "create"]

def removing : List String := ["remove", "DEL"]

/-- The fields of an object that is created: one without attributes has a placeholder. -/
def created : List FieldValueTuple → List FieldValueTuple
  | [] => [("NULL", "NULL")]
  | attrs => attrs

/-- What a call stands for: a bulk call for its single calls one after another. -/
def singles : Request → List Single
  | .set key values op =>
    if op ∈ creating then [.write key values] else if op ∈ removing then [.remove key] else []
  | .del key op =>
    if op ∈ removing then [.remove key] else if op ∈ creating then [.write key []] else []
  | .bulk .bulkcreate object_type _ objects =>
    objects.map fun o => .write (object_type ++ ":" ++ o.1) (created o.2)
  | .bulk .bulkset object_type _ objects =>
    objects.map fun o => .write (object_type ++ ":" ++ o.1) o.2
  | .bulk .bulkremove object_type _ objects =>
    objects.map fun o => .remove (object_type ++ ":" ++ o.1)

/-- What the library packs of the attributes of an object. -/
def packed : Bulk → List FieldValueTuple → String
  | .bulkremove, _ => ""
  | _, attrs => joinFieldValues attrs

/-- What is delivered of a call. -/
def tuple : Request → KeyOpFieldsValuesTuple
  | .set key values op => ⟨key, op, values⟩
  | .del key op => ⟨key, op, []⟩
  | .bulk api object_type count objects =>
    ⟨object_type ++ ":" ++ count, api.op, objects.map fun o => (o.1, packed api o.2)⟩

/-- What a call puts into the pipeline. -/
def command : Request → QueueCommand
  | .set key values op => ProducerTable.set key values op
  | .del key op => ProducerTable.del key op
  | .bulk api object_type count objects =>
    let kco := (Request.bulk api object_type count objects).tuple
    ProducerTable.set kco.kfvKey kco.kfvFieldsValues kco.kfvOp

/-- The database after a call. -/
def apply (tablename : String) (db : Db) (r : Request) : Db :=
  r.singles.foldl (Single.apply tablename) db

end Request

/-! ### Runs -/

/-- The calls that were made, the commands in the pipeline, the list, the database, and what was
delivered. -/
structure QueueState where
  made : List Request
  pending : List QueueCommand
  queue : List String
  db : Db
  delivered : List KeyOpFieldsValuesTuple

/-- What happens: a call, the execution of the oldest command of the pipeline, and a call of
`pops`.  A flush is the executions that follow a call. -/
inductive QueueAction where
  | call (r : Request)
  | transmit
  | pops (batch : ℕ)

def nextState (tablename : String) (st : QueueState) : QueueAction → QueueState
  | .call r => { st with made := st.made ++ [r], pending := st.pending ++ [r.command] }
  | .transmit =>
    match st.pending with
    | [] => st
    | c :: pending => { st with pending := pending, queue := ProducerTable.luaEnque c st.queue }
  | .pops batch =>
    match ConsumerTable.luaPops tablename batch st.queue st.db with
    | (queue, db, some rets) =>
      { st with queue := queue, db := db,
                delivered := st.delivered ++ rets.map ConsumerTable.readElement }
    -- the exception of an error reply
    | (queue, db, none) => { st with queue := queue, db := db }

/-- The state at first, with any database. -/
def initialState (db : Db) : QueueState := ⟨[], [], [], db, []⟩

/-- The strings of a command, as they are in the list from its end on. -/
def QueueCommand.strings (c : QueueCommand) : List String := [c.key, c.value, c.op]

/-- The calls are delivered, in the list and in the pipeline, in their order, and the database is
the replay of those that are delivered. -/
def InOrder (tablename : String) (db₀ : Db) (st : QueueState) : Prop :=
  ∃ done queued pending : List Request, st.made = done ++ queued ++ pending ∧
    st.delivered = done.map Request.tuple ∧
    st.queue.reverse = queued.flatMap (fun r => r.command.strings) ∧
    st.pending = pending.map Request.command ∧
    st.db = done.foldl (Request.apply tablename) db₀

/-! ### Sound calls -/

/-- A text without a null character. -/
def CString (s : String) : Prop := '\x00' ∉ s.toList

def CFields (values : List FieldValueTuple) : Prop :=
  ∀ value ∈ values, CString value.1 ∧ CString value.2

/-- A call that the script carries out as it is meant: its operation is supported and removes
exactly if it is a del, and what a bulk call packs is taken apart again. -/
def Request.Sound : Request → Prop
  | .set key values op =>
    CString key ∧ CFields values ∧ (op ∈ creating ∨ op ∈ ConsumerTable.triggering)
  | .del key op => CString key ∧ (op ∈ removing ∨ op ∈ ConsumerTable.triggering)
  | .bulk api object_type count objects =>
    CString object_type ∧ CString count ∧ ':' ∉ object_type.toList ∧
    ∀ o ∈ objects, CString o.1 ∧ (api ≠ .bulkremove → CFields o.2 ∧
      ∀ value ∈ o.2, Separable value) ∧ (api = .bulkcreate → o.2 ≠ [])

/-- The actions of a sound run. -/
def QueueAction.Sound : QueueAction → Prop
  | .call r => r.Sound
  | .transmit => True
  | .pops batch => 0 < batch

section Texts

variable {s : String} {values : List FieldValueTuple}

theorem c_str_of_cstring (h : CString s) : c_str s = s := by
  have hall : ∀ c ∈ s.toList, decide (c ≠ '\x00') = true := by
    intro c hc
    exact decide_eq_true fun heq => h (heq ▸ hc)
  rw [c_str, List.takeWhile_eq_self_iff.mpr hall, String.ofList_toList]

theorem cstring_append {t : String} (hs : CString s) (ht : CString t) : CString (s ++ t) := by
  intro hmem
  rw [String.toList_append] at hmem
  exact (List.mem_append.mp hmem).elim hs ht

theorem digitChar_ne_null {n : ℕ} (hn : n < 16) : Nat.digitChar n ≠ '\x00' := by
  intro heq
  have hdigit := Numeral.isDigit_digitChar (le_refl 16) hn
  rw [heq] at hdigit
  exact absurd hdigit (by decide)

/-- A null character is escaped. -/
theorem not_mem_escape (c : Char) : '\x00' ∉ Json.escape c := by
  unfold Json.escape
  split_ifs with hquote hslash hb hf hn hr ht hcontrol
  · decide
  · decide
  · decide
  · decide
  · decide
  · decide
  · decide
  · -- a control character is written as its code
    intro hmem
    simp only [List.mem_cons, List.not_mem_nil, or_false] at hmem
    rcases hmem with h | h | h | h | h | h
    · exact absurd h (by decide)
    · exact absurd h (by decide)
    · exact absurd h (by decide)
    · exact absurd h (by decide)
    · exact digitChar_ne_null (show c.toNat / 16 < 16 by omega) h.symm
    · exact digitChar_ne_null (Nat.mod_lt _ (by decide)) h.symm
  · intro hmem
    obtain rfl := List.mem_singleton.mp hmem
    exact hcontrol (by decide)

theorem not_mem_quote (t : List Char) : '\x00' ∉ Json.quote t := by
  intro hmem
  rcases List.mem_cons.mp hmem with h | hmem
  · exact absurd h (by decide)
  rcases List.mem_append.mp hmem with hmem | hmem
  · obtain ⟨c, -, hc⟩ := List.mem_flatMap.mp hmem
    exact not_mem_escape c hc
  · exact absurd (List.mem_singleton.mp hmem) (by decide)

/-- The items of an array of fields and values. -/
def items (values : List FieldValueTuple) : List Json :=
  values.flatMap fun i => [.string i.1.toList, .string i.2.toList]

theorem items_cons (value : FieldValueTuple) (values : List FieldValueTuple) :
    items (value :: values) = .string value.1.toList :: .string value.2.toList :: items values :=
  rfl

theorem storedItems (values : List FieldValueTuple) : Json.StoredItems (items values) := by
  induction values with
  | nil => trivial
  | cons value values ih => exact ⟨trivial, trivial, ih⟩

theorem not_mem_dumpItems (values : List FieldValueTuple) :
    '\x00' ∉ Json.dumpItems (items values) := by
  induction values with
  | nil => decide
  | cons value values ih =>
    rw [items_cons, Json.dumpItems, Json.dumpItems, Json.dump, Json.dump]
    intro hmem
    rcases List.mem_cons.mp hmem with h | hmem
    · exact absurd h (by decide)
    rcases List.mem_append.mp hmem with hmem | hmem
    · exact not_mem_quote _ hmem
    rcases List.mem_cons.mp hmem with h | hmem
    · exact absurd h (by decide)
    exact (List.mem_append.mp hmem).elim (not_mem_quote _) ih

theorem cstring_buildJson (values : List FieldValueTuple) : CString (buildJson values) := by
  rw [CString, buildJson, String.toList_ofList]
  show '\x00' ∉ Json.dump (.array (items values))
  cases values with
  | nil => decide
  | cons value values =>
    rw [items_cons, Json.dump, Json.dumpItems, Json.dump, Json.dump]
    intro hmem
    rcases List.mem_cons.mp hmem with h | hmem
    · exact absurd h (by decide)
    rcases List.mem_append.mp hmem with hmem | hmem
    · exact not_mem_quote _ hmem
    rcases List.mem_cons.mp hmem with h | hmem
    · exact absurd h (by decide)
    exact (List.mem_append.mp hmem).elim (not_mem_quote _) (not_mem_dumpItems values)

theorem pairUp_items (values : List FieldValueTuple) :
    ConsumerTable.pairUp (items values) = some values := by
  induction values with
  | nil => rfl
  | cons value values ih =>
    rw [items_cons, ConsumerTable.pairUp, ih, String.ofList_toList, String.ofList_toList]
    rfl

theorem buildJson_eq (values : List FieldValueTuple) :
    buildJson values = String.ofList (Json.dump (.array (items values))) := rfl

/-- What a set call puts into the queue is decoded to its fields. -/
theorem decode_buildJson (values : List FieldValueTuple) :
    ConsumerTable.decode (c_str (buildJson values)) = some values := by
  have hstored : Json.Stored (.array (items values)) := storedItems values
  rw [c_str_of_cstring (cstring_buildJson values), ConsumerTable.decode, buildJson_eq,
    String.toList_ofList, Json.parse_dump hstored]
  exact pairUp_items values

/-- The value of a del call is an object without members. -/
theorem decode_braces : ConsumerTable.decode (c_str "\x7b\x7d") = some [] := by
  have hstored : Json.Stored (.object []) := ⟨List.Pairwise.nil, trivial⟩
  have htext : (c_str "\x7b\x7d").toList = Json.dump (.object []) := by decide
  rw [ConsumerTable.decode, htext, Json.parse_dump hstored]

end Texts

/-! ### The script on sound calls -/

section Script

variable {tablename : String} {db : Db}

theorem find_append {l r : List Char} {c : Char} (h : c ∉ l) :
    ConsumerTable.find (String.ofList (l ++ c :: r)) c =
      some (String.ofList l, String.ofList r) := by
  obtain ⟨hl, hr⟩ := span_of_not_mem h r
  rw [ConsumerTable.find, String.toList_ofList,
    if_pos (List.mem_append_right _ List.mem_cons_self), hl, hr]

theorem pieces_join {attrs : List FieldValueTuple} (h : ∀ value ∈ attrs, Separable value) :
    ConsumerTable.pieces (joinFieldValues attrs) =
      attrs.map fun value => String.ofList (joined value) := by
  have hitems : ∀ item ∈ attrs.map joined, '|' ∉ item := by
    intro item hitem
    obtain ⟨value, hvalue, rfl⟩ := List.mem_map.mp hitem
    exact not_mem_joined (h value hvalue)
  cases attrs with
  | nil => decide
  | cons value attrs =>
    have hkeep : ∀ item ∈ (value :: attrs).map joined, decide (item ≠ []) = true := by
      intro item hitem
      obtain ⟨value, -, rfl⟩ := List.mem_map.mp hitem
      exact decide_eq_true joined_ne_nil
    rw [ConsumerTable.pieces, joinFieldValues, String.toList_ofList,
      List.splitOn_intercalate _ hitems (List.cons_ne_nil _ _), List.filter_eq_self.mpr hkeep,
      List.map_map]
    rfl

/-- The pieces of separable attributes are written one by one. -/
theorem hsetPieces_join {keyname : String} {attrs : List FieldValueTuple}
    (h : ∀ value ∈ attrs, Separable value) :
    ConsumerTable.hsetPieces keyname (attrs.map fun value => String.ofList (joined value)) db =
      (db.hsetAll keyname attrs, true) := by
  induction attrs generalizing db with
  | nil => rfl
  | cons value attrs ih =>
    have hfind : ConsumerTable.find (String.ofList (joined value)) '=' = some value := by
      rw [joined, find_append (h value List.mem_cons_self).1, String.ofList_toList,
        String.ofList_toList]
    rw [List.map_cons, ConsumerTable.hsetPieces, hfind]
    exact ih fun v hv => h v (List.mem_cons_of_mem _ hv)

theorem keyname_object (object_type oid : String) :
    keyname tablename (object_type ++ ":" ++ oid) = tablename ++ ":" ++ object_type ++ ":" ++ oid := by
  have hne : object_type ++ ":" ++ oid ≠ "" := by
    intro hnil
    have hlist := congrArg String.toList hnil
    rw [String.toList_append, String.toList_append] at hlist
    have hempty := (List.append_eq_nil_iff.mp (List.append_eq_nil_iff.mp hlist).1).2
    exact absurd hempty (by decide)
  rw [keyname, if_neg hne, ← String.append_assoc, ← String.append_assoc]

/-- The loop over the objects of a bulk operation does what its single calls do. -/
theorem bulkLoop_sound {api : Bulk} {object_type : String}
    {objects : List (String × List FieldValueTuple)} (count : String)
    (h : ∀ o ∈ objects, (api ≠ .bulkremove → ∀ value ∈ o.2, Separable value) ∧
      (api = .bulkcreate → o.2 ≠ [])) :
    ConsumerTable.bulkLoop tablename object_type api.op
        (objects.map fun o => (o.1, Request.packed api o.2)) db =
      (Request.apply tablename db (.bulk api object_type count objects), true) := by
  induction objects generalizing db with
  | nil => cases api <;> rfl
  | cons o objects ih =>
    obtain ⟨hseparable, hsome⟩ := h o List.mem_cons_self
    have hrest : ∀ db, ConsumerTable.bulkLoop tablename object_type api.op
        (objects.map fun o => (o.1, Request.packed api o.2)) db =
        (Request.apply tablename db (.bulk api object_type count objects), true) :=
      fun db => ih fun o ho => h o (List.mem_cons_of_mem _ ho)
    rw [List.map_cons, ConsumerTable.bulkLoop]
    cases api with
    | bulkremove =>
      rw [if_pos (show Bulk.bulkremove.op = "bulkremove" from rfl), hrest, ← keyname_object]
      rfl
    | bulkcreate =>
      have hattrs := hseparable Bulk.noConfusion
      have hcreated : Request.created o.2 = o.2 := by
        cases hnil : o.2 with
        | nil => exact absurd hnil (hsome rfl)
        | cons value values => rfl
      have hpacked : Request.packed .bulkcreate o.2 = joinFieldValues o.2 := rfl
      have hsingle : Request.apply tablename db (.bulk .bulkcreate object_type count
          (o :: objects)) = Request.apply tablename (db.hsetAll (keyname tablename
            (object_type ++ ":" ++ o.1)) (Request.created o.2))
            (.bulk .bulkcreate object_type count objects) := rfl
      rw [if_neg (show Bulk.bulkcreate.op ≠ "bulkremove" by decide), hpacked,
        pieces_join hattrs, hsetPieces_join hattrs, hsingle, hcreated, keyname_object]
      exact hrest _
    | bulkset =>
      have hattrs := hseparable Bulk.noConfusion
      have hpacked : Request.packed .bulkset o.2 = joinFieldValues o.2 := rfl
      have hsingle : Request.apply tablename db (.bulk .bulkset object_type count
          (o :: objects)) = Request.apply tablename (db.hsetAll (keyname tablename
            (object_type ++ ":" ++ o.1)) o.2) (.bulk .bulkset object_type count objects) := rfl
      rw [if_neg (show Bulk.bulkset.op ≠ "bulkremove" by decide), hpacked, pieces_join hattrs,
        hsetPieces_join hattrs, hsingle, keyname_object]
      exact hrest _

/-- The letter in front of the operation of a call. -/
def Request.dbop : Request → String
  | .del _ _ => "D"
  | _ => "S"

theorem applyCommand_of_writing {dbop : String} {ret : KeyOpFieldsValuesTuple}
    (h : ret.kfvOp ∈ ConsumerTable.writing) :
    ConsumerTable.applyCommand tablename dbop ret db =
      (if dbop = "D" then db.del (keyname tablename ret.kfvKey)
        else db.hsetAll (keyname tablename ret.kfvKey) ret.kfvFieldsValues, true) := by
  have hall : ∀ op ∈ ConsumerTable.writing,
      ¬ (op = "bulkset" ∨ op = "bulkcreate" ∨ op = "bulkremove") := by decide
  rw [ConsumerTable.applyCommand, if_neg (hall _ h), if_pos h]
  show (if dbop = "D" then (_, true) else (_, true)) = _
  split <;> rfl

theorem applyCommand_of_triggering {dbop : String} {ret : KeyOpFieldsValuesTuple}
    (h : ret.kfvOp ∈ ConsumerTable.triggering) :
    ConsumerTable.applyCommand tablename dbop ret db = (db, true) := by
  have hall : ∀ op ∈ ConsumerTable.triggering,
      ¬ (op = "bulkset" ∨ op = "bulkcreate" ∨ op = "bulkremove") ∧
        op ∉ ConsumerTable.writing := by decide
  rw [ConsumerTable.applyCommand, if_neg (hall _ h).1, if_neg (hall _ h).2]
  exact congrArg _ (decide_eq_true h)

/-- A call that only triggers something stands for nothing in the table. -/
theorem not_mem_of_triggering {op : String} (h : op ∈ ConsumerTable.triggering) :
    op ∉ Request.creating ∧ op ∉ Request.removing := by
  have hall : ∀ op ∈ ConsumerTable.triggering,
      op ∉ Request.creating ∧ op ∉ Request.removing := by decide
  exact hall op h

/-- The script does with a sound call what it stands for. -/
theorem applyCommand_sound {r : Request} (h : r.Sound) :
    ConsumerTable.applyCommand tablename r.dbop r.tuple db = (r.apply tablename db, true) := by
  cases r with
  | set key values op =>
    rcases h.2.2 with hop | hop
    · have hsub : ∀ o ∈ Request.creating, o ∈ ConsumerTable.writing := by decide
      have hwriting : (Request.set key values op).tuple.kfvOp ∈ ConsumerTable.writing :=
        hsub op hop
      rw [applyCommand_of_writing hwriting, Request.apply, Request.singles, if_pos hop]
      rfl
    · have htriggering : (Request.set key values op).tuple.kfvOp ∈ ConsumerTable.triggering := hop
      obtain ⟨hcreating, hremoving⟩ := not_mem_of_triggering hop
      rw [applyCommand_of_triggering htriggering, Request.apply, Request.singles,
        if_neg hcreating, if_neg hremoving]
      rfl
  | del key op =>
    rcases h.2 with hop | hop
    · have hsub : ∀ o ∈ Request.removing, o ∈ ConsumerTable.writing := by decide
      have hwriting : (Request.del key op).tuple.kfvOp ∈ ConsumerTable.writing := hsub op hop
      rw [applyCommand_of_writing hwriting, Request.apply, Request.singles, if_pos hop]
      rfl
    · have htriggering : (Request.del key op).tuple.kfvOp ∈ ConsumerTable.triggering := hop
      obtain ⟨hcreating, hremoving⟩ := not_mem_of_triggering hop
      rw [applyCommand_of_triggering htriggering, Request.apply, Request.singles,
        if_neg hremoving, if_neg hcreating]
      rfl
  | bulk api object_type count objects =>
    obtain ⟨-, -, hcolon, hobjects⟩ := h
    have hbulk : api.op = "bulkset" ∨ api.op = "bulkcreate" ∨ api.op = "bulkremove" := by
      cases api <;> decide
    have hkey : object_type ++ ":" ++ count =
        String.ofList (object_type.toList ++ ':' :: count.toList) := by
      rw [← String.toList_inj, String.toList_ofList, String.toList_append, String.toList_append]
      exact List.append_assoc ..
    have hfind : ConsumerTable.find (object_type ++ ":" ++ count) ':' =
        some (object_type, count) := by
      rw [hkey, find_append hcolon, String.ofList_toList, String.ofList_toList]
    rw [ConsumerTable.applyCommand, Request.tuple, if_pos hbulk, hfind]
    exact bulkLoop_sound count fun o ho =>
      ⟨fun hne => ((hobjects o ho).2.1 hne).2, (hobjects o ho).2.2⟩

/-! ### The queue on sound calls -/

theorem cstring_of_mem {op : String} (h : op ∈ Request.creating ∨ op ∈ Request.removing ∨
    op ∈ ConsumerTable.triggering) : CString op := by
  have hall : ∀ o ∈ Request.creating ++ (Request.removing ++ ConsumerTable.triggering),
      '\x00' ∉ o.toList := by decide
  refine hall op ?_
  rw [List.mem_append, List.mem_append]
  exact h

theorem cstring_packed {api : Bulk} {attrs : List FieldValueTuple}
    (h : api ≠ .bulkremove → CFields attrs) : CString (Request.packed api attrs) := by
  have hjoined : CFields attrs → CString (joinFieldValues attrs) := by
    intro hattrs hmem
    rw [joinFieldValues, String.toList_ofList] at hmem
    rcases mem_intercalate hmem with hmem | ⟨item, hitem, hmem⟩
    · exact absurd hmem (by decide)
    obtain ⟨value, hvalue, rfl⟩ := List.mem_map.mp hitem
    rcases List.mem_append.mp hmem with hmem | hmem
    · exact (hattrs value hvalue).1 hmem
    rcases List.mem_cons.mp hmem with heq | hmem
    · exact absurd heq (by decide)
    · exact (hattrs value hvalue).2 hmem
  cases api with
  | bulkremove =>
    show '\x00' ∉ "".toList
    decide
  | bulkcreate => exact hjoined (h Bulk.noConfusion)
  | bulkset => exact hjoined (h Bulk.noConfusion)

/-- Nothing of a sound call is cut at a null character. -/
theorem cstring_tuple {r : Request} (h : r.Sound) :
    CString r.tuple.kfvKey ∧ CString r.tuple.kfvOp ∧ CFields r.tuple.kfvFieldsValues := by
  cases r with
  | set key values op => exact ⟨h.1, cstring_of_mem (h.2.2.imp_right .inr), h.2.1⟩
  | del key op => exact ⟨h.1, cstring_of_mem (.inr h.2), fun _ hv => nomatch hv⟩
  | bulk api object_type count objects =>
    obtain ⟨htype, hcount, -, hobjects⟩ := h
    have hcolon : CString ":" := by
      show '\x00' ∉ ":".toList
      decide
    refine ⟨cstring_append (cstring_append htype hcolon) hcount, ?_, ?_⟩
    · show '\x00' ∉ api.op.toList
      cases api <;> decide
    · intro value hvalue
      obtain ⟨o, ho, rfl⟩ := List.mem_map.mp hvalue
      exact ⟨(hobjects o ho).1, cstring_packed fun hne => ((hobjects o ho).2.1 hne).1⟩

theorem readElement_tuple {r : Request} (h : r.Sound) :
    ConsumerTable.readElement r.tuple = r.tuple := by
  obtain ⟨hkey, hop, hfields⟩ := cstring_tuple h
  have hvalues : (r.tuple.kfvFieldsValues.map fun e => (c_str e.1, c_str e.2)) =
      r.tuple.kfvFieldsValues := by
    refine (List.map_congr_left fun e he => ?_).trans (List.map_id _)
    obtain ⟨hfield, hvalue⟩ := hfields e he
    show (c_str e.1, c_str e.2) = e
    rw [c_str_of_cstring hfield, c_str_of_cstring hvalue]
  rw [ConsumerTable.readElement, c_str_of_cstring hkey, c_str_of_cstring hop, hvalues]

theorem letter_append (c : Char) (op : String) :
    String.ofList ((String.ofList [c] ++ op).toList.drop 1) = op ∧
      String.ofList ((String.ofList [c] ++ op).toList.take 1) = String.ofList [c] := by
  rw [String.toList_append, String.toList_ofList]
  exact ⟨String.ofList_toList, rfl⟩

/-- What the script reads of the strings of a sound call. -/
theorem command_sound {r : Request} (h : r.Sound) :
    r.command.key = r.tuple.kfvKey ∧
      ConsumerTable.decode r.command.value = some r.tuple.kfvFieldsValues ∧
      String.ofList (r.command.op.toList.drop 1) = r.tuple.kfvOp ∧
      String.ofList (r.command.op.toList.take 1) = r.dbop := by
  obtain ⟨hkey, hop, -⟩ := cstring_tuple h
  have hS : c_str ("S" ++ r.tuple.kfvOp) = "S" ++ r.tuple.kfvOp :=
    c_str_of_cstring (cstring_append (show '\x00' ∉ "S".toList by decide) hop)
  have hD : c_str ("D" ++ r.tuple.kfvOp) = "D" ++ r.tuple.kfvOp :=
    c_str_of_cstring (cstring_append (show '\x00' ∉ "D".toList by decide) hop)
  cases r with
  | set key values op =>
    have hcommand : (Request.set key values op).command.op = "S" ++ op := hS
    rw [hcommand]
    exact ⟨c_str_of_cstring hkey, decode_buildJson values, letter_append 'S' op⟩
  | del key op =>
    have hcommand : (Request.del key op).command.op = "D" ++ op := hD
    rw [hcommand]
    exact ⟨c_str_of_cstring hkey, decode_braces, letter_append 'D' op⟩
  | bulk api object_type count objects =>
    have hcommand : (Request.bulk api object_type count objects).command.op = "S" ++ api.op := hS
    rw [hcommand]
    exact ⟨c_str_of_cstring hkey, decode_buildJson _, letter_append 'S' api.op⟩

/-- The script replies sound calls as they are, and does what they stand for. -/
theorem popLoop_sound {rs : List Request} (h : ∀ r ∈ rs, r.Sound)
    (rets : List KeyOpFieldsValuesTuple) :
    ConsumerTable.popLoop tablename (rs.flatMap fun r => r.command.strings) rets db =
      (rs.foldl (Request.apply tablename) db, some (rets ++ rs.map Request.tuple)) := by
  induction rs generalizing db rets with
  | nil => rw [List.map_nil, List.append_nil]; rfl
  | cons r rs ih =>
    have hr := h r List.mem_cons_self
    obtain ⟨hkey, hvalue, hop, hdbop⟩ := command_sound hr
    show ConsumerTable.popLoop tablename (r.command.key :: r.command.value :: r.command.op ::
      rs.flatMap fun r => r.command.strings) rets db = _
    rw [ConsumerTable.popLoop, hvalue]
    simp only [hkey, hop, hdbop]
    have happly : ConsumerTable.applyCommand tablename r.dbop
        ⟨r.tuple.kfvKey, r.tuple.kfvOp, r.tuple.kfvFieldsValues⟩ db =
        (r.apply tablename db, true) := applyCommand_sound hr
    rw [happly]
    show ConsumerTable.popLoop tablename (rs.flatMap fun r => r.command.strings)
      (rets ++ [r.tuple]) (r.apply tablename db) = _
    rw [ih (fun r' hr' => h r' (List.mem_cons_of_mem _ hr')), List.append_assoc]
    rfl

theorem length_strings (rs : List Request) :
    (rs.flatMap fun r => r.command.strings).length = rs.length * 3 := by
  induction rs with
  | nil => rfl
  | cons r rs ih =>
    rw [List.flatMap_cons, List.length_append, ih, List.length_cons, Nat.succ_mul, Nat.add_comm]
    rfl

/-- A number of commands is cut off where a command ends. -/
theorem take_strings (rs : List Request) (n : ℕ) :
    (rs.flatMap fun r => r.command.strings).take (n * 3) =
        (rs.take n).flatMap (fun r => r.command.strings) ∧
      (rs.flatMap fun r => r.command.strings).drop (n * 3) =
        (rs.drop n).flatMap (fun r => r.command.strings) := by
  have hsplit : (rs.flatMap fun r => r.command.strings) =
      (rs.take n).flatMap (fun r => r.command.strings) ++
        (rs.drop n).flatMap (fun r => r.command.strings) := by
    rw [← List.flatMap_append, List.take_append_drop]
  have hlen := length_strings (rs.take n)
  rcases le_or_gt n rs.length with hle | hlt
  · rw [List.length_take_of_le hle] at hlen
    rw [hsplit]
    exact ⟨List.take_left' hlen, List.drop_left' hlen⟩
  · have hall := length_strings rs
    have hshort : (rs.flatMap fun r => r.command.strings).length ≤ n * 3 := by omega
    rw [List.take_of_length_le hshort, List.drop_of_length_le hshort,
      List.take_of_length_le hlt.le, List.drop_of_length_le hlt.le]
    exact ⟨rfl, rfl⟩

/-- The oldest elements of the list, which is its end, and the others. -/
theorem reverse_cut (queue : List String) {popsize : ℕ} (h : 0 < popsize) :
    (queue.drop (ConsumerTable.lastFrom queue popsize)).reverse = queue.reverse.take popsize ∧
      (ConsumerTable.trimmed queue popsize).reverse = queue.reverse.drop popsize := by
  rw [ConsumerTable.lastFrom, ConsumerTable.trimmed, if_neg (Nat.ne_of_gt h),
    if_neg (Nat.ne_of_gt h), List.reverse_drop, List.reverse_take]
  rcases le_or_gt popsize queue.length with hle | hlt
  · rw [Nat.sub_sub_self hle]
    exact ⟨rfl, rfl⟩
  · have hzero : queue.length - popsize = 0 := by omega
    have hshort : queue.reverse.length ≤ popsize := by
      rw [List.length_reverse]
      omega
    rw [hzero, Nat.sub_zero, List.take_of_length_le hshort, List.drop_of_length_le hshort,
      ← List.length_reverse]
    exact ⟨List.take_length, List.drop_length⟩

/-- A sound batch is cut off the list and replied, in the order of its calls. -/
theorem luaPops_sound (tablename : String) (db : Db) {queue : List String}
    {queued : List Request} {batch : ℕ} (hbatch : 0 < batch) (hsound : ∀ r ∈ queued, r.Sound)
    (hqueue : queue.reverse = queued.flatMap fun r => r.command.strings) :
    (ConsumerTable.luaPops tablename batch queue db).1.reverse =
        (queued.drop batch).flatMap (fun r => r.command.strings) ∧
      (ConsumerTable.luaPops tablename batch queue db).2 =
        ((queued.take batch).foldl (Request.apply tablename) db,
          some ((queued.take batch).map Request.tuple)) := by
  obtain ⟨hkeys, hleft⟩ := reverse_cut queue (Nat.mul_pos hbatch (show 0 < 3 by decide))
  obtain ⟨htake, hdrop⟩ := take_strings queued batch
  refine ⟨?_, ?_⟩
  · show (ConsumerTable.trimmed queue (batch * 3)).reverse = _
    rw [hleft, hqueue, hdrop]
  · show ConsumerTable.popLoop tablename
      (queue.drop (ConsumerTable.lastFrom queue (batch * 3))).reverse [] db = _
    rw [hkeys, hqueue, htake, popLoop_sound fun r hr => hsound r (List.mem_of_mem_take hr)]
    rfl

end Script

/-! ### Runs of sound calls -/

section Runs

variable {tablename : String} {db₀ : Db}

/-- The calls so far are sound. -/
def SoundState (st : QueueState) : Prop := ∀ r ∈ st.made, r.Sound

/-- One step keeps the calls in their order. -/
theorem InOrder.next {st : QueueState} {a : QueueAction} (h : InOrder tablename db₀ st)
    (hst : SoundState st) (ha : a.Sound) : InOrder tablename db₀ (nextState tablename st a) := by
  obtain ⟨done, queued, pending, hmade, hdelivered, hqueue, hpending, hdb⟩ := h
  cases a with
  | call r =>
    refine ⟨done, queued, pending ++ [r], ?_, hdelivered, hqueue, ?_, hdb⟩
    · show st.made ++ [r] = _
      rw [hmade, List.append_assoc]
    · show st.pending ++ [r.command] = _
      rw [hpending, List.map_append]
      rfl
  | transmit =>
    cases pending with
    | nil =>
      have hnil : st.pending = [] := hpending
      rw [nextState, hnil]
      exact ⟨done, queued, [], hmade, hdelivered, hqueue, hpending, hdb⟩
    | cons r pending =>
      have hcons : st.pending = r.command :: pending.map Request.command := hpending
      rw [nextState, hcons]
      refine ⟨done, queued ++ [r], pending, ?_, hdelivered, ?_, rfl, hdb⟩
      · show st.made = _
        rw [hmade, List.append_assoc, List.append_assoc, List.append_assoc]
        rfl
      · show (ProducerTable.luaEnque r.command st.queue).reverse = _
        rw [List.flatMap_append, ← hqueue]
        show (r.command.op :: r.command.value :: r.command.key :: st.queue).reverse = _
        rw [List.reverse_cons, List.reverse_cons, List.reverse_cons, List.append_assoc,
          List.append_assoc]
        rfl
  | pops batch =>
    have hmem : ∀ r ∈ queued, r.Sound := fun r hr => hst r (by
      rw [hmade]
      exact List.mem_append_left _ (List.mem_append_right _ hr))
    obtain ⟨hleft, hreply⟩ := luaPops_sound tablename st.db ha hmem hqueue
    have hread : ((queued.take batch).map Request.tuple).map ConsumerTable.readElement =
        (queued.take batch).map Request.tuple := by
      rw [List.map_map]
      exact List.map_congr_left fun r hr => readElement_tuple (hmem r (List.mem_of_mem_take hr))
    cases hpops : ConsumerTable.luaPops tablename batch st.queue st.db with
    | mk queue reply =>
      rw [hpops] at hleft hreply
      obtain rfl : reply = _ := hreply
      rw [nextState, hpops]
      refine ⟨done ++ queued.take batch, queued.drop batch, pending, ?_, ?_, hleft, hpending, ?_⟩
      · show st.made = _
        rw [hmade, List.append_assoc done (queued.take batch), List.take_append_drop]
      · show st.delivered ++ _ = _
        rw [hread, hdelivered, List.map_append]
      · show List.foldl _ st.db _ = _
        rw [hdb, List.foldl_append]

theorem SoundState.next {st : QueueState} {a : QueueAction} (h : SoundState st) (ha : a.Sound) :
    SoundState (nextState tablename st a) := by
  cases a with
  | call r =>
    intro r' hr'
    rcases List.mem_append.mp hr' with hr' | hr'
    · exact h r' hr'
    · rw [List.mem_singleton.mp hr']
      exact ha
  | transmit =>
    rw [nextState]
    cases st.pending with
    | nil => exact h
    | cons c pending => exact h
  | pops batch =>
    rw [nextState]
    split
    · exact h
    · exact h

/-- The calls of a sound run stay in their order. -/
theorem InOrder.run {actions : List QueueAction} (hsound : ∀ a ∈ actions, a.Sound)
    {st : QueueState} (h : InOrder tablename db₀ st) (hst : SoundState st) :
    InOrder tablename db₀ (actions.foldl (nextState tablename) st) := by
  induction actions generalizing st with
  | nil => exact h
  | cons a actions ih =>
    have ha := hsound a List.mem_cons_self
    exact ih (fun a' ha' => hsound a' (List.mem_cons_of_mem _ ha')) (h.next hst ha) (hst.next ha)

theorem SoundState.run {actions : List QueueAction} (hsound : ∀ a ∈ actions, a.Sound)
    {st : QueueState} (hst : SoundState st) :
    SoundState (actions.foldl (nextState tablename) st) := by
  induction actions generalizing st with
  | nil => exact hst
  | cons a actions ih =>
    have ha := hsound a List.mem_cons_self
    exact ih (fun a' ha' => hsound a' (List.mem_cons_of_mem _ ha')) (hst.next ha)

theorem inOrder_initial : InOrder tablename db₀ (initialState db₀) :=
  ⟨[], [], [], rfl, rfl, rfl, rfl, rfl⟩

/-- The executions of all commands of the pipeline, and a batch of all that are in the list. -/
def drain (st : QueueState) : List QueueAction :=
  List.replicate st.pending.length .transmit ++
    [.pops (st.queue.length + st.pending.length * 3 + 1)]

theorem transmit_all (tablename : String) (n : ℕ) (st : QueueState) (hn : st.pending.length = n) :
    ((List.replicate n .transmit).foldl (nextState tablename) st).pending = [] ∧
      ((List.replicate n .transmit).foldl (nextState tablename) st).made = st.made ∧
      ((List.replicate n .transmit).foldl (nextState tablename) st).queue.length =
        st.queue.length + n * 3 := by
  induction n generalizing st with
  | zero => exact ⟨List.length_eq_zero_iff.mp hn, rfl, rfl⟩
  | succ n ih =>
    rw [List.replicate_succ, List.foldl_cons]
    cases hpending : st.pending with
    | nil =>
      rw [hpending] at hn
      cases hn
    | cons c pending =>
      have hstep : nextState tablename st .transmit =
          { st with pending := pending, queue := ProducerTable.luaEnque c st.queue } := by
        rw [nextState, hpending]
      rw [hstep]
      rw [hpending, List.length_cons] at hn
      obtain ⟨hnone, hmade, hlength⟩ :=
        ih { st with pending := pending, queue := ProducerTable.luaEnque c st.queue }
          (Nat.succ_inj.mp hn)
      refine ⟨hnone, hmade, hlength.trans ?_⟩
      show st.queue.length + 1 + 1 + 1 + n * 3 = _
      omega

theorem pops_all (tablename : String) {st : QueueState} {batch : ℕ}
    (hbatch : st.queue.length < batch) :
    (nextState tablename st (.pops batch)).queue = [] ∧
      (nextState tablename st (.pops batch)).made = st.made ∧
      (nextState tablename st (.pops batch)).pending = st.pending := by
  have hempty : ConsumerTable.trimmed st.queue (batch * 3) = [] := by
    rw [ConsumerTable.trimmed, if_neg (by omega), show st.queue.length - batch * 3 = 0 by omega,
      List.take_zero]
  have hqueue : (ConsumerTable.luaPops tablename batch st.queue st.db).1 = [] := hempty
  rw [nextState]
  split
  · next heq =>
      rw [heq] at hqueue
      exact ⟨hqueue, rfl, rfl⟩
  · next heq =>
      rw [heq] at hqueue
      exact ⟨hqueue, rfl, rfl⟩

/-- When nothing is left in the list and in the pipeline, everything is delivered. -/
theorem InOrder.delivered_eq {st : QueueState} (h : InOrder tablename db₀ st)
    (hqueue : st.queue = []) (hpending : st.pending = []) :
    st.delivered = st.made.map Request.tuple := by
  obtain ⟨done, queued, pending, hmade, hdelivered, hlist, hpipe, -⟩ := h
  rw [hqueue] at hlist
  rw [hpending] at hpipe
  have hpnil : pending = [] := List.map_eq_nil_iff.mp hpipe.symm
  have hqnil : queued = [] := by
    have hlen := length_strings queued
    rw [← hlist, List.reverse_nil, List.length_nil] at hlen
    exact List.length_eq_zero_iff.mp (by omega)
  rw [hdelivered, hmade, hpnil, hqnil, List.append_nil, List.append_nil]

theorem InOrder.drained {st : QueueState} (h : InOrder tablename db₀ st) (hst : SoundState st) :
    ((drain st).foldl (nextState tablename) st).delivered = st.made.map Request.tuple := by
  have hsound : ∀ a ∈ drain st, a.Sound := by
    intro a ha
    rcases List.mem_append.mp ha with ha | ha
    · rw [List.eq_of_mem_replicate ha]
      trivial
    · rw [List.mem_singleton.mp ha]
      exact Nat.succ_pos _
  obtain ⟨hnone, hmade, hlength⟩ := transmit_all tablename _ st rfl
  have hend := h.run hsound hst
  rw [drain, List.foldl_append] at hend ⊢
  obtain ⟨hq, hm, hp⟩ := pops_all tablename (hlength.trans_lt (Nat.lt_succ_self _))
  rw [← hmade, ← hm]
  exact hend.delivered_eq hq (hp.trans hnone)

/-- What syncd reads of a sound bulk call. -/
theorem processBulkEvent_sound {api : Bulk} {object_type count : String}
    {objects : List (String × List FieldValueTuple)}
    (h : (Request.bulk api object_type count objects).Sound) :
    processBulkEvent (Request.bulk api object_type count objects).tuple =
      (object_type, objects.map fun o => (o.1, if api = .bulkremove then [] else o.2)) := by
  obtain ⟨-, -, hcolon, hobjects⟩ := h
  have hkey : (object_type ++ ":" ++ count).toList =
      object_type.toList ++ ':' :: count.toList := by
    rw [String.toList_append, String.toList_append]
    exact List.append_assoc ..
  have hentries : ∀ o ∈ objects, bulkEntries (Request.packed api o.2) =
      if api = .bulkremove then [] else o.2 := by
    intro o ho
    have hattrs := (hobjects o ho).2.1
    cases api with
    | bulkremove =>
      show bulkEntries "" = []
      decide
    | bulkcreate => exact bulkEntries_joinFieldValues (hattrs Bulk.noConfusion).2
    | bulkset => exact bulkEntries_joinFieldValues (hattrs Bulk.noConfusion).2
  refine Prod.ext ?_ ?_
  · show String.ofList ((object_type ++ ":" ++ count).toList.takeWhile (· ≠ ':')) = _
    rw [hkey, (span_of_not_mem hcolon count.toList).1, String.ofList_toList]
  · show (objects.map fun o => (o.1, Request.packed api o.2)).map _ = _
    rw [List.map_map]
    exact List.map_congr_left fun o ho => congrArg (Prod.mk o.1) (hentries o ho)

/-- **The ordered queue loses and reorders nothing, and the table is its replay.**  In every run of
sound calls, whatever is executed and popped in between, the calls are delivered, listed and
waiting in their order, and the database is the replay of those that are delivered; once the rest
is executed and popped all of them are; and syncd reads of a bulk call what it was packed of. -/
theorem queue_replayed (tablename : String) (db₀ : Db) (actions : List QueueAction)
    (hsound : ∀ a ∈ actions, a.Sound) :
    InOrder tablename db₀ (actions.foldl (nextState tablename) (initialState db₀)) ∧
    ((drain (actions.foldl (nextState tablename) (initialState db₀))).foldl (nextState tablename)
        (actions.foldl (nextState tablename) (initialState db₀))).delivered =
      (actions.foldl (nextState tablename) (initialState db₀)).made.map Request.tuple ∧
    ∀ api object_type count objects, .call (.bulk api object_type count objects) ∈ actions →
      processBulkEvent (Request.bulk api object_type count objects).tuple =
        (object_type, objects.map fun o => (o.1, if api = .bulkremove then [] else o.2)) := by
  have hinitial : SoundState (initialState db₀) := fun _ hr => nomatch hr
  have hin : InOrder tablename db₀ (actions.foldl (nextState tablename) (initialState db₀)) :=
    inOrder_initial.run hsound hinitial
  exact ⟨hin, hin.drained (hinitial.run hsound), fun api object_type count objects hmem =>
    processBulkEvent_sound (hsound _ hmem)⟩

/-- A route that is created and taken from the list. -/
theorem queue_replayed_create : InOrder "ASIC_STATE" .empty
    ([.call (.bulk .bulkcreate "ROUTE" "1" [("r", [("hop", "oid:1")])]), .transmit,
      .pops 1].foldl (nextState "ASIC_STATE") (initialState .empty)) := by
  have hbulk : (Request.bulk .bulkcreate "ROUTE" "1" [("r", [("hop", "oid:1")])]).Sound := by
    have hchars : CString "ROUTE" ∧ CString "1" ∧ ':' ∉ "ROUTE".toList ∧ CString "r" ∧
        (CString "hop" ∧ CString "oid:1") ∧ Separable ("hop", "oid:1") := by
      unfold CString Separable
      decide
    obtain ⟨htype, hcount, hcolon, hobject, hfields, hseparable⟩ := hchars
    refine ⟨htype, hcount, hcolon, List.forall_mem_singleton.mpr ⟨hobject, fun _ => ⟨?_, ?_⟩, ?_⟩⟩
    · exact List.forall_mem_singleton.mpr hfields
    · exact List.forall_mem_singleton.mpr hseparable
    · exact fun _ => List.cons_ne_nil _ _
  refine (queue_replayed "ASIC_STATE" .empty _ ?_).1
  exact List.forall_mem_cons.mpr ⟨hbulk, List.forall_mem_cons.mpr ⟨trivial,
    List.forall_mem_singleton.mpr (show 0 < 1 from Nat.one_pos)⟩⟩

/-- A call that is not supported takes the one behind it along. -/
theorem not_queue_replayed : ¬ InOrder "ASIC_STATE" .empty
    ([.call (.del "SWITCH" "reset"), .call (.del "ROUTE" "remove"), .transmit, .transmit,
      .pops 2].foldl (nextState "ASIC_STATE") (initialState .empty)) := by
  intro h
  have hlost := congrArg List.length (h.delivered_eq (by rfl) (by rfl))
  exact absurd hlost (by decide)

end Runs

end Swss
