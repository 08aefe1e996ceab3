/-
Common/TableRead.lean

Reading a table back: `Table::getKeys`, `Table::get` and `getContent`.

A reader handles a table through the keys it lists and the fields it gets for a
key (`Table`).  What a reader wants to know is the content of the table, one
non-empty field map a key (`TableContent`).  `Table.Reads` says that a reader
sees such a content: it is true of the content itself (`reads_content`), and of
a database (`reads_db`) whose names under `T:` are hashes, none of them the
hash of the empty key, since `get` looks for that one under the bare name.
-/
import Sonic.Common.TableDump

namespace Swss

open Redis FieldMap
open Std (ExtTreeMap)

/-- `Table::stripSpecialSym`: the name of a field ends at the first '@'. -/
def stripSpecialSym (key : String) : String :=
  String.ofList (key.toList.takeWhile (· ≠ '@'))

/-- A table in the hands of a reader. -/
structure Table where
  getKeys : List String
  /-- `none` stands for the result false. -/
  get : String → Option (List FieldValueTuple)

/-- `TableEntryEnumerable::getContent`. -/
def Table.getContent (m_table : Table) : List KeyOpFieldsValuesTuple :=
  m_table.getKeys.map fun key => ⟨key, "", (m_table.get key).getD []⟩

/-- The values of `Table::get` from the reply of HGETALL. -/
def readReply (h : Hash) : Option (List FieldValueTuple) :=
  if h.isEmpty then none else some (h.toList.map fun fv => (stripSpecialSym fv.1, fv.2))

/-- `Table::getKeys` and `Table::get`. -/
def TableBase.read (t : TableBase) (db : Db) : Table where
  getKeys := (db.keys (t.tableName ++ t.tableSeparator)).map t.dumpKey
  get key := readReply (db.hgetall (t.getKeyName key))

/-- The content of a table: its objects, none of them empty. -/
structure TableContent where
  objects : ExtTreeMap String {h : Hash // h ≠ ∅}

namespace TableContent

/-- The object of a key, empty if there is none. -/
def store (content : TableContent) (key : String) : Hash :=
  match content.objects[key]? with
  | some h => h.val
  | none => ∅

/-- Reading the content itself. -/
def read (content : TableContent) : Table where
  getKeys := content.objects.keys
  get key := readReply (content.store key)

end TableContent

/-- The reader lists the keys of the objects, each once, and gets their fields. -/
structure Table.Reads (m_table : Table) (store : String → Hash) : Prop where
  nodup : m_table.getKeys.Nodup
  mem_getKeys : ∀ key, key ∈ m_table.getKeys ↔ store key ≠ ∅
  get : ∀ key ∈ m_table.getKeys, m_table.get key = readReply (store key)

variable {t : TableBase} {db : Db} {content : TableContent} {key : String} {h : Hash}

theorem readReply_eq_none : readReply h = none ↔ h = ∅ := by
  simp [readReply]

theorem TableContent.store_ne_empty : content.store key ≠ ∅ ↔ key ∈ content.objects := by
  rw [← ExtTreeMap.isSome_getElem?_iff_mem]
  unfold TableContent.store
  rcases content.objects[key]? with - | h
  · simp
  · simpa using h.property

/-- A content is read as it is. -/
theorem reads_content (content : TableContent) : content.read.Reads content.store where
  nodup := ExtTreeMap.nodup_keys
  mem_getKeys key := by
    rw [TableContent.store_ne_empty]
    exact ExtTreeMap.mem_keys
  get _ _ := rfl

/-- A database is read as the content of its hashes. -/
theorem reads_db (hsep : t.tableSeparator = ":") (hhashes : t.HashesOnly db)
    (hempty : db.hgetall (t.hashName "") = ∅) :
    (t.read db).Reads fun key => db.hgetall (t.hashName key) := by
  have hkeys : (t.read db).getKeys = (db.keys (t.tableName ++ ":")).map t.dumpKey := by
    rw [TableBase.read, hsep]
  have hname : ∀ name ∈ db.keys (t.tableName ++ ":"), name = t.hashName (t.dumpKey name) :=
    fun name hname => TableBase.startsWith_tableName_iff.mp (Db.mem_keys.mp hname).2
  have hmem : ∀ key, key ∈ (t.read db).getKeys ↔ db.hgetall (t.hashName key) ≠ ∅ := by
    intro key
    rw [hkeys, List.mem_map]
    constructor
    · rintro ⟨name, hin, rfl⟩
      have hsome := (Db.mem_keys.mp hin).1
      rw [hname name hin, hhashes] at hsome
      simpa using hsome
    · intro hne
      refine ⟨t.hashName key, Db.mem_keys.mpr ⟨Or.inl hne, ?_⟩, TableBase.dumpKey_hashName⟩
      rw [TableBase.startsWith_tableName_iff, TableBase.dumpKey_hashName]
  refine ⟨?_, hmem, ?_⟩
  · rw [hkeys]
    refine List.Nodup.map_on ?_ ?_
    · intro name hin name' hin' he
      rw [hname name hin, hname name' hin', he]
    · have hsets : db.sets.keys.filter (Db.startsWith (t.tableName ++ ":")) = [] := by
        rw [List.filter_eq_nil_iff]
        intro name hin hstart
        have hnot := hhashes (t.dumpKey name)
        rw [← TableBase.startsWith_tableName_iff.mp hstart, Db.smembers_eq_empty_iff] at hnot
        exact hnot (ExtTreeMap.mem_keys.mp hin)
      rw [Db.keys, List.filter_append, hsets, List.append_nil]
      exact ExtTreeMap.nodup_keys.filter _
  · intro key hin
    have hne : key ≠ "" := by
      rintro rfl
      exact (hmem "").mp hin hempty
    show readReply (db.hgetall (t.getKeyName key)) = _
    rw [TableBase.getKeyName, if_neg hne, hsep]
    rfl

end Swss
