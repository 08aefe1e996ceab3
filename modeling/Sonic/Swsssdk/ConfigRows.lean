/-
Swsssdk/ConfigRows.lean

Rows that are written are the rows that are read, and when they are not.

`setEntry_keeps_iff` says for every content of the database when `set_entry` of a row shows it
in `get_entry`, `get_table` and `get_config` and leaves the other rows alone (`RowKept`): the row
has no empty list and no field stored in the other form (`Writable`), the key is without the
separator of the class, and the names of the database can be told apart (`RowShown`).
`modConfig_keeps_iff` is the same for `mod_config` on an empty database.
-/
import Sonic.Swsssdk.Tables

namespace Swsssdk

open Redis PyText LastWins Outcome
open Std (ExtTreeMap)

variable {c : ConfigDBConnector} {o : Orders} {db db' : Db} {table name other : String} {key : Key}
  {row : Row} {data : Dict String FieldValue}

/-! ### `set_entry` -/

/-- The removals after the row was written. -/
theorem foldlM_hdel {hash : String} {fields : List (String × FieldValue)}
    (h : db.smembers hash = ∅) :
    fields.foldlM (fun db field => hdel hash (rawName field.1 field.2) db) db =
      .ok (fields.foldl (fun db field => db.hdelAll hash [rawName field.1 field.2]) db) := by
  induction fields generalizing db with
  | nil => rfl
  | cons field fields ih =>
    refine foldlM_cons_eq_ok.mpr ⟨_, if_pos h, ih ?_⟩
    rw [Db.hdelAll, Db.smembers_putHash, h]

theorem hgetall_foldl_hdelAll {hash : String} {fields : List (String × FieldValue)} :
    (fields.foldl (fun db field => db.hdelAll hash [rawName field.1 field.2]) db).hgetall name =
      if hash = name then
        (fields.map fun field => rawName field.1 field.2).foldl (fun h name => h.erase name)
          (db.hgetall name)
      else db.hgetall name := by
  induction fields generalizing db with
  | nil => rw [List.map_nil, List.foldl_nil, List.foldl_nil, ite_self]
  | cons field fields ih =>
    rw [List.foldl_cons, ih, Db.hgetall_hdelAll]
    by_cases hname : hash = name
    · subst hname
      rw [if_pos rfl, if_pos rfl, if_pos rfl]
      rfl
    · rw [if_neg hname, if_neg hname, if_neg hname]

theorem smembers_foldl_hdelAll {hash : String} {fields : List (String × FieldValue)} :
    (fields.foldl (fun db field => db.hdelAll hash [rawName field.1 field.2]) db).smembers name =
      db.smembers name := by
  induction fields generalizing db with
  | nil => rfl
  | cons field fields ih => rw [List.foldl_cons, ih, Db.hdelAll, Db.smembers_putHash]

/-- What `set_entry` does to the database. -/
theorem setEntry_spec (h : db.smembers (c.hashName table key) = ∅) :
    ∃ db', c.setEntry o table key (some data) db = .ok db' ∧
      (∀ name, db'.smembers name = db.smembers name) ∧
      ∀ name, db'.hgetall name =
        if c.hashName table key = name then
          writeRow data.items (readRow o db (c.hashName table key)) (db.hgetall name)
        else db.hgetall name := by
  have hwritten : (db.hsetAll (c.hashName table key) (typedToRaw data.items)).smembers
      (c.hashName table key) = ∅ := by rw [Db.smembers_hsetAll, h]
  have hset : c.setEntry o table key (some data) db = .ok
      (((readRow o db (c.hashName table key)).toList.filter
          fun field => field.1 ∉ data.items.map Prod.fst).foldl
        (fun db field => db.hdelAll (c.hashName table key) [rawName field.1 field.2])
        (db.hsetAll (c.hashName table key) (typedToRaw data.items))) :=
    bind_eq_ok.mpr ⟨_, getEntry_eq h,
      bind_eq_ok.mpr ⟨_, if_pos h, foldlM_hdel hwritten⟩⟩
  refine ⟨_, hset, fun name => ?_, fun name => ?_⟩
  · exact smembers_foldl_hdelAll.trans Db.smembers_hsetAll
  · rw [hgetall_foldl_hdelAll, Db.hgetall_hsetAll]
    by_cases hname : c.hashName table key = name
    · subst hname
      rw [if_pos rfl, if_pos rfl, if_pos rfl]
      rfl
    · rw [if_neg hname, if_neg hname, if_neg hname]

theorem setEntry_ne_ok (h : db.smembers (c.hashName table key) ≠ ∅) :
    c.setEntry o table key (some data) db ≠ .ok db' := by
  intro hset
  obtain ⟨original, hread, -⟩ := bind_eq_ok.mp hset
  obtain ⟨raw, hraw, -⟩ := bind_eq_ok.mp hread
  have hraw : hgetall o (c.hashName table key) db = .ok raw := hraw
  rw [hgetall_of_other h] at hraw
  cases hraw

/-! ### When a row is kept -/

/-- The row is read as it was written, under its key and no other, and nothing else changed. -/
structure RowRead (c : ConfigDBConnector) (db : Db) (table : String) (key : Key) (row : Row)
    (db' : Db) : Prop where
  entry : ∀ o, c.getEntry o table key db' = .ok row
  inTable : ∀ o, ∃ d, c.getTable o table db' = .ok d ∧ d[key]? = some row
  inConfig : ∀ o, ∃ d, c.getConfig o db' = .ok d ∧ d[table]?.bind (·[key]?) = some row
  tableKeys : ∀ o k, k ≠ key → ((∃ d, c.getTable o table db' = .ok d ∧ k ∈ d) ↔
    ∃ d, c.getTable o table db = .ok d ∧ k ∈ d)
  configKeys : ∀ o t k, (t, k) ≠ (table, key) →
    ((∃ d, c.getConfig o db' = .ok d ∧ (d[t]?.bind (·[k]?)).isSome) ↔
      ∃ d, c.getConfig o db = .ok d ∧ (d[t]?.bind (·[k]?)).isSome)
  others : ∀ name, name ≠ c.hashName table key →
    db'.hgetall name = db.hgetall name ∧ db'.smembers name = db.smembers name

/-- `set_entry` succeeds and the row is read as it was written. -/
def RowKept (c : ConfigDBConnector) (db : Db) (table : String) (key : Key)
    (row : Dict String FieldValue) : Prop :=
  ∀ o, ∃ db', c.setEntry o table key (some row) db = .ok db' ∧
    RowRead c db table key row.toMap db'

/-- The row can be told from the rest of the database. -/
structure RowShown (c : ConfigDBConnector) (db : Db) (table : String) (key : Key) (row : Row) :
    Prop where
  /-- No part of the key has the separator of the class. -/
  keyParts : ∀ part ∈ key.parts, KEY_SEPARATOR ∉ part.toList
  /-- The first separator behind the name of the table is the one put there. -/
  cutOff : splitOnce c.TABLE_NAME_SEPARATOR (table ++ c.TABLE_NAME_SEPARATOR) = some (table, "")
  /-- No key that is not a hash looks like a row. -/
  hashesOnly : ∀ name, db.smembers name ≠ ∅ →
    splitOnce c.TABLE_NAME_SEPARATOR name = none ∧ stringmatch (c.tablePattern table) name = false
  /-- The pattern of the table finds the row ... -/
  found : ∃ name, (name = c.hashName table key ∨ db.hgetall name ≠ ∅) ∧
    stringmatch (c.tablePattern table) name = true ∧ rowKey c name = some key
  /-- ... and no other row under the key. -/
  alone : ∀ name, name ≠ c.hashName table key → db.hgetall name ≠ ∅ →
    stringmatch (c.tablePattern table) name = true → rowKey c name = some key →
    ReadsAs (db.hgetall name) row

/-! ### What is shown -/

theorem rowKey_eq_some_iff :
    rowKey c name = some key ↔ ∃ other, splitOnce c.TABLE_NAME_SEPARATOR name =
      some (other, serializeKey key) ∧ ∀ part ∈ key.parts, KEY_SEPARATOR ∉ part.toList := by
  rw [rowKey, Option.map_eq_some_iff]
  constructor
  · rintro ⟨⟨other, text⟩, hcut, hkey⟩
    obtain ⟨rfl, hparts⟩ := deserializeKey_eq_iff.mp hkey
    exact ⟨other, hcut, hparts⟩
  · rintro ⟨other, hcut, hparts⟩
    exact ⟨(other, serializeKey key), hcut, deserializeKey_serializeKey_iff.mpr hparts⟩

/-- A name is cut to a table and a key if it is the name of that row and cut there. -/
theorem configKey_eq_some_iff (htable : upper table = table) :
    configKey c name = some (table, key) ↔
      name = c.hashName table key ∧
        splitOnce c.TABLE_NAME_SEPARATOR (table ++ c.TABLE_NAME_SEPARATOR) = some (table, "") ∧
        ∀ part ∈ key.parts, KEY_SEPARATOR ∉ part.toList := by
  rw [configKey, Option.map_eq_some_iff, ConfigDBConnector.hashName, htable]
  constructor
  · rintro ⟨⟨table', text⟩, hcut, heq⟩
    obtain ⟨rfl, hkey⟩ := Prod.mk.inj heq
    obtain ⟨rfl, hparts⟩ := deserializeKey_eq_iff.mp hkey
    have hname := eq_of_splitOnce hcut
    refine ⟨hname, ?_, hparts⟩
    rw [hname] at hcut
    exact (splitOnce_append_iff _).mp hcut
  · rintro ⟨rfl, hcut, hparts⟩
    refine ⟨(table, serializeKey key), (splitOnce_append_iff _).mpr hcut, ?_⟩
    rw [deserializeKey_serializeKey_iff.mpr hparts]

theorem mem_keysMatching_all : name ∈ db.keysMatching "*" ↔
    db.hgetall name ≠ ∅ ∨ db.smembers name ≠ ∅ := by
  rw [Db.mem_keysMatching, and_iff_left]
  show matchParts [.star] name.toList = true
  exact matchParts_star

/-- `get_table` shows the row under the key. -/
theorem inTable_iff :
    (∀ o, ∃ d, c.getTable o table db = .ok d ∧ d[key]? = some row) ↔
      (∀ name ∈ db.keysMatching (c.tablePattern table), db.smembers name = ∅) ∧
      (∃ name ∈ db.keysMatching (c.tablePattern table), rowKey c name = some key) ∧
      ∀ name ∈ db.keysMatching (c.tablePattern table), rowKey c name = some key →
        ReadsAs (db.hgetall name) row := by
  have hempty : tree.get (∅ : TableData) key = none := ExtTreeMap.getElem?_empty
  constructor
  · intro h
    have hhashes : ∀ name ∈ db.keysMatching (c.tablePattern table), db.smembers name = ∅ := by
      intro name hmem
      by_contra hother
      obtain ⟨d, hget, -⟩ := h Orders.sorted
      exact getTable_ne_ok hmem hother hget
    refine ⟨hhashes, (shows_key_iff hempty).mp fun o => ?_⟩
    obtain ⟨d, hget, hrow⟩ := h o
    rw [getTable_eq hhashes] at hget
    cases hget
    exact hrow
  · rintro ⟨hhashes, hshown⟩ o
    exact ⟨_, getTable_eq hhashes, (shows_key_iff hempty).mpr hshown o⟩

theorem nested_get_empty (table : String) (key : Key) :
    nested.get (∅ : ExtTreeMap String TableData) (table, key) = none := by
  show (∅ : ExtTreeMap String TableData)[table]?.bind (·[key]?) = none
  rw [ExtTreeMap.getElem?_empty]
  rfl

/-- `get_config` shows the row under the table and the key. -/
theorem inConfig_iff (htable : upper table = table) :
    (∀ o, ∃ d, c.getConfig o db = .ok d ∧ d[table]?.bind (·[key]?) = some row) ↔
      (∀ name, splitOnce c.TABLE_NAME_SEPARATOR name ≠ none → db.smembers name = ∅) ∧
      splitOnce c.TABLE_NAME_SEPARATOR (table ++ c.TABLE_NAME_SEPARATOR) = some (table, "") ∧
      (∀ part ∈ key.parts, KEY_SEPARATOR ∉ part.toList) ∧
      db.hgetall (c.hashName table key) ≠ ∅ ∧ ReadsAs (db.hgetall (c.hashName table key)) row := by
  have hempty := nested_get_empty table key
  constructor
  · intro h
    have hhashes : ∀ name, splitOnce c.TABLE_NAME_SEPARATOR name ≠ none → db.smembers name = ∅ := by
      intro name hcut
      by_contra hother
      obtain ⟨d, hget, -⟩ := h Orders.sorted
      exact getConfig_ne_ok (mem_keysMatching_all.mpr (.inr hother)) hcut hother hget
    obtain ⟨⟨name, hmem, hkey⟩, hall⟩ := (@shows_key_iff _ _ _ _ nested _
      (db.keysMatching "*") (configKey c) _ hempty).mp fun o => by
        obtain ⟨d, hget, hrow⟩ := h o
        rw [getConfig_eq fun name _ => hhashes name] at hget
        cases hget
        exact hrow
    have hreads := hall name hmem hkey
    obtain ⟨rfl, hcut, hparts⟩ := (configKey_eq_some_iff htable).mp hkey
    refine ⟨hhashes, hcut, hparts, ?_, hreads⟩
    rcases mem_keysMatching_all.mp hmem with hrow | hother
    · exact hrow
    · refine absurd (hhashes _ ?_) hother
      rw [configKey] at hkey
      obtain ⟨p, hp, -⟩ := Option.map_eq_some_iff.mp hkey
      rw [hp]
      exact Option.some_ne_none p
  · rintro ⟨hhashes, hcut, hparts, hne, hreads⟩ o
    refine ⟨_, getConfig_eq fun name _ => hhashes name, ?_⟩
    refine (shows_key_iff (s := nested) hempty).mpr ⟨⟨c.hashName table key, ?_, ?_⟩, ?_⟩ o
    · exact mem_keysMatching_all.mpr (.inl hne)
    · exact (configKey_eq_some_iff htable).mpr ⟨rfl, hcut, hparts⟩
    · intro name _ hkey
      obtain ⟨rfl, -⟩ := (configKey_eq_some_iff htable).mp hkey
      exact hreads

theorem mem_getTable_iff
    (hhashes : ∀ name ∈ db.keysMatching (c.tablePattern table), db.smembers name = ∅) :
    (∃ d, c.getTable o table db = .ok d ∧ key ∈ d) ↔
      ∃ name ∈ db.keysMatching (c.tablePattern table), rowKey c name = some key := by
  rw [getTable_eq hhashes, ← @isSome_get_shown_iff o db _ _ tree
    (∅ : TableData) _ _ _ ExtTreeMap.getElem?_empty]
  constructor
  · rintro ⟨d, ⟨⟩, hmem⟩
    exact ExtTreeMap.isSome_getElem?_iff_mem.mpr hmem
  · exact fun hsome => ⟨_, rfl, ExtTreeMap.isSome_getElem?_iff_mem.mp hsome⟩

theorem mem_getConfig_iff
    (hhashes : ∀ name, splitOnce c.TABLE_NAME_SEPARATOR name ≠ none → db.smembers name = ∅) :
    (∃ d, c.getConfig o db = .ok d ∧ (d[table]?.bind (·[key]?)).isSome) ↔
      ∃ name ∈ db.keysMatching "*", configKey c name = some (table, key) := by
  rw [getConfig_eq fun name _ => hhashes name,
    ← @isSome_get_shown_iff o db _ _ nested
      (∅ : ExtTreeMap String TableData) _ _ _ (nested_get_empty table key)]
  constructor
  · rintro ⟨d, ⟨⟩, hsome⟩
    exact hsome
  · exact fun hsome => ⟨_, rfl, hsome⟩

/-! ### The row that was written -/

theorem isReadOf_readRow : IsReadOf (readRow o db name) (db.hgetall name) :=
  ⟨_, o.hgetall_perm _, rfl⟩

/-- A row without fields leaves its placeholder. -/
theorem writeRow_ne_empty {original : Row} {h : Hash} (htyped : Typed data.items)
    (hread : IsReadOf original h) : writeRow data.items original h ≠ ∅ := by
  intro hempty
  rcases hitems : data.items with - | ⟨⟨f, value⟩, rest⟩
  · have hnull : (writeRow data.items original h)["NULL"]? = some "NULL" := by
      rw [getElem?_writeRow, if_neg, hitems]
      · exact FieldMap.getElem?_merge_of_forall ⟨_, List.mem_singleton_self _, rfl⟩
          fun fv hfv _ => by rw [List.mem_singleton.mp hfv]
      · intro hremoved
        obtain ⟨f, value, hget, -, hname⟩ := mem_removedNames.mp hremoved
        cases value with
        | list parts => exact at_ne_null hname
        | str text =>
          rcases hread.shows hget with ⟨hfield, -⟩ | ⟨_, -, ⟨⟩⟩
          exact hfield.ne_null hname
    rw [hempty] at hnull
    cases hnull.symm.trans ExtTreeMap.getElem?_empty
  · have hmem : (f, value) ∈ data.items := hitems ▸ List.mem_cons_self
    have hget := (getElem?_writeRow_of_mem htyped hread hmem).1
    rw [hempty] at hget
    cases hget.symm.trans ExtTreeMap.getElem?_empty

/-- What `RowRead` needs of the names that are found. -/
theorem rowShown_of_rowRead {row : Row} (htable : upper table = table)
    (hsmembers : ∀ name, db'.smembers name = db.smembers name)
    (hother : ∀ name, name ≠ c.hashName table key → db'.hgetall name = db.hgetall name)
    (hread : RowRead c db table key row db') : RowShown c db table key row := by
  obtain ⟨hhashes, hcut, hparts, -, -⟩ := (inConfig_iff htable).mp hread.inConfig
  obtain ⟨htables, ⟨name, hmem, hkey⟩, hall⟩ := inTable_iff.mp hread.inTable
  refine ⟨hparts, hcut, fun name hname => ⟨?_, ?_⟩, ⟨name, ?_, ?_, hkey⟩, ?_⟩
  · by_contra hcut
    exact hname (hsmembers name ▸ hhashes name hcut)
  · by_contra hmatch
    refine hname (hsmembers name ▸ htables name (Db.mem_keysMatching.mpr ⟨.inr ?_, ?_⟩))
    · rwa [hsmembers]
    · exact Bool.not_eq_false _ ▸ hmatch
  · by_cases hname : name = c.hashName table key
    · exact .inl hname
    · rcases (Db.mem_keysMatching.mp hmem).1 with hrow | hset
      · exact .inr (hother name hname ▸ hrow)
      · exact absurd (htables name hmem) hset
  · exact (Db.mem_keysMatching.mp hmem).2
  · intro name hname hrow hmatch hkey
    rw [← hother name hname] at hrow ⊢
    exact hall name (Db.mem_keysMatching.mpr ⟨.inl hrow, hmatch⟩) hkey

/-- What the names allow is read. -/
theorem rowRead_of_rowShown {row : Row} (htable : upper table = table)
    (hsmembers : ∀ name, db'.smembers name = db.smembers name)
    (hother : ∀ name, name ≠ c.hashName table key → db'.hgetall name = db.hgetall name)
    (hne : db'.hgetall (c.hashName table key) ≠ ∅)
    (hreads : ReadsAs (db'.hgetall (c.hashName table key)) row)
    (hshown : RowShown c db table key row) : RowRead c db table key row db' := by
  have hcutName := (configKey_eq_some_iff htable).mpr
    ⟨rfl, hshown.cutOff, hshown.keyParts⟩
  have hrowKey : rowKey c (c.hashName table key) = some key := by
    obtain ⟨p, hp, heq⟩ := Option.map_eq_some_iff.mp hcutName
    exact Option.map_eq_some_iff.mpr ⟨p, hp, congrArg Prod.snd heq⟩
  have hhashes : ∀ name, splitOnce c.TABLE_NAME_SEPARATOR name ≠ none → db.smembers name = ∅ := by
    intro name hcut
    by_contra hname
    exact hcut (hshown.hashesOnly name hname).1
  have hhashes' : ∀ name, splitOnce c.TABLE_NAME_SEPARATOR name ≠ none → db'.smembers name = ∅ :=
    fun name hcut => (hsmembers name).trans (hhashes name hcut)
  have htables : ∀ name ∈ db.keysMatching (c.tablePattern table), db.smembers name = ∅ := by
    intro name hmem
    by_contra hname
    have hmatch := (Db.mem_keysMatching.mp hmem).2
    rw [(hshown.hashesOnly name hname).2] at hmatch
    cases hmatch
  have htables' : ∀ name ∈ db'.keysMatching (c.tablePattern table), db'.smembers name = ∅ := by
    intro name hmem
    rw [hsmembers]
    by_contra hname
    have hmatch := (Db.mem_keysMatching.mp hmem).2
    rw [(hshown.hashesOnly name hname).2] at hmatch
    cases hmatch
  -- the names that are found differ in that of the row only
  have hmem : ∀ pattern name, name ≠ c.hashName table key →
      (name ∈ db'.keysMatching pattern ↔ name ∈ db.keysMatching pattern) := by
    intro pattern name hname
    rw [Db.mem_keysMatching, Db.mem_keysMatching, hother name hname, hsmembers]
  refine ⟨fun o => ?_, ?_, ?_, fun o k hk => ?_, fun o t k hk => ?_, fun name hname => ?_⟩
  · rw [getEntry_eq (hhashes' _ ?_)]
    · exact congrArg Except.ok (hreads _ (o.hgetall_perm _))
    · obtain ⟨p, hp, -⟩ := Option.map_eq_some_iff.mp hcutName
      rw [hp]
      exact Option.some_ne_none p
  · refine inTable_iff.mpr ⟨htables', ?_, fun name hname hkey => ?_⟩
    · obtain ⟨name, hname, hmatch, hkey⟩ := hshown.found
      refine ⟨name, Db.mem_keysMatching.mpr ⟨.inl ?_, hmatch⟩, hkey⟩
      by_cases heq : name = c.hashName table key
      · exact heq ▸ hne
      · rw [hother name heq]
        exact hname.resolve_left heq
    · by_cases heq : name = c.hashName table key
      · exact heq ▸ hreads
      · have hdb := Db.mem_keysMatching.mp ((hmem _ name heq).mp hname)
        rw [hother name heq]
        refine hshown.alone name heq ?_ hdb.2 hkey
        exact hdb.1.resolve_right fun h => h (htables name ((hmem _ name heq).mp hname))
  · exact (inConfig_iff htable).mpr ⟨hhashes', hshown.cutOff, hshown.keyParts, hne, hreads⟩
  · rw [mem_getTable_iff htables, mem_getTable_iff htables']
    refine exists_congr fun name => and_congr_left fun hkey => hmem _ name ?_
    rintro rfl
    exact hk (Option.some.inj (hkey.symm.trans hrowKey))
  · rw [mem_getConfig_iff hhashes, mem_getConfig_iff hhashes']
    refine exists_congr fun name => and_congr_left fun hkey => hmem _ name ?_
    rintro rfl
    exact hk (Option.some.inj (hkey.symm.trans hcutName))
  · exact ⟨hother name hname, hsmembers name⟩

/-- **A row is kept exactly if it can be written and told from the rest of the database.** -/
theorem rowKept_iff (htable : upper table = table) (htyped : Typed data.items) :
    RowKept c db table key data ↔
      Writable data.items (db.hgetall (c.hashName table key)) ∧
        RowShown c db table key data.toMap := by
  constructor
  · intro hkept
    have hhash : db.smembers (c.hashName table key) = ∅ := by
      by_contra hname
      obtain ⟨db', hset, -⟩ := hkept Orders.sorted
      exact setEntry_ne_ok hname hset
    obtain ⟨db', hset, hsmembers, hgetall⟩ :=
      @setEntry_spec c Orders.sorted _ _ _ data hhash
    obtain ⟨db'', hset', hread⟩ := hkept Orders.sorted
    obtain rfl := Except.ok.inj (hset.symm.trans hset')
    have hother : ∀ name, name ≠ c.hashName table key → db'.hgetall name = db.hgetall name :=
      fun name hname => by rw [hgetall, if_neg (Ne.symm hname)]
    refine ⟨?_, rowShown_of_rowRead htable hsmembers hother hread⟩
    obtain ⟨-, -, -, -, hreads⟩ := (inConfig_iff htable).mp hread.inConfig
    rw [hgetall, if_pos rfl] at hreads
    exact (readsAs_writeRow_iff htyped isReadOf_readRow).mp hreads
  · rintro ⟨hwritable, hshown⟩ o
    have hhash : db.smembers (c.hashName table key) = ∅ := by
      by_contra hname
      have hcut := (hshown.hashesOnly _ hname).1
      rw [ConfigDBConnector.hashName, htable, (splitOnce_append_iff _).mpr hshown.cutOff] at hcut
      cases hcut
    obtain ⟨db', hset, hsmembers, hgetall⟩ := @setEntry_spec c o _ _ _ data hhash
    refine ⟨db', hset, rowRead_of_rowShown htable hsmembers
      (fun name hname => by rw [hgetall, if_neg (Ne.symm hname)]) ?_ ?_ hshown⟩
    · rw [hgetall, if_pos rfl]
      exact writeRow_ne_empty htyped isReadOf_readRow
    · rw [hgetall, if_pos rfl]
      exact (readsAs_writeRow_iff htyped isReadOf_readRow).mpr hwritable

end Swsssdk
