/-
Swsssdk/ModConfig.lean

`mod_config` of a configuration on an empty database, and what `get_config` makes of it.

`mod_config` writes one hash for each row, and nothing for a table without rows.  The rows are
read back one by one as in `ConfigRows`; what is new is that the names of two rows must differ,
which follows from their being cut to different keys (`configKey_hashName`).
-/
import Sonic.Swsssdk.ConfigRows

namespace Swsssdk

open Redis PyText LastWins Outcome
open Std (ExtTreeMap)

/-- A configuration, in the order of its dicts. -/
abbrev Config := Dict String (Dict Key (Dict String FieldValue))

variable {c : ConfigDBConnector} {o : Orders} {db db' : Db} {table name : String} {key : Key}
  {row : Row} {data : Dict String FieldValue} {conf : Config}

/-! ### Configurations -/

/-- The dict with its values changed. -/
def Dict.mapValues {K V W : Type*} (f : V → W) (d : Dict K V) : Dict K W where
  items := d.items.map fun p => (p.1, f p.2)
  nodup := by
    rw [List.map_map]
    exact d.nodup

/-- The configuration as it compares with others. -/
def configMap (conf : Config) : ExtTreeMap String TableData :=
  (conf.mapValues fun entries => (entries.mapValues Dict.toMap).toMap).toMap

/-- The rows of a configuration. -/
def rows (conf : Config) : List ((String × Key) × Dict String FieldValue) :=
  conf.items.flatMap fun t => t.2.items.map fun e => ((t.1, e.1), e.2)

theorem mem_rows_iff : ((table, key), data) ∈ rows conf ↔
    ∃ entries, (table, entries) ∈ conf.items ∧ (key, data) ∈ entries.items := by
  rw [rows, List.mem_flatMap]
  constructor
  · rintro ⟨⟨table', entries⟩, htable, hmem⟩
    obtain ⟨⟨key', data'⟩, hentry, heq⟩ := List.mem_map.mp hmem
    obtain ⟨⟨rfl, rfl⟩, rfl⟩ := heq
    exact ⟨entries, htable, hentry⟩
  · rintro ⟨entries, htable, hentry⟩
    exact ⟨(table, entries), htable, List.mem_map.mpr ⟨(key, data), hentry, rfl⟩⟩

theorem getElem?_mapValues_toMap {K V W : Type*} [Ord K] [Std.TransOrd K] [Std.LawfulEqOrd K]
    {f : V → W} {d : Dict K V} {k : K} {w : W} :
    (d.mapValues f).toMap[k]? = some w ↔ ∃ v, (k, v) ∈ d.items ∧ f v = w := by
  rw [Dict.getElem?_toMap_eq_some_iff, Dict.mapValues, List.mem_map]
  constructor
  · rintro ⟨⟨k', v⟩, hmem, heq⟩
    obtain ⟨rfl, rfl⟩ := Prod.mk.inj heq
    exact ⟨v, hmem, rfl⟩
  · rintro ⟨v, hmem, rfl⟩
    exact ⟨(k, v), hmem, rfl⟩

/-- What a configuration holds under a table and a key. -/
theorem get_configMap_iff :
    nested.get (configMap conf) (table, key) = some row ↔
      ∃ data, ((table, key), data) ∈ rows conf ∧ data.toMap = row := by
  show (configMap conf)[table]?.bind (·[key]?) = some row ↔ _
  rw [Option.bind_eq_some_iff]
  constructor
  · rintro ⟨d, htable, hrow⟩
    obtain ⟨entries, hentries, rfl⟩ := getElem?_mapValues_toMap.mp htable
    obtain ⟨data, hdata, rfl⟩ := getElem?_mapValues_toMap.mp hrow
    exact ⟨data, mem_rows_iff.mpr ⟨entries, hentries, hdata⟩, rfl⟩
  · rintro ⟨data, hmem, rfl⟩
    obtain ⟨entries, hentries, hdata⟩ := mem_rows_iff.mp hmem
    exact ⟨_, getElem?_mapValues_toMap.mpr ⟨entries, hentries, rfl⟩,
      getElem?_mapValues_toMap.mpr ⟨data, hdata, rfl⟩⟩

/-! ### `mod_config` -/

/-- The name of a row. -/
def rowName (c : ConfigDBConnector) (row : (String × Key) × Dict String FieldValue) : String :=
  c.hashName row.1.1 row.1.2

/-- One HMSET for each row. -/
def writeRows (c : ConfigDBConnector) (rows : List ((String × Key) × Dict String FieldValue))
    (db : Db) : Db :=
  rows.foldl (fun db row => db.hsetAll (rowName c row) (typedToRaw row.2.items)) db

variable {list : List ((String × Key) × Dict String FieldValue)}

theorem smembers_writeRows : (writeRows c list db).smembers name = db.smembers name := by
  induction list generalizing db with
  | nil => rfl
  | cons row list ih => exact ih.trans Db.smembers_hsetAll

theorem foldlM_modEntry {entries : List (Key × Dict String FieldValue)}
    (hplain : ∀ name, db.smembers name = ∅) :
    entries.foldlM (fun db entry => c.modEntry table entry.1 (some entry.2) db) db =
      .ok (writeRows c (entries.map fun e => ((table, e.1), e.2)) db) := by
  induction entries generalizing db with
  | nil => rfl
  | cons entry entries ih =>
    refine foldlM_cons_eq_ok.mpr ⟨_, if_pos (hplain _), ih fun name => ?_⟩
    rw [Db.smembers_hsetAll, hplain]

theorem modConfig_eq (hplain : ∀ name, db.smembers name = ∅) :
    c.modConfig conf db = .ok (writeRows c (rows conf) db) := by
  have hloop : ∀ (tables : List (String × Dict Key (Dict String FieldValue))) (db : Db),
      (∀ name, db.smembers name = ∅) →
      tables.foldlM (fun db table => table.2.items.foldlM
          (fun db entry => c.modEntry table.1 entry.1 (some entry.2) db) db) db =
        .ok (writeRows c (tables.flatMap fun t => t.2.items.map fun e => ((t.1, e.1), e.2)) db) := by
    intro tables
    induction tables with
    | nil => exact fun db _ => rfl
    | cons t tables ih =>
      intro db hplain
      refine foldlM_cons_eq_ok.mpr ⟨_, foldlM_modEntry hplain, ?_⟩
      rw [ih _ fun name => smembers_writeRows.trans (hplain name), List.flatMap_cons, writeRows,
        writeRows, writeRows, List.foldl_append]
  exact hloop conf.items db hplain

theorem typedToRaw_ne_nil {items : List (String × FieldValue)} : typedToRaw items ≠ [] := by
  rw [typedToRaw]
  split
  · exact List.cons_ne_nil _ _
  · next hne => simpa using hne

/-- The names of the database are those of the rows. -/
theorem hgetall_writeRows_eq_empty_iff :
    (writeRows c list db).hgetall name = ∅ ↔
      db.hgetall name = ∅ ∧ ∀ row ∈ list, rowName c row ≠ name := by
  induction list generalizing db with
  | nil => exact ⟨fun h => ⟨h, fun _ hrow => absurd hrow List.not_mem_nil⟩, And.left⟩
  | cons row list ih =>
    have hmerge : FieldMap.merge (db.hgetall (rowName c row)) (typedToRaw row.2.items) ≠ ∅ := by
      obtain ⟨fv, rest, hraw⟩ := List.exists_cons_of_ne_nil
        (@typedToRaw_ne_nil row.2.items)
      intro hempty
      have hmem : fv.1 ∈ FieldMap.merge (db.hgetall (rowName c row)) (typedToRaw row.2.items) :=
        FieldMap.mem_merge.mpr (.inr ⟨fv, hraw ▸ List.mem_cons_self, rfl⟩)
      rw [hempty] at hmem
      exact ExtTreeMap.not_mem_empty hmem
    rw [writeRows, List.foldl_cons]
    show (writeRows c list _).hgetall name = ∅ ↔ _
    rw [ih, Db.hgetall_hsetAll, List.forall_mem_cons]
    by_cases hname : rowName c row = name
    · rw [if_pos hname]
      exact iff_of_false (fun h => hmerge h.1) fun h => h.2.1 hname
    · rw [if_neg hname]
      exact and_congr_right fun _ => (and_iff_right hname).symm

/-- A row whose name no other row has is written as it is. -/
theorem hgetall_writeRows {row : (String × Key) × Dict String FieldValue} (hmem : row ∈ list)
    (hnodup : list.Pairwise fun row row' => rowName c row ≠ rowName c row') :
    (writeRows c list Db.empty).hgetall (rowName c row) =
      FieldMap.merge ∅ (typedToRaw row.2.items) := by
  have hskip : ∀ (list : List ((String × Key) × Dict String FieldValue)) (db : Db) (name : String),
      (∀ row ∈ list, rowName c row ≠ name) →
        (writeRows c list db).hgetall name = db.hgetall name := by
    intro list
    induction list with
    | nil => exact fun db name _ => rfl
    | cons row list ih =>
      intro db name hnot
      obtain ⟨hrow, hnot⟩ := List.forall_mem_cons.mp hnot
      rw [writeRows, List.foldl_cons]
      show (writeRows c list _).hgetall name = _
      rw [ih _ _ hnot, Db.hgetall_hsetAll, if_neg hrow]
  obtain ⟨before, after, rfl⟩ := List.append_of_mem hmem
  obtain ⟨-, hafter, hbefore⟩ := List.pairwise_append.mp hnodup
  rw [writeRows, List.foldl_append, List.foldl_cons]
  show (writeRows c after _).hgetall _ = _
  rw [hskip after _ _ fun row' hrow' => Ne.symm ((List.pairwise_cons.mp hafter).1 row' hrow'),
    Db.hgetall_hsetAll, if_pos rfl]
  show FieldMap.merge ((writeRows c before Db.empty).hgetall _) _ = _
  rw [hskip before _ _ fun row' hrow' => hbefore row' hrow' row List.mem_cons_self,
    Db.hgetall_empty]

/-! ### When a configuration is kept -/

/-- `mod_config` on an empty database succeeds and `get_config` returns the configuration. -/
def ConfigKept (c : ConfigDBConnector) (conf : Config) : Prop :=
  ∃ db', c.modConfig conf Db.empty = .ok db' ∧ ∀ o, c.getConfig o db' = .ok (configMap conf)

/-- The rows of a configuration for the connector. -/
structure ConfigTyped (conf : Config) : Prop where
  upper : ∀ table entries, (table, entries) ∈ conf.items → upper table = table
  typed : ∀ table key data, ((table, key), data) ∈ rows conf → Typed data.items

/-- The configuration can be written and told apart. -/
structure ConfigWritable (c : ConfigDBConnector) (conf : Config) : Prop where
  noEmptyTable : ∀ table entries, (table, entries) ∈ conf.items → entries.items ≠ []
  cutOff : ∀ table entries, (table, entries) ∈ conf.items →
    splitOnce c.TABLE_NAME_SEPARATOR (table ++ c.TABLE_NAME_SEPARATOR) = some (table, "")
  keyParts : ∀ table key data, ((table, key), data) ∈ rows conf →
    ∀ part ∈ key.parts, KEY_SEPARATOR ∉ part.toList
  noEmptyList : ∀ table key data, ((table, key), data) ∈ rows conf →
    ∀ f, (f, .list []) ∉ data.items

/-- A row on its own is read as it was written if it has no empty list. -/
theorem readsAs_merge_empty_iff (htyped : Typed data.items) :
    ReadsAs (FieldMap.merge ∅ (typedToRaw data.items)) data.toMap ↔
      ∀ f, (f, .list []) ∉ data.items := by
  have hread : IsReadOf ∅ (∅ : Hash) := ⟨[], by simp, rfl⟩
  have hwrite : writeRow data.items ∅ ∅ = FieldMap.merge ∅ (typedToRaw data.items) := by
    have hnone : removedNames data.items ∅ = [] := by
      refine List.eq_nil_iff_forall_not_mem.mpr fun name hname => ?_
      obtain ⟨f, value, hget, -⟩ := mem_removedNames.mp hname
      cases ExtTreeMap.getElem?_empty.symm.trans hget
    rw [writeRow, hnone, List.foldl_nil]
  rw [← hwrite, readsAs_writeRow_iff htyped hread]
  constructor
  · exact Writable.noEmptyList
  · exact fun h => ⟨h, fun f value _ => ExtTreeMap.not_mem_empty,
      fun f _ _ hboth => ExtTreeMap.not_mem_empty hboth.1⟩

/-- Rows that are cut to their keys have different names. -/
theorem pairwise_rowName (hcut : ∀ row ∈ rows conf, configKey c (rowName c row) = some row.1) :
    (rows conf).Pairwise fun row row' => rowName c row ≠ rowName c row' := by
  have hkeys : ((rows conf).map Prod.fst).Nodup := by
    rw [rows, List.map_flatMap, List.nodup_flatMap]
    refine ⟨fun t _ => ?_, ?_⟩
    · rw [List.map_map]
      have hmap : (t.2.items.map Prod.fst).map (fun key => (t.1, key)) =
          t.2.items.map (Prod.fst ∘ fun e => ((t.1, e.1), e.2)) := by
        rw [List.map_map]
        rfl
      rw [← hmap]
      exact t.2.nodup.map fun _ _ heq => (Prod.mk.inj heq).2
    · refine (List.pairwise_map.mp conf.nodup).imp fun {t t'} hne => ?_
      intro k hk hk'
      obtain ⟨r, hr, rfl⟩ := List.mem_map.mp hk
      obtain ⟨e, -, rfl⟩ := List.mem_map.mp hr
      obtain ⟨r', hr', heq⟩ := List.mem_map.mp hk'
      obtain ⟨e', -, rfl⟩ := List.mem_map.mp hr'
      exact hne (Prod.mk.inj heq).1.symm
  refine (List.pairwise_map.mp hkeys).imp_of_mem fun {row row'} hrow hrow' hne heq => hne ?_
  have hkey := hcut row hrow
  rw [heq, hcut row' hrow'] at hkey
  exact (Option.some.inj hkey).symm

theorem configKept_iff_reads :
    ConfigKept c conf ↔
      ∀ o, c.getConfig o (writeRows c (rows conf) Db.empty) = .ok (configMap conf) := by
  have hwrite : c.modConfig conf Db.empty = .ok (writeRows c (rows conf) Db.empty) :=
    modConfig_eq fun _ => Db.smembers_empty
  constructor
  · rintro ⟨db', hmod, hget⟩
    obtain rfl := Except.ok.inj (hwrite.symm.trans hmod)
    exact hget
  · exact fun hget => ⟨_, hwrite, hget⟩

/-- Every row of a configuration that is kept is shown. -/
theorem shown_of_configKept (hkept : ConfigKept c conf) (hrow : ((table, key), data) ∈ rows conf) :
    ∀ o, ∃ d, c.getConfig o (writeRows c (rows conf) Db.empty) = .ok d ∧
      d[table]?.bind (·[key]?) = some data.toMap :=
  fun o => ⟨_, configKept_iff_reads.mp hkept o, get_configMap_iff.mpr ⟨data, hrow, rfl⟩⟩

theorem configWritable_of_kept (hconf : ConfigTyped conf) (hkept : ConfigKept c conf) :
    ConfigWritable c conf := by
  have htable : ∀ {table key data}, ((table, key), data) ∈ rows conf → upper table = table := by
    intro table key data hrow
    obtain ⟨entries, hentries, -⟩ := mem_rows_iff.mp hrow
    exact hconf.upper table entries hentries
  have hread : ∀ {table key data}, ((table, key), data) ∈ rows conf → _ := fun hrow =>
    (inConfig_iff (htable hrow)).mp (shown_of_configKept hkept hrow)
  have hempty : ∀ table entries, (table, entries) ∈ conf.items → entries.items ≠ [] := by
    intro table entries hentries hnil
    have hmap : (configMap conf)[table]? = some (entries.mapValues Dict.toMap).toMap :=
      getElem?_mapValues_toMap.mpr ⟨entries, hentries, rfl⟩
    have hget := configKept_iff_reads.mp hkept Orders.sorted
    rw [getConfig_eq fun name _ _ => smembers_writeRows.trans Db.smembers_empty] at hget
    rw [← Except.ok.inj hget] at hmap
    refine nested_putAll_ne_empty hmap (ExtTreeMap.ext_getElem? fun key => ?_)
    rw [ExtTreeMap.getElem?_empty, Option.eq_none_iff_forall_ne_some]
    intro row hrow
    obtain ⟨data, hdata, -⟩ := getElem?_mapValues_toMap.mp hrow
    rw [hnil] at hdata
    exact absurd hdata List.not_mem_nil
  have hpairwise : (rows conf).Pairwise fun row row' => rowName c row ≠ rowName c row' := by
    refine pairwise_rowName fun ⟨⟨table, key⟩, data⟩ hrow => ?_
    obtain ⟨-, hcut, hparts, -⟩ := hread hrow
    exact (configKey_eq_some_iff (htable hrow)).mpr ⟨rfl, hcut, hparts⟩
  refine ⟨hempty, fun table entries hentries => ?_, fun table key data hrow => ?_,
    fun table key data hrow => ?_⟩
  · obtain ⟨⟨key, data⟩, rest, hitems⟩ := List.exists_cons_of_ne_nil (hempty _ _ hentries)
    exact (hread (mem_rows_iff.mpr ⟨entries, hentries, hitems ▸ List.mem_cons_self⟩)).2.1
  · exact (hread hrow).2.2.1
  · have hreads := (hread hrow).2.2.2.2
    rw [show c.hashName table key = rowName c ((table, key), data) from rfl,
      hgetall_writeRows hrow hpairwise] at hreads
    exact (readsAs_merge_empty_iff (hconf.typed _ _ _ hrow)).mp hreads

theorem configKept_of_writable (hconf : ConfigTyped conf) (hwritable : ConfigWritable c conf) :
    ConfigKept c conf := by
  have htable : ∀ {table key data}, ((table, key), data) ∈ rows conf → upper table = table ∧
      splitOnce c.TABLE_NAME_SEPARATOR (table ++ c.TABLE_NAME_SEPARATOR) = some (table, "") := by
    intro table key data hrow
    obtain ⟨entries, hentries, -⟩ := mem_rows_iff.mp hrow
    exact ⟨hconf.upper table entries hentries, hwritable.cutOff table entries hentries⟩
  have hcut : ∀ row ∈ rows conf, configKey c (rowName c row) = some row.1 := by
    rintro ⟨⟨table, key⟩, data⟩ hrow
    obtain ⟨hupper, hcut⟩ := htable hrow
    exact (configKey_eq_some_iff hupper).mpr ⟨rfl, hcut, hwritable.keyParts _ _ _ hrow⟩
  have hplain : ∀ name, (writeRows c (rows conf) Db.empty).smembers name = ∅ :=
    fun name => smembers_writeRows.trans Db.smembers_empty
  refine configKept_iff_reads.mpr fun o => ?_
  have hget := getConfig_eq (o := o) (c := c) fun name _ _ => hplain name
  rw [hget]
  refine congrArg Except.ok (nested_ext (fun table t => nested_putAll_ne_empty)
    (fun table t hmap => ?_) fun ⟨table, key⟩ => ?_)
  · -- no table of the configuration is empty
    obtain ⟨entries, hentries, rfl⟩ := getElem?_mapValues_toMap.mp hmap
    obtain ⟨⟨key, data⟩, rest, hitems⟩ :=
      List.exists_cons_of_ne_nil (hwritable.noEmptyTable _ _ hentries)
    have hsome : ((entries.mapValues Dict.toMap).toMap)[key]? = some data.toMap :=
      getElem?_mapValues_toMap.mpr ⟨data, hitems ▸ List.mem_cons_self, rfl⟩
    intro hnil
    rw [hnil] at hsome
    cases ExtTreeMap.getElem?_empty.symm.trans hsome
  · cases hconfig : nested.get (configMap conf) (table, key) with
    | some row =>
      obtain ⟨data, hrow, rfl⟩ := get_configMap_iff.mp hconfig
      obtain ⟨hupper, hcutOff⟩ := htable hrow
      have hname : (writeRows c (rows conf) Db.empty).hgetall (c.hashName table key) =
          FieldMap.merge ∅ (typedToRaw data.items) := by
        show (writeRows c (rows conf) Db.empty).hgetall (rowName c ((table, key), data)) = _
        exact hgetall_writeRows hrow (pairwise_rowName hcut)
      have hstored : (writeRows c (rows conf) Db.empty).hgetall (c.hashName table key) ≠ ∅ := by
        show (writeRows c (rows conf) Db.empty).hgetall (rowName c ((table, key), data)) ≠ ∅
        exact fun hempty => (hgetall_writeRows_eq_empty_iff.mp hempty).2 _ hrow rfl
      obtain ⟨d, hd, hshown⟩ := (@inConfig_iff _ _ _ _ data.toMap hupper).mpr
        ⟨fun name _ => hplain name, hcutOff, hwritable.keyParts _ _ _ hrow, hstored, by
            rw [hname]
            exact (readsAs_merge_empty_iff (hconf.typed _ _ _ hrow)).mpr
              (hwritable.noEmptyList _ _ _ hrow)⟩ o
      rw [hget] at hd
      cases hd
      exact hshown
    | none =>
      by_contra hsome
      obtain ⟨name, hmem, hkey⟩ := (isSome_get_shown_iff (s := nested)
        (nested_get_empty table key)).mp (Option.isSome_iff_ne_none.mpr hsome)
      have hstored := (mem_keysMatching_all.mp hmem).resolve_right fun h => h (hplain name)
      rw [ne_eq, hgetall_writeRows_eq_empty_iff, not_and] at hstored
      push Not at hstored
      obtain ⟨⟨k, data⟩, hrow, rfl⟩ := hstored Db.hgetall_empty
      have hk : k = (table, key) := Option.some.inj ((hcut _ hrow).symm.trans hkey)
      subst hk
      rw [get_configMap_iff.mpr ⟨data, hrow, rfl⟩] at hconfig
      cases hconfig

/-- **`mod_config` keeps a configuration exactly if it can be written and told apart.** -/
theorem configKept_iff (hconf : ConfigTyped conf) : ConfigKept c conf ↔ ConfigWritable c conf :=
  ⟨configWritable_of_kept hconf, configKept_of_writable hconf⟩

/-! ### Tables with plain names -/

/-- Without glob characters the pattern of a table finds what begins with its name and the
separator. -/
theorem stringmatch_tablePattern_iff (htable : upper table = table)
    (hplain : ∀ ch ∈ (table ++ c.TABLE_NAME_SEPARATOR).toList, Plain ch) :
    stringmatch (c.tablePattern table) name = true ↔
      ∃ text, name = table ++ c.TABLE_NAME_SEPARATOR ++ text := by
  rw [ConfigDBConnector.tablePattern, htable, matches_star_of_plain hplain, Db.startsWith,
    List.isPrefixOf_iff_prefix]
  constructor
  · rintro ⟨text, htext⟩
    refine ⟨String.ofList text, String.toList_inj.mp ?_⟩
    rw [String.toList_append, String.toList_ofList, htext]
  · rintro ⟨text, rfl⟩
    exact ⟨text.toList, (String.toList_append).symm⟩

/-- Where the name of the table and a separator of one character are without glob characters, and
the key without the separator of the class, only keys that are not hashes are in the way. -/
theorem rowShown_of_plain (separator : Char)
    (hc : c.TABLE_NAME_SEPARATOR = String.ofList [separator])
    (htable : upper table = table) (hseparator : separator ∉ table.toList)
    (hplain : ∀ ch ∈ (table ++ c.TABLE_NAME_SEPARATOR).toList, Plain ch)
    (hparts : ∀ part ∈ key.parts, KEY_SEPARATOR ∉ part.toList)
    (hhashes : ∀ name, db.smembers name ≠ ∅ → splitOnce c.TABLE_NAME_SEPARATOR name = none) :
    RowShown c db table key row := by
  have hcut : splitOnce c.TABLE_NAME_SEPARATOR (table ++ c.TABLE_NAME_SEPARATOR) =
      some (table, "") := by
    rw [hc]
    exact splitOnce_of_not_mem hseparator
  have hpattern : ∀ {name}, stringmatch (c.tablePattern table) name = true ↔
      ∃ text, name = table ++ c.TABLE_NAME_SEPARATOR ++ text :=
    stringmatch_tablePattern_iff htable hplain
  have hname : c.hashName table key = table ++ c.TABLE_NAME_SEPARATOR ++ serializeKey key := by
    rw [ConfigDBConnector.hashName, htable]
  refine ⟨hparts, hcut, fun name hother => ⟨hhashes name hother, ?_⟩, ⟨c.hashName table key,
    .inl rfl, ?_, ?_⟩, fun name hne _ hmatch hkey => ?_⟩
  · by_contra hmatch
    obtain ⟨text, rfl⟩ := hpattern.mp (Bool.not_eq_false _ ▸ hmatch)
    have hnone := hhashes _ hother
    rw [(splitOnce_append_iff text).mpr hcut] at hnone
    cases hnone
  · exact hpattern.mpr ⟨_, hname⟩
  · refine rowKey_eq_some_iff.mpr ⟨table, ?_, hparts⟩
    rw [hname]
    exact (splitOnce_append_iff _).mpr hcut
  · obtain ⟨text, rfl⟩ := hpattern.mp hmatch
    obtain ⟨other, htext, -⟩ := rowKey_eq_some_iff.mp hkey
    rw [(splitOnce_append_iff text).mpr hcut] at htext
    rw [hname, (Prod.mk.inj (Option.some.inj htext)).2] at hne
    exact absurd rfl hne

/-! ### Rows that are written are the rows that are read -/

/-- **What is written is read back, for every database and every separator, exactly under these
conditions.** -/
theorem rows_written_are_read (c : ConfigDBConnector) :
    (∀ (db : Db) (table : String) (key : Key) (data : Dict String FieldValue),
      upper table = table → Typed data.items →
        (RowKept c db table key data ↔
          Writable data.items (db.hgetall (c.hashName table key)) ∧
            RowShown c db table key data.toMap)) ∧
      ∀ conf : Config, ConfigTyped conf → (ConfigKept c conf ↔ ConfigWritable c conf) :=
  ⟨fun _ _ _ _ htable htyped => rowKept_iff htable htyped, fun _ hconf => configKept_iff hconf⟩

/-- A row with a string and a list. -/
def vlanRow : Dict String FieldValue where
  items := [("vlanid", .str "10"), ("members", .list ["Ethernet0", "Ethernet4"])]
  nodup := by decide

theorem typed_vlanRow : Typed vlanRow.items where
  names f value hmem := by
    rcases List.mem_cons.mp hmem with h | h
    · cases h
      exact ⟨by decide, by decide⟩
    · cases List.mem_singleton.mp h
      exact ⟨by decide, by decide⟩
  noCommas f parts hmem := by
    rcases List.mem_cons.mp hmem with h | h
    · cases h
    · cases List.mem_singleton.mp h
      decide

theorem rows_written_are_read_vlan : RowKept ⟨"|"⟩ Db.empty "VLAN" (.str "Vlan10") vlanRow := by
  refine ((rows_written_are_read ⟨"|"⟩).1 Db.empty "VLAN" (.str "Vlan10") vlanRow (by decide)
    typed_vlanRow).mpr ⟨⟨?_, ?_, ?_⟩, ?_⟩
  · intro f hmem
    rcases List.mem_cons.mp hmem with h | h
    · cases h
    · cases List.mem_singleton.mp h
  · exact fun f value _ => ExtTreeMap.not_mem_empty
  · exact fun f _ _ hboth => ExtTreeMap.not_mem_empty hboth.1
  · refine rowShown_of_plain '|' rfl (by decide) (by decide) ?_ (by decide) ?_
    · rw [show ("VLAN" ++ "|").toList = ['V', 'L', 'A', 'N', '|'] by decide]
      simp [Plain]
    · exact fun name hother => absurd Db.smembers_empty hother

/-- A row whose list is empty. -/
def emptyListRow : Dict String FieldValue where
  items := [("members", .list [])]
  nodup := by decide

/-- An empty list is read as a list with one empty text. -/
theorem not_rows_written_are_read :
    ¬ ∀ (c : ConfigDBConnector) (db : Db) (table : String) (key : Key)
      (data : Dict String FieldValue), upper table = table →
        ¬ c.TABLE_NAME_SEPARATOR.toList <:+: table.toList →
        (∀ part ∈ key.parts, ¬ c.TABLE_NAME_SEPARATOR.toList <:+: part.toList) →
        Typed data.items → RowKept c db table key data := by
  intro h
  have htyped : Typed emptyListRow.items := by
    refine ⟨fun f value hmem => ?_, fun f parts hmem => ?_⟩
    · cases List.mem_singleton.mp hmem
      exact ⟨by decide, by decide⟩
    · cases List.mem_singleton.mp hmem
      exact fun part hpart => absurd hpart List.not_mem_nil
  have hkept := h ⟨"|"⟩ Db.empty "VLAN" (.str "Vlan10") emptyListRow (by decide) (by decide)
    (by decide) htyped
  exact ((rowKept_iff (by decide) htyped).mp hkept).1.noEmptyList "members"
    (List.mem_singleton_self _)

end Swsssdk
