/-
AclLoader/Rows.lean

The rows of ACL_RULE: the calls that edit them, what the loader has read, what it writes.

Every call of the two updates edits one row, whatever else is in the database (`Edit`), so what
a run of calls leaves of a row is the fold of the edits of its name (`run_edits`).  The loader
has read the rows of the database under keys without separators (`Loaded`), and the new rules
have such keys, known tables and names of fields that are read back (`converted_of_convertRules`).
-/
import Sonic.AclLoader.Update

namespace SonicUtilities

open Redis PyText Swsssdk Outcome LastWins
open Std (ExtTreeMap)
open AclLoader (Rules)

/-! ### Calls that edit one row -/

/-- A call that changes one hash. -/
structure Edit where
  call : Db → Except PyError Db
  name : String
  effect : Hash → Hash
  spec : ∀ db, db.smembers name = ∅ → ∃ db', call db = .ok db' ∧
    (∀ n, db'.smembers n = db.smembers n) ∧
    ∀ n, db'.hgetall n = if name = n then effect (db.hgetall n) else db.hgetall n

/-- What a row of edits makes of the hash of a name. -/
def applyEdits (edits : List Edit) (name : String) (h : Hash) : Hash :=
  edits.foldl (fun h e => if e.name = name then e.effect h else h) h

variable {edits edits' : List Edit} {db db' : Db} {name : String} {h : Hash}

theorem run_edits (hdb : ∀ e ∈ edits, db.smembers e.name = ∅) :
    ∃ db', run (edits.map Edit.call) db = (db', none) ∧
      (∀ n, db'.smembers n = db.smembers n) ∧
      ∀ n, db'.hgetall n = applyEdits edits n (db.hgetall n) := by
  induction edits generalizing db with
  | nil => exact ⟨db, rfl, fun _ => rfl, fun _ => rfl⟩
  | cons e edits ih =>
    obtain ⟨he, hdb⟩ := List.forall_mem_cons.mp hdb
    obtain ⟨db₁, hcall, hmembers, hget⟩ := e.spec db he
    obtain ⟨db', hrun, hmembers', hget'⟩ :=
      @ih db₁ fun e' he' => (hmembers _).trans (hdb e' he')
    refine ⟨db', ?_, fun n => (hmembers' n).trans (hmembers n), fun n => ?_⟩
    · rw [List.map_cons, run, hcall]
      exact hrun
    · rw [hget', hget]
      rfl

theorem applyEdits_append :
    applyEdits (edits ++ edits') name h = applyEdits edits' name (applyEdits edits name h) :=
  List.foldl_append

theorem applyEdits_of_not_mem (hnot : ∀ e ∈ edits, e.name ≠ name) :
    applyEdits edits name h = h := by
  induction edits generalizing h with
  | nil => rfl
  | cons e edits ih =>
    obtain ⟨he, hnot⟩ := List.forall_mem_cons.mp hnot
    rw [applyEdits, List.foldl_cons, if_neg he]
    exact ih hnot

/-- Of edits of different names the one of the name counts. -/
theorem applyEdits_map_of_mem {α : Type*} {l : List α} {f : α → Edit} {a : α} (hmem : a ∈ l)
    (hne : l.Pairwise fun a b => (f a).name ≠ (f b).name) :
    applyEdits (l.map f) (f a).name h = (f a).effect h := by
  obtain ⟨before, after, rfl⟩ := List.append_of_mem hmem
  obtain ⟨-, hafter, hbefore⟩ := List.pairwise_append.mp hne
  rw [List.map_append, List.map_cons, applyEdits_append,
    @applyEdits_of_not_mem (before.map f) _ _]
  · rw [applyEdits, List.foldl_cons, if_pos rfl]
    refine applyEdits_of_not_mem fun e he => ?_
    obtain ⟨b, hb, rfl⟩ := List.mem_map.mp he
    exact Ne.symm ((List.pairwise_cons.mp hafter).1 b hb)
  · intro e he
    obtain ⟨b, hb, rfl⟩ := List.mem_map.mp he
    exact hbefore b hb a List.mem_cons_self

/-! ### Names of rules -/

variable {L : AclLoader} {rules : Rules} {key key' : Key} {props : RuleProps} {o : Orders}
  {keys : List Key} {row : Row}

/-- The name of the hash of a rule. -/
def ruleName (key : Key) : String := configdb.hashName ACL_RULE key

/-- No part of the key has the separator. -/
def CleanKey (key : Key) : Prop := ∀ part ∈ key.parts, KEY_SEPARATOR ∉ part.toList

theorem ruleName_eq : ruleName key = ACL_RULE ++ "|" ++ serializeKey key := by
  have hupper : upper ACL_RULE = ACL_RULE := by decide
  rw [ruleName, ConfigDBConnector.hashName, hupper]
  rfl

theorem ruleName_inj (hclean : CleanKey key) (hclean' : CleanKey key')
    (h : ruleName key = ruleName key') : key = key' := by
  rw [ruleName_eq, ruleName_eq] at h
  have hlist := congrArg String.toList h
  simp only [String.toList_append] at hlist
  have htext := String.toList_inj.mp (List.append_cancel_left hlist)
  rw [← deserializeKey_serializeKey_iff.mpr hclean, htext,
    deserializeKey_serializeKey_iff.mpr hclean']

/-- The loader has read the tables and the rules of the database. -/
structure Loaded (L : AclLoader) (db : Db) : Prop where
  tables : ∃ o, configdb.getTable o ACL_TABLE db = .ok L.tables_db_info
  rules : ∃ o, configdb.getTable o ACL_RULE db = .ok L.rules_db_info

/-- A name of a table in upper case, without glob characters and separators. -/
structure PlainTable (table : String) : Prop where
  upper : upper table = table
  plain : ∀ ch ∈ (table ++ "|").toList, Plain ch
  noBar : '|' ∉ table.toList

variable {table text : String}

/-- The names of the database that the pattern of a table finds. -/
theorem stringmatch_iff (htable : PlainTable table) :
    stringmatch (configdb.tablePattern table) name = true ↔ ∃ text, name = table ++ "|" ++ text :=
  stringmatch_tablePattern_iff htable.upper htable.plain

theorem splitOnce_configdb (htable : PlainTable table) :
    splitOnce "|" (table ++ "|" ++ text) = some (table, text) :=
  (splitOnce_append_iff text).mpr (splitOnce_of_not_mem (c := '|') htable.noBar)

variable {d : TableData}

/-- What was read as a table has hashes only. -/
theorem smembers_of_getTable (htable : PlainTable table)
    (hget : configdb.getTable o table db = .ok d) : db.smembers (table ++ "|" ++ text) = ∅ := by
  by_contra hother
  refine getTable_ne_ok (Db.mem_keysMatching.mpr ⟨.inr hother, ?_⟩) hother hget
  exact (stringmatch_iff htable).mpr ⟨text, rfl⟩

/-- The row of a key in a table that was read. -/
theorem getElem?_of_getTable (htable : PlainTable table)
    (hget : configdb.getTable o table db = .ok d) (hrow : d[key]? = some row) :
    CleanKey key ∧ db.hgetall (table ++ "|" ++ serializeKey key) ≠ ∅ ∧
      row = readRow o db (table ++ "|" ++ serializeKey key) := by
  have hhashes : ∀ name ∈ db.keysMatching (configdb.tablePattern table), db.smembers name = ∅ := by
    intro name hmem
    obtain ⟨text, rfl⟩ := (stringmatch_iff htable).mp (Db.mem_keysMatching.mp hmem).2
    exact smembers_of_getTable htable hget
  rw [getTable_eq hhashes] at hget
  obtain rfl := Except.ok.inj hget
  have hmem : ∃ p ∈ (o.keys (db.keysMatching (configdb.tablePattern table))).filterMap
      (shown o db (rowKey configdb)), p.1 = key := by
    by_contra hnot
    have hnone := (Access.get_putAll_eq_none_iff (s := tree) (d := (∅ : TableData))).mpr
      ⟨ExtTreeMap.getElem?_empty, fun p hp hpk => hnot ⟨p, hp, hpk⟩⟩
    cases hrow.symm.trans hnone
  obtain ⟨row', hrow', hp⟩ := Access.exists_get_putAll_of_mem (s := tree) (d := (∅ : TableData)) hmem
  obtain rfl := Option.some.inj (hrow.symm.trans hrow')
  obtain ⟨name, hname, hshown⟩ := List.mem_filterMap.mp hp
  obtain ⟨key', hkey, heq⟩ := Option.map_eq_some_iff.mp hshown
  obtain ⟨rfl, rfl⟩ := Prod.mk.inj heq
  have hfound := Db.mem_keysMatching.mp ((o.keys_perm _).mem_iff.mp hname)
  obtain ⟨text, rfl⟩ := (stringmatch_iff htable).mp hfound.2
  obtain ⟨other, hcut, hclean⟩ := rowKey_eq_some_iff.mp hkey
  have hcut' := (splitOnce_configdb htable).symm.trans hcut
  obtain ⟨-, rfl⟩ := Prod.mk.inj (Option.some.inj hcut')
  refine ⟨hclean, hfound.1.resolve_right fun h => h ?_, rfl⟩
  exact hhashes _ ((o.keys_perm _).mem_iff.mp hname)

/-- A row that is stored is read. -/
theorem mem_of_getTable (htable : PlainTable table)
    (hget : configdb.getTable o table db = .ok d) (hclean : CleanKey key)
    (hstored : db.hgetall (table ++ "|" ++ serializeKey key) ≠ ∅) : key ∈ d := by
  have hhashes : ∀ name ∈ db.keysMatching (configdb.tablePattern table), db.smembers name = ∅ := by
    intro name hmem
    obtain ⟨text, rfl⟩ := (stringmatch_iff htable).mp (Db.mem_keysMatching.mp hmem).2
    exact smembers_of_getTable htable hget
  obtain ⟨d', hget', hmem⟩ := (@mem_getTable_iff _ o _ _ key hhashes).mpr
    ⟨_, Db.mem_keysMatching.mpr ⟨.inl hstored, (stringmatch_iff htable).mpr ⟨_, rfl⟩⟩,
      rowKey_eq_some_iff.mpr ⟨table, splitOnce_configdb htable, hclean⟩⟩
  rwa [Except.ok.inj (hget.symm.trans hget')]

theorem plainTable_rule : PlainTable ACL_RULE where
  upper := by decide
  plain := by
    rw [show (ACL_RULE ++ "|").toList = ['A', 'C', 'L', '_', 'R', 'U', 'L', 'E', '|'] by decide]
    simp [Plain]
  noBar := by decide

theorem plainTable_table : PlainTable ACL_TABLE where
  upper := by decide
  plain := by
    rw [show (ACL_TABLE ++ "|").toList = ['A', 'C', 'L', '_', 'T', 'A', 'B', 'L', 'E', '|']
      by decide]
    simp [Plain]
  noBar := by decide

namespace Loaded

theorem smembers_ruleName (hloaded : Loaded L db) (key : Key) :
    db.smembers (ruleName key) = ∅ := by
  obtain ⟨o, hget⟩ := hloaded.rules
  rw [ruleName_eq]
  exact smembers_of_getTable plainTable_rule hget

theorem mem_iff (hloaded : Loaded L db) :
    key ∈ L.rules_db_info ↔ CleanKey key ∧ db.hgetall (ruleName key) ≠ ∅ := by
  obtain ⟨o, hget⟩ := hloaded.rules
  rw [ruleName_eq]
  constructor
  · intro hmem
    obtain ⟨row, hrow⟩ := Option.isSome_iff_exists.mp (ExtTreeMap.isSome_getElem?_iff_mem.mpr hmem)
    obtain ⟨hclean, hstored, -⟩ := getElem?_of_getTable plainTable_rule hget hrow
    exact ⟨hclean, hstored⟩
  · rintro ⟨hclean, hstored⟩
    exact mem_of_getTable plainTable_rule hget hclean hstored

/-- The row in the loader is one reading of the hash. -/
theorem isReadOf (hloaded : Loaded L db) (hrow : L.rules_db_info[key]? = some row) :
    IsReadOf row (db.hgetall (ruleName key)) := by
  obtain ⟨o, hget⟩ := hloaded.rules
  obtain ⟨-, -, rfl⟩ := getElem?_of_getTable plainTable_rule hget hrow
  rw [ruleName_eq]
  exact isReadOf_readRow

/-- A known table has a name without separators. -/
theorem noBar_of_valid (hloaded : Loaded L db) {T : String} (hvalid : L.isTableValid T = true) :
    '|' ∉ T.toList := by
  obtain ⟨o, hget⟩ := hloaded.tables
  rw [AclLoader.isTableValid] at hvalid
  cases hrow : L.tables_db_info[Key.str T]? with
  | none =>
    rw [hrow] at hvalid
    cases hvalid
  | some row =>
    obtain ⟨hclean, -⟩ := getElem?_of_getTable plainTable_table hget hrow
    exact hclean T List.mem_cons_self

end Loaded

/-! ### The new rules -/

/-- What `convert_rules` promises of its result. -/
structure Converted (L : AclLoader) (rules : Rules) : Prop where
  clean : ∀ key props, (key, props) ∈ rules.items → CleanKey key
  table : ∀ key props, (key, props) ∈ rules.items → ∃ T type, keyTable key = .ok T ∧
    L.tableType T = .ok type ∧ ¬ (L.current_table.isSome ∧ L.current_table ≠ some T)
  names : ∀ key props, (key, props) ∈ rules.items → ∀ f v, (f, v) ∈ props.items → FieldName f
  nonempty : ∀ key props, (key, props) ∈ rules.items → props.items ≠ []

theorem fieldName_of_property {f : String} (h : f = "PRIORITY" ∨ f ∈ AclLoader.propNames) :
    FieldName f := by
  have hall : ∀ f ∈ "PRIORITY" :: AclLoader.propNames, f ≠ "NULL" ∧ endsWithAt f = false := by
    decide
  obtain ⟨hnull, hend⟩ := hall f (by
    rcases h with rfl | h
    · exact List.mem_cons_self
    · exact List.mem_cons_of_mem _ h)
  exact ⟨hnull, hend⟩

theorem tableType_of_controlPlane {T : String} {b : Bool}
    (h : L.isTableControlPlane T = .ok b) : ∃ type, L.tableType T = .ok type := by
  obtain ⟨type, htype, -⟩ := bind_eq_ok.mp h
  exact ⟨type, htype⟩

/-- A rule is converted for a table with a type. -/
theorem tableType_of_convert {T : String} {rule : AclEntry}
    (h : L.convertRuleToDbSchema T rule = .ok props) : ∃ type, L.tableType T = .ok type := by
  obtain ⟨action, haction, -⟩ := bind_eq_ok.mp h
  obtain ⟨actions, -, haction⟩ := bind_eq_ok.mp haction
  obtain ⟨valid, hvalid, -⟩ := bind_eq_ok.mp haction
  obtain ⟨controlPlane, hcontrolPlane, -⟩ := bind_eq_ok.mp hvalid
  exact tableType_of_controlPlane hcontrolPlane

theorem noBar_ruleName (n : ℕ) : '|' ∉ ("RULE_" ++ toString n).toList := by
  rw [String.toList_append, List.mem_append]
  rintro (h | h)
  · revert h
    decide
  · have hdigit := Nat.isDigit_of_mem_toDigits (b := 10) (n := n) (by decide) (by decide)
      (c := '|') (by simpa [Nat.repr] using h)
    cases hdigit

theorem converted_of_convertRules {acl_sets : List AclSet} (hloaded : Loaded L db)
    (h : L.convertRules acl_sets = .ok rules) : Converted L rules := by
  obtain ⟨hsourced, -⟩ := AclLoader.convertRules_spec h
  refine ⟨fun key props hmem => ?_, fun key props hmem => ?_, fun key props hmem f v hf => ?_,
    fun key props hmem hnil => ?_⟩
  · obtain ⟨p, horigin, -⟩ := hsourced key props hmem
    cases horigin with
    | rule _ hselected _ =>
      intro part hpart
      rcases List.mem_cons.mp hpart with rfl | hpart
      · exact hloaded.noBar_of_valid hselected.valid
      · rw [List.mem_singleton.mp hpart]
        exact noBar_ruleName _
    | deny _ hselected _ =>
      intro part hpart
      rcases List.mem_cons.mp hpart with rfl | hpart
      · exact hloaded.noBar_of_valid hselected.valid
      · rw [List.mem_singleton.mp hpart]
        decide
  · obtain ⟨p, horigin, -⟩ := hsourced key props hmem
    cases horigin with
    | rule _ hselected hconverts =>
      obtain ⟨e, -, rfl, props', hprops'⟩ := hconverts
      obtain ⟨type, htype⟩ := tableType_of_convert hprops'
      exact ⟨_, type, rfl, htype, hselected.current⟩
    | deny _ hselected hmirror =>
      obtain ⟨type, htype, -⟩ := bind_eq_ok.mp hmirror
      exact ⟨_, type, rfl, htype, hselected.current⟩
  · obtain ⟨p, -, hrow⟩ := hsourced key props hmem
    exact fieldName_of_property (hrow.names f v hf)
  · obtain ⟨p, -, hrow⟩ := hsourced key props hmem
    have hpriority := hrow.priority
    rw [AclLoader.HasPriority, hnil] at hpriority
    exact absurd hpriority List.not_mem_nil

end SonicUtilities
