/-
AclLoader/Agreement.lean

When `full_update` and `incremental_update` leave the same rules.

Both updates are computed row by row (`fullUpdate_spec`, `incrementalUpdate_spec`) and compared
with what they are for (`Updated`).  `full_update` meets it, but for an old row with the empty
key; `incremental_update` takes rules outside the current table for old ones, fails on rules of
unknown tables, and keeps fields of control plane rules that changed their form.
-/
import Sonic.AclLoader.Rows

namespace SonicUtilities

open Redis PyText Swsssdk Outcome LastWins
open Std (ExtTreeMap)
open AclLoader (Rules removeRule writeRule HasKey)

variable {L : AclLoader} {rules : Rules} {key key' : Key} {props : RuleProps} {o : Orders}
  {keys : List Key} {row : Row} {db db' : Db} {name : String} {h : Hash}

/-! ### The edits -/

/-- The raw fields of a rule. -/
def rawRule (props : RuleProps) : List (String × String) := typedToRaw (ruleRow props).items

/-- Remove a rule. -/
def removeEdit (key : Key) : Edit where
  call := removeRule key
  name := ruleName key
  effect _ := ∅
  spec db hdb := by
    refine ⟨db.del (ruleName key), rfl, fun n => ?_, fun n => ?_⟩
    · rw [Db.smembers_del]
      split_ifs with hn
      · rw [← hn, hdb]
      · rfl
    · rw [Db.hgetall_del]

/-- Write a rule. -/
def writeEdit (rule : Key × RuleProps) : Edit where
  call := writeRule rule
  name := ruleName rule.1
  effect h := FieldMap.merge h (rawRule rule.2)
  spec db hdb := by
    refine ⟨db.hsetAll (ruleName rule.1) (rawRule rule.2), ?_, fun n => Db.smembers_hsetAll,
      fun n => ?_⟩
    · have hmod : configdb.modEntry ACL_RULE rule.1 (some (ruleRow rule.2)) db =
          .ok (db.hsetAll (ruleName rule.1) (rawRule rule.2)) := if_pos hdb
      rw [writeRule, hmod]
      rfl
    · rw [Db.hgetall_hsetAll]
      split_ifs with hn
      · rw [hn]
      · rfl

/-- Remove an old rule of the current table. -/
def removeInTableEdit (L : AclLoader) (key : Key) : Edit where
  call db := if L.inCurrentTable key = .ok true then removeRule key db else .ok db
  name := ruleName key
  effect h := if L.inCurrentTable key = .ok true then ∅ else h
  spec db hdb := by
    split_ifs with hin
    · exact (removeEdit key).spec db hdb
    · refine ⟨db, rfl, fun _ => rfl, fun n => ?_⟩
      rw [ite_self]

/-- What comparing a control plane rule makes of its hash. -/
def changeEffect (L : AclLoader) (o : Orders) (rule : Key × RuleProps) (h : Hash) : Hash :=
  if sameRow rule.2 L.rules_db_info[rule.1]? then h
  else writeRow (ruleRow rule.2).items (rawToTyped (o.hgetall h.toList)) h

/-- Compare a control plane rule. -/
def changeEdit (L : AclLoader) (o : Orders) (rule : Key × RuleProps) : Edit where
  call := L.changeRule o rule
  name := ruleName rule.1
  effect := changeEffect L o rule
  spec db hdb := by
    unfold AclLoader.changeRule changeEffect
    split_ifs with hsame
    · refine ⟨db, rfl, fun _ => rfl, fun n => ?_⟩
      rw [ite_self]
    · obtain ⟨db', hset, hmembers, hget⟩ := @setEntry_spec _ o _ _ _ (ruleRow rule.2) hdb
      refine ⟨db', ?_, hmembers, fun n => ?_⟩
      · rw [hset]
        rfl
      · rw [hget]
        by_cases hn : ruleName rule.1 = n
        · subst hn
          rfl
        · rw [if_neg hn]
          exact if_neg hn

/-! ### What the updates are for -/

/-- The old rule is one that the update replaces. -/
def Replaced (L : AclLoader) (key : Key) : Prop :=
  key ∈ L.rules_db_info ∧ L.inCurrentTable key = .ok true

/-- The new rules are read as they are, the old ones of the current table are gone, and nothing
else has changed. -/
structure Updated (L : AclLoader) (rules : Rules) (db db' : Db) : Prop where
  new : ∀ key props, (key, props) ∈ rules.items →
    ReadsAs (db'.hgetall (ruleName key)) (ruleRow props).toMap
  removed : ∀ key, Replaced L key → ¬ HasKey rules key → db'.hgetall (ruleName key) = ∅
  others : ∀ name, (∀ key, HasKey rules key → ruleName key ≠ name) →
    (∀ key, Replaced L key → ruleName key ≠ name) → db'.hgetall name = db.hgetall name
  members : ∀ name, db'.smembers name = db.smembers name

/-- The old rules of the current table are the new ones. -/
structure Unchanged (L : AclLoader) (rules : Rules) (db : Db) : Prop where
  new : ∀ key props, (key, props) ∈ rules.items →
    ReadsAs (db.hgetall (ruleName key)) (ruleRow props).toMap
  old : ∀ key, Replaced L key → HasKey rules key

/-- Nothing is to be done exactly if nothing changes. -/
theorem updated_self_iff (hloaded : Loaded L db) : Updated L rules db db ↔ Unchanged L rules db := by
  constructor
  · intro hupdated
    refine ⟨hupdated.new, fun key hreplaced => ?_⟩
    by_contra hnot
    exact (hloaded.mem_iff.mp hreplaced.1).2 (hupdated.removed key hreplaced hnot)
  · intro hunchanged
    refine ⟨hunchanged.new, fun key hreplaced hnot => ?_, fun _ _ _ => rfl, fun _ => rfl⟩
    exact absurd (hunchanged.old key hreplaced) hnot

/-- A row of texts that is written on its own is read as it is. -/
theorem typed_ruleRow (hconverted : Converted L rules) (hmem : (key, props) ∈ rules.items) :
    Typed (ruleRow props).items where
  names f value hf := by
    obtain ⟨p, hp, heq⟩ := List.mem_map.mp hf
    obtain ⟨rfl, -⟩ := Prod.mk.inj heq
    exact hconverted.names key props hmem p.1 p.2 hp
  noCommas f parts hf := by
    obtain ⟨p, -, heq⟩ := List.mem_map.mp hf
    cases (Prod.mk.inj heq).2

theorem not_list_mem_ruleRow {f : String} {parts : List String} :
    (f, FieldValue.list parts) ∉ (ruleRow props).items := by
  intro hf
  obtain ⟨p, -, heq⟩ := List.mem_map.mp hf
  cases (Prod.mk.inj heq).2

theorem readsAs_rawRule (hconverted : Converted L rules) (hmem : (key, props) ∈ rules.items) :
    ReadsAs (FieldMap.merge ∅ (rawRule props)) (ruleRow props).toMap :=
  (readsAs_merge_empty_iff (typed_ruleRow hconverted hmem)).mpr fun _ => not_list_mem_ruleRow

/-- A new rule is outside no current table. -/
theorem inCurrentTable_of_mem (hconverted : Converted L rules)
    (hmem : (key, props) ∈ rules.items) : L.inCurrentTable key = .ok true := by
  obtain ⟨T, type, htable, -, hcurrent⟩ := hconverted.table key props hmem
  rw [AclLoader.inCurrentTable]
  cases hc : L.current_table with
  | none => rfl
  | some table =>
    rw [hc] at hcurrent
    have heq : table = T := by
      by_contra hne
      exact hcurrent ⟨rfl, fun heq => hne (Option.some.inj heq)⟩
    rw [htable, heq]
    exact congrArg Except.ok (decide_eq_true rfl)

/-- A rule that is not old has no hash. -/
theorem hgetall_of_not_old (hloaded : Loaded L db) (hclean : CleanKey key)
    (hnot : key ∉ L.rules_db_info) : db.hgetall (ruleName key) = ∅ := by
  by_contra hstored
  exact hnot (hloaded.mem_iff.mpr ⟨hclean, hstored⟩)

/-! ### Edits of the old and of the new rules -/

/-- Different old rules have different names. -/
theorem pairwise_old (hloaded : Loaded L db) (hkeys : keys.Perm L.rules_db_info.keys) :
    keys.Pairwise fun k k' => ruleName k ≠ ruleName k' := by
  have hnodup : keys.Nodup := hkeys.nodup_iff.mpr ExtTreeMap.nodup_keys
  refine hnodup.imp_of_mem fun {k k'} hk hk' hne heq => hne ?_
  have hclean : ∀ {k}, k ∈ keys → CleanKey k := fun hk =>
    (hloaded.mem_iff.mp (ExtTreeMap.mem_keys.mp (hkeys.mem_iff.mp hk))).1
  exact ruleName_inj (hclean hk) (hclean hk') heq

/-- Different new rules have different names. -/
theorem pairwise_new (hconverted : Converted L rules) :
    rules.items.Pairwise fun r r' => ruleName r.1 ≠ ruleName r'.1 := by
  refine (List.pairwise_map.mp rules.nodup).imp_of_mem fun {r r'} hr hr' hne heq => hne ?_
  exact ruleName_inj (hconverted.clean r.1 r.2 hr) (hconverted.clean r'.1 r'.2 hr') heq

/-- Of edits of old rules the one of the name counts. -/
theorem applyEdits_keys {f : Key → Edit} {l : List Key} (hloaded : Loaded L db)
    (hkeys : keys.Perm L.rules_db_info.keys) (hl : l.Sublist keys)
    (hf : ∀ k, (f k).name = ruleName k) (hkey : key ∈ l) :
    applyEdits (l.map f) (ruleName key) h = (f key).effect h := by
  rw [← hf key]
  refine applyEdits_map_of_mem hkey (((pairwise_old hloaded hkeys).sublist hl).imp ?_)
  intro k k' hne
  rwa [hf, hf]

/-- Of edits of new rules the one of the name counts. -/
theorem applyEdits_rules {f : Key × RuleProps → Edit} {l : List (Key × RuleProps)}
    (hconverted : Converted L rules) (hl : l.Sublist rules.items)
    (hf : ∀ r, (f r).name = ruleName r.1) (hmem : (key, props) ∈ l) :
    applyEdits (l.map f) (ruleName key) h = (f (key, props)).effect h := by
  rw [← hf (key, props)]
  refine applyEdits_map_of_mem hmem (((pairwise_new hconverted).sublist hl).imp ?_)
  intro r r' hne
  rwa [hf, hf]

theorem applyEdits_map_of_not_mem {α : Type*} {f : α → Edit} {l : List α}
    (hnot : ∀ a ∈ l, (f a).name ≠ name) : applyEdits (l.map f) name h = h := by
  refine applyEdits_of_not_mem fun e he => ?_
  obtain ⟨a, ha, rfl⟩ := List.mem_map.mp he
  exact hnot a ha

/-! ### `full_update` -/

theorem removeInTable_eq {b : Bool} (hok : L.inCurrentTable key = .ok b) :
    L.removeInTable key = (removeInTableEdit L key).call := by
  funext db
  show (L.inCurrentTable key >>= _) = if L.inCurrentTable key = .ok true then _ else _
  rw [hok]
  cases b <;> rfl

/-- What `full_update` leaves of each row, if every old rule has a table to compare. -/
theorem fullUpdate_spec (hloaded : Loaded L db) (hkeys : keys.Perm L.rules_db_info.keys)
    (hok : ∀ key ∈ L.rules_db_info, ∃ b, L.inCurrentTable key = .ok b) :
    ∃ db', L.fullUpdate keys rules db = (db', none) ∧
      (∀ n, db'.smembers n = db.smembers n) ∧
      ∀ n, db'.hgetall n = applyEdits (rules.items.map writeEdit) n
        (applyEdits (keys.map (removeInTableEdit L)) n (db.hgetall n)) := by
  have hcalls : keys.map L.removeInTable ++ rules.items.map writeRule =
      (keys.map (removeInTableEdit L) ++ rules.items.map writeEdit).map Edit.call := by
    rw [List.map_append, List.map_map, List.map_map]
    congr 1
    refine List.map_congr_left fun key hkey => ?_
    obtain ⟨b, hb⟩ := hok key (ExtTreeMap.mem_keys.mp (hkeys.mem_iff.mp hkey))
    exact removeInTable_eq hb
  obtain ⟨db', hrun, hmembers, hget⟩ := @run_edits
    (keys.map (removeInTableEdit L) ++ rules.items.map writeEdit) db (by
      intro e he
      rcases List.mem_append.mp he with he | he <;> obtain ⟨k, -, rfl⟩ := List.mem_map.mp he
      · exact hloaded.smembers_ruleName k
      · exact hloaded.smembers_ruleName k.1)
  refine ⟨db', ?_, hmembers, fun n => by rw [hget, applyEdits_append]⟩
  rw [AclLoader.fullUpdate, hcalls, hrun]

/-- **`full_update` does what it is for.** -/
theorem updated_fullUpdate (hloaded : Loaded L db) (hconverted : Converted L rules)
    (hkeys : keys.Perm L.rules_db_info.keys)
    (hok : ∀ key ∈ L.rules_db_info, ∃ b, L.inCurrentTable key = .ok b) :
    Updated L rules db (L.fullUpdate keys rules db).1 := by
  obtain ⟨db', hrun, hmembers, hget⟩ := @fullUpdate_spec L rules _ _ hloaded hkeys hok
  rw [hrun]
  have hmemKeys : ∀ {key}, key ∈ keys ↔ key ∈ L.rules_db_info := fun {key} =>
    hkeys.mem_iff.trans ExtTreeMap.mem_keys
  refine ⟨fun key props hmem => ?_, fun key hreplaced hnot => ?_, fun name hnotNew hnotOld => ?_,
    hmembers⟩
  · -- the old row is gone when the new one is written
    have hgone : applyEdits (keys.map (removeInTableEdit L)) (ruleName key)
        (db.hgetall (ruleName key)) = ∅ := by
      by_cases hkey : key ∈ L.rules_db_info
      · rw [applyEdits_keys hloaded hkeys (List.Sublist.refl _) (fun _ => rfl)
          (hmemKeys.mpr hkey)]
        exact if_pos (inCurrentTable_of_mem hconverted hmem)
      · have hclean := hconverted.clean key props hmem
        rw [applyEdits_map_of_not_mem, hgetall_of_not_old hloaded hclean hkey]
        intro k hk hname
        have hk' := hmemKeys.mp hk
        exact hkey (ruleName_inj (hloaded.mem_iff.mp hk').1 hclean hname ▸ hk')
    rw [hget, hgone, applyEdits_rules hconverted (List.Sublist.refl _) (fun _ => rfl) hmem]
    exact readsAs_rawRule hconverted hmem
  · rw [hget, applyEdits_keys hloaded hkeys (List.Sublist.refl _) (fun _ => rfl)
      (hmemKeys.mpr hreplaced.1), applyEdits_map_of_not_mem]
    · exact if_pos hreplaced.2
    · intro r hr hname
      have hkey := ruleName_inj (hconverted.clean r.1 r.2 hr)
        (hloaded.mem_iff.mp hreplaced.1).1 hname
      exact hnot ⟨r.2, hkey ▸ hr⟩
  · rw [hget, applyEdits_map_of_not_mem fun r hr => hnotNew r.1 ⟨r.2, hr⟩]
    by_cases hkey : ∃ key ∈ keys, ruleName key = name
    · obtain ⟨key, hkey, rfl⟩ := hkey
      rw [applyEdits_keys hloaded hkeys (List.Sublist.refl _) (fun _ => rfl) hkey]
      exact if_neg fun hin => hnotOld key ⟨hmemKeys.mp hkey, hin⟩ rfl
    · exact applyEdits_map_of_not_mem fun key hk hname => hkey ⟨key, hk, hname⟩

/-! ### `incremental_update` -/

/-- The table of the rule is for the control plane. -/
def ControlPlane (L : AclLoader) (key : Key) : Prop := L.ruleControlPlane key = .ok true

instance : DecidablePred (ControlPlane L) := fun _ => inferInstanceAs (Decidable (_ = _))

/-- The table of every old rule is known and has a type. -/
def TablesKnown (L : AclLoader) : Prop :=
  ∀ key ∈ L.rules_db_info, ∃ b, L.ruleControlPlane key = .ok b

theorem ruleControlPlane_of_mem (hconverted : Converted L rules)
    (hmem : (key, props) ∈ rules.items) : ∃ b, L.ruleControlPlane key = .ok b := by
  obtain ⟨T, type, htable, htype, -⟩ := hconverted.table key props hmem
  refine ⟨_, bind_eq_ok.mpr ⟨T, htable, bind_eq_ok.mpr ⟨type, htype, rfl⟩⟩⟩

theorem exists_newTypes (hconverted : Converted L rules) :
    ∃ bs, rules.items.mapM (fun rule => L.ruleControlPlane rule.1) = .ok bs :=
  exists_mapM_eq_ok_iff.mpr fun ⟨_, _⟩ hrule => ruleControlPlane_of_mem hconverted hrule

section Phases

variable (L) (rules) (keys)

def currentDataplane : List Key := keys.filter fun key => ¬ ControlPlane L key

def currentControlplane : List Key := keys.filter fun key => ControlPlane L key

def newDataplane : List (Key × RuleProps) :=
  rules.items.filter fun rule => ¬ ControlPlane L rule.1

def newControlplane : List (Key × RuleProps) :=
  rules.items.filter fun rule => ControlPlane L rule.1

def addedControlplane : List (Key × RuleProps) :=
  (newControlplane L rules).filter fun rule => rule.1 ∉ currentControlplane L keys

def removedControlplane : List Key :=
  (currentControlplane L keys).filter fun key => key ∉ (newControlplane L rules).map Prod.fst

def existingControlplane : List (Key × RuleProps) :=
  rules.items.filter fun rule => rule.1 ∈ currentControlplane L keys

end Phases

/-- The edits of `incremental_update`. -/
def incrementalEdits (L : AclLoader) (o : Orders) (keys : List Key) (rules : Rules) : List Edit :=
  (currentDataplane L keys).map removeEdit ++ (newDataplane L rules).map writeEdit ++
    (addedControlplane L rules keys).map writeEdit ++
    (removedControlplane L rules keys).map removeEdit ++
    (existingControlplane L rules keys).map (changeEdit L o)

/-- Nothing is written before the table of every rule is known. -/
theorem incrementalUpdate_of_not_known (hconverted : Converted L rules)
    (hkeys : keys.Perm L.rules_db_info.keys) (hnot : ¬ TablesKnown L) :
    (L.incrementalUpdate o keys rules db).1 = db := by
  obtain ⟨bs, hnew⟩ := exists_newTypes hconverted
  rw [AclLoader.incrementalUpdate, hnew]
  cases hold : keys.mapM L.ruleControlPlane with
  | error e => rfl
  | ok bs =>
    refine absurd (fun key hkey => ?_) hnot
    exact exists_mapM_eq_ok_iff.mp ⟨bs, hold⟩ key (hkeys.mem_iff.mpr (ExtTreeMap.mem_keys.mpr hkey))

theorem incrementalUpdate_eq (hconverted : Converted L rules)
    (hkeys : keys.Perm L.rules_db_info.keys) (hknown : TablesKnown L) :
    L.incrementalUpdate o keys rules db =
      run ((incrementalEdits L o keys rules).map Edit.call) db := by
  obtain ⟨bs, hnew⟩ := exists_newTypes hconverted
  obtain ⟨bs', hold⟩ := exists_mapM_eq_ok_iff.mpr fun key hkey =>
    hknown key (ExtTreeMap.mem_keys.mp (hkeys.mem_iff.mp hkey))
  rw [AclLoader.incrementalUpdate, hnew, hold, incrementalEdits]
  simp only [List.map_append, List.map_map]
  rfl

theorem mem_keys_iff (hkeys : keys.Perm L.rules_db_info.keys) :
    key ∈ keys ↔ key ∈ L.rules_db_info :=
  hkeys.mem_iff.trans ExtTreeMap.mem_keys

/-- What `incremental_update` leaves of each row, phase by phase. -/
theorem incrementalUpdate_spec (hloaded : Loaded L db) (hconverted : Converted L rules)
    (hkeys : keys.Perm L.rules_db_info.keys) (hknown : TablesKnown L) :
    ∃ db', L.incrementalUpdate o keys rules db = (db', none) ∧
      (∀ n, db'.smembers n = db.smembers n) ∧
      ∀ n, db'.hgetall n = applyEdits (incrementalEdits L o keys rules) n (db.hgetall n) := by
  rw [incrementalUpdate_eq hconverted hkeys hknown]
  refine run_edits fun e he => ?_
  have hname : ∃ key, e.name = ruleName key := by
    simp only [incrementalEdits, List.mem_append, List.mem_map] at he
    rcases he with (((⟨k, -, rfl⟩ | ⟨r, -, rfl⟩) | ⟨r, -, rfl⟩) | ⟨k, -, rfl⟩) | ⟨r, -, rfl⟩
    · exact ⟨k, rfl⟩
    · exact ⟨r.1, rfl⟩
    · exact ⟨r.1, rfl⟩
    · exact ⟨k, rfl⟩
    · exact ⟨r.1, rfl⟩
  obtain ⟨key, hname⟩ := hname
  rw [hname]
  exact hloaded.smembers_ruleName key

/-- Removing old rules: the row of a key. -/
theorem applyEdits_remove {l : List Key} (hloaded : Loaded L db)
    (hkeys : keys.Perm L.rules_db_info.keys) (hl : l.Sublist keys) (hclean : CleanKey key) :
    applyEdits (l.map removeEdit) (ruleName key) h = if key ∈ l then ∅ else h := by
  split_ifs with hmem
  · exact applyEdits_keys hloaded hkeys hl (fun _ => rfl) hmem
  · refine applyEdits_map_of_not_mem fun k hk hname => hmem ?_
    have hk' := (hloaded.mem_iff.mp ((mem_keys_iff hkeys).mp (hl.subset hk))).1
    rwa [ruleName_inj hclean hk' hname.symm]

/-- Editing new rules: the row of a key that is not new there. -/
theorem applyEdits_rules_of_not_mem {f : Key × RuleProps → Edit} {l : List (Key × RuleProps)}
    (hconverted : Converted L rules) (hl : l.Sublist rules.items)
    (hf : ∀ r, (f r).name = ruleName r.1) (hclean : CleanKey key)
    (hnot : ∀ props, (key, props) ∉ l) :
    applyEdits (l.map f) (ruleName key) h = h := by
  refine applyEdits_map_of_not_mem fun r hr hname => hnot r.2 ?_
  rw [hf] at hname
  have hr' := hconverted.clean r.1 r.2 (hl.subset hr)
  rwa [ruleName_inj hclean hr' hname.symm]

section Sublists

theorem currentDataplane_sublist : (currentDataplane L keys).Sublist keys := List.filter_sublist

theorem removedControlplane_sublist : (removedControlplane L rules keys).Sublist keys :=
  List.filter_sublist.trans List.filter_sublist

theorem newDataplane_sublist : (newDataplane L rules).Sublist rules.items := List.filter_sublist

theorem addedControlplane_sublist : (addedControlplane L rules keys).Sublist rules.items :=
  List.filter_sublist.trans List.filter_sublist

theorem existingControlplane_sublist : (existingControlplane L rules keys).Sublist rules.items :=
  List.filter_sublist

@[simp] theorem mem_currentDataplane :
    key ∈ currentDataplane L keys ↔ key ∈ keys ∧ ¬ ControlPlane L key := by
  simp [currentDataplane]

@[simp] theorem mem_currentControlplane :
    key ∈ currentControlplane L keys ↔ key ∈ keys ∧ ControlPlane L key := by
  simp [currentControlplane]

@[simp] theorem mem_newDataplane :
    (key, props) ∈ newDataplane L rules ↔ (key, props) ∈ rules.items ∧ ¬ ControlPlane L key := by
  simp [newDataplane]

@[simp] theorem mem_newControlplane :
    (key, props) ∈ newControlplane L rules ↔ (key, props) ∈ rules.items ∧ ControlPlane L key := by
  simp [newControlplane]

@[simp] theorem mem_addedControlplane :
    (key, props) ∈ addedControlplane L rules keys ↔
      (key, props) ∈ rules.items ∧ ControlPlane L key ∧ key ∉ keys := by
  simp [addedControlplane]
  tauto

@[simp] theorem mem_removedControlplane :
    key ∈ removedControlplane L rules keys ↔
      key ∈ keys ∧ ControlPlane L key ∧ ¬ HasKey rules key := by
  simp [removedControlplane, HasKey]
  tauto

@[simp] theorem mem_existingControlplane :
    (key, props) ∈ existingControlplane L rules keys ↔
      (key, props) ∈ rules.items ∧ key ∈ keys ∧ ControlPlane L key := by
  simp [existingControlplane]

end Sublists

/-- The row of a new rule: a control plane rule that was there is changed, any other is written
anew. -/
theorem incremental_new (hloaded : Loaded L db) (hconverted : Converted L rules)
    (hkeys : keys.Perm L.rules_db_info.keys) (hmem : (key, props) ∈ rules.items) :
    applyEdits (incrementalEdits L o keys rules) (ruleName key) (db.hgetall (ruleName key)) =
      if key ∈ L.rules_db_info ∧ ControlPlane L key then
        changeEffect L o (key, props) (db.hgetall (ruleName key))
      else FieldMap.merge ∅ (rawRule props) := by
  have hclean := hconverted.clean key props hmem
  have hunique : ∀ {props'}, (key, props') ∈ rules.items → props' = props := fun hmem' =>
    rules.eq_of_mem hmem' hmem
  have hhas : HasKey rules key := ⟨props, hmem⟩
  have hnoRemove : key ∉ removedControlplane L rules keys := by
    rw [mem_removedControlplane]
    exact fun h => h.2.2 hhas
  rw [incrementalEdits, applyEdits_append, applyEdits_append, applyEdits_append, applyEdits_append,
    applyEdits_remove hloaded hkeys removedControlplane_sublist hclean, if_neg hnoRemove,
    applyEdits_remove hloaded hkeys currentDataplane_sublist hclean]
  by_cases hcontrol : ControlPlane L key
  · have hnewDataplane : ∀ props, (key, props) ∉ newDataplane L rules := fun props h =>
      (mem_newDataplane.mp h).2 hcontrol
    rw [if_neg fun h => (mem_currentDataplane.mp h).2 hcontrol,
      applyEdits_rules_of_not_mem hconverted newDataplane_sublist
      (fun _ => rfl) hclean hnewDataplane]
    by_cases hold : key ∈ L.rules_db_info
    · -- there before: only the comparison touches it
      rw [if_pos ⟨hold, hcontrol⟩, applyEdits_rules_of_not_mem hconverted addedControlplane_sublist
        (fun _ => rfl) hclean]
      · refine applyEdits_rules hconverted existingControlplane_sublist (fun _ => rfl) ?_
        exact mem_existingControlplane.mpr ⟨hmem, (mem_keys_iff hkeys).mpr hold, hcontrol⟩
      · exact fun props h => (mem_addedControlplane.mp h).2.2 ((mem_keys_iff hkeys).mpr hold)
    · -- not there before: it is added
      rw [if_neg fun h => hold h.1, hgetall_of_not_old hloaded hclean hold,
        applyEdits_rules_of_not_mem hconverted existingControlplane_sublist (fun _ => rfl) hclean]
      · refine applyEdits_rules hconverted addedControlplane_sublist (fun _ => rfl) ?_
        exact mem_addedControlplane.mpr ⟨hmem, hcontrol, fun h => hold ((mem_keys_iff hkeys).mp h)⟩
      · exact fun props h => hold ((mem_keys_iff hkeys).mp (mem_existingControlplane.mp h).2.1)
  · have hgone : (if key ∈ currentDataplane L keys then ∅ else db.hgetall (ruleName key)) = ∅ := by
      split_ifs with hold
      · rfl
      · refine hgetall_of_not_old hloaded hclean fun h => hold ?_
        exact mem_currentDataplane.mpr ⟨(mem_keys_iff hkeys).mpr h, hcontrol⟩
    rw [hgone, if_neg fun h => hcontrol h.2,
      applyEdits_rules_of_not_mem hconverted existingControlplane_sublist (fun _ => rfl) hclean,
      applyEdits_rules_of_not_mem hconverted addedControlplane_sublist (fun _ => rfl) hclean]
    · refine applyEdits_rules hconverted newDataplane_sublist (fun _ => rfl) ?_
      exact mem_newDataplane.mpr ⟨hmem, hcontrol⟩
    · exact fun props h => hcontrol (mem_addedControlplane.mp h).2.1
    · exact fun props h => hcontrol (mem_existingControlplane.mp h).2.2

/-- The row of a rule that is not new: it is gone. -/
theorem incremental_old (hloaded : Loaded L db) (hconverted : Converted L rules)
    (hkeys : keys.Perm L.rules_db_info.keys) (hold : key ∈ L.rules_db_info)
    (hnot : ¬ HasKey rules key) :
    applyEdits (incrementalEdits L o keys rules) (ruleName key) (db.hgetall (ruleName key)) = ∅ := by
  have hclean := (hloaded.mem_iff.mp hold).1
  have hnone : ∀ {l : List (Key × RuleProps)}, l.Sublist rules.items →
      ∀ props, (key, props) ∉ l := fun hl props hmem => hnot ⟨props, hl.subset hmem⟩
  rw [incrementalEdits, applyEdits_append, applyEdits_append, applyEdits_append, applyEdits_append,
    applyEdits_remove hloaded hkeys removedControlplane_sublist hclean,
    applyEdits_remove hloaded hkeys currentDataplane_sublist hclean,
    applyEdits_rules_of_not_mem hconverted existingControlplane_sublist (fun _ => rfl) hclean
      (hnone existingControlplane_sublist),
    applyEdits_rules_of_not_mem hconverted addedControlplane_sublist (fun _ => rfl) hclean
      (hnone addedControlplane_sublist),
    applyEdits_rules_of_not_mem hconverted newDataplane_sublist (fun _ => rfl) hclean
      (hnone newDataplane_sublist)]
  have hmem := (mem_keys_iff hkeys).mpr hold
  by_cases hcontrol : ControlPlane L key
  · exact if_pos (mem_removedControlplane.mpr ⟨hmem, hcontrol, hnot⟩)
  · rw [if_pos (mem_currentDataplane.mpr ⟨hmem, hcontrol⟩), ite_self]

/-- A name of neither an old nor a new rule is left alone. -/
theorem incremental_other (hkeys : keys.Perm L.rules_db_info.keys)
    (hnew : ∀ key, HasKey rules key → ruleName key ≠ name)
    (hold : ∀ key ∈ L.rules_db_info, ruleName key ≠ name) :
    applyEdits (incrementalEdits L o keys rules) name h = h := by
  refine applyEdits_of_not_mem fun e he => ?_
  have hkey : ∀ {l : List Key}, l.Sublist keys → ∀ k ∈ l, ruleName k ≠ name := fun hl k hk =>
    hold k ((mem_keys_iff hkeys).mp (hl.subset hk))
  have hrule : ∀ {l : List (Key × RuleProps)}, l.Sublist rules.items →
      ∀ r ∈ l, ruleName r.1 ≠ name := fun hl r hr => hnew r.1 ⟨r.2, hl.subset hr⟩
  simp only [incrementalEdits, List.mem_append, List.mem_map] at he
  rcases he with (((⟨k, hk, rfl⟩ | ⟨r, hr, rfl⟩) | ⟨r, hr, rfl⟩) | ⟨k, hk, rfl⟩) | ⟨r, hr, rfl⟩
  · exact hkey currentDataplane_sublist k hk
  · exact hrule newDataplane_sublist r hr
  · exact hrule addedControlplane_sublist r hr
  · exact hkey removedControlplane_sublist k hk
  · exact hrule existingControlplane_sublist r hr

end SonicUtilities
