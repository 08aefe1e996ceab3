/-
AclLoader/UpdatesAgree.lean

`full_update` and `incremental_update` agree, and when they do not.

With the rows of `Agreement`, `incremental_update` does what it is for exactly if the table of
every old rule is known, no old rule is outside the current table, and the control plane rules
that are compared can be written over their rows (`updated_incremental_iff`).  If some table is
not known it changes nothing, which is right only where there was nothing to change.
-/
import Sonic.AclLoader.Agreement

namespace SonicUtilities

open Redis PyText Swsssdk Outcome LastWins
open Std (ExtTreeMap)
open AclLoader (Rules removeRule writeRule HasKey PrioritiesOk SequenceBelow)

variable {L : AclLoader} {rules : Rules} {key : Key} {props : RuleProps} {o : Orders}
  {keys : List Key} {db db' : Db} {h : Hash}

/-! ### Comparing a control plane rule -/

/-- **A control plane rule is changed to the new one exactly if it can be written over its row.** -/
theorem readsAs_changeEffect_iff (hloaded : Loaded L db) (hconverted : Converted L rules)
    (hmem : (key, props) ∈ rules.items) :
    ReadsAs (changeEffect L o (key, props) (db.hgetall (ruleName key))) (ruleRow props).toMap ↔
      Writable (ruleRow props).items (db.hgetall (ruleName key)) := by
  have htyped := typed_ruleRow hconverted hmem
  unfold changeEffect
  split_ifs with hsame
  · -- the row was read as the new one
    have hread := (of_decide_eq_true hsame).1
    exact readsAs_iff_writable htyped (fun _ _ => not_list_mem_ruleRow) (hloaded.isReadOf hread)
  · exact readsAs_writeRow_iff htyped ⟨_, o.hgetall_perm _, rfl⟩

/-- What `incremental_update` needs of the old rules. -/
structure Comparable (L : AclLoader) (rules : Rules) (db : Db) : Prop where
  inTable : ∀ key ∈ L.rules_db_info, L.inCurrentTable key = .ok true
  writable : ∀ key props, (key, props) ∈ rules.items → key ∈ L.rules_db_info →
    ControlPlane L key → Writable (ruleRow props).items (db.hgetall (ruleName key))

theorem updated_incremental_iff (hloaded : Loaded L db) (hconverted : Converted L rules)
    (hkeys : keys.Perm L.rules_db_info.keys) (hknown : TablesKnown L) :
    Updated L rules db (L.incrementalUpdate o keys rules db).1 ↔ Comparable L rules db := by
  obtain ⟨db', hrun, hmembers, hget⟩ :=
    incrementalUpdate_spec (o := o) hloaded hconverted hkeys hknown
  rw [hrun]
  constructor
  · intro hupdated
    refine ⟨fun key hold => ?_, fun key props hmem hold hcontrol => ?_⟩
    · by_contra hout
      obtain ⟨hclean, hstored⟩ := hloaded.mem_iff.mp hold
      have hnot : ¬ HasKey rules key := fun ⟨props, hmem⟩ =>
        hout (inCurrentTable_of_mem hconverted hmem)
      have hkept := hupdated.others (ruleName key)
        (fun k ⟨props, hmem⟩ hname => hnot
          ⟨props, ruleName_inj (hconverted.clean k props hmem) hclean hname ▸ hmem⟩)
        (fun k hk hname => hout
          (ruleName_inj (hloaded.mem_iff.mp hk.1).1 hclean hname ▸ hk.2))
      rw [hget, incremental_old hloaded hconverted hkeys hold hnot] at hkept
      exact hstored hkept.symm
    · have hreads := hupdated.new key props hmem
      rw [hget, incremental_new hloaded hconverted hkeys hmem, if_pos ⟨hold, hcontrol⟩] at hreads
      exact (readsAs_changeEffect_iff hloaded hconverted hmem).mp hreads
  · intro hcomparable
    refine ⟨fun key props hmem => ?_, fun key hreplaced hnot => ?_,
      fun name hnew hold => ?_, hmembers⟩
    · rw [hget, incremental_new hloaded hconverted hkeys hmem]
      split_ifs with hold
      · exact (readsAs_changeEffect_iff hloaded hconverted hmem).mpr
          (hcomparable.writable key props hmem hold.1 hold.2)
      · exact readsAs_rawRule hconverted hmem
    · rw [hget]
      exact incremental_old hloaded hconverted hkeys hreplaced.1 hnot
    · rw [hget]
      exact incremental_other hkeys hnew fun key hkey =>
        hold key ⟨hkey, hcomparable.inTable key hkey⟩

/-! ### An old row with the empty key -/

theorem inCurrentTable_of_known (hknown : TablesKnown L) :
    ∀ key ∈ L.rules_db_info, ∃ b, L.inCurrentTable key = .ok b := by
  intro key hkey
  obtain ⟨b, hb⟩ := hknown key hkey
  obtain ⟨first, hfirst, -⟩ := bind_eq_ok.mp hb
  rw [AclLoader.inCurrentTable]
  cases L.current_table with
  | none => exact ⟨true, rfl⟩
  | some table => exact ⟨_, bind_eq_ok.mpr ⟨first, hfirst, rfl⟩⟩

/-- Only the empty key has no table to compare. -/
theorem eq_of_inCurrentTable_error {e : PyError} (h : L.inCurrentTable key = .error e) :
    key = .str "" := by
  rw [AclLoader.inCurrentTable] at h
  cases hc : L.current_table with
  | none =>
    rw [hc] at h
    cases h
  | some table =>
    rw [hc] at h
    cases key with
    | tuple first second rest => cases h
    | str text =>
      cases htext : text.toList with
      | nil => rw [String.toList_eq_nil_iff.mp htext]
      | cons c cs =>
        have hfirst : keyTable (.str text) = .ok (String.ofList [c]) := by
          rw [keyTable, htext]
        have hok : (keyTable (.str text) >>= fun first =>
            (.ok (decide (table = first)) : Except PyError Bool)) = .error e := h
        rw [hfirst] at hok
        cases hok

/-- Some old rule has no table to compare with the current one. -/
def HasEmptyKey (L : AclLoader) : Prop :=
  ∃ key ∈ L.rules_db_info, ∃ e, L.inCurrentTable key = .error e

theorem run_cons_of_error {call : Db → Except PyError Db} {calls : List (Db → Except PyError Db)}
    {e : PyError} (h : call db = .error e) : run (call :: calls) db = (db, some e) := by
  rw [run, h]

/-- With the empty key last all other old rules of the current table are removed before. -/
theorem fullUpdate_of_last {e : PyError} (hloaded : Loaded L db)
    (hkeys : (keys ++ [key]).Perm L.rules_db_info.keys) (h : L.inCurrentTable key = .error e) :
    ∃ db', (L.fullUpdate (keys ++ [key]) rules db).1 = db' ∧
      ∀ key', Replaced L key' → db'.hgetall (ruleName key') = ∅ := by
  have hnodup : (keys ++ [key]).Nodup := hkeys.nodup_iff.mpr ExtTreeMap.nodup_keys
  have hne : ∀ k ∈ keys, k ≠ key := by
    rintro k hk rfl
    exact (List.nodup_append.mp hnodup).2.2 k hk k (List.mem_singleton_self k) rfl
  have hcalls : keys.map L.removeInTable = (keys.map (removeInTableEdit L)).map Edit.call := by
    rw [List.map_map]
    refine List.map_congr_left fun k hk => ?_
    cases hin : L.inCurrentTable k with
    | ok b => exact removeInTable_eq hin
    | error e' =>
      refine absurd ?_ (hne k hk)
      rw [eq_of_inCurrentTable_error hin, eq_of_inCurrentTable_error h]
  obtain ⟨db', hrun, -, hget⟩ := @run_edits (keys.map (removeInTableEdit L)) db (by
    intro e he
    obtain ⟨k, -, rfl⟩ := List.mem_map.mp he
    exact hloaded.smembers_ruleName k)
  refine ⟨db', ?_, fun key' hreplaced => ?_⟩
  · have hcall : L.removeInTable key db' = .error e := by
      show (L.inCurrentTable key >>= _) = _
      rw [h]
      rfl
    rw [AclLoader.fullUpdate, List.map_append, List.append_assoc, run_append, hcalls, hrun]
    show (run (L.removeInTable key :: _) db').1 = db'
    rw [run_cons_of_error hcall]
  · have hmem : key' ∈ keys := by
      rcases List.mem_append.mp ((mem_keys_iff hkeys).mpr hreplaced.1) with hmem | hmem
      · exact hmem
      · obtain rfl := List.mem_singleton.mp hmem
        cases h.symm.trans hreplaced.2
    rw [hget, applyEdits_keys hloaded hkeys (List.sublist_append_left _ _) (fun _ => rfl) hmem]
    exact if_pos hreplaced.2

/-- Where no old rule is replaced and none is new nothing is written. -/
theorem fullUpdate_of_idle (hkeys : keys.Perm L.rules_db_info.keys) (hrules : rules.items = [])
    (hnone : ∀ key, ¬ Replaced L key) : (L.fullUpdate keys rules db).1 = db := by
  have hturn : ∀ key ∈ keys, L.removeInTable key db = .ok db ∨
      ∃ e, L.removeInTable key db = .error e := by
    intro key hkey
    cases hin : L.inCurrentTable key with
    | error e => exact .inr ⟨e, by show (L.inCurrentTable key >>= _) = _; rw [hin]; rfl⟩
    | ok b =>
      cases b with
      | true => exact absurd ⟨(mem_keys_iff hkeys).mp hkey, hin⟩ (hnone key)
      | false => exact .inl (by show (L.inCurrentTable key >>= _) = _; rw [hin]; rfl)
  rw [AclLoader.fullUpdate, hrules, List.map_nil, List.append_nil]
  clear hkeys
  induction keys with
  | nil => rfl
  | cons key keys ih =>
    obtain ⟨hkey, hturn⟩ := List.forall_mem_cons.mp hturn
    rw [List.map_cons, run]
    rcases hkey with hok | ⟨e, herror⟩
    · rw [hok]
      exact ih hturn
    · rw [herror]

/-! ### The two updates -/

/-- Both updates leave the new rules, in whatever order old rules are gone through and rows are
read, and whatever is raised. -/
def UpdatesAgree (L : AclLoader) (rules : Rules) (db : Db) : Prop :=
  ∀ keys, keys.Perm L.rules_db_info.keys →
    Updated L rules db (L.fullUpdate keys rules db).1 ∧
      ∀ o, Updated L rules db (L.incrementalUpdate o keys rules db).1

/-- Both updates do what they are for. -/
def Agreeable (L : AclLoader) (rules : Rules) (db : Db) : Prop :=
  (TablesKnown L ∧ Comparable L rules db) ∨
    (¬ TablesKnown L ∧ Unchanged L rules db ∧ (HasEmptyKey L → rules.items = []))

/-- No row of a rule is read from nothing. -/
theorem not_readsAs_empty (hconverted : Converted L rules) (hmem : (key, props) ∈ rules.items) :
    ¬ ReadsAs ∅ (ruleRow props).toMap := by
  intro hreads
  obtain ⟨⟨f, v⟩, rest, hitems⟩ := List.exists_cons_of_ne_nil (hconverted.nonempty key props hmem)
  have hfield : (f, FieldValue.str v.text) ∈ (ruleRow props).items :=
    List.mem_map.mpr ⟨(f, v), hitems ▸ List.mem_cons_self, rfl⟩
  have hshows := (readsAs_iff.mp hreads f _).mpr (Dict.getElem?_toMap_eq_some_iff.mpr hfield)
  rcases hshows with ⟨-, text, hget, -⟩ | ⟨text, hget, -⟩
  · cases ExtTreeMap.getElem?_empty.symm.trans hget
  · cases ExtTreeMap.getElem?_empty.symm.trans hget

theorem agreeable_of_updatesAgree (hloaded : Loaded L db) (hconverted : Converted L rules)
    (hagree : UpdatesAgree L rules db) : Agreeable L rules db := by
  by_cases hknown : TablesKnown L
  · have hupdated := (hagree _ (List.Perm.refl _)).2 Orders.sorted
    exact .inl ⟨hknown,
      (updated_incremental_iff hloaded hconverted (List.Perm.refl _) hknown).mp hupdated⟩
  · have hupdated := (hagree _ (List.Perm.refl _)).2 Orders.sorted
    rw [incrementalUpdate_of_not_known hconverted (List.Perm.refl _) hknown] at hupdated
    have hunchanged := (updated_self_iff hloaded).mp hupdated
    refine .inr ⟨hknown, hunchanged, ?_⟩
    rintro ⟨key, hkey, e, herror⟩
    by_contra hne
    obtain ⟨⟨key', props⟩, rest, hitems⟩ := List.exists_cons_of_ne_nil hne
    have hmem : (key', props) ∈ rules.items := hitems ▸ List.mem_cons_self
    -- the new rule is an old one, which is removed before the exception
    obtain ⟨before, after, hsplit⟩ := List.append_of_mem (ExtTreeMap.mem_keys.mpr hkey)
    have hperm : (before ++ after ++ [key]).Perm L.rules_db_info.keys := by
      rw [hsplit]
      exact (List.perm_append_singleton key _).trans List.perm_middle.symm
    obtain ⟨db', hrun, hgone⟩ := @fullUpdate_of_last L rules _ _ _ _ hloaded hperm herror
    have hfull := (hagree _ hperm).1
    rw [hrun] at hfull
    have hstored : db.hgetall (ruleName key') ≠ ∅ := by
      intro hempty
      have hreads := hunchanged.new key' props hmem
      rw [hempty] at hreads
      exact not_readsAs_empty hconverted hmem hreads
    have hreplaced : Replaced L key' :=
      ⟨hloaded.mem_iff.mpr ⟨hconverted.clean key' props hmem, hstored⟩,
        inCurrentTable_of_mem hconverted hmem⟩
    have hreads := hfull.new key' props hmem
    rw [hgone key' hreplaced] at hreads
    exact not_readsAs_empty hconverted hmem hreads

theorem updatesAgree_of_agreeable (hloaded : Loaded L db) (hconverted : Converted L rules)
    (hagreeable : Agreeable L rules db) : UpdatesAgree L rules db := by
  intro keys hkeys
  rcases hagreeable with ⟨hknown, hcomparable⟩ | ⟨hunknown, hunchanged, hempty⟩
  · exact ⟨updated_fullUpdate hloaded hconverted hkeys (inCurrentTable_of_known hknown),
      fun o => (updated_incremental_iff hloaded hconverted hkeys hknown).mpr hcomparable⟩
  · refine ⟨?_, fun o => ?_⟩
    · by_cases hkey : HasEmptyKey L
      · have hrules := hempty hkey
        rw [fullUpdate_of_idle hkeys hrules]
        · exact (updated_self_iff hloaded).mpr hunchanged
        · intro key hreplaced
          obtain ⟨props, hmem⟩ := hunchanged.old key hreplaced
          rw [hrules] at hmem
          exact absurd hmem List.not_mem_nil
      · refine updated_fullUpdate hloaded hconverted hkeys fun key hmem => ?_
        cases hin : L.inCurrentTable key with
        | ok b => exact ⟨b, rfl⟩
        | error e => exact absurd ⟨key, hmem, e, hin⟩ hkey
    · rw [incrementalUpdate_of_not_known hconverted hkeys hunknown]
      exact (updated_self_iff hloaded).mpr hunchanged

/-- **Both updates leave the new rules, and the priorities are in order, exactly under these
conditions.** -/
theorem acl_updates_agree_iff (L : AclLoader) (db : Db) (acl_sets : List AclSet) (rules : Rules)
    (hloaded : Loaded L db) (hrules : L.convertRules acl_sets = .ok rules) :
    (UpdatesAgree L rules db ↔ Agreeable L rules db) ∧
      (PrioritiesOk rules ↔ SequenceBelow L acl_sets) := by
  have hconverted := converted_of_convertRules hloaded hrules
  exact ⟨⟨agreeable_of_updatesAgree hloaded hconverted,
    updatesAgree_of_agreeable hloaded hconverted⟩, AclLoader.prioritiesOk_iff hrules⟩

/-- A switch that can drop and forward packets. -/
def dropCapability : Dict String String where
  items := [("ACL_ACTIONS|INGRESS", "PACKET_ACTION,REDIRECT_ACTION"),
    ("ACL_ACTION|PACKET_ACTION", "DROP,FORWARD")]
  nodup := by decide

/-- A loader that knows the data plane table `DATAACL`, with these old rules. -/
def dataLoader (rules_db_info : TableData) (current_table : Option String) : AclLoader where
  tables_db_info := {(.str "DATAACL", {("type", .str "L3")})}
  rules_db_info := rules_db_info
  sessions := []
  requested_session := none
  mirror_stage := some "INGRESS"
  current_table := current_table
  max_priority := 10000
  capability := some dropCapability
  ipVersion := fun _ => some 4

/-- The database with that table. -/
def dataDb : Db := Db.empty.putHash "ACL_TABLE|DATAACL" {("type", "L3")}

/-- A rule set with one rule, which drops. -/
def dropSet : AclSet where
  name := "dataacl"
  acl_entry := [("10", {
    sequence_id := 10, forwarding_action := "DROP", ethertype := "", protocol := "IP_TCP",
    source_ip_address := "10.0.0.0/8", destination_ip_address := "", dscp := 0,
    source_port := "", destination_port := "80..90", tcp_flags := [], interface := "" })]

/-- The rules of that set. -/
def dropRules : Rules :=
  match (dataLoader ∅ none).convertRules [dropSet] with
  | .ok rules => rules
  | .error _ => Dict.empty

theorem acl_updates_agree_drop : UpdatesAgree (dataLoader ∅ none) dropRules dataDb := by
  have hloaded : Loaded (dataLoader ∅ none) dataDb := ⟨⟨Orders.sorted, rfl⟩, ⟨Orders.sorted, rfl⟩⟩
  have hrules : (dataLoader ∅ none).convertRules [dropSet] = .ok dropRules := rfl
  have hnone : ∀ key, key ∉ (dataLoader ∅ none).rules_db_info := fun key =>
    ExtTreeMap.not_mem_empty
  refine (acl_updates_agree_iff _ dataDb [dropSet] dropRules hloaded hrules).1.mpr (.inl ⟨?_, ?_, ?_⟩)
  · exact fun key hkey => absurd hkey (hnone key)
  · exact fun key hkey => absurd hkey (hnone key)
  · exact fun key _ _ hkey => absurd hkey (hnone key)

/-- An old rule of `DATAACL`. -/
def oldRules : TableData :=
  {(.tuple "DATAACL" "RULE_1" [], {("PRIORITY", .str "9999"), ("PACKET_ACTION", .str "DROP")})}

/-- With the current table `EVERFLOW`, `incremental_update` removes a rule of `DATAACL`. -/
theorem not_acl_updates_agree :
    ¬ ∀ (L : AclLoader) (db : Db) (acl_sets : List AclSet) (rules : Rules), Loaded L db →
      L.convertRules acl_sets = .ok rules → UpdatesAgree L rules db ∧ PrioritiesOk rules := by
  intro h
  have hloaded : Loaded (dataLoader oldRules (some "EVERFLOW"))
      (dataDb.putHash "ACL_RULE|DATAACL|RULE_1" {("PRIORITY", "9999"), ("PACKET_ACTION", "DROP")}) :=
    ⟨⟨Orders.sorted, rfl⟩, ⟨Orders.sorted, rfl⟩⟩
  have hrules : (dataLoader oldRules (some "EVERFLOW")).convertRules [] = .ok Dict.empty := rfl
  have hagree := agreeable_of_updatesAgree hloaded (converted_of_convertRules hloaded hrules)
    (h _ _ [] Dict.empty hloaded hrules).1
  have hold : Key.tuple "DATAACL" "RULE_1" [] ∈ oldRules :=
    ExtTreeMap.isSome_getElem?_iff_mem.mp rfl
  rcases hagree with ⟨-, hcomparable⟩ | ⟨hunknown, -⟩
  · cases hcomparable.inTable _ hold
  · refine hunknown fun key hkey => ?_
    have heq : key = .tuple "DATAACL" "RULE_1" [] := by
      have hkeys : key ∈ oldRules.keys := ExtTreeMap.mem_keys.mpr hkey
      rw [show oldRules.keys = [Key.tuple "DATAACL" "RULE_1" []] from rfl] at hkeys
      exact List.mem_singleton.mp hkeys
    exact ⟨false, heq ▸ rfl⟩

end SonicUtilities
