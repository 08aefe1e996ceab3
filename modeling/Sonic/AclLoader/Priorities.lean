/-
AclLoader/Priorities.lean

The priorities that `convert_rules` gives.

Every rule of the result comes from an entry of a rule set that was not skipped or is a default
deny rule (`convertRules_spec`), so its priority is the maximum less the sequence id, or 1.  The
order of the priorities is right by construction; that all of them are positive, and above that
of the deny rule, holds exactly if the sequence ids stay below the maximum
(`prioritiesOk_iff`).
-/
import Sonic.AclLoader.Convert

namespace Swsssdk

variable {K V : Type*} [DecidableEq K] {d : Dict K V} {k : K} {v : V}

/-- What the update has is in the result. -/
theorem Dict.mem_update_of_mem {src : List (K × V)} (hnodup : (src.map Prod.fst).Nodup)
    (h : (k, v) ∈ src) : (k, v) ∈ (d.update src).items := by
  induction src generalizing d with
  | nil => exact absurd h List.not_mem_nil
  | cons p src ih =>
    rw [List.map_cons, List.nodup_cons] at hnodup
    rw [Dict.update, List.foldl_cons]
    show (k, v) ∈ ((d.set p.1 p.2).update src).items
    rcases List.mem_cons.mp h with rfl | h
    · refine (Dict.mem_update_of_not_mem fun q hq hqk => hnodup.1 ?_).mpr
        (Dict.mem_set_iff.mpr (.inl ⟨rfl, rfl⟩))
      exact List.mem_map.mpr ⟨q, hq, hqk⟩
    · exact ih hnodup.2 h

end Swsssdk

namespace SonicUtilities.AclLoader

open PyText Swsssdk Outcome

variable {L : AclLoader} {table_name T : String} {rule : AclEntry} {rules rules' : Rules} {key : Key}
  {props props' : RuleProps} {acl_sets : List AclSet} {acl_set : AclSet} {n : ℕ}

/-! ### The properties of a rule -/

/-- The properties other than the priority. -/
def propNames : List String :=
  ["PACKET_ACTION", "MIRROR_INGRESS_ACTION", "MIRROR_EGRESS_ACTION", "ETHER_TYPE", "IP_PROTOCOL",
    "SRC_IP", "SRC_IPV6", "DST_IP", "DST_IPV6", "DSCP", "L4_SRC_PORT", "L4_SRC_PORT_RANGE",
    "L4_DST_PORT", "L4_DST_PORT_RANGE", "TCP_FLAGS", "IN_PORTS"]

/-- The names are those of properties other than the priority. -/
def Named (l : List (String × PropValue)) : Prop := ∀ p ∈ l, p.1 ∈ propNames

theorem named_nil : Named [] := fun _ hp => absurd hp List.not_mem_nil

theorem named_singleton {f : String} {v : PropValue} (hf : f ∈ propNames) : Named [(f, v)] := by
  intro p hp
  rw [List.mem_singleton.mp hp]
  exact hf

theorem Named.append {l l' : List (String × PropValue)} (h : Named l) (h' : Named l') :
    Named (l ++ l') := by
  intro p hp
  rcases List.mem_append.mp hp with hp | hp
  · exact h p hp
  · exact h' p hp

theorem named_convertPort {single range port : String} (hsingle : single ∈ propNames)
    (hrange : range ∈ propNames) : Named (convertPort single range port) := by
  unfold convertPort
  split_ifs
  · exact named_nil
  · exact named_singleton hrange
  · exact named_singleton hsingle

theorem named_convertTransport : Named (convertTransport rule) := by
  have hflags : ∀ flags : ℕ,
      Named (if flags = 0 then [] else [("TCP_FLAGS", PropValue.str (flagsText flags))]) := by
    intro flags
    split_ifs
    · exact named_nil
    · exact named_singleton (by decide)
  exact ((named_convertPort (by decide) (by decide)).append
    (named_convertPort (by decide) (by decide))).append (hflags _)

theorem named_convertInputInterface : Named (convertInputInterface rule) := by
  unfold convertInputInterface
  split_ifs
  · exact named_nil
  · exact named_singleton (by decide)

theorem named_convertL2 {l : List (String × PropValue)} (h : convertL2 T n rule = .ok l) :
    Named l := by
  unfold convertL2 at h
  split at h
  · cases h
    exact named_nil
  · split at h
    · cases h
      exact named_singleton (by decide)
    · split at h
      · cases h
        exact named_singleton (by decide)
      · cases h

theorem named_convertAddress {v4 v6 address : String} {l : List (String × PropValue)}
    (hv4 : v4 ∈ propNames) (hv6 : v6 ∈ propNames)
    (h : L.convertAddress v4 v6 address = .ok l) : Named l := by
  unfold convertAddress at h
  split at h
  · cases h
    exact named_nil
  · split at h
    · cases h
    · split at h
      · cases h
      · cases h
        refine named_singleton ?_
        split_ifs
        · exact hv4
        · exact hv6

theorem named_convertProtocol {l : List (String × PropValue)}
    (h : convertProtocol T n rule = .ok l) : Named l := by
  unfold convertProtocol at h
  split at h
  · cases h
    exact named_nil
  · split at h
    · cases h
      exact named_singleton (by decide)
    · split at h
      · cases h
        exact named_singleton (by decide)
      · cases h

theorem named_convertIp {l : List (String × PropValue)} (h : L.convertIp T n rule = .ok l) :
    Named l := by
  obtain ⟨protocol, hprotocol, h⟩ := bind_eq_ok.mp h
  obtain ⟨source, hsource, h⟩ := bind_eq_ok.mp h
  obtain ⟨destination, hdestination, h⟩ := bind_eq_ok.mp h
  obtain ⟨mirror, -, h⟩ := bind_eq_ok.mp h
  cases h
  refine (((named_convertProtocol hprotocol).append
    (named_convertAddress (by decide) (by decide) hsource)).append
    (named_convertAddress (by decide) (by decide) hdestination)).append ?_
  split_ifs
  · exact named_singleton (by decide)
  · exact named_nil

theorem named_forwardingProps {l : List (String × String)}
    (h : L.forwardingProps T n rule = .ok l) : ∀ p ∈ l, p.1 ∈ propNames := by
  have hsingle : ∀ {f v : String}, f ∈ propNames → Except.ok [(f, v)] = (Except.ok l : Except PyError _) →
      ∀ p ∈ l, p.1 ∈ propNames := by
    intro f v hf heq p hp
    cases heq
    rw [List.mem_singleton.mp hp]
    exact hf
  unfold forwardingProps at h
  split at h
  · obtain ⟨controlPlane, -, h⟩ := bind_eq_ok.mp h
    split at h
    · exact hsingle (by decide) h
    · obtain ⟨mirror, -, h⟩ := bind_eq_ok.mp h
      split at h
      · split at h
        · cases h
        · cases h
        · split at h
          · exact hsingle (by decide) h
          · split at h
            · exact hsingle (by decide) h
            · cases h
      · exact hsingle (by decide) h
  · split at h
    · exact hsingle (by decide) h
    · cases h

theorem named_convertAction {l : List (String × PropValue)}
    (h : L.convertAction T n rule = .ok l) : Named l := by
  obtain ⟨actions, hactions, h⟩ := bind_eq_ok.mp h
  obtain ⟨valid, -, h⟩ := bind_eq_ok.mp h
  split at h
  · cases h
    intro p hp
    obtain ⟨q, hq, rfl⟩ := List.mem_map.mp hp
    exact named_forwardingProps hactions q hq
  · cases h

/-! ### The priority of a rule -/

/-- The rule has the priority. -/
def HasPriority (props : RuleProps) (p : ℤ) : Prop :=
  ("PRIORITY", PropValue.str (toString p)) ∈ props.items

/-- A rule has one priority. -/
theorem HasPriority.unique {p q : ℤ} (hp : HasPriority props p) (hq : HasPriority props q) :
    p = q := by
  have htext := PropValue.str.inj (props.eq_of_mem hp hq)
  exact Int.repr_inj.mp htext

/-- The row of a rule: the names that properties have, and the priority. -/
structure RuleRow (props : RuleProps) (p : ℤ) : Prop where
  priority : HasPriority props p
  names : ∀ f v, (f, v) ∈ props.items → f = "PRIORITY" ∨ f ∈ propNames

theorem RuleRow.update {p : ℤ} {l : List (String × PropValue)} (h : RuleRow props p)
    (hl : Named l) : RuleRow (props.update l) p where
  priority := by
    refine (Dict.mem_update_of_not_mem fun q hq hname => ?_).mpr h.priority
    have hmem := hl q hq
    rw [hname] at hmem
    revert hmem
    decide
  names f v hmem := by
    rcases Dict.mem_of_mem_update hmem with hmem | hmem
    · exact h.names f v hmem
    · exact .inr (hl _ hmem)

theorem ruleRow_priority (p : ℤ) :
    RuleRow (Dict.empty.set "PRIORITY" (.str (toString p))) p where
  priority := Dict.mem_set_iff.mpr (.inl ⟨rfl, rfl⟩)
  names f v hmem := by
    rcases Dict.mem_set_iff.mp hmem with ⟨rfl, -⟩ | ⟨-, hmem⟩
    · exact .inl rfl
    · exact absurd hmem Dict.not_mem_empty

/-- The priority of a rule is the maximum less its sequence id. -/
theorem convertRule_priority (h : L.convertRuleToDbSchema T rule = .ok props) :
    RuleRow props (L.max_priority - rule.sequence_id) := by
  obtain ⟨action, haction, h⟩ := bind_eq_ok.mp h
  obtain ⟨l2, hl2, h⟩ := bind_eq_ok.mp h
  obtain ⟨ip, hip, h⟩ := bind_eq_ok.mp h
  cases h
  exact (((((ruleRow_priority _).update (named_convertAction haction)).update
    (named_convertL2 hl2)).update (named_convertIp hip)).update named_convertTransport).update
    named_convertInputInterface

theorem denyRule_priority : RuleRow denyRule min_priority := by
  have hrow : RuleRow (((Dict.empty.set "PRIORITY" (.str (toString min_priority))).update
      [("ETHER_TYPE", .str (toString (0x0800 : ℤ)))]).update [("PACKET_ACTION", .str "DROP")])
      min_priority :=
    ((ruleRow_priority _).update (named_singleton (by decide))).update
      (named_singleton (by decide))
  exact hrow

/-- Two rows of one priority are merged to one of this priority. -/
theorem RuleRow.merge {p : ℤ} (h : ∀ f v, (f, v) ∈ props.items → f = "PRIORITY" ∨ f ∈ propNames)
    (h' : RuleRow props' p) : RuleRow (props.update props'.items) p where
  priority := Dict.mem_update_of_mem props'.nodup h'.priority
  names f v hmem := by
    rcases Dict.mem_of_mem_update hmem with hmem | hmem
    · exact h f v hmem
    · exact h'.names f v hmem

/-! ### Where the rules come from -/

/-- The rule set is converted, for this table. -/
structure Selected (L : AclLoader) (acl_set : AclSet) (T : String) : Prop where
  name : tableName acl_set.name = .ok T
  valid : L.isTableValid T = true
  current : ¬ (L.current_table.isSome ∧ L.current_table ≠ some T)

/-- An entry of the rule set is converted. -/
def Converts (L : AclLoader) (acl_set : AclSet) (T : String) (n : ℕ) : Prop :=
  ∃ entry ∈ acl_set.acl_entry, entry.2.sequence_id = n ∧
    ∃ props, L.convertRuleToDbSchema T entry.2 = .ok props

/-- The rules that the rule sets give, with their priorities. -/
inductive Origin (L : AclLoader) (acl_sets : List AclSet) : Key → ℤ → Prop
  | rule {s : AclSet} {T : String} {n : ℕ} : s ∈ acl_sets → Selected L s T → Converts L s T n →
      Origin L acl_sets (ruleKey T n) (L.max_priority - n)
  | deny {s : AclSet} {T : String} : s ∈ acl_sets → Selected L s T →
      L.isTableMirror T = .ok false → Origin L acl_sets (defaultKey T) min_priority

theorem ruleName_inj {n m : ℕ} (h : "RULE_" ++ toString n = "RULE_" ++ toString m) : n = m := by
  have hlist := congrArg String.toList h
  rw [String.toList_append, String.toList_append] at hlist
  exact Nat.repr_inj.mp (String.toList_inj.mp (List.append_cancel_left hlist))

theorem ruleName_ne_default (n : ℕ) : "RULE_" ++ toString n ≠ "DEFAULT_RULE" := by
  intro h
  have hlist := congrArg String.toList h
  rw [String.toList_append] at hlist
  cases hlist

theorem ruleKey_inj {T T' : String} {n m : ℕ} (h : ruleKey T n = ruleKey T' m) :
    T = T' ∧ n = m := by
  obtain ⟨hT, hname, -⟩ := Key.tuple.inj h
  exact ⟨hT, ruleName_inj hname⟩

theorem ruleKey_ne_defaultKey {T T' : String} {n : ℕ} : ruleKey T n ≠ defaultKey T' := by
  intro h
  obtain ⟨-, hname, -⟩ := Key.tuple.inj h
  exact ruleName_ne_default n hname

/-- A key has one priority. -/
theorem Origin.unique {p q : ℤ} (hp : Origin L acl_sets key p) (hq : Origin L acl_sets key q) :
    p = q := by
  generalize hkey : key = key' at hq
  cases hp with
  | rule =>
    cases hq with
    | rule =>
      obtain ⟨-, rfl⟩ := ruleKey_inj hkey
      rfl
    | deny => exact absurd hkey ruleKey_ne_defaultKey
  | deny =>
    cases hq with
    | rule => exact absurd hkey.symm ruleKey_ne_defaultKey
    | deny => rfl

/-- The rules hold the key. -/
def HasKey (rules : Rules) (key : Key) : Prop := ∃ props, (key, props) ∈ rules.items

/-- Every rule is a row with the priority of its origin. -/
def Sourced (L : AclLoader) (acl_sets : List AclSet) (rules : Rules) : Prop :=
  ∀ key props, (key, props) ∈ rules.items → ∃ p, Origin L acl_sets key p ∧ RuleRow props p

theorem mem_addRule_iff {key' : Key} :
    (key', props') ∈ (addRule rules key props).items ↔
      (key' = key ∧ props' = ((rules.get? key).getD Dict.empty).update props.items) ∨
        (key' ≠ key ∧ (key', props') ∈ rules.items) :=
  Dict.mem_set_iff

theorem hasKey_addRule : HasKey (addRule rules key props) key :=
  ⟨_, mem_addRule_iff.mpr (.inl ⟨rfl, rfl⟩)⟩

theorem HasKey.addRule {key' : Key} (h : HasKey rules key') :
    HasKey (addRule rules key props) key' := by
  obtain ⟨props', hmem⟩ := h
  by_cases hkey : key' = key
  · subst hkey
    exact hasKey_addRule
  · exact ⟨props', mem_addRule_iff.mpr (.inr ⟨hkey, hmem⟩)⟩

theorem Sourced.addRule {p : ℤ} (h : Sourced L acl_sets rules) (horigin : Origin L acl_sets key p)
    (hrow : RuleRow props p) : Sourced L acl_sets (addRule rules key props) := by
  intro key' props' hmem
  rcases mem_addRule_iff.mp hmem with ⟨rfl, rfl⟩ | ⟨-, hmem⟩
  · refine ⟨p, horigin, RuleRow.merge (fun f v hf => ?_) hrow⟩
    cases hget : rules.get? key' with
    | none =>
      rw [hget] at hf
      exact absurd hf Dict.not_mem_empty
    | some old =>
      rw [hget] at hf
      obtain ⟨q, -, hold⟩ := h key' old (Dict.get?_eq_some_iff.mp hget)
      exact hold.names f v hf
  · exact h key' props' hmem

/-- What the entries of a rule set do to the rules. -/
theorem convertEntries_spec {entries : List (String × AclEntry)} (hset : acl_set ∈ acl_sets)
    (hselected : Selected L acl_set T) (hentries : ∀ e ∈ entries, e ∈ acl_set.acl_entry)
    (hrules : Sourced L acl_sets rules)
    (h : entries.foldlM (L.convertEntry T) rules = .ok rules') :
    Sourced L acl_sets rules' ∧ (∀ key, HasKey rules key → HasKey rules' key) ∧
      ∀ e ∈ entries, ∀ props, L.convertRuleToDbSchema T e.2 = .ok props →
        HasKey rules' (ruleKey T e.2.sequence_id) := by
  induction entries generalizing rules with
  | nil =>
    cases h
    exact ⟨hrules, fun _ hkey => hkey, fun _ he => absurd he List.not_mem_nil⟩
  | cons e entries ih =>
    obtain ⟨he, hentries⟩ := List.forall_mem_cons.mp hentries
    obtain ⟨rules₁, hturn, h⟩ := foldlM_cons_eq_ok.mp h
    have hturn' : Sourced L acl_sets rules₁ ∧ (∀ key, HasKey rules key → HasKey rules₁ key) ∧
        ∀ props, L.convertRuleToDbSchema T e.2 = .ok props →
          HasKey rules₁ (ruleKey T e.2.sequence_id) := by
      rw [convertEntry] at hturn
      split at hturn
      · next props hconvert =>
          cases hturn
          refine ⟨hrules.addRule (.rule hset hselected ⟨e, he, rfl, props, hconvert⟩)
            (convertRule_priority hconvert), fun _ hkey => hkey.addRule,
            fun _ _ => hasKey_addRule⟩
      · next hconvert =>
          cases hturn
          refine ⟨hrules, fun _ hkey => hkey, fun props hprops => ?_⟩
          rw [hconvert] at hprops
          cases hprops
      · cases hturn
    obtain ⟨hsourced, hmono, hkeys⟩ := ih hentries hturn'.1 h
    refine ⟨hsourced, fun key hkey => hmono key (hturn'.2.1 key hkey), fun e' he' => ?_⟩
    rcases List.mem_cons.mp he' with rfl | he'
    · exact fun props hprops => hmono _ (hturn'.2.2 props hprops)
    · exact hkeys e' he'

/-- What a rule set does to the rules. -/
theorem convertSet_spec (hset : acl_set ∈ acl_sets) (hrules : Sourced L acl_sets rules)
    (h : L.convertSet rules acl_set = .ok rules') :
    Sourced L acl_sets rules' ∧ (∀ key, HasKey rules key → HasKey rules' key) ∧
      ∀ T, Selected L acl_set T → (∀ n, Converts L acl_set T n → HasKey rules' (ruleKey T n)) ∧
        (L.isTableMirror T = .ok false → HasKey rules' (defaultKey T)) := by
  obtain ⟨T, hname, h⟩ := bind_eq_ok.mp h
  have hsame : ∀ T', Selected L acl_set T' → T' = T := fun T' hT' =>
    Except.ok.inj (hT'.name.symm.trans hname)
  split at h
  · next hinvalid =>
      cases h
      refine ⟨hrules, fun _ hkey => hkey, fun T' hT' => ?_⟩
      rw [hsame T' hT'] at hT'
      exact absurd hT'.valid hinvalid
  · next hvalid =>
      split at h
      · next hother =>
          cases h
          refine ⟨hrules, fun _ hkey => hkey, fun T' hT' => ?_⟩
          rw [hsame T' hT'] at hT'
          exact absurd hother hT'.current
      · next hcurrent =>
          have hselected : Selected L acl_set T := ⟨hname, not_not.mp hvalid, hcurrent⟩
          obtain ⟨rules₁, hentries, h⟩ := bind_eq_ok.mp h
          obtain ⟨mirror, hmirror, h⟩ := bind_eq_ok.mp h
          obtain ⟨hsourced, hmono, hkeys⟩ :=
            convertEntries_spec hset hselected (fun _ he => he) hrules hentries
          split at h
          · next htrue =>
              cases h
              refine ⟨hsourced, hmono, fun T' hT' => ?_⟩
              rw [hsame T' hT']
              refine ⟨?_, fun hfalse => ?_⟩
              · rintro n ⟨e, he, rfl, props, hprops⟩
                exact hkeys e he props hprops
              · rw [hmirror, htrue] at hfalse
                cases hfalse
          · next hfalse =>
              cases h
              rw [Bool.not_eq_true] at hfalse
              subst hfalse
              refine ⟨hsourced.addRule (.deny hset hselected hmirror) denyRule_priority,
                fun key hkey => (hmono key hkey).addRule, fun T' hT' => ?_⟩
              rw [hsame T' hT']
              refine ⟨?_, fun _ => hasKey_addRule⟩
              rintro n ⟨e, he, rfl, props, hprops⟩
              exact (hkeys e he props hprops).addRule

/-- **The converted rules are those of the rule sets.** -/
theorem convertRules_spec (h : L.convertRules acl_sets = .ok rules) :
    Sourced L acl_sets rules ∧ ∀ key p, Origin L acl_sets key p → HasKey rules key := by
  have hloop : ∀ (sets : List AclSet) (rules₀ : Rules), (∀ s ∈ sets, s ∈ acl_sets) →
      Sourced L acl_sets rules₀ → sets.foldlM L.convertSet rules₀ = .ok rules →
      Sourced L acl_sets rules ∧ (∀ key, HasKey rules₀ key → HasKey rules key) ∧
        ∀ s ∈ sets, ∀ T, Selected L s T →
          (∀ n, Converts L s T n → HasKey rules (ruleKey T n)) ∧
            (L.isTableMirror T = .ok false → HasKey rules (defaultKey T)) := by
    intro sets
    induction sets with
    | nil =>
      intro rules₀ _ hrules₀ h
      cases h
      exact ⟨hrules₀, fun _ hkey => hkey, fun _ hs => absurd hs List.not_mem_nil⟩
    | cons s sets ih =>
      intro rules₀ hsets hrules₀ h
      obtain ⟨hs, hsets⟩ := List.forall_mem_cons.mp hsets
      obtain ⟨rules₁, hturn, h⟩ := foldlM_cons_eq_ok.mp h
      obtain ⟨hsourced, hmono, hkeys⟩ := convertSet_spec hs hrules₀ hturn
      obtain ⟨hsourced', hmono', hkeys'⟩ := ih rules₁ hsets hsourced h
      refine ⟨hsourced', fun key hkey => hmono' key (hmono key hkey), fun s' hs' T hT => ?_⟩
      rcases List.mem_cons.mp hs' with rfl | hs'
      · obtain ⟨hrule, hdeny⟩ := hkeys T hT
        exact ⟨fun n hn => hmono' _ (hrule n hn), fun hmirror => hmono' _ (hdeny hmirror)⟩
      · exact hkeys' s' hs' T hT
  obtain ⟨hsourced, -, hkeys⟩ := hloop acl_sets Dict.empty (fun _ hs => hs)
    (fun _ _ hmem => absurd hmem Dict.not_mem_empty) h
  refine ⟨hsourced, fun key p horigin => ?_⟩
  cases horigin with
  | rule hset hselected hconverts => exact (hkeys _ hset _ hselected).1 _ hconverts
  | deny hset hselected hmirror => exact (hkeys _ hset _ hselected).2 hmirror

/-! ### When the priorities are right -/

/-- The order of the priorities of the rules of each table. -/
structure PrioritiesOk (rules : Rules) : Prop where
  some_priority : ∀ key props, (key, props) ∈ rules.items → ∃ p, HasPriority props p
  ordered : ∀ T n m props props' p q, (ruleKey T n, props) ∈ rules.items →
    (ruleKey T m, props') ∈ rules.items → HasPriority props p → HasPriority props' q →
    n < m → q < p
  positive : ∀ key props p, (key, props) ∈ rules.items → HasPriority props p → 0 < p
  denyBelow : ∀ T n props props' p q, (defaultKey T, props) ∈ rules.items →
    (ruleKey T n, props') ∈ rules.items → HasPriority props p → HasPriority props' q → p < q

/-- The sequence ids are below the maximum. -/
def SequenceBelow (L : AclLoader) (acl_sets : List AclSet) : Prop :=
  ∀ acl_set ∈ acl_sets, ∀ T n, Selected L acl_set T → Converts L acl_set T n →
    (n : ℤ) < L.max_priority ∧
      (L.isTableMirror T = .ok false → (n : ℤ) + min_priority < L.max_priority)

theorem prioritiesOk_iff (h : L.convertRules acl_sets = .ok rules) :
    PrioritiesOk rules ↔ SequenceBelow L acl_sets := by
  obtain ⟨hsourced, hkeys⟩ := convertRules_spec h
  -- a rule of the result has the priority of its origin
  have hpriority : ∀ {key props p q}, (key, props) ∈ rules.items → HasPriority props p →
      Origin L acl_sets key q → p = q := by
    intro key props p q hmem hp hq
    obtain ⟨r, horigin, hrow⟩ := hsourced key props hmem
    rw [hp.unique hrow.priority, horigin.unique hq]
  have hfound : ∀ {key q}, Origin L acl_sets key q → ∃ props, (key, props) ∈ rules.items ∧
      HasPriority props q := by
    intro key q hq
    obtain ⟨props, hmem⟩ := hkeys key q hq
    obtain ⟨r, horigin, hrow⟩ := hsourced key props hmem
    exact ⟨props, hmem, horigin.unique hq ▸ hrow.priority⟩
  constructor
  · intro hok acl_set hset T n hselected hconverts
    have hrule : Origin L acl_sets (ruleKey T n) (L.max_priority - n) :=
      .rule hset hselected hconverts
    obtain ⟨props, hmem, hp⟩ := hfound hrule
    refine ⟨?_, fun hmirror => ?_⟩
    · have := hok.positive _ _ _ hmem hp
      omega
    · obtain ⟨deny, hdeny, hq⟩ := hfound (.deny hset hselected hmirror)
      have := hok.denyBelow T n deny props _ _ hdeny hmem hq hp
      omega
  · intro hbelow
    refine ⟨fun key props hmem => ?_, ?_, ?_, ?_⟩
    · obtain ⟨p, -, hrow⟩ := hsourced key props hmem
      exact ⟨p, hrow.priority⟩
    · intro T n m props props' p q hmem hmem' hp hq hlt
      have hof : ∀ {k props r}, (ruleKey T k, props) ∈ rules.items → HasPriority props r →
          r = L.max_priority - k := by
        intro k props r hmem hr
        obtain ⟨s, horigin, hrow⟩ := hsourced _ _ hmem
        rw [hr.unique hrow.priority]
        generalize hkey : ruleKey T k = key at horigin
        cases horigin with
        | rule =>
          obtain ⟨-, rfl⟩ := ruleKey_inj hkey
          rfl
        | deny => exact absurd hkey ruleKey_ne_defaultKey
      rw [hof hmem hp, hof hmem' hq]
      omega
    · intro key props p hmem hp
      obtain ⟨q, horigin, hrow⟩ := hsourced key props hmem
      rw [hp.unique hrow.priority]
      cases horigin with
      | rule hset hselected hconverts =>
        have := (hbelow _ hset _ _ hselected hconverts).1
        omega
      | deny => decide
    · intro T n props props' p q hdeny hmem hp hq
      obtain ⟨r, horigin, hrow⟩ := hsourced _ _ hmem
      obtain ⟨s, hdenyOrigin, hdenyRow⟩ := hsourced _ _ hdeny
      rw [hp.unique hdenyRow.priority, hq.unique hrow.priority]
      generalize hkey : ruleKey T n = key at horigin
      generalize hkey' : defaultKey T = key' at hdenyOrigin
      cases hdenyOrigin with
      | rule => exact absurd hkey'.symm ruleKey_ne_defaultKey
      | deny _ _ hmirror =>
        obtain ⟨rfl, -⟩ := Key.tuple.inj hkey'
        cases horigin with
        | deny => exact absurd hkey ruleKey_ne_defaultKey
        | rule hset hselected hconverts =>
          obtain ⟨rfl, rfl⟩ := ruleKey_inj hkey
          have := (hbelow _ hset _ _ hselected hconverts).2 hmirror
          omega

end SonicUtilities.AclLoader
