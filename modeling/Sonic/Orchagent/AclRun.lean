/-
Orchagent/AclRun.lean

Runs of the ACL orch: tasks of rules, and the mirror sessions that come, go, and change
their state.

`TaskDone` lists what a task does to the stored rules, in terms of `create` and `remove`;
`updateRules_keeps` is the rule for invariants that the notifications of a session keep.
With them the ids of the entries are shown to stay apart in every run.
-/
import Sonic.Lib.Transition
import Sonic.Orchagent.AclSteps

namespace Orchagent.Acl

open Orchagent.Acl.St Transition

variable {env : Env} {sai : Sai} {key : RuleKey} {s s' t : St} {r r' : AclRule} {ok : Bool}
variable {name : Text} {active : Bool}

/-! ### The system -/

inductive Event where
  | task (env : Env) (sai : Sai) (key : RuleKey) (task : AclRuleTask)
  | createSession (name : Text)
  | deleteSession (env : Env) (sai : Sai) (name : Text)
  | activateSession (env : Env) (sai : Sai) (name : Text)
  | deactivateSession (env : Env) (sai : Sai) (name : Text)
  | setInterfaces (getRouterIntfsAlias : RouterIntfsAlias)

/-- What an event does, unless it throws. -/
def St.run (s : St) : Event → Option St
  | .task env sai key task => (s.doAclRuleTask env sai key task).map fun x => x.1
  | .createSession name => some (s.createSession name)
  | .deleteSession env sai name => (s.deleteSession env sai name).map fun x => x.1
  | .activateSession env sai name => s.activateSession env sai name
  | .deactivateSession env sai name => s.deactivateSession env sai name
  | .setInterfaces getRouterIntfsAlias => some { s with getRouterIntfsAlias := getRouterIntfsAlias }

def Step (s : St) (e : Event) (t : St) : Prop := s.run e = some t

/-- Before the first event: tables and sessions may be there, but no rule. -/
structure Initial (s : St) : Prop where
  rules : s.rules = ∅
  ranges : s.m_ranges = ∅
  nextHopRefs : ∀ nh, s.nextHopRefs nh = 0
  groupRefs : ∀ nhg, s.groupRefs nhg = 0
  crm_acl_entry : ∀ table_id, s.crm_acl_entry table_id = 0
  crm_acl_counter : ∀ table_id, s.crm_acl_counter table_id = 0
  asicEntries : s.asicEntries = ∅
  asicCounters : s.asicCounters = ∅
  nextOid : 0 < s.nextOid
  refCount : ∀ name session, s.m_syncdMirrors.lookup name = some session → session.refCount = 0

/-! ### Drafts -/

/-- What the attributes of a rule do not change. -/
structure AclRule.IsNew (r : AclRule) : Prop where
  ruleOid : r.m_ruleOid = SAI_NULL_OBJECT_ID
  counterOid : r.m_counterOid = SAI_NULL_OBJECT_ID
  createCounter : r.m_createCounter = true
  state : r.m_state = false

/-- The references that were taken are on the targets of the rule. -/
structure Draft.Ok (getRouterIntfsAlias : RouterIntfsAlias) (d : Draft) : Prop where
  isNew : d.rule.IsNew
  noTarget : d.rule.ruleClass ≠ .AclRuleL3 → d.rule.ruleClass ≠ .AclRuleL3V6 →
    d.rule.m_redirect_target_next_hop = [] ∧ d.rule.m_redirect_target_next_hop_group = []
  nextHop : d.rule.nextHop? getRouterIntfsAlias = d.nextHops.getLast?
  group : d.rule.group? getRouterIntfsAlias = d.groups.getLast?

variable {f : RouterIntfsAlias} {d d' : Draft} {table_id attr_name attr_value : Text}

/-- A draft whose rule has the same identity and the same targets. -/
theorem Draft.Ok.congr (h : d.Ok f) (hnew : d'.rule.IsNew)
    (hclass : d'.rule.ruleClass = d.rule.ruleClass)
    (hnext : d'.rule.m_redirect_target_next_hop = d.rule.m_redirect_target_next_hop)
    (hgroup : d'.rule.m_redirect_target_next_hop_group = d.rule.m_redirect_target_next_hop_group)
    (hnextHops : d'.nextHops = d.nextHops) (hgroups : d'.groups = d.groups) : d'.Ok f := by
  refine ⟨hnew, ?_, ?_, ?_⟩
  · rw [hclass, hnext, hgroup]
    exact h.noTarget
  · rw [hnextHops, ← h.nextHop, AclRule.nextHop?, hnext]
    rfl
  · rw [hgroups, ← h.group, AclRule.group?, hgroup]
    rfl

theorem Draft.Ok.addAction {action : Text} {param : ActionParam} (h : d.Ok f) :
    (d.addAction env table_id action param).1.Ok f :=
  h.congr ⟨h.isNew.ruleOid, h.isNew.counterOid, h.isNew.createCounter, h.isNew.state⟩
    rfl rfl rfl rfl rfl

theorem Draft.Ok.getRedirectObjectId (h : d.Ok f)
    (hclass : d.rule.ruleClass = .AclRuleL3 ∨ d.rule.ruleClass = .AclRuleL3V6) :
    (d.getRedirectObjectId env f attr_value).1.Ok f := by
  unfold Draft.getRedirectObjectId
  by_cases hcolon : attr_value[PACKET_ACTION_REDIRECT.length]? ≠ some ':'
  · rw [if_pos hcolon]
    exact h
  rw [if_neg hcolon]
  by_cases hempty : PACKET_ACTION_REDIRECT.length + 1 = attr_value.length
  · rw [if_pos hempty]
    exact h
  rw [if_neg hempty]
  -- the target is not empty, so that a rule with it refers to it
  have htarget : attr_value.drop (PACKET_ACTION_REDIRECT.length + 1) ≠ [] := by
    intro hnil
    have hlength := List.drop_eq_nil_iff.mp hnil
    have hlt := (List.getElem?_eq_some_iff.mp (not_not.mp hcolon)).1
    omega
  generalize attr_value.drop (PACKET_ACTION_REDIRECT.length + 1) = target at htarget ⊢
  have hnew := h.isNew
  have hL3 : ∀ {P : Prop}, d.rule.ruleClass ≠ .AclRuleL3 → d.rule.ruleClass ≠ .AclRuleL3V6 → P :=
    fun h₁ h₂ => (hclass.elim h₁ h₂).elim
  dsimp only
  split
  · exact h
  · exact h
  · split
    · next nh hparse =>
        split
        · exact h
        · refine ⟨⟨hnew.ruleOid, hnew.counterOid, hnew.createCounter, hnew.state⟩, hL3, ?_, h.group⟩
          show (if target = [] then none else _) = _
          rw [if_neg htarget, List.getLast?_concat]
          exact hparse
    · split
      · exact h
      · next nhg hparse =>
          split
          · exact h
          · refine ⟨⟨hnew.ruleOid, hnew.counterOid, hnew.createCounter, hnew.state⟩, hL3, h.nextHop, ?_⟩
            show (if target = [] then none else _) = _
            rw [if_neg htarget, List.getLast?_concat]
            exact hparse

theorem Draft.Ok.addRedirect (h : d.Ok f)
    (hclass : d.rule.ruleClass = .AclRuleL3 ∨ d.rule.ruleClass = .AclRuleL3V6) :
    (d.addRedirect env f table_id attr_value).1.Ok f := by
  have hredirect : (d.getRedirectObjectId env f attr_value).1.Ok f := h.getRedirectObjectId hclass
  unfold Draft.addRedirect
  dsimp only
  split
  · exact hredirect
  · exact hredirect.addAction

theorem Draft.Ok.addActionL3 (h : d.Ok f)
    (hclass : d.rule.ruleClass = .AclRuleL3 ∨ d.rule.ruleClass = .AclRuleL3V6) :
    (d.addActionL3 env f table_id attr_name attr_value).1.Ok f := by
  unfold Draft.addActionL3
  split
  · split
    · exact h.addAction
    · split
      · exact h.addRedirect hclass
      · exact h
  · split
    · exact h.addRedirect hclass
    · exact h

theorem Draft.Ok.validateAddAction {x : Draft × Bool} (h : d.Ok s.getRouterIntfsAlias)
    (hx : s.validateAddAction env table_id d attr_name attr_value = some x) :
    x.1.Ok s.getRouterIntfsAlias := by
  have hsame : ∀ {d'}, d'.rule.m_ruleOid = d.rule.m_ruleOid →
      d'.rule.m_counterOid = d.rule.m_counterOid →
      d'.rule.m_createCounter = d.rule.m_createCounter → d'.rule.m_state = d.rule.m_state →
      d'.rule.ruleClass = d.rule.ruleClass →
      d'.rule.m_redirect_target_next_hop = d.rule.m_redirect_target_next_hop →
      d'.rule.m_redirect_target_next_hop_group = d.rule.m_redirect_target_next_hop_group →
      d'.nextHops = d.nextHops → d'.groups = d.groups → Draft.Ok s.getRouterIntfsAlias d' := by
    intro d' hrule hcounter hcreate hstate
    refine h.congr ⟨?_, ?_, ?_, ?_⟩
    · rw [hrule, h.isNew.ruleOid]
    · rw [hcounter, h.isNew.counterOid]
    · rw [hcreate, h.isNew.createCounter]
    · rw [hstate, h.isNew.state]
  unfold St.validateAddAction at hx
  split at hx
  · next hclass =>
      cases hx
      exact h.addActionL3 (Or.inl hclass)
  · next hclass =>
      cases hx
      exact h.addActionL3 (Or.inr hclass)
  · cases hx
    unfold Draft.addActionMirror
    dsimp only
    split_ifs
    · exact h
    · exact hsame rfl rfl rfl rfl rfl rfl rfl rfl rfl
    · exact hsame rfl rfl rfl rfl rfl rfl rfl rfl rfl
    · exact hsame rfl rfl rfl rfl rfl rfl rfl rfl rfl
  · unfold Draft.addActionFlowWatchList at hx
    split at hx
    · cases hx
      exact h
    split at hx
    · split at hx
      · cases hx
        exact h
      · cases hx
        exact hsame rfl rfl rfl rfl rfl rfl rfl rfl rfl
    split at hx
    · split at hx
      · cases hx
        exact hsame rfl rfl rfl rfl rfl rfl rfl rfl rfl
      · cases hx
        exact hsame rfl rfl rfl rfl rfl rfl rfl rfl rfl
    split at hx
    · cases hx
    · cases hx
      exact h.addAction
  · cases hx
    unfold Draft.addActionDropWatchList
    split
    · exact h
    · exact h.addAction

/-- A match changes nothing but the matches. -/
theorem validateAddMatch_eq :
    (validateAddMatch env r attr_name attr_value).1 =
      { r with m_matches := (validateAddMatch env r attr_name attr_value).1.m_matches } := by
  unfold validateAddMatch
  split
  · rfl
  · unfold AclRule.validateAddMatch
    split
    · rfl
    split
    · split
      · rfl
      · split <;> rfl
    · split <;> rfl

theorem Draft.Ok.validateAttr {x : Draft × Bool} (h : d.Ok s.getRouterIntfsAlias)
    (hx : s.validateAttr env table_id d attr_name attr_value = some x) :
    x.1.Ok s.getRouterIntfsAlias := by
  have hmatch : Draft.Ok s.getRouterIntfsAlias
      { d with rule := (validateAddMatch env d.rule attr_name attr_value).1 } := by
    rw [validateAddMatch_eq]
    exact h.congr ⟨h.isNew.ruleOid, h.isNew.counterOid, h.isNew.createCounter, h.isNew.state⟩
      rfl rfl rfl rfl rfl
  unfold St.validateAttr at hx
  split_ifs at hx
  · cases hx
    exact h
  · rcases hres : validateAddMatch env d.rule attr_name attr_value with ⟨r₁, valid⟩
    rw [hres] at hx hmatch
    cases valid with
    | true =>
      cases hx
      exact hmatch
    | false => exact hmatch.validateAddAction hx

theorem Draft.Ok.validateAttrs {attrs : List (Text × Text)} {x : Draft × Bool}
    (h : d.Ok s.getRouterIntfsAlias) (hx : s.validateAttrs env table_id attrs d = some x) :
    x.1.Ok s.getRouterIntfsAlias := by
  induction attrs generalizing d with
  | nil =>
    cases hx
    exact h
  | cons attr attrs ih =>
    obtain ⟨y, hy, hrest⟩ := Option.bind_eq_some_iff.mp hx
    have hyOk := h.validateAttr hy
    split at hrest
    · exact ih hyOk hrest
    · cases hrest
      exact hyOk

/-- The drafts of tasks are in order. -/
theorem draftOk {type : acl_table_type_t} {attrs : List (Text × Text)} {valid : Bool}
    (h : s.draftRule env table_id type attrs = some (d, valid)) : d.Ok s.getRouterIntfsAlias := by
  obtain ⟨r, hr, hrest⟩ := Option.bind_eq_some_iff.mp h
  obtain ⟨x, hx, heq⟩ := Option.map_eq_some_iff.mp hrest
  cases heq
  refine Draft.Ok.validateAttrs ?_ hx
  obtain ⟨action, -, hmake⟩ := Option.bind_eq_some_iff.mp hr
  obtain ⟨ruleClass, -, rfl⟩ := Option.map_eq_some_iff.mp hmake
  exact ⟨⟨rfl, rfl, rfl, rfl⟩, fun _ _ => ⟨rfl, rfl⟩, rfl, rfl⟩

/-! ### Tasks -/

/-- The stored rules after a rule was made, or not. -/
def St.stored (s : St) (key : RuleKey) (r : AclRule) (ok : Bool) : St :=
  if ok then s.storeRule key r else s

/-- The stored rules after a rule was removed, or not. -/
def St.unstored (s : St) (key : RuleKey) (r : AclRule) (ok : Bool) : St :=
  if ok then s.eraseRule key else s.storeRule key r

theorem addNew_cases (h : s.addNew env sai key r = some (s', ok)) :
    ∃ s₁ r₁, s.create env sai key r = some (s₁, r₁, ok) ∧ s' = s₁.stored key r₁ ok := by
  obtain ⟨⟨s₁, r₁, ok₁⟩, hcreate, heq⟩ := Option.map_eq_some_iff.mp h
  cases ok₁ with
  | true =>
    cases heq
    exact ⟨s₁, r₁, hcreate, rfl⟩
  | false =>
    cases heq
    exact ⟨_, r₁, hcreate, rfl⟩

theorem removeStored_cases (h : s.removeStored env sai key r = some (s', ok)) :
    ∃ s₁ r₁, s.remove env sai key r = some (s₁, r₁, ok) ∧ s' = s₁.unstored key r₁ ok := by
  obtain ⟨⟨s₁, r₁, ok₁⟩, hremove, heq⟩ := Option.map_eq_some_iff.mp h
  cases ok₁ with
  | true =>
    cases heq
    exact ⟨s₁, r₁, hremove, rfl⟩
  | false =>
    cases heq
    exact ⟨s₁, r₁, hremove, rfl⟩

/-- The draft of a task. -/
def St.taskDraft (s : St) (env : Env) (key : RuleKey) : AclRuleTask → Option (Draft × Bool)
  | .SET attrs => (s.m_AclTables.lookup key.1).bind fun type => s.draftRule env key.1 type attrs
  | .DEL => none

/-- What a task does. -/
inductive TaskDone (env : Env) (sai : Sai) (key : RuleKey) (s : St) (task : AclRuleTask) : St → Prop
  | skipped : TaskDone env sai key s task s
  | rejected {d : Draft} (hd : s.taskDraft env key task = some (d, false)) :
      TaskDone env sai key s task (s.takeRefs d)
  | added {d : Draft} {s₁ : St} {r₁ : AclRule} {ok : Bool}
      (hd : s.taskDraft env key task = some (d, true)) (hnone : s.rules.lookup key = none)
      (hcreate : (s.takeRefs d).create env sai key d.rule = some (s₁, r₁, ok)) :
      TaskDone env sai key s task (s₁.stored key r₁ ok)
  | replaced {d : Draft} {s₁ s₂ : St} {r r₁ r₂ : AclRule} {ok₁ ok : Bool}
      (hd : s.taskDraft env key task = some (d, true)) (hr : s.rules.lookup key = some r)
      (hremove : (s.takeRefs d).remove env sai key r = some (s₁, r₁, ok₁))
      (hcreate : (s₁.unstored key r₁ ok₁).create env sai key d.rule = some (s₂, r₂, ok)) :
      TaskDone env sai key s task (s₂.stored key r₂ ok)
  | deleted {s₁ : St} {r r₁ : AclRule} {ok : Bool} (htask : task = .DEL)
      (htable : s.m_AclTables.lookup key.1 ≠ none) (hr : s.rules.lookup key = some r)
      (hremove : s.remove env sai key r = some (s₁, r₁, ok)) :
      TaskDone env sai key s task (s₁.unstored key r₁ ok)

theorem taskDone_of_doAclRuleTask {task : AclRuleTask}
    (h : s.doAclRuleTask env sai key task = some (s', ok)) : TaskDone env sai key s task s' := by
  cases task with
  | SET attrs =>
    have hset : ∀ type, s.m_AclTables.lookup key.1 = some type →
        ((s.draftRule env key.1 type attrs).bind fun x => s.addDraft env sai key x.1 x.2)
          = some (s', ok) → TaskDone env sai key s (.SET attrs) s' := by
      intro type htable h
      obtain ⟨⟨d, valid⟩, hdraft, hadd⟩ := Option.bind_eq_some_iff.mp h
      have htaskDraft : s.taskDraft env key (.SET attrs) = some (d, valid) := by
        rw [taskDraft, htable]
        exact hdraft
      cases valid with
      | false =>
        cases hadd
        exact .rejected htaskDraft
      | true =>
        replace hadd : (s.takeRefs d).addRule env sai key d.rule = some (s', ok) := hadd
        unfold addRule at hadd
        cases hlookup : (s.takeRefs d).rules.lookup key with
        | none =>
          rw [hlookup] at hadd
          obtain ⟨s₁, r₁, hcreate, rfl⟩ := addNew_cases hadd
          exact .added htaskDraft hlookup hcreate
        | some r =>
          rw [hlookup] at hadd
          obtain ⟨⟨s₁, ok₁⟩, hremove, hnew⟩ := Option.bind_eq_some_iff.mp hadd
          obtain ⟨s₂, r₁, hremoved, rfl⟩ := removeStored_cases hremove
          obtain ⟨s₃, r₂, hcreate, rfl⟩ := addNew_cases hnew
          exact .replaced htaskDraft hlookup hremoved hcreate
    cases htable : s.m_AclTables.lookup key.1 with
    | none =>
      simp only [doAclRuleTask, htable] at h
      cases h
      exact .skipped
    | some type =>
      cases type with
      | ACL_TABLE_UNKNOWN =>
        simp only [doAclRuleTask, htable] at h
        cases h
        exact .skipped
      | _ =>
        simp only [doAclRuleTask, htable] at h
        exact hset _ htable h
  | DEL =>
    replace h : (if s.m_AclTables.lookup key.1 = none then some (s, true)
        else s.delRule env sai key) = some (s', ok) := h
    split at h
    · cases h
      exact .skipped
    · next htable =>
        unfold delRule at h
        cases hlookup : s.rules.lookup key with
        | none =>
          rw [hlookup] at h
          cases h
          exact .skipped
        | some r =>
          rw [hlookup] at h
          obtain ⟨s₁, r₁, hremove, rfl⟩ := removeStored_cases h
          exact .deleted rfl htable hlookup hremove

/-- The state in which the rule of a task is made. -/
def St.atCreate (s : St) (env : Env) (sai : Sai) (key : RuleKey) (d : Draft) : Option St :=
  match s.rules.lookup key with
  | none => some (s.takeRefs d)
  | some r => ((s.takeRefs d).removeStored env sai key r).map fun x => x.1

theorem atCreate_added (hnone : s.rules.lookup key = none) :
    s.atCreate env sai key d = some (s.takeRefs d) := by
  unfold atCreate
  rw [hnone]

theorem atCreate_replaced {s₁ : St} {r₁ : AclRule} (hr : s.rules.lookup key = some r)
    (hremove : (s.takeRefs d).remove env sai key r = some (s₁, r₁, ok)) :
    s.atCreate env sai key d = some (s₁.unstored key r₁ ok) := by
  unfold atCreate
  rw [hr]
  show ((s.takeRefs d).removeStored env sai key r).map _ = _
  unfold removeStored
  rw [hremove]
  cases ok <;> rfl

/-- The draft of a task is in order. -/
theorem draftOk_of_taskDraft {task : AclRuleTask} {valid : Bool}
    (hd : s.taskDraft env key task = some (d, valid)) : d.Ok s.getRouterIntfsAlias := by
  cases task with
  | DEL => cases hd
  | SET attrs =>
    obtain ⟨type, -, hdraft⟩ := Option.bind_eq_some_iff.mp hd
    exact draftOk hdraft

/-! ### Notifications -/

/-- What the notification of one rule keeps, those of all rules keep. -/
theorem updateRules_keeps {I : St → Prop}
    (hstep : ∀ {s s' key}, I s → s.updateRule env sai name active key = some s' → I s') :
    ∀ {keys : List RuleKey} {s s' : St}, I s → updateRules env sai name active keys s = some s' → I s'
  | [], s, s', hs, h => by
      cases h
      exact hs
  | key :: keys, s, s', hs, h => by
      obtain ⟨s₁, hupdate, hrest⟩ := Option.bind_eq_some_iff.mp h
      exact updateRules_keeps hstep (hstep hs hupdate) hrest

/-- What a notification does to a rule. -/
theorem updateRule_cases (h : s.updateRule env sai name active key = some s') :
    s' = s ∧ (∀ r, s.rules.lookup key = some r → r.ruleClass ≠ .AclRuleMirror ∨ r.m_sessionName ≠ name) ∨
      ∃ r s₁ r₁ ok, s.rules.lookup key = some r ∧ r.ruleClass = .AclRuleMirror ∧
        r.m_sessionName = name ∧ s' = s₁.storeRule key r₁ ∧
        (active = true ∧ s.create env sai key r = some (s₁, r₁, ok) ∨
          active = false ∧ s.remove env sai key r = some (s₁, r₁, ok)) := by
  unfold updateRule at h
  cases hlookup : s.rules.lookup key with
  | none =>
    rw [hlookup] at h
    cases h
    exact Or.inl ⟨rfl, fun r hr => by cases hr⟩
  | some r =>
    rw [hlookup] at h
    by_cases hother : r.ruleClass ≠ .AclRuleMirror ∨ r.m_sessionName ≠ name
    · simp only [if_pos hother] at h
      cases h
      refine Or.inl ⟨rfl, fun r' hr' => ?_⟩
      cases hr'
      exact hother
    · simp only [if_neg hother] at h
      push Not at hother
      refine Or.inr ⟨r, ?_⟩
      cases active with
      | true =>
        obtain ⟨⟨s₁, r₁, ok⟩, hcreate, rfl⟩ := Option.map_eq_some_iff.mp h
        refine ⟨s₁, r₁, ok, rfl, hother.1, hother.2, rfl, Or.inl ⟨rfl, ?_⟩⟩
        unfold create
        rw [hother.1]
        exact hcreate
      | false =>
        obtain ⟨⟨s₁, r₁, ok⟩, hremove, rfl⟩ := Option.map_eq_some_iff.mp h
        refine ⟨s₁, r₁, ok, rfl, hother.1, hother.2, rfl, Or.inr ⟨rfl, ?_⟩⟩
        unfold remove
        rw [hother.1]
        exact hremove

/-! ### Ids stay apart -/

theorem EntriesOk.stored (hs : EntriesOk s) (hr : RuleOk s key r)
    (h : EntryChange key s r s' r') : EntriesOk (s'.stored key r' ok) := by
  cases ok with
  | true => exact h.store hs hr
  | false =>
    refine ⟨lt_of_lt_of_le hs.nextOid h.nextOid, h.entryOid hs, fun key₁ r₁ hr₁ => ?_⟩
    replace hr₁ : s'.rules.lookup key₁ = some r₁ := hr₁
    rw [h.rules] at hr₁
    exact h.other hs hr₁

theorem EntriesOk.unstored (hs : EntriesOk s) (hr : s.rules.lookup key = some r)
    (h : EntryChange key s r s' r') : EntriesOk (s'.unstored key r' ok) := by
  have hstored := h.store hs (hs.ruleOk key r hr)
  cases ok with
  | false => exact hstored
  | true =>
    have hunstored : EntriesOk (s'.stored key r' false) := hs.stored (hs.ruleOk key r hr) h
    exact hunstored.erase

/-- The ids of entries do not depend on references and sessions. -/
theorem EntriesOk.congr (hs : EntriesOk s) (hrules : s'.rules = s.rules)
    (hentries : s'.asicEntries = s.asicEntries) (hnext : s'.nextOid = s.nextOid) : EntriesOk s' := by
  refine ⟨?_, ?_, fun key r hr => ?_⟩
  · rw [hnext]
    exact hs.nextOid
  · rw [hentries, hnext]
    exact hs.entryOid
  · rw [hrules] at hr
    have hold := hs.ruleOk key r hr
    refine ⟨?_, ?_, ?_⟩
    · rw [hnext]
      exact hold.ruleOid
    · rw [hentries]
      exact hold.entry
    · rw [hrules, hentries]
      exact hold.distinct

theorem EntriesOk.task {task : AclRuleTask} (hs : EntriesOk s)
    (h : TaskDone env sai key s task s') : EntriesOk s' := by
  have htake : ∀ d, EntriesOk (s.takeRefs d) := fun d => hs.congr rfl rfl rfl
  have hnew : ∀ {d}, s.taskDraft env key task = some (d, true) →
      d.rule.m_ruleOid = SAI_NULL_OBJECT_ID := by
    intro d hd
    cases task with
    | DEL => cases hd
    | SET attrs =>
      obtain ⟨type, -, hdraft⟩ := Option.bind_eq_some_iff.mp hd
      exact (draftOk hdraft).isNew.ruleOid
  cases h with
  | skipped => exact hs
  | @rejected d hd => exact htake d
  | @added d s₁ r₁ ok hd hnone hcreate =>
    exact (htake d).stored ((htake d).ruleOk_new (hnew hd)) (entryChange_create hcreate)
  | @replaced d s₁ s₂ r r₁ r₂ ok₁ ok hd hr hremove hcreate =>
    have hbetween : EntriesOk (s₁.unstored key r₁ ok₁) :=
      (htake d).unstored hr (entryChange_remove hremove)
    exact hbetween.stored (hbetween.ruleOk_new (hnew hd)) (entryChange_create hcreate)
  | deleted htask htable hr hremove => exact hs.unstored hr (entryChange_remove hremove)

theorem EntriesOk.updateRule (hs : EntriesOk s)
    (h : s.updateRule env sai name active key = some s') : EntriesOk s' := by
  rcases updateRule_cases h with ⟨rfl, -⟩ | ⟨r, s₁, r₁, ok, hr, -, -, rfl, hcase⟩
  · exact hs
  · rcases hcase with ⟨-, hcreate⟩ | ⟨-, hremove⟩
    · exact (entryChange_create hcreate).store hs (hs.ruleOk key r hr)
    · exact (entryChange_remove hremove).store hs (hs.ruleOk key r hr)

/-- The ways in which sessions change: the rules may be told, before or after the session
is changed. -/
theorem session_keeps {I : St → Prop} {e : Event} (hs : I s) (hstep : Step s e t)
    (htask : ∀ env sai key task s' ok, e = .task env sai key task →
      s.doAclRuleTask env sai key task = some (s', ok) → I s')
    (hinterfaces : ∀ f, e = .setInterfaces f → I { s with getRouterIntfsAlias := f })
    (hsessions : ∀ {s} m, I s → I { s with m_syncdMirrors := m })
    (hupdate : ∀ env sai name active, (e = .activateSession env sai name ∧ active = true ∨
        (e = .deactivateSession env sai name ∨ e = .deleteSession env sai name) ∧ active = false) →
      ∀ {s s' key}, I s → s.updateRule env sai name active key = some s' → I s') : I t := by
  have hdeactivate : ∀ {env sai name s'},
      (e = .deactivateSession env sai name ∨ e = .deleteSession env sai name) →
      s.deactivateSession env sai name = some s' → I s' := by
    intro env sai name s' he h
    unfold deactivateSession at h
    split at h
    · cases h
    · split at h
      · cases h
      · obtain ⟨s₁, hrules, rfl⟩ := Option.map_eq_some_iff.mp h
        have hs₁ := updateRules_keeps (hupdate env sai name false (Or.inr ⟨he, rfl⟩)) hs hrules
        unfold setInactive
        split
        · exact hs₁
        · exact hsessions _ hs₁
  unfold Step run at hstep
  cases e with
  | task env sai key task =>
    obtain ⟨⟨s', ok⟩, hdone, rfl⟩ := Option.map_eq_some_iff.mp hstep
    exact htask env sai key task s' ok rfl hdone
  | createSession name =>
    cases hstep
    unfold createSession
    split
    · exact hs
    · exact hsessions _ hs
  | deleteSession env sai name =>
    obtain ⟨⟨s', status⟩, hdelete, rfl⟩ := Option.map_eq_some_iff.mp hstep
    unfold deleteSession at hdelete
    split at hdelete
    · cases hdelete
      exact hs
    · split at hdelete
      · cases hdelete
        exact hs
      · obtain ⟨s₁, hs₁, heq⟩ := Option.map_eq_some_iff.mp hdelete
        cases heq
        refine hsessions _ ?_
        split at hs₁
        · exact hdeactivate (Or.inr rfl) hs₁
        · cases hs₁
          exact hs
  | activateSession env sai name =>
    replace hstep : s.activateSession env sai name = some t := hstep
    unfold activateSession at hstep
    split at hstep
    · cases hstep
    · split at hstep
      · cases hstep
      · exact updateRules_keeps (hupdate env sai name true (Or.inl ⟨rfl, rfl⟩)) (hsessions _ hs) hstep
  | deactivateSession env sai name => exact hdeactivate (Or.inl rfl) hstep
  | setInterfaces f =>
    cases hstep
    exact hinterfaces f rfl

/-- Every event keeps the ids of entries apart. -/
theorem EntriesOk.step {e : Event} (hs : EntriesOk s) (hstep : Step s e t) : EntriesOk t := by
  refine session_keeps hs hstep ?_ ?_ ?_ ?_
  · intro env sai key task s' ok _ h
    exact hs.task (taskDone_of_doAclRuleTask h)
  · intro f _
    exact hs.congr rfl rfl rfl
  · intro s m hs
    exact hs.congr rfl rfl rfl
  · intro env sai name active _ s s' key hs h
    exact hs.updateRule h

theorem Initial.entriesOk (h : Initial s) : EntriesOk s := by
  refine ⟨h.nextOid, fun oid hoid => ?_, fun key r hr => ?_⟩
  · rw [h.asicEntries] at hoid
    exact absurd rfl hoid
  · rw [h.rules] at hr
    cases hr

/-! ### Examples -/

/-- A platform on which all is there and valid, with two ranges. -/
def platform : Env where
  getPort _ := none
  hasNextHop _ := true
  getNextHopId _ := 1
  ensureNextHopGroup _ := true
  getNextHopGroupId _ := 2
  validPriority _ := true
  validMatch _ _ := true
  parseRange text :=
    if text = "10-20".toList then some (10, 20)
    else if text = "30-40".toList then some (30, 40) else none
  validSamplePercent _ := true
  isActionSupported _ _ _ := true
  m_dTelOrch := false
  getINTSessionOid _ := none
  decreaseINTSessionRefCount _ := true
  mlnx := false

/-- All calls succeed. -/
def allSucceed : Sai := fun _ _ => .SUCCESS

/-- One table of a type, with an inactive session. -/
def oneTable (type : acl_table_type_t) : St where
  m_AclTables := (∅ : Table Text acl_table_type_t).insert "DATA".toList type
  m_ctrlAclTables := []
  m_mirrorTableId := "DATA".toList
  getRouterIntfsAlias _ _ := noAlias
  rules := ∅
  m_ranges := ∅
  m_syncdMirrors := (∅ : Table Text MirrorEntry).insert "SESSION".toList ⟨false, 0⟩
  nextHopRefs _ := 0
  groupRefs _ := 0
  crm_acl_entry _ := 0
  crm_acl_counter _ := 0
  asicEntries := ∅
  asicCounters := ∅
  nextOid := 1

theorem initial_oneTable {type : acl_table_type_t} : Initial (oneTable type) := by
  refine ⟨rfl, rfl, fun _ => rfl, fun _ => rfl, fun _ => rfl, fun _ => rfl, rfl, rfl,
    Nat.zero_lt_one, ?_⟩
  intro name session hsession
  replace hsession :
      ((∅ : Table Text MirrorEntry).insert "SESSION".toList ⟨false, 0⟩).lookup name = some session :=
    hsession
  rw [Table.lookup_insert_eq] at hsession
  split at hsession
  · cases hsession
    rfl
  · cases hsession

/-- The rule of the examples. -/
def rule1 : RuleKey := ("DATA".toList, "RULE_1".toList)

def attr (name value : String) : Text × Text := (name.toList, value.toList)

end Orchagent.Acl
