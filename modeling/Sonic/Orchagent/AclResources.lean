/-
Orchagent/AclResources.lean

What ACL rules hold: references on redirect targets, counters, and the used counters of
`CrmOrch`.

The references of a rule are taken while its attributes are validated, and only
`decreaseNextHopRefCount` gives them back, which is called when the entry cannot be made
and when it is removed.  All other ways out of a task keep what was taken: a rule that is
not valid, a second target, a counter or a range that cannot be made.  A counter is kept
when a range or the entry cannot be made, `CrmOrch` counts entries that were not made, and a
rule that replaces one that cannot be removed leaves the entry of that one behind.

`HoldsExact` is shown for the runs that avoid these cases.  `HoldsBut` is the same with
references that were taken for a rule that is still being made.
-/
import Sonic.Orchagent.AclRanges

namespace Orchagent.Acl

open Orchagent.Acl.St Transition

variable {env : Env} {sai : Sai} {key key' : RuleKey} {s s' s₀ t : St} {r r' r₀ : AclRule}
variable {ok : Bool} {es : List Event} {d : Draft}

/-! ### What rules hold -/

/-- The entry of a rule exists in the ASIC. -/
def St.Installed (s : St) (r : AclRule) : Prop := (s.asicEntries.lookup r.m_ruleOid).isSome

instance : Decidable (s.Installed r) := inferInstanceAs (Decidable (_ = true))

/-- The sum over the stored rules that are installed. -/
def St.held (s : St) (w : RuleKey → AclRule → ℤ) : ℤ :=
  Table.sum (fun key r => if s.Installed r then w key r else 0) s.rules

def nextHopWeight (f : RouterIntfsAlias) (nh : NextHopKey) (_ : RuleKey) (r : AclRule) : ℤ :=
  if r.nextHop? f = some nh then 1 else 0

def groupWeight (f : RouterIntfsAlias) (nhg : NextHopGroupKey) (_ : RuleKey) (r : AclRule) : ℤ :=
  if r.group? f = some nhg then 1 else 0

def entryWeight (table_id : Text) (key : RuleKey) (_ : AclRule) : ℤ :=
  if key.1 = table_id then 1 else 0

def counterWeight (table_id : Text) (key : RuleKey) (r : AclRule) : ℤ :=
  if key.1 = table_id ∧ r.m_createCounter = true then 1 else 0

/-- A stored rule that is installed and has the counter with an id. -/
def St.OwnsCounter (s : St) (oid : sai_object_id_t) (key : RuleKey) (r : AclRule) : Prop :=
  s.rules.lookup key = some r ∧ s.Installed r ∧ r.m_createCounter = true ∧ r.m_counterOid = oid

/-- What is held is what the stored rules with an entry hold. -/
structure HoldsExact (s : St) : Prop where
  nextHopRefs : ∀ nh, s.nextHopRefs nh = s.held (nextHopWeight s.getRouterIntfsAlias nh)
  groupRefs : ∀ nhg, s.groupRefs nhg = s.held (groupWeight s.getRouterIntfsAlias nhg)
  crm_acl_entry : ∀ table_id, s.crm_acl_entry table_id = s.held (entryWeight table_id)
  crm_acl_counter : ∀ table_id, s.crm_acl_counter table_id = s.held (counterWeight table_id)
  counters : ∀ oid table_id, s.asicCounters.lookup oid = some table_id ↔
    ∃ key r, s.OwnsCounter oid key r ∧ key.1 = table_id
  entries : ∀ oid, s.asicEntries.lookup oid ≠ none →
    ∃ key r, s.rules.lookup key = some r ∧ r.m_ruleOid = oid

/-- The form that operations keep: `nextHops` and `groups` are the references that were
taken for a rule that is not made yet. -/
structure HoldsBut (nextHops : List NextHopKey) (groups : List NextHopGroupKey) (s : St) : Prop where
  ids : EntriesOk s
  waits : ∀ key r, s.rules.lookup key = some r → r.Waits → ¬ s.Installed r
  createCounter : ∀ key r, s.rules.lookup key = some r → r.m_createCounter = true
  nextHopRefs : ∀ nh,
    s.nextHopRefs nh = s.held (nextHopWeight s.getRouterIntfsAlias nh) + nextHops.count nh
  groupRefs : ∀ nhg,
    s.groupRefs nhg = s.held (groupWeight s.getRouterIntfsAlias nhg) + groups.count nhg
  crm_acl_entry : ∀ table_id, s.crm_acl_entry table_id = s.held (entryWeight table_id)
  crm_acl_counter : ∀ table_id, s.crm_acl_counter table_id = s.held (counterWeight table_id)
  counterOid : ∀ oid, s.asicCounters.lookup oid ≠ none → 0 < oid ∧ oid < s.nextOid
  counter : ∀ key r, s.rules.lookup key = some r → s.Installed r →
    s.asicCounters.lookup r.m_counterOid = some key.1
  owner : ∀ oid, s.asicCounters.lookup oid ≠ none → ∃ key r, s.OwnsCounter oid key r
  distinct : ∀ oid key r key' r', s.OwnsCounter oid key r → s.OwnsCounter oid key' r' → key = key'
  entries : ∀ oid, s.asicEntries.lookup oid ≠ none →
    ∃ key r, s.rules.lookup key = some r ∧ r.m_ruleOid = oid

theorem HoldsBut.exact (h : HoldsBut [] [] s) : HoldsExact s := by
  refine ⟨fun nh => ?_, fun nhg => ?_, h.crm_acl_entry, h.crm_acl_counter, fun oid table_id => ?_,
    h.entries⟩
  · rw [h.nextHopRefs nh]
    exact add_zero _
  · rw [h.groupRefs nhg]
    exact add_zero _
  · constructor
    · intro hcounter
      obtain ⟨key, r, howns⟩ := h.owner oid (by rw [hcounter]; exact Option.some_ne_none _)
      refine ⟨key, r, howns, ?_⟩
      have htable := h.counter key r howns.1 howns.2.1
      rw [howns.2.2.2, hcounter] at htable
      exact (Option.some.inj htable).symm
    · rintro ⟨key, r, howns, rfl⟩
      rw [← howns.2.2.2]
      exact h.counter key r howns.1 howns.2.1

theorem installed_iff : s.Installed r ↔ s.asicEntries.lookup r.m_ruleOid ≠ none :=
  Option.isSome_iff_ne_none

/-- A rule without an id is not installed. -/
theorem not_installed_of_null (hs : EntriesOk s) (hnull : r.m_ruleOid = SAI_NULL_OBJECT_ID) :
    ¬ s.Installed r := by
  intro hinst
  rw [installed_iff, hnull] at hinst
  exact absurd (hs.entryOid _ hinst).1 (lt_irrefl _)

/-- The other rules stay installed, or not. -/
theorem EntryChange.installed_other (h : EntryChange key s r s' r') (hs : EntriesOk s)
    (hr : RuleOk s key r) (hstored : s.rules.lookup key' = some r₀) (hne : key' ≠ key) :
    s'.Installed r₀ ↔ s.Installed r₀ := by
  have holder := (hs.ruleOk key' r₀ hstored).ruleOid
  rw [installed_iff, installed_iff]
  rcases h.entries with ⟨hentries, -⟩ | ⟨hentries, hfresh, -⟩ | ⟨hentries, -⟩
  · rw [hentries]
  · rw [hentries, Table.lookup_insert_eq, if_neg (lt_of_lt_of_le holder hfresh).ne]
  · rw [hentries, Table.lookup_erase_eq]
    split
    · next heq =>
        refine ⟨fun h => absurd rfl h, fun hentry => ?_⟩
        refine absurd (hr.distinct key' r₀ hstored heq ?_) hne
        rw [← heq]
        exact hentry
    · rfl

/-- What the rule of a key contributes. -/
def St.contribution (s : St) (key : RuleKey) (w : RuleKey → AclRule → ℤ) : ℤ :=
  ((s.rules.lookup key).map fun r => if s.Installed r then w key r else 0).getD 0

/-- Without the rule of a key, its contribution is gone. -/
theorem EntryChange.held_erase (h : EntryChange key s r s' r') (hs : EntriesOk s)
    (hr : RuleOk s key r) {w : RuleKey → AclRule → ℤ} :
    Table.sum (fun key r => if s'.Installed r then w key r else 0) (s.rules.erase key)
      = s.held w - s.contribution key w := by
  have hsame : Table.sum (fun key r => if s'.Installed r then w key r else 0) (s.rules.erase key)
      = Table.sum (fun key r => if s.Installed r then w key r else 0) (s.rules.erase key) := by
    refine Table.sum_congr fun key₁ r₁ hr₁ => ?_
    rw [Table.lookup_erase_eq] at hr₁
    split at hr₁
    · cases hr₁
    · next hne => exact if_congr (h.installed_other hs hr hr₁ hne) rfl rfl
  rw [hsame, Table.sum_erase]
  rfl

theorem EntryChange.held_store (h : EntryChange key s r s' r') (hs : EntriesOk s)
    (hr : RuleOk s key r) {w : RuleKey → AclRule → ℤ} :
    (s'.storeRule key r').held w
      = s.held w - s.contribution key w + if s'.Installed r' then w key r' else 0 := by
  show Table.sum (fun key r => if s'.Installed r then w key r else 0) (s'.rules.insert key r') = _
  rw [Table.sum_insert_erase, h.rules, h.held_erase hs hr, add_comm]

theorem EntryChange.held_unstore (h : EntryChange key s r s' r') (hs : EntriesOk s)
    (hr : RuleOk s key r) {w : RuleKey → AclRule → ℤ} :
    (s'.eraseRule key).held w = s.held w - s.contribution key w := by
  show Table.sum (fun key r => if s'.Installed r then w key r else 0) (s'.rules.erase key) = _
  rw [h.rules, h.held_erase hs hr]

theorem contribution_of (hr : s.rules.lookup key = some r) {w : RuleKey → AclRule → ℤ} :
    s.contribution key w = if s.Installed r then w key r else 0 := by
  rw [contribution, hr]
  rfl

/-- A key without a rule that is installed contributes nothing. -/
theorem contribution_eq_zero (h : ∀ r, s.rules.lookup key = some r → ¬ s.Installed r)
    {w : RuleKey → AclRule → ℤ} : s.contribution key w = 0 := by
  unfold contribution
  cases hr : s.rules.lookup key with
  | none => rfl
  | some r => exact if_neg (h r hr)

/-! ### Rules that hold nothing -/

variable {nextHops : List NextHopKey} {groups : List NextHopGroupKey}

/-- Only installed rules count. -/
theorem HoldsBut.congr (h : HoldsBut nextHops groups s) (hids : EntriesOk s')
    (hwaits : ∀ key r, s'.rules.lookup key = some r → r.Waits → ¬ s'.Installed r)
    (hcreate : ∀ key r, s'.rules.lookup key = some r → r.m_createCounter = true)
    (hrules : ∀ key r, s.Installed r →
      (s'.rules.lookup key = some r ↔ s.rules.lookup key = some r))
    (hheld : ∀ w, s'.held w = s.held w) (hentries : s'.asicEntries = s.asicEntries)
    (hcounters : s'.asicCounters = s.asicCounters) (hnext : s'.nextOid = s.nextOid)
    (hnextHops : s'.nextHopRefs = s.nextHopRefs) (hgroups : s'.groupRefs = s.groupRefs)
    (halias : s'.getRouterIntfsAlias = s.getRouterIntfsAlias)
    (hcrmEntry : s'.crm_acl_entry = s.crm_acl_entry)
    (hcrmCounter : s'.crm_acl_counter = s.crm_acl_counter) : HoldsBut nextHops groups s' := by
  have hinst : ∀ r, s'.Installed r ↔ s.Installed r := fun r => by
    rw [installed_iff, installed_iff, hentries]
  have howns : ∀ {oid key r}, s'.OwnsCounter oid key r ↔ s.OwnsCounter oid key r := by
    intro oid key r
    unfold OwnsCounter
    rw [hinst]
    constructor
    · rintro ⟨hr, hi, hrest⟩
      exact ⟨(hrules key r hi).mp hr, hi, hrest⟩
    · rintro ⟨hr, hi, hrest⟩
      exact ⟨(hrules key r hi).mpr hr, hi, hrest⟩
  refine ⟨hids, hwaits, hcreate, fun nh => ?_, fun nhg => ?_, fun table_id => ?_,
    fun table_id => ?_, ?_, fun key r hr hi => ?_, fun oid hoid => ?_,
    fun oid key r key' r' ho ho' => ?_, fun oid hoid => ?_⟩
  · rw [hnextHops, halias, hheld]
    exact h.nextHopRefs nh
  · rw [hgroups, halias, hheld]
    exact h.groupRefs nhg
  · rw [hcrmEntry, hheld]
    exact h.crm_acl_entry table_id
  · rw [hcrmCounter, hheld]
    exact h.crm_acl_counter table_id
  · rw [hcounters, hnext]
    exact h.counterOid
  · rw [hinst] at hi
    rw [hcounters]
    exact h.counter key r ((hrules key r hi).mp hr) hi
  · rw [hcounters] at hoid
    obtain ⟨key, r, ho⟩ := h.owner oid hoid
    exact ⟨key, r, howns.mpr ho⟩
  · exact h.distinct oid key r key' r' (howns.mp ho) (howns.mp ho')
  · rw [hentries] at hoid
    obtain ⟨key, r, hr, hoid'⟩ := h.entries oid hoid
    refine ⟨key, r, (hrules key r ?_).mpr hr, hoid'⟩
    rw [installed_iff, hoid']
    exact hoid

/-- A rule that is not installed is stored where no installed rule is. -/
theorem HoldsBut.storeIdle (h : HoldsBut nextHops groups s)
    (hplace : ∀ r₀, s.rules.lookup key = some r₀ → ¬ s.Installed r₀)
    (hnull : r.m_ruleOid = SAI_NULL_OBJECT_ID) (hcreate : r.m_createCounter = true) :
    HoldsBut nextHops groups (s.storeRule key r) := by
  have hr : RuleOk s key r := h.ids.ruleOk_new hnull
  have hidle := not_installed_of_null h.ids hnull
  have hchange : EntryChange key s r s r := ⟨rfl, le_refl _, rfl, Or.inl ⟨rfl, rfl⟩⟩
  have hcases : ∀ {key₁ r₁}, (s.storeRule key r).rules.lookup key₁ = some r₁ →
      key₁ = key ∧ r₁ = r ∨ key₁ ≠ key ∧ s.rules.lookup key₁ = some r₁ := by
    intro key₁ r₁ hr₁
    replace hr₁ : (s.rules.insert key r).lookup key₁ = some r₁ := hr₁
    rw [Table.lookup_insert_eq] at hr₁
    split at hr₁
    · next heq => exact Or.inl ⟨heq, (Option.some.inj hr₁).symm⟩
    · next hne => exact Or.inr ⟨hne, hr₁⟩
  refine h.congr (hchange.store h.ids hr) ?_ ?_ ?_ ?_ rfl rfl rfl rfl rfl rfl rfl rfl
  · intro key₁ r₁ hr₁ hwaits
    rcases hcases hr₁ with ⟨-, rfl⟩ | ⟨-, hr₁⟩
    · exact hidle
    · exact h.waits key₁ r₁ hr₁ hwaits
  · intro key₁ r₁ hr₁
    rcases hcases hr₁ with ⟨-, rfl⟩ | ⟨-, hr₁⟩
    · exact hcreate
    · exact h.createCounter key₁ r₁ hr₁
  · intro key₁ r₁ hinst
    show (s.rules.insert key r).lookup key₁ = some r₁ ↔ _
    rw [Table.lookup_insert_eq]
    split
    · next heq =>
        refine ⟨fun heq' => ?_, fun hr₁ => ?_⟩
        · cases heq'
          exact absurd hinst hidle
        · exact absurd hinst (hplace r₁ (heq ▸ hr₁))
    · exact Iff.rfl
  · intro w
    rw [hchange.held_store h.ids hr, if_neg hidle, contribution_eq_zero hplace, sub_zero, add_zero]

/-- A rule that is not installed is not stored any more. -/
theorem HoldsBut.eraseIdle (h : HoldsBut nextHops groups s) (hr : s.rules.lookup key = some r)
    (hidle : ¬ s.Installed r) : HoldsBut nextHops groups (s.eraseRule key) := by
  have hchange : EntryChange key s r s r := ⟨rfl, le_refl _, rfl, Or.inl ⟨rfl, rfl⟩⟩
  have hcases : ∀ {key₁ r₁}, (s.eraseRule key).rules.lookup key₁ = some r₁ →
      s.rules.lookup key₁ = some r₁ := by
    intro key₁ r₁ hr₁
    replace hr₁ : (s.rules.erase key).lookup key₁ = some r₁ := hr₁
    rw [Table.lookup_erase_eq] at hr₁
    split at hr₁
    · cases hr₁
    · exact hr₁
  refine h.congr h.ids.erase ?_ ?_ ?_ ?_ rfl rfl rfl rfl rfl rfl rfl rfl
  · intro key₁ r₁ hr₁ hwaits
    exact h.waits key₁ r₁ (hcases hr₁) hwaits
  · intro key₁ r₁ hr₁
    exact h.createCounter key₁ r₁ (hcases hr₁)
  · intro key₁ r₁ hinst
    refine ⟨hcases, fun hr₁ => ?_⟩
    show (s.rules.erase key).lookup key₁ = some r₁
    rw [Table.lookup_erase_eq, if_neg ?_]
    · exact hr₁
    · intro heq
      rw [heq, hr] at hr₁
      cases hr₁
      exact hidle hinst
  · intro w
    rw [hchange.held_unstore h.ids (h.ids.ruleOk key r hr), contribution_of hr, if_neg hidle, sub_zero]

/-- A rule that was not removed is stored again. -/
theorem HoldsBut.storeSame (h : HoldsBut nextHops groups s) (hr : s.rules.lookup key = some r) :
    HoldsBut nextHops groups (s.storeRule key r) := by
  have hchange : EntryChange key s r s r := ⟨rfl, le_refl _, rfl, Or.inl ⟨rfl, rfl⟩⟩
  have hlookup : ∀ key₁, (s.storeRule key r).rules.lookup key₁ = s.rules.lookup key₁ := by
    intro key₁
    show (s.rules.insert key r).lookup key₁ = _
    rw [Table.lookup_insert_eq]
    split
    · next heq => rw [heq, hr]
    · rfl
  have hrOk := h.ids.ruleOk key r hr
  refine h.congr (hchange.store h.ids hrOk) ?_ ?_ ?_ ?_ rfl rfl rfl rfl rfl rfl rfl rfl
  · intro key₁ r₁ hr₁ hwaits
    rw [hlookup] at hr₁
    exact h.waits key₁ r₁ hr₁ hwaits
  · intro key₁ r₁ hr₁
    rw [hlookup] at hr₁
    exact h.createCounter key₁ r₁ hr₁
  · intro key₁ r₁ _
    rw [hlookup]
  · intro w
    rw [hchange.held_store h.ids hrOk, contribution_of hr, sub_add_cancel]

/-! ### A rule that is made -/

/-- What a rule that is made takes. -/
structure MadeEffect (key : RuleKey) (s : St) (r : AclRule) (s' : St) (r' : AclRule) : Prop where
  nextOid : s.nextOid < s'.nextOid
  nextHopRefs : s'.nextHopRefs = s.nextHopRefs
  groupRefs : s'.groupRefs = s.groupRefs
  getRouterIntfsAlias : s'.getRouterIntfsAlias = s.getRouterIntfsAlias
  crm_acl_entry : ∀ table_id,
    s'.crm_acl_entry table_id = s.crm_acl_entry table_id + entryWeight table_id key r'
  crm_acl_counter : ∀ table_id,
    s'.crm_acl_counter table_id = s.crm_acl_counter table_id + counterWeight table_id key r'
  counters : s'.asicCounters = s.asicCounters.insert r'.m_counterOid key.1
  counterOid : r'.m_counterOid = s.nextOid
  createCounter : r'.m_createCounter = true
  nextHop : ∀ f, r'.nextHop? f = r.nextHop? f
  group : ∀ f, r'.group? f = r.group? f
  entries : s'.asicEntries = s.asicEntries.insert r'.m_ruleOid ⟨key.1, r.ranges⟩

theorem update_add {table_id : Text} {f : Text → ℤ} {n : ℤ} :
    Function.update f key.1 (f key.1 + n) table_id = f table_id + if key.1 = table_id then n else 0 := by
  by_cases h : key.1 = table_id
  · rw [h, Function.update_self, if_pos rfl]
  · rw [Function.update_of_ne fun heq => h heq.symm, if_neg h, add_zero]

theorem MadeEffect.of_created (hnew : r.m_createCounter = true) (h : Created env sai key s r s' r' true) :
    MadeEffect key s r s' r' := by
  cases h with
  | created hcounter hsai =>
    have hrule : s.withCounter r = { r with m_counterOid := s.nextOid } := by
      rw [withCounter, if_pos hnew]
    have hcounters : s.takeCounter key r = { s with
        asicCounters := s.asicCounters.insert s.nextOid key.1
        nextOid := s.nextOid + 1
        crm_acl_counter :=
          Function.update s.crm_acl_counter key.1 (s.crm_acl_counter key.1 + 1) } := by
      rw [takeCounter, if_pos hnew]
    have hbefore : s.beforeEntry key r = { s.takeCounter key r with
        m_ranges := (s.beforeEntry key r).m_ranges
        nextOid := (s.beforeEntry key r).nextOid } := takeRanges_eq
    rw [hrule]
    refine ⟨?_, ?_, ?_, ?_, fun table_id => ?_, fun table_id => ?_, ?_, rfl, hnew, fun _ => rfl,
      fun _ => rfl, ?_⟩
    · exact lt_of_le_of_lt beforeEntry_nextOid_le (Nat.lt_succ_self _)
    · show (s.beforeEntry key r).nextHopRefs = _
      rw [hbefore, hcounters]
    · show (s.beforeEntry key r).groupRefs = _
      rw [hbefore, hcounters]
    · show (s.beforeEntry key r).getRouterIntfsAlias = _
      rw [hbefore, hcounters]
    · show Function.update (s.beforeEntry key r).crm_acl_entry key.1
        ((s.beforeEntry key r).crm_acl_entry key.1 + 1) table_id = _
      rw [update_add, hbefore, hcounters]
      rfl
    · show (s.beforeEntry key r).crm_acl_counter table_id = _
      rw [hbefore, hcounters]
      show Function.update s.crm_acl_counter key.1 (s.crm_acl_counter key.1 + 1) table_id = _
      rw [update_add, counterWeight]
      refine congrArg (_ + ·) (if_congr ?_ rfl rfl)
      exact ⟨fun h => ⟨h, hnew⟩, fun h => h.1⟩
    · show (s.beforeEntry key r).asicCounters = _
      rw [hbefore, hcounters]
    · show (s.beforeEntry key r).asicEntries.insert _ _ = _
      rw [beforeEntry_asicEntries]

/-- **A rule that is made holds what was taken for it.** -/
theorem HoldsBut.storeMade (h : HoldsBut nextHops groups s)
    (hplace : ∀ r₀, s.rules.lookup key = some r₀ → ¬ s.Installed r₀)
    (hnull : r.m_ruleOid = SAI_NULL_OBJECT_ID) (hchange : EntryChange key s r s' r')
    (heffect : MadeEffect key s r s' r') (hwaits : ¬ r'.Waits)
    (hnext : ∀ nh, (nextHops.count nh : ℤ) = if r.nextHop? s.getRouterIntfsAlias = some nh then 1 else 0)
    (hgroup : ∀ nhg, (groups.count nhg : ℤ) = if r.group? s.getRouterIntfsAlias = some nhg then 1 else 0) :
    HoldsBut [] [] (s'.storeRule key r') := by
  have hr : RuleOk s key r := h.ids.ruleOk_new hnull
  have hinst : s'.Installed r' := by
    rw [installed_iff, heffect.entries, AList.lookup_insert]
    exact Option.some_ne_none _
  have hheld : ∀ w, (s'.storeRule key r').held w = s.held w + w key r' := by
    intro w
    rw [hchange.held_store h.ids hr, contribution_eq_zero hplace, sub_zero, if_pos hinst]
  -- the other rules are where they were
  have hcases : ∀ {key₁ r₁}, (s'.storeRule key r').rules.lookup key₁ = some r₁ →
      key₁ = key ∧ r₁ = r' ∨
        key₁ ≠ key ∧ s.rules.lookup key₁ = some r₁ ∧ (s'.Installed r₁ ↔ s.Installed r₁) := by
    intro key₁ r₁ hr₁
    replace hr₁ : (s'.rules.insert key r').lookup key₁ = some r₁ := hr₁
    rw [Table.lookup_insert_eq] at hr₁
    split at hr₁
    · next heq => exact Or.inl ⟨heq, (Option.some.inj hr₁).symm⟩
    · next hne =>
        rw [hchange.rules] at hr₁
        exact Or.inr ⟨hne, hr₁, hchange.installed_other h.ids hr hr₁ hne⟩
  have hself : (s'.storeRule key r').rules.lookup key = some r' := AList.lookup_insert _
  have hother : ∀ {key₁ r₁}, s.rules.lookup key₁ = some r₁ → s.Installed r₁ →
      (s'.storeRule key r').rules.lookup key₁ = some r₁ ∧ s'.Installed r₁ := by
    intro key₁ r₁ hr₁ hinst₁
    have hne : key₁ ≠ key := by
      rintro rfl
      exact hplace r₁ hr₁ hinst₁
    refine ⟨?_, (hchange.installed_other h.ids hr hr₁ hne).mpr hinst₁⟩
    show (s'.rules.insert key r').lookup key₁ = some r₁
    rw [Table.lookup_insert_eq, if_neg hne, hchange.rules]
    exact hr₁
  -- the counters of the others are older
  have holder : ∀ {key₁ r₁}, s.rules.lookup key₁ = some r₁ → s.Installed r₁ →
      r₁.m_counterOid ≠ r'.m_counterOid := by
    intro key₁ r₁ hr₁ hinst₁ heq
    have hcounter := h.counter key₁ r₁ hr₁ hinst₁
    have hlt := (h.counterOid r₁.m_counterOid (by rw [hcounter]; exact Option.some_ne_none _)).2
    rw [heq, heffect.counterOid] at hlt
    exact absurd hlt (lt_irrefl _)
  refine ⟨hchange.store h.ids hr, ?_, ?_, fun nh => ?_, fun nhg => ?_, fun table_id => ?_,
    fun table_id => ?_, fun oid hoid => ?_, fun key₁ r₁ hr₁ hinst₁ => ?_, fun oid hoid => ?_,
    fun oid key₁ r₁ key₂ r₂ ho₁ ho₂ => ?_, fun oid hoid => ?_⟩
  · intro key₁ r₁ hr₁ hwaits₁
    rcases hcases hr₁ with ⟨-, rfl⟩ | ⟨-, hr₁, hiff⟩
    · exact absurd hwaits₁ hwaits
    · intro hinst₁
      exact h.waits key₁ r₁ hr₁ hwaits₁ (hiff.mp hinst₁)
  · intro key₁ r₁ hr₁
    rcases hcases hr₁ with ⟨-, rfl⟩ | ⟨-, hr₁, -⟩
    · exact heffect.createCounter
    · exact h.createCounter key₁ r₁ hr₁
  · show s'.nextHopRefs nh = (s'.storeRule key r').held (nextHopWeight s'.getRouterIntfsAlias nh) + 0
    rw [hheld, heffect.nextHopRefs, heffect.getRouterIntfsAlias, h.nextHopRefs, hnext, add_zero,
      nextHopWeight, heffect.nextHop]
  · show s'.groupRefs nhg = (s'.storeRule key r').held (groupWeight s'.getRouterIntfsAlias nhg) + 0
    rw [hheld, heffect.groupRefs, heffect.getRouterIntfsAlias, h.groupRefs, hgroup, add_zero,
      groupWeight, heffect.group]
  · show s'.crm_acl_entry table_id = _
    rw [hheld, heffect.crm_acl_entry, h.crm_acl_entry]
  · show s'.crm_acl_counter table_id = _
    rw [hheld, heffect.crm_acl_counter, h.crm_acl_counter]
  · replace hoid : s'.asicCounters.lookup oid ≠ none := hoid
    rw [heffect.counters, Table.lookup_insert_eq] at hoid
    split at hoid
    · next heq =>
        rw [heq, heffect.counterOid]
        exact ⟨h.ids.nextOid, heffect.nextOid⟩
    · exact ⟨(h.counterOid oid hoid).1, (h.counterOid oid hoid).2.trans heffect.nextOid⟩
  · show s'.asicCounters.lookup r₁.m_counterOid = some key₁.1
    rw [heffect.counters, Table.lookup_insert_eq]
    rcases hcases hr₁ with ⟨rfl, rfl⟩ | ⟨-, hr₁, hiff⟩
    · rw [if_pos rfl]
    · have hinst₁ := hiff.mp hinst₁
      rw [if_neg (holder hr₁ hinst₁)]
      exact h.counter key₁ r₁ hr₁ hinst₁
  · replace hoid : s'.asicCounters.lookup oid ≠ none := hoid
    rw [heffect.counters, Table.lookup_insert_eq] at hoid
    split at hoid
    · next heq => exact ⟨key, r', hself, hinst, heffect.createCounter, heq.symm⟩
    · obtain ⟨key₁, r₁, hr₁, hinst₁, hrest⟩ := h.owner oid hoid
      exact ⟨key₁, r₁, (hother hr₁ hinst₁).1, (hother hr₁ hinst₁).2, hrest⟩
  · obtain ⟨hr₁, hinst₁, hcreate₁, hoid₁⟩ := ho₁
    obtain ⟨hr₂, hinst₂, hcreate₂, hoid₂⟩ := ho₂
    rcases hcases hr₁ with ⟨rfl, rfl⟩ | ⟨hne₁, hold₁, hiff₁⟩
    · rcases hcases hr₂ with ⟨rfl, -⟩ | ⟨-, hold₂, hiff₂⟩
      · rfl
      · exact absurd (hoid₂.trans hoid₁.symm) (holder hold₂ (hiff₂.mp hinst₂))
    · rcases hcases hr₂ with ⟨rfl, rfl⟩ | ⟨-, hold₂, hiff₂⟩
      · exact absurd (hoid₁.trans hoid₂.symm) (holder hold₁ (hiff₁.mp hinst₁))
      · exact h.distinct oid key₁ r₁ key₂ r₂ ⟨hold₁, hiff₁.mp hinst₁, hcreate₁, hoid₁⟩
          ⟨hold₂, hiff₂.mp hinst₂, hcreate₂, hoid₂⟩
  · replace hoid : s'.asicEntries.lookup oid ≠ none := hoid
    rw [heffect.entries, Table.lookup_insert_eq] at hoid
    split at hoid
    · next heq => exact ⟨key, r', hself, heq.symm⟩
    · obtain ⟨key₁, r₁, hr₁, hoid₁⟩ := h.entries oid hoid
      have hinst₁ : s.Installed r₁ := by
        rw [installed_iff, hoid₁]
        exact hoid
      exact ⟨key₁, r₁, (hother hr₁ hinst₁).1, hoid₁⟩

/-! ### A rule that is removed -/

/-- What a rule that is removed gives back. -/
structure GoneEffect (key : RuleKey) (s : St) (r : AclRule) (s' : St) (r' : AclRule) : Prop where
  nextOid : s'.nextOid = s.nextOid
  nextHopRefs : ∀ nh, s'.nextHopRefs nh = s.nextHopRefs nh - nextHopWeight s.getRouterIntfsAlias nh key r
  groupRefs : ∀ nhg, s'.groupRefs nhg = s.groupRefs nhg - groupWeight s.getRouterIntfsAlias nhg key r
  getRouterIntfsAlias : s'.getRouterIntfsAlias = s.getRouterIntfsAlias
  crm_acl_entry : ∀ table_id,
    s'.crm_acl_entry table_id = s.crm_acl_entry table_id - entryWeight table_id key r
  crm_acl_counter : ∀ table_id,
    s'.crm_acl_counter table_id = s.crm_acl_counter table_id - counterWeight table_id key r
  counters : s'.asicCounters = s.asicCounters.erase r.m_counterOid
  createCounter : r'.m_createCounter = r.m_createCounter
  ruleOid : r'.m_ruleOid = SAI_NULL_OBJECT_ID
  entries : s'.asicEntries = s.asicEntries.erase r.m_ruleOid

theorem update_sub {table_id : Text} {f : Text → ℤ} {n : ℤ} :
    Function.update f key.1 (f key.1 - n) table_id = f table_id - if key.1 = table_id then n else 0 := by
  by_cases h : key.1 = table_id
  · rw [h, Function.update_self, if_pos rfl]
  · rw [Function.update_of_ne fun heq => h heq.symm, if_neg h, sub_zero]

theorem GoneEffect.of_removed (hcreate : r.m_createCounter = true)
    (hcounterOid : r.m_counterOid ≠ SAI_NULL_OBJECT_ID)
    (hcan : s.CanRemoveEntry sai key r) (hsai : sai key .remove_acl_counter = .SUCCESS)
    (h : Removed sai key s r s' r' ok) : GoneEffect key s r s' r' := by
  cases h with
  | kept hnot => exact absurd hcan hnot
  | @removed s₁ s₂ r₂ res rc _ hranges hcounter =>
    cases hcounter with
    | none hnone => exact absurd ⟨hcreate, hcounterOid⟩ hnone
    | kept _ hfail => exact absurd hsai hfail
    | removed _ _ =>
      rw [removeRanges_eq hranges]
      refine ⟨rfl, fun nh => rfl, fun nhg => rfl, rfl, fun table_id => ?_, fun table_id => ?_, rfl,
        rfl, rfl, rfl⟩
      · show Function.update s.crm_acl_entry key.1 (s.crm_acl_entry key.1 + -1) table_id = _
        rw [← Int.sub_eq_add_neg, update_sub]
        rfl
      · show Function.update s.crm_acl_counter key.1 (s.crm_acl_counter key.1 - 1) table_id = _
        rw [update_sub, counterWeight]
        refine congrArg (_ - ·) (if_congr ?_ rfl rfl)
        exact ⟨fun h => ⟨h, hcreate⟩, fun h => h.1⟩

/-- **A rule that is removed gives back what it held**, whether it stays stored or not. -/
theorem HoldsBut.unstoreGone (h : HoldsBut nextHops groups s) (hr : s.rules.lookup key = some r)
    (hinst : s.Installed r) (hchange : EntryChange key s r s' r') (heffect : GoneEffect key s r s' r') :
    HoldsBut nextHops groups (s'.unstored key r' ok) := by
  have hrOk := h.ids.ruleOk key r hr
  have hids : EntriesOk (s'.unstored key r' ok) := h.ids.unstored hr hchange
  have hidle : ¬ s'.Installed r' := by
    rw [installed_iff, heffect.entries, heffect.ruleOid, Table.lookup_erase_eq, not_not]
    split
    · rfl
    · by_contra hsome
      exact absurd (h.ids.entryOid _ hsome).1 (lt_irrefl _)
  have hheld : ∀ w, (s'.unstored key r' ok).held w = s.held w - w key r := by
    intro w
    cases ok with
    | true =>
      show (s'.eraseRule key).held w = _
      rw [hchange.held_unstore h.ids hrOk, contribution_of hr, if_pos hinst]
    | false =>
      show (s'.storeRule key r').held w = _
      rw [hchange.held_store h.ids hrOk, contribution_of hr, if_pos hinst, if_neg hidle, add_zero]
  have hlookup : ∀ {key₁}, key₁ ≠ key →
      (s'.unstored key r' ok).rules.lookup key₁ = s.rules.lookup key₁ := by
    intro key₁ hne
    cases ok with
    | true =>
      show (s'.rules.erase key).lookup key₁ = _
      rw [Table.lookup_erase_eq, if_neg hne, hchange.rules]
    | false =>
      show (s'.rules.insert key r').lookup key₁ = _
      rw [Table.lookup_insert_eq, if_neg hne, hchange.rules]
  have hself : ∀ {r₁}, (s'.unstored key r' ok).rules.lookup key = some r₁ → r₁ = r' := by
    intro r₁ hr₁
    cases ok with
    | true =>
      replace hr₁ : (s'.rules.erase key).lookup key = some r₁ := hr₁
      rw [AList.lookup_erase] at hr₁
      cases hr₁
    | false =>
      replace hr₁ : (s'.rules.insert key r').lookup key = some r₁ := hr₁
      rw [AList.lookup_insert] at hr₁
      exact (Option.some.inj hr₁).symm
  have hsame : ∀ r₁, (s'.unstored key r' ok).Installed r₁ ↔ s'.Installed r₁ := by
    intro r₁
    cases ok <;> exact Iff.rfl
  -- what is installed now is another rule that was installed before
  have hcases : ∀ {key₁ r₁}, (s'.unstored key r' ok).rules.lookup key₁ = some r₁ →
      (s'.unstored key r' ok).Installed r₁ →
      key₁ ≠ key ∧ s.rules.lookup key₁ = some r₁ ∧ s.Installed r₁ := by
    intro key₁ r₁ hr₁ hinst₁
    rw [hsame] at hinst₁
    by_cases hkey : key₁ = key
    · rw [hkey] at hr₁
      rw [hself hr₁] at hinst₁
      exact absurd hinst₁ hidle
    · rw [hlookup hkey] at hr₁
      exact ⟨hkey, hr₁, (hchange.installed_other h.ids hrOk hr₁ hkey).mp hinst₁⟩
  have hother : ∀ {key₁ r₁}, key₁ ≠ key → s.rules.lookup key₁ = some r₁ → s.Installed r₁ →
      (s'.unstored key r' ok).rules.lookup key₁ = some r₁ ∧ (s'.unstored key r' ok).Installed r₁ := by
    intro key₁ r₁ hne hr₁ hinst₁
    rw [hsame]
    exact ⟨(hlookup hne).trans hr₁, (hchange.installed_other h.ids hrOk hr₁ hne).mpr hinst₁⟩
  have hfields : (s'.unstored key r' ok).asicCounters = s'.asicCounters ∧
      (s'.unstored key r' ok).asicEntries = s'.asicEntries ∧
      (s'.unstored key r' ok).nextOid = s'.nextOid ∧
      (s'.unstored key r' ok).nextHopRefs = s'.nextHopRefs ∧
      (s'.unstored key r' ok).groupRefs = s'.groupRefs ∧
      (s'.unstored key r' ok).getRouterIntfsAlias = s'.getRouterIntfsAlias ∧
      (s'.unstored key r' ok).crm_acl_entry = s'.crm_acl_entry ∧
      (s'.unstored key r' ok).crm_acl_counter = s'.crm_acl_counter := by
    cases ok <;> exact ⟨rfl, rfl, rfl, rfl, rfl, rfl, rfl, rfl⟩
  obtain ⟨hcounters, hentries, hnextOid, hnextHops, hgroups, halias, hcrmEntry, hcrmCounter⟩ := hfields
  refine ⟨hids, ?_, ?_, fun nh => ?_, fun nhg => ?_, fun table_id => ?_, fun table_id => ?_,
    fun oid hoid => ?_, fun key₁ r₁ hr₁ hinst₁ => ?_, fun oid hoid => ?_,
    fun oid key₁ r₁ key₂ r₂ ho₁ ho₂ => ?_, fun oid hoid => ?_⟩
  · intro key₁ r₁ hr₁ hwaits hinst₁
    obtain ⟨-, hold, hinst₁⟩ := hcases hr₁ hinst₁
    exact h.waits key₁ r₁ hold hwaits hinst₁
  · intro key₁ r₁ hr₁
    by_cases hkey : key₁ = key
    · rw [hkey] at hr₁
      rw [hself hr₁, heffect.createCounter]
      exact h.createCounter key r hr
    · rw [hlookup hkey] at hr₁
      exact h.createCounter key₁ r₁ hr₁
  · rw [hnextHops, halias, hheld, heffect.nextHopRefs, heffect.getRouterIntfsAlias, h.nextHopRefs]
    exact add_sub_right_comm _ _ _
  · rw [hgroups, halias, hheld, heffect.groupRefs, heffect.getRouterIntfsAlias, h.groupRefs]
    exact add_sub_right_comm _ _ _
  · rw [hcrmEntry, hheld, heffect.crm_acl_entry, h.crm_acl_entry]
  · rw [hcrmCounter, hheld, heffect.crm_acl_counter, h.crm_acl_counter]
  · rw [hcounters, heffect.counters, Table.lookup_erase_eq] at hoid
    rw [hnextOid, heffect.nextOid]
    split at hoid
    · exact absurd rfl hoid
    · exact h.counterOid oid hoid
  · obtain ⟨hne, hold, hinst₁⟩ := hcases hr₁ hinst₁
    rw [hcounters, heffect.counters, Table.lookup_erase_eq, if_neg ?_]
    · exact h.counter key₁ r₁ hold hinst₁
    · intro heq
      exact hne (h.distinct r.m_counterOid key₁ r₁ key r
        ⟨hold, hinst₁, h.createCounter key₁ r₁ hold, heq⟩ ⟨hr, hinst, h.createCounter key r hr, rfl⟩)
  · rw [hcounters, heffect.counters, Table.lookup_erase_eq] at hoid
    split at hoid
    · exact absurd rfl hoid
    · next hne =>
        obtain ⟨key₁, r₁, hr₁, hinst₁, hcreate₁, hoid₁⟩ := h.owner oid hoid
        have hkey : key₁ ≠ key := by
          rintro rfl
          rw [hr] at hr₁
          cases hr₁
          exact hne hoid₁.symm
        exact ⟨key₁, r₁, (hother hkey hr₁ hinst₁).1, (hother hkey hr₁ hinst₁).2, hcreate₁, hoid₁⟩
  · obtain ⟨hr₁, hinst₁, hrest₁⟩ := ho₁
    obtain ⟨hr₂, hinst₂, hrest₂⟩ := ho₂
    obtain ⟨-, hold₁, hinst₁⟩ := hcases hr₁ hinst₁
    obtain ⟨-, hold₂, hinst₂⟩ := hcases hr₂ hinst₂
    exact h.distinct oid key₁ r₁ key₂ r₂ ⟨hold₁, hinst₁, hrest₁⟩ ⟨hold₂, hinst₂, hrest₂⟩
  · rw [hentries, heffect.entries, Table.lookup_erase_eq] at hoid
    split at hoid
    · exact absurd rfl hoid
    · next hne =>
        obtain ⟨key₁, r₁, hr₁, hoid₁⟩ := h.entries oid hoid
        have hkey : key₁ ≠ key := by
          rintro rfl
          rw [hr] at hr₁
          cases hr₁
          exact hne hoid₁.symm
        have hinst₁ : s.Installed r₁ := by
          rw [installed_iff, hoid₁]
          exact hoid
        exact ⟨key₁, r₁, (hother hkey hr₁ hinst₁).1, hoid₁⟩

/-! ### Tasks -/

theorem HoldsBut.withMirrors (h : HoldsBut nextHops groups s) {m : Table Text MirrorEntry} :
    HoldsBut nextHops groups { s with m_syncdMirrors := m } :=
  h.congr (h.ids.congr rfl rfl rfl) h.waits h.createCounter (fun _ _ _ => Iff.rfl) (fun _ => rfl)
    rfl rfl rfl rfl rfl rfl rfl rfl

/-- A rule that was made does not wait. -/
theorem not_waits_of_create (hcreate : s.create env sai key r = some (s', r', true))
    (hnot : ¬ s.Waits r) : ¬ r'.Waits := by
  by_cases hclass : r.ruleClass = .AclRuleMirror
  · unfold St.create at hcreate
    rw [hclass] at hcreate
    obtain ⟨session, hsession, hcase⟩ := createMirrorRule_cases hcreate
    rcases hcase with ⟨hstatus, -⟩ | ⟨-, r₁, hcreated, hr'⟩
    · refine absurd ?_ hnot
      unfold Waits
      rw [hclass]
      exact ⟨session, hsession, hstatus⟩
    · have hclass' : r'.ruleClass = .AclRuleMirror := by
        rw [hr', if_pos rfl, hcreated.rule_eq]
        exact hclass
      have hstate : r'.m_state = true := by
        rw [hr', if_pos rfl]
      unfold AclRule.Waits
      rw [hclass']
      show ¬ r'.m_state = false
      rw [hstate]
      exact Bool.noConfusion
  · obtain ⟨s₁, -, hcase⟩ := create_cases hcreate
    rcases hcase with ⟨hwaits, -⟩ | ⟨-, r₁, hcreated, hr'⟩
    · exact absurd hwaits hnot
    · rw [hr', hcreated.rule_eq]
      intro hwaits
      unfold Waits at hnot
      unfold AclRule.Waits at hwaits
      cases hcase : r.ruleClass with
      | AclRuleMirror => exact hclass hcase
      | AclRuleDTelFlowWatchListEntry =>
        simp only [hcase] at hnot hwaits
        exact hnot hwaits
      | AclRuleL3 | AclRuleL3V6 | AclRuleDTelDropWatchListEntry =>
        simp only [hcase] at hwaits

/-- Making the rule of a draft keeps no more than the rule holds: its counter is refused
before anything else was taken for it, or all calls succeed and the rule that it replaces
can be removed. -/
def CreateHolds (env : Env) (sai : Sai) (key : RuleKey) (s : St) (d : Draft) : Prop :=
  ¬ s.Waits d.rule ∧ sai key .create_acl_counter ≠ .SUCCESS ∧ d.nextHops = [] ∧ d.groups = [] ∨
    (∀ r, s.rules.lookup key = some r → s.Installed r → sai key .remove_acl_entry = .SUCCESS) ∧
      (s.Waits d.rule ∨
        sai key .create_acl_counter = .SUCCESS ∧ sai key .create_acl_entry = .SUCCESS ∧
          ∀ p ps, d.rule.ranges = p :: ps → s.canCreateRange env sai key p)

/-- A list of one entry at most counts its last entry. -/
theorem count_of_length_le_one {α : Type} [DecidableEq α] {l : List α} (h : l.length ≤ 1) (a : α) :
    (l.count a : ℤ) = if l.getLast? = some a then 1 else 0 := by
  match l, h with
  | [], _ => rfl
  | [b], _ =>
    rw [List.getLast?_singleton, List.count_singleton]
    by_cases hb : b = a
    · subst hb
      simp
    · rw [if_neg (by simpa using hb), if_neg fun h => hb (Option.some.inj h)]
      rfl
  | b :: c :: l, h => exact absurd h (by simp)

/-- **The references of a draft become those of its rule.** -/
theorem HoldsBut.create (h : HoldsBut d.nextHops d.groups s) (hd : d.Ok s.getRouterIntfsAlias)
    (hnextHops : d.nextHops.length ≤ 1) (hgroups : d.groups.length ≤ 1)
    (hplace : ∀ r₀, s.rules.lookup key = some r₀ → s.Installed r₀ →
      sai key .remove_acl_entry ≠ .SUCCESS)
    (hcond : CreateHolds env sai key s d)
    (hcreate : s.create env sai key d.rule = some (s', r', ok)) :
    HoldsBut [] [] (s'.stored key r' ok) := by
  obtain ⟨s₁, hs₁, hcase⟩ := create_cases hcreate
  have h₁ : HoldsBut d.nextHops d.groups s₁ := by
    rw [hs₁]
    exact h.withMirrors
  have hfree : (∀ r, s.rules.lookup key = some r → s.Installed r →
      sai key .remove_acl_entry = .SUCCESS) →
      ∀ r₀, s₁.rules.lookup key = some r₀ → ¬ s₁.Installed r₀ := by
    intro hremoved r₀ hr₀ hinst₀
    rw [hs₁] at hr₀ hinst₀
    exact hplace r₀ hr₀ hinst₀ (hremoved r₀ hr₀ hinst₀)
  rcases hcase with ⟨hwaits, rfl, rfl, rfl⟩ | ⟨hnot, r₁, hcreated, hr'⟩
  · -- a rule that waits has no targets
    have hclass : d.rule.ruleClass ≠ .AclRuleL3 ∧ d.rule.ruleClass ≠ .AclRuleL3V6 := by
      unfold Waits at hwaits
      constructor <;>
      · intro hclass
        simp only [hclass] at hwaits
    obtain ⟨hnext, hgroup⟩ := hd.noTarget hclass.1 hclass.2
    have hnoNext : d.nextHops = [] := by
      have hlast := hd.nextHop
      rw [AclRule.nextHop?, if_pos hnext] at hlast
      exact List.getLast?_eq_none_iff.mp hlast.symm
    have hnoGroup : d.groups = [] := by
      have hlast := hd.group
      rw [AclRule.group?, if_pos hgroup] at hlast
      exact List.getLast?_eq_none_iff.mp hlast.symm
    rcases hcond with ⟨hnot, -⟩ | ⟨hremoved, -⟩
    · exact absurd hwaits hnot
    · rw [hnoNext, hnoGroup] at h₁
      exact h₁.storeIdle (hfree hremoved) hd.isNew.ruleOid hd.isNew.createCounter
  · rcases hcond with ⟨-, hsai, hnoNext, hnoGroup⟩ | ⟨hremoved, hcalls⟩
    · have hcounter : ¬ CanCreateCounter sai key d.rule := fun hcan =>
        hsai (hcan hd.isNew.createCounter)
      rw [hnoNext, hnoGroup] at h₁
      cases hcreated with
      | noCounter _ => exact h₁
      | noRange hcan _ _ => exact absurd hcan hcounter
      | noEntry hcan _ _ => exact absurd hcan hcounter
      | created hcan _ => exact absurd hcan hcounter
    · obtain ⟨hcounter, hentry, hranges⟩ := hcalls.resolve_left hnot
      have hok : ok = true := by
        cases hcreated with
        | noCounter hno => exact absurd (fun _ => hcounter) hno
        | noRange _ hr hno =>
          refine absurd ?_ hno
          have hcan := hranges _ _ hr
          rw [takeCounter_eq, hs₁]
          exact hcan
        | noEntry _ _ hno => exact absurd hentry hno
        | created _ _ => rfl
      subst hok
      have hchange : EntryChange key s₁ d.rule s' r' := by
        have hold := hcreated.entryChange
        rw [hr']
        exact ⟨hold.rules, hold.nextOid, hold.ranges, hold.entries⟩
      have heffect : MadeEffect key s₁ d.rule s' r' := by
        have hold := MadeEffect.of_created hd.isNew.createCounter hcreated
        rw [hr']
        exact ⟨hold.nextOid, hold.nextHopRefs, hold.groupRefs, hold.getRouterIntfsAlias,
          hold.crm_acl_entry, hold.crm_acl_counter, hold.counters, hold.counterOid,
          hold.createCounter, hold.nextHop, hold.group, hold.entries⟩
      have halias : s₁.getRouterIntfsAlias = s.getRouterIntfsAlias := by
        rw [hs₁]
      refine h₁.storeMade (hfree hremoved) hd.isNew.ruleOid hchange heffect
        (not_waits_of_create hcreate hnot) (fun nh => ?_) (fun nhg => ?_)
      · rw [halias, hd.nextHop]
        exact count_of_length_le_one hnextHops nh
      · rw [halias, hd.group]
        exact count_of_length_le_one hgroups nhg

/-- **What `remove` of a stored rule keeps.**  A rule that stays installed is one whose
entry the ASIC did not remove. -/
theorem HoldsBut.remove (h : HoldsBut nextHops groups s) (hr : s.rules.lookup key = some r)
    (hcounter : s.CanRemoveEntry sai key r → sai key .remove_acl_counter = .SUCCESS)
    (hremove : s.remove env sai key r = some (s', r', ok)) :
    HoldsBut nextHops groups (s'.unstored key r' ok) ∧
      ∀ r₀, (s'.unstored key r' ok).rules.lookup key = some r₀ →
        (s'.unstored key r' ok).Installed r₀ → sai key .remove_acl_entry ≠ .SUCCESS := by
  have hchange := entryChange_remove hremove
  rcases remove_cases hremove with
    ⟨hwaits, rfl, rfl, rfl⟩ | ⟨-, s₁, r₁, ok₁, hremoved, hs', hr', hok, hfailed⟩
  · refine ⟨h.eraseIdle hr (h.waits key r' hr hwaits), fun r₀ hr₀ => ?_⟩
    replace hr₀ : (s'.rules.erase key).lookup key = some r₀ := hr₀
    rw [AList.lookup_erase] at hr₀
    cases hr₀
  · by_cases hcan : s.CanRemoveEntry sai key r
    · have hinst : s.Installed r := installed_iff.mpr hcan.1
      have hcounterOid : r.m_counterOid ≠ SAI_NULL_OBJECT_ID := by
        intro hnull
        have hold := h.counter key r hr hinst
        rw [hnull] at hold
        have hpos := (h.counterOid SAI_NULL_OBJECT_ID (by rw [hold]; exact Option.some_ne_none _)).1
        exact absurd hpos (lt_irrefl _)
      have heffect : GoneEffect key s r s' r' := by
        have hold := GoneEffect.of_removed (h.createCounter key r hr) hcounterOid hcan
          (hcounter hcan) hremoved
        rw [hs', hr']
        exact ⟨hold.nextOid, hold.nextHopRefs, hold.groupRefs, hold.getRouterIntfsAlias,
          hold.crm_acl_entry, hold.crm_acl_counter, hold.counters, hold.createCounter,
          hold.ruleOid, hold.entries⟩
      have hgone : HoldsBut nextHops groups (s'.unstored key r' ok) :=
        h.unstoreGone hr hinst hchange heffect
      refine ⟨hgone, fun r₀ hr₀ hinst₀ => ?_⟩
      cases ok with
      | true =>
        replace hr₀ : (s'.rules.erase key).lookup key = some r₀ := hr₀
        rw [AList.lookup_erase] at hr₀
        cases hr₀
      | false =>
        have hself := hr₀
        replace hself : (s'.rules.insert key r').lookup key = some r₀ := hself
        rw [AList.lookup_insert] at hself
        cases hself
        exact absurd hinst₀ (not_installed_of_null hgone.ids heffect.ruleOid)
    · cases hremoved with
      | removed hcan' _ _ => exact absurd hcan' hcan
      | kept _ =>
        have hfalse : ok = false := by
          cases ok with
          | true => cases hok rfl
          | false => rfl
        rw [hfailed hfalse, hfalse, hs']
        refine ⟨h.withMirrors.storeSame hr, fun r₀ hr₀ hinst₀ hsai => hcan ⟨?_, hsai⟩⟩
        replace hr₀ : (s.rules.insert key r).lookup key = some r₀ := hr₀
        rw [AList.lookup_insert] at hr₀
        cases hr₀
        exact installed_iff.mp hinst₀

theorem HoldsBut.takeRefs (h : HoldsBut [] [] s) : HoldsBut d.nextHops d.groups (s.takeRefs d) := by
  refine ⟨h.ids.congr rfl rfl rfl, h.waits, h.createCounter, fun nh => ?_, fun nhg => ?_,
    h.crm_acl_entry, h.crm_acl_counter, h.counterOid, h.counter, h.owner, h.distinct, h.entries⟩
  · show s.nextHopRefs nh + d.nextHops.count nh = _
    rw [h.nextHopRefs nh, List.count_nil, Nat.cast_zero, add_zero]
    rfl
  · show s.groupRefs nhg + d.groups.count nhg = _
    rw [h.groupRefs nhg, List.count_nil, Nat.cast_zero, add_zero]
    rfl

theorem remove_getRouterIntfsAlias (hremove : s.remove env sai key r = some (s', r', ok)) :
    (s'.unstored key r' ok).getRouterIntfsAlias = s.getRouterIntfsAlias := by
  have halias : s'.getRouterIntfsAlias = s.getRouterIntfsAlias := by
    rcases remove_cases hremove with ⟨-, rfl, -⟩ | ⟨-, s₁, r₁, ok₁, hremoved, hs', -⟩
    · rfl
    · rw [hs']
      cases hremoved with
      | kept _ => rfl
      | removed _ hranges hcounter =>
        rw [hcounter.eq.1, removeRanges_eq hranges]
        rfl
  cases ok <;> exact halias

/-- The task keeps no more than its rule holds: a rule that is not valid has no target that
was found, a valid one has one of each kind at most, and it is made without loss; the
counter of a rule whose entry is removed can be removed. -/
def TaskHolds (env : Env) (sai : Sai) (key : RuleKey) (s : St) (task : AclRuleTask) : Prop :=
  (∀ d, s.taskDraft env key task = some (d, false) → d.nextHops = [] ∧ d.groups = []) ∧
    (∀ d s₁, s.taskDraft env key task = some (d, true) → s.atCreate env sai key d = some s₁ →
      d.nextHops.length ≤ 1 ∧ d.groups.length ≤ 1 ∧ CreateHolds env sai key s₁ d) ∧
    (task = .DEL ∨ (∃ d, s.taskDraft env key task = some (d, true)) →
      ∀ r, s.rules.lookup key = some r → s.CanRemoveEntry sai key r →
        sai key .remove_acl_counter = .SUCCESS)

/-- **What one task keeps.** -/
theorem HoldsBut.task {task : AclRuleTask} (h : HoldsBut [] [] s) (hholds : TaskHolds env sai key s task)
    (hdone : TaskDone env sai key s task s') : HoldsBut [] [] s' := by
  obtain ⟨hrejected, hmade, hcounter⟩ := hholds
  cases hdone with
  | skipped => exact h
  | @rejected d hd =>
    obtain ⟨hnext, hgroup⟩ := hrejected d hd
    have htaken : HoldsBut d.nextHops d.groups (s.takeRefs d) := h.takeRefs
    rw [hnext, hgroup] at htaken
    exact htaken
  | @added d s₁ r₁ ok hd hnone hcreate =>
    obtain ⟨hnext, hgroup, hcond⟩ := hmade d _ hd (atCreate_added hnone)
    have hok : d.Ok s.getRouterIntfsAlias := draftOk_of_taskDraft hd
    refine h.takeRefs.create hok hnext hgroup (fun r₀ hr₀ => ?_) hcond hcreate
    replace hr₀ : s.rules.lookup key = some r₀ := hr₀
    rw [hnone] at hr₀
    cases hr₀
  | @replaced d s₁ s₂ r r₁ r₂ ok₁ ok hd hr hremove hcreate =>
    obtain ⟨hnext, hgroup, hcond⟩ := hmade d _ hd (atCreate_replaced hr hremove)
    have htaken : HoldsBut d.nextHops d.groups (s.takeRefs d) := h.takeRefs
    obtain ⟨hremoved, hplace⟩ := htaken.remove hr (hcounter (Or.inr ⟨d, hd⟩) r hr) hremove
    have halias := remove_getRouterIntfsAlias hremove
    replace halias : (s₁.unstored key r₁ ok₁).getRouterIntfsAlias = s.getRouterIntfsAlias := halias
    refine hremoved.create ?_ hnext hgroup hplace hcond hcreate
    rw [halias]
    exact draftOk_of_taskDraft hd
  | @deleted s₁ r r₁ ok htask htable hr hremove =>
    exact (h.remove hr (hcounter (Or.inl htask) r hr) hremove).1

/-! ### Runs -/

/-- The event is a task that keeps no more than its rule holds, or a change of interfaces
after which the targets of the installed rules are the same next hops. -/
def Holds (s : St) : Event → Prop
  | .task env sai key task => TaskHolds env sai key s task
  | .setInterfaces f =>
    ∀ key r, s.rules.lookup key = some r → s.Installed r →
      r.nextHop? f = r.nextHop? s.getRouterIntfsAlias ∧ r.group? f = r.group? s.getRouterIntfsAlias
  | .createSession _ => True
  | _ => False

theorem HoldsBut.setInterfaces {f : RouterIntfsAlias} (h : HoldsBut [] [] s)
    (hsame : ∀ key r, s.rules.lookup key = some r → s.Installed r →
      r.nextHop? f = r.nextHop? s.getRouterIntfsAlias ∧ r.group? f = r.group? s.getRouterIntfsAlias) :
    HoldsBut [] [] { s with getRouterIntfsAlias := f } := by
  have hheld : ∀ {w w' : RuleKey → AclRule → ℤ},
      (∀ key r, s.rules.lookup key = some r → s.Installed r → w key r = w' key r) →
      s.held w = s.held w' := by
    intro w w' hw
    refine Table.sum_congr fun key r hr => ?_
    by_cases hinst : s.Installed r
    · rw [if_pos hinst, if_pos hinst, hw key r hr hinst]
    · rw [if_neg hinst, if_neg hinst]
  refine ⟨h.ids.congr rfl rfl rfl, h.waits, h.createCounter, fun nh => ?_, fun nhg => ?_,
    h.crm_acl_entry, h.crm_acl_counter, h.counterOid, h.counter, h.owner, h.distinct, h.entries⟩
  · refine (h.nextHopRefs nh).trans (congrArg (· + _) (hheld fun key r hr hinst => ?_))
    rw [nextHopWeight, nextHopWeight, (hsame key r hr hinst).1]
  · refine (h.groupRefs nhg).trans (congrArg (· + _) (hheld fun key r hr hinst => ?_))
    rw [groupWeight, groupWeight, (hsame key r hr hinst).2]

/-- **What one step keeps.** -/
theorem HoldsBut.step {e : Event} (h : HoldsBut [] [] s) (hholds : Holds s e) (hstep : Step s e t) :
    HoldsBut [] [] t := by
  unfold Step at hstep
  cases e with
  | task env sai key task =>
    obtain ⟨⟨s', ok⟩, hdone, rfl⟩ := Option.map_eq_some_iff.mp hstep
    exact h.task hholds (taskDone_of_doAclRuleTask hdone)
  | setInterfaces f =>
    cases hstep
    exact h.setInterfaces hholds
  | createSession name =>
    cases hstep
    unfold createSession
    split
    · exact h
    · exact h.withMirrors
  | deleteSession env sai name => exact hholds.elim
  | activateSession env sai name => exact hholds.elim
  | deactivateSession env sai name => exact hholds.elim

theorem Initial.holdsBut (h : Initial s) : HoldsBut [] [] s := by
  have hheld : ∀ w, s.held w = 0 := fun w => by
    rw [held, h.rules]
    rfl
  have hnone : ∀ {P : Prop} key r, s.rules.lookup key = some r → P := by
    intro P key r hr
    rw [h.rules] at hr
    cases hr
  refine ⟨h.entriesOk, fun key r hr => hnone key r hr, fun key r hr => hnone key r hr,
    fun nh => ?_, fun nhg => ?_, fun table_id => ?_, fun table_id => ?_, fun oid hoid => ?_,
    fun key r hr => hnone key r hr, fun oid hoid => ?_, fun oid key r key' r' ho => hnone key r ho.1,
    fun oid hoid => ?_⟩
  · rw [h.nextHopRefs, hheld]
    rfl
  · rw [h.groupRefs, hheld]
    rfl
  · rw [h.crm_acl_entry, hheld]
  · rw [h.crm_acl_counter, hheld]
  · rw [h.asicCounters] at hoid
    exact absurd rfl hoid
  · rw [h.asicCounters] at hoid
    exact absurd rfl hoid
  · rw [h.asicEntries] at hoid
    exact absurd rfl hoid

/-- The next hop of the examples. -/
def target : Text := "10.0.0.1@Ethernet0".toList

/-- A rule that redirects packets of a protocol, with calls that may fail. -/
def setRedirect (sai : Sai) : Event :=
  .task platform sai rule1
    (.SET [attr "IP_PROTOCOL" "6", attr "REDIRECT_ACTION" "REDIRECT:10.0.0.1@Ethernet0"])

/-- All calls succeed but those for counters. -/
def noCounters : Sai := fun _ call =>
  match call with
  | .create_acl_counter => .FAILURE
  | _ => .SUCCESS

end Orchagent.Acl
