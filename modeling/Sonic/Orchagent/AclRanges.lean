/-
Orchagent/AclRanges.lean

The reference counts of ACL ranges: a range is there exactly when an entry of the ASIC uses
it, and its count is the number of these entries.

Making rules keeps the counts, for a range is taken for each range of an entry.  Removing
a rule does not: `removeRanges` returns with the first range, so that the second range of a
rule stays for ever.  And `AclRange::remove` of an array, which is called when an entry or a
second range cannot be made, does not end.  The counts are exact in every run in which no
entry with two ranges is removed.
-/
import Sonic.Orchagent.AclRun

namespace Orchagent.Acl

open Orchagent.Acl.St Transition

variable {env : Env} {sai : Sai} {key : RuleKey} {s s' s₀ t : St} {r r' : AclRule} {ok : Bool}
variable {p q : acl_range_properties_t} {ps : List acl_range_properties_t} {es : List Event}

/-! ### Counts -/

/-- An entry uses a range. -/
def usesRange (p : acl_range_properties_t) (e : AsicEntry) : ℤ := if p ∈ e.ranges then 1 else 0

/-- The number of entries that use a range. -/
def St.uses (s : St) (p : acl_range_properties_t) : ℤ :=
  Table.sum (fun _ e => usesRange p e) s.asicEntries

/-- The ranges that are there are those in use, and each counts its entries. -/
structure RangesExact (s : St) : Prop where
  held : ∀ p, s.m_ranges.lookup p ≠ none ↔
    ∃ oid e, s.asicEntries.lookup oid = some e ∧ p ∈ e.ranges
  count : ∀ p range, s.m_ranges.lookup p = some range → range.m_refCnt = s.uses p

/-- The form of `RangesExact` that the operations keep. -/
structure RangeCounts (s : St) : Prop where
  count : ∀ p, s.refCnt p = s.uses p
  pos : ∀ p, s.m_ranges.lookup p ≠ none → 0 < s.refCnt p

theorem usesRange_nonneg {e : AsicEntry} : 0 ≤ usesRange p e := by
  unfold usesRange
  split <;> decide

theorem uses_pos : 0 < s.uses p ↔ ∃ oid e, s.asicEntries.lookup oid = some e ∧ p ∈ e.ranges := by
  constructor
  · intro h
    obtain ⟨oid, e, he, hpos⟩ := Table.exists_of_sum_pos h
    refine ⟨oid, e, he, ?_⟩
    by_contra hnot
    rw [usesRange, if_neg hnot] at hpos
    exact absurd hpos (lt_irrefl _)
  · rintro ⟨oid, e, he, hp⟩
    have hle := Table.le_sum (f := fun _ e => usesRange p e) (fun _ _ _ => usesRange_nonneg) he
    rw [usesRange, if_pos hp] at hle
    exact lt_of_lt_of_le zero_lt_one hle

theorem RangeCounts.exact (h : RangeCounts s) : RangesExact s := by
  refine ⟨fun p => ?_, fun p range hp => ?_⟩
  · rw [← uses_pos, ← h.count]
    refine ⟨h.pos p, fun hpos hnone => ?_⟩
    rw [refCnt, hnone] at hpos
    exact absurd hpos (lt_irrefl _)
  · rw [← h.count, refCnt, hp]
    rfl

theorem RangeCounts.congr (h : RangeCounts s) (hranges : s'.m_ranges = s.m_ranges)
    (hentries : s'.asicEntries = s.asicEntries) : RangeCounts s' := by
  refine ⟨fun p => ?_, fun p hp => ?_⟩
  · rw [refCnt, uses, hranges, hentries]
    exact h.count p
  · rw [refCnt, hranges]
    rw [hranges] at hp
    exact h.pos p hp

/-! ### Taking ranges -/

theorem refCnt_takeRange : (s.takeRange p).refCnt q = s.refCnt q + if q = p then 1 else 0 := by
  show (((s.m_ranges.insert p ⟨s.rangeOid p, s.refCnt p + 1⟩).lookup q).map AclRange.m_refCnt).getD 0 = _
  rw [Table.lookup_insert_eq]
  split
  · next h =>
      subst h
      rfl
  · rw [add_zero]
    rfl

/-- Each of some ranges that are distinct is taken once. -/
theorem refCnt_takeRanges (hnodup : ps.Nodup) :
    (s.takeRanges ps).refCnt q = s.refCnt q + if q ∈ ps then 1 else 0 := by
  induction ps generalizing s with
  | nil => exact (add_zero _).symm
  | cons p ps ih =>
    obtain ⟨hp, hps⟩ := List.nodup_cons.mp hnodup
    show ((s.takeRange p).takeRanges ps).refCnt q = _
    rw [ih hps, refCnt_takeRange]
    by_cases hq : q = p
    · subst hq
      rw [if_pos rfl, if_neg hp, if_pos List.mem_cons_self, add_zero]
    · rw [if_neg hq, add_zero]
      simp only [List.mem_cons, hq, false_or]

theorem lookup_takeRanges (h : (s.takeRanges ps).m_ranges.lookup q ≠ none) :
    s.m_ranges.lookup q ≠ none ∨ q ∈ ps := by
  induction ps generalizing s with
  | nil => exact Or.inl h
  | cons p ps ih =>
    rcases ih (s := s.takeRange p) h with hq | hq
    · replace hq : (s.m_ranges.insert p ⟨s.rangeOid p, s.refCnt p + 1⟩).lookup q ≠ none := hq
      rw [Table.lookup_insert_eq] at hq
      split at hq
      · next heq => exact Or.inr (heq ▸ List.mem_cons_self)
      · exact Or.inl hq
    · exact Or.inr (List.mem_cons_of_mem _ hq)

theorem uses_insert {oid : sai_object_id_t} {e : AsicEntry} {entries : Table sai_object_id_t AsicEntry}
    (hfresh : entries.lookup oid = none) :
    Table.sum (fun _ e => usesRange p e) (entries.insert oid e)
      = Table.sum (fun _ e => usesRange p e) entries + usesRange p e := by
  rw [Table.sum_insert, hfresh]
  exact sub_zero _

theorem refCnt_beforeEntry :
    (s.beforeEntry key r).refCnt p = s.refCnt p + if p ∈ r.ranges then 1 else 0 := by
  unfold beforeEntry
  rw [refCnt_takeRanges AclRule.ranges_nodup]
  refine congrArg (· + _) ?_
  rw [refCnt, takeCounter_eq]
  rfl

/-- A rule that is made takes as many ranges as its entry uses. -/
theorem refCnt_sub_uses_created (hs : EntriesOk s)
    (hcreated : Created env sai key s r s' r' ok) :
    s'.refCnt p - s'.uses p = s.refCnt p - s.uses p := by
  have hcounter : (s.takeCounter key r).refCnt p - (s.takeCounter key r).uses p
      = s.refCnt p - s.uses p := by
    rw [takeCounter_eq]
    rfl
  cases hcreated with
  | noCounter _ => rfl
  | noRange _ _ _ => exact hcounter
  | noEntry _ _ _ => exact hcounter
  | created _ _ =>
    have hfresh : s.asicEntries.lookup (s.beforeEntry key r).nextOid = none := by
      by_contra hsome
      exact absurd (hs.entryOid _ hsome).2 (not_lt.mpr beforeEntry_nextOid_le)
    show (s.beforeEntry key r).refCnt p
      - Table.sum (fun _ e => usesRange p e) ((s.beforeEntry key r).asicEntries.insert _ _) = _
    rw [refCnt_beforeEntry, beforeEntry_asicEntries, uses_insert hfresh]
    show s.refCnt p + usesRange p ⟨key.1, r.ranges⟩ - (s.uses p + usesRange p ⟨key.1, r.ranges⟩) = _
    exact add_sub_add_right_eq_sub _ _ _

/-- **Making a rule keeps the counts.** -/
theorem RangeCounts.created (h : RangeCounts s) (hs : EntriesOk s)
    (hcreated : Created env sai key s r s' r' ok) : RangeCounts s' := by
  have hcounter : RangeCounts (s.takeCounter key r) := by
    refine h.congr ?_ ?_
    · rw [takeCounter_eq]
    · rw [takeCounter_eq]
  have hcount : ∀ p, s'.refCnt p = s'.uses p := fun p => by
    have hdiff := refCnt_sub_uses_created (p := p) hs hcreated
    rw [h.count p, sub_self] at hdiff
    exact sub_eq_zero.mp hdiff
  refine ⟨hcount, ?_⟩
  cases hcreated with
  | noCounter _ => exact h.pos
  | noRange _ _ _ => exact hcounter.pos
  | noEntry _ _ _ => exact hcounter.pos
  | created _ _ =>
    intro p hp
    show 0 < (s.beforeEntry key r).refCnt p
    have hnonneg : 0 ≤ s.refCnt p := by
      rw [h.count]
      exact Table.sum_nonneg fun _ _ _ => usesRange_nonneg
    rw [refCnt_beforeEntry]
    rcases lookup_takeRanges (s := s.takeCounter key r) hp with hold | hmem
    · rw [takeCounter_eq] at hold
      have hpos := h.pos p hold
      split <;> omega
    · rw [if_pos hmem]
      omega

/-! ### Removing ranges -/

/-- The calls that remove ranges succeed. -/
def RangesRemovable (sai : Sai) (key : RuleKey) : Prop :=
  ∀ type, sai key (.remove_acl_range type) = .SUCCESS

/-- **The ranges of a rule with one range at most are released**, each of them once. -/
theorem removeRanges_spec (h : ∀ p, s.m_ranges.lookup p ≠ none → 0 < s.refCnt p) (hsai : RangesRemovable sai key)
    (hone : r.ranges.length ≤ 1) (hheld : ∀ p ∈ r.ranges, s.m_ranges.lookup p ≠ none) :
    ∃ s', s.removeRanges sai key r = some (s', true) ∧
      (∀ q, s'.refCnt q = s.refCnt q - if q ∈ r.ranges then 1 else 0) ∧
      ∀ q, s'.m_ranges.lookup q ≠ none → 0 < s'.refCnt q := by
  unfold removeRanges
  match hranges : r.ranges with
  | [] => exact ⟨s, rfl, fun q => (sub_zero _).symm, h⟩
  | p :: q :: ps =>
    rw [hranges] at hone
    exact absurd hone (by simp)
  | [p] =>
    have hp := hheld p (by rw [hranges]; exact List.mem_cons_self)
    obtain ⟨range, hrange⟩ := Option.ne_none_iff_exists'.mp hp
    have hrefCnt : s.refCnt p = range.m_refCnt := by
      rw [refCnt, hrange]
      rfl
    have hpos : 0 < range.m_refCnt := hrefCnt ▸ h p hp
    show ∃ s', s.removeRange sai key p = _ ∧ _
    unfold removeRange
    rw [hrange]
    dsimp only
    rw [if_neg (by omega)]
    by_cases hzero : range.m_refCnt - 1 = 0
    · rw [if_pos hzero, if_neg (not_not.mpr (hsai _))]
      refine ⟨_, rfl, fun q => ?_, fun q hq => ?_⟩
      · show (((s.m_ranges.erase p).lookup q).map AclRange.m_refCnt).getD 0 = _
        rw [Table.lookup_erase_eq]
        split
        · next heq =>
            subst heq
            rw [hrefCnt, if_pos List.mem_cons_self, hzero]
            rfl
        · next hne =>
            rw [if_neg fun hmem => hne (List.mem_singleton.mp hmem), sub_zero]
            rfl
      · replace hq : (s.m_ranges.erase p).lookup q ≠ none := hq
        show 0 < (((s.m_ranges.erase p).lookup q).map AclRange.m_refCnt).getD 0
        rw [Table.lookup_erase_eq] at hq ⊢
        split at hq
        · exact absurd rfl hq
        · next hne =>
            rw [if_neg hne]
            exact h q hq
    · rw [if_neg hzero]
      have hcount : ∀ q, (((s.m_ranges.insert p ⟨range.m_oid, range.m_refCnt - 1⟩).lookup q).map
          AclRange.m_refCnt).getD 0 = s.refCnt q - if q ∈ [p] then 1 else 0 := by
        intro q
        rw [Table.lookup_insert_eq]
        split
        · next heq =>
            subst heq
            rw [hrefCnt, if_pos List.mem_cons_self]
            rfl
        · next hne =>
            rw [if_neg fun hmem => hne (List.mem_singleton.mp hmem), sub_zero]
            rfl
      refine ⟨_, rfl, hcount, fun q hq => ?_⟩
      replace hq : (s.m_ranges.insert p ⟨range.m_oid, range.m_refCnt - 1⟩).lookup q ≠ none := hq
      refine lt_of_lt_of_eq ?_ (hcount q).symm
      rw [Table.lookup_insert_eq] at hq
      split at hq
      · next heq =>
          subst heq
          rw [hrefCnt, if_pos List.mem_cons_self]
          omega
      · next hne =>
          rw [if_neg fun hmem => hne (List.mem_singleton.mp hmem), sub_zero]
          exact h q hq

/-- The entry of a rule, if it is removed, has one range at most, and its range can be
removed. -/
def OneRange (sai : Sai) (key : RuleKey) (s : St) (r : AclRule) : Prop :=
  s.CanRemoveEntry sai key r → r.ranges.length ≤ 1 ∧ RangesRemovable sai key

/-- The ranges of a rule are there as long as its entry is. -/
theorem RangeCounts.held (h : RangeCounts s) (hr : RuleOk s key r)
    (hentry : s.asicEntries.lookup r.m_ruleOid ≠ none) (hp : p ∈ r.ranges) :
    s.m_ranges.lookup p ≠ none := by
  obtain ⟨e, he⟩ := Option.ne_none_iff_exists'.mp hentry
  refine (h.exact.held p).mpr ⟨r.m_ruleOid, e, he, ?_⟩
  rw [hr.entry e he]
  exact hp

/-- **Removing a rule with one range at most keeps the counts.** -/
theorem RangeCounts.removed (h : RangeCounts s) (hr : RuleOk s key r) (hone : OneRange sai key s r)
    (hremoved : Removed sai key s r s' r' ok) : RangeCounts s' := by
  cases hremoved with
  | kept _ => exact h
  | @removed s₁ s₂ r₂ res rc hcan hranges hcounter =>
    obtain ⟨hlength, hsai⟩ := hone hcan
    obtain ⟨s₃, hs₃, hcount, hpos⟩ := removeRanges_spec (s := s.afterEntry key r)
      (r := r.afterEntry) h.pos hsai hlength fun p hp => h.held hr hcan.1 hp
    rw [hranges] at hs₃
    cases hs₃
    obtain ⟨e, he⟩ := Option.ne_none_iff_exists'.mp hcan.1
    have hentries : s₁.asicEntries = s.asicEntries.erase r.m_ruleOid := by
      rw [removeRanges_eq hranges]
      rfl
    have hkept : RangeCounts s₁ := by
      refine ⟨fun p => (hcount p).trans ?_, hpos⟩
      rw [uses, hentries, Table.sum_erase, he, hr.entry e he]
      show s.refCnt p - _ = s.uses p - usesRange p _
      rw [h.count]
      rfl
    rw [hcounter.eq.1]
    exact hkept.congr rfl rfl

/-! ### Runs -/

/-- The step removes no entry of a rule with two ranges. -/
def RemovesOneRange (s : St) : Event → Prop
  | .task env sai key task =>
    task = .DEL ∨ (∃ d, s.taskDraft env key task = some (d, true)) →
      ∀ r, s.rules.lookup key = some r → OneRange sai key s r
  | .deactivateSession _ sai name | .deleteSession _ sai name =>
    ∀ key r, s.rules.lookup key = some r → r.ruleClass = .AclRuleMirror → r.m_sessionName = name →
      r.ranges.length ≤ 1 ∧ RangesRemovable sai key
  | _ => True

theorem RangeCounts.create (h : RangeCounts s) (hs : EntriesOk s)
    (hcreate : s.create env sai key r = some (s', r', ok)) : RangeCounts s' := by
  obtain ⟨s₁, hs₁, hcase⟩ := create_cases hcreate
  have h₁ : RangeCounts s₁ := by
    rw [hs₁]
    exact h.congr rfl rfl
  rcases hcase with ⟨-, rfl, -, -⟩ | ⟨-, r₁, hcreated, -⟩
  · exact h₁
  · refine h₁.created ?_ hcreated
    rw [hs₁]
    exact hs.congr rfl rfl rfl

theorem RangeCounts.remove (h : RangeCounts s) (hr : RuleOk s key r) (hone : OneRange sai key s r)
    (hremove : s.remove env sai key r = some (s', r', ok)) : RangeCounts s' := by
  rcases remove_cases hremove with ⟨-, rfl, -, -⟩ | ⟨-, s₁, r₁, ok₁, hremoved, hs', -, -, -⟩
  · exact h
  · rw [hs']
    exact (h.removed hr hone hremoved).congr rfl rfl

theorem RangeCounts.stored (h : RangeCounts s) : RangeCounts (s.stored key r ok) := by
  unfold St.stored
  split
  · exact h.congr rfl rfl
  · exact h

theorem RangeCounts.unstored (h : RangeCounts s) : RangeCounts (s.unstored key r ok) := by
  unfold St.unstored
  split <;> exact h.congr rfl rfl

theorem RangeCounts.task {task : AclRuleTask} (h : RangeCounts s) (hs : EntriesOk s)
    (hone : RemovesOneRange s (.task env sai key task)) (hdone : TaskDone env sai key s task s') :
    RangeCounts s' := by
  have htake : ∀ d, RangeCounts (s.takeRefs d) ∧ EntriesOk (s.takeRefs d) := fun d =>
    ⟨h.congr rfl rfl, hs.congr rfl rfl rfl⟩
  cases hdone with
  | skipped => exact h
  | @rejected d hd => exact (htake d).1
  | @added d s₁ r₁ ok hd hnone hcreate =>
    exact ((htake d).1.create (htake d).2 hcreate).stored
  | @replaced d s₁ s₂ r r₁ r₂ ok₁ ok hd hr hremove hcreate =>
    have hremoved : RangeCounts s₁ :=
      (htake d).1.remove ((htake d).2.ruleOk key r hr) (hone (Or.inr ⟨d, hd⟩) r hr) hremove
    have hok : EntriesOk (s₁.unstored key r₁ ok₁) :=
      (htake d).2.unstored hr (entryChange_remove hremove)
    exact (hremoved.unstored.create hok hcreate).stored
  | @deleted s₁ r r₁ ok htask htable hr hremove =>
    exact (h.remove (hs.ruleOk key r hr) (hone (Or.inl htask) r hr) hremove).unstored

/-- The condition of a notification is kept while the rules are told. -/
theorem oneRange_updateRule {name : Text} {active : Bool}
    (h : ∀ key r, s.rules.lookup key = some r → r.ruleClass = .AclRuleMirror →
      r.m_sessionName = name → r.ranges.length ≤ 1 ∧ RangesRemovable sai key)
    (hupdate : s.updateRule env sai name active key = some s') :
    ∀ key r, s'.rules.lookup key = some r → r.ruleClass = .AclRuleMirror →
      r.m_sessionName = name → r.ranges.length ≤ 1 ∧ RangesRemovable sai key := by
  rcases updateRule_cases hupdate with ⟨rfl, -⟩ | ⟨r, s₁, r₁, ok, hr, hclass, hname, rfl, hcase⟩
  · exact h
  · have hchange : EntryChange key s r s₁ r₁ := by
      rcases hcase with ⟨-, hcreate⟩ | ⟨-, hremove⟩
      · exact entryChange_create hcreate
      · exact entryChange_remove hremove
    intro key' r' hr' hclass' hname'
    replace hr' : (s₁.rules.insert key r₁).lookup key' = some r' := hr'
    rw [Table.lookup_insert_eq] at hr'
    split at hr'
    · next heq =>
        subst heq
        cases hr'
        rw [hchange.ranges]
        exact h key' r hr hclass hname
    · rw [hchange.rules] at hr'
      exact h key' r' hr' hclass' hname'

/-- **What one step keeps.** -/
theorem RangeCounts.step {e : Event} (h : RangeCounts s) (hs : EntriesOk s)
    (hone : RemovesOneRange s e) (hstep : Step s e t) : RangeCounts t := by
  -- while rules are told, the condition on them is kept as well
  let cond (s : St) : Prop :=
    match e with
    | .deactivateSession _ sai name | .deleteSession _ sai name =>
      ∀ key r, s.rules.lookup key = some r → r.ruleClass = .AclRuleMirror → r.m_sessionName = name →
        r.ranges.length ≤ 1 ∧ RangesRemovable sai key
    | _ => True
  have hcond : cond s := by
    cases e <;> first | exact hone | trivial
  refine (session_keeps (I := fun s => (RangeCounts s ∧ EntriesOk s) ∧ cond s) ⟨⟨h, hs⟩, hcond⟩ hstep
    ?_ ?_ ?_ ?_).1.1
  · rintro env sai key task s' ok rfl hdone
    have hdone := taskDone_of_doAclRuleTask hdone
    exact ⟨⟨h.task hs hone hdone, hs.task hdone⟩, trivial⟩
  · rintro f rfl
    exact ⟨⟨h.congr rfl rfl, hs.congr rfl rfl rfl⟩, trivial⟩
  · intro s m hI
    refine ⟨⟨hI.1.1.congr rfl rfl, hI.1.2.congr rfl rfl rfl⟩, ?_⟩
    cases e <;> exact hI.2
  · intro env sai name active he s s' key hI hupdate
    obtain ⟨⟨h, hs⟩, hc⟩ := hI
    rcases updateRule_cases hupdate with ⟨rfl, -⟩ | ⟨r, s₁, r₁, ok, hr, hclass, hname, hs', hcase⟩
    · exact ⟨⟨h, hs⟩, hc⟩
    · refine ⟨⟨?_, hs.updateRule hupdate⟩, ?_⟩
      · rw [hs']
        refine RangeCounts.congr (s := s₁) ?_ rfl rfl
        rcases hcase with ⟨-, hcreate⟩ | ⟨hactive, hremove⟩
        · exact h.create hs hcreate
        · refine h.remove (hs.ruleOk key r hr) (fun _ => ?_) hremove
          rcases he with ⟨-, htrue⟩ | ⟨rfl | rfl, -⟩
          · rw [htrue] at hactive
            cases hactive
          · exact hc key r hr hclass hname
          · exact hc key r hr hclass hname
      · rcases he with ⟨rfl, -⟩ | ⟨rfl | rfl, -⟩
        · trivial
        · exact oneRange_updateRule hc hupdate
        · exact oneRange_updateRule hc hupdate

theorem Initial.rangeCounts (h : Initial s) : RangeCounts s := by
  refine ⟨fun p => ?_, fun p hp => ?_⟩
  · rw [refCnt, uses, h.ranges, h.asicEntries]
    rfl
  · rw [h.ranges] at hp
    exact absurd rfl hp

/-- No call that makes a range or the entry of a rule fails once a range was taken. -/
def CreateEnds (env : Env) (sai : Sai) (key : RuleKey) (s : St) (r : AclRule) : Prop :=
  ∀ p ps, r.ranges = p :: ps → s.canCreateRange env sai key p →
    CanCreateRanges env sai key ps (s.takeRange p) ∧ sai key .create_acl_entry = .SUCCESS

/-- Then `AclRange::remove` is only called for no range, and returns. -/
theorem createRanges_ends (h : CreateEnds env sai key s r) :
    ∃ s' res, createRanges env sai key r.ranges [] s = some (s', res) ∧
      ∀ oids, res = some oids → sai key .create_acl_entry ≠ .SUCCESS →
        s'.removeRangeOids oids = some (s', false) := by
  cases hranges : r.ranges with
  | nil =>
    refine ⟨s, some [], rfl, ?_⟩
    rintro oids hoids -
    cases hoids
    rfl
  | cons p ps =>
    by_cases hcan : s.canCreateRange env sai key p
    · obtain ⟨hrest, hsai⟩ := h p ps hranges hcan
      have hall : CanCreateRanges env sai key (p :: ps) s := ⟨hcan, hrest⟩
      obtain ⟨oids, hcreate⟩ := createRanges_of_can hall
      exact ⟨_, some oids, hcreate, fun _ _ hfail => absurd hsai hfail⟩
    · refine ⟨s, none, ?_, fun oids hoids => by cases hoids⟩
      rw [createRanges, createRange_of_not hcan]
      rfl

/-- A rule that drops packets of some ports. -/
def setPorts (ranges : List (Text × Text)) : Event :=
  .task platform allSucceed rule1 (.SET (ranges ++ [attr "PACKET_ACTION" "DROP"]))

def delRule1 : Event := .task platform allSucceed rule1 .DEL

end Orchagent.Acl
