/-
Orchagent/MirrorSessions.lean

The references of mirror rules on mirror sessions.

`AclRuleMirror::create` takes a reference whether the session is active or not, and
`AclRuleMirror::remove` gives one back only if the rule is in the ASIC.  The same pair is
called when a rule is added and deleted and when its session is activated and deactivated.
So a rule that is deleted while its session is inactive keeps its reference, each
activation takes one more, and each deactivation gives one back.

Two invariants are kept apart.  `ActiveCounted`, that the rules in the ASIC are counted, is
kept by every step, so that the count never gets negative; `Counted`, that the references
are exactly the stored rules, is kept by the steps that avoid the cases above.
-/
import Sonic.Orchagent.AclRanges

namespace Orchagent.Acl

open Orchagent.Acl.St Transition

variable {env : Env} {sai : Sai} {key key' : RuleKey} {s s' s₀ t : St} {r r' r₀ : AclRule}
variable {ok active : Bool} {p q : acl_range_properties_t} {es : List Event} {name name' : Text}
variable {d : Draft} {f : RouterIntfsAlias}

/-! ### Counts -/

/-- A mirror rule that names a session. -/
def AclRule.Names (r : AclRule) (name : Text) : Prop :=
  r.ruleClass = .AclRuleMirror ∧ r.m_sessionName = name

instance : Decidable (r.Names name) := inferInstanceAs (Decidable (_ ∧ _))

def namesWeight (name : Text) (r : AclRule) : ℤ := if r.Names name then 1 else 0

def activeWeight (name : Text) (r : AclRule) : ℤ :=
  if r.Names name ∧ r.m_state = true then 1 else 0

namespace St

/-- The number of stored rules that name a session. -/
def named (s : St) (name : Text) : ℤ := Table.sum (fun _ => namesWeight name) s.rules

/-- The number of stored rules that name a session and are in the ASIC. -/
def activeRules (s : St) (name : Text) : ℤ := Table.sum (fun _ => activeWeight name) s.rules

/-- The references on a session, 0 if it is not there. -/
def sessionCount (s : St) (name : Text) : ℤ :=
  ((s.m_syncdMirrors.lookup name).map MirrorEntry.refCount).getD 0

end St

theorem namesWeight_nonneg : 0 ≤ namesWeight name r := by
  unfold namesWeight
  split <;> decide

theorem activeWeight_nonneg : 0 ≤ activeWeight name r := by
  unfold activeWeight
  split <;> decide

theorem activeWeight_le : activeWeight name r ≤ namesWeight name r := by
  unfold activeWeight namesWeight
  by_cases hnames : r.Names name
  · rw [if_pos hnames]
    split <;> decide
  · rw [if_neg hnames, if_neg fun h => hnames h.1]

theorem namesWeight_congr (hclass : r'.ruleClass = r.ruleClass)
    (hname : r'.m_sessionName = r.m_sessionName) : namesWeight name r' = namesWeight name r := by
  have hiff : r'.Names name ↔ r.Names name := by
    unfold AclRule.Names
    rw [hclass, hname]
  exact if_congr hiff rfl rfl

theorem activeWeight_inactive (h : r.m_state = false) : activeWeight name r = 0 := by
  unfold activeWeight
  rw [if_neg fun h' => by rw [h] at h'; exact Bool.noConfusion h'.2]

theorem namesWeight_other (h : r.ruleClass ≠ .AclRuleMirror) : namesWeight name r = 0 := by
  unfold namesWeight
  rw [if_neg fun h' => h h'.1]

theorem activeWeight_other (h : r.ruleClass ≠ .AclRuleMirror) : activeWeight name r = 0 := by
  unfold activeWeight
  rw [if_neg fun h' => h h'.1.1]

/-- The weight of the rule that is stored under a key. -/
def St.storedWeight (s : St) (key : RuleKey) (w : AclRule → ℤ) : ℤ :=
  ((s.rules.lookup key).map w).getD 0

theorem named_storeRule :
    (s.storeRule key r).named name
      = s.named name + namesWeight name r - s.storedWeight key (namesWeight name) :=
  Table.sum_insert

theorem named_eraseRule :
    (s.eraseRule key).named name = s.named name - s.storedWeight key (namesWeight name) :=
  Table.sum_erase

theorem activeRules_storeRule :
    (s.storeRule key r).activeRules name
      = s.activeRules name + activeWeight name r - s.storedWeight key (activeWeight name) :=
  Table.sum_insert

theorem activeRules_eraseRule :
    (s.eraseRule key).activeRules name
      = s.activeRules name - s.storedWeight key (activeWeight name) :=
  Table.sum_erase

theorem storedWeight_of {w : AclRule → ℤ} (hr : s.rules.lookup key = some r) :
    s.storedWeight key w = w r := by
  rw [storedWeight, hr]
  rfl

theorem sessionCount_setSession {session : MirrorEntry} :
    (s.setSession name session).sessionCount name' =
      if name' = name then session.refCount else s.sessionCount name' := by
  show (((s.m_syncdMirrors.insert name session).lookup name').map MirrorEntry.refCount).getD 0 = _
  rw [Table.lookup_insert_eq]
  split <;> rfl

/-! ### Rules that are counted -/

/-- A mirror rule has no redirect, and its entry if it is active. -/
def RuleMade (s : St) (r : AclRule) : Prop :=
  r.ruleClass = .AclRuleMirror →
    r.m_redirect_target_next_hop = [] ∧ r.m_redirect_target_next_hop_group = [] ∧
      (r.m_state = true → s.asicEntries.lookup r.m_ruleOid ≠ none)

/-- Every active rule has its entry and a reference on its session. -/
structure ActiveCounted (s : St) : Prop where
  entries : EntriesOk s
  ranges : ∀ p, s.uses p ≤ s.refCnt p
  made : ∀ key r, s.rules.lookup key = some r → RuleMade s r
  counted : ∀ name, s.activeRules name ≤ s.sessionCount name

/-- The references on sessions are the stored rules that name them. -/
def Counted (s : St) : Prop := ∀ name, s.sessionCount name = s.named name

/-- The entry of another rule stays. -/
theorem EntryChange.entry_other (h : EntryChange key s r s' r') (hs : EntriesOk s)
    (hr : RuleOk s key r) (hstored : s.rules.lookup key' = some r₀)
    (hother : key' ≠ key ∨ r.m_ruleOid = SAI_NULL_OBJECT_ID)
    (hentry : s.asicEntries.lookup r₀.m_ruleOid ≠ none) :
    s'.asicEntries.lookup r₀.m_ruleOid ≠ none := by
  rcases h.entries with ⟨hentries, -⟩ | ⟨hentries, -, -⟩ | ⟨hentries, -⟩
  · rw [hentries]
    exact hentry
  · rw [hentries, Table.lookup_insert_eq]
    split
    · exact Option.some_ne_none _
    · exact hentry
  · rw [hentries, Table.lookup_erase_eq]
    split
    · next heq =>
        rcases hother with hne | hnull
        · -- the two rules would share their entry
          refine absurd (hr.distinct key' r₀ hstored heq ?_) hne
          rw [← heq]
          exact hentry
        · have hpos := (hs.entryOid _ hentry).1
          rw [heq, hnull] at hpos
          exact absurd hpos (lt_irrefl _)
    · exact hentry

theorem ActiveCounted.made_other (hs : ActiveCounted s) (h : EntryChange key s r s' r')
    (hr : RuleOk s key r) (hstored : s.rules.lookup key' = some r₀)
    (hother : key' ≠ key ∨ r.m_ruleOid = SAI_NULL_OBJECT_ID) : RuleMade s' r₀ := fun hclass =>
  have hmade := hs.made key' r₀ hstored hclass
  ⟨hmade.1, hmade.2.1, fun hstate =>
    h.entry_other hs.entries hr hstored hother (hmade.2.2 hstate)⟩

/-! ### What `create` does to sessions -/

/-- What `create` of a rule does to the references on sessions. -/
structure CreateEffect (s : St) (r : AclRule) (s' : St) (r' : AclRule) : Prop where
  ranges : ∀ p, s'.uses p ≤ s'.refCnt p
  made : RuleMade s' r'
  sessionCount : ∀ name, s'.sessionCount name = s.sessionCount name + namesWeight name r
  names : ∀ name, namesWeight name r' = namesWeight name r

theorem Created.ruleClass (h : Created env sai key s r s' r' ok) :
    r'.ruleClass = r.ruleClass ∧ r'.m_sessionName = r.m_sessionName ∧ r'.m_state = r.m_state ∧
      s'.m_syncdMirrors = s.m_syncdMirrors := by
  cases h with
  | noCounter _ => exact ⟨rfl, rfl, rfl, rfl⟩
  | noRange _ _ _ =>
    rw [withCounter_eq, takeCounter_eq]
    exact ⟨rfl, rfl, rfl, rfl⟩
  | noEntry _ _ _ =>
    rw [withCounter_eq]
    refine ⟨rfl, rfl, rfl, ?_⟩
    show (s.takeCounter key r).m_syncdMirrors = _
    rw [takeCounter_eq]
  | created _ _ =>
    rw [withCounter_eq]
    exact ⟨rfl, rfl, rfl, beforeEntry_m_syncdMirrors⟩

/-- The targets of a rule that is made without any. -/
theorem Created.targets (h : Created env sai key s r s' r' ok)
    (hnext : r.m_redirect_target_next_hop = []) (hgroup : r.m_redirect_target_next_hop_group = []) :
    r'.m_redirect_target_next_hop = [] ∧ r'.m_redirect_target_next_hop_group = [] := by
  cases h with
  | noCounter _ => exact ⟨hnext, hgroup⟩
  | noRange _ _ _ =>
    rw [withCounter_eq]
    exact ⟨hnext, hgroup⟩
  | noEntry _ _ _ => exact ⟨rfl, rfl⟩
  | created _ _ =>
    rw [withCounter_eq]
    exact ⟨hnext, hgroup⟩

/-- A rule that is made has its entry, and one that is not made keeps its own. -/
theorem Created.entry (h : Created env sai key s r s' r' ok)
    (hentry : ok = true ∨ s.asicEntries.lookup r.m_ruleOid ≠ none) :
    s'.asicEntries.lookup r'.m_ruleOid ≠ none := by
  have hkept : ok = false → s.asicEntries.lookup r.m_ruleOid ≠ none := fun hok =>
    hentry.resolve_left fun htrue => by rw [hok] at htrue; cases htrue
  rcases h with hcounter | ⟨hcounter, hranges, hcan⟩ | ⟨hcounter, hranges, hsai⟩ | ⟨hcounter, hsai⟩
  · exact hkept rfl
  · rw [withCounter_eq, takeCounter_eq]
    exact hkept rfl
  · rw [withCounter_eq]
    show (s.takeCounter key r).asicEntries.lookup r.m_ruleOid ≠ none
    rw [takeCounter_eq]
    exact hkept rfl
  · show ((s.beforeEntry key r).asicEntries.insert (s.beforeEntry key r).nextOid _).lookup _ ≠ none
    rw [AList.lookup_insert]
    exact Option.some_ne_none _

theorem ActiveCounted.createMirror (h : ActiveCounted s) (hmade : RuleMade s r)
    (hclass : r.ruleClass = .AclRuleMirror)
    (hcreate : s.createMirrorRule env sai key r = some (s', r', ok)) : CreateEffect s r s' r' := by
  obtain ⟨hnext, hgroup, hentry⟩ := hmade hclass
  obtain ⟨session, hsession, hcase⟩ := createMirrorRule_cases hcreate
  have hcount : ∀ name', (s.countSession r.m_sessionName session).sessionCount name'
      = s.sessionCount name' + namesWeight name' r := by
    intro name'
    rw [countSession, sessionCount_setSession, namesWeight]
    by_cases hname : name' = r.m_sessionName
    · have hold : s.sessionCount name' = session.refCount := by
        rw [hname, sessionCount, hsession]
        rfl
      rw [if_pos hname, if_pos ⟨hclass, hname.symm⟩, hold]
    · rw [if_neg hname, if_neg fun hnames => hname hnames.2.symm, add_zero]
  rcases hcase with ⟨-, rfl, rfl, -⟩ | ⟨-, r₁, hcreated, hr'⟩
  · exact ⟨h.ranges, fun _ => ⟨hnext, hgroup, hentry⟩, hcount, fun _ => rfl⟩
  · obtain ⟨hclass₁, hname₁, hstate₁, hmirrors⟩ := hcreated.ruleClass
    have hentries : EntriesOk (s.countSession r.m_sessionName session) := h.entries.congr rfl rfl rfl
    have htargets := hcreated.targets hnext hgroup
    refine ⟨fun p => ?_, fun _ => ?_, fun name' => ?_, fun name' => ?_⟩
    · have hdiff := refCnt_sub_uses_created (p := p) hentries hcreated
      have hweak : (s.countSession r.m_sessionName session).uses p
          ≤ (s.countSession r.m_sessionName session).refCnt p := h.ranges p
      omega
    · rw [hr']
      cases ok with
      | true => exact ⟨htargets.1, htargets.2, fun _ => hcreated.entry (Or.inl rfl)⟩
      | false =>
        refine ⟨htargets.1, htargets.2, fun hstate => hcreated.entry (Or.inr ?_)⟩
        exact hentry (hstate₁.symm.trans hstate)
    · rw [sessionCount, hmirrors]
      exact hcount name'
    · rw [hr']
      cases ok with
      | true => exact namesWeight_congr hclass₁ hname₁
      | false => exact namesWeight_congr hclass₁ hname₁

/-- **What `create` does to the references on sessions**: one more for a mirror rule. -/
theorem ActiveCounted.create (h : ActiveCounted s) (hmade : RuleMade s r)
    (hcreate : s.create env sai key r = some (s', r', ok)) : CreateEffect s r s' r' := by
  by_cases hclass : r.ruleClass = .AclRuleMirror
  · have hmirror : s.createMirrorRule env sai key r = some (s', r', ok) := by
      unfold St.create at hcreate
      rw [hclass] at hcreate
      exact hcreate
    exact h.createMirror hmade hclass hmirror
  · have hplain : s' = s ∧ r' = r ∨ Created env sai key s r s' r' ok := by
      unfold St.create at hcreate
      cases hcase : r.ruleClass with
      | AclRuleMirror => exact absurd hcase hclass
      | AclRuleDTelFlowWatchListEntry =>
        rw [hcase] at hcreate
        dsimp only at hcreate
        unfold createFlowWatchList at hcreate
        split at hcreate
        · cases hcreate
          exact Or.inl ⟨rfl, rfl⟩
        · exact Or.inr (created_of_createRule hcreate)
      | AclRuleL3 | AclRuleL3V6 | AclRuleDTelDropWatchListEntry =>
        rw [hcase] at hcreate
        exact Or.inr (created_of_createRule hcreate)
    rcases hplain with ⟨rfl, rfl⟩ | hcreated
    · refine ⟨h.ranges, hmade, fun name => ?_, fun _ => rfl⟩
      rw [namesWeight_other hclass, add_zero]
    · obtain ⟨hclass₁, hname₁, hstate₁, hmirrors⟩ := hcreated.ruleClass
      have hother : r'.ruleClass ≠ .AclRuleMirror := by
        rw [hclass₁]
        exact hclass
      refine ⟨fun p => ?_, fun hmirror => absurd hmirror hother, fun name => ?_, fun name => ?_⟩
      · have hdiff := refCnt_sub_uses_created (p := p) h.entries hcreated
        have hweak := h.ranges p
        omega
      · rw [namesWeight_other hclass, add_zero, sessionCount, hmirrors]
        rfl
      · rw [namesWeight_other hclass, namesWeight_other hother]

/-! ### What `remove` does to sessions -/

/-- What `remove` of a stored rule does to the references on sessions. -/
structure RemoveEffect (s : St) (r : AclRule) (s' : St) (r' : AclRule) (ok : Bool) : Prop where
  ranges : ∀ p, s'.uses p ≤ s'.refCnt p
  made : RuleMade s' r'
  sessionCount : ∀ name, s'.sessionCount name = s.sessionCount name - activeWeight name r
  inactive : ∀ name, activeWeight name r' = 0
  names : ∀ name, namesWeight name r' = namesWeight name r
  mirror : r.ruleClass = .AclRuleMirror → ok = true

/-- No more than the ranges of a rule are released with it. -/
theorem refCnt_removeRanges_ge (h : s.removeRanges sai key r = some (s', ok)) :
    s.refCnt q - (if q ∈ r.ranges then 1 else 0) ≤ s'.refCnt q := by
  have hnonneg : ∀ P [Decidable P], (0 : ℤ) ≤ if P then 1 else 0 := by
    intro P _
    split <;> decide
  unfold removeRanges at h
  cases hranges : r.ranges with
  | nil =>
    rw [hranges] at h
    cases h
    exact sub_le_self _ (hnonneg _)
  | cons p ps =>
    rw [hranges] at h
    replace h : s.removeRange sai key p = some (s', ok) := h
    cases rangeRemoved_of_removeRange h with
    | none hp => exact sub_le_self _ (hnonneg _)
    | @kept range hp hpos ok hok hmore =>
      show _ ≤ (((s.m_ranges.insert p _).lookup q).map AclRange.m_refCnt).getD 0
      rw [Table.lookup_insert_eq]
      by_cases heq : q = p
      · rw [if_pos heq, if_pos (heq ▸ List.mem_cons_self), refCnt, heq, hp]
        exact le_refl _
      · rw [if_neg heq]
        exact sub_le_self _ (hnonneg _)
    | @removed range hp hone =>
      show _ ≤ (((s.m_ranges.erase p).lookup q).map AclRange.m_refCnt).getD 0
      rw [Table.lookup_erase_eq]
      by_cases heq : q = p
      · rw [if_pos heq, if_pos (heq ▸ List.mem_cons_self), refCnt, heq, hp, Option.map_some,
          Option.getD_some, hone]
        exact le_refl _
      · rw [if_neg heq]
        exact sub_le_self _ (hnonneg _)

/-- Every range counts its entries at least, also when a rule is removed. -/
theorem ranges_removed (hranges : ∀ p, s.uses p ≤ s.refCnt p) (hr : RuleOk s key r)
    (hremoved : Removed sai key s r s' r' ok) : ∀ p, s'.uses p ≤ s'.refCnt p := by
  cases hremoved with
  | kept h => exact hranges
  | @removed s₁ s₂ r₂ res rc hcan hremove hcounter =>
    intro p
    rw [hcounter.eq.1]
    show s₁.uses p ≤ s₁.refCnt p
    obtain ⟨e, he⟩ := Option.ne_none_iff_exists'.mp hcan.1
    have hge := refCnt_removeRanges_ge (q := p) hremove
    have huses : s₁.uses p = s.uses p - usesRange p ⟨key.1, r.ranges⟩ := by
      have hentries : s₁.asicEntries = s.asicEntries.erase r.m_ruleOid := by
        rw [removeRanges_eq hremove]
        rfl
      rw [uses, hentries, Table.sum_erase, he, hr.entry e he]
      rfl
    have hold := hranges p
    replace hge : s.refCnt p - usesRange p ⟨key.1, r.ranges⟩ ≤ s₁.refCnt p := hge
    omega

theorem Removed.ruleClass (h : Removed sai key s r s' r' ok) :
    r'.ruleClass = r.ruleClass ∧ r'.m_sessionName = r.m_sessionName ∧
      s'.m_syncdMirrors = s.m_syncdMirrors := by
  cases h with
  | kept _ => exact ⟨rfl, rfl, rfl⟩
  | @removed s₁ s₂ r₂ res rc hcan hremove hcounter =>
    rw [hcounter.eq.1, hcounter.eq.2, removeRanges_eq hremove]
    exact ⟨rfl, rfl, rfl⟩

/-- **A rule that is in the ASIC is removed**, when the calls succeed. -/
theorem removed_ok (h : ActiveCounted s) (hr : RuleOk s key r)
    (hentry : s.asicEntries.lookup r.m_ruleOid ≠ none)
    (hremoved : Removed allSucceed key s r s' r' ok) : ok = true := by
  cases hremoved with
  | kept hcan => exact absurd ⟨hentry, rfl⟩ hcan
  | @removed s₁ s₂ r₂ res rc hcan hremove hcounter =>
    have hrc : rc = true := by
      cases hcounter with
      | none _ => rfl
      | kept _ hsai => exact absurd rfl hsai
      | removed _ _ => rfl
    have hres : res = true := by
      unfold removeRanges at hremove
      cases hranges : r.afterEntry.ranges with
      | nil =>
        rw [hranges] at hremove
        cases hremove
        rfl
      | cons p ps =>
        rw [hranges] at hremove
        replace hremove : (s.afterEntry key r).removeRange allSucceed key p = some (s₁, res) :=
          hremove
        cases rangeRemoved_of_removeRange hremove with
        | none hp =>
          -- the range counts the entry of the rule
          obtain ⟨e, he⟩ := Option.ne_none_iff_exists'.mp hentry
          have huses : 0 < s.uses p := by
            refine uses_pos.mpr ⟨r.m_ruleOid, e, he, ?_⟩
            rw [hr.entry e he]
            show p ∈ r.afterEntry.ranges
            rw [hranges]
            exact List.mem_cons_self
          have hle := h.ranges p
          have hzero : s.refCnt p = 0 := by
            replace hp : s.m_ranges.lookup p = none := hp
            rw [refCnt, hp]
            rfl
          omega
        | kept hp hpos _ hok _ =>
          cases res with
          | true => rfl
          | false => exact absurd rfl (hok rfl)
        | removed hp hone => rfl
    rw [hres, hrc]
    rfl

theorem ActiveCounted.removeMirror (h : ActiveCounted s) (hr : s.rules.lookup key = some r)
    (hclass : r.ruleClass = .AclRuleMirror)
    (hremove : s.removeMirrorRule allSucceed key r = some (s', r', ok)) : RemoveEffect s r s' r' ok := by
  obtain ⟨hnext, hgroup, hentry⟩ := h.made key r hr hclass
  have hrOk := h.entries.ruleOk key r hr
  rcases removeMirrorRule_cases hremove with ⟨hstate, rfl, rfl, rfl⟩ | ⟨hstate, s₁, r₁, ok₁, hremoved, hcase⟩
  · refine ⟨h.ranges, h.made key _ hr, fun name => ?_, fun name => ?_, fun _ => rfl, fun _ => rfl⟩
    · rw [activeWeight_inactive hstate, sub_zero]
    · exact activeWeight_inactive hstate
  · have hok := removed_ok h hrOk (hentry hstate) hremoved
    obtain ⟨hclass₁, hname₁, hmirrors⟩ := hremoved.ruleClass
    rcases hcase with ⟨hfalse, -⟩ | ⟨-, hcount, rfl, rfl⟩
    · rw [hok] at hfalse
      cases hfalse
    · obtain ⟨session, hsession, -, rfl⟩ := decreaseRefCount_eq hcount
      have htargets : r₁.m_redirect_target_next_hop = [] ∧ r₁.m_redirect_target_next_hop_group = [] := by
        cases hremoved with
        | kept _ => exact ⟨hnext, hgroup⟩
        | removed _ _ hcounter =>
          rw [hcounter.eq.2]
          exact ⟨rfl, rfl⟩
      have hranges := ranges_removed h.ranges hrOk hremoved
      refine ⟨hranges, fun _ => ?_, fun name => ?_, fun name => ?_, fun name => ?_, fun _ => rfl⟩
      · exact ⟨htargets.1, htargets.2, Bool.noConfusion⟩
      · rw [sessionCount_setSession, activeWeight, hname₁]
        by_cases hname : name = r.m_sessionName
        · have hold : s.sessionCount name = session.refCount := by
            rw [hname, sessionCount, ← hmirrors, ← hname₁, hsession]
            rfl
          rw [if_pos hname, if_pos ⟨⟨hclass, hname.symm⟩, hstate⟩, hold]
        · rw [if_neg hname, if_neg fun hnames => hname hnames.1.2.symm, sub_zero, sessionCount,
            hmirrors]
          rfl
      · exact activeWeight_inactive rfl
      · exact namesWeight_congr hclass₁ hname₁

/-- **What `remove` does to the references on sessions**: one less for a rule that is in
the ASIC. -/
theorem ActiveCounted.remove (h : ActiveCounted s) (hr : s.rules.lookup key = some r)
    (hremove : s.remove env allSucceed key r = some (s', r', ok)) : RemoveEffect s r s' r' ok := by
  by_cases hclass : r.ruleClass = .AclRuleMirror
  · have hmirror : s.removeMirrorRule allSucceed key r = some (s', r', ok) := by
      unfold St.remove at hremove
      rw [hclass] at hremove
      exact hremove
    exact h.removeMirror hr hclass hmirror
  · have hplain : s' = s ∧ r' = r ∨ ∃ ok₁, Removed allSucceed key s r s' r' ok₁ := by
      unfold St.remove at hremove
      cases hcase : r.ruleClass with
      | AclRuleMirror => exact absurd hcase hclass
      | AclRuleDTelFlowWatchListEntry =>
        rw [hcase] at hremove
        dsimp only at hremove
        unfold removeFlowWatchList at hremove
        split at hremove
        · cases hremove
          exact Or.inl ⟨rfl, rfl⟩
        · obtain ⟨⟨s₁, r₁, ok₁⟩, hrule, heq⟩ := Option.map_eq_some_iff.mp hremove
          refine Or.inr ⟨ok₁, ?_⟩
          dsimp only at heq
          split at heq
          · cases heq
            exact removed_of_removeRule hrule
          · cases heq
            exact removed_of_removeRule hrule
      | AclRuleL3 | AclRuleL3V6 | AclRuleDTelDropWatchListEntry =>
        rw [hcase] at hremove
        exact Or.inr ⟨ok, removed_of_removeRule hremove⟩
    rcases hplain with ⟨rfl, rfl⟩ | ⟨ok₁, hremoved⟩
    · refine ⟨h.ranges, h.made key _ hr, fun name => ?_, fun name => ?_, fun _ => rfl,
        fun hmirror => absurd hmirror hclass⟩
      · rw [activeWeight_other hclass, sub_zero]
      · exact activeWeight_other hclass
    · obtain ⟨hclass₁, hname₁, hmirrors⟩ := hremoved.ruleClass
      have hother : r'.ruleClass ≠ .AclRuleMirror := by
        rw [hclass₁]
        exact hclass
      refine ⟨ranges_removed h.ranges (h.entries.ruleOk key r hr) hremoved,
        fun hmirror => absurd hmirror hother, fun name => ?_, fun name => ?_, fun name => ?_,
        fun hmirror => absurd hmirror hclass⟩
      · rw [activeWeight_other hclass, sub_zero, sessionCount, hmirrors]
        rfl
      · exact activeWeight_other hother
      · rw [namesWeight_other hclass, namesWeight_other hother]

/-! ### Stored rules -/

theorem storedWeight_nonneg {w : AclRule → ℤ} (hw : ∀ r, 0 ≤ w r) : 0 ≤ s.storedWeight key w := by
  unfold storedWeight
  cases s.rules.lookup key with
  | none => exact le_refl _
  | some r => exact hw r

/-- What does not depend on the sessions but for their references. -/
theorem ActiveCounted.congr (h : ActiveCounted s) (hrules : s'.rules = s.rules)
    (hranges : s'.m_ranges = s.m_ranges) (hentries : s'.asicEntries = s.asicEntries)
    (hnext : s'.nextOid = s.nextOid) (hcount : ∀ name, s'.sessionCount name = s.sessionCount name) :
    ActiveCounted s' := by
  refine ⟨h.entries.congr hrules hentries hnext, fun p => ?_, fun key r hr => ?_, fun name => ?_⟩
  · rw [uses, refCnt, hranges, hentries]
    exact h.ranges p
  · rw [hrules] at hr
    rw [RuleMade, hentries]
    exact h.made key r hr
  · rw [hcount, activeRules, hrules]
    exact h.counted name

/-- A rule that was made, or told that its session is active, is stored. -/
theorem ActiveCounted.storeCreated (h : ActiveCounted s) (hr : RuleOk s key r) (hmade : RuleMade s r)
    (hcreate : s.create env sai key r = some (s', r', ok)) : ActiveCounted (s'.storeRule key r') := by
  have hchange := entryChange_create hcreate
  have heffect := h.create hmade hcreate
  refine ⟨hchange.store h.entries hr, heffect.ranges, fun key₁ r₁ hr₁ => ?_, fun name => ?_⟩
  · replace hr₁ : (s'.rules.insert key r').lookup key₁ = some r₁ := hr₁
    rw [Table.lookup_insert_eq] at hr₁
    split at hr₁
    · cases hr₁
      exact heffect.made
    · next hne =>
        rw [hchange.rules] at hr₁
        have hother := h.made_other hchange hr hr₁ (Or.inl hne)
        exact hother
  · show (s'.storeRule key r').activeRules name ≤ s'.sessionCount name
    have hle : activeWeight name r' ≤ namesWeight name r' := activeWeight_le
    have hpos : 0 ≤ s'.storedWeight key (activeWeight name) :=
      storedWeight_nonneg fun _ => activeWeight_nonneg
    have hold := h.counted name
    have hrules : s'.activeRules name = s.activeRules name := by
      rw [activeRules, hchange.rules]
      rfl
    rw [activeRules_storeRule, heffect.sessionCount, ← heffect.names, hrules]
    omega

/-- A new rule is stored if it was made. -/
theorem ActiveCounted.stored (h : ActiveCounted s) (hnew : r.m_ruleOid = SAI_NULL_OBJECT_ID)
    (hmade : RuleMade s r) (hcreate : s.create env sai key r = some (s', r', ok)) :
    ActiveCounted (s'.stored key r' ok) := by
  have hr : RuleOk s key r := h.entries.ruleOk_new hnew
  cases ok with
  | true => exact h.storeCreated hr hmade hcreate
  | false =>
    have hchange := entryChange_create hcreate
    have heffect := h.create hmade hcreate
    have hstored : EntriesOk (s'.stored key r' false) := h.entries.stored hr hchange
    refine ⟨hstored, heffect.ranges, fun key₁ r₁ hr₁ => ?_,
      fun name => ?_⟩
    · replace hr₁ : s'.rules.lookup key₁ = some r₁ := hr₁
      rw [hchange.rules] at hr₁
      exact h.made_other hchange hr hr₁ (Or.inr hnew)
    · show s'.activeRules name ≤ s'.sessionCount name
      have hpos : 0 ≤ namesWeight name r := namesWeight_nonneg
      have hold := h.counted name
      have hrules : s'.activeRules name = s.activeRules name := by
        rw [activeRules, hchange.rules]
        rfl
      rw [hrules, heffect.sessionCount]
      omega

/-- A rule that was removed, or told that its session is not active, is stored. -/
theorem ActiveCounted.storeRemoved (h : ActiveCounted s) (hr : s.rules.lookup key = some r)
    (hremove : s.remove env allSucceed key r = some (s', r', ok)) :
    ActiveCounted (s'.storeRule key r') := by
  have hchange := entryChange_remove hremove
  have heffect := h.remove hr hremove
  have hrOk := h.entries.ruleOk key r hr
  refine ⟨hchange.store h.entries hrOk, heffect.ranges, fun key₁ r₁ hr₁ => ?_, fun name => ?_⟩
  · replace hr₁ : (s'.rules.insert key r').lookup key₁ = some r₁ := hr₁
    rw [Table.lookup_insert_eq] at hr₁
    split at hr₁
    · cases hr₁
      exact heffect.made
    · next hne =>
        rw [hchange.rules] at hr₁
        have hother := h.made_other hchange hrOk hr₁ (Or.inl hne)
        exact hother
  · show (s'.storeRule key r').activeRules name ≤ s'.sessionCount name
    have hold := h.counted name
    rw [activeRules_storeRule, heffect.sessionCount, heffect.inactive, storedWeight, activeRules,
      hchange.rules, hr]
    show s.activeRules name + 0 - activeWeight name r ≤ _
    omega

theorem ActiveCounted.unstored (h : ActiveCounted s) (hr : s.rules.lookup key = some r)
    (hremove : s.remove env allSucceed key r = some (s', r', ok)) :
    ActiveCounted (s'.unstored key r' ok) := by
  have hstore := h.storeRemoved hr hremove
  cases ok with
  | false => exact hstore
  | true =>
    have hchange := entryChange_remove hremove
    have heffect := h.remove hr hremove
    have hrOk := h.entries.ruleOk key r hr
    have hunstored : EntriesOk (s'.unstored key r' true) := h.entries.unstored hr hchange
    refine ⟨hunstored, heffect.ranges, fun key₁ r₁ hr₁ => ?_,
      fun name => ?_⟩
    · replace hr₁ : (s'.rules.erase key).lookup key₁ = some r₁ := hr₁
      rw [Table.lookup_erase_eq] at hr₁
      split at hr₁
      · cases hr₁
      · next hne =>
          rw [hchange.rules] at hr₁
          have hother := h.made_other hchange hrOk hr₁ (Or.inl hne)
          exact hother
    · show (s'.eraseRule key).activeRules name ≤ s'.sessionCount name
      have hold := h.counted name
      rw [activeRules_eraseRule, heffect.sessionCount, storedWeight, activeRules, hchange.rules, hr]
      show s.activeRules name - activeWeight name r ≤ _
      omega

theorem RuleMade.new (h : d.Ok f) : RuleMade s d.rule := by
  intro hclass
  have htargets := h.noTarget (by rw [hclass]; rintro ⟨⟩) (by rw [hclass]; rintro ⟨⟩)
  refine ⟨htargets.1, htargets.2, fun hstate => ?_⟩
  rw [h.isNew.state] at hstate
  cases hstate

theorem ActiveCounted.task {task : AclRuleTask} (h : ActiveCounted s)
    (hdone : TaskDone env allSucceed key s task s') : ActiveCounted s' := by
  have htake : ∀ d, ActiveCounted (s.takeRefs d) := fun d => h.congr rfl rfl rfl rfl fun _ => rfl
  cases hdone with
  | skipped => exact h
  | @rejected d hd => exact htake d
  | @added d s₁ r₁ ok hd hnone hcreate =>
    have hok := draftOk_of_taskDraft hd
    exact (htake d).stored hok.isNew.ruleOid (RuleMade.new hok) hcreate
  | @replaced d s₁ s₂ r r₁ r₂ ok₁ ok hd hr hremove hcreate =>
    have hok := draftOk_of_taskDraft hd
    exact ((htake d).unstored hr hremove).stored hok.isNew.ruleOid (RuleMade.new hok) hcreate
  | deleted htask htable hr hremove => exact h.unstored hr hremove

theorem ActiveCounted.updateRule (h : ActiveCounted s)
    (hupdate : s.updateRule env allSucceed name active key = some s') : ActiveCounted s' := by
  rcases updateRule_cases hupdate with ⟨rfl, -⟩ | ⟨r, s₁, r₁, ok, hr, -, -, rfl, hcase⟩
  · exact h
  · rcases hcase with ⟨-, hcreate⟩ | ⟨-, hremove⟩
    · exact h.storeCreated (h.entries.ruleOk key r hr) (h.made key r hr) hcreate
    · exact h.storeRemoved hr hremove

/-! ### Exact counts -/

theorem Counted.congr (h : Counted s) (hrules : s'.rules = s.rules)
    (hcount : ∀ name, s'.sessionCount name = s.sessionCount name) : Counted s' := fun name => by
  rw [hcount, named, hrules]
  exact h name

/-- A new rule that is made is counted, unless a mirror rule was stored in its place. -/
theorem Counted.stored (h : Counted s) (hs : ActiveCounted s) (hmade : RuleMade s r)
    (hplace : ∀ name, s.storedWeight key (namesWeight name) = 0)
    (hok : r.ruleClass = .AclRuleMirror → ok = true)
    (hcreate : s.create env sai key r = some (s', r', ok)) : Counted (s'.stored key r' ok) := by
  intro name
  have heffect := hs.create hmade hcreate
  have hrules : s'.rules = s.rules := (entryChange_create hcreate).rules
  have hnamed : s'.named name = s.named name := by
    rw [named, hrules]
    rfl
  cases ok with
  | true =>
    show s'.sessionCount name = (s'.storeRule key r').named name
    rw [named_storeRule, heffect.sessionCount, heffect.names, hnamed, storedWeight, hrules, h name]
    have hzero := hplace name
    rw [storedWeight] at hzero
    rw [hzero, sub_zero]
  | false =>
    show s'.sessionCount name = s'.named name
    rw [heffect.sessionCount, hnamed, h name, namesWeight_other, add_zero]
    intro hclass
    cases hok hclass

/-- A rule whose reference is given back with it is not counted any more. -/
theorem Counted.unstored (h : Counted s) (hs : ActiveCounted s) (hr : s.rules.lookup key = some r)
    (hactive : r.ruleClass = .AclRuleMirror → r.m_state = true)
    (hremove : s.remove env allSucceed key r = some (s', r', ok)) :
    Counted (s'.unstored key r' ok) ∧
      ∀ name, (s'.unstored key r' ok).storedWeight key (namesWeight name) = 0 := by
  have heffect := hs.remove hr hremove
  have hrules : s'.rules = s.rules := (entryChange_remove hremove).rules
  have hweight : ∀ name, activeWeight name r = namesWeight name r := by
    intro name
    unfold activeWeight namesWeight
    by_cases hnames : r.Names name
    · rw [if_pos hnames, if_pos ⟨hnames, hactive hnames.1⟩]
    · rw [if_neg hnames, if_neg fun h => hnames h.1]
  cases ok with
  | true =>
    refine ⟨fun name => ?_, fun name => ?_⟩
    · show s'.sessionCount name = (s'.eraseRule key).named name
      rw [named_eraseRule, heffect.sessionCount, hweight, storedWeight, named, hrules, hr, h name]
      rfl
    · show (((s'.rules.erase key).lookup key).map (namesWeight name)).getD 0 = 0
      rw [AList.lookup_erase]
      rfl
  | false =>
    -- the removal of a mirror rule does not fail
    have hclass : r.ruleClass ≠ .AclRuleMirror := fun hclass => by cases heffect.mirror hclass
    refine ⟨fun name => ?_, fun name => ?_⟩
    · show s'.sessionCount name = (s'.storeRule key r').named name
      rw [named_storeRule, heffect.sessionCount, hweight, heffect.names, storedWeight, named, hrules,
        hr, h name, namesWeight_other hclass]
      show s.named name - 0 = s.named name + 0 - namesWeight name r
      rw [namesWeight_other hclass, add_zero]
    · show (((s'.rules.insert key r').lookup key).map (namesWeight name)).getD 0 = 0
      rw [AList.lookup_insert]
      show namesWeight name r' = 0
      rw [heffect.names, namesWeight_other hclass]

/-- A rule that is not active is told of a session that is not active any more. -/
theorem Counted.updateRule (h : Counted s) (hs : ActiveCounted s)
    (hinactive : ∀ key r, s.rules.lookup key = some r → r.Names name → r.m_state = false)
    (hupdate : s.updateRule env allSucceed name false key = some s') :
    Counted s' ∧
      (∀ key r, s'.rules.lookup key = some r → r.Names name → r.m_state = false) ∧
      ∀ name', s'.sessionCount name' = s.sessionCount name' := by
  rcases updateRule_cases hupdate with ⟨rfl, -⟩ | ⟨r, s₁, r₁, ok, hr, hclass, hname, rfl, hcase⟩
  · exact ⟨h, hinactive, fun _ => rfl⟩
  · rcases hcase with ⟨htrue, -⟩ | ⟨-, hremove⟩
    · cases htrue
    · -- nothing is done for the rule
      have hstate := hinactive key r hr ⟨hclass, hname⟩
      unfold St.remove at hremove
      rw [hclass] at hremove
      rcases removeMirrorRule_cases hremove with ⟨-, hs₁, hr₁, -⟩ | ⟨htrue, -⟩
      · rw [hs₁, hr₁]
        refine ⟨fun name' => ?_, fun key₂ r₂ hr₂ hnames => ?_, fun _ => rfl⟩
        · rw [named_storeRule, storedWeight_of hr, add_sub_cancel_right]
          exact h name'
        · replace hr₂ : (s.rules.insert key r).lookup key₂ = some r₂ := hr₂
          rw [Table.lookup_insert_eq] at hr₂
          split at hr₂
          · cases hr₂
            exact hstate
          · exact hinactive key₂ r₂ hr₂ hnames
      · rw [hstate] at htrue
        cases htrue

/-- Where no rule names the session, nothing is done. -/
theorem updateRules_of_none {keys : List RuleKey}
    (hnone : ∀ key r, s.rules.lookup key = some r → ¬ r.Names name)
    (h : updateRules env sai name active keys s = some s') : s' = s := by
  induction keys with
  | nil =>
    cases h
    rfl
  | cons key keys ih =>
    obtain ⟨s₁, hupdate, hrest⟩ := Option.bind_eq_some_iff.mp h
    rcases updateRule_cases hupdate with ⟨rfl, -⟩ | ⟨r, s₂, r₁, ok, hr, hclass, hname, -⟩
    · exact ih hrest
    · exact absurd ⟨hclass, hname⟩ (hnone key r hr)

/-! ### Runs -/

/-- The calls of a step succeed. -/
def SaiSucceeds : Event → Prop
  | .task _ sai _ _ | .deleteSession _ sai _ | .activateSession _ sai _
  | .deactivateSession _ sai _ => sai = allSucceed
  | _ => True

/-- The step takes and gives back as many references as it adds and deletes rules: it
deletes or replaces no mirror rule that is not active, it makes no mirror rule without a
range that it needs, it activates no session that rules name, and deactivates none with
active rules. -/
def Balanced (s : St) : Event → Prop
  | .task env sai key task =>
    (task = .DEL ∨ (∃ d, s.taskDraft env key task = some (d, true)) →
      ∀ r, s.rules.lookup key = some r → r.ruleClass = .AclRuleMirror → r.m_state = true) ∧
    ∀ d s₁, s.taskDraft env key task = some (d, true) → s.atCreate env sai key d = some s₁ →
      d.rule.ruleClass = .AclRuleMirror → ∀ p ps, d.rule.ranges = p :: ps →
        s₁.canCreateRange env sai key p
  | .activateSession _ _ name => ∀ key r, s.rules.lookup key = some r → ¬ r.Names name
  | .deactivateSession _ _ name =>
    ∀ key r, s.rules.lookup key = some r → r.Names name → r.m_state = false
  | _ => True

/-- A mirror rule whose range can be had is made, when the calls succeed. -/
theorem create_mirror_ok (hclass : r.ruleClass = .AclRuleMirror)
    (hcan : ∀ p ps, r.ranges = p :: ps → s.canCreateRange env allSucceed key p)
    (hcreate : s.create env allSucceed key r = some (s', r', ok)) : ok = true := by
  unfold St.create at hcreate
  rw [hclass] at hcreate
  obtain ⟨session, -, hcase⟩ := createMirrorRule_cases hcreate
  rcases hcase with ⟨-, -, -, hok⟩ | ⟨-, r₁, hcreated, -⟩
  · exact hok
  · cases hcreated with
    | noCounter hcounter => exact absurd (fun _ => rfl) hcounter
    | noRange _ hranges hnot =>
      refine absurd ?_ hnot
      have hrange := hcan _ _ hranges
      unfold canCreateRange at hrange ⊢
      rw [takeCounter_eq]
      exact hrange
    | noEntry _ _ hsai => exact absurd rfl hsai
    | created _ _ => rfl

theorem Counted.task {task : AclRuleTask} (h : Counted s) (hs : ActiveCounted s)
    (hbalanced : Balanced s (.task env allSucceed key task))
    (hdone : TaskDone env allSucceed key s task s') : Counted s' := by
  have htake : ∀ d, Counted (s.takeRefs d) ∧ ActiveCounted (s.takeRefs d) := fun d =>
    ⟨h.congr rfl fun _ => rfl, hs.congr rfl rfl rfl rfl fun _ => rfl⟩
  obtain ⟨hactive, hranges⟩ := hbalanced
  cases hdone with
  | skipped => exact h
  | @rejected d hd => exact (htake d).1
  | @added d s₁ r₁ ok hd hnone hcreate =>
    refine (htake d).1.stored (htake d).2 (RuleMade.new (draftOk_of_taskDraft hd)) (fun name => ?_)
      (fun hclass => ?_) hcreate
    · show ((s.rules.lookup key).map (namesWeight name)).getD 0 = 0
      rw [hnone]
      rfl
    · exact create_mirror_ok hclass (hranges d (s.takeRefs d) hd (atCreate_added hnone) hclass) hcreate
  | @replaced d s₁ s₂ r r₁ r₂ ok₁ ok hd hr hremove hcreate =>
    obtain ⟨hcounted, hplace⟩ :=
      (htake d).1.unstored (htake d).2 hr (hactive (Or.inr ⟨d, hd⟩) r hr) hremove
    refine hcounted.stored ((htake d).2.unstored hr hremove)
      (RuleMade.new (draftOk_of_taskDraft hd)) hplace (fun hclass => ?_) hcreate
    exact create_mirror_ok hclass
      (hranges d (s₁.unstored key r₁ ok₁) hd (atCreate_replaced hr hremove) hclass) hcreate
  | @deleted s₁ r r₁ ok htask htable hr hremove =>
    exact (h.unstored hs hr (hactive (Or.inl htask) r hr) hremove).1

/-- No rule names a session without references. -/
theorem Counted.not_names (h : Counted s) (hzero : s.sessionCount name = 0) :
    ∀ key r, s.rules.lookup key = some r → ¬ r.Names name := by
  intro key r hr hnames
  have hle := Table.le_sum (f := fun _ => namesWeight name) (fun _ _ _ => namesWeight_nonneg) hr
  have hone : namesWeight name r = 1 := if_pos hnames
  have hcount := h name
  rw [hzero, named] at hcount
  rw [hone, ← hcount] at hle
  exact absurd hle (by decide)

/-- **What one step keeps.** -/
theorem counted_step {e : Event} (h : Counted s) (hs : ActiveCounted s) (hsai : SaiSucceeds e)
    (hbalanced : Balanced s e) (hstep : Step s e t) : Counted t ∧ ActiveCounted t := by
  have hsame : ∀ {s t : St}, Counted s ∧ ActiveCounted s → t.rules = s.rules →
      t.m_ranges = s.m_ranges → t.asicEntries = s.asicEntries → t.nextOid = s.nextOid →
      (∀ name, t.sessionCount name = s.sessionCount name) → Counted t ∧ ActiveCounted t :=
    fun hs hrules hranges hentries hnext hcount =>
      ⟨hs.1.congr hrules hcount, hs.2.congr hrules hranges hentries hnext hcount⟩
  -- the session of a name is stored with the references that it had
  have hset : ∀ {s : St} {name session} b, s.m_syncdMirrors.lookup name = some session →
      ∀ name', (s.setSession name ⟨b, session.refCount⟩).sessionCount name' = s.sessionCount name' := by
    intro s name session b hsession name'
    rw [sessionCount_setSession]
    split
    · next heq =>
        rw [heq, sessionCount, hsession]
        rfl
    · rfl
  unfold Step at hstep
  cases e with
  | task env sai key task =>
    obtain ⟨⟨s', ok⟩, hdone, rfl⟩ := Option.map_eq_some_iff.mp hstep
    cases hsai
    have hdone := taskDone_of_doAclRuleTask hdone
    exact ⟨h.task hs hbalanced hdone, hs.task hdone⟩
  | setInterfaces f =>
    cases hstep
    exact hsame ⟨h, hs⟩ rfl rfl rfl rfl fun _ => rfl
  | createSession name =>
    cases hstep
    unfold createSession
    split
    · exact ⟨h, hs⟩
    · next hnot =>
        refine hsame ⟨h, hs⟩ rfl rfl rfl rfl fun name' => ?_
        rw [sessionCount_setSession]
        split
        · next heq =>
            have hnone : s.m_syncdMirrors.lookup name = none :=
              Option.not_isSome_iff_eq_none.mp hnot
            rw [heq, sessionCount, hnone]
            rfl
        · rfl
  | activateSession env sai name =>
    replace hstep : s.activateSession env sai name = some t := hstep
    unfold activateSession at hstep
    cases hsession : s.m_syncdMirrors.lookup name with
    | none =>
      rw [hsession] at hstep
      cases hstep
    | some session =>
      rw [hsession] at hstep
      dsimp only at hstep
      split at hstep
      · cases hstep
      · have hnothing := updateRules_of_none
          (s := s.setSession name ⟨true, session.refCount⟩) hbalanced hstep
        rw [hnothing]
        exact hsame ⟨h, hs⟩ rfl rfl rfl rfl (hset true hsession)
  | deactivateSession env sai name =>
    replace hstep : s.deactivateSession env sai name = some t := hstep
    cases hsai
    unfold deactivateSession at hstep
    cases hsession : s.m_syncdMirrors.lookup name with
    | none =>
      rw [hsession] at hstep
      cases hstep
    | some session =>
      rw [hsession] at hstep
      dsimp only at hstep
      split at hstep
      · cases hstep
      · obtain ⟨s₁, hrules, rfl⟩ := Option.map_eq_some_iff.mp hstep
        have hinv := updateRules_keeps (I := fun s => Counted s ∧ ActiveCounted s ∧
            ∀ key r, s.rules.lookup key = some r → r.Names name → r.m_state = false)
          (fun hI hupdate =>
            have hnext := hI.1.updateRule hI.2.1 hI.2.2 hupdate
            ⟨hnext.1, hI.2.1.updateRule hupdate, hnext.2.1⟩) ⟨h, hs, hbalanced⟩ hrules
        unfold setInactive
        cases hsession₁ : s₁.m_syncdMirrors.lookup name with
        | none => exact ⟨hinv.1, hinv.2.1⟩
        | some session₁ =>
          exact hsame ⟨hinv.1, hinv.2.1⟩ rfl rfl rfl rfl (hset false hsession₁)
  | deleteSession env sai name =>
    obtain ⟨⟨s', status⟩, hdelete, rfl⟩ := Option.map_eq_some_iff.mp hstep
    unfold deleteSession at hdelete
    cases hsession : s.m_syncdMirrors.lookup name with
    | none =>
      rw [hsession] at hdelete
      cases hdelete
      exact ⟨h, hs⟩
    | some session =>
      rw [hsession] at hdelete
      dsimp only at hdelete
      split at hdelete
      · cases hdelete
        exact ⟨h, hs⟩
      · next hzero =>
          rw [not_not] at hzero
          have hcount : s.sessionCount name = 0 := by
            rw [sessionCount, hsession]
            exact hzero
          have hnone := h.not_names hcount
          obtain ⟨s₁, hs₁, heq⟩ := Option.map_eq_some_iff.mp hdelete
          cases heq
          have hcounted : (Counted s₁ ∧ ActiveCounted s₁) ∧ s₁.sessionCount name = 0 := by
            split at hs₁
            · unfold deactivateSession at hs₁
              rw [hsession] at hs₁
              dsimp only at hs₁
              split at hs₁
              · cases hs₁
              · obtain ⟨s₂, hrules, rfl⟩ := Option.map_eq_some_iff.mp hs₁
                rw [updateRules_of_none hnone hrules]
                unfold setInactive
                rw [hsession]
                refine ⟨hsame ⟨h, hs⟩ rfl rfl rfl rfl (hset false hsession), ?_⟩
                exact (hset false hsession name).trans hcount
            · cases hs₁
              exact ⟨⟨h, hs⟩, hcount⟩
          refine hsame hcounted.1 rfl rfl rfl rfl fun name' => ?_
          show (((s₁.m_syncdMirrors.erase name).lookup name').map MirrorEntry.refCount).getD 0 = _
          rw [Table.lookup_erase_eq]
          split
          · next heq =>
              rw [heq, hcounted.2]
              rfl
          · rfl

theorem Initial.activeCounted (h : Initial s) : ActiveCounted s := by
  refine ⟨h.entriesOk, fun p => ?_, fun key r hr => ?_, fun name => ?_⟩
  · exact (h.rangeCounts.count p).ge
  · rw [h.rules] at hr
    cases hr
  · have hzero : s.sessionCount name = 0 := by
      unfold sessionCount
      cases hsession : s.m_syncdMirrors.lookup name with
      | none => rfl
      | some session => exact h.refCount name session hsession
    rw [hzero, activeRules, h.rules]
    exact le_refl _

/-! ### No exceptions -/

theorem decreaseNextHopRefCount_of_nil (hnext : r.m_redirect_target_next_hop = [])
    (hgroup : r.m_redirect_target_next_hop_group = []) :
    s.decreaseNextHopRefCount r = some (s, r) := by
  rw [decreaseNextHopRefCount, releaseNextHop, if_pos hnext, Option.bind_some, releaseGroup,
    if_pos hgroup]

/-- The ranges of an entry are released without an exception. -/
theorem removeRanges_isSome (hpos : ∀ p ∈ r.ranges, 0 < s.refCnt p) :
    (s.removeRanges sai key r).isSome := by
  unfold removeRanges
  cases hranges : r.ranges with
  | nil => rfl
  | cons p ps =>
    have hp := hpos p (by rw [hranges]; exact List.mem_cons_self)
    show (s.removeRange sai key p).isSome
    unfold removeRange
    cases hlookup : s.m_ranges.lookup p with
    | none => rfl
    | some range =>
      rw [refCnt, hlookup] at hp
      replace hp : 0 < range.m_refCnt := hp
      dsimp only
      rw [if_neg (by omega)]
      split
      · split <;> rfl
      · rfl

/-- **The removal of a stored mirror rule does not throw.** -/
theorem remove_mirror_isSome (h : ActiveCounted s) (hr : s.rules.lookup key = some r)
    (hclass : r.ruleClass = .AclRuleMirror) : (s.remove env allSucceed key r).isSome := by
  obtain ⟨hnext, hgroup, hentry⟩ := h.made key r hr hclass
  have hrOk := h.entries.ruleOk key r hr
  unfold St.remove
  rw [hclass]
  show (s.removeMirrorRule allSucceed key r).isSome
  unfold removeMirrorRule
  cases hstate : r.m_state with
  | false => rfl
  | true =>
    have hrule : (s.removeRule allSucceed key r).isSome := by
      have hrelease : (s.eraseEntry key r).decreaseNextHopRefCount
          { r with m_ruleOid := SAI_NULL_OBJECT_ID }
          = some (s.eraseEntry key r, { r with m_ruleOid := SAI_NULL_OBJECT_ID }) :=
        decreaseNextHopRefCount_of_nil hnext hgroup
      unfold removeRule
      rw [if_neg fun hor => hor.elim (hentry hstate) (absurd rfl), hrelease, Option.bind_some,
        Option.isSome_map]
      refine removeRanges_isSome fun p hp => ?_
      -- the entry of the rule is still counted
      obtain ⟨e, he⟩ := Option.ne_none_iff_exists'.mp (hentry hstate)
      have huses : 0 < s.uses p := by
        refine uses_pos.mpr ⟨r.m_ruleOid, e, he, ?_⟩
        rw [hrOk.entry e he]
        exact hp
      exact lt_of_lt_of_le huses (h.ranges p)
    obtain ⟨⟨s₁, r₁, ok⟩, hremove⟩ := Option.isSome_iff_exists.mp hrule
    rw [hremove]
    cases ok with
    | false => rfl
    | true =>
      show ((s₁.decreaseRefCount r₁.m_sessionName).map _).isSome
      rw [Option.isSome_map]
      obtain ⟨-, hname₁, hmirrors⟩ := (removed_of_removeRule hremove).ruleClass
      -- the rule itself holds a reference
      have hactive : 0 < s.sessionCount r.m_sessionName := by
        refine lt_of_lt_of_le ?_ (h.counted r.m_sessionName)
        have hle := Table.le_sum (f := fun _ => activeWeight r.m_sessionName)
          (fun _ _ _ => activeWeight_nonneg) hr
        rw [activeWeight, if_pos ⟨⟨hclass, rfl⟩, hstate⟩] at hle
        exact lt_of_lt_of_le zero_lt_one hle
      unfold decreaseRefCount
      rw [hname₁, hmirrors]
      unfold sessionCount at hactive
      cases hsession : s.m_syncdMirrors.lookup r.m_sessionName with
      | none =>
        rw [hsession] at hactive
        exact absurd hactive (lt_irrefl _)
      | some session =>
        rw [hsession] at hactive
        replace hactive : 0 < session.refCount := hactive
        dsimp only
        rw [if_neg (not_le.mpr hactive)]
        rfl

/-- No rule throws when it is told that its session is not active any more. -/
theorem updateRules_isSome {keys : List RuleKey} (h : ActiveCounted s) :
    (updateRules env allSucceed name false keys s).isSome := by
  induction keys generalizing s with
  | nil => rfl
  | cons key keys ih =>
    have hfirst : (s.updateRule env allSucceed name false key).isSome := by
      unfold St.updateRule
      cases hr : s.rules.lookup key with
      | none => rfl
      | some r =>
        dsimp only
        split
        · rfl
        · next hnames =>
            push Not at hnames
            have hremove : (s.remove env allSucceed key r).isSome :=
              remove_mirror_isSome h hr hnames.1
            unfold St.remove at hremove
            rw [hnames.1] at hremove
            rw [if_neg Bool.false_ne_true, Option.isSome_map]
            exact hremove
    obtain ⟨s₁, hs₁⟩ := Option.isSome_iff_exists.mp hfirst
    show ((s.updateRule env allSucceed name false key).bind _).isSome
    rw [hs₁]
    exact ih (h.updateRule hs₁)

theorem deactivateSession_isSome {session : MirrorEntry} (h : ActiveCounted s)
    (hsession : s.m_syncdMirrors.lookup name = some session) (hstatus : session.status = true) :
    (s.deactivateSession env allSucceed name).isSome := by
  unfold deactivateSession
  rw [hsession]
  dsimp only
  rw [hstatus, Bool.not_true, if_neg Bool.false_ne_true, Option.isSome_map]
  exact updateRules_isSome h

/-- **A session that no rule names is deleted.** -/
theorem deleteSession_of_none {session : MirrorEntry} (h : ActiveCounted s)
    (hsession : s.m_syncdMirrors.lookup name = some session) (hzero : session.refCount = 0) :
    ∃ s', s.deleteSession env allSucceed name = some (s', .task_success) ∧
      s'.m_syncdMirrors.lookup name = none := by
  unfold deleteSession
  rw [hsession]
  dsimp only
  rw [if_neg (not_not.mpr hzero)]
  have hdone : (if session.status = true then s.deactivateSession env allSucceed name
      else some s).isSome := by
    split
    · next hstatus => exact deactivateSession_isSome h hsession hstatus
    · rfl
  obtain ⟨s₁, hs₁⟩ := Option.isSome_iff_exists.mp hdone
  rw [hs₁]
  exact ⟨_, rfl, AList.lookup_erase _ _⟩

/-- A rule that mirrors packets of a protocol to the session. -/
def setMirror : Event :=
  .task platform allSucceed rule1
    (.SET [attr "IP_PROTOCOL" "6", attr "MIRROR_ACTION" "SESSION"])

def session : Text := "SESSION".toList

end Orchagent.Acl
