/-
Orchagent/AclSteps.lean

What the operations on ACL rules do, said once.

`Created` and `Removed` list the ways out of `AclRule::create` and `AclRule::remove`, with
the state that each leaves behind; `created_of_createRule` and `removed_of_removeRule` say
that there are no others.  What the claims about ranges, about the resources of rules and
about mirror sessions need of these operations is derived from them.
-/
import Sonic.Orchagent.AclTask

namespace Orchagent.Acl

open Orchagent.Acl.St

variable {env : Env} {sai : Sai} {key : RuleKey} {s s' t : St} {r r' : AclRule} {ok : Bool}
variable {p q : acl_range_properties_t} {ps : List acl_range_properties_t}

/-! ### Ranges -/

theorem AclRule.ranges_nodup : r.ranges.Nodup := by
  have htype : ∀ type (m : Option MatchValue),
      ((m.map (MatchValue.properties type)).getD []).Nodup ∧
        ∀ p ∈ (m.map (MatchValue.properties type)).getD [], p.type = type := by
    intro type m
    rcases m with _ | m
    · exact ⟨List.nodup_nil, fun p hp => absurd hp List.not_mem_nil⟩
    · cases m with
      | range min max =>
        refine ⟨List.nodup_singleton _, fun p hp => ?_⟩
        rw [List.mem_singleton.mp hp]
      | value text => exact ⟨List.nodup_nil, fun p hp => absurd hp List.not_mem_nil⟩
  obtain ⟨hsrc, hsrcType⟩ := htype .L4_SRC_PORT_RANGE (r.m_matches.lookup MATCH_L4_SRC_PORT_RANGE)
  obtain ⟨hdst, hdstType⟩ := htype .L4_DST_PORT_RANGE (r.m_matches.lookup MATCH_L4_DST_PORT_RANGE)
  refine List.Nodup.append hsrc hdst fun p hp hp' => ?_
  have hne := (hsrcType p hp).symm.trans (hdstType p hp')
  cases hne

namespace St

/-- The reference count of a range, 0 if it is not there. -/
def refCnt (s : St) (p : acl_range_properties_t) : ℤ :=
  ((s.m_ranges.lookup p).map AclRange.m_refCnt).getD 0

/-- A range is there or can be made. -/
def canCreateRange (env : Env) (sai : Sai) (key : RuleKey) (s : St) (p : acl_range_properties_t) :
    Prop :=
  s.m_ranges.lookup p ≠ none ∨
    ¬ (env.mlnx ∧ MLNX_MAX_RANGES_COUNT ≤ s.m_ranges.entries.length) ∧
      sai key (.create_acl_range p.type) = .SUCCESS

def rangeOid (s : St) (p : acl_range_properties_t) : sai_object_id_t :=
  ((s.m_ranges.lookup p).map AclRange.m_oid).getD s.nextOid

/-- One more reference on a range. -/
def takeRange (s : St) (p : acl_range_properties_t) : St :=
  { s with
    m_ranges := s.m_ranges.insert p ⟨s.rangeOid p, s.refCnt p + 1⟩
    nextOid := if s.m_ranges.lookup p = none then s.nextOid + 1 else s.nextOid }

def takeRanges (s : St) (ps : List acl_range_properties_t) : St := ps.foldl takeRange s

end St

theorem createRange_of_can (h : s.canCreateRange env sai key p) :
    s.createRange env sai key p = (s.takeRange p, some (s.rangeOid p)) := by
  unfold createRange takeRange rangeOid refCnt
  cases hp : s.m_ranges.lookup p with
  | some range => simp
  | none =>
    rcases h with h | ⟨hmlnx, hsai⟩
    · exact absurd hp h
    · simp only [if_neg hmlnx, hsai]
      simp

theorem createRange_of_not (h : ¬ s.canCreateRange env sai key p) :
    s.createRange env sai key p = (s, none) := by
  have hp : s.m_ranges.lookup p = none := by
    by_contra hp
    exact h (Or.inl hp)
  unfold createRange
  rw [hp]
  by_cases hmlnx : env.mlnx ∧ MLNX_MAX_RANGES_COUNT ≤ s.m_ranges.entries.length
  · simp only [if_pos hmlnx]
  · simp only [if_neg hmlnx, if_pos fun hsai => h (Or.inr ⟨hmlnx, hsai⟩)]

/-- Ranges that are made are taken; without a range before it, one that cannot be had
changes nothing. -/
theorem createRanges_cases {oids : List sai_object_id_t}
    {res : Option (List sai_object_id_t)}
    (h : createRanges env sai key ps oids s = some (s', res)) :
    (∃ oids', res = some oids' ∧ s' = s.takeRanges ps ∧ oids'.length = oids.length + ps.length) ∨
      res = none ∧ s' = s ∧ oids = [] ∧ ∃ p ps', ps = p :: ps' ∧ ¬ s.canCreateRange env sai key p := by
  induction ps generalizing oids s with
  | nil =>
    rw [createRanges] at h
    cases h
    exact Or.inl ⟨oids, rfl, rfl, rfl⟩
  | cons p ps ih =>
    rw [createRanges] at h
    by_cases hcan : s.canCreateRange env sai key p
    · rw [createRange_of_can hcan] at h
      rcases ih h with ⟨oids', hres, hs', hlength⟩ | ⟨-, -, hnil, -⟩
      · refine Or.inl ⟨oids', hres, hs', ?_⟩
        rw [hlength, List.length_append, List.length_cons, List.length_cons, List.length_nil]
        omega
      · exact absurd hnil (List.append_ne_nil_of_right_ne_nil _ (List.cons_ne_nil _ _))
    · rw [createRange_of_not hcan] at h
      cases oids with
      | cons oid oids => cases h
      | nil =>
        cases h
        exact Or.inr ⟨rfl, rfl, rfl, p, ps, rfl, hcan⟩

/-- All ranges can be had, one after the other. -/
def CanCreateRanges (env : Env) (sai : Sai) (key : RuleKey) : List acl_range_properties_t → St → Prop
  | [], _ => True
  | p :: ps, s => s.canCreateRange env sai key p ∧ CanCreateRanges env sai key ps (s.takeRange p)

theorem createRanges_of_can {oids : List sai_object_id_t} (h : CanCreateRanges env sai key ps s) :
    ∃ oids', createRanges env sai key ps oids s = some (s.takeRanges ps, some oids') := by
  induction ps generalizing oids s with
  | nil => exact ⟨oids, rfl⟩
  | cons p ps ih =>
    rw [createRanges, createRange_of_can h.1]
    exact ih h.2

/-! ### References -/

namespace AclRule

variable (getRouterIntfsAlias : RouterIntfsAlias) (r : AclRule)

/-- The next hop that a rule refers to. -/
def nextHop? : Option NextHopKey :=
  if r.m_redirect_target_next_hop = [] then none
  else NextHopKey.ofString getRouterIntfsAlias r.m_redirect_target_next_hop

/-- The group of next hops that a rule refers to. -/
def group? : Option NextHopGroupKey :=
  if r.m_redirect_target_next_hop_group = [] then none
  else NextHopGroupKey.ofString getRouterIntfsAlias r.m_redirect_target_next_hop_group

/-- A rule without its references. -/
def clear : AclRule :=
  { r with m_redirect_target_next_hop := [], m_redirect_target_next_hop_group := [] }

end AclRule

/-- The state without the references of a rule. -/
def St.release (s : St) (r : AclRule) : St :=
  { s with
    nextHopRefs := fun nh =>
      s.nextHopRefs nh - if r.nextHop? s.getRouterIntfsAlias = some nh then 1 else 0
    groupRefs := fun nhg =>
      s.groupRefs nhg - if r.group? s.getRouterIntfsAlias = some nhg then 1 else 0 }

theorem releaseNextHop_eq {x : St × AclRule} (h : s.releaseNextHop r = some x) :
    x = ({ s with
      nextHopRefs := fun nh =>
        s.nextHopRefs nh - if r.nextHop? s.getRouterIntfsAlias = some nh then 1 else 0 },
      { r with m_redirect_target_next_hop := [] }) := by
  unfold releaseNextHop at h
  unfold AclRule.nextHop?
  by_cases hnil : r.m_redirect_target_next_hop = []
  · rw [if_pos hnil] at h
    cases h
    simp [← hnil]
  · rw [if_neg hnil] at h
    obtain ⟨nexthop, hparse, rfl⟩ := Option.map_eq_some_iff.mp h
    rw [if_neg hnil, hparse]
    have hrefs : (s.addNextHopRef nexthop (-1)).nextHopRefs
        = fun nh => s.nextHopRefs nh - if some nexthop = some nh then 1 else 0 := by
      funext nh
      show Function.update s.nextHopRefs nexthop (s.nextHopRefs nexthop + -1) nh = _
      by_cases heq : nh = nexthop
      · subst heq
        simp [Int.sub_eq_add_neg]
      · rw [Function.update_of_ne heq, if_neg fun h => heq (Option.some.inj h).symm, sub_zero]
    rw [← hrefs]
    rfl

theorem releaseGroup_eq {x : St × AclRule} (h : s.releaseGroup r = some x) :
    x = ({ s with
      groupRefs := fun nhg =>
        s.groupRefs nhg - if r.group? s.getRouterIntfsAlias = some nhg then 1 else 0 },
      { r with m_redirect_target_next_hop_group := [] }) := by
  unfold releaseGroup at h
  unfold AclRule.group?
  by_cases hnil : r.m_redirect_target_next_hop_group = []
  · rw [if_pos hnil] at h
    cases h
    simp [← hnil]
  · rw [if_neg hnil] at h
    obtain ⟨nexthops, hparse, rfl⟩ := Option.map_eq_some_iff.mp h
    rw [if_neg hnil, hparse]
    have hrefs : (s.addGroupRef nexthops (-1)).groupRefs
        = fun nhg => s.groupRefs nhg - if some nexthops = some nhg then 1 else 0 := by
      funext nhg
      show Function.update s.groupRefs nexthops (s.groupRefs nexthops + -1) nhg = _
      by_cases heq : nhg = nexthops
      · subst heq
        simp [Int.sub_eq_add_neg]
      · rw [Function.update_of_ne heq, if_neg fun h => heq (Option.some.inj h).symm, sub_zero]
    rw [← hrefs]
    rfl

/-- `decreaseNextHopRefCount` gives the references of the rule back. -/
theorem decreaseNextHopRefCount_eq {x : St × AclRule} (h : s.decreaseNextHopRefCount r = some x) :
    x = (s.release r, r.clear) := by
  obtain ⟨y, hnext, hgroup⟩ := Option.bind_eq_some_iff.mp h
  have hy := releaseNextHop_eq hnext
  subst hy
  rw [releaseGroup_eq hgroup]
  rfl

/-! ### `AclRule::create` -/

namespace St

/-- The state with the counter of a rule. -/
def takeCounter (s : St) (key : RuleKey) (r : AclRule) : St :=
  if r.m_createCounter then
    { s with
      asicCounters := s.asicCounters.insert s.nextOid key.1
      nextOid := s.nextOid + 1
      crm_acl_counter := Function.update s.crm_acl_counter key.1 (s.crm_acl_counter key.1 + 1) }
  else s

/-- The rule with its counter. -/
def withCounter (s : St) (r : AclRule) : AclRule :=
  if r.m_createCounter then { r with m_counterOid := s.nextOid } else r

/-- The state with the entry of a rule. -/
def addEntry (s : St) (key : RuleKey) (r : AclRule) : St :=
  { s with
    asicEntries := s.asicEntries.insert s.nextOid ⟨key.1, r.ranges⟩
    nextOid := s.nextOid + 1 }.addCrmEntry key.1 1

/-- The state before the entry of a rule is made. -/
def beforeEntry (s : St) (key : RuleKey) (r : AclRule) : St :=
  (s.takeCounter key r).takeRanges r.ranges

end St

/-- The counter of a rule can be made, if it is to have one. -/
def CanCreateCounter (sai : Sai) (key : RuleKey) (r : AclRule) : Prop :=
  r.m_createCounter → sai key .create_acl_counter = .SUCCESS

/-- The ways out of `AclRule::create`. -/
inductive Created (env : Env) (sai : Sai) (key : RuleKey) (s : St) (r : AclRule) :
    St → AclRule → Bool → Prop
  | noCounter (hcounter : ¬ CanCreateCounter sai key r) : Created env sai key s r s r false
  | noRange {p : acl_range_properties_t} {ps : List acl_range_properties_t} (hcounter : CanCreateCounter sai key r) (hranges : r.ranges = p :: ps)
      (hcan : ¬ (s.takeCounter key r).canCreateRange env sai key p) :
      Created env sai key s r (s.takeCounter key r) (s.withCounter r) false
  | noEntry (hcounter : CanCreateCounter sai key r) (hranges : r.ranges = [])
      (hsai : sai key .create_acl_entry ≠ .SUCCESS) :
      Created env sai key s r (((s.takeCounter key r).release (s.withCounter r)).addCrmEntry key.1 1)
        (s.withCounter r).clear false
  | created (hcounter : CanCreateCounter sai key r)
      (hsai : sai key .create_acl_entry = .SUCCESS) :
      Created env sai key s r ((s.beforeEntry key r).addEntry key r)
        { s.withCounter r with m_ruleOid := (s.beforeEntry key r).nextOid } true

theorem St.withCounter_ranges : (s.withCounter r).ranges = r.ranges := by
  unfold withCounter
  split <;> rfl

/-- The part after the counter. -/
theorem created_of_createWithCounter (hcounter : CanCreateCounter sai key r)
    (h : (s.takeCounter key r).createWithCounter env sai key (s.withCounter r) = some (s', r', ok)) :
    Created env sai key s r s' r' ok := by
  obtain ⟨⟨s₁, res⟩, hranges, hrest⟩ := Option.bind_eq_some_iff.mp h
  rw [withCounter_ranges] at hranges
  rcases createRanges_cases hranges with ⟨oids, rfl, rfl, hlength⟩ | ⟨rfl, rfl, -, p, ps, hps, hcan⟩
  · replace hrest : ((s.takeCounter key r).takeRanges r.ranges).createEntry sai key (s.withCounter r)
        oids = some (s', r', ok) := hrest
    unfold createEntry at hrest
    by_cases hsai : sai key .create_acl_entry = .SUCCESS
    · rw [if_neg (not_not.mpr hsai), withCounter_ranges] at hrest
      cases hrest
      exact .created hcounter hsai
    · rw [if_pos hsai] at hrest
      obtain ⟨⟨s₂, res⟩, hremove, hrelease⟩ := Option.bind_eq_some_iff.mp hrest
      cases oids with
      | cons oid oids => cases hremove
      | nil =>
        cases hremove
        have hnil : r.ranges = [] := by
          refine List.eq_nil_of_length_eq_zero ?_
          rw [List.length_nil] at hlength
          omega
        obtain ⟨y, hy, heq⟩ := Option.map_eq_some_iff.mp hrelease
        rw [decreaseNextHopRefCount_eq hy] at heq
        rw [hnil] at heq
        cases heq
        exact .noEntry hcounter hnil hsai
  · cases hrest
    exact .noRange hcounter hps hcan

/-- `AclRule::create` ends in one of its ways out. -/
theorem created_of_createRule (h : s.createRule env sai key r = some (s', r', ok)) :
    Created env sai key s r s' r' ok := by
  unfold createRule at h
  by_cases hcreate : r.m_createCounter = true
  · rw [if_pos hcreate] at h
    by_cases hsai : sai key .create_acl_counter = .SUCCESS
    · have hcounter : s.createCounter sai key r = (s.takeCounter key r, s.withCounter r, true) := by
        rw [createCounter, takeCounter, withCounter, if_neg (not_not.mpr hsai), if_pos hcreate,
          if_pos hcreate]
      rw [hcounter] at h
      exact created_of_createWithCounter (fun _ => hsai) h
    · have hcounter : s.createCounter sai key r = (s, r, false) := by
        rw [createCounter, if_pos hsai]
      rw [hcounter] at h
      cases h
      exact .noCounter fun hcan => hsai (hcan hcreate)
  · rw [if_neg hcreate] at h
    refine created_of_createWithCounter (fun hc => absurd hc hcreate) ?_
    rw [takeCounter, withCounter, if_neg hcreate, if_neg hcreate]
    exact h

/-! ### `AclRule::remove` -/

/-- The state after `removeRuleCounter`. -/
def St.dropCounter (s : St) (key : RuleKey) (r : AclRule) : St :=
  { s with
    asicCounters := s.asicCounters.erase r.m_counterOid
    crm_acl_counter := Function.update s.crm_acl_counter key.1 (s.crm_acl_counter key.1 - 1) }

/-- A rule has a counter that is to be removed. -/
def AclRule.HasCounter (r : AclRule) : Prop :=
  r.m_createCounter ∧ r.m_counterOid ≠ SAI_NULL_OBJECT_ID

/-- The ways out of `removeRuleCounter`. -/
inductive CounterRemoved (sai : Sai) (key : RuleKey) (s : St) (r : AclRule) :
    St → AclRule → Bool → Prop
  | none (h : ¬ r.HasCounter) : CounterRemoved sai key s r s r true
  | kept (h : r.HasCounter) (hsai : sai key .remove_acl_counter ≠ .SUCCESS) :
      CounterRemoved sai key s r s r false
  | removed (h : r.HasCounter) (hsai : sai key .remove_acl_counter = .SUCCESS) :
      CounterRemoved sai key s r (s.dropCounter key r)
        { r with m_counterOid := SAI_NULL_OBJECT_ID } true

theorem counterRemoved_of_removeRuleCounter {res : Bool} :
    ∃ s' r' rc, s.removeRuleCounter sai key r res = (s', r', res && rc) ∧
      CounterRemoved sai key s r s' r' rc := by
  unfold removeRuleCounter
  by_cases hcreate : r.m_createCounter = true
  · rw [if_pos hcreate]
    unfold removeCounter
    by_cases hnull : r.m_counterOid = SAI_NULL_OBJECT_ID
    · rw [if_pos hnull]
      exact ⟨s, r, true, rfl, .none fun h => h.2 hnull⟩
    · rw [if_neg hnull]
      by_cases hsai : sai key .remove_acl_counter = .SUCCESS
      · rw [if_neg (not_not.mpr hsai)]
        exact ⟨_, _, true, rfl, .removed ⟨hcreate, hnull⟩ hsai⟩
      · rw [if_pos hsai]
        exact ⟨s, r, false, rfl, .kept ⟨hcreate, hnull⟩ hsai⟩
  · rw [if_neg hcreate]
    exact ⟨s, r, true, by rw [Bool.and_true], .none fun h => hcreate h.1⟩

/-- The entry of a rule can be removed. -/
def St.CanRemoveEntry (s : St) (sai : Sai) (key : RuleKey) (r : AclRule) : Prop :=
  s.asicEntries.lookup r.m_ruleOid ≠ none ∧ sai key .remove_acl_entry = .SUCCESS

/-- The state without the entry of a rule and without its references. -/
def St.afterEntry (s : St) (key : RuleKey) (r : AclRule) : St := (s.eraseEntry key r).release r

/-- The rule without its entry and without its references. -/
def AclRule.afterEntry (r : AclRule) : AclRule :=
  { r with
    m_ruleOid := SAI_NULL_OBJECT_ID
    m_redirect_target_next_hop := []
    m_redirect_target_next_hop_group := [] }

/-- The ways out of `AclRule::remove`. -/
inductive Removed (sai : Sai) (key : RuleKey) (s : St) (r : AclRule) : St → AclRule → Bool → Prop
  | kept (h : ¬ s.CanRemoveEntry sai key r) : Removed sai key s r s r false
  | removed {s₁ s₂ : St} {r₂ : AclRule} {res rc : Bool} (h : s.CanRemoveEntry sai key r)
      (hranges : (s.afterEntry key r).removeRanges sai key r.afterEntry = some (s₁, res))
      (hcounter : CounterRemoved sai key s₁ r.afterEntry s₂ r₂ rc) :
      Removed sai key s r s₂ r₂ (res && rc)

theorem removed_of_removeRule (h : s.removeRule sai key r = some (s', r', ok)) :
    Removed sai key s r s' r' ok := by
  unfold removeRule at h
  by_cases hcan : s.CanRemoveEntry sai key r
  · rw [if_neg fun hor => hor.elim hcan.1 (absurd hcan.2)] at h
    obtain ⟨x, hrelease, hrest⟩ := Option.bind_eq_some_iff.mp h
    rw [decreaseNextHopRefCount_eq hrelease] at hrest
    obtain ⟨⟨s₁, res⟩, hranges, heq⟩ := Option.map_eq_some_iff.mp hrest
    obtain ⟨s₂, r₂, rc, hcounter, hremoved⟩ :
        ∃ s₂ r₂ rc, s₁.removeRuleCounter sai key r.afterEntry res = (s₂, r₂, res && rc) ∧
          CounterRemoved sai key s₁ r.afterEntry s₂ r₂ rc := counterRemoved_of_removeRuleCounter
    replace heq : s₁.removeRuleCounter sai key r.afterEntry res = (s', r', ok) := heq
    rw [hcounter] at heq
    cases heq
    exact .removed hcan hranges hremoved
  · have hor : s.asicEntries.lookup r.m_ruleOid = none ∨ sai key .remove_acl_entry ≠ .SUCCESS := by
      unfold CanRemoveEntry at hcan
      tauto
    rw [if_pos hor] at h
    cases h
    exact .kept hcan

/-! ### What is left unchanged -/

theorem takeRanges_eq :
    s.takeRanges ps =
      { s with m_ranges := (s.takeRanges ps).m_ranges, nextOid := (s.takeRanges ps).nextOid } := by
  induction ps generalizing s with
  | nil => rfl
  | cons p ps ih =>
    show (s.takeRange p).takeRanges ps = _
    rw [ih]
    rfl

theorem takeRanges_nextOid_le : s.nextOid ≤ (s.takeRanges ps).nextOid := by
  induction ps generalizing s with
  | nil => exact le_refl _
  | cons p ps ih =>
    refine le_trans ?_ (ih (s := s.takeRange p))
    show s.nextOid ≤ if s.m_ranges.lookup p = none then s.nextOid + 1 else s.nextOid
    split
    · exact Nat.le_succ _
    · exact le_refl _

theorem takeCounter_eq :
    s.takeCounter key r =
      { s with
        asicCounters := (s.takeCounter key r).asicCounters
        nextOid := (s.takeCounter key r).nextOid
        crm_acl_counter := (s.takeCounter key r).crm_acl_counter } := by
  unfold takeCounter
  split <;> rfl

theorem takeCounter_nextOid_le : s.nextOid ≤ (s.takeCounter key r).nextOid := by
  unfold takeCounter
  split
  · exact Nat.le_succ _
  · exact le_refl _

theorem withCounter_eq :
    s.withCounter r = { r with m_counterOid := (s.withCounter r).m_counterOid } := by
  unfold withCounter
  split <;> rfl

/-- The ways out of `AclRange::remove` of a range. -/
inductive RangeRemoved (sai : Sai) (key : RuleKey) (s : St) (p : acl_range_properties_t) :
    St → Bool → Prop
  | none (h : s.m_ranges.lookup p = Option.none) : RangeRemoved sai key s p s false
  | kept {range : AclRange} (h : s.m_ranges.lookup p = some range) (hpos : 1 ≤ range.m_refCnt)
      (ok : Bool) (hok : ok = false → sai key (.remove_acl_range p.type) ≠ .SUCCESS)
      (hmore : ok = true → 1 < range.m_refCnt) :
      RangeRemoved sai key s p
        { s with m_ranges := s.m_ranges.insert p ⟨range.m_oid, range.m_refCnt - 1⟩ } ok
  | removed {range : AclRange} (h : s.m_ranges.lookup p = some range) (hone : range.m_refCnt = 1) :
      RangeRemoved sai key s p { s with m_ranges := s.m_ranges.erase p } true

theorem rangeRemoved_of_removeRange (h : s.removeRange sai key p = some (s', ok)) :
    RangeRemoved sai key s p s' ok := by
  unfold removeRange at h
  cases hp : s.m_ranges.lookup p with
  | none =>
    rw [hp] at h
    cases h
    exact .none hp
  | some range =>
    rw [hp] at h
    by_cases hneg : range.m_refCnt - 1 < 0
    · simp only [if_pos hneg] at h
      cases h
    · simp only [if_neg hneg] at h
      by_cases hzero : range.m_refCnt - 1 = 0
      · simp only [if_pos hzero] at h
        by_cases hsai : sai key (.remove_acl_range p.type) = .SUCCESS
        · rw [if_neg (not_not.mpr hsai)] at h
          cases h
          exact .removed hp (by omega)
        · rw [if_pos hsai] at h
          cases h
          exact .kept hp (by omega) false (fun _ => hsai) fun h => by cases h
      · simp only [if_neg hzero] at h
        cases h
        exact .kept hp (by omega) true (fun h => by cases h) fun _ => by omega

theorem removeRange_eq (h : s.removeRange sai key p = some (s', ok)) :
    s' = { s with m_ranges := s'.m_ranges } := by
  cases rangeRemoved_of_removeRange h <;> rfl

theorem removeRanges_eq (h : s.removeRanges sai key r = some (s', ok)) :
    s' = { s with m_ranges := s'.m_ranges } := by
  unfold removeRanges at h
  cases hranges : r.ranges with
  | nil =>
    rw [hranges] at h
    cases h
    rfl
  | cons p ps =>
    rw [hranges] at h
    exact removeRange_eq h

theorem CounterRemoved.eq (h : CounterRemoved sai key s r s' r' ok) :
    s' = { s with asicCounters := s'.asicCounters, crm_acl_counter := s'.crm_acl_counter } ∧
      r' = { r with m_counterOid := r'.m_counterOid } := by
  cases h <;> exact ⟨rfl, rfl⟩

/-! ### Entries -/

/-- The entries change by that of one rule at most. -/
structure EntryChange (key : RuleKey) (s : St) (r : AclRule) (s' : St) (r' : AclRule) : Prop where
  rules : s'.rules = s.rules
  nextOid : s.nextOid ≤ s'.nextOid
  ranges : r'.ranges = r.ranges
  entries :
    s'.asicEntries = s.asicEntries ∧ r'.m_ruleOid = r.m_ruleOid ∨
    s'.asicEntries = s.asicEntries.insert r'.m_ruleOid ⟨key.1, r.ranges⟩ ∧
      s.nextOid ≤ r'.m_ruleOid ∧ r'.m_ruleOid < s'.nextOid ∨
    s'.asicEntries = s.asicEntries.erase r.m_ruleOid ∧ r'.m_ruleOid = SAI_NULL_OBJECT_ID

theorem beforeEntry_asicEntries : (s.beforeEntry key r).asicEntries = s.asicEntries := by
  unfold beforeEntry
  rw [takeRanges_eq, takeCounter_eq]

theorem beforeEntry_rules : (s.beforeEntry key r).rules = s.rules := by
  unfold beforeEntry
  rw [takeRanges_eq, takeCounter_eq]

theorem beforeEntry_m_syncdMirrors : (s.beforeEntry key r).m_syncdMirrors = s.m_syncdMirrors := by
  unfold beforeEntry
  rw [takeRanges_eq, takeCounter_eq]

theorem beforeEntry_nextOid_le : s.nextOid ≤ (s.beforeEntry key r).nextOid :=
  le_trans takeCounter_nextOid_le takeRanges_nextOid_le

theorem Created.entryChange (h : Created env sai key s r s' r' ok) : EntryChange key s r s' r' := by
  cases h with
  | noCounter hcounter => exact ⟨rfl, le_refl _, rfl, Or.inl ⟨rfl, rfl⟩⟩
  | noRange hcounter hranges hcan =>
    refine ⟨?_, takeCounter_nextOid_le, withCounter_ranges, Or.inl ⟨?_, ?_⟩⟩
    · rw [takeCounter_eq]
    · rw [takeCounter_eq]
    · rw [withCounter_eq]
  | noEntry hcounter hranges hsai =>
    refine ⟨?_, takeCounter_nextOid_le, withCounter_ranges, Or.inl ⟨?_, ?_⟩⟩
    · show (s.takeCounter key r).rules = s.rules
      rw [takeCounter_eq]
    · show (s.takeCounter key r).asicEntries = s.asicEntries
      rw [takeCounter_eq]
    · show (s.withCounter r).m_ruleOid = r.m_ruleOid
      rw [withCounter_eq]
  | created hcounter hsai =>
    refine ⟨beforeEntry_rules, le_trans beforeEntry_nextOid_le (Nat.le_succ _),
      withCounter_ranges, Or.inr (Or.inl ⟨?_, beforeEntry_nextOid_le, Nat.lt_succ_self _⟩)⟩
    show (s.beforeEntry key r).asicEntries.insert _ _ = _
    rw [beforeEntry_asicEntries]

theorem Removed.entryChange (h : Removed sai key s r s' r' ok) : EntryChange key s r s' r' := by
  cases h with
  | kept h => exact ⟨rfl, le_refl _, rfl, Or.inl ⟨rfl, rfl⟩⟩
  | removed h hranges hcounter =>
    rw [hcounter.eq.1, hcounter.eq.2, removeRanges_eq hranges]
    exact ⟨rfl, le_refl _, rfl, Or.inr (Or.inr ⟨rfl, rfl⟩)⟩

/-- `AclRule::create` changes the ids and the targets of a rule only. -/
theorem Created.rule_eq (h : Created env sai key s r s' r' ok) :
    r' = { r with
      m_ruleOid := r'.m_ruleOid
      m_counterOid := r'.m_counterOid
      m_redirect_target_next_hop := r'.m_redirect_target_next_hop
      m_redirect_target_next_hop_group := r'.m_redirect_target_next_hop_group } := by
  cases h with
  | noCounter _ => rfl
  | noRange _ _ _ =>
    rw [withCounter_eq]
  | noEntry _ _ _ =>
    rw [withCounter_eq]
    rfl
  | created _ _ =>
    rw [withCounter_eq]

/-- The entry of a rule, and of no other stored rule. -/
structure RuleOk (s : St) (key : RuleKey) (r : AclRule) : Prop where
  ruleOid : r.m_ruleOid < s.nextOid
  entry : ∀ e, s.asicEntries.lookup r.m_ruleOid = some e → e = ⟨key.1, r.ranges⟩
  distinct : ∀ key' r', s.rules.lookup key' = some r' → r'.m_ruleOid = r.m_ruleOid →
    s.asicEntries.lookup r.m_ruleOid ≠ none → key' = key

/-- The entries of the ASIC have ids, and stored rules have their own. -/
structure EntriesOk (s : St) : Prop where
  nextOid : 0 < s.nextOid
  entryOid : ∀ oid, s.asicEntries.lookup oid ≠ none → 0 < oid ∧ oid < s.nextOid
  ruleOk : ∀ key r, s.rules.lookup key = some r → RuleOk s key r

/-- A rule that is not in the ASIC yet. -/
theorem EntriesOk.ruleOk_new (h : EntriesOk s) (hnull : r.m_ruleOid = SAI_NULL_OBJECT_ID) :
    RuleOk s key r := by
  have hnone : s.asicEntries.lookup r.m_ruleOid = none := by
    rw [hnull]
    by_contra hsome
    exact absurd (h.entryOid _ hsome).1 (lt_irrefl _)
  refine ⟨?_, ?_, ?_⟩
  · rw [hnull]
    exact h.nextOid
  · intro e he
    rw [hnone] at he
    cases he
  · intro key' r' hr' hsame hsome
    exact absurd hnone hsome

variable {key' : RuleKey} {r₀ : AclRule}

/-- A rule keeps its own entry when that of another rule changes. -/
theorem EntryChange.other (h : EntryChange key s r s' r') (hs : EntriesOk s)
    (hstored : s.rules.lookup key' = some r₀) : RuleOk s' key' r₀ := by
  have hr₀ := hs.ruleOk key' r₀ hstored
  refine ⟨lt_of_lt_of_le hr₀.ruleOid h.nextOid, ?_, ?_⟩
  · intro e he
    rcases h.entries with ⟨hentries, -⟩ | ⟨hentries, hfresh, -⟩ | ⟨hentries, -⟩
    · rw [hentries] at he
      exact hr₀.entry e he
    · have holder := hr₀.ruleOid
      rw [hentries, Table.lookup_insert_eq, if_neg (lt_of_lt_of_le holder hfresh).ne] at he
      exact hr₀.entry e he
    · rw [hentries, Table.lookup_erase_eq] at he
      split at he
      · cases he
      · exact hr₀.entry e he
  · intro key₁ r₁ hr₁ hsame hsome
    rw [h.rules] at hr₁
    rcases h.entries with ⟨hentries, -⟩ | ⟨hentries, hfresh, -⟩ | ⟨hentries, -⟩
    · rw [hentries] at hsome
      exact hr₀.distinct key₁ r₁ hr₁ hsame hsome
    · have holder := hr₀.ruleOid
      rw [hentries, Table.lookup_insert_eq, if_neg (lt_of_lt_of_le holder hfresh).ne] at hsome
      exact hr₀.distinct key₁ r₁ hr₁ hsame hsome
    · rw [hentries, Table.lookup_erase_eq] at hsome
      split at hsome
      · exact absurd rfl hsome
      · exact hr₀.distinct key₁ r₁ hr₁ hsame hsome

/-- The rule that changes has the entry that it is given. -/
theorem EntryChange.self (h : EntryChange key s r s' r') (hs : EntriesOk s) (hr : RuleOk s key r) :
    RuleOk s' key r' := by
  have hzero : s.asicEntries.lookup SAI_NULL_OBJECT_ID = none := by
    by_contra hsome
    exact absurd (hs.entryOid _ hsome).1 (lt_irrefl _)
  rcases h.entries with ⟨hentries, hoid⟩ | ⟨hentries, hfresh, hlt⟩ | ⟨hentries, hoid⟩
  · refine ⟨?_, ?_, ?_⟩
    · rw [hoid]
      exact lt_of_lt_of_le hr.ruleOid h.nextOid
    · intro e he
      rw [hentries, hoid] at he
      rw [h.ranges]
      exact hr.entry e he
    · intro key' r₁ hr₁ hsame hsome
      rw [h.rules] at hr₁
      rw [hoid] at hsame
      rw [hentries, hoid] at hsome
      exact hr.distinct key' r₁ hr₁ hsame hsome
  · refine ⟨hlt, ?_, ?_⟩
    · intro e he
      rw [hentries, AList.lookup_insert] at he
      rw [h.ranges]
      exact (Option.some.inj he).symm
    · -- a stored rule has an older id
      intro key' r₁ hr₁ hsame _
      rw [h.rules] at hr₁
      have holder := (hs.ruleOk key' r₁ hr₁).ruleOid
      exact absurd hsame (lt_of_lt_of_le holder hfresh).ne
  · have hnone : s'.asicEntries.lookup r'.m_ruleOid = none := by
      rw [hentries, hoid, Table.lookup_erase_eq]
      split
      · rfl
      · exact hzero
    refine ⟨?_, ?_, ?_⟩
    · rw [hoid]
      exact lt_of_lt_of_le hs.nextOid h.nextOid
    · intro e he
      rw [hnone] at he
      cases he
    · intro key' r₁ hr₁ hsame hsome
      exact absurd hnone hsome

theorem EntryChange.entryOid (h : EntryChange key s r s' r') (hs : EntriesOk s)
    (oid : sai_object_id_t) (hoid : s'.asicEntries.lookup oid ≠ none) : 0 < oid ∧ oid < s'.nextOid := by
  have hold : ∀ {oid}, s.asicEntries.lookup oid ≠ none → 0 < oid ∧ oid < s'.nextOid := fun hoid =>
    ⟨(hs.entryOid _ hoid).1, lt_of_lt_of_le (hs.entryOid _ hoid).2 h.nextOid⟩
  rcases h.entries with ⟨hentries, -⟩ | ⟨hentries, hfresh, hlt⟩ | ⟨hentries, -⟩
  · rw [hentries] at hoid
    exact hold hoid
  · rw [hentries, Table.lookup_insert_eq] at hoid
    split at hoid
    · next heq =>
        rw [heq]
        exact ⟨lt_of_lt_of_le hs.nextOid hfresh, hlt⟩
    · exact hold hoid
  · rw [hentries, Table.lookup_erase_eq] at hoid
    split at hoid
    · exact absurd rfl hoid
    · exact hold hoid

/-- The rule that changes is stored again. -/
theorem EntryChange.store (h : EntryChange key s r s' r') (hs : EntriesOk s) (hr : RuleOk s key r) :
    EntriesOk (s'.storeRule key r') := by
  refine ⟨lt_of_lt_of_le hs.nextOid h.nextOid, h.entryOid hs, ?_⟩
  have hdistinct : ∀ key₁ r₁, RuleOk s' key₁ r₁ →
      (∀ key₂ r₂, (s'.storeRule key r').rules.lookup key₂ = some r₂ → r₂.m_ruleOid = r₁.m_ruleOid →
        s'.asicEntries.lookup r₁.m_ruleOid ≠ none → key₂ = key₁) →
      RuleOk (s'.storeRule key r') key₁ r₁ := fun key₁ r₁ hr₁ hrest => ⟨hr₁.ruleOid, hr₁.entry, hrest⟩
  have hself := h.self hs hr
  intro key₁ r₁ hr₁
  replace hr₁ : (s'.rules.insert key r').lookup key₁ = some r₁ := hr₁
  rw [Table.lookup_insert_eq] at hr₁
  split at hr₁
  · next heq =>
      subst heq
      cases hr₁
      refine hdistinct key₁ r' hself fun key₂ r₂ hr₂ hsame hsome => ?_
      replace hr₂ : (s'.rules.insert key₁ r').lookup key₂ = some r₂ := hr₂
      rw [Table.lookup_insert_eq] at hr₂
      split at hr₂
      · assumption
      · exact hself.distinct key₂ r₂ hr₂ hsame hsome
  · next hne =>
      have hstored := hr₁
      rw [h.rules] at hr₁
      have hother := h.other hs hr₁
      refine hdistinct key₁ r₁ hother fun key₂ r₂ hr₂ hsame hsome => ?_
      replace hr₂ : (s'.rules.insert key r').lookup key₂ = some r₂ := hr₂
      rw [Table.lookup_insert_eq] at hr₂
      split at hr₂
      · next heq =>
          -- the two rules share an id that has an entry
          cases hr₂
          exact absurd (hself.distinct key₁ r₁ hstored hsame.symm (by rw [hsame]; exact hsome)) hne
      · exact hother.distinct key₂ r₂ hr₂ hsame hsome

theorem EntriesOk.erase (hs : EntriesOk s) : EntriesOk (s.eraseRule key) := by
  have hsub : ∀ {key' r₀}, (s.eraseRule key).rules.lookup key' = some r₀ →
      s.rules.lookup key' = some r₀ := by
    intro key' r₀ hr₀
    replace hr₀ : (s.rules.erase key).lookup key' = some r₀ := hr₀
    rw [Table.lookup_erase_eq] at hr₀
    split at hr₀
    · cases hr₀
    · exact hr₀
  refine ⟨hs.nextOid, hs.entryOid, fun key' r₀ hr₀ => ?_⟩
  have hold := hs.ruleOk key' r₀ (hsub hr₀)
  exact ⟨hold.ruleOid, hold.entry, fun key₁ r₁ hr₁ => hold.distinct key₁ r₁ (hsub hr₁)⟩

/-! ### Rules of all classes -/

/-- `create` does nothing: the session of the rule is not there yet. -/
def St.Waits (s : St) (r : AclRule) : Prop :=
  match r.ruleClass with
  | .AclRuleMirror =>
    ∃ session, s.m_syncdMirrors.lookup r.m_sessionName = some session ∧ session.status = false
  | .AclRuleDTelFlowWatchListEntry => r.INT_enabled ∧ r.INT_session_valid = false
  | _ => False

/-- `remove` does nothing: the rule has not been made. -/
def AclRule.Waits (r : AclRule) : Prop :=
  match r.ruleClass with
  | .AclRuleMirror => r.m_state = false
  | .AclRuleDTelFlowWatchListEntry => r.INT_enabled ∧ r.INT_session_valid = false
  | _ => False

/-- The state after the session of a mirror rule is counted. -/
def St.countSession (s : St) (name : Text) (session : MirrorEntry) : St :=
  s.setSession name ⟨session.status, session.refCount + 1⟩

theorem createMirrorRule_cases (h : s.createMirrorRule env sai key r = some (s', r', ok)) :
    ∃ session, s.m_syncdMirrors.lookup r.m_sessionName = some session ∧
      (session.status = false ∧ s' = s.countSession r.m_sessionName session ∧ r' = r ∧ ok = true ∨
        session.status = true ∧ ∃ r₁,
          Created env sai key (s.countSession r.m_sessionName session) r s' r₁ ok ∧
            r' = if ok then { r₁ with m_state := true } else r₁) := by
  unfold createMirrorRule at h
  cases hsession : s.m_syncdMirrors.lookup r.m_sessionName with
  | none =>
    rw [hsession] at h
    cases h
  | some session =>
    rw [hsession] at h
    refine ⟨session, rfl, ?_⟩
    cases hstatus : session.status with
    | false =>
      simp only [hstatus] at h
      cases h
      exact Or.inl ⟨rfl, by rw [← hstatus]; rfl, rfl, rfl⟩
    | true =>
      refine Or.inr ⟨rfl, ?_⟩
      replace h : ((s.countSession r.m_sessionName session).createRule env sai key r).map
          (fun x => if x.2.2 then (x.1, { x.2.1 with m_state := true }, true) else x)
          = some (s', r', ok) := by
        rw [← h]
        simp [countSession, setSession, hstatus]
      obtain ⟨⟨s₁, r₁, ok₁⟩, hcreate, heq⟩ := Option.map_eq_some_iff.mp h
      have hcreated := created_of_createRule hcreate
      cases ok₁ with
      | false =>
        cases heq
        exact ⟨_, hcreated, rfl⟩
      | true =>
        cases heq
        exact ⟨_, hcreated, rfl⟩

theorem removeMirrorRule_cases (h : s.removeMirrorRule sai key r = some (s', r', ok)) :
    r.m_state = false ∧ s' = s ∧ r' = r ∧ ok = true ∨
      r.m_state = true ∧ ∃ s₁ r₁ ok₁, Removed sai key s r s₁ r₁ ok₁ ∧
        (ok₁ = false ∧ s' = s₁ ∧ r' = r₁ ∧ ok = false ∨
          ok₁ = true ∧ s₁.decreaseRefCount r₁.m_sessionName = some s' ∧
            r' = { r₁ with m_state := false } ∧ ok = true) := by
  unfold removeMirrorRule at h
  cases hstate : r.m_state with
  | false =>
    rw [hstate] at h
    cases h
    exact Or.inl ⟨rfl, rfl, rfl, rfl⟩
  | true =>
    rw [hstate] at h
    obtain ⟨⟨s₁, r₁, ok₁⟩, hremove, hrest⟩ := Option.bind_eq_some_iff.mp h
    refine Or.inr ⟨rfl, s₁, r₁, ok₁, removed_of_removeRule hremove, ?_⟩
    cases ok₁ with
    | false =>
      cases hrest
      exact Or.inl ⟨rfl, rfl, rfl, rfl⟩
    | true =>
      obtain ⟨s₂, hcount, heq⟩ := Option.map_eq_some_iff.mp hrest
      cases heq
      exact Or.inr ⟨rfl, hcount, rfl, rfl⟩

theorem decreaseRefCount_eq {name : Text} (h : s.decreaseRefCount name = some s') :
    ∃ session, s.m_syncdMirrors.lookup name = some session ∧ 0 < session.refCount ∧
      s' = s.setSession name ⟨session.status, session.refCount - 1⟩ := by
  unfold decreaseRefCount at h
  cases hsession : s.m_syncdMirrors.lookup name with
  | none =>
    rw [hsession] at h
    cases h
  | some session =>
    rw [hsession] at h
    refine ⟨session, rfl, ?_⟩
    by_cases hle : session.refCount ≤ 0
    · simp only [if_pos hle] at h
      cases h
    · simp only [if_neg hle] at h
      cases h
      exact ⟨not_le.mp hle, rfl⟩

/-- `create` of a rule of any class: up to the session that is counted, nothing or
`AclRule::create`. -/
theorem create_cases (h : s.create env sai key r = some (s', r', ok)) :
    ∃ s₁, s₁ = { s with m_syncdMirrors := s₁.m_syncdMirrors } ∧
      (s.Waits r ∧ s' = s₁ ∧ r' = r ∧ ok = true ∨
        ¬ s.Waits r ∧ ∃ r₁, Created env sai key s₁ r s' r₁ ok ∧
          r' = { r₁ with m_state := r'.m_state }) := by
  have hplain : ¬ s.Waits r → s.createRule env sai key r = some (s', r', ok) →
      ∃ s₁, s₁ = { s with m_syncdMirrors := s₁.m_syncdMirrors } ∧
        (s.Waits r ∧ s' = s₁ ∧ r' = r ∧ ok = true ∨
          ¬ s.Waits r ∧ ∃ r₁, Created env sai key s₁ r s' r₁ ok ∧
            r' = { r₁ with m_state := r'.m_state }) := fun hwaits h =>
    ⟨s, rfl, Or.inr ⟨hwaits, r', created_of_createRule h, rfl⟩⟩
  unfold create at h
  unfold Waits at hplain ⊢
  cases hclass : r.ruleClass with
  | AclRuleMirror =>
    simp only [hclass] at h
    obtain ⟨session, hsession, hcase⟩ := createMirrorRule_cases h
    refine ⟨s.countSession r.m_sessionName session, rfl, ?_⟩
    rcases hcase with ⟨hstatus, hs', hr', hok⟩ | ⟨hstatus, r₁, hcreated, hr'⟩
    · exact Or.inl ⟨⟨session, hsession, hstatus⟩, hs', hr', hok⟩
    · refine Or.inr ⟨?_, r₁, hcreated, ?_⟩
      · rintro ⟨session', hsession', hstatus'⟩
        rw [hsession] at hsession'
        cases hsession'
        rw [hstatus] at hstatus'
        cases hstatus'
      · rw [hr']
        split <;> rfl
  | AclRuleDTelFlowWatchListEntry =>
    simp only [hclass, createFlowWatchList] at h hplain ⊢
    by_cases hwaits : r.INT_enabled = true ∧ r.INT_session_valid = false
    · rw [if_pos (by simp [hwaits.1, hwaits.2])] at h
      cases h
      exact ⟨s, rfl, Or.inl ⟨hwaits, rfl, rfl, rfl⟩⟩
    · rw [if_neg (by simpa using hwaits)] at h
      exact hplain hwaits h
  | AclRuleL3 | AclRuleL3V6 | AclRuleDTelDropWatchListEntry =>
    simp only [hclass] at h hplain ⊢
    exact hplain not_false h

/-- `remove` of a rule of any class: nothing or `AclRule::remove`, up to the session that
is counted. -/
theorem remove_cases (h : s.remove env sai key r = some (s', r', ok)) :
    r.Waits ∧ s' = s ∧ r' = r ∧ ok = true ∨
      ¬ r.Waits ∧ ∃ s₁ r₁ ok₁, Removed sai key s r s₁ r₁ ok₁ ∧
        s' = { s₁ with m_syncdMirrors := s'.m_syncdMirrors } ∧
        r' = { r₁ with m_state := r'.m_state } ∧ (ok = true → ok₁ = true) ∧ (ok = false → r' = r₁) := by
  have hplain : ¬ r.Waits → s.removeRule sai key r = some (s', r', ok) →
      r.Waits ∧ s' = s ∧ r' = r ∧ ok = true ∨
      ¬ r.Waits ∧ ∃ s₁ r₁ ok₁, Removed sai key s r s₁ r₁ ok₁ ∧
        s' = { s₁ with m_syncdMirrors := s'.m_syncdMirrors } ∧
        r' = { r₁ with m_state := r'.m_state } ∧ (ok = true → ok₁ = true) ∧ (ok = false → r' = r₁) := fun hwaits h =>
    Or.inr ⟨hwaits, s', r', ok, removed_of_removeRule h, rfl, rfl, id, fun _ => rfl⟩
  unfold remove at h
  unfold AclRule.Waits at hplain ⊢
  cases hclass : r.ruleClass with
  | AclRuleMirror =>
    simp only [hclass] at h
    rcases removeMirrorRule_cases h with hwaits | ⟨hstate, s₁, r₁, ok₁, hremoved, hcase⟩
    · exact Or.inl hwaits
    · refine Or.inr ⟨?_, s₁, r₁, ok₁, hremoved, ?_⟩
      · rw [hstate]
        exact Bool.noConfusion
      · rcases hcase with ⟨-, rfl, rfl, rfl⟩ | ⟨rfl, hcount, rfl, rfl⟩
        · exact ⟨rfl, rfl, Bool.noConfusion, fun _ => rfl⟩
        · obtain ⟨session, -, -, rfl⟩ := decreaseRefCount_eq hcount
          exact ⟨rfl, rfl, fun _ => rfl, Bool.noConfusion⟩
  | AclRuleDTelFlowWatchListEntry =>
    simp only [hclass, removeFlowWatchList] at h hplain ⊢
    by_cases hwaits : r.INT_enabled = true ∧ r.INT_session_valid = false
    · rw [if_pos (by simp [hwaits.1, hwaits.2])] at h
      cases h
      exact Or.inl ⟨hwaits, rfl, rfl, rfl⟩
    · rw [if_neg (by simpa using hwaits)] at h
      obtain ⟨⟨s₁, r₁, ok₁⟩, hremove, heq⟩ := Option.map_eq_some_iff.mp h
      refine Or.inr ⟨hwaits, s₁, r₁, ok₁, removed_of_removeRule hremove, ?_⟩
      replace heq : (if ok₁ && r₁.INT_enabled then
          (s₁, r₁, env.decreaseINTSessionRefCount r₁.m_intSessionId)
        else (s₁, r₁, ok₁)) = (s', r', ok) := heq
      split at heq
      · next hok =>
          cases heq
          exact ⟨rfl, rfl, fun _ => ((Bool.and_eq_true _ _).mp hok).1, fun _ => rfl⟩
      · cases heq
        exact ⟨rfl, rfl, id, fun _ => rfl⟩
  | AclRuleL3 | AclRuleL3V6 | AclRuleDTelDropWatchListEntry =>
    simp only [hclass] at h hplain ⊢
    exact hplain not_false h

theorem entryChange_create (h : s.create env sai key r = some (s', r', ok)) :
    EntryChange key s r s' r' := by
  obtain ⟨s₁, hs₁, hcase⟩ := create_cases h
  rcases hcase with ⟨-, rfl, rfl, -⟩ | ⟨-, r₁, hcreated, hr'⟩
  · rw [hs₁]
    exact ⟨rfl, le_refl _, rfl, Or.inl ⟨rfl, rfl⟩⟩
  · have hchange := hcreated.entryChange
    rw [hs₁] at hchange
    rw [hr']
    exact ⟨hchange.rules, hchange.nextOid, hchange.ranges, hchange.entries⟩

theorem entryChange_remove (h : s.remove env sai key r = some (s', r', ok)) :
    EntryChange key s r s' r' := by
  rcases remove_cases h with ⟨-, rfl, rfl, -⟩ | ⟨-, s₁, r₁, ok₁, hremoved, hs', hr', -, -⟩
  · exact ⟨rfl, le_refl _, rfl, Or.inl ⟨rfl, rfl⟩⟩
  · have hchange := hremoved.entryChange
    rw [hs', hr']
    exact ⟨hchange.rules, hchange.nextOid, hchange.ranges, hchange.entries⟩

end Orchagent.Acl
