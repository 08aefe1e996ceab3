/-
Orchagent/CrmRun.lean

Runs of `CrmOrch`.

As long as no counter is counted down at zero or up at the greatest number, the used counters
are the balances of the calls that count them, and where neither the product nor the sum of a
percentage wraps, the check of the thresholds computes it and ends (`crm_utilisation`).
-/
import Sonic.Lib.RefCount
import Sonic.Lib.Transition
import Sonic.Orchagent.CrmOrch

namespace Orchagent.Crm

open Std (ExtTreeMap)
open Transition (Run Guarded Meets)
open CrmResourceType CrmThresholdType

/-! ### Runs -/

open CrmOrch

/-- What the orchs, the configuration and the timer do. -/
inductive Op
  | incRes (resource : CrmResourceType)
  | decRes (resource : CrmResourceType)
  | incAcl (resource : CrmResourceType) (stage : sai_acl_stage_t)
      (point : sai_acl_bind_point_type_t)
  | decAcl (resource : CrmResourceType) (stage : sai_acl_stage_t)
      (point : sai_acl_bind_point_type_t) (oid : UInt64)
  | incAclTable (resource : CrmResourceType) (tableId : UInt64)
  | decAclTable (resource : CrmResourceType) (tableId : UInt64)
  | configure (resource : CrmResourceType) (type : CrmThresholdType) (low high : UInt32)
  | poll (answers : Answers)
  | check

/-- The counter that an operation counts, and by how much. -/
def Op.target : Op → Option (CrmResourceType × String × ℤ)
  | .incRes resource => some (resource, CRM_COUNTERS_TABLE_KEY, 1)
  | .decRes resource => some (resource, CRM_COUNTERS_TABLE_KEY, -1)
  | .incAcl resource stage point => some (resource, getCrmAclKey stage point, 1)
  | .decAcl resource stage point _ => some (resource, getCrmAclKey stage point, -1)
  | .incAclTable resource tableId => some (resource, getCrmAclTableKey tableId, 1)
  | .decAclTable resource tableId => some (resource, getCrmAclTableKey tableId, -1)
  | _ => none

/-- The orch, the increments minus the decrements of each counter since it was made, and
whether a division by zero has ended the program. -/
structure St where
  orch : CrmOrch
  balance : CrmResourceType → String → ℤ
  crashed : Bool

namespace St

def initial : St := ⟨CrmOrch.initial, fun _ _ => 0, false⟩

/-- The balances after an operation has counted. -/
def counted (s : St) (op : Op) : CrmResourceType → String → ℤ := fun resource key =>
  match op.target with
  | some (r, k, d) => if resource = r ∧ key = k then s.balance resource key + d
      else s.balance resource key
  | none => s.balance resource key

/-- The counters of an ACL table that is gone are gone. -/
def forget (o : CrmOrch) (oid : UInt64) (balance : CrmResourceType → String → ℤ) :
    CrmResourceType → String → ℤ := fun resource key =>
  if (resource = CRM_ACL_ENTRY ∨ resource = CRM_ACL_COUNTER) ∧
      keyOf (o resource).countersMap oid = some key then 0
  else balance resource key

def step (s : St) (op : Op) : St :=
  if s.crashed then s
  else
    match op with
    | .incRes resource => ⟨s.orch.incCrmResUsedCounter resource, s.counted op, false⟩
    | .decRes resource => ⟨s.orch.decCrmResUsedCounter resource, s.counted op, false⟩
    | .incAcl resource stage point =>
      ⟨s.orch.incCrmAclUsedCounter resource stage point, s.counted op, false⟩
    | .decAcl resource stage point oid =>
      ⟨s.orch.decCrmAclUsedCounter resource stage point oid,
        if resource = CRM_ACL_TABLE then
          forget (s.orch.modify resource (getCrmAclKey stage point) dec) oid (s.counted op)
        else s.counted op, false⟩
    | .incAclTable resource tableId =>
      ⟨s.orch.incCrmAclTableUsedCounter resource tableId, s.counted op, false⟩
    | .decAclTable resource tableId =>
      ⟨s.orch.decCrmAclTableUsedCounter resource tableId, s.counted op, false⟩
    | .configure resource type low high =>
      ⟨Function.update s.orch resource { s.orch resource with
        thresholdType := type, lowThreshold := low, highThreshold := high }, s.balance, false⟩
    | .poll answers => ⟨s.orch.getResAvailableCounters answers, s.balance, false⟩
    | .check =>
      match checkCrmThresholds s.orch with
      | .ok (o, _) => ⟨o, s.balance, false⟩
      | .error .dividedByZero => ⟨s.orch, s.balance, true⟩

def Step (s : St) (op : Op) (t : St) : Prop := t = s.step op

end St

/-- The used counter under a key. -/
def CrmOrch.used (o : CrmOrch) (resource : CrmResourceType) (key : String) : UInt32 :=
  ((o resource).countersMap[key]?.getD .fresh).usedCounter

namespace St

/-- No used counter has wrapped, and nothing was divided by zero: each used counter is the
balance of its calls. -/
structure Sound (s : St) : Prop where
  used : ∀ resource key, ((s.orch.used resource key).toNat : ℤ) = s.balance resource key
  not_crashed : s.crashed = false

/-- The check of the thresholds computes the percentage of every counter. -/
structure CheckSound (s : St) : Prop where
  percentage : ∀ resource (key : String) cnt, (s.orch resource).countersMap[key]? = some cnt →
    ∃ p, percentageUtil cnt = .ok p ∧
      p.toNat = 100 * cnt.usedCounter.toNat /
        (cnt.usedCounter.toNat + cnt.availableCounter.toNat) ∧ p.toNat ≤ 100
  returns : ∃ result, checkCrmThresholds s.orch = .ok result

/-- The product and the sum of the percentage fit in 32 bits. -/
def Fits (cnt : CrmResourceCounter) : Prop :=
  cnt.usedCounter = 0 ∨ (100 * cnt.usedCounter.toNat < 2 ^ 32 ∧
    cnt.usedCounter.toNat + cnt.availableCounter.toNat < 2 ^ 32)

/-- No counter is counted down at zero or up at the greatest number, and the thresholds are
checked when every percentage fits. -/
def Clean (s : St) : Op → Prop
  | .check => ∀ resource (key : String) cnt, (s.orch resource).countersMap[key]? = some cnt → Fits cnt
  | op => ∀ resource key d, op.target = some (resource, key, d) →
      (d = -1 → s.orch.used resource key ≠ 0) ∧
      (d = 1 → s.orch.used resource key ≠ 2 ^ 32 - 1)

end St

/-! ### What an operation does to the used counters -/

namespace CrmOrch

variable {o : CrmOrch} {resource r : CrmResourceType} {key k : String}
  {f : CrmResourceCounter → CrmResourceCounter}

theorem used_modify : (o.modify resource key f).used r k =
    if r = resource ∧ k = key then (f ((o resource).countersMap[key]?.getD .fresh)).usedCounter
    else o.used r k := by
  unfold used modify
  by_cases hr : r = resource
  · subst hr
    rw [Function.update_self, ExtTreeMap.getElem?_insert]
    by_cases hk : k = key
    · subst hk
      rw [if_pos (Std.compare_eq_iff_eq.mpr rfl), if_pos ⟨rfl, rfl⟩]
      rfl
    · rw [if_neg fun h => hk (Std.compare_eq_iff_eq.mp h).symm, if_neg fun h => hk h.2]
  · rw [Function.update_of_ne hr, if_neg fun h => hr h.1]

/-- A change of other fields does not change the used counter. -/
theorem used_modify_of_eq (h : ∀ c, (f c).usedCounter = c.usedCounter) :
    (o.modify resource key f).used r k = o.used r k := by
  rw [used_modify]
  split_ifs with hrk
  · obtain ⟨rfl, rfl⟩ := hrk
    exact h _
  · rfl

theorem used_inc : (o.modify resource key inc).used r k =
    if r = resource ∧ k = key then o.used r k + 1 else o.used r k := by
  rw [used_modify]
  split_ifs with hrk
  · obtain ⟨rfl, rfl⟩ := hrk
    rfl
  · rfl

theorem used_dec : (o.modify resource key dec).used r k =
    if r = resource ∧ k = key then o.used r k - 1 else o.used r k := by
  rw [used_modify]
  split_ifs with hrk
  · obtain ⟨rfl, rfl⟩ := hrk
    rfl
  · rfl

theorem used_incCrmAclTableUsedCounter {tableId : UInt64} :
    (o.incCrmAclTableUsedCounter resource tableId).used r k =
      if r = resource ∧ k = getCrmAclTableKey tableId then o.used r k + 1 else o.used r k := by
  unfold incCrmAclTableUsedCounter
  generalize getCrmAclTableKey tableId = key
  have hid : ∀ c : CrmResourceCounter,
      CrmResourceCounter.usedCounter { c with id := tableId } = c.usedCounter := fun c => rfl
  exact (used_modify_of_eq hid).trans used_inc

theorem used_eraseTable {oid : UInt64} : (o.eraseTable oid).used r k =
    if (r = CRM_ACL_ENTRY ∨ r = CRM_ACL_COUNTER) ∧ keyOf (o r).countersMap oid = some k then 0
    else o.used r k := by
  unfold used eraseTable
  by_cases hr : r = CRM_ACL_ENTRY ∨ r = CRM_ACL_COUNTER
  · rw [if_pos hr]
    cases hkey : keyOf (o r).countersMap oid with
    | none => rw [if_neg fun h => nomatch h.2]
    | some key =>
      show ((((o r).countersMap.erase key)[k]?).getD _).usedCounter = _
      rw [ExtTreeMap.getElem?_erase]
      by_cases hk : key = k
      · subst hk
        rw [if_pos (Std.compare_eq_iff_eq.mpr rfl), if_pos ⟨hr, rfl⟩]
        rfl
      · rw [if_neg fun h => hk (Std.compare_eq_iff_eq.mp h),
          if_neg fun h => hk (Option.some.inj h.2)]
  · rw [if_neg hr, if_neg fun h => hr h.1]

/-- The used counter under a key of a map of counters. -/
def usedIn (counters : ExtTreeMap String CrmResourceCounter) (key : String) : UInt32 :=
  (counters[key]?.getD .fresh).usedCounter

/-- The answers of the ASIC about its tables leave the used counters as they are. -/
theorem usedIn_pollTables {answer : UInt64 → Option UInt32}
    {list : List (String × CrmResourceCounter)} {counters : ExtTreeMap String CrmResourceCounter}
    (h : ∀ p ∈ list, p.2.usedCounter = usedIn counters p.1) :
    usedIn (pollTables answer list counters) k = usedIn counters k := by
  induction list generalizing counters with
  | nil => rfl
  | cons p rest ih =>
    obtain ⟨key, cnt⟩ := p
    cases hanswer : answer cnt.id with
    | none =>
      rw [pollTables, hanswer]
    | some u32 =>
      have hinsert : ∀ k, usedIn (counters.insert key { cnt with availableCounter := u32 }) k =
          usedIn counters k := by
        intro k
        rw [usedIn, ExtTreeMap.getElem?_insert]
        split_ifs with hk
        · obtain rfl := Std.compare_eq_iff_eq.mp hk
          exact h _ List.mem_cons_self
        · rfl
      rw [pollTables, hanswer]
      show usedIn (pollTables answer rest _) k = _
      rw [ih fun p hp => (h p (List.mem_cons_of_mem _ hp)).trans (hinsert p.1).symm, hinsert]

theorem used_pollResource {answers : Answers} :
    (o.pollResource answers resource).used r k = o.used r k := by
  have hacl : ∀ (list : List (sai_acl_stage_t × sai_acl_bind_point_type_t × UInt32)) (o : CrmOrch),
      (list.foldl (fun o a => o.modify resource (getCrmAclKey a.1 a.2.1)
        fun c => { c with availableCounter := a.2.2 }) o).used r k = o.used r k := by
    intro list
    induction list with
    | nil => exact fun o => rfl
    | cons a list ih =>
      intro o
      rw [List.foldl_cons, ih]
      exact used_modify_of_eq fun c => rfl
  have htables : used (Function.update o resource { o resource with
      countersMap := pollTables (answers.table resource) (o resource).countersMap.toList
        (o resource).countersMap }) r k = o.used r k := by
    by_cases hr : r = resource
    · subst hr
      rw [used, Function.update_self]
      refine usedIn_pollTables fun p hp => ?_
      rw [usedIn, ExtTreeMap.mem_toList_iff_getElem?_eq_some.mp hp]
      rfl
    · rw [used, Function.update_of_ne hr]
      rfl
  unfold pollResource
  cases resource
  case CRM_ACL_TABLE =>
    simp only
    cases answers.acl CRM_ACL_TABLE with
    | none => rfl
    | some list => exact hacl list o
  case CRM_ACL_GROUP =>
    simp only
    cases answers.acl CRM_ACL_GROUP with
    | none => rfl
    | some list => exact hacl list o
  case CRM_ACL_ENTRY => exact htables
  case CRM_ACL_COUNTER => exact htables
  all_goals
    simp only
    split
    · rfl
    · exact used_modify_of_eq fun c => rfl

theorem used_getResAvailableCounters {answers : Answers} :
    (o.getResAvailableCounters answers).used r k = o.used r k := by
  unfold getResAvailableCounters
  generalize resources = list
  induction list generalizing o with
  | nil => rfl
  | cons resource list ih => rw [List.foldl_cons, ih, used_pollResource]

/-! ### The percentage -/

/-- **The percentage is right if the product and the sum do not wrap.** -/
theorem percentageUtil_of_fits {cnt : CrmResourceCounter} (h : St.Fits cnt) :
    ∃ p, percentageUtil cnt = .ok p ∧
      p.toNat = 100 * cnt.usedCounter.toNat /
        (cnt.usedCounter.toNat + cnt.availableCounter.toNat) ∧ p.toNat ≤ 100 := by
  unfold percentageUtil
  by_cases hused : cnt.usedCounter = 0
  · refine ⟨0, if_neg (not_not.mpr hused), ?_, Nat.zero_le _⟩
    rw [hused]
    exact (Nat.zero_div _).symm
  · obtain ⟨hproduct, hsum⟩ := h.resolve_left hused
    have hpos : 0 < cnt.usedCounter.toNat :=
      Nat.pos_of_ne_zero fun hzero => hused (UInt32.toNat_inj.mp hzero)
    have htoSum : (cnt.usedCounter + cnt.availableCounter).toNat =
        cnt.usedCounter.toNat + cnt.availableCounter.toNat := by
      rw [UInt32.toNat_add, Nat.mod_eq_of_lt hsum]
    have htoProduct : (cnt.usedCounter * 100).toNat = 100 * cnt.usedCounter.toNat := by
      rw [UInt32.toNat_mul, show (100 : UInt32).toNat = 100 from rfl, Nat.mul_comm,
        Nat.mod_eq_of_lt hproduct]
    have hsum0 : cnt.usedCounter + cnt.availableCounter ≠ 0 := by
      intro hzero
      rw [hzero] at htoSum
      have : (0 : UInt32).toNat = 0 := rfl
      omega
    refine ⟨_, (if_pos hused).trans (if_neg hsum0), ?_, ?_⟩
    · rw [UInt32.toNat_div, htoProduct, htoSum]
    · rw [UInt32.toNat_div, htoProduct, htoSum]
      exact Nat.div_le_of_le_mul (by nlinarith)

/-! ### The check of the thresholds -/

theorem checkCounter_spec {p : CrmResourceEntry × List Warning} {cnt : CrmResourceCounter}
    {percent : UInt32} (h : percentageUtil cnt = .ok percent) :
    ∃ q, checkCounter p cnt = .ok q ∧ q.1.countersMap = p.1.countersMap := by
  obtain ⟨res, log⟩ := p
  unfold checkCounter
  simp only [h, bind, Except.bind, pure, Except.pure]
  split_ifs
  · exact ⟨_, rfl, rfl⟩
  · exact ⟨_, rfl, rfl⟩
  · exact ⟨_, rfl, rfl⟩

theorem foldlM_checkCounter {counters : List CrmResourceCounter}
    (h : ∀ cnt ∈ counters, ∃ percent, percentageUtil cnt = .ok percent)
    (p : CrmResourceEntry × List Warning) :
    ∃ q, counters.foldlM checkCounter p = .ok q ∧ q.1.countersMap = p.1.countersMap := by
  induction counters generalizing p with
  | nil => exact ⟨p, rfl, rfl⟩
  | cons cnt counters ih =>
    obtain ⟨percent, hpercent⟩ := h cnt List.mem_cons_self
    obtain ⟨q, hq, hmap⟩ := @checkCounter_spec p cnt percent hpercent
    obtain ⟨q', hq', hmap'⟩ := ih (fun c hc => h c (List.mem_cons_of_mem _ hc)) q
    refine ⟨q', ?_, hmap'.trans hmap⟩
    rw [List.foldlM_cons, hq]
    exact hq'

/-- The check ends if every percentage can be computed, and changes no counter. -/
theorem checkCrmThresholds_spec
    (h : ∀ resource (key : String) cnt, (o resource).countersMap[key]? = some cnt →
      ∃ percent, percentageUtil cnt = .ok percent) :
    ∃ o' log, checkCrmThresholds o = .ok (o', log) ∧
      ∀ resource, (o' resource).countersMap = (o resource).countersMap := by
  have hloop : ∀ (list : List CrmResourceType) (p : CrmOrch × List Warning),
      (∀ resource, (p.1 resource).countersMap = (o resource).countersMap) →
      ∃ q, list.foldlM checkResource p = .ok q ∧
        ∀ resource, (q.1 resource).countersMap = (o resource).countersMap := by
    intro list
    induction list with
    | nil => exact fun p hp => ⟨p, rfl, hp⟩
    | cons resource list ih =>
      intro p hp
      have hall : ∀ cnt ∈ (p.1 resource).countersMap.toList.map Prod.snd,
          ∃ percent, percentageUtil cnt = .ok percent := by
        intro cnt hcnt
        obtain ⟨⟨key, c⟩, hmem, rfl⟩ := List.mem_map.mp hcnt
        rw [hp resource] at hmem
        exact h resource key c (ExtTreeMap.mem_toList_iff_getElem?_eq_some.mp hmem)
      obtain ⟨⟨res, log⟩, hres, hmap⟩ := foldlM_checkCounter hall (p.1 resource, p.2)
      have hturn : checkResource p resource = .ok (Function.update p.1 resource res, log) := by
        unfold checkResource
        simp only [hres]
        rfl
      obtain ⟨q, hq, hmaps⟩ := ih (Function.update p.1 resource res, log) fun r => by
        by_cases hr : r = resource
        · subst hr
          exact (congrArg _ (Function.update_self ..)).trans (hmap.trans (hp r))
        · exact (congrArg _ (Function.update_of_ne hr ..)).trans (hp r)
      refine ⟨q, ?_, hmaps⟩
      rw [List.foldlM_cons, hturn]
      exact hq
  obtain ⟨⟨o', log⟩, hcheck, hmaps⟩ := hloop resources (o, []) fun _ => rfl
  exact ⟨o', log, hcheck, hmaps⟩

end CrmOrch

namespace St

variable {s t : St} {op : Op} {ops : List Op} {resource r : CrmResourceType} {key k : String}
  {o : CrmOrch}

/-! ### Steps -/

/-- Counting up keeps the counters equal to the balances. -/
theorem Sound.counted_inc (h : s.Sound) (op : Op) (hc : s.orch.used resource key ≠ 2 ^ 32 - 1)
    (htarget : op.target = some (resource, key, 1))
    (hused : o.used r k =
      if r = resource ∧ k = key then s.orch.used r k + 1 else s.orch.used r k) :
    ((o.used r k).toNat : ℤ) = s.counted op r k := by
  rw [hused, counted, htarget]
  by_cases hrk : r = resource ∧ k = key
  · obtain ⟨rfl, rfl⟩ := hrk
    show _ = if r = r ∧ k = k then s.balance r k + 1 else s.balance r k
    rw [if_pos ⟨rfl, rfl⟩, if_pos ⟨rfl, rfl⟩, RefCount.toNat_inc hc, h.used]
  · show _ = if r = resource ∧ k = key then s.balance r k + 1 else s.balance r k
    rw [if_neg hrk, if_neg hrk]
    exact h.used r k

/-- Counting down keeps the counters equal to the balances. -/
theorem Sound.counted_dec (h : s.Sound) (op : Op) (hc : s.orch.used resource key ≠ 0)
    (htarget : op.target = some (resource, key, -1))
    (hused : o.used r k =
      if r = resource ∧ k = key then s.orch.used r k - 1 else s.orch.used r k) :
    ((o.used r k).toNat : ℤ) = s.counted op r k := by
  rw [hused, counted, htarget]
  by_cases hrk : r = resource ∧ k = key
  · obtain ⟨rfl, rfl⟩ := hrk
    show _ = if r = r ∧ k = k then s.balance r k + -1 else s.balance r k
    rw [if_pos ⟨rfl, rfl⟩, if_pos ⟨rfl, rfl⟩, RefCount.toNat_dec hc, h.used]
  · show _ = if r = resource ∧ k = key then s.balance r k + -1 else s.balance r k
    rw [if_neg hrk, if_neg hrk]
    exact h.used r k

/-- If every percentage fits, the check of the thresholds is right. -/
theorem checkSound_of_clean (h : s.Clean .check) : s.CheckSound where
  percentage resource key cnt hcnt := percentageUtil_of_fits (h resource key cnt hcnt)
  returns := by
    obtain ⟨o, log, hcheck, -⟩ := checkCrmThresholds_spec fun resource key cnt hcnt => by
      obtain ⟨p, hp, -⟩ := percentageUtil_of_fits (h resource key cnt hcnt)
      exact ⟨p, hp⟩
    exact ⟨(o, log), hcheck⟩

/-- **A clean step keeps the used counters equal to the balances.** -/
theorem Sound.step (h : s.Sound) (hc : s.Clean op) : (s.step op).Sound := by
  unfold St.step
  rw [if_neg (ne_true_of_eq_false h.not_crashed)]
  cases op with
  | incRes resource =>
    refine ⟨fun r k => ?_, rfl⟩
    exact h.counted_inc (.incRes resource) ((hc _ _ _ rfl).2 rfl) rfl used_inc
  | decRes resource =>
    refine ⟨fun r k => ?_, rfl⟩
    exact h.counted_dec (.decRes resource) ((hc _ _ _ rfl).1 rfl) rfl used_dec
  | incAcl resource stage point =>
    refine ⟨fun r k => ?_, rfl⟩
    exact h.counted_inc (.incAcl resource stage point) ((hc _ _ _ rfl).2 rfl) rfl used_inc
  | decAcl resource stage point oid =>
    have hdec : ∀ r k, (((s.orch.modify resource (getCrmAclKey stage point) CrmOrch.dec).used r k).toNat
        : ℤ) = s.counted (.decAcl resource stage point oid) r k :=
      fun r k => h.counted_dec _ ((hc _ _ _ rfl).1 rfl) rfl used_dec
    refine ⟨fun r k => ?_, rfl⟩
    unfold decCrmAclUsedCounter
    simp only
    by_cases htable : resource = CRM_ACL_TABLE
    · rw [if_pos htable, if_pos htable, used_eraseTable, forget]
      split_ifs
      · rfl
      · exact hdec r k
    · rw [if_neg htable, if_neg htable]
      exact hdec r k
  | incAclTable resource tableId =>
    refine ⟨fun r k => ?_, rfl⟩
    exact h.counted_inc (.incAclTable resource tableId) ((hc _ _ _ rfl).2 rfl) rfl
      used_incCrmAclTableUsedCounter
  | decAclTable resource tableId =>
    refine ⟨fun r k => ?_, rfl⟩
    exact h.counted_dec (.decAclTable resource tableId) ((hc _ _ _ rfl).1 rfl) rfl used_dec
  | configure resource type low high =>
    refine ⟨fun r k => ?_, rfl⟩
    show ((CrmOrch.used (Function.update s.orch resource _) r k).toNat : ℤ) = s.balance r k
    rw [← h.used r k]
    by_cases hr : r = resource
    · subst hr
      rw [CrmOrch.used, Function.update_self]
      rfl
    · rw [CrmOrch.used, Function.update_of_ne hr]
      rfl
  | poll answers =>
    refine ⟨fun r k => ?_, rfl⟩
    show (((s.orch.getResAvailableCounters answers).used r k).toNat : ℤ) = s.balance r k
    rw [used_getResAvailableCounters]
    exact h.used r k
  | check =>
    obtain ⟨o, log, hcheck, hmaps⟩ := checkCrmThresholds_spec fun resource key cnt hcnt => by
      obtain ⟨p, hp, -⟩ := percentageUtil_of_fits (hc resource key cnt hcnt)
      exact ⟨p, hp⟩
    simp only [hcheck]
    refine ⟨fun r k => ?_, rfl⟩
    show ((o.used r k).toNat : ℤ) = s.balance r k
    rw [← h.used r k, CrmOrch.used, CrmOrch.used, hmaps]

theorem sound_initial : initial.Sound where
  used resource key := by
    rw [used, show (initial.orch resource).countersMap = ∅ from rfl, ExtTreeMap.getElem?_empty]
    rfl
  not_crashed := rfl

/-- **In every clean run the used counters are the balances of their calls, and the check of the
thresholds computes every percentage where the percentages fit.** -/
theorem crm_utilisation (h : Run (Guarded Clean Step) initial ops t) :
    t.Sound ∧ (t.Clean .check → t.CheckSound) := by
  have hsound : t.Sound := h.keeps sound_initial fun hs hstep => by
    rw [hstep.2]
    exact hs.step hstep.1
  exact ⟨hsound, checkSound_of_clean⟩

/-- A route is added, and the available routes are polled. -/
def exampleAnswers (available : UInt32) : Answers where
  switch _ := some available
  acl _ := none
  table _ _ := none

theorem meets_route : Meets Clean step initial
    [.incRes CRM_IPV4_ROUTE, .poll (exampleAnswers 3)] := by
  refine ⟨?_, ?_, trivial⟩
  · intro resource key d htarget
    obtain ⟨rfl, rfl, rfl⟩ : CRM_IPV4_ROUTE = resource ∧ CRM_COUNTERS_TABLE_KEY = key ∧
        (1 : ℤ) = d := by simpa [Op.target] using htarget
    exact ⟨by decide, fun _ => by decide⟩
  · intro resource key d htarget
    cases htarget

/-- One route of four is in use. -/
theorem crm_utilisation_route :
    (([.incRes CRM_IPV4_ROUTE, .poll (exampleAnswers 3)].foldl step initial).orch
        CRM_IPV4_ROUTE).countersMap[CRM_COUNTERS_TABLE_KEY]? = some ⟨0, 3, 1⟩ ∧
      ([.incRes CRM_IPV4_ROUTE, .poll (exampleAnswers 3)].foldl step initial).Sound :=
  ⟨by decide, (crm_utilisation (Run.guarded_foldl meets_route)).1⟩

/-- **A resource that was never in use is counted down below zero, and the check divides by
zero.** -/
theorem not_crm_utilisation :
    ¬ ∀ (ops : List Op) (t : St), Run Step initial ops t → t.Sound ∧ t.CheckSound := by
  intro hall
  obtain ⟨-, hcheck⟩ := hall [.decRes CRM_IPV4_ROUTE, .poll (exampleAnswers 1)] _
    (Run.foldl initial _)
  obtain ⟨p, hp, -⟩ := hcheck.percentage CRM_IPV4_ROUTE CRM_COUNTERS_TABLE_KEY
    ⟨0, 1, 2 ^ 32 - 1⟩ (by decide)
  cases hp

end St

end Orchagent.Crm
