/-
Lib/DepthFirst.lean

Depth-first walks that mark a node only after its targets.

A walk goes to the targets of a node, one after the other, and then acts on the node; a node
that is done is left at once.  The walk stops where a target is not found, or an action
fails.  Nothing tells the walk that it is still below a node: coming to such a node again it
walks on without end.  So a walk succeeds exactly if no node ahead is on a cycle, all targets
are found, and the actions succeed one after the other, in the order of the walk
(`finishes_iff`).  The order depends on the graph only: it is what a walk leaves whose
actions do no more than to write down the node.
-/
import Mathlib

open Relation

/-- A graph whose nodes are acted on.  An action makes its node done, and no other. -/
structure DepthFirst (N σ ε : Type*) where
  targets : N → List (Except ε N)
  done : σ → N → Bool
  act : σ → N → Except ε σ
  done_act : ∀ {s n s'}, act s n = .ok s' → ∀ m, done s' m = true ↔ done s m = true ∨ m = n

namespace DepthFirst

variable {N σ ε : Type*}

/-- Take the targets of a list one after the other. -/
def forEach (f : σ → N → Option (Except ε σ)) : List (Except ε N) → σ → Option (Except ε σ)
  | [], s => some (.ok s)
  | .error e :: _, _ => some (.error e)
  | .ok n :: l, s =>
    match f s n with
    | none => none
    | some (.error e) => some (.error e)
    | some (.ok s') => forEach f l s'

/-- A walk, as deep as the fuel goes. -/
def walk (S : DepthFirst N σ ε) : ℕ → σ → N → Option (Except ε σ)
  | 0, _, _ => none
  | fuel + 1, s, n =>
    if S.done s n then some (.ok s)
    else
      match forEach (S.walk fuel) (S.targets n) s with
      | none => none
      | some (.error e) => some (.error e)
      | some (.ok s') => some (S.act s' n)

variable (S : DepthFirst N σ ε) (s : σ)

/-- From a node that is not done to one of its targets. -/
def Step (a b : N) : Prop := S.done s a = false ∧ .ok b ∈ S.targets a

/-- What a walk comes to. -/
def Ahead (a b : N) : Prop := ReflTransGen (S.Step s) a b

/-- No node ahead leads back to itself. -/
def Acyclic (a : N) : Prop := ∀ b, S.Ahead s a b → ¬ TransGen (S.Step s) b b

/-- All targets ahead are found. -/
def Found (a : N) : Prop :=
  ∀ b, S.Ahead s a b → S.done s b = false → ∀ e, .error e ∉ S.targets b

/-- The same walk, where the actions do no more than to write down the node. -/
def log [DecidableEq N] : DepthFirst N (List N) ε where
  targets := S.targets
  done log m := S.done s m || decide (m ∈ log)
  act log n := .ok (log ++ [n])
  done_act := by
    rintro log n _ ⟨⟩ m
    rw [Bool.or_eq_true, Bool.or_eq_true, decide_eq_true_iff, decide_eq_true_iff, List.mem_append,
      List.mem_singleton, or_assoc]

/-- The nodes ahead that are not done, each after its targets. -/
def IsOrder [DecidableEq N] (a : N) (l : List N) : Prop :=
  ∃ fuel, (S.log s).walk fuel [] a = some (.ok l)

/-- The walk succeeds, and all it came to is done. -/
def Finishes (a : N) : Prop :=
  ∃ fuel s', S.walk fuel s a = some (.ok s') ∧ ∀ b, S.Ahead s a b → S.done s' b = true

variable {S s} {f g : σ → N → Option (Except ε σ)} {l : List (Except ε N)} {a b n : N} {s' t : σ}
  {fuel : ℕ}

/-! ### Lists of targets -/

theorem forEach_ok : forEach f (.ok n :: l) s =
    match f s n with
    | none => none
    | some (.error e) => some (.error e)
    | some (.ok s') => forEach f l s' := rfl

theorem forEach_cons_eq_ok {x : Except ε N} :
    forEach f (x :: l) s = some (.ok t) ↔
      ∃ n u, x = .ok n ∧ f s n = some (.ok u) ∧ forEach f l u = some (.ok t) := by
  cases x with
  | error e =>
    refine iff_of_false (fun h => by cases h) ?_
    rintro ⟨n, u, hx, -⟩
    cases hx
  | ok n =>
    rw [forEach_ok]
    rcases h : f s n with - | ⟨e | u⟩
    · refine iff_of_false (fun h => by cases h) ?_
      rintro ⟨n', u, hx, hf, -⟩
      cases hx
      rw [h] at hf
      cases hf
    · refine iff_of_false (fun h => by cases h) ?_
      rintro ⟨n', u, hx, hf, -⟩
      cases hx
      rw [h] at hf
      cases hf
    · constructor
      · exact fun hl => ⟨n, u, rfl, h, hl⟩
      · rintro ⟨n', u', hx, hf, hl⟩
        cases hx
        rw [h] at hf
        cases hf
        exact hl

/-- What is taken with one function is taken the same with another that agrees. -/
theorem forEach_mono (hfg : ∀ s n r, f s n = some r → g s n = some r) {r : Except ε σ}
    (h : forEach f l s = some r) : forEach g l s = some r := by
  induction l generalizing s with
  | nil => exact h
  | cons x l ih =>
    cases x with
    | error e => exact h
    | ok n =>
      rw [forEach_ok] at h ⊢
      rcases hf : f s n with - | ⟨e | u⟩
      · rw [hf] at h
        cases h
      · rw [hf] at h
        rw [hfg s n _ hf]
        exact h
      · rw [hf] at h
        rw [hfg s n _ hf]
        exact ih h

/-- More fuel does not change what a walk does. -/
theorem walk_mono {fuel' : ℕ} (hle : fuel ≤ fuel') {r : Except ε σ}
    (h : S.walk fuel s n = some r) : S.walk fuel' s n = some r := by
  induction fuel generalizing fuel' s n r with
  | zero => cases h
  | succ fuel ih =>
    obtain ⟨fuel', rfl⟩ : ∃ k, fuel' = k + 1 := ⟨fuel' - 1, by omega⟩
    unfold walk at h ⊢
    cases hdone : S.done s n with
    | true =>
      rw [hdone] at h
      exact h
    | false =>
      rw [hdone] at h
      simp only [Bool.false_eq_true, if_false] at h ⊢
      rcases hall : forEach (S.walk fuel) (S.targets n) s with - | r'
      · rw [hall] at h
        cases h
      · rw [hall] at h
        rw [forEach_mono (fun s n r => ih (by omega)) hall]
        exact h

/-- A walk that ends has one result. -/
theorem walk_unique {fuel' : ℕ} {r r' : Except ε σ} (h : S.walk fuel s n = some r)
    (h' : S.walk fuel' s n = some r') : r = r' := by
  have hmax := walk_mono (le_max_left fuel fuel') h
  rw [walk_mono (le_max_right fuel fuel') h'] at hmax
  exact (Option.some.inj hmax).symm

theorem walk_succ_eq_ok (hnot : S.done s n = false) :
    S.walk (fuel + 1) s n = some (.ok t) ↔
      ∃ u, forEach (S.walk fuel) (S.targets n) s = some (.ok u) ∧ S.act u n = .ok t := by
  rw [walk, hnot]
  simp only [Bool.false_eq_true, if_false]
  rcases forEach (S.walk fuel) (S.targets n) s with - | ⟨e | u⟩
  · refine iff_of_false (fun h => by cases h) ?_
    rintro ⟨u, hu, -⟩
    cases hu
  · refine iff_of_false (fun h => by cases h) ?_
    rintro ⟨u, hu, -⟩
    cases hu
  · constructor
    · exact fun h => ⟨u, rfl, Option.some.inj h⟩
    · rintro ⟨u', hu, hact⟩
      cases hu
      show some (S.act u n) = _
      rw [hact]

/-- **Invariant rule.**  What every action keeps, a walk keeps. -/
theorem forEach_keeps {I : σ → Prop}
    (hf : ∀ {t n u}, I t → f t n = some (.ok u) → I u) (ht : I t)
    (h : forEach f l t = some (.ok s')) : I s' := by
  induction l generalizing t with
  | nil =>
    cases h
    exact ht
  | cons x l ih =>
    obtain ⟨m, v, rfl, hwalk, hrest⟩ := forEach_cons_eq_ok.mp h
    exact ih (hf ht hwalk) hrest

theorem walk_keeps {I : σ → Prop} (hact : ∀ {t n u}, I t → S.act t n = .ok u → I u) (ht : I t)
    (h : S.walk fuel t n = some (.ok s')) : I s' := by
  induction fuel generalizing t n s' with
  | zero => cases h
  | succ fuel ih =>
    cases hdone : S.done t n with
    | true =>
      rw [walk, hdone] at h
      cases h
      exact ht
    | false =>
      obtain ⟨u, hall, hu⟩ := (walk_succ_eq_ok hdone).mp h
      exact hact (forEach_keeps (fun ht hwalk => ih ht hwalk) ht hall) hu

/-- What is done stays done. -/
theorem keeps_done {m : N} {u : σ} (hm : S.done t m = true) (hact : S.act t n = .ok u) :
    S.done u m = true :=
  (S.done_act hact m).mpr (.inl hm)

/-! ### What a walk leaves -/

/-- What was done in the state `s` of the start, or by the walk: no chain of targets goes on
from it without end, and the targets of what the walk did are done. -/
structure Walked (S : DepthFirst N σ ε) (s t : σ) : Prop where
  ends : ∀ m, S.done t m = true → Acc (fun c b => S.Step s b c) m
  closed : ∀ m, S.done t m = true → S.done s m = false →
    (∀ e, .error e ∉ S.targets m) ∧ ∀ b, .ok b ∈ S.targets m → S.done t b = true

theorem walked_self : Walked S s s where
  ends m h := by
    refine ⟨m, fun b hstep => ?_⟩
    rw [hstep.1] at h
    cases h
  closed m h hnot := by
    rw [h] at hnot
    cases hnot

/-- One action, after the targets of its node. -/
theorem Walked.act (hw : Walked S s t) (hfound : ∀ e, .error e ∉ S.targets n)
    (htargets : ∀ b, .ok b ∈ S.targets n → S.done t b = true) {u : σ}
    (hact : S.act t n = .ok u) : Walked S s u := by
  have hdone := S.done_act hact
  have hkeeps : ∀ m, S.done t m = true → S.done u m = true := fun m h => (hdone m).mpr (.inl h)
  refine ⟨?_, ?_⟩
  · intro m hm
    rcases (hdone m).mp hm with hm | rfl
    · exact hw.ends m hm
    · exact ⟨m, fun b hstep => hw.ends b (htargets b hstep.2)⟩
  · intro m hm hnot
    rcases (hdone m).mp hm with hm | rfl
    · obtain ⟨hfound', htargets'⟩ := hw.closed m hm hnot
      exact ⟨hfound', fun b hb => hkeeps b (htargets' b hb)⟩
    · exact ⟨hfound, fun b hb => hkeeps b (htargets b hb)⟩

/-- **What a walk leaves.**  The induction is on the fuel, and for each node along its
targets. -/
theorem walked_of_walk (hw : Walked S s t) (h : S.walk fuel t n = some (.ok s')) :
    Walked S s s' ∧ S.done s' n = true := by
  induction fuel generalizing t n s' with
  | zero => cases h
  | succ fuel ih =>
    cases hdone : S.done t n with
    | true =>
      rw [walk, hdone] at h
      cases h
      exact ⟨hw, hdone⟩
    | false =>
      obtain ⟨u, hall, hact⟩ := (walk_succ_eq_ok hdone).mp h
      have htargets : ∀ l t, Walked S s t → forEach (S.walk fuel) l t = some (.ok u) →
          Walked S s u ∧ (∀ e, .error e ∉ l) ∧ ∀ b, .ok b ∈ l → S.done u b = true := by
        intro l
        induction l with
        | nil =>
          intro t hw h
          cases h
          exact ⟨hw, fun e => List.not_mem_nil, fun b hb => absurd hb List.not_mem_nil⟩
        | cons x l ihl =>
          intro t hw h
          obtain ⟨m, v, rfl, hwalk, hrest⟩ := forEach_cons_eq_ok.mp h
          obtain ⟨hv, hm⟩ := ih hw hwalk
          obtain ⟨hu, hfound, htargets⟩ := ihl v hv hrest
          refine ⟨hu, ?_, ?_⟩
          · intro e he
            rcases List.mem_cons.mp he with heq | he
            · cases heq
            · exact hfound e he
          · intro b hb
            rcases List.mem_cons.mp hb with heq | hb
            · cases heq
              exact forEach_keeps (I := fun t => S.done t _ = true)
                (walk_keeps (I := fun t => S.done t _ = true) keeps_done) hm hrest
            · exact htargets b hb
      obtain ⟨hu, hfound, hdone'⟩ := htargets _ t hw hall
      exact ⟨hu.act hfound hdone' hact, (S.done_act hact n).mpr (.inr rfl)⟩

/-- From an end of all chains no chain leads back. -/
theorem not_cycle_of_acc (h : Acc (fun c b => S.Step s b c) a) :
    ¬ TransGen (S.Step s) a a := by
  induction h with
  | intro b _ ih =>
    intro hcycle
    obtain ⟨c, hstep, hback⟩ := TransGen.head'_iff.mp hcycle
    exact ih c hstep (TransGen.tail' hback hstep)

/-- All that a walk came to is done. -/
theorem done_of_ahead (hw : Walked S s s') (ha : S.done s' a = true) (h : S.Ahead s a b) :
    S.done s' b = true := by
  induction h with
  | refl => exact ha
  | tail _ hstep ih => exact (hw.closed _ ih hstep.1).2 _ hstep.2

/-- A walk that succeeds finishes; it came to no cycle, and found its targets. -/
theorem finishes_of_walk (h : S.walk fuel s a = some (.ok s')) :
    S.Finishes s a ∧ S.Acyclic s a ∧ S.Found s a := by
  obtain ⟨hw, ha⟩ := walked_of_walk walked_self h
  refine ⟨⟨fuel, s', h, fun b hb => done_of_ahead hw ha hb⟩, ?_, ?_⟩
  · intro b hb
    exact not_cycle_of_acc (hw.ends b (done_of_ahead hw ha hb))
  · intro b hb hnot
    exact (hw.closed b (done_of_ahead hw ha hb) hnot).1

/-! ### When a walk ends -/

/-- Without cycles ahead the chains of targets end, as there are only so many nodes. -/
theorem acc_of_acyclic (hfin : {b | ∃ a, .ok b ∈ S.targets a}.Finite) (h : S.Acyclic s a) :
    Acc (fun c b => S.Step s b c) a := by
  by_contra hacc
  obtain ⟨chain, hzero, hchain⟩ := not_acc_iff_exists_descending_chain.mp hacc
  have hahead : ∀ i k, ReflTransGen (S.Step s) (chain i) (chain (i + k)) := by
    intro i k
    induction k with
    | zero => exact ReflTransGen.refl
    | succ k ih => exact ih.tail (hchain (i + k))
  -- two places of the chain are the same node
  have hfin' : Finite {b | ∃ a, .ok b ∈ S.targets a} := hfin
  obtain ⟨i, j, hne, heq⟩ := Finite.exists_ne_map_eq_of_infinite fun i : ℕ =>
    (⟨chain (i + 1), chain i, (hchain i).2⟩ : {b | ∃ a, .ok b ∈ S.targets a})
  have heq : chain (i + 1) = chain (j + 1) := congrArg Subtype.val heq
  have hcycle : ∀ i j, i < j → chain (i + 1) = chain (j + 1) → False := by
    intro i j hlt heq
    have hto : S.Ahead s a (chain (i + 1)) := by
      have hpath := hahead 0 (i + 1)
      rw [hzero, Nat.zero_add] at hpath
      exact hpath
    refine h _ hto ?_
    have hback := hahead (i + 1 + 1) (j - i - 1)
    rw [show i + 1 + 1 + (j - i - 1) = j + 1 by omega, ← heq] at hback
    exact TransGen.head' (hchain (i + 1)) hback
  rcases Nat.lt_or_gt_of_ne hne with hlt | hlt
  · exact hcycle i j hlt heq
  · exact hcycle j i hlt heq.symm

/-- Where the chains of targets end and actions do not fail, a walk succeeds.  The induction
is along the chains. -/
theorem walk_of_acc (hact : ∀ t n, ∃ u, S.act t n = .ok u)
    (hacc : Acc (fun c b => S.Step s b c) a) (hfound : S.Found s a)
    (hkeeps : ∀ m, S.done s m = true → S.done t m = true) :
    ∃ fuel u, S.walk fuel t a = some (.ok u) ∧ ∀ m, S.done s m = true → S.done u m = true := by
  induction hacc generalizing t with
  | intro b _ ih =>
    cases hdone : S.done t b with
    | true =>
      refine ⟨1, t, ?_, hkeeps⟩
      rw [walk, hdone]
      rfl
    | false =>
      have hnot : S.done s b = false := by
        cases h : S.done s b with
        | false => rfl
        | true => rw [hkeeps b h] at hdone; cases hdone
      have hall : ∀ l : List (Except ε N), (∀ x ∈ l, x ∈ S.targets b) → ∀ t,
          (∀ m, S.done s m = true → S.done t m = true) →
            ∃ fuel u, forEach (S.walk fuel) l t = some (.ok u) ∧
              ∀ m, S.done s m = true → S.done u m = true := by
        intro l
        induction l with
        | nil => exact fun _ t hkeeps => ⟨0, t, rfl, hkeeps⟩
        | cons x l ihl =>
          intro hsub t hkeeps
          obtain ⟨hx, hrest⟩ := List.forall_mem_cons.mp hsub
          cases x with
          | error e => exact absurd hx (hfound b ReflTransGen.refl hnot e)
          | ok c =>
            have hstep : S.Step s b c := ⟨hnot, hx⟩
            have hfound' : S.Found s c := fun d hd =>
              hfound d (ReflTransGen.head hstep hd)
            obtain ⟨fuel, v, hwalk, hv⟩ := ih c hstep hfound' hkeeps
            obtain ⟨fuel', u, hwalks, hu⟩ := ihl hrest v hv
            refine ⟨max fuel fuel', u, forEach_cons_eq_ok.mpr ⟨c, v, rfl, ?_, ?_⟩, hu⟩
            · exact walk_mono (le_max_left _ _) hwalk
            · exact forEach_mono (fun _ _ _ => walk_mono (le_max_right _ _)) hwalks
      obtain ⟨fuel, v, hwalk, hv⟩ := hall _ (fun _ hx => hx) t hkeeps
      obtain ⟨u, hu⟩ := hact v b
      refine ⟨fuel + 1, u, (walk_succ_eq_ok hdone).mpr ⟨v, hwalk, hu⟩, fun m hm => ?_⟩
      exact (S.done_act hu m).mpr (.inl (hv m hm))

/-! ### The order of a walk -/

section Order

variable [DecidableEq N]

/-- What was written down stays. -/
theorem keeps_log {log log₁ log₂ : List N} {n : N} (h : log <+: log₁)
    (hact : (S.log s).act log₁ n = .ok log₂) : log <+: log₂ := by
  cases hact
  exact h.trans (List.prefix_append _ _)

/-- A walk acts in the order that is written down, until an action fails.  The induction goes
along the walk that writes. -/
theorem walk_eq_foldlM {log log' : List N}
    (hdone : ∀ m, S.done t m = (S.log s).done log m)
    (h : (S.log s).walk fuel log n = some (.ok log')) :
    ∃ l, log' = log ++ l ∧ S.walk fuel t n = some (l.foldlM S.act t) ∧
      ∀ u, l.foldlM S.act t = .ok u → ∀ m, S.done u m = (S.log s).done log' m := by
  induction fuel generalizing t log log' n with
  | zero => cases h
  | succ fuel ih =>
    cases hn : (S.log s).done log n with
    | true =>
      rw [walk, hn] at h
      cases h
      refine ⟨[], (List.append_nil _).symm, ?_, ?_⟩
      · rw [walk, hdone, hn]
        rfl
      · rintro u ⟨⟩
        exact hdone
    | false =>
      obtain ⟨mid, hall, hact⟩ := (walk_succ_eq_ok hn).mp h
      have hfold : ∀ (targets : List (Except ε N)) (log : List N) (t : σ),
          (∀ m, S.done t m = (S.log s).done log m) →
            forEach ((S.log s).walk fuel) targets log = some (.ok mid) →
              ∃ l, mid = log ++ l ∧
                forEach (S.walk fuel) targets t = some (l.foldlM S.act t) ∧
                ∀ u, l.foldlM S.act t = .ok u → ∀ m, S.done u m = (S.log s).done mid m := by
        intro targets
        induction targets with
        | nil =>
          intro log t hdone h
          cases h
          refine ⟨[], (List.append_nil _).symm, rfl, ?_⟩
          rintro u ⟨⟩
          exact hdone
        | cons x targets ihl =>
          intro log t hdone h
          obtain ⟨m, log₁, rfl, hwalk, hrest⟩ := forEach_cons_eq_ok.mp h
          obtain ⟨l₁, rfl, hwalk', hdone'⟩ := ih hdone hwalk
          cases hl₁ : l₁.foldlM S.act t with
          | error e =>
            -- the walk has failed, and the rest is written down only
            obtain ⟨l₂, rfl⟩ : log ++ l₁ <+: mid :=
              forEach_keeps (I := fun log' => log ++ l₁ <+: log')
                (fun hk => walk_keeps keeps_log hk) (List.prefix_refl _) hrest
            refine ⟨l₁ ++ l₂, List.append_assoc _ _ _, ?_, ?_⟩
            · rw [List.foldlM_append, hl₁, forEach, hwalk', hl₁]
              rfl
            · intro u hu
              rw [List.foldlM_append, hl₁] at hu
              cases hu
          | ok u =>
            obtain ⟨l₂, rfl, hrest', hdone₂⟩ := ihl _ u (hdone' u hl₁) hrest
            refine ⟨l₁ ++ l₂, List.append_assoc _ _ _, ?_, ?_⟩
            · rw [List.foldlM_append, hl₁, forEach, hwalk', hl₁]
              exact hrest'
            · intro v hv
              rw [List.foldlM_append, hl₁] at hv
              exact hdone₂ v hv
      obtain ⟨l, rfl, hwalk, hdone'⟩ := hfold (S.targets n) log t hdone hall
      cases hact
      refine ⟨l ++ [n], List.append_assoc _ _ _, ?_, ?_⟩
      · rw [walk, hdone, hn, hwalk, List.foldlM_append]
        cases l.foldlM S.act t with
        | error e => rfl
        | ok u =>
          show some (S.act u n) = some ([n].foldlM S.act u)
          rw [List.foldlM_cons]
          cases S.act u n with
          | error e => rfl
          | ok v => rfl
      · intro u hu
        rw [List.foldlM_append] at hu
        cases hv : l.foldlM S.act t with
        | error e =>
          rw [hv] at hu
          cases hu
        | ok v =>
          rw [hv] at hu
          change [n].foldlM S.act v = .ok u at hu
          rw [List.foldlM_cons] at hu
          change (S.act v n >>= pure) = .ok u at hu
          rw [bind_pure] at hu
          intro m
          rw [Bool.eq_iff_iff, S.done_act hu m, hdone' v hv m]
          exact ((S.log s).done_act rfl m).symm

/-- **When a walk finishes.** -/
theorem finishes_iff (hfin : {b | ∃ a, .ok b ∈ S.targets a}.Finite) :
    S.Finishes s a ↔ (S.Acyclic s a ∧ S.Found s a) ∧
      ∀ l, S.IsOrder s a l → ∃ t, l.foldlM S.act s = .ok t := by
  have hdone : ∀ m, S.done s m = (S.log s).done [] m := fun m => (Bool.or_false _).symm
  have hstep : (S.log s).Step [] = S.Step s := by
    funext b c
    unfold Step
    rw [hdone]
    rfl
  constructor
  · rintro ⟨fuel, t, hwalk, -⟩
    obtain ⟨-, hacyclic, hfound⟩ := finishes_of_walk hwalk
    refine ⟨⟨hacyclic, hfound⟩, ?_⟩
    rintro l ⟨fuel', hlog⟩
    obtain ⟨l', rfl, hwalk', -⟩ := walk_eq_foldlM hdone hlog
    exact ⟨t, walk_unique hwalk' hwalk⟩
  · rintro ⟨⟨hacyclic, hfound⟩, hacts⟩
    have hfound' : (S.log s).Found [] a := by
      intro b hb hnot
      unfold Ahead at hb
      rw [hstep] at hb
      exact hfound b hb ((hdone b).trans hnot)
    have hacc := acc_of_acyclic hfin hacyclic
    rw [← hstep] at hacc
    obtain ⟨fuel, l, hlog, -⟩ := walk_of_acc (fun log n => ⟨log ++ [n], rfl⟩) hacc hfound'
      fun m hm => hm
    obtain ⟨t, ht⟩ := hacts l ⟨fuel, hlog⟩
    obtain ⟨l', rfl, hwalk, -⟩ := walk_eq_foldlM hdone hlog
    rw [ht] at hwalk
    exact (finishes_of_walk hwalk).1

end Order

end DepthFirst
