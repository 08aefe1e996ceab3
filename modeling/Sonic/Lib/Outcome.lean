/-
Lib/Outcome.lean

Pre- and postconditions of computations that may fail.

`Safe bad Q x` says of a computation `x` that it fails with no error of the kind `bad`,
and that `Q` holds of what it returns, if it returns.  One walk along a chain of calls
proves both: that a chain keeps an invariant, and that with the invariant it does not
fail in a way that the invariant excludes (`Safe.bind`, `Safe.foldlM`).
-/
import Mathlib

namespace Outcome

universe u v

variable {ε : Type v} {α β γ : Type u} {bad : ε → Prop} {Q Q' : α → Prop} {x : Except ε α}

/-- No error is bad, and the postcondition holds of what is returned. -/
def Safe (bad : ε → Prop) (Q : α → Prop) : Except ε α → Prop
  | .ok a => Q a
  | .error e => ¬ bad e

@[simp] theorem safe_ok {a : α} : Safe bad Q (.ok a) ↔ Q a := Iff.rfl

@[simp] theorem safe_error {e : ε} : Safe bad Q (.error e) ↔ ¬ bad e := Iff.rfl

/-- What is returned meets the postcondition. -/
theorem Safe.post {a : α} (h : Safe bad Q x) (hx : x = .ok a) : Q a := by
  subst hx
  exact h

/-- What fails does not fail badly. -/
theorem Safe.not_bad {e : ε} (h : Safe bad Q x) (hx : x = .error e) : ¬ bad e := by
  subst hx
  exact h

theorem Safe.imp (h : Safe bad Q x) (himp : ∀ a, x = .ok a → Q a → Q' a) : Safe bad Q' x := by
  cases x with
  | ok a => exact himp a rfl h
  | error e => exact h

/-- A sequence is safe if its second part is, after whatever the first part returns. -/
theorem Safe.bind {R : β → Prop} {f : α → Except ε β} (h : Safe bad Q x)
    (hf : ∀ a, x = .ok a → Q a → Safe bad R (f a)) : Safe bad R (x >>= f) := by
  cases x with
  | ok a => exact hf a rfl h
  | error e => exact h

/-- A loop is safe if its body keeps an invariant of the state and of what is left to do. -/
theorem Safe.foldlM {f : β → γ → Except ε β} {I : List γ → β → Prop} {l : List γ} {b : β}
    (h : I l b) (hf : ∀ c rest b, I (c :: rest) b → Safe bad (I rest) (f b c)) :
    Safe bad (I []) (l.foldlM f b) := by
  induction l generalizing b with
  | nil => exact h
  | cons c l ih =>
    rw [List.foldlM_cons]
    exact (hf c l b h).bind fun b' _ hb' => ih hb'

/-! ### What returned -/

theorem map_eq_ok {f : α → β} {b : β} : x.map f = .ok b ↔ ∃ a, x = .ok a ∧ f a = b := by
  cases x with
  | ok a =>
    constructor
    · intro h
      exact ⟨a, rfl, Except.ok.inj h⟩
    · rintro ⟨_, ⟨⟩, rfl⟩
      rfl
  | error e =>
    constructor
    · intro h
      cases h
    · rintro ⟨_, ⟨⟩, -⟩

theorem bind_eq_ok {f : α → Except ε β} {b : β} :
    x >>= f = .ok b ↔ ∃ a, x = .ok a ∧ f a = .ok b := by
  cases x with
  | ok a =>
    constructor
    · intro h
      exact ⟨a, rfl, h⟩
    · rintro ⟨a', ha, hf⟩
      cases ha
      exact hf
  | error e =>
    constructor
    · intro h
      cases show Except.error e = Except.ok b from h
    · rintro ⟨a, ha, -⟩
      cases ha

/-- The loop that returned went through every element. -/
theorem foldlM_cons_eq_ok {f : β → γ → Except ε β} {c : γ} {l : List γ} {b b' : β} :
    (c :: l).foldlM f b = .ok b' ↔ ∃ b₁, f b c = .ok b₁ ∧ l.foldlM f b₁ = .ok b' := by
  rw [List.foldlM_cons]
  exact bind_eq_ok

/-- The loop whose turns all return. -/
theorem foldlM_eq_ok {f : β → γ → Except ε β} {g : β → γ → β} {l : List γ} {b : β}
    (h : ∀ c ∈ l, ∀ b, f b c = .ok (g b c)) : l.foldlM f b = .ok (l.foldl g b) := by
  induction l generalizing b with
  | nil => rfl
  | cons c l ih =>
    refine foldlM_cons_eq_ok.mpr ⟨g b c, h c List.mem_cons_self b, ?_⟩
    exact ih fun c' hc' => h c' (List.mem_cons_of_mem c hc')

/-- The loop one of whose turns never returns. -/
theorem foldlM_ne_ok {f : β → γ → Except ε β} {c : γ} {l : List γ} {b b' : β} (hc : c ∈ l)
    (h : ∀ b b', f b c ≠ .ok b') : l.foldlM f b ≠ .ok b' := by
  induction l generalizing b with
  | nil => exact absurd hc List.not_mem_nil
  | cons c' l ih =>
    intro hrun
    obtain ⟨b₁, hturn, hrest⟩ := foldlM_cons_eq_ok.mp hrun
    rcases List.mem_cons.mp hc with rfl | hc
    · exact h b b₁ hturn
    · exact ih hc hrest

/-- The pass over a list that returns if each of its turns does. -/
theorem exists_mapM_eq_ok_iff {f : α → Except ε β} {l : List α} :
    (∃ bs, l.mapM f = .ok bs) ↔ ∀ a ∈ l, ∃ b, f a = .ok b := by
  induction l with
  | nil => exact iff_of_true ⟨[], rfl⟩ fun a ha => absurd ha List.not_mem_nil
  | cons a l ih =>
    rw [List.forall_mem_cons, ← ih, List.mapM_cons]
    constructor
    · rintro ⟨bs, hrun⟩
      obtain ⟨b, hb, hrun⟩ := bind_eq_ok.mp hrun
      obtain ⟨bs', hbs', -⟩ := bind_eq_ok.mp hrun
      exact ⟨⟨b, hb⟩, bs', hbs'⟩
    · rintro ⟨⟨b, hb⟩, bs, hbs⟩
      exact ⟨b :: bs, bind_eq_ok.mpr ⟨b, hb, bind_eq_ok.mpr ⟨bs, hbs, rfl⟩⟩⟩

end Outcome
