/-
Lib/Transition.lean

Labelled transition systems and their finite runs.

A system is a step relation `step : σ → ε → σ → Prop`; a run records the list
of labels it has taken, so a property of a run may speak about the calls that
were issued as well as about the state that was reached.  Runs grow at their
right end: the induction over a run therefore peels the *last* step, which is
the form every invariant of the development needs.

`Guarded C step` keeps only the steps that meet `C`; the runs of a guarded
system are the runs of the system whose steps all meet the guard.
-/
import Mathlib

namespace Transition

variable {σ ε : Type*}

/-- `Run step s es t`: the labels `es`, taken in order, lead from `s` to `t`. -/
inductive Run (step : σ → ε → σ → Prop) (s : σ) : List ε → σ → Prop
  | nil : Run step s [] s
  | snoc {es : List ε} {t : σ} {e : ε} {u : σ} :
      Run step s es t → step t e u → Run step s (es ++ [e]) u

/-- The steps of `step` that meet `C` in the state they start from. -/
def Guarded (C : σ → ε → Prop) (step : σ → ε → σ → Prop) : σ → ε → σ → Prop :=
  fun s e t => C s e ∧ step s e t

variable {step : σ → ε → σ → Prop} {s t u : σ} {es fs : List ε} {e : ε}

/-! ### The invariant rule -/

/-- **Invariant rule.**  What holds at the start and is kept by every step
holds at the end of every run.  The invariant may mention the labels taken. -/
theorem Run.invariant {I : List ε → σ → Prop} (h : Run step s es t)
    (hnil : I [] s)
    (hsnoc : ∀ {es t e u}, I es t → step t e u → I (es ++ [e]) u) :
    I es t := by
  induction h with
  | nil => exact hnil
  | snoc _ hstep ih => exact hsnoc ih hstep

/-- The invariant rule for a property of states only. -/
theorem Run.keeps {I : σ → Prop} (h : Run step s es t) (hs : I s)
    (hstep : ∀ {t e u}, I t → step t e u → I u) : I t :=
  h.invariant (I := fun _ => I) hs hstep

/-! ### Building runs -/

theorem Run.single (h : step s e t) : Run step s [e] t :=
  (Run.nil.snoc h : Run step s ([] ++ [e]) t)

theorem Run.append (h : Run step s es t) (h' : Run step t fs u) :
    Run step s (es ++ fs) u := by
  induction h' with
  | nil => simpa using h
  | snoc _ hstep ih =>
    rw [← List.append_assoc]
    exact ih.snoc hstep

theorem Run.cons (h : step s e t) (h' : Run step t es u) :
    Run step s (e :: es) u := by
  simpa using (Run.single h).append h'

/-! ### Guarded runs -/

/-- A guarded run is a run. -/
theorem Run.unguard {C : σ → ε → Prop} (h : Run (Guarded C step) s es t) :
    Run step s es t := by
  induction h with
  | nil => exact .nil
  | snoc _ hstep ih => exact ih.snoc hstep.2

/-! ### Runs of functions -/

variable {f : σ → ε → σ}

/-- The guard holds at every step of a function over the labels. -/
def Meets (C : σ → ε → Prop) (f : σ → ε → σ) (s : σ) : List ε → Prop
  | [] => True
  | e :: es => C s e ∧ Meets C f (f s e) es

/-- The labels of a system whose step is a function always make a run. -/
theorem Run.foldl (s : σ) (es : List ε) : Run (fun s e t => t = f s e) s es (es.foldl f s) := by
  induction es generalizing s with
  | nil => exact .nil
  | cons e es ih => exact .cons rfl (ih (f s e))

theorem Run.guarded_foldl {C : σ → ε → Prop} {s : σ} {es : List ε} (h : Meets C f s es) :
    Run (Guarded C (fun s e t => t = f s e)) s es (es.foldl f s) := by
  induction es generalizing s with
  | nil => exact .nil
  | cons e es ih => exact .cons ⟨h.1, rfl⟩ (ih h.2)

end Transition
