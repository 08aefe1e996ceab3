/-
Lib/Visit.lean

Visiting the elements of a list.

A visit changes a state that the elements share.  It achieves something for the element that
it visits, and keeps what the visits before it have achieved.
-/
import Mathlib.Data.List.Basic

namespace List

variable {α σ : Type*} {f : σ → α → σ} {s : σ} {l : List α}

/-- **Visiting the elements of a list.**  Every visit keeps `I` and achieves `Q` of what it
visits, and later visits do not undo that. -/
theorem foldl_visits {I : σ → Prop} {Q : α → σ → Prop} (hs : I s)
    (hvisit : ∀ {s x}, x ∈ l → I s → I (f s x) ∧ Q x (f s x))
    (hkeeps : ∀ {s x y}, x ∈ l → I s → Q y s → Q y (f s x)) :
    I (l.foldl f s) ∧ ∀ x ∈ l, Q x (l.foldl f s) := by
  induction l generalizing s with
  | nil => exact ⟨hs, fun x hx => (nomatch hx)⟩
  | cons a l ih =>
    have ha := hvisit List.mem_cons_self hs
    have hl := ih ha.1 (fun hx => hvisit (List.mem_cons_of_mem a hx))
      (fun hx => hkeeps (List.mem_cons_of_mem a hx))
    refine ⟨hl.1, fun x hx => ?_⟩
    cases hx with
    | tail _ hx => exact hl.2 x hx
    | head =>
      -- what the first visit achieves is still there after the others
      refine (l.foldlRecOn f (motive := fun s => I s ∧ Q a s) ha fun s hs y hy => ?_).2
      have hy := List.mem_cons_of_mem a hy
      exact ⟨(hvisit hy hs.1).1, hkeeps hy hs.1 hs.2⟩

end List
