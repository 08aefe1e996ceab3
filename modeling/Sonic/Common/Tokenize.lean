/-
Common/Tokenize.lean

`tokenize`: splitting a string at a character, as `getline` does.

`getline` reads up to the next separator or the end of the string, and fails
when there is nothing left to read.  So an empty token at the very end is not
returned; all others are.
-/
import Mathlib

namespace Swss

/-- The tokens of the rest of a stream, of which `tmp` has been read already. -/
def getlines (token : Char) (tmp : List Char) : List Char → List (List Char)
  | [] => if tmp = [] then [] else [tmp]
  | c :: iss =>
    if c = token then tmp :: getlines token [] iss
    else getlines token (tmp ++ [c]) iss

/-- `tokenize`. -/
def tokenize (str : String) (token : Char) : List String :=
  (getlines token [] str.toList).map String.ofList

variable {token : Char} {tmp l r s : List Char}

theorem getlines_of_not_mem (h : token ∉ l) :
    getlines token tmp l = if tmp ++ l = [] then [] else [tmp ++ l] := by
  induction l generalizing tmp with
  | nil => simp [getlines]
  | cons c l ih =>
    have hc : c ≠ token := fun he => h (he ▸ List.mem_cons_self)
    rw [getlines, if_neg hc, ih fun hmem => h (List.mem_cons_of_mem c hmem)]
    simp

/-- What is before the first separator is the first token. -/
theorem getlines_append (h : token ∉ l) :
    getlines token tmp (l ++ token :: r) = (tmp ++ l) :: getlines token [] r := by
  induction l generalizing tmp with
  | nil => simp [getlines]
  | cons c l ih =>
    have hc : c ≠ token := fun he => h (he ▸ List.mem_cons_self)
    rw [List.cons_append, getlines, if_neg hc, ih fun hmem => h (List.mem_cons_of_mem c hmem)]
    simp

/-- A text is its first token, or its first token, the separator and the rest. -/
theorem exists_first (token : Char) (s : List Char) :
    token ∉ s ∨ ∃ l r, token ∉ l ∧ s = l ++ token :: r := by
  by_cases h : token ∈ s
  · obtain ⟨l, r, hs, hl⟩ := List.eq_append_cons_of_mem h
    exact Or.inr ⟨l, r, hl, hs⟩
  · exact Or.inl h

/-- Items that are joined by the separator are told apart again. -/
theorem getlines_intercalate {items : List (List Char)} (hitems : ∀ item ∈ items, token ∉ item)
    (hlast : items.getLast? ≠ some []) :
    getlines token [] ([token].intercalate items) = items := by
  induction items with
  | nil => rfl
  | cons item items ih =>
    cases items with
    | nil =>
      have hne : item ≠ [] := by simpa using hlast
      rw [List.intercalate_singleton, getlines_of_not_mem (hitems item (by simp))]
      simp [hne]
    | cons item' items =>
      rw [List.intercalate_cons_cons, List.append_assoc, List.singleton_append,
        getlines_append (hitems item (by simp)),
        ih (fun i hi => hitems i (List.mem_cons_of_mem item hi)) (by simpa using hlast)]
      rfl

/-- The texts of two tokens: a separator at the very end is not seen. -/
theorem getlines_eq_pair (h : getlines token [] s = [l, r]) :
    token ∉ l ∧ token ∉ r ∧
      (s = l ++ token :: r ∧ r ≠ [] ∨ s = l ++ token :: (r ++ [token])) := by
  rcases exists_first token s with hs | ⟨l', s', hl', rfl⟩
  · rw [getlines_of_not_mem hs] at h
    split at h <;> simp at h
  rw [getlines_append hl', List.nil_append] at h
  obtain ⟨hl, hrest⟩ := List.cons.inj h
  subst hl
  rcases exists_first token s' with hs | ⟨r', s'', hr', rfl⟩
  · rw [getlines_of_not_mem hs, List.nil_append] at hrest
    split at hrest
    · simp at hrest
    · next hne =>
        obtain ⟨hr, -⟩ := List.cons.inj hrest
        exact ⟨hl', hr ▸ hs, Or.inl ⟨by rw [hr], hr ▸ hne⟩⟩
  · rw [getlines_append hr', List.nil_append] at hrest
    obtain ⟨hr, hend⟩ := List.cons.inj hrest
    refine ⟨hl', hr ▸ hr', Or.inr ?_⟩
    rcases exists_first token s'' with hs | ⟨l'', r'', hl'', rfl⟩
    · rw [getlines_of_not_mem hs] at hend
      split at hend
      · next hnil =>
          rw [hr, show s'' = [] from hnil]
      · simp at hend
    · rw [getlines_append hl''] at hend
      simp at hend

/-- A text is split at its first separator. -/
theorem span_of_not_mem (h : token ∉ l) (rest : List Char) :
    (l ++ token :: rest).takeWhile (· ≠ token) = l ∧
      ((l ++ token :: rest).dropWhile (· ≠ token)).tail = rest := by
  have hl : ∀ c ∈ l, decide (c ≠ token) = true := by
    intro c hc
    have hne : c ≠ token := fun he => h (he ▸ hc)
    simpa using hne
  constructor
  · rw [List.takeWhile_append_of_pos hl]
    simp
  · rw [List.dropWhile_append_of_pos hl]
    simp

/-- What is in a text of tokens is in a token or in a separator. -/
theorem mem_intercalate {sep : List Char} {tokens : List (List Char)} {c : Char}
    (h : c ∈ sep.intercalate tokens) : c ∈ sep ∨ ∃ token ∈ tokens, c ∈ token := by
  match tokens with
  | [] => cases h
  | [token] =>
    rw [List.intercalate_singleton] at h
    exact Or.inr ⟨token, List.mem_singleton_self token, h⟩
  | token :: token' :: tokens =>
    rw [List.intercalate_cons_cons, List.mem_append, List.mem_append] at h
    rcases h with (h | h) | h
    · exact Or.inr ⟨token, by simp, h⟩
    · exact Or.inl h
    · rcases mem_intercalate h with h | ⟨token'', hmem, h⟩
      · exact Or.inl h
      · exact Or.inr ⟨token'', List.mem_cons_of_mem token hmem, h⟩

end Swss
