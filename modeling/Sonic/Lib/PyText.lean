/-
Lib/PyText.lean

Cutting a text at a separator and joining it again, as Python does.

`split` cuts at every separator of one character and is undone by `join`; `join` is undone by
`split` exactly if no part has the separator in it (`split_join_iff`).  `splitOnce` cuts at the
first separator only, which may be longer than one character: a text that begins with a name
and the separator is cut after the name exactly if no earlier separator overlaps the two
(`splitOnce_append_iff`).
-/
import Mathlib

namespace PyText

/-- `s.upper()`, of the letters of ASCII. -/
def upper (s : String) : String := String.ofList (s.toList.map Char.toUpper)

/-! ### Every separator -/

/-- `s.split(c)`. -/
def split (c : Char) (s : String) : List String := (s.toList.splitOn c).map String.ofList

/-- `c.join(parts)`. -/
def join (c : Char) (parts : List String) : String :=
  String.ofList ([c].intercalate (parts.map String.toList))

variable {c : Char} {s : String} {parts : List String}

theorem split_ne_nil : split c s ≠ [] := by
  rw [split, ne_eq, List.map_eq_nil_iff]
  exact List.splitOn_ne_nil _ _

theorem join_split : join c (split c s) = s := by
  have htexts : (split c s).map String.toList = s.toList.splitOn c := by
    rw [split, List.map_map]
    exact List.map_id'' (fun _ => String.toList_ofList) _
  rw [join, htexts, List.intercalate_splitOn, String.ofList_toList]

/-- No part of a text that was cut has the separator in it. -/
theorem not_mem_of_mem_splitOn {α : Type*} [DecidableEq α] {a : α} {l part : List α}
    (h : part ∈ l.splitOn a) : a ∉ part := by
  induction l generalizing part with
  | nil =>
    obtain rfl := List.mem_singleton.mp h
    exact List.not_mem_nil
  | cons b l ih =>
    obtain ⟨first, rest, hsplit⟩ := List.exists_cons_of_ne_nil (List.splitOn_ne_nil a l)
    rw [hsplit] at ih
    by_cases hb : b = a
    · have hcons : (b :: l).splitOn a = [] :: first :: rest := by
        rw [List.splitOn_cons_eq_if_modifyHead, if_pos (by simpa using hb), hsplit]
      rw [hcons] at h
      rcases List.mem_cons.mp h with rfl | h
      · exact List.not_mem_nil
      · exact ih h
    · have hcons : (b :: l).splitOn a = (b :: first) :: rest := by
        rw [List.splitOn_cons_eq_if_modifyHead, if_neg (by simpa using hb), hsplit]
        rfl
      rw [hcons] at h
      rcases List.mem_cons.mp h with rfl | h
      · intro ha
        rcases List.mem_cons.mp ha with rfl | ha
        · exact hb rfl
        · exact ih List.mem_cons_self ha
      · exact ih (List.mem_cons_of_mem _ h)

theorem not_mem_of_mem_split {part : String} (h : part ∈ split c s) : c ∉ part.toList := by
  obtain ⟨text, htext, rfl⟩ := List.mem_map.mp h
  rw [String.toList_ofList]
  exact not_mem_of_mem_splitOn htext

/-- **Joined parts are cut as they were exactly if the separator is in none of them.** -/
theorem split_join_iff (hne : parts ≠ []) :
    split c (join c parts) = parts ↔ ∀ part ∈ parts, c ∉ part.toList := by
  constructor
  · intro h part hpart
    rw [← h] at hpart
    exact not_mem_of_mem_split hpart
  · intro h
    rw [split, join, String.toList_ofList, List.splitOn_intercalate, List.map_map]
    · exact List.map_id'' (fun _ => String.ofList_toList) _
    · intro text htext
      obtain ⟨part, hpart, rfl⟩ := List.mem_map.mp htext
      exact h part hpart
    · simpa using hne

/-- No part at all is read as one empty part. -/
theorem split_join_nil : split c (join c []) = [""] := by
  rw [join, split, String.toList_ofList]
  rfl

theorem join_singleton : join c [s] = s := by
  rw [join]
  simp

/-! ### The first separator -/

/-- Cut a text before and after the first separator in it. -/
def cut (sep : List Char) : List Char → Option (List Char × List Char)
  | [] => none
  | c :: cs =>
    if sep ≠ [] ∧ sep <+: c :: cs then some ([], (c :: cs).drop sep.length)
    else (cut sep cs).map fun p => (c :: p.1, p.2)

/-- `(a, b) = s.split(sep, 1)`; without a separator in `s` this is a `ValueError`. -/
def splitOnce (sep s : String) : Option (String × String) :=
  (cut sep.toList s.toList).map fun p => (String.ofList p.1, String.ofList p.2)

variable {sep p r l : List Char}

theorem eq_of_cut (h : cut sep l = some (p, r)) : l = p ++ sep ++ r := by
  induction l generalizing p with
  | nil => cases h
  | cons c cs ih =>
    rw [cut] at h
    split_ifs at h with hsep
    · obtain ⟨rfl, rfl⟩ := Prod.mk.inj (Option.some.inj h)
      rw [List.nil_append]
      exact (List.prefix_iff_eq_append.mp hsep.2).symm
    · obtain ⟨⟨p', r'⟩, hcut, heq⟩ := Option.map_eq_some_iff.mp h
      obtain ⟨rfl, rfl⟩ := Prod.mk.inj heq
      rw [ih hcut]
      rfl

/-- What follows the name and the separator does not matter for the cut. -/
theorem cut_append_iff (r : List Char) :
    cut sep (p ++ sep ++ r) = some (p, r) ↔ cut sep (p ++ sep) = some (p, []) := by
  induction p with
  | nil =>
    cases sep with
    | nil =>
      have hnone : ∀ l, cut [] l = none := by
        intro l
        induction l with
        | nil => rfl
        | cons c cs ih =>
          rw [cut, if_neg fun h => h.1 rfl, ih]
          rfl
      rw [hnone, hnone]
      exact iff_of_false (Option.some_ne_none _).symm (Option.some_ne_none _).symm
    | cons c cs =>
      have hleft : cut (c :: cs) (c :: (cs ++ r)) = some ([], r) := by
        rw [cut, if_pos ⟨List.cons_ne_nil _ _, List.prefix_append _ _⟩]
        exact congrArg (fun rest => some ([], rest)) List.drop_left
      have hright : cut (c :: cs) (c :: cs) = some ([], []) := by
        rw [cut, if_pos ⟨List.cons_ne_nil _ _, List.prefix_rfl⟩, List.drop_length]
      exact iff_of_true hleft hright
  | cons c p ih =>
    have hprefix : sep <+: c :: (p ++ sep ++ r) ↔ sep <+: c :: (p ++ sep) := by
      constructor
      · intro h
        refine List.prefix_of_prefix_length_le h ?_ ?_
        · exact List.cons_prefix_cons.mpr ⟨rfl, List.prefix_append _ _⟩
        · simp
          omega
      · exact fun h => h.trans (List.cons_prefix_cons.mpr ⟨rfl, List.prefix_append _ _⟩)
    rw [List.cons_append, List.cons_append, cut, cut]
    by_cases hsep : sep ≠ [] ∧ sep <+: c :: (p ++ sep)
    · rw [if_pos hsep, if_pos ⟨hsep.1, hprefix.mpr hsep.2⟩]
      exact iff_of_false (by simp) (by simp)
    · rw [if_neg hsep, if_neg fun h => hsep ⟨h.1, hprefix.mp h.2⟩]
      have hmap : ∀ (x : Option (List Char × List Char)) (r : List Char),
          x.map (fun q => (c :: q.1, q.2)) = some (c :: p, r) ↔ x = some (p, r) := by
        intro x r
        rcases x with - | ⟨q, r'⟩ <;> simp
      rw [hmap, hmap, ih]

theorem eq_of_splitOnce {sep name table row : String} (h : splitOnce sep name = some (table, row)) :
    name = table ++ sep ++ row := by
  obtain ⟨⟨p, r⟩, hcut, heq⟩ := Option.map_eq_some_iff.mp h
  obtain ⟨rfl, rfl⟩ := Prod.mk.inj heq
  refine String.toList_inj.mp ?_
  rw [String.toList_append, String.toList_append, String.toList_ofList, String.toList_ofList]
  exact eq_of_cut hcut

/-- **A name and a separator are cut off exactly if they are without what follows.** -/
theorem splitOnce_append_iff {sep table : String} (row : String) :
    splitOnce sep (table ++ sep ++ row) = some (table, row) ↔
      splitOnce sep (table ++ sep) = some (table, "") := by
  have hof : ∀ (x : Option (List Char × List Char)) (a b : String),
      x.map (fun p => (String.ofList p.1, String.ofList p.2)) = some (a, b) ↔
        x = some (a.toList, b.toList) := by
    intro x a b
    rcases x with - | ⟨p, r⟩
    · simp
    · rw [Option.map_some, Option.some_inj, Option.some_inj, Prod.mk.injEq, Prod.mk.injEq,
        ← String.toList_inj, ← String.toList_inj, String.toList_ofList, String.toList_ofList]
  rw [splitOnce, splitOnce, hof, hof, String.toList_append, String.toList_append]
  exact cut_append_iff row.toList

/-- A separator of one character that the name does not have. -/
theorem splitOnce_of_not_mem {table : String} (h : c ∉ table.toList) :
    splitOnce (String.ofList [c]) (table ++ String.ofList [c]) = some (table, "") := by
  have hcut : ∀ p : List Char, c ∉ p → cut [c] (p ++ [c]) = some (p, []) := by
    intro p hp
    induction p with
    | nil =>
      show cut [c] [c] = some ([], [])
      rw [cut, if_pos ⟨List.cons_ne_nil _ _, List.prefix_rfl⟩]
      rfl
    | cons a p ih =>
      have hne : c ≠ a := fun h => hp (h ▸ List.mem_cons_self)
      rw [List.cons_append, cut, if_neg, ih fun h => hp (List.mem_cons_of_mem _ h)]
      · rfl
      · rintro ⟨-, hpre⟩
        exact hne (List.cons_prefix_cons.mp hpre).1
  rw [splitOnce, String.toList_append, String.toList_ofList, hcut _ h]
  simp

end PyText
