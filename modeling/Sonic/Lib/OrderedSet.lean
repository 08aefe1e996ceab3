/-
Lib/OrderedSet.lean

Sets ordered by a key, as an ordered container keeps them.

The container is the list of its elements in the order of their keys.  It tells
elements apart by their keys only: an element whose key is already there is not
inserted, and erasing an element erases the one with its key.  The keys are a
function that may change between two operations; as long as it changes at no
element of the container, the list stays ordered (`Ordered.congr`).
-/
import Mathlib

namespace OrderedSet

variable {α κ : Type*} [LinearOrder κ] (key : α → κ)

/-- Insert an element, unless one with its key is there. -/
def insert (a : α) : List α → List α
  | [] => [a]
  | b :: l =>
    if key a < key b then a :: b :: l
    else if key b < key a then b :: insert a l
    else b :: l

/-- Erase the element with the key of `a`. -/
def erase (a : α) : List α → List α
  | [] => []
  | b :: l =>
    if key a < key b then b :: l
    else if key b < key a then b :: erase a l
    else l

/-- The keys increase along the list. -/
def Ordered (l : List α) : Prop := l.Pairwise fun a b => key a < key b

variable {key} {key' : α → κ} {a b : α} {l : List α}

theorem Ordered.congr (h : Ordered key l) (hkey : ∀ b ∈ l, key' b = key b) :
    Ordered key' l := by
  refine List.Pairwise.imp_of_mem ?_ h
  intro b c hb hc hlt
  rwa [hkey b hb, hkey c hc]

theorem mem_insert_subset (h : b ∈ insert key a l) : b = a ∨ b ∈ l := by
  induction l with
  | nil => simpa [insert] using h
  | cons c l ih =>
    unfold insert at h
    split at h
    · simpa using h
    · split at h
      · rcases List.mem_cons.mp h with rfl | hmem
        · exact Or.inr (by simp)
        · exact (ih hmem).imp_right fun hl => List.mem_cons_of_mem _ hl
      · exact Or.inr h

/-- Nothing is lost by an insertion. -/
theorem mem_insert_of_mem (h : b ∈ l) : b ∈ insert key a l := by
  induction l with
  | nil => simp at h
  | cons c l ih =>
    unfold insert
    split
    · exact List.mem_cons_of_mem _ h
    · split
      · rcases List.mem_cons.mp h with rfl | hmem
        · simp
        · exact List.mem_cons_of_mem _ (ih hmem)
      · exact h

/-- An element is inserted if no other one has its key. -/
theorem mem_insert_self (h : ∀ b ∈ l, key b = key a → b = a) : a ∈ insert key a l := by
  induction l with
  | nil => simp [insert]
  | cons c l ih =>
    unfold insert
    split
    · simp
    · next hac =>
        split
        · exact List.mem_cons_of_mem _ (ih fun b hb => h b (List.mem_cons_of_mem _ hb))
        · next hca =>
            have hkey : key c = key a := le_antisymm (not_lt.mp hac) (not_lt.mp hca)
            simp [h c (by simp) hkey]

theorem Ordered.insert (h : Ordered key l) : Ordered key (OrderedSet.insert key a l) := by
  induction l with
  | nil => exact List.pairwise_singleton _ _
  | cons c l ih =>
    obtain ⟨hc, hl⟩ := List.pairwise_cons.mp h
    unfold OrderedSet.insert
    split
    · next hac =>
        refine List.pairwise_cons.mpr ⟨?_, h⟩
        intro b hb
        rcases List.mem_cons.mp hb with rfl | hb
        · exact hac
        · exact hac.trans (hc b hb)
    · split
      · next hca =>
          refine List.pairwise_cons.mpr ⟨?_, ih hl⟩
          intro b hb
          rcases mem_insert_subset hb with rfl | hb
          · exact hca
          · exact hc b hb
      · exact h

/-- What is left after an erasure. -/
theorem mem_erase (h : Ordered key l) : b ∈ erase key a l ↔ b ∈ l ∧ key b ≠ key a := by
  induction l with
  | nil => simp [erase]
  | cons c l ih =>
    obtain ⟨hc, hl⟩ := List.pairwise_cons.mp h
    unfold erase
    split
    · next hac =>
        -- every key in the list is greater
        refine ⟨fun hb => ⟨hb, ?_⟩, fun hb => hb.1⟩
        rcases List.mem_cons.mp hb with rfl | hb
        · exact hac.ne'
        · exact (hac.trans (hc b hb)).ne'
    · next hac =>
        split
        · next hca =>
            rw [List.mem_cons, ih hl, List.mem_cons]
            constructor
            · rintro (rfl | ⟨hb, hne⟩)
              · exact ⟨Or.inl rfl, hca.ne⟩
              · exact ⟨Or.inr hb, hne⟩
            · rintro ⟨rfl | hb, hne⟩
              · exact Or.inl rfl
              · exact Or.inr ⟨hb, hne⟩
        · next hca =>
            have hkey : key c = key a := le_antisymm (not_lt.mp hac) (not_lt.mp hca)
            constructor
            · intro hb
              exact ⟨List.mem_cons_of_mem _ hb, (hkey ▸ hc b hb).ne'⟩
            · rintro ⟨hb, hne⟩
              rcases List.mem_cons.mp hb with rfl | hb
              · exact absurd hkey hne
              · exact hb

theorem Ordered.erase (h : Ordered key l) : Ordered key (OrderedSet.erase key a l) := by
  induction l with
  | nil => exact List.Pairwise.nil
  | cons c l ih =>
    obtain ⟨hc, hl⟩ := List.pairwise_cons.mp h
    unfold OrderedSet.erase
    split
    · exact h
    · split
      · refine List.pairwise_cons.mpr ⟨?_, ih hl⟩
        intro b hb
        exact hc b ((mem_erase hl).mp hb).1
      · exact hl

/-- The elements of an ordered list differ. -/
theorem Ordered.nodup (h : Ordered key l) : l.Nodup := by
  refine List.Pairwise.imp ?_ h
  rintro a b hlt rfl
  exact absurd hlt (lt_irrefl _)

/-- Elements of an ordered list with the same key are the same. -/
theorem Ordered.eq_of_key (h : Ordered key l) (ha : a ∈ l) (hb : b ∈ l)
    (hkey : key a = key b) : a = b := by
  induction l with
  | nil => simp at ha
  | cons c l ih =>
    obtain ⟨hc, hl⟩ := List.pairwise_cons.mp h
    rcases List.mem_cons.mp ha with rfl | hal
    · rcases List.mem_cons.mp hb with rfl | hbl
      · rfl
      · exact absurd hkey (hc b hbl).ne
    · rcases List.mem_cons.mp hb with rfl | hbl
      · exact absurd hkey (hc a hal).ne'
      · exact ih hl hal hbl

end OrderedSet
