/-
Lib/LastEntry.lean

Tables whose keys are ordered: the last entry, and the part of a table that a test selects.

The order of the keys is that of a rank, by which no two keys are equal.  The entries of a
table are kept in no order; its last entry is the one that no other is behind
(`last_eq_some`), whatever it was made of.
-/
import Sonic.Lib.Table

namespace Table

variable {K V R : Type*} [DecidableEq K]

/-! ### A part of a table -/

/-- The entries whose keys meet a test. -/
def restrict (p : K → Bool) (t : Table K V) : Table K V :=
  ⟨t.entries.filter fun e => p e.1, t.nodupKeys.sublist List.filter_sublist⟩

theorem lookup_restrict {p : K → Bool} {t : Table K V} {k : K} :
    (t.restrict p).lookup k = if p k then t.lookup k else none := by
  have hmem : ∀ v, (t.restrict p).lookup k = some v ↔ p k = true ∧ t.lookup k = some v := by
    intro v
    rw [← mem_entries (e := ⟨k, v⟩), ← mem_entries (e := ⟨k, v⟩)]
    show (⟨k, v⟩ : Sigma fun _ : K => V) ∈ t.entries.filter (fun e => p e.1) ↔ _
    rw [List.mem_filter]
    exact And.comm
  apply Option.ext
  intro v
  rw [hmem]
  split
  · next hp => exact and_iff_right hp
  · next hp => exact ⟨fun h => absurd h.1 hp, nofun⟩

/-! ### The last entry -/

section Last

variable [LinearOrder R] (rank : K → R)

/-- The later of two entries. -/
def later (best : Option (K × V)) (e : Sigma fun _ : K => V) : Option (K × V) :=
  match best with
  | none => some (e.1, e.2)
  | some b => if rank b.1 < rank e.1 then some (e.1, e.2) else some b

/-- The entry whose key is behind all others. -/
def last (t : Table K V) : Option (K × V) := t.entries.foldl (later rank) none

variable {rank} {t : Table K V}

variable (rank) in
omit [DecidableEq K] in
theorem foldl_later (l : List (Sigma fun _ : K => V)) :
    (l.foldl (later rank) none = none ∧ l = []) ∨
      ∃ b, l.foldl (later rank) none = some b ∧ (⟨b.1, b.2⟩ : Sigma fun _ : K => V) ∈ l ∧
        ∀ e ∈ l, rank e.1 ≤ rank b.1 := by
  induction l using List.reverseRecOn with
  | nil => exact Or.inl ⟨rfl, rfl⟩
  | append_singleton l e ih =>
    right
    rw [List.foldl_append]
    rcases ih with ⟨hnone, rfl⟩ | ⟨b, hb, hmem, hmax⟩
    · refine ⟨(e.1, e.2), by rw [hnone]; rfl, by simp, ?_⟩
      intro e' he'
      obtain rfl := List.mem_singleton.mp he'
      exact le_rfl
    · show ∃ b', later rank (l.foldl (later rank) none) e = some b' ∧ _
      rw [hb]
      by_cases hlt : rank b.1 < rank e.1
      · refine ⟨(e.1, e.2), if_pos hlt, by simp, ?_⟩
        intro e' he'
        rcases List.mem_append.mp he' with hl | he
        · exact (hmax e' hl).trans hlt.le
        · obtain rfl := List.mem_singleton.mp he
          exact le_rfl
      · refine ⟨b, if_neg hlt, List.mem_append_left _ hmem, ?_⟩
        intro e' he'
        rcases List.mem_append.mp he' with hl | he
        · exact hmax e' hl
        · obtain rfl := List.mem_singleton.mp he
          exact le_of_not_gt hlt

theorem last_eq_none_iff : t.last rank = none ↔ ∀ k, t.lookup k = none := by
  rcases foldl_later rank t.entries with ⟨hnone, hnil⟩ | ⟨b, hb, hmem, -⟩
  · refine ⟨fun _ k => ?_, fun _ => hnone⟩
    cases hk : t.lookup k with
    | none => rfl
    | some v =>
      have hmem := mem_entries.mpr (show t.lookup (⟨k, v⟩ : Sigma fun _ : K => V).1 = some v from hk)
      rw [hnil] at hmem
      cases hmem
  · have hsome : t.last rank = some b := hb
    rw [hsome]
    refine ⟨nofun, fun hall => ?_⟩
    have hlook := mem_entries.mp hmem
    rw [hall] at hlook
    cases hlook

/-- The last entry is in the table, and no key is behind it. -/
theorem of_last_eq_some {e : K × V} (h : t.last rank = some e) :
    t.lookup e.1 = some e.2 ∧ ∀ k v, t.lookup k = some v → rank k ≤ rank e.1 := by
  rcases foldl_later rank t.entries with ⟨hnone, -⟩ | ⟨b, hb, hmem, hmax⟩
  · have hnone' : t.last rank = none := hnone
    rw [h] at hnone'
    cases hnone'
  · obtain rfl := Option.some.inj (h.symm.trans hb)
    refine ⟨mem_entries.mp hmem, fun k v hk => ?_⟩
    exact hmax ⟨k, v⟩ (mem_entries.mpr hk)

/-- **The last entry is the one that no key is behind.** -/
theorem last_eq_some (hrank : Function.Injective rank) {e : K × V} :
    t.last rank = some e ↔
      t.lookup e.1 = some e.2 ∧ ∀ k v, t.lookup k = some v → rank k ≤ rank e.1 := by
  constructor
  · exact of_last_eq_some
  · rintro ⟨hlook, hmax⟩
    cases hlast : t.last rank with
    | none =>
      rw [last_eq_none_iff.mp hlast] at hlook
      cases hlook
    | some e' =>
      obtain ⟨hlook', hmax'⟩ := of_last_eq_some hlast
      have hkey : e'.1 = e.1 :=
        hrank (le_antisymm (hmax _ _ hlook') (hmax' _ _ hlook))
      rw [hkey, hlook] at hlook'
      rw [Prod.ext hkey (Option.some.inj hlook').symm]

end Last

end Table
