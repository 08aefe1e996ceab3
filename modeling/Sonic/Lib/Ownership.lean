/-
Lib/Ownership.lean

Objects and their owners.

A manager keeps the objects that it has created in tables of its own.  Nothing is leaked and
nothing is removed twice when every object that is there has exactly one owner (`Owned`):
the owners' objects are all there, what is there has an owner, and no two owners share an
object.  A new object for an owner that has none keeps this, and so does the removal of an
owner with its object.  An identifier is new when those in use are all below it (`Given`).
-/
import Sonic.Lib.Table
import Mathlib.Logic.ExistsUnique
import Mathlib.Tactic

variable {O I : Type*}

/-- Every object that is there has one owner, and an owner has an object that is there. -/
structure Owned (owner : O → Option I) (live : I → Prop) : Prop where
  live_of : ∀ {k i}, owner k = some i → live i
  owned : ∀ {i}, live i → ∃ k, owner k = some i
  inj : ∀ {k k' i}, owner k = some i → owner k' = some i → k = k'

namespace Owned

variable {owner owner' : O → Option I} {live live' : I → Prop} {k : O} {i : I}

theorem empty : Owned (fun _ : O => none) (fun _ : I => False) :=
  ⟨nofun, nofun, nofun⟩

theorem congr (h : Owned owner live) (howner : ∀ k, owner' k = owner k)
    (hlive : ∀ i, live' i ↔ live i) : Owned owner' live' := by
  refine ⟨fun hk => ?_, fun hi => ?_, fun hk hk' => ?_⟩
  · exact (hlive _).mpr (h.live_of (howner _ ▸ hk))
  · obtain ⟨k, hk⟩ := h.owned ((hlive _).mp hi)
    exact ⟨k, (howner k).trans hk⟩
  · exact h.inj (howner _ ▸ hk) (howner _ ▸ hk')

variable [DecidableEq O]

/-- A new object, for an owner that has none. -/
theorem insert (h : Owned owner live) (hk : owner k = none) (hi : ¬ live i)
    (howner : ∀ k', owner' k' = if k' = k then some i else owner k')
    (hlive : ∀ j, live' j ↔ j = i ∨ live j) : Owned owner' live' := by
  have hold : ∀ {k' j}, owner' k' = some j → (k' = k ∧ j = i) ∨ (k' ≠ k ∧ owner k' = some j) := by
    intro k' j hk'
    rw [howner] at hk'
    split at hk'
    · next heq => exact Or.inl ⟨heq, (Option.some.inj hk').symm⟩
    · next hne => exact Or.inr ⟨hne, hk'⟩
  refine ⟨fun {k' j} hk' => ?_, fun {j} hj => ?_, fun {k₁ k₂ j} hk₁ hk₂ => ?_⟩
  · rcases hold hk' with ⟨rfl, rfl⟩ | ⟨_, hk'⟩
    · exact (hlive _).mpr (Or.inl rfl)
    · exact (hlive _).mpr (Or.inr (h.live_of hk'))
  · rcases (hlive j).mp hj with rfl | hj
    · exact ⟨k, by rw [howner, if_pos rfl]⟩
    · obtain ⟨k', hk'⟩ := h.owned hj
      have hne : k' ≠ k := by
        rintro rfl
        rw [hk] at hk'
        cases hk'
      exact ⟨k', by rw [howner, if_neg hne, hk']⟩
  · rcases hold hk₁ with ⟨rfl, rfl⟩ | ⟨_, hk₁⟩
    · rcases hold hk₂ with ⟨rfl, _⟩ | ⟨_, hk₂⟩
      · rfl
      · exact absurd (h.live_of hk₂) hi
    · rcases hold hk₂ with ⟨rfl, rfl⟩ | ⟨_, hk₂⟩
      · exact absurd (h.live_of hk₁) hi
      · exact h.inj hk₁ hk₂

/-- Two new objects, for two owners that have none. -/
theorem insert_pair (k₁ k₂ : O) (i₁ i₂ : I) (h : Owned owner live) (hk₁ : owner k₁ = none)
    (hk₂ : owner k₂ = none) (hk : k₁ ≠ k₂) (hi₁ : ¬ live i₁) (hi₂ : ¬ live i₂) (hi : i₁ ≠ i₂)
    (howner : ∀ k, owner' k = if k = k₁ then some i₁ else if k = k₂ then some i₂ else owner k)
    (hlive : ∀ j, live' j ↔ j = i₁ ∨ j = i₂ ∨ live j) : Owned owner' live' := by
  have hsecond : Owned (fun k => if k = k₂ then some i₂ else owner k) (fun j => j = i₂ ∨ live j) :=
    h.insert hk₂ hi₂ (fun _ => rfl) fun _ => Iff.rfl
  exact hsecond.insert ((if_neg hk).trans hk₁) (not_or.mpr ⟨hi, hi₁⟩) howner hlive

/-- An owner goes with its object. -/
theorem erase (h : Owned owner live) (hk : owner k = some i)
    (howner : ∀ k', owner' k' = if k' = k then none else owner k')
    (hlive : ∀ j, live' j ↔ j ≠ i ∧ live j) : Owned owner' live' := by
  have hold : ∀ {k' j}, owner' k' = some j → k' ≠ k ∧ owner k' = some j := by
    intro k' j hk'
    rw [howner] at hk'
    split at hk'
    · cases hk'
    · next hne => exact ⟨hne, hk'⟩
  refine ⟨fun {k' j} hk' => ?_, fun {j} hj => ?_, fun hk₁ hk₂ => h.inj (hold hk₁).2 (hold hk₂).2⟩
  · obtain ⟨hne, hk'⟩ := hold hk'
    refine (hlive j).mpr ⟨?_, h.live_of hk'⟩
    rintro rfl
    exact hne (h.inj hk' hk)
  · obtain ⟨hne, hj⟩ := (hlive j).mp hj
    obtain ⟨k', hk'⟩ := h.owned hj
    have hne' : k' ≠ k := by
      rintro rfl
      exact hne (Option.some.inj (hk'.symm.trans hk))
    exact ⟨k', by rw [howner, if_neg hne', hk']⟩

end Owned

/-! ### Identifiers -/

namespace Table

variable {V : Type*} {t : Table ℕ V} {next n k : ℕ} {v : V}

/-- The identifiers that are in use have been given, and none of them is 0. -/
def Given (t : Table ℕ V) (next : ℕ) : Prop := ∀ i ∈ t, 0 < i ∧ i < next

namespace Given

theorem not_mem (h : t.Given next) : next ∉ t := fun hmem => Nat.lt_irrefl _ (h _ hmem).2

theorem ne_of_lookup (h : t.Given next) (hk : t.lookup k = some v) : k ≠ next := by
  rintro rfl
  exact h.not_mem (AList.lookup_isSome.mp (by rw [hk]; rfl))

theorem empty : (∅ : Table ℕ V).Given next := nofun

theorem mono (h : t.Given next) (hn : next ≤ n) : t.Given n :=
  fun i hi => ⟨(h i hi).1, (h i hi).2.trans_le hn⟩

theorem insert (h : t.Given next) (hk : 0 < k ∧ k < n) (hn : next ≤ n) :
    Given (t.insert k v) n := by
  intro i hi
  rcases (AList.mem_insert t).mp hi with rfl | hi
  · exact hk
  · exact h.mono hn i hi

theorem erase (h : t.Given next) : Given (t.erase k) next :=
  fun i hi => h i (AList.mem_erase.mp hi).2

end Given

/-- Nobody owns anything. -/
theorem owned_empty {K : Type*} [DecidableEq K] :
    Owned (AList.lookup · (∅ : Table K ℕ)) (· ∈ (∅ : Table ℕ V)) :=
  Owned.empty.congr (fun _ => rfl) fun i => iff_of_false (AList.notMem_empty i) id

end Table
