/-
Lib/StructPack.lean

Unsigned numbers as bytes, in either byte order.

A field of a format has a width and a value.  `packs` writes fields one after the other, if every
value fits its width, and `unpacks` reads fields of given widths from bytes that are exactly as
long; each undoes the other (`unpacks_packs`, `packs_unpacks`).
-/
import Mathlib.Data.List.Basic
import Mathlib.Algebra.Order.Ring.Nat
import Mathlib.Data.Nat.Basic
import Mathlib.Tactic.Ring

namespace StructPack

/-- The byte orders `<` and `!`. -/
inductive Order where
  | little
  | big
  deriving DecidableEq

/-! ### One number -/

def lowFirst : ℕ → ℕ → List UInt8
  | 0, _ => []
  | width + 1, n => UInt8.ofNat n :: lowFirst width (n / 256)

def numberOf : List UInt8 → ℕ
  | [] => 0
  | b :: bs => b.toNat + 256 * numberOf bs

theorem length_lowFirst (width n : ℕ) : (lowFirst width n).length = width := by
  induction width generalizing n with
  | zero => rfl
  | succ width ih => rw [lowFirst, List.length_cons, ih]

theorem numberOf_lowFirst {width n : ℕ} (h : n < 256 ^ width) :
    numberOf (lowFirst width n) = n := by
  induction width generalizing n with
  | zero =>
    have hzero : n = 0 := Nat.lt_one_iff.mp h
    rw [hzero]
    rfl
  | succ width ih =>
    have hdiv : n / 256 < 256 ^ width :=
      Nat.div_lt_of_lt_mul (by rwa [Nat.pow_succ, Nat.mul_comm] at h)
    rw [lowFirst, numberOf, ih hdiv, UInt8.toNat_ofNat']
    exact Nat.mod_add_div n 256

theorem lowFirst_numberOf (bs : List UInt8) : lowFirst bs.length (numberOf bs) = bs := by
  induction bs with
  | nil => rfl
  | cons b bs ih =>
    have hb := UInt8.toNat_lt b
    have hmod : UInt8.ofNat (b.toNat + 256 * numberOf bs) = b := by
      refine UInt8.toNat_inj.mp ?_
      rw [UInt8.toNat_ofNat']
      omega
    have hdiv : (b.toNat + 256 * numberOf bs) / 256 = numberOf bs := by omega
    rw [List.length_cons, numberOf, lowFirst, hmod, hdiv, ih]

theorem numberOf_lt (bs : List UInt8) : numberOf bs < 256 ^ bs.length := by
  induction bs with
  | nil => exact Nat.one_pos
  | cons b bs ih =>
    have hb := UInt8.toNat_lt b
    rw [List.length_cons, numberOf, Nat.pow_succ]
    omega

/-- The bytes of a number in an order. -/
def Order.bytes (o : Order) (width n : ℕ) : List UInt8 :=
  match o with
  | .little => lowFirst width n
  | .big => (lowFirst width n).reverse

def Order.number (o : Order) (bs : List UInt8) : ℕ :=
  match o with
  | .little => numberOf bs
  | .big => numberOf bs.reverse

variable (o : Order)

theorem length_bytes (width n : ℕ) : (o.bytes width n).length = width := by
  cases o with
  | little => exact length_lowFirst width n
  | big => exact (List.length_reverse ..).trans (length_lowFirst width n)

theorem number_bytes {width n : ℕ} (h : n < 256 ^ width) : o.number (o.bytes width n) = n := by
  cases o with
  | little => exact numberOf_lowFirst h
  | big =>
    show numberOf (lowFirst width n).reverse.reverse = n
    rw [List.reverse_reverse, numberOf_lowFirst h]

theorem bytes_number (bs : List UInt8) : o.bytes bs.length (o.number bs) = bs := by
  cases o with
  | little => exact lowFirst_numberOf bs
  | big =>
    show (lowFirst bs.length (numberOf bs.reverse)).reverse = bs
    rw [← List.length_reverse, lowFirst_numberOf, List.reverse_reverse]

theorem number_lt (bs : List UInt8) : o.number bs < 256 ^ bs.length := by
  cases o with
  | little => exact numberOf_lt bs
  | big =>
    show numberOf bs.reverse < _
    rw [← List.length_reverse]
    exact numberOf_lt _

/-! ### Fields -/

/-- A field: its width and its value. -/
abbrev Field := ℕ × ℕ

def Field.Fits (f : Field) : Prop := f.2 < 256 ^ f.1

instance (f : Field) : Decidable f.Fits := inferInstanceAs (Decidable (_ < _))

/-- `struct.pack`. -/
def packs (fs : List Field) : Option (List UInt8) :=
  if ∀ f ∈ fs, Field.Fits f then some (fs.flatMap fun f => o.bytes f.1 f.2) else none

/-- `struct.unpack`. -/
def unpacks : List ℕ → List UInt8 → Option (List ℕ)
  | [], bs => if bs = [] then some [] else none
  | width :: widths, bs =>
    if bs.length < width then none
    else (unpacks widths (bs.drop width)).map (o.number (bs.take width) :: ·)

variable {o} {fs : List Field} {bs rest : List UInt8} {widths values : List ℕ}

theorem packs_eq_some (h : ∀ f ∈ fs, Field.Fits f) :
    packs o fs = some (fs.flatMap fun f => o.bytes f.1 f.2) := if_pos h

theorem fits_of_packs (h : packs o fs = some bs) :
    (∀ f ∈ fs, Field.Fits f) ∧ fs.flatMap (fun f => o.bytes f.1 f.2) = bs := by
  unfold packs at h
  split at h
  · next hfits => exact ⟨hfits, Option.some.inj h⟩
  · cases h

theorem length_flatMap_bytes (o : Order) (fs : List Field) :
    (fs.flatMap fun f => o.bytes f.1 f.2).length = (fs.map Prod.fst).sum := by
  induction fs with
  | nil => rfl
  | cons f fs ih =>
    rw [List.flatMap_cons, List.length_append, length_bytes, ih, List.map_cons, List.sum_cons]

theorem length_packs (h : packs o fs = some bs) : bs.length = (fs.map Prod.fst).sum := by
  rw [← (fits_of_packs h).2, length_flatMap_bytes]

theorem packs_append (o : Order) (fs gs : List Field) :
    packs o (fs ++ gs) = (packs o fs).bind fun as => (packs o gs).map (as ++ ·) := by
  by_cases hf : ∀ f ∈ fs, Field.Fits f
  · by_cases hg : ∀ g ∈ gs, Field.Fits g
    · have hfg : ∀ f ∈ fs ++ gs, Field.Fits f := fun f h =>
        (List.mem_append.mp h).elim (hf f) (hg f)
      rw [packs_eq_some hf, packs_eq_some hg, packs_eq_some hfg, List.flatMap_append]
      rfl
    · have hfg : ¬ ∀ f ∈ fs ++ gs, Field.Fits f := fun h =>
        hg fun g hmem => h g (List.mem_append_right _ hmem)
      rw [packs_eq_some hf, packs, packs, if_neg hg, if_neg hfg]
      rfl
  · have hfg : ¬ ∀ f ∈ fs ++ gs, Field.Fits f := fun h =>
      hf fun f hmem => h f (List.mem_append_left _ hmem)
    rw [packs, packs, if_neg hf, if_neg hfg]
    rfl

/-- What was packed is read back. -/
theorem unpacks_packs (h : packs o fs = some bs) :
    unpacks o (fs.map Prod.fst) bs = some (fs.map Prod.snd) := by
  obtain ⟨hfits, rfl⟩ := fits_of_packs h
  clear h
  induction fs with
  | nil => rfl
  | cons f fs ih =>
    have hlen := length_bytes o f.1 f.2
    have htail := ih fun g hg => hfits g (List.mem_cons_of_mem _ hg)
    rw [List.map_cons, List.flatMap_cons, unpacks, if_neg, List.take_left' hlen,
      List.drop_left' hlen, htail, number_bytes o (hfits f List.mem_cons_self)]
    · rfl
    · rw [List.length_append, hlen]
      omega

/-- What was read is packed back. -/
theorem packs_unpacks (h : unpacks o widths bs = some values) :
    packs o (widths.zip values) = some bs ∧ values.length = widths.length := by
  induction widths generalizing bs values with
  | nil =>
    rw [unpacks] at h
    split at h
    · next hnil =>
        obtain rfl := Option.some.inj h
        rw [hnil]
        exact ⟨rfl, rfl⟩
    · cases h
  | cons width widths ih =>
    rw [unpacks] at h
    split at h
    · cases h
    next hlen =>
    obtain ⟨tail, htail, rfl⟩ := Option.map_eq_some_iff.mp h
    obtain ⟨hpack, hlength⟩ := ih htail
    obtain ⟨hfits, hbytes⟩ := fits_of_packs hpack
    have htake : (bs.take width).length = width := List.length_take_of_le (not_lt.mp hlen)
    have hnumber := bytes_number o (bs.take width)
    have hlt := number_lt o (bs.take width)
    rw [htake] at hnumber hlt
    refine ⟨?_, by rw [List.length_cons, List.length_cons, hlength]⟩
    rw [List.zip_cons_cons, packs_eq_some, List.flatMap_cons, hbytes, hnumber,
      List.take_append_drop]
    intro f hf
    rcases List.mem_cons.mp hf with rfl | hf
    · exact hlt
    · exact hfits f hf

end StructPack
