/-
Lib/Links.lean

The network devices of a host.

A device has a kind, some attributes, and may be enslaved to another device, its master.
No device has a master that is not there: `Links` carries this as a field, and a removal
releases the slaves.  Every operation says what it changes (`lookup_add`, `lookup_set`,
`lookup_del`), and fails where a device it names is missing.

`Within D h h'` says that `h'` is `h` but for the devices of `D`, and every operation on those
keeps this: what is built beside a host and taken away again leaves it as it was (`same`).
-/
import Sonic.Lib.Table

/-- A device: `N` are the names, `K` the kinds and `A` the attributes. -/
structure Link (N K A : Type*) where
  kind : K
  up : Bool
  master : Option N
  attrs : A

/-- Devices by name; a master is a device. -/
structure Links (N K A : Type*) [DecidableEq N] where
  table : Table N (Link N K A)
  attached : ∀ {n l m}, table.lookup n = some l → l.master = some m → m ∈ table

namespace Links

variable {N K A : Type*} [DecidableEq N]

def lookup (h : Links N K A) (n : N) : Option (Link N K A) := h.table.lookup n

def empty : Links N K A := ⟨∅, nofun⟩

/-- A new device, down and without a master. -/
def add (h : Links N K A) (n : N) (kind : K) (attrs : A) : Option (Links N K A) :=
  if n ∈ h.table then none
  else some
    { table := h.table.insert n ⟨kind, false, none, attrs⟩
      attached := by
        intro n' l m hn' hm
        rw [AList.mem_insert]
        rcases Table.lookup_insert_iff.mp hn' with ⟨-, rfl⟩ | ⟨-, hn'⟩
        · cases hm
        · exact .inr (h.attached hn' hm) }

/-- A device is changed; its new master is one that it had, or a device. -/
def set (h : Links N K A) (n : N) (l : Link N K A)
    (hl : ∀ m, l.master = some m → m ∈ h.table) : Links N K A where
  table := h.table.insert n l
  attached := by
    intro n' l' m hn' hm
    rw [AList.mem_insert]
    rcases Table.lookup_insert_iff.mp hn' with ⟨-, rfl⟩ | ⟨-, hn'⟩
    · exact .inr (hl m hm)
    · exact .inr (h.attached hn' hm)

/-- The master of `l` is taken away if it is `n`. -/
def release (n : N) (l : Link N K A) : Link N K A :=
  { l with master := l.master.filter (· ≠ n) }

/-- A device is removed, and its slaves are released. -/
def del (h : Links N K A) (n : N) : Option (Links N K A) :=
  if n ∈ h.table then some
    { table := Table.map (fun _ => release n) (h.table.erase n)
      attached := by
        intro n' l m hn' hm
        rw [Table.lookup_map] at hn'
        obtain ⟨l', hl', rfl⟩ := Option.map_eq_some_iff.mp hn'
        obtain ⟨hm, hne⟩ := Option.filter_eq_some_iff.mp hm
        have hmem : m ∈ h.table := h.attached (Table.lookup_erase_iff.mp hl').2 hm
        have hne : m ≠ n := by simpa using hne
        rw [← AList.lookup_isSome, Table.lookup_map, Option.isSome_map, Table.lookup_erase_eq,
          if_neg hne, AList.lookup_isSome]
        exact hmem }
  else none

/-- The device with its flag `up` changed. -/
def setUp (h : Links N K A) (n : N) (up : Bool) : Option (Links N K A) :=
  match hl : h.lookup n with
  | none => none
  | some l => some (h.set n { l with up := up } fun _ hm => h.attached hl hm)

/-- The device with its attributes changed. -/
def setAttrs (h : Links N K A) (n : N) (f : A → A) : Option (Links N K A) :=
  match hl : h.lookup n with
  | none => none
  | some l => some (h.set n { l with attrs := f l.attrs } fun _ hm => h.attached hl hm)

/-- The device without a master. -/
def noMaster (h : Links N K A) (n : N) : Option (Links N K A) :=
  match h.lookup n with
  | none => none
  | some l => some (h.set n { l with master := none } nofun)

/-- The device with a new master; `can` says which kinds can be enslaved to which. -/
def setMaster (can : K → K → Bool) (h : Links N K A) (n m : N) : Option (Links N K A) :=
  match h.lookup n, hm : h.lookup m with
  | some l, some l' =>
    if can l.kind l'.kind then
      some (h.set n { l with master := some m } (by
        rintro _ ⟨⟩
        exact Table.mem_of_lookup hm))
    else none
  | _, _ => none

variable {can : K → K → Bool} {h h' h₁ h₂ : Links N K A} {n n' m : N} {l l' : Link N K A}
  {kind : K} {attrs : A} {f : A → A} {up : Bool}

/-! ### What an operation changes -/

theorem mem_table : n ∈ h.table ↔ ∃ l, h.lookup n = some l := by
  rw [← AList.lookup_isSome, Option.isSome_iff_exists]
  rfl

theorem lookup_set {hl} :
    (h.set n l hl).lookup n' = if n' = n then some l else h.lookup n' :=
  Table.lookup_insert_eq

/-- What a new device is, and that it is new. -/
theorem add_eq_some (hadd : h.add n kind attrs = some h') :
    h.lookup n = none ∧
      ∀ n', h'.lookup n' = if n' = n then some ⟨kind, false, none, attrs⟩ else h.lookup n' := by
  unfold add at hadd
  split at hadd
  · cases hadd
  · next hn =>
      cases hadd
      refine ⟨AList.lookup_eq_none.mpr hn, fun n' => ?_⟩
      exact Table.lookup_insert_eq

theorem lookup_del (hdel : h.del n = some h') :
    h'.lookup n' = if n' = n then none else (h.lookup n').map (release n) := by
  unfold del at hdel
  split at hdel
  · cases hdel
    show (Table.map _ (h.table.erase n)).lookup n' = _
    rw [Table.lookup_map, Table.lookup_erase_eq]
    split <;> rfl
  · cases hdel

theorem del_isSome : (h.del n).isSome ↔ ∃ l, h.lookup n = some l := by
  rw [← mem_table]
  unfold del
  split
  · next hn => exact iff_of_true rfl hn
  · next hn => exact iff_of_false nofun hn

theorem setUp_eq_some (hset : h.setUp n up = some h') :
    ∃ l, h.lookup n = some l ∧
      ∀ n', h'.lookup n' = if n' = n then some { l with up := up } else h.lookup n' := by
  unfold setUp at hset
  split at hset
  · cases hset
  · next l hl =>
      cases hset
      exact ⟨l, hl, fun n' => lookup_set⟩

theorem setAttrs_eq_some (hset : h.setAttrs n f = some h') :
    ∃ l, h.lookup n = some l ∧
      ∀ n', h'.lookup n' =
        if n' = n then some { l with attrs := f l.attrs } else h.lookup n' := by
  unfold setAttrs at hset
  split at hset
  · cases hset
  · next l hl =>
      cases hset
      exact ⟨l, hl, fun n' => lookup_set⟩

theorem noMaster_eq_some (hset : h.noMaster n = some h') :
    ∃ l, h.lookup n = some l ∧
      ∀ n', h'.lookup n' = if n' = n then some { l with master := none } else h.lookup n' := by
  unfold noMaster at hset
  split at hset
  · cases hset
  · next l hl =>
      cases hset
      exact ⟨l, hl, fun n' => lookup_set⟩

theorem setMaster_eq_some (hset : h.setMaster can n m = some h') :
    ∃ l l', h.lookup n = some l ∧ h.lookup m = some l' ∧ can l.kind l'.kind = true ∧
      ∀ n', h'.lookup n' = if n' = n then some { l with master := some m } else h.lookup n' := by
  unfold setMaster at hset
  split at hset
  · next l l' hl hl' =>
      split at hset
      · next hcan =>
          cases hset
          exact ⟨l, l', hl, hl', hcan, fun n' => lookup_set⟩
      · cases hset
  · cases hset

/-- A device with another master is not changed by a removal. -/
theorem release_of_ne (hm : l.master ≠ some n) : release n l = l := by
  obtain ⟨kind, up, master, attrs⟩ := l
  show (⟨kind, up, master.filter _, attrs⟩ : Link N K A) = _
  cases master with
  | none => rfl
  | some m =>
    have hne : m ≠ n := fun heq => hm (congrArg some heq)
    rw [Option.filter_some, if_pos (by simpa using hne)]

/-! ### Changes of some devices -/

/-- The same devices. -/
def Same (h h' : Links N K A) : Prop := ∀ n, h'.lookup n = h.lookup n

/-- `h'` is `h` but for the devices of `D`, to which no other device is enslaved. -/
structure Within (D : N → Prop) (h h' : Links N K A) : Prop where
  free : ∀ n l m, ¬ D n → h.lookup n = some l → l.master = some m → ¬ D m
  old : ∀ n, ¬ D n → h'.lookup n = h.lookup n

variable {D : N → Prop}

namespace Within

/-- Nothing is enslaved to devices that are not there. -/
theorem of_new (hnew : ∀ n, D n → h.lookup n = none) (hold : ∀ n, ¬ D n →
    h'.lookup n = h.lookup n) : Within D h h' := by
  refine ⟨fun n l m _ hl hm hD => ?_, hold⟩
  obtain ⟨l', hl'⟩ := mem_table.mp (h.attached hl hm)
  rw [hnew m hD] at hl'
  cases hl'

theorem refl (hfree : ∀ n l m, ¬ D n → h.lookup n = some l → l.master = some m → ¬ D m) :
    Within D h h :=
  ⟨hfree, fun _ _ => rfl⟩

/-- A change of one of the devices. -/
theorem change (hin : Within D h h₁) (hn : D n)
    (hother : ∀ n', n' ≠ n → h₂.lookup n' = h₁.lookup n') : Within D h h₂ := by
  refine ⟨hin.free, fun n' hn' => ?_⟩
  rw [hother n' (by rintro rfl; exact hn' hn)]
  exact hin.old n' hn'

theorem add (hin : Within D h h₁) (hn : D n) (hop : h₁.add n kind attrs = some h₂) :
    Within D h h₂ :=
  hin.change hn fun n' hne => by rw [(add_eq_some hop).2, if_neg hne]

theorem setUp (hin : Within D h h₁) (hn : D n) (hop : h₁.setUp n up = some h₂) :
    Within D h h₂ := by
  obtain ⟨l, -, hlookup⟩ := setUp_eq_some hop
  exact hin.change hn fun n' hne => by rw [hlookup, if_neg hne]

theorem setAttrs (hin : Within D h h₁) (hn : D n) (hop : h₁.setAttrs n f = some h₂) :
    Within D h h₂ := by
  obtain ⟨l, -, hlookup⟩ := setAttrs_eq_some hop
  exact hin.change hn fun n' hne => by rw [hlookup, if_neg hne]

theorem noMaster (hin : Within D h h₁) (hn : D n) (hop : h₁.noMaster n = some h₂) :
    Within D h h₂ := by
  obtain ⟨l, -, hlookup⟩ := noMaster_eq_some hop
  exact hin.change hn fun n' hne => by rw [hlookup, if_neg hne]

theorem setMaster (hin : Within D h h₁) (hn : D n) (hop : h₁.setMaster can n m = some h₂) :
    Within D h h₂ := by
  obtain ⟨l, l', -, -, -, hlookup⟩ := setMaster_eq_some hop
  exact hin.change hn fun n' hne => by rw [hlookup, if_neg hne]

/-- The removal of one of the devices releases others of them only. -/
theorem del (hin : Within D h h₁) (hn : D n) (hop : h₁.del n = some h₂) : Within D h h₂ := by
  refine ⟨hin.free, fun n' hn' => ?_⟩
  have hne : n' ≠ n := by
    rintro rfl
    exact hn' hn
  rw [lookup_del hop, if_neg hne, hin.old n' hn']
  cases hl : h.lookup n' with
  | none => rfl
  | some l =>
    have hm : l.master ≠ some n := fun hm => hin.free n' l n hn' hl hm hn
    rw [Option.map_some, release_of_ne hm]

/-- More devices may be changed. -/
theorem mono {D' : N → Prop} (hin : Within D h h') (hle : ∀ n, D n → D' n)
    (hnew : ∀ n, D' n → h.lookup n = none) : Within D' h h' :=
  of_new hnew fun n hn => hin.old n fun h => hn (hle n h)

/-- Where the devices were not there before and are not there now, nothing is changed. -/
theorem same (hin : Within D h h') (hnew : ∀ n, D n → h.lookup n = none)
    (hgone : ∀ n, D n → h'.lookup n = none) : Same h h' := by
  intro n
  by_cases hn : D n
  · rw [hgone n hn, hnew n hn]
  · exact hin.old n hn

end Within

end Links
