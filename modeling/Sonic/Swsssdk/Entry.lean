/-
Swsssdk/Entry.lean

What `get_entry` reads after `set_entry`.

The fields of a typed row are the raw fields read one by one (`typedField`), so a hash is read
as a row in every order exactly if its fields, each read by itself, are the fields of the row
(`readsAs_iff`).  With this the question about `set_entry` is one about raw names
(`readsAs_writeRow_iff`): the row that was written is read back if it has no empty list, none of
its fields was stored in the other form, and no field to be removed was stored in both.
-/
import Sonic.Swsssdk.ConfigDb
import Sonic.Lib.LastWins

namespace Swsssdk

open Redis PyText LastWins
open Std (ExtTreeMap)

/-! ### Names of fields -/

variable {f name text : String} {value : FieldValue} {row : Row} {h : Hash}
  {items : List (String × FieldValue)}

/-- `key[:-1]`. -/
def dropAt (name : String) : String := String.ofList name.toList.dropLast

theorem toList_at (f : String) : (f ++ "@").toList = f.toList ++ ['@'] := by
  rw [String.toList_append]
  rfl

@[simp] theorem endsWithAt_at : endsWithAt (f ++ "@") = true := by
  rw [endsWithAt, toList_at, List.getLast?_concat]
  rfl

@[simp] theorem dropAt_at : dropAt (f ++ "@") = f := by
  rw [dropAt, toList_at, List.dropLast_concat, String.ofList_toList]

theorem dropAt_append (hend : endsWithAt name = true) : dropAt name ++ "@" = name := by
  refine String.toList_inj.mp ?_
  rw [toList_at, dropAt, String.toList_ofList]
  have hlast : name.toList.getLast? = some '@' := of_decide_eq_true hend
  obtain ⟨before, hname⟩ := List.getLast?_eq_some_iff.mp hlast
  rw [hname, List.dropLast_concat]

theorem at_ne_null : f ++ "@" ≠ "NULL" := by
  intro hnull
  have hend : endsWithAt (f ++ "@") = true := endsWithAt_at
  rw [hnull] at hend
  cases hend

theorem at_ne_of_not_endsWithAt (hend : endsWithAt name = false) : f ++ "@" ≠ name := by
  rintro rfl
  rw [endsWithAt_at] at hend
  cases hend

theorem at_inj {f g : String} : f ++ "@" = g ++ "@" ↔ f = g := by
  constructor
  · intro heq
    rw [← dropAt_at (f := f), heq, dropAt_at]
  · rintro rfl
    rfl

/-- A name that a field may have: not the placeholder, and without the mark of a list. -/
structure FieldName (f : String) : Prop where
  ne_null : f ≠ "NULL"
  not_endsWithAt : endsWithAt f = false

/-! ### Reading the fields one by one -/

/-- The typed field that a raw field stands for. -/
def typedField (raw : String × String) : Option (String × FieldValue) :=
  if raw.1 = "NULL" then none
  else if endsWithAt raw.1 then some (dropAt raw.1, .list (split ',' raw.2))
  else some (raw.1, .str raw.2)

theorem rawToTyped_eq (raw : List (String × String)) :
    rawToTyped raw = tree.putAll ∅ (raw.filterMap typedField) := by
  refine Access.foldl_eq_putAll fun typed field => ?_
  rw [readField, typedField]
  by_cases hnull : field.1 = "NULL"
  · rw [if_pos hnull, if_pos hnull]
  · rw [if_neg hnull, if_neg hnull]
    by_cases hend : endsWithAt field.1 = true
    · rw [if_pos hend, if_pos hend]
      rfl
    · rw [if_neg hend, if_neg hend]
      rfl

/-- The raw field of this name and content stands for a typed one. -/
theorem typedField_eq_some_iff :
    typedField (name, text) = some (f, value) ↔
      (FieldName f ∧ name = f ∧ value = .str text) ∨
        (name = f ++ "@" ∧ value = .list (split ',' text)) := by
  rw [typedField]
  constructor
  · intro htyped
    by_cases hnull : name = "NULL"
    · rw [if_pos hnull] at htyped
      cases htyped
    · rw [if_neg hnull] at htyped
      cases hend : endsWithAt name with
      | true =>
        rw [if_pos hend] at htyped
        obtain ⟨rfl, rfl⟩ := Prod.mk.inj (Option.some.inj htyped)
        exact .inr ⟨(dropAt_append hend).symm, rfl⟩
      | false =>
        rw [if_neg (by simp [hend])] at htyped
        obtain ⟨rfl, rfl⟩ := Prod.mk.inj (Option.some.inj htyped)
        exact .inl ⟨⟨hnull, hend⟩, rfl, rfl⟩
  · rintro (⟨hname, rfl, rfl⟩ | ⟨rfl, rfl⟩)
    · rw [if_neg hname.ne_null, if_neg (by simp [hname.not_endsWithAt])]
    · rw [if_neg at_ne_null, if_pos endsWithAt_at, dropAt_at]

/-- In every order in which the fields are given, the hash is read as the row. -/
def ReadsAs (h : Hash) (row : Row) : Prop :=
  ∀ raw : List (String × String), raw.Perm h.toList → rawToTyped raw = row

/-- Some raw field of the hash stands for this typed one. -/
def Shows (h : Hash) (f : String) (value : FieldValue) : Prop :=
  (FieldName f ∧ ∃ text, h[f]? = some text ∧ value = .str text) ∨
    ∃ text, h[f ++ "@"]? = some text ∧ value = .list (split ',' text)

theorem shows_iff :
    Shows h f value ↔ (f, value) ∈ h.toList.filterMap typedField := by
  rw [List.mem_filterMap]
  constructor
  · rintro (⟨hname, text, hget, rfl⟩ | ⟨text, hget, rfl⟩)
    · exact ⟨(f, text), ExtTreeMap.mem_toList_iff_getElem?_eq_some.mpr hget,
        typedField_eq_some_iff.mpr (.inl ⟨hname, rfl, rfl⟩)⟩
    · exact ⟨(f ++ "@", text), ExtTreeMap.mem_toList_iff_getElem?_eq_some.mpr hget,
        typedField_eq_some_iff.mpr (.inr ⟨rfl, rfl⟩)⟩
  · rintro ⟨⟨name, text⟩, hmem, htyped⟩
    have hget := ExtTreeMap.mem_toList_iff_getElem?_eq_some.mp hmem
    rcases typedField_eq_some_iff.mp htyped with ⟨hname, rfl, rfl⟩ | ⟨rfl, rfl⟩
    · exact .inl ⟨hname, text, hget, rfl⟩
    · exact .inr ⟨text, hget, rfl⟩

/-- **A hash is read as the row in every order exactly if its fields show those of the row.** -/
theorem readsAs_iff : ReadsAs h row ↔ ∀ f value, Shows h f value ↔ row[f]? = some value := by
  have hempty : ∀ f, tree.get (∅ : Row) f = none := fun f => ExtTreeMap.getElem?_empty
  constructor
  · intro hreads f value
    have hread : ∀ raw : List (String × String), raw.Perm h.toList →
        tree.get (tree.putAll (∅ : Row) (raw.filterMap typedField)) f = row[f]? := by
      intro raw hperm
      rw [← rawToTyped_eq, hreads raw hperm]
      rfl
    rw [shows_iff]
    constructor
    · intro hmem
      cases hrow : row[f]? with
      | none =>
        have hnone := hread h.toList (List.Perm.refl _)
        rw [hrow, Access.get_putAll_eq_none_iff] at hnone
        exact absurd rfl (hnone.2 _ hmem)
      | some value' =>
        have hagree := (Access.get_putAll_perm_iff (hempty f)).mp
          fun raw hperm => (hread raw hperm).trans hrow
        rw [← hagree.2 (f, value) hmem rfl]
    · intro hrow
      obtain ⟨⟨p, hp, rfl⟩, hall⟩ := (Access.get_putAll_perm_iff (hempty f)).mp
        fun raw hperm => (hread raw hperm).trans hrow
      rw [← hall p hp rfl]
      exact hp
  · intro hshows raw hperm
    refine ExtTreeMap.ext_getElem? fun f => ?_
    rw [rawToTyped_eq]
    show tree.get _ f = _
    have hperm' := hperm.filterMap typedField
    cases hrow : row[f]? with
    | none =>
      refine Access.get_putAll_eq_none_iff.mpr ⟨hempty f, ?_⟩
      rintro ⟨g, value⟩ hmem rfl
      have := (hshows g value).mp (shows_iff.mpr (hperm'.mem_iff.mp hmem))
      rw [hrow] at this
      cases this
    | some value =>
      refine Access.get_putAll_of_agree ⟨⟨(f, value), ?_, rfl⟩, ?_⟩
      · exact hperm'.mem_iff.mpr (shows_iff.mp ((hshows f value).mpr hrow))
      · rintro ⟨g, value'⟩ hmem rfl
        have := (hshows g value').mp (shows_iff.mpr (hperm'.mem_iff.mp hmem))
        exact (Option.some.inj (hrow.symm.trans this)).symm

/-! ### Dicts -/

section Dicts

variable {K V : Type*} [Ord K] [Std.TransOrd K] [Std.LawfulEqOrd K] {d : Dict K V} {k : K} {v : V}

/-- The dict without the order of its items. -/
def Dict.toMap (d : Dict K V) : ExtTreeMap K V := tree.putAll ∅ d.items

omit [Ord K] [Std.TransOrd K] [Std.LawfulEqOrd K] in
theorem Dict.eq_of_mem {v' : V} (h : (k, v) ∈ d.items) (h' : (k, v') ∈ d.items) : v = v' := by
  obtain ⟨items, nodup⟩ := d
  have hinj := List.inj_on_of_nodup_map nodup h h' rfl
  exact (Prod.mk.inj hinj).2

theorem Dict.getElem?_toMap_eq_some_iff : d.toMap[k]? = some v ↔ (k, v) ∈ d.items := by
  have hagree : ∀ v, (k, v) ∈ d.items → d.toMap[k]? = some v := by
    intro v hv
    refine Access.get_putAll_of_agree (s := tree) ⟨⟨(k, v), hv, rfl⟩, ?_⟩
    rintro ⟨k', v'⟩ hv' rfl
    exact d.eq_of_mem hv' hv
  constructor
  · intro hget
    by_contra hnot
    by_cases hmem : ∃ p ∈ d.items, p.1 = k
    · obtain ⟨⟨k', v'⟩, hp, rfl⟩ := hmem
      obtain rfl := Option.some.inj (hget.symm.trans (hagree v' hp))
      exact hnot hp
    · have hnone := (Access.get_putAll_eq_none_iff (s := tree) (d := (∅ : ExtTreeMap K V))).mpr
        ⟨ExtTreeMap.getElem?_empty, fun p hp hpk => hmem ⟨p, hp, hpk⟩⟩
      rw [show d.toMap[k]? = none from hnone] at hget
      cases hget
  · exact hagree v

end Dicts

/-! ### Writing a row -/

/-- A row whose types the connector tells apart. -/
structure Typed (items : List (String × FieldValue)) : Prop where
  names : ∀ f value, (f, value) ∈ items → FieldName f
  noCommas : ∀ f parts, (f, .list parts) ∈ items → ∀ part ∈ parts, ',' ∉ part.toList

/-- The names that `set_entry` removes after writing, where `original` was read before. -/
def removedNames (items : List (String × FieldValue)) (original : Row) : List String :=
  (original.toList.filter fun field => field.1 ∉ items.map Prod.fst).map
    fun field => rawName field.1 field.2

/-- The hash after `set_entry` has written the row to `h`. -/
def writeRow (items : List (String × FieldValue)) (original : Row) (h : Hash) : Hash :=
  (removedNames items original).foldl (fun h name => h.erase name)
    (FieldMap.merge h (typedToRaw items))

/-- The raw name of the field in the form that the value does not have. -/
def otherName (f : String) : FieldValue → String
  | .str _ => f ++ "@"
  | .list _ => f

/-- The row can be written over the hash. -/
structure Writable (items : List (String × FieldValue)) (h : Hash) : Prop where
  noEmptyList : ∀ f, (f, .list []) ∉ items
  sameForm : ∀ f value, (f, value) ∈ items → otherName f value ∉ h
  oneForm : ∀ f, FieldName f → f ∉ items.map Prod.fst → ¬ (f ∈ h ∧ f ++ "@" ∈ h)

variable {original : Row} {data : Dict String FieldValue}

theorem getElem?_writeRow :
    (writeRow items original h)[name]? =
      if name ∈ removedNames items original then none
      else (FieldMap.merge h (typedToRaw items))[name]? := by
  have herase : ∀ (names : List String) (h : Hash),
      (names.foldl (fun h name => h.erase name) h)[name]? = if name ∈ names then none else h[name]? := by
    intro names
    induction names with
    | nil => intro h; rw [if_neg List.not_mem_nil]; rfl
    | cons n names ih =>
      intro h
      rw [List.foldl_cons, ih, ExtTreeMap.getElem?_erase]
      by_cases hn : n = name
      · subst hn
        simp
      · have hcmp : compare n name ≠ .eq := fun hcmp => hn (Std.compare_eq_iff_eq.mp hcmp)
        rw [if_neg hcmp]
        simp [Ne.symm hn]
  exact herase _ _

/-- The name of a raw field tells the field and its form. -/
theorem rawName_eq_iff {g : String} {w : FieldValue} (hf : FieldName f) :
    rawName g w = f ↔ g = f ∧ ∃ text, w = .str text := by
  cases w with
  | str text => exact ⟨fun heq => ⟨heq, text, rfl⟩, And.left⟩
  | list parts =>
    refine iff_of_false (at_ne_of_not_endsWithAt hf.not_endsWithAt) ?_
    rintro ⟨-, text, ⟨⟩⟩

theorem rawName_eq_at_iff {g : String} {w : FieldValue} (hg : ∀ text, w = .str text → FieldName g) :
    rawName g w = f ++ "@" ↔ g = f ∧ ∃ parts, w = .list parts := by
  cases w with
  | str text =>
    refine iff_of_false (fun heq => ?_) ?_
    · exact at_ne_of_not_endsWithAt (hg text rfl).not_endsWithAt heq.symm
    · rintro ⟨-, parts, ⟨⟩⟩
  | list parts => exact ⟨fun heq => ⟨at_inj.mp heq, parts, rfl⟩, fun heq => at_inj.mpr heq.1⟩

/-- A raw name that no field of the row has keeps its text. -/
theorem getElem?_merge_of_not_written (hnull : name ≠ "NULL")
    (hnot : ∀ f value, (f, value) ∈ items → rawName f value ≠ name) :
    (FieldMap.merge h (typedToRaw items))[name]? = h[name]? := by
  refine FieldMap.getElem?_merge_of_not_mem ?_
  rw [typedToRaw]
  split
  · intro fv hfv
    obtain rfl := List.mem_singleton.mp hfv
    exact hnull.symm
  · intro fv hfv
    obtain ⟨⟨f, value⟩, hmem, rfl⟩ := List.mem_map.mp hfv
    exact hnot f value hmem

theorem getElem?_merge_of_written (htyped : Typed data.items) (hmem : (f, value) ∈ data.items) :
    (FieldMap.merge h (typedToRaw data.items))[rawName f value]? = some (rawValue value) := by
  have hne : data.items ≠ [] := List.ne_nil_of_mem hmem
  rw [typedToRaw, if_neg hne]
  refine FieldMap.getElem?_merge_of_forall ?_ ?_
  · exact ⟨_, List.mem_map.mpr ⟨(f, value), hmem, rfl⟩, rfl⟩
  · intro fv hfv heq
    obtain ⟨⟨g, w⟩, hg, rfl⟩ := List.mem_map.mp hfv
    have hgf : g = f := by
      cases value with
      | str text => exact ((rawName_eq_iff (htyped.names _ _ hmem)).mp heq).1
      | list parts => exact ((rawName_eq_at_iff fun _ _ => htyped.names _ _ hg).mp heq).1
    subst hgf
    rw [data.eq_of_mem hg hmem]

theorem mem_of_getElem?_eq_some (hget : h[name]? = some text) : name ∈ h :=
  ExtTreeMap.isSome_getElem?_iff_mem.mp (Option.isSome_iff_exists.mpr ⟨text, hget⟩)

/-! ### What was read before -/

/-- `original` is what `get_entry` has read in some order. -/
def IsReadOf (original : Row) (h : Hash) : Prop :=
  ∃ raw : List (String × String), raw.Perm h.toList ∧ original = rawToTyped raw

theorem IsReadOf.shows (hread : IsReadOf original h) (hget : original[f]? = some value) :
    Shows h f value := by
  obtain ⟨raw, hperm, rfl⟩ := hread
  rw [rawToTyped_eq] at hget
  rw [shows_iff, ← (hperm.filterMap typedField).mem_iff]
  by_cases hmem : ∃ p ∈ raw.filterMap typedField, p.1 = f
  · obtain ⟨value', hget', hmem'⟩ :=
      Access.exists_get_putAll_of_mem (s := tree) (d := (∅ : Row)) hmem
    obtain rfl := Option.some.inj (hget.symm.trans hget')
    exact hmem'
  · have hnone := (Access.get_putAll_eq_none_iff (s := tree) (d := (∅ : Row))).mpr
      ⟨ExtTreeMap.getElem?_empty, fun p hp hpf => hmem ⟨p, hp, hpf⟩⟩
    cases hget.symm.trans hnone

theorem IsReadOf.not_shows (hread : IsReadOf original h) (hget : original[f]? = none) :
    ¬ Shows h f value := by
  obtain ⟨raw, hperm, rfl⟩ := hread
  rw [rawToTyped_eq] at hget
  rw [shows_iff, ← (hperm.filterMap typedField).mem_iff]
  intro hmem
  exact (Access.get_putAll_eq_none_iff (s := tree).mp hget).2 _ hmem rfl

theorem mem_removedNames :
    name ∈ removedNames items original ↔
      ∃ f value, original[f]? = some value ∧ f ∉ items.map Prod.fst ∧ rawName f value = name := by
  rw [removedNames, List.mem_map]
  constructor
  · rintro ⟨⟨f, value⟩, hmem, rfl⟩
    obtain ⟨hmem, hnot⟩ := List.mem_filter.mp hmem
    exact ⟨f, value, ExtTreeMap.mem_toList_iff_getElem?_eq_some.mp hmem, of_decide_eq_true hnot, rfl⟩
  · rintro ⟨f, value, hget, hnot, rfl⟩
    refine ⟨(f, value), List.mem_filter.mpr ⟨?_, decide_eq_true hnot⟩, rfl⟩
    exact ExtTreeMap.mem_toList_iff_getElem?_eq_some.mpr hget

/-- The name of a string field is removed if the field was read as one. -/
theorem mem_removedNames_iff (hname : FieldName f) :
    f ∈ removedNames items original ↔
      f ∉ items.map Prod.fst ∧ ∃ text, original[f]? = some (.str text) := by
  rw [mem_removedNames]
  constructor
  · rintro ⟨g, value, hget, hnot, heq⟩
    obtain ⟨rfl, text, rfl⟩ := (rawName_eq_iff hname).mp heq
    exact ⟨hnot, text, hget⟩
  · rintro ⟨hnot, text, hget⟩
    exact ⟨f, .str text, hget, hnot, rfl⟩

/-- The name of a list field is removed if the field was read as one. -/
theorem at_mem_removedNames_iff (hread : IsReadOf original h) :
    f ++ "@" ∈ removedNames items original ↔
      f ∉ items.map Prod.fst ∧ ∃ parts, original[f]? = some (.list parts) := by
  rw [mem_removedNames]
  constructor
  · rintro ⟨g, value, hget, hnot, heq⟩
    have hname : ∀ text, value = .str text → FieldName g := by
      rintro text rfl
      rcases hread.shows hget with ⟨hname, -⟩ | ⟨_, -, heq⟩
      · exact hname
      · cases heq
    obtain ⟨rfl, parts, rfl⟩ := (rawName_eq_at_iff hname).mp heq
    exact ⟨hnot, parts, hget⟩
  · rintro ⟨hnot, parts, hget⟩
    exact ⟨f, .list parts, hget, hnot, rfl⟩

/-! ### The fields after writing -/

/-- Under a name of the row nothing is removed. -/
theorem getElem?_writeRow_of_mem (htyped : Typed data.items) (hread : IsReadOf original h)
    (hmem : (f, value) ∈ data.items) :
    (writeRow data.items original h)[rawName f value]? = some (rawValue value) ∧
      (writeRow data.items original h)[otherName f value]? = h[otherName f value]? := by
  have hname := htyped.names f value hmem
  have hfst : f ∈ data.items.map Prod.fst := List.mem_map.mpr ⟨(f, value), hmem, rfl⟩
  have hkept : f ∉ removedNames data.items original := by
    rw [mem_removedNames_iff hname]
    exact fun h => h.1 hfst
  have hkeptAt : f ++ "@" ∉ removedNames data.items original := by
    rw [at_mem_removedNames_iff hread]
    exact fun h => h.1 hfst
  cases value with
  | str text =>
    refine ⟨?_, ?_⟩
    · rw [getElem?_writeRow, if_neg (show rawName f (.str text) ∉ _ from hkept)]
      exact getElem?_merge_of_written htyped hmem
    · show (writeRow data.items original h)[f ++ "@"]? = h[f ++ "@"]?
      rw [getElem?_writeRow, if_neg hkeptAt, getElem?_merge_of_not_written at_ne_null]
      intro g w hg heq
      obtain ⟨rfl, parts, rfl⟩ := (rawName_eq_at_iff fun _ _ => htyped.names g w hg).mp heq
      cases data.eq_of_mem hg hmem
  | list parts =>
    refine ⟨?_, ?_⟩
    · rw [getElem?_writeRow, if_neg (show rawName f (.list parts) ∉ _ from hkeptAt)]
      exact getElem?_merge_of_written htyped hmem
    · show (writeRow data.items original h)[f]? = h[f]?
      rw [getElem?_writeRow, if_neg hkept, getElem?_merge_of_not_written hname.ne_null]
      intro g w hg heq
      obtain ⟨rfl, text, rfl⟩ := (rawName_eq_iff hname).mp heq
      cases data.eq_of_mem hg hmem

/-- A field of the row is read back if it is no empty list and was not stored in the other form. -/
theorem shows_writeRow_of_mem_iff (htyped : Typed data.items) (hread : IsReadOf original h)
    (hmem : (f, value) ∈ data.items) :
    (∀ value', Shows (writeRow data.items original h) f value' ↔ value' = value) ↔
      value ≠ .list [] ∧ otherName f value ∉ h := by
  have hname := htyped.names f value hmem
  obtain ⟨hown, hother⟩ := getElem?_writeRow_of_mem htyped hread hmem
  rw [← ExtTreeMap.isSome_getElem?_iff_mem, ← hother]
  cases value with
  | str text =>
    have hown : (writeRow data.items original h)[f]? = some text := hown
    show _ ↔ _ ∧ ¬ (writeRow data.items original h)[f ++ "@"]?.isSome
    constructor
    · intro hall
      refine ⟨by simp, fun hsome => ?_⟩
      obtain ⟨text', htext'⟩ := Option.isSome_iff_exists.mp hsome
      cases (hall (.list (split ',' text'))).mp (.inr ⟨text', htext', rfl⟩)
    · rintro ⟨-, hnone⟩ value'
      constructor
      · rintro (⟨-, text', htext', rfl⟩ | ⟨text', htext', -⟩)
        · rw [Option.some.inj (hown.symm.trans htext')]
        · rw [htext'] at hnone
          exact absurd rfl hnone
      · rintro rfl
        exact .inl ⟨hname, text, hown, rfl⟩
  | list parts =>
    have hown : (writeRow data.items original h)[f ++ "@"]? = some (join ',' parts) := hown
    show _ ↔ _ ∧ ¬ (writeRow data.items original h)[f]?.isSome
    have hparts : split ',' (join ',' parts) = parts ↔ parts ≠ [] := by
      constructor
      · rintro hsplit rfl
        rw [split_join_nil] at hsplit
        cases hsplit
      · intro hne
        exact (split_join_iff hne).mpr (htyped.noCommas f parts hmem)
    constructor
    · intro hall
      have heq := (hall _).mp (.inr ⟨_, hown, rfl⟩)
      refine ⟨?_, fun hsome => ?_⟩
      · rintro hnil
        exact hparts.mp (FieldValue.list.inj heq) (FieldValue.list.inj hnil)
      · obtain ⟨text', htext'⟩ := Option.isSome_iff_exists.mp hsome
        cases (hall (.str text')).mp (.inl ⟨hname, text', htext', rfl⟩)
    · rintro ⟨hne, hnone⟩ value'
      have hsplit := hparts.mpr fun hnil => hne (congrArg FieldValue.list hnil)
      constructor
      · rintro (⟨-, text', htext', -⟩ | ⟨text', htext', rfl⟩)
        · rw [htext'] at hnone
          exact absurd rfl hnone
        · rw [← Option.some.inj (hown.symm.trans htext'), hsplit]
      · rintro rfl
        exact .inr ⟨_, hown, by rw [hsplit]⟩

/-- Outside the row only removing counts. -/
theorem getElem?_writeRow_of_not_mem (hname : FieldName f)
    (hnot : f ∉ data.items.map Prod.fst) :
    (writeRow data.items original h)[f]? =
      if f ∈ removedNames data.items original then none else h[f]? := by
  rw [getElem?_writeRow, getElem?_merge_of_not_written hname.ne_null]
  intro g w hg heq
  obtain ⟨rfl, -⟩ := (rawName_eq_iff hname).mp heq
  exact hnot (List.mem_map.mpr ⟨(g, w), hg, rfl⟩)

theorem getElem?_writeRow_at_of_not_mem (htyped : Typed data.items)
    (hnot : f ∉ data.items.map Prod.fst) :
    (writeRow data.items original h)[f ++ "@"]? =
      if f ++ "@" ∈ removedNames data.items original then none else h[f ++ "@"]? := by
  rw [getElem?_writeRow, getElem?_merge_of_not_written at_ne_null]
  intro g w hg heq
  obtain ⟨rfl, -⟩ := (rawName_eq_at_iff fun _ _ => htyped.names g w hg).mp heq
  exact hnot (List.mem_map.mpr ⟨(g, w), hg, rfl⟩)

/-- A field that is not in the row is gone if it was not stored in both forms. -/
theorem not_shows_writeRow_iff (htyped : Typed data.items) (hread : IsReadOf original h)
    (hnot : f ∉ data.items.map Prod.fst) :
    (∀ value, ¬ Shows (writeRow data.items original h) f value) ↔
      ¬ (FieldName f ∧ f ∈ h ∧ f ++ "@" ∈ h) := by
  constructor
  · rintro hgone ⟨hname, hstr, hlist⟩
    obtain ⟨text, htext⟩ := Option.isSome_iff_exists.mp
      (ExtTreeMap.isSome_getElem?_iff_mem.mpr hstr)
    obtain ⟨joined, hjoined⟩ := Option.isSome_iff_exists.mp
      (ExtTreeMap.isSome_getElem?_iff_mem.mpr hlist)
    -- only the form that was read is removed
    by_cases hremoved : f ∈ removedNames data.items original
    · refine hgone (.list (split ',' joined)) (.inr ⟨joined, ?_, rfl⟩)
      rw [getElem?_writeRow_at_of_not_mem htyped hnot, if_neg, hjoined]
      intro hat
      obtain ⟨-, text', hget⟩ := (mem_removedNames_iff hname).mp hremoved
      obtain ⟨-, parts, hget'⟩ := (at_mem_removedNames_iff hread).mp hat
      cases hget.symm.trans hget'
    · refine hgone (.str text) (.inl ⟨hname, text, ?_, rfl⟩)
      rw [getElem?_writeRow_of_not_mem hname hnot, if_neg hremoved, htext]
  · rintro hforms value (⟨hname, text, hget, rfl⟩ | ⟨joined, hget, rfl⟩)
    · rw [getElem?_writeRow_of_not_mem hname hnot] at hget
      split_ifs at hget with hremoved
      cases horig : original[f]? with
      | none => exact hread.not_shows horig (.inl ⟨hname, text, hget, rfl⟩)
      | some value =>
        cases value with
        | str text' => exact hremoved ((mem_removedNames_iff hname).mpr ⟨hnot, text', horig⟩)
        | list parts =>
          rcases hread.shows horig with ⟨-, _, -, ⟨⟩⟩ | ⟨joined, hjoined, -⟩
          exact hforms ⟨hname, mem_of_getElem?_eq_some hget, mem_of_getElem?_eq_some hjoined⟩
    · rw [getElem?_writeRow_at_of_not_mem htyped hnot] at hget
      split_ifs at hget with hremoved
      cases horig : original[f]? with
      | none => exact hread.not_shows horig (.inr ⟨joined, hget, rfl⟩)
      | some value =>
        cases value with
        | list parts => exact hremoved ((at_mem_removedNames_iff hread).mpr ⟨hnot, parts, horig⟩)
        | str text =>
          rcases hread.shows horig with ⟨hname, text', htext', -⟩ | ⟨_, -, ⟨⟩⟩
          exact hforms ⟨hname, mem_of_getElem?_eq_some htext', mem_of_getElem?_eq_some hget⟩

/-- **The row that was written is read back, in every order, exactly if it could be written.** -/
theorem readsAs_writeRow_iff (htyped : Typed data.items) (hread : IsReadOf original h) :
    ReadsAs (writeRow data.items original h) data.toMap ↔ Writable data.items h := by
  rw [readsAs_iff]
  have hmem : ∀ f value, (f, value) ∈ data.items →
      ((∀ value', Shows (writeRow data.items original h) f value' ↔
          data.toMap[f]? = some value') ↔ value ≠ .list [] ∧ otherName f value ∉ h) := by
    intro f value hfield
    rw [← shows_writeRow_of_mem_iff htyped hread hfield]
    refine forall_congr' fun value' => iff_congr Iff.rfl ?_
    rw [Dict.getElem?_toMap_eq_some_iff]
    exact ⟨fun h' => data.eq_of_mem h' hfield, fun heq => heq ▸ hfield⟩
  have hnot : ∀ f, f ∉ data.items.map Prod.fst →
      ((∀ value, Shows (writeRow data.items original h) f value ↔
          data.toMap[f]? = some value) ↔ ¬ (FieldName f ∧ f ∈ h ∧ f ++ "@" ∈ h)) := by
    intro f hfield
    rw [← not_shows_writeRow_iff htyped hread hfield]
    refine forall_congr' fun value => ?_
    rw [Dict.getElem?_toMap_eq_some_iff]
    refine iff_false_right fun hin => ?_
    exact hfield (List.mem_map.mpr ⟨(f, value), hin, rfl⟩)
  constructor
  · intro hshows
    refine ⟨fun f hin => ?_, fun f value hin => ?_, fun f hname hout hboth => ?_⟩
    · exact ((hmem f _ hin).mp (hshows f)).1 rfl
    · exact ((hmem f value hin).mp (hshows f)).2
    · exact (hnot f hout).mp (hshows f) ⟨hname, hboth⟩
  · intro hwritable f
    by_cases hin : f ∈ data.items.map Prod.fst
    · obtain ⟨⟨f, value⟩, hfield, rfl⟩ := List.mem_map.mp hin
      refine (hmem f value hfield).mpr ⟨?_, hwritable.sameForm f value hfield⟩
      rintro rfl
      exact hwritable.noEmptyList f hfield
    · exact (hnot f hin).mpr fun h => hwritable.oneForm f h.1 hin h.2

/-- A row of strings that was read in some order is read in every order exactly if it could be
written. -/
theorem readsAs_iff_writable (htyped : Typed data.items)
    (hstr : ∀ f parts, (f, FieldValue.list parts) ∉ data.items) (hread : IsReadOf data.toMap h) :
    ReadsAs h data.toMap ↔ Writable data.items h := by
  have hlist : ∀ {f}, f ++ "@" ∈ h → ∃ parts, Shows h f (.list parts) := by
    intro f hmem
    obtain ⟨text, htext⟩ := Option.isSome_iff_exists.mp
      (ExtTreeMap.isSome_getElem?_iff_mem.mpr hmem)
    exact ⟨_, .inr ⟨text, htext, rfl⟩⟩
  rw [readsAs_iff]
  constructor
  · intro hshows
    refine ⟨fun f => hstr f [], fun f value hmem hother => ?_, fun f hname hnot hboth => ?_⟩
    · cases value with
      | list parts => exact hstr f parts hmem
      | str text =>
        obtain ⟨parts, hparts⟩ := hlist hother
        exact hstr f parts (Dict.getElem?_toMap_eq_some_iff.mp ((hshows f _).mp hparts))
    · obtain ⟨parts, hparts⟩ := hlist hboth.2
      exact hstr f parts (Dict.getElem?_toMap_eq_some_iff.mp ((hshows f _).mp hparts))
  · intro hwritable f value
    refine ⟨fun hshow => ?_, hread.shows⟩
    cases hget : data.toMap[f]? with
    | none => exact absurd hshow (hread.not_shows hget)
    | some value' =>
      have hmem := Dict.getElem?_toMap_eq_some_iff.mp hget
      cases value' with
      | list parts => exact absurd hmem (hstr f parts)
      | str text =>
        have hnot : f ++ "@" ∉ h := hwritable.sameForm f _ hmem
        rcases hread.shows hget with ⟨-, text', htext', heq⟩ | ⟨_, hat, -⟩
        · rcases hshow with ⟨-, text'', htext'', rfl⟩ | ⟨_, hat, -⟩
          · rw [heq, Option.some.inj (htext'.symm.trans htext'')]
          · exact absurd (mem_of_getElem?_eq_some hat) hnot
        · exact absurd (mem_of_getElem?_eq_some hat) hnot

end Swsssdk
