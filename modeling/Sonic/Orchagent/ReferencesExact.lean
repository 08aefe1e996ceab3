/-
Orchagent/ReferencesExact.lean

When references resolve exactly if they are written.

A text is read as a reference if one of its brackets is right, and what is between is cut in two
at a separator (`ReadAs`); a separator at the very end is not seen.  It is written as a reference
if it is the brackets, the type, a separator and the name (`Written`).  `references_exact_iff`
says for which maps and texts the two go together, for one reference, for a field with one and
for a field with a list.
-/
import Sonic.Orchagent.References

namespace Orchagent.References

open Swss
open Std (ExtTreeMap)
open Copp (sai_object_id_t SAI_NULL_OBJECT_ID)

/-! ### What should hold -/

/-- The brackets, the type, a separator and the name. -/
def Written (s : String) (ref : String × String) : Prop :=
  ∃ sep, (sep = delimiter ∨ sep = config_db_key_delimiter) ∧
    s.toList = ref_start :: (ref.1.toList ++ sep :: (ref.2.toList ++ [ref_end]))

/-- A reference to an object that is there. -/
def Reference (type_maps : type_map) (s : String) (ref : String × String) : Prop :=
  Written s ref ∧ (objectOf type_maps ref).isSome

/-- A reference is parsed if it is one, or the empty one. -/
def ParseExact (type_maps : type_map) (s : String) : Prop :=
  ∀ ref, parseReference type_maps s = some ref ↔
    Reference type_maps s ref ∨ (s = "[]" ∧ ref = ("", ""))

/-- The values of a field. -/
def occurrences (field_name : String) (fields : List FieldValueTuple) : List String :=
  (fields.filter (·.1 = field_name)).map (·.2)

/-- A field is resolved if it is there once, and its value is a reference; the maps stay. -/
def ValueExact (type_maps : type_map) (field_name : String) (fields : List FieldValueTuple) :
    Prop :=
  ∃ status sai_object,
    resolveFieldRefValue type_maps field_name fields = some (type_maps, status, sai_object) ∧
    (status = .success ↔
      ∃ v ref, occurrences field_name fields = [v] ∧ Reference type_maps v ref) ∧
    (status = .success → ∃ v ref, occurrences field_name fields = [v] ∧
      Reference type_maps v ref ∧ sai_object = objectOf type_maps ref)

/-- A field with a list is resolved if it is there once, and all its items are references. -/
def ArrayExact (type_maps : type_map) (field_name : String) (fields : List FieldValueTuple) :
    Prop :=
  ∃ status sai_object_arr,
    resolveFieldRefArray type_maps field_name fields = some (type_maps, status, sai_object_arr) ∧
    (status = .success ↔ ∃ v refs, occurrences field_name fields = [v] ∧
      List.Forall₂ (Reference type_maps) (listItems v) refs) ∧
    (status = .success → ∃ v refs, occurrences field_name fields = [v] ∧
      List.Forall₂ (Reference type_maps) (listItems v) refs ∧
      sai_object_arr.map some = refs.map (objectOf type_maps))

/-! ### The condition -/

def Opens (s : String) : Prop := s.toList.head? = some ref_start

def Closes (s : String) : Prop := s.toList.getLast? = some ref_end

/-- What is between the first character and the last one. -/
def inner (s : String) : String := String.ofList ((s.toList.drop 1).take (s.toList.length - 2))

/-- Two characters, one of which is the right bracket. -/
def LooksEmpty (s : String) : Prop := s.toList.length = 2 ∧ (Opens s ∨ Closes s)

/-- One bracket is right, and what is between is cut into two tokens. -/
def ReadAs (s : String) (ref : String × String) : Prop :=
  2 < s.toList.length ∧ (Opens s ∨ Closes s) ∧ refTokens (inner s) = some ref

/-- An object that a text is read as. -/
def Finds (type_maps : type_map) (s : String) (ref : String × String) : Prop :=
  (LooksEmpty s ∧ ref = ("", "")) ∨ (ReadAs s ref ∧ (objectOf type_maps ref).isSome)

/-- Both brackets are right or none, what is read as an object is enclosed in both and has no
separator behind the name, and a reference is cut where it is written. -/
structure Readable (type_maps : type_map) (s : String) : Prop where
  empty : LooksEmpty s → Opens s ∧ Closes s
  enclosed : ∀ ref, ReadAs s ref → (objectOf type_maps ref).isSome → Opens s ∧ Closes s
  ended : ∀ ref, ReadAs s ref → (objectOf type_maps ref).isSome →
    (inner s).toList.length = ref.1.toList.length + 1 + ref.2.toList.length
  cut : ∀ ref, Reference type_maps s ref → ReadAs s ref

/-- If the field is there once: what its value is read as is the object of a reference, and a
reference is read as an object. -/
structure ValueReadable (type_maps : type_map) (field_name : String)
    (fields : List FieldValueTuple) : Prop where
  sound : ∀ v ref, occurrences field_name fields = [v] → ReadAs v ref →
    (objectOf type_maps ref).isSome → ref ≠ ("", "") →
    ∃ ref', Reference type_maps v ref' ∧ objectOf type_maps ref' = objectOf type_maps ref
  complete : ∀ v ref, occurrences field_name fields = [v] → Reference type_maps v ref →
    ∃ ref', ReadAs v ref' ∧ (objectOf type_maps ref').isSome ∧ ref' ≠ ("", "")

/-- An item that is read as an object that is there. -/
def ItemRead (type_maps : type_map) (item : String) : Prop :=
  ∃ ref, Finds type_maps item ref ∧ (objectOf type_maps ref).isSome

/-- No item that looks like the empty reference comes before one that is not read; if the field
is there twice, an item is not read; if it is there once, and all items are read as objects or
all are references, then they are both, and the objects are the same. -/
structure ArrayReadable (type_maps : type_map) (field_name : String)
    (fields : List FieldValueTuple) : Prop where
  empty : ∀ before item after,
    ((occurrences field_name fields).take 2).flatMap listItems = before ++ item :: after →
    (∀ i ∈ before, ItemRead type_maps i) → LooksEmpty item →
    (objectOf type_maps ("", "")).isSome
  twice : ∀ v w, occurrences field_name fields = [v, w] →
    ∃ item ∈ listItems v ++ listItems w, ¬ ItemRead type_maps item
  sound : ∀ v, occurrences field_name fields = [v] →
    (∀ item ∈ listItems v, ItemRead type_maps item) → ∀ item ∈ listItems v, ∀ ref,
      Finds type_maps item ref → ∃ ref', Reference type_maps item ref' ∧
        objectOf type_maps ref' = objectOf type_maps ref
  complete : ∀ v, occurrences field_name fields = [v] →
    (∀ item ∈ listItems v, ∃ ref, Reference type_maps item ref) →
    ∀ item ∈ listItems v, ItemRead type_maps item

/-! ### One reference -/

variable {type_maps maps' : type_map} {s item : String} {ref : String × String}
  {field_name : String} {fields : List FieldValueTuple}

theorem parseReference_eq_some :
    parseReference type_maps s = some ref ↔ Finds type_maps s ref := by
  unfold parseReference Finds LooksEmpty ReadAs Opens Closes
  dsimp only
  generalize hl : s.toList.length = n
  by_cases hshort : n < 2
  · rw [if_pos hshort]
    refine iff_of_false nofun ?_
    rintro (⟨⟨htwo, -⟩, -⟩ | ⟨⟨hlong, -⟩, -⟩)
    · omega
    · omega
  rw [if_neg hshort]
  by_cases hnone : s.toList.head? ≠ some ref_start ∧ s.toList.getLast? ≠ some ref_end
  · rw [if_pos hnone]
    refine iff_of_false nofun ?_
    have habsurd : ¬ (s.toList.head? = some ref_start ∨ s.toList.getLast? = some ref_end) := by
      rintro (h | h)
      · exact hnone.1 h
      · exact hnone.2 h
    rintro (⟨⟨-, hbracket⟩, -⟩ | ⟨⟨-, hbracket, -⟩, -⟩)
    · exact habsurd hbracket
    · exact habsurd hbracket
  rw [if_neg hnone]
  have hbracket : s.toList.head? = some ref_start ∨ s.toList.getLast? = some ref_end := by
    by_contra hneither
    exact hnone (not_or.mp hneither)
  by_cases htwo : n = 2
  · rw [if_pos htwo]
    constructor
    · rintro ⟨⟩
      exact .inl ⟨⟨htwo, hbracket⟩, rfl⟩
    · rintro (⟨-, rfl⟩ | ⟨⟨hlong, -⟩, -⟩)
      · rfl
      · omega
  · rw [if_neg htwo]
    have hinner : String.ofList ((s.toList.drop 1).take (n - 2)) = inner s := by
      unfold inner
      rw [hl]
    rw [hinner]
    have hlong : 2 < n := by omega
    cases href : refTokens (inner s) with
    | none =>
      refine iff_of_false nofun ?_
      rintro (⟨⟨h, -⟩, -⟩ | ⟨⟨-, -, h⟩, -⟩)
      · exact htwo h
      · cases h
    | some r =>
      by_cases hknown : (objectOf type_maps r).isSome
      · show (if (objectOf type_maps r).isSome then some r else none) = some ref ↔ _
        rw [if_pos hknown]
        constructor
        · rintro ⟨⟩
          exact .inr ⟨⟨hlong, hbracket, rfl⟩, hknown⟩
        · rintro (⟨⟨h, -⟩, -⟩ | ⟨⟨-, -, h⟩, -⟩)
          · exact absurd h htwo
          · exact h
      · show (if (objectOf type_maps r).isSome then some r else none) = some ref ↔ _
        rw [if_neg hknown]
        refine iff_of_false nofun ?_
        rintro (⟨⟨h, -⟩, -⟩ | ⟨⟨-, -, h⟩, hobject⟩)
        · exact htwo h
        · obtain rfl := Option.some.inj h
          exact hknown hobject

/-- A text that is read is cut at a separator. -/
theorem inner_of_refTokens {c : String} (h : refTokens c = some ref) :
    ∃ sep, (sep = delimiter ∨ sep = config_db_key_delimiter) ∧
      (c.toList = ref.1.toList ++ sep :: ref.2.toList ∨
        c.toList = ref.1.toList ++ sep :: (ref.2.toList ++ [sep])) := by
  have hpair : ∀ sep, tokenize c sep = [ref.1, ref.2] →
      c.toList = ref.1.toList ++ sep :: ref.2.toList ∨
        c.toList = ref.1.toList ++ sep :: (ref.2.toList ++ [sep]) := by
    intro sep htokens
    unfold tokenize at htokens
    obtain ⟨l, rest, hlines, hl, hrest⟩ := List.map_eq_cons_iff.mp htokens
    obtain ⟨r, rest', hrest', hr, hnil⟩ := List.map_eq_cons_iff.mp hrest
    rw [List.map_eq_nil_iff.mp hnil] at hrest'
    rw [hrest'] at hlines
    obtain ⟨-, -, hcases⟩ := getlines_eq_pair hlines
    rw [← hl, ← hr, String.toList_ofList, String.toList_ofList]
    exact hcases.imp (·.1) id
  unfold refTokens at h
  by_cases htwo : (tokenize c delimiter).length ≠ 2
  · simp only [if_pos htwo] at h
    split at h
    · next htokens =>
        obtain rfl := Option.some.inj h
        exact ⟨_, .inr rfl, hpair _ htokens⟩
    · cases h
  · simp only [if_neg htwo] at h
    split at h
    · next htokens =>
        obtain rfl := Option.some.inj h
        exact ⟨_, .inl rfl, hpair _ htokens⟩
    · cases h

/-- A text with both brackets is them and what is between. -/
theorem toList_of_enclosed (ho : Opens s) (hc : Closes s) (hlen : 2 ≤ s.toList.length) :
    s.toList = ref_start :: ((inner s).toList ++ [ref_end]) := by
  unfold Opens at ho
  unfold Closes at hc
  unfold inner
  rw [String.toList_ofList]
  obtain ⟨rest, hs⟩ := List.head?_eq_some_iff.mp ho
  rw [hs] at hc hlen ⊢
  rcases List.eq_nil_or_concat rest with rfl | ⟨front, last, rfl⟩
  · simp at hlen
  · rw [List.concat_eq_append] at hc ⊢
    rw [← List.cons_append, List.getLast?_concat] at hc
    obtain rfl := Option.some.inj hc
    simp

theorem Written.enclosed (h : Written s ref) :
    Opens s ∧ Closes s ∧ 2 < s.toList.length ∧
      (inner s).toList.length = ref.1.toList.length + 1 + ref.2.toList.length := by
  obtain ⟨sep, -, hs⟩ := h
  have hlast : s.toList = (ref_start :: (ref.1.toList ++ sep :: ref.2.toList)) ++ [ref_end] := by
    rw [hs]
    simp
  refine ⟨?_, ?_, ?_, ?_⟩
  · unfold Opens
    rw [hs]
    rfl
  · unfold Closes
    rw [hlast, List.getLast?_concat]
  · rw [hlast]
    simp
    omega
  · unfold inner
    rw [String.toList_ofList, hs]
    simp
    omega

/-- What is read as an object, enclosed and with nothing behind the name, is written so. -/
theorem ReadAs.written (h : ReadAs s ref) (ho : Opens s) (hc : Closes s)
    (hend : (inner s).toList.length = ref.1.toList.length + 1 + ref.2.toList.length) :
    Written s ref := by
  obtain ⟨sep, hsep, hinner | hinner⟩ := inner_of_refTokens h.2.2
  · refine ⟨sep, hsep, ?_⟩
    rw [toList_of_enclosed ho hc (by have := h.1; omega), hinner, List.append_assoc,
      List.cons_append]
  · rw [hinner] at hend
    simp at hend
    omega

/-- **When a reference is parsed exactly if it is written.** -/
theorem parseExact_iff : ParseExact type_maps s ↔ Readable type_maps s := by
  unfold ParseExact
  constructor
  · intro h
    refine ⟨?_, ?_, ?_, ?_⟩
    · intro hempty
      rcases (h ("", "")).mp (parseReference_eq_some.mpr (.inl ⟨hempty, rfl⟩)) with
        href | ⟨rfl, -⟩
      · exact ⟨href.1.enclosed.1, href.1.enclosed.2.1⟩
      · exact ⟨rfl, rfl⟩
    · intro ref hread hknown
      rcases (h ref).mp (parseReference_eq_some.mpr (.inr ⟨hread, hknown⟩)) with href | ⟨rfl, -⟩
      · exact ⟨href.1.enclosed.1, href.1.enclosed.2.1⟩
      · exact ⟨rfl, rfl⟩
    · intro ref hread hknown
      rcases (h ref).mp (parseReference_eq_some.mpr (.inr ⟨hread, hknown⟩)) with href | ⟨rfl, -⟩
      · exact href.1.enclosed.2.2.2
      · exact absurd hread.1 (by decide)
    · intro ref href
      rcases parseReference_eq_some.mp ((h ref).mpr (.inl href)) with ⟨hempty, -⟩ | hread
      · have hlen := href.1.enclosed.2.2.1
        rw [hempty.1] at hlen
        exact absurd hlen (by decide)
      · exact hread.1
  · intro h ref
    rw [parseReference_eq_some]
    constructor
    · rintro (⟨hempty, rfl⟩ | ⟨hread, hknown⟩)
      · right
        obtain ⟨ho, hc⟩ := h.empty hempty
        have hlist := toList_of_enclosed ho hc hempty.1.ge
        have hnil : (inner s).toList = [] := by
          unfold inner
          rw [hempty.1, String.toList_ofList]
          rfl
        rw [hnil] at hlist
        exact ⟨String.toList_inj.mp hlist, rfl⟩
      · obtain ⟨ho, hc⟩ := h.enclosed ref hread hknown
        exact .inl ⟨hread.written ho hc (h.ended ref hread hknown), hknown⟩
    · rintro (href | ⟨rfl, rfl⟩)
      · exact .inr ⟨h.cut ref href, href.2⟩
      · exact .inl ⟨⟨rfl, .inl rfl⟩, rfl⟩

/-! ### Maps -/

/-- What is there is read, and the maps stay. -/
theorem readObject_known {o : sai_object_id_t} (h : objectOf type_maps ref = some o) :
    readObject type_maps ref = some (type_maps, o) := by
  obtain ⟨obj_map, hmap, hobject⟩ := Option.bind_eq_some_iff.mp h
  have hself : obj_map.insert ref.2 o = obj_map := by
    refine ExtTreeMap.ext_getElem? fun k => ?_
    rw [ExtTreeMap.getElem?_insert]
    split_ifs with hk
    · rw [← hobject, Std.compare_eq_iff_eq.mp hk]
    · rfl
  have hmaps : type_maps.insert ref.1 obj_map = type_maps := by
    refine ExtTreeMap.ext_getElem? fun k => ?_
    rw [ExtTreeMap.getElem?_insert]
    split_ifs with hk
    · rw [← hmap, Std.compare_eq_iff_eq.mp hk]
    · rfl
  have hget : obj_map.getD ref.2 SAI_NULL_OBJECT_ID = o := by
    rw [ExtTreeMap.getD_eq_getD_getElem?, hobject]
    rfl
  unfold readObject
  rw [hmap]
  show some (type_maps.insert ref.1 (obj_map.insert ref.2 (obj_map.getD ref.2 SAI_NULL_OBJECT_ID)),
    obj_map.getD ref.2 SAI_NULL_OBJECT_ID) = _
  rw [hget, hself, hmaps]

/-- To read an object makes it one that is there, and none goes. -/
theorem readObject_grows {o : sai_object_id_t} (h : readObject type_maps ref = some (maps', o)) :
    (objectOf maps' ref).isSome ∧
      ∀ r, (objectOf type_maps r).isSome → (objectOf maps' r).isSome := by
  unfold readObject at h
  cases hmap : type_maps[ref.1]? with
  | none =>
    rw [hmap] at h
    cases h
  | some obj_map =>
    rw [hmap] at h
    obtain ⟨rfl, -⟩ := Prod.mk.inj (Option.some.inj h)
    constructor
    · unfold objectOf
      rw [ExtTreeMap.getElem?_insert_self, Option.bind_some, ExtTreeMap.getElem?_insert_self]
      rfl
    · intro r hr
      unfold objectOf at hr ⊢
      rw [ExtTreeMap.getElem?_insert]
      split_ifs with hk
      · rw [← Std.compare_eq_iff_eq.mp hk, hmap, Option.bind_some] at hr
        rw [Option.bind_some, ExtTreeMap.getElem?_insert]
        split_ifs with hname
        · rfl
        · exact hr
      · exact hr

/-! ### A field with one reference -/

theorem occurrences_cons (i : FieldValueTuple) :
    occurrences field_name (i :: fields)
      = if i.1 = field_name then i.2 :: occurrences field_name fields
        else occurrences field_name fields := by
  unfold occurrences
  by_cases h : i.1 = field_name
  · rw [List.filter_cons_of_pos (by simpa using h), if_pos h]
    rfl
  · rw [List.filter_cons_of_neg (by simpa using h), if_neg h]

theorem resolveValueLoop_hit (o : sai_object_id_t) :
    resolveValueLoop type_maps field_name (some o) fields
      = if occurrences field_name fields = [] then some (type_maps, .success, some o)
        else some (type_maps, .multiple_instances, some o) := by
  induction fields with
  | nil => rfl
  | cons i rest ih =>
    rw [resolveValueLoop, occurrences_cons]
    by_cases h : i.1 = field_name
    · rw [if_pos h, if_pos h]
      rfl
    · rw [if_neg h, if_neg h, ih]

/-- What a field with one reference comes to, by the values that it has. -/
theorem resolveFieldRefValue_eq :
    resolveFieldRefValue type_maps field_name fields
      = match occurrences field_name fields with
        | [] => some (type_maps, .field_not_found, none)
        | v :: vs =>
          match parseReference type_maps v with
          | none => some (type_maps, .not_resolved, none)
          | some ref =>
            if ref.1 = "" ∧ ref.2 = "" then some (type_maps, .empty, none)
            else if vs = [] then some (type_maps, .success, objectOf type_maps ref)
            else some (type_maps, .multiple_instances, objectOf type_maps ref) := by
  unfold resolveFieldRefValue
  induction fields with
  | nil => rfl
  | cons i rest ih =>
    rw [resolveValueLoop, occurrences_cons]
    by_cases h : i.1 = field_name
    · have hfirst : ¬ (none : Option sai_object_id_t).isSome = true := nofun
      rw [if_pos h, if_pos h, if_neg hfirst]
      cases hparse : parseReference type_maps i.2 with
      | none => simp only [hparse]
      | some ref =>
        simp only [hparse]
        by_cases hempty : ref.1 = "" ∧ ref.2 = ""
        · rw [if_pos hempty, if_pos hempty]
        · rw [if_neg hempty, if_neg hempty]
          rcases parseReference_eq_some.mp hparse with ⟨-, rfl⟩ | ⟨-, hknown⟩
          · exact absurd ⟨rfl, rfl⟩ hempty
          · obtain ⟨o, ho⟩ := Option.isSome_iff_exists.mp hknown
            rw [readObject_known ho, ho]
            exact resolveValueLoop_hit o
    · rw [if_neg h, if_neg h, ih]

theorem ne_empty (ref : String × String) : ref ≠ ("", "") ↔ ¬ (ref.1 = "" ∧ ref.2 = "") := by
  constructor
  · rintro h ⟨h₁, h₂⟩
    exact h (Prod.ext h₁ h₂)
  · rintro h rfl
    exact h ⟨rfl, rfl⟩

/-- When a field is resolved, and to what. -/
theorem value_success {status : ref_resolve_status} {sai_object : Option sai_object_id_t}
    (h : resolveFieldRefValue type_maps field_name fields = some (maps', status, sai_object)) :
    maps' = type_maps ∧ (status = .success ↔ ∃ v ref, occurrences field_name fields = [v] ∧
      ReadAs v ref ∧ (objectOf type_maps ref).isSome ∧ ref ≠ ("", "")) ∧
    (status = .success → ∀ v ref, occurrences field_name fields = [v] → ReadAs v ref →
      sai_object = objectOf type_maps ref) := by
  rw [resolveFieldRefValue_eq] at h
  cases hocc : occurrences field_name fields with
  | nil =>
    rw [hocc] at h
    cases h
    refine ⟨rfl, iff_of_false nofun ?_, nofun⟩
    rintro ⟨v, ref, hv, -⟩
    cases hv
  | cons v vs =>
    rw [hocc] at h
    cases hparse : parseReference type_maps v with
    | none =>
      simp only [hparse] at h
      cases h
      refine ⟨rfl, iff_of_false nofun ?_, nofun⟩
      rintro ⟨w, ref, hw, hread, hknown, -⟩
      obtain ⟨rfl, -⟩ := List.cons.inj hw
      rw [parseReference_eq_some.mpr (.inr ⟨hread, hknown⟩)] at hparse
      cases hparse
    | some ref =>
      simp only [hparse] at h
      -- a text is read in one way
      have hunique : ∀ ref', ReadAs v ref' → (objectOf type_maps ref').isSome → ref' = ref := by
        intro ref' hread hknown
        rw [parseReference_eq_some.mpr (.inr ⟨hread, hknown⟩)] at hparse
        exact Option.some.inj hparse
      by_cases hempty : ref.1 = "" ∧ ref.2 = ""
      · rw [if_pos hempty] at h
        cases h
        refine ⟨rfl, iff_of_false nofun ?_, nofun⟩
        rintro ⟨w, ref', hw, hread, hknown, hne⟩
        obtain ⟨rfl, -⟩ := List.cons.inj hw
        rw [hunique ref' hread hknown] at hne
        exact (ne_empty ref).mp hne hempty
      · rw [if_neg hempty] at h
        obtain ⟨hread, hknown⟩ : ReadAs v ref ∧ (objectOf type_maps ref).isSome := by
          rcases parseReference_eq_some.mp hparse with ⟨-, rfl⟩ | hread
          · exact absurd ⟨rfl, rfl⟩ hempty
          · exact hread
        by_cases hvs : vs = []
        · rw [if_pos hvs] at h
          cases h
          refine ⟨rfl, iff_of_true rfl ⟨v, ref, by rw [hvs], hread, hknown,
            (ne_empty ref).mpr hempty⟩, fun _ w ref' hw hread' => ?_⟩
          obtain ⟨rfl, -⟩ := List.cons.inj hw
          rw [Option.some.inj (hread'.2.2.symm.trans hread.2.2)]
        · rw [if_neg hvs] at h
          cases h
          refine ⟨rfl, iff_of_false nofun ?_, nofun⟩
          rintro ⟨w, ref', hw, -⟩
          exact hvs (List.cons.inj hw).2

theorem exists_value (type_maps : type_map) (field_name : String)
    (fields : List FieldValueTuple) : ∃ status sai_object,
      resolveFieldRefValue type_maps field_name fields = some (type_maps, status, sai_object) := by
  rw [resolveFieldRefValue_eq]
  split
  · exact ⟨_, _, rfl⟩
  · split
    · exact ⟨_, _, rfl⟩
    · split_ifs <;> exact ⟨_, _, rfl⟩

/-- **When a field with one reference is resolved exactly if it is one.** -/
theorem valueExact_iff :
    ValueExact type_maps field_name fields ↔ ValueReadable type_maps field_name fields := by
  obtain ⟨status, sai_object, hresult⟩ := exists_value type_maps field_name fields
  obtain ⟨-, hsuccess, hobject⟩ := value_success hresult
  constructor
  · rintro ⟨status', sai_object', hresult', hiff, hthen⟩
    rw [hresult] at hresult'
    obtain ⟨rfl, rfl⟩ := Prod.mk.inj (Prod.mk.inj (Option.some.inj hresult')).2
    constructor
    · intro v ref hv hread hknown hne
      have hok := hsuccess.mpr ⟨v, ref, hv, hread, hknown, hne⟩
      obtain ⟨w, ref', hw, href, hsame⟩ := hthen hok
      rw [hv] at hw
      obtain ⟨rfl, -⟩ := List.cons.inj hw
      exact ⟨ref', href, hsame.symm.trans (hobject hok v ref hv hread)⟩
    · intro v ref hv href
      obtain ⟨w, ref', hw, hread⟩ := hsuccess.mp (hiff.mpr ⟨v, ref, hv, href⟩)
      rw [hv] at hw
      obtain ⟨rfl, -⟩ := List.cons.inj hw
      exact ⟨ref', hread⟩
  · intro h
    refine ⟨status, sai_object, hresult, ?_, ?_⟩
    · rw [hsuccess]
      constructor
      · rintro ⟨v, ref, hv, hread, hknown, hne⟩
        obtain ⟨ref', href, -⟩ := h.sound v ref hv hread hknown hne
        exact ⟨v, ref', hv, href⟩
      · rintro ⟨v, ref, hv, href⟩
        obtain ⟨ref', hread⟩ := h.complete v ref hv href
        exact ⟨v, ref', hv, hread⟩
    · intro hok
      obtain ⟨v, ref, hv, hread, hknown, hne⟩ := hsuccess.mp hok
      obtain ⟨ref', href, hsame⟩ := h.sound v ref hv hread hknown hne
      exact ⟨v, ref', hv, href, (hobject hok v ref hv hread).trans hsame.symm⟩

/-! ### A field with a list -/

variable {arr : List sai_object_id_t} {items : List String}

/-- A text is read in one way. -/
theorem Finds.unique {ref' : String × String} (h : Finds type_maps s ref)
    (h' : Finds type_maps s ref') : ref' = ref := by
  have hsame := (parseReference_eq_some.mpr h').symm.trans (parseReference_eq_some.mpr h)
  exact Option.some.inj hsame

theorem LooksEmpty.not_itemRead (h : LooksEmpty item)
    (hnone : ¬ (objectOf type_maps ("", "")).isSome) : ¬ ItemRead type_maps item := by
  rintro ⟨ref, hfinds, hknown⟩
  obtain rfl : ref = ("", "") := Finds.unique (.inl ⟨h, rfl⟩) hfinds
  exact hnone hknown

theorem resolveItems_append (xs ys : List String) :
    resolveItems type_maps arr (xs ++ ys)
      = match resolveItems type_maps arr xs with
        | none => none
        | some (maps', arr', false) => some (maps', arr', false)
        | some (maps', arr', true) => resolveItems maps' arr' ys := by
  induction xs generalizing type_maps arr with
  | nil => rfl
  | cons x xs ih =>
    rw [List.cons_append, resolveItems, resolveItems]
    cases parseReference type_maps x with
    | none => rfl
    | some ref =>
      dsimp only
      cases readObject type_maps ref with
      | none => rfl
      | some found => exact ih

theorem resolveItems_grows {flag : Bool} {arr' : List sai_object_id_t}
    (h : resolveItems type_maps arr items = some (maps', arr', flag)) :
    (objectOf type_maps ref).isSome → (objectOf maps' ref).isSome := by
  induction items generalizing type_maps arr with
  | nil =>
    cases h
    exact id
  | cons item items ih =>
    rw [resolveItems] at h
    cases hparse : parseReference type_maps item with
    | none =>
      rw [hparse] at h
      cases h
      exact id
    | some r =>
      simp only [hparse] at h
      cases hread : readObject type_maps r with
      | none =>
        rw [hread] at h
        cases h
      | some found =>
        rw [hread] at h
        exact fun hknown => ih h ((readObject_grows hread).2 ref hknown)

/-- What the items come to: all are read as objects, or one is not read, or one looks like the
empty reference where the maps have no such object. -/
inductive Goes (type_maps : type_map) (arr : List sai_object_id_t) (items : List String) :
    Option (type_map × List sai_object_id_t × Bool) → Prop
  | all (refs : List (String × String)) (objs : List sai_object_id_t) :
      List.Forall₂ (fun i r => Finds type_maps i r ∧ (objectOf type_maps r).isSome) items refs →
      objs.map some = refs.map (objectOf type_maps) →
      Goes type_maps arr items (some (type_maps, arr ++ objs, true))
  | stops (before : List String) (item : String) (after : List String)
      (arr' : List sai_object_id_t) : items = before ++ item :: after →
      (∀ i ∈ before, ItemRead type_maps i) → (∀ ref, ¬ Finds type_maps item ref) →
      Goes type_maps arr items (some (type_maps, arr', false))
  | spoils (before : List String) (item : String) (after : List String)
      (r : Option (type_map × List sai_object_id_t × Bool)) : items = before ++ item :: after →
      (∀ i ∈ before, ItemRead type_maps i) → LooksEmpty item →
      ¬ (objectOf type_maps ("", "")).isSome →
      (∀ maps' arr' flag, r = some (maps', arr', flag) → (objectOf maps' ("", "")).isSome) →
      Goes type_maps arr items r

theorem resolveItems_goes (type_maps : type_map) (arr : List sai_object_id_t)
    (items : List String) : Goes type_maps arr items (resolveItems type_maps arr items) := by
  induction items generalizing arr with
  | nil =>
    have hall : Goes type_maps arr [] (some (type_maps, arr ++ [], true)) := .all [] [] .nil rfl
    rw [List.append_nil] at hall
    exact hall
  | cons item items ih =>
    rw [resolveItems]
    cases hparse : parseReference type_maps item with
    | none =>
      refine .stops [] item items arr rfl nofun fun ref hfinds => ?_
      rw [parseReference_eq_some.mpr hfinds] at hparse
      cases hparse
    | some ref =>
      have hfinds := parseReference_eq_some.mp hparse
      dsimp only
      cases hobject : objectOf type_maps ref with
      | some o =>
        have hread : ItemRead type_maps item := ⟨ref, hfinds, by rw [hobject]; rfl⟩
        rw [readObject_known hobject]
        dsimp only
        have hgoes := ih (arr ++ [o])
        generalize resolveItems type_maps (arr ++ [o]) items = r at hgoes
        cases hgoes with
        | all refs objs hrefs hobjs =>
          have hall : Goes type_maps arr (item :: items)
              (some (type_maps, arr ++ o :: objs, true)) := by
            refine .all (ref :: refs) (o :: objs) (.cons ⟨hfinds, ?_⟩ hrefs) ?_
            · rw [hobject]
              rfl
            · rw [List.map_cons, List.map_cons, hobjs, hobject]
          rw [List.append_assoc]
          exact hall
        | stops before x after arr' hitems hbefore hx =>
          refine .stops (item :: before) x after arr' ?_ ?_ hx
          · rw [hitems]
            rfl
          · exact List.forall_mem_cons.mpr ⟨hread, hbefore⟩
        | spoils before x after r hitems hbefore hx hnone hr =>
          refine .spoils (item :: before) x after _ ?_ ?_ hx hnone hr
          · rw [hitems]
            rfl
          · exact List.forall_mem_cons.mpr ⟨hread, hbefore⟩
      | none =>
        rcases hfinds with ⟨hempty, rfl⟩ | ⟨-, hknown⟩
        · have hnone : ¬ (objectOf type_maps ("", "")).isSome := by
            rw [hobject]
            exact Bool.false_ne_true
          refine .spoils [] item items _ rfl nofun hempty hnone fun maps' arr' flag hr => ?_
          cases hread : readObject type_maps ("", "") with
          | none =>
            rw [hread] at hr
            cases hr
          | some found =>
            rw [hread] at hr
            exact resolveItems_grows hr (readObject_grows hread).1
        · rw [hobject] at hknown
          cases hknown

/-- The loop over the values of the field. -/
def resolveLists (type_maps : type_map) (arr : List sai_object_id_t) (count : ℕ) :
    List String → Option (type_map × ref_resolve_status × List sai_object_id_t)
  | [] => if count = 0 then some (type_maps, .field_not_found, arr)
      else some (type_maps, .success, arr)
  | v :: vs =>
    if count > 1 then some (type_maps, .multiple_instances, arr)
    else
      match resolveItems type_maps arr (listItems v) with
      | none => none
      | some (maps', arr', false) => some (maps', .not_resolved, arr')
      | some (maps', arr', true) => resolveLists maps' arr' (count + 1) vs

theorem resolveArrayLoop_eq (count : ℕ) :
    resolveArrayLoop type_maps field_name arr count fields
      = resolveLists type_maps arr count (occurrences field_name fields) := by
  induction fields generalizing type_maps arr count with
  | nil => rfl
  | cons i rest ih =>
    rw [resolveArrayLoop, occurrences_cons]
    by_cases h : i.1 = field_name
    · rw [if_pos h, if_pos h, resolveLists]
      by_cases hcount : count > 1
      · rw [if_pos hcount, if_pos hcount]
      · rw [if_neg hcount, if_neg hcount]
        rcases resolveItems type_maps arr (listItems i.2) with - | ⟨maps', arr', - | -⟩
        · rfl
        · rfl
        · exact ih (count + 1)
    · rw [if_neg h, if_neg h, ih]

/-- The items of the first two values are gone over; the values behind them are too many. -/
theorem resolveFieldRefArray_eq (hocc : occurrences field_name fields ≠ []) :
    resolveFieldRefArray type_maps field_name fields
      = match resolveItems type_maps []
          (((occurrences field_name fields).take 2).flatMap listItems) with
        | none => none
        | some (maps', arr', false) => some (maps', .not_resolved, arr')
        | some (maps', arr', true) =>
          if (occurrences field_name fields).length ≤ 2 then some (maps', .success, arr')
          else some (maps', .multiple_instances, arr') := by
  unfold resolveFieldRefArray
  rw [resolveArrayLoop_eq]
  generalize occurrences field_name fields = values at hocc
  rcases values with - | ⟨v, - | ⟨w, ws⟩⟩
  · exact absurd rfl hocc
  · rw [resolveLists, if_neg (by decide)]
    show _ = match resolveItems type_maps [] (listItems v ++ []) with
      | none => none
      | some (maps', arr', false) => some (maps', ref_resolve_status.not_resolved, arr')
      | some (maps', arr', true) => _
    rw [List.append_nil]
    rcases resolveItems type_maps [] (listItems v) with - | ⟨maps', arr', - | -⟩ <;> rfl
  · rw [resolveLists, if_neg (by decide)]
    show _ = match resolveItems type_maps [] (listItems v ++ (listItems w ++ [])) with
      | none => none
      | some (maps', arr', false) => some (maps', ref_resolve_status.not_resolved, arr')
      | some (maps', arr', true) => _
    rw [List.append_nil, resolveItems_append]
    rcases resolveItems type_maps [] (listItems v) with - | ⟨maps', arr', - | -⟩
    · rfl
    · rfl
    · dsimp only
      rw [resolveLists, if_neg (by decide)]
      rcases resolveItems maps' arr' (listItems w) with - | ⟨maps'', arr'', - | -⟩
      · rfl
      · rfl
      · cases ws with
        | nil => rfl
        | cons x ws => rfl

/-- The first item that does not pass is one. -/
theorem first_unique {α : Type} {P : α → Prop} {l before before' after after' : List α} {x x' : α}
    (h : l = before ++ x :: after) (hbefore : ∀ i ∈ before, P i) (hx : ¬ P x)
    (h' : l = before' ++ x' :: after') (hbefore' : ∀ i ∈ before', P i) (hx' : ¬ P x') :
    x = x' := by
  induction before generalizing l before' with
  | nil =>
    cases before' with
    | nil =>
      rw [h] at h'
      exact (List.cons.inj h').1
    | cons y before' =>
      rw [h] at h'
      obtain ⟨rfl, -⟩ := List.cons.inj h'
      exact absurd (hbefore' x List.mem_cons_self) hx
  | cons y before ih =>
    cases before' with
    | nil =>
      rw [h] at h'
      obtain ⟨rfl, -⟩ := List.cons.inj h'
      exact absurd (hbefore y List.mem_cons_self) hx'
    | cons y' before' =>
      rw [h] at h'
      obtain ⟨-, htail⟩ := List.cons.inj h'
      exact ih rfl (fun i hi => hbefore i (List.mem_cons_of_mem _ hi)) htail
        fun i hi => hbefore' i (List.mem_cons_of_mem _ hi)

/-- All items are references to the objects that they are read as. -/
theorem forall₂_reference_iff {refs : List (String × String)}
    (h : List.Forall₂ (fun i r => Finds type_maps i r ∧ (objectOf type_maps r).isSome) items refs) :
    (∃ refs', List.Forall₂ (Reference type_maps) items refs' ∧
      refs.map (objectOf type_maps) = refs'.map (objectOf type_maps)) ↔
    ∀ item ∈ items, ∀ ref, Finds type_maps item ref → ∃ ref', Reference type_maps item ref' ∧
      objectOf type_maps ref' = objectOf type_maps ref := by
  induction h with
  | nil => exact iff_of_true ⟨[], .nil, rfl⟩ nofun
  | @cons i r items refs hir hrest ih =>
    rw [List.forall_mem_cons, ← ih]
    constructor
    · rintro ⟨_, hrefs, hsame⟩
      cases hrefs with
      | @cons _ r' _ refs' href hrefs =>
        rw [List.map_cons, List.map_cons] at hsame
        obtain ⟨hr, htail⟩ := List.cons.inj hsame
        refine ⟨fun ref hfinds => ⟨r', href, ?_⟩, refs', hrefs, htail⟩
        rw [Finds.unique hir.1 hfinds, hr]
    · rintro ⟨hhead, refs', hrefs, htail⟩
      obtain ⟨r', href, hr⟩ := hhead r hir.1
      refine ⟨r' :: refs', .cons href hrefs, ?_⟩
      rw [List.map_cons, List.map_cons, hr, htail]

theorem exists_forall₂ (h : ∀ item ∈ items, ∃ ref, Reference type_maps item ref) :
    ∃ refs, List.Forall₂ (Reference type_maps) items refs := by
  induction items with
  | nil => exact ⟨[], .nil⟩
  | cons item items ih =>
    obtain ⟨ref, href⟩ := h item List.mem_cons_self
    obtain ⟨refs, hrefs⟩ := ih fun i hi => h i (List.mem_cons_of_mem _ hi)
    exact ⟨ref :: refs, .cons href hrefs⟩

theorem forall_of_forall₂ {refs : List (String × String)}
    (h : List.Forall₂ (Reference type_maps) items refs) :
    ∀ item ∈ items, ∃ ref, Reference type_maps item ref := by
  induction h with
  | nil => exact nofun
  | cons href _ ih => exact List.forall_mem_cons.mpr ⟨⟨_, href⟩, ih⟩

theorem itemRead_of_forall₂ {refs : List (String × String)}
    (h : List.Forall₂ (fun i r => Finds type_maps i r ∧ (objectOf type_maps r).isSome)
      items refs) : ∀ item ∈ items, ItemRead type_maps item := by
  induction h with
  | nil => exact nofun
  | cons hread _ ih => exact List.forall_mem_cons.mpr ⟨⟨_, hread⟩, ih⟩

/-- **When a field with a list is resolved exactly if its items are references.**  The cases are
what its items come to. -/
theorem arrayExact_iff :
    ArrayExact type_maps field_name fields ↔ ArrayReadable type_maps field_name fields := by
  by_cases hocc : occurrences field_name fields = []
  · -- the field is not there
    have hresult : resolveFieldRefArray type_maps field_name fields
        = some (type_maps, .field_not_found, []) := by
      unfold resolveFieldRefArray
      rw [resolveArrayLoop_eq, hocc]
      rfl
    refine iff_of_true ⟨_, _, hresult, iff_of_false nofun ?_, nofun⟩ ⟨?_, ?_, ?_, ?_⟩
    · rintro ⟨v, refs, hv, -⟩
      rw [hocc] at hv
      cases hv
    · intro before item after hitems
      rw [hocc] at hitems
      exact absurd (congrArg List.length hitems) (by simp)
    · intro v w hvw
      rw [hocc] at hvw
      cases hvw
    · intro v hv
      rw [hocc] at hv
      cases hv
    · intro v hv
      rw [hocc] at hv
      cases hv
  have hresult : resolveFieldRefArray type_maps field_name fields = _ :=
    resolveFieldRefArray_eq hocc
  have hone : ∀ v, occurrences field_name fields = [v] →
      ((occurrences field_name fields).take 2).flatMap listItems = listItems v := by
    intro v hv
    rw [hv]
    exact List.append_nil _
  have htwo : ∀ v w, occurrences field_name fields = [v, w] →
      ((occurrences field_name fields).take 2).flatMap listItems
        = listItems v ++ listItems w := by
    intro v w hvw
    rw [hvw]
    show listItems v ++ (listItems w ++ []) = _
    rw [List.append_nil]
  have hgoes := resolveItems_goes type_maps []
    (((occurrences field_name fields).take 2).flatMap listItems)
  generalize hr : resolveItems type_maps []
    (((occurrences field_name fields).take 2).flatMap listItems) = r at hgoes hresult
  generalize hitems : ((occurrences field_name fields).take 2).flatMap listItems = items
    at hgoes hone htwo
  cases hgoes with
  | spoils before item after r hsplit hbefore hempty hnone hspoiled =>
    refine iff_of_false ?_ fun h => hnone (h.empty before item after
      (hitems.trans hsplit) hbefore hempty)
    rintro ⟨status, sai_object_arr, hsame, -⟩
    rw [hresult] at hsame
    rcases r with - | ⟨maps', arr', - | -⟩
    · cases hsame
    · cases hsame
      exact hnone (hspoiled _ _ _ rfl)
    · dsimp only at hsame
      split_ifs at hsame
      · cases hsame
        exact hnone (hspoiled _ _ _ rfl)
      · cases hsame
        exact hnone (hspoiled _ _ _ rfl)
  | stops before item after arr' hsplit hbefore hunread =>
    have hnot : ¬ ItemRead type_maps item := fun ⟨ref, hfinds, _⟩ => hunread ref hfinds
    have hmem : item ∈ items := hsplit ▸ List.mem_append_right _ List.mem_cons_self
    constructor
    · rintro ⟨status, sai_object_arr, hsame, hiff, -⟩
      rw [hresult] at hsame
      cases hsame
      refine ⟨?_, ?_, ?_, ?_⟩
      · intro before' item' after' hsplit' hbefore' hempty
        by_contra hnone
        rw [hitems] at hsplit'
        obtain rfl := first_unique hsplit hbefore hnot hsplit' hbefore'
          (hempty.not_itemRead hnone)
        exact hunread _ (.inl ⟨hempty, rfl⟩)
      · intro v w hvw
        exact ⟨item, htwo v w hvw ▸ hmem, hnot⟩
      · intro v hv hall
        exact absurd (hall item (hone v hv ▸ hmem)) hnot
      · intro v hv hall
        obtain ⟨refs, hrefs⟩ := exists_forall₂ hall
        exact absurd (hiff.mpr ⟨v, refs, hv, hrefs⟩) nofun
    · intro h
      refine ⟨.not_resolved, arr', hresult, iff_of_false nofun ?_, nofun⟩
      rintro ⟨v, refs, hv, hrefs⟩
      exact hnot (h.complete v hv (forall_of_forall₂ hrefs) item (hone v hv ▸ hmem))
  | all refs objs hrefs hobjs =>
    have hall := itemRead_of_forall₂ hrefs
    rw [List.nil_append] at hresult
    by_cases hmany : (occurrences field_name fields).length ≤ 2
    · dsimp only at hresult
      rw [if_pos hmany] at hresult
      constructor
      · rintro ⟨status, sai_object_arr, hsame, -, hthen⟩
        rw [hresult] at hsame
        cases hsame
        obtain ⟨v, refs', hv, hrefs', hobjs'⟩ := hthen rfl
        rw [hobjs] at hobjs'
        refine ⟨?_, ?_, ?_, ?_⟩
        · intro before item after hsplit hbefore hempty
          by_contra hnone
          refine hempty.not_itemRead hnone (hall item ?_)
          rw [← hitems, hsplit]
          exact List.mem_append_right _ List.mem_cons_self
        · intro w x hwx
          rw [hv] at hwx
          cases hwx
        · intro w hw _
          rw [← hone v hv] at hrefs'
          rw [← hone w hw]
          exact (forall₂_reference_iff hrefs).mp ⟨refs', hrefs', hobjs'⟩
        · intro w hw _
          rw [← hone w hw]
          exact hall
      · intro h
        have hlength : ∃ v, occurrences field_name fields = [v] := by
          generalize hvalues : occurrences field_name fields = values at hocc hmany
          rcases values with - | ⟨v, - | ⟨w, - | ⟨x, rest⟩⟩⟩
          · exact absurd rfl hocc
          · exact ⟨v, rfl⟩
          · obtain ⟨item, hmem, hnot⟩ := h.twice v w hvalues
            exact absurd (hall item (htwo v w hvalues ▸ hmem)) hnot
          · exact absurd hmany (by simp)
        obtain ⟨v, hv⟩ := hlength
        have hlist := hone v hv
        have hsound := h.sound v hv
        rw [← hlist] at hsound
        obtain ⟨refs', hrefs', hobjs'⟩ := (forall₂_reference_iff hrefs).mpr (hsound hall)
        rw [hlist] at hrefs'
        exact ⟨.success, objs, hresult, iff_of_true rfl ⟨v, refs', hv, hrefs'⟩,
          fun _ => ⟨v, refs', hv, hrefs', hobjs.trans hobjs'⟩⟩
    · dsimp only at hresult
      rw [if_neg hmany] at hresult
      have hlong : ∀ v w, occurrences field_name fields ≠ [v] ∧
          occurrences field_name fields ≠ [v, w] := by
        intro v w
        constructor
        · intro hv
          rw [hv] at hmany
          exact hmany (by simp)
        · intro hvw
          rw [hvw] at hmany
          exact hmany (by simp)
      refine iff_of_true ⟨_, _, hresult, iff_of_false nofun ?_, nofun⟩ ⟨?_, ?_, ?_, ?_⟩
      · rintro ⟨v, refs', hv, -⟩
        exact (hlong v v).1 hv
      · intro before item after hsplit hbefore hempty
        by_contra hnone
        refine hempty.not_itemRead hnone (hall item ?_)
        rw [← hitems, hsplit]
        exact List.mem_append_right _ List.mem_cons_self
      · exact fun v w hvw => absurd hvw (hlong v w).2
      · exact fun v hv => absurd hv (hlong v v).1
      · exact fun v hv => absurd hv (hlong v v).1

/-- **When references resolve exactly if they are well formed and name an object.** -/
theorem references_exact_iff (type_maps : type_map) (s field_name : String)
    (fields : List FieldValueTuple) :
    (ParseExact type_maps s ∧ ValueExact type_maps field_name fields ∧
      ArrayExact type_maps field_name fields) ↔
    (Readable type_maps s ∧ ValueReadable type_maps field_name fields ∧
      ArrayReadable type_maps field_name fields) :=
  and_congr parseExact_iff (and_congr valueExact_iff arrayExact_iff)

/-- **A list with the empty reference**: the map of no type is looked up, and is not there. -/
theorem not_references_exact : ¬ ∀ (type_maps : type_map) (s field_name : String)
    (fields : List FieldValueTuple), ParseExact type_maps s ∧
      ValueExact type_maps field_name fields ∧ ArrayExact type_maps field_name fields := by
  intro hclaim
  obtain ⟨-, -, status, sai_object_arr, hresult, -⟩ :=
    hclaim ∅ "" "profile_list" [("profile_list", "[]")]
  have hnone : resolveFieldRefArray ∅ "profile_list" [("profile_list", "[]")] = none := by
    decide +kernel
  rw [hnone] at hresult
  cases hresult

end Orchagent.References
