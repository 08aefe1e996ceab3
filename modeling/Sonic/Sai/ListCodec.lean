/-
Sai/ListCodec.lean

Lists of the SAI codec: `sai_serialize_list` and `sai_deserialize_list`.

A list is its count and the items with commas between, or `null`; of a list that is
asked for its count only, there is nothing else.  A decoder of items that is good for
one item is good for the list (`sai_deserialize_serialize_list`), as long as no item
has a comma, is empty or is the word `null`.
-/
import Sonic.Sai.Enum

namespace Sai

open Numeral IntType
open Swss (getlines)

/-- A list with its count; the list may be NULL. -/
structure SaiList (α : Type) where
  count : IntType.uint32.Value
  list : Option (List α)
  length_eq : ∀ items ∈ list, (items.length : ℤ) = count.1

namespace SaiList

variable {α : Type}

/-- A list that is NULL. -/
def null (count : IntType.uint32.Value) : SaiList α := ⟨count, none, by simp⟩

/-- Two lists are the same: count and items, where an empty list may be NULL. -/
def Same (countOnly : Bool) (l l' : SaiList α) : Prop :=
  l.count = l'.count ∧ (countOnly = true ∨ l.count.1 = 0 ∨ l.list = l'.list)

end SaiList

variable {α : Type}

def nullText : List Char := ['n', 'u', 'l', 'l']

/-- `sai_serialize_list`. -/
def sai_serialize_list (list : SaiList α) (countOnly : Bool) (serialize_item : α → List Char) :
    List Char :=
  let s := sai_serialize_number list.count false
  if countOnly then s
  else
    match list.list with
    | none => s ++ ':' :: nullText
    | some items =>
      if list.count.1 = 0 then s ++ ':' :: nullText
      else s ++ ':' :: [','].intercalate (items.map serialize_item)

/-- `sai_deserialize_list`. -/
def sai_deserialize_list (s : List Char) (countOnly : Bool)
    (deserialize_item : List Char → Option α) : Option (SaiList α) :=
  if countOnly then (sai_deserialize_number .uint32 s false).map SaiList.null
  else if ':' ∉ s then none
  else
    (sai_deserialize_number .uint32 (s.takeWhile (· ≠ ':')) false).bind fun count =>
      let slist := (s.dropWhile (· ≠ ':')).tail
      if slist = nullText then some (SaiList.null count)
      else
        match (getlines ',' [] slist).mapM deserialize_item with
        | none => none
        | some items =>
          if h : (items.length : ℤ) = count.1 then
            some ⟨count, some items, fun l hl => by obtain rfl := Option.some.inj hl; exact h⟩
          else none

/-- A codec of items of a list. -/
structure ItemCodec (serialize_item : α → List Char) (deserialize_item : List Char → Option α) :
    Prop where
  comma : ∀ a, ',' ∉ serialize_item a
  ne_nil : ∀ a, serialize_item a ≠ []
  ne_null : ∀ a, 'n' ∉ serialize_item a
  read_back : ∀ a, deserialize_item (serialize_item a) = some a

variable {serialize_item : α → List Char} {deserialize_item : List Char → Option α}

/-- Items are read back one after another. -/
theorem mapM_read_back {β : Type} {write : α → β} {read : β → Option α}
    (h : ∀ a, read (write a) = some a) (items : List α) :
    (items.map write).mapM read = some items := by
  induction items with
  | nil => rfl
  | cons a items ih =>
    rw [List.map_cons, List.mapM_cons, h, ih]
    rfl

/-- The items are told apart. -/
theorem getlines_items (h : ItemCodec serialize_item deserialize_item) (items : List α) :
    getlines ',' [] ([','].intercalate (items.map serialize_item)) = items.map serialize_item := by
  apply Swss.getlines_intercalate
  · intro text htext
    obtain ⟨a, -, rfl⟩ := List.mem_map.mp htext
    exact h.comma a
  · intro hlast
    obtain ⟨a, -, hnil⟩ := List.mem_map.mp (List.mem_of_getLast? hlast)
    exact h.ne_nil a hnil

/-- Items are not the word `null`. -/
theorem intercalate_ne_null (h : ItemCodec serialize_item deserialize_item) (items : List α) :
    [','].intercalate (items.map serialize_item) ≠ nullText := by
  intro heq
  have htokens := getlines_items h items
  rw [heq, show getlines ',' [] nullText = [nullText] from rfl] at htokens
  obtain ⟨a, -, ha⟩ := List.mem_map.mp (htokens ▸ List.mem_singleton_self nullText)
  exact h.ne_null a (ha ▸ by decide)

theorem colon_not_mem_number {T : IntType} (v : T.Value) : ':' ∉ sai_serialize_number v false := by
  intro hmem
  rcases mem_sai_serialize_number hmem with hc | hc
  · exact absurd hc (by decide)
  · exact absurd hc (by decide)

/-- The count and the items are told apart. -/
theorem split_count (count : IntType.uint32.Value) (rest : List Char) :
    ':' ∈ sai_serialize_number count false ++ ':' :: rest ∧
      (sai_serialize_number count false ++ ':' :: rest).takeWhile (· ≠ ':')
        = sai_serialize_number count false ∧
      ((sai_serialize_number count false ++ ':' :: rest).dropWhile (· ≠ ':')).tail = rest := by
  refine ⟨by simp, ?_⟩
  exact Swss.span_of_not_mem (colon_not_mem_number count) rest

/-- **A list is read back.** -/
theorem sai_deserialize_serialize_list (h : ItemCodec serialize_item deserialize_item)
    (l : SaiList α) (countOnly : Bool) :
    ∃ l', sai_deserialize_list (sai_serialize_list l countOnly serialize_item) countOnly
        deserialize_item = some l' ∧ l.Same countOnly l' := by
  obtain ⟨count, list, hlength⟩ := l
  cases countOnly with
  | true =>
    refine ⟨SaiList.null count, ?_, rfl, Or.inl rfl⟩
    simp only [sai_serialize_list, sai_deserialize_list, if_true,
      sai_deserialize_serialize_number, Option.map_some]
  | false =>
    -- the text `null` is read as a NULL list
    have hnull : sai_deserialize_list (sai_serialize_number count false ++ ':' :: nullText) false
        deserialize_item = some (SaiList.null count) := by
      obtain ⟨hmem, htake, hdrop⟩ := split_count count nullText
      rw [sai_deserialize_list, if_neg (by decide), if_neg (not_not.mpr hmem), htake, hdrop,
        sai_deserialize_serialize_number]
      rfl
    cases list with
    | none => exact ⟨SaiList.null count, hnull, rfl, Or.inr (Or.inr rfl)⟩
    | some items =>
      by_cases hzero : count.1 = 0
      · refine ⟨SaiList.null count, ?_, rfl, Or.inr (Or.inl hzero)⟩
        rw [sai_serialize_list, if_neg (by decide)]
        simp only [if_pos hzero, hnull]
      · refine ⟨⟨count, some items, hlength⟩, ?_, rfl, Or.inr (Or.inr rfl)⟩
        have hlen : (items.length : ℤ) = count.1 := hlength items rfl
        obtain ⟨hmem, htake, hdrop⟩ := split_count count
          ([','].intercalate (items.map serialize_item))
        rw [sai_serialize_list, if_neg (by decide)]
        simp only [if_neg hzero]
        rw [sai_deserialize_list, if_neg (by decide), if_neg (not_not.mpr hmem), htake, hdrop,
          sai_deserialize_serialize_number, Option.bind_some]
        simp only [if_neg (intercalate_ne_null h items), getlines_items h items,
          mapM_read_back h.read_back items, dif_pos hlen]

end Sai
