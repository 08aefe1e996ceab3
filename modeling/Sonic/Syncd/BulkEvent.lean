/-
Syncd/BulkEvent.lean

The values of bulk operations: how the library packs the attributes of an object, and how syncd
takes them apart.

Attributes are joined by vertical bars, and an attribute and its value by an equals sign.  Nothing
is escaped, so that they come back only if an attribute has neither sign and a value has no bar
(`bulkEntries_joinFieldValues`).
-/
import Sonic.Common.Table
import Sonic.Common.Tokenize

namespace Syncd

open Swss

/-- An item of `joinFieldValues`. -/
def joined (value : FieldValueTuple) : List Char := value.1.toList ++ '=' :: value.2.toList

def joinFieldValues (values : List FieldValueTuple) : String :=
  String.ofList (['|'].intercalate (values.map joined))

/-- A field and its value: an item without an equals sign is both. -/
def bulkEntry (item : String) : FieldValueTuple :=
  if '=' ∈ item.toList then
    (String.ofList (item.toList.takeWhile (· ≠ '=')),
      String.ofList (item.toList.dropWhile (· ≠ '=')).tail)
  else (item, item)

/-- The attributes of one object. -/
def bulkEntries (joined : String) : List FieldValueTuple := (tokenize joined '|').map bulkEntry

/-- What `processBulkEvent` reads: the object type, and the objects with their attributes. -/
def processBulkEvent (kco : KeyOpFieldsValuesTuple) :
    String × List (String × List FieldValueTuple) :=
  (String.ofList (kco.kfvKey.toList.takeWhile (· ≠ ':')),
    kco.kfvFieldsValues.map fun fvt => (fvt.1, bulkEntries fvt.2))

/-- An attribute that is told from its value, and from the next one. -/
def Separable (value : FieldValueTuple) : Prop :=
  '=' ∉ value.1.toList ∧ '|' ∉ value.1.toList ∧ '|' ∉ value.2.toList

variable {value : FieldValueTuple} {values : List FieldValueTuple}

theorem joined_ne_nil : joined value ≠ [] :=
  List.append_ne_nil_of_right_ne_nil _ (List.cons_ne_nil _ _)

theorem not_mem_joined (h : Separable value) : '|' ∉ joined value := by
  intro hmem
  rcases List.mem_append.mp hmem with hmem | hmem
  · exact h.2.1 hmem
  · rcases List.mem_cons.mp hmem with heq | hmem
    · exact absurd heq (by decide)
    · exact h.2.2 hmem

theorem split_joined (h : Separable value) :
    ((joined value).takeWhile (· ≠ '=') = value.1.toList) ∧
      (((joined value).dropWhile (· ≠ '=')).tail = value.2.toList) :=
  span_of_not_mem h.1 value.2.toList

theorem bulkEntry_joined (h : Separable value) :
    bulkEntry (String.ofList (joined value)) = value := by
  obtain ⟨hfield, hvalue⟩ := split_joined h
  have hmem : '=' ∈ (String.ofList (joined value)).toList := by
    rw [String.toList_ofList]
    exact List.mem_append_right _ List.mem_cons_self
  rw [bulkEntry, if_pos hmem, String.toList_ofList, hfield, hvalue, String.ofList_toList,
    String.ofList_toList]

/-- Separable attributes come back. -/
theorem bulkEntries_joinFieldValues (h : ∀ value ∈ values, Separable value) :
    bulkEntries (joinFieldValues values) = values := by
  have hitems : ∀ item ∈ values.map joined, '|' ∉ item := by
    intro item hitem
    obtain ⟨value, hvalue, rfl⟩ := List.mem_map.mp hitem
    exact not_mem_joined (h value hvalue)
  have hlast : (values.map joined).getLast? ≠ some [] := by
    intro hlast
    obtain ⟨value, -, hnil⟩ := List.mem_map.mp (List.mem_of_getLast? hlast)
    exact joined_ne_nil hnil
  rw [bulkEntries, tokenize, joinFieldValues, String.toList_ofList,
    getlines_intercalate hitems hlast, List.map_map, List.map_map]
  refine (List.map_congr_left fun value hvalue => ?_).trans (List.map_id _)
  exact bulkEntry_joined (h value hvalue)

end Syncd
