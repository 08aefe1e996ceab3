/-
Orchagent/References.lean

References to objects in fields (`Orch::parseReference`, `resolveFieldRefValue` and
`resolveFieldRefArray`).

A reference is `[type:name]`, or `[type|name]`, and `[]` is the empty reference.  The objects are
found in maps by type and name.  A map that is read with `operator[]` gets an entry for a key
that it does not have; the entry of a type is then a null pointer, and to read through it is
undefined (`none`).

A character of a text stands for a byte of it.
-/
import Sonic.Common.Tokenize
import Sonic.Orchagent.Consumer
import Sonic.Orchagent.CoppOrch

namespace Orchagent.References

open Swss
open Std (ExtTreeMap)
open Copp (sai_object_id_t SAI_NULL_OBJECT_ID)

def delimiter : Char := ':'

def config_db_key_delimiter : Char := '|'

def list_item_delimiter : Char := ','

def ref_start : Char := '['

def ref_end : Char := ']'

inductive ref_resolve_status where
  | success | field_not_found | multiple_instances | not_resolved | empty | failure
  deriving DecidableEq

abbrev object_map := ExtTreeMap String sai_object_id_t

abbrev type_map := ExtTreeMap String object_map

/-- `(*(type_maps[type]))[name]`: the maps after it, and what is there. -/
def readObject (type_maps : type_map) (ref : String × String) :
    Option (type_map × sai_object_id_t) :=
  match type_maps[ref.1]? with
  | none => none
  | some obj_map =>
    let sai_object := obj_map.getD ref.2 SAI_NULL_OBJECT_ID
    some (type_maps.insert ref.1 (obj_map.insert ref.2 sai_object), sai_object)

/-- The object of a type and a name, if both are found. -/
def objectOf (type_maps : type_map) (ref : String × String) : Option sai_object_id_t :=
  (type_maps[ref.1]?).bind fun obj_map => obj_map[ref.2]?

/-- The type and the name in what is between the brackets. -/
def refTokens (ref_content : String) : Option (String × String) :=
  let tokens := tokenize ref_content delimiter
  let tokens := if tokens.length ≠ 2 then tokenize ref_content config_db_key_delimiter else tokens
  match tokens with
  | [type_name, object_name] => some (type_name, object_name)
  | _ => none

/-- `parseReference`: the type and the name, both empty for the empty reference. -/
def parseReference (type_maps : type_map) (ref_in : String) : Option (String × String) :=
  let s := ref_in.toList
  if s.length < 2 then none
  else if s.head? ≠ some ref_start ∧ s.getLast? ≠ some ref_end then none
  else if s.length = 2 then some ("", "")
  else
    match refTokens (String.ofList ((s.drop 1).take (s.length - 2))) with
    | none => none
    | some ref => if (objectOf type_maps ref).isSome then some ref else none

/-- The loop over the fields; `hit` is the object that was found before. -/
def resolveValueLoop (type_maps : type_map) (field_name : String)
    (hit : Option sai_object_id_t) :
    List FieldValueTuple → Option (type_map × ref_resolve_status × Option sai_object_id_t)
  | [] =>
    match hit with
    | none => some (type_maps, .field_not_found, none)
    | some sai_object => some (type_maps, .success, some sai_object)
  | i :: rest =>
    if i.1 = field_name then
      if hit.isSome then some (type_maps, .multiple_instances, hit)
      else
        match parseReference type_maps i.2 with
        | none => some (type_maps, .not_resolved, hit)
        | some ref =>
          if ref.1 = "" ∧ ref.2 = "" then some (type_maps, .empty, hit)
          else
            match readObject type_maps ref with
            | none => none
            | some (type_maps, sai_object) =>
              resolveValueLoop type_maps field_name (some sai_object) rest
    else resolveValueLoop type_maps field_name hit rest

/-- `resolveFieldRefValue`: the maps after it, the status, and the object that is stored. -/
def resolveFieldRefValue (type_maps : type_map) (field_name : String)
    (fields : List FieldValueTuple) :
    Option (type_map × ref_resolve_status × Option sai_object_id_t) :=
  resolveValueLoop type_maps field_name none fields

/-- The items of a list. -/
def listItems (list : String) : List String :=
  if list_item_delimiter ∈ list.toList then tokenize list list_item_delimiter else [list]

/-- The items of a field, one after the other; the flag tells whether all were resolved. -/
def resolveItems (type_maps : type_map) (sai_object_arr : List sai_object_id_t) :
    List String → Option (type_map × List sai_object_id_t × Bool)
  | [] => some (type_maps, sai_object_arr, true)
  | item :: items =>
    match parseReference type_maps item with
    | none => some (type_maps, sai_object_arr, false)
    | some ref =>
      match readObject type_maps ref with
      | none => none
      | some (type_maps, sai_obj) => resolveItems type_maps (sai_object_arr ++ [sai_obj]) items

def resolveArrayLoop (type_maps : type_map) (field_name : String)
    (sai_object_arr : List sai_object_id_t) (count : ℕ) :
    List FieldValueTuple → Option (type_map × ref_resolve_status × List sai_object_id_t)
  | [] =>
    if count = 0 then some (type_maps, .field_not_found, sai_object_arr)
    else some (type_maps, .success, sai_object_arr)
  | i :: rest =>
    if i.1 = field_name then
      if count > 1 then some (type_maps, .multiple_instances, sai_object_arr)
      else
        match resolveItems type_maps sai_object_arr (listItems i.2) with
        | none => none
        | some (type_maps, sai_object_arr, false) =>
          some (type_maps, .not_resolved, sai_object_arr)
        | some (type_maps, sai_object_arr, true) =>
          resolveArrayLoop type_maps field_name sai_object_arr (count + 1) rest
    else resolveArrayLoop type_maps field_name sai_object_arr count rest

/-- `resolveFieldRefArray`. -/
def resolveFieldRefArray (type_maps : type_map) (field_name : String)
    (fields : List FieldValueTuple) :
    Option (type_map × ref_resolve_status × List sai_object_id_t) :=
  resolveArrayLoop type_maps field_name [] 0 fields

end Orchagent.References
