/-
Orchagent/RequestParser.lean

`Request`: the parser that an `Orch2` owns and uses for all its tasks (orchagent).

A description says of which types the items of a key and the attributes are.  `parse` stores each
item under its type; an exception leaves what is stored so far, and `clear` empties some of the
maps only.  The types have their grammar in `Denotes`, which says what value a text writes; what
the functions of the library read besides is `Careless`.
-/
import Sonic.Common.Tokenize
import Sonic.Orchagent.IpPrefix

namespace Orchagent.RequestParser

open Inet (Bytes)
open Numeral (isDigit digitVal value stoul)
open Swss (getlines)

/-! ### Types and values -/

inductive request_types_t where
  | REQ_T_NOT_USED | REQ_T_BOOL | REQ_T_STRING | REQ_T_MAC_ADDRESS | REQ_T_PACKET_ACTION
  | REQ_T_IP | REQ_T_IP_PREFIX | REQ_T_VLAN | REQ_T_UINT | REQ_T_SET
  deriving DecidableEq

open request_types_t

inductive sai_packet_action_t where
  | DROP | FORWARD | COPY | COPY_CANCEL | TRAP | LOG | DENY | TRANSIT
  deriving DecidableEq

/-- The values of a type. -/
abbrev Value : request_types_t → Type
  | REQ_T_NOT_USED => Empty
  | REQ_T_BOOL => Bool
  | REQ_T_STRING => String
  | REQ_T_MAC_ADDRESS => Bytes 6
  | REQ_T_PACKET_ACTION => sai_packet_action_t
  | REQ_T_IP => IpAddress
  | REQ_T_IP_PREFIX => IpPrefix
  | REQ_T_VLAN => UInt16
  | REQ_T_UINT => UInt64
  | REQ_T_SET => Finset String

structure request_description_t where
  key_item_types : List request_types_t
  attr_item_types : String → Option request_types_t
  mandatory_attr_items : List String

/-- A task: `kfvKey`, `kfvOp` and `kfvFieldsValues`. -/
structure KeyOpFieldsValuesTuple where
  key : String
  op : String
  fieldsValues : List (String × String)

def SET_COMMAND : String := "SET"
def DEL_COMMAND : String := "DEL"

/-! ### Parsing a value -/

def parseBool (str : String) : Except String Bool :=
  if str = "true" then .ok true
  else if str = "false" then .ok false
  else .error ("Can't parse boolean value '" ++ str ++ "'")

/-- Two hexadecimal digits. -/
def hexByte (left right : Char) : Option UInt8 := do
  let l ← digitVal left
  let r ← digitVal right
  some (UInt8.ofNat l <<< 4 ||| UInt8.ofNat r)

/-- `parseMacString`: the text has 17 characters, which are two digits and a separator in turn. -/
def parseMacString : List Char → Option (Bytes 6)
  | [l₀, r₀, s₀, l₁, r₁, s₁, l₂, r₂, s₂, l₃, r₃, s₃, l₄, r₄, s₄, l₅, r₅] =>
    if ¬ (s₀ = s₁ ∧ s₁ = s₂ ∧ s₂ = s₃ ∧ s₃ = s₄) then none
    else if s₀ ≠ ':' ∧ s₀ ≠ '-' then none
    else do
      let b₀ ← hexByte l₀ r₀
      let b₁ ← hexByte l₁ r₁
      let b₂ ← hexByte l₂ r₂
      let b₃ ← hexByte l₃ r₃
      let b₄ ← hexByte l₄ r₄
      let b₅ ← hexByte l₅ r₅
      some (b₀ ::ᵥ b₁ ::ᵥ b₂ ::ᵥ b₃ ::ᵥ b₄ ::ᵥ b₅ ::ᵥ .nil)
  | _ => none

def parseMacAddress (str : String) : Except String (Bytes 6) :=
  match parseMacString str.toList with
  | none => .error ("Invalid mac address: " ++ str)
  | some mac => .ok mac

def parseIpAddress (str : String) : Except String IpAddress :=
  match IpAddress.ofString str.toList with
  | none => .error ("Invalid ip address: " ++ str)
  | some addr => .ok addr

def parseIpPrefix (str : String) : Except String IpPrefix :=
  match IpPrefix.ofString str.toList with
  | none => .error ("Invalid ip prefix: " ++ str)
  | some pfx => .ok pfx

def parseSet (str : String) : Finset String :=
  ((getlines ',' [] str.toList).map String.ofList).toFinset

def parseUint (str : String) : Except String UInt64 :=
  match stoul str.toList with
  | .ok ret => .ok (UInt64.ofNat ret)
  | .error .invalid_argument => .error ("Invalid unsigned integer: " ++ str)
  | .error .out_of_range => .error ("Out of range unsigned integer: " ++ str)

def vlan_prefix : List Char := "Vlan".toList

def parseVlan (str : String) : Except String UInt16 :=
  if str.toList.take vlan_prefix.length ≠ vlan_prefix then
    .error ("Invalid vlan interface: " ++ str)
  else
    match stoul (str.toList.drop vlan_prefix.length) with
    | .error .invalid_argument => .error ("Invalid vlan id: " ++ str)
    | .error .out_of_range => .error ("Out of range vlan id: " ++ str)
    | .ok n =>
      let ret := UInt16.ofNat n
      if ret = 0 ∨ ret > 4094 then .error ("Out of range vlan id: " ++ str) else .ok ret

open sai_packet_action_t in
def packet_actions : List (String × sai_packet_action_t) :=
  [("drop", DROP), ("forward", FORWARD), ("copy", COPY), ("copy_cancel", COPY_CANCEL),
    ("trap", TRAP), ("log", LOG), ("deny", DENY), ("transit", TRANSIT)]

def parsePacketAction (str : String) : Except String sai_packet_action_t :=
  match packet_actions.lookup str with
  | none => .error ("Wrong packet action attribute value '" ++ str ++ "'")
  | some action => .ok action

/-- The function for a type; the texts are those of `invalid_argument`. -/
def parseItem : (t : request_types_t) → String → Except String (Value t)
  | REQ_T_NOT_USED, _ => .error ""
  | REQ_T_BOOL, str => parseBool str
  | REQ_T_STRING, str => .ok str
  | REQ_T_MAC_ADDRESS, str => parseMacAddress str
  | REQ_T_PACKET_ACTION, str => parsePacketAction str
  | REQ_T_IP, str => parseIpAddress str
  | REQ_T_IP_PREFIX, str => parseIpPrefix str
  | REQ_T_VLAN, str => parseVlan str
  | REQ_T_UINT, str => parseUint str
  | REQ_T_SET, str => .ok (parseSet str)

/-- The types that the `switch` of `parseKey` has. -/
def keyTypes : List request_types_t :=
  [REQ_T_STRING, REQ_T_MAC_ADDRESS, REQ_T_IP, REQ_T_IP_PREFIX, REQ_T_UINT]

/-- The types that the `switch` of `parseAttrs` has. -/
def attrTypes : List request_types_t :=
  [REQ_T_STRING, REQ_T_BOOL, REQ_T_MAC_ADDRESS, REQ_T_PACKET_ACTION, REQ_T_VLAN, REQ_T_IP,
    REQ_T_UINT, REQ_T_SET]

/-- The types whose maps of attributes `clear` empties. -/
def clearedTypes : List request_types_t :=
  [REQ_T_STRING, REQ_T_BOOL, REQ_T_MAC_ADDRESS, REQ_T_PACKET_ACTION]

/-- The types whose maps of key items `clear` empties. -/
def clearedKeyTypes : List request_types_t := [REQ_T_STRING, REQ_T_MAC_ADDRESS]

/-! ### The object -/

/-- Maps from `κ`, one for each type. -/
abbrev Items (κ : Type) := (t : request_types_t) → κ → Option (Value t)

namespace Items

variable {κ : Type} [DecidableEq κ]

def empty : Items κ := fun _ _ => none

def set (m : Items κ) (t : request_types_t) (k : κ) (v : Value t) : Items κ :=
  Function.update m t (Function.update (m t) k (some v))

/-- Empty the maps of some types. -/
def clear (m : Items κ) (types : List request_types_t) : Items κ :=
  fun t => if t ∈ types then fun _ => none else m t

end Items

/-- What `map[key]` makes of a missing entry if it is evaluated before the right side of the
assignment, and `none` if it is evaluated after it: the order is not specified. -/
abbrev Entry := (t : request_types_t) → Option (Value t)

structure Request where
  is_parsed_ : Bool
  operation_ : String
  full_key_ : String
  attr_names_ : Finset String
  key_items : Items ℕ
  attr_items : Items String

inductive Exception where
  | invalid_argument (what : String)
  | logic_error (what : String)
  deriving DecidableEq

/-- The object after a function, with the exception if there is one. -/
abbrev Result := Except (Exception × Request) Request

/-- The object after a function. -/
def Result.request : Result → Request
  | .ok s => s
  | .error (_, s) => s

/-- The exception of a function. -/
def Result.exception? : Result → Option Exception
  | .ok _ => none
  | .error (e, _) => some e

namespace Request

/-- The constructor. -/
def initial : Request := ⟨false, "", "", ∅, Items.empty, Items.empty⟩

/-! The getters; `none` is an assertion that fails, or an exception of `at`. -/

def getOperation (s : Request) : Option String := if s.is_parsed_ then some s.operation_ else none

def getFullKey (s : Request) : Option String := if s.is_parsed_ then some s.full_key_ else none

def getAttrFieldNames (s : Request) : Option (Finset String) :=
  if s.is_parsed_ then some s.attr_names_ else none

/-- The getters of key items, one for each type of `keyTypes`. -/
def getKey (s : Request) (t : request_types_t) (position : ℕ) : Option (Value t) :=
  if s.is_parsed_ then s.key_items t position else none

/-- The getters of attributes, one for each type of `attrTypes`. -/
def getAttr (s : Request) (t : request_types_t) (attr_name : String) : Option (Value t) :=
  if s.is_parsed_ then s.attr_items t attr_name else none

def getKeyUint (s : Request) (position : ℕ) : Option UInt64 := s.getKey REQ_T_UINT position

def getAttrVlan (s : Request) (attr_name : String) : Option UInt16 := s.getAttr REQ_T_VLAN attr_name

def getAttrUint (s : Request) (attr_name : String) : Option UInt64 := s.getAttr REQ_T_UINT attr_name

def clear (s : Request) : Request where
  is_parsed_ := false
  operation_ := ""
  full_key_ := ""
  attr_names_ := ∅
  key_items := s.key_items.clear clearedKeyTypes
  attr_items := s.attr_items.clear clearedTypes

end Request

/-- What an assignment that throws leaves of the map. -/
def Items.touch {κ : Type} [DecidableEq κ] (entry : Entry) (m : Items κ) (t : request_types_t)
    (k : κ) : Items κ :=
  match entry t, m t k with
  | some v, none => m.set t k v
  | _, _ => m

/-- `map[k] = parse(text)`. -/
def assign {κ : Type} [DecidableEq κ] (entry : Entry) (m : Items κ) (t : request_types_t) (k : κ)
    (text : String) : Except (String × Items κ) (Items κ) :=
  match parseItem t text with
  | .ok v => .ok (m.set t k v)
  | .error what => .error (what, m.touch entry t k)

/-! ### Parsing -/

variable (entry : Entry) (request_description_ : request_description_t) (key_separator_ : Char)

def parseOperation (s : Request) (request : KeyOpFieldsValuesTuple) : Result :=
  let s := { s with operation_ := request.op }
  if s.operation_ ≠ SET_COMMAND ∧ s.operation_ ≠ DEL_COMMAND then
    .error (.invalid_argument ("Wrong operation: " ++ s.operation_), s)
  else .ok s

/-- The key, split by the separator. -/
def keyItems (key : String) : List String :=
  (key.toList.splitOn key_separator_).map String.ofList

/-- The loop over the items of a key. -/
def parseKeyItems (s : Request) : ℕ → List (request_types_t × String) → Result
  | _, [] => .ok s
  | i, (t, item) :: rest =>
    if t ∉ keyTypes then
      .error (.logic_error ("Not implemented key type parser. Key '" ++ s.full_key_
        ++ "'. Key item:" ++ item), s)
    else
      match assign entry s.key_items t i item with
      | .ok key_items => parseKeyItems { s with key_items := key_items } (i + 1) rest
      | .error (what, key_items) =>
        .error (.invalid_argument what, { s with key_items := key_items })

def parseKey (s : Request) (request : KeyOpFieldsValuesTuple) : Result :=
  let s := { s with full_key_ := request.key }
  let key_items := keyItems key_separator_ s.full_key_
  if key_items.length ≠ request_description_.key_item_types.length then
    .error (.invalid_argument ("Wrong number of key items. Expected "
      ++ toString request_description_.key_item_types.length ++ " item(s). Key: '"
      ++ s.full_key_ ++ "'"), s)
  else parseKeyItems entry s 0 (request_description_.key_item_types.zip key_items)

/-- The names that are skipped: they stand for no attribute. -/
def Skipped (name : String) : Prop := name = "empty" ∨ name = "NULL"

instance (name : String) : Decidable (Skipped name) := inferInstanceAs (Decidable (_ ∨ _))

/-- The body of the loop over the fields. -/
def parseAttr (s : Request) (fv : String × String) : Result :=
  if Skipped fv.1 then .ok s
  else
    match request_description_.attr_item_types fv.1 with
    | none => .error (.invalid_argument ("Unknown attribute name: " ++ fv.1), s)
    | some t =>
      let s := { s with attr_names_ := insert fv.1 s.attr_names_ }
      if t ∉ attrTypes then
        .error (.logic_error ("Not implemented attribute type parser for attribute:" ++ fv.1), s)
      else
        match assign entry s.attr_items t fv.1 fv.2 with
        | .ok attr_items => .ok { s with attr_items := attr_items }
        | .error (what, attr_items) =>
          .error (.invalid_argument what, { s with attr_items := attr_items })

/-- The checks after the loop. -/
def checkAttrs (s : Request) : Result :=
  if s.operation_ = DEL_COMMAND ∧ s.attr_names_.card > 0 then
    .error (.invalid_argument "Delete operation request contains attributes", s)
  else if s.operation_ = SET_COMMAND then
    match request_description_.mandatory_attr_items.find? (· ∉ s.attr_names_) with
    | some attr =>
      .error (.invalid_argument ("Mandatory attribute '" ++ attr ++ "' not found"), s)
    | none => .ok s
  else .ok s

def parseAttrs (s : Request) (request : KeyOpFieldsValuesTuple) : Result := do
  let s ← request.fieldsValues.foldlM (parseAttr entry request_description_) s
  checkAttrs request_description_ s

def parse (s : Request) (request : KeyOpFieldsValuesTuple) : Result :=
  if s.is_parsed_ then .error (.logic_error "The parser already has a parsed request", s)
  else do
    let s ← parseOperation s request
    let s ← parseKey entry request_description_ key_separator_ s request
    let s ← parseAttrs entry request_description_ s request
    .ok { s with is_parsed_ := true }

/-- A request is parsed, and the object is cleared. -/
def task (s : Request) (request : KeyOpFieldsValuesTuple) : Request :=
  (Result.request (parse entry request_description_ key_separator_ s request)).clear

/-- The object after some requests. -/
def after (requests : List KeyOpFieldsValuesTuple) : Request :=
  requests.foldl (task entry request_description_ key_separator_) Request.initial

end Orchagent.RequestParser
