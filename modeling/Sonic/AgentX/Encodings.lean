/-
AgentX/Encodings.lean

The encodings of the AgentX protocol: object identifiers, search ranges, octet strings and
variable bindings.

Numbers are as Python has them, without a bound; a number that does not fit its format is an error
of `struct.pack`, and so is a text that is too short one of `struct.unpack`.
-/
import Sonic.Lib.StructPack

namespace AgentX

open StructPack

/-- `INTERNET_PREFIX`. -/
def INTERNET_PREFIX : List ℕ := [1, 3, 6, 1]

/-- An exception, by its class. -/
inductive Raised where
  | IndexError
  | UnicodeEncodeError
  | NotImplementedError
  | StructError
  | ValueError
  | AttributeError
  | PDUPackError
  | PDUUnpackError
  | UnsupportedPDUError
  | AgentError
  deriving DecidableEq

/-- `struct.pack`: a value that does not fit is an error. -/
def struct_pack (endianness : Order) (fs : List Field) : Except Raised (List UInt8) :=
  match packs endianness fs with
  | some bs => .ok bs
  | none => .error .StructError

/-- `struct.unpack`: the bytes are as long as the format. -/
def struct_unpack (endianness : Order) (widths : List ℕ) (bs : List UInt8) :
    Except Raised (List ℕ) :=
  match unpacks endianness widths bs with
  | some values => .ok values
  | none => .error .StructError

/-- `struct.unpack` of one number. -/
def struct_unpack1 (endianness : Order) (width : ℕ) (bs : List UInt8) : Except Raised ℕ :=
  if bs.length = width then .ok (endianness.number bs) else .error .StructError

/-! ### Object identifiers -/

structure ObjectIdentifier where
  n_subid : ℕ
  prefix_ : ℕ
  include_ : ℕ
  reserved : ℕ
  subids : List ℕ
  deriving DecidableEq

namespace ObjectIdentifier

/-- The property `prefix`. -/
def getPrefix (oid : ObjectIdentifier) : List ℕ :=
  if oid.prefix_ = 0 then [] else INTERNET_PREFIX ++ [oid.prefix_]

def size (oid : ObjectIdentifier) : ℕ := 4 + 4 * oid.n_subid

def to_tuple (oid : ObjectIdentifier) : List ℕ := oid.getPrefix ++ oid.subids

/-- `inc`: the last identifier of none is an `IndexError`. -/
def inc (oid : ObjectIdentifier) : Except Raised ObjectIdentifier :=
  match oid.subids.getLast? with
  | none => .error .IndexError
  | some n => .ok { oid with subids := oid.subids.dropLast ++ [n + 1] }

def null_oid : ObjectIdentifier := ⟨0, 0, 0, 0, []⟩

/-- `from_iterable`: what follows the prefix of the internet is the field `prefix_`, also when it
is 0. -/
def from_iterable (subids : List ℕ) : Except Raised ObjectIdentifier :=
  if subids.take 4 = INTERNET_PREFIX then
    match subids.drop 4 with
    | [] => .error .IndexError
    | n :: rest => .ok ⟨rest.length, n, 0, 0, rest⟩
  else .ok ⟨subids.length, 0, 0, 0, subids⟩

/-- The fields that `to_bytes` packs. -/
def fields (oid : ObjectIdentifier) : List Field :=
  [(1, oid.n_subid), (1, oid.prefix_), (1, oid.include_), (1, oid.reserved)] ++
    oid.subids.map fun subid => (4, subid)

def to_bytes (oid : ObjectIdentifier) (endianness : Order) : Except Raised (List UInt8) :=
  struct_pack endianness oid.fields

def from_bytes (byte_string : List UInt8) (endianness : Order) : Except Raised ObjectIdentifier :=
  match struct_unpack endianness [1, 1, 1, 1] (byte_string.take 4) with
  | .ok [n_subid, prefix_, include_, reserved] =>
    (struct_unpack endianness (List.replicate n_subid 4)
      ((byte_string.drop 4).take (n_subid * 4))).map
        fun subids => ⟨n_subid, prefix_, include_, reserved, subids⟩
  | .ok _ => .error .ValueError
  | .error e => .error e

end ObjectIdentifier

/-! ### Search ranges -/

structure SearchRange where
  start : ObjectIdentifier
  end_ : ObjectIdentifier
  deriving DecidableEq

namespace SearchRange

def size (sr : SearchRange) : ℕ := sr.start.size + sr.end_.size

def to_bytes (sr : SearchRange) (endianness : Order) : Except Raised (List UInt8) := do
  let start ← sr.start.to_bytes endianness
  let end_ ← sr.end_.to_bytes endianness
  return start ++ end_

def from_bytes (byte_string : List UInt8) (endianness : Order) : Except Raised SearchRange := do
  let start ← ObjectIdentifier.from_bytes byte_string endianness
  let end_ ← ObjectIdentifier.from_bytes (byte_string.drop start.size) endianness
  return ⟨start, end_⟩

end SearchRange

/-! ### Octet strings -/

def pad4 (length : ℕ) : ℕ := (4 - length % 4) % 4

def pad4bytes (length : ℕ) : List UInt8 := List.replicate (pad4 length) 0

/-- A string of Python: a text or its bytes. -/
inductive PyString where
  | str (text : List Char)
  | bytes (bs : List UInt8)
  deriving DecidableEq

structure OctetString where
  length : ℕ
  string : List UInt8
  padding : List UInt8
  deriving DecidableEq

namespace OctetString

def size (os : OctetString) : ℕ := 4 + os.length + pad4 os.length

/-- The bytes of a text in `latin-1`. -/
def encodeLatin1 (text : List Char) : Except Raised (List UInt8) :=
  if text.all fun c => c.toNat < 256 then .ok (text.map fun c => UInt8.ofNat c.toNat)
  else .error .UnicodeEncodeError

def from_string : PyString → Except Raised OctetString
  | .bytes bs => .ok ⟨bs.length, bs, pad4bytes bs.length⟩
  | .str text =>
    (encodeLatin1 text).map fun bs => ⟨text.length, bs, pad4bytes bs.length⟩

/-- The format `s`: a string is cut to its count, or filled up with null bytes. -/
def countedString (n : ℕ) (bs : List UInt8) : List UInt8 :=
  bs.take n ++ List.replicate (n - bs.length) 0

def to_bytes (os : OctetString) (endianness : Order) : Except Raised (List UInt8) := do
  let length ← struct_pack endianness [(4, os.length)]
  return length ++ countedString os.length os.string ++
    countedString (pad4 os.length) os.padding

def from_bytes (byte_string : List UInt8) (endianness : Order) : Except Raised OctetString :=
  match struct_unpack endianness [4] (byte_string.take 4) with
  | .ok [string_length] =>
    let padding_length := pad4 string_length
    if byte_string.length < 4 + string_length + padding_length then .error .StructError
    else .ok ⟨string_length, (byte_string.drop 4).take string_length,
      (byte_string.drop (4 + string_length)).take padding_length⟩
  | .ok _ => .error .ValueError
  | .error e => .error e

end OctetString

/-! ### Variable bindings -/

inductive ValueType where
  | INTEGER | OCTET_STRING | NULL | OBJECT_IDENTIFIER | IP_ADDRESS | COUNTER_32 | GAUGE_32
  | TIME_TICKS | OPAQUE | COUNTER_64 | NO_SUCH_OBJECT | NO_SUCH_INSTANCE | END_OF_MIB_VIEW
  deriving DecidableEq

/-- How the data of a binding is written. -/
inductive Shape where
  | four_bytes | eight_bytes | object_identifier | octet_string | empty
  deriving DecidableEq

namespace ValueType

def code : ValueType → ℕ
  | .INTEGER => 2
  | .OCTET_STRING => 4
  | .NULL => 5
  | .OBJECT_IDENTIFIER => 6
  | .IP_ADDRESS => 64
  | .COUNTER_32 => 65
  | .GAUGE_32 => 66
  | .TIME_TICKS => 67
  | .OPAQUE => 68
  | .COUNTER_64 => 70
  | .NO_SUCH_OBJECT => 128
  | .NO_SUCH_INSTANCE => 129
  | .END_OF_MIB_VIEW => 130

def all : List ValueType :=
  [.INTEGER, .OCTET_STRING, .NULL, .OBJECT_IDENTIFIER, .IP_ADDRESS, .COUNTER_32, .GAUGE_32,
    .TIME_TICKS, .OPAQUE, .COUNTER_64, .NO_SUCH_OBJECT, .NO_SUCH_INSTANCE, .END_OF_MIB_VIEW]

/-- `ValueType(n)`. -/
def ofCode (n : ℕ) : Except Raised ValueType :=
  match all.find? (·.code = n) with
  | some t => .ok t
  | none => .error .ValueError

/-- `FOUR_BYTE_TYPES`, `OCTET_STRINGS` and `EMPTY_TYPES`. -/
def shape : ValueType → Shape
  | .INTEGER | .COUNTER_32 | .GAUGE_32 | .TIME_TICKS => .four_bytes
  | .COUNTER_64 => .eight_bytes
  | .OBJECT_IDENTIFIER => .object_identifier
  | .IP_ADDRESS | .OPAQUE | .OCTET_STRING => .octet_string
  | .NULL | .NO_SUCH_OBJECT | .NO_SUCH_INSTANCE | .END_OF_MIB_VIEW => .empty

end ValueType

/-- The data of a binding of a shape. -/
abbrev Shape.Data : Shape → Type
  | .four_bytes | .eight_bytes => ℤ
  | .object_identifier => ObjectIdentifier
  | .octet_string => OctetString
  | .empty => Unit

/-- What a callable returns for a type of a shape: an object identifier may be any iterable. -/
abbrev Shape.Value : Shape → Type
  | .four_bytes | .eight_bytes => ℤ
  | .object_identifier => List ℕ ⊕ ObjectIdentifier
  | .octet_string => PyString
  | .empty => Unit

/-- A binding, with data of its type. -/
structure ValueRepresentation where
  type_ : ValueType
  reserved : ℕ
  name : ObjectIdentifier
  data : type_.shape.Data

namespace ValueRepresentation

/-- The data that a value becomes. -/
def castData : (s : Shape) → s.Value → Except Raised s.Data
  | .four_bytes, n => .ok n
  | .eight_bytes, n => .ok n
  | .object_identifier, .inl subids => ObjectIdentifier.from_iterable subids
  | .object_identifier, .inr oid => .ok oid
  | .octet_string, string => OctetString.from_string string
  | .empty, _ => .ok ()

def from_typecast (type_ : ValueType) (oid_iter : List ℕ) (value : type_.shape.Value) :
    Except Raised ValueRepresentation := do
  let oid ← ObjectIdentifier.from_iterable oid_iter
  let data ← castData type_.shape value
  return ⟨type_, 0, oid, data⟩

def dataSize : (s : Shape) → s.Data → ℕ
  | .four_bytes, _ => 4
  | .eight_bytes, _ => 8
  | .object_identifier, oid => oid.size
  | .octet_string, os => os.size
  | .empty, _ => 0

def size (vr : ValueRepresentation) : ℕ := 4 + vr.name.size + dataSize vr.type_.shape vr.data

/-- A number is cut to its width. -/
def packData (endianness : Order) : (s : Shape) → s.Data → Except Raised (List UInt8)
  | .four_bytes, n => struct_pack endianness [(4, (n % 2 ^ 32).toNat)]
  | .eight_bytes, n => struct_pack endianness [(8, (n % 2 ^ 64).toNat)]
  | .object_identifier, oid => oid.to_bytes endianness
  | .octet_string, os => os.to_bytes endianness
  | .empty, _ => .ok []

def to_bytes (vr : ValueRepresentation) (endianness : Order) : Except Raised (List UInt8) := do
  let head ← struct_pack endianness [(2, vr.type_.code), (2, vr.reserved)]
  let name ← vr.name.to_bytes endianness
  let data ← packData endianness vr.type_.shape vr.data
  return head ++ name ++ data

/-- `_unpack_data`. -/
def unpackData (endianness : Order) (byte_string : List UInt8) :
    (s : Shape) → Except Raised s.Data
  | .four_bytes => (struct_unpack1 endianness 4 (byte_string.take 4)).map Int.ofNat
  | .eight_bytes => (struct_unpack1 endianness 8 (byte_string.take 8)).map Int.ofNat
  | .object_identifier => ObjectIdentifier.from_bytes byte_string endianness
  | .octet_string => OctetString.from_bytes byte_string endianness
  | .empty => .ok ()

def from_bytes (byte_string : List UInt8) (endianness : Order) :
    Except Raised ValueRepresentation :=
  match struct_unpack endianness [2, 2] (byte_string.take 4) with
  | .ok [type_, reserved] => do
      let name ← ObjectIdentifier.from_bytes (byte_string.drop 4) endianness
      let type_ ← ValueType.ofCode type_
      let data ← unpackData endianness (byte_string.drop (4 + name.size)) type_.shape
      return ⟨type_, reserved, name, data⟩
  | .ok _ => .error .ValueError
  | .error e => .error e

end ValueRepresentation

end AgentX
