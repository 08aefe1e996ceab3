/-
AgentX/Pdu.lean

The PDUs of the AgentX protocol: their headers, how they are built from fields, encoded and
decoded, and the responses to requests.

A PDU that is decoded keeps the bytes that its class left over, for the stream.  The loop of a
request counts the bytes of the search ranges only, and a response those after its three numbers.
-/
import Sonic.AgentX.Mib

set_option linter.style.nameCheck false

namespace AgentX

open StructPack

/-! ### Headers -/

/-- `AGENTX_HEADER_LENGTH`, which is also the smallest size of a PDU. -/
def AGENTX_HEADER_LENGTH : ℕ := 20

structure PDUHeader where
  version : ℕ
  type_ : ℕ
  flags : ℕ
  reserved : ℕ
  session_id : ℕ
  transaction_id : ℕ
  packet_id : ℕ
  payload_length : ℕ
  deriving DecidableEq

namespace PDUHeader

/-- The flag with the mask 0x08. -/
def flag__non_default_context (h : PDUHeader) : Bool := h.flags.testBit 3

/-- The flag with the mask 0x10. -/
def flag__network_byte_order (h : PDUHeader) : Bool := h.flags.testBit 4

def endianness (h : PDUHeader) : Order := if h.flag__network_byte_order then .big else .little

/-- The tags, which are in network byte order. -/
def tags (h : PDUHeader) : List Field :=
  [(1, h.version), (1, h.type_), (1, h.flags), (1, h.reserved)]

def identifiers (h : PDUHeader) : List Field :=
  [(4, h.session_id), (4, h.transaction_id), (4, h.packet_id), (4, h.payload_length)]

def to_bytes (h : PDUHeader) : Except Raised (List UInt8) := do
  let tags ← struct_pack .big h.tags
  let identifiers ← struct_pack h.endianness h.identifiers
  return tags ++ identifiers

def from_bytes (byte_string : List UInt8) : Except Raised PDUHeader :=
  match struct_unpack .big [1, 1, 1, 1] (byte_string.take 4) with
  | .ok [version, type_, flags, reserved] =>
    let tags : PDUHeader := ⟨version, type_, flags, reserved, 0, 0, 0, 0⟩
    match struct_unpack tags.endianness [4, 4, 4, 4]
        ((byte_string.drop 4).take (AGENTX_HEADER_LENGTH - 4)) with
    | .ok [session_id, transaction_id, packet_id, payload_length] =>
      .ok ⟨version, type_, flags, reserved, session_id, transaction_id, packet_id,
        payload_length⟩
    | _ => .error .PDUUnpackError
  | .ok _ => .error .ValueError
  | .error e => .error e

end PDUHeader

/-! ### Bodies -/

/-- The classes of PDUs, with what each reads after the header. -/
inductive Body where
  | OpenPDU (timeout : ℕ) (reserved : List UInt8) (oid : ObjectIdentifier) (descr : OctetString)
  | ClosePDU (reason : ℕ) (reason_reserved : List UInt8)
  | RegisterPDU (context : Option OctetString) (timeout priority range_subid : ℕ)
      (range_subid_reserved : ℕ) (subtree : ObjectIdentifier) (upper_bound : Option ℕ)
  | GetPDU (context : Option OctetString) (sr : List SearchRange)
  | GetNextPDU (context : Option OctetString) (sr : List SearchRange)
  | TestSetPDU (context : Option OctetString)
  | CommitSetPDU
  | UndoSetPDU
  | CleanupSetPDU
  | PingPDU (context : Option OctetString)
  | ResponsePDU (sys_up_time error index : ℕ) (values : List ValueRepresentation)

/-- `header_type_`. -/
def Body.header_type_ : Body → ℕ
  | .OpenPDU .. => 1
  | .ClosePDU .. => 2
  | .RegisterPDU .. => 3
  | .GetPDU .. => 5
  | .GetNextPDU .. => 6
  | .TestSetPDU .. => 8
  | .CommitSetPDU => 9
  | .UndoSetPDU => 10
  | .CleanupSetPDU => 11
  | .PingPDU .. => 13
  | .ResponsePDU .. => 18

structure PDU where
  header : PDUHeader
  body : Body
  trailing_bytes : List UInt8

/-! ### Encoding -/

/-- The bytes of an optional context. -/
def contextBytes (endianness : Order) : Option OctetString → Except Raised (List UInt8)
  | none => .ok []
  | some context => context.to_bytes endianness

/-- The bytes of an optional upper bound. -/
def upperBoundBytes (endianness : Order) : Option ℕ → Except Raised (List UInt8)
  | none => .ok []
  | some upper_bound => struct_pack endianness [(4, upper_bound)]

/-- What the items of a list are written as, one after the other. -/
def concatBytes {α : Type} (to_bytes : α → Except Raised (List UInt8)) :
    List α → Except Raised (List UInt8)
  | [] => .ok []
  | x :: xs => do
      let first ← to_bytes x
      let rest ← concatBytes to_bytes xs
      return first ++ rest

/-- What `encode` writes after the header. -/
def Body.bytes (endianness : Order) : Body → Except Raised (List UInt8)
  | .OpenPDU timeout reserved oid descr => do
      let timeout ← struct_pack endianness [(1, timeout)]
      let oid ← oid.to_bytes endianness
      let descr ← descr.to_bytes endianness
      return timeout ++ OctetString.countedString 3 reserved ++ oid ++ descr
  | .ClosePDU _ _ => .ok []
  | .RegisterPDU context timeout priority range_subid range_subid_reserved subtree upper_bound => do
      let context ← contextBytes endianness context
      let numbers ← struct_pack endianness
        [(1, timeout), (1, priority), (1, range_subid), (1, range_subid_reserved)]
      let subtree ← subtree.to_bytes endianness
      let upper_bound ← upperBoundBytes endianness upper_bound
      return context ++ numbers ++ subtree ++ upper_bound
  | .GetPDU context sr | .GetNextPDU context sr => do
      let context ← contextBytes endianness context
      let sr ← concatBytes (SearchRange.to_bytes · endianness) sr
      return context ++ sr
  | .TestSetPDU context | .PingPDU context => contextBytes endianness context
  | .CommitSetPDU | .UndoSetPDU | .CleanupSetPDU => .ok []
  | .ResponsePDU sys_up_time error index values => do
      let numbers ← struct_pack endianness [(4, sys_up_time), (2, error), (2, index)]
      let values ← concatBytes (ValueRepresentation.to_bytes · endianness) values
      return numbers ++ values

namespace PDU

/-- `PDU.encode`: a header that cannot be packed is a `PDUPackError`. -/
def encode (p : PDU) : Except Raised (List UInt8) :=
  match p.header.to_bytes with
  | .error _ => .error .PDUPackError
  | .ok header => (p.body.bytes p.header.endianness).map fun body => header ++ body

/-- `_replace(payload_length=_)`. -/
def setPayloadLength (p : PDU) (n : ℕ) : PDU :=
  { p with header := { p.header with payload_length := n } }

/-- The property `payload_length`. -/
def payload_length (p : PDU) : Except Raised ℕ :=
  p.encode.map fun bs => bs.length - AGENTX_HEADER_LENGTH

end PDU

/-! ### Building -/

/-- The fields that the PDUs are built from. -/
inductive Fields where
  | OpenPDU (timeout : ℕ) (oid : ObjectIdentifier) (descr : PyString)
  | RegisterPDU (context : Option OctetString) (timeout priority range_subid : ℕ)
      (subtree : ObjectIdentifier) (upper_bound : Option ℕ)
  | GetPDU (context : Option OctetString) (oids : List ObjectIdentifier)
  | GetNextPDU (context : Option OctetString) (oids : List ObjectIdentifier)
  | ResponsePDU (sys_up_time error index : ℕ) (values : List ValueRepresentation)

/-- The context of a PDU that is built: if the header announces one, it is read from the payload,
which is empty. -/
def buildContext (header : PDUHeader) (context : Option OctetString) :
    Except Raised (Option OctetString) :=
  if header.flag__non_default_context then
    (OctetString.from_bytes [] header.endianness).map some
  else .ok context

/-- The search ranges for identifiers, each up to the next one. -/
def buildRanges (oids : List ObjectIdentifier) : Except Raised (List SearchRange) :=
  oids.mapM fun oid => oid.inc.map fun end_ => ⟨oid, end_⟩

/-- A PDU whose payload length is set after it is made. -/
def sized (header : PDUHeader) (body : Body) : Except Raised PDU :=
  let p : PDU := ⟨{ header with type_ := body.header_type_ }, body, []⟩
  p.payload_length.map fun n => p.setPayloadLength n

/-- A request whose payload length is set to its whole length. -/
def sizedRequest (header : PDUHeader) (body : Body) : Except Raised PDU :=
  let p : PDU := ⟨{ header with type_ := body.header_type_ }, body, []⟩
  p.encode.map fun bs => p.setPayloadLength bs.length

/-- The constructors, without a payload. -/
def build (header : PDUHeader) : Fields → Except Raised PDU
  | .OpenPDU timeout oid descr => do
      let descr ← OctetString.from_string descr
      sized header (.OpenPDU timeout (pad4bytes 1) oid descr)
  | .RegisterPDU context timeout priority range_subid subtree upper_bound => do
      let context ← buildContext header context
      sized header (.RegisterPDU context timeout priority range_subid 0 subtree upper_bound)
  | .GetPDU context oids => do
      let context ← buildContext header context
      let sr ← buildRanges oids
      sizedRequest header (.GetPDU context sr)
  | .GetNextPDU context oids => do
      let context ← buildContext header context
      let sr ← buildRanges oids
      sizedRequest header (.GetNextPDU context sr)
  | .ResponsePDU sys_up_time error index values =>
    sized header (.ResponsePDU sys_up_time error index values)

/-! ### Decoding -/

/-- `ContextOptionalPDU`: the context is chomped, if there is one. -/
def chompContext (header : PDUHeader) (payload : List UInt8) :
    Except Raised (Option OctetString × List UInt8) :=
  if header.flag__non_default_context then
    (OctetString.from_bytes payload header.endianness).map fun context =>
      (some context, payload.drop context.size)
  else .ok (none, payload)

/-- The loop that reads items while there are bytes and not enough are read.  An item has at least
one byte, so that there are no more of them than bytes. -/
def readItems {α : Type} (from_bytes : List UInt8 → Except Raised α) (size : α → ℕ)
    (more : ℕ → Bool) : ℕ → ℕ → List UInt8 → Except Raised (List α × List UInt8)
  | 0, _, trailing_bytes => .ok ([], trailing_bytes)
  | fuel + 1, bytes_read, trailing_bytes =>
    if trailing_bytes ≠ [] ∧ more bytes_read then do
      let item ← from_bytes trailing_bytes
      let (items, trailing_bytes) ← readItems from_bytes size more fuel (bytes_read + size item)
        (trailing_bytes.drop (size item))
      return (item :: items, trailing_bytes)
    else .ok ([], trailing_bytes)

/-- The search ranges of a request: their bytes are counted up to the payload length. -/
def readRanges (header : PDUHeader) (trailing_bytes : List UInt8) :
    Except Raised (List SearchRange × List UInt8) :=
  readItems (SearchRange.from_bytes · header.endianness) SearchRange.size
    (fun bytes_read => bytes_read < header.payload_length) trailing_bytes.length 0 trailing_bytes

/-- The bindings of a response, up to the payload length less 8. -/
def readValues (header : PDUHeader) (trailing_bytes : List UInt8) :
    Except Raised (List ValueRepresentation × List UInt8) :=
  readItems (ValueRepresentation.from_bytes · header.endianness) ValueRepresentation.size
    (fun bytes_read => bytes_read + 8 < header.payload_length) trailing_bytes.length 0
    trailing_bytes

/-- The bindings of a test, as long as there are bytes. -/
def readBindings (header : PDUHeader) (trailing_bytes : List UInt8) :
    Except Raised (List ValueRepresentation × List UInt8) :=
  readItems (ValueRepresentation.from_bytes · header.endianness) ValueRepresentation.size
    (fun _ => true) trailing_bytes.length 0 trailing_bytes

/-- `OpenPDU`, with a payload: the body and the bytes that are left over. -/
def openBody (header : PDUHeader) (payload : List UInt8) : Except Raised (Body × List UInt8) := do
  let timeout ← struct_unpack1 header.endianness 1 (payload.take 1)
  if payload.length < 4 then throw .StructError
  let oid ← ObjectIdentifier.from_bytes (payload.drop 4) header.endianness
  let descr ← OctetString.from_bytes ((payload.drop 4).drop oid.size) header.endianness
  return (.OpenPDU timeout ((payload.drop 1).take 3) oid descr,
    ((payload.drop 4).drop oid.size).drop descr.size)

/-- `ClosePDU`, which leaves what it has read. -/
def closeBody (header : PDUHeader) (payload : List UInt8) : Except Raised (Body × List UInt8) := do
  let reason ← struct_unpack1 header.endianness 1 (payload.take 1)
  if payload.length < 4 then throw .StructError
  return (.ClosePDU reason ((payload.drop 1).take 3), payload)

/-- The upper bound, which is there if the range has a sub-identifier. -/
def readUpperBound (header : PDUHeader) (range_subid : ℕ) (trailing_bytes : List UInt8) :
    Except Raised (Option ℕ × List UInt8) :=
  if range_subid ≠ 0 then
    (struct_unpack1 header.endianness 4 (trailing_bytes.take 4)).map fun upper_bound =>
      (some upper_bound, trailing_bytes.drop 4)
  else .ok (none, trailing_bytes)

/-- `RegisterPDU`, after its context. -/
def registerBody (header : PDUHeader) (context : Option OctetString) (trailing_bytes : List UInt8) :
    Except Raised (Body × List UInt8) :=
  match struct_unpack header.endianness [1, 1, 1, 1] (trailing_bytes.take 4) with
  | .ok [timeout, priority, range_subid, range_subid_reserved] => do
      let subtree ← ObjectIdentifier.from_bytes (trailing_bytes.drop 4) header.endianness
      let (upper_bound, trailing_bytes) ← readUpperBound header range_subid
        ((trailing_bytes.drop 4).drop subtree.size)
      return (.RegisterPDU context timeout priority range_subid range_subid_reserved subtree
        upper_bound, trailing_bytes)
  | .ok _ => .error .ValueError
  | .error e => .error e

/-- `ResponsePDU`. -/
def responseBody (header : PDUHeader) (payload : List UInt8) : Except Raised (Body × List UInt8) :=
  match struct_unpack header.endianness [4, 2, 2] (payload.take 8) with
  | .ok [sys_up_time, error, index] =>
    (readValues header (payload.drop 8)).map fun (values, trailing_bytes) =>
      (.ResponsePDU sys_up_time error index values, trailing_bytes)
  | .ok _ => .error .ValueError
  | .error e => .error e

/-- A constructor of a `ContextOptionalPDU`, with what it reads after the context. -/
def afterContext (header : PDUHeader) (payload : List UInt8)
    (read : Option OctetString → List UInt8 → Except Raised (Body × List UInt8)) :
    Except Raised (Body × List UInt8) := do
  let (context, trailing_bytes) ← chompContext header payload
  read context trailing_bytes

/-- The constructors, with a payload, by the type of the header.  A `TestSetPDU` does not keep its
bindings. -/
def readBody (header : PDUHeader) (payload : List UInt8) : Except Raised (Body × List UInt8) :=
  match header.type_ with
  | 1 => openBody header payload
  | 2 => closeBody header payload
  | 3 => afterContext header payload (registerBody header)
  | 5 => afterContext header payload fun context trailing_bytes =>
    (readRanges header trailing_bytes).map fun (sr, rest) => (.GetPDU context sr, rest)
  | 6 => afterContext header payload fun context trailing_bytes =>
    (readRanges header trailing_bytes).map fun (sr, rest) => (.GetNextPDU context sr, rest)
  | 8 => afterContext header payload fun context trailing_bytes =>
    (readBindings header trailing_bytes).map fun (_, rest) => (.TestSetPDU context, rest)
  | 9 => .ok (.CommitSetPDU, payload)
  | 10 => .ok (.UndoSetPDU, payload)
  | 11 => .ok (.CleanupSetPDU, payload)
  | 13 => afterContext header payload fun context trailing_bytes =>
    .ok (.PingPDU context, trailing_bytes)
  | 18 => responseBody header payload
  | _ => .error .UnsupportedPDUError

/-- The header of a decoded PDU: that of a `ClosePDU` gets the length 4. -/
def decodedHeader (header : PDUHeader) (body : Body) : PDUHeader :=
  match body with
  | .ClosePDU _ _ => { header with payload_length := 4 }
  | _ => header

/-- `PDU.decode`. -/
def PDU.decode (byte_string : List UInt8) : Except Raised PDU :=
  if byte_string.length < AGENTX_HEADER_LENGTH then .error .PDUUnpackError
  else do
    let header ← PDUHeader.from_bytes byte_string
    match readBody header (byte_string.drop AGENTX_HEADER_LENGTH) with
    | .ok (body, rest) => return ⟨decodedHeader header body, body, rest⟩
    | .error .UnsupportedPDUError => throw .UnsupportedPDUError
    | .error _ => throw .PDUUnpackError

/-! ### Responses -/

/-- The response to a request, with its bindings. -/
def respond (header : PDUHeader) (values : List ValueRepresentation) : Except Raised PDU :=
  build { header with type_ := 18 } (.ResponsePDU 0 0 0 values)

/-- `make_response`: only requests for values have one. -/
def PDU.make_response (p : PDU) (lut : MIBTable) : Except Raised PDU :=
  match p.body with
  | .GetPDU _ sr => do respond p.header (← sr.mapM lut.get)
  | .GetNextPDU _ sr => do respond p.header (← sr.mapM lut.get_next)
  | _ => throw .NotImplementedError

end AgentX
