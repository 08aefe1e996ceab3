/-
AgentX/Protocol.lean

The agent at the stream of its master: `AgentX.data_received`.

Each call iterates over the bytes that it is given, by `PDUStream`: a PDU is decoded from all of
them, processed, and the bytes that its class left over are the next ones.  Nothing is kept between
calls, and what any PDU raises ends the iteration.  The transport is the list of the calls to it.
-/
import Sonic.AgentX.Pdu

namespace AgentX

inductive TransportCall where
  | write (bs : List UInt8)
  | close
  deriving DecidableEq

/-- The agent: its session, which is -1 at first, and what it has called of its transport. -/
structure Agent where
  session_id : Option ℕ
  calls : List TransportCall
  deriving DecidableEq

namespace Agent

def write (st : Agent) (bs : List UInt8) : Agent := { st with calls := st.calls ++ [.write bs] }

def close (st : Agent) : Agent := { st with calls := st.calls ++ [.close] }

end Agent

def DEFAULT_PDU_TIMEOUT : ℕ := 5

namespace ResponseErrors

def NO_AGENT_X_ERROR : ℕ := 0

def OPEN_FAILED : ℕ := 256

def PARSE_ERROR : ℕ := 266

end ResponseErrors

/-- The bytes of a registration. -/
def registration (header : PDUHeader) (idx : ℕ) (subtree : List ℕ) : Except Raised (List UInt8) := do
  let oid ← ObjectIdentifier.from_iterable subtree
  let register_pdu ← build header (.RegisterPDU none DEFAULT_PDU_TIMEOUT idx 0 oid none)
  register_pdu.encode

/-- The loop over the subtrees, from an index on, and whether it went through. -/
def registerFrom (header : PDUHeader) : ℕ → List (List ℕ) → Agent → Agent × Bool
  | _, [], st => (st, true)
  | idx, subtree :: subtrees, st =>
    match registration header idx subtree with
    | .ok write_bytes => registerFrom header (idx + 1) subtrees (st.write write_bytes)
    | .error _ => (st, false)

def register_subtrees (lut : MIBTable) (header : PDUHeader) (st : Agent) : Agent × Bool :=
  registerFrom header 0 lut.prefixes { st with session_id := some header.session_id }

/-- `parse_response`, and whether it did not raise. -/
def parse_response (lut : MIBTable) (header : PDUHeader) (error : ℕ) (st : Agent) : Agent × Bool :=
  match st.session_id with
  | none =>
    if error = ResponseErrors.PARSE_ERROR then (st.close, true)
    else if error = ResponseErrors.OPEN_FAILED then (st, true)
    else if error = ResponseErrors.NO_AGENT_X_ERROR then register_subtrees lut header st
    else (st, false)
  | some _ => (st, true)

/-- What is done with a PDU of the stream, and whether it did not raise. -/
def process (lut : MIBTable) (st : Agent) (pdu : PDU) : Agent × Bool :=
  match pdu.body with
  | .ResponsePDU _ error _ _ => parse_response lut pdu.header error st
  | _ =>
    match (pdu.make_response lut).bind PDU.encode with
    | .ok bs => (st.write bs, true)
    | .error _ => (st, false)

/-- The loop of `data_received`, with the lengths of the bytes that it decoded a PDU from.  A PDU
leaves over less than it was decoded from, so that there are no more of them than bytes. -/
def iterate (lut : MIBTable) : ℕ → Agent → List UInt8 → Agent × List ℕ
  | 0, st, _ => (st, [])
  | fuel + 1, st, data =>
    if data = [] then (st, [])
    else
      match PDU.decode data with
      | .error _ => (st, [data.length])
      | .ok pdu =>
        match process lut st pdu with
        | (st, false) => (st, [data.length])
        | (st, true) =>
          let (st, lengths) := iterate lut fuel st pdu.trailing_bytes
          (st, data.length :: lengths)

def data_received (lut : MIBTable) (st : Agent) (data : List UInt8) : Agent × List ℕ :=
  iterate lut data.length st data

/-- The calls of `data_received`, from an offset of the stream on: the agent, and the offsets at
which it decoded a PDU. -/
def receive (lut : MIBTable) : ℕ → Agent → List (List UInt8) → Agent × List ℕ
  | _, st, [] => (st, [])
  | offset, st, data :: chunks =>
    let (st, lengths) := data_received lut st data
    let (st, starts) := receive lut (offset + data.length) st chunks
    (st, lengths.map (offset + data.length - ·) ++ starts)

/-! ### One PDU at a time -/

/-- One PDU of the stream on its own. -/
def alone (lut : MIBTable) (st : Agent) (b : List UInt8) : Agent :=
  match PDU.decode b with
  | .ok pdu => (process lut st pdu).1
  | .error _ => st

/-- The offsets of the PDUs of a stream. -/
def startsFrom : ℕ → List (List UInt8) → List ℕ
  | _, [] => []
  | offset, b :: pdus => offset :: startsFrom (offset + b.length) pdus

/-- The bytes of a PDU, whatever its type and its body: a header and as many bytes as it says. -/
def Framed (b : List UInt8) : Prop :=
  ∃ header, PDUHeader.from_bytes b = .ok header ∧
    b.length = AGENTX_HEADER_LENGTH + header.payload_length

/-- The chunks of a stream are received as its PDUs one at a time: each PDU is decoded where it
starts, and nothing is decoded elsewhere. -/
def Transparent (lut : MIBTable) (st : Agent) (pdus chunks : List (List UInt8)) : Prop :=
  receive lut 0 st chunks = (pdus.foldl (alone lut) st, startsFrom 0 pdus)

/-- What follows in the iteration over bytes. -/
def Follows (rest data : List UInt8) : Prop :=
  ∃ pdu, PDU.decode data = .ok pdu ∧ pdu.trailing_bytes = rest

end AgentX
