/-
Fpmsyncd/FpmLink.lean

The connection to zebra (`FpmLink::readData`, and the header of `fpm/fpm.h`).

Every call reads what the socket has into a buffer, behind what a former call has left there,
and goes over the messages that are complete; what is left of an incomplete message is moved to
the front.  A message is a header of four bytes and a payload, and the payload of a netlink
message is handed to `nlmsg_convert` of libnl, which copies as many bytes as the netlink header
says.  The library is not told where the message ends, so that a conversion keeps both the
payload and what was copied.

The buffer is memory: behind the bytes that were read it still holds what it held before.
-/
import Mathlib

namespace Fpmsyncd

/-! ### The header -/

def FPM_MAX_MSG_LEN : ℕ := 4096

def MSG_BATCH_SIZE : ℕ := 256

def FPM_MSG_TYPE_NONE : UInt8 := 0

def FPM_MSG_TYPE_NETLINK : UInt8 := 1

def FPM_MSG_ALIGNTO : ℕ := 4

/-- Rounded up to the alignment. -/
def fpm_msg_align (len : ℕ) : ℕ :=
  (len + FPM_MSG_ALIGNTO - 1) / FPM_MSG_ALIGNTO * FPM_MSG_ALIGNTO

/-- `fpm_msg_align (sizeof (fpm_msg_hdr_t))`. -/
def FPM_MSG_HDR_LEN : ℕ := fpm_msg_align 4

/-- The byte of the header at an offset. -/
def byteAt (hdr : List UInt8) (offset : ℕ) : UInt8 := hdr.getD offset 0

def msg_type (hdr : List UInt8) : UInt8 := byteAt hdr 1

/-- `ntohs (hdr->msg_len)`. -/
def fpm_msg_len (hdr : List UInt8) : ℕ := (byteAt hdr 2).toNat * 256 + (byteAt hdr 3).toNat

def fpm_msg_data (hdr : List UInt8) : List UInt8 := hdr.drop FPM_MSG_HDR_LEN

def fpm_msg_data_len (hdr : List UInt8) : ℕ := fpm_msg_len hdr - FPM_MSG_HDR_LEN

def fpm_msg_hdr_ok (hdr : List UInt8) : Bool :=
  if msg_type hdr = FPM_MSG_TYPE_NONE then false
  else if fpm_msg_len hdr < FPM_MSG_HDR_LEN ∨ fpm_msg_len hdr > FPM_MAX_MSG_LEN then false
  else if fpm_msg_align (fpm_msg_len hdr) ≠ fpm_msg_len hdr then false
  else true

def fpm_msg_ok (hdr : List UInt8) (len : ℕ) : Bool :=
  if len < FPM_MSG_HDR_LEN then false
  else if ¬ fpm_msg_hdr_ok hdr then false
  else if fpm_msg_len hdr > len then false
  else true

/-! ### Messages -/

/-- `nlmsg_len` of a netlink header, on a little-endian host. -/
def nlmsg_len (nlh : List UInt8) : ℕ :=
  (byteAt nlh 0).toNat + (byteAt nlh 1).toNat * 2 ^ 8 + (byteAt nlh 2).toNat * 2 ^ 16
    + (byteAt nlh 3).toNat * 2 ^ 24

/-- A call of `nlmsg_convert`: what it was given, and what it has copied, if it had the memory. -/
structure Conversion where
  payload : List UInt8
  nlmsg_len : ℕ
  nlmsg : Option (List UInt8)

/-- Why a call ends in an exception. -/
inductive Raised where
  | malformed | unable_to_convert
  deriving DecidableEq

/-- What a call comes to: the conversions, in order, and the bytes before the first message that
is not complete. -/
structure Passed where
  conversions : List Conversion
  outcome : Except Raised ℕ

/-- A message before the others. -/
def Passed.after (c : List Conversion) (msg_len : ℕ) (r : Passed) : Passed :=
  ⟨c ++ r.conversions, r.outcome.map (msg_len + ·)⟩

section Reading

-- whether libnl has the memory for a message of a length
variable (alloc : ℕ → Bool)

/-- `nlmsg_convert`; `memory` is the buffer from the payload on. -/
def nlmsg_convert (memory : List UInt8) (msg_data_len : ℕ) : Conversion :=
  ⟨memory.take msg_data_len, nlmsg_len memory,
    if alloc (nlmsg_len memory) then some (memory.take (nlmsg_len memory)) else none⟩

/-- The loop over the messages: `hdr` is the buffer from the header on, `left` the number of
bytes that were read of it.  A message has a byte at least. -/
def messages : ℕ → List UInt8 → ℕ → Passed
  | 0, _, _ => ⟨[], .ok 0⟩
  | fuel + 1, hdr, left =>
    if left < FPM_MSG_HDR_LEN then ⟨[], .ok 0⟩
    else if left < fpm_msg_len hdr then ⟨[], .ok 0⟩
    else if ¬ fpm_msg_ok hdr left then ⟨[], .error .malformed⟩
    else
      let next := messages fuel (hdr.drop (fpm_msg_len hdr)) (left - fpm_msg_len hdr)
      if msg_type hdr = FPM_MSG_TYPE_NETLINK then
        let msg := nlmsg_convert alloc (fpm_msg_data hdr) (fpm_msg_data_len hdr)
        if msg.nlmsg = none then ⟨[msg], .error .unable_to_convert⟩
        else next.after [msg] (fpm_msg_len hdr)
      else next.after [] (fpm_msg_len hdr)

/-- The buffer, and the number of bytes in it that were read and not yet passed. -/
structure FpmLink where
  m_messageBuffer : List UInt8
  m_pos : ℕ

def m_bufSize : ℕ := FPM_MAX_MSG_LEN * MSG_BATCH_SIZE

/-- `read` puts what it returns behind the bytes that are there. -/
def FpmLink.fill (link : FpmLink) (chunk : List UInt8) : FpmLink :=
  ⟨link.m_messageBuffer.take link.m_pos ++ chunk ++
      link.m_messageBuffer.drop (link.m_pos + chunk.length),
    link.m_pos + chunk.length⟩

/-- The rest is moved to the front. -/
def FpmLink.memmove (link : FpmLink) (start : ℕ) : FpmLink :=
  let rest := (link.m_messageBuffer.take link.m_pos).drop start
  ⟨rest ++ link.m_messageBuffer.drop rest.length, link.m_pos - start⟩

/-- `readData`, if `read` returns the bytes `chunk`. -/
def readData (link : FpmLink) (chunk : List UInt8) :
    FpmLink × List Conversion × Option Raised :=
  let link := link.fill chunk
  let r := messages alloc link.m_pos link.m_messageBuffer link.m_pos
  match r.outcome with
  | .error e => (link, r.conversions, some e)
  | .ok start => (link.memmove start, r.conversions, none)

/-- The calls of a connection, one for every chunk, until one of them raises. -/
structure Received where
  link : FpmLink
  conversions : List Conversion
  raised : Option Raised
  /-- how many bytes each call asked for -/
  asked : List ℕ

def receive (link : FpmLink) : List (List UInt8) → Received
  | [] => ⟨link, [], none, []⟩
  | chunk :: chunks =>
    let space := m_bufSize - link.m_pos
    match readData alloc link chunk with
    | (link, msgs, some e) => ⟨link, msgs, some e, [space]⟩
    | (link, msgs, none) =>
      let r := receive link chunks
      { r with conversions := msgs ++ r.conversions, asked := space :: r.asked }

/-- What the socket delivers: some bytes to every call, and not more than it asked for. -/
def Delivered (link : FpmLink) : List (List UInt8) → Prop
  | [] => True
  | chunk :: chunks =>
    chunk ≠ [] ∧ chunk.length ≤ m_bufSize - link.m_pos ∧
      match readData alloc link chunk with
      | (_, _, some _) => True
      | (link, _, none) => Delivered link chunks

end Reading

end Fpmsyncd
