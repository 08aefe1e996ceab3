/-
Fpmsyncd/Framing.lean

When the messages that are dispatched do not depend on how the stream is cut.

A stream is some well-formed messages, and a rest that starts with none (`Stream`): every stream
is one, in one way.  One call passes the messages that are complete, and waits if the rest of
what it has may still become one (`Short`); the header of the rest is judged when as many bytes
are there as it says (`passes`).  The connection goes call by call (`readData_framed_iff`): all
is as it should be unless the rest begins with a header that is not in order and says more bytes
than come, or with a netlink message that is longer than its payload.
-/
import Sonic.Fpmsyncd.FpmLink

namespace Fpmsyncd

/-! ### Streams -/

/-- There is a length in the payload, and it is not above that of the payload. -/
def Inner (payload : List UInt8) : Prop :=
  4 ≤ payload.length ∧ nlmsg_len payload ≤ payload.length

/-- A message with a header that is in order, and with a netlink message that is not longer than
the payload. -/
structure WellFormed (m : List UInt8) : Prop where
  hdr : fpm_msg_hdr_ok m = true
  length : m.length = fpm_msg_len m
  inner : msg_type m = FPM_MSG_TYPE_NETLINK → Inner (fpm_msg_data m)

/-- The netlink message of a message, if it is of this type. -/
def netlink (m : List UInt8) : Option (List UInt8) :=
  if msg_type m = FPM_MSG_TYPE_NETLINK then
    some ((fpm_msg_data m).take (nlmsg_len (fpm_msg_data m)))
  else none

/-- Well-formed messages, and a rest that does not start with one. -/
structure Stream (s : List UInt8) (msgs : List (List UInt8)) (rest : List UInt8) : Prop where
  eq : s = msgs.flatten ++ rest
  wellFormed : ∀ m ∈ msgs, WellFormed m
  stuck : ∀ m t, WellFormed m → rest ≠ m ++ t

/-- There are fewer bytes than a header has, or than the header says. -/
def Short (p : List UInt8) : Prop := p.length < FPM_MSG_HDR_LEN ∨ p.length < fpm_msg_len p

/-- What may still become a well-formed message. -/
def Incomplete (rest : List UInt8) : Prop :=
  rest.length < FPM_MSG_HDR_LEN ∨ (fpm_msg_hdr_ok rest = true ∧ rest.length < fpm_msg_len rest)

/-- The payload of the first message of some bytes. -/
def firstPayload (rest : List UInt8) : List UInt8 := fpm_msg_data (rest.take (fpm_msg_len rest))

/-- A message that is not well-formed and is found out: as many bytes are there as its header
says, and the header is not in order, or libnl has not the memory for its netlink message. -/
def Caught (alloc : ℕ → Bool) (rest : List UInt8) : Prop :=
  ¬ Short rest ∧ (fpm_msg_hdr_ok rest = false ∨
    (4 ≤ (firstPayload rest).length ∧ alloc (nlmsg_len (firstPayload rest)) = false))

/-- A conversion reads nothing outside of the message. -/
def Conversion.Inside (c : Conversion) : Prop :=
  4 ≤ c.payload.length ∧ (c.nlmsg = none ∨ c.nlmsg_len ≤ c.payload.length)

/-- What the calls should come to, for a stream of these messages and this rest. -/
structure Framed (r : Received) (msgs : List (List UInt8)) (rest : List UInt8) : Prop where
  dispatched : r.conversions.filterMap (·.nlmsg) = msgs.filterMap netlink
  inside : ∀ c ∈ r.conversions, c.Inside
  asked : ∀ n ∈ r.asked, 0 < n
  bounds : r.link.m_pos ≤ m_bufSize
  room : r.raised = none → r.link.m_pos < m_bufSize
  tail : Incomplete rest →
    r.raised = none ∧ r.link.m_messageBuffer.take r.link.m_pos = rest
  raised : ¬ Incomplete rest → r.raised ≠ none

/-! ### The front of some bytes -/

section Front

variable {p q m t stale : List UInt8}

theorem byteAt_append {i : ℕ} (h : i < p.length) : byteAt (p ++ q) i = byteAt p i := by
  unfold byteAt
  rw [List.getD_eq_getElem?_getD, List.getD_eq_getElem?_getD, List.getElem?_append_left h]

theorem fpm_msg_len_append (h : FPM_MSG_HDR_LEN ≤ p.length) :
    fpm_msg_len (p ++ q) = fpm_msg_len p := by
  have hlen : 4 ≤ p.length := h
  unfold fpm_msg_len
  rw [byteAt_append (by omega), byteAt_append (by omega)]

theorem msg_type_append (h : FPM_MSG_HDR_LEN ≤ p.length) : msg_type (p ++ q) = msg_type p := by
  have hlen : 4 ≤ p.length := h
  exact byteAt_append (by omega)

theorem fpm_msg_hdr_ok_append (h : FPM_MSG_HDR_LEN ≤ p.length) :
    fpm_msg_hdr_ok (p ++ q) = fpm_msg_hdr_ok p := by
  unfold fpm_msg_hdr_ok
  rw [fpm_msg_len_append h, msg_type_append h]

theorem nlmsg_len_append (h : 4 ≤ p.length) : nlmsg_len (p ++ q) = nlmsg_len p := by
  unfold nlmsg_len
  rw [byteAt_append (by omega), byteAt_append (by omega), byteAt_append (by omega),
    byteAt_append (by omega)]

theorem fpm_msg_data_append (h : FPM_MSG_HDR_LEN ≤ p.length) :
    fpm_msg_data (p ++ q) = fpm_msg_data p ++ q :=
  List.drop_append_of_le_length h

/-- A header in order says a length with room for the header, and not above the maximum. -/
theorem fpm_msg_len_of_hdr_ok (h : fpm_msg_hdr_ok p = true) :
    FPM_MSG_HDR_LEN ≤ fpm_msg_len p ∧ fpm_msg_len p ≤ FPM_MAX_MSG_LEN := by
  unfold fpm_msg_hdr_ok at h
  split_ifs at h with htype hlen
  obtain ⟨hle, hmax⟩ := not_or.mp hlen
  exact ⟨Nat.not_lt.mp hle, Nat.not_lt.mp hmax⟩

/-- A length in the header is below 2 ^ 16. -/
theorem fpm_msg_len_lt (p : List UInt8) : fpm_msg_len p < 65536 := by
  have h₂ := (byteAt p 2).toNat_lt
  have h₃ := (byteAt p 3).toNat_lt
  unfold fpm_msg_len
  omega

theorem WellFormed.hdr_le (h : WellFormed m) : FPM_MSG_HDR_LEN ≤ m.length := by
  rw [h.length]
  exact (fpm_msg_len_of_hdr_ok h.hdr).1

/-- A short front leaves room in the buffer. -/
theorem Short.lt_bufSize (h : Short p) : p.length < m_bufSize := by
  have hlen := fpm_msg_len_lt p
  have hsize : m_bufSize = 1048576 := rfl
  rcases h with h | h
  · have hhdr : FPM_MSG_HDR_LEN = 4 := rfl
    omega
  · omega

theorem not_short (h : ¬ Short p) : FPM_MSG_HDR_LEN ≤ p.length ∧ fpm_msg_len p ≤ p.length :=
  ⟨Nat.not_lt.mp fun hlt => h (.inl hlt), Nat.not_lt.mp fun hlt => h (.inr hlt)⟩

/-- What begins with a whole message is not short. -/
theorem WellFormed.not_short (h : WellFormed m) : ¬ Short (m ++ t) := by
  have hle := h.hdr_le
  rintro (hlt | hlt)
  · rw [List.length_append] at hlt
    omega
  · rw [fpm_msg_len_append hle, ← h.length, List.length_append] at hlt
    omega

/-- Less than a whole message is short. -/
theorem WellFormed.short (h : WellFormed m) (hpq : p ++ q = m) (hlt : p.length < m.length) :
    Short p := by
  by_cases hhdr : p.length < FPM_MSG_HDR_LEN
  · exact .inl hhdr
  · right
    rw [← fpm_msg_len_append (q := q) (Nat.not_lt.mp hhdr), hpq, ← h.length]
    exact hlt

end Front

/-! ### Every stream is one -/

theorem exists_stream (s : List UInt8) : ∃ msgs rest, Stream s msgs rest := by
  induction hn : s.length using Nat.strong_induction_on generalizing s with
  | _ n ih =>
    by_cases hstart : ∃ m t, WellFormed m ∧ s = m ++ t
    · obtain ⟨m, t, hm, rfl⟩ := hstart
      have hpos : 4 ≤ m.length := hm.hdr_le
      rw [List.length_append] at hn
      obtain ⟨msgs, rest, ht⟩ := ih t.length (by omega) t rfl
      refine ⟨m :: msgs, rest, ?_, ?_, ht.stuck⟩
      · rw [List.flatten_cons, List.append_assoc, ← ht.eq]
      · exact List.forall_mem_cons.mpr ⟨hm, ht.wellFormed⟩
    · exact ⟨[], s, rfl, nofun, fun m t hm hs => hstart ⟨m, t, hm, hs⟩⟩

/-- A rest that begins with a complete message which is not short has a fault. -/
theorem Stream.fault {s rest : List UInt8} {msgs : List (List UInt8)} (h : Stream s msgs rest)
    (hshort : ¬ Short rest) (hok : fpm_msg_hdr_ok rest = true) :
    msg_type rest = FPM_MSG_TYPE_NETLINK ∧ ¬ Inner (firstPayload rest) := by
  obtain ⟨hhdr, hlen⟩ := not_short hshort
  have hsplit : rest.take (fpm_msg_len rest) ++ rest.drop (fpm_msg_len rest) = rest :=
    List.take_append_drop _ _
  have hle := (fpm_msg_len_of_hdr_ok hok).1
  have htake : (rest.take (fpm_msg_len rest)).length = fpm_msg_len rest :=
    List.length_take_of_le hlen
  have hfront : FPM_MSG_HDR_LEN ≤ (rest.take (fpm_msg_len rest)).length := htake.symm ▸ hle
  have hlen' : fpm_msg_len (rest.take (fpm_msg_len rest)) = fpm_msg_len rest := by
    rw [← fpm_msg_len_append (q := rest.drop (fpm_msg_len rest)) hfront, hsplit]
  have hok' : fpm_msg_hdr_ok (rest.take (fpm_msg_len rest)) = true := by
    rw [← fpm_msg_hdr_ok_append (q := rest.drop (fpm_msg_len rest)) hfront, hsplit, hok]
  have htype : msg_type (rest.take (fpm_msg_len rest)) = msg_type rest := by
    rw [← msg_type_append (q := rest.drop (fpm_msg_len rest)) hfront, hsplit]
  constructor
  · by_contra hne
    have hwf : WellFormed (rest.take (fpm_msg_len rest)) :=
      ⟨hok', htake.trans hlen'.symm, fun heq => absurd (htype ▸ heq) hne⟩
    exact h.stuck _ _ hwf hsplit.symm
  · intro hinner
    have hwf : WellFormed (rest.take (fpm_msg_len rest)) :=
      ⟨hok', htake.trans hlen'.symm, fun _ => hinner⟩
    exact h.stuck _ _ hwf hsplit.symm

/-! ### One call -/

section Call

variable {alloc : ℕ → Bool} {fuel : ℕ} {p f m stale rest : List UInt8}
  {msgs : List (List UInt8)} {r : Passed}

/-- The conversions of a well-formed message. -/
def conversionsOf (m : List UInt8) : List Conversion :=
  if msg_type m = FPM_MSG_TYPE_NETLINK then
    [⟨fpm_msg_data m, nlmsg_len (fpm_msg_data m), netlink m⟩]
  else []

theorem filterMap_conversionsOf (m : List UInt8) :
    (conversionsOf m).filterMap (·.nlmsg) = (netlink m).toList := by
  unfold conversionsOf
  split_ifs with htype
  · rw [List.filterMap_cons, List.filterMap_nil]
    cases netlink m <;> rfl
  · have hnone : netlink m = none := if_neg htype
    rw [hnone]
    rfl

theorem WellFormed.inside (h : WellFormed m) : ∀ c ∈ conversionsOf m, c.Inside := by
  intro c hc
  unfold conversionsOf at hc
  split_ifs at hc with htype
  · obtain rfl := List.mem_singleton.mp hc
    exact ⟨(h.inner htype).1, .inr (h.inner htype).2⟩
  · cases hc

theorem messages_short (h : Short p) : messages alloc fuel (p ++ stale) p.length = ⟨[], .ok 0⟩ := by
  cases fuel with
  | zero => rfl
  | succ fuel =>
    rw [messages]
    by_cases hhdr : p.length < FPM_MSG_HDR_LEN
    · exact if_pos hhdr
    · rw [if_neg hhdr, fpm_msg_len_append (Nat.not_lt.mp hhdr)]
      exact if_pos (h.resolve_left hhdr)

/-- A message of which all bytes are there. -/
theorem messages_whole (h : ¬ Short p) :
    messages alloc (fuel + 1) (p ++ stale) p.length
      = if fpm_msg_hdr_ok p = false then ⟨[], .error .malformed⟩
        else
          let next := messages alloc fuel ((p ++ stale).drop (fpm_msg_len p))
            (p.length - fpm_msg_len p)
          if msg_type p = FPM_MSG_TYPE_NETLINK then
            let msg := nlmsg_convert alloc (fpm_msg_data (p ++ stale)) (fpm_msg_data_len p)
            if msg.nlmsg = none then ⟨[msg], .error .unable_to_convert⟩
            else next.after [msg] (fpm_msg_len p)
          else next.after [] (fpm_msg_len p) := by
  obtain ⟨hhdr, hlen⟩ := not_short h
  have hmsg : fpm_msg_len (p ++ stale) = fpm_msg_len p := fpm_msg_len_append hhdr
  have hok : fpm_msg_ok (p ++ stale) p.length = fpm_msg_hdr_ok p := by
    unfold fpm_msg_ok
    rw [if_neg (Nat.not_lt.mpr hhdr), fpm_msg_hdr_ok_append hhdr, hmsg,
      if_neg (Nat.not_lt.mpr hlen)]
    cases fpm_msg_hdr_ok p <;> rfl
  rw [messages, if_neg (Nat.not_lt.mpr hhdr), hmsg, if_neg (Nat.not_lt.mpr hlen), hok,
    msg_type_append hhdr]
  have hdata : fpm_msg_data_len (p ++ stale) = fpm_msg_data_len p := by
    unfold fpm_msg_data_len
    rw [hmsg]
  rw [hdata]
  cases fpm_msg_hdr_ok p <;> rfl

/-- **A well-formed message is passed.** -/
theorem messages_message (hm : WellFormed m) (halloc : ∀ n ≤ FPM_MAX_MSG_LEN, alloc n = true) :
    messages alloc (fuel + 1) (m ++ p ++ stale) (m ++ p).length
      = (messages alloc fuel (p ++ stale) p.length).after (conversionsOf m) m.length := by
  have hhdr := hm.hdr_le
  have hlen : fpm_msg_len (m ++ p) = m.length := (fpm_msg_len_append hhdr).trans hm.length.symm
  rw [messages_whole hm.not_short, fpm_msg_hdr_ok_append hhdr, hm.hdr, if_neg Bool.noConfusion,
    hlen, msg_type_append hhdr]
  have hdrop : (m ++ p ++ stale).drop m.length = p ++ stale := by
    rw [List.append_assoc, List.drop_left]
  have hleft : (m ++ p).length - m.length = p.length := by
    rw [List.length_append]
    omega
  rw [hdrop, hleft]
  by_cases htype : msg_type m = FPM_MSG_TYPE_NETLINK
  · obtain ⟨hfour, hinner⟩ := hm.inner htype
    have hdata : fpm_msg_data (m ++ p ++ stale) = fpm_msg_data m ++ (p ++ stale) := by
      rw [List.append_assoc]
      exact fpm_msg_data_append hhdr
    have hdlen : fpm_msg_data_len (m ++ p) = (fpm_msg_data m).length := by
      unfold fpm_msg_data_len fpm_msg_data
      rw [hlen, List.length_drop]
    have hmax : nlmsg_len (fpm_msg_data m) ≤ FPM_MAX_MSG_LEN := by
      have hbound := (fpm_msg_len_of_hdr_ok hm.hdr).2
      have hdrop : (fpm_msg_data m).length ≤ m.length := by
        unfold fpm_msg_data
        rw [List.length_drop]
        omega
      rw [hm.length] at hdrop
      omega
    have hconvert : nlmsg_convert alloc (fpm_msg_data (m ++ p ++ stale))
        (fpm_msg_data_len (m ++ p))
          = ⟨fpm_msg_data m, nlmsg_len (fpm_msg_data m), netlink m⟩ := by
      unfold nlmsg_convert
      rw [hdata, hdlen, List.take_left, nlmsg_len_append hfour, if_pos (halloc _ hmax),
        List.take_append_of_le_length hinner]
      have hnetlink : netlink m = some ((fpm_msg_data m).take (nlmsg_len (fpm_msg_data m))) :=
        if_pos htype
      rw [hnetlink]
    have hconversions : conversionsOf m
        = [⟨fpm_msg_data m, nlmsg_len (fpm_msg_data m), netlink m⟩] := if_pos htype
    have hsome : netlink m ≠ none := by
      rw [show netlink m = some _ from if_pos htype]
      exact Option.some_ne_none _
    rw [if_pos htype, hconvert, hconversions]
    exact if_neg hsome
  · have hconversions : conversionsOf m = [] := if_neg htype
    rw [if_neg htype, hconversions]

/-- What the loop comes to on the bytes `p`, when the bytes `f` are still to come: it waits for
more of a message, or it finds a fault in the rest, or it reads outside of a message. -/
inductive Passes (alloc : ℕ → Bool) (p : List UInt8) (msgs : List (List UInt8))
    (rest : List UInt8) (r : Passed) : Prop
  | waits (done todo : List (List UInt8)) (p' : List UInt8) :
      msgs = done ++ todo → p = done.flatten ++ p' → Short p' →
      r = ⟨done.flatMap conversionsOf, .ok done.flatten.length⟩ → Passes alloc p msgs rest r
  | raises (e : Raised) : Caught alloc rest → r.outcome = .error e →
      r.conversions.filterMap (·.nlmsg) = msgs.filterMap netlink →
      (∀ c ∈ r.conversions, c.Inside) → Passes alloc p msgs rest r
  | strays : ¬ Short rest → ¬ Caught alloc rest → (∃ c ∈ r.conversions, ¬ c.Inside) →
      Passes alloc p msgs rest r

theorem Passes.after (hm : WellFormed m) (h : Passes alloc p msgs rest r) :
    Passes alloc (m ++ p) (m :: msgs) rest (r.after (conversionsOf m) m.length) := by
  cases h with
  | waits done todo p' hmsgs hp hshort hr =>
    refine .waits (m :: done) todo p' ?_ ?_ hshort ?_
    · rw [hmsgs]
      rfl
    · rw [hp, List.flatten_cons, List.append_assoc]
    · rw [hr, List.flatten_cons, List.length_append]
      rfl
  | raises e hcaught hr hdispatched hinside =>
    refine .raises e hcaught ?_ ?_ ?_
    · show r.outcome.map (m.length + ·) = _
      rw [hr]
      rfl
    · show (conversionsOf m ++ r.conversions).filterMap _ = _
      rw [List.filterMap_append, filterMap_conversionsOf, hdispatched]
      cases hnetlink : netlink m with
      | none => rw [List.filterMap_cons_none hnetlink]; rfl
      | some payload => rw [List.filterMap_cons_some hnetlink]; rfl
    · intro c hc
      rcases List.mem_append.mp hc with hc | hc
      · exact hm.inside c hc
      · exact hinside c hc
  | strays hshort hcaught hstray =>
    obtain ⟨c, hc, hout⟩ := hstray
    exact .strays hshort hcaught ⟨c, List.mem_append_right _ hc, hout⟩

/-- The rest, when as many bytes are there as its header says. -/
theorem passes_rest {s : List UInt8} (hs : Stream s msgs (p ++ f)) (hshort : ¬ Short p) :
    Passes alloc p [] (p ++ f) (messages alloc (fuel + 1) (p ++ stale) p.length) := by
  obtain ⟨hhdr, hlen⟩ := not_short hshort
  have hmsg : fpm_msg_len (p ++ f) = fpm_msg_len p := fpm_msg_len_append hhdr
  have hrest : ¬ Short (p ++ f) := by
    rintro (hlt | hlt)
    · rw [List.length_append] at hlt
      omega
    · rw [hmsg, List.length_append] at hlt
      omega
  rw [messages_whole hshort]
  cases hok : fpm_msg_hdr_ok p with
  | false =>
    have hfalse : fpm_msg_hdr_ok (p ++ f) = false := (fpm_msg_hdr_ok_append hhdr).trans hok
    rw [if_pos rfl]
    exact .raises .malformed ⟨hrest, .inl hfalse⟩ rfl rfl nofun
  | true =>
    have htrue : fpm_msg_hdr_ok (p ++ f) = true := (fpm_msg_hdr_ok_append hhdr).trans hok
    obtain ⟨htype, hinner⟩ := hs.fault hrest htrue
    rw [msg_type_append hhdr] at htype
    rw [if_neg Bool.noConfusion, if_pos htype]
    -- what the conversion is given is the payload
    have hpayload : (fpm_msg_data (p ++ stale)).take (fpm_msg_data_len p)
        = firstPayload (p ++ f) := by
      unfold firstPayload fpm_msg_data fpm_msg_data_len
      rw [hmsg, List.take_append_of_le_length hlen, ← List.drop_take,
        List.take_append_of_le_length hlen]
    -- its length is read of the payload, if there is one
    have hmemory : 4 ≤ (firstPayload (p ++ f)).length →
        nlmsg_len (fpm_msg_data (p ++ stale)) = nlmsg_len (firstPayload (p ++ f)) := by
      intro hfour
      have hsplit := List.take_append_drop (fpm_msg_data_len p) (fpm_msg_data (p ++ stale))
      rw [hpayload] at hsplit
      rw [← hsplit]
      exact nlmsg_len_append hfour
    cases hmem : alloc (nlmsg_len (fpm_msg_data (p ++ stale))) with
    | true =>
      have hconvert : (nlmsg_convert alloc (fpm_msg_data (p ++ stale))
          (fpm_msg_data_len p)).nlmsg ≠ none := by
        unfold nlmsg_convert
        rw [hmem]
        exact Option.some_ne_none _
      rw [if_neg hconvert]
      refine .strays hrest ?_ ⟨_, List.mem_append_left _ (List.mem_singleton_self _), ?_⟩
      · rintro ⟨-, hfalse | ⟨hfour, hfalse⟩⟩
        · exact Bool.noConfusion (htrue.symm.trans hfalse)
        · rw [← hmemory hfour, hmem] at hfalse
          cases hfalse
      · rintro ⟨hfour, hnone | hle⟩
        · exact hconvert hnone
        · change 4 ≤ ((fpm_msg_data (p ++ stale)).take (fpm_msg_data_len p)).length at hfour
          change nlmsg_len (fpm_msg_data (p ++ stale))
            ≤ ((fpm_msg_data (p ++ stale)).take (fpm_msg_data_len p)).length at hle
          rw [hpayload] at hfour hle
          rw [hmemory hfour] at hle
          exact hinner ⟨hfour, hle⟩
    | false =>
      have hconvert : nlmsg_convert alloc (fpm_msg_data (p ++ stale)) (fpm_msg_data_len p)
          = ⟨firstPayload (p ++ f), nlmsg_len (fpm_msg_data (p ++ stale)), none⟩ := by
        unfold nlmsg_convert
        rw [hmem, hpayload]
        rfl
      rw [hconvert]
      by_cases hfour : 4 ≤ (firstPayload (p ++ f)).length
      · have hcaught : Caught alloc (p ++ f) :=
          ⟨hrest, .inr ⟨hfour, by rw [← hmemory hfour, hmem]⟩⟩
        refine .raises .unable_to_convert hcaught rfl rfl fun c hc => ?_
        obtain rfl := List.mem_singleton.mp hc
        exact ⟨hfour, .inl rfl⟩
      · refine .strays hrest ?_ ⟨_, List.mem_singleton_self _, fun hin => hfour hin.1⟩
        rintro ⟨-, hfalse | ⟨hpos, -⟩⟩
        · exact Bool.noConfusion (htrue.symm.trans hfalse)
        · exact hfour hpos

/-- **What one call does.**  The induction is along the messages of the stream. -/
theorem passes (halloc : ∀ n ≤ FPM_MAX_MSG_LEN, alloc n = true)
    (hs : Stream (p ++ f) msgs rest) (hfuel : p.length ≤ fuel) :
    Passes alloc p msgs rest (messages alloc fuel (p ++ stale) p.length) := by
  induction msgs generalizing p fuel with
  | nil =>
    have hrest : rest = p ++ f := hs.eq.symm
    by_cases hshort : Short p
    · rw [messages_short hshort]
      exact .waits [] [] p rfl rfl hshort rfl
    · cases fuel with
      | zero => exact absurd (.inl (Nat.lt_of_le_of_lt hfuel (by decide))) hshort
      | succ fuel =>
        rw [hrest] at hs ⊢
        exact passes_rest hs hshort
  | cons m msgs ih =>
    have hm := hs.wellFormed m List.mem_cons_self
    have heq : p ++ f = m ++ (msgs.flatten ++ rest) := by
      rw [hs.eq, List.flatten_cons, List.append_assoc]
    have hmfront : m <+: p ++ f := ⟨_, heq.symm⟩
    rcases Nat.lt_or_ge p.length m.length with hlt | hge
    · -- some of the message is still to come
      obtain ⟨q, hq⟩ := List.prefix_of_prefix_length_le (List.prefix_append p f) hmfront hlt.le
      rw [messages_short (hm.short hq hlt)]
      exact .waits [] (m :: msgs) p rfl rfl (hm.short hq hlt) rfl
    · obtain ⟨q, rfl⟩ := List.prefix_of_prefix_length_le hmfront (List.prefix_append p f) hge
      have hq : q ++ f = msgs.flatten ++ rest := by
        rw [List.append_assoc] at heq
        exact List.append_cancel_left heq
      have hstream : Stream (q ++ f) msgs rest :=
        ⟨hq, fun m hmem => hs.wellFormed m (List.mem_cons_of_mem _ hmem), hs.stuck⟩
      have hpos : 4 ≤ m.length := hm.hdr_le
      rw [List.length_append] at hfuel
      cases fuel with
      | zero => omega
      | succ fuel =>
        rw [messages_message hm halloc]
        exact .after hm (ih hstream (by omega))

end Call

/-! ### A connection -/

section Connection

variable {alloc : ℕ → Bool} {link : FpmLink} {p rest : List UInt8}
  {msgs cs : List (List UInt8)}

/-- The bytes `p` wait at the front of the buffer. -/
structure Holds (link : FpmLink) (p : List UInt8) : Prop where
  size : link.m_messageBuffer.length = m_bufSize
  pos : link.m_pos = p.length
  front : link.m_messageBuffer.take link.m_pos = p

theorem Holds.eq (h : Holds link p) :
    link.m_messageBuffer = p ++ link.m_messageBuffer.drop p.length := by
  have hsplit := List.take_append_drop link.m_pos link.m_messageBuffer
  rw [h.front] at hsplit
  rw [← h.pos]
  exact hsplit.symm

theorem Holds.fill {chunk : List UInt8} (h : Holds link p)
    (hchunk : chunk.length ≤ m_bufSize - link.m_pos) :
    Holds (link.fill chunk) (p ++ chunk) := by
  have hle : p.length ≤ m_bufSize := by
    have hfront := congrArg List.length h.front
    rw [List.length_take, h.size] at hfront
    omega
  have hpos : (link.fill chunk).m_pos = (p ++ chunk).length := by
    rw [List.length_append, ← h.pos]
    rfl
  refine ⟨?_, hpos, ?_⟩
  · show (link.m_messageBuffer.take link.m_pos ++ chunk ++ _).length = _
    rw [h.front, List.length_append, List.length_append, List.length_drop, h.size]
    rw [h.pos] at hchunk ⊢
    omega
  · rw [hpos]
    show (link.m_messageBuffer.take link.m_pos ++ chunk ++ _).take _ = _
    rw [h.front, List.take_left]

theorem Holds.memmove {start : ℕ} {p' front : List UInt8} (h : Holds link p)
    (hp : p = front ++ p') (hstart : start = front.length) : Holds (link.memmove start) p' := by
  have hle : p.length ≤ m_bufSize := by
    have hfront := congrArg List.length h.front
    rw [List.length_take, h.size] at hfront
    omega
  have hrest : (link.m_messageBuffer.take link.m_pos).drop start = p' := by
    rw [h.front, hp, hstart, List.drop_left]
  have hpos : (link.memmove start).m_pos = p'.length := by
    show link.m_pos - start = _
    rw [h.pos, hp, hstart, List.length_append]
    omega
  have hbuffer : (link.memmove start).m_messageBuffer
      = p' ++ link.m_messageBuffer.drop p'.length := by
    show (link.m_messageBuffer.take link.m_pos).drop start ++ _ = _
    rw [hrest]
  refine ⟨?_, hpos, ?_⟩
  · rw [hbuffer, List.length_append, List.length_drop, h.size]
    rw [hp, List.length_append] at hle
    omega
  · rw [hpos, hbuffer, List.take_left]

/-- What is incomplete is short, and what is short and not incomplete is not caught. -/
theorem short_of_incomplete (h : Incomplete rest) : Short rest := by
  rcases h with h | h
  · exact .inl h
  · exact .inr h.2

/-- No more is to come. -/
theorem framed_nil (h : Holds link rest) (hshort : Short rest) :
    Framed ⟨link, [], none, []⟩ [] rest ↔ Incomplete rest ∨ Caught alloc rest := by
  have hlt : link.m_pos < m_bufSize := h.pos ▸ hshort.lt_bufSize
  constructor
  · intro hframed
    by_cases hinc : Incomplete rest
    · exact .inl hinc
    · exact absurd rfl (hframed.raised hinc)
  · rintro (hinc | hcaught)
    · exact ⟨rfl, nofun, nofun, hlt.le, fun _ => hlt, fun _ => ⟨rfl, h.front⟩,
        fun hnot => absurd hinc hnot⟩
    · exact absurd hshort hcaught.1

/-- A call that waits, before the other calls. -/
theorem framed_cons {r : Received} {done todo : List (List UInt8)} {space : ℕ}
    (hdone : ∀ m ∈ done, WellFormed m) (hspace : 0 < space) :
    Framed { r with conversions := done.flatMap conversionsOf ++ r.conversions,
                    asked := space :: r.asked } (done ++ todo) rest ↔ Framed r todo rest := by
  have hdispatched : (done.flatMap conversionsOf).filterMap (·.nlmsg) = done.filterMap netlink := by
    clear hdone
    induction done with
    | nil => rfl
    | cons m done ih =>
      rw [List.flatMap_cons, List.filterMap_append, ih, filterMap_conversionsOf]
      cases hnetlink : netlink m with
      | none => rw [List.filterMap_cons_none hnetlink]; rfl
      | some payload => rw [List.filterMap_cons_some hnetlink]; rfl
  have hinside : ∀ c ∈ done.flatMap conversionsOf, c.Inside := by
    intro c hc
    obtain ⟨m, hm, hc⟩ := List.mem_flatMap.mp hc
    exact (hdone m hm).inside c hc
  constructor
  · intro h
    refine ⟨?_, ?_, ?_, h.bounds, h.room, h.tail, h.raised⟩
    · have hall := h.dispatched
      rw [List.filterMap_append, List.filterMap_append, hdispatched] at hall
      exact List.append_cancel_left hall
    · exact fun c hc => h.inside c (List.mem_append_right _ hc)
    · exact fun n hn => h.asked n (List.mem_cons_of_mem _ hn)
  · intro h
    refine ⟨?_, ?_, ?_, h.bounds, h.room, h.tail, h.raised⟩
    · rw [List.filterMap_append, List.filterMap_append, hdispatched, h.dispatched]
    · intro c hc
      rcases List.mem_append.mp hc with hc | hc
      · exact hinside c hc
      · exact h.inside c hc
    · exact List.forall_mem_cons.mpr ⟨hspace, h.asked⟩

/-- **The calls of a connection**, from bytes that wait on. -/
theorem framed_of_holds (halloc : ∀ n ≤ FPM_MAX_MSG_LEN, alloc n = true) (h : Holds link p)
    (hshort : Short p) (hdel : Delivered alloc link cs) (hs : Stream (p ++ cs.flatten) msgs rest) :
    Framed (receive alloc link cs) msgs rest ↔ Incomplete rest ∨ Caught alloc rest := by
  induction cs generalizing link p msgs with
  | nil =>
    have heq : p = msgs.flatten ++ rest := by
      rw [← hs.eq]
      exact (List.append_nil p).symm
    cases msgs with
    | nil =>
      obtain rfl : p = rest := heq
      exact framed_nil h hshort
    | cons m msgs =>
      have hm := hs.wellFormed m List.mem_cons_self
      rw [heq, List.flatten_cons, List.append_assoc] at hshort
      exact absurd hshort hm.not_short
  | cons c cs ih =>
    obtain ⟨-, hc, hdel⟩ := hdel
    have hspace : 0 < m_bufSize - link.m_pos := by
      have hlt := hshort.lt_bufSize
      rw [h.pos]
      omega
    have hfill := h.fill hc
    rw [List.flatten_cons, ← List.append_assoc] at hs
    have hpasses : Passes alloc (p ++ c) msgs rest (messages alloc (p ++ c).length
        (p ++ c ++ (link.fill c).m_messageBuffer.drop (p ++ c).length) (p ++ c).length) :=
      passes halloc hs (le_refl _)
    rw [← hfill.eq, ← hfill.pos] at hpasses
    generalize hr : messages alloc (link.fill c).m_pos (link.fill c).m_messageBuffer
      (link.fill c).m_pos = r at hpasses
    have hfails : ∀ e, r.outcome = .error e →
        readData alloc link c = (link.fill c, r.conversions, some e) := fun e hout => by
      simp only [readData, hr, hout]
    have hreads : ∀ start, r.outcome = .ok start →
        readData alloc link c = ((link.fill c).memmove start, r.conversions, none) :=
      fun start hout => by simp only [readData, hr, hout]
    cases hpasses with
    | waits done todo p' hmsgs hp hshort' hwaits =>
      have hread := hreads _ (by rw [hwaits])
      rw [hwaits] at hread
      simp only [hread] at hdel
      have hmove := hfill.memmove hp rfl
      have hrest : Stream (p' ++ cs.flatten) todo rest := by
        refine ⟨?_, fun m hm => hs.wellFormed m ?_, hs.stuck⟩
        · have heq := hs.eq
          rw [hp, hmsgs, List.flatten_append, List.append_assoc, List.append_assoc] at heq
          exact List.append_cancel_left heq
        · rw [hmsgs]
          exact List.mem_append_right _ hm
      have hreceive : receive alloc link (c :: cs)
          = { receive alloc ((link.fill c).memmove done.flatten.length) cs with
              conversions := done.flatMap conversionsOf ++
                (receive alloc ((link.fill c).memmove done.flatten.length) cs).conversions
              asked := (m_bufSize - link.m_pos) ::
                (receive alloc ((link.fill c).memmove done.flatten.length) cs).asked } := by
        rw [receive]
        simp only [hread]
      rw [hreceive, hmsgs, framed_cons (fun m hm => hs.wellFormed m
        (hmsgs ▸ List.mem_append_left _ hm)) hspace]
      exact ih hmove hshort' hdel hrest
    | raises e hcaught hraised hdispatched hinside =>
      have hread := hfails _ hraised
      have hreceive : receive alloc link (c :: cs)
          = ⟨link.fill c, r.conversions, some e, [m_bufSize - link.m_pos]⟩ := by
        rw [receive]
        simp only [hread]
      refine iff_of_true ?_ (.inr hcaught)
      rw [hreceive]
      refine ⟨hdispatched, hinside, ?_, ?_, fun h => (Option.some_ne_none e h).elim, ?_,
        fun _ => Option.some_ne_none e⟩
      · exact fun n hn => List.mem_singleton.mp hn ▸ hspace
      · show link.m_pos + c.length ≤ m_bufSize
        omega
      · exact fun hinc => absurd (short_of_incomplete hinc) hcaught.1
    | strays hrest hcaught hstray =>
      obtain ⟨stray, hmem, hout⟩ := hstray
      refine iff_of_false ?_ ?_
      · intro hframed
        refine hout (hframed.inside stray ?_)
        rw [receive]
        cases hread : r.outcome with
        | error e =>
          rw [hfails e hread]
          exact hmem
        | ok start =>
          rw [hreads start hread]
          exact List.mem_append_left _ hmem
      · rintro (hinc | hcaught')
        · exact hrest (short_of_incomplete hinc)
        · exact hcaught hcaught'

/-- **When the messages of a stream are dispatched as they should be**, however the stream is
cut: if its rest may still become a message, or if its fault is found out. -/
theorem readData_framed_iff {buffer s : List UInt8} (hbuffer : buffer.length = m_bufSize)
    (halloc : ∀ n ≤ FPM_MAX_MSG_LEN, alloc n = true) (hs : Stream s msgs rest)
    (hcut : cs.flatten = s) (hdel : Delivered alloc ⟨buffer, 0⟩ cs) :
    Framed (receive alloc ⟨buffer, 0⟩ cs) msgs rest ↔ Incomplete rest ∨ Caught alloc rest := by
  refine framed_of_holds halloc (p := []) ⟨hbuffer, rfl, rfl⟩ (.inl (by decide)) hdel ?_
  rw [List.nil_append, hcut]
  exact hs

/-- A socket that has no more than fits the buffer delivers it in any pieces. -/
theorem delivered_of_length_le (hne : ∀ c ∈ cs, c ≠ [])
    (hle : link.m_pos + cs.flatten.length ≤ m_bufSize) : Delivered alloc link cs := by
  induction cs generalizing link with
  | nil => trivial
  | cons c cs ih =>
    rw [List.flatten_cons, List.length_append] at hle
    refine ⟨hne c List.mem_cons_self, by omega, ?_⟩
    unfold readData
    cases hr : (messages alloc (link.fill c).m_pos (link.fill c).m_messageBuffer
      (link.fill c).m_pos).outcome with
    | error e =>
      simp only [hr]
    | ok start =>
      simp only [hr]
      refine ih (fun d hd => hne d (List.mem_cons_of_mem _ hd)) ?_
      show link.m_pos + c.length - start + _ ≤ _
      omega

/-- A short rest starts with no message. -/
theorem stuck_of_short (h : Short rest) : ∀ m t, WellFormed m → rest ≠ m ++ t := by
  rintro m t hm rfl
  exact hm.not_short h

end Connection

/-- A message of a netlink message of four bytes, in two pieces. -/
theorem readData_framed_pieces :
    Framed (receive (fun _ => true) ⟨List.replicate m_bufSize 0, 0⟩ [[1, 1, 0], [8, 4, 0, 0, 0]])
      [[1, 1, 0, 8, 4, 0, 0, 0]] [] ↔ Incomplete [] ∨ Caught (fun _ => true) [] := by
  have hm : WellFormed [1, 1, 0, 8, 4, 0, 0, 0] :=
    ⟨by decide, by decide, fun _ => ⟨by decide, by decide⟩⟩
  have hs : Stream [1, 1, 0, 8, 4, 0, 0, 0] [[1, 1, 0, 8, 4, 0, 0, 0]] [] :=
    ⟨rfl, fun m hmem => List.mem_singleton.mp hmem ▸ hm, stuck_of_short (.inl (by decide))⟩
  refine readData_framed_iff List.length_replicate (fun _ _ => rfl) hs rfl ?_
  exact delivered_of_length_le (by decide) (by decide)

/-- **A netlink message that is longer than its payload** is converted all the same: what is read
is not only of the message, and nothing is raised. -/
theorem not_readData_framed :
    ¬ ∀ (alloc : ℕ → Bool) (buffer s rest : List UInt8) (msgs cs : List (List UInt8)),
      buffer.length = m_bufSize → (∀ n ≤ FPM_MAX_MSG_LEN, alloc n = true) → Stream s msgs rest →
      cs.flatten = s → Delivered alloc ⟨buffer, 0⟩ cs →
      Framed (receive alloc ⟨buffer, 0⟩ cs) msgs rest := by
  intro hclaim
  have hs : Stream [1, 1, 0, 8, 9, 0, 0, 0] [] [1, 1, 0, 8, 9, 0, 0, 0] := by
    refine ⟨rfl, nofun, fun m t hm heq => ?_⟩
    have hhdr := hm.hdr_le
    have hlen : m.length = 8 := by
      rw [hm.length, ← fpm_msg_len_append (q := t) hhdr, ← heq]
      rfl
    obtain rfl : t = [] := by
      have htotal := congrArg List.length heq
      rw [List.length_append, hlen] at htotal
      exact List.eq_nil_of_length_eq_zero (Nat.add_left_cancel htotal).symm
    rw [List.append_nil] at heq
    have hinner := hm.inner (heq ▸ rfl)
    rw [← heq] at hinner
    exact absurd hinner.2 (by decide)
  have hbuffer : (List.replicate m_bufSize (0 : UInt8)).length = m_bufSize := List.length_replicate
  have hdel : Delivered (fun _ => true) ⟨List.replicate m_bufSize 0, 0⟩
      [[1, 1, 0, 8, 9, 0, 0, 0]] := delivered_of_length_le (by decide) (by decide)
  have hframed := hclaim (fun _ => true) _ _ _ [] _ hbuffer (fun _ _ => rfl) hs rfl hdel
  have hholds : Holds ⟨List.replicate m_bufSize 0, 0⟩ [] := ⟨hbuffer, rfl, rfl⟩
  rcases (framed_of_holds (fun _ _ => rfl) hholds (.inl (by decide)) hdel hs).mp hframed with
    hinc | hcaught
  · exact absurd hinc (by unfold Incomplete; decide)
  · exact absurd hcaught (by unfold Caught Short; decide)

end Fpmsyncd
