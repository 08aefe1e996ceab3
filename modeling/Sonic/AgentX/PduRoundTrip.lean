/-
AgentX/PduRoundTrip.lean

PDUs are read back from the bytes they are encoded as, and requests are encoded as the bytes they
were read from.

A PDU that the constructors make is consistent if its header has the number of the bytes after it
and if it is decoded from them whatever follows.  Requests for values are not: their payload length
counts the header too.  A registration with a context cannot be made, and what does not fit its
field cannot be encoded (`encode_self_consistent`).
-/
import Sonic.AgentX.RoundTrip

open StructPack Outcome

namespace AgentX

/-! ### Headers -/

namespace PDUHeader

variable {h : PDUHeader} {bs : List UInt8}

def Fits (h : PDUHeader) : Prop := ∀ f ∈ h.tags ++ h.identifiers, Field.Fits f

theorem exists_to_bytes (hfits : h.Fits) : ∃ bs, h.to_bytes = .ok bs := by
  obtain ⟨front, hfront⟩ := struct_pack_of_fits .big h.tags fun f hf =>
    hfits f (List.mem_append_left _ hf)
  obtain ⟨back, hback⟩ := struct_pack_of_fits h.endianness h.identifiers fun f hf =>
    hfits f (List.mem_append_right _ hf)
  refine ⟨front ++ back, ?_⟩
  rw [to_bytes, hfront]
  show struct_pack h.endianness h.identifiers >>= _ = _
  rw [hback]
  rfl

theorem of_to_bytes (hbs : h.to_bytes = .ok bs) : ∃ front back,
    struct_pack .big h.tags = .ok front ∧ struct_pack h.endianness h.identifiers = .ok back ∧
      bs = front ++ back := by
  obtain ⟨front, hfront, hbs⟩ := bind_eq_ok.mp hbs
  obtain ⟨back, hback, hbs⟩ := bind_eq_ok.mp hbs
  exact ⟨front, back, hfront, hback, (Except.ok.inj hbs).symm⟩

theorem fits_of_to_bytes (hbs : h.to_bytes = .ok bs) : h.Fits := by
  obtain ⟨front, back, hfront, hback, -⟩ := of_to_bytes hbs
  intro f hf
  exact (List.mem_append.mp hf).elim (fits_of_struct_pack hfront f) (fits_of_struct_pack hback f)

theorem length_to_bytes (hbs : h.to_bytes = .ok bs) : bs.length = AGENTX_HEADER_LENGTH := by
  obtain ⟨front, back, hfront, hback, rfl⟩ := of_to_bytes hbs
  rw [List.length_append, length_struct_pack hfront, length_struct_pack hback]
  rfl

theorem from_to_bytes (hbs : h.to_bytes = .ok bs) (rest : List UInt8) :
    from_bytes (bs ++ rest) = .ok h := by
  obtain ⟨front, back, hfront, hback, rfl⟩ := of_to_bytes hbs
  have hfour : front.length = 4 := length_struct_pack hfront
  have hsixteen : back.length = 16 := length_struct_pack hback
  have htags : struct_unpack .big [1, 1, 1, 1] front = .ok [h.version, h.type_, h.flags,
    h.reserved] := struct_unpack_pack hfront
  have hids : struct_unpack (endianness ⟨h.version, h.type_, h.flags, h.reserved, 0, 0, 0, 0⟩)
      [4, 4, 4, 4] back = .ok [h.session_id, h.transaction_id, h.packet_id, h.payload_length] :=
    struct_unpack_pack hback
  rw [from_bytes, List.append_assoc, List.take_left' hfour, htags]
  dsimp only
  rw [List.drop_left' hfour, show AGENTX_HEADER_LENGTH - 4 = 16 from rfl,
    List.take_left' hsixteen, hids]

theorem to_from_bytes (hh : from_bytes bs = .ok h) :
    h.to_bytes = .ok (bs.take AGENTX_HEADER_LENGTH) := by
  unfold from_bytes at hh
  split at hh
  · next version type_ flags reserved htags =>
      dsimp only at hh
      split at hh
      · next session_id transaction_id packet_id payload_length hids =>
          obtain rfl := (Except.ok.inj hh).symm
          obtain ⟨hfront, -⟩ := struct_pack_unpack htags
          obtain ⟨hback, -⟩ := struct_pack_unpack hids
          show struct_pack .big [(1, version), (1, type_), (1, flags), (1, reserved)] >>= _ =
            Except.ok (bs.take (4 + 16))
          rw [show struct_pack .big [(1, version), (1, type_), (1, flags), (1, reserved)] =
            .ok (bs.take 4) from hfront, List.take_add]
          show struct_pack _ [(4, session_id), (4, transaction_id), (4, packet_id),
            (4, payload_length)] >>= _ = _
          exact bind_eq_ok.mpr ⟨_, hback, rfl⟩
      · cases hh
  · cases hh
  · cases hh

end PDUHeader

/-! ### Contexts -/

section Contexts

variable {h : PDUHeader} {context : Option OctetString} {bs payload rest : List UInt8}

/-- There is a context exactly when the header announces one. -/
def ContextReadable (h : PDUHeader) (context : Option OctetString) : Prop :=
  (context.isSome ↔ h.flag__non_default_context = true) ∧ ∀ c ∈ context, c.Padded

def contextSize : Option OctetString → ℕ
  | none => 0
  | some context => context.size

theorem length_contextBytes {e : Order} (hbs : contextBytes e context = .ok bs) :
    bs.length = contextSize context := by
  cases context with
  | none =>
    obtain rfl := (Except.ok.inj hbs).symm
    rfl
  | some c => exact OctetString.length_to_bytes hbs

theorem chompContext_contextBytes (hc : ContextReadable h context)
    (hbs : contextBytes h.endianness context = .ok bs) (rest : List UInt8) :
    chompContext h (bs ++ rest) = .ok (context, rest) := by
  cases context with
  | none =>
    have hflag : h.flag__non_default_context ≠ true := fun hflag =>
      Bool.noConfusion (hc.1.mpr hflag)
    obtain rfl := (Except.ok.inj hbs).symm
    exact if_neg hflag
  | some c =>
    obtain ⟨hlen, hread⟩ := OctetString.readsBack (hc.2 c rfl) bs hbs
    have hfrom : OctetString.from_bytes (bs ++ rest) h.endianness = .ok c := hread rest
    rw [chompContext, if_pos (hc.1.mp rfl), hfrom]
    show Except.ok (some c, (bs ++ rest).drop c.size) = _
    rw [List.drop_left' hlen]

theorem of_chompContext (hp : chompContext h payload = .ok (context, rest)) :
    ContextReadable h context ∧ ∃ front, contextBytes h.endianness context = .ok front ∧
      payload = front ++ rest := by
  unfold chompContext at hp
  split at hp
  · next hflag =>
      cases hread : OctetString.from_bytes payload h.endianness with
      | error e =>
        rw [hread] at hp
        cases hp
      | ok c =>
        rw [hread] at hp
        obtain ⟨rfl, rfl⟩ := Prod.mk.inj (Except.ok.inj hp)
        obtain ⟨hpadded, -, hwrite⟩ := OctetString.of_from_bytes hread
        refine ⟨⟨⟨fun _ => hflag, fun _ => rfl⟩, ?_⟩, _, hwrite, ?_⟩
        · rintro _ ⟨⟩
          exact hpadded
        · rw [List.take_append_drop]
  · next hflag =>
      obtain ⟨rfl, rfl⟩ := Prod.mk.inj (Except.ok.inj hp)
      refine ⟨⟨⟨fun hsome => Bool.noConfusion hsome, fun h => absurd h hflag⟩, ?_⟩, [], rfl, rfl⟩
      rintro _ ⟨⟩

end Contexts

/-! ### Bodies -/

/-- A body that is read from bytes under a header. -/
def Body.Readable (h : PDUHeader) : Body → Prop
  | .OpenPDU _ reserved oid descr => reserved.length = 3 ∧ oid.Counted ∧ descr.Padded
  | .RegisterPDU context _ _ range_subid _ subtree upper_bound =>
    ContextReadable h context ∧ subtree.Counted ∧ (upper_bound.isSome ↔ range_subid ≠ 0)
  | .GetPDU context sr | .GetNextPDU context sr =>
    ContextReadable h context ∧ ∀ r ∈ sr, r.Counted
  | .TestSetPDU context | .PingPDU context => ContextReadable h context
  | .ResponsePDU _ _ _ values => ∀ vr ∈ values, vr.Readable
  | _ => True

/-- The length of what `encode` writes after the header. -/
def Body.size : Body → ℕ
  | .OpenPDU _ _ oid descr => 4 + oid.size + descr.size
  | .RegisterPDU context _ _ _ _ subtree upper_bound =>
    contextSize context + 4 + subtree.size + if upper_bound.isSome then 4 else 0
  | .GetPDU context sr | .GetNextPDU context sr =>
    contextSize context + (sr.map SearchRange.size).sum
  | .TestSetPDU context | .PingPDU context => contextSize context
  | .ResponsePDU _ _ _ values => 8 + (values.map ValueRepresentation.size).sum
  | _ => 0

section Bodies

variable {h : PDUHeader} {body : Body} {bs payload rest : List UInt8}

theorem length_ranges {e : Order} {sr : List SearchRange} (hsr : ∀ r ∈ sr, r.Counted)
    (hbs : concatBytes (SearchRange.to_bytes · e) sr = .ok bs) :
    bs.length = (sr.map SearchRange.size).sum :=
  length_concatBytes (fun r hr => SearchRange.readsBack (hsr r hr)) hbs

/-- A readable body is written as as many bytes as its size. -/
theorem Body.length_bytes (hr : body.Readable h) (hbs : body.bytes h.endianness = .ok bs) :
    bs.length = body.size := by
  cases body with
  | OpenPDU timeout reserved oid descr =>
    obtain ⟨first, hfirst, hbs⟩ := bind_eq_ok.mp hbs
    obtain ⟨second, hsecond, hbs⟩ := bind_eq_ok.mp hbs
    obtain ⟨third, hthird, hbs⟩ := bind_eq_ok.mp hbs
    obtain rfl := (Except.ok.inj hbs).symm
    simp only [List.length_append, length_struct_pack hfirst, OctetString.length_countedString,
      (ObjectIdentifier.readsBack hr.2.1 second hsecond).1, OctetString.length_to_bytes hthird]
    rfl
  | RegisterPDU context timeout priority range_subid range_subid_reserved subtree upper_bound =>
    obtain ⟨first, hfirst, hbs⟩ := bind_eq_ok.mp hbs
    obtain ⟨second, hsecond, hbs⟩ := bind_eq_ok.mp hbs
    obtain ⟨third, hthird, hbs⟩ := bind_eq_ok.mp hbs
    obtain ⟨fourth, hfourth, hbs⟩ := bind_eq_ok.mp hbs
    obtain rfl := (Except.ok.inj hbs).symm
    simp only [List.length_append, length_contextBytes hfirst, length_struct_pack hsecond,
      (ObjectIdentifier.readsBack hr.2.1 third hthird).1]
    cases upper_bound with
    | none =>
      obtain rfl := (Except.ok.inj hfourth).symm
      rfl
    | some n =>
      have hfour : fourth.length = 4 := length_struct_pack hfourth
      rw [hfour]
      rfl
  | GetPDU context sr =>
    obtain ⟨first, hfirst, hbs⟩ := bind_eq_ok.mp hbs
    obtain ⟨second, hsecond, hbs⟩ := bind_eq_ok.mp hbs
    obtain rfl := (Except.ok.inj hbs).symm
    rw [List.length_append, length_contextBytes hfirst, length_ranges hr.2 hsecond]
    rfl
  | GetNextPDU context sr =>
    obtain ⟨first, hfirst, hbs⟩ := bind_eq_ok.mp hbs
    obtain ⟨second, hsecond, hbs⟩ := bind_eq_ok.mp hbs
    obtain rfl := (Except.ok.inj hbs).symm
    rw [List.length_append, length_contextBytes hfirst, length_ranges hr.2 hsecond]
    rfl
  | TestSetPDU context => exact length_contextBytes hbs
  | PingPDU context => exact length_contextBytes hbs
  | ResponsePDU sys_up_time error index values =>
    obtain ⟨first, hfirst, hbs⟩ := bind_eq_ok.mp hbs
    obtain ⟨second, hsecond, hbs⟩ := bind_eq_ok.mp hbs
    obtain rfl := (Except.ok.inj hbs).symm
    rw [List.length_append, length_struct_pack hfirst,
      length_concatBytes (fun vr hvr => ValueRepresentation.readsBack (hr vr hvr)) hsecond]
    rfl
  | ClosePDU reason reason_reserved =>
    obtain rfl := (Except.ok.inj hbs).symm
    rfl
  | CommitSetPDU =>
    obtain rfl := (Except.ok.inj hbs).symm
    rfl
  | UndoSetPDU =>
    obtain rfl := (Except.ok.inj hbs).symm
    rfl
  | CleanupSetPDU =>
    obtain rfl := (Except.ok.inj hbs).symm
    rfl

/-- The search ranges of a payload without a context are read back; behind a context they are if
nothing follows, since the loop goes on for as many bytes as the context has. -/
theorem readRanges_bytes (context : Option OctetString) {sr : List SearchRange}
    (hsr : ∀ r ∈ sr, r.Counted) (hbs : concatBytes (SearchRange.to_bytes · h.endianness) sr = .ok bs)
    (hlen : h.payload_length = contextSize context + (sr.map SearchRange.size).sum)
    (hrest : rest = [] ∨ context = none) :
    readRanges h (bs ++ rest) = .ok (sr, rest) := by
  have hlength := length_ranges hsr hbs
  refine readItems_concatBytes
    (fun r hr => ⟨SearchRange.readsBack (hsr r hr), SearchRange.size_pos r⟩) hbs ?_ ?_ ?_
  · have hmany := length_le_of_pos fun r (_ : r ∈ sr) => SearchRange.size_pos r
    rw [List.length_append]
    omega
  · intro m hm
    rw [hlen]
    exact decide_eq_true (by omega)
  · refine hrest.imp_right fun hnone => ?_
    rw [hlen, hnone]
    refine decide_eq_false ?_
    show ¬ 0 + bs.length < 0 + _
    omega

/-! ### Reading what was written -/

theorem openBody_bytes {timeout : ℕ} {reserved : List UInt8} {oid : ObjectIdentifier}
    {descr : OctetString} (hr : (Body.OpenPDU timeout reserved oid descr).Readable h)
    (hbs : (Body.OpenPDU timeout reserved oid descr).bytes h.endianness = .ok bs)
    (rest : List UInt8) :
    openBody h (bs ++ rest) = .ok (.OpenPDU timeout reserved oid descr, rest) := by
  obtain ⟨first, hfirst, hbs⟩ := bind_eq_ok.mp hbs
  obtain ⟨second, hsecond, hbs⟩ := bind_eq_ok.mp hbs
  obtain ⟨third, hthird, hbs⟩ := bind_eq_ok.mp hbs
  obtain rfl := (Except.ok.inj hbs).symm
  obtain ⟨hreserved, hoid, hdescr⟩ := hr
  have hone : first.length = 1 := length_struct_pack hfirst
  have hfour : (first ++ reserved).length = 4 := by
    rw [List.length_append, hone, hreserved]
  obtain ⟨hlen, hread⟩ := ObjectIdentifier.readsBack hoid second hsecond
  obtain ⟨hlen', hread'⟩ := OctetString.readsBack hdescr third hthird
  have hread₂ : ObjectIdentifier.from_bytes (second ++ (third ++ rest)) h.endianness = .ok oid :=
    hread _
  have hread₃ : OctetString.from_bytes (third ++ rest) h.endianness = .ok descr := hread' _
  rw [OctetString.countedString_of_length hreserved, List.append_assoc, List.append_assoc]
  have hdrop : (first ++ reserved ++ (second ++ (third ++ rest))).drop 4 =
      second ++ (third ++ rest) := List.drop_left' hfour
  have hlong : ¬ (first ++ reserved ++ (second ++ (third ++ rest))).length < 4 := by
    rw [List.length_append, hfour]
    omega
  have hmiddle : ((first ++ reserved ++ (second ++ (third ++ rest))).drop 1).take 3 = reserved := by
    rw [List.append_assoc, List.drop_left' hone, List.take_left' hreserved]
  have htake : (first ++ reserved ++ (second ++ (third ++ rest))).take 1 = first := by
    rw [List.append_assoc, List.take_left' hone]
  rw [openBody, htake, struct_unpack1_pack hfirst]
  show (if _ then _ else _) = _
  rw [if_neg hlong, hdrop, hmiddle]
  show ObjectIdentifier.from_bytes (second ++ (third ++ rest)) h.endianness >>= _ = _
  rw [hread₂]
  show OctetString.from_bytes ((second ++ (third ++ rest)).drop oid.size) h.endianness >>= _ = _
  rw [List.drop_left' hlen, hread₃]
  show Except.ok (_, (third ++ rest).drop descr.size) = _
  rw [List.drop_left' hlen']

theorem readUpperBound_bytes {range_subid : ℕ} {upper_bound : Option ℕ}
    (hsome : upper_bound.isSome ↔ range_subid ≠ 0)
    (hbs : upperBoundBytes h.endianness upper_bound = .ok bs) (rest : List UInt8) :
    readUpperBound h range_subid (bs ++ rest) = .ok (upper_bound, rest) := by
  cases upper_bound with
  | none =>
    obtain rfl := (Except.ok.inj hbs).symm
    exact if_neg fun hne => Bool.noConfusion (hsome.mpr hne)
  | some n =>
    have hfour : bs.length = 4 := length_struct_pack hbs
    rw [readUpperBound, if_pos (hsome.mp rfl), List.take_left' hfour, struct_unpack1_pack hbs,
      List.drop_left' hfour]
    rfl

theorem registerBody_bytes {context : Option OctetString}
    {timeout priority range_subid range_subid_reserved : ℕ} {subtree : ObjectIdentifier}
    {upper_bound : Option ℕ} {numbers identifier bound : List UInt8} (hsubtree : subtree.Counted)
    (hsome : upper_bound.isSome ↔ range_subid ≠ 0)
    (hnumbers : struct_pack h.endianness
      [(1, timeout), (1, priority), (1, range_subid), (1, range_subid_reserved)] = .ok numbers)
    (hidentifier : subtree.to_bytes h.endianness = .ok identifier)
    (hbound : upperBoundBytes h.endianness upper_bound = .ok bound) (rest : List UInt8) :
    registerBody h context (numbers ++ (identifier ++ (bound ++ rest))) =
      .ok (.RegisterPDU context timeout priority range_subid range_subid_reserved subtree
        upper_bound, rest) := by
  have hfour : numbers.length = 4 := length_struct_pack hnumbers
  have hvalues : struct_unpack h.endianness [1, 1, 1, 1] numbers =
      .ok [timeout, priority, range_subid, range_subid_reserved] := struct_unpack_pack hnumbers
  obtain ⟨hlen, hread⟩ := ObjectIdentifier.readsBack hsubtree identifier hidentifier
  have hread' : ObjectIdentifier.from_bytes (identifier ++ (bound ++ rest)) h.endianness =
      .ok subtree := hread _
  rw [registerBody, List.take_left' hfour, hvalues, List.drop_left' hfour]
  show ObjectIdentifier.from_bytes (identifier ++ (bound ++ rest)) h.endianness >>= _ = _
  rw [hread']
  show readUpperBound h range_subid ((identifier ++ (bound ++ rest)).drop subtree.size) >>= _ = _
  rw [List.drop_left' hlen, readUpperBound_bytes hsome hbound]
  rfl

theorem responseBody_bytes {sys_up_time error index : ℕ} {values : List ValueRepresentation}
    (hr : (Body.ResponsePDU sys_up_time error index values).Readable h)
    (hbs : (Body.ResponsePDU sys_up_time error index values).bytes h.endianness = .ok bs)
    (hlen : h.payload_length = bs.length) (rest : List UInt8) :
    responseBody h (bs ++ rest) = .ok (.ResponsePDU sys_up_time error index values, rest) := by
  obtain ⟨first, hfirst, hbs⟩ := bind_eq_ok.mp hbs
  obtain ⟨second, hsecond, hbs⟩ := bind_eq_ok.mp hbs
  obtain rfl := (Except.ok.inj hbs).symm
  have height : first.length = 8 := length_struct_pack hfirst
  have hvalues : struct_unpack h.endianness [4, 2, 2] first = .ok [sys_up_time, error, index] :=
    struct_unpack_pack hfirst
  have hback : ∀ vr ∈ values, ReadsBack (ValueRepresentation.to_bytes · h.endianness)
      (ValueRepresentation.from_bytes · h.endianness) ValueRepresentation.size vr ∧ 0 < vr.size :=
    fun vr hvr => ⟨ValueRepresentation.readsBack (hr vr hvr), ValueRepresentation.size_pos⟩
  have hlength := length_concatBytes (fun vr hvr => (hback vr hvr).1) hsecond
  have hmany := length_le_of_pos fun vr hvr => (hback vr hvr).2
  rw [List.length_append, height] at hlen
  have hread : readValues h (second ++ rest) = .ok (values, rest) := by
    refine readItems_concatBytes hback hsecond ?_ ?_ ?_
    · rw [List.length_append]
      omega
    · intro m hm
      exact decide_eq_true (by omega)
    · exact .inr (decide_eq_false (by omega))
  rw [responseBody, List.append_assoc, List.take_left' height, hvalues, List.drop_left' height]
  show (readValues h (second ++ rest)).map _ = _
  rw [hread]
  rfl

theorem afterContext_bytes {context : Option OctetString}
    {read : Option OctetString → List UInt8 → Except Raised (Body × List UInt8)}
    (hc : ContextReadable h context) (hbs : contextBytes h.endianness context = .ok bs)
    (rest : List UInt8) : afterContext h (bs ++ rest) read = read context rest := by
  rw [afterContext, chompContext_contextBytes hc hbs]
  rfl

/-- A request for values with a context, whose loop reads into what follows. -/
def Body.Overruns : Body → Prop
  | .GetPDU context _ | .GetNextPDU context _ => context ≠ none
  | _ => False

/-- A body whose class reads it as it was written. -/
def Body.Plain : Body → Prop
  | .ClosePDU _ _ | .TestSetPDU _ => False
  | _ => True

/-- A body is read back, with what follows left over. -/
theorem readBody_bytes (htype : h.type_ = body.header_type_) (hplain : body.Plain)
    (hr : body.Readable h) (hbs : body.bytes h.endianness = .ok bs)
    (hlen : h.payload_length = bs.length) (hrest : rest = [] ∨ ¬ body.Overruns) :
    readBody h (bs ++ rest) = .ok (body, rest) := by
  have hsize := Body.length_bytes hr hbs
  rw [readBody, htype]
  cases body with
  | OpenPDU timeout reserved oid descr => exact openBody_bytes hr hbs rest
  | ClosePDU reason reason_reserved => exact hplain.elim
  | RegisterPDU context timeout priority range_subid range_subid_reserved subtree upper_bound =>
    obtain ⟨first, hfirst, hbs⟩ := bind_eq_ok.mp hbs
    obtain ⟨second, hsecond, hbs⟩ := bind_eq_ok.mp hbs
    obtain ⟨third, hthird, hbs⟩ := bind_eq_ok.mp hbs
    obtain ⟨fourth, hfourth, hbs⟩ := bind_eq_ok.mp hbs
    obtain rfl := (Except.ok.inj hbs).symm
    show afterContext h (first ++ second ++ third ++ fourth ++ rest) _ = _
    rw [List.append_assoc, List.append_assoc, List.append_assoc, afterContext_bytes hr.1 hfirst,
      registerBody_bytes hr.2.1 hr.2.2 hsecond hthird hfourth]
  | GetPDU context sr =>
    obtain ⟨first, hfirst, hbs⟩ := bind_eq_ok.mp hbs
    obtain ⟨second, hsecond, hbs⟩ := bind_eq_ok.mp hbs
    obtain rfl := (Except.ok.inj hbs).symm
    have hranges := readRanges_bytes context hr.2 hsecond (hlen.trans hsize)
      (hrest.imp_right not_not.mp)
    show afterContext h (first ++ second ++ rest) _ = _
    rw [List.append_assoc, afterContext_bytes hr.1 hfirst, hranges]
    rfl
  | GetNextPDU context sr =>
    obtain ⟨first, hfirst, hbs⟩ := bind_eq_ok.mp hbs
    obtain ⟨second, hsecond, hbs⟩ := bind_eq_ok.mp hbs
    obtain rfl := (Except.ok.inj hbs).symm
    have hranges := readRanges_bytes context hr.2 hsecond (hlen.trans hsize)
      (hrest.imp_right not_not.mp)
    show afterContext h (first ++ second ++ rest) _ = _
    rw [List.append_assoc, afterContext_bytes hr.1 hfirst, hranges]
    rfl
  | TestSetPDU context => exact hplain.elim
  | CommitSetPDU =>
    obtain rfl := (Except.ok.inj hbs).symm
    rfl
  | UndoSetPDU =>
    obtain rfl := (Except.ok.inj hbs).symm
    rfl
  | CleanupSetPDU =>
    obtain rfl := (Except.ok.inj hbs).symm
    rfl
  | PingPDU context => exact afterContext_bytes hr hbs rest
  | ResponsePDU sys_up_time error index values => exact responseBody_bytes hr hbs hlen rest

/-! ### Writing what was read -/

/-- What a body is written as is what was read of the payload. -/
def Written (h : PDUHeader) (payload : List UInt8) (body : Body) (rest : List UInt8) : Prop :=
  body.Readable h ∧ ∃ front, body.bytes h.endianness = .ok front ∧ payload = front ++ rest

theorem of_openBody (hp : openBody h payload = .ok (body, rest)) :
    body.header_type_ = 1 ∧ Written h payload body rest := by
  obtain ⟨timeout, htimeout, hp⟩ := bind_eq_ok.mp hp
  split at hp
  · cases hp
  next hlong =>
  obtain ⟨oid, hoid, hp⟩ := bind_eq_ok.mp hp
  obtain ⟨descr, hdescr, hp⟩ := bind_eq_ok.mp hp
  obtain ⟨rfl, rfl⟩ := Prod.mk.inj (Except.ok.inj hp)
  obtain ⟨hpack, -⟩ := struct_pack_unpack1 htimeout
  obtain ⟨hcounted, -, hwrite⟩ := ObjectIdentifier.of_from_bytes hoid
  obtain ⟨hpadded, -, hwrite'⟩ := OctetString.of_from_bytes hdescr
  have hreserved : ((payload.drop 1).take 3).length = 3 := by
    rw [List.length_take, List.length_drop]
    omega
  refine ⟨rfl, ⟨hreserved, hcounted, hpadded⟩, payload.take 1 ++ (payload.drop 1).take 3 ++
    (payload.drop 4).take oid.size ++ ((payload.drop 4).drop oid.size).take descr.size, ?_, ?_⟩
  · show struct_pack h.endianness [(1, timeout)] >>= _ = _
    rw [hpack]
    show oid.to_bytes h.endianness >>= _ = _
    rw [hwrite]
    show descr.to_bytes h.endianness >>= _ = _
    rw [hwrite', OctetString.countedString_of_length hreserved]
    rfl
  · rw [List.append_assoc, List.append_assoc, List.take_append_drop, List.take_append_drop,
      ← List.take_add, List.take_append_drop]

theorem of_readUpperBound {range_subid : ℕ} {upper_bound : Option ℕ}
    (hp : readUpperBound h range_subid payload = .ok (upper_bound, rest)) :
    (upper_bound.isSome ↔ range_subid ≠ 0) ∧
      ∃ front, upperBoundBytes h.endianness upper_bound = .ok front ∧ payload = front ++ rest := by
  unfold readUpperBound at hp
  split at hp
  · next hne =>
      cases hread : struct_unpack1 h.endianness 4 (payload.take 4) with
      | error e =>
        rw [hread] at hp
        cases hp
      | ok n =>
        rw [hread] at hp
        obtain ⟨rfl, rfl⟩ := Prod.mk.inj (Except.ok.inj hp)
        exact ⟨⟨fun _ => hne, fun _ => rfl⟩, _, (struct_pack_unpack1 hread).1,
          (List.take_append_drop 4 payload).symm⟩
  · next hzero =>
      obtain ⟨rfl, rfl⟩ := Prod.mk.inj (Except.ok.inj hp)
      exact ⟨⟨fun hsome => Bool.noConfusion hsome, fun hne => absurd hne hzero⟩, [], rfl, rfl⟩

theorem of_registerBody {context : Option OctetString} {front : List UInt8}
    (hc : ContextReadable h context) (hcontext : contextBytes h.endianness context = .ok front)
    (hp : registerBody h context payload = .ok (body, rest)) :
    body.header_type_ = 3 ∧ Written h (front ++ payload) body rest := by
  unfold registerBody at hp
  split at hp
  · next timeout priority range_subid range_subid_reserved hnumbers =>
      obtain ⟨subtree, hsubtree, hp⟩ := bind_eq_ok.mp hp
      obtain ⟨⟨upper_bound, after⟩, hbound, hp⟩ := bind_eq_ok.mp hp
      obtain ⟨rfl, rfl⟩ := Prod.mk.inj (Except.ok.inj hp)
      obtain ⟨hpack, -⟩ := struct_pack_unpack hnumbers
      obtain ⟨hcounted, -, hwrite⟩ := ObjectIdentifier.of_from_bytes hsubtree
      obtain ⟨hsome, bound, hboundbytes, hrest⟩ := of_readUpperBound hbound
      refine ⟨rfl, ⟨hc, hcounted, hsome⟩, front ++ payload.take 4 ++
        (payload.drop 4).take subtree.size ++ bound, ?_, ?_⟩
      · show contextBytes h.endianness context >>= _ = _
        rw [hcontext]
        show struct_pack h.endianness [(1, timeout), (1, priority), (1, range_subid),
          (1, range_subid_reserved)] >>= _ = _
        refine bind_eq_ok.mpr ⟨payload.take 4, hpack, ?_⟩
        show subtree.to_bytes h.endianness >>= _ = _
        rw [hwrite]
        show upperBoundBytes h.endianness upper_bound >>= _ = _
        rw [hboundbytes]
        rfl
      · rw [List.append_assoc, List.append_assoc, List.append_assoc, ← hrest,
          List.take_append_drop, List.take_append_drop]
  · cases hp
  · cases hp

theorem of_responseBody (hp : responseBody h payload = .ok (body, rest)) :
    body.header_type_ = 18 ∧ Written h payload body rest := by
  unfold responseBody at hp
  split at hp
  · next sys_up_time error index hnumbers =>
      cases hvalues : readValues h (payload.drop 8) with
      | error e =>
        rw [hvalues] at hp
        cases hp
      | ok read =>
        obtain ⟨values, after⟩ := read
        rw [hvalues] at hp
        obtain ⟨rfl, rfl⟩ := Prod.mk.inj (Except.ok.inj hp)
        obtain ⟨hpack, -⟩ := struct_pack_unpack hnumbers
        obtain ⟨front, hfront, hdrop⟩ :=
          concatBytes_readItems ValueRepresentation.writesBack hvalues
        refine ⟨rfl, ?_, payload.take 8 ++ front, ?_, ?_⟩
        · exact forall_readItems (fun bs vr hvr => (ValueRepresentation.of_from_bytes hvr).1)
            hvalues
        · show struct_pack h.endianness [(4, sys_up_time), (2, error), (2, index)] >>= _ = _
          refine bind_eq_ok.mpr ⟨payload.take 8, hpack, ?_⟩
          show concatBytes _ values >>= _ = _
          rw [hfront]
          rfl
        · rw [List.append_assoc, ← hdrop, List.take_append_drop]
  · cases hp
  · cases hp

theorem of_readRanges {sr : List SearchRange} (hp : readRanges h payload = .ok (sr, rest)) :
    (∀ r ∈ sr, r.Counted) ∧ ∃ front,
      concatBytes (SearchRange.to_bytes · h.endianness) sr = .ok front ∧ payload = front ++ rest :=
  ⟨forall_readItems (fun _ _ hr => (SearchRange.of_from_bytes hr).1) hp,
    concatBytes_readItems SearchRange.writesBack hp⟩

theorem of_afterContext {read : Option OctetString → List UInt8 → Except Raised (Body × List UInt8)}
    (hp : afterContext h payload read = .ok (body, rest)) : ∃ context front after,
      ContextReadable h context ∧ contextBytes h.endianness context = .ok front ∧
        payload = front ++ after ∧ read context after = .ok (body, rest) := by
  obtain ⟨⟨context, after⟩, hchomp, hread⟩ := bind_eq_ok.mp hp
  obtain ⟨hc, front, hfront, hpayload⟩ := of_chompContext hchomp
  exact ⟨context, front, after, hc, hfront, hpayload, hread⟩

/-- The bytes that the loop of a class counts. -/
def Body.counted : Body → ℕ
  | .GetPDU _ sr | .GetNextPDU _ sr => (sr.map SearchRange.size).sum
  | body => body.size

/-- A body whose loop goes on for as many bytes as the header says. -/
def Body.Looped : Body → Prop
  | .GetPDU _ _ | .GetNextPDU _ _ | .ResponsePDU _ _ _ _ => True
  | _ => False

theorem stop_of_readRanges {sr : List SearchRange} (hp : readRanges h payload = .ok (sr, rest))
    (hrest : rest ≠ []) : h.payload_length ≤ (sr.map SearchRange.size).sum := by
  have hmore := stop_of_readItems (fun _ r _ => SearchRange.size_pos r) (le_refl _) hp hrest
  have hstop : ¬ 0 + (sr.map SearchRange.size).sum < h.payload_length := of_decide_eq_false hmore
  omega

/-- A loop that leaves bytes over has counted all that the header says. -/
theorem stop_of_readBody (hp : readBody h payload = .ok (body, rest)) (hlooped : body.Looped)
    (hrest : rest ≠ []) : h.payload_length ≤ body.counted := by
  unfold readBody at hp
  split at hp
  · obtain ⟨timeout, -, hp⟩ := bind_eq_ok.mp hp
    split at hp
    · cases hp
    obtain ⟨oid, -, hp⟩ := bind_eq_ok.mp hp
    obtain ⟨descr, -, hp⟩ := bind_eq_ok.mp hp
    obtain ⟨rfl, rfl⟩ := Prod.mk.inj (Except.ok.inj hp)
    exact hlooped.elim
  · obtain ⟨reason, -, hp⟩ := bind_eq_ok.mp hp
    split at hp
    · cases hp
    · obtain ⟨rfl, rfl⟩ := Prod.mk.inj (Except.ok.inj hp)
      exact hlooped.elim
  · obtain ⟨context, front, after, hc, hfront, -, hread⟩ := of_afterContext hp
    obtain ⟨hbody, -⟩ := of_registerBody hc hfront hread
    cases body with
    | RegisterPDU => exact hlooped.elim
    | _ => cases hbody
  · obtain ⟨context, front, after, -, -, -, hread⟩ := of_afterContext hp
    obtain ⟨sr, hsr, hbody⟩ := map_eq_ok.mp hread
    obtain ⟨rfl, rfl⟩ := Prod.mk.inj hbody
    exact stop_of_readRanges hsr hrest
  · obtain ⟨context, front, after, -, -, -, hread⟩ := of_afterContext hp
    obtain ⟨sr, hsr, hbody⟩ := map_eq_ok.mp hread
    obtain ⟨rfl, rfl⟩ := Prod.mk.inj hbody
    exact stop_of_readRanges hsr hrest
  · obtain ⟨context, front, after, -, -, -, hread⟩ := of_afterContext hp
    obtain ⟨vbs, -, hbody⟩ := map_eq_ok.mp hread
    obtain ⟨rfl, rfl⟩ := Prod.mk.inj hbody
    exact hlooped.elim
  · obtain ⟨rfl, rfl⟩ := Prod.mk.inj (Except.ok.inj hp)
    exact hlooped.elim
  · obtain ⟨rfl, rfl⟩ := Prod.mk.inj (Except.ok.inj hp)
    exact hlooped.elim
  · obtain ⟨rfl, rfl⟩ := Prod.mk.inj (Except.ok.inj hp)
    exact hlooped.elim
  · obtain ⟨context, front, after, -, -, -, hread⟩ := of_afterContext hp
    obtain ⟨rfl, rfl⟩ := Prod.mk.inj (Except.ok.inj hread)
    exact hlooped.elim
  · unfold responseBody at hp
    split at hp
    · obtain ⟨⟨values, after⟩, hvalues, hbody⟩ := map_eq_ok.mp hp
      obtain ⟨rfl, rfl⟩ := Prod.mk.inj hbody
      have hmore := stop_of_readItems (fun _ _ _ => ValueRepresentation.size_pos) (le_refl _)
        hvalues hrest
      have hstop : ¬ 0 + (values.map ValueRepresentation.size).sum + 8 < h.payload_length :=
        of_decide_eq_false hmore
      show h.payload_length ≤ 8 + (values.map ValueRepresentation.size).sum
      omega
    · cases hp
    · cases hp
  · cases hp

/-- What is read is readable, of the class of its type, and written as it was read; only the
bindings of a `TestSetPDU` are not written. -/
theorem of_readBody (hp : readBody h payload = .ok (body, rest)) :
    body.header_type_ = h.type_ ∧ body.Readable h ∧ rest.length ≤ payload.length ∧
      ((∀ context, body ≠ .TestSetPDU context) → Written h payload body rest) := by
  have hshort : ∀ {payload : List UInt8}, Written h payload body rest →
      rest.length ≤ payload.length := by
    rintro payload ⟨-, front, -, rfl⟩
    rw [List.length_append]
    exact Nat.le_add_left ..
  unfold readBody at hp
  split at hp
  · next htype =>
      obtain ⟨hbody, hwritten⟩ := of_openBody hp
      exact ⟨hbody.trans htype.symm, hwritten.1, hshort hwritten, fun _ => hwritten⟩
  · next htype =>
      obtain ⟨reason, -, hp⟩ := bind_eq_ok.mp hp
      split at hp
      · cases hp
      · obtain ⟨rfl, rfl⟩ := Prod.mk.inj (Except.ok.inj hp)
        exact ⟨htype.symm, trivial, le_refl _, fun _ => ⟨trivial, [], rfl, rfl⟩⟩
  · next htype =>
      obtain ⟨context, front, after, hc, hfront, rfl, hread⟩ := of_afterContext hp
      obtain ⟨hbody, hwritten⟩ := of_registerBody hc hfront hread
      exact ⟨hbody.trans htype.symm, hwritten.1, hshort hwritten, fun _ => hwritten⟩
  · next htype =>
      obtain ⟨context, front, after, hc, hfront, rfl, hread⟩ := of_afterContext hp
      obtain ⟨sr, hsr, hbody⟩ := map_eq_ok.mp hread
      obtain ⟨rfl, rfl⟩ := Prod.mk.inj hbody
      obtain ⟨hcounted, back, hback, hafter⟩ := of_readRanges hsr
      refine ⟨htype.symm, ⟨hc, hcounted⟩, ?_, fun _ => ⟨⟨hc, hcounted⟩, front ++ back, ?_, ?_⟩⟩
      · rw [hafter, List.length_append, List.length_append]
        omega
      · exact bind_eq_ok.mpr ⟨front, hfront, bind_eq_ok.mpr ⟨back, hback, rfl⟩⟩
      · rw [hafter, List.append_assoc]
  · next htype =>
      obtain ⟨context, front, after, hc, hfront, rfl, hread⟩ := of_afterContext hp
      obtain ⟨sr, hsr, hbody⟩ := map_eq_ok.mp hread
      obtain ⟨rfl, rfl⟩ := Prod.mk.inj hbody
      obtain ⟨hcounted, back, hback, hafter⟩ := of_readRanges hsr
      refine ⟨htype.symm, ⟨hc, hcounted⟩, ?_, fun _ => ⟨⟨hc, hcounted⟩, front ++ back, ?_, ?_⟩⟩
      · rw [hafter, List.length_append, List.length_append]
        omega
      · exact bind_eq_ok.mpr ⟨front, hfront, bind_eq_ok.mpr ⟨back, hback, rfl⟩⟩
      · rw [hafter, List.append_assoc]
  · next htype =>
      obtain ⟨context, front, after, hc, hfront, rfl, hread⟩ := of_afterContext hp
      obtain ⟨⟨vbs, rest'⟩, hvbs, hbody⟩ := map_eq_ok.mp hread
      obtain ⟨rfl, rfl⟩ := Prod.mk.inj hbody
      obtain ⟨back, -, rfl⟩ := concatBytes_readItems ValueRepresentation.writesBack hvbs
      refine ⟨htype.symm, hc, ?_, fun hne => absurd rfl (hne context)⟩
      show rest'.length ≤ _
      rw [List.length_append, List.length_append]
      omega
  · next htype =>
      obtain ⟨rfl, rfl⟩ := Prod.mk.inj (Except.ok.inj hp)
      exact ⟨htype.symm, trivial, le_refl _, fun _ => ⟨trivial, [], rfl, rfl⟩⟩
  · next htype =>
      obtain ⟨rfl, rfl⟩ := Prod.mk.inj (Except.ok.inj hp)
      exact ⟨htype.symm, trivial, le_refl _, fun _ => ⟨trivial, [], rfl, rfl⟩⟩
  · next htype =>
      obtain ⟨rfl, rfl⟩ := Prod.mk.inj (Except.ok.inj hp)
      exact ⟨htype.symm, trivial, le_refl _, fun _ => ⟨trivial, [], rfl, rfl⟩⟩
  · next htype =>
      obtain ⟨context, front, after, hc, hfront, rfl, hread⟩ := of_afterContext hp
      obtain ⟨rfl, rfl⟩ := Prod.mk.inj (Except.ok.inj hread)
      exact ⟨htype.symm, hc, by rw [List.length_append]; omega, fun _ => ⟨hc, front, hfront, rfl⟩⟩
  · next htype =>
      obtain ⟨hbody, hwritten⟩ := of_responseBody hp
      exact ⟨hbody.trans htype.symm, hwritten.1, hshort hwritten, fun _ => hwritten⟩
  · cases hp

end Bodies

/-! ### PDUs -/

namespace PDU

variable {p : PDU} {bs rest : List UInt8}

theorem of_encode (hbs : p.encode = .ok bs) : ∃ front back, p.header.to_bytes = .ok front ∧
    p.body.bytes p.header.endianness = .ok back ∧ bs = front ++ back := by
  unfold encode at hbs
  split at hbs
  · cases hbs
  · next front hfront =>
      obtain ⟨back, hback, rfl⟩ := map_eq_ok.mp hbs
      exact ⟨front, back, hfront, hback, rfl⟩

theorem encode_eq_ok {front back : List UInt8} (hfront : p.header.to_bytes = .ok front)
    (hback : p.body.bytes p.header.endianness = .ok back) : p.encode = .ok (front ++ back) := by
  rw [encode, hfront]
  show (p.body.bytes p.header.endianness).map _ = _
  rw [hback]
  rfl

/-- The header is the one of its class, and its length is that of what follows it. -/
def Sized (p : PDU) : Prop :=
  p.header.type_ = p.body.header_type_ ∧ p.header.payload_length = p.body.size

theorem decodedHeader_of_plain {h : PDUHeader} {body : Body} (hplain : body.Plain) :
    decodedHeader h body = h := by
  cases body with
  | ClosePDU => exact hplain.elim
  | _ => rfl

/-- A PDU is decoded from what it is encoded as, with what follows left over. -/
theorem decode_encode (rest : List UInt8) (hsized : p.Sized) (hplain : p.body.Plain) (hr : p.body.Readable p.header)
    (hbs : p.encode = .ok bs) (hrest : rest = [] ∨ ¬ p.body.Overruns) :
    decode (bs ++ rest) = .ok { p with trailing_bytes := rest } := by
  obtain ⟨front, back, hfront, hback, rfl⟩ := of_encode hbs
  have htwenty := PDUHeader.length_to_bytes hfront
  have hlong : ¬ (front ++ back ++ rest).length < AGENTX_HEADER_LENGTH := by
    rw [List.append_assoc, List.length_append, htwenty]
    omega
  have hlen := Body.length_bytes hr hback
  rw [decode, if_neg hlong, List.append_assoc, PDUHeader.from_to_bytes hfront,
    List.drop_left' htwenty]
  refine bind_eq_ok.mpr ⟨p.header, rfl, ?_⟩
  rw [readBody_bytes hsized.1 hplain hr hback (hsized.2.trans hlen.symm) hrest]
  show Except.ok (PDU.mk (decodedHeader p.header p.body) p.body rest) = _
  rw [decodedHeader_of_plain hplain]

/-- A decoded PDU is readable, and encoded as the bytes it was read from. -/
theorem of_decode (hp : decode bs = .ok p) :
    p.body.header_type_ = p.header.type_ ∧ p.body.Readable p.header ∧
      (p.body.Plain → ∃ front, p.encode = .ok front ∧ bs = front ++ p.trailing_bytes) := by
  unfold decode at hp
  split at hp
  · cases hp
  obtain ⟨header, hheader, hp⟩ := bind_eq_ok.mp hp
  split at hp
  · next body trailing hbody =>
      obtain rfl := (Except.ok.inj hp).symm
      obtain ⟨htype, hr, -, hwritten⟩ := of_readBody hbody
      refine ⟨?_, ?_, fun hplain => ?_⟩
      · cases body <;> exact htype
      · cases body <;> exact hr
      · have hwrite := PDUHeader.to_from_bytes hheader
        obtain ⟨-, back, hback, hrest⟩ := hwritten fun context hcontext => by
          rw [hcontext] at hplain
          exact hplain
        have heq := decodedHeader_of_plain (h := header) hplain
        refine ⟨bs.take AGENTX_HEADER_LENGTH ++ back, ?_, ?_⟩
        · refine encode_eq_ok ?_ ?_
          · show (decodedHeader header body).to_bytes = _
            rw [heq, hwrite]
          · show body.bytes (decodedHeader header body).endianness = _
            rw [heq, hback]
        · rw [List.append_assoc, ← hrest, List.take_append_drop]
  · cases hp
  · cases hp

/-- A PDU leaves over less than it was decoded from. -/
theorem length_trailing (hp : decode bs = .ok p) :
    p.trailing_bytes.length + AGENTX_HEADER_LENGTH ≤ bs.length := by
  unfold decode at hp
  split at hp
  · cases hp
  next hlong =>
  obtain ⟨header, hheader, hp⟩ := bind_eq_ok.mp hp
  split at hp
  · next body trailing hbody =>
      obtain rfl := (Except.ok.inj hp).symm
      have hshort := (of_readBody hbody).2.2.1
      rw [List.length_drop] at hshort
      show trailing.length + _ ≤ _
      omega
  · cases hp
  · cases hp

theorem plain_of_looped {body : Body} (h : body.Looped) : body.Plain := by
  cases body <;> first | exact trivial | exact h.elim

/-- A PDU of a loop that leaves bytes over has counted all that its header says. -/
theorem stop_of_decode (hp : decode bs = .ok p) (hlooped : p.body.Looped)
    (hrest : p.trailing_bytes ≠ []) : p.header.payload_length ≤ p.body.counted := by
  unfold decode at hp
  split at hp
  · cases hp
  obtain ⟨header, -, hp⟩ := bind_eq_ok.mp hp
  split at hp
  · next body trailing hbody =>
      obtain rfl := (Except.ok.inj hp).symm
      show (decodedHeader header body).payload_length ≤ _
      rw [decodedHeader_of_plain (plain_of_looped hlooped)]
      exact stop_of_readBody hbody hlooped hrest
  · cases hp
  · cases hp

end PDU

/-! ### What can be written -/

theorem exists_bind_ok {α β : Type} {x : Except Raised α} {f : α → Except Raised β} :
    (∃ b, x >>= f = .ok b) ↔ ∃ a, x = .ok a ∧ ∃ b, f a = .ok b := by
  constructor
  · rintro ⟨b, h⟩
    obtain ⟨a, ha, hb⟩ := bind_eq_ok.mp h
    exact ⟨a, ha, b, hb⟩
  · rintro ⟨a, ha, b, hb⟩
    exact ⟨b, bind_eq_ok.mpr ⟨a, ha, hb⟩⟩

theorem exists_struct_pack {o : Order} {fs : List Field} :
    (∃ bs, struct_pack o fs = .ok bs) ↔ ∀ f ∈ fs, Field.Fits f :=
  ⟨fun ⟨_, h⟩ => fits_of_struct_pack h, struct_pack_of_fits o fs⟩

/-- Every number of an identifier fits its field. -/
def ObjectIdentifier.Fits (oid : ObjectIdentifier) : Prop := ∀ f ∈ oid.fields, Field.Fits f

instance (oid : ObjectIdentifier) : Decidable oid.Fits :=
  inferInstanceAs (Decidable (∀ f ∈ oid.fields, Field.Fits f))

/-- The data of a binding can be written: a number always can, since it is cut. -/
def ValueRepresentation.DataWritable : (s : Shape) → s.Data → Prop
  | .object_identifier, oid => oid.Fits
  | .octet_string, os => os.length < 2 ^ 32
  | _, _ => True

def ValueRepresentation.Writable (vr : ValueRepresentation) : Prop :=
  vr.reserved < 2 ^ 16 ∧ vr.name.Fits ∧ DataWritable vr.type_.shape vr.data

theorem OctetString.exists_to_bytes {os : OctetString} {e : Order} :
    (∃ bs, os.to_bytes e = .ok bs) ↔ os.length < 2 ^ 32 := by
  rw [show os.to_bytes e = struct_pack e [(4, os.length)] >>= _ from rfl, exists_bind_ok]
  constructor
  · rintro ⟨length, hlength, -⟩
    exact fits_of_struct_pack hlength _ List.mem_cons_self
  · intro hlt
    obtain ⟨length, hlength⟩ := struct_pack_of_fits e [(4, os.length)]
      (List.forall_mem_singleton.mpr hlt)
    exact ⟨length, hlength, _, rfl⟩

theorem ValueRepresentation.exists_packData {s : Shape} {d : s.Data} {e : Order} :
    (∃ bs, packData e s d = .ok bs) ↔ DataWritable s d := by
  have hcut : ∀ (width : ℕ) (n : ℤ), ∃ bs,
      struct_pack e [(width, (n % 2 ^ (8 * width)).toNat)] = .ok bs := by
    intro width n
    refine struct_pack_of_fits e _ (List.forall_mem_singleton.mpr ?_)
    have hpos : (0 : ℤ) < 2 ^ (8 * width) := by positivity
    have hlt := Int.emod_lt_of_pos n hpos
    show (n % 2 ^ (8 * width)).toNat < 256 ^ width
    have hpow : ((256 ^ width : ℕ) : ℤ) = 2 ^ (8 * width) := by
      rw [pow_mul, show (2 : ℤ) ^ 8 = 256 from rfl]
      exact_mod_cast rfl
    omega
  cases s with
  | four_bytes => exact ⟨fun _ => trivial, fun _ => hcut 4 d⟩
  | eight_bytes => exact ⟨fun _ => trivial, fun _ => hcut 8 d⟩
  | object_identifier => exact exists_struct_pack
  | octet_string => exact OctetString.exists_to_bytes
  | empty => exact ⟨fun _ => trivial, fun _ => ⟨[], rfl⟩⟩

theorem ValueType.code_lt (t : ValueType) : t.code < 2 ^ 16 := by
  cases t <;> decide

theorem ValueRepresentation.exists_to_bytes {vr : ValueRepresentation} {e : Order} :
    (∃ bs, vr.to_bytes e = .ok bs) ↔ vr.Writable := by
  rw [show vr.to_bytes e = struct_pack e [(2, vr.type_.code), (2, vr.reserved)] >>= _ from rfl,
    exists_bind_ok]
  constructor
  · rintro ⟨head, hhead, hrest⟩
    obtain ⟨name, hname, hrest⟩ := exists_bind_ok.mp hrest
    obtain ⟨data, hdata, -⟩ := exists_bind_ok.mp hrest
    exact ⟨fits_of_struct_pack hhead (2, vr.reserved) (List.mem_cons_of_mem _ List.mem_cons_self),
      fits_of_struct_pack hname, exists_packData.mp ⟨data, hdata⟩⟩
  · rintro ⟨hreserved, hname, hdata⟩
    obtain ⟨head, hhead⟩ := struct_pack_of_fits e [(2, vr.type_.code), (2, vr.reserved)]
      (List.forall_mem_cons.mpr ⟨vr.type_.code_lt, List.forall_mem_singleton.mpr hreserved⟩)
    obtain ⟨name, hname⟩ := struct_pack_of_fits e _ hname
    obtain ⟨data, hdata⟩ := exists_packData (e := e).mpr hdata
    exact ⟨head, hhead, exists_bind_ok.mpr ⟨name, hname, exists_bind_ok.mpr ⟨data, hdata, _, rfl⟩⟩⟩

theorem exists_concatBytes {α : Type} {to_bytes : α → Except Raised (List UInt8)} {xs : List α} :
    (∃ bs, concatBytes to_bytes xs = .ok bs) ↔ ∀ x ∈ xs, ∃ bs, to_bytes x = .ok bs := by
  induction xs with
  | nil => exact ⟨fun _ _ hx => (by cases hx), fun _ => ⟨[], rfl⟩⟩
  | cons x xs ih =>
    rw [List.forall_mem_cons, ← ih]
    constructor
    · rintro ⟨bs, h⟩
      obtain ⟨first, hfirst, h⟩ := bind_eq_ok.mp h
      obtain ⟨others, hothers, -⟩ := bind_eq_ok.mp h
      exact ⟨⟨first, hfirst⟩, others, hothers⟩
    · rintro ⟨⟨first, hfirst⟩, others, hothers⟩
      exact ⟨first ++ others, bind_eq_ok.mpr ⟨first, hfirst,
        bind_eq_ok.mpr ⟨others, hothers, rfl⟩⟩⟩

end AgentX
