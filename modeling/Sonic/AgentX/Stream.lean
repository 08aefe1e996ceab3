/-
AgentX/Stream.lean

When the replies of the agent do not depend on how its stream is cut.

A PDU passes if it is read by its class as it was written and what is done with it does not raise.
A chunk of whole PDUs, all of which but the last one pass, is received as they are one at a time
(`received_clean`), and there are no other chunks whose PDUs are decoded where they start
(`clean_of_received`); a stream goes chunk by chunk.
-/
import Sonic.AgentX.Protocol
import Sonic.AgentX.Consistency
import Sonic.AgentX.GetNext

open StructPack Outcome

namespace AgentX

/-! ### PDUs that pass -/

/-- A prefix of the table that can be registered. -/
def Registrable (subtree : List ℕ) : Prop :=
  ∃ oid, ObjectIdentifier.from_iterable subtree = .ok oid ∧ oid.Fits

/-- What can be processed without raising: a request for values whose response can be made and
encoded, and a response. -/
def Processed (lut : MIBTable) (st : Agent) (p : PDU) : Prop :=
  match p.body with
  | .GetPDU _ _ | .GetNextPDU _ _ => ∃ r bs, p.make_response lut = .ok r ∧ r.encode = .ok bs
  | .ResponsePDU _ error _ _ =>
    st.session_id ≠ none ∨ error = ResponseErrors.PARSE_ERROR ∨
      error = ResponseErrors.OPEN_FAILED ∨
      (error = ResponseErrors.NO_AGENT_X_ERROR ∧
        (lut.prefixes = [] ∨ p.header.flag__non_default_context = false) ∧
        lut.prefixes.length ≤ 2 ^ 8 ∧ ∀ subtree ∈ lut.prefixes, Registrable subtree)
  | _ => False

/-- The bytes of a well-formed PDU that is processed, and is not a request behind a context. -/
def Passes (lut : MIBTable) (st : Agent) (b : List UInt8) : Prop :=
  ∃ p : PDU, p.Sized ∧ p.body.Readable p.header ∧ ¬ p.body.Overruns ∧ p.encode = .ok b ∧
    Processed lut st p

/-- Every PDU of a chunk but the last one passes. -/
def CleanChunk (lut : MIBTable) : Agent → List (List UInt8) → Prop
  | _, [] => True
  | _, [_] => True
  | st, b :: b' :: pdus => Passes lut st b ∧ CleanChunk lut (alone lut st b) (b' :: pdus)

def Clean (lut : MIBTable) : Agent → List (List (List UInt8)) → Prop
  | _, [] => True
  | st, group :: groups =>
    CleanChunk lut st group ∧ Clean lut (group.foldl (alone lut) st) groups

section Processing

variable {lut : MIBTable} {st : Agent} {p : PDU}

theorem given_of_encode {bs : List UInt8} (h : p.encode = .ok bs) : p.header.Given := by
  obtain ⟨front, -, hfront, -, -⟩ := PDU.of_encode h
  have hfits := PDUHeader.fits_of_to_bytes hfront
  have hmem : ∀ w v, (w, v) ∈ [(1, p.header.version), (1, p.header.type_), (1, p.header.flags),
      (1, p.header.reserved), (4, p.header.session_id), (4, p.header.transaction_id),
      (4, p.header.packet_id), (4, p.header.payload_length)] → v < 256 ^ w :=
    fun w v hv => hfits (w, v) hv
  exact ⟨hmem 1 _ (by simp), hmem 1 _ (by simp), hmem 1 _ (by simp), hmem 4 _ (by simp),
    hmem 4 _ (by simp), hmem 4 _ (by simp), hmem 4 _ (by simp)⟩

theorem counted_of_from_iterable {subtree : List ℕ} {oid : ObjectIdentifier}
    (h : ObjectIdentifier.from_iterable subtree = .ok oid) : oid.Counted := by
  unfold ObjectIdentifier.from_iterable at h
  split at h
  · split at h
    · cases h
    · obtain rfl := Except.ok.inj h
      rfl
  · obtain rfl := Except.ok.inj h
    rfl

/-- When a subtree is registered. -/
theorem exists_registration {header : PDUHeader} (idx : ℕ) (subtree : List ℕ)
    (hgiven : header.Given) : (∃ bs, registration header idx subtree = .ok bs) ↔
      header.flag__non_default_context = false ∧ idx < 2 ^ 8 ∧ Registrable subtree := by
  constructor
  · rintro ⟨bs, h⟩
    obtain ⟨oid, hoid, h⟩ := bind_eq_ok.mp h
    obtain ⟨pdu, hpdu, -⟩ := bind_eq_ok.mp h
    obtain ⟨context, hcontext, hpdu⟩ := bind_eq_ok.mp hpdu
    have hflag : header.flag__non_default_context = false := by
      refine Bool.eq_false_iff.mpr fun hflag => ?_
      rw [buildContext, if_pos hflag] at hcontext
      cases hbig : header.endianness <;> rw [hbig] at hcontext <;> cases hcontext
    obtain ⟨n, hn, -⟩ := map_eq_ok.mp hpdu
    obtain ⟨bytes, hbytes, -⟩ := map_eq_ok.mp hn
    obtain ⟨front, back, -, hback, -⟩ := PDU.of_encode hbytes
    obtain ⟨first, -, hback⟩ := bind_eq_ok.mp hback
    obtain ⟨numbers, hnumbers, hback⟩ := bind_eq_ok.mp hback
    obtain ⟨identifier, hidentifier, -⟩ := bind_eq_ok.mp hback
    exact ⟨hflag, fits_of_struct_pack hnumbers (1, idx) (by simp), oid, hoid,
      fits_of_struct_pack hidentifier⟩
  · rintro ⟨hflag, hidx, oid, hoid, hfits⟩
    have hcontext : ContextReadable header none :=
      ⟨⟨fun hsome => Bool.noConfusion hsome, fun h => Bool.noConfusion (hflag.symm.trans h)⟩,
        fun _ h => absurd h.symm (Option.some_ne_none _)⟩
    have hcount : oid.n_subid < 2 ^ 8 := hfits (1, oid.n_subid) (by simp [ObjectIdentifier.fields])
    have hsize : (Fields.RegisterPDU none DEFAULT_PDU_TIMEOUT idx 0 oid none).size < 2 ^ 32 := by
      show 0 + 4 + (4 + 4 * oid.n_subid) + 0 < 2 ^ 32
      omega
    have hsound : (Fields.RegisterPDU none DEFAULT_PDU_TIMEOUT idx 0 oid none).Sound header :=
      ⟨hflag, (by decide), hidx, (by decide),
        ⟨fun hsome => Bool.noConfusion hsome, fun hne => absurd rfl hne⟩,
        fun _ h => absurd h.symm (Option.some_ne_none _)⟩
    obtain ⟨pdu, bs, hpdu, hbs, -⟩ := (consistent_register_iff hcontext
      (counted_of_from_iterable hoid) hfits).mpr ⟨hgiven, hsize, hsound⟩
    exact ⟨bs, bind_eq_ok.mpr ⟨oid, hoid, bind_eq_ok.mpr ⟨pdu, hpdu, hbs⟩⟩⟩

/-- The loop over the subtrees goes through if each can be registered under its index. -/
theorem registerFrom_iff {header : PDUHeader} (hgiven : header.Given) (idx : ℕ)
    (subtrees : List (List ℕ)) (st : Agent) : (registerFrom header idx subtrees st).2 = true ↔
      (subtrees = [] ∨ header.flag__non_default_context = false) ∧
        (subtrees ≠ [] → idx + subtrees.length ≤ 2 ^ 8) ∧
          ∀ subtree ∈ subtrees, Registrable subtree := by
  induction subtrees generalizing idx st with
  | nil => exact iff_of_true rfl ⟨.inl rfl, fun hne => absurd rfl hne, fun _ h => nomatch h⟩
  | cons subtree subtrees ih =>
    have hreg := exists_registration idx subtree hgiven
    rw [registerFrom]
    cases hok : registration header idx subtree with
    | error e =>
      refine iff_of_false Bool.noConfusion ?_
      rintro ⟨hflag, hidx, hall⟩
      have hlt := hidx (List.cons_ne_nil _ _)
      rw [List.length_cons] at hlt
      obtain ⟨bs, hbs⟩ := hreg.mpr ⟨hflag.resolve_left (List.cons_ne_nil _ _), by omega,
        hall subtree List.mem_cons_self⟩
      rw [hok] at hbs
      cases hbs
    | ok bs =>
      obtain ⟨hflag, hidx, hthis⟩ := hreg.mp ⟨bs, hok⟩
      show (registerFrom header (idx + 1) subtrees (st.write bs)).2 = true ↔ _
      rw [ih, List.forall_mem_cons, List.length_cons]
      constructor
      · rintro ⟨-, hlt, hall⟩
        refine ⟨.inr hflag, fun _ => ?_, hthis, hall⟩
        cases subtrees with
        | nil => exact hidx
        | cons s ss => exact (Nat.succ_add_eq_add_succ idx _) ▸ hlt (List.cons_ne_nil _ _)
      · rintro ⟨-, hlt, -, hall⟩
        refine ⟨.inr hflag, fun _ => ?_, hall⟩
        have hle := hlt (List.cons_ne_nil _ _)
        omega

theorem process_iff (hgiven : p.header.Given) : (process lut st p).2 = true ↔ Processed lut st p := by
  -- the PDUs that are not responses: their response is made and written
  have hmake : (∀ sys_up_time error index values,
      p.body ≠ .ResponsePDU sys_up_time error index values) →
      ((process lut st p).2 = true ↔ ∃ r bs, p.make_response lut = .ok r ∧ r.encode = .ok bs) := by
    intro hresponse
    unfold process
    split
    · next hbody => exact absurd hbody (hresponse _ _ _ _)
    cases hbytes : (p.make_response lut).bind PDU.encode with
    | error e =>
      refine iff_of_false Bool.noConfusion ?_
      rintro ⟨r, bs, hr, hbs⟩
      rw [hr] at hbytes
      cases hbytes.symm.trans hbs
    | ok bs =>
      obtain ⟨r, hr, hbs⟩ := bind_eq_ok.mp hbytes
      exact iff_of_true rfl ⟨r, bs, hr, hbs⟩
  obtain ⟨header, body, trailing_bytes⟩ := p
  cases body with
  | GetPDU context sr => exact hmake fun _ _ _ _ h => Body.noConfusion h
  | GetNextPDU context sr => exact hmake fun _ _ _ _ h => Body.noConfusion h
  | ResponsePDU sys_up_time error index values =>
    show (parse_response lut header error st).2 = true ↔ _ ∨ _ ∨ _ ∨ _
    unfold parse_response
    cases hsession : st.session_id with
    | some n => exact iff_of_true rfl (.inl (Option.some_ne_none n))
    | none =>
      by_cases hparse : error = ResponseErrors.PARSE_ERROR
      · rw [if_pos hparse]
        exact iff_of_true rfl (.inr (.inl hparse))
      by_cases hopen : error = ResponseErrors.OPEN_FAILED
      · rw [if_neg hparse, if_pos hopen]
        exact iff_of_true rfl (.inr (.inr (.inl hopen)))
      by_cases hnone : error = ResponseErrors.NO_AGENT_X_ERROR
      · rw [if_neg hparse, if_neg hopen, if_pos hnone]
        rw [register_subtrees, registerFrom_iff hgiven, Nat.zero_add]
        constructor
        · rintro ⟨hflag, hlength, hall⟩
          refine .inr (.inr (.inr ⟨hnone, hflag, ?_, hall⟩))
          by_cases hnil : lut.prefixes = []
          · rw [hnil]
            exact Nat.zero_le _
          · exact hlength hnil
        · rintro (h | h | h | ⟨-, hflag, hlength, hall⟩)
          · exact absurd rfl h
          · exact absurd h hparse
          · exact absurd h hopen
          · exact ⟨hflag, fun _ => hlength, hall⟩
      · rw [if_neg hparse, if_neg hopen, if_neg hnone]
        refine iff_of_false Bool.noConfusion ?_
        rintro (h | h | h | h)
        · exact h rfl
        · exact hparse h
        · exact hopen h
        · exact hnone h.1
  | _ => exact iff_of_false Bool.noConfusion id

theorem looped_of_process (h : (process lut st p).2 = true) : p.body.Looped := by
  obtain ⟨header, body, trailing_bytes⟩ := p
  cases body with
  | GetPDU => exact trivial
  | GetNextPDU => exact trivial
  | ResponsePDU => exact trivial
  | _ => cases h

theorem looped_of_processed (h : Processed lut st p) : p.body.Looped := by
  obtain ⟨header, body, trailing_bytes⟩ := p
  cases body <;> first | exact trivial | exact h.elim

end Processing

/-! ### One call -/

section Calls

variable {lut : MIBTable} {st : Agent} {data : List UInt8}

/-- No more rounds are needed than there are bytes. -/
theorem iterate_fuel (lut : MIBTable) (st : Agent) (data : List UInt8) {m n : ℕ} (hm : data.length ≤ m) (hn : data.length ≤ n) :
    iterate lut m st data = iterate lut n st data := by
  induction m generalizing n st data with
  | zero =>
    obtain rfl := List.length_eq_zero_iff.mp (Nat.le_zero.mp hm)
    cases n with
    | zero => rfl
    | succ n => exact (if_pos rfl).symm
  | succ m ih =>
    by_cases hnil : data = []
    · subst hnil
      cases n with
      | zero => exact if_pos rfl
      | succ n => exact (if_pos rfl).trans (if_pos rfl).symm
    cases n with
    | zero => exact absurd (List.length_eq_zero_iff.mp (Nat.le_zero.mp hn)) hnil
    | succ n =>
      rw [iterate, iterate, if_neg hnil, if_neg hnil]
      cases hdecode : PDU.decode data with
      | error e => rfl
      | ok pdu =>
        have hshort := PDU.length_trailing hdecode
        rw [AGENTX_HEADER_LENGTH] at hshort
        cases hprocess : process lut st pdu with
        | mk st' done =>
          cases done with
          | false => simp only [hprocess]
          | true =>
            have htail : iterate lut m st' pdu.trailing_bytes =
              iterate lut n st' pdu.trailing_bytes := ih st' _ (by omega) (by omega)
            simp only [hprocess, htail]

theorem received_nil : data_received lut st [] = (st, []) := rfl

theorem received_error {e : Raised} (hdata : data ≠ []) (hdecode : PDU.decode data = .error e) :
    data_received lut st data = (st, [data.length]) := by
  obtain ⟨n, hn⟩ := Nat.exists_eq_succ_of_ne_zero fun h => hdata (List.length_eq_zero_iff.mp h)
  rw [data_received, hn, iterate, if_neg hdata, hdecode, hn]

theorem received_raised {pdu : PDU} (hdata : data ≠ []) (hdecode : PDU.decode data = .ok pdu)
    (hraised : (process lut st pdu).2 = false) :
    data_received lut st data = ((process lut st pdu).1, [data.length]) := by
  obtain ⟨n, hn⟩ := Nat.exists_eq_succ_of_ne_zero fun h => hdata (List.length_eq_zero_iff.mp h)
  rw [data_received, hn, iterate, if_neg hdata, hdecode, hn]
  cases hprocess : process lut st pdu with
  | mk st' done =>
    rw [hprocess] at hraised
    obtain rfl : done = false := hraised
    simp only [hprocess]

/-- After a PDU that is processed, the iteration goes on with what it left over. -/
theorem received_processed {pdu : PDU} (hdata : data ≠ []) (hdecode : PDU.decode data = .ok pdu)
    (hdone : (process lut st pdu).2 = true) :
    data_received lut st data =
      ((data_received lut (process lut st pdu).1 pdu.trailing_bytes).1,
        data.length :: (data_received lut (process lut st pdu).1 pdu.trailing_bytes).2) := by
  obtain ⟨n, hn⟩ := Nat.exists_eq_succ_of_ne_zero fun h => hdata (List.length_eq_zero_iff.mp h)
  have hshort := PDU.length_trailing hdecode
  rw [AGENTX_HEADER_LENGTH] at hshort
  have hfuel : iterate lut n (process lut st pdu).1 pdu.trailing_bytes =
      iterate lut pdu.trailing_bytes.length (process lut st pdu).1 pdu.trailing_bytes :=
    iterate_fuel lut _ _ (by omega) (le_refl _)
  rw [data_received, hn, iterate, if_neg hdata, hdecode, hn, data_received, ← hfuel]
  cases hprocess : process lut st pdu with
  | mk st' done =>
    rw [hprocess] at hdone
    obtain rfl : done = true := hdone
    simp only [hprocess]

/-- The first PDU of a call is decoded from all of its bytes. -/
theorem received_head (lut : MIBTable) (st : Agent) (hdata : data ≠ []) :
    ∃ lengths, (data_received lut st data).2 = data.length :: lengths := by
  cases hdecode : PDU.decode data with
  | error e => exact ⟨[], by rw [received_error hdata hdecode]⟩
  | ok pdu =>
    cases hdone : (process lut st pdu).2 with
    | false => exact ⟨[], by rw [received_raised hdata hdecode hdone]⟩
    | true => exact ⟨_, by rw [received_processed hdata hdecode hdone]⟩

/-- The iteration over any bytes comes to its end. -/
theorem follows_terminates (data : List UInt8) : Acc Follows data := by
  induction hn : data.length using Nat.strong_induction_on generalizing data with
  | _ n ih =>
    refine Acc.intro data ?_
    rintro rest ⟨pdu, hdecode, rfl⟩
    have hshort := PDU.length_trailing hdecode
    rw [AGENTX_HEADER_LENGTH] at hshort
    exact ih _ (by omega) _ rfl

end Calls

/-! ### Framed PDUs -/

section Frames

variable {lut : MIBTable} {st : Agent} {b : List UInt8} {p : PDU}

theorem ne_nil_of_framed (h : Framed b) : b ≠ [] := by
  obtain ⟨header, -, hlen⟩ := h
  intro hnil
  rw [hnil, List.length_nil, AGENTX_HEADER_LENGTH] at hlen
  omega

/-- A framed PDU that is processed leaves nothing over, and is a sized one. -/
theorem sized_of_framed (h : Framed b) (hp : p.encode = .ok b) (hr : p.body.Readable p.header)
    (htype : p.body.header_type_ = p.header.type_) : p.Sized := by
  obtain ⟨header, hheader, hlen⟩ := h
  obtain ⟨front, back, hfront, hback, rfl⟩ := PDU.of_encode hp
  rw [PDUHeader.from_to_bytes hfront] at hheader
  obtain rfl := Except.ok.inj hheader
  refine ⟨htype.symm, ?_⟩
  rw [List.length_append, PDUHeader.length_to_bytes hfront, Body.length_bytes hr hback] at hlen
  omega

theorem counted_le_size (body : Body) : body.counted ≤ body.size := by
  cases body with
  | GetPDU context sr => exact Nat.le_add_left ..
  | GetNextPDU context sr => exact Nat.le_add_left ..
  | _ => exact le_refl _

theorem counted_lt_size {body : Body} (h : body.Overruns) : body.counted < body.size := by
  have hcontext : ∀ context : Option OctetString, context ≠ none → 0 < contextSize context := by
    intro context hne
    cases context with
    | none => exact absurd rfl hne
    | some c =>
      show 0 < 4 + c.length + pad4 c.length
      omega
  cases body with
  | GetPDU context sr => exact Nat.lt_add_of_pos_left (hcontext context h)
  | GetNextPDU context sr => exact Nat.lt_add_of_pos_left (hcontext context h)
  | _ => exact h.elim

theorem trailing_of_framed (h : Framed b) (hp : PDU.decode b = .ok p) (hlooped : p.body.Looped) :
    p.trailing_bytes = [] := by
  by_contra hrest
  obtain ⟨htype, hr, hwritten⟩ := PDU.of_decode hp
  obtain ⟨front, hfront, hb⟩ := hwritten (PDU.plain_of_looped hlooped)
  obtain ⟨header, hheader, hlen⟩ := h
  obtain ⟨first, back, hfirst, hback, rfl⟩ := PDU.of_encode hfront
  rw [hb, List.append_assoc, PDUHeader.from_to_bytes hfirst] at hheader
  obtain rfl := Except.ok.inj hheader
  rw [hb, List.length_append, List.length_append, PDUHeader.length_to_bytes hfirst,
    Body.length_bytes hr hback] at hlen
  have hstop := PDU.stop_of_decode hp hlooped hrest
  have hle := counted_le_size p.body
  have hpos := List.length_pos_iff.mpr hrest
  omega

end Frames

/-! ### One chunk -/

section Chunks

variable {lut : MIBTable} {st : Agent} {b : List UInt8}

/-- A passing PDU is decoded from its bytes whatever follows, and then it is done with it. -/
theorem received_passing (h : Passes lut st b) (hb : Framed b) (rest : List UInt8) :
    data_received lut st (b ++ rest) =
      ((data_received lut (alone lut st b) rest).1,
        (b ++ rest).length :: (data_received lut (alone lut st b) rest).2) := by
  obtain ⟨p, hsized, hr, hover, hencode, hprocessed⟩ := h
  have hplain := PDU.plain_of_looped (looped_of_processed hprocessed)
  have hne : b ++ rest ≠ [] := fun hnil => ne_nil_of_framed hb (List.append_eq_nil_iff.mp hnil).1
  have hdecode := PDU.decode_encode rest hsized hplain hr hencode (.inr hover)
  have hown := PDU.decode_encode [] hsized hplain hr hencode (.inl rfl)
  rw [List.append_nil] at hown
  have hdone : (process lut st p).2 = true := (process_iff (given_of_encode hencode)).mpr hprocessed
  have halone : alone lut st b = (process lut st p).1 := by
    rw [alone, hown]
    rfl
  rw [received_processed hne hdecode hdone, halone]
  rfl

/-- A framed PDU on its own. -/
theorem received_alone (hb : Framed b) :
    data_received lut st b = (alone lut st b, [b.length]) := by
  have hne := ne_nil_of_framed hb
  cases hdecode : PDU.decode b with
  | error e => rw [received_error hne hdecode, alone, hdecode]
  | ok p =>
    have halone : alone lut st b = (process lut st p).1 := by rw [alone, hdecode]
    cases hdone : (process lut st p).2 with
    | false => rw [received_raised hne hdecode hdone, halone]
    | true =>
      obtain ⟨htype, hr, hwritten⟩ := PDU.of_decode hdecode
      have hrest := trailing_of_framed hb hdecode (looped_of_process hdone)
      rw [received_processed hne hdecode hdone, hrest, received_nil, halone]

/-- A clean chunk is received as its PDUs one at a time. -/
theorem received_clean {group : List (List UInt8)} (hframed : ∀ b ∈ group, Framed b)
    (hclean : CleanChunk lut st group) (offset : ℕ) :
    (data_received lut st group.flatten).1 = group.foldl (alone lut) st ∧
      (data_received lut st group.flatten).2.map (offset + group.flatten.length - ·) =
        startsFrom offset group := by
  induction group generalizing st offset with
  | nil => exact ⟨rfl, rfl⟩
  | cons b group ih =>
    obtain ⟨hb, hframed⟩ := List.forall_mem_cons.mp hframed
    cases group with
    | nil =>
      rw [List.flatten_cons, List.flatten_nil, List.append_nil, received_alone hb]
      refine ⟨rfl, ?_⟩
      show [offset + b.length - b.length] = [offset]
      rw [Nat.add_sub_cancel]
    | cons b' group =>
      obtain ⟨hpasses, hrest⟩ := hclean
      obtain ⟨hstate, hstarts⟩ := ih hframed hrest (offset + b.length)
      rw [List.flatten_cons, received_passing hpasses hb]
      refine ⟨hstate, ?_⟩
      rw [startsFrom, List.map_cons, Nat.add_sub_cancel, List.length_append, ← Nat.add_assoc,
        hstarts]

/-- What is received before a PDU that is decoded where it starts passes. -/
theorem passes_of_received {data rest : List UInt8} {pdus : List (List UInt8)} {p : PDU}
    (hb : Framed b) (hstream : data ++ rest = b ++ pdus.flatten)
    (hdecode : PDU.decode data = .ok p) (hdone : (process lut st p).2 = true)
    (htrailing : p.trailing_bytes ≠ [])
    (hlen : data.length = b.length + p.trailing_bytes.length) :
    Passes lut st b ∧ (process lut st p).1 = alone lut st b ∧ data = b ++ p.trailing_bytes := by
  obtain ⟨htype, hr, hwritten⟩ := PDU.of_decode hdecode
  have hlooped := looped_of_process hdone
  obtain ⟨front, hfront, hdata⟩ := hwritten (PDU.plain_of_looped hlooped)
  have hfrontlen : front.length = b.length := by
    have hlength := congrArg List.length hdata
    rw [List.length_append] at hlength
    omega
  obtain rfl : front = b := by
    rw [hdata, List.append_assoc] at hstream
    exact (List.append_inj hstream hfrontlen).1
  have hsized := sized_of_framed hb hfront hr htype
  have hover : ¬ p.body.Overruns := by
    intro hover
    have hstop := PDU.stop_of_decode hdecode hlooped htrailing
    have hlt := counted_lt_size hover
    rw [hsized.2] at hstop
    omega
  have hprocessed := (process_iff (given_of_encode hfront)).mp hdone
  have hown := PDU.decode_encode [] hsized (PDU.plain_of_looped hlooped) hr hfront (.inl rfl)
  rw [List.append_nil] at hown
  refine ⟨⟨p, hsized, hr, hover, hfront, hprocessed⟩, ?_, hdata⟩
  rw [alone, hown]
  rfl

/-- The offsets that come after a chunk: none if there are no more bytes, and else its end
first. -/
def After (offset : ℕ) (rest : List UInt8) (starts : List ℕ) : Prop :=
  (rest = [] ∧ starts = []) ∨ ∃ later, starts = offset :: later

/-- If the last PDU of a chunk is decoded where it starts, it ends with the chunk. -/
theorem last_of_received {offset : ℕ} {data rest : List UInt8} {pdus : List (List UInt8)}
    {starts : List ℕ} (hstream : data ++ rest = b ++ pdus.flatten)
    (hafter : After (offset + data.length) rest starts)
    (hstarts : offset :: starts = startsFrom offset (b :: pdus)) :
    data = b ∧ starts = startsFrom (offset + data.length) pdus := by
  obtain ⟨-, hlater⟩ := List.cons.inj hstarts
  have hlen : data.length = b.length := by
    rcases hafter with ⟨rfl, rfl⟩ | ⟨later, rfl⟩
    · cases pdus with
      | nil =>
        have hlength := congrArg List.length hstream
        simpa only [List.append_nil, List.flatten_nil] using hlength
      | cons c pdus => cases hlater
    · cases pdus with
      | nil => cases hlater
      | cons c pdus =>
        obtain ⟨hfirst, -⟩ := List.cons.inj hlater
        omega
  refine ⟨(List.append_inj hstream hlen).1, ?_⟩
  rw [hlen]
  exact hlater

/-- A chunk whose PDUs are decoded where they start is a clean group of them. -/
theorem clean_of_received {offset : ℕ} {data rest : List UInt8} {pdus : List (List UInt8)}
    {starts : List ℕ} (hdata : data ≠ []) (hframed : ∀ b ∈ pdus, Framed b)
    (hstream : data ++ rest = pdus.flatten) (hafter : After (offset + data.length) rest starts)
    (hstarts : (data_received lut st data).2.map (offset + data.length - ·) ++ starts =
      startsFrom offset pdus) :
    ∃ group pdus', pdus = group ++ pdus' ∧ data = group.flatten ∧ CleanChunk lut st group ∧
      starts = startsFrom (offset + data.length) pdus' := by
  induction hn : data.length using Nat.strong_induction_on generalizing data st offset pdus with
  | _ n ih =>
    subst hn
    cases pdus with
    | nil => exact absurd (List.append_eq_nil_iff.mp hstream).1 hdata
    | cons b pdus =>
      obtain ⟨hb, hframed⟩ := List.forall_mem_cons.mp hframed
      rw [List.flatten_cons] at hstream
      -- the chunk is one PDU, if the iteration ends with the first one
      have hone : (data_received lut st data).2 = [data.length] →
          ∃ group pdus', b :: pdus = group ++ pdus' ∧ data = group.flatten ∧
            CleanChunk lut st group ∧ starts = startsFrom (offset + data.length) pdus' := by
        intro hlengths
        rw [hlengths, List.map_singleton, Nat.add_sub_cancel, List.singleton_append] at hstarts
        obtain ⟨hdata, hlater⟩ := last_of_received hstream hafter hstarts
        exact ⟨[b], pdus, rfl, by rw [hdata]; exact (List.append_nil b).symm, trivial, hlater⟩
      cases hdecode : PDU.decode data with
      | error e => exact hone (by rw [received_error hdata hdecode])
      | ok p =>
        cases hdone : (process lut st p).2 with
        | false => exact hone (by rw [received_raised hdata hdecode hdone])
        | true =>
          have hreceived := received_processed hdata hdecode hdone
          by_cases htrailing : p.trailing_bytes = []
          · exact hone (by rw [hreceived, htrailing, received_nil])
          -- the next PDU is decoded from what is left over
          obtain ⟨lengths, hhead⟩ := received_head lut (process lut st p).1 htrailing
          have hshort := PDU.length_trailing hdecode
          rw [AGENTX_HEADER_LENGTH] at hshort
          rw [hreceived, List.map_cons, Nat.add_sub_cancel, List.cons_append] at hstarts
          obtain ⟨-, hnext⟩ := List.cons.inj hstarts
          have hlen : data.length = b.length + p.trailing_bytes.length := by
            rw [hhead, List.map_cons, List.cons_append] at hnext
            cases pdus with
            | nil => cases hnext
            | cons c pdus =>
              obtain ⟨hfirst, -⟩ := List.cons.inj hnext
              omega
          obtain ⟨hpasses, hstate, hsplit⟩ :=
            passes_of_received hb hstream hdecode hdone htrailing hlen
          have hrest : p.trailing_bytes ++ rest = pdus.flatten := by
            rw [hsplit, List.append_assoc] at hstream
            exact List.append_cancel_left hstream
          have hend : offset + data.length =
              offset + b.length + p.trailing_bytes.length := by omega
          rw [hend] at hafter hnext
          rw [hstate] at hnext
          obtain ⟨group, pdus', rfl, hgroup, hclean, hlater⟩ :=
            ih p.trailing_bytes.length (by omega) htrailing hframed hrest hafter hnext rfl
          refine ⟨b :: group, pdus', rfl, ?_, ?_, ?_⟩
          · rw [List.flatten_cons, ← hgroup]
            exact hsplit
          · cases group with
            | nil => exact absurd hgroup htrailing
            | cons c group => exact ⟨hpasses, hclean⟩
          · rw [hend]
            exact hlater

end Chunks

/-! ### The stream -/

section Stream

variable {lut : MIBTable}

theorem receive_cons (offset : ℕ) (st : Agent) (data : List UInt8) (chunks : List (List UInt8)) :
    receive lut offset st (data :: chunks) =
      ((receive lut (offset + data.length) (data_received lut st data).1 chunks).1,
        (data_received lut st data).2.map (offset + data.length - ·) ++
          (receive lut (offset + data.length) (data_received lut st data).1 chunks).2) :=
  rfl

/-- The offsets of a stream of chunks start with its own, if it has bytes. -/
theorem after_receive (lut : MIBTable) (offset : ℕ) (st : Agent) (chunks : List (List UInt8)) :
    After offset chunks.flatten (receive lut offset st chunks).2 := by
  induction chunks generalizing offset st with
  | nil => exact .inl ⟨rfl, rfl⟩
  | cons data chunks ih =>
    by_cases hdata : data = []
    · subst hdata
      exact ih offset st
    · obtain ⟨lengths, hhead⟩ := received_head lut st hdata
      rw [receive_cons, hhead, List.map_cons, Nat.add_sub_cancel, List.cons_append]
      exact .inr ⟨_, rfl⟩

theorem startsFrom_append (offset : ℕ) (group pdus : List (List UInt8)) :
    startsFrom offset (group ++ pdus) =
      startsFrom offset group ++ startsFrom (offset + group.flatten.length) pdus := by
  induction group generalizing offset with
  | nil => rfl
  | cons b group ih =>
    rw [List.cons_append, startsFrom, startsFrom, ih, List.cons_append, List.flatten_cons,
      List.length_append, Nat.add_assoc]

/-- Clean groups are received as their PDUs one at a time. -/
theorem receive_clean {groups : List (List (List UInt8))} {st : Agent} (offset : ℕ)
    (hframed : ∀ b ∈ groups.flatten, Framed b) (hclean : Clean lut st groups) :
    receive lut offset st (groups.map List.flatten) =
      (groups.flatten.foldl (alone lut) st, startsFrom offset groups.flatten) := by
  induction groups generalizing st offset with
  | nil => rfl
  | cons group groups ih =>
    obtain ⟨hchunk, hrest⟩ := hclean
    rw [List.flatten_cons] at hframed ⊢
    have hgroup : ∀ b ∈ group, Framed b := fun b hb => hframed b (List.mem_append_left _ hb)
    obtain ⟨hstate, hstarts⟩ := received_clean hgroup hchunk offset
    have htail := ih (offset + group.flatten.length)
      (fun b hb => hframed b (List.mem_append_right _ hb)) hrest
    rw [List.map_cons, receive_cons, hstate, hstarts, htail, List.foldl_append, startsFrom_append]

/-- A stream whose PDUs are decoded where they start is cut into clean groups. -/
theorem clean_of_receive {chunks : List (List UInt8)} {pdus : List (List UInt8)} {st : Agent}
    {offset : ℕ} (hframed : ∀ b ∈ pdus, Framed b) (hcut : chunks.flatten = pdus.flatten)
    (hstarts : (receive lut offset st chunks).2 = startsFrom offset pdus) :
    ∃ groups, groups.flatten = pdus ∧ chunks = groups.map List.flatten ∧ Clean lut st groups := by
  induction chunks generalizing pdus st offset with
  | nil =>
    cases pdus with
    | nil => exact ⟨[], rfl, rfl, trivial⟩
    | cons b pdus => cases hstarts
  | cons data chunks ih =>
    by_cases hdata : data = []
    · subst hdata
      obtain ⟨groups, hgroups, hchunks, hclean⟩ := ih hframed hcut hstarts
      exact ⟨[] :: groups, hgroups, congrArg _ hchunks, trivial, hclean⟩
    · have hafter := after_receive lut (offset + data.length)
        (data_received lut st data).1 chunks
      obtain ⟨group, pdus', rfl, rfl, hchunk, hlater⟩ :=
        clean_of_received hdata hframed hcut hafter hstarts
      have hgroup : ∀ b ∈ group, Framed b := fun b hb => hframed b (List.mem_append_left _ hb)
      rw [List.flatten_cons, List.flatten_append] at hcut
      have hstate := (received_clean hgroup hchunk offset).1
      rw [hstate] at hlater
      obtain ⟨groups, rfl, rfl, hclean⟩ := ih
        (fun b hb => hframed b (List.mem_append_right _ hb)) (List.append_cancel_left hcut) hlater
      exact ⟨group :: groups, rfl, rfl, hchunk, hclean⟩

/-- The replies do not depend on how the stream is cut if and only if it is cut at its PDUs, and
every PDU of a chunk but the last one is a request for values without a context or a response, and
can be processed. -/
theorem replies_independent_of_cuts (lut : MIBTable) (st : Agent) (pdus chunks : List (List UInt8))
    (hframed : ∀ b ∈ pdus, Framed b) (hcut : chunks.flatten = pdus.flatten) :
    (Transparent lut st pdus chunks ↔
      ∃ groups, groups.flatten = pdus ∧ chunks = groups.map List.flatten ∧ Clean lut st groups) ∧
    ∀ data, Acc Follows data := by
  refine ⟨⟨fun h => ?_, ?_⟩, follows_terminates⟩
  · exact clean_of_receive hframed hcut (congrArg Prod.snd h)
  · rintro ⟨groups, rfl, rfl, hclean⟩
    exact receive_clean 0 hframed hclean

/-- The bytes of a PDU of a type without a payload. -/
def bare (type_ : UInt8) : List UInt8 :=
  [1, type_, 16, 0, 0, 0, 0, 1, 0, 0, 0, 2, 0, 0, 0, 3, 0, 0, 0, 0]

theorem framed_get : Framed (bare 5) := ⟨⟨1, 5, 16, 0, 1, 2, 3, 0⟩, rfl, rfl⟩

theorem framed_ping : Framed (bare 13) := ⟨⟨1, 13, 16, 0, 1, 2, 3, 0⟩, rfl, rfl⟩

/-- A request for no values and a ping, in one chunk. -/
theorem replies_independent_of_cuts_get :
    Transparent scalars ⟨some 1, []⟩ [bare 5, bare 13] [bare 5 ++ bare 13] := by
  have hframed : ∀ b ∈ [bare 5, bare 13], Framed b :=
    List.forall_mem_cons.mpr ⟨framed_get, List.forall_mem_singleton.mpr framed_ping⟩
  have hpasses : Passes scalars ⟨some 1, []⟩ (bare 5) := by
    refine ⟨⟨⟨1, 5, 16, 0, 1, 2, 3, 0⟩, .GetPDU none [], []⟩, ⟨rfl, rfl⟩, ?_, fun h => h rfl, rfl,
      ?_⟩
    · exact ⟨⟨by decide, fun _ h => nomatch h⟩, fun _ h => nomatch h⟩
    · exact ⟨_, _, rfl, rfl⟩
  exact (replies_independent_of_cuts scalars ⟨some 1, []⟩ _ [bare 5 ++ bare 13] hframed
    (by decide)).1.mpr ⟨[[bare 5, bare 13]], rfl, by decide, ⟨hpasses, trivial⟩, trivial⟩

/-- The request behind a ping is lost. -/
theorem not_replies_independent_of_cuts :
    (∀ b ∈ [bare 13, bare 5], Framed b) ∧
      ¬ Transparent scalars ⟨some 1, []⟩ [bare 13, bare 5] [bare 13 ++ bare 5] := by
  refine ⟨?_, fun h => ?_⟩
  · exact List.forall_mem_cons.mpr ⟨framed_ping, List.forall_mem_singleton.mpr framed_get⟩
  · have hstarts : (receive scalars 0 ⟨some 1, []⟩ [bare 13 ++ bare 5]).2 = [0] := rfl
    have hexpected : (receive scalars 0 ⟨some 1, []⟩ [bare 13 ++ bare 5]).2 = [0, 20] :=
      congrArg Prod.snd h
    exact absurd (hstarts.symm.trans hexpected) (by decide)

end Stream

end AgentX
