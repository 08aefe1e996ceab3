/-
AgentX/Consistency.lean

When a PDU that is built from fields is consistent, and that requests come back as they came.

`Consistent` is about the PDUs that the constructors make: the header has the number of the bytes
after it, and the PDU is decoded from its bytes whatever follows.  The search ranges of a request
for values are measured with the header, and the context of a PDU that is built is read from a
payload that is not there.
-/
import Sonic.AgentX.PduRoundTrip

open StructPack Outcome

namespace AgentX

/-! ### Consistent PDUs -/

/-- What is built from fields is encoded with its length, and decoded with what follows left
over. -/
def Consistent (header : PDUHeader) (f : Fields) : Prop :=
  ∃ p bs, build header f = .ok p ∧ p.encode = .ok bs ∧
    bs.length = AGENTX_HEADER_LENGTH + p.header.payload_length ∧
    ∀ rest, PDU.decode (bs ++ rest) = .ok { p with trailing_bytes := rest }

/-- A built PDU with its length. -/
def sizedPDU (header : PDUHeader) (body : Body) : PDU :=
  ⟨{ header with type_ := body.header_type_, payload_length := body.size }, body, []⟩

/-- The fields of a header that is given to a constructor, which sets its type. -/
def PDUHeader.Given (h : PDUHeader) : Prop :=
  h.version < 2 ^ 8 ∧ h.flags < 2 ^ 8 ∧ h.reserved < 2 ^ 8 ∧ h.session_id < 2 ^ 32 ∧
    h.transaction_id < 2 ^ 32 ∧ h.packet_id < 2 ^ 32 ∧ h.payload_length < 2 ^ 32

instance (h : PDUHeader) : Decidable h.Given := inferInstanceAs (Decidable (_ ∧ _))

section Sized

variable {header : PDUHeader} {body : Body} {p : PDU}

theorem Body.header_type_lt (body : Body) : body.header_type_ < 2 ^ 8 := by
  cases body <;> norm_num [Body.header_type_]

/-- The header can be packed with the type of a class and any length that fits. -/
theorem PDUHeader.fits_iff (header : PDUHeader) (body : Body) (n : ℕ) :
    ({ header with type_ := body.header_type_, payload_length := n } : PDUHeader).Fits ↔
      header.version < 2 ^ 8 ∧ header.flags < 2 ^ 8 ∧ header.reserved < 2 ^ 8 ∧
        header.session_id < 2 ^ 32 ∧ header.transaction_id < 2 ^ 32 ∧ header.packet_id < 2 ^ 32 ∧
        n < 2 ^ 32 := by
  have htype := body.header_type_lt
  constructor
  · intro h
    have hmem : ∀ w v, (w, v) ∈ [(1, header.version), (1, body.header_type_), (1, header.flags),
        (1, header.reserved), (4, header.session_id), (4, header.transaction_id),
        (4, header.packet_id), (4, n)] → v < 256 ^ w := fun w v hv => h (w, v) hv
    exact ⟨hmem 1 _ (by simp), hmem 1 _ (by simp), hmem 1 _ (by simp), hmem 4 _ (by simp),
      hmem 4 _ (by simp), hmem 4 _ (by simp), hmem 4 _ (by simp)⟩
  · rintro ⟨h1, h2, h3, h4, h5, h6, h7⟩ f hf
    have hcases : f ∈ [(1, header.version), (1, body.header_type_), (1, header.flags),
        (1, header.reserved), (4, header.session_id), (4, header.transaction_id),
        (4, header.packet_id), (4, n)] := hf
    simp only [List.mem_cons, List.not_mem_nil, or_false] at hcases
    rcases hcases with rfl | rfl | rfl | rfl | rfl | rfl | rfl | rfl <;> assumption

/-- What a constructor makes of a body that can be written. -/
theorem sized_eq_ok (hr : body.Readable header) : sized header body = .ok p ↔
    header.Given ∧ (∃ bs, body.bytes header.endianness = .ok bs) ∧ p = sizedPDU header body := by
  constructor
  · intro h
    obtain ⟨n, hn, rfl⟩ := map_eq_ok.mp h
    obtain ⟨bs, hbs, rfl⟩ := map_eq_ok.mp hn
    obtain ⟨front, back, hfront, hback, rfl⟩ := PDU.of_encode hbs
    have htwenty := PDUHeader.length_to_bytes hfront
    refine ⟨(PDUHeader.fits_iff ..).mp (PDUHeader.fits_of_to_bytes hfront), ⟨back, hback⟩, ?_⟩
    have hlen : (front ++ back).length - AGENTX_HEADER_LENGTH = body.size := by
      rw [List.length_append, htwenty, ← Body.length_bytes hr hback]
      omega
    rw [hlen]
    rfl
  · rintro ⟨hgiven, ⟨back, hback⟩, rfl⟩
    obtain ⟨front, hfront⟩ := PDUHeader.exists_to_bytes
      ((PDUHeader.fits_iff header body header.payload_length).mpr hgiven)
    have htwenty := PDUHeader.length_to_bytes hfront
    have hbs := PDU.encode_eq_ok
      (p := ⟨{ header with type_ := body.header_type_ }, body, []⟩) hfront hback
    have hlen : (front ++ back).length - AGENTX_HEADER_LENGTH = body.size := by
      rw [List.length_append, htwenty, ← Body.length_bytes hr hback]
      omega
    refine map_eq_ok.mpr ⟨_, map_eq_ok.mpr ⟨_, hbs, rfl⟩, ?_⟩
    rw [hlen]
    rfl

/-- Only the flags of the header matter for what can be read. -/
theorem Body.readable_congr {h h' : PDUHeader} (hflags : h.flags = h'.flags) :
    body.Readable h ↔ body.Readable h' := by
  have hcontext : ∀ context, ContextReadable h context ↔ ContextReadable h' context := by
    intro context
    rw [ContextReadable, ContextReadable, PDUHeader.flag__non_default_context,
      PDUHeader.flag__non_default_context, hflags]
  cases body with
  | RegisterPDU context => exact and_congr_left' (hcontext context)
  | GetPDU context => exact and_congr_left' (hcontext context)
  | GetNextPDU context => exact and_congr_left' (hcontext context)
  | TestSetPDU context => exact hcontext context
  | PingPDU context => exact hcontext context
  | _ => exact Iff.rfl

/-- A sized PDU is consistent if and only if its body can be written and read, and its numbers
fit. -/
theorem consistent_sized_iff (header : PDUHeader) (body : Body) (hplain : body.Plain) (hover : ¬ body.Overruns) :
    (∃ p bs, sized header body = .ok p ∧ p.encode = .ok bs ∧
      bs.length = AGENTX_HEADER_LENGTH + p.header.payload_length ∧
      ∀ rest, PDU.decode (bs ++ rest) = .ok { p with trailing_bytes := rest }) ↔
    header.Given ∧ body.size < 2 ^ 32 ∧ body.Readable header ∧
      ∃ bs, body.bytes header.endianness = .ok bs := by
  constructor
  · rintro ⟨p, bs, hp, hbs, -, hdecode⟩
    have hr : body.Readable header := by
      obtain ⟨n, -, rfl⟩ := map_eq_ok.mp hp
      exact (Body.readable_congr rfl).mp (PDU.of_decode (hdecode [])).2.1
    obtain ⟨hgiven, hwrite, rfl⟩ := (sized_eq_ok hr).mp hp
    obtain ⟨front, -, hfront, -, -⟩ := PDU.of_encode hbs
    have hfits := (PDUHeader.fits_iff ..).mp (PDUHeader.fits_of_to_bytes hfront)
    exact ⟨hgiven, hfits.2.2.2.2.2.2, hr, hwrite⟩
  · rintro ⟨hgiven, hsize, hr, back, hback⟩
    obtain ⟨front, hfront⟩ := PDUHeader.exists_to_bytes
      ((PDUHeader.fits_iff header body body.size).mpr
        ⟨hgiven.1, hgiven.2.1, hgiven.2.2.1, hgiven.2.2.2.1, hgiven.2.2.2.2.1,
          hgiven.2.2.2.2.2.1, hsize⟩)
    have hbs : (sizedPDU header body).encode = .ok (front ++ back) :=
      PDU.encode_eq_ok hfront hback
    refine ⟨sizedPDU header body, front ++ back, (sized_eq_ok hr).mpr ⟨hgiven, ⟨back, hback⟩, rfl⟩,
      hbs, ?_, fun rest => ?_⟩
    · rw [List.length_append, PDUHeader.length_to_bytes hfront, Body.length_bytes hr hback]
      rfl
    · exact PDU.decode_encode rest ⟨rfl, rfl⟩ hplain ((Body.readable_congr rfl).mpr hr) hbs (.inr hover)

/-- The search ranges of a request are measured with the header. -/
theorem not_consistent_sizedRequest {bs : List UInt8} (hp : sizedRequest header body = .ok p)
    (hbs : p.encode = .ok bs) : bs.length ≠ AGENTX_HEADER_LENGTH + p.header.payload_length := by
  obtain ⟨first, hfirst, rfl⟩ := map_eq_ok.mp hp
  obtain ⟨front, back, hfront, hback, rfl⟩ := PDU.of_encode hfirst
  obtain ⟨front', back', hfront', hback', rfl⟩ := PDU.of_encode hbs
  obtain rfl := Except.ok.inj (hback.symm.trans hback')
  show _ ≠ AGENTX_HEADER_LENGTH + (front ++ back).length
  rw [List.length_append, List.length_append, PDUHeader.length_to_bytes hfront,
    PDUHeader.length_to_bytes hfront', AGENTX_HEADER_LENGTH]
  omega

end Sized

/-! ### Fields -/

/-- The number of bytes or characters of a string. -/
def PyString.length : PyString → ℕ
  | .str text => text.length
  | .bytes bs => bs.length

/-- A text of `latin-1`. -/
def PyString.Latin1 : PyString → Prop
  | .str text => ∀ c ∈ text, c.toNat < 256
  | .bytes _ => True

/-- The data of a binding with the structure of its type. -/
def ValueRepresentation.DataFormed : (s : Shape) → s.Data → Prop
  | .object_identifier, oid => oid.Counted ∧ oid.Fits
  | .octet_string, os => os.Padded
  | _, _ => True

/-- The fields that a PDU is built from: identifiers with their counts, octet strings with their
paddings, and a context exactly if the header announces one. -/
def Fields.Formed (header : PDUHeader) : Fields → Prop
  | .OpenPDU _ oid _ => oid.Counted ∧ oid.Fits
  | .RegisterPDU context _ _ _ subtree _ =>
    ContextReadable header context ∧ subtree.Counted ∧ subtree.Fits
  | .GetPDU context oids | .GetNextPDU context oids =>
    ContextReadable header context ∧ ∀ oid ∈ oids, oid.Counted ∧ oid.Fits
  | .ResponsePDU _ _ _ values => ∀ vr ∈ values, vr.reserved < 2 ^ 16 ∧
      (vr.name.Counted ∧ vr.name.Fits) ∧
        ValueRepresentation.DataFormed vr.type_.shape vr.data

/-- The number of bytes that fields take after the header. -/
def Fields.size : Fields → ℕ
  | .OpenPDU _ oid descr => 4 + oid.size + (4 + descr.length + pad4 descr.length)
  | .RegisterPDU context _ _ _ subtree upper_bound =>
    contextSize context + 4 + subtree.size + if upper_bound.isSome then 4 else 0
  | .GetPDU context oids | .GetNextPDU context oids =>
    contextSize context + (oids.map fun oid => oid.size + oid.size).sum
  | .ResponsePDU _ _ _ values => 8 + (values.map ValueRepresentation.size).sum

/-- Fields that a constructor makes a consistent PDU of. -/
def Fields.Sound (header : PDUHeader) : Fields → Prop
  | .OpenPDU timeout _ descr => timeout < 2 ^ 8 ∧ descr.Latin1
  | .RegisterPDU _ timeout priority range_subid _ upper_bound =>
    header.flag__non_default_context = false ∧ timeout < 2 ^ 8 ∧ priority < 2 ^ 8 ∧
      range_subid < 2 ^ 8 ∧ (upper_bound.isSome ↔ range_subid ≠ 0) ∧
      ∀ n ∈ upper_bound, n < 2 ^ 32
  | .GetPDU _ _ | .GetNextPDU _ _ => False
  | .ResponsePDU sys_up_time error index values => sys_up_time < 2 ^ 32 ∧ error < 2 ^ 16 ∧
      index < 2 ^ 16 ∧ ∀ vr ∈ values, ValueRepresentation.DataReadable vr.type_.shape vr.data

theorem OctetString.from_text (text : List Char) : from_string (.str text) =
    (encodeLatin1 text).map fun bs => ⟨text.length, bs, pad4bytes bs.length⟩ := rfl

theorem OctetString.all_latin1 {text : List Char} :
    (text.all fun c => c.toNat < 256) ↔ (PyString.str text).Latin1 := by
  rw [List.all_eq_true]
  exact forall₂_congr fun c hc => decide_eq_true_iff

theorem OctetString.of_from_string {string : PyString} {os : OctetString}
    (h : from_string string = .ok os) :
    string.Latin1 ∧ os.Padded ∧ os.length = string.length := by
  cases string with
  | bytes bs =>
    obtain rfl := (Except.ok.inj h).symm
    exact ⟨trivial, ⟨rfl, List.length_replicate ..⟩, rfl⟩
  | str text =>
    rw [from_text] at h
    obtain ⟨bs, hbs, rfl⟩ := map_eq_ok.mp h
    unfold encodeLatin1 at hbs
    split at hbs
    · next hlatin =>
        obtain rfl := (Except.ok.inj hbs).symm
        have hlength : (text.map fun c => UInt8.ofNat c.toNat).length = text.length :=
          List.length_map _
        refine ⟨all_latin1.mp hlatin, ⟨hlength, ?_⟩, rfl⟩
        show (pad4bytes _).length = pad4 text.length
        rw [hlength]
        exact List.length_replicate ..
    · cases hbs

theorem OctetString.exists_from_string {string : PyString} (h : string.Latin1) :
    ∃ os, from_string string = .ok os := by
  cases string with
  | bytes bs => exact ⟨_, rfl⟩
  | str text =>
    have hlatin : encodeLatin1 text = .ok (text.map fun c => UInt8.ofNat c.toNat) :=
      if_pos (all_latin1.mpr h)
    rw [from_text, hlatin]
    exact ⟨_, rfl⟩

/-- Formed data can be written if it is no longer than a length can say. -/
theorem ValueRepresentation.writable_of_formed (s : Shape) (d : s.Data) (hformed : DataFormed s d)
    (hlt : dataSize s d < 2 ^ 32) : DataWritable s d := by
  cases s with
  | four_bytes => exact trivial
  | eight_bytes => exact trivial
  | object_identifier => exact hformed.2
  | octet_string =>
    have hsize : dataSize .octet_string d = 4 + d.length + pad4 d.length := rfl
    show d.length < 2 ^ 32
    omega
  | empty => exact trivial

theorem size_le_of_mem {sys_up_time error index : ℕ} {values : List ValueRepresentation}
    {vr : ValueRepresentation} (h : vr ∈ values) :
    vr.size ≤ (Fields.ResponsePDU sys_up_time error index values).size :=
  (List.le_sum_of_mem (List.mem_map_of_mem h)).trans (Nat.le_add_left _ 8)

section Built

variable {header : PDUHeader}

/-- An `OpenPDU` is consistent if its timeout fits and its description can be encoded. -/
theorem consistent_open_iff {timeout : ℕ} {oid : ObjectIdentifier} {descr : PyString}
    (hcounted : oid.Counted) (hfits : oid.Fits) :
    Consistent header (.OpenPDU timeout oid descr) ↔
      header.Given ∧ (Fields.OpenPDU timeout oid descr).size < 2 ^ 32 ∧ timeout < 2 ^ 8 ∧
        descr.Latin1 := by
  have hbuild : ∀ os, OctetString.from_string descr = .ok os →
      build header (.OpenPDU timeout oid descr) =
        sized header (.OpenPDU timeout (pad4bytes 1) oid os) := by
    intro os hos
    rw [build, hos]
    rfl
  have hsize : ∀ os, OctetString.from_string descr = .ok os →
      (Body.OpenPDU timeout (pad4bytes 1) oid os).size =
        (Fields.OpenPDU timeout oid descr).size := by
    intro os hos
    show 4 + oid.size + (4 + os.length + pad4 os.length) = _
    rw [(OctetString.of_from_string hos).2.2]
    rfl
  constructor
  · rintro ⟨p, bs, hp, hrest⟩
    obtain ⟨os, hos, -⟩ := bind_eq_ok.mp hp
    rw [hbuild os hos] at hp
    obtain ⟨hgiven, hlt, -, bs', hbs⟩ := (consistent_sized_iff header
      (.OpenPDU timeout (pad4bytes 1) oid os) trivial id).mp ⟨p, bs, hp, hrest⟩
    obtain ⟨first, hfirst, -⟩ := bind_eq_ok.mp hbs
    rw [hsize os hos] at hlt
    exact ⟨hgiven, hlt, fits_of_struct_pack hfirst (1, timeout) List.mem_cons_self,
      (OctetString.of_from_string hos).1⟩
  · rintro ⟨hgiven, hlt, htimeout, hlatin⟩
    obtain ⟨os, hos⟩ := OctetString.exists_from_string hlatin
    obtain ⟨-, hpadded, hlength⟩ := OctetString.of_from_string hos
    rw [Consistent, hbuild os hos]
    refine (consistent_sized_iff header (.OpenPDU timeout (pad4bytes 1) oid os) trivial id).mpr
      ⟨hgiven, ?_, ⟨rfl, hcounted, hpadded⟩, ?_⟩
    · rw [hsize os hos]
      exact hlt
    · have hos' : os.length < 2 ^ 32 := by
        rw [hlength]
        have hle : descr.length ≤ (Fields.OpenPDU timeout oid descr).size := by
          show descr.length ≤ 4 + oid.size + (4 + descr.length + pad4 descr.length)
          omega
        omega
      obtain ⟨first, hfirst⟩ := struct_pack_of_fits header.endianness [(1, timeout)]
        (List.forall_mem_singleton.mpr htimeout)
      obtain ⟨second, hsecond⟩ := struct_pack_of_fits header.endianness _ hfits
      obtain ⟨third, hthird⟩ := OctetString.exists_to_bytes (e := header.endianness).mpr hos'
      exact ⟨_, bind_eq_ok.mpr ⟨first, hfirst, bind_eq_ok.mpr ⟨second, hsecond,
        bind_eq_ok.mpr ⟨third, hthird, rfl⟩⟩⟩⟩

theorem exists_upperBoundBytes {e : Order} {upper_bound : Option ℕ} :
    (∃ bs, upperBoundBytes e upper_bound = .ok bs) ↔ ∀ n ∈ upper_bound, n < 2 ^ 32 := by
  cases upper_bound with
  | none => exact ⟨fun _ _ h => (by cases h), fun _ => ⟨[], rfl⟩⟩
  | some n =>
    refine exists_struct_pack.trans (List.forall_mem_singleton.trans ?_)
    constructor
    · rintro h _ ⟨⟩
      exact h
    · intro h
      exact h n rfl

/-- A `RegisterPDU` is consistent if the header announces no context, the numbers fit, and the
upper bound is given for a range only. -/
theorem consistent_register_iff {context : Option OctetString} {timeout priority range_subid : ℕ}
    {subtree : ObjectIdentifier} {upper_bound : Option ℕ} (hc : ContextReadable header context)
    (hcounted : subtree.Counted) (hfits : subtree.Fits) :
    Consistent header (.RegisterPDU context timeout priority range_subid subtree upper_bound) ↔
      header.Given ∧ (Fields.RegisterPDU context timeout priority range_subid subtree
        upper_bound).size < 2 ^ 32 ∧
      (Fields.RegisterPDU context timeout priority range_subid subtree upper_bound).Sound
        header := by
  cases hflag : header.flag__non_default_context with
  | true =>
    have hraise : build header (.RegisterPDU context timeout priority range_subid subtree
        upper_bound) = .error .StructError := by
      rw [build, buildContext, if_pos hflag]
      cases header.endianness <;> rfl
    constructor
    · rintro ⟨p, bs, hp, -⟩
      rw [hraise] at hp
      cases hp
    · rintro ⟨-, -, hfalse, -⟩
      exact absurd hfalse (by rw [hflag]; exact Bool.noConfusion)
  | false =>
    have hnone : context = none := by
      cases context with
      | none => rfl
      | some c => exact absurd (hc.1.mp rfl) (by rw [hflag]; exact Bool.noConfusion)
    subst hnone
    have hbuild : build header (.RegisterPDU none timeout priority range_subid subtree
        upper_bound) =
        sized header (.RegisterPDU none timeout priority range_subid 0 subtree upper_bound) := by
      rw [build, buildContext, if_neg (by rw [hflag]; exact Bool.noConfusion)]
      rfl
    rw [Consistent, hbuild, consistent_sized_iff header
      (.RegisterPDU none timeout priority range_subid 0 subtree upper_bound) trivial id]
    constructor
    · rintro ⟨hgiven, hlt, ⟨-, -, hsome⟩, bs, hbs⟩
      obtain ⟨first, -, hbs⟩ := bind_eq_ok.mp hbs
      obtain ⟨numbers, hnumbers, hbs⟩ := bind_eq_ok.mp hbs
      obtain ⟨identifier, -, hbs⟩ := bind_eq_ok.mp hbs
      obtain ⟨bound, hbound, -⟩ := bind_eq_ok.mp hbs
      have hnums := fits_of_struct_pack hnumbers
      exact ⟨hgiven, hlt, hflag, hnums (1, timeout) (by simp), hnums (1, priority) (by simp),
        hnums (1, range_subid) (by simp), hsome, exists_upperBoundBytes.mp ⟨bound, hbound⟩⟩
    · rintro ⟨hgiven, hlt, -, htimeout, hpriority, hrange, hsome, hbound⟩
      refine ⟨hgiven, hlt, ⟨hc, hcounted, hsome⟩, ?_⟩
      obtain ⟨numbers, hnumbers⟩ := struct_pack_of_fits header.endianness
        [(1, timeout), (1, priority), (1, range_subid), (1, 0)] (by
          simp only [List.forall_mem_cons]
          exact ⟨htimeout, hpriority, hrange, Nat.one_pos.trans (by decide), fun _ h => nomatch h⟩)
      obtain ⟨identifier, hidentifier⟩ := struct_pack_of_fits header.endianness _ hfits
      obtain ⟨bound, hbytes⟩ := exists_upperBoundBytes (e := header.endianness).mpr hbound
      exact ⟨_, bind_eq_ok.mpr ⟨[], rfl, bind_eq_ok.mpr ⟨numbers, hnumbers,
        bind_eq_ok.mpr ⟨identifier, hidentifier, bind_eq_ok.mpr ⟨bound, hbytes, rfl⟩⟩⟩⟩⟩

/-- A request for values is not consistent. -/
theorem not_consistent_get {context : Option OctetString} {oids : List ObjectIdentifier} :
    ¬ Consistent header (.GetPDU context oids) := by
  rintro ⟨p, bs, hp, hbs, hlen, -⟩
  obtain ⟨context', -, hp⟩ := bind_eq_ok.mp hp
  obtain ⟨sr, -, hp⟩ := bind_eq_ok.mp hp
  exact not_consistent_sizedRequest hp hbs hlen

theorem not_consistent_getNext {context : Option OctetString} {oids : List ObjectIdentifier} :
    ¬ Consistent header (.GetNextPDU context oids) := by
  rintro ⟨p, bs, hp, hbs, hlen, -⟩
  obtain ⟨context', -, hp⟩ := bind_eq_ok.mp hp
  obtain ⟨sr, -, hp⟩ := bind_eq_ok.mp hp
  exact not_consistent_sizedRequest hp hbs hlen

/-- A `ResponsePDU` is consistent if its numbers fit, those of its bindings as they are. -/
theorem consistent_response_iff {sys_up_time error index : ℕ} {values : List ValueRepresentation}
    (hformed : (Fields.ResponsePDU sys_up_time error index values).Formed header) :
    Consistent header (.ResponsePDU sys_up_time error index values) ↔
      header.Given ∧ (Fields.ResponsePDU sys_up_time error index values).size < 2 ^ 32 ∧
      (Fields.ResponsePDU sys_up_time error index values).Sound header := by
  rw [Consistent, show build header (.ResponsePDU sys_up_time error index values) =
    sized header (.ResponsePDU sys_up_time error index values) from rfl,
    consistent_sized_iff header (.ResponsePDU sys_up_time error index values) trivial id]
  constructor
  · rintro ⟨hgiven, hlt, hr, bs, hbs⟩
    obtain ⟨numbers, hnumbers, -⟩ := bind_eq_ok.mp hbs
    have hnums := fits_of_struct_pack hnumbers
    exact ⟨hgiven, hlt, hnums (4, sys_up_time) (by simp), hnums (2, error) (by simp),
      hnums (2, index) (by simp), fun vr hvr => (hr vr hvr).2⟩
  · rintro ⟨hgiven, hlt, hup, herror, hindex, hdata⟩
    refine ⟨hgiven, hlt, fun vr hvr => ⟨(hformed vr hvr).2.1.1, hdata vr hvr⟩, ?_⟩
    obtain ⟨numbers, hnumbers⟩ := struct_pack_of_fits header.endianness
      [(4, sys_up_time), (2, error), (2, index)] (by
        simp only [List.forall_mem_cons]
        exact ⟨hup, herror, hindex, fun _ h => nomatch h⟩)
    have hwritable : ∀ vr ∈ values, ∃ bs, vr.to_bytes header.endianness = .ok bs := by
      intro vr hvr
      obtain ⟨hreserved, ⟨-, hname⟩, hformed⟩ := hformed vr hvr
      refine ValueRepresentation.exists_to_bytes.mpr ⟨hreserved, hname, ?_⟩
      have hle : ValueRepresentation.dataSize vr.type_.shape vr.data ≤ vr.size := Nat.le_add_left ..
      exact ValueRepresentation.writable_of_formed _ _ hformed
        (lt_of_le_of_lt (hle.trans (size_le_of_mem hvr)) hlt)
    obtain ⟨bs, hbs⟩ := exists_concatBytes.mpr hwritable
    exact ⟨_, bind_eq_ok.mpr ⟨numbers, hnumbers, bind_eq_ok.mpr ⟨bs, hbs, rfl⟩⟩⟩

end Built

/-! ### Requests from the wire -/

/-- The PDUs that a master sends to be answered, or to open and to register. -/
def Body.Request : Body → Prop
  | .OpenPDU .. | .RegisterPDU .. | .GetPDU .. | .GetNextPDU .. => True
  | _ => False

/-- A well-formed request: what it says about itself is so. -/
structure PDU.WellFormed (p : PDU) : Prop where
  request : p.body.Request
  sized : p.Sized
  readable : p.body.Readable p.header
  exact : p.trailing_bytes = []

/-- The search ranges of a request. -/
def Body.ranges : Body → List SearchRange
  | .GetPDU _ sr | .GetNextPDU _ sr => sr
  | _ => []

/-- What is looked up for a search range. -/
def Body.lookedUp (lut : MIBTable) : Body → SearchRange → Except Raised ValueRepresentation
  | .GetPDU _ _ => lut.get
  | _ => lut.get_next

/-- A response has the identifiers of its request, and the bindings of its search ranges. -/
def Answers (lut : MIBTable) (p r : PDU) : Prop :=
  r.header.session_id = p.header.session_id ∧ r.header.transaction_id = p.header.transaction_id ∧
    r.header.packet_id = p.header.packet_id ∧ ∃ values, r.body = .ResponsePDU 0 0 0 values ∧
      List.Forall₂ (fun sr vr => p.body.lookedUp lut sr = .ok vr) p.body.ranges values

section Requests

variable {p r : PDU} {b : List UInt8}

theorem Body.plain_of_request {body : Body} (h : body.Request) : body.Plain := by
  cases body <;> first | exact trivial | exact h.elim

/-- A well-formed request is decoded from its bytes as it is. -/
theorem decode_of_wellFormed (hp : p.WellFormed) (hb : p.encode = .ok b) :
    PDU.decode b = .ok p := by
  have hback := PDU.decode_encode [] hp.sized (Body.plain_of_request hp.request)
    hp.readable hb (.inl rfl)
  rw [List.append_nil] at hback
  rw [hback]
  obtain ⟨header, body, trailing_bytes⟩ := p
  obtain rfl : trailing_bytes = [] := hp.exact
  rfl

/-- A request that is decoded, with nothing left over, is encoded as the bytes it came as. -/
theorem encode_of_decode (hrequest : p.body.Request) (hexact : p.trailing_bytes = [])
    (hb : PDU.decode b = .ok p) : p.encode = .ok b := by
  obtain ⟨front, hfront, hrest⟩ := (PDU.of_decode hb).2.2 (Body.plain_of_request hrequest)
  rw [hexact, List.append_nil] at hrest
  rw [hrest]
  exact hfront

theorem forall₂_of_mapM {α β : Type} {f : α → Except Raised β} {xs : List α} {ys : List β}
    (h : xs.mapM f = .ok ys) : List.Forall₂ (fun x y => f x = .ok y) xs ys := by
  induction xs generalizing ys with
  | nil =>
    rw [List.mapM_nil] at h
    obtain rfl := (Except.ok.inj h).symm
    exact .nil
  | cons x xs ih =>
    rw [List.mapM_cons] at h
    obtain ⟨y, hy, h⟩ := bind_eq_ok.mp h
    obtain ⟨ys', hys, h⟩ := bind_eq_ok.mp h
    obtain rfl := (Except.ok.inj h).symm
    exact .cons hy (ih hys)

theorem of_respond {header : PDUHeader} {values : List ValueRepresentation}
    (h : respond header values = .ok r) : r.header.session_id = header.session_id ∧
      r.header.transaction_id = header.transaction_id ∧
        r.header.packet_id = header.packet_id ∧ r.body = .ResponsePDU 0 0 0 values := by
  obtain ⟨n, -, rfl⟩ := map_eq_ok.mp h
  exact ⟨rfl, rfl, rfl, rfl⟩

/-- A response answers its request. -/
theorem answers_of_make_response {lut : MIBTable} (h : p.make_response lut = .ok r) :
    Answers lut p r := by
  obtain ⟨header, body, trailing_bytes⟩ := p
  cases body with
  | GetPDU context sr =>
    obtain ⟨values, hvalues, h⟩ := bind_eq_ok.mp h
    obtain ⟨hsession, htransaction, hpacket, hbody⟩ := of_respond h
    exact ⟨hsession, htransaction, hpacket, values, hbody, forall₂_of_mapM hvalues⟩
  | GetNextPDU context sr =>
    obtain ⟨values, hvalues, h⟩ := bind_eq_ok.mp h
    obtain ⟨hsession, htransaction, hpacket, hbody⟩ := of_respond h
    exact ⟨hsession, htransaction, hpacket, values, hbody, forall₂_of_mapM hvalues⟩
  | _ => cases h

end Requests

/-! ### The law -/

theorem consistent_iff {header : PDUHeader} {f : Fields} (hformed : f.Formed header) :
    Consistent header f ↔ header.Given ∧ f.size < 2 ^ 32 ∧ f.Sound header := by
  cases f with
  | OpenPDU timeout oid descr => exact consistent_open_iff hformed.1 hformed.2
  | RegisterPDU context timeout priority range_subid subtree upper_bound =>
    exact consistent_register_iff hformed.1 hformed.2.1 hformed.2.2
  | GetPDU context oids => exact iff_of_false not_consistent_get fun h => h.2.2
  | GetNextPDU context oids => exact iff_of_false not_consistent_getNext fun h => h.2.2
  | ResponsePDU sys_up_time error index values => exact consistent_response_iff hformed

/-- What is built from fields is consistent if and only if it is not a request for values or a
registration with a context, and everything fits; requests from the wire are encoded as the bytes
they came as, and are answered under their own identifiers. -/
theorem encode_self_consistent (header : PDUHeader) (f : Fields)
    (hformed : f.Formed header) :
    (Consistent header f ↔ header.Given ∧ f.size < 2 ^ 32 ∧ f.Sound header) ∧
      (∀ p b, PDU.WellFormed p → p.encode = .ok b → (PDU.decode b).bind PDU.encode = .ok b) ∧
      (∀ p b, p.body.Request → p.trailing_bytes = [] → PDU.decode b = .ok p →
        p.encode = .ok b) ∧
      ∀ lut p r, PDU.make_response p lut = .ok r → Answers lut p r := by
  refine ⟨consistent_iff hformed, fun p b hp hb => ?_, fun p b hrequest hexact hb =>
    encode_of_decode hrequest hexact hb, fun lut p r h => answers_of_make_response h⟩
  rw [decode_of_wellFormed hp hb]
  exact hb

/-- The law at the opening of a session. -/
theorem encode_self_consistent_open :
    Consistent ⟨1, 0, 16, 0, 0, 0, 1, 0⟩ (.OpenPDU 0 .null_oid (.str ['S'])) := by
  have hformed : (Fields.OpenPDU 0 .null_oid (.str ['S'])).Formed ⟨1, 0, 16, 0, 0, 0, 1, 0⟩ :=
    ⟨rfl, by decide⟩
  have hsound : (Fields.OpenPDU 0 .null_oid (.str ['S'])).Sound ⟨1, 0, 16, 0, 0, 0, 1, 0⟩ := by
    refine ⟨by decide, ?_⟩
    exact List.forall_mem_singleton.mpr (show 83 < 256 by decide)
  exact (encode_self_consistent _ _ hformed).1.mpr ⟨by decide, by decide, hsound⟩

/-- A request for one value has a payload of 24 bytes and says that it has 44. -/
theorem not_encode_self_consistent :
    (Fields.GetPDU none [⟨2, 2, 0, 0, [1, 1]⟩]).Formed ⟨1, 0, 16, 0, 1, 2, 3, 0⟩ ∧
      ¬ Consistent ⟨1, 0, 16, 0, 1, 2, 3, 0⟩ (.GetPDU none [⟨2, 2, 0, 0, [1, 1]⟩]) := by
  refine ⟨⟨⟨by decide, fun _ h => nomatch h⟩, ?_⟩, not_consistent_get⟩
  exact List.forall_mem_singleton.mpr ⟨rfl, by decide⟩

end AgentX
