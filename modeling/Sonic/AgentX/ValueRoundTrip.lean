/-
AgentX/ValueRoundTrip.lean

Identifiers and variable bindings that are built from values come back from their bytes.

Four sub-identifiers are left out of an identifier of the internet, and the fifth becomes one byte
of its header, where 0 says that there is no prefix.  An identifier is kept when there is a fifth
one, when it is not 0 and when it fits; a binding comes back when its identifiers can be packed.
What does get bytes is read back from them in every case, whatever its type and its padding
(`values_round_trip`), and bindings one behind the other are told apart.
-/
import Sonic.AgentX.Consistency

open StructPack Outcome

namespace AgentX

/-! ### Identifiers -/

/-- An object identifier: at most 255 numbers of 32 bits. -/
def IsOid (t : List ℕ) : Prop := t.length ≤ 255 ∧ ∀ subid ∈ t, subid < 2 ^ 32

instance (t : List ℕ) : Decidable (IsOid t) := inferInstanceAs (Decidable (_ ∧ _))

/-- An identifier of the internet goes on behind the prefix, with a number that satisfies `P`. -/
def BehindInternet (P : ℕ → Prop) (t : List ℕ) : Prop :=
  t.take 4 = INTERNET_PREFIX → ∃ n rest, t.drop 4 = n :: rest ∧ P n

/-- The identifier comes back, and has bytes. -/
def Kept (t : List ℕ) : Prop :=
  ∃ oid, ObjectIdentifier.from_iterable t = .ok oid ∧ oid.to_tuple = t ∧
    ∀ e, ∃ bs, oid.to_bytes e = .ok bs

namespace ObjectIdentifier

/-- An identifier whose fields are in range, the prefix aside. -/
structure InRange (oid : ObjectIdentifier) : Prop where
  counted : oid.Counted
  few : oid.n_subid ≤ 255
  include_ : oid.include_ < 256
  reserved : oid.reserved < 256
  subids : ∀ subid ∈ oid.subids, subid < 2 ^ 32

variable {oid : ObjectIdentifier} {t : List ℕ}

/-- Such an identifier can be packed if and only if its prefix is one byte. -/
theorem InRange.fits_iff (h : oid.InRange) : oid.Fits ↔ oid.prefix_ < 256 := by
  constructor
  · intro hfits
    exact hfits (1, oid.prefix_) (List.mem_cons_of_mem _ List.mem_cons_self)
  · intro hprefix f hf
    rcases List.mem_append.mp hf with hhead | hsubid
    · simp only [List.mem_cons, List.not_mem_nil, or_false] at hhead
      rcases hhead with rfl | rfl | rfl | rfl
      · exact Nat.lt_succ_of_le h.few
      · exact hprefix
      · exact h.include_
      · exact h.reserved
    · obtain ⟨subid, hmem, rfl⟩ := List.mem_map.mp hsubid
      exact h.subids subid hmem

theorem from_iterable_other (h : t.take 4 ≠ INTERNET_PREFIX) :
    from_iterable t = .ok ⟨t.length, 0, 0, 0, t⟩ := if_neg h

theorem from_iterable_internet {n : ℕ} {rest : List ℕ} (h : t.take 4 = INTERNET_PREFIX)
    (hdrop : t.drop 4 = n :: rest) : from_iterable t = .ok ⟨rest.length, n, 0, 0, rest⟩ := by
  rw [from_iterable, if_pos h, hdrop]

/-- The prefix alone has no fifth sub-identifier. -/
theorem from_iterable_bare (h : t.take 4 = INTERNET_PREFIX) (hdrop : t.drop 4 = []) :
    from_iterable t = .error .IndexError := by
  rw [from_iterable, if_pos h, hdrop]

theorem inRange_other (ht : IsOid t) : InRange ⟨t.length, 0, 0, 0, t⟩ :=
  ⟨rfl, ht.1, Nat.zero_lt_succ 255, Nat.zero_lt_succ 255, ht.2⟩

theorem inRange_internet {n : ℕ} {rest : List ℕ} (ht : IsOid t) (hdrop : t.drop 4 = n :: rest) :
    InRange ⟨rest.length, n, 0, 0, rest⟩ := by
  have hlength := congrArg List.length hdrop
  rw [List.length_drop, List.length_cons] at hlength
  have hfew := ht.1
  refine ⟨rfl, (show rest.length ≤ 255 by omega), Nat.zero_lt_succ 255,
    Nat.zero_lt_succ 255, ?_⟩
  intro subid hsubid
  refine ht.2 subid (List.mem_of_mem_drop (i := 4) ?_)
  rw [hdrop]
  exact List.mem_cons_of_mem n hsubid

theorem inRange_of_from_iterable (ht : IsOid t) (h : from_iterable t = .ok oid) :
    oid.InRange := by
  by_cases hinternet : t.take 4 = INTERNET_PREFIX
  · cases hdrop : t.drop 4 with
    | nil =>
      rw [from_iterable_bare hinternet hdrop] at h
      cases h
    | cons n rest =>
      rw [from_iterable_internet hinternet hdrop] at h
      obtain rfl := Except.ok.inj h
      exact inRange_internet ht hdrop
  · rw [from_iterable_other hinternet] at h
    obtain rfl := Except.ok.inj h
    exact inRange_other ht

/-- An identifier is made that can be packed if the number behind the prefix is one byte. -/
theorem exists_fits_iff (ht : IsOid t) :
    (∃ oid, from_iterable t = .ok oid ∧ oid.Fits) ↔ BehindInternet (· < 256) t := by
  by_cases hinternet : t.take 4 = INTERNET_PREFIX
  · cases hdrop : t.drop 4 with
    | nil =>
      constructor
      · rintro ⟨oid, hoid, -⟩
        rw [from_iterable_bare hinternet hdrop] at hoid
        cases hoid
      · intro h
        obtain ⟨n, rest, hcons, -⟩ := h hinternet
        rw [hdrop] at hcons
        cases hcons
    | cons n rest =>
      have hmade := from_iterable_internet hinternet hdrop
      have hfits := (inRange_internet ht hdrop).fits_iff
      constructor
      · rintro ⟨oid, hoid, hpack⟩ -
        rw [hmade] at hoid
        obtain rfl := Except.ok.inj hoid
        exact ⟨n, rest, hdrop, hfits.mp hpack⟩
      · intro h
        obtain ⟨m, others, hcons, hm⟩ := h hinternet
        rw [hdrop] at hcons
        cases hcons
        exact ⟨_, hmade, hfits.mpr hm⟩
  · refine iff_of_true ⟨_, from_iterable_other hinternet, ?_⟩ fun h => absurd h hinternet
    exact (inRange_other ht).fits_iff.mpr (Nat.zero_lt_succ 255)

/-- What is made of an identifier of the internet has its prefix again, unless it is 0. -/
theorem to_tuple_internet {n : ℕ} {rest : List ℕ} (h : t.take 4 = INTERNET_PREFIX)
    (hdrop : t.drop 4 = n :: rest) : to_tuple ⟨rest.length, n, 0, 0, rest⟩ = t ↔ n ≠ 0 := by
  have hparts : t = INTERNET_PREFIX ++ n :: rest := by
    rw [← h, ← hdrop, List.take_append_drop]
  show (if n = 0 then [] else INTERNET_PREFIX ++ [n]) ++ rest = t ↔ n ≠ 0
  split
  · next hzero =>
      refine iff_of_false (fun heq => ?_) (not_not.mpr hzero)
      -- the tail of the identifier is shorter than the identifier
      have hlength := congrArg List.length (heq.trans hparts)
      rw [List.nil_append, List.length_append, List.length_cons] at hlength
      omega
  · next hzero =>
      refine iff_of_true ?_ hzero
      rw [hparts, List.append_assoc]
      rfl

end ObjectIdentifier

open ObjectIdentifier in
/-- An identifier is kept exactly when the number behind the prefix is there and from 1 to 255. -/
theorem kept_iff {t : List ℕ} (ht : IsOid t) :
    Kept t ↔ BehindInternet (fun n => 0 < n ∧ n < 256) t := by
  by_cases hinternet : t.take 4 = INTERNET_PREFIX
  · constructor
    · rintro ⟨oid, hoid, htuple, hbytes⟩ -
      have hfits : oid.Fits := exists_struct_pack.mp (hbytes .big)
      obtain ⟨n, rest, hdrop, hn⟩ := (exists_fits_iff ht).mp ⟨oid, hoid, hfits⟩ hinternet
      rw [from_iterable_internet hinternet hdrop] at hoid
      obtain rfl := Except.ok.inj hoid
      have hpos := (to_tuple_internet hinternet hdrop).mp htuple
      exact ⟨n, rest, hdrop, Nat.pos_of_ne_zero hpos, hn⟩
    · intro h
      obtain ⟨n, rest, hdrop, hpos, hn⟩ := h hinternet
      refine ⟨_, from_iterable_internet hinternet hdrop, ?_, fun e => ?_⟩
      · exact (to_tuple_internet hinternet hdrop).mpr (Nat.pos_iff_ne_zero.mp hpos)
      · exact exists_struct_pack.mpr ((inRange_internet ht hdrop).fits_iff.mpr hn)
  · refine iff_of_true ⟨_, from_iterable_other hinternet, rfl, fun e => ?_⟩
      fun h => absurd h hinternet
    exact exists_struct_pack.mpr ((inRange_other ht).fits_iff.mpr (Nat.zero_lt_succ 255))

/-! ### Bindings -/

namespace ValueRepresentation

/-- `from_typecast` under a name that may be an identifier already. -/
def from_typecast_or_obj (type_ : ValueType) (oid_iter_or_obj : List ℕ ⊕ ObjectIdentifier)
    (value : type_.shape.Value) : Except Raised ValueRepresentation := do
  let oid ← castData .object_identifier oid_iter_or_obj
  let data ← castData type_.shape value
  return ⟨type_, 0, oid, data⟩

/-- A value in range of its type. -/
def InRange : (s : Shape) → s.Value → Prop
  | .four_bytes, n => -2 ^ 31 ≤ n ∧ n < 2 ^ 32
  | .eight_bytes, n => 0 ≤ n ∧ n < 2 ^ 64
  | .object_identifier, .inl t => IsOid t
  | .object_identifier, .inr oid => oid.InRange
  | .octet_string, string => string.Latin1
  | .empty, _ => True

/-- A value that can be packed: an identifier has a prefix of one byte, and a string has a length
of 32 bits. -/
def Packable : (s : Shape) → s.Value → Prop
  | .object_identifier, .inl t => BehindInternet (· < 256) t
  | .object_identifier, .inr oid => oid.prefix_ < 256
  | .octet_string, string => string.length < 2 ^ 32
  | _, _ => True

/-- Data as it comes back: a number of four bytes is one modulo 2 ^ 32. -/
def wrapData : (s : Shape) → s.Data → s.Data
  | .four_bytes, n => n % 2 ^ 32
  | .eight_bytes, n => n
  | .object_identifier, oid => oid
  | .octet_string, os => os
  | .empty, d => d

/-- The binding as it comes back, with its type and its name. -/
def wrapped (vr : ValueRepresentation) : ValueRepresentation :=
  { vr with data := wrapData vr.type_.shape vr.data }

/-- Whatever follows its bytes, the binding comes back, and it is as long as it says. -/
def RoundTrips (vr : ValueRepresentation) (e : Order) : Prop :=
  ∃ bs, vr.to_bytes e = .ok bs ∧ bs.length = vr.size ∧
    ∀ suffix, from_bytes (bs ++ suffix) e = .ok vr.wrapped

/-- A binding that is built from a name and a value in range. -/
def Built (vr : ValueRepresentation) : Prop :=
  ∃ type_ name value, InRange .object_identifier name ∧ InRange type_.shape value ∧
    from_typecast_or_obj type_ name value = .ok vr

variable {e : Order} {vr : ValueRepresentation}

/-! ### The bytes of a built binding -/

/-- What data becomes is written as the data is, and can be read. -/
theorem packData_wrapData (s : Shape) (d : s.Data) :
    packData e s (wrapData s d) = packData e s d := by
  cases s with
  | four_bytes =>
    show struct_pack e [(4, (d % 2 ^ 32 % 2 ^ 32).toNat)] = _
    rw [Int.emod_emod_of_dvd _ dvd_rfl]
    rfl
  | _ => rfl

theorem dataSize_wrapData (s : Shape) (d : s.Data) :
    dataSize s (wrapData s d) = dataSize s d := by
  cases s <;> rfl

theorem to_bytes_wrapped (vr : ValueRepresentation) : vr.wrapped.to_bytes e = vr.to_bytes e := by
  show (struct_pack e [(2, vr.type_.code), (2, vr.reserved)] >>= fun head => vr.name.to_bytes e >>=
    fun name => packData e vr.type_.shape (wrapData vr.type_.shape vr.data) >>= fun data =>
      pure (head ++ name ++ data)) = _
  rw [packData_wrapData]
  rfl

theorem size_wrapped (vr : ValueRepresentation) : vr.wrapped.size = vr.size :=
  congrArg (4 + vr.name.size + ·) (dataSize_wrapData vr.type_.shape vr.data)

/-- The data made of a value in range can be read once it is cut. -/
theorem dataReadable_of_castData (s : Shape) {value : s.Value} {d : s.Data}
    (hvalue : InRange s value) (h : castData s value = .ok d) : DataReadable s (wrapData s d) := by
  cases s with
  | four_bytes =>
    exact ⟨Int.emod_nonneg d (by norm_num), Int.emod_lt_of_pos d (by norm_num)⟩
  | eight_bytes =>
    obtain rfl := Except.ok.inj h
    exact hvalue
  | object_identifier =>
    cases value with
    | inl t => exact (ObjectIdentifier.inRange_of_from_iterable hvalue h).counted
    | inr oid =>
      obtain rfl := Except.ok.inj h
      exact hvalue.counted
  | octet_string => exact (OctetString.of_from_string h).2.1
  | empty => trivial

/-- Data is made of a value that can be packed if and only if the value can. -/
theorem exists_castData_iff (s : Shape) {value : s.Value} (hvalue : InRange s value) :
    (∃ d, castData s value = .ok d ∧ DataWritable s d) ↔ Packable s value := by
  cases s with
  | four_bytes => exact iff_of_true ⟨value, rfl, trivial⟩ trivial
  | eight_bytes => exact iff_of_true ⟨value, rfl, trivial⟩ trivial
  | object_identifier =>
    cases value with
    | inl t => exact ObjectIdentifier.exists_fits_iff hvalue
    | inr oid =>
      refine Iff.trans ?_ (ObjectIdentifier.InRange.fits_iff hvalue)
      constructor
      · rintro ⟨d, hd, hfits⟩
        obtain rfl := Except.ok.inj hd
        exact hfits
      · intro hfits
        exact ⟨oid, rfl, hfits⟩
  | octet_string =>
    obtain ⟨os, hos⟩ := OctetString.exists_from_string hvalue
    have hlength := (OctetString.of_from_string hos).2.2
    constructor
    · rintro ⟨d, hd, hlt⟩
      have heq : os = d := Except.ok.inj (hos.symm.trans hd)
      subst heq
      show value.length < 2 ^ 32
      rw [← hlength]
      exact hlt
    · intro hlt
      refine ⟨os, hos, ?_⟩
      show os.length < 2 ^ 32
      rw [hlength]
      exact hlt
  | empty => exact iff_of_true ⟨(), rfl, trivial⟩ trivial

theorem of_from_typecast {type_ : ValueType} {name : List ℕ ⊕ ObjectIdentifier}
    {value : type_.shape.Value} (h : from_typecast_or_obj type_ name value = .ok vr) :
    ∃ oid data, castData .object_identifier name = .ok oid ∧
      castData type_.shape value = .ok data ∧ vr = ⟨type_, 0, oid, data⟩ := by
  obtain ⟨oid, hoid, h⟩ := bind_eq_ok.mp h
  obtain ⟨data, hdata, h⟩ := bind_eq_ok.mp h
  exact ⟨oid, data, hoid, hdata, (Except.ok.inj h).symm⟩

theorem Built.readable (h : vr.Built) : vr.wrapped.Readable := by
  obtain ⟨type_, name, value, hname, hvalue, hvr⟩ := h
  obtain ⟨oid, data, hoid, hdata, rfl⟩ := of_from_typecast hvr
  exact ⟨dataReadable_of_castData .object_identifier hname hoid,
    dataReadable_of_castData type_.shape hvalue hdata⟩

/-- The bytes of a built binding, if it has any, are read back. -/
theorem Built.of_to_bytes (h : vr.Built) {bs : List UInt8} (hbs : vr.to_bytes e = .ok bs) :
    bs.length = vr.size ∧ ∀ suffix, from_bytes (bs ++ suffix) e = .ok vr.wrapped := by
  have hback := readsBack h.readable (e := e) bs ((to_bytes_wrapped vr).trans hbs)
  rw [size_wrapped] at hback
  exact hback

theorem Built.roundTrips_iff (h : vr.Built) : vr.RoundTrips e ↔ vr.Writable := by
  constructor
  · rintro ⟨bs, hbs, -⟩
    exact exists_to_bytes.mp ⟨bs, hbs⟩
  · intro hwritable
    obtain ⟨bs, hbs⟩ := exists_to_bytes (e := e).mpr hwritable
    exact ⟨bs, hbs, h.of_to_bytes hbs⟩

/-- A name and a value in range make a binding that comes back exactly when both can be packed. -/
theorem exists_roundTrips_iff (type_ : ValueType) {name : List ℕ ⊕ ObjectIdentifier}
    {value : type_.shape.Value} (hname : InRange .object_identifier name)
    (hvalue : InRange type_.shape value) :
    (∃ vr, from_typecast_or_obj type_ name value = .ok vr ∧ ∀ e, vr.RoundTrips e) ↔
      Packable .object_identifier name ∧ Packable type_.shape value := by
  rw [← exists_castData_iff .object_identifier hname, ← exists_castData_iff type_.shape hvalue]
  constructor
  · rintro ⟨vr, hvr, hback⟩
    have hbuilt : vr.Built := ⟨type_, name, value, hname, hvalue, hvr⟩
    obtain ⟨-, hfits, hdata⟩ := hbuilt.roundTrips_iff.mp (hback .big)
    obtain ⟨oid, data, hoid, hcast, rfl⟩ := of_from_typecast hvr
    exact ⟨⟨oid, hoid, hfits⟩, data, hcast, hdata⟩
  · rintro ⟨⟨oid, hoid, hfits⟩, data, hcast, hdata⟩
    have hvr : from_typecast_or_obj type_ name value = .ok ⟨type_, 0, oid, data⟩ :=
      bind_eq_ok.mpr ⟨oid, hoid, bind_eq_ok.mpr ⟨data, hcast, rfl⟩⟩
    have hbuilt : Built ⟨type_, 0, oid, data⟩ := ⟨type_, name, value, hname, hvalue, hvr⟩
    refine ⟨_, hvr, fun e => hbuilt.roundTrips_iff.mpr ⟨?_, hfits, hdata⟩⟩
    exact Nat.two_pow_pos 16

/-! ### Bindings one behind the other -/

theorem concatBytes_wrapped (vrs : List ValueRepresentation) :
    concatBytes (to_bytes · e) (vrs.map wrapped) = concatBytes (to_bytes · e) vrs := by
  induction vrs with
  | nil => rfl
  | cons vr vrs ih =>
    rw [List.map_cons, concatBytes, concatBytes, to_bytes_wrapped, ih]

/-- The bytes of built bindings are as many as their sizes, and are split where they end. -/
theorem readItems_built {vrs : List ValueRepresentation} (h : ∀ vr ∈ vrs, vr.Built)
    {bs : List UInt8} (hbs : concatBytes (to_bytes · e) vrs = .ok bs) :
    bs.length = (vrs.map size).sum ∧
      readItems (from_bytes · e) size (fun _ => true) bs.length 0 bs =
        .ok (vrs.map wrapped, []) := by
  rw [← concatBytes_wrapped] at hbs
  have hback : ∀ vr ∈ vrs.map wrapped, ReadsBack (to_bytes · e) (from_bytes · e) size vr ∧
      0 < vr.size := by
    intro vr hvr
    obtain ⟨vr, hmem, rfl⟩ := List.mem_map.mp hvr
    exact ⟨readsBack (h vr hmem).readable, size_pos⟩
  have hsizes : (vrs.map wrapped).map size = vrs.map size := by
    rw [List.map_map]
    exact List.map_congr_left fun vr _ => size_wrapped vr
  have hlength := length_concatBytes (fun vr hvr => (hback vr hvr).1) hbs
  have hmany := length_le_of_pos fun vr hvr => (hback vr hvr).2
  rw [hsizes] at hlength hmany
  refine ⟨hlength, ?_⟩
  have hread : readItems (from_bytes · e) size (fun _ => true) bs.length 0 (bs ++ []) =
      .ok (vrs.map wrapped, []) :=
    readItems_concatBytes hback hbs (hlength ▸ hmany) (fun _ _ => rfl) (.inl rfl)
  rwa [List.append_nil] at hread

end ValueRepresentation

/-! ### The law -/

open ValueRepresentation in
/-- An identifier is kept exactly when it is not the prefix of the internet alone and the number
behind the prefix is from 1 to 255.  A binding is built and comes back under both orders of bytes
and before every suffix exactly when the numbers behind its prefixes are bytes and its string has a
length of 32 bits; and bindings that are written one behind the other are always told apart. -/
theorem values_round_trip (t : List ℕ) (ht : IsOid t) (type_ : ValueType)
    (name : List ℕ ⊕ ObjectIdentifier) (hname : InRange .object_identifier name)
    (value : type_.shape.Value) (hvalue : InRange type_.shape value) :
    (Kept t ↔ BehindInternet (fun n => 0 < n ∧ n < 256) t) ∧
      ((∃ vr, from_typecast_or_obj type_ name value = .ok vr ∧ ∀ e, vr.RoundTrips e) ↔
        Packable .object_identifier name ∧ Packable type_.shape value) ∧
      ∀ vrs : List ValueRepresentation, (∀ vr ∈ vrs, vr.Built) → ∀ e bs,
        concatBytes (to_bytes · e) vrs = .ok bs → bs.length = (vrs.map size).sum ∧
          readItems (from_bytes · e) size (fun _ => true) bs.length 0 bs =
            .ok (vrs.map wrapped, []) :=
  ⟨kept_iff ht, exists_roundTrips_iff type_ hname hvalue, fun _ hvrs _ _ hbs =>
    readItems_built hvrs hbs⟩

open ValueRepresentation in
/-- The law for a negative number under `1.3.6.1.2.1`. -/
theorem values_round_trip_sample :
    Kept [1, 3, 6, 1, 2, 1] ∧
      ∃ vr, from_typecast_or_obj .INTEGER (.inl [1, 3, 6, 1, 2, 1]) (-1 : ℤ) = .ok vr ∧
        ∀ e, vr.RoundTrips e := by
  have hoid : IsOid [1, 3, 6, 1, 2, 1] := by decide
  have hlaw := values_round_trip [1, 3, 6, 1, 2, 1] hoid .INTEGER (.inl [1, 3, 6, 1, 2, 1]) hoid
    (-1 : ℤ) ⟨by decide, by decide⟩
  have hbehind : BehindInternet (· < 256) [1, 3, 6, 1, 2, 1] := fun _ =>
    ⟨2, [1], rfl, by decide⟩
  exact ⟨hlaw.1.mpr fun _ => ⟨2, [1], rfl, by decide, by decide⟩,
    hlaw.2.1.mpr ⟨hbehind, trivial⟩⟩

/-- The prefix of the internet alone is no identifier, a 0 behind it takes the prefix away, and a
number of more than a byte cannot be packed. -/
theorem not_values_round_trip :
    (IsOid [1, 3, 6, 1] ∧ ¬ Kept [1, 3, 6, 1]) ∧ (IsOid [1, 3, 6, 1, 0, 1] ∧
      ¬ Kept [1, 3, 6, 1, 0, 1]) ∧ (IsOid [1, 3, 6, 1, 256] ∧ ¬ Kept [1, 3, 6, 1, 256]) := by
  have hnot : ∀ t, IsOid t → t.take 4 = INTERNET_PREFIX →
      (∀ n rest, t.drop 4 = n :: rest → ¬ (0 < n ∧ n < 256)) → ¬ Kept t := by
    intro t ht hinternet hbad hkept
    obtain ⟨n, rest, hdrop, hn⟩ := (kept_iff ht).mp hkept hinternet
    exact hbad n rest hdrop hn
  have hroot : IsOid [1, 3, 6, 1] := by decide
  have hzero : IsOid [1, 3, 6, 1, 0, 1] := by decide
  have hlarge : IsOid [1, 3, 6, 1, 256] := by decide
  refine ⟨⟨hroot, hnot _ hroot rfl ?_⟩, ⟨hzero, hnot _ hzero rfl ?_⟩,
    ⟨hlarge, hnot _ hlarge rfl ?_⟩⟩
  · intro n rest h
    cases h
  · intro n rest h
    cases h
    exact fun hn => Nat.lt_irrefl 0 hn.1
  · intro n rest h
    cases h
    exact fun hn => Nat.lt_irrefl 256 hn.2

end AgentX
