/-
AgentX/RoundTrip.lean

What is written of an encoding is read back, and what is read is written back as it was.

A reader sees the bytes of a value with more bytes behind them.  `ReadsBack` says of a value that
its bytes are as many as its size and that it is read from them whatever follows; `WritesBack` says
of a pair of functions that whatever is read is written as the bytes at the front.
-/
import Sonic.AgentX.Pdu
import Sonic.Lib.Outcome

open StructPack Outcome

namespace AgentX

/-! ### Fields -/

section Fields

variable {o : Order} {fs gs : List Field} {widths values : List ℕ} {bs rest : List UInt8}

theorem struct_pack_eq_ok : struct_pack o fs = .ok bs ↔ packs o fs = some bs := by
  unfold struct_pack
  cases packs o fs with
  | none => exact ⟨fun h => (by cases h), fun h => (by cases h)⟩
  | some x => exact ⟨fun h => congrArg some (Except.ok.inj h), fun h =>
    congrArg Except.ok (Option.some.inj h)⟩

theorem struct_unpack_eq_ok : struct_unpack o widths bs = .ok values ↔
    unpacks o widths bs = some values := by
  unfold struct_unpack
  cases unpacks o widths bs with
  | none => exact ⟨fun h => (by cases h), fun h => (by cases h)⟩
  | some x => exact ⟨fun h => congrArg some (Except.ok.inj h), fun h =>
    congrArg Except.ok (Option.some.inj h)⟩

theorem struct_pack_of_fits (o : Order) (fs : List Field) (h : ∀ f ∈ fs, Field.Fits f) :
    ∃ bs, struct_pack o fs = .ok bs :=
  ⟨_, struct_pack_eq_ok.mpr (packs_eq_some h)⟩

theorem fits_of_struct_pack (h : struct_pack o fs = .ok bs) : ∀ f ∈ fs, Field.Fits f :=
  (fits_of_packs (struct_pack_eq_ok.mp h)).1

theorem length_struct_pack (h : struct_pack o fs = .ok bs) :
    bs.length = (fs.map Prod.fst).sum :=
  length_packs (struct_pack_eq_ok.mp h)

theorem struct_pack_append (h : struct_pack o (fs ++ gs) = .ok bs) :
    ∃ front back, struct_pack o fs = .ok front ∧ struct_pack o gs = .ok back ∧
      bs = front ++ back := by
  have hpack := struct_pack_eq_ok.mp h
  rw [packs_append] at hpack
  obtain ⟨front, hfront, hrest⟩ := Option.bind_eq_some_iff.mp hpack
  obtain ⟨back, hback, hbs⟩ := Option.map_eq_some_iff.mp hrest
  exact ⟨front, back, struct_pack_eq_ok.mpr hfront, struct_pack_eq_ok.mpr hback, hbs.symm⟩

/-- Fields are read from the bytes they were written as. -/
theorem struct_unpack_pack (h : struct_pack o fs = .ok bs) :
    struct_unpack o (fs.map Prod.fst) bs = .ok (fs.map Prod.snd) :=
  struct_unpack_eq_ok.mpr (unpacks_packs (struct_pack_eq_ok.mp h))

theorem struct_pack_unpack (h : struct_unpack o widths bs = .ok values) :
    struct_pack o (widths.zip values) = .ok bs ∧ values.length = widths.length :=
  (packs_unpacks (struct_unpack_eq_ok.mp h)).imp_left struct_pack_eq_ok.mpr

theorem struct_unpack1_pack {width n : ℕ} (h : struct_pack o [(width, n)] = .ok bs) :
    struct_unpack1 o width bs = .ok n := by
  obtain ⟨hfits, hbs⟩ := fits_of_packs (struct_pack_eq_ok.mp h)
  have hbytes : bs = o.bytes width n := by
    rw [← hbs]
    exact List.append_nil _
  have hn : n < 256 ^ width := hfits (width, n) List.mem_cons_self
  rw [struct_unpack1, hbytes, if_pos (length_bytes o width n), number_bytes o hn]

theorem struct_pack_unpack1 {width n : ℕ} (h : struct_unpack1 o width bs = .ok n) :
    struct_pack o [(width, n)] = .ok bs ∧ bs.length = width := by
  unfold struct_unpack1 at h
  split at h
  · next hlen =>
      obtain rfl := Except.ok.inj h
      refine ⟨struct_pack_eq_ok.mpr ?_, hlen⟩
      have hlt := number_lt o bs
      have hback := bytes_number o bs
      rw [hlen] at hlt hback
      have hfits : ∀ f ∈ [(width, o.number bs)], Field.Fits f := by
        intro f hf
        rw [List.mem_singleton.mp hf]
        exact hlt
      rw [packs_eq_some hfits]
      show some (o.bytes width (o.number bs) ++ []) = some bs
      rw [hback, List.append_nil]
  · cases h

end Fields

/-! ### Values -/

section Values

variable {α : Type} (to_bytes : α → Except Raised (List UInt8))
  (from_bytes : List UInt8 → Except Raised α) (size : α → ℕ)

def ReadsBack (x : α) : Prop :=
  ∀ bs, to_bytes x = .ok bs → bs.length = size x ∧ ∀ rest, from_bytes (bs ++ rest) = .ok x

def WritesBack : Prop :=
  ∀ bs x, from_bytes bs = .ok x → size x ≤ bs.length ∧ to_bytes x = .ok (bs.take (size x))

variable {to_bytes from_bytes size}

theorem ReadsBack.drop {x : α} (h : ReadsBack to_bytes from_bytes size x) {bs : List UInt8}
    (hbs : to_bytes x = .ok bs) (rest : List UInt8) : (bs ++ rest).drop (size x) = rest :=
  List.drop_left' (h bs hbs).1

/-- The loop reads the items that were written, if it goes on for all of them and then stops. -/
theorem readItems_concatBytes {more : ℕ → Bool} {xs : List α} {bs rest : List UInt8}
    {bytes_read fuel : ℕ} (hxs : ∀ x ∈ xs, ReadsBack to_bytes from_bytes size x ∧ 0 < size x)
    (h : concatBytes to_bytes xs = .ok bs) (hfuel : xs.length ≤ fuel)
    (hmore : ∀ m < bs.length, more (bytes_read + m) = true)
    (hstop : rest = [] ∨ more (bytes_read + bs.length) = false) :
    readItems from_bytes size more fuel bytes_read (bs ++ rest) = .ok (xs, rest) := by
  induction xs generalizing bs bytes_read fuel with
  | nil =>
    obtain rfl := (Except.ok.inj h).symm
    cases fuel with
    | zero => rfl
    | succ fuel =>
      refine if_neg ?_
      rintro ⟨hne, hgo⟩
      rcases hstop with hnil | hdone
      · exact hne hnil
      · exact Bool.noConfusion (hgo.symm.trans hdone)
  | cons x xs ih =>
    obtain ⟨first, hfirst, h⟩ := bind_eq_ok.mp h
    obtain ⟨others, hothers, h⟩ := bind_eq_ok.mp h
    obtain rfl := (Except.ok.inj h).symm
    obtain ⟨hx, hpos⟩ := hxs x List.mem_cons_self
    obtain ⟨hlen, hread⟩ := hx first hfirst
    cases fuel with
    | zero => exact absurd hfuel (Nat.not_succ_le_zero _)
    | succ fuel =>
      have hfirstpos : 0 < first.length := hlen ▸ hpos
      have hlength : (first ++ others).length = size x + others.length := by
        rw [List.length_append, hlen]
      have hne : first ++ others ++ rest ≠ [] := by
        intro hnil
        have hzero := congrArg List.length hnil
        simp only [List.length_append, List.length_nil] at hzero
        omega
      have hgo : more bytes_read = true := hmore 0 (by omega)
      have hrest : readItems from_bytes size more fuel (bytes_read + size x) (others ++ rest) =
        .ok (xs, rest) := ih (fun y hy => hxs y (List.mem_cons_of_mem _ hy)) hothers (Nat.le_of_succ_le_succ hfuel)
        (fun m hm => by
          rw [Nat.add_assoc]
          exact hmore _ (by omega))
        (hstop.imp_right fun hdone => by rwa [hlength, ← Nat.add_assoc] at hdone)
      rw [readItems, if_pos ⟨hne, hgo⟩, List.append_assoc, hread]
      show (readItems from_bytes size more fuel (bytes_read + size x)
        ((first ++ (others ++ rest)).drop (size x)) >>= _) = _
      rw [hx.drop hfirst, hrest]
      rfl

/-- What the loop has read is written as the bytes that it has passed. -/
theorem concatBytes_readItems (hback : WritesBack to_bytes from_bytes size) {more : ℕ → Bool}
    {xs : List α} {bs rest : List UInt8} {bytes_read fuel : ℕ}
    (h : readItems from_bytes size more fuel bytes_read bs = .ok (xs, rest)) :
    ∃ front, concatBytes to_bytes xs = .ok front ∧ bs = front ++ rest := by
  induction fuel generalizing bs bytes_read xs rest with
  | zero =>
    obtain ⟨rfl, rfl⟩ := Prod.mk.inj (Except.ok.inj h)
    exact ⟨[], rfl, rfl⟩
  | succ fuel ih =>
    rw [readItems] at h
    split at h
    · obtain ⟨x, hx, h⟩ := bind_eq_ok.mp h
      obtain ⟨⟨others, after⟩, hothers, h⟩ := bind_eq_ok.mp h
      obtain ⟨rfl, rfl⟩ := Prod.mk.inj (Except.ok.inj h)
      obtain ⟨-, hfirst⟩ := hback bs x hx
      obtain ⟨front, hfront, hdrop⟩ := ih hothers
      refine ⟨bs.take (size x) ++ front, ?_, ?_⟩
      · rw [concatBytes, hfirst]
        show (concatBytes to_bytes others >>= _) = _
        rw [hfront]
        rfl
      · rw [List.append_assoc, ← hdrop, List.take_append_drop]
    · obtain ⟨rfl, rfl⟩ := Prod.mk.inj (Except.ok.inj h)
      exact ⟨[], rfl, rfl⟩

/-- The loop that has left bytes over was stopped. -/
theorem stop_of_readItems (hsize : ∀ bs x, from_bytes bs = .ok x → 0 < size x) {more : ℕ → Bool}
    {xs : List α} {bs rest : List UInt8} {bytes_read fuel : ℕ} (hfuel : bs.length ≤ fuel)
    (h : readItems from_bytes size more fuel bytes_read bs = .ok (xs, rest)) (hrest : rest ≠ []) :
    more (bytes_read + (xs.map size).sum) = false := by
  induction fuel generalizing bs bytes_read xs rest with
  | zero =>
    obtain ⟨rfl, rfl⟩ := Prod.mk.inj (Except.ok.inj h)
    exact absurd (List.length_eq_zero_iff.mp (Nat.le_zero.mp hfuel)) hrest
  | succ fuel ih =>
    rw [readItems] at h
    split at h
    · obtain ⟨x, hx, h⟩ := bind_eq_ok.mp h
      obtain ⟨⟨others, after⟩, hothers, h⟩ := bind_eq_ok.mp h
      obtain ⟨rfl, rfl⟩ := Prod.mk.inj (Except.ok.inj h)
      have hpos := hsize bs x hx
      have hshort : (bs.drop (size x)).length ≤ fuel := by
        rw [List.length_drop]
        omega
      have hmore := ih hshort hothers hrest
      rwa [List.map_cons, List.sum_cons, ← Nat.add_assoc]
    · next hstop =>
        obtain ⟨rfl, rfl⟩ := Prod.mk.inj (Except.ok.inj h)
        have hmore : ¬ more bytes_read = true := fun hgo => hstop ⟨hrest, hgo⟩
        exact Bool.eq_false_iff.mpr hmore

theorem forall_readItems {P : α → Prop} (hP : ∀ bs x, from_bytes bs = .ok x → P x)
    {more : ℕ → Bool} {xs : List α} {bs rest : List UInt8} {bytes_read fuel : ℕ}
    (h : readItems from_bytes size more fuel bytes_read bs = .ok (xs, rest)) : ∀ x ∈ xs, P x := by
  induction fuel generalizing bs bytes_read xs rest with
  | zero =>
    obtain ⟨rfl, rfl⟩ := Prod.mk.inj (Except.ok.inj h)
    exact fun _ hx => nomatch hx
  | succ fuel ih =>
    rw [readItems] at h
    split at h
    · obtain ⟨x, hx, h⟩ := bind_eq_ok.mp h
      obtain ⟨⟨others, after⟩, hothers, h⟩ := bind_eq_ok.mp h
      obtain ⟨rfl, rfl⟩ := Prod.mk.inj (Except.ok.inj h)
      exact List.forall_mem_cons.mpr ⟨hP bs x hx, ih hothers⟩
    · obtain ⟨rfl, rfl⟩ := Prod.mk.inj (Except.ok.inj h)
      exact fun _ hx => nomatch hx

theorem length_concatBytes {xs : List α} {bs : List UInt8}
    (hxs : ∀ x ∈ xs, ReadsBack to_bytes from_bytes size x)
    (h : concatBytes to_bytes xs = .ok bs) : bs.length = (xs.map size).sum := by
  induction xs generalizing bs with
  | nil =>
    obtain rfl := (Except.ok.inj h).symm
    rfl
  | cons x xs ih =>
    obtain ⟨first, hfirst, h⟩ := bind_eq_ok.mp h
    obtain ⟨others, hothers, h⟩ := bind_eq_ok.mp h
    obtain rfl := (Except.ok.inj h).symm
    rw [List.length_append, (hxs x List.mem_cons_self first hfirst).1,
      ih (fun y hy => hxs y (List.mem_cons_of_mem _ hy)) hothers, List.map_cons, List.sum_cons]

theorem length_le_of_pos {xs : List α} (h : ∀ x ∈ xs, 0 < size x) :
    xs.length ≤ (xs.map size).sum := by
  induction xs with
  | nil => exact Nat.le_refl 0
  | cons x xs ih =>
    have hx := h x List.mem_cons_self
    have hxs := ih fun y hy => h y (List.mem_cons_of_mem _ hy)
    rw [List.length_cons, List.map_cons, List.sum_cons]
    omega

end Values

/-! ### Object identifiers -/

namespace ObjectIdentifier

/-- The count is that of the sub-identifiers. -/
def Counted (oid : ObjectIdentifier) : Prop := oid.n_subid = oid.subids.length

variable {oid : ObjectIdentifier} {e : Order}

theorem zip_replicate (values : List ℕ) :
    (List.replicate values.length 4).zip values = values.map fun v => (4, v) := by
  induction values with
  | nil => rfl
  | cons v values ih =>
    rw [List.length_cons, List.replicate_succ, List.zip_cons_cons, ih, List.map_cons]

theorem readsBack (h : oid.Counted) :
    ReadsBack (to_bytes · e) (from_bytes · e) size oid := by
  intro bs hbs
  obtain ⟨front, back, hfront, hback, rfl⟩ := struct_pack_append hbs
  have hfour : front.length = 4 := length_struct_pack hfront
  have hmap : ((oid.subids.map fun subid => (4, subid)).map Prod.fst) =
      List.replicate oid.n_subid 4 := by
    rw [h, List.map_map]
    exact List.map_const' ..
  have hlen : back.length = oid.n_subid * 4 := by
    rw [length_struct_pack hback, hmap, List.sum_replicate, smul_eq_mul]
  refine ⟨?_, fun rest => ?_⟩
  · rw [List.length_append, hfour, hlen, size, Nat.mul_comm]
  have hhead := struct_unpack_pack hfront
  have htail := struct_unpack_pack hback
  have hvalues : ((oid.subids.map fun subid => ((4, subid) : Field)).map Prod.snd) = oid.subids := by
    rw [List.map_map]
    exact List.map_id _
  rw [hmap, hvalues] at htail
  simp only [List.map_cons, List.map_nil] at hhead
  show from_bytes (front ++ back ++ rest) e = _
  rw [from_bytes, List.append_assoc, List.take_left' hfour, hhead, List.drop_left' hfour]
  show (struct_unpack e (List.replicate oid.n_subid 4)
    ((back ++ rest).take (oid.n_subid * 4))).map _ = _
  rw [List.take_left' hlen, htail]
  rfl

/-- The sub-identifiers are as many as the count says, and are written as the bytes read. -/
theorem of_from_bytes {bs : List UInt8} (h : from_bytes bs e = .ok oid) :
    oid.Counted ∧ oid.size ≤ bs.length ∧ oid.to_bytes e = .ok (bs.take oid.size) := by
  unfold from_bytes at h
  split at h
  · next n_subid prefix_ include_ reserved hhead =>
      cases htail : struct_unpack e (List.replicate n_subid 4)
          ((bs.drop 4).take (n_subid * 4)) with
      | error err =>
        rw [htail] at h
        cases h
      | ok subids =>
        rw [htail] at h
        obtain rfl := (Except.ok.inj h).symm
        obtain ⟨hfront, -⟩ := struct_pack_unpack hhead
        obtain ⟨hback, hlength⟩ := struct_pack_unpack htail
        rw [List.length_replicate] at hlength
        have hfour := length_struct_pack hfront
        have hmany := length_struct_pack hback
        have hzip : (List.replicate n_subid 4).zip subids = subids.map fun v => (4, v) := by
          rw [← hlength]
          exact zip_replicate subids
        rw [hzip] at hback hmany
        have hsum : ((subids.map fun v => ((4, v) : Field)).map Prod.fst).sum = n_subid * 4 := by
          rw [List.map_map, show (Prod.fst ∘ fun v => ((4, v) : Field)) = fun _ => 4 from rfl,
            List.map_const', List.sum_replicate, smul_eq_mul, hlength]
        rw [hsum] at hmany
        have htake : (bs.take 4).length = 4 := hfour
        rw [List.length_take] at htake hmany
        rw [List.length_drop] at hmany
        refine ⟨hlength.symm, ?_, ?_⟩
        · show 4 + 4 * n_subid ≤ bs.length
          omega
        · show struct_pack e ([(1, n_subid), (1, prefix_), (1, include_), (1, reserved)] ++
            subids.map fun subid => (4, subid)) = .ok (bs.take (4 + 4 * n_subid))
          have h1 := struct_pack_eq_ok.mp hfront
          simp only [List.zip_cons_cons, List.zip_nil_right] at h1
          rw [struct_pack_eq_ok, packs_append, h1, Nat.mul_comm, List.take_add]
          show (packs e (subids.map fun subid => (4, subid))).map _ = _
          rw [struct_pack_eq_ok.mp hback]
          rfl
  · cases h
  · cases h

theorem writesBack : WritesBack (to_bytes · e) (from_bytes · e) size :=
  fun _ _ h => (of_from_bytes h).2

end ObjectIdentifier

/-! ### Search ranges -/

namespace SearchRange

variable {sr : SearchRange} {e : Order}

def Counted (sr : SearchRange) : Prop := sr.start.Counted ∧ sr.end_.Counted

theorem size_pos (sr : SearchRange) : 0 < sr.size := by
  show 0 < 4 + 4 * sr.start.n_subid + (4 + 4 * sr.end_.n_subid)
  omega

theorem readsBack (h : sr.Counted) : ReadsBack (to_bytes · e) (from_bytes · e) size sr := by
  intro bs hbs
  obtain ⟨front, hfront, hbs⟩ := bind_eq_ok.mp hbs
  obtain ⟨back, hback, hbs⟩ := bind_eq_ok.mp hbs
  obtain rfl := (Except.ok.inj hbs).symm
  obtain ⟨hlen, hstart⟩ := ObjectIdentifier.readsBack h.1 front hfront
  obtain ⟨hlen', hend⟩ := ObjectIdentifier.readsBack h.2 back hback
  refine ⟨?_, fun rest => ?_⟩
  · rw [List.length_append, hlen, hlen', size]
  · have hfirst : ObjectIdentifier.from_bytes (front ++ (back ++ rest)) e = .ok sr.start :=
      hstart _
    have hsecond : ObjectIdentifier.from_bytes (back ++ rest) e = .ok sr.end_ := hend _
    show from_bytes (front ++ back ++ rest) e = _
    rw [from_bytes, List.append_assoc, hfirst]
    show ObjectIdentifier.from_bytes ((front ++ (back ++ rest)).drop sr.start.size) e >>= _ = _
    rw [List.drop_left' hlen, hsecond]
    rfl

theorem of_from_bytes {bs : List UInt8} (h : from_bytes bs e = .ok sr) :
    sr.Counted ∧ sr.size ≤ bs.length ∧ sr.to_bytes e = .ok (bs.take sr.size) := by
  obtain ⟨start, hstart, h⟩ := bind_eq_ok.mp h
  obtain ⟨end_, hend, h⟩ := bind_eq_ok.mp h
  obtain rfl := (Except.ok.inj h).symm
  obtain ⟨hcounted, hlen, hwrite⟩ := ObjectIdentifier.of_from_bytes hstart
  obtain ⟨hcounted', hlen', hwrite'⟩ := ObjectIdentifier.of_from_bytes hend
  rw [List.length_drop] at hlen'
  refine ⟨⟨hcounted, hcounted'⟩, ?_, ?_⟩
  · show start.size + end_.size ≤ bs.length
    omega
  · show start.to_bytes e >>= _ = Except.ok (bs.take (start.size + end_.size))
    rw [hwrite, List.take_add]
    show end_.to_bytes e >>= _ = _
    rw [hwrite']
    rfl

theorem writesBack : WritesBack (to_bytes · e) (from_bytes · e) size :=
  fun _ _ h => (of_from_bytes h).2

end SearchRange

/-! ### Octet strings -/

namespace OctetString

variable {os : OctetString} {e : Order}

/-- The length is that of the string, and the padding fills it up. -/
def Padded (os : OctetString) : Prop :=
  os.string.length = os.length ∧ os.padding.length = pad4 os.length

theorem countedString_of_length {n : ℕ} {bs : List UInt8} (h : bs.length = n) :
    countedString n bs = bs := by
  rw [countedString, h, Nat.sub_self, List.take_of_length_le (le_of_eq h)]
  exact List.append_nil bs

theorem length_countedString (n : ℕ) (bs : List UInt8) : (countedString n bs).length = n := by
  rw [countedString, List.length_append, List.length_take, List.length_replicate]
  omega

theorem length_to_bytes {bs : List UInt8} (h : os.to_bytes e = .ok bs) : bs.length = os.size := by
  obtain ⟨front, hfront, h⟩ := bind_eq_ok.mp h
  obtain rfl := (Except.ok.inj h).symm
  rw [List.length_append, List.length_append, length_countedString, length_countedString,
    length_struct_pack hfront]
  rfl

theorem readsBack (h : os.Padded) : ReadsBack (to_bytes · e) (from_bytes · e) size os := by
  intro bs hbs
  refine ⟨length_to_bytes hbs, fun rest => ?_⟩
  obtain ⟨front, hfront, hbs⟩ := bind_eq_ok.mp hbs
  obtain rfl := (Except.ok.inj hbs).symm
  have hfour : front.length = 4 := length_struct_pack hfront
  have hhead : struct_unpack e [4] front = .ok [os.length] := struct_unpack_pack hfront
  show from_bytes (front ++ countedString os.length os.string ++
    countedString (pad4 os.length) os.padding ++ rest) e = _
  rw [countedString_of_length h.1, countedString_of_length h.2, from_bytes, List.append_assoc,
    List.append_assoc, List.take_left' hfour, hhead]
  have hlong : ¬ (front ++ (os.string ++ (os.padding ++ rest))).length <
      4 + os.length + pad4 os.length := by
    simp only [List.length_append, hfour, h.1, h.2]
    omega
  have hstring : ((front ++ (os.string ++ (os.padding ++ rest))).drop 4).take os.length =
      os.string := by
    rw [List.drop_left' hfour, List.take_left' h.1]
  have hpadding : ((front ++ (os.string ++ (os.padding ++ rest))).drop (4 + os.length)).take
      (pad4 os.length) = os.padding := by
    rw [← List.drop_drop, List.drop_left' hfour, List.drop_left' h.1, List.take_left' h.2]
  show (if _ then _ else _) = _
  rw [if_neg hlong, hstring, hpadding]

theorem of_from_bytes {bs : List UInt8} (h : from_bytes bs e = .ok os) :
    os.Padded ∧ os.size ≤ bs.length ∧ os.to_bytes e = .ok (bs.take os.size) := by
  unfold from_bytes at h
  split at h
  · next string_length hhead =>
      dsimp only at h
      split at h
      · cases h
      next hlong =>
      obtain rfl := (Except.ok.inj h).symm
      obtain ⟨hfront, -⟩ := struct_pack_unpack hhead
      have hstring : ((bs.drop 4).take string_length).length = string_length := by
        rw [List.length_take, List.length_drop]
        omega
      have hpadding : ((bs.drop (4 + string_length)).take (pad4 string_length)).length =
          pad4 string_length := by
        rw [List.length_take, List.length_drop]
        omega
      refine ⟨⟨hstring, hpadding⟩, not_lt.mp hlong, ?_⟩
      show struct_pack e [(4, string_length)] >>= _ =
        Except.ok (bs.take (4 + string_length + pad4 string_length))
      rw [show struct_pack e [(4, string_length)] = .ok (bs.take 4) from hfront]
      show Except.ok (bs.take 4 ++ countedString string_length _ ++ countedString _ _) = _
      rw [countedString_of_length hstring, countedString_of_length hpadding, List.take_add,
        List.take_add]
  · cases h
  · cases h

theorem writesBack : WritesBack (to_bytes · e) (from_bytes · e) size :=
  fun _ _ h => (of_from_bytes h).2

end OctetString

/-! ### Variable bindings -/

namespace ValueRepresentation

variable {e : Order}

/-- Data that is read from bytes: a number is one of its width. -/
def DataReadable : (s : Shape) → s.Data → Prop
  | .four_bytes, n => 0 ≤ n ∧ n < 2 ^ 32
  | .eight_bytes, n => 0 ≤ n ∧ n < 2 ^ 64
  | .object_identifier, oid => oid.Counted
  | .octet_string, os => os.Padded
  | .empty, _ => True

def Readable (vr : ValueRepresentation) : Prop :=
  vr.name.Counted ∧ DataReadable vr.type_.shape vr.data

/-- A number that is not cut is read back. -/
theorem unpack1_packed (width : ℕ) {n : ℤ} {bs : List UInt8} (hn : 0 ≤ n)
    (hlt : n < 2 ^ (8 * width))
    (h : struct_pack e [(width, (n % 2 ^ (8 * width)).toNat)] = .ok bs) (rest : List UInt8) :
    bs.length = width ∧
      (struct_unpack1 e width ((bs ++ rest).take width)).map Int.ofNat = .ok n := by
  have hlen : bs.length = width := length_struct_pack h
  rw [Int.emod_eq_of_lt hn hlt] at h
  refine ⟨hlen, ?_⟩
  rw [List.take_left' hlen, struct_unpack1_pack h]
  exact congrArg Except.ok (Int.toNat_of_nonneg hn)

theorem data_readsBack (s : Shape) (d : s.Data) (h : DataReadable s d) :
    ReadsBack (packData e s) (unpackData e · s) (dataSize s) d := by
  intro bs hbs
  cases s with
  | four_bytes =>
    have hback := unpack1_packed 4 h.1 h.2 hbs
    exact ⟨(hback []).1, fun rest => (hback rest).2⟩
  | eight_bytes =>
    have hback := unpack1_packed 8 h.1 h.2 hbs
    exact ⟨(hback []).1, fun rest => (hback rest).2⟩
  | object_identifier => exact ObjectIdentifier.readsBack h bs hbs
  | octet_string => exact OctetString.readsBack h bs hbs
  | empty =>
    obtain rfl := (Except.ok.inj hbs).symm
    exact ⟨rfl, fun _ => rfl⟩

/-- A number that is read fits its width and is written as the bytes read. -/
theorem packed_unpack1 (width : ℕ) {n : ℤ} {bs : List UInt8}
    (h : (struct_unpack1 e width (bs.take width)).map Int.ofNat = .ok n) :
    (0 ≤ n ∧ n < 2 ^ (8 * width)) ∧ width ≤ bs.length ∧
      struct_pack e [(width, (n % 2 ^ (8 * width)).toNat)] = .ok (bs.take width) := by
  cases hread : struct_unpack1 e width (bs.take width) with
  | error err =>
    rw [hread] at h
    cases h
  | ok m =>
    rw [hread] at h
    obtain rfl := (Except.ok.inj h).symm
    obtain ⟨hpack, hlen⟩ := struct_pack_unpack1 hread
    have hm : m < 256 ^ width := fits_of_struct_pack hpack (width, m) List.mem_cons_self
    have hlt : (m : ℤ) < 2 ^ (8 * width) := by
      rw [pow_mul, show (2 : ℤ) ^ 8 = 256 from rfl]
      exact_mod_cast hm
    rw [List.length_take] at hlen
    refine ⟨⟨Int.natCast_nonneg m, hlt⟩, by omega, ?_⟩
    show struct_pack e [(width, ((m : ℤ) % 2 ^ (8 * width)).toNat)] = _
    rw [Int.emod_eq_of_lt (Int.natCast_nonneg m) hlt]
    exact hpack

theorem of_unpackData (s : Shape) {d : s.Data} {bs : List UInt8} (h : unpackData e bs s = .ok d) :
    DataReadable s d ∧ dataSize s d ≤ bs.length ∧
      packData e s d = .ok (bs.take (dataSize s d)) := by
  cases s with
  | four_bytes => exact packed_unpack1 4 h
  | eight_bytes => exact packed_unpack1 8 h
  | object_identifier => exact ObjectIdentifier.of_from_bytes h
  | octet_string => exact OctetString.of_from_bytes h
  | empty => exact ⟨trivial, Nat.zero_le _, rfl⟩

theorem ofCode_code (t : ValueType) : ValueType.ofCode t.code = .ok t := by
  cases t <;> rfl

theorem code_of_ofCode {n : ℕ} {t : ValueType} (h : ValueType.ofCode n = .ok t) : t.code = n := by
  unfold ValueType.ofCode at h
  split at h
  · next found hfound =>
      obtain rfl := Except.ok.inj h
      have hcode := List.find?_some hfound
      exact of_decide_eq_true hcode
  · cases h

variable {vr : ValueRepresentation}

theorem size_pos : 0 < vr.size := by
  show 0 < 4 + (4 + 4 * vr.name.n_subid) + dataSize vr.type_.shape vr.data
  omega

theorem readsBack (h : vr.Readable) : ReadsBack (to_bytes · e) (from_bytes · e) size vr := by
  intro bs hbs
  obtain ⟨type_, reserved, name, data⟩ := vr
  obtain ⟨head, hhead, hbs⟩ := bind_eq_ok.mp hbs
  obtain ⟨front, hfront, hbs⟩ := bind_eq_ok.mp hbs
  obtain ⟨back, hback, hbs⟩ := bind_eq_ok.mp hbs
  obtain rfl := (Except.ok.inj hbs).symm
  have hfour : head.length = 4 := length_struct_pack hhead
  obtain ⟨hlen, hname⟩ := ObjectIdentifier.readsBack h.1 front hfront
  obtain ⟨hlen', hdata⟩ := data_readsBack type_.shape data h.2 back hback
  refine ⟨?_, fun rest => ?_⟩
  · rw [List.length_append, List.length_append, hfour, hlen, hlen']
    rfl
  · have hcode : struct_unpack e [2, 2] head = .ok [type_.code, reserved] :=
      struct_unpack_pack hhead
    have hfirst : ObjectIdentifier.from_bytes (front ++ (back ++ rest)) e = .ok name := hname _
    have hsecond : unpackData e (back ++ rest) type_.shape = .ok data := hdata _
    show from_bytes (head ++ front ++ back ++ rest) e = _
    rw [from_bytes, List.append_assoc, List.append_assoc, List.take_left' hfour, hcode]
    show ObjectIdentifier.from_bytes ((head ++ (front ++ (back ++ rest))).drop 4) e >>= _ = _
    rw [List.drop_left' hfour, hfirst]
    show ValueType.ofCode type_.code >>= _ = _
    rw [ofCode_code]
    show unpackData e ((head ++ (front ++ (back ++ rest))).drop (4 + name.size)) type_.shape >>= _
      = _
    rw [← List.drop_drop, List.drop_left' hfour, List.drop_left' hlen, hsecond]
    rfl

theorem of_from_bytes {bs : List UInt8} (h : from_bytes bs e = .ok vr) :
    vr.Readable ∧ vr.size ≤ bs.length ∧ vr.to_bytes e = .ok (bs.take vr.size) := by
  unfold from_bytes at h
  split at h
  · next type_ reserved hhead =>
      obtain ⟨name, hname, h⟩ := bind_eq_ok.mp h
      obtain ⟨type_, htype, h⟩ := bind_eq_ok.mp h
      obtain ⟨data, hdata, h⟩ := bind_eq_ok.mp h
      obtain rfl := (Except.ok.inj h).symm
      obtain rfl := code_of_ofCode htype
      obtain ⟨hfront, -⟩ := struct_pack_unpack hhead
      obtain ⟨hcounted, hlen, hwrite⟩ := ObjectIdentifier.of_from_bytes hname
      obtain ⟨hreadable, hlen', hwrite'⟩ := of_unpackData type_.shape hdata
      have hnamesize : 4 ≤ name.size := Nat.le_add_right 4 _
      rw [List.length_drop] at hlen hlen'
      refine ⟨⟨hcounted, hreadable⟩, ?_, ?_⟩
      · show 4 + name.size + dataSize type_.shape data ≤ bs.length
        omega
      · show struct_pack e [(2, type_.code), (2, reserved)] >>= _ =
          Except.ok (bs.take (4 + name.size + dataSize type_.shape data))
        rw [show struct_pack e [(2, type_.code), (2, reserved)] = .ok (bs.take 4) from hfront]
        show name.to_bytes e >>= _ = _
        rw [hwrite]
        show packData e type_.shape data >>= _ = _
        rw [hwrite', List.take_add, List.take_add]
        rfl
  · cases h
  · cases h

theorem writesBack : WritesBack (to_bytes · e) (from_bytes · e) size :=
  fun _ _ h => (of_from_bytes h).2

end ValueRepresentation

end AgentX
