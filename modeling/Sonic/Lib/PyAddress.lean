/-
Lib/PyAddress.lean

Numbers and internet addresses as text, as Python reads them.

`int` takes blanks around the number, a sign, and single underscores between its digits.
`IPv4Address` and `IPv6Address` are the readers of the library `ipaddress`.  The reader of
IPv6 addresses cuts the text at every colon, and lets the one empty part of a `::` stand for as
many groups as are missing.  Reading every empty part as one zero group instead gives the
groups of the address exactly if the text has eight parts and no dotted tail
(`groupParts_eq_iff`).
-/
import Sonic.Lib.Numeral
import Sonic.Lib.PyText

namespace PyText

open Numeral

/-! ### Blanks and numbers -/

/-- The blanks of `str.isspace`. -/
def isspace (c : Char) : Bool :=
  let n := c.toNat
  (9 ≤ n ∧ n ≤ 13) ∨ (28 ≤ n ∧ n ≤ 32) ∨ n = 0x85 ∨ n = 0xa0 ∨ n = 0x1680 ∨
    (0x2000 ≤ n ∧ n ≤ 0x200a) ∨ n = 0x2028 ∨ n = 0x2029 ∨ n = 0x202f ∨ n = 0x205f ∨ n = 0x3000

/-- `s.strip()`. -/
def strip (s : String) : String :=
  String.ofList (((s.toList.dropWhile isspace).reverse.dropWhile isspace).reverse)

/-- The digits after the first one; an underscore stands between two of them only. -/
def moreDigits (b acc : ℕ) : List Char → Option ℕ
  | [] => some acc
  | '_' :: c :: cs =>
    if isDigit b c then moreDigits b (b * acc + (digitVal c).getD 0) cs else none
  | c :: cs => if isDigit b c then moreDigits b (b * acc + (digitVal c).getD 0) cs else none

/-- A number without a sign. -/
def unsigned (b : ℕ) : List Char → Option ℕ
  | [] => none
  | c :: cs => if isDigit b c then moreDigits b ((digitVal c).getD 0) cs else none

/-- The mark of base sixteen, which may be followed by an underscore. -/
def dropMark (b : ℕ) : List Char → List Char
  | '0' :: x :: '_' :: cs =>
    if b = 16 ∧ (x = 'x' ∨ x = 'X') then cs else '0' :: x :: '_' :: cs
  | '0' :: x :: cs => if b = 16 ∧ (x = 'x' ∨ x = 'X') then cs else '0' :: x :: cs
  | cs => cs

/-- `int(s, b)`; `none` is a `ValueError`. -/
def int (b : ℕ) (s : String) : Option ℤ :=
  match (strip s).toList with
  | '-' :: cs => (unsigned b (dropMark b cs)).map fun n : ℕ => -(n : ℤ)
  | '+' :: cs => (unsigned b (dropMark b cs)).map Int.ofNat
  | cs => (unsigned b (dropMark b cs)).map Int.ofNat

/-! ### Addresses -/

/-- `_parse_octet` -/
def parse_octet (octet_str : String) : Option ℤ :=
  if octet_str = "" then none
  else if ¬ octet_str.toList.all (isDigit 10) then none
  else if 3 < octet_str.toList.length then none
  else match int 10 octet_str with
    | none => none
    | some octet_int =>
      -- an octet with a leading zero might be meant as an octal one
      if 7 < octet_int ∧ octet_str.toList.head? = some '0' then none
      else if 255 < octet_int then none
      else some octet_int

/-- The octets of `IPv4Address(ip_str)`; `none` is an `AddressValueError`. -/
def IPv4Address (ip_str : String) : Option (List ℤ) :=
  let octets := split '.' ip_str
  if octets.length ≠ 4 then none else octets.mapM parse_octet

/-- `_parse_hextet` -/
def parse_hextet (hextet_str : String) : Option ℤ :=
  if ¬ hextet_str.toList.all (isDigit 16) then none
  else if 4 < hextet_str.toList.length then none
  else int 16 hextet_str

/-- The text of a group in base sixteen. -/
def hexGroup (n : ℤ) : String := String.ofList (Nat.toDigits 16 n.toNat)

/-- An IPv4 address at the end of an IPv6 address is two groups. -/
def expandTail (parts : List String) : Option (List String) :=
  match parts.getLast? with
  | none => some parts
  | some last =>
    if '.' ∈ last.toList then
      match IPv4Address last with
      | some [a, b, c, d] =>
        some (parts.dropLast ++ [hexGroup (256 * a + b), hexGroup (256 * c + d)])
      | _ => none
    else some parts

/-- The groups before the missing ones, how many are missing, and the groups after them. -/
def layout (parts : List String) : Option (List String × ℕ × List String) :=
  let n := parts.length
  match (List.range' 1 (n - 2)).filter (fun i => parts[i]? = some "") with
  | [] =>
    if n ≠ 8 ∨ parts.head? = some "" ∨ parts.getLast? = some "" then none
    else some (parts, 0, [])
  | [skip_index] =>
    let parts_hi := skip_index
    let parts_lo := n - skip_index - 1
    -- a first or last part that is empty belongs to the `::`
    let hi := if parts.head? = some "" then parts_hi - 1 else parts_hi
    let lo := if parts.getLast? = some "" then parts_lo - 1 else parts_lo
    if parts.head? = some "" ∧ hi ≠ 0 then none
    else if parts.getLast? = some "" ∧ lo ≠ 0 then none
    else if 8 < hi + lo + 1 then none
    else some (parts.take hi, 8 - (hi + lo), parts.drop (n - lo))
  | _ => none

/-- The groups of `IPv6Address(ip_str)`; `none` is an `AddressValueError`. -/
def IPv6Address (ip_str : String) : Option (List ℤ) := do
  let parts := split ':' ip_str
  if parts.length < 3 then none
  else do
    let parts ← expandTail parts
    if 9 < parts.length then none
    else do
      let (his, skipped, los) ← layout parts
      let his ← his.mapM parse_hextet
      let los ← los.mapM parse_hextet
      some (his ++ List.replicate skipped 0 ++ los)

/-! ### Every part a group -/

/-- A part of the text as a group, if the empty part is the group zero. -/
def groupPart (part : String) : Option ℤ := if part = "" then some 0 else int 16 part

/-- The parts between the colons, each read as a group. -/
def groupParts (ip_str : String) : Option (List ℤ) := (split ':' ip_str).mapM groupPart

variable {parts his mids los : List String} {gs ns ms : List ℤ} {s part : String} {n : ℤ}

theorem groupPart_of_hextet (h : parse_hextet part = some n) : groupPart part = some n := by
  unfold parse_hextet at h
  split_ifs at h with _ hlen
  have hne : part ≠ "" := by
    rintro rfl
    cases h
  rw [groupPart, if_neg hne]
  exact h

theorem mapM_groupPart (h : parts.mapM parse_hextet = some ns) :
    parts.mapM groupPart = some ns := by
  induction parts generalizing ns with
  | nil => exact h
  | cons part parts ih =>
    simp only [List.mapM_cons, Option.bind_eq_bind, Option.bind_eq_some_iff] at h ⊢
    obtain ⟨n, hn, ms, hms, heq⟩ := h
    exact ⟨n, groupPart_of_hextet hn, ms, ih hms, heq⟩

/-- Empty parts are zeros. -/
theorem mapM_groupPart_empty (h : ∀ part ∈ mids, part = "") :
    mids.mapM groupPart = some (List.replicate mids.length 0) := by
  induction mids with
  | nil => rfl
  | cons part parts ih =>
    obtain rfl := h part List.mem_cons_self
    rw [List.mapM_cons, ih fun q hq => h q (List.mem_cons_of_mem _ hq)]
    rfl

theorem length_of_mapM {f : String → Option ℤ} (h : parts.mapM f = some ns) :
    ns.length = parts.length := by
  induction parts generalizing ns with
  | nil =>
    obtain rfl : [] = ns := Option.some.inj h
    rfl
  | cons part parts ih =>
    simp only [List.mapM_cons, Option.bind_eq_bind, Option.bind_eq_some_iff] at h
    obtain ⟨n, -, ms, hms, heq⟩ := h
    obtain rfl := Option.some.inj heq
    rw [List.length_cons, List.length_cons, ih hms]

theorem exists_of_mapM {f : String → Option ℤ} (h : parts.mapM f = some ns)
    (hpart : part ∈ parts) : ∃ n, f part = some n := by
  induction parts generalizing ns with
  | nil => cases hpart
  | cons first parts ih =>
    simp only [List.mapM_cons, Option.bind_eq_bind, Option.bind_eq_some_iff] at h
    obtain ⟨n, hn, ms, hms, -⟩ := h
    rcases List.mem_cons.mp hpart with rfl | hpart
    · exact ⟨n, hn⟩
    · exact ih hms hpart

/-- The parts that `layout` leaves out are empty, and its groups are eight. -/
theorem layout_spec {skipped : ℕ} (h : layout parts = some (his, skipped, los)) :
    ∃ mids, parts = his ++ mids ++ los ∧ (∀ part ∈ mids, part = "") ∧
      his.length + skipped + los.length = 8 := by
  unfold layout at h
  simp only at h
  split at h
  · split_ifs at h with hbad
    obtain ⟨rfl, rfl, rfl⟩ : parts = his ∧ 0 = skipped ∧ [] = los := by simpa using h
    refine ⟨[], ?_, nofun, ?_⟩
    · rw [List.append_nil, List.append_nil]
    · exact not_not.mp fun hn => hbad (Or.inl hn)
  · rename_i k hk
    have hkmem : k ∈ (List.range' 1 (parts.length - 2)).filter fun i => parts[i]? = some "" := by
      rw [hk]
      exact List.mem_singleton_self k
    obtain ⟨hrange, hempty⟩ := List.mem_filter.mp hkmem
    have hempty : parts[k]? = some "" := of_decide_eq_true hempty
    obtain ⟨hk1, hk2⟩ : 1 ≤ k ∧ k < parts.length - 1 := by
      rw [List.mem_range'_1] at hrange
      omega
    have hhead : ∀ i, i = 0 → parts.head? = some "" → parts[i]? = some "" := by
      rintro i rfl hh
      rwa [← List.head?_eq_getElem?]
    have hlast : ∀ i, i + 1 = parts.length → parts.getLast? = some "" → parts[i]? = some "" := by
      intro i hi hh
      rwa [List.getLast?_eq_getElem?, show parts.length - 1 = i by omega] at hh
    generalize hhi : (if parts.head? = some "" then k - 1 else k) = hi at h
    generalize hlo : (if parts.getLast? = some "" then parts.length - k - 1 - 1
      else parts.length - k - 1) = lo at h
    split_ifs at h with hbadHead hbadLast hlong
    obtain ⟨rfl, rfl, rfl⟩ : parts.take hi = his ∧ 8 - (hi + lo) = skipped ∧
        parts.drop (parts.length - lo) = los := by simpa using h
    -- what is left out is the empty part of the `::` and an empty part at an end
    have hhik : hi ≤ k ∧ ∀ i, hi ≤ i → i < k → parts[i]? = some "" := by
      split_ifs at hhi with hc
      · have hzero : hi = 0 := not_not.mp fun hn => hbadHead ⟨hc, hn⟩
        exact ⟨by omega, fun i _ hik => hhead i (by omega) hc⟩
      · exact ⟨hhi.ge, fun i hi' hik => by omega⟩
    have hlok : k + 1 ≤ parts.length - lo ∧
        ∀ i, k < i → i < parts.length - lo → parts[i]? = some "" := by
      split_ifs at hlo with hc
      · have hzero : lo = 0 := not_not.mp fun hn => hbadLast ⟨hc, hn⟩
        exact ⟨by omega, fun i hki hi' => hlast i (by omega) hc⟩
      · exact ⟨by omega, fun i hki hi' => by omega⟩
    refine ⟨(parts.take (parts.length - lo)).drop hi, ?_, ?_, ?_⟩
    · have hhere : parts.take hi = (parts.take (parts.length - lo)).take hi := by
        rw [List.take_take, min_eq_left (by omega)]
      rw [hhere, List.take_append_drop, List.take_append_drop]
    · intro part hpart
      obtain ⟨j, hj⟩ := List.mem_iff_getElem?.mp hpart
      rw [List.getElem?_drop, List.getElem?_take] at hj
      split_ifs at hj with hlt
      have hsome : parts[hi + j]? = some "" := by
        rcases lt_trichotomy (hi + j) k with hlt' | heq | hgt
        · exact hhik.2 _ (by omega) hlt'
        · rwa [heq]
        · exact hlok.2 _ hgt hlt
      rw [hsome] at hj
      exact (Option.some.inj hj).symm
    · rw [List.length_take, List.length_drop]
      omega
  · cases h

theorem expandTail_eq (h : ∀ last ∈ parts.getLast?, '.' ∉ last.toList) :
    expandTail parts = some parts := by
  unfold expandTail
  cases hlast : parts.getLast? with
  | none => rfl
  | some last => exact if_neg (h last hlast)

/-- What is known of a text that is an IPv6 address. -/
theorem exists_of_IPv6Address (h : IPv6Address s = some gs) :
    ∃ parts his skipped los ns ms, expandTail (split ':' s) = some parts ∧
      layout parts = some (his, skipped, los) ∧ his.mapM parse_hextet = some ns ∧
      los.mapM parse_hextet = some ms ∧ gs = ns ++ List.replicate skipped 0 ++ ms := by
  unfold IPv6Address at h
  simp only at h
  split_ifs at h with hmin
  obtain ⟨parts, hparts, h⟩ := Option.bind_eq_some_iff.mp h
  split_ifs at h with hmax
  obtain ⟨⟨his, skipped, los⟩, hlayout, h⟩ := Option.bind_eq_some_iff.mp h
  obtain ⟨ns, hns, h⟩ := Option.bind_eq_some_iff.mp h
  obtain ⟨ms, hms, h⟩ := Option.bind_eq_some_iff.mp h
  exact ⟨parts, his, skipped, los, ns, ms, hparts, hlayout, hns, hms, (Option.some.inj h).symm⟩

/-- An IPv6 address has eight groups. -/
theorem length_IPv6Address (h : IPv6Address s = some gs) : gs.length = 8 := by
  obtain ⟨parts, his, skipped, los, ns, ms, -, hlayout, hns, hms, rfl⟩ := exists_of_IPv6Address h
  obtain ⟨-, -, -, height⟩ := layout_spec hlayout
  rw [List.length_append, List.length_append, List.length_replicate, length_of_mapM hns,
    length_of_mapM hms]
  exact height

/-- Digits have no dot among them. -/
theorem dot_not_mem_moreDigits {b acc n : ℕ} (hb : isDigit b '.' = false) {cs : List Char}
    (h : moreDigits b acc cs = some n) : '.' ∉ cs := by
  fun_induction moreDigits b acc cs with
  | case1 => exact List.not_mem_nil
  | case2 acc c cs hc ih =>
    have hdot : '.' ≠ c := by
      rintro rfl
      exact Bool.false_ne_true (hb.symm.trans hc)
    rw [List.mem_cons, List.mem_cons]
    rintro (hu | hd | hrest)
    · exact absurd hu (by decide)
    · exact hdot hd
    · exact ih h hrest
  | case3 => cases h
  | case4 acc c cs _ hc ih =>
    have hdot : '.' ≠ c := by
      rintro rfl
      exact Bool.false_ne_true (hb.symm.trans hc)
    rw [List.mem_cons]
    rintro (hd | hrest)
    · exact hdot hd
    · exact ih h hrest
  | case5 => cases h

theorem dot_not_mem_unsigned {b n : ℕ} (hb : isDigit b '.' = false) {cs : List Char}
    (h : unsigned b cs = some n) : '.' ∉ cs := by
  cases cs with
  | nil => exact List.not_mem_nil
  | cons c cs =>
    rw [unsigned] at h
    split_ifs at h with hc
    rw [List.mem_cons]
    rintro (rfl | hrest)
    · exact Bool.false_ne_true (hb.symm.trans hc)
    · exact dot_not_mem_moreDigits hb h hrest

theorem dot_mem_dropMark {b : ℕ} {cs : List Char} (h : '.' ∈ cs) : '.' ∈ dropMark b cs := by
  fun_cases dropMark b cs <;> aesop

theorem dot_mem_strip (h : '.' ∈ s.toList) : '.' ∈ (strip s).toList := by
  have hdrop : ∀ {l : List Char}, '.' ∈ l → '.' ∈ l.dropWhile isspace := by
    intro l hl
    rw [← List.takeWhile_append_dropWhile (p := isspace) (l := l)] at hl
    rcases List.mem_append.mp hl with hl | hl
    · exact absurd (List.mem_takeWhile_imp hl) (by decide)
    · exact hl
  rw [strip, String.toList_ofList, List.mem_reverse]
  exact hdrop (List.mem_reverse.mpr (hdrop h))

/-- A number has no dot in it. -/
theorem dot_not_mem_int (h : int 16 s = some n) : '.' ∉ s.toList := by
  intro hdot
  have hnot : isDigit 16 '.' = false := by decide
  have hstrip := dot_mem_strip hdot
  unfold int at h
  have hcs : ∀ {cs : List Char} {m : ℕ}, unsigned 16 (dropMark 16 cs) = some m → '.' ∉ cs :=
    fun hm hmem => dot_not_mem_unsigned hnot hm (dot_mem_dropMark hmem)
  split at h
  · rename_i cs heq
    rw [heq] at hstrip
    obtain ⟨m, hm, -⟩ := Option.map_eq_some_iff.mp h
    exact hcs hm ((List.mem_cons.mp hstrip).resolve_left (by decide))
  · rename_i cs heq
    rw [heq] at hstrip
    obtain ⟨m, hm, -⟩ := Option.map_eq_some_iff.mp h
    exact hcs hm ((List.mem_cons.mp hstrip).resolve_left (by decide))
  · obtain ⟨m, hm, -⟩ := Option.map_eq_some_iff.mp h
    exact hcs hm hstrip

/-- **The parts of an IPv6 address are its groups exactly if it has eight parts and no dotted
tail.** -/
theorem groupParts_eq_iff (h : IPv6Address s = some gs) :
    groupParts s = some gs ↔
      (split ':' s).length = 8 ∧ ∀ last ∈ (split ':' s).getLast?, '.' ∉ last.toList := by
  constructor
  · intro hg
    refine ⟨(length_of_mapM hg).symm.trans (length_IPv6Address h), fun last hlast => ?_⟩
    obtain ⟨n, hn⟩ := exists_of_mapM hg (List.mem_of_getLast? hlast)
    rw [groupPart] at hn
    split_ifs at hn with hempty
    · rw [hempty]
      exact List.not_mem_nil
    · exact dot_not_mem_int hn
  · rintro ⟨hlen, hdot⟩
    obtain ⟨parts, his, skipped, los, ns, ms, hparts, hlayout, hns, hms, rfl⟩ :=
      exists_of_IPv6Address h
    obtain rfl := Option.some.inj ((expandTail_eq hdot).symm.trans hparts)
    obtain ⟨mids, heq, hmids, height⟩ := layout_spec hlayout
    have hskipped : mids.length = skipped := by
      have := congrArg List.length heq
      simp only [List.length_append] at this
      omega
    rw [groupParts, heq, List.mapM_append, List.mapM_append, mapM_groupPart hns,
      mapM_groupPart_empty hmids, mapM_groupPart hms, hskipped]
    rfl

example : IPv6Address "fe80::1" = some [0xfe80, 0, 0, 0, 0, 0, 0, 1] := by decide

example : IPv6Address "::ffff:10.0.0.1" = some [0, 0, 0, 0, 0, 0xffff, 0xa00, 1] := by decide

example : groupParts "fe80::1" = some [0xfe80, 0, 1] := by decide

end PyText
