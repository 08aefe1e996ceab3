/-
Orchagent/AclFaithful.lean

When the values of an ACL rule are the numbers that its attributes write (`FaithfulPriority`,
`FaithfulMatch`).

A text writes a number if all of it is read and the number is in the range of its field.  The
readers take more: a number that wraps into the range (`Negative`, and those beyond 32 bits of
a priority or of a range), a text with a null character after the number (`EndsAtNull`), what
follows a range, and the parts of a masked number that are not looked at.
-/
import Sonic.Orchagent.AclMatches

namespace Orchagent.AclMatch

open Numeral Swss

/-! ### What a text writes -/

/-- The text is a number of at most `max`. -/
def DenotesNumber (max : ℕ) (text : List Char) (n : ℕ) : Prop :=
  readInt true text = some ((n : ℤ), []) ∧ n ≤ max

/-- The text is two port numbers in their order, with a dash between them. -/
def DenotesRange (text : List Char) (min max : ℕ) : Prop :=
  ∃ a b, text = a ++ '-' :: b ∧ readInt false a = some ((min : ℤ), []) ∧
    readInt false b = some ((max : ℤ), []) ∧ min ≤ max ∧ max ≤ USHRT_MAX

/-- The ways in which the text of a field writes numbers. -/
inductive Form
  | number (max : ℕ)
  | masked (max : ℕ)
  | range
  /-- no number: ports, a prefix, a kind of IP packets -/
  | other

def form : MatchField → Form
  | .TCP_FLAGS | .DSCP => .masked 0x3F
  | .L4_SRC_PORT | .L4_DST_PORT | .ETHER_TYPE | .INNER_L4_SRC_PORT | .INNER_L4_DST_PORT
  | .INNER_ETHER_TYPE => .number 0xFFFF
  | .IP_PROTOCOL | .INNER_IP_PROTOCOL | .TC | .ICMP_TYPE | .ICMP_CODE | .ICMPV6_TYPE
  | .ICMPV6_CODE => .number 0xFF
  | .TUNNEL_VNI => .number 0xFFFFFFFF
  | .L4_SRC_PORT_RANGE | .L4_DST_PORT_RANGE => .range
  | .IN_PORTS | .OUT_PORTS | .SRC_IP | .DST_IP | .SRC_IPV6 | .DST_IPV6 | .IP_TYPE => .other

/-- The text writes the value: a number with the full mask, a number and its mask, a range. -/
def Denotes : Form → List Char → MatchValue → Prop
  | .number max, text, v => ∃ n, DenotesNumber max text n ∧ v = .number n max
  | .masked max, text, v =>
    (∃ n, DenotesNumber max text n ∧ v = .number n max) ∨
      ∃ a b n m, text = a ++ '/' :: b ∧ DenotesNumber max a n ∧ DenotesNumber max b m ∧
        v = .number n m
  | .range, text, v => ∃ min max, DenotesRange text min max ∧ v = .u32range min max
  | .other, _, _ => True

/-! ### The property -/

/-- A priority is accepted only if the text is a number within the bounds of the switch, and it
is this number.  The matches stay as they are. -/
structure FaithfulPriority (rule : AclRule) (m_minPriority m_maxPriority : ℕ)
    (attr_name attr_value : String) (r : AclRule × Bool) : Prop where
  accepted : r.2 = true → attr_name = RULE_PRIORITY ∧
    readInt true attr_value.toList = some ((r.1.m_priority : ℤ), []) ∧
      m_minPriority ≤ r.1.m_priority ∧ r.1.m_priority ≤ m_maxPriority
  matches_ : r.1.m_matches = rule.m_matches

/-- A match is accepted only if the text writes the value that is stored under the field; every
other text is rejected and leaves the matches as they are. -/
structure FaithfulMatch (rule : AclRule) (attr_name attr_value : String) (o : Outcome) :
    Prop where
  defined : o ≠ .undefined
  accepted : ∀ rule', o = .returned rule' true →
    ∃ field v, aclMatchLookup.lookup attr_name = some field ∧
      Denotes (form field) attr_value.toList v ∧
      rule'.m_matches = Function.update rule.m_matches field (some v)
  rejected : ∀ rule', o = .returned rule' false → rule'.m_matches = rule.m_matches

/-! ### The condition -/

/-- The number of the text is negative. -/
def Negative (text : List Char) : Prop := ∃ n rest, readInt true text = some (n, rest) ∧ n < 0

/-- A null character follows the number. -/
def EndsAtNull (text : List Char) : Prop :=
  ∃ n rest, readInt true text = some (n, '\x00' :: rest)

def Plain (text : List Char) : Prop := ¬ Negative text ∧ ¬ EndsAtNull text

/-- A text that is refused, or a plain one. -/
def FitsNumber (max : ℕ) (text : List Char) : Prop := to_uint text max = none ∨ Plain text

/-- Not empty; and if the parts that are read are numbers, then the text is one part or two,
they are plain, and no separator is at the end. -/
def FitsMasked (max : ℕ) (text : String) : Prop :=
  match tokenize text '/' with
  | [] => False
  | a :: rest =>
    to_uint a.toList max = none ∨
      match rest with
      | [] => Plain a.toList ∧ text.toList.getLast? ≠ some '/'
      | [b] =>
        to_uint b.toList max = none ∨
          Plain a.toList ∧ Plain b.toList ∧ text.toList.getLast? ≠ some '/'
      | _ => False

/-- Two numbers with a dash between them, and what follows them. -/
def RangeText (text : List Char) (min max : ℤ) (rest : List Char) : Prop :=
  ∃ s, readInt false text = some (min, '-' :: s) ∧ readInt false s = some (max, rest)

/-- If the numbers of a range are in bounds modulo `2 ^ 32`, then they are in bounds, and
nothing follows them. -/
def FitsRange (text : List Char) : Prop :=
  ∀ min max rest, RangeText text min max rest →
    saturate min % 2 ^ 32 ≤ saturate max % 2 ^ 32 → saturate max % 2 ^ 32 ≤ 65535 →
      rest = [] ∧ (0 ≤ min ∧ min ≤ 65535) ∧ 0 ≤ max ∧ max ≤ 65535

def FitsMatch : Form → String → Prop
  | .number max, text => FitsNumber max text.toList
  | .masked max, text => FitsMasked max text
  | .range, text => FitsRange text.toList
  | .other, _ => True

/-- If the number is within the bounds modulo `2 ^ 32`, then it has 32 bits; and the empty text,
which is read as zero, is out of bounds. -/
def FitsPriority (m_minPriority m_maxPriority : ℕ) (attr_name : String) (text : List Char) : Prop :=
  attr_name = RULE_PRIORITY →
    (text = [] → ¬ (m_minPriority ≤ 0 ∧ 0 ≤ m_maxPriority)) ∧
      ∀ n, readInt true text = some (n, []) → IsLong n →
        (m_minPriority : ℤ) ≤ n % 2 ^ 32 → n % 2 ^ 32 ≤ m_maxPriority → 0 ≤ n ∧ n < 2 ^ 32

variable {rule : AclRule} {m_minPriority m_maxPriority max : ℕ} {attr_name attr_value : String}
  {text rest : List Char} {n : ℤ} {k : ℕ}

/-! ### Priorities -/

theorem faithfulPriority_iff :
    FaithfulPriority rule m_minPriority m_maxPriority attr_name attr_value
        (rule.validateAddPriority m_minPriority m_maxPriority attr_name attr_value) ↔
      FitsPriority m_minPriority m_maxPriority attr_name attr_value.toList := by
  rw [AclRule.validateAddPriority, FitsPriority]
  by_cases hname : attr_name = RULE_PRIORITY
  · rw [if_pos hname]
    simp only [hname, forall_const]
    cases hread : readInt true attr_value.toList with
    | none =>
      have hr : strtol true attr_value.toList = ⟨0, attr_value.toList, false⟩ := by
        rw [strtol, hread]
      constructor
      · intro h
        refine ⟨fun hnil hbounds => ?_, fun n hn => by cases hn⟩
        obtain ⟨-, hn, -⟩ := h.accepted (by
          rw [hr]
          simp [hnil, hbounds.1])
        rw [hread] at hn
        cases hn
      · rintro ⟨hempty, -⟩
        refine ⟨fun hacc => ?_, rfl⟩
        simp only [hr] at hacc
        have hall : attr_value.toList = [] ∧ m_minPriority ≤ 0 ∧ 0 ≤ m_maxPriority := by
          simpa [and_assoc] using hacc
        exact absurd hall.2 (hempty hall.1)
    | some p =>
      obtain ⟨n, rest⟩ := p
      have hr : strtol true attr_value.toList = ⟨saturate n, rest, !decide (IsLong n)⟩ := by
        rw [strtol, hread]
      have hmod : (((n % 2 ^ 32).toNat : ℕ) : ℤ) = n % 2 ^ 32 := by omega
      constructor
      · intro h
        refine ⟨fun hnil => ?_, fun n' hn' hlong hmin hmax => ?_⟩
        · rw [hnil, readInt_nil] at hread
          cases hread
        · obtain ⟨rfl, rfl⟩ := Prod.mk.inj (Option.some.inj hn')
          obtain ⟨-, hn, -⟩ := h.accepted (by
            simp only [hr, saturate_of_isLong hlong, decide_eq_true hlong]
            simp
            omega)
          simp only [hr, saturate_of_isLong hlong] at hn
          rw [hread] at hn
          have heq := (Prod.mk.inj (Option.some.inj hn)).1
          omega
      · rintro ⟨-, hfits⟩
        refine ⟨fun hacc => ?_, rfl⟩
        simp only [hr] at hacc ⊢
        have hall : IsLong n ∧ rest = [] ∧
            m_minPriority ≤ (saturate n % 2 ^ 32).toNat ∧
            (saturate n % 2 ^ 32).toNat ≤ m_maxPriority := by
          simpa [and_assoc] using hacc
        obtain ⟨hlong, rfl, hmin, hmax⟩ := hall
        rw [saturate_of_isLong hlong] at hmin hmax ⊢
        obtain ⟨hpos, hlt⟩ := hfits n rfl hlong (by omega) (by omega)
        have hsame : (((n % 2 ^ 32).toNat : ℕ) : ℤ) = n := by omega
        exact ⟨trivial, by rw [hread, hsame], hmin, hmax⟩
  · rw [if_neg hname]
    exact iff_of_true ⟨fun h => absurd h Bool.false_ne_true, rfl⟩ fun h => absurd h hname

/-! ### Numbers -/

theorem stoul0_eq_some {p : ℕ × List Char} :
    stoul0 text = some p ↔ ∃ n, readInt true text = some (n, p.2) ∧ n.natAbs < 2 ^ 64 ∧
      p.1 = (n % 2 ^ 64).toNat := by
  rw [stoul0]
  cases hread : readInt true text with
  | none => simp
  | some q =>
    obtain ⟨n, rest⟩ := q
    show (if n.natAbs < 2 ^ 64 then some ((n % 2 ^ 64).toNat, rest) else none) = some p ↔ _
    rw [Option.ite_none_right_eq_some, Option.some.injEq, Prod.ext_iff]
    constructor
    · rintro ⟨hsize, hfirst, hrest⟩
      exact ⟨n, by rw [← hrest], hsize, hfirst.symm⟩
    · rintro ⟨n', hn', hsize, hfirst⟩
      obtain ⟨rfl, hrest⟩ := Prod.mk.inj (Option.some.inj hn')
      exact ⟨hsize, hfirst.symm, hrest⟩

theorem to_uint_eq_some :
    to_uint text max = some k ↔ ∃ n rest, readInt true text = some (n, rest) ∧
      n.natAbs < 2 ^ 64 ∧ rest.head?.getD '\x00' = '\x00' ∧ k = (n % 2 ^ 64).toNat ∧ k ≤ max := by
  rw [to_uint]
  cases hread : stoul0 text with
  | none =>
    refine iff_of_false (by simp) ?_
    rintro ⟨n, rest, hn, hsize, -⟩
    have hsome := (stoul0_eq_some (p := ((n % 2 ^ 64).toNat, rest))).mpr ⟨n, hn, hsize, rfl⟩
    rw [hread] at hsome
    cases hsome
  | some p =>
    obtain ⟨ret, rest⟩ := p
    obtain ⟨n, hn, hsize, hret⟩ := stoul0_eq_some.mp hread
    show (if rest.head?.getD '\x00' ≠ '\x00' then none
      else if max < ret then none else some ret) = some k ↔ _
    rw [Option.ite_none_left_eq_some, Option.ite_none_left_eq_some, not_not, not_lt,
      Option.some.injEq]
    constructor
    · rintro ⟨hend, hle, rfl⟩
      exact ⟨n, rest, hn, hsize, hend, hret, hle⟩
    · rintro ⟨n', rest', hn', -, hend, rfl, hle⟩
      obtain ⟨rfl, rfl⟩ := Prod.mk.inj (Option.some.inj (hn.symm.trans hn'))
      have hsame : ret = (n % 2 ^ 64).toNat := hret
      exact ⟨hend, hsame ▸ hle, hsame⟩

/-- **What is read of a plain text is what it writes.** -/
theorem denotesNumber_iff (hmax : max < 2 ^ 64) :
    DenotesNumber max text k ↔ to_uint text max = some k ∧ Plain text := by
  rw [to_uint_eq_some]
  constructor
  · rintro ⟨hread, hle⟩
    refine ⟨⟨k, [], hread, by omega, rfl, by omega, hle⟩, ?_, ?_⟩
    · rintro ⟨n, rest, hn, hneg⟩
      obtain ⟨rfl, -⟩ := Prod.mk.inj (Option.some.inj (hread.symm.trans hn))
      omega
    · rintro ⟨n, rest, hn⟩
      exact absurd (Prod.mk.inj (Option.some.inj (hread.symm.trans hn))).2 (by simp)
  · rintro ⟨⟨n, rest, hread, hsize, hend, rfl, hle⟩, hneg, hnull⟩
    have hpos : 0 ≤ n := not_lt.mp fun h => hneg ⟨n, rest, hread, h⟩
    have hsame : (((n % 2 ^ 64).toNat : ℕ) : ℤ) = n := by omega
    have hrest : rest = [] := by
      cases rest with
      | nil => rfl
      | cons c rest =>
        have hc : c = '\x00' := hend
        exact absurd ⟨n, rest, hc ▸ hread⟩ hnull
    exact ⟨by rw [hread, hrest, hsame], hle⟩

/-- The text of a number is not empty, and it has no character that no number has. -/
theorem DenotesNumber.notMem (h : DenotesNumber max text k) {c : Char} (hc : Foreign c) :
    c ∉ text := fun hmem => absurd (hc.mem_rest h.1 hmem) List.not_mem_nil

theorem DenotesNumber.ne_nil (h : DenotesNumber max text k) : text ≠ [] := by
  rintro rfl
  have hread := h.1
  rw [readInt_nil] at hread
  cases hread

theorem foreign_slash : Foreign '/' := by
  refine ⟨?_, ?_, ?_, ?_, ?_, ?_, ?_⟩ <;> decide

theorem denotes_parseNumber (hmax : max < 2 ^ 64) {v : MatchValue}
    (h : parseNumber max attr_value = .value v) :
    Denotes (.number max) attr_value.toList v ↔ FitsNumber max attr_value.toList := by
  rw [parseNumber] at h
  cases hto : to_uint attr_value.toList max with
  | none =>
    rw [hto] at h
    cases h
  | some k =>
    rw [hto] at h
    obtain rfl := Parsed.value.inj h
    constructor
    · rintro ⟨n, hn, -⟩
      exact .inr ((denotesNumber_iff hmax).mp hn).2
    · rintro (hnone | hplain)
      · rw [hto] at hnone
        cases hnone
      · exact ⟨k, (denotesNumber_iff hmax).mpr ⟨hto, hplain⟩, rfl⟩

/-! ### Masked numbers -/

theorem tokenize_eq_singleton {a : String} (h : tokenize attr_value '/' = [a]) :
    attr_value.toList = a.toList ∨ attr_value.toList = a.toList ++ ['/'] := by
  obtain ⟨l, hl, rfl⟩ := List.map_eq_singleton_iff.mp h
  rw [String.toList_ofList]
  rcases exists_first '/' attr_value.toList with hs | ⟨l', r, hl', hs⟩
  · rw [getlines_of_not_mem hs, List.nil_append] at hl
    split at hl
    · cases hl
    · exact .inl (List.singleton_inj.mp hl)
  · rw [hs, getlines_append hl', List.nil_append] at hl
    obtain ⟨rfl, hend⟩ := List.cons.inj hl
    right
    rcases exists_first '/' r with hr | ⟨l'', r', hl'', rfl⟩
    · rw [getlines_of_not_mem hr, List.nil_append] at hend
      split at hend
      · next hnil => rw [hs, hnil]
      · cases hend
    · rw [getlines_append hl''] at hend
      cases hend

/-- The text of a number is one part. -/
theorem DenotesNumber.tokenize (h : DenotesNumber max attr_value.toList k) :
    Swss.tokenize attr_value '/' = [attr_value] := by
  rw [Swss.tokenize, getlines_of_not_mem (h.notMem foreign_slash), List.nil_append,
    if_neg h.ne_nil]
  exact congrArg (· :: []) String.ofList_toList

/-- A number and its mask are two parts. -/
theorem tokenize_of_denotes {a b : List Char} {m : ℕ} (hs : attr_value.toList = a ++ '/' :: b)
    (ha : DenotesNumber max a k) (hb : DenotesNumber max b m) :
    tokenize attr_value '/' = [String.ofList a, String.ofList b] := by
  rw [tokenize, hs, getlines_append (ha.notMem foreign_slash), List.nil_append,
    getlines_of_not_mem (hb.notMem foreign_slash), List.nil_append, if_neg hb.ne_nil]
  rfl

/-- No separator is at the end of a text that ends with a number. -/
theorem DenotesNumber.getLast?_ne {a : List Char} (h : DenotesNumber max text k) :
    (a ++ text).getLast? ≠ some '/' := by
  rw [List.getLast?_append_of_ne_nil _ h.ne_nil]
  intro hlast
  exact h.notMem foreign_slash (List.mem_of_getLast? hlast)

theorem denotes_parseMasked (hmax : max < 2 ^ 64) {v : MatchValue}
    (h : parseMasked max attr_value = .value v) :
    Denotes (.masked max) attr_value.toList v ↔ FitsMasked max attr_value := by
  rw [parseMasked] at h
  rw [FitsMasked]
  cases htokens : tokenize attr_value '/' with
  | nil =>
    rw [htokens] at h
    cases h
  | cons a rest =>
    rw [htokens] at h
    dsimp only at h ⊢
    cases ha : to_uint a.toList max with
    | none =>
      rw [ha] at h
      cases h
    | some n =>
      rw [ha] at h
      rw [or_iff_right (Option.some_ne_none n)]
      match rest, htokens, h with
      | [], htokens, h =>
        -- one part: the mask is full
        obtain rfl := Parsed.value.inj h
        constructor
        · rintro (⟨k, hk, -⟩ | ⟨a', b', k, m, hs, hk, hm, -⟩)
          · rw [hk.tokenize] at htokens
            obtain rfl := List.singleton_inj.mp htokens
            exact ⟨((denotesNumber_iff hmax).mp hk).2, hk.getLast?_ne (a := [])⟩
          · rw [tokenize_of_denotes hs hk hm] at htokens
            cases htokens
        · rintro ⟨hplain, hlast⟩
          left
          rcases tokenize_eq_singleton htokens with hs | hs
          · exact ⟨n, hs ▸ (denotesNumber_iff hmax).mpr ⟨ha, hplain⟩, rfl⟩
          · rw [hs, List.getLast?_concat] at hlast
            exact absurd rfl hlast
      | [b], htokens, h =>
        -- two parts: a number and its mask
        dsimp only at h ⊢
        cases hb : to_uint b.toList max with
        | none =>
          rw [hb] at h
          cases h
        | some m =>
          rw [hb] at h
          rw [or_iff_right (Option.some_ne_none m)]
          obtain rfl := Parsed.value.inj h
          constructor
          · rintro (⟨k, hk, -⟩ | ⟨a', b', k, m', hs, hk, hm, -⟩)
            · rw [hk.tokenize] at htokens
              cases htokens
            · rw [tokenize_of_denotes hs hk hm] at htokens
              obtain ⟨rfl, hrest⟩ := List.cons.inj htokens
              obtain rfl := List.singleton_inj.mp hrest
              rw [String.toList_ofList, String.toList_ofList]
              refine ⟨((denotesNumber_iff hmax).mp hk).2,
                ((denotesNumber_iff hmax).mp hm).2, ?_⟩
              rw [hs, ← List.singleton_append, ← List.append_assoc]
              exact hm.getLast?_ne
          · rintro ⟨hplain, hplain', hlast⟩
            right
            obtain ⟨l, r, hl, hr, rfl⟩ : ∃ l r, getlines '/' [] attr_value.toList = [l, r] ∧
                a = String.ofList l ∧ b = String.ofList r := by
              obtain ⟨l, rest, hl, rfl, hrest⟩ := List.map_eq_cons_iff.mp htokens
              obtain ⟨r, rfl, rfl⟩ := List.map_eq_singleton_iff.mp hrest
              exact ⟨l, r, hl, rfl, rfl⟩
            subst hr
            rw [String.toList_ofList] at ha hb hplain hplain'
            obtain ⟨-, -, ⟨hs, -⟩ | hs⟩ := getlines_eq_pair hl
            · exact ⟨l, r, n, m, hs, (denotesNumber_iff hmax).mpr ⟨ha, hplain⟩,
                (denotesNumber_iff hmax).mpr ⟨hb, hplain'⟩, rfl⟩
            · rw [hs, ← List.cons_append, ← List.append_assoc, List.getLast?_concat] at hlast
              exact absurd rfl hlast
      | b :: b' :: rest, htokens, h =>
        -- more parts than a text of numbers has
        refine iff_of_false ?_ id
        rintro (⟨k, hk, -⟩ | ⟨a', b', k, m, hs, hk, hm, -⟩)
        · rw [hk.tokenize] at htokens
          cases htokens
        · rw [tokenize_of_denotes hs hk hm] at htokens
          cases htokens

/-! ### Ranges -/

/-- The low bits of a number that is in the bounds. -/
theorem low_eq (hpos : 0 ≤ n) (hle : n ≤ 65535) : saturate n % 2 ^ 32 = n := by
  rw [saturate_of_isLong ⟨by omega, by omega⟩]
  omega

theorem not_isDigit_dash : ¬ isDigit 10 '-' := by decide

/-- The numbers of a range, with what follows them. -/
theorem rangeText_iff {lo hi : ℤ} :
    RangeText text lo hi rest ↔ ∃ a b, text = a ++ '-' :: (b ++ rest) ∧
      readInt false a = some (lo, []) ∧ readInt false b = some (hi, []) ∧ NoDigitNext rest := by
  constructor
  · rintro ⟨s, hlo, hhi⟩
    obtain ⟨t, rfl, rfl, hnext⟩ := exists_shape_of_readInt hlo
    obtain ⟨t', rfl, rfl, hnext'⟩ := exists_shape_of_readInt hhi
    refine ⟨t.text, t'.text, rfl, ?_, ?_, hnext'⟩
    · simpa using readInt_text t noDigitNext_nil
    · simpa using readInt_text t' noDigitNext_nil
  · rintro ⟨a, b, rfl, hlo, hhi, hnext⟩
    obtain ⟨t, rfl, rfl, -⟩ := exists_shape_of_readInt hlo
    obtain ⟨t', rfl, rfl, -⟩ := exists_shape_of_readInt hhi
    simp only [List.append_nil]
    exact ⟨_, readInt_text t (noDigitNext_cons not_isDigit_dash), readInt_text t' hnext⟩

theorem RangeText.unique {lo lo' hi hi' : ℤ} {rest' : List Char} (h : RangeText text lo hi rest)
    (h' : RangeText text lo' hi' rest') : lo = lo' ∧ hi = hi' ∧ rest = rest' := by
  obtain ⟨s, hlo, hhi⟩ := h
  obtain ⟨s', hlo', hhi'⟩ := h'
  obtain ⟨rfl, hs⟩ := Prod.mk.inj (Option.some.inj (hlo.symm.trans hlo'))
  obtain rfl := (List.cons.inj hs).2
  obtain ⟨rfl, rfl⟩ := Prod.mk.inj (Option.some.inj (hhi.symm.trans hhi'))
  exact ⟨rfl, rfl, rfl⟩

theorem scanU32_eq_some {p : ℕ × List Char} :
    scanU32 text = some p ↔ ∃ n, readInt false text = some (n, p.2) ∧
      p.1 = (saturate n % 2 ^ 32).toNat := by
  rw [scanU32]
  cases hread : readInt false text with
  | none => simp
  | some q =>
    obtain ⟨n, rest⟩ := q
    show some ((saturate n % 2 ^ 32).toNat, rest) = some p ↔ _
    rw [Option.some.injEq, Prod.ext_iff]
    constructor
    · rintro ⟨hfirst, hrest⟩
      exact ⟨n, by rw [← hrest], hfirst.symm⟩
    · rintro ⟨n', hn', hfirst⟩
      obtain ⟨rfl, hrest⟩ := Prod.mk.inj (Option.some.inj hn')
      exact ⟨hfirst.symm, hrest⟩

/-- What `sscanf` reads. -/
theorem rangeText_of_scanRange {lo hi : ℕ} (h : scanRange text = some (lo, hi, rest)) :
    ∃ min max, RangeText text min max rest ∧ lo = (saturate min % 2 ^ 32).toNat ∧
      hi = (saturate max % 2 ^ 32).toNat := by
  rw [scanRange] at h
  split at h
  · next min s hfirst =>
      split at h
      · next max rest' hsecond =>
          obtain ⟨rfl, hrest⟩ := Prod.mk.inj (Option.some.inj h)
          obtain ⟨rfl, rfl⟩ := Prod.mk.inj hrest
          obtain ⟨n, hn, hmin⟩ := scanU32_eq_some.mp hfirst
          obtain ⟨m, hm, hmax⟩ := scanU32_eq_some.mp hsecond
          exact ⟨n, m, ⟨s, hn, hm⟩, hmin, hmax⟩
      · cases h
  · cases h

theorem denotes_parseRange {v : MatchValue} (h : parseRange attr_value = .value v) :
    Denotes .range attr_value.toList v ↔ FitsRange attr_value.toList := by
  rw [parseRange] at h
  cases hscan : scanRange attr_value.toList with
  | none =>
    rw [hscan] at h
    cases h
  | some p =>
    obtain ⟨lo, hi, rest⟩ := p
    rw [hscan] at h
    dsimp only at h
    split at h
    · cases h
    next hbounds =>
    obtain rfl := Parsed.value.inj h
    obtain ⟨min, max, hrange, rfl, rfl⟩ := rangeText_of_scanRange hscan
    rw [USHRT_MAX] at hbounds
    constructor
    · rintro ⟨lo, hi, ⟨a, b, hs, ha, hb, hle, hmax⟩, -⟩ min' max' rest' hrange' - -
      have hwritten : RangeText attr_value.toList lo hi [] :=
        rangeText_iff.mpr ⟨a, b, by rw [List.append_nil, hs], ha, hb, noDigitNext_nil⟩
      obtain ⟨rfl, rfl, rfl⟩ := hrange'.unique hwritten
      rw [USHRT_MAX] at hmax
      exact ⟨rfl, by omega, by omega⟩
    · intro hfits
      obtain ⟨rfl, ⟨hmin, hmin'⟩, hmax, hmax'⟩ :=
        hfits min max rest hrange (by omega) (by omega)
      rw [low_eq hmin hmin', low_eq hmax hmax'] at hbounds
      obtain ⟨a, b, hs, ha, hb, -⟩ := rangeText_iff.mp hrange
      rw [List.append_nil] at hs
      refine ⟨min.toNat, max.toNat, ⟨a, b, hs, ?_, ?_, by omega, ?_⟩, ?_⟩
      · rw [ha, Int.toNat_of_nonneg hmin]
      · rw [hb, Int.toNat_of_nonneg hmax]
      · rw [USHRT_MAX]
        omega
      · rw [low_eq hmin hmin', low_eq hmax hmax']

/-! ### Matches -/

/-- A reader does what the condition says: a value that is read is the one that the text writes
exactly if the text fits, a text that is rejected fits, and one that is read behind the end of
a vector does not. -/
def Reads (f : Form) (text : String) : Parsed → Prop
  | .value v => Denotes f text.toList v ↔ FitsMatch f text
  | .rejected => FitsMatch f text
  | .undefined => ¬ FitsMatch f text

theorem reads_parseNumber (hmax : max < 2 ^ 64) :
    Reads (.number max) attr_value (parseNumber max attr_value) := by
  cases h : parseNumber max attr_value with
  | value v => exact denotes_parseNumber hmax h
  | rejected =>
    rw [parseNumber] at h
    cases hto : to_uint attr_value.toList max with
    | none => exact .inl hto
    | some k =>
      rw [hto] at h
      cases h
  | undefined =>
    rw [parseNumber] at h
    split at h <;> cases h

theorem reads_parseMasked (hmax : max < 2 ^ 64) :
    Reads (.masked max) attr_value (parseMasked max attr_value) := by
  cases h : parseMasked max attr_value with
  | value v => exact denotes_parseMasked hmax h
  | rejected =>
    show FitsMasked max attr_value
    rw [parseMasked] at h
    rw [FitsMasked]
    cases htokens : tokenize attr_value '/' with
    | nil =>
      rw [htokens] at h
      cases h
    | cons a rest =>
      rw [htokens] at h
      dsimp only at h ⊢
      cases ha : to_uint a.toList max with
      | none => exact .inl rfl
      | some n =>
        rw [ha] at h
        right
        match rest, h with
        | [], h => cases h
        | [b], h =>
          -- the first part is a number, so it is the second that rejects the text
          dsimp only at h ⊢
          cases hb : to_uint b.toList max with
          | none => exact .inl rfl
          | some m =>
            rw [hb] at h
            cases h
        | _ :: _ :: _, h => cases h
  | undefined =>
    show ¬ FitsMasked max attr_value
    rw [parseMasked] at h
    rw [FitsMasked]
    cases htokens : tokenize attr_value '/' with
    | nil => exact id
    | cons a rest =>
      rw [htokens] at h
      dsimp only at h
      cases ha : to_uint a.toList max with
      | none =>
        rw [ha] at h
        cases h
      | some n =>
        rw [ha] at h
        match rest, h with
        | [], h => cases h
        | [b], h =>
          dsimp only at h
          cases hb : to_uint b.toList max with
          | none =>
            rw [hb] at h
            cases h
          | some m =>
            rw [hb] at h
            cases h
        | _ :: _ :: _, h => cases h

theorem reads_parseRange : Reads .range attr_value (parseRange attr_value) := by
  cases h : parseRange attr_value with
  | value v => exact denotes_parseRange h
  | rejected =>
    rintro min max rest ⟨s, hmin, hmax⟩ hle hle'
    -- the numbers are read, so it is the bounds that reject them
    have hscan : scanRange attr_value.toList = some ((saturate min % 2 ^ 32).toNat,
        (saturate max % 2 ^ 32).toNat, rest) := by
      have hfirst : scanU32 attr_value.toList = some ((saturate min % 2 ^ 32).toNat, '-' :: s) :=
        scanU32_eq_some.mpr ⟨min, hmin, rfl⟩
      have hsecond : scanU32 s = some ((saturate max % 2 ^ 32).toNat, rest) :=
        scanU32_eq_some.mpr ⟨max, hmax, rfl⟩
      simp only [scanRange, hfirst, hsecond]
    rw [parseRange, hscan] at h
    dsimp only at h
    rw [if_neg (by rw [USHRT_MAX]; omega)] at h
    cases h
  | undefined =>
    rw [parseRange] at h
    split at h
    · cases h
    · split at h <;> cases h

theorem addPorts_ne_undefined {getPort : String → Option sai_object_id_t}
    {store : AclRule → List sai_object_id_t → AclRule} :
    (rule.addPorts getPort store attr_value).2 ≠ .undefined := by
  rw [AclRule.addPorts]
  split
  · nofun
  · dsimp only
    split <;> nofun

theorem reads_other {r : Parsed} (h : r ≠ .undefined) : Reads .other attr_value r := by
  cases r with
  | value v => exact Iff.rfl
  | rejected => trivial
  | undefined => exact absurd rfl h

/-- **Every field is read as the condition says.** -/
theorem parseMatch_reads (rule : AclRule) (getPort : String → Option sai_object_id_t)
    (field : MatchField) (attr_value : String) :
    Reads (form field) attr_value (rule.parseMatch getPort field attr_value).2 := by
  have hv4 : parseV4 attr_value ≠ .undefined := by
    rw [parseV4]
    split <;> nofun
  have hv6 : parseV6 attr_value ≠ .undefined := by
    rw [parseV6]
    split <;> nofun
  have htype : parseIpType attr_value ≠ .undefined := by
    rw [parseIpType]
    split <;> nofun
  cases field with
  | IN_PORTS | OUT_PORTS => exact reads_other addPorts_ne_undefined
  | SRC_IP | DST_IP => exact reads_other hv4
  | SRC_IPV6 | DST_IPV6 => exact reads_other hv6
  | IP_TYPE => exact reads_other htype
  | TCP_FLAGS | DSCP => exact reads_parseMasked (by decide)
  | L4_SRC_PORT_RANGE | L4_DST_PORT_RANGE => exact reads_parseRange
  | _ => exact reads_parseNumber (by decide)

/-- The matches are not touched while the value is read. -/
theorem parseMatch_matches (rule : AclRule) (getPort : String → Option sai_object_id_t)
    (field : MatchField) (attr_value : String) :
    (rule.parseMatch getPort field attr_value).1.m_matches = rule.m_matches := by
  have hports : ∀ store : AclRule → List sai_object_id_t → AclRule,
      (∀ rule oids, (store rule oids).m_matches = rule.m_matches) →
        (rule.addPorts getPort store attr_value).1.m_matches = rule.m_matches := by
    intro store hstore
    rw [AclRule.addPorts]
    split
    · rfl
    · exact hstore _ _
  cases field with
  | IN_PORTS | OUT_PORTS => exact hports _ fun _ _ => rfl
  | _ => rfl

/-- The text of a match fits the field that its name stands for. -/
def FitsAttribute (attr_name attr_value : String) : Prop :=
  ∀ field, aclMatchLookup.lookup attr_name = some field → FitsMatch (form field) attr_value

theorem faithfulMatch_iff {getPort : String → Option sai_object_id_t} :
    FaithfulMatch rule attr_name attr_value
        (rule.validateAddMatch getPort attr_name attr_value) ↔
      FitsAttribute attr_name attr_value := by
  rw [AclRule.validateAddMatch, FitsAttribute]
  cases hfield : aclMatchLookup.lookup attr_name with
  | none =>
    refine iff_of_true ⟨nofun, nofun, fun rule' h => ?_⟩ nofun
    obtain ⟨rfl, -⟩ := Outcome.returned.inj h
    rfl
  | some field =>
    simp only [Option.some.injEq, forall_eq']
    have hreads := parseMatch_reads rule getPort field attr_value
    have hmatches := parseMatch_matches rule getPort field attr_value
    revert hreads hmatches
    rcases rule.parseMatch getPort field attr_value with ⟨rule', v | - | -⟩
    · intro hreads hmatches
      refine Iff.trans ?_ hreads
      constructor
      · intro h
        obtain ⟨field', v', hfield', hdenotes, hstored⟩ := h.accepted _ rfl
        obtain rfl := Option.some.inj (hfield.symm.trans hfield')
        have hsame := congrFun hstored field
        simp only [Function.update_self, Option.some.injEq] at hsame
        exact hsame ▸ hdenotes
      · intro h
        refine ⟨nofun, fun rule'' heq => ?_, nofun⟩
        obtain ⟨rfl, -⟩ := Outcome.returned.inj heq
        exact ⟨field, v, hfield, h, by rw [← hmatches]⟩
    · intro hreads hmatches
      refine iff_of_true ⟨nofun, nofun, fun rule'' heq => ?_⟩ hreads
      obtain ⟨rfl, -⟩ := Outcome.returned.inj heq
      exact hmatches
    · intro hreads _
      exact iff_of_false (fun h => h.defined rfl) hreads

/-! ### Both -/

/-- **The values of a rule are parsed faithfully exactly if the texts fit.** -/
theorem acl_values_faithful (rule : AclRule) (m_minPriority m_maxPriority : ℕ)
    (getPort : String → Option sai_object_id_t) (attr_name attr_value : String) :
    FaithfulPriority rule m_minPriority m_maxPriority attr_name attr_value
          (rule.validateAddPriority m_minPriority m_maxPriority attr_name attr_value) ∧
        FaithfulMatch rule attr_name attr_value
          (rule.validateAddMatch getPort attr_name attr_value) ↔
      FitsPriority m_minPriority m_maxPriority attr_name attr_value.toList ∧
        FitsAttribute attr_name attr_value :=
  and_congr faithfulPriority_iff faithfulMatch_iff

/-- **Not every text fits**: of a DSCP of three parts the first is taken. -/
theorem not_acl_values_faithful :
    ¬ ∀ (rule : AclRule) (m_minPriority m_maxPriority : ℕ)
      (getPort : String → Option sai_object_id_t) (attr_name attr_value : String),
      FaithfulPriority rule m_minPriority m_maxPriority attr_name attr_value
          (rule.validateAddPriority m_minPriority m_maxPriority attr_name attr_value) ∧
        FaithfulMatch rule attr_name attr_value
          (rule.validateAddMatch getPort attr_name attr_value) := by
  intro h
  obtain ⟨-, hmatch⟩ := h ⟨0, [], [], fun _ => none⟩ 0 0 (fun _ => none) "DSCP" "8/63/1"
  have hfits : FitsMasked 0x3F "8/63/1" := faithfulMatch_iff.mp hmatch .DSCP (by decide)
  rw [FitsMasked, show tokenize "8/63/1" '/' = ["8", "63", "1"] by decide +kernel] at hfits
  rcases hfits with hnone | hfalse
  · exact absurd hnone (by decide +kernel)
  · exact hfalse

end Orchagent.AclMatch
