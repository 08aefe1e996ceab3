/-
Lib/Inet.lean

Internet addresses as text: `inet_pton` and `inet_ntop` of the C library.

An address is its bytes.  The readers go over the text once, as the library does;
the one for IPv6 keeps where a `::` stood and puts the missing zeros there at the
end, and reads a dotted tail as an IPv4 address.  The writer for IPv6 leaves out the
longest run of zero words.  What is written is read back (`inet_pton4_ntop4`,
`inet_pton6_ntop6`), and no text is both an IPv4 and an IPv6 address.
-/
import Sonic.Lib.Numeral

namespace Inet

open Numeral

/-- The bytes of an address, in network order. -/
abbrev Bytes (n : ℕ) := List.Vector UInt8 n

/-! ### IPv4 -/

/-- The loop of `inet_pton4`: the octets that are complete, the one being read,
whether it has a digit, and how many octets have one. -/
def pton4Loop (tmp : List UInt8) (cur : ℕ) (saw_digit : Bool) (octets : ℕ) :
    List Char → Option (Bytes 4)
  | [] =>
    if octets < 4 then none
    else
      let bytes := tmp ++ [UInt8.ofNat cur]
      if h : bytes.length = 4 then some ⟨bytes, h⟩ else none
  | ch :: src =>
    if isDigit 10 ch then
      let new := cur * 10 + (digitVal ch).getD 0
      if saw_digit ∧ cur = 0 then none
      else if 255 < new then none
      else if saw_digit then pton4Loop tmp new true octets src
      else if 4 < octets + 1 then none
      else pton4Loop tmp new true (octets + 1) src
    else if ch = '.' ∧ saw_digit then
      if octets = 4 then none
      else pton4Loop (tmp ++ [UInt8.ofNat cur]) 0 false octets src
    else none

/-- `inet_pton(AF_INET, …)`. -/
def inet_pton4 (src : List Char) : Option (Bytes 4) :=
  pton4Loop [] 0 false 0 src

/-- An octet in decimal. -/
def octet (b : UInt8) : List Char := Nat.toDigits 10 b.toNat

/-- `inet_ntop(AF_INET, …)`. -/
def inet_ntop4 (src : Bytes 4) : List Char :=
  ['.'].intercalate (src.toList.map octet)

/-! ### IPv6 -/

/-- The two bytes of a word. -/
def wordBytes (val : ℕ) : List UInt8 := [UInt8.ofNat (val / 256), UInt8.ofNat (val % 256)]

/-- The loop of `inet_pton6`: the token being read, the bytes so far, where a `::`
stood, the word being read and its number of digits.  It returns the bytes, and
where the `::` stood. -/
def pton6Loop (curtok : List Char) (tp : List UInt8) (colonp : Option ℕ) (val xdigits_seen : ℕ) :
    List Char → Option (List UInt8 × Option ℕ)
  | [] =>
    if xdigits_seen = 0 then some (tp, colonp)
    else if 16 < tp.length + 2 then none
    else some (tp ++ wordBytes val, colonp)
  | ch :: src =>
    if isDigit 16 ch then
      if xdigits_seen = 4 then none
      else pton6Loop curtok tp colonp (16 * val + (digitVal ch).getD 0) (xdigits_seen + 1) src
    else if ch = ':' then
      if xdigits_seen = 0 then
        if colonp ≠ none then none else pton6Loop src tp (some tp.length) val 0 src
      else if src = [] then none
      else if 16 < tp.length + 2 then none
      else pton6Loop src (tp ++ wordBytes val) colonp 0 0 src
    else if ch = '.' ∧ tp.length + 4 ≤ 16 then
      (inet_pton4 curtok).map fun a => (tp ++ a.toList, colonp)
    else none

/-- Put the zeros of a `::` in. -/
def expand (tp : List UInt8) : Option ℕ → Option (Bytes 16)
  | some colonp =>
    if tp.length = 16 then none
    else
      let bytes := tp.take colonp ++ (List.replicate (16 - tp.length) 0 ++ tp.drop colonp)
      if h : bytes.length = 16 then some ⟨bytes, h⟩ else none
  | none => if h : tp.length = 16 then some ⟨tp, h⟩ else none

/-- `inet_pton(AF_INET6, …)`. -/
def inet_pton6 (src : List Char) : Option (Bytes 16) :=
  match src with
  | [] => none
  | ':' :: ':' :: rest =>
    (pton6Loop (':' :: rest) [] none 0 0 (':' :: rest)).bind fun r => expand r.1 r.2
  | ':' :: _ => none
  | src => (pton6Loop src [] none 0 0 src).bind fun r => expand r.1 r.2

/-- The words of an address. -/
def words : List UInt8 → List ℕ
  | hi :: lo :: rest => (256 * hi.toNat + lo.toNat) :: words rest
  | _ => []

/-- The longer of two runs, given as base and length; the first if they are equal. -/
def longer (best cur : Option (ℕ × ℕ)) : Option (ℕ × ℕ) :=
  match best, cur with
  | none, cur => cur
  | best, none => best
  | some b, some c => if b.2 < c.2 then some c else some b

/-- The longest run of zero words, where `i` words are behind. -/
def longestRun (i : ℕ) (best cur : Option (ℕ × ℕ)) : List ℕ → Option (ℕ × ℕ)
  | [] => longer best cur
  | w :: ws =>
    if w = 0 then
      longestRun (i + 1) best (some (cur.elim (i, 1) fun c => (c.1, c.2 + 1))) ws
    else longestRun (i + 1) (longer best cur) none ws

/-- The run that is left out, if there is one of two words. -/
def bestRun (ws : List ℕ) : Option (ℕ × ℕ) :=
  (longestRun 0 none none ws).filter (2 ≤ ·.2)

/-- Words in hexadecimal, with colons between. -/
def group (ws : List ℕ) : List Char :=
  [':'].intercalate (ws.map (Nat.toDigits 16))

/-- `inet_ntop(AF_INET6, …)`. -/
def inet_ntop6 (src : Bytes 16) : List Char :=
  let ws := words src.toList
  match bestRun ws with
  | none => group ws
  | some (base, len) =>
    if base = 0 ∧ (len = 6 ∨ len = 5 ∧ ws[5]? = some 0xffff) then
      -- an IPv4 address in the last two words
      let ip4 := ['.'].intercalate ((src.toList.drop 12).map octet)
      if len = 6 then ':' :: ':' :: ip4
      else ':' :: ':' :: (Nat.toDigits 16 0xffff ++ ':' :: ip4)
    else group (ws.take base) ++ ':' :: ':' :: group (ws.drop (base + len))

/-! ### IPv4 addresses are read back -/

variable {tmp : List UInt8} {cur octets : ℕ} {src : List Char}

theorem pton4Loop_first {d : ℕ} (hd : d < 10) (hoctets : octets < 4) :
    pton4Loop tmp 0 false octets (d.digitChar :: src)
      = pton4Loop tmp d true (octets + 1) src := by
  have hle : ¬ 255 < d := by omega
  have hcount : ¬ 4 < octets + 1 := by omega
  simp [pton4Loop, isDigit_digitChar (b := 10) (by decide) hd,
    digitVal_digitChar (hd.trans (by decide)), hle, hcount]

theorem pton4Loop_next {d : ℕ} (hd : d < 10) (hcur : cur ≠ 0) (hle : cur * 10 + d ≤ 255) :
    pton4Loop tmp cur true octets (d.digitChar :: src)
      = pton4Loop tmp (cur * 10 + d) true octets src := by
  simp [pton4Loop, isDigit_digitChar (b := 10) (by decide) hd,
    digitVal_digitChar (hd.trans (by decide)), hcur, hle]

theorem pton4Loop_octet {n : ℕ} (hn : n < 256) (hoctets : octets < 4) :
    pton4Loop tmp 0 false octets (Nat.toDigits 10 n ++ src)
      = pton4Loop tmp n true (octets + 1) src := by
  induction n using Nat.strongRecOn generalizing src with
  | _ n ih =>
    rcases Nat.lt_or_ge n 10 with hlt | hge
    · rw [Nat.toDigits_of_lt_base hlt]
      exact pton4Loop_first hlt hoctets
    · rw [Nat.toDigits_of_base_le (by decide) hge, List.append_assoc,
        ih (n / 10) (by omega) (by omega), List.singleton_append,
        pton4Loop_next (Nat.mod_lt n (by decide)) (by omega) (by omega)]
      rw [Nat.div_add_mod' n 10]

theorem pton4Loop_dot (hoctets : octets ≠ 4) :
    pton4Loop tmp cur true octets ('.' :: src)
      = pton4Loop (tmp ++ [UInt8.ofNat cur]) 0 false octets src := by
  simp [pton4Loop, isDigit, digitVal, hoctets]

theorem exists_bytes4 (a : Bytes 4) : ∃ b₀ b₁ b₂ b₃, a = ⟨[b₀, b₁, b₂, b₃], rfl⟩ := by
  obtain ⟨l, hl⟩ := a
  match l, hl with
  | [b₀, b₁, b₂, b₃], _ => exact ⟨b₀, b₁, b₂, b₃, rfl⟩

theorem inet_pton4_octets (b₀ b₁ b₂ b₃ : UInt8) :
    inet_pton4 (['.'].intercalate ([b₀, b₁, b₂, b₃].map octet))
      = some ⟨[b₀, b₁, b₂, b₃], rfl⟩ := by
  have hlast : octet b₃ = octet b₃ ++ [] := (List.append_nil _).symm
  simp only [List.map_cons, List.map_nil, List.intercalate_cons_cons,
    List.intercalate_singleton, List.append_assoc, List.singleton_append, inet_pton4]
  rw [hlast]
  simp only [octet]
  rw [pton4Loop_octet b₀.toNat_lt (by decide), pton4Loop_dot (by decide),
    pton4Loop_octet b₁.toNat_lt (by decide), pton4Loop_dot (by decide),
    pton4Loop_octet b₂.toNat_lt (by decide), pton4Loop_dot (by decide),
    pton4Loop_octet b₃.toNat_lt (by decide)]
  simp [pton4Loop]

/-- **An IPv4 address is read back.** -/
theorem inet_pton4_ntop4 (a : Bytes 4) : inet_pton4 (inet_ntop4 a) = some a := by
  obtain ⟨b₀, b₁, b₂, b₃, rfl⟩ := exists_bytes4 a
  exact inet_pton4_octets b₀ b₁ b₂ b₃

theorem inet_ntop4_ne_nil (a : Bytes 4) : inet_ntop4 a ≠ [] := by
  intro hnil
  have hread := inet_pton4_ntop4 a
  rw [hnil] at hread
  exact absurd hread (by simp [inet_pton4, pton4Loop])

/-- The characters of an IPv4 address. -/
theorem mem_of_pton4Loop {saw : Bool} {a : Bytes 4}
    (h : pton4Loop tmp cur saw octets src = some a) :
    ∀ c ∈ src, isDigit 10 c ∨ c = '.' := by
  induction src generalizing tmp cur saw octets with
  | nil => simp
  | cons ch src ih =>
    -- the rest is read from some state
    have hstep : (isDigit 10 ch ∨ ch = '.') ∧
        ∃ tmp' cur' saw' octets', pton4Loop tmp' cur' saw' octets' src = some a := by
      rw [pton4Loop] at h
      dsimp only at h
      split_ifs at h with hdigit _ _ _ _ hdot
      · exact ⟨Or.inl hdigit, _, _, _, _, h⟩
      · exact ⟨Or.inl hdigit, _, _, _, _, h⟩
      · exact ⟨Or.inr hdot.1, _, _, _, _, h⟩
    obtain ⟨hch, tmp', cur', saw', octets', hrest⟩ := hstep
    exact List.forall_mem_cons.mpr ⟨hch, ih hrest⟩

/-- The characters of an IPv4 address as it is written. -/
theorem mem_inet_ntop4 {a : Bytes 4} {c : Char} (hc : c ∈ inet_ntop4 a) :
    isDigit 10 c ∨ c = '.' :=
  mem_of_pton4Loop (inet_pton4_ntop4 a) c hc

/-! ### IPv6 addresses are read back -/

variable {curtok : List Char} {tp : List UInt8} {colonp : Option ℕ} {val xdigits_seen : ℕ}

theorem pton6Loop_digits {ds : List Char} (hds : ∀ c ∈ ds, isDigit 16 c)
    (hlen : xdigits_seen + ds.length ≤ 4) :
    pton6Loop curtok tp colonp val xdigits_seen (ds ++ src)
      = pton6Loop curtok tp colonp
          (ds.foldl (fun n c => 16 * n + (digitVal c).getD 0) val) (xdigits_seen + ds.length) src := by
  induction ds generalizing val xdigits_seen with
  | nil => rfl
  | cons c ds ih =>
    simp only [List.length_cons] at hlen
    have hne : xdigits_seen ≠ 4 := by omega
    rw [List.cons_append, pton6Loop, if_pos (hds c (by simp)), if_neg hne,
      ih (fun c' hc' => hds c' (by simp [hc'])) (by omega)]
    rw [List.foldl_cons, List.length_cons, show xdigits_seen + 1 + ds.length
      = xdigits_seen + (ds.length + 1) by omega]

theorem length_word {w : ℕ} (hw : w < 65536) : (Nat.toDigits 16 w).length ≤ 4 :=
  (Nat.length_toDigits_le_iff (by decide) (by decide)).mpr hw

/-- A word is read. -/
theorem pton6Loop_word {w : ℕ} (hw : w < 65536) :
    pton6Loop curtok tp colonp 0 0 (Nat.toDigits 16 w ++ src)
      = pton6Loop curtok tp colonp w (Nat.toDigits 16 w).length src := by
  rw [pton6Loop_digits (fun c hc => isDigit_of_mem_toDigits (by decide) (by decide) hc)
    (by simpa using length_word hw), Nat.zero_add]
  congr 1
  exact value_toDigits (by decide) (by decide)

theorem length_word_ne_zero (w : ℕ) : (Nat.toDigits 16 w).length ≠ 0 :=
  Nat.length_toDigits_pos.ne'

/-- A colon after a word ends it. -/
theorem pton6Loop_colon (hseen : xdigits_seen ≠ 0) (hsrc : src ≠ []) (htp : tp.length + 2 ≤ 16) :
    pton6Loop curtok tp colonp val xdigits_seen (':' :: src)
      = pton6Loop src (tp ++ wordBytes val) colonp 0 0 src := by
  have hle : ¬ 16 < tp.length + 2 := by omega
  simp [pton6Loop, isDigit, digitVal, hseen, hsrc, hle]

/-- The bytes of some words. -/
def bytesOf (ws : List ℕ) : List UInt8 := ws.flatMap wordBytes

theorem length_bytesOf {ws : List ℕ} : (bytesOf ws).length = 2 * ws.length := by
  induction ws with
  | nil => rfl
  | cons w ws ih =>
    simp only [bytesOf, List.flatMap_cons, List.length_append, List.length_cons] at ih ⊢
    simp only [wordBytes, List.length_cons, List.length_nil]
    omega

theorem group_ne_nil {w : ℕ} {ws : List ℕ} : group (w :: ws) ≠ [] := by
  cases ws <;> simp [group, Nat.toDigits_ne_nil]

theorem group_cons_cons {w w' : ℕ} {ws : List ℕ} :
    group (w :: w' :: ws) = Nat.toDigits 16 w ++ ':' :: group (w' :: ws) := by
  simp [group]

/-- A group of words is read. -/
theorem pton6Loop_group {w : ℕ} {ws : List ℕ} (hws : ∀ v ∈ w :: ws, v < 65536)
    (hlen : tp.length + 2 * (w :: ws).length ≤ 16) :
    pton6Loop curtok tp colonp 0 0 (group (w :: ws)) = some (tp ++ bytesOf (w :: ws), colonp) := by
  induction ws generalizing w tp curtok with
  | nil =>
    have hle : ¬ 16 < tp.length + 2 := by simpa using hlen
    rw [show group [w] = Nat.toDigits 16 w ++ [] by simp [group],
      pton6Loop_word (hws w (by simp)), pton6Loop, if_neg (length_word_ne_zero w), if_neg hle]
    simp [bytesOf]
  | cons w' ws ih =>
    simp only [List.length_cons] at hlen
    rw [group_cons_cons, pton6Loop_word (hws w (by simp)),
      pton6Loop_colon (length_word_ne_zero w) group_ne_nil (by omega),
      ih (fun v hv => hws v (by simp [hv])) (by simp [wordBytes]; omega)]
    simp [bytesOf]

/-- A group of words before a double colon is read. -/
theorem pton6Loop_group_colons {w : ℕ} {ws : List ℕ} (hws : ∀ v ∈ w :: ws, v < 65536)
    (hlen : tp.length + 2 * (w :: ws).length ≤ 16) :
    pton6Loop curtok tp none 0 0 (group (w :: ws) ++ ':' :: ':' :: src)
      = pton6Loop src (tp ++ bytesOf (w :: ws)) (some (tp ++ bytesOf (w :: ws)).length) 0 0 src := by
  induction ws generalizing w tp curtok with
  | nil =>
    have hle : tp.length + 2 ≤ 16 := by simpa using hlen
    rw [show group [w] = Nat.toDigits 16 w by simp [group], pton6Loop_word (hws w (by simp)),
      pton6Loop_colon (length_word_ne_zero w) (by simp) hle]
    simp [pton6Loop, isDigit, digitVal, bytesOf]
  | cons w' ws ih =>
    simp only [List.length_cons] at hlen
    rw [group_cons_cons, List.append_assoc, List.cons_append, pton6Loop_word (hws w (by simp)),
      pton6Loop_colon (length_word_ne_zero w) (by simp [group_ne_nil]) (by omega),
      ih (fun v hv => hws v (by simp [hv])) (by simp [wordBytes]; omega)]
    simp [bytesOf]

theorem pton6Loop_groups {ws : List ℕ} (hws : ∀ v ∈ ws, v < 65536)
    (hlen : tp.length + 2 * ws.length ≤ 16) :
    pton6Loop curtok tp colonp 0 0 (group ws) = some (tp ++ bytesOf ws, colonp) := by
  cases ws with
  | nil => simp [group, pton6Loop, bytesOf]
  | cons w ws => exact pton6Loop_group hws hlen

theorem isDigit_sixteen {c : Char} (hc : isDigit 10 c) : isDigit 16 c := by
  cases hval : digitVal c with
  | none => simp [isDigit, hval] at hc
  | some d =>
    have hd : d < 10 := by simpa [isDigit, hval] using hc
    simp [isDigit, hval, hd.trans (show 10 < 16 by decide)]

/-- A dotted tail is read as an IPv4 address. -/
theorem pton6Loop_octets {a : Bytes 4} (hcur : inet_pton4 curtok = some a)
    (htp : tp.length + 4 ≤ 16) :
    pton6Loop curtok tp colonp 0 0 (inet_ntop4 a) = some (tp ++ a.toList, colonp) := by
  obtain ⟨b₀, b₁, b₂, b₃, rfl⟩ := exists_bytes4 a
  have htext : inet_ntop4 ⟨[b₀, b₁, b₂, b₃], rfl⟩
      = octet b₀ ++ '.' :: ['.'].intercalate ([b₁, b₂, b₃].map octet) := by
    simp [inet_ntop4, List.Vector.toList]
  have hlen : (octet b₀).length ≤ 3 :=
    (Nat.length_toDigits_le_iff (by decide) (by decide)).mpr (b₀.toNat_lt.trans_le (by decide))
  have hdigits : ∀ c ∈ octet b₀, isDigit 16 c := fun c hc =>
    isDigit_sixteen (isDigit_of_mem_toDigits (by decide) (by decide) hc)
  rw [htext, pton6Loop_digits hdigits (by omega)]
  simp [pton6Loop, isDigit, digitVal, htp, hcur]
  exact ⟨_, rfl, rfl⟩

/-! ### The run of zeros -/

/-- A run of zero words, given as base and length. -/
def IsRun (ws : List ℕ) (r : ℕ × ℕ) : Prop :=
  ws = ws.take r.1 ++ (List.replicate r.2 0 ++ ws.drop (r.1 + r.2))

theorem longer_isRun {ws : List ℕ} {best cur : Option (ℕ × ℕ)} (hbest : ∀ r ∈ best, IsRun ws r)
    (hcur : ∀ r ∈ cur, IsRun ws r) : ∀ r ∈ longer best cur, IsRun ws r := by
  cases best with
  | none => exact hcur
  | some b =>
    cases cur with
    | none => exact hbest
    | some c =>
      intro r hr
      simp only [longer] at hr
      split at hr
      · exact hcur r hr
      · exact hbest r hr

/-- A run grows by the zero after it. -/
theorem IsRun.grow {ws rest : List ℕ} {b l : ℕ} (h : IsRun ws (b, l))
    (hrest : ws.drop (b + l) = 0 :: rest) : IsRun ws (b, l + 1) := by
  show ws = ws.take b ++ (List.replicate (l + 1) 0 ++ ws.drop (b + (l + 1)))
  have hdrop : ws.drop (b + (l + 1)) = rest := by
    rw [← add_assoc, ← List.drop_drop, hrest]
    rfl
  calc ws = ws.take b ++ (List.replicate l 0 ++ ws.drop (b + l)) := h
    _ = ws.take b ++ (List.replicate (l + 1) 0 ++ ws.drop (b + (l + 1))) := by
      rw [hdrop, hrest, List.replicate_succ', List.append_assoc, List.singleton_append]

theorem longestRun_isRun {ws rest : List ℕ} {i : ℕ} {best cur : Option (ℕ × ℕ)}
    (hrest : ws.drop i = rest) (hbest : ∀ r ∈ best, IsRun ws r)
    (hcur : ∀ r ∈ cur, IsRun ws r ∧ r.1 + r.2 = i) :
    ∀ r ∈ longestRun i best cur rest, IsRun ws r := by
  induction rest generalizing i best cur with
  | nil => exact longer_isRun hbest fun r hr => (hcur r hr).1
  | cons w rest ih =>
    have hnext : ws.drop (i + 1) = rest := by
      rw [← List.drop_drop, hrest]
      rfl
    rw [longestRun]
    split
    · next hw =>
        refine ih hnext hbest fun r hr => ?_
        obtain rfl := Option.some.inj hr
        rw [hw] at hrest
        cases cur with
        | none =>
          -- a run begins here
          have hempty : IsRun ws (i, 0) := (List.take_append_drop i ws).symm
          exact ⟨hempty.grow hrest, rfl⟩
        | some c =>
          obtain ⟨hrun, hend⟩ := hcur c rfl
          exact ⟨IsRun.grow hrun (by rw [hend]; exact hrest), by simp; omega⟩
    · exact ih hnext (longer_isRun hbest fun r hr => (hcur r hr).1) (by simp)

theorem bestRun_spec {ws : List ℕ} {b l : ℕ} (h : bestRun ws = some (b, l)) :
    IsRun ws (b, l) ∧ 2 ≤ l := by
  obtain ⟨hrun, hlen⟩ := Option.filter_eq_some_iff.mp h
  exact ⟨longestRun_isRun rfl (by simp) (by simp) _ hrun, by simpa using hlen⟩

/-! ### The words of an address -/

theorem words_spec {n : ℕ} {l : List UInt8} (hl : l.length = 2 * n) :
    (words l).length = n ∧ (∀ w ∈ words l, w < 65536) ∧ bytesOf (words l) = l := by
  induction n generalizing l with
  | zero =>
    obtain rfl := List.length_eq_zero_iff.mp hl
    exact ⟨rfl, by simp [words], rfl⟩
  | succ n ih =>
    match l, hl with
    | hi :: lo :: rest, hl =>
      obtain ⟨hlen, hlt, hbytes⟩ := ih (l := rest) (by simp at hl; omega)
      have hhi := hi.toNat_lt
      have hlo := lo.toNat_lt
      refine ⟨by simp [words, hlen], ?_, ?_⟩
      · intro w hw
        rcases List.mem_cons.mp hw with rfl | hw
        · omega
        · exact hlt w hw
      · have hword : wordBytes (256 * hi.toNat + lo.toNat) = [hi, lo] := by
          rw [wordBytes, show (256 * hi.toNat + lo.toNat) / 256 = hi.toNat by omega,
            show (256 * hi.toNat + lo.toNat) % 256 = lo.toNat by omega]
          simp
        calc bytesOf (words (hi :: lo :: rest))
            = wordBytes (256 * hi.toNat + lo.toNat) ++ bytesOf (words rest) := rfl
          _ = hi :: lo :: rest := by rw [hword, hbytes]; rfl

theorem bytesOf_append {ws vs : List ℕ} : bytesOf (ws ++ vs) = bytesOf ws ++ bytesOf vs := by
  simp [bytesOf]

theorem bytesOf_replicate {l : ℕ} : bytesOf (List.replicate l 0) = List.replicate (2 * l) 0 := by
  induction l with
  | zero => rfl
  | succ l ih =>
    calc bytesOf (List.replicate (l + 1) 0) = [0, 0] ++ bytesOf (List.replicate l 0) := rfl
      _ = List.replicate (2 * (l + 1)) 0 := by rw [ih]; rfl

theorem bytesOf_drop {ws : List ℕ} {k : ℕ} : bytesOf (ws.drop k) = (bytesOf ws).drop (2 * k) := by
  induction k generalizing ws with
  | zero => rfl
  | succ k ih =>
    cases ws with
    | nil => simp [bytesOf]
    | cons w ws =>
      calc bytesOf ((w :: ws).drop (k + 1)) = bytesOf (ws.drop k) := rfl
        _ = (bytesOf ws).drop (2 * k) := ih
        _ = (bytesOf (w :: ws)).drop (2 * (k + 1)) := rfl

/-- The zeros of a run are put back. -/
theorem expand_run {a : Bytes 16} {b l : ℕ} (hrun : IsRun (words a.toList) (b, l)) (hl : 2 ≤ l) :
    expand (bytesOf ((words a.toList).take b) ++ bytesOf ((words a.toList).drop (b + l)))
      (some (bytesOf ((words a.toList).take b)).length) = some a := by
  obtain ⟨-, -, hbytes⟩ := words_spec (n := 8) a.toList_length
  have hall : bytesOf ((words a.toList).take b) ++ (List.replicate (2 * l) 0
      ++ bytesOf ((words a.toList).drop (b + l))) = a.toList := by
    rw [← bytesOf_replicate, ← bytesOf_append, ← bytesOf_append]
    exact (congrArg bytesOf hrun).symm.trans hbytes
  generalize bytesOf ((words a.toList).take b) = left at hall ⊢
  generalize bytesOf ((words a.toList).drop (b + l)) = right at hall ⊢
  have hlen : left.length + (2 * l + right.length) = 16 := by
    rw [← a.toList_length, ← hall]
    simp
  have hne : (left ++ right).length ≠ 16 := by
    simp only [List.length_append]
    omega
  have hzeros : 16 - (left ++ right).length = 2 * l := by
    simp only [List.length_append]
    omega
  have htext : (left ++ right).take left.length ++ (List.replicate (16 - (left ++ right).length) 0
      ++ (left ++ right).drop left.length) = a.toList := by
    rw [List.take_left, List.drop_left, hzeros, hall]
  simp only [expand, if_neg hne, htext]
  rw [dif_pos a.toList_length]
  rfl

/-- A text that begins with a digit is read from its first token. -/
theorem inet_pton6_of_isDigit {c : Char} (hc : isDigit 16 c) :
    inet_pton6 (c :: src)
      = (pton6Loop (c :: src) [] none 0 0 (c :: src)).bind fun r => expand r.1 r.2 := by
  unfold inet_pton6
  split
  · next heq => simp at heq
  · next heq =>
      obtain ⟨rfl, -⟩ := List.cons.inj heq
      exact absurd hc (by decide)
  · next heq =>
      obtain ⟨rfl, -⟩ := List.cons.inj heq
      exact absurd hc (by decide)
  · rfl

theorem exists_group_cons (w : ℕ) (ws : List ℕ) (rest : List Char) :
    ∃ c src, group (w :: ws) ++ rest = c :: src ∧ isDigit 16 c := by
  obtain ⟨c, ds, hds⟩ := List.exists_cons_of_ne_nil (Nat.toDigits_ne_nil (n := w) (b := 16))
  have hc : isDigit 16 c :=
    isDigit_of_mem_toDigits (by decide) (by decide) (hds ▸ List.mem_cons_self)
  cases ws with
  | nil => exact ⟨c, ds ++ rest, by simp [group, hds], hc⟩
  | cons w' ws => exact ⟨c, _, by rw [group_cons_cons, hds]; rfl, hc⟩

/-- The text with a run left out is read. -/
theorem inet_pton6_colons (left right : List ℕ) {tail : List Char}
    (hleft : ∀ v ∈ left, v < 65536) (hlen : 2 * left.length ≤ 16)
    (htail : pton6Loop tail (bytesOf left) (some (bytesOf left).length) 0 0 tail
      = some (bytesOf left ++ bytesOf right, some (bytesOf left).length)) :
    inet_pton6 (group left ++ ':' :: ':' :: tail)
      = expand (bytesOf left ++ bytesOf right) (some (bytesOf left).length) := by
  cases left with
  | nil =>
    show (pton6Loop (':' :: tail) [] none 0 0 (':' :: tail)).bind _ = _
    have hcolon : pton6Loop (':' :: tail) [] none 0 0 (':' :: tail)
        = pton6Loop tail [] (some 0) 0 0 tail := by
      simp [pton6Loop, isDigit, digitVal]
    rw [hcolon, show pton6Loop tail [] (some 0) 0 0 tail = _ from htail]
    rfl
  | cons w ws =>
    have hloop : ∀ cur, pton6Loop cur [] none 0 0 (group (w :: ws) ++ ':' :: ':' :: tail)
        = some (bytesOf (w :: ws) ++ bytesOf right, some (bytesOf (w :: ws)).length) := by
      intro cur
      rw [pton6Loop_group_colons hleft (by simpa using hlen)]
      exact htail
    obtain ⟨c, src, hcons, hc⟩ := exists_group_cons w ws (':' :: ':' :: tail)
    rw [hcons] at hloop ⊢
    rw [inet_pton6_of_isDigit hc, hloop]
    rfl

/-- **An IPv6 address is read back.** -/
theorem inet_pton6_ntop6 (a : Bytes 16) : inet_pton6 (inet_ntop6 a) = some a := by
  obtain ⟨hlen, hlt, hbytes⟩ := words_spec (n := 8) a.toList_length
  cases hbest : bestRun (words a.toList) with
  | none =>
    simp only [inet_ntop6, hbest]
    have hloop : ∀ cur, pton6Loop cur [] none 0 0 (group (words a.toList))
        = some (a.toList, none) := by
      intro cur
      rw [pton6Loop_groups hlt (by simp [hlen]), hbytes]
      rfl
    obtain ⟨w, ws, hws⟩ := List.exists_cons_of_length_eq_add_one hlen
    obtain ⟨c, src, hcons, hc⟩ := exists_group_cons w ws []
    rw [← hws, List.append_nil] at hcons
    rw [hcons] at hloop ⊢
    rw [inet_pton6_of_isDigit hc, hloop]
    show expand a.toList none = some a
    simp only [expand]
    rw [dif_pos a.toList_length]
    rfl
  | some r =>
    obtain ⟨b, l⟩ := r
    obtain ⟨hrun, hl⟩ := bestRun_spec hbest
    simp only [inet_ntop6, hbest]
    split_ifs with hip4 hsix
    · -- the run, then an IPv4 address
      obtain ⟨rfl, -⟩ := hip4
      obtain rfl := hsix
      refine (inet_pton6_colons [] ((words a.toList).drop 6) (by simp) (by simp) ?_).trans
        (expand_run hrun hl)
      rw [bytesOf_drop, hbytes]
      exact pton6Loop_octets (inet_pton4_ntop4 ⟨a.toList.drop 12, by simp⟩) (by decide)
    · -- the run, the word 0xffff, then an IPv4 address
      obtain ⟨rfl, hlen' | ⟨rfl, hword⟩⟩ := hip4
      · exact absurd hlen' hsix
      have hright : (words a.toList).drop 5 = 0xffff :: (words a.toList).drop 6 := by
        obtain ⟨hlt5, hget⟩ := List.getElem?_eq_some_iff.mp hword
        rw [List.drop_eq_getElem_cons hlt5, hget]
      refine (inet_pton6_colons [] ((words a.toList).drop 5) (by simp) (by simp) ?_).trans
        (expand_run hrun hl)
      have hne : ['.'].intercalate ((a.toList.drop 12).map octet) ≠ [] :=
        inet_ntop4_ne_nil ⟨a.toList.drop 12, by simp⟩
      rw [hright]
      show _ = some ([] ++ (wordBytes 0xffff ++ bytesOf ((words a.toList).drop 6)), some 0)
      rw [bytesOf_drop, hbytes, pton6Loop_word (by decide),
        pton6Loop_colon (length_word_ne_zero _) hne (by decide)]
      exact pton6Loop_octets (inet_pton4_ntop4 ⟨a.toList.drop 12, by simp⟩) (by decide)
    · have hdrop : ∀ v ∈ (words a.toList).drop (b + l), v < 65536 :=
        fun v hv => hlt v (List.mem_of_mem_drop hv)
      have hfit : 2 * ((words a.toList).take b).length
          + 2 * ((words a.toList).drop (b + l)).length ≤ 16 := by
        simp only [List.length_take, List.length_drop]
        omega
      rw [inet_pton6_colons _ _ (fun v hv => hlt v (List.mem_of_mem_take hv)) (by omega)
        (pton6Loop_groups hdrop (by rw [length_bytesOf]; exact hfit))]
      exact expand_run hrun hl

/-! ### The characters of the texts -/

/-- The characters of an IPv4 address that is read. -/
theorem mem_of_inet_pton4 {a : Bytes 4} (h : inet_pton4 src = some a) {c : Char} (hc : c ∈ src) :
    isDigit 10 c ∨ c = '.' :=
  mem_of_pton4Loop h c hc

theorem mem_of_pton6Loop {r : List UInt8 × Option ℕ} (hcur : src <:+ curtok)
    (h : pton6Loop curtok tp colonp val xdigits_seen src = some r) :
    ∀ c ∈ src, isDigit 16 c ∨ c = ':' ∨ c = '.' := by
  induction src generalizing curtok tp colonp val xdigits_seen with
  | nil => simp
  | cons ch src ih =>
    have hsrc : src <:+ curtok := (List.suffix_cons ch src).trans hcur
    rw [pton6Loop] at h
    split_ifs at h with hdigit _ hcolon _ _ _ _ hdot
    · exact List.forall_mem_cons.mpr ⟨Or.inl hdigit, ih hsrc h⟩
    · exact List.forall_mem_cons.mpr ⟨Or.inr (Or.inl hcolon), ih (List.suffix_refl src) h⟩
    · exact List.forall_mem_cons.mpr ⟨Or.inr (Or.inl hcolon), ih (List.suffix_refl src) h⟩
    · -- the rest is part of an IPv4 address
      obtain ⟨a, ha, -⟩ := Option.map_eq_some_iff.mp h
      intro c hc
      rcases mem_of_inet_pton4 ha (hcur.subset hc) with hdec | hdot'
      · exact Or.inl (isDigit_sixteen hdec)
      · exact Or.inr (Or.inr hdot')

/-- The characters of an IPv6 address that is read. -/
theorem mem_of_inet_pton6 {a : Bytes 16} (h : inet_pton6 src = some a) {c : Char} (hc : c ∈ src) :
    isDigit 16 c ∨ c = ':' ∨ c = '.' := by
  unfold inet_pton6 at h
  split at h
  · exact absurd h (by simp)
  · obtain ⟨r, hr, -⟩ := Option.bind_eq_some_iff.mp h
    rcases List.mem_cons.mp hc with rfl | hc
    · exact Or.inr (Or.inl rfl)
    · exact mem_of_pton6Loop (List.suffix_refl _) hr c hc
  · exact absurd h (by simp)
  · obtain ⟨r, hr, -⟩ := Option.bind_eq_some_iff.mp h
    exact mem_of_pton6Loop (List.suffix_refl _) hr c hc

/-- Without a colon no more than four bytes are read. -/
theorem length_pton6Loop_le {r : List UInt8 × Option ℕ} (hcolon : ':' ∉ src)
    (h : pton6Loop curtok [] none val xdigits_seen src = some r) :
    r.1.length ≤ 4 ∧ r.2 = none := by
  induction src generalizing val xdigits_seen with
  | nil =>
    rw [pton6Loop] at h
    split_ifs at h
    all_goals
      obtain rfl := Option.some.inj h
      simp [wordBytes]
  | cons ch src ih =>
    have hch : ch ≠ ':' := fun he => hcolon (he ▸ List.mem_cons_self)
    have hsrc : ':' ∉ src := fun hmem => hcolon (List.mem_cons_of_mem ch hmem)
    rw [pton6Loop, if_neg hch] at h
    split_ifs at h
    · exact ih hsrc h
    · obtain ⟨a, -, rfl⟩ := Option.map_eq_some_iff.mp h
      simp

/-- Without a colon a text is no IPv6 address. -/
theorem inet_pton6_eq_none_of_not_mem (hcolon : ':' ∉ src) : inet_pton6 src = none := by
  unfold inet_pton6
  split
  · rfl
  · exact absurd List.mem_cons_self hcolon
  · exact absurd List.mem_cons_self hcolon
  · rw [Option.bind_eq_none_iff]
    rintro ⟨tp, colonp⟩ hr
    obtain ⟨hlen, rfl⟩ := length_pton6Loop_le hcolon hr
    have hne : tp.length ≠ 16 := by
      have : tp.length ≤ 4 := hlen
      omega
    simp [expand, hne]

/-- **No text is an IPv4 and an IPv6 address.** -/
theorem inet_pton6_eq_none_of_inet_pton4 {a : Bytes 4} (h : inet_pton4 src = some a) :
    inet_pton6 src = none := by
  apply inet_pton6_eq_none_of_not_mem
  intro hmem
  rcases mem_of_inet_pton4 h hmem with hc | hc
  · exact absurd hc (by decide)
  · exact absurd hc (by decide)

/-- What is written for an IPv6 address is no IPv4 address. -/
theorem inet_pton4_ntop6 (a : Bytes 16) : inet_pton4 (inet_ntop6 a) = none := by
  rw [Option.eq_none_iff_forall_ne_some]
  intro b hb
  exact absurd (inet_pton6_ntop6 a) (by simp [inet_pton6_eq_none_of_inet_pton4 hb])

/-- The characters of an IPv6 address as it is written. -/
theorem mem_inet_ntop6 {a : Bytes 16} {c : Char} (hc : c ∈ inet_ntop6 a) :
    isDigit 16 c ∨ c = ':' ∨ c = '.' :=
  mem_of_inet_pton6 (inet_pton6_ntop6 a) hc

end Inet
