/-
Lib/Json.lean

The JSON values the codecs are made of, as text and back.

A value is null, an unsigned number, a string, an array or an object; an object is
kept in the order of its keys, as a map is.  Negative and floating-point numbers,
truth values and escapes of characters past the ASCII ones are left out: no codec
writes them.  `dump` writes a value without blanks, `parse` reads a text by recursive
descent, and what is written is read back (`parse_dump`).
-/
import Sonic.Lib.Numeral

/-- A JSON value. -/
inductive Json where
  | null
  | number (n : ℕ)
  | string (s : List Char)
  | array (items : List Json)
  | object (members : List (List Char × Json))

namespace Json

open Numeral

/-! ### Objects -/

/-- Store a member of an object. -/
def insertKey (key : List Char) (j : Json) :
    List (List Char × Json) → List (List Char × Json)
  | [] => [(key, j)]
  | (key', j') :: members =>
    if key < key' then (key, j) :: (key', j') :: members
    else if key' < key then (key', j') :: insertKey key j members
    else (key, j) :: members

/-- `j[key] = …`; a null becomes an object. -/
def set (key : List Char) (value : Json) : Json → Json
  | .object members => .object (insertKey key value members)
  | .null => .object (insertKey key value [])
  | j => j

/-- `j[key]`; a key that is not there is null. -/
def get (key : List Char) : Json → Json
  | .object members => ((members.find? (·.1 = key)).map (·.2)).getD .null
  | _ => .null

/-- The conversion to a string, which throws for other values. -/
def toString? : Json → Option (List Char)
  | .string s => some s
  | _ => none

/-- The conversion to a number, which throws for other values. -/
def toNumber? : Json → Option ℕ
  | .number n => some n
  | _ => none

/-! ### Writing -/

/-- `escape_string`, for one character. -/
def escape (c : Char) : List Char :=
  if c = '"' then ['\\', '"']
  else if c = '\\' then ['\\', '\\']
  else if c = '\x08' then ['\\', 'b']
  else if c = '\x0c' then ['\\', 'f']
  else if c = '\n' then ['\\', 'n']
  else if c = '\r' then ['\\', 'r']
  else if c = '\t' then ['\\', 't']
  else if c.toNat < 32 then
    ['\\', 'u', '0', '0', (c.toNat / 16).digitChar, (c.toNat % 16).digitChar]
  else [c]

def quote (s : List Char) : List Char := '"' :: (s.flatMap escape ++ ['"'])

mutual

/-- `dump`. -/
def dump : Json → List Char
  | .null => ['n', 'u', 'l', 'l']
  | .number n => Nat.toDigits 10 n
  | .string s => quote s
  | .array [] => ['[', ']']
  | .array (j :: items) => '[' :: (dump j ++ dumpItems items)
  | .object [] => ['\x7b', '\x7d']
  | .object ((key, j) :: members) =>
    '\x7b' :: (quote key ++ ':' :: (dump j ++ dumpMembers members))

/-- What follows an item of an array. -/
def dumpItems : List Json → List Char
  | [] => [']']
  | j :: items => ',' :: (dump j ++ dumpItems items)

/-- What follows a member of an object. -/
def dumpMembers : List (List Char × Json) → List Char
  | [] => ['\x7d']
  | (key, j) :: members => ',' :: (quote key ++ ':' :: (dump j ++ dumpMembers members))

end

/-! ### Reading -/

/-- The blanks between tokens. -/
def skip (s : List Char) : List Char :=
  s.dropWhile fun c => c = ' ' ∨ c = '\t' ∨ c = '\n' ∨ c = '\r'

/-- The character of a two-character escape. -/
def unescape (c : Char) : Option Char :=
  if c = '"' ∨ c = '\\' ∨ c = '/' then some c
  else if c = 'b' then some '\x08'
  else if c = 'f' then some '\x0c'
  else if c = 'n' then some '\n'
  else if c = 'r' then some '\r'
  else if c = 't' then some '\t'
  else none

/-- The rest of a string, and what follows it. -/
def parseString : List Char → Option (List Char × List Char)
  | [] => none
  | c :: s =>
    if c = '"' then some ([], s)
    else if c = '\\' then
      match s with
      | [] => none
      | e :: s =>
        if e = 'u' then
          match s with
          | d₀ :: d₁ :: d₂ :: d₃ :: s =>
            let code := value 16 [d₀, d₁, d₂, d₃]
            if [d₀, d₁, d₂, d₃].all (isDigit 16) ∧ code < 128 then
              (parseString s).map fun r => (Char.ofNat code :: r.1, r.2)
            else none
          | _ => none
        else
          (unescape e).bind fun e => (parseString s).map fun r => (e :: r.1, r.2)
    else if c.toNat < 32 then none
    else (parseString s).map fun r => (c :: r.1, r.2)

/-- A number, and what follows it. -/
def parseNumber (s : List Char) : Option (Json × List Char) :=
  let ds := s.takeWhile (isDigit 10)
  let rest := s.dropWhile (isDigit 10)
  if ds = [] ∨ (ds.head? = some '0' ∧ ds ≠ ['0']) then none
  else if rest.head? = some '.' ∨ rest.head? = some 'e' ∨ rest.head? = some 'E' then none
  else if value 10 ds < 2 ^ 64 then some (.number (value 10 ds), rest)
  else none

mutual

/-- A value, and what follows it. -/
def parseValue : ℕ → List Char → Option (Json × List Char)
  | 0, _ => none
  | fuel + 1, s =>
    match skip s with
    | '\x7b' :: s =>
      match skip s with
      | '\x7d' :: s => some (.object [], s)
      | s => (parseMember fuel s).bind fun r => parseMembers fuel [r.1] r.2
    | '[' :: s =>
      match skip s with
      | ']' :: s => some (.array [], s)
      | s => (parseValue fuel s).bind fun r => parseItems fuel [r.1] r.2
    | '"' :: s => (parseString s).map fun r => (.string r.1, r.2)
    | 'n' :: 'u' :: 'l' :: 'l' :: s => some (.null, s)
    | s => parseNumber s

/-- The items that follow an item of an array. -/
def parseItems : ℕ → List Json → List Char → Option (Json × List Char)
  | 0, _, _ => none
  | fuel + 1, items, s =>
    match skip s with
    | ']' :: s => some (.array items, s)
    | ',' :: s => (parseValue fuel s).bind fun r => parseItems fuel (items ++ [r.1]) r.2
    | _ => none

/-- A member of an object. -/
def parseMember : ℕ → List Char → Option ((List Char × Json) × List Char)
  | 0, _ => none
  | fuel + 1, s =>
    match skip s with
    | '"' :: s =>
      (parseString s).bind fun r =>
        match skip r.2 with
        | ':' :: s => (parseValue fuel s).map fun v => ((r.1, v.1), v.2)
        | _ => none
    | _ => none

/-- The members that follow a member of an object. -/
def parseMembers : ℕ → List (List Char × Json) → List Char → Option (Json × List Char)
  | 0, _, _ => none
  | fuel + 1, members, s =>
    match skip s with
    | '\x7d' :: s => some (.object members, s)
    | ',' :: s =>
      (parseMember fuel s).bind fun r =>
        parseMembers fuel (insertKey r.1.1 r.1.2 members) r.2
    | _ => none

end

/-- `json::parse`. -/
def parse (s : List Char) : Option Json :=
  (parseValue (s.length + 1) s).bind fun r => if skip r.2 = [] then some r.1 else none

/-! ### Strings are read back -/

variable {s rest : List Char} {fuel : ℕ}

theorem parseString_unescape {e c : Char} (he : unescape e = some c) (hu : e ≠ 'u') :
    parseString ('\\' :: e :: s) = (parseString s).map fun r => (c :: r.1, r.2) := by
  conv_lhs => rw [parseString.eq_def]
  simp only [if_neg (show '\\' ≠ '"' by decide), if_pos trivial, if_neg hu, he, Option.bind_some]

/-- The escape of a character is read as the character. -/
theorem parseString_escape (c : Char) :
    parseString (escape c ++ s) = (parseString s).map fun r => (c :: r.1, r.2) := by
  unfold escape
  split_ifs with hquote hslash hb hf hn hr ht hcontrol
  · subst hquote
    exact parseString_unescape rfl (by decide)
  · subst hslash
    exact parseString_unescape rfl (by decide)
  · subst hb
    exact parseString_unescape rfl (by decide)
  · subst hf
    exact parseString_unescape rfl (by decide)
  · subst hn
    exact parseString_unescape rfl (by decide)
  · subst hr
    exact parseString_unescape rfl (by decide)
  · subst ht
    exact parseString_unescape rfl (by decide)
  · -- a control character is written as its code
    have hhi : c.toNat / 16 < 16 := by omega
    have hlo : c.toNat % 16 < 16 := Nat.mod_lt _ (by decide)
    have hcode : value 16 ['0', '0', (c.toNat / 16).digitChar, (c.toNat % 16).digitChar]
        = c.toNat := by
      simp only [value, List.foldl_cons, List.foldl_nil, digitVal_digitChar hhi,
        digitVal_digitChar hlo, show digitVal '0' = some 0 from rfl, Option.getD_some]
      omega
    have hdigits : ['0', '0', (c.toNat / 16).digitChar, (c.toNat % 16).digitChar].all (isDigit 16)
        = true := by
      simp [isDigit_digitChar (le_refl 16) hhi, isDigit_digitChar (le_refl 16) hlo,
        show isDigit 16 '0' = true by decide]
    show parseString ('\\' :: 'u' :: '0' :: '0' :: (c.toNat / 16).digitChar
      :: (c.toNat % 16).digitChar :: s) = _
    have hlt : c.toNat < 128 := by omega
    conv_lhs => rw [parseString.eq_def]
    simp only [if_neg (show '\\' ≠ '"' by decide), if_pos trivial, hcode, hdigits, hlt, and_self,
      Char.ofNat_toNat]
  · conv_lhs => rw [List.singleton_append, parseString.eq_def]
    simp only [if_neg hquote, if_neg hslash, if_neg hcontrol]

theorem parseString_quoted (s : List Char) :
    parseString (s.flatMap escape ++ '"' :: rest) = some (s, rest) := by
  induction s with
  | nil =>
    show parseString ('"' :: rest) = _
    rw [parseString.eq_def]
    simp
  | cons c s ih =>
    rw [List.flatMap_cons, List.append_assoc, parseString_escape, ih]
    rfl

/-! ### Numbers are read back -/

/-- What follows a value: nothing, or the end or the next part of an array or object. -/
def Ends (rest : List Char) : Prop :=
  ∀ c ∈ rest.head?, c = ',' ∨ c = ']' ∨ c = '\x7d'

theorem eq_zero_of_head?_toDigits {n : ℕ} (h : (Nat.toDigits 10 n).head? = some '0') :
    n = 0 := by
  induction n using Nat.strongRecOn with
  | _ n ih =>
    rcases Nat.lt_or_ge n 10 with hlt | hge
    · rw [Nat.toDigits_of_lt_base hlt] at h
      have hdigit := digitVal_digitChar (hlt.trans (show 10 < 16 by decide))
      rw [Option.some.inj h] at hdigit
      exact (Option.some.inj hdigit).symm
    · rw [Nat.toDigits_of_base_le (by decide) hge,
        List.head?_append_of_ne_nil _ Nat.toDigits_ne_nil] at h
      have := ih (n / 10) (by omega) h
      omega

theorem parseNumber_toDigits {n : ℕ} (hn : n < 2 ^ 64) (hrest : Ends rest) :
    parseNumber (Nat.toDigits 10 n ++ rest) = some (.number n, rest) := by
  have hdigits : ∀ c ∈ Nat.toDigits 10 n, isDigit 10 c :=
    fun c hc => isDigit_of_mem_toDigits (by decide) (by decide) hc
  have hnext : ∀ c ∈ rest.head?, isDigit 10 c = false ∧ c ≠ '.' ∧ c ≠ 'e' ∧ c ≠ 'E' := by
    intro c hc
    rcases hrest c hc with rfl | rfl | rfl <;> decide
  have hsplit : rest.takeWhile (isDigit 10) = [] ∧ rest.dropWhile (isDigit 10) = rest := by
    cases rest with
    | nil => exact ⟨rfl, rfl⟩
    | cons c rest => simp [(hnext c rfl).1]
  have htake : (Nat.toDigits 10 n ++ rest).takeWhile (isDigit 10) = Nat.toDigits 10 n := by
    rw [List.takeWhile_append_of_pos hdigits, hsplit.1, List.append_nil]
  have hdrop : (Nat.toDigits 10 n ++ rest).dropWhile (isDigit 10) = rest := by
    rw [List.dropWhile_append_of_pos hdigits, hsplit.2]
  have hlead : ¬ (Nat.toDigits 10 n = [] ∨
      (Nat.toDigits 10 n).head? = some '0' ∧ Nat.toDigits 10 n ≠ ['0']) := by
    rintro (hnil | ⟨hhead, hne⟩)
    · exact Nat.toDigits_ne_nil hnil
    · obtain rfl := eq_zero_of_head?_toDigits hhead
      exact hne rfl
  have hfloat : ¬ (rest.head? = some '.' ∨ rest.head? = some 'e' ∨ rest.head? = some 'E') := by
    rintro (hc | hc | hc)
    · exact (hnext _ hc).2.1 rfl
    · exact (hnext _ hc).2.2.1 rfl
    · exact (hnext _ hc).2.2.2 rfl
  simp only [parseNumber, htake, hdrop, if_neg hlead, if_neg hfloat,
    value_toDigits (show 1 < 10 by decide) (show 10 ≤ 16 by decide), if_pos hn]

/-! ### Values are read back -/

mutual

/-- Numbers fit, and the members of objects are in the order of their keys. -/
def Stored : Json → Prop
  | .number n => n < 2 ^ 64
  | .array items => StoredItems items
  | .object members => (members.Pairwise fun m m' => m.1 < m'.1) ∧ StoredMembers members
  | _ => True

def StoredItems : List Json → Prop
  | [] => True
  | j :: items => Stored j ∧ StoredItems items

def StoredMembers : List (List Char × Json) → Prop
  | [] => True
  | (_, j) :: members => Stored j ∧ StoredMembers members

end

theorem insertKey_append {members : List (List Char × Json)} {key : List Char} {j : Json}
    (h : ∀ m ∈ members, m.1 < key) : insertKey key j members = members ++ [(key, j)] := by
  induction members with
  | nil => rfl
  | cons m members ih =>
    have hlt : m.1 < key := h m (by simp)
    rw [insertKey, if_neg (List.lt_asymm hlt), if_pos hlt,
      ih fun m' hm' => h m' (List.mem_cons_of_mem m hm')]
    rfl

/-- A value begins with no blank, and not with the end of an array or object. -/
theorem exists_dump_cons (j : Json) :
    ∃ c s, dump j = c :: s ∧ (isDigit 10 c ∨ c = 'n' ∨ c = '"' ∨ c = '[' ∨ c = '\x7b') := by
  cases j with
  | null => exact ⟨_, _, rfl, by simp⟩
  | number n =>
    obtain ⟨c, s, hds⟩ := List.exists_cons_of_ne_nil (Nat.toDigits_ne_nil (n := n) (b := 10))
    exact ⟨c, s, by rw [dump, hds], Or.inl (isDigit_of_mem_toDigits (n := n) (by decide)
      (by decide) (hds ▸ List.mem_cons_self))⟩
  | string s => exact ⟨_, _, by rw [dump, quote], by simp⟩
  | array items => cases items <;> exact ⟨_, _, by rw [dump], by simp⟩
  | object members =>
    cases members with
    | nil => exact ⟨_, _, by rw [dump], by simp⟩
    | cons m members =>
      obtain ⟨key, j⟩ := m
      exact ⟨_, _, by rw [dump], by simp⟩

theorem skip_of_not_blank {c : Char} (hc : c ≠ ' ' ∧ c ≠ '\t' ∧ c ≠ '\n' ∧ c ≠ '\r') :
    skip (c :: s) = c :: s := by
  simp [skip, hc]

theorem not_blank_of_isDigit {c : Char} (hc : isDigit 10 c) :
    c ≠ ' ' ∧ c ≠ '\t' ∧ c ≠ '\n' ∧ c ≠ '\r' := by
  refine ⟨?_, ?_, ?_, ?_⟩ <;> rintro rfl <;> exact absurd hc (by decide)

theorem skip_dump {j : Json} : skip (dump j ++ rest) = dump j ++ rest := by
  obtain ⟨c, s, hcons, hc⟩ := exists_dump_cons j
  rw [hcons]
  rcases hc with hc | rfl | rfl | rfl | rfl
  · exact skip_of_not_blank (not_blank_of_isDigit hc)
  all_goals exact skip_of_not_blank (by decide)

/-- A text that begins with a digit is read as a number. -/
theorem parseValue_of_isDigit {c : Char} (hc : isDigit 10 c) :
    parseValue (fuel + 1) (c :: s) = parseNumber (c :: s) := by
  rw [parseValue, skip_of_not_blank (not_blank_of_isDigit hc)]
  split
  all_goals first
    | rfl
    | next heq =>
      obtain ⟨rfl, -⟩ := List.cons.inj heq
      exact absurd hc (by decide)

theorem ends_dumpItems {items : List Json} : Ends (dumpItems items ++ rest) := by
  cases items <;> simp [Ends, dumpItems]

theorem ends_dumpMembers {members : List (List Char × Json)} :
    Ends (dumpMembers members ++ rest) := by
  cases members with
  | nil => simp [Ends, dumpMembers]
  | cons m members => simp [Ends, dumpMembers]

theorem parseValue_bracket {j : Json} {tail : List Char} :
    parseValue (fuel + 1) ('[' :: (dump j ++ tail))
      = (parseValue fuel (dump j ++ tail)).bind fun r => parseItems fuel [r.1] r.2 := by
  rw [parseValue, skip_of_not_blank (by decide)]
  simp only [skip_dump]
  obtain ⟨c, s, hcons, hc⟩ := exists_dump_cons j
  rw [hcons]
  split
  · next heq =>
      -- a value does not begin with the end of the array
      obtain ⟨rfl, -⟩ := List.cons.inj heq
      exact absurd hc (by decide)
  · rfl

theorem parseMember_quote {key tail : List Char} :
    parseMember (fuel + 1) (quote key ++ ':' :: tail)
      = (parseValue fuel tail).map fun v => ((key, v.1), v.2) := by
  have hquote : quote key ++ ':' :: tail = '"' :: (key.flatMap escape ++ '"' :: ':' :: tail) := by
    simp [quote]
  rw [hquote, parseMember, skip_of_not_blank (by decide)]
  simp only [parseString_quoted, Option.bind_some, skip_of_not_blank
    (show ':' ≠ ' ' ∧ ':' ≠ '\t' ∧ ':' ≠ '\n' ∧ ':' ≠ '\r' by decide)]

theorem parseValue_brace {key tail : List Char} :
    parseValue (fuel + 1) ('\x7b' :: (quote key ++ tail))
      = (parseMember fuel (quote key ++ tail)).bind fun r => parseMembers fuel [r.1] r.2 := by
  rw [parseValue, skip_of_not_blank (by decide)]
  simp only [quote, List.cons_append, skip_of_not_blank
    (show '"' ≠ ' ' ∧ '"' ≠ '\t' ∧ '"' ≠ '\n' ∧ '"' ≠ '\r' by decide)]
  rfl

mutual

/-- **A value that is written is read back**, whatever follows it. -/
theorem parseValue_dump : ∀ (j : Json) (fuel : ℕ) (rest : List Char), Stored j →
    (dump j).length < fuel → Ends rest → parseValue fuel (dump j ++ rest) = some (j, rest)
  | j, 0, _, _, hfuel, _ => absurd hfuel (Nat.not_lt_zero _)
  | .null, fuel + 1, rest, _, _, _ => by
      rw [parseValue, skip_dump]
      rfl
  | .number n, fuel + 1, rest, hj, _, hrest => by
      obtain ⟨c, s, hds⟩ := List.exists_cons_of_ne_nil (Nat.toDigits_ne_nil (n := n) (b := 10))
      have hc : isDigit 10 c :=
        isDigit_of_mem_toDigits (by decide) (by decide) (hds ▸ List.mem_cons_self)
      have hread := parseNumber_toDigits hj hrest
      rw [dump, hds] at *
      rw [List.cons_append] at hread ⊢
      rw [parseValue_of_isDigit hc, hread]
  | .string s, fuel + 1, rest, _, _, _ => by
      rw [parseValue, skip_dump]
      show (parseString (s.flatMap escape ++ ['"'] ++ rest)).map _ = _
      rw [List.append_assoc, List.singleton_append, parseString_quoted]
      rfl
  | .array [], fuel + 1, rest, _, _, _ => by
      rw [parseValue, skip_dump]
      rfl
  | .array (j :: items), fuel + 1, rest, hj, hfuel, hrest => by
      obtain ⟨hj, hitems⟩ := hj
      simp only [dump, List.length_cons, List.length_append] at hfuel
      rw [dump, List.cons_append, List.append_assoc, parseValue_bracket,
        parseValue_dump j fuel _ hj (by omega) ends_dumpItems, Option.bind_some,
        parseItems_dump items [j] fuel rest hitems (by omega)]
      rfl
  | .object [], fuel + 1, rest, _, _, _ => by
      rw [parseValue, skip_dump]
      rfl
  | .object ((key, j) :: members), fuel + 1, rest, hj, hfuel, hrest => by
      obtain ⟨hkeys, hj, hmembers⟩ := hj
      simp only [dump, List.length_cons, List.length_append] at hfuel
      obtain ⟨fuel', rfl⟩ : ∃ fuel', fuel = fuel' + 1 := ⟨fuel - 1, by omega⟩
      rw [dump, List.cons_append, List.append_assoc, List.cons_append, List.append_assoc,
        parseValue_brace, parseMember_quote,
        parseValue_dump j fuel' _ hj (by omega) ends_dumpMembers, Option.map_some,
        Option.bind_some,
        parseMembers_dump members [(key, j)] (fuel' + 1) rest hkeys hmembers (by omega)]
      rfl

theorem parseItems_dump : ∀ (items acc : List Json) (fuel : ℕ) (rest : List Char),
    StoredItems items → (dumpItems items).length < fuel →
      parseItems fuel acc (dumpItems items ++ rest) = some (.array (acc ++ items), rest)
  | items, _, 0, _, _, hfuel => absurd hfuel (Nat.not_lt_zero _)
  | [], acc, fuel + 1, rest, _, _ => by
      rw [dumpItems, List.singleton_append, parseItems, skip_of_not_blank (by decide)]
      simp
  | j :: items, acc, fuel + 1, rest, hitems, hfuel => by
      obtain ⟨hj, hitems⟩ := hitems
      simp only [dumpItems, List.length_cons, List.length_append] at hfuel
      rw [dumpItems, List.cons_append, List.append_assoc, parseItems,
        skip_of_not_blank (by decide)]
      simp only [parseValue_dump j fuel _ hj (by omega) ends_dumpItems, Option.bind_some,
        parseItems_dump items (acc ++ [j]) fuel rest hitems (by omega), List.append_assoc,
        List.singleton_append]

theorem parseMembers_dump : ∀ (members acc : List (List Char × Json)) (fuel : ℕ)
    (rest : List Char), ((acc ++ members).Pairwise fun m m' => m.1 < m'.1) →
      StoredMembers members → (dumpMembers members).length < fuel →
        parseMembers fuel acc (dumpMembers members ++ rest)
          = some (.object (acc ++ members), rest)
  | members, _, 0, _, _, _, hfuel => absurd hfuel (Nat.not_lt_zero _)
  | [], acc, fuel + 1, rest, _, _, _ => by
      rw [dumpMembers, List.singleton_append, parseMembers, skip_of_not_blank (by decide)]
      simp
  | (key, j) :: members, acc, fuel + 1, rest, hkeys, hmembers, hfuel => by
      obtain ⟨hj, hmembers⟩ := hmembers
      simp only [dumpMembers, List.length_cons, List.length_append] at hfuel
      obtain ⟨fuel', rfl⟩ : ∃ fuel', fuel = fuel' + 1 := ⟨fuel - 1, by omega⟩
      have hinsert : insertKey key j acc = acc ++ [(key, j)] :=
        insertKey_append fun m hm => (List.pairwise_append.mp hkeys).2.2 m hm _ List.mem_cons_self
      rw [dumpMembers, List.cons_append, List.append_assoc, List.cons_append, List.append_assoc,
        parseMembers, skip_of_not_blank (by decide)]
      simp only [parseMember_quote, parseValue_dump j fuel' _ hj (by omega) ends_dumpMembers,
        Option.map_some, Option.bind_some, hinsert,
        parseMembers_dump members (acc ++ [(key, j)]) (fuel' + 1) rest (by simpa using hkeys)
          hmembers (by omega), List.append_assoc, List.singleton_append]

end

/-- **What is written is read back.** -/
theorem parse_dump {j : Json} (hj : Stored j) : parse (dump j) = some j := by
  have hread := parseValue_dump j ((dump j).length + 1) [] hj (by omega) (by simp [Ends])
  rw [List.append_nil] at hread
  rw [parse, hread]
  rfl

end Json
