/-
Redis/Glob.lean

The patterns of KEYS.

In a pattern `*` stands for any text, `?` for any character and `[...]` for one of some
characters, or, after a `^`, for one of the others; a backslash takes the next character as
it is.  A class that is not closed goes up to the end of the pattern.

A pattern without such characters, followed by a `*`, matches what begins with it
(`matches_star_of_plain`).
-/
import Sonic.Redis.Db

namespace Redis

/-- What a class is made of. -/
inductive ClassItem where
  | char (c : Char)
  | range (first last : Char)
  deriving DecidableEq

/-- A part of a pattern. -/
inductive GlobPart where
  | star
  | any
  | oneOf (negated : Bool) (items : List ClassItem)
  | lit (c : Char)
  deriving DecidableEq

/-- The items up to the end of a class, and what follows it; up to a number of items. -/
def parseClass : ℕ → List Char → List ClassItem × List Char
  | 0, p => ([], p)
  | _ + 1, [] => ([], [])
  | n + 1, '\\' :: c :: p => ((parseClass n p).map (.char c :: ·) id)
  | _ + 1, ']' :: p => ([], p)
  | n + 1, first :: '-' :: last :: p => ((parseClass n p).map (.range first last :: ·) id)
  | n + 1, c :: p => ((parseClass n p).map (.char c :: ·) id)

/-- The parts of a pattern, up to a number of them. -/
def parseParts : ℕ → List Char → List GlobPart
  | 0, _ => []
  | _ + 1, [] => []
  | n + 1, c :: p =>
    if c = '*' then .star :: parseParts n p
    else if c = '?' then .any :: parseParts n p
    else if c = '[' then
      let negated : Bool := p.head? = some '^'
      let r := parseClass n (if negated then p.tail else p)
      .oneOf negated r.1 :: parseParts n r.2
    else if c = '\\' then
      match p with
      | [] => [.lit c]
      | d :: p' => .lit d :: parseParts n p'
    else .lit c :: parseParts n p

/-- The parts of a pattern: there are no more than it has characters. -/
def parseGlob (pattern : String) : List GlobPart :=
  parseParts pattern.toList.length pattern.toList

/-- The character is of the class; the ends of a range may be given in any order. -/
def ClassItem.has (a : Char) : ClassItem → Bool
  | .char c => a = c
  | .range first last => (first ≤ a && a ≤ last) || (last ≤ a && a ≤ first)

/-- The text matches the parts. -/
def matchParts : List GlobPart → List Char → Bool
  | [], s => s.isEmpty
  | .star :: parts, s => s.tails.any (matchParts parts)
  | .any :: parts, s =>
    match s with
    | [] => false
    | _ :: s => matchParts parts s
  | .oneOf negated items :: parts, s =>
    match s with
    | [] => false
    | a :: s => (items.any (·.has a) != negated) && matchParts parts s
  | .lit c :: parts, s =>
    match s with
    | [] => false
    | a :: s => a = c && matchParts parts s

/-- `stringmatch`. -/
def stringmatch (pattern key : String) : Bool := matchParts (parseGlob pattern) key.toList

/-- KEYS: the names that match a pattern. -/
def Db.keysMatching (db : Db) (pattern : String) : List String :=
  (db.hashes.keys ++ db.sets.keys).filter (stringmatch pattern)

/-- A character that stands for itself. -/
def Plain (c : Char) : Prop := c ≠ '*' ∧ c ≠ '?' ∧ c ≠ '[' ∧ c ≠ '\\'

instance (c : Char) : Decidable (Plain c) := inferInstanceAs (Decidable (_ ∧ _ ∧ _ ∧ _))

variable {p s : List Char} {parts : List GlobPart} {n : ℕ} {db : Db} {key pattern : String}

/-- Characters that stand for themselves are parts of their own. -/
theorem parseParts_append (hplain : ∀ c ∈ p, Plain c) (q : List Char) :
    parseParts (p.length + n) (p ++ q) = p.map .lit ++ parseParts n q := by
  induction p with
  | nil => rw [List.length_nil, Nat.zero_add]; rfl
  | cons c p ih =>
    obtain ⟨hstar, hany, hclass, hescape⟩ := hplain c List.mem_cons_self
    rw [List.length_cons, show p.length + 1 + n = p.length + n + 1 by omega, List.cons_append]
    simp only [parseParts, if_neg hstar, if_neg hany, if_neg hclass, if_neg hescape]
    rw [ih fun c hc => hplain c (List.mem_cons_of_mem _ hc)]
    rfl

/-- Characters that stand for themselves are matched by themselves. -/
theorem matchParts_lit :
    matchParts (p.map .lit ++ parts) s = true ↔
      ∃ rest, s = p ++ rest ∧ matchParts parts rest = true := by
  induction p generalizing s with
  | nil => exact ⟨fun h => ⟨s, rfl, h⟩, by rintro ⟨rest, rfl, h⟩; exact h⟩
  | cons c p ih =>
    cases s with
    | nil =>
      constructor
      · intro h
        cases h
      · rintro ⟨rest, hs, -⟩
        cases hs
    | cons a s =>
      show (decide (a = c) && matchParts (p.map .lit ++ parts) s) = true ↔ _
      rw [Bool.and_eq_true, decide_eq_true_iff, ih]
      constructor
      · rintro ⟨rfl, rest, rfl, h⟩
        exact ⟨rest, rfl, h⟩
      · rintro ⟨rest, hs, h⟩
        obtain ⟨rfl, rfl⟩ := List.cons.inj hs
        exact ⟨rfl, rest, rfl, h⟩

/-- A star at the end matches anything. -/
theorem matchParts_star : matchParts [.star] s = true := by
  show s.tails.any (matchParts []) = true
  rw [List.any_eq_true]
  exact ⟨[], (List.mem_tails _ _).mpr List.nil_suffix, rfl⟩

/-- **A plain text and a star match what begins with the text.** -/
theorem matches_star_of_plain (hplain : ∀ c ∈ pattern.toList, Plain c) :
    stringmatch (pattern ++ "*") key = Db.startsWith pattern key := by
  have hparts : parseGlob (pattern ++ "*") = pattern.toList.map .lit ++ [.star] := by
    rw [parseGlob, String.toList_append, List.length_append]
    exact parseParts_append (n := 1) hplain _
  rw [stringmatch, hparts, Bool.eq_iff_iff, matchParts_lit, Db.startsWith,
    List.isPrefixOf_iff_prefix]
  constructor
  · rintro ⟨rest, hs, -⟩
    exact ⟨rest, hs.symm⟩
  · rintro ⟨rest, hs⟩
    exact ⟨rest, hs.symm, matchParts_star⟩

/-! ### DEL of the names that match -/

namespace Db

theorem mem_keysMatching :
    key ∈ db.keysMatching pattern ↔
      (db.hgetall key ≠ ∅ ∨ db.smembers key ≠ ∅) ∧ stringmatch pattern key = true := by
  simp [keysMatching, hgetall_eq_empty_iff, smembers_eq_empty_iff, or_and_right]

theorem hgetall_delAll_keysMatching :
    (db.delAll (db.keysMatching pattern)).hgetall key =
      if stringmatch pattern key = true then ∅ else db.hgetall key := by
  rw [hgetall_delAll]
  by_cases hp : stringmatch pattern key = true <;> by_cases he : db.hgetall key = ∅ <;>
    simp [mem_keysMatching, hp, he]

theorem smembers_delAll_keysMatching :
    (db.delAll (db.keysMatching pattern)).smembers key =
      if stringmatch pattern key = true then ∅ else db.smembers key := by
  rw [smembers_delAll]
  by_cases hp : stringmatch pattern key = true <;> by_cases he : db.smembers key = ∅ <;>
    simp [mem_keysMatching, hp, he]

end Db

end Redis
