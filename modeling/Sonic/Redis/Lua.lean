/-
Redis/Lua.lean

Calling a Lua script of the server.

EVALSHA takes one flat list of strings: the number of keys, the keys, and then
the remaining arguments.  The script sees them as the two tables KEYS and ARGV,
indexed from one, and turns the strings that stand for numbers back into
numbers.  Everything a caller gets wrong (a count that is no number, a missing
element) is an error of the script, here `none`.

The numeric `for` of Lua is a monadic fold over the indices; `foldlM_range'`
is the lemma that turns such a loop into a plain fold over the list whose
elements the body fetches by index.
-/
import Sonic.Redis.Db

namespace Lua

/-- `t[i]`: tables are indexed from one. -/
def index (t : List String) : ℕ → Option String
  | 0 => none
  | i + 1 => t[i]?

/-- `tonumber`, as it is applied to decimal counts. -/
def tonumber (s : String) : Option ℕ := s.toNat?

/-- `for i = first, last do body(i) end`. -/
def forLoop {α : Type*} (first : ℕ) (last : ℤ) (body : α → ℕ → Option α)
    (a : α) : Option α :=
  (List.range' first (last + 1 - first).toNat).foldlM body a

@[simp] theorem index_succ (t : List String) (i : ℕ) : index t (i + 1) = t[i]? := rfl

@[simp] theorem tonumber_repr (n : ℕ) : tonumber n.repr = some n :=
  Nat.toNat?_repr n

/-- A loop whose body at index `start + i` does with the `i`-th element what
`g` does is the fold of `g`. -/
theorem foldlM_range' {α β : Type*} {body : α → ℕ → Option α} {g : α → β → α}
    {l : List β} {start : ℕ}
    (hbody : ∀ a i x, l[i]? = some x → body a (start + i) = some (g a x)) (a : α) :
    (List.range' start l.length).foldlM body a = some (l.foldl g a) := by
  induction l generalizing start a with
  | nil => rfl
  | cons x l ih =>
    have hhead : body a start = some (g a x) := hbody a 0 x rfl
    have htail : ∀ a i y, l[i]? = some y → body a (start + 1 + i) = some (g a y) := by
      intro a i y hy
      rw [Nat.add_assoc, Nat.add_comm 1 i]
      exact hbody a (i + 1) y hy
    rw [List.length_cons, List.range'_succ, List.foldlM_cons, hhead, List.foldl_cons]
    exact ih htail (g a x)

/-- The loop over the elements of a list, as a fold. -/
theorem forLoop_eq_foldl {α β : Type*} {body : α → ℕ → Option α} {g : α → β → α}
    {l : List β} {first : ℕ} {last : ℤ} (hlast : last + 1 = first + l.length)
    (hbody : ∀ a i x, l[i]? = some x → body a (first + i) = some (g a x)) (a : α) :
    forLoop first last body a = some (l.foldl g a) := by
  have hcount : (last + 1 - first).toNat = l.length := by omega
  rw [forLoop, hcount]
  exact foldlM_range' hbody a

end Lua

namespace Redis

/-- A script: KEYS, ARGV and the database, to what it leaves and replies. -/
abbrev Script (α : Type) := List String → List String → Db → Option α

/-- EVALSHA: split the flat argument list at the given number of keys. -/
def evalsha {α : Type} (script : Script α) (numkeys : String) (args : List String)
    (db : Db) : Option α :=
  match Lua.tonumber numkeys with
  | some n => if n ≤ args.length then script (args.take n) (args.drop n) db else none
  | none => none

/-- An argument list made of as many keys as announced is split as intended. -/
theorem evalsha_append {α : Type} {script : Script α} {keys argv : List String} {n : ℕ} {db : Db}
    (hn : n = keys.length) :
    evalsha script (toString n) (keys ++ argv) db = script keys argv db := by
  subst hn
  simp [evalsha]

/-- The flat list of fields and values of a field list. -/
def flatten (fvs : List (String × String)) : List String :=
  fvs.flatMap fun fv => [fv.1, fv.2]

@[simp] theorem flatten_nil : flatten [] = [] := rfl

@[simp] theorem flatten_cons (fv : String × String) (fvs : List (String × String)) :
    flatten (fv :: fvs) = fv.1 :: fv.2 :: flatten fvs := rfl

@[simp] theorem length_flatten (fvs : List (String × String)) :
    (flatten fvs).length = 2 * fvs.length := by
  induction fvs with
  | nil => rfl
  | cons fv fvs ih => simp [ih]; omega

/-- The `i`-th pair of a field list stands at the places `2 * i` and `2 * i + 1`
of the flat list. -/
theorem getElem?_flatten {fvs : List (String × String)} {i : ℕ} {fv : String × String}
    (h : fvs[i]? = some fv) (rest : List String) :
    (flatten fvs ++ rest)[2 * i]? = some fv.1 ∧
      (flatten fvs ++ rest)[2 * i + 1]? = some fv.2 := by
  induction fvs generalizing i with
  | nil => simp at h
  | cons fv' fvs ih =>
    rcases i with - | i
    · obtain rfl := Option.some.inj h
      exact ⟨rfl, rfl⟩
    · exact ih h

end Redis
