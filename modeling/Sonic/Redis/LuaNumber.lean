/-
Redis/LuaNumber.lean

The numbers that a Lua script of the server computes with.

A number is a double.  `tonumber` takes the double nearest to the number that a text
stands for, and as an argument of a command a number becomes a text of seventeen digits
again (`%.17g`).  A number that is a double, and that seventeen digits write out, comes
back as it was (`Exact`); so does every number below `2 ^ 53`.
-/
import Mathlib

namespace Lua

/-- What a field of a hash holds: a text that stands for a number, or another. -/
inductive Value where
  | number (n : ℕ)
  | text (s : String)
  deriving DecidableEq

/-- The multiple of a unit that is nearest to a number, the even one of two. -/
def roundTo (unit n : ℕ) : ℕ :=
  if 2 * (n % unit) < unit ∨ (2 * (n % unit) = unit ∧ n / unit % 2 = 0) then n / unit * unit
  else (n / unit + 1) * unit

/-- The double that is nearest to a number. -/
def toDouble (n : ℕ) : ℕ := roundTo (2 ^ (n.size - 53)) n

/-- The number that the text of a double stands for. -/
def print17 (n : ℕ) : ℕ := roundTo (10 ^ ((Nat.digits 10 n).length - 17)) n

/-- `tonumber`. -/
def Value.tonumber : Value → Option ℕ
  | .number n => some (toDouble n)
  | .text _ => none

/-- A number as the argument of a command. -/
def argument (n : ℕ) : Value := .number (print17 n)

/-- `math.max`; none is an error. -/
def math_max (a b : Option ℕ) : Option ℕ := a.bind fun x => b.map fun y => max x y

/-- A number that Lua holds and writes out as it is. -/
structure Exact (n : ℕ) : Prop where
  toDouble : toDouble n = n
  print17 : print17 n = n

variable {n m : ℕ}

theorem roundTo_one : roundTo 1 n = n := by
  rw [roundTo, if_pos]
  · rw [Nat.div_one, Nat.mul_one]
  · rw [Nat.mod_one]
    exact .inl Nat.one_pos

/-- **A number of at most 53 bits comes back as it was.** -/
theorem exact_of_lt (h : n < 2 ^ 53) : Exact n where
  toDouble := by
    rw [Lua.toDouble, Nat.sub_eq_zero_of_le (Nat.size_le.mpr h)]
    exact roundTo_one
  print17 := by
    have hdigits : (Nat.digits 10 n).length ≤ 17 := by
      rw [Nat.digits_length_le_iff (by omega)]
      omega
    rw [Lua.print17, Nat.sub_eq_zero_of_le hdigits]
    exact roundTo_one

theorem Exact.max (hn : Exact n) (hm : Exact m) : Exact (max n m) := by
  rcases Nat.le_total n m with h | h
  · rw [Nat.max_eq_right h]
    exact hm
  · rw [Nat.max_eq_left h]
    exact hn

theorem Exact.tonumber (h : Exact n) : (Value.number n).tonumber = some n :=
  congrArg some h.toDouble

theorem Exact.argument (h : Exact n) : argument n = .number n :=
  congrArg Value.number h.print17

end Lua
