/-!
# Numbers for times

Times, periods and frequencies are real quantities.  The clocks are written for any type of
numbers with the four operations and an order: floating point to run them, exact fractions to
reason about them.

* `Timebase` — what the clocks need of their numbers.
* `instTimebaseFloat`, `instTimebaseRat` — the two kinds of numbers.
-/

namespace P1Chip

/-- A type of numbers for times in seconds, frequencies in hertz and their ratios. -/
class Timebase (τ : Type) extends Add τ, Sub τ, Mul τ, Div τ where
  /-- A whole number. -/
  ofNat : Nat → τ
  /-- Whether the first number is less than the second. -/
  lt : τ → τ → Bool
  /-- Whether the first number is at most the second. -/
  le : τ → τ → Bool

namespace Timebase

variable {τ : Type} [Timebase τ]

/-- The lesser of two numbers. -/
def least (a b : τ) : τ :=
  if lt b a then b else a

/-- The time between two edges at the given frequency. -/
def period (frequency : τ) : τ :=
  ofNat 1 / frequency

end Timebase

/-- Floating point numbers of 64 bits. -/
instance instTimebaseFloat : Timebase Float where
  ofNat := Float.ofNat
  lt := fun a b => a < b
  le := fun a b => a ≤ b

/-- Exact fractions. -/
instance instTimebaseRat : Timebase Rat where
  ofNat := fun n => (n : Rat)
  lt := fun a b => a < b
  le := fun a b => a ≤ b

end P1Chip
