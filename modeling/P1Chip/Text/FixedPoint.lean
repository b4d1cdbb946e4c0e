import P1Chip.Text.Radix

/-!
# Numbers with a fixed number of places

A floating point number is a whole number times a power of two.  Its text with a given number of
decimal places is found from that in exact arithmetic, so that it is the nearest one; of two
equally near texts the one with an even last digit is taken.

* `Text.roundDiv` — division, rounded to nearest.
* `Text.FloatParts` — a floating point number as a whole number and a power of two.
* `Text.fixed` — the text.
-/

namespace P1Chip.Text

/-- The whole number nearest to `num / den`; a half goes to the even neighbour. -/
def roundDiv (num den : Nat) : Nat :=
  let quotient := num / den
  let twice := 2 * (num % den)
  if twice < den then quotient
  else if den < twice then quotient + 1
  else quotient + quotient % 2

/-- A finite number of 64 bits, as `mantissa * 2 ^ exponent` with a sign. -/
structure FloatParts where
  negative : Bool
  mantissa : Nat
  exponent : Int
deriving DecidableEq, Repr

namespace FloatParts

/-- The parts of the number that is stored as the given bits. -/
def ofBits (bits : UInt64) : FloatParts :=
  let fraction := bits.toNat % Nat.pow 2 52
  let exponent : Nat := bits.toNat / Nat.pow 2 52 % Nat.pow 2 11
  { negative := bits.toNat ≥ Nat.pow 2 63
    mantissa := if exponent = 0 then fraction else fraction + Nat.pow 2 52
    exponent := if exponent = 0 then -1074 else (exponent : Int) - 1075 }

/-- The absolute value times `10 ^ places`, rounded to a whole number. -/
def scaled (parts : FloatParts) (places : Nat) : Nat :=
  let digits := parts.mantissa * Nat.pow 10 places
  if parts.exponent < 0 then roundDiv digits (Nat.pow 2 parts.exponent.natAbs)
  else digits * Nat.pow 2 parts.exponent.natAbs

end FloatParts

/-- A finite number in decimal, with the given number of places after the point. -/
def fixed (places : Nat) (x : Float) : String :=
  let parts := FloatParts.ofBits x.toBits
  let scaled := parts.scaled places
  (if parts.negative then "-" else "")
    ++ toString (scaled / Nat.pow 10 places)
    ++ "."
    ++ padLeft places '0' (toString (scaled % Nat.pow 10 places))

end P1Chip.Text
