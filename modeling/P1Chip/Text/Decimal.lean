/-!
# Reading decimal numbers

A decimal number has an optional sign, digits with at most one point among them, and an optional
exponent of ten after an `e`.  There is at least one digit before the exponent, and at least one
in it.

* `Decimal` — a whole number times a power of ten.
* `Decimal.parse?` — the number that a text stands for.
* `Decimal.roundsToPositive` — whether the nearest floating point number is positive and finite.
-/

namespace P1Chip.Text

/-- The number `mantissa * 10 ^ exponent`, with a sign. -/
structure Decimal where
  negative : Bool
  mantissa : Nat
  exponent : Int
deriving DecidableEq, Repr

namespace Decimal

/-- The value of a digit. -/
def digitValue (c : Char) : Nat :=
  c.toNat - '0'.toNat

/-- The whole number that `digits` stand for, after `start` was read. -/
def valueOf (start : Nat) (digits : List Char) : Nat :=
  digits.foldl (fun value c => 10 * value + digitValue c) start

/-- A text without its sign, and whether that was a minus. -/
def takeSign : List Char → Bool × List Char
  | '-' :: rest => (true, rest)
  | '+' :: rest => (false, rest)
  | text => (false, text)

/-- The exponent that a text after the mantissa stands for; no text is the exponent zero. -/
def parseExponent? : List Char → Option Int
  | [] => some 0
  | c :: rest =>
    let (negative, digits) := takeSign rest
    if (c = 'e' || c = 'E') && !digits.isEmpty && digits.all Char.isDigit then
      let value : Int := valueOf 0 digits
      some (if negative then -value else value)
    else
      none

/-- The digits after a point, and what follows them; without a point there are none. -/
def takeFraction : List Char → List Char × List Char
  | '.' :: rest => (rest.takeWhile Char.isDigit, rest.dropWhile Char.isDigit)
  | text => ([], text)

/-- The number that a text stands for. -/
def parse? (text : String) : Option Decimal :=
  let (negative, text) := takeSign text.toList
  let whole := text.takeWhile Char.isDigit
  let (fraction, rest) := takeFraction (text.dropWhile Char.isDigit)
  if whole.isEmpty && fraction.isEmpty then
    none
  else
    (parseExponent? rest).map fun exponent =>
      { negative
        mantissa := valueOf (valueOf 0 whole) fraction
        exponent := exponent - fraction.length }

/-- Whether `num * 10 ^ exponent` is less than `bound`. -/
def scaledLt (num : Nat) (exponent : Int) (bound : Nat) : Bool :=
  if exponent < 0 then num < bound * Nat.pow 10 exponent.natAbs
  else num * Nat.pow 10 exponent.natAbs < bound

/-- Numbers from here on round to infinity: half a unit in the last place above the greatest finite
number. -/
def overflowBound : Nat := Nat.pow 2 1024 - Nat.pow 2 970

/-- The position of the leading digit: the number has so many digits before the point. -/
def leading (decimal : Decimal) : Int :=
  (toString decimal.mantissa).length + decimal.exponent

/-- Whether the floating point number nearest to `decimal` is positive and finite.  It is zero up
to `2 ^ -1075`, half of the least positive one.  Numbers of more than 400 digits before or after
the point are decided by their size alone. -/
def roundsToPositive (decimal : Decimal) : Bool :=
  if decimal.negative || decimal.mantissa = 0 then false
  else if decimal.leading > 400 || decimal.leading < -400 then false
  else
    scaledLt decimal.mantissa decimal.exponent overflowBound
      && !scaledLt (decimal.mantissa * Nat.pow 2 1075) decimal.exponent 1
      && !(decimal.exponent < 0
        && decimal.mantissa * Nat.pow 2 1075 = Nat.pow 10 decimal.exponent.natAbs)

end Decimal

end P1Chip.Text
