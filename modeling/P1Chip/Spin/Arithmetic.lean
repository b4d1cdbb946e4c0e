import P1Chip.Bytecode.Operator
import P1Chip.Word

/-!
# The arithmetic of Spin

* `Spin.unary?`, `Spin.binary` — what the operators compute.
* `Spin.packedConstant` — constants that are packed into a byte.
* `Spin.randomForward`, `Spin.randomReverse` — the two directions of the pseudo-random sequence,
  32 steps of a shift register at a time.
-/

namespace P1Chip.Spin

open Word

/-! ## Operators -/

/-- One bit of a square root: `place` is set in `root` if the square stays within `value`. -/
def squareRootBit (value : UInt32) (root place : UInt32) : UInt32 :=
  let next := root ||| place
  if next * next ≤ value then next else root

/-- The greatest number whose square is at most `value`, found bit by bit from the highest. -/
def squareRoot (value : UInt32) : UInt32 :=
  [0x8000, 0x4000, 0x2000, 0x1000, 0x800, 0x400, 0x200, 0x100,
    0x80, 0x40, 0x20, 0x10, 0x8, 0x4, 0x2, 0x1].foldl (squareRootBit value) 0

/-- The number of bits that `value` needs. -/
def bitLength (value : UInt32) : UInt32 :=
  if value = 0 then 0 else UInt32.ofNat (value.toNat.log2 + 1)

/-- The value of an operator that takes one operand. -/
def unary? (operator : Operator) (value : UInt32) : Option UInt32 :=
  match operator with
  | .negate => some (-value)
  | .complement => some (~~~ value)
  | .absolute => some (magnitude value)
  | .encode => some (bitLength value)
  | .decode => some (1 <<< (value &&& 31))
  | .squareRoot => some (squareRoot value)
  | .logicalNot => some (ofBool (value == 0))
  | _ => none

/-- The low `count` bits of `value` in reverse order, the others cleared. -/
def reverseLow (value count : UInt32) : UInt32 :=
  if count = 0 then 0
  else if count < 32 then reverse value >>> (32 - count)
  else reverse value

/-- The high half of the signed product. -/
def multiplyHigh (left right : UInt32) : UInt32 :=
  ((left.toInt32.toInt64 * right.toInt32.toInt64) >>> 32).toUInt64.toUInt32

/-- The value of an operator with two operands.  Comparisons, limits, division and the high half
of a product read their operands as signed numbers; division by zero gives all ones.  An operator
that takes one operand ignores the right one. -/
def binary (operator : Operator) (left right : UInt32) : UInt32 :=
  match operator with
  | .rotateRight => rotateRight left (right &&& 31)
  | .rotateLeft => rotateLeft left (right &&& 31)
  | .shiftRight => left >>> (right &&& 31)
  | .shiftLeft => left <<< (right &&& 31)
  | .limitMinimum => if left.toInt32 < right.toInt32 then right else left
  | .limitMaximum => if left.toInt32 < right.toInt32 then left else right
  | .bitAnd => left &&& right
  | .bitOr => left ||| right
  | .bitXor => left ^^^ right
  | .add => left + right
  | .subtract => left - right
  | .arithmeticShiftRight => shiftRightSigned left (right &&& 31)
  | .reverse => reverseLow left right
  | .logicalAnd => ofBool (left != 0 && right != 0)
  | .logicalOr => ofBool (left != 0 || right != 0)
  | .multiply => left * right
  | .multiplyHigh => multiplyHigh left right
  | .divide => if right = 0 then ones else (left.toInt32 / right.toInt32).toUInt32
  | .modulus => if right = 0 then ones else (left.toInt32 % right.toInt32).toUInt32
  | .less => ofBool (left.toInt32 < right.toInt32)
  | .greater => ofBool (right.toInt32 < left.toInt32)
  | .notEqual => ofBool (left != right)
  | .equal => ofBool (left == right)
  | .lessOrEqual => ofBool (left.toInt32 ≤ right.toInt32)
  | .greaterOrEqual => ofBool (right.toInt32 ≤ left.toInt32)
  | .negate | .complement | .absolute | .encode | .decode | .squareRoot | .logicalNot =>
    (unary? operator left).getD left

/-! ## Constants and conversions -/

/-- A constant packed into a byte: twice a power of two, whose exponent is in the low five bits;
bit 5 then subtracts one and bit 6 complements. -/
def packedConstant (byte : UInt8) : UInt32 :=
  let power : UInt32 := 2 <<< (byte &&& 0x1F).toUInt32
  let value := if byte &&& 0x20 != 0 then power - 1 else power
  if byte &&& 0x40 != 0 then ~~~ value else value

/-- The low byte, read as a signed number. -/
def signExtendByte (value : UInt32) : UInt32 :=
  value.toUInt8.toInt8.toInt32.toUInt32

/-- The low word, read as a signed number. -/
def signExtendWord (value : UInt32) : UInt32 :=
  value.toUInt16.toInt16.toInt32.toUInt32

/-! ## The pseudo-random sequence -/

/-- One step of the shift register to the right; the new top bit is the parity of four taps. -/
def randomStep (x : UInt32) : UInt32 :=
  let taps := x ^^^ (x >>> 1) ^^^ (x >>> 2) ^^^ (x >>> 4)
  (x >>> 1) ||| (taps <<< 31)

/-- One step of the shift register to the left; the new low bit is the parity of four taps. -/
def randomStepBack (x : UInt32) : UInt32 :=
  let taps := x ^^^ (x >>> 1) ^^^ (x >>> 3) ^^^ (x >>> 31)
  (x <<< 1) ||| (taps &&& 1)

/-- Zero would stay zero for ever, so one stands in for it. -/
def randomSeed (value : UInt32) : UInt32 :=
  if value = 0 then 1 else value

/-- The value after 32 steps of the sequence. -/
def randomForward (value : UInt32) : UInt32 :=
  Nat.repeat randomStep 32 (randomSeed value)

/-- The value 32 steps before in the sequence. -/
def randomReverse (value : UInt32) : UInt32 :=
  Nat.repeat randomStepBack 32 (randomSeed value)

end P1Chip.Spin
