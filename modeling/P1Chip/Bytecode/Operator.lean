/-!
# The operators of Spin

Spin has 32 operators.  Each can be a bytecode of its own, which works on the top of the stack, or
part of an assignment, which works on a variable.

* `Operator` — the 32 operators.
* `Operator.ofBits` — the operator with a five-bit code.
* `Operator.isUnary` — whether an operator takes one operand only.
-/

namespace P1Chip

/-- The operators, in the order of their codes. -/
inductive Operator where
  | rotateRight
  | rotateLeft
  | shiftRight
  | shiftLeft
  | limitMinimum
  | limitMaximum
  | negate
  | complement
  | bitAnd
  | absolute
  | bitOr
  | bitXor
  | add
  | subtract
  | arithmeticShiftRight
  | reverse
  | logicalAnd
  | encode
  | logicalOr
  | decode
  | multiply
  | multiplyHigh
  | divide
  | modulus
  | squareRoot
  | less
  | greater
  | notEqual
  | equal
  | lessOrEqual
  | greaterOrEqual
  | logicalNot
deriving DecidableEq, Repr, Inhabited

namespace Operator

/-- All operators, each at the index that is its code. -/
def all : Vector Operator 32 :=
  #v[
    rotateRight, rotateLeft, shiftRight, shiftLeft, limitMinimum, limitMaximum, negate,
    complement, bitAnd, absolute, bitOr, bitXor, add, subtract, arithmeticShiftRight, reverse,
    logicalAnd, encode, logicalOr, decode, multiply, multiplyHigh, divide, modulus, squareRoot,
    less, greater, notEqual, equal, lessOrEqual, greaterOrEqual, logicalNot]

/-- The operator whose code is in the low five bits of a byte. -/
def ofBits (bits : UInt8) : Operator :=
  all[bits.toNat % 32]

/-- The code of an operator. -/
def bits (operator : Operator) : UInt8 :=
  UInt8.ofNat operator.ctorIdx

/-- Operators that work on one operand and leave the rest of the stack alone. -/
def isUnary : Operator → Bool
  | negate | complement | absolute | encode | decode | squareRoot | logicalNot => true
  | _ => false

/-- How the operator is written in Spin. -/
def symbol : Operator → String
  | rotateRight => "->"
  | rotateLeft => "<-"
  | shiftRight => ">>"
  | shiftLeft => "<<"
  | limitMinimum => "#>"
  | limitMaximum => "<#"
  | negate => "-"
  | complement => "!"
  | bitAnd => "&"
  | absolute => "||"
  | bitOr => "|"
  | bitXor => "^"
  | add => "+"
  | subtract => "-"
  | arithmeticShiftRight => "~>"
  | reverse => "><"
  | logicalAnd => "AND"
  | encode => ">|"
  | logicalOr => "OR"
  | decode => "|<"
  | multiply => "*"
  | multiplyHigh => "**"
  | divide => "/"
  | modulus => "//"
  | squareRoot => "^^"
  | less => "<"
  | greater => ">"
  | notEqual => "<>"
  | equal => "=="
  | lessOrEqual => "=<"
  | greaterOrEqual => "=>"
  | logicalNot => "NOT"

/-- The name of the operator. -/
def name : Operator → String
  | rotateRight => "RotateRight"
  | rotateLeft => "RotateLeft"
  | shiftRight => "ShiftRight"
  | shiftLeft => "ShiftLeft"
  | limitMinimum => "LimitMinimum"
  | limitMaximum => "LimitMaximum"
  | negate => "Negate"
  | complement => "Complement"
  | bitAnd => "BitAnd"
  | absolute => "Absolute"
  | bitOr => "BitOr"
  | bitXor => "BitXor"
  | add => "Add"
  | subtract => "Subtract"
  | arithmeticShiftRight => "ArithmeticShiftRight"
  | reverse => "Reverse"
  | logicalAnd => "LogicalAnd"
  | encode => "Encode"
  | logicalOr => "LogicalOr"
  | decode => "Decode"
  | multiply => "Multiply"
  | multiplyHigh => "MultiplyHigh"
  | divide => "Divide"
  | modulus => "Modulus"
  | squareRoot => "SquareRoot"
  | less => "Less"
  | greater => "Greater"
  | notEqual => "NotEqual"
  | equal => "Equal"
  | lessOrEqual => "LessOrEqual"
  | greaterOrEqual => "GreaterOrEqual"
  | logicalNot => "LogicalNot"

@[simp]
theorem ofBits_bits (operator : Operator) : ofBits operator.bits = operator := by
  cases operator <;> rfl

end Operator

end P1Chip
