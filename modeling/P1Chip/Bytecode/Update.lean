import P1Chip.Bytecode.Operator

/-!
# Updates in place

A bytecode that updates a variable or a register is followed by a byte that says how.  Its low
seven bits choose the update, and its top bit asks for a result to be pushed.

* `Update` — the updates.
* `UpdateByte.decode` — the update that a byte asks for.
-/

namespace P1Chip

/-- How wide the counted value is that an increment or decrement works on. -/
inductive CountWidth where
  /-- A bit field; it is cut to its own width when it is stored. -/
  | bits
  | byte
  | word
  | long
deriving DecidableEq, Repr, Inhabited

namespace CountWidth

/-- The bits that a counted value keeps. -/
def mask : CountWidth → UInt32
  | byte => 0xFF
  | word => 0xFFFF
  | bits | long => 0xFFFFFFFF

/-- The width in bits 2 and 1 of the code of an update. -/
def ofCode (code : UInt8) : CountWidth :=
  match code.toNat / 2 % 4 with
  | 0 => bits
  | 1 => byte
  | 2 => word
  | _ => long

end CountWidth

/-- An update of a value in place. -/
inductive Update where
  /-- Store a popped value. -/
  | copy
  /-- Step a counted loop whose bounds are on the stack. -/
  | loopStep
  /-- Step a counted loop whose bounds and stride are on the stack. -/
  | loopStride
  /-- The next value of the pseudo-random sequence. -/
  | randomForward
  /-- The value before in the pseudo-random sequence. -/
  | randomReverse
  | signExtendByte
  | signExtendWord
  /-- Yield the value, and leave zero. -/
  | postClear
  /-- Yield the value, and leave all ones. -/
  | postSet
  | preIncrement (width : CountWidth)
  | postIncrement (width : CountWidth)
  | preDecrement (width : CountWidth)
  | postDecrement (width : CountWidth)
  /-- Apply an operator, with a popped right operand if it has one. -/
  | assign (operator : Operator)
  /-- A code without a meaning. -/
  | undefined (code : UInt8)
deriving DecidableEq, Repr, Inhabited

/-- An update together with the wish for a result. -/
structure UpdateByte where
  update : Update
  /-- Whether the result is pushed. -/
  push : Bool
deriving DecidableEq, Repr, Inhabited

namespace UpdateByte

/-- The update with a seven-bit code.  From `0x20` to `0x3F` the even codes are increments and
decrements, and from `0x40` to `0x5F` the low bits hold an operator. -/
def ofCode (code : UInt8) : Update :=
  if code < 0x20 then
    match code.toNat with
    | 0x00 => .copy
    | 0x02 => .loopStep
    | 0x06 => .loopStride
    | 0x08 => .randomForward
    | 0x0C => .randomReverse
    | 0x10 => .signExtendByte
    | 0x14 => .signExtendWord
    | 0x18 => .postClear
    | 0x1C => .postSet
    | _ => .undefined code
  else if code < 0x40 then
    if code &&& 1 == 0 then
      match code.toNat / 8 % 4 with
      | 0 => .preIncrement (CountWidth.ofCode code)
      | 1 => .postIncrement (CountWidth.ofCode code)
      | 2 => .preDecrement (CountWidth.ofCode code)
      | _ => .postDecrement (CountWidth.ofCode code)
    else
      .undefined code
  else if code < 0x60 then
    .assign (Operator.ofBits code)
  else
    .undefined code

/-- The update that a byte asks for. -/
def decode (byte : UInt8) : UpdateByte where
  update := ofCode (byte &&& 0x7F)
  push := byte &&& 0x80 != 0

end UpdateByte

end P1Chip
