import P1Chip.Condition
import P1Chip.Instruction.Opcode
import P1Chip.Text.Radix

/-!
# Native instruction words

A native instruction is one long:

```text
31....26 25 24 23 22 21..18 17......9 8.......0
opcode    Z  C  R  I  cond   dest      source
```

`Z`, `C` and `R` say whether the zero flag, the carry flag and the destination register are
written.  `I` says whether the source field is a number or the address of a register.

* `Instruction` — a word, and one function for each of its fields.
* `Instruction.build` — the word with given fields.
* `Instruction.describe` — all fields of a word, as text.
-/

namespace P1Chip

/-- What an instruction writes when it is finished. -/
structure Effects where
  writeZero : Bool
  writeCarry : Bool
  writeResult : Bool
deriving DecidableEq, Repr, Inhabited

/-- A native instruction. -/
structure Instruction where
  /-- The instruction as a long. -/
  bits : UInt32
deriving DecidableEq, Repr, Inhabited

namespace Instruction

/-- The operation, in bits 31 to 26. -/
def opcode (instruction : Instruction) : Opcode :=
  Opcode.ofBits (instruction.bits >>> 26)

/-- What is written, in bits 25 to 23. -/
def effects (instruction : Instruction) : Effects where
  writeZero := (instruction.bits >>> 25) &&& 1 != 0
  writeCarry := (instruction.bits >>> 24) &&& 1 != 0
  writeResult := (instruction.bits >>> 23) &&& 1 != 0

/-- Whether the source field is the operand itself, in bit 22. -/
def immediate (instruction : Instruction) : Bool :=
  (instruction.bits >>> 22) &&& 1 != 0

/-- The condition under which the instruction is carried out, in bits 21 to 18. -/
def condition (instruction : Instruction) : Condition :=
  Condition.ofBits (instruction.bits >>> 18)

/-- The address of the destination register, in bits 17 to 9. -/
def destination (instruction : Instruction) : UInt32 :=
  (instruction.bits >>> 9) &&& 0x1FF

/-- The address of the source register, or the operand itself, in bits 8 to 0. -/
def source (instruction : Instruction) : UInt32 :=
  instruction.bits &&& 0x1FF

/-- The bit at position `place` when `set`, and no bit otherwise. -/
def flagAt (place : UInt32) (set : Bool) : UInt32 :=
  if set then 1 <<< place else 0

/-- The instruction with the given fields; of the destination and the source only the low nine
bits are kept. -/
def build (opcode : Opcode) (effects : Effects) (immediate : Bool) (condition : Condition)
    (destination source : UInt32) : Instruction :=
  ⟨(opcode.bits <<< 26)
    ||| flagAt 25 effects.writeZero
    ||| flagAt 24 effects.writeCarry
    ||| flagAt 23 effects.writeResult
    ||| flagAt 22 immediate
    ||| (condition.bits <<< 18)
    ||| ((destination &&& 0x1FF) <<< 9)
    ||| (source &&& 0x1FF)⟩

/-- All fields of an instruction by name, the way records are written out for inspection. -/
def describe (instruction : Instruction) : String :=
  let effects := instruction.effects
  "Instruction \x7b bits: " ++ Text.hex 8 instruction.bits.toNat
    ++ ", opcode: " ++ instruction.opcode.name
    ++ ", condition: " ++ instruction.condition.label
    ++ ", effects: Effects \x7b write_zero: " ++ toString effects.writeZero
    ++ ", write_carry: " ++ toString effects.writeCarry
    ++ ", write_result: " ++ toString effects.writeResult
    ++ " \x7d, immediate: " ++ toString instruction.immediate
    ++ ", destination: " ++ Text.hex 3 instruction.destination.toNat
    ++ ", source: " ++ Text.hex 3 instruction.source.toNat ++ " \x7d"

end Instruction

end P1Chip
