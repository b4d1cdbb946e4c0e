import P1Chip.Bytecode.Access
import P1Chip.Bytecode.Operator

/-!
# Families of bytecodes

A bytecode belongs to one of four families, by its value:

| bytecodes | family                                     |
|-----------|--------------------------------------------|
| `00`–`3F` | special operations                         |
| `40`–`7F` | access to the first longs of a frame       |
| `80`–`DF` | access to any place in hub memory          |
| `E0`–`FF` | operators on the top of the stack          |
-/

namespace P1Chip

/-- A bytecode, sorted by its family. -/
inductive BytecodeFamily where
  | special (code : UInt8)
  | variable (access : VariableAccess)
  | memory (access : MemoryAccess)
  | operator (operator : Operator)
deriving DecidableEq, Repr, Inhabited

namespace BytecodeFamily

/-- The family of a bytecode. -/
def classify (code : UInt8) : BytecodeFamily :=
  if code < 0x40 then .special code
  else if code < 0x80 then .variable (VariableAccess.decode code)
  else if code < 0xE0 then .memory (MemoryAccess.decode code)
  else .operator (Operator.ofBits code)

end BytecodeFamily

end P1Chip
