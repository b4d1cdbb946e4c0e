import P1Chip.Text.Radix

/-!
# Faults

What the chip does not carry out, and how it is told to the user.

* `FaultKind`, `Fault` — a cog met something that has no meaning.  It has finished that
  instruction, so the chip can go on.
* `ImageSizeError` — a program image does not fit.
* `RegisterIndexError` — a cog has no such register.
-/

namespace P1Chip

/-- What a cog met. -/
inductive FaultKind where
  /-- A native operation that no circuit carries out. -/
  | nativeOpcode (opcode : UInt32) (pc : UInt32)
  /-- A bytecode without a meaning. -/
  | bytecode (code : UInt8) (pc : UInt32)
  /-- An update without a meaning. -/
  | update (code : UInt8) (pc : UInt32)
  /-- A register bytecode that neither reads, writes nor updates. -/
  | registerAccess (byte : UInt8) (pc : UInt32)
  /-- A call for which no frame was opened. -/
  | callWithoutFrame (pc : UInt32)
deriving DecidableEq, Repr, Inhabited

namespace FaultKind

/-- The kind of fault in words. -/
def message : FaultKind → String
  | nativeOpcode opcode pc =>
    "undefined native opcode " ++ Text.hex 2 opcode.toNat ++ " at " ++ Text.hex 3 pc.toNat
  | bytecode code pc =>
    "undefined bytecode " ++ Text.hex 2 code.toNat ++ " at " ++ Text.hex 4 pc.toNat
  | update code pc =>
    "undefined effect " ++ Text.hex 2 code.toNat ++ " at " ++ Text.hex 4 pc.toNat
  | registerAccess byte pc =>
    "undefined register operation " ++ toString byte.toNat ++ " at " ++ Text.hex 4 pc.toNat
  | callWithoutFrame pc =>
    "call without a stack frame at " ++ Text.hex 4 pc.toNat

end FaultKind

/-- A fault, and where and when it arose. -/
structure Fault where
  /-- Number of the cog. -/
  cog : UInt32
  /-- The system counter at that time. -/
  counter : UInt32
  kind : FaultKind
deriving DecidableEq, Repr, Inhabited

namespace Fault

/-- The fault in words. -/
def message (fault : Fault) : String :=
  "cog " ++ toString fault.cog.toNat ++ " at counter " ++ toString fault.counter.toNat
    ++ ": " ++ fault.kind.message

end Fault

/-- A program image cannot be loaded. -/
inductive ImageSizeError where
  | empty
  | tooLarge (size capacity : Nat)
deriving DecidableEq, Repr, Inhabited

namespace ImageSizeError

/-- The size of the image in bytes. -/
def size : ImageSizeError → Nat
  | empty => 0
  | tooLarge size _ => size

/-- The error in words. -/
def message : ImageSizeError → String
  | empty => "program image is empty"
  | tooLarge size capacity =>
    "program image is " ++ toString size ++ " bytes, but hub RAM only holds " ++ toString capacity

end ImageSizeError

/-- A register was asked for by a number past the last one. -/
structure RegisterIndexError where
  index : Nat
deriving DecidableEq, Repr, Inhabited

namespace RegisterIndexError

/-- The error in words. -/
def message (error : RegisterIndexError) : String :=
  "cog register index " ++ Text.hex 1 error.index ++ " is out of range"

end RegisterIndexError

end P1Chip
