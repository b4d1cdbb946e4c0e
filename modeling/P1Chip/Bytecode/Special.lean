import P1Chip.Bytecode.Access

/-!
# Special operations of the bytecode

The bytecodes below `0x40` do what is neither an operator nor plain access to a variable: calls,
branches, loops, lists, waits, requests to the hub, constants and registers.

* `SpecialOp` — the special operations.
* `SpecialOp.decode?` — the operation of a bytecode, if it has one.
-/

namespace P1Chip

/-- What a method call leaves behind for the caller. -/
structure FrameKind where
  /-- Whether the result is dropped. -/
  dropsResult : Bool
  /-- Whether an abort in the called method ends here. -/
  trapsAborts : Bool
deriving DecidableEq, Repr, Inhabited

/-- Whose method is called. -/
inductive CallTarget where
  /-- The current object's. -/
  | own
  /-- A child object's. -/
  | child
  /-- That of an element of an array of child objects. -/
  | childElement
deriving DecidableEq, Repr, Inhabited

/-- The special operations. -/
inductive SpecialOp where
  /-- Save the caller's frame before the arguments of a call are evaluated. -/
  | openFrame (kind : FrameKind)
  | branch
  | call (target : CallTarget)
  /-- Enter a loop that runs a given number of times, or pass it by. -/
  | loopEnter
  /-- Go back to the start of such a loop while the count lasts. -/
  | loopNext
  | branchIfZero
  | branchIfNonzero
  /-- Leave a list of cases. -/
  | caseDone
  /-- Branch if a value is equal to another. -/
  | caseValue
  /-- Branch if a value is in a range. -/
  | caseRange
  /-- Leave a list that did not hold what was looked for. -/
  | listDone
  /-- The next value of a list that is looked up by index. -/
  | lookupValue
  /-- The next value of a list that is searched for a value. -/
  | lookdownValue
  /-- The next range of a list that is looked up by index. -/
  | lookupRange
  /-- The next range of a list that is searched for a value. -/
  | lookdownRange
  /-- Make the next start of a cog start a method. -/
  | methodStart
  | stringSize
  | stringCompare
  | fill (size : DataSize)
  | move (size : DataSize)
  | waitPins (equal : Bool)
  | waitCount
  | waitVideo
  | setClock
  | stopCog
  | returnLock
  | startCog (push : Bool)
  | newLock (push : Bool)
  | setLock (push : Bool)
  | clearLock (push : Bool)
  /-- Access to the special register whose number is popped. -/
  | specialRegister (kind : AccessKind)
  /-- Leave a method, by an abort or a return, with a popped result or the result variable. -/
  | leave (abort popped : Bool)
  | constant (value : UInt32)
  /-- A constant packed into the next byte. -/
  | packedConstant
  /-- A constant in the next bytes, the highest first. -/
  | literal (bytes : Nat)
  /-- Access to a single bit of a register. -/
  | registerBit
  /-- Access to a range of bits of a register. -/
  | registerBits
  /-- Access to a register. -/
  | register
deriving DecidableEq, Repr, Inhabited

namespace SpecialOp

/-- The operations of the bytecodes from `0x00` to `0x3F`; two of them have none. -/
def table : Vector (Option SpecialOp) 64 := #v[
  -- 0x00: calls
  some (.openFrame ⟨false, false⟩), some (.openFrame ⟨true, false⟩),
  some (.openFrame ⟨false, true⟩), some (.openFrame ⟨true, true⟩),
  some .branch, some (.call .own), some (.call .child), some (.call .childElement),
  -- 0x08: loops, branches and cases
  some .loopEnter, some .loopNext, some .branchIfZero, some .branchIfNonzero,
  some .caseDone, some .caseValue, some .caseRange, some .listDone,
  -- 0x10: lists and strings
  some .lookupValue, some .lookdownValue, some .lookupRange, some .lookdownRange,
  none, some .methodStart, some .stringSize, some .stringCompare,
  -- 0x18: blocks of memory, and waits for the pins
  some (.fill .byte), some (.fill .word), some (.fill .long), some (.waitPins true),
  some (.move .byte), some (.move .word), some (.move .long), some (.waitPins false),
  -- 0x20: the hub, the special registers, and the other waits
  some .setClock, some .stopCog, some .returnLock, some .waitCount,
  some (.specialRegister .push), some (.specialRegister .pop),
  some (.specialRegister .update), some .waitVideo,
  -- 0x28: requests to the hub, with and without a result
  some (.startCog true), some (.newLock true), some (.setLock true), some (.clearLock true),
  some (.startCog false), some (.newLock false), some (.setLock false), some (.clearLock false),
  -- 0x30: leaving a method, and constants
  some (.leave true false), some (.leave true true),
  some (.leave false false), some (.leave false true),
  some (.constant 0xFFFFFFFF), some (.constant 0), some (.constant 1), some .packedConstant,
  -- 0x38: longer constants and registers
  some (.literal 1), some (.literal 2), some (.literal 3), some (.literal 4),
  none, some .registerBit, some .registerBits, some .register]

/-- The special operation of a bytecode. -/
def decode? (code : UInt8) : Option SpecialOp :=
  if h : code.toNat < 64 then table[code.toNat] else none

end SpecialOp

end P1Chip
