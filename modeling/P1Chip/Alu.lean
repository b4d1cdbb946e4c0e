import P1Chip.Instruction.Opcode
import P1Chip.Word

/-!
# The arithmetic unit of a cog

`Alu.evaluate` says what each arithmetic or logic instruction makes of its operands and flags.
Whether the result and the flags are kept is up to the instruction's effects.

The extended operations (`addx`, `subx` and their signed and comparing forms) take the carry of the
limb below and keep the zero flag only while every limb so far was zero, so that chains of them
work on numbers of any length.
-/

namespace P1Chip

/-- What an instruction of the arithmetic unit gives. -/
structure AluOutcome where
  result : UInt32
  carry : Bool
  zero : Bool
  /-- Where the cog goes on, if the instruction branches. -/
  jump? : Option UInt32 := none
deriving DecidableEq, Repr, Inhabited

namespace AluOutcome

/-- The outcome with the given result and carry; the zero flag says whether the result is zero. -/
def of (result : UInt32) (carry : Bool) : AluOutcome :=
  { result, carry, zero := result == 0 }

/-- The same outcome with another zero flag. -/
def withZero (outcome : AluOutcome) (zero : Bool) : AluOutcome :=
  { outcome with zero }

/-- The same outcome with a branch. -/
def withJump (outcome : AluOutcome) (jump? : Option UInt32) : AluOutcome :=
  { outcome with jump? }

/-- The outcome of a signed sum: its low 32 bits, with signed overflow in the carry flag. -/
def ofSigned (sum : Int) : AluOutcome :=
  of (UInt32.ofInt sum) (sum < -2147483648 || sum > 2147483647)

end AluOutcome

namespace Alu

open AluOutcome Word

/-- The bits of a field of nine bits that starts at `place`. -/
def field (place : UInt32) : UInt32 :=
  0x1FF <<< place

/-- `d` with the low nine bits of `s` in the field that starts at `place`. -/
def setField (place d s : UInt32) : UInt32 :=
  (d &&& ~~~ field place) ||| ((s &&& 0x1FF) <<< place)

/-- The lesser and the greater of two words are chosen by `below`, which says whether the first is
less; it also is the carry flag.  The zero flag tells whether the second word is zero. -/
def limit (below : Bool) (ifBelow ifNot s : UInt32) : AluOutcome :=
  (of (if below then ifBelow else ifNot) below).withZero (s == 0)

/-- A logic operation; the carry flag is the parity of the result. -/
def logic (result : UInt32) : AluOutcome :=
  of result (parity result)

/-- Set or clear in `d` the bits that are set in `s`. -/
def mux (set : Bool) (d s : UInt32) : AluOutcome :=
  logic (if set then d ||| s else d &&& ~~~ s)

/-- Unsigned sum with a carry from below. -/
def addCarry (d s : UInt32) (carry : Bool) : AluOutcome :=
  of (d + s + carry.toUInt32) (d.toNat + s.toNat + carry.toNat ≥ 4294967296)

/-- Unsigned difference with a borrow from below. -/
def subBorrow (d s : UInt32) (borrow : Bool) : AluOutcome :=
  of (d - s - borrow.toUInt32) (s.toNat + borrow.toNat > d.toNat)

/-- Signed sum, or difference if `subtract`. -/
def sum (subtract : Bool) (d s : UInt32) : AluOutcome :=
  ofSigned (if subtract then signed d - signed s else signed d + signed s)

/-- The operand `s` moved, possibly negated; the carry flag is its sign. -/
def moved (negative : Bool) (s : UInt32) : AluOutcome :=
  of (if negative then -s else s) (isNegative s)

/-- A branch to the address in the low nine bits of `s`. -/
def branch (taken : Bool) (s : UInt32) : Option UInt32 :=
  if taken then some (s &&& 0x1FF) else none

/-- What an instruction makes of its operands `d` and `s` and of the flags; `pc` is the address of
the instruction after it.  There is no outcome for operations that are not the arithmetic
unit's: access to the hub, waits and reserved codes. -/
def evaluate (opcode : Opcode) (d s : UInt32) (carry zero : Bool) (pc : UInt32) :
    Option AluOutcome :=
  let places := s &&& 31
  match opcode with
  | .rwByte | .rwWord | .rwLong | .hubOp | .mul | .muls | .enc | .ones
  | .waitpeq | .waitpne | .waitcnt | .waitvid => none
  | .ror => some (of (rotateRight d places) (d &&& 1 != 0))
  | .rol => some (of (rotateLeft d places) (isNegative d))
  | .shr => some (of (d >>> places) (d &&& 1 != 0))
  | .shl => some (of (d <<< places) (isNegative d))
  | .rcr =>
    let fill := if carry then ~~~ (Word.ones >>> places) else 0
    some (of ((d >>> places) ||| fill) (d &&& 1 != 0))
  | .rcl =>
    let fill := if carry then ~~~ (Word.ones <<< places) else 0
    some (of ((d <<< places) ||| fill) (isNegative d))
  | .sar => some (of (shiftRightSigned d places) (d &&& 1 != 0))
  | .rev => some (of (reverse d >>> places) (d &&& 1 != 0))
  | .mins => some (limit (signed d < signed s) s d s)
  | .maxs => some (limit (signed d < signed s) d s s)
  | .min => some (limit (d < s) s d s)
  | .max => some (limit (d < s) d s s)
  | .movs => some (of (setField 0 d s) carry)
  | .movd => some (of (setField 9 d s) carry)
  | .movi => some (of (setField 23 d s) carry)
  | .jmpret => some ((of (setField 0 d pc) carry).withJump (branch true s))
  | .and => some (logic (d &&& s))
  | .andn => some (logic (d &&& ~~~ s))
  | .or => some (logic (d ||| s))
  | .xor => some (logic (d ^^^ s))
  | .muxc => some (mux carry d s)
  | .muxnc => some (mux (!carry) d s)
  | .muxz => some (mux zero d s)
  | .muxnz => some (mux (!zero) d s)
  | .add => some (addCarry d s false)
  | .sub => some (subBorrow d s false)
  | .addabs => some (addCarry d (magnitude s) false)
  | .subabs => some (subBorrow d (magnitude s) false)
  | .sumc => some (sum carry d s)
  | .sumnc => some (sum (!carry) d s)
  | .sumz => some (sum zero d s)
  | .sumnz => some (sum (!zero) d s)
  | .mov => some (moved false s)
  | .neg => some (moved true s)
  | .abs => some (of (magnitude s) (isNegative s))
  | .absneg => some (of (-magnitude s) (isNegative s))
  | .negc => some (moved carry s)
  | .negnc => some (moved (!carry) s)
  | .negz => some (moved zero s)
  | .negnz => some (moved (!zero) s)
  | .cmps => some (of (d - s) (signed d < signed s))
  | .cmpsx =>
    let difference := signed d - signed s - carry.toNat
    let result := UInt32.ofInt difference
    some ((of result (difference < 0)).withZero (zero && result == 0))
  | .addx =>
    let outcome := addCarry d s carry
    some (outcome.withZero (zero && outcome.zero))
  | .subx =>
    let outcome := subBorrow d s carry
    some (outcome.withZero (zero && outcome.zero))
  | .adds => some (sum false d s)
  | .subs => some (sum true d s)
  | .addsx =>
    let outcome := ofSigned (signed d + signed s + carry.toNat)
    some (outcome.withZero (zero && outcome.zero))
  | .subsx =>
    let outcome := ofSigned (signed d - signed s - carry.toNat)
    some (outcome.withZero (zero && outcome.zero))
  | .cmpsub =>
    if d ≥ s then some (of (d - s) true) else some ((of d false).withZero false)
  | .djnz =>
    let result := d - 1
    some ((of result (d == 0)).withJump (branch (result != 0) s))
  | .tjnz => some ((of d false).withJump (branch (d != 0) s))
  | .tjz => some ((of d false).withJump (branch (d == 0) s))

end Alu

end P1Chip
