/-!
# Operations of native instructions

The top six bits of a native instruction say what it does.  Several instructions of the assembler
share an operation: reading and writing hub memory differ only in whether the result is kept, and
so do subtracting and comparing.

* `Opcode` — the 64 operations.
* `Opcode.ofBits`, `Opcode.bits` — the six-bit code of an operation.
* `Opcode.isReserved`, `Opcode.isHubAccess`, `Opcode.isWait` — the operations that are not plain
  arithmetic.
-/

namespace P1Chip

/-- The operations of native instructions, in the order of their codes. -/
inductive Opcode where
  | rwByte
  | rwWord
  | rwLong
  | hubOp
  | mul
  | muls
  | enc
  | ones
  | ror
  | rol
  | shr
  | shl
  | rcr
  | rcl
  | sar
  | rev
  | mins
  | maxs
  | min
  | max
  | movs
  | movd
  | movi
  | jmpret
  | and
  | andn
  | or
  | xor
  | muxc
  | muxnc
  | muxz
  | muxnz
  | add
  | sub
  | addabs
  | subabs
  | sumc
  | sumnc
  | sumz
  | sumnz
  | mov
  | neg
  | abs
  | absneg
  | negc
  | negnc
  | negz
  | negnz
  | cmps
  | cmpsx
  | addx
  | subx
  | adds
  | subs
  | addsx
  | subsx
  | cmpsub
  | djnz
  | tjnz
  | tjz
  | waitpeq
  | waitpne
  | waitcnt
  | waitvid
deriving DecidableEq, Repr, Inhabited

namespace Opcode

/-- All operations, each at the index that is its code. -/
def all : Vector Opcode 64 :=
  #v[
    rwByte, rwWord, rwLong, hubOp, mul, muls, enc, ones, ror, rol, shr, shl, rcr, rcl, sar, rev,
    mins, maxs, min, max, movs, movd, movi, jmpret, and, andn, or, xor, muxc, muxnc, muxz,
    muxnz, add, sub, addabs, subabs, sumc, sumnc, sumz, sumnz, mov, neg, abs, absneg, negc,
    negnc, negz, negnz, cmps, cmpsx, addx, subx, adds, subs, addsx, subsx, cmpsub, djnz, tjnz,
    tjz, waitpeq, waitpne, waitcnt, waitvid]

/-- The operation whose code is in the low six bits of `bits`. -/
def ofBits (bits : UInt32) : Opcode :=
  all[bits.toNat % 64]

/-- The six-bit code of an operation. -/
def bits (opcode : Opcode) : UInt32 :=
  UInt32.ofNat opcode.ctorIdx

/-- The multiplications and bit counts have codes, but no circuit carries them out. -/
def isReserved : Opcode → Bool
  | mul | muls | enc | ones => true
  | _ => false

/-- Operations that go through the hub, and so wait for the cog's turn on it. -/
def isHubAccess : Opcode → Bool
  | rwByte | rwWord | rwLong | hubOp => true
  | _ => false

/-- Operations that stall until the pins, the system counter or the video generator let them go
on. -/
def isWait : Opcode → Bool
  | waitpeq | waitpne | waitcnt | waitvid => true
  | _ => false

/-- The name of an operation, with capitals where its words start. -/
def name : Opcode → String
  | rwByte => "RwByte"
  | rwWord => "RwWord"
  | rwLong => "RwLong"
  | hubOp => "HubOp"
  | mul => "Mul"
  | muls => "Muls"
  | enc => "Enc"
  | ones => "Ones"
  | ror => "Ror"
  | rol => "Rol"
  | shr => "Shr"
  | shl => "Shl"
  | rcr => "Rcr"
  | rcl => "Rcl"
  | sar => "Sar"
  | rev => "Rev"
  | mins => "Mins"
  | maxs => "Maxs"
  | min => "Min"
  | max => "Max"
  | movs => "Movs"
  | movd => "Movd"
  | movi => "Movi"
  | jmpret => "Jmpret"
  | and => "And"
  | andn => "Andn"
  | or => "Or"
  | xor => "Xor"
  | muxc => "Muxc"
  | muxnc => "Muxnc"
  | muxz => "Muxz"
  | muxnz => "Muxnz"
  | add => "Add"
  | sub => "Sub"
  | addabs => "Addabs"
  | subabs => "Subabs"
  | sumc => "Sumc"
  | sumnc => "Sumnc"
  | sumz => "Sumz"
  | sumnz => "Sumnz"
  | mov => "Mov"
  | neg => "Neg"
  | abs => "Abs"
  | absneg => "Absneg"
  | negc => "Negc"
  | negnc => "Negnc"
  | negz => "Negz"
  | negnz => "Negnz"
  | cmps => "Cmps"
  | cmpsx => "Cmpsx"
  | addx => "Addx"
  | subx => "Subx"
  | adds => "Adds"
  | subs => "Subs"
  | addsx => "Addsx"
  | subsx => "Subsx"
  | cmpsub => "Cmpsub"
  | djnz => "Djnz"
  | tjnz => "Tjnz"
  | tjz => "Tjz"
  | waitpeq => "Waitpeq"
  | waitpne => "Waitpne"
  | waitcnt => "Waitcnt"
  | waitvid => "Waitvid"

/-- The name of an operation as the assembler spells it. -/
def mnemonic (opcode : Opcode) : String :=
  opcode.name.toUpper

@[simp]
theorem ofBits_bits (opcode : Opcode) : ofBits opcode.bits = opcode := by
  cases opcode <;> rfl

end Opcode

end P1Chip
