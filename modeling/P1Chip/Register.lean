import P1Chip.Word

/-!
# The special registers of a cog

A cog has 512 longs of memory.  The last sixteen are special registers: parameter, system counter,
pins, the two counters and the video generator.

* `SpecialRegister` — the sixteen registers.
* `SpecialRegister.at?` — the special register at an address.
* `SpecialRegister.address` — the address of a special register.
-/

namespace P1Chip

/-- Longs of memory in a cog. -/
abbrev cogLongs : Nat := 512

/-- Longs that a cog loads from hub memory when it starts: all but the special registers. -/
abbrev programLongs : Nat := 496

/-- The special registers, in the order of their addresses. -/
inductive SpecialRegister where
  | par
  | cnt
  | ina
  | inb
  | outa
  | outb
  | dira
  | dirb
  | ctra
  | ctrb
  | frqa
  | frqb
  | phsa
  | phsb
  | vcfg
  | vscl
deriving DecidableEq, Repr, Inhabited

namespace SpecialRegister

/-- All special registers, in the order of their addresses. -/
def all : Vector SpecialRegister 16 :=
  #v[par, cnt, ina, inb, outa, outb, dira, dirb, ctra, ctrb, frqa, frqb, phsa, phsb, vcfg, vscl]

/-- The special register at an address, of which only the low nine bits count. -/
def at? (address : UInt32) : Option SpecialRegister :=
  if 0x1F0 ≤ address.toNat % 512 then
    some (all.get (Word.lowFourBits address.toNat))
  else
    none

/-- The address of a special register. -/
def address (register : SpecialRegister) : UInt32 :=
  0x1F0 + UInt32.ofNat register.ctorIdx

/-- Registers that show the state of the chip and drop what is written to them. -/
def isReadOnly : SpecialRegister → Bool
  | cnt | ina | inb => true
  | _ => false

/-- The assembler's name of the register. -/
def name : SpecialRegister → String
  | par => "PAR"
  | cnt => "CNT"
  | ina => "INA"
  | inb => "INB"
  | outa => "OUTA"
  | outb => "OUTB"
  | dira => "DIRA"
  | dirb => "DIRB"
  | ctra => "CTRA"
  | ctrb => "CTRB"
  | frqa => "FRQA"
  | frqb => "FRQB"
  | phsa => "PHSA"
  | phsb => "PHSB"
  | vcfg => "VCFG"
  | vscl => "VSCL"

@[simp]
theorem at?_address (register : SpecialRegister) : at? register.address = some register := by
  cases register <;> rfl

end SpecialRegister

end P1Chip
