/-!
# Conditions on the flags

Every native instruction carries a four-bit condition on the zero and carry flags of its cog, and
the logic modes of the counters use the same sixteen conditions on two input pins.

* `Condition` — the sixteen conditions, each named for the flags it asks for.
* `Condition.ofBits`, `Condition.bits` — the four-bit code of a condition.
* `Condition.holds` — whether a condition is met.

The code of a condition is its truth table: bit `2 * carry + zero` says whether the condition
holds for those flags.
-/

namespace P1Chip

/-- A condition on the zero flag (`z`) and the carry flag (`c`), in the order of their codes. -/
inductive Condition where
  | never
  | ncAndNz
  | ncAndZ
  | nc
  | cAndNz
  | nz
  | cNeZ
  | ncOrNz
  | cAndZ
  | cEqZ
  | z
  | ncOrZ
  | c
  | cOrNz
  | cOrZ
  | always
deriving DecidableEq, Repr, Inhabited

namespace Condition

/-- All conditions, each at the index that is its code. -/
def all : Vector Condition 16 :=
  #v[never, ncAndNz, ncAndZ, nc, cAndNz, nz, cNeZ, ncOrNz,
    cAndZ, cEqZ, z, ncOrZ, c, cOrNz, cOrZ, always]

/-- The condition whose code is in the low four bits of `bits`. -/
def ofBits (bits : UInt32) : Condition :=
  all[bits.toNat % 16]

/-- The four-bit code of a condition. -/
def bits (condition : Condition) : UInt32 :=
  UInt32.ofNat condition.ctorIdx

/-- Whether the condition is met by the flags. -/
def holds (condition : Condition) (zero carry : Bool) : Bool :=
  match condition with
  | never => false
  | ncAndNz => !carry && !zero
  | ncAndZ => !carry && zero
  | nc => !carry
  | cAndNz => carry && !zero
  | nz => !zero
  | cNeZ => carry != zero
  | ncOrNz => !carry || !zero
  | cAndZ => carry && zero
  | cEqZ => carry == zero
  | z => zero
  | ncOrZ => !carry || zero
  | c => carry
  | cOrNz => carry || !zero
  | cOrZ => carry || zero
  | always => true

/-- The assembler's spelling of the condition. -/
def name : Condition → String
  | never => "IF_NEVER"
  | ncAndNz => "IF_NC_AND_NZ"
  | ncAndZ => "IF_NC_AND_Z"
  | nc => "IF_NC"
  | cAndNz => "IF_C_AND_NZ"
  | nz => "IF_NZ"
  | cNeZ => "IF_C_NE_Z"
  | ncOrNz => "IF_NC_OR_NZ"
  | cAndZ => "IF_C_AND_Z"
  | cEqZ => "IF_C_EQ_Z"
  | z => "IF_Z"
  | ncOrZ => "IF_NC_OR_Z"
  | c => "IF_C"
  | cOrNz => "IF_C_OR_NZ"
  | cOrZ => "IF_C_OR_Z"
  | always => "IF_ALWAYS"

/-- A short name of the condition: the flags it asks for, with `N` for a clear flag. -/
def label : Condition → String
  | never => "Never"
  | ncAndNz => "NcAndNz"
  | ncAndZ => "NcAndZ"
  | nc => "Nc"
  | cAndNz => "CAndNz"
  | nz => "Nz"
  | cNeZ => "CNeZ"
  | ncOrNz => "NcOrNz"
  | cAndZ => "CAndZ"
  | cEqZ => "CEqZ"
  | z => "Z"
  | ncOrZ => "NcOrZ"
  | c => "C"
  | cOrNz => "COrNz"
  | cOrZ => "COrZ"
  | always => "Always"

@[simp]
theorem ofBits_bits (condition : Condition) : ofBits condition.bits = condition := by
  cases condition <;> rfl

/-- The code of a condition is its truth table, indexed by the flags. -/
theorem holds_eq_testBit (condition : Condition) (zero carry : Bool) :
    condition.holds zero carry
      = condition.bits.toNat.testBit (2 * carry.toNat + zero.toNat) := by
  cases condition <;> cases zero <;> cases carry <;> rfl

end Condition

end P1Chip
