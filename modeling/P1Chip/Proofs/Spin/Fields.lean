import Mathlib.Algebra.Group.Nat.Defs
import P1Chip.Proofs.Cog.Registers
import P1Chip.Proofs.Spin.Faults

/-!
# Fields of registers

Three bytecodes name some bits of a register, the field, and the byte behind them says which
register it is and what is done: the field is pushed, or it is given what is popped, or it is
updated in place.  Nothing but the field should change then, and what a bytecode yields should be
what the field has afterwards.

The first is always so.  A popped value is cut to the width of the field, and is read again.  But
an update computes with whole words, and its result is pushed before it is cut.  A count upwards
from the greatest value of a field, or downwards from zero, wraps around in the register and not on
the stack.

* `RegisterField` — the bits of a field.
* `RegisterField.toNat_value`, `RegisterField.testBit_insert` — reading and writing them, by
  arithmetic and bit by bit.
* `SpinMachine.AtField` — a machine at one of the three bytecodes.
* `SpinMachine.AtField.execute_push`, `SpinMachine.AtField.execute_pop`,
  `SpinMachine.AtField.execute_count` — what is done.
* **`SpinMachine.field_yields_iff`** — what changes, and when the result is what the field has.
-/

namespace P1Chip

open Word SpinMachine

/-! ## Fields -/

/-- Some bits of a register, from the lowest to the highest. -/
structure RegisterField where
  low : UInt32
  high : UInt32
  ordered : low ≤ high
  bounded : high ≤ 31
deriving DecidableEq, Repr

namespace RegisterField

/-- All bits. -/
def whole : RegisterField :=
  ⟨0, 31, by decide, by decide⟩

/-- A single bit.  The low five bits of `number` tell which. -/
def single (number : UInt32) : RegisterField where
  low := number &&& 31
  high := number &&& 31
  ordered := UInt32.le_refl _
  bounded := by
    rw [UInt32.le_iff_toNat_le, UInt32.toNat_and]
    exact Nat.and_le_right

lemma bitNumber_le (number : UInt32) : bitNumber number ≤ 31 := by
  rw [bitNumber]
  split
  · decide
  · split
    · next low => exact UInt32.le_of_lt low
    · exact UInt32.le_refl _

/-- The bits between two numbers, in either order. -/
def between (first second : UInt32) : RegisterField where
  low := if bitNumber second < bitNumber first then bitNumber second else bitNumber first
  high := if bitNumber second < bitNumber first then bitNumber first else bitNumber second
  ordered := by
    split
    · next down => exact UInt32.le_of_lt down
    · next up => exact UInt32.not_lt.mp up
  bounded := by split <;> exact bitNumber_le _

variable (field : RegisterField)

/-- How many bits it has. -/
def width : Nat :=
  field.high.toNat - field.low.toNat + 1

/-- The bits, as the bytecodes select them. -/
def mask : UInt32 :=
  bitRange field.low field.high

/-- What a register has in the field. -/
def value (word : UInt32) : UInt32 :=
  (word &&& field.mask) >>> field.low

/-- A register with something else in the field. -/
def insert (word value : UInt32) : UInt32 :=
  insertField field.mask field.low word value

/-- The bit belongs to the field. -/
def Covers (bit : Nat) : Prop :=
  field.low.toNat ≤ bit ∧ bit ≤ field.high.toNat

instance (bit : Nat) : Decidable (field.Covers bit) :=
  inferInstanceAs (Decidable (_ ∧ _))

lemma low_le : field.low.toNat ≤ field.high.toNat :=
  UInt32.le_iff_toNat_le.mp field.ordered

lemma high_le : field.high.toNat ≤ 31 :=
  UInt32.le_iff_toNat_le.mp field.bounded

lemma width_le : field.width ≤ 32 := by
  have bounded := field.high_le
  rw [width]
  omega

/-! ### Masks -/

/-- The mask has as many ones as the field has bits, and then they are shifted into place. -/
lemma toNat_mask : field.mask.toNat = (2 ^ field.width - 1) * 2 ^ field.low.toNat := by
  have ordered := field.low_le
  have bounded := field.high_le
  have count : (field.high - field.low + 1).toNat = field.width := by
    rw [UInt32.toNat_add, UInt32.toNat_sub_of_le _ _ field.ordered, width]
    show (_ + 1) % 2 ^ 32 = _
    omega
  have fits : 2 ^ field.width * 2 ^ field.low.toNat ≤ 2 ^ 32 := by
    rw [← Nat.pow_add]
    exact Nat.pow_le_pow_right (by decide) (by rw [width]; omega)
  have power : 1 ≤ 2 ^ field.width := Nat.one_le_two_pow
  have lessPower : 2 ^ field.width ≤ 2 ^ 32 :=
    Nat.pow_le_pow_right (by decide) field.width_le
  have small : (2 ^ field.width - 1) * 2 ^ field.low.toNat < 2 ^ 32 := by
    have place : 1 ≤ 2 ^ field.low.toNat := Nat.one_le_two_pow
    rw [Nat.sub_mul]
    omega
  have top : (1 <<< (field.high - field.low + 1).toUInt64 : UInt64).toNat = 2 ^ field.width := by
    rw [UInt64.toNat_shiftLeft, UInt32.toNat_toUInt64, count,
      Nat.mod_eq_of_lt (a := field.width) (by have := field.width_le; omega), Nat.shiftLeft_eq]
    show 1 * _ % _ = _
    rw [Nat.one_mul]
    exact Nat.mod_eq_of_lt (by omega)
  have ones : (1 <<< (field.high - field.low + 1).toUInt64 - 1 : UInt64).toNat
      = 2 ^ field.width - 1 := by
    rw [UInt64.toNat_sub_of_le _ _ (by rw [UInt64.le_iff_toNat_le, top]; exact power), top]
    rfl
  rw [mask, bitRange, UInt64.toNat_toUInt32, UInt64.toNat_shiftLeft, ones, UInt32.toNat_toUInt64,
    Nat.mod_eq_of_lt (a := field.low.toNat) (by omega), Nat.shiftLeft_eq]
  omega

lemma testBit_mask (bit : Nat) : field.mask.toNat.testBit bit = decide (field.Covers bit) := by
  have ordered := field.low_le
  rw [toNat_mask, ← Nat.shiftLeft_eq, Nat.testBit_shiftLeft, Nat.testBit_two_pow_sub_one,
    ← Bool.decide_and, decide_eq_decide, width]
  show _ ↔ _ ≤ bit ∧ bit ≤ _
  omega

lemma testBit_complement (word : UInt32) {bit : Nat} (inside : bit < 32) :
    (~~~ word).toNat.testBit bit = !word.toNat.testBit bit := by
  show (~~~ word).toBitVec.toNat.testBit bit = !word.toBitVec.toNat.testBit bit
  rw [BitVec.testBit_toNat, BitVec.testBit_toNat, UInt32.toBitVec_not, BitVec.getLsbD_not,
    decide_eq_true inside, Bool.true_and]

/-! ### Reading and writing -/

/-- **The value of a field**, by arithmetic. -/
theorem toNat_value (word : UInt32) :
    (field.value word).toNat = word.toNat / 2 ^ field.low.toNat % 2 ^ field.width := by
  have ordered := field.low_le
  have bounded := field.high_le
  apply Nat.eq_of_testBit_eq
  intro bit
  rw [value, UInt32.toNat_shiftRight, Nat.mod_eq_of_lt (by omega), Nat.testBit_shiftRight,
    UInt32.toNat_and, Nat.testBit_and, testBit_mask, Nat.testBit_mod_two_pow,
    Nat.testBit_div_two_pow, Nat.add_comm, Bool.and_comm]
  congr 1
  rw [decide_eq_decide, width]
  show _ ≤ _ ∧ _ ≤ _ ↔ _
  omega

lemma toNat_value_lt (word : UInt32) : (field.value word).toNat < 2 ^ field.width := by
  rw [toNat_value]
  exact Nat.mod_lt _ (Nat.two_pow_pos _)

/-- **A register with another value in the field**, bit by bit. -/
theorem testBit_insert (word value : UInt32) {bit : Nat} (inside : bit < 32) :
    (field.insert word value).toNat.testBit bit
      = if field.Covers bit then value.toNat.testBit (bit - field.low.toNat)
        else word.toNat.testBit bit := by
  have shift : field.low.toNat % 32 = field.low.toNat :=
    Nat.mod_eq_of_lt (by have := field.low_le; have := field.high_le; omega)
  rw [insert, insertField, UInt32.toNat_or, Nat.testBit_or, UInt32.toNat_and, Nat.testBit_and,
    UInt32.toNat_and, Nat.testBit_and, testBit_complement _ inside, testBit_mask,
    UInt32.toNat_shiftLeft, shift, Nat.testBit_mod_two_pow, Nat.testBit_shiftLeft]
  by_cases covers : field.Covers bit
  · have above : field.low.toNat ≤ bit := covers.1
    simp [covers, inside, above]
  · simp [covers]

/-- What was written is read, cut to the width of the field. -/
lemma toNat_value_insert (word value : UInt32) :
    (field.value (field.insert word value)).toNat = value.toNat % 2 ^ field.width := by
  have ordered := field.low_le
  have bounded := field.high_le
  rw [toNat_value]
  apply Nat.eq_of_testBit_eq
  intro bit
  rw [Nat.testBit_mod_two_pow, Nat.testBit_mod_two_pow, Nat.testBit_div_two_pow]
  by_cases inside : bit < field.width
  · have covers : field.Covers (bit + field.low.toNat) := by
      rw [width] at inside
      exact ⟨by omega, by omega⟩
    rw [testBit_insert _ _ _ (Nat.lt_of_le_of_lt covers.2 (by omega)), if_pos covers,
      Nat.add_sub_cancel]
  · rw [decide_eq_false inside, Bool.false_and, Bool.false_and]

/-- The value from which a count in a direction wraps around: the greatest one, or zero. -/
def lastValue (up : Bool) : Nat :=
  if up then 2 ^ field.width - 1 else 0

end RegisterField

namespace SpinMachine

variable {τ : Type}

/-! ## Machines at a field -/

/-- The field that an operation names, and the machine behind what it has popped for that. -/
def namedField? (machine : SpinMachine τ) : SpecialOp → Option (RegisterField × SpinMachine τ)
  | .register => some (.whole, machine)
  | .registerBit => some (.single machine.pop.1, machine.pop.2)
  | .registerBits => some (.between machine.pop.1 machine.pop.2.pop.1, machine.pop.2.pop.2)
  | _ => none

/-- Nothing has happened to the registers. -/
def SameRegisters [Timebase τ] (before after : SpinMachine τ) : Prop :=
  ∀ address, after.readRegister address = before.readRegister address

/-- What the field has in a machine. -/
def fieldOf [Timebase τ] (machine : SpinMachine τ) (field : RegisterField) (register : UInt32) :
    UInt32 :=
  field.value (machine.readRegister register)

variable [Timebase τ] {machine located : SpinMachine τ} {field : RegisterField}
  {access : RegisterAccess}

/-- The next bytecode names a field; `located` stands at the byte behind it, which makes an access
to a register. -/
structure AtField (field : RegisterField) (access : RegisterAccess)
    (located machine : SpinMachine τ) : Prop where
  field : ∃ operation, SpecialOp.decode? machine.code = some operation
    ∧ machine.next.namedField? operation = some (field, located)
  access : RegisterAccess.decode? located.code = some access

lemma special_of_field {operation : SpecialOp}
    (h : machine.namedField? operation = some (field, located)) (pc : UInt32) :
    machine.special operation pc = located.accessRegister field.mask field.low := by
  cases operation with
  | register =>
    cases h
    rfl
  | registerBit =>
    cases h
    rfl
  | registerBits =>
    cases h
    simp only [special, accessBits, RegisterField.mask, RegisterField.between]
    split <;> rfl
  | _ => cases h

lemma sameRegisters_of_field {operation : SpecialOp}
    (h : machine.namedField? operation = some (field, located)) :
    machine.SameRegisters located := by
  cases operation with
  | register | registerBit | registerBits =>
    cases h
    exact fun _ => rfl
  | _ => cases h

lemma AtField.sameRegisters (h : AtField field access located machine) :
    machine.SameRegisters located.next := by
  obtain ⟨operation, -, named⟩ := h.field
  have same : machine.next.SameRegisters located := sameRegisters_of_field named
  exact same

lemma AtField.execute_eq (h : AtField field access located machine) :
    machine.execute = located.accessRegister field.mask field.low := by
  obtain ⟨operation, decoded, named⟩ := h.field
  rw [execute_of_decode machine decoded]
  exact special_of_field named machine.body.pc

/-- What is done with the field, by the kind of access. -/
lemma AtField.execute_kind (h : AtField field access located machine) :
    machine.execute =
      match access.kind with
      | .push => (located.next.push (field.value (machine.readRegister access.register))).done
      | .pop =>
        (located.next.pop.2.writeRegister access.register
          (field.insert (machine.readRegister access.register) located.next.pop.1)).done
      | .update =>
        located.next.update (field.value (machine.readRegister access.register))
          fun after stored => after.writeRegister access.register
            (field.insert (machine.readRegister access.register) stored)
      | .reference =>
        located.next.raise (.registerAccess located.code located.body.pc) := by
  have named : RegisterAccess.decode? located.nextByte.1 = some access := h.access
  rw [h.execute_eq, accessRegister]
  simp only [named]
  rw [← h.sameRegisters]
  rfl

lemma AtField.execute_push (h : AtField field access located machine)
    (kind : access.kind = .push) :
    machine.execute = (located.next.push (machine.fieldOf field access.register)).done := by
  rw [h.execute_kind, kind]
  rfl

lemma AtField.execute_pop (h : AtField field access located machine) (kind : access.kind = .pop) :
    machine.execute = (located.next.pop.2.writeRegister access.register
      (field.insert (machine.readRegister access.register) located.next.pop.1)).done := by
  rw [h.execute_kind, kind]

/-! ## What changes -/

/-- All bits of all registers are the same but for those of the field in one register. -/
def TouchesOnly (field : RegisterField) (register : UInt32) (before after : SpinMachine τ) :
    Prop :=
  ∀ address bit, ¬ (address.toNat % 512 = register.toNat % 512 ∧ field.Covers bit) →
    (after.readRegister address).toNat.testBit bit
      = (before.readRegister address).toNat.testBit bit

lemma SameRegisters.touchesOnly {before after : SpinMachine τ} (same : before.SameRegisters after)
    (field : RegisterField) (register : UInt32) : TouchesOnly field register before after := by
  intro address bit _
  rw [same address]

/-- Writing the field back into its register touches nothing else. -/
lemma SameRegisters.touchesOnly_insert {before after : SpinMachine τ}
    (same : before.SameRegisters after) (field : RegisterField) (register value : UInt32) :
    TouchesOnly field register before
      (after.writeRegister register (field.insert (before.readRegister register) value)) := by
  intro address bit outside
  rw [← same address]
  show ((after.body.writeRegister _ _ _).readRegister after.hub address).toNat.testBit bit
    = (after.body.readRegister after.hub address).toNat.testBit bit
  rw [CogBody.readRegister_writeRegister]
  split
  · next written =>
    have before' : before.readRegister register = after.body.readRegister after.hub address := by
      rw [← same register, CogBody.readRegister_congr after.body after.hub written.1]
      rfl
    rw [← before']
    by_cases inside : bit < 32
    · rw [field.testBit_insert _ _ inside, if_neg fun covers => outside ⟨written.1, covers⟩]
    · have high : 2 ^ 32 ≤ 2 ^ bit := Nat.pow_le_pow_right (by decide) (by omega)
      rw [Nat.testBit_lt_two_pow (Nat.lt_of_lt_of_le (UInt32.toNat_lt _) high),
        Nat.testBit_lt_two_pow (Nat.lt_of_lt_of_le (UInt32.toNat_lt _) high)]
  · rfl

lemma sameRegisters_branchIf (machine : SpinMachine τ) (taken : Bool) (offset : UInt32) :
    machine.SameRegisters (machine.branchIf taken offset) := by
  cases taken <;> exact fun _ => rfl

/-- Updates find a new value, and leave it to the caller to write it. -/
lemma sameRegisters_applyUpdate {update : Update} {before : UInt32} {updated : Updated τ}
    (h : machine.applyUpdate update before = .ok updated) :
    machine.SameRegisters updated.machine := by
  cases update with
  | undefined code => cases h
  | assign operator =>
    cases h
    simp only [Updated.same, assign]
    split <;> exact fun _ => rfl
  | loopStep =>
    cases h
    simp only [Updated.same, loopStep]
    split <;> exact sameRegisters_branchIf machine.pop.2.pop.2.branchOffset.2 _ _
  | loopStride =>
    cases h
    exact sameRegisters_branchIf machine.pop.2.pop.2.pop.2.branchOffset.2 _ _
  | _ =>
    cases h
    exact fun _ => rfl

/-- A new value is written by a machine that has left the registers alone, if one is written. -/
lemma update_eq (machine : SpinMachine τ) (before : UInt32)
    (store : SpinMachine τ → UInt32 → SpinMachine τ) :
    ∃ after, machine.SameRegisters after ∧ ((machine.update before store).machine = after
      ∨ ∃ stored, (machine.update before store).machine = store after stored) := by
  rw [update]
  dsimp only
  split
  · exact ⟨machine.next, fun _ => rfl, .inl rfl⟩
  · next updated applied =>
    have same : machine.next.SameRegisters updated.machine := sameRegisters_applyUpdate applied
    refine ⟨_, ?_, .inr ⟨updated.stored, rfl⟩⟩
    split
    · exact same
    · exact same

/-- **Nothing but the field is touched**, whatever the bytecode does with it. -/
theorem AtField.touchesOnly (h : AtField field access located machine) :
    TouchesOnly field access.register machine machine.execute.machine := by
  have same := h.sameRegisters
  rw [h.execute_kind]
  split
  · exact same.touchesOnly field access.register
  · exact same.touchesOnly_insert field access.register _
  · obtain ⟨after, kept, done⟩ :=
      located.next.update_eq (field.value (machine.readRegister access.register))
        fun after stored => after.writeRegister access.register
          (field.insert (machine.readRegister access.register) stored)
    have all : machine.SameRegisters after := fun address => (kept address).trans (same address)
    rcases done with machine_eq | ⟨stored, machine_eq⟩
    · rw [machine_eq]
      exact all.touchesOnly field access.register
    · rw [machine_eq]
      exact all.touchesOnly_insert field access.register stored
  · exact same.touchesOnly field access.register

/-! ## What is yielded -/

/-- The update that counts a field by one, upwards or downwards, and then yields it. -/
def countUpdate (up : Bool) : Update :=
  if up then .preIncrement .bits else .preDecrement .bits

/-- The value counted by one. -/
def counted (up : Bool) (value : UInt32) : UInt32 :=
  if up then value + 1 else value - 1

lemma toNat_fieldOf_insert (machine : SpinMachine τ) (field : RegisterField) {register : UInt32}
    (writable : CogBody.IsWritable register) (word value : UInt32) :
    ((machine.writeRegister register (field.insert word value)).fieldOf field register).toNat
      = value.toNat % 2 ^ field.width := by
  have read : (machine.writeRegister register (field.insert word value)).readRegister register
      = field.insert word value :=
    CogBody.readRegister_writeRegister_self _ _ _ writable _
  rw [fieldOf, read, field.toNat_value_insert]

omit [Timebase τ] in
lemma applyUpdate_count (machine : SpinMachine τ) (up : Bool) (value : UInt32) :
    machine.applyUpdate (countUpdate up) value
      = .ok (.same (counted up value, machine)) := by
  -- a field is as wide as a word, for the update that counts it
  have whole (word : UInt32) : word &&& CountWidth.mask .bits = word := by
    apply UInt32.toNat_inj.mp
    rw [UInt32.toNat_and]
    show word.toNat &&& 2 ^ 32 - 1 = word.toNat
    rw [Nat.and_two_pow_sub_one_eq_mod, Nat.mod_eq_of_lt word.toNat_lt]
  cases up with
  | true =>
    show Except.ok (Updated.same ((value + 1) &&& CountWidth.mask .bits, machine)) = _
    rw [whole]
    rfl
  | false =>
    show Except.ok (Updated.same ((value - 1) &&& CountWidth.mask .bits, machine)) = _
    rw [whole]
    rfl

omit [Timebase τ] in
/-- An update that is defined is carried out, and its result pushed if the byte asks for it. -/
lemma update_of_ok {before : UInt32} {updated : Updated τ} {decoded : UpdateByte}
    (byte : UpdateByte.decode machine.code = decoded)
    (applied : machine.next.applyUpdate decoded.update before = .ok updated)
    (store : SpinMachine τ → UInt32 → SpinMachine τ) :
    machine.update before store
      = (store (if decoded.push then updated.machine.push updated.result else updated.machine)
          updated.stored).done := by
  have named : UpdateByte.decode machine.nextByte.1 = decoded := byte
  have behind : machine.nextByte.2.applyUpdate decoded.update before = .ok updated := applied
  simp only [update, named, behind]

/-- A field that is counted and yielded pushes the count before it is cut. -/
lemma AtField.execute_count (h : AtField field access located machine)
    (kind : access.kind = .update) {up : Bool}
    (asked : UpdateByte.decode located.next.code = ⟨countUpdate up, true⟩) :
    machine.execute =
      ((located.next.next.push (counted up (machine.fieldOf field access.register))).writeRegister
        access.register (field.insert (machine.readRegister access.register)
          (counted up (machine.fieldOf field access.register)))).done := by
  rw [h.execute_kind, kind]
  exact update_of_ok asked (applyUpdate_count _ up _) _

lemma toNat_counted (field : RegisterField) (up : Bool) (word : UInt32) :
    (counted up (field.value word)).toNat % 2 ^ field.width = (counted up (field.value word)).toNat
      ↔ field.width = 32 ∨ (field.value word).toNat ≠ field.lastValue up := by
  have small := field.toNat_value_lt word
  have narrow := field.width_le
  generalize field.value word = value at small ⊢
  have power : 1 ≤ 2 ^ field.width := Nat.one_le_two_pow
  by_cases full : field.width = 32
  · rw [full]
    exact iff_of_true (Nat.mod_eq_of_lt (UInt32.toNat_lt _)) (.inl rfl)
  have strictly : 2 ^ field.width < 2 ^ 32 := Nat.pow_lt_pow_right (by decide) (by omega)
  rw [Nat.mod_eq_iff_lt (by omega), or_iff_right full]
  cases up with
  | true =>
    show (value + 1).toNat < _ ↔ value.toNat ≠ 2 ^ field.width - 1
    rw [UInt32.toNat_add]
    show (_ + 1) % 2 ^ 32 < _ ↔ _
    omega
  | false =>
    show (value - 1).toNat < _ ↔ value.toNat ≠ 0
    rw [UInt32.toNat_sub]
    show (2 ^ 32 - 1 + _) % 2 ^ 32 < _ ↔ _
    omega

/-- **Fields are kept, and yielded**: nothing but the field is touched; a popped value is cut to the
width of the field and read again; and a field that is counted and yielded has the yielded value,
unless it is narrower than a word and wraps around. -/
theorem field_yields_iff (h : AtField field access located machine)
    (writable : CogBody.IsWritable access.register) :
    TouchesOnly field access.register machine machine.execute.machine
      ∧ (access.kind = .pop →
        machine.execute.fault? = none
          ∧ (machine.execute.machine.fieldOf field access.register).toNat
            = located.next.pop.1.toNat % 2 ^ field.width
          ∧ ∀ reader readLocated : SpinMachine τ,
            AtField field ⟨.push, access.register⟩ readLocated reader →
            reader.readRegister access.register
              = machine.execute.machine.readRegister access.register →
            reader.execute = (readLocated.next.push
              (.ofNat (located.next.pop.1.toNat % 2 ^ field.width))).done)
      ∧ ∀ up, access.kind = .update →
        UpdateByte.decode located.next.code = ⟨countUpdate up, true⟩ →
        let yielded := counted up (machine.fieldOf field access.register)
        (∃ stored, machine.execute
            = ((located.next.next.push yielded).writeRegister access.register stored).done)
          ∧ (machine.execute.machine.fieldOf field access.register = yielded
            ↔ field.width = 32
              ∨ (machine.fieldOf field access.register).toNat ≠ field.lastValue up) := by
  refine ⟨h.touchesOnly, fun kind => ?_, fun up kind asked => ?_⟩
  · have popped := h.execute_pop kind
    have held : (machine.execute.machine.fieldOf field access.register).toNat
        = located.next.pop.1.toNat % 2 ^ field.width := by
      rw [popped]
      exact toNat_fieldOf_insert _ field writable _ _
    refine ⟨by rw [popped]; rfl, held, fun reader readLocated reads same => ?_⟩
    rw [reads.execute_push rfl, fieldOf, same, ← held, UInt32.ofNat_toNat]
    rfl
  · have yields := h.execute_count kind asked
    refine ⟨⟨_, yields⟩, ?_⟩
    rw [← UInt32.toNat_inj, yields]
    show (fieldOf (writeRegister _ _ _) _ _).toNat = _ ↔ _
    rw [toNat_fieldOf_insert _ field writable]
    exact toNat_counted field up _

/-- Bit 5 of the output register is counted upwards from zero, and yielded. -/
theorem field_yields_of_increment :
    let machine := machineWith [(0x10, 0x3D), (0x11, 0xD4), (0x12, 0xA0), (0x3C, 5)]
    machine.execute.machine.hub.memory.readLong 0x3C = 1 ∧
      machine.execute.machine.fieldOf (.single 5) 0x1F4 = 1 := by
  intro machine
  have number : machine.next.pop.1 = 5 := by decide +kernel
  have field : AtField (.single 5) ⟨.update, 0x1F4⟩ machine.next.pop.2 machine :=
    ⟨⟨.registerBit, by decide +kernel, by rw [← number]; rfl⟩, by decide +kernel⟩
  have yields := (field_yields_iff field (by decide)).2.2 true rfl (by decide +kernel)
  have low : machine.fieldOf (.single 5) 0x1F4 = 0 := by decide +kernel
  refine ⟨by decide +kernel, (yields.2.mpr (.inr ?_)).trans ?_⟩
  · rw [low]
    decide
  · show counted true (machine.fieldOf (.single 5) 0x1F4) = 1
    rw [low]
    rfl

/-- Bit 0 of the output register is counted downwards from zero: all ones are yielded, and the bit
is set. -/
theorem not_field_yields_of_decrement :
    let machine := machineWith [(0x10, 0x3D), (0x11, 0xD4), (0x12, 0xB0)]
    machine.execute.machine.hub.memory.readLong 0x3C = 0xFFFFFFFF ∧
      machine.execute.machine.fieldOf (.single 0) 0x1F4 = 1 := by
  decide +kernel

end SpinMachine

end P1Chip
