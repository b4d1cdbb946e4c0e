import Mathlib.Data.Nat.Bitwise
import P1Chip.Instruction.Word
import P1Chip.Proofs.Masks

/-!
# Instruction words and their fields

An instruction word is the sum of its seven fields, each multiplied by the weight of its lowest bit.
The table of operations has each operation where its code says, and so has the table of conditions.
So no two words have the same fields, and whatever fields a word is built of are found in it again,
except that registers have addresses of nine bits.

* `Instruction.Fields` — the fields of a word, one by one.
* **`Instruction.toNat_build`** — a word as the sum of its fields.
* **`Instruction.fields_determine`** — words and fields determine each other.
-/

namespace P1Chip

/-- A flag is known by its bit. -/
lemma eq_of_toNat {flag other : Bool} (same : flag.toNat = other.toNat) : flag = other := by
  cases flag <;> cases other <;> first | rfl | cases same

/-! ## Tables -/

/-- Each operation stands in the table where its code says. -/
lemma Opcode.toNat_bits_ofBits (bits : UInt32) : (ofBits bits).bits.toNat = bits.toNat % 64 := by
  have table : ∀ n : Fin 64, (all[n]).bits.toNat = n := by decide
  exact table ⟨bits.toNat % 64, Nat.mod_lt _ (by decide)⟩

lemma Opcode.toNat_bits_lt (opcode : Opcode) : opcode.bits.toNat < 64 := by
  rw [← ofBits_bits opcode, toNat_bits_ofBits]
  exact Nat.mod_lt _ (by decide)

/-- No two operations have the same code. -/
lemma Opcode.eq_of_bits {opcode other : Opcode} (same : opcode.bits.toNat = other.bits.toNat) :
    opcode = other := by
  rw [← ofBits_bits opcode, UInt32.toNat_inj.mp same, ofBits_bits]

/-- Each condition stands in the table where its code says. -/
lemma Condition.toNat_bits_ofBits (bits : UInt32) : (ofBits bits).bits.toNat = bits.toNat % 16 := by
  have table : ∀ n : Fin 16, (all[n]).bits.toNat = n := by decide
  exact table ⟨bits.toNat % 16, Nat.mod_lt _ (by decide)⟩

lemma Condition.toNat_bits_lt (condition : Condition) : condition.bits.toNat < 16 := by
  rw [← ofBits_bits condition, toNat_bits_ofBits]
  exact Nat.mod_lt _ (by decide)

/-- No two conditions have the same code. -/
lemma Condition.eq_of_bits {condition other : Condition}
    (same : condition.bits.toNat = other.bits.toNat) : condition = other := by
  rw [← ofBits_bits condition, UInt32.toNat_inj.mp same, ofBits_bits]

namespace Instruction

/-! ## The sum of the fields -/

lemma toNat_flagAt (place : UInt32) (within : place.toNat < 32) (set : Bool) :
    (flagAt place set).toNat = set.toNat * 2 ^ place.toNat := by
  have fits : 1 * 2 ^ place.toNat < 2 ^ 32 := by
    rw [Nat.one_mul]
    exact Nat.pow_lt_pow_right (by decide) within
  cases set with
  | false => simp [flagAt]
  | true => exact Word.toNat_shiftLeft_of_fits (x := 1) within fits

/-- **A word is the sum of its fields**, each with the weight of its lowest bit. -/
theorem toNat_build (opcode : Opcode) (effects : Effects) (immediate : Bool) (condition : Condition)
    (destination source : UInt32) :
    (build opcode effects immediate condition destination source).bits.toNat
      = opcode.bits.toNat * 2 ^ 26 + effects.writeZero.toNat * 2 ^ 25
        + effects.writeCarry.toNat * 2 ^ 24 + effects.writeResult.toNat * 2 ^ 23
        + immediate.toNat * 2 ^ 22 + condition.bits.toNat * 2 ^ 18
        + destination.toNat % 512 * 2 ^ 9 + source.toNat % 512 := by
  have operations := opcode.toNat_bits_lt
  have conditions := condition.toNat_bits_lt
  have zeros := effects.writeZero.toNat_lt
  have carries := effects.writeCarry.toNat_lt
  have results := effects.writeResult.toNat_lt
  have numbers := immediate.toNat_lt
  have nine (x : UInt32) : (x &&& 0x1FF).toNat = x.toNat % 512 := Word.toNat_lowBits x 9 rfl
  have lowTarget := nine destination
  have lowSource := nine source
  have operation : (opcode.bits <<< 26).toNat = _ :=
    Word.toNat_shiftLeft_of_fits (by decide) (by simp only [UInt32.reduceToNat]; omega)
  have zero := toNat_flagAt 25 (by decide) effects.writeZero
  have carry := toNat_flagAt 24 (by decide) effects.writeCarry
  have result := toNat_flagAt 23 (by decide) effects.writeResult
  have number := toNat_flagAt 22 (by decide) immediate
  have chosen : (condition.bits <<< 18).toNat = _ :=
    Word.toNat_shiftLeft_of_fits (by decide) (by simp only [UInt32.reduceToNat]; omega)
  have target : ((destination &&& 0x1FF) <<< 9).toNat = _ :=
    Word.toNat_shiftLeft_of_fits (by decide) (by simp only [UInt32.reduceToNat]; omega)
  simp only [UInt32.reduceToNat, nine] at operation zero carry result number chosen target
  show (opcode.bits <<< 26 ||| _ ||| _ ||| _ ||| _ ||| _ ||| _ ||| _).toNat = _
  generalize opcode.bits <<< 26 = o at *
  generalize flagAt 25 effects.writeZero = z at *
  generalize flagAt 24 effects.writeCarry = c at *
  generalize flagAt 23 effects.writeResult = r at *
  generalize flagAt 22 immediate = i at *
  generalize condition.bits <<< 18 = k at *
  generalize (destination &&& 0x1FF) <<< 9 = d at *
  generalize source &&& 0x1FF = s at *
  -- from the highest field down, each one stands below all that are there already
  have two := Word.toNat_or_of_low o z 26 (by omega) (by omega)
  have three := Word.toNat_or_of_low (o ||| z) c 25 (by omega) (by omega)
  have four := Word.toNat_or_of_low (o ||| z ||| c) r 24 (by omega) (by omega)
  have five := Word.toNat_or_of_low (o ||| z ||| c ||| r) i 23 (by omega) (by omega)
  have six := Word.toNat_or_of_low (o ||| z ||| c ||| r ||| i) k 22 (by omega)
    (by omega)
  have seven := Word.toNat_or_of_low (o ||| z ||| c ||| r ||| i ||| k) d 18
    (by omega) (by omega)
  have all := Word.toNat_or_of_low (o ||| z ||| c ||| r ||| i ||| k ||| d) s 9
    (by omega) (by omega)
  omega

/-! ## Taking a word apart -/

section Parts

variable (instruction : Instruction)

lemma toNat_opcode : instruction.opcode.bits.toNat = instruction.bits.toNat / 2 ^ 26 % 64 := by
  rw [opcode, Opcode.toNat_bits_ofBits, UInt32.toNat_shiftRight, Nat.shiftRight_eq_div_pow]
  rfl

lemma toNat_condition :
    instruction.condition.bits.toNat = instruction.bits.toNat / 2 ^ 18 % 16 := by
  rw [condition, Condition.toNat_bits_ofBits, UInt32.toNat_shiftRight, Nat.shiftRight_eq_div_pow]
  rfl

/-- A flag is the bit at its place. -/
lemma toNat_flag (places : UInt32) (within : places.toNat < 32) :
    ((instruction.bits >>> places) &&& 1 != 0).toNat
      = instruction.bits.toNat / 2 ^ places.toNat % 2 := by
  rw [Word.hasBit_eq _ (show UInt32.toNat 1 = 2 ^ 0 from rfl), Nat.toNat_testBit, UInt32.toNat_shiftRight,
    Nat.mod_eq_of_lt within, Nat.shiftRight_eq_div_pow, Nat.pow_zero, Nat.div_one]

lemma toNat_writeZero :
    instruction.effects.writeZero.toNat = instruction.bits.toNat / 2 ^ 25 % 2 :=
  instruction.toNat_flag 25 (by decide)

lemma toNat_writeCarry :
    instruction.effects.writeCarry.toNat = instruction.bits.toNat / 2 ^ 24 % 2 :=
  instruction.toNat_flag 24 (by decide)

lemma toNat_writeResult :
    instruction.effects.writeResult.toNat = instruction.bits.toNat / 2 ^ 23 % 2 :=
  instruction.toNat_flag 23 (by decide)

lemma toNat_immediate : instruction.immediate.toNat = instruction.bits.toNat / 2 ^ 22 % 2 :=
  instruction.toNat_flag 22 (by decide)

lemma toNat_destination : instruction.destination.toNat = instruction.bits.toNat / 2 ^ 9 % 512 := by
  rw [destination, Word.toNat_lowBits _ 9 rfl, UInt32.toNat_shiftRight, Nat.shiftRight_eq_div_pow]
  rfl

lemma toNat_source : instruction.source.toNat = instruction.bits.toNat % 512 :=
  Word.toNat_lowBits _ 9 rfl

end Parts

/-! ## Fields -/

/-- The fields of an instruction word, one by one. -/
structure Fields where
  opcode : Opcode
  effects : Effects
  immediate : Bool
  condition : Condition
  destination : UInt32
  source : UInt32
deriving DecidableEq

/-- What a word is decoded to. -/
def fields (instruction : Instruction) : Fields where
  opcode := instruction.opcode
  effects := instruction.effects
  immediate := instruction.immediate
  condition := instruction.condition
  destination := instruction.destination
  source := instruction.source

/-- The word that is built of the fields. -/
def Fields.word (fields : Fields) : Instruction :=
  build fields.opcode fields.effects fields.immediate fields.condition fields.destination fields.source

/-- A word is built again of what it is decoded to. -/
lemma word_fields (instruction : Instruction) : instruction.fields.word = instruction := by
  have bound := instruction.bits.toNat_lt
  have same : instruction.fields.word.bits.toNat = instruction.bits.toNat := by
    simp only [Fields.word, fields, toNat_build, toNat_opcode, toNat_condition, toNat_destination,
      toNat_source, toNat_writeZero, toNat_writeCarry, toNat_writeResult, toNat_immediate]
    omega
  rcases instruction with ⟨bits⟩
  exact congrArg Instruction.mk (UInt32.toNat_inj.mp same)

/-- The fields of which a word is built are found in it, with addresses of nine bits. -/
lemma fields_word (fields : Fields) :
    fields.word.fields = { fields with
      destination := fields.destination % 512, source := fields.source % 512 } := by
  obtain ⟨opcode, ⟨zero, carry, result⟩, immediate, condition, destination, source⟩ := fields
  have sum := toNat_build opcode ⟨zero, carry, result⟩ immediate condition destination source
  have operations := opcode.toNat_bits_lt
  have conditions := condition.toNat_bits_lt
  have zeros := zero.toNat_lt
  have carries := carry.toNat_lt
  have results := result.toNat_lt
  have numbers := immediate.toNat_lt
  change (build opcode ⟨zero, carry, result⟩ immediate condition destination source).fields = _
  generalize build opcode ⟨zero, carry, result⟩ immediate condition destination source = word
    at sum ⊢
  dsimp only at sum
  have sameOpcode : word.opcode = opcode := Opcode.eq_of_bits (by rw [toNat_opcode]; omega)
  have sameZero : word.effects.writeZero = zero := eq_of_toNat (by rw [toNat_writeZero]; omega)
  have sameCarry : word.effects.writeCarry = carry := eq_of_toNat (by rw [toNat_writeCarry]; omega)
  have sameResult : word.effects.writeResult = result :=
    eq_of_toNat (by rw [toNat_writeResult]; omega)
  have sameImmediate : word.immediate = immediate := eq_of_toNat (by rw [toNat_immediate]; omega)
  have sameCondition : word.condition = condition :=
    Condition.eq_of_bits (by rw [toNat_condition]; omega)
  have nine (x : UInt32) : (x % 512).toNat = x.toNat % 512 := UInt32.toNat_mod x 512
  have sameDestination : word.destination = destination % 512 :=
    UInt32.toNat_inj.mp (by rw [toNat_destination, nine]; omega)
  have sameSource : word.source = source % 512 :=
    UInt32.toNat_inj.mp (by rw [toNat_source, nine]; omega)
  have sameEffects : word.effects = ⟨zero, carry, result⟩ := by
    rw [← sameZero, ← sameCarry, ← sameResult]
  rw [Instruction.fields, sameOpcode, sameEffects, sameImmediate, sameCondition, sameDestination,
    sameSource]

/-- **Words and fields determine each other**: a word is built again of its own fields, and the
fields of which any word is built are decoded from it, with addresses cut to nine bits. -/
theorem fields_determine :
    (∀ instruction : Instruction, instruction.fields.word = instruction)
      ∧ ∀ fields : Fields, fields.word.fields = { fields with
          destination := fields.destination % 512, source := fields.source % 512 } :=
  ⟨word_fields, fields_word⟩

example : fields ⟨0xA2FC0BFF⟩
    = ⟨.mov, ⟨true, false, true⟩, true, .always, 5, 0x1FF⟩ := by decide

end Instruction

end P1Chip
