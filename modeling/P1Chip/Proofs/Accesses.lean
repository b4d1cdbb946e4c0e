import P1Chip.Proofs.Checks
import P1Chip.Proofs.Memory.Bytes
import P1Chip.Proofs.Spin.Fields
import P1Chip.Proofs.Spin.Products
import P1Chip.Proofs.Video.Shifts

/-!
# Accesses under masks

Most indices and distances of shifts are cut to size right where they are used: addresses in hub
memory and in cog memory, codes that are looked up in a table, the places by which instructions and
operators shift, fields of registers, and the numbers of pins.  These accesses are repeated here
with what is computed there, on arrays and by shifts that can refuse it, and none of them is
refused.

* `Memory.read?`, `Memory.write?` — hub memory, and blocks and strings in it.
* `CogBody.cell?`, `CogBody.setCell?` — cog memory.
* `Opcode.ofBits?`, `Condition.ofBits?`, `Operator.ofBits?`, `ClockMode.name?` — tables.
* `Alu.evaluate?` — the shifts of native instructions.
* `SpinMachine.bitRange?`, `Spin.fieldValue?`, `Spin.insertField?` — fields of registers.
* `pinMask?` — the bits of pins.
* `Counter.setControl?` — the pins and the divider of a counter.
-/

namespace P1Chip

open Word Spin

/-! ## Hub memory -/

namespace Memory

variable (memory : Memory)

/-- What stands at an address, byte by byte. -/
def read? (size : DataSize) (address : UInt32) : Option UInt32 :=
  memory.area.load? size address

def readByte? (address : UInt32) : Option UInt8 :=
  (memory.read? .byte address).map (·.toUInt8)

def readWord? (address : UInt32) : Option UInt16 :=
  (memory.read? .word address).map (·.toUInt16)

def readLong? (address : UInt32) : Option UInt32 :=
  memory.read? .long address

/-- The memory after a write, byte by byte.  It has the lower half of the array that was written
to. -/
def write? (size : DataSize) (address value : UInt32) : Option Memory := do
  let area ← memory.area.store? ⟨size, address, value⟩
  return { memory with ram := Vector.ofFn fun i => area.get (i.castLE (by decide)) }

def writeByte? (address : UInt32) (value : UInt8) : Option Memory :=
  memory.write? .byte address value.toUInt32

def writeWord? (address : UInt32) (value : UInt16) : Option Memory :=
  memory.write? .word address value.toUInt32

def writeLong? (address value : UInt32) : Option Memory :=
  memory.write? .long address value

lemma read?_eq (size : DataSize) (address : UInt32) :
    memory.read? size address = some (memory.read size address) :=
  memory.load?_area size address

lemma readByte?_eq (address : UInt32) :
    memory.readByte? address = some (memory.readByte address) := by
  rw [readByte?, read?_eq, Option.map_some, read, UInt8.toUInt8_toUInt32]

lemma readWord?_eq (address : UInt32) :
    memory.readWord? address = some (memory.readWord address) := by
  rw [readWord?, read?_eq, Option.map_some, read, UInt16.toUInt16_toUInt32]

lemma readLong?_eq (address : UInt32) : memory.readLong? address = some (memory.readLong address) :=
  memory.read?_eq .long address

lemma lowerHalf_area (memory : Memory) :
    Vector.ofFn (fun i : Fin halfSize => memory.area.get (i.castLE (by decide))) = memory.ram := by
  refine Vector.ext fun place inside => ?_
  rw [Vector.getElem_ofFn]
  exact Vector.getElem_append_left inside

lemma write?_eq (size : DataSize) (address value : UInt32) :
    memory.write? size address value = some (memory.write size address value) := by
  have rom : (memory.write size address value).rom = memory.rom := rom_write ..
  simp only [write?, store?_area, Option.bind_eq_bind, Option.bind_some, lowerHalf_area, ← rom]
  rfl

lemma writeByte?_eq (address : UInt32) (value : UInt8) :
    memory.writeByte? address value = some (memory.writeByte address value) := by
  rw [writeByte?, write?_eq, write, UInt8.toUInt8_toUInt32]

lemma writeWord?_eq (address : UInt32) (value : UInt16) :
    memory.writeWord? address value = some (memory.writeWord address value) := by
  rw [writeWord?, write?_eq, write, UInt16.toUInt16_toUInt32]

lemma writeLong?_eq (address value : UInt32) :
    memory.writeLong? address value = some (memory.writeLong address value) :=
  memory.write?_eq .long address value

/-! ### Blocks and strings -/

/-- Writes `value` to `count` elements, which are `step` bytes apart. -/
def fill? (size : DataSize) (step value : UInt32) : Nat → UInt32 → Memory → Option Memory
  | 0, _, memory => some memory
  | count + 1, destination, memory => do
    fill? size step value count (destination + step) (← memory.write? size destination value)

/-- Copies `count` elements, which are `step` bytes apart. -/
def move? (size : DataSize) (step : UInt32) : Nat → UInt32 → UInt32 → Memory → Option Memory
  | 0, _, _, memory => some memory
  | count + 1, source, destination, memory => do
    let value ← memory.read? size source
    move? size step count (source + step) (destination + step)
      (← memory.write? size destination value)

/-- Bytes from an address up to the next zero, of which there are `room` to look at. -/
def countNonzero? : Nat → UInt32 → UInt32 → Option UInt32
  | 0, _, size => some size
  | room + 1, address, size => do
    if (← memory.readByte? address) = 0 then return size
    else countNonzero? room (address + 1) (size + 1)

/-- Whether the bytes at two addresses are equal up to a zero, of which there are `room` to look
at. -/
def equalUntilZero? : Nat → UInt32 → UInt32 → Option Bool
  | 0, _, _ => some true
  | room + 1, a, b => do
    let x ← memory.readByte? a
    if x != (← memory.readByte? b) then return false
    else if x = 0 then return true
    else equalUntilZero? room (a + 1) (b + 1)

/-- The distance of elements is a shifted one. -/
lemma shifted?_one (size : DataSize) : shifted? (· <<< ·) 1 size.shift = some size.bytes := by
  cases size <;> rfl

lemma fill?_eq (size : DataSize) (value : UInt32) (count : Nat) (destination : UInt32) :
    fill? size size.bytes value count destination memory
      = some (fill size value count destination memory) := by
  induction count generalizing destination memory with
  | zero => rfl
  | succ count ih =>
    rw [fill?, write?_eq]
    exact ih _ _

lemma move?_eq (size : DataSize) (count : Nat) (source destination : UInt32) :
    move? size size.bytes count source destination memory
      = some (move size count source destination memory) := by
  induction count generalizing source destination memory with
  | zero => rfl
  | succ count ih =>
    rw [move?, read?_eq, Option.bind_eq_bind, Option.bind_some, write?_eq]
    exact ih _ _ _

lemma countNonzero?_eq (room : Nat) (address size : UInt32) :
    memory.countNonzero? room address size = some (memory.countNonzero room address size) := by
  induction room generalizing address size with
  | zero => rfl
  | succ room ih =>
    simp only [countNonzero?, countNonzero, readByte?_eq, Option.bind_eq_bind, Option.bind_some]
    split
    · rfl
    · exact ih _ _

lemma equalUntilZero?_eq (room : Nat) (a b : UInt32) :
    memory.equalUntilZero? room a b = some (memory.equalUntilZero room a b) := by
  induction room generalizing a b with
  | zero => rfl
  | succ room ih =>
    simp only [equalUntilZero?, equalUntilZero, readByte?_eq, Option.bind_eq_bind,
      Option.bind_some]
    split
    · rfl
    · split
      · rfl
      · exact ih _ _

end Memory

/-! ## Cog memory -/

namespace CogBody

variable {τ : Type} (body : CogBody τ)

/-- The long at an address, of which nine bits are taken. -/
def cell? (address : UInt32) : Option UInt32 :=
  body.memory[(address &&& 0x1FF).toNat]?

def setCell? (address value : UInt32) : Option (CogBody τ) := do
  return { body with memory := ← setAt? body.memory (address &&& 0x1FF).toNat value }

/-- The long at an address that is used as it is. -/
def namedCell? (address : UInt32) : Option UInt32 :=
  body.memory[address.toNat]?

def setNamedCell? (address value : UInt32) : Option (CogBody τ) := do
  return { body with memory := ← setAt? body.memory address.toNat value }

lemma toNat_address (address : UInt32) :
    (address &&& 0x1FF).toNat = (Fin.ofNat cogLongs address.toNat).val :=
  toNat_lowBits address 9 rfl

lemma cell?_eq (address : UInt32) : body.cell? address = some (body.cell address) := by
  rw [cell?, toNat_address, Vector.getElem?_eq_getElem (Fin.isLt _)]
  rfl

lemma setCell?_eq (address value : UInt32) :
    body.setCell? address value = some (body.setCell address value) := by
  simp only [setCell?, toNat_address, setAt?_of_lt (Fin.isLt _)]
  rfl

lemma namedCell?_eq {address : UInt32} (low : address.toNat < cogLongs) :
    body.namedCell? address = some (body.cell address) :=
  body.getElem?_memory low

lemma setNamedCell?_eq {address : UInt32} (low : address.toNat < cogLongs) (value : UInt32) :
    body.setNamedCell? address value = some (body.setCell address value) := by
  have same : (Fin.ofNat cogLongs address.toNat).val = address.toNat := Nat.mod_eq_of_lt low
  simp only [setNamedCell?, setAt?_of_lt low, setCell, same]
  rfl

end CogBody

/-- All special registers are in cog memory. -/
lemma SpecialRegister.address_lt (register : SpecialRegister) :
    register.address.toNat < cogLongs := by
  cases register <;> decide

/-! ## Tables -/

/-- The operation whose code is in the low six bits. -/
def Opcode.ofBits? (bits : UInt32) : Option Opcode :=
  all[(bits &&& 0x3F).toNat]?

lemma Opcode.ofBits?_eq (bits : UInt32) : ofBits? bits = some (ofBits bits) := by
  have low : (bits &&& 0x3F).toNat = bits.toNat % 64 := toNat_lowBits bits 6 rfl
  rw [ofBits?, low, Vector.getElem?_eq_getElem (Nat.mod_lt _ (by decide)), ofBits]

/-- The condition whose code is in the low four bits. -/
def Condition.ofBits? (bits : UInt32) : Option Condition :=
  all[(bits &&& 0xF).toNat]?

lemma Condition.ofBits?_eq (bits : UInt32) : ofBits? bits = some (ofBits bits) := by
  have low : (bits &&& 0xF).toNat = bits.toNat % 16 := toNat_lowBits bits 4 rfl
  rw [ofBits?, low, Vector.getElem?_eq_getElem (Nat.mod_lt _ (by decide)), ofBits]

/-- The operator whose code is in the low five bits. -/
def Operator.ofBits? (bits : UInt8) : Option Operator :=
  all[(bits &&& 0x1F).toNat]?

lemma Operator.ofBits?_eq (bits : UInt8) : ofBits? bits = some (ofBits bits) := by
  have low : (bits &&& 0x1F).toNat = bits.toNat % 32 := by
    rw [UInt8.toNat_and]
    exact Nat.and_two_pow_sub_one_eq_mod bits.toNat 5
  rw [ofBits?, low, Vector.getElem?_eq_getElem (Nat.mod_lt _ (by decide)), ofBits]

/-- A bytecode sorted by its family, where operators are looked up. -/
def BytecodeFamily.classify? (code : UInt8) : Option BytecodeFamily :=
  if 0xE0 ≤ code then operator <$> Operator.ofBits? code else some (classify code)

lemma BytecodeFamily.classify?_eq (code : UInt8) : classify? code = some (classify code) := by
  rw [classify?]
  split
  · next high =>
    have special : ¬ code < 0x40 := UInt8.not_lt.mpr (UInt8.le_trans (by decide) high)
    have short : ¬ code < 0x80 := UInt8.not_lt.mpr (UInt8.le_trans (by decide) high)
    rw [Operator.ofBits?_eq, classify, if_neg special, if_neg short,
      if_neg (UInt8.not_lt.mpr high)]
    rfl
  · rfl

/-- The update that a byte asks for, where operators are looked up. -/
def UpdateByte.decode? (byte : UInt8) : Option UpdateByte := do
  let code := byte &&& 0x7F
  let update ←
    if 0x40 ≤ code ∧ code < 0x60 then Update.assign <$> Operator.ofBits? code
    else some (ofCode code)
  return { update, push := byte &&& 0x80 != 0 }

lemma UpdateByte.decode?_eq (byte : UInt8) : decode? byte = some (decode byte) := by
  rw [decode?, decode]
  generalize byte &&& 0x7F = code
  dsimp only
  split
  · next within =>
    have low : ¬ code < 0x20 := UInt8.not_lt.mpr (UInt8.le_trans (by decide) within.1)
    have mid : ¬ code < 0x40 := UInt8.not_lt.mpr within.1
    rw [Operator.ofBits?_eq, ofCode, if_neg low, if_neg mid, if_pos within.2]
    rfl
  · rfl

namespace ClockMode

variable (mode : ClockMode)

lemma getElem?_gainNames :
    gainNames[((mode.bits &&& 0x18) >>> 3).toNat]? = some (gainNames.get mode.gain) := by
  have field : ((mode.bits &&& 0x18) >>> 3).toNat = mode.gain.val := by
    rw [UInt8.toNat_shiftRight, UInt8.toNat_and]
    show (mode.bits.toNat &&& (2 ^ 2 - 1) <<< 3) >>> 3 = mode.bits.toNat / 8 % 4
    rw [and_field, Nat.shiftRight_eq_div_pow]
    omega
  rw [field, Vector.getElem?_eq_getElem mode.gain.isLt]
  rfl

lemma getElem?_sourceNames :
    sourceNames[(mode.bits &&& 7).toNat]? = some (sourceNames.get mode.source) := by
  have field : (mode.bits &&& 7).toNat = mode.source.val := by
    rw [UInt8.toNat_and]
    exact Nat.and_two_pow_sub_one_eq_mod mode.bits.toNat 3
  rw [field, Vector.getElem?_eq_getElem mode.source.isLt]
  rfl

/-- The mode as a sum of the names of its parts. -/
def name? : Option String := do
  let oscillator ←
    if mode.oscillatorEnabled then
      (· ++ "+") <$> gainNames[((mode.bits &&& 0x18) >>> 3).toNat]?
    else some ""
  let source ← sourceNames[(mode.bits &&& 7).toNat]?
  return (if mode.resets then "RESET+" else "") ++ (if mode.pllEnabled then "PLL+" else "")
    ++ oscillator ++ source

lemma name?_eq : mode.name? = some mode.name := by
  simp only [name?, name, getElem?_gainNames, getElem?_sourceNames]
  split <;> rfl

end ClockMode

/-! ## Native instructions -/

namespace Alu

open AluOutcome

/-- What an instruction makes of its operands, if all shifts are by less than 32 places. -/
def evaluate? (opcode : Opcode) (d s : UInt32) (carry zero : Bool) (pc : UInt32) :
    Option (Option AluOutcome) :=
  let places := s &&& 31
  match opcode with
  | .shr => do
    return some (of (← shifted? (· >>> ·) d places) (d &&& 1 != 0))
  | .shl => do
    return some (of (← shifted? (· <<< ·) d places) (isNegative d))
  | .rcr => do
    let fill ← if carry then (~~~ ·) <$> shifted? (· >>> ·) Word.ones places else some 0
    return some (of ((← shifted? (· >>> ·) d places) ||| fill) (d &&& 1 != 0))
  | .rcl => do
    let fill ← if carry then (~~~ ·) <$> shifted? (· <<< ·) Word.ones places else some 0
    return some (of ((← shifted? (· <<< ·) d places) ||| fill) (isNegative d))
  | .sar => do
    return some (of (← shifted? shiftRightSigned d places) (d &&& 1 != 0))
  | .rev => do
    return some (of (← shifted? (· >>> ·) (reverse d) places) (d &&& 1 != 0))
  | _ => some (evaluate opcode d s carry zero pc)

lemma evaluate?_eq (opcode : Opcode) (d s : UInt32) (carry zero : Bool) (pc : UInt32) :
    evaluate? opcode d s carry zero pc = some (evaluate opcode d s carry zero pc) := by
  cases opcode
  case rcr | rcl =>
    simp only [evaluate?, evaluate, shifted?_and]
    cases carry <;> rfl
  case shr | shl | sar | rev =>
    simp only [evaluate?, evaluate, shifted?_and]
    rfl
  all_goals rfl

end Alu

/-! ## Bytecodes -/

namespace Spin

/-- A constant packed into a byte, if the power of two is one of a word. -/
def packedConstant? (byte : UInt8) : Option UInt32 := do
  let power ← shifted? (· <<< ·) 2 (byte &&& 0x1F).toUInt32
  let value := if byte &&& 0x20 != 0 then power - 1 else power
  return if byte &&& 0x40 != 0 then ~~~ value else value

lemma packedConstant?_eq (byte : UInt8) : packedConstant? byte = some (packedConstant byte) := by
  have power : (byte &&& 0x1F).toUInt32 = byte.toUInt32 &&& 31 := UInt8.toUInt32_and byte 0x1F
  simp only [packedConstant?, packedConstant, power, shifted?_and]
  rfl

/-- Indices are scaled by one, two or four. -/
lemma shifted?_shift (size : DataSize) (index : UInt32) :
    shifted? (· <<< ·) index size.shift = some (index <<< size.shift) := by
  cases size <;> exact if_pos (by decide)

end Spin

/-- The bits from `low` to `high`, if they are some of 64. -/
def SpinMachine.bitRange? (low high : UInt32) : Option UInt32 :=
  within (high - low + 1).toNat 64 <| within low.toNat 64 <| some (bitRange low high)

/-- What a register has in a field, which is shifted down. -/
def Spin.fieldValue? (mask lowest word : UInt32) : Option UInt32 :=
  shifted? (· >>> ·) (word &&& mask) lowest

/-- A register with something else in a field, to which it is shifted. -/
def Spin.insertField? (mask lowest current value : UInt32) : Option UInt32 := do
  let placed ← shifted? (· <<< ·) value lowest
  return (current &&& ~~~ mask) ||| (placed &&& mask)

lemma Spin.fieldValue?_eq (mask word : UInt32) {lowest : UInt32} (low : lowest < 32) :
    fieldValue? mask lowest word = some ((word &&& mask) >>> lowest) :=
  if_pos low

lemma Spin.insertField?_eq (mask current value : UInt32) {lowest : UInt32} (low : lowest < 32) :
    insertField? mask lowest current value
      = some (SpinMachine.insertField mask lowest current value) := by
  rw [insertField?, shifted?, if_pos low]
  rfl

namespace RegisterField

variable (field : RegisterField)

lemma bitRange?_eq : SpinMachine.bitRange? field.low field.high = some field.mask := by
  have ordered := field.low_le
  have bounded := field.high_le
  have few : (field.high - field.low + 1).toNat < 64 := by
    rw [UInt32.toNat_add, UInt32.toNat_sub_of_le _ _ field.ordered]
    show (_ + 1) % 2 ^ 32 < 64
    omega
  rw [SpinMachine.bitRange?, within_of_lt few, within_of_lt (by omega), mask]

/-- The mask of a single bit. -/
lemma mask_single (number : UInt32) : (single number).mask = 1 <<< (number &&& 31) := by
  have shifted (bit : Fin 32) : SpinMachine.bitRange (.ofNat bit.val) (.ofNat bit.val)
      = (1 : UInt32) <<< UInt32.ofNat bit.val := by
    revert bit
    decide
  have low : number &&& 31 = UInt32.ofNat (Fin.ofNat 32 number.toNat).val := by
    have small : (Fin.ofNat 32 number.toNat).val < 2 ^ 32 := Nat.lt_trans (Fin.isLt _) (by decide)
    apply UInt32.toNat_inj.mp
    rw [toNat_lowBits number 5 rfl, UInt32.toNat_ofNat_of_lt' small]
    rfl
  show SpinMachine.bitRange (number &&& 31) (number &&& 31) = 1 <<< (number &&& 31)
  rw [low, shifted]

lemma low_lt : field.low < 32 := by
  refine UInt32.lt_iff_toNat_lt.mpr ?_
  have ordered := field.low_le
  have bounded := field.high_le
  show field.low.toNat < 32
  omega

end RegisterField

/-! ## Pins -/

/-- The mask of one of the 64 pins. -/
def pinMask? (pin : UInt32) : Option UInt64 :=
  within pin.toNat 64 <| some (1 <<< pin.toUInt64)

lemma pinMask?_and (pin : UInt32) : pinMask? (pin &&& 63) = some (1 <<< (pin &&& 63).toUInt64) :=
  within_lowBits pin 6 rfl (Nat.le_refl _) _

/-- Pins count modulo 64. -/
lemma pinMask_and (pin : UInt32) : pinMask (pin &&& 63) = pinMask pin := by
  have low : (pin &&& 63).toNat = pin.toNat % 64 := toNat_lowBits pin 6 rfl
  apply UInt64.toNat_inj.mp
  rw [pinMask, pinMask, UInt64.toNat_shiftLeft, UInt64.toNat_shiftLeft, UInt32.toNat_toUInt64,
    UInt32.toNat_toUInt64, low, Nat.mod_mod]

/-- How a pin is driven from outside, with its mask. -/
def ExternalDrive.drive? (external : ExternalDrive) (pin : UInt32) (floating high : Bool) :
    Option ExternalDrive := do
  let mask ← pinMask? (pin &&& 63)
  let floatingPins :=
    if floating then external.floating ||| mask else external.floating &&& ~~~ mask
  let highPins :=
    if high && !floating then external.high ||| mask else external.high &&& ~~~ mask
  return {
    floating := floatingPins
    high := highPins
    changed := external.changed || floatingPins != external.floating || highPins != external.high }

lemma ExternalDrive.drive?_eq (external : ExternalDrive) (pin : UInt32) (floating high : Bool) :
    external.drive? pin floating high = some (external.drive pin floating high) := by
  have mask : pinMask? (pin &&& 63) = some (pinMask pin) :=
    (pinMask?_and pin).trans (congrArg some (pinMask_and pin))
  rw [drive?, mask]
  rfl

/-! ## Counters -/

/-- The mode in bits 30 to 26 of the control register, where conditions are looked up. -/
def CounterMode.ofControl? (control : UInt32) : Option CounterMode :=
  if control &&& 0x40000000 != 0 then logic <$> Condition.ofBits? (control >>> 26)
  else some (ofControl control)

lemma CounterMode.ofControl?_eq (control : UInt32) :
    ofControl? control = some (ofControl control) := by
  rw [ofControl?, Condition.ofBits?_eq]
  split
  · next named =>
    rw [ofControl, if_pos named]
    rfl
  · rfl

namespace Counter

variable {τ : Type} [Timebase τ]

/-- Writes the control register, if it names one of the dividers and two of the pins. -/
def setControl? (counter : Counter) (value : UInt32) (plls : PllPair τ) :
    Option (Counter × PllPair τ) := do
  let divider ← shifted? (· >>> ·) 128 ((value >>> 23) &&& 7)
  let maskA ← pinMask? (value &&& 63)
  let maskB ← pinMask? ((value >>> 9) &&& 63)
  let mode ← CounterMode.ofControl? value
  let counter :=
    { counter with control := value, mode, divider, maskA, maskB, outA := false, outB := false }
  let plls := plls.modify counter.channel fun pll =>
    let (pinsHigh, pinsLow) := counter.loopPins
    let pll := if counter.mode.isPll then pll.drivePins pinsHigh pinsLow else pll
    counter.driveLoop pll
  return (counter, plls)

lemma setControl?_eq (counter : Counter) (value : UInt32) (plls : PllPair τ) :
    counter.setControl? value plls = some (counter.setControl value plls) := by
  have divider : shifted? (· >>> ·) 128 ((value >>> 23) &&& 7)
      = some ((128 : UInt32) >>> ((value >>> 23) &&& 7)) := by
    refine if_pos (UInt32.lt_iff_toNat_lt.mpr ?_)
    exact Nat.lt_of_le_of_lt (Nat.and_le_right (m := 7)) (by decide)
  rw [setControl?, divider, pinMask?_and, pinMask?_and, CounterMode.ofControl?_eq]
  rfl

end Counter

end P1Chip
