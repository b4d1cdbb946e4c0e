import P1Chip.Bytecode.Family
import P1Chip.Memory.Block
import P1Chip.Spin.Call
import P1Chip.Spin.Update

/-!
# Carrying out a bytecode

* `SpinMachine.special` — the special operations.
* `SpinMachine.execute` — the next bytecode.
-/

namespace P1Chip.SpinMachine

variable {τ : Type} [Timebase τ]

/-! ## Loops, cases and lists -/

/-- Enters a loop: the popped count goes back onto the stack, or the loop is passed by if there is
nothing to count. -/
def loopEnter (machine : SpinMachine τ) : SpinMachine τ :=
  let (count, machine) := machine.pop
  let (offset, machine) := machine.branchOffset
  if count.toInt32 ≤ 0 then machine.branchIf true offset else machine.push count

/-- Counts a loop down, and goes back while there is something left. -/
def loopNext (machine : SpinMachine τ) : SpinMachine τ :=
  let (count, machine) := machine.pop
  let (offset, machine) := machine.branchOffset
  if 0 < (count - 1).toInt32 then (machine.branchIf true offset).push (count - 1) else machine

/-- Branches if the popped value is zero, or if it is not. -/
def branchOn (machine : SpinMachine τ) (zero : Bool) : SpinMachine τ :=
  let (value, machine) := machine.pop
  let (offset, machine) := machine.branchOffset
  machine.branchIf ((value == 0) == zero) offset

/-- Branches if two popped values are equal; the second one stays on the stack. -/
def caseValue (machine : SpinMachine τ) : SpinMachine τ :=
  let (candidate, machine) := machine.pop
  let (value, machine) := machine.pop
  let (offset, machine) := machine.branchOffset
  (machine.branchIf (candidate == value) offset).push value

/-- Branches if a value is between two bounds, in either order; all three are popped and the value
stays on the stack.  They are compared as unsigned numbers. -/
def caseRange (machine : SpinMachine τ) : SpinMachine τ :=
  let (second, machine) := machine.pop
  let (first, machine) := machine.pop
  let (value, machine) := machine.pop
  let (offset, machine) := machine.branchOffset
  let (low, high) := if second < first then (second, first) else (first, second)
  (machine.branchIf (low ≤ value && value ≤ high) offset).push value

/-- The state of a search through a list, on the stack: the number of the first element, the
address after the list, and the index or value that is looked for. -/
structure ListSearch where
  base : UInt32
  jump : UInt32
  key : UInt32

/-- Takes the state of a search from the stack. -/
def popSearch (machine : SpinMachine τ) : ListSearch × SpinMachine τ :=
  let (key, machine) := machine.pop
  let (jump, machine) := machine.pop
  let (base, machine) := machine.pop
  (⟨base, jump, key⟩, machine)

/-- Goes on searching. -/
def pushSearch (machine : SpinMachine τ) (search : ListSearch) : SpinMachine τ :=
  ((machine.push search.base).push search.jump).push search.key

/-- Ends a search, with what was found. -/
def foundAt (machine : SpinMachine τ) (search : ListSearch) (value : UInt32) : SpinMachine τ :=
  (machine.jumpInObject search.jump).push value

/-- The next value of a list that is looked up by index. -/
def lookupValue (machine : SpinMachine τ) : SpinMachine τ :=
  let (value, machine) := machine.pop
  let (search, machine) := machine.popSearch
  if search.key = search.base then machine.foundAt search value
  else machine.pushSearch { search with key := search.key - 1 }

/-- The next value of a list that is searched for a value. -/
def lookdownValue (machine : SpinMachine τ) : SpinMachine τ :=
  let (value, machine) := machine.pop
  let (search, machine) := machine.popSearch
  if search.key = value then machine.foundAt search search.base
  else machine.pushSearch { search with base := search.base + 1 }

/-- The next range of a list that is looked up by index.  Its values run from the first bound to
the second, upwards or downwards. -/
def lookupRange (machine : SpinMachine τ) : SpinMachine τ :=
  let (last, machine) := machine.pop
  let (first, machine) := machine.pop
  let (search, machine) := machine.popSearch
  let (size, found) :=
    if first.toInt32 < last.toInt32 then
      (last - first + 1, first + search.key - search.base)
    else
      (first - last + 1, first - search.key - search.base)
  if search.key.toInt32 < size.toInt32 then machine.foundAt search found
  else machine.pushSearch { search with key := search.key - size }

/-- The next range of a list that is searched for a value. -/
def lookdownRange (machine : SpinMachine τ) : SpinMachine τ :=
  let (last, machine) := machine.pop
  let (first, machine) := machine.pop
  let (search, machine) := machine.popSearch
  let (low, high) := if first.toInt32 < last.toInt32 then (first, last) else (last, first)
  if low.toInt32 ≤ search.key.toInt32 && search.key.toInt32 ≤ high.toInt32 then
    machine.foundAt search (search.key - low + search.base)
  else
    machine.pushSearch { search with base := search.base + (high - low + 1) }

/-! ## Strings and blocks -/

/-- Replaces an address on the stack by the size of the string there. -/
def stringSize (machine : SpinMachine τ) : SpinMachine τ :=
  let (address, machine) := machine.pop
  machine.push (machine.hub.memory.stringSize address)

/-- Replaces two addresses on the stack by whether the strings there are equal. -/
def stringCompare (machine : SpinMachine τ) : SpinMachine τ :=
  let (a, machine) := machine.pop
  let (b, machine) := machine.pop
  machine.push (Word.ofBool (machine.hub.memory.stringsEqual a b))

/-- Fills memory.  Count, value and destination are popped. -/
def fill (machine : SpinMachine τ) (size : DataSize) : SpinMachine τ :=
  let (count, machine) := machine.pop
  let (value, machine) := machine.pop
  let (destination, machine) := machine.pop
  machine.withMemory (Memory.fill size value (blockCount count) destination)

/-- Copies memory.  Count, source and destination are popped. -/
def move (machine : SpinMachine τ) (size : DataSize) : SpinMachine τ :=
  let (count, machine) := machine.pop
  let (source, machine) := machine.pop
  let (destination, machine) := machine.pop
  machine.withMemory (Memory.move size (blockCount count) source destination)

/-! ## Waits -/

/-- Waits for the pins.  The half of the pins, the mask and the levels are popped. -/
def waitPins (machine : SpinMachine τ) (equal : Bool) : SpinMachine τ :=
  let (half, machine) := machine.pop
  let (mask, machine) := machine.pop
  let (target, machine) := machine.pop
  (machine.withFrames fun frames =>
    { frames with wait := { frames.wait with upperHalf := half != 0, mask, target } }).waitFor
    (if equal then .pinsEqual else .pinsNotEqual)

/-- Waits for the popped value of the system counter. -/
def waitCount (machine : SpinMachine τ) : SpinMachine τ :=
  let (target, machine) := machine.pop
  (machine.withFrames fun frames => { frames with wait := { frames.wait with target } }).waitFor
    .count

/-- Waits until the video generator takes the popped pixels and colors. -/
def waitVideo (machine : SpinMachine τ) : SpinMachine τ :=
  let (pixels, machine) := machine.pop
  let (colors, machine) := machine.pop
  (machine.withFrames fun frames =>
    { frames with wait := { frames.wait with pixels, colors } }).waitFor .video

/-! ## Requests to the hub -/

/-- Sets the clock: frequency and mode are popped, and written where programs look for them. -/
def setClock (machine : SpinMachine τ) : SpinMachine τ :=
  let (frequency, machine) := machine.pop
  let (mode, machine) := machine.pop
  let machine := machine.withMemory fun memory =>
    (memory.writeLong 0 frequency).writeByte 4 mode.toUInt8
  (machine.service .setClock (mode &&& 0xFF)).2

/-- Asks the hub for a service whose argument is popped and whose answer is not used. -/
def serviceOf (machine : SpinMachine τ) (operation : HubOperation) : SpinMachine τ :=
  let (argument, machine) := machine.pop
  (machine.service operation argument).2

/-- Sets or clears the popped lock.  The result is whether it was set before. -/
def lockService (machine : SpinMachine τ) (operation : HubOperation) (push : Bool) :
    SpinMachine τ :=
  let (lock, machine) := machine.pop
  let (answer, machine) := machine.service operation lock
  if push then machine.push (Word.ofBool answer.carry) else machine

/-- Pushes the value of an answer, if it is asked for. -/
def pushAnswer (answered : HubAnswer × SpinMachine τ) (push : Bool) : SpinMachine τ :=
  if push then answered.2.push answered.1.value else answered.2

/-! ## Constants and fields of registers -/

/-- Takes a constant of so many bytes from the code, the highest first; `value` was taken
before. -/
def takeLiteral : Nat → UInt32 → SpinMachine τ → UInt32 × SpinMachine τ
  | 0, value, machine => (value, machine)
  | count + 1, value, machine =>
    let (byte, machine) := machine.nextByte
    takeLiteral count ((value <<< 8) ||| byte.toUInt32) machine

/-- Pushes a constant of so many bytes. -/
def pushLiteral (machine : SpinMachine τ) (bytes : Nat) : SpinMachine τ :=
  let (value, machine) := takeLiteral bytes 0 machine
  machine.push value

/-- Pushes the constant packed in the next byte. -/
def pushPacked (machine : SpinMachine τ) : SpinMachine τ :=
  let (byte, machine) := machine.nextByte
  machine.push (Spin.packedConstant byte)

/-- The number of a bit: values outside of 0 to 31 become the nearest one. -/
def bitNumber (value : UInt32) : UInt32 :=
  if value.toInt32 < 0 then 0 else if value < 31 then value else 31

/-- The bits from `low` to `high`. -/
def bitRange (low high : UInt32) : UInt32 :=
  ((((1 : UInt64) <<< (high - low + 1).toUInt64) - 1) <<< low.toUInt64).toUInt32

/-- Accesses the popped bit of a register. -/
def accessBit (machine : SpinMachine τ) : SpinOutcome τ :=
  let (number, machine) := machine.pop
  let bit := number &&& 31
  machine.accessRegister (bitRange bit bit) bit

/-- Accesses the bits of a register between two popped ones, in either order. -/
def accessBits (machine : SpinMachine τ) : SpinOutcome τ :=
  let (first, machine) := machine.pop
  let (second, machine) := machine.pop
  let first := bitNumber first
  let second := bitNumber second
  let (low, high) := if second < first then (second, first) else (first, second)
  machine.accessRegister (bitRange low high) low

/-! ## Bytecodes -/

/-- Carries out a special operation, whose bytecode stands at `pc`. -/
def special (machine : SpinMachine τ) (operation : SpecialOp) (pc : UInt32) : SpinOutcome τ :=
  match operation with
  | .openFrame kind => (machine.openFrame kind).done
  | .branch =>
    let (offset, machine) := machine.branchOffset
    (machine.branchIf true offset).done
  | .call target => machine.call target pc
  | .loopEnter => machine.loopEnter.done
  | .loopNext => machine.loopNext.done
  | .branchIfZero => (machine.branchOn true).done
  | .branchIfNonzero => (machine.branchOn false).done
  | .caseDone =>
    let (target, machine) := machine.pop.2.pop
    (machine.jumpInObject target).done
  | .caseValue => machine.caseValue.done
  | .caseRange => machine.caseRange.done
  | .listDone => (machine.popSearch.2.push Word.ones).done
  | .lookupValue => machine.lookupValue.done
  | .lookdownValue => machine.lookdownValue.done
  | .lookupRange => machine.lookupRange.done
  | .lookdownRange => machine.lookdownRange.done
  | .methodStart => (machine.withFrames ({ · with startsMethod := true })).done
  | .stringSize => machine.stringSize.done
  | .stringCompare => machine.stringCompare.done
  | .fill size => (machine.fill size).done
  | .move size => (machine.move size).done
  | .waitPins equal => (machine.waitPins equal).done
  | .waitCount => machine.waitCount.done
  | .waitVideo => machine.waitVideo.done
  | .setClock => machine.setClock.done
  | .stopCog => (machine.serviceOf .stopCog).done
  | .returnLock => (machine.serviceOf .returnLock).done
  | .startCog push => (pushAnswer machine.startCog push).done
  | .newLock push => (pushAnswer (machine.service .newLock 0) push).done
  | .setLock push => (machine.lockService .setLock push).done
  | .clearLock push => (machine.lockService .clearLock push).done
  | .specialRegister kind => machine.accessSpecial kind
  | .leave abort true =>
    let (value, machine) := machine.pop
    (machine.leave value abort).done
  | .leave abort false =>
    (machine.leave (machine.hub.memory.readLong machine.frames.locals) abort).done
  | .constant value => (machine.push value).done
  | .packedConstant => machine.pushPacked.done
  | .literal bytes => (machine.pushLiteral bytes).done
  | .registerBit => machine.accessBit
  | .registerBits => machine.accessBits
  | .register => machine.accessRegister Word.ones 0

/-- Carries out the next bytecode. -/
def execute (machine : SpinMachine τ) : SpinOutcome τ :=
  let pc := machine.body.pc
  let (code, machine) := machine.nextByte
  match BytecodeFamily.classify code with
  | .operator operator => (machine.operate operator).done
  | .memory access => machine.accessMemory access
  | .variable access => machine.accessVariable access
  | .special code =>
    match SpecialOp.decode? code with
    | some operation => machine.special operation pc
    | none => machine.raise (.bytecode code pc)

end P1Chip.SpinMachine
