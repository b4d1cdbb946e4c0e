import P1Chip.Bytecode.Access
import P1Chip.Bytecode.Update
import P1Chip.Spin.Machine

/-!
# Access to variables and registers

* `SpinMachine.operate`, `SpinMachine.assign` — operators on the stack and in assignments.
* `SpinMachine.update` — the new value of a variable that is updated in place.
* `SpinMachine.accessMemory`, `SpinMachine.accessVariable`, `SpinMachine.accessRegister` — what the
  bytecodes do with the places that they name.
-/

namespace P1Chip.SpinMachine

variable {τ : Type} [Timebase τ]

/-! ## Operators -/

/-- Applies an operator to the top of the stack: the right operand, or the only one, is popped
first. -/
def operate (machine : SpinMachine τ) (operator : Operator) : SpinMachine τ :=
  let (right, machine) := machine.pop
  match Spin.unary? operator right with
  | some result => machine.push result
  | none =>
    let (left, machine) := machine.pop
    machine.push (Spin.binary operator left right)

/-- Applies an operator to a variable's value, and to a popped right operand if it has one. -/
def assign (machine : SpinMachine τ) (operator : Operator) (before : UInt32) :
    UInt32 × SpinMachine τ :=
  match Spin.unary? operator before with
  | some result => (result, machine)
  | none =>
    let (right, machine) := machine.pop
    (Spin.binary operator before right, machine)

/-! ## Updates -/

/-- A counted loop goes one step from its start towards its end, which are popped, and branches
back unless it has passed the end. -/
def loopStep (machine : SpinMachine τ) (before : UInt32) : UInt32 × SpinMachine τ :=
  let (stop, machine) := machine.pop
  let (start, machine) := machine.pop
  let (offset, machine) := machine.branchOffset
  if stop.toInt32 < start.toInt32 then
    let value := before - 1
    (value, machine.branchIf (stop.toInt32 ≤ value.toInt32) offset)
  else
    let value := before + 1
    (value, machine.branchIf (value.toInt32 ≤ stop.toInt32) offset)

/-- A counted loop goes on by a stride, and branches back while it is between its bounds; end,
start and stride are popped. -/
def loopStride (machine : SpinMachine τ) (before : UInt32) : UInt32 × SpinMachine τ :=
  let (stop, machine) := machine.pop
  let (start, machine) := machine.pop
  let (stride, machine) := machine.pop
  let (offset, machine) := machine.branchOffset
  let (low, high) := if stop.toInt32 < start.toInt32 then (stop, start) else (start, stop)
  let value := before + stride
  let inside := low.toInt32 ≤ value.toInt32 && value.toInt32 ≤ high.toInt32
  (value, machine.branchIf inside offset)

/-- What an update yields, what it leaves in the variable, and the machine after it. -/
structure Updated (τ : Type) where
  result : UInt32
  stored : UInt32
  machine : SpinMachine τ

namespace Updated

/-- The update yields what it stores. -/
def same (outcome : UInt32 × SpinMachine τ) : Updated τ :=
  ⟨outcome.1, outcome.1, outcome.2⟩

end Updated

/-- Carries out an update on a value; there is none for a code without a meaning. -/
def applyUpdate (machine : SpinMachine τ) (update : Update) (before : UInt32) :
    Except UInt8 (Updated τ) :=
  match update with
  | .copy => .ok (.same machine.pop)
  | .assign operator => .ok (.same (machine.assign operator before))
  | .loopStep => .ok (.same (machine.loopStep before))
  | .loopStride => .ok (.same (machine.loopStride before))
  | .randomForward => .ok (.same (Spin.randomForward before, machine))
  | .randomReverse => .ok (.same (Spin.randomReverse before, machine))
  | .signExtendByte => .ok (.same (Spin.signExtendByte before, machine))
  | .signExtendWord => .ok (.same (Spin.signExtendWord before, machine))
  | .postClear => .ok ⟨before, 0, machine⟩
  | .postSet => .ok ⟨before, Word.ones, machine⟩
  | .preIncrement width => .ok (.same ((before + 1) &&& width.mask, machine))
  | .postIncrement width => .ok ⟨before, (before + 1) &&& width.mask, machine⟩
  | .preDecrement width => .ok (.same ((before - 1) &&& width.mask, machine))
  | .postDecrement width => .ok ⟨before, (before - 1) &&& width.mask, machine⟩
  | .undefined code => .error code

/-- Updates a value in place, as the next byte of the code says.  The result is pushed if that
byte asks for it, and the new value is given to `store`. -/
def update (machine : SpinMachine τ) (before : UInt32)
    (store : SpinMachine τ → UInt32 → SpinMachine τ) : SpinOutcome τ :=
  let pc := machine.body.pc
  let (byte, machine) := machine.nextByte
  let decoded := UpdateByte.decode byte
  match machine.applyUpdate decoded.update before with
  | .error code => machine.raise (.update code pc)
  | .ok updated =>
    let machine := if decoded.push then updated.machine.push updated.result else updated.machine
    (store machine updated.stored).done

/-! ## Places in hub memory -/

/-- Reads, writes or updates the value at an address of hub memory, or pushes the address. -/
def accessAt (machine : SpinMachine τ) (kind : AccessKind) (size : DataSize) (address : UInt32) :
    SpinOutcome τ :=
  match kind with
  | .push => (machine.push (machine.hub.read size address)).done
  | .pop =>
    let (value, machine) := machine.pop
    (machine.withMemory (·.write size address value)).done
  | .update =>
    machine.update (machine.hub.read size address) fun machine stored =>
      machine.withMemory (·.write size address stored)
  | .reference => (machine.push address).done

/-- The start of a space.  That of main memory is popped. -/
def spaceBase (machine : SpinMachine τ) (space : AddressSpace) : UInt32 × SpinMachine τ :=
  match space with
  | .main => machine.pop
  | .object => (machine.frames.object, machine)
  | .vars => (machine.frames.vars, machine)
  | .locals => (machine.frames.locals, machine)

/-- Accesses a place in hub memory: start of the space, packed offset and scaled index are added.
Main memory has no offset, and its start was pushed before the index. -/
def accessMemory (machine : SpinMachine τ) (access : MemoryAccess) : SpinOutcome τ :=
  match access.space with
  | .main =>
    let (index, machine) := if access.indexed then machine.pop else (0, machine)
    let (start, machine) := machine.pop
    machine.accessAt access.kind access.size (start + (index <<< access.size.shift))
  | space =>
    let (start, machine) := machine.spaceBase space
    let (offset, machine) := machine.variableOffset
    let (index, machine) := if access.indexed then machine.pop else (0, machine)
    machine.accessAt access.kind access.size (start + offset + (index <<< access.size.shift))

/-- Accesses one of the first longs of a frame. -/
def accessVariable (machine : SpinMachine τ) (access : VariableAccess) : SpinOutcome τ :=
  let start := if access.isLocal then machine.frames.locals else machine.frames.vars
  machine.accessAt access.kind .long (start + access.offset)

/-! ## Registers -/

/-- The bits of `value` in a field, put back into a register that held `current`. -/
def insertField (mask lowest current value : UInt32) : UInt32 :=
  (current &&& ~~~ mask) ||| ((value <<< lowest) &&& mask)

/-- Accesses the field `mask` of a register, whose lowest bit is `lowest`.  The next byte of the
code names the register and says what to do. -/
def accessRegister (machine : SpinMachine τ) (mask lowest : UInt32) : SpinOutcome τ :=
  let pc := machine.body.pc
  let (byte, machine) := machine.nextByte
  match RegisterAccess.decode? byte with
  | none => machine.raise (.registerAccess byte pc)
  | some access =>
    let current := machine.readRegister access.register
    let value := (current &&& mask) >>> lowest
    match access.kind with
    | .push => (machine.push value).done
    | .pop =>
      let (popped, machine) := machine.pop
      (machine.writeRegister access.register (insertField mask lowest current popped)).done
    | .update =>
      machine.update value fun machine stored =>
        machine.writeRegister access.register (insertField mask lowest current stored)
    | .reference => machine.raise (.registerAccess byte pc)

/-- Accesses the special register whose number is popped.  There are sixteen; a higher number does
nothing. -/
def accessSpecial (machine : SpinMachine τ) (kind : AccessKind) : SpinOutcome τ :=
  let (index, machine) := machine.pop
  if index < 16 then
    let register := SpecialRegister.par.address + index
    match kind with
    | .push => (machine.push (machine.readRegister register)).done
    | .pop =>
      let (value, machine) := machine.pop
      (machine.writeRegister register value).done
    | .update =>
      machine.update (machine.readRegister register) fun machine stored =>
        machine.writeRegister register stored
    | .reference => machine.done
  else
    machine.done

end P1Chip.SpinMachine
