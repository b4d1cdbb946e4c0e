import P1Chip.Proofs.Raw.Native
import P1Chip.Spin.Update

/-!
# The bytecode machine with plain numbers

The machine on the parts of a cog and a hub with plain numbers.  It gives up if it is refused
something: bytes of code, longs on the stack and variables in hub memory, registers and fields of
registers, and the steps of operators.

* `RawMachine` — the machine.
* `SpinMachine.raw` — a machine with its numbers written out.
* `RawMachine.push?`, `RawMachine.pop?`, `RawMachine.nextByte?` — the stack and the code.
* `RawMachine.operate?`, `RawMachine.update?` — operators and updates.
* `RawMachine.accessMemory?`, `RawMachine.accessRegister?` — variables and registers.
* **`SpinMachine.operate?_raw`**, **`SpinMachine.accessMemory?_raw`**,
  **`SpinMachine.accessRegister?_raw`** — nothing is refused.
-/

namespace P1Chip

open Word

/-- An interpreted cog and the hub, with plain numbers. -/
structure RawMachine (τ : Type) where
  frames : SpinFrames
  body : RawBody τ
  hub : RawHub
deriving Inhabited

/-- The machine after an operation, and the fault that was raised, if any. -/
structure RawOutcome (τ : Type) where
  machine : RawMachine τ
  fault? : Option FaultKind
deriving Inhabited

variable {τ : Type}

/-- The machine with its numbers written out. -/
def SpinMachine.raw (machine : SpinMachine τ) (run : RunFields) : RawMachine τ where
  frames := machine.frames
  body := machine.body.raw run
  hub := machine.hub.raw

def SpinOutcome.raw (outcome : SpinOutcome τ) (run : RunFields) : RawOutcome τ where
  machine := outcome.machine.raw run
  fault? := outcome.fault?

namespace RawMachine

variable (machine : RawMachine τ)

/-- The operation is finished. -/
def done : RawOutcome τ :=
  ⟨machine, none⟩

/-- The operation raised a fault. -/
def raise (fault : FaultKind) : RawOutcome τ :=
  ⟨machine, some fault⟩

/-- The memory of the hub. -/
def memory : Memory :=
  machine.hub.shared.memory

def withMemory? (change : Memory → Option Memory) : Option (RawMachine τ) := do
  return { machine with hub := ← machine.hub.withMemory? change }

def withFrames (change : SpinFrames → SpinFrames) : RawMachine τ :=
  { machine with frames := change machine.frames }

def withPc (pc : UInt32) : RawMachine τ :=
  { machine with body := machine.body.withPc pc }

def withStack (stack : UInt32) : RawMachine τ :=
  machine.withFrames ({ · with stack })

/-- The machine with other fields of the run state. -/
def withRun (run : RunFields) : RawMachine τ :=
  { machine with body := machine.body.withRun run }

/-! ## The stack -/

def push? (value : UInt32) : Option (RawMachine τ) := do
  let stack := machine.frames.stack
  return (← machine.withMemory? (·.writeLong? stack value)).withStack (stack + 4)

def pop? : Option (UInt32 × RawMachine τ) := do
  let stack := machine.frames.stack - 4
  return (← machine.memory.readLong? stack, machine.withStack stack)

def pushWord? (value : UInt32) : Option (RawMachine τ) := do
  let stack := machine.frames.stack
  return (← machine.withMemory? (·.writeWord? stack value.toUInt16)).withStack (stack + 2)

def popWord? : Option (UInt32 × RawMachine τ) := do
  let stack := machine.frames.stack - 2
  return ((← machine.memory.readWord? stack).toUInt32, machine.withStack stack)

/-! ## The code -/

def nextByte? : Option (UInt8 × RawMachine τ) := do
  let pc := machine.body.parts.pc
  return (← machine.memory.readByte? pc, machine.withPc (pc + 1))

def nextOffset? (value : UInt8 → UInt8 → UInt32) : Option (UInt32 × RawMachine τ) := do
  let pc := machine.body.parts.pc
  let first ← machine.memory.readByte? pc
  let second ← machine.memory.readByte? (pc + 1)
  return (value first second, machine.withPc (pc + PackedOffset.size first))

def branchOffset? : Option (UInt32 × RawMachine τ) :=
  machine.nextOffset? PackedOffset.signed

def variableOffset? : Option (UInt32 × RawMachine τ) :=
  machine.nextOffset? PackedOffset.unsigned

def branchIf (taken : Bool) (offset : UInt32) : RawMachine τ :=
  if taken then machine.withPc (machine.body.parts.pc + offset) else machine

def jumpInObject (offset : UInt32) : RawMachine τ :=
  machine.withPc (offset + machine.frames.object)

/-- Waits for something, with the count of the last state. -/
def waitFor (mode : RunMode) : RawMachine τ :=
  machine.withRun (machine.body.run.withMode mode)

/-! ## Registers and the hub -/

def readRegister? (address : UInt32) : Option UInt32 :=
  machine.body.readRegister? machine.hub address

def writeRegister? [Timebase τ] (address value : UInt32) : Option (RawMachine τ) := do
  return { machine with
    body := ← machine.body.writeRegister? machine.hub.shared.running address value }

def service? (operation : HubOperation) (argument : UInt32) :
    Option (HubAnswer × RawMachine τ) := do
  let (answer, hub) ← machine.hub.execute? machine.body.parts.id operation argument
  return (answer, { machine with hub })

/-! ## Operators -/

/-- Applies an operator to the top of the stack. -/
def operate? (operator : Operator) : Option (RawMachine τ) := do
  let (right, machine) ← machine.pop?
  if operator.isUnary then
    machine.push? (← Spin.stepwise? operator right 0)
  else
    let (left, machine) ← machine.pop?
    machine.push? (← Spin.stepwise? operator left right)

/-- Applies an operator to a variable's value. -/
def assign? (operator : Operator) (before : UInt32) : Option (UInt32 × RawMachine τ) := do
  if operator.isUnary then
    return (← Spin.stepwise? operator before 0, machine)
  else
    let (right, machine) ← machine.pop?
    return (← Spin.stepwise? operator before right, machine)

/-! ## Updates -/

def loopStep? (before : UInt32) : Option (UInt32 × RawMachine τ) := do
  let (stop, machine) ← machine.pop?
  let (start, machine) ← machine.pop?
  let (offset, machine) ← machine.branchOffset?
  if stop.toInt32 < start.toInt32 then
    let value := before - 1
    return (value, machine.branchIf (stop.toInt32 ≤ value.toInt32) offset)
  else
    let value := before + 1
    return (value, machine.branchIf (value.toInt32 ≤ stop.toInt32) offset)

def loopStride? (before : UInt32) : Option (UInt32 × RawMachine τ) := do
  let (stop, machine) ← machine.pop?
  let (start, machine) ← machine.pop?
  let (stride, machine) ← machine.pop?
  let (offset, machine) ← machine.branchOffset?
  let (low, high) := if stop.toInt32 < start.toInt32 then (stop, start) else (start, stop)
  let value := before + stride
  let inside := low.toInt32 ≤ value.toInt32 && value.toInt32 ≤ high.toInt32
  return (value, machine.branchIf inside offset)

/-- What an update yields, what it leaves in the variable, and the machine after it. -/
structure Updated (τ : Type) where
  result : UInt32
  stored : UInt32
  machine : RawMachine τ

/-- The update yields what it stores. -/
def Updated.same (outcome : UInt32 × RawMachine τ) : Updated τ :=
  ⟨outcome.1, outcome.1, outcome.2⟩

/-- Carries out an update on a value; there is none for a code without a meaning. -/
def applyUpdate? (update : Update) (before : UInt32) : Option (Except UInt8 (Updated τ)) :=
  match update with
  | .copy => do return .ok (.same (← machine.pop?))
  | .assign operator => do return .ok (.same (← machine.assign? operator before))
  | .loopStep => do return .ok (.same (← machine.loopStep? before))
  | .loopStride => do return .ok (.same (← machine.loopStride? before))
  | .randomForward => some (.ok (.same (Spin.randomForward before, machine)))
  | .randomReverse => some (.ok (.same (Spin.randomReverse before, machine)))
  | .signExtendByte => some (.ok (.same (Spin.signExtendByte before, machine)))
  | .signExtendWord => some (.ok (.same (Spin.signExtendWord before, machine)))
  | .postClear => some (.ok ⟨before, 0, machine⟩)
  | .postSet => some (.ok ⟨before, ones, machine⟩)
  | .preIncrement width => some (.ok (.same ((before + 1) &&& width.mask, machine)))
  | .postIncrement width => some (.ok ⟨before, (before + 1) &&& width.mask, machine⟩)
  | .preDecrement width => some (.ok (.same ((before - 1) &&& width.mask, machine)))
  | .postDecrement width => some (.ok ⟨before, (before - 1) &&& width.mask, machine⟩)
  | .undefined code => some (.error code)

/-- Updates a value in place, as the next byte of the code says. -/
def update? (before : UInt32) (store? : RawMachine τ → UInt32 → Option (RawMachine τ)) :
    Option (RawOutcome τ) := do
  let pc := machine.body.parts.pc
  let (byte, machine) ← machine.nextByte?
  let decoded ← UpdateByte.decode? byte
  match ← machine.applyUpdate? decoded.update before with
  | .error code => return machine.raise (.update code pc)
  | .ok updated =>
    let machine ←
      if decoded.push then updated.machine.push? updated.result else some updated.machine
    return (← store? machine updated.stored).done

/-! ## Places in hub memory -/

/-- Reads, writes or updates the value at an address of hub memory, or pushes the address. -/
def accessAt? (kind : AccessKind) (size : DataSize) (address : UInt32) :
    Option (RawOutcome τ) :=
  match kind with
  | .push => do
    return (← machine.push? (← machine.memory.read? size address)).done
  | .pop => do
    let (value, machine) ← machine.pop?
    return (← machine.withMemory? (·.write? size address value)).done
  | .update => do
    machine.update? (← machine.memory.read? size address) fun machine stored =>
      machine.withMemory? (·.write? size address stored)
  | .reference => do
    return (← machine.push? address).done

/-- The start of a space.  That of main memory is popped. -/
def spaceBase? (space : AddressSpace) : Option (UInt32 × RawMachine τ) :=
  match space with
  | .main => machine.pop?
  | .object => some (machine.frames.object, machine)
  | .vars => some (machine.frames.vars, machine)
  | .locals => some (machine.frames.locals, machine)

/-- The index of an access, which is popped if there is one. -/
def popIndex? (indexed : Bool) : Option (UInt32 × RawMachine τ) :=
  if indexed then machine.pop? else some (0, machine)

/-- Accesses a place in hub memory; the index is scaled by a shift. -/
def accessMemory? (access : MemoryAccess) : Option (RawOutcome τ) :=
  match access.space with
  | .main => do
    let (index, machine) ← machine.popIndex? access.indexed
    let (start, machine) ← machine.pop?
    let distance ← Spin.shifted? (· <<< ·) index access.size.shift
    machine.accessAt? access.kind access.size (start + distance)
  | space => do
    let (start, machine) ← machine.spaceBase? space
    let (offset, machine) ← machine.variableOffset?
    let (index, machine) ← machine.popIndex? access.indexed
    let distance ← Spin.shifted? (· <<< ·) index access.size.shift
    machine.accessAt? access.kind access.size (start + offset + distance)

/-- Accesses one of the first longs of a frame. -/
def accessVariable? (access : VariableAccess) : Option (RawOutcome τ) :=
  let start := if access.isLocal then machine.frames.locals else machine.frames.vars
  machine.accessAt? access.kind .long (start + access.offset)

/-! ## Registers -/

/-- Accesses the field `mask` of a register, whose lowest bit is `lowest`. -/
def accessRegister? [Timebase τ] (mask lowest : UInt32) : Option (RawOutcome τ) := do
  let pc := machine.body.parts.pc
  let (byte, machine) ← machine.nextByte?
  match RegisterAccess.decode? byte with
  | none => return machine.raise (.registerAccess byte pc)
  | some access =>
    let current ← machine.readRegister? access.register
    match access.kind with
    | .push =>
      return (← machine.push? (← Spin.fieldValue? mask lowest current)).done
    | .pop =>
      let (popped, machine) ← machine.pop?
      let value ← Spin.insertField? mask lowest current popped
      return (← machine.writeRegister? access.register value).done
    | .update =>
      machine.update? (← Spin.fieldValue? mask lowest current) fun machine stored => do
        machine.writeRegister? access.register (← Spin.insertField? mask lowest current stored)
    | .reference => return machine.raise (.registerAccess byte pc)

/-- Accesses the special register whose number is popped, if there is one. -/
def accessSpecial? [Timebase τ] (kind : AccessKind) : Option (RawOutcome τ) := do
  let (index, machine) ← machine.pop?
  if index < 16 then
    let register := SpecialRegister.par.address + index
    match kind with
    | .push => return (← machine.push? (← machine.readRegister? register)).done
    | .pop =>
      let (value, machine) ← machine.pop?
      return (← machine.writeRegister? register value).done
    | .update =>
      machine.update? (← machine.readRegister? register) fun machine stored =>
        machine.writeRegister? register stored
    | .reference => return machine.done
  else
    return machine.done

end RawMachine

/-! ## Nothing is refused -/

namespace SpinMachine

variable (machine : SpinMachine τ) (run : RunFields)

@[simp]
lemma raw_frames : (machine.raw run).frames = machine.frames :=
  rfl

@[simp]
lemma raw_memory : (machine.raw run).memory = machine.hub.memory :=
  rfl

@[simp]
lemma raw_body : (machine.raw run).body = machine.body.raw run :=
  rfl

@[simp]
lemma raw_pc : (machine.raw run).body.parts.pc = machine.body.pc :=
  rfl

lemma withMemory?_raw {change? : Memory → Option Memory} {change : Memory → Memory}
    (changed : ∀ memory, change? memory = some (change memory)) :
    (machine.raw run).withMemory? change? = some ((machine.withMemory change).raw run) := by
  rw [RawMachine.withMemory?, raw, machine.hub.withMemory?_raw changed]
  rfl

/-! ### Stack and code -/

lemma push?_raw (value : UInt32) :
    (machine.raw run).push? value = some ((machine.push value).raw run) := by
  simp only [RawMachine.push?, raw_frames, machine.withMemory?_raw run (·.writeLong?_eq _ _),
    Option.bind_eq_bind, Option.bind_some]
  rfl

lemma pop?_raw : (machine.raw run).pop? = some (machine.pop.1, machine.pop.2.raw run) := by
  simp only [RawMachine.pop?, raw_frames, raw_memory, Memory.readLong?_eq, Option.bind_eq_bind,
    Option.bind_some]
  rfl

lemma pushWord?_raw (value : UInt32) :
    (machine.raw run).pushWord? value = some ((machine.pushWord value).raw run) := by
  simp only [RawMachine.pushWord?, raw_frames, machine.withMemory?_raw run (·.writeWord?_eq _ _),
    Option.bind_eq_bind, Option.bind_some]
  rfl

lemma popWord?_raw :
    (machine.raw run).popWord? = some (machine.popWord.1, machine.popWord.2.raw run) := by
  simp only [RawMachine.popWord?, raw_frames, raw_memory, Memory.readWord?_eq,
    Option.bind_eq_bind, Option.bind_some]
  rfl

lemma nextByte?_raw :
    (machine.raw run).nextByte? = some (machine.nextByte.1, machine.nextByte.2.raw run) := by
  simp only [RawMachine.nextByte?, raw_pc, raw_memory, Memory.readByte?_eq, Option.bind_eq_bind,
    Option.bind_some]
  rfl

lemma branchOffset?_raw :
    (machine.raw run).branchOffset?
      = some (machine.branchOffset.1, machine.branchOffset.2.raw run) := by
  simp only [RawMachine.branchOffset?, RawMachine.nextOffset?, raw_pc, raw_memory,
    Memory.readByte?_eq, Option.bind_eq_bind, Option.bind_some]
  rfl

lemma variableOffset?_raw :
    (machine.raw run).variableOffset?
      = some (machine.variableOffset.1, machine.variableOffset.2.raw run) := by
  simp only [RawMachine.variableOffset?, RawMachine.nextOffset?, raw_pc, raw_memory,
    Memory.readByte?_eq, Option.bind_eq_bind, Option.bind_some]
  rfl

lemma branchIf_raw (taken : Bool) (offset : UInt32) :
    (machine.raw run).branchIf taken offset = (machine.branchIf taken offset).raw run := by
  rw [branchIf, apply_ite (raw · run)]
  rfl

/-! ### Registers and the hub -/

lemma readRegister?_raw (address : UInt32) :
    (machine.raw run).readRegister? address = some (machine.readRegister address) :=
  machine.body.readRegister?_raw run machine.hub address

lemma writeRegister?_raw [Timebase τ] (address value : UInt32) :
    (machine.raw run).writeRegister? address value
      = some ((machine.writeRegister address value).raw run) := by
  have written := machine.body.writeRegister?_raw run machine.hub.running address value
  exact congrArg (·.bind fun body => some { machine.raw run with body }) written

lemma service?_raw (operation : HubOperation) (argument : UInt32) :
    (machine.raw run).service? operation argument
      = some ((machine.service operation argument).1,
          (machine.service operation argument).2.raw run) := by
  have served := machine.hub.execute?_raw machine.body.id operation argument
  exact congrArg (·.bind fun answered =>
    some (answered.1, { machine.raw run with hub := answered.2 })) served

/-! ### Operators -/

/-- Operators with one operand are those for which the machine does not look for another one. -/
lemma unary?_eq_ite (operator : Operator) (value : UInt32) :
    Spin.unary? operator value
      = if operator.isUnary then some (Spin.binary operator value 0) else none := by
  cases operator <;>
    simp only [Spin.unary?, Spin.binary, Operator.isUnary, Option.getD_some, if_true] <;> rfl

lemma operate?_raw (operator : Operator) :
    (machine.raw run).operate? operator = some ((machine.operate operator).raw run) := by
  simp only [RawMachine.operate?, pop?_raw, Spin.stepwise?_eq, push?_raw, Option.bind_eq_bind,
    Option.bind_some, operate, unary?_eq_ite]
  cases operator.isUnary <;> rfl

lemma assign?_raw (operator : Operator) (before : UInt32) :
    (machine.raw run).assign? operator before
      = some ((machine.assign operator before).1, (machine.assign operator before).2.raw run) := by
  simp only [RawMachine.assign?, pop?_raw, Spin.stepwise?_eq, Option.bind_eq_bind,
    Option.bind_some, assign, unary?_eq_ite]
  cases operator.isUnary <;> rfl

/-! ### Updates -/

lemma loopStep?_raw (before : UInt32) :
    (machine.raw run).loopStep? before
      = some ((machine.loopStep before).1, (machine.loopStep before).2.raw run) := by
  simp only [RawMachine.loopStep?, pop?_raw, branchOffset?_raw, branchIf_raw, Option.bind_eq_bind,
    Option.bind_some, loopStep]
  split <;> rfl

lemma loopStride?_raw (before : UInt32) :
    (machine.raw run).loopStride? before
      = some ((machine.loopStride before).1, (machine.loopStride before).2.raw run) := by
  simp only [RawMachine.loopStride?, pop?_raw, branchOffset?_raw, branchIf_raw,
    Option.bind_eq_bind, Option.bind_some]
  rfl

/-- An update with its numbers written out. -/
def Updated.raw (updated : Updated τ) (run : RunFields) : RawMachine.Updated τ :=
  ⟨updated.result, updated.stored, updated.machine.raw run⟩

lemma applyUpdate?_raw (update : Update) (before : UInt32) :
    (machine.raw run).applyUpdate? update before
      = some ((machine.applyUpdate update before).map (Updated.raw · run)) := by
  cases update with
  | copy =>
    simp only [RawMachine.applyUpdate?, pop?_raw]
    rfl
  | assign operator =>
    simp only [RawMachine.applyUpdate?, assign?_raw]
    rfl
  | loopStep =>
    simp only [RawMachine.applyUpdate?, loopStep?_raw]
    rfl
  | loopStride =>
    simp only [RawMachine.applyUpdate?, loopStride?_raw]
    rfl
  | _ => rfl

lemma update?_raw {before : UInt32} {store? : RawMachine τ → UInt32 → Option (RawMachine τ)}
    {store : SpinMachine τ → UInt32 → SpinMachine τ}
    (stores : ∀ machine stored, store? (machine.raw run) stored
      = some ((store machine stored).raw run)) :
    (machine.raw run).update? before store? = some ((machine.update before store).raw run) := by
  simp only [RawMachine.update?, nextByte?_raw, UpdateByte.decode?_eq, applyUpdate?_raw,
    Option.bind_eq_bind, Option.bind_some, update]
  cases machine.nextByte.2.applyUpdate (UpdateByte.decode machine.nextByte.1).update before with
  | error code => rfl
  | ok updated =>
    have pushed := updated.machine.push?_raw run updated.result
    cases (UpdateByte.decode machine.nextByte.1).push with
    | true =>
      simp only [Except.map, Updated.raw, if_true, pushed, stores, Option.bind_some]
      rfl
    | false =>
      simp only [Except.map, Updated.raw, Bool.false_eq_true, if_false, stores, Option.bind_some]
      rfl

/-! ### Places in hub memory -/

lemma accessAt?_raw (kind : AccessKind) (size : DataSize) (address : UInt32) :
    (machine.raw run).accessAt? kind size address
      = some ((machine.accessAt kind size address).raw run) := by
  have stores (value : UInt32) (machine : SpinMachine τ) :
      (machine.raw run).withMemory? (·.write? size address value)
        = some ((machine.withMemory (·.write size address value)).raw run) :=
    machine.withMemory?_raw run (·.write?_eq _ _ _)
  cases kind with
  | push =>
    simp only [RawMachine.accessAt?, raw_memory, Memory.read?_eq, push?_raw, Option.bind_eq_bind,
      Option.bind_some]
    rfl
  | pop =>
    simp only [RawMachine.accessAt?, pop?_raw, stores, Option.bind_eq_bind, Option.bind_some]
    rfl
  | update =>
    simp only [RawMachine.accessAt?, raw_memory, Memory.read?_eq, Option.bind_eq_bind,
      Option.bind_some]
    exact machine.update?_raw run fun machine stored => stores stored machine
  | reference =>
    simp only [RawMachine.accessAt?, push?_raw, Option.bind_eq_bind, Option.bind_some]
    rfl

lemma popIndex?_raw (indexed : Bool) :
    (machine.raw run).popIndex? indexed
      = some ((if indexed then machine.pop else (0, machine)).1,
          (if indexed then machine.pop else (0, machine)).2.raw run) := by
  cases indexed with
  | true => exact machine.pop?_raw run
  | false => rfl

lemma spaceBase?_raw (space : AddressSpace) :
    (machine.raw run).spaceBase? space
      = some ((machine.spaceBase space).1, (machine.spaceBase space).2.raw run) := by
  cases space with
  | main => exact machine.pop?_raw run
  | _ => rfl

/-- **A variable** is found wherever it is. -/
theorem accessMemory?_raw (access : MemoryAccess) :
    (machine.raw run).accessMemory? access = some ((machine.accessMemory access).raw run) := by
  rw [RawMachine.accessMemory?, accessMemory]
  cases access.space with
  | main =>
    simp only [popIndex?_raw, pop?_raw, Spin.shifted?_shift, accessAt?_raw, Option.bind_eq_bind,
      Option.bind_some]
  | _ =>
    simp only [popIndex?_raw, spaceBase?_raw, variableOffset?_raw, Spin.shifted?_shift,
      accessAt?_raw, Option.bind_eq_bind, Option.bind_some]

lemma accessVariable?_raw (access : VariableAccess) :
    (machine.raw run).accessVariable? access = some ((machine.accessVariable access).raw run) :=
  machine.accessAt?_raw run ..

/-! ### Registers -/

variable [Timebase τ]

/-- **A field of a register** is found by shifts of fewer places than a word has. -/
theorem accessRegister?_raw (mask : UInt32) {lowest : UInt32} (low : lowest < 32) :
    (machine.raw run).accessRegister? mask lowest
      = some ((machine.accessRegister mask lowest).raw run) := by
  simp only [RawMachine.accessRegister?, accessRegister, nextByte?_raw, Option.bind_eq_bind,
    Option.bind_some]
  cases RegisterAccess.decode? machine.nextByte.1 with
  | none => rfl
  | some access =>
    rcases access with ⟨kind, register⟩
    cases kind with
    | push =>
      simp only [readRegister?_raw, Spin.fieldValue?_eq _ _ low, push?_raw, Option.bind_some]
      rfl
    | pop =>
      simp only [readRegister?_raw, pop?_raw, Spin.insertField?_eq _ _ _ low, writeRegister?_raw,
        Option.bind_some]
      rfl
    | update =>
      simp only [readRegister?_raw, Spin.fieldValue?_eq _ _ low, Option.bind_some]
      refine update?_raw _ run fun machine stored => ?_
      rw [Spin.insertField?_eq _ _ _ low, Option.bind_some, writeRegister?_raw]
    | reference =>
      simp only [readRegister?_raw, Option.bind_some]
      rfl

lemma accessSpecial?_raw (kind : AccessKind) :
    (machine.raw run).accessSpecial? kind = some ((machine.accessSpecial kind).raw run) := by
  simp only [RawMachine.accessSpecial?, accessSpecial, pop?_raw, Option.bind_eq_bind,
    Option.bind_some]
  split
  · cases kind with
    | push =>
      simp only [readRegister?_raw, push?_raw, Option.bind_some]
      rfl
    | pop =>
      simp only [writeRegister?_raw, Option.bind_some]
      rfl
    | update =>
      simp only [readRegister?_raw, Option.bind_some]
      exact update?_raw _ run fun machine stored => machine.writeRegister?_raw run ..
    | reference => rfl
  · rfl

end SpinMachine

end P1Chip
