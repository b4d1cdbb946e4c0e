import P1Chip.Proofs.Raw.Calls
import P1Chip.Spin.Interpreter

/-!
# Bytecodes with plain numbers

All bytecodes, on the machine with plain numbers, and the clocks of the interpreter.  A bytecode
that waits leaves the count of the interpreter where it was; the next state that counts sets it
anew.

* `RawMachine.special?`, `RawMachine.execute?` — a bytecode.
* `RawMachine.step?`, `RawBody.bootInterpreter?` — a system clock, and the start of the interpreter.
* **`SpinMachine.execute?_raw`** — no bytecode is refused anything.
* **`SpinMachine.step?_shows`** — neither is any clock of the interpreter.
-/

namespace P1Chip

open SpinMachine (ListSearch)

variable {τ : Type}

namespace RawMachine

variable (machine : RawMachine τ)

/-! ## Loops, cases and lists -/

def loopEnter? : Option (RawMachine τ) := do
  let (count, machine) ← machine.pop?
  let (offset, machine) ← machine.branchOffset?
  if count.toInt32 ≤ 0 then return machine.branchIf true offset else machine.push? count

def loopNext? : Option (RawMachine τ) := do
  let (count, machine) ← machine.pop?
  let (offset, machine) ← machine.branchOffset?
  if 0 < (count - 1).toInt32 then (machine.branchIf true offset).push? (count - 1)
  else return machine

def branchOn? (zero : Bool) : Option (RawMachine τ) := do
  let (value, machine) ← machine.pop?
  let (offset, machine) ← machine.branchOffset?
  return machine.branchIf ((value == 0) == zero) offset

def caseDone? : Option (RawMachine τ) := do
  let (_, machine) ← machine.pop?
  let (target, machine) ← machine.pop?
  return machine.jumpInObject target

def caseValue? : Option (RawMachine τ) := do
  let (candidate, machine) ← machine.pop?
  let (value, machine) ← machine.pop?
  let (offset, machine) ← machine.branchOffset?
  (machine.branchIf (candidate == value) offset).push? value

def caseRange? : Option (RawMachine τ) := do
  let (second, machine) ← machine.pop?
  let (first, machine) ← machine.pop?
  let (value, machine) ← machine.pop?
  let (offset, machine) ← machine.branchOffset?
  let (low, high) := if second < first then (second, first) else (first, second)
  (machine.branchIf (low ≤ value && value ≤ high) offset).push? value

def popSearch? : Option (ListSearch × RawMachine τ) := do
  let (key, machine) ← machine.pop?
  let (jump, machine) ← machine.pop?
  let (base, machine) ← machine.pop?
  return (⟨base, jump, key⟩, machine)

def pushSearch? (search : ListSearch) : Option (RawMachine τ) := do
  let machine ← machine.push? search.base
  let machine ← machine.push? search.jump
  machine.push? search.key

def foundAt? (search : ListSearch) (value : UInt32) : Option (RawMachine τ) :=
  (machine.jumpInObject search.jump).push? value

def listDone? : Option (RawMachine τ) := do
  let (_, machine) ← machine.popSearch?
  machine.push? Word.ones

def lookupValue? : Option (RawMachine τ) := do
  let (value, machine) ← machine.pop?
  let (search, machine) ← machine.popSearch?
  if search.key = search.base then machine.foundAt? search value
  else machine.pushSearch? { search with key := search.key - 1 }

def lookdownValue? : Option (RawMachine τ) := do
  let (value, machine) ← machine.pop?
  let (search, machine) ← machine.popSearch?
  if search.key = value then machine.foundAt? search search.base
  else machine.pushSearch? { search with base := search.base + 1 }

def lookupRange? : Option (RawMachine τ) := do
  let (last, machine) ← machine.pop?
  let (first, machine) ← machine.pop?
  let (search, machine) ← machine.popSearch?
  let (size, found) :=
    if first.toInt32 < last.toInt32 then
      (last - first + 1, first + search.key - search.base)
    else
      (first - last + 1, first - search.key - search.base)
  if search.key.toInt32 < size.toInt32 then machine.foundAt? search found
  else machine.pushSearch? { search with key := search.key - size }

def lookdownRange? : Option (RawMachine τ) := do
  let (last, machine) ← machine.pop?
  let (first, machine) ← machine.pop?
  let (search, machine) ← machine.popSearch?
  let (low, high) := if first.toInt32 < last.toInt32 then (first, last) else (last, first)
  if low.toInt32 ≤ search.key.toInt32 && search.key.toInt32 ≤ high.toInt32 then
    machine.foundAt? search (search.key - low + search.base)
  else
    machine.pushSearch? { search with base := search.base + (high - low + 1) }

/-! ## Strings and blocks -/

def stringSize? : Option (RawMachine τ) := do
  let (address, machine) ← machine.pop?
  machine.push? (← machine.memory.countNonzero? (blockLimit - address.toNat) address 0)

def stringCompare? : Option (RawMachine τ) := do
  let (a, machine) ← machine.pop?
  let (b, machine) ← machine.pop?
  machine.push? (Word.ofBool (← machine.memory.equalUntilZero? blockLimit a b))

/-- Fills memory.  The distance of elements is found by a shift. -/
def fill? (size : DataSize) : Option (RawMachine τ) := do
  let (count, machine) ← machine.pop?
  let (value, machine) ← machine.pop?
  let (destination, machine) ← machine.pop?
  let distance ← Spin.shifted? (· <<< ·) 1 size.shift
  machine.withMemory? (Memory.fill? size distance value (blockCount count) destination)

def move? (size : DataSize) : Option (RawMachine τ) := do
  let (count, machine) ← machine.pop?
  let (source, machine) ← machine.pop?
  let (destination, machine) ← machine.pop?
  let distance ← Spin.shifted? (· <<< ·) 1 size.shift
  machine.withMemory? (Memory.move? size distance (blockCount count) source destination)

/-! ## Waits -/

def waitPins? (equal : Bool) : Option (RawMachine τ) := do
  let (half, machine) ← machine.pop?
  let (mask, machine) ← machine.pop?
  let (target, machine) ← machine.pop?
  let machine := machine.withFrames fun frames =>
    { frames with wait := { frames.wait with upperHalf := half != 0, mask, target } }
  return machine.waitFor (if equal then .waitPinsEqual else .waitPinsNotEqual)

def waitCount? : Option (RawMachine τ) := do
  let (target, machine) ← machine.pop?
  let machine := machine.withFrames fun frames =>
    { frames with wait := { frames.wait with target } }
  return machine.waitFor .waitCount

def waitVideo? : Option (RawMachine τ) := do
  let (pixels, machine) ← machine.pop?
  let (colors, machine) ← machine.pop?
  let machine := machine.withFrames fun frames =>
    { frames with wait := { frames.wait with pixels, colors } }
  return machine.waitFor .waitVideo

/-! ## Requests to the hub -/

/-- Writes frequency and mode of the clock where programs look for them. -/
def writeClock? (frequency mode : UInt32) : Option (RawMachine τ) :=
  machine.withMemory? fun memory => do
    (← memory.writeLong? 0 frequency).writeByte? 4 mode.toUInt8

def setClock? : Option (RawMachine τ) := do
  let (frequency, machine) ← machine.pop?
  let (mode, machine) ← machine.pop?
  let machine ← machine.writeClock? frequency mode
  return (← machine.service? .setClock (mode &&& 0xFF)).2

def serviceOf? (operation : HubOperation) : Option (RawMachine τ) := do
  let (argument, machine) ← machine.pop?
  return (← machine.service? operation argument).2

def lockService? (operation : HubOperation) (push : Bool) : Option (RawMachine τ) := do
  let (lock, machine) ← machine.pop?
  let (answer, machine) ← machine.service? operation lock
  if push then machine.push? (Word.ofBool answer.carry) else return machine

/-- Pushes the value of an answer, if it is asked for. -/
def pushAnswer? (answered : HubAnswer × RawMachine τ) (push : Bool) : Option (RawMachine τ) :=
  if push then answered.2.push? answered.1.value else some answered.2

/-! ## Constants and fields of registers -/

/-- Takes a constant of so many bytes from the code, the highest first. -/
def takeLiteral? : Nat → UInt32 → RawMachine τ → Option (UInt32 × RawMachine τ)
  | 0, value, machine => some (value, machine)
  | count + 1, value, machine => do
    let (byte, machine) ← machine.nextByte?
    takeLiteral? count ((value <<< 8) ||| byte.toUInt32) machine

def pushLiteral? (bytes : Nat) : Option (RawMachine τ) := do
  let (value, machine) ← takeLiteral? bytes 0 machine
  machine.push? value

def pushPacked? : Option (RawMachine τ) := do
  let (byte, machine) ← machine.nextByte?
  machine.push? (← Spin.packedConstant? byte)

variable [Timebase τ]

/-- Accesses the popped bit of a register. -/
def accessBit? : Option (RawOutcome τ) := do
  let (number, machine) ← machine.pop?
  let bit := number &&& 31
  machine.accessRegister? (← Spin.shifted? (· <<< ·) 1 bit) bit

/-- Accesses the bits of a register between two popped ones. -/
def accessBits? : Option (RawOutcome τ) := do
  let (first, machine) ← machine.pop?
  let (second, machine) ← machine.pop?
  let first := SpinMachine.bitNumber first
  let second := SpinMachine.bitNumber second
  let (low, high) := if second < first then (second, first) else (first, second)
  machine.accessRegister? (← SpinMachine.bitRange? low high) low

/-! ## Bytecodes -/

/-- Carries out a special operation, whose bytecode stands at `pc`. -/
def special? (operation : SpecialOp) (pc : UInt32) : Option (RawOutcome τ) :=
  match operation with
  | .openFrame kind => return (← machine.openFrame? kind).done
  | .branch => do
    let (offset, machine) ← machine.branchOffset?
    return (machine.branchIf true offset).done
  | .call target => machine.call? target pc
  | .loopEnter => return (← machine.loopEnter?).done
  | .loopNext => return (← machine.loopNext?).done
  | .branchIfZero => return (← machine.branchOn? true).done
  | .branchIfNonzero => return (← machine.branchOn? false).done
  | .caseDone => return (← machine.caseDone?).done
  | .caseValue => return (← machine.caseValue?).done
  | .caseRange => return (← machine.caseRange?).done
  | .listDone => return (← machine.listDone?).done
  | .lookupValue => return (← machine.lookupValue?).done
  | .lookdownValue => return (← machine.lookdownValue?).done
  | .lookupRange => return (← machine.lookupRange?).done
  | .lookdownRange => return (← machine.lookdownRange?).done
  | .methodStart => return (machine.withFrames ({ · with startsMethod := true })).done
  | .stringSize => return (← machine.stringSize?).done
  | .stringCompare => return (← machine.stringCompare?).done
  | .fill size => return (← machine.fill? size).done
  | .move size => return (← machine.move? size).done
  | .waitPins equal => return (← machine.waitPins? equal).done
  | .waitCount => return (← machine.waitCount?).done
  | .waitVideo => return (← machine.waitVideo?).done
  | .setClock => return (← machine.setClock?).done
  | .stopCog => return (← machine.serviceOf? .stopCog).done
  | .returnLock => return (← machine.serviceOf? .returnLock).done
  | .startCog push => return (← pushAnswer? (← machine.startCog?) push).done
  | .newLock push => return (← pushAnswer? (← machine.service? .newLock 0) push).done
  | .setLock push => return (← machine.lockService? .setLock push).done
  | .clearLock push => return (← machine.lockService? .clearLock push).done
  | .specialRegister kind => machine.accessSpecial? kind
  | .leave abort true => do
    let (value, machine) ← machine.pop?
    return (← machine.leave? value abort).done
  | .leave abort false => do
    let value ← machine.memory.readLong? machine.frames.locals
    return (← machine.leave? value abort).done
  | .constant value => return (← machine.push? value).done
  | .packedConstant => return (← machine.pushPacked?).done
  | .literal bytes => return (← machine.pushLiteral? bytes).done
  | .registerBit => machine.accessBit?
  | .registerBits => machine.accessBits?
  | .register => machine.accessRegister? Word.ones 0

/-- Carries out the next bytecode. -/
def execute? : Option (RawOutcome τ) := do
  let pc := machine.body.parts.pc
  let (code, machine) ← machine.nextByte?
  match ← BytecodeFamily.classify? code with
  | .operator operator => return (← machine.operate? operator).done
  | .memory access => machine.accessMemory? access
  | .variable access => machine.accessVariable? access
  | .special code =>
    match SpecialOp.decode? code with
    | some operation => machine.special? operation pc
    | none => return machine.raise (.bytecode code pc)

/-! ## The interpreter -/

/-- Goes on with the next bytecode, if what was waited for has come. -/
def goOnIf (reached : Bool) : RawMachine τ :=
  if reached then machine.withRun (machine.body.run.withMode .execInterpreter) else machine

/-- Whether the awaited pins have the awaited levels. -/
def pinsMatch : Bool :=
  let wait := machine.frames.wait
  let pins := if wait.upperHalf then machine.hub.shared.inputB else machine.hub.shared.inputA
  pins &&& wait.mask == wait.target

/-- Hands the operands of a waiting bytecode to the video generator. -/
def supplyVideo (frames : SpinFrames) (body : RawBody τ) : Bool × RawBody τ :=
  if body.run.mode = .waitVideo ∧ body.parts.video.isReady then
    let video := body.parts.video.feed frames.wait.colors frames.wait.pixels
    (true,
      { body with parts := { body.parts with video }, run := body.run.withMode .execInterpreter })
  else
    (false, body)

/-- One system clock. -/
def step? : Option (Except FaultKind Bool × RawMachine τ) :=
  match machine.body.run.mode with
  | .bootInterpreter | .waitInterpreter =>
    let machine := machine.withRun machine.body.run.countDown
    some (.ok false, machine.goOnIf (machine.body.run.count = 0))
  | .execInterpreter => do
    let run := machine.body.run.withClocks .waitInterpreter SpinFrames.bytecodeClocks
    let outcome ← (machine.withRun run).execute?
    match outcome.fault? with
    | some fault => return (.error fault, outcome.machine)
    | none => return (.ok true, outcome.machine)
  | .waitPinsEqual => some (.ok false, machine.goOnIf machine.pinsMatch)
  | .waitPinsNotEqual => some (.ok false, machine.goOnIf !machine.pinsMatch)
  | .waitCount =>
    some (.ok false, machine.goOnIf (machine.frames.wait.target == machine.hub.shared.counter))
  | .waitVideo =>
    some (.ok false, { machine with body := (supplyVideo machine.frames machine.body).2 })
  | _ => some (.ok false, machine)

end RawMachine

/-- Sets the result of the first method and the long below it. -/
def RawHub.clearResult? (hub : RawHub) (frame : UInt32) : Option RawHub :=
  hub.withMemory? fun memory => do
    (← memory.writeLong? (frame - 8) Word.ones).writeLong? (frame - 4) 0

/-- Starts the interpreter from the frame whose address is in the parameter register. -/
def RawBody.bootInterpreter? (body : RawBody τ) (hub : RawHub) : Option (RawMachine τ) := do
  let parameter ← body.parts.namedCell? SpecialRegister.par.address
  let frame := parameter &&& 0xFFFF
  let memory := hub.shared.memory
  let object ← memory.readWord? (frame - 8)
  let vars ← memory.readWord? (frame - 6)
  let pc ← memory.readWord? (frame - 4)
  let stack ← memory.readWord? (frame - 2)
  let frames : SpinFrames :=
    { SpinFrames.new with
      object := object.toUInt32
      vars := vars.toUInt32
      locals := frame - 4
      stack := stack.toUInt32 - 4 }
  let body ← body.setNamedCell? SpinMachine.idCell body.parts.id
  let body ← body.setNamedCell? SpinMachine.frameCell (frame - 4)
  let run := body.run.withClocks .bootInterpreter SpinFrames.bootClocks
  let hub ← hub.clearResult? frame
  return { frames, body := (body.withRun run).withPc pc.toUInt32, hub }

/-- A machine with plain numbers shows one. -/
def RawMachine.Shows (raw : RawMachine τ) (machine : SpinMachine τ) : Prop :=
  ∃ run : RunFields, run.Shows machine.body.state ∧ raw = machine.raw run

lemma RawMachine.Shows.mk {machine : SpinMachine τ} {run : RunFields}
    (shown : run.Shows machine.body.state) : (machine.raw run).Shows machine :=
  ⟨run, shown, rfl⟩

/-! ## Nothing is refused -/

namespace SpinMachine

variable (machine : SpinMachine τ) (run : RunFields)

/-! ### Loops, cases and lists -/

lemma loopEnter?_raw : (machine.raw run).loopEnter? = some (machine.loopEnter.raw run) := by
  simp only [RawMachine.loopEnter?, loopEnter, pop?_raw, branchOffset?_raw, branchIf_raw, push?_raw,
    Option.bind_eq_bind, Option.bind_some]
  split <;> rfl

lemma loopNext?_raw : (machine.raw run).loopNext? = some (machine.loopNext.raw run) := by
  simp only [RawMachine.loopNext?, loopNext, pop?_raw, branchOffset?_raw, branchIf_raw, push?_raw,
    Option.bind_eq_bind, Option.bind_some]
  split <;> rfl

lemma branchOn?_raw (zero : Bool) :
    (machine.raw run).branchOn? zero = some ((machine.branchOn zero).raw run) := by
  simp only [RawMachine.branchOn?, pop?_raw, branchOffset?_raw, branchIf_raw, Option.bind_eq_bind,
    Option.bind_some]
  rfl

lemma caseDone?_raw :
    (machine.raw run).caseDone?
      = some ((machine.pop.2.pop.2.jumpInObject machine.pop.2.pop.1).raw run) := by
  simp only [RawMachine.caseDone?, pop?_raw, Option.bind_eq_bind, Option.bind_some]
  rfl

lemma caseValue?_raw : (machine.raw run).caseValue? = some (machine.caseValue.raw run) := by
  simp only [RawMachine.caseValue?, pop?_raw, branchOffset?_raw, branchIf_raw, push?_raw,
    Option.bind_eq_bind, Option.bind_some]
  rfl

lemma caseRange?_raw : (machine.raw run).caseRange? = some (machine.caseRange.raw run) := by
  simp only [RawMachine.caseRange?, pop?_raw, branchOffset?_raw, branchIf_raw, push?_raw,
    Option.bind_eq_bind, Option.bind_some]
  rfl

lemma popSearch?_raw :
    (machine.raw run).popSearch? = some (machine.popSearch.1, machine.popSearch.2.raw run) := by
  simp only [RawMachine.popSearch?, pop?_raw, Option.bind_eq_bind, Option.bind_some]
  rfl

lemma pushSearch?_raw (search : ListSearch) :
    (machine.raw run).pushSearch? search = some ((machine.pushSearch search).raw run) := by
  simp only [RawMachine.pushSearch?, push?_raw, Option.bind_eq_bind, Option.bind_some]
  rfl

lemma foundAt?_raw (search : ListSearch) (value : UInt32) :
    (machine.raw run).foundAt? search value = some ((machine.foundAt search value).raw run) :=
  push?_raw (machine.jumpInObject search.jump) run value

lemma listDone?_raw :
    (machine.raw run).listDone? = some ((machine.popSearch.2.push Word.ones).raw run) := by
  simp only [RawMachine.listDone?, popSearch?_raw, push?_raw, Option.bind_eq_bind,
    Option.bind_some]

lemma lookupValue?_raw : (machine.raw run).lookupValue? = some (machine.lookupValue.raw run) := by
  simp only [RawMachine.lookupValue?, lookupValue, pop?_raw, popSearch?_raw, foundAt?_raw,
    pushSearch?_raw, Option.bind_eq_bind, Option.bind_some]
  split <;> rfl

lemma lookdownValue?_raw :
    (machine.raw run).lookdownValue? = some (machine.lookdownValue.raw run) := by
  simp only [RawMachine.lookdownValue?, lookdownValue, pop?_raw, popSearch?_raw, foundAt?_raw,
    pushSearch?_raw, Option.bind_eq_bind, Option.bind_some]
  split <;> rfl

lemma lookupRange?_raw : (machine.raw run).lookupRange? = some (machine.lookupRange.raw run) := by
  simp only [RawMachine.lookupRange?, lookupRange, pop?_raw, popSearch?_raw, foundAt?_raw,
    pushSearch?_raw, Option.bind_eq_bind, Option.bind_some]
  split <;> dsimp only <;> split <;> rfl

lemma lookdownRange?_raw :
    (machine.raw run).lookdownRange? = some (machine.lookdownRange.raw run) := by
  simp only [RawMachine.lookdownRange?, lookdownRange, pop?_raw, popSearch?_raw, foundAt?_raw,
    pushSearch?_raw, Option.bind_eq_bind, Option.bind_some]
  split <;> dsimp only <;> split <;> rfl

/-! ### Strings and blocks -/

lemma stringSize?_raw : (machine.raw run).stringSize? = some (machine.stringSize.raw run) := by
  simp only [RawMachine.stringSize?, pop?_raw, raw_memory, Memory.countNonzero?_eq, push?_raw,
    Option.bind_eq_bind, Option.bind_some]
  rfl

lemma stringCompare?_raw :
    (machine.raw run).stringCompare? = some (machine.stringCompare.raw run) := by
  simp only [RawMachine.stringCompare?, pop?_raw, raw_memory, Memory.equalUntilZero?_eq, push?_raw,
    Option.bind_eq_bind, Option.bind_some]
  rfl

lemma fill?_raw (size : DataSize) :
    (machine.raw run).fill? size = some ((machine.fill size).raw run) := by
  simp only [RawMachine.fill?, pop?_raw, Memory.shifted?_one, Option.bind_eq_bind,
    Option.bind_some]
  exact withMemory?_raw _ run fun memory => memory.fill?_eq size _ _ _

lemma move?_raw (size : DataSize) :
    (machine.raw run).move? size = some ((machine.move size).raw run) := by
  simp only [RawMachine.move?, pop?_raw, Memory.shifted?_one, Option.bind_eq_bind,
    Option.bind_some]
  exact withMemory?_raw _ run fun memory => memory.move?_eq size _ _ _

/-! ### Waits -/

lemma waitPins?_raw (equal : Bool) :
    (machine.raw run).waitPins? equal
      = some ((machine.waitPins equal).raw (run.enter (machine.waitPins equal).body.state)) := by
  simp only [RawMachine.waitPins?, pop?_raw, withFrames_raw, Option.bind_eq_bind, Option.bind_some]
  cases equal <;> rfl

lemma waitCount?_raw :
    (machine.raw run).waitCount?
      = some (machine.waitCount.raw (run.enter machine.waitCount.body.state)) := by
  simp only [RawMachine.waitCount?, pop?_raw, withFrames_raw, Option.bind_eq_bind,
    Option.bind_some]
  rfl

lemma waitVideo?_raw :
    (machine.raw run).waitVideo?
      = some (machine.waitVideo.raw (run.enter machine.waitVideo.body.state)) := by
  simp only [RawMachine.waitVideo?, pop?_raw, withFrames_raw, Option.bind_eq_bind,
    Option.bind_some]
  rfl

/-! ### Requests to the hub -/

lemma writeClock?_raw (frequency mode : UInt32) :
    (machine.raw run).writeClock? frequency mode
      = some ((machine.withMemory fun memory =>
          (memory.writeLong 0 frequency).writeByte 4 mode.toUInt8).raw run) := by
  refine machine.withMemory?_raw run fun memory => ?_
  simp only [Memory.writeLong?_eq, Memory.writeByte?_eq, Option.bind_eq_bind, Option.bind_some]

lemma setClock?_raw : (machine.raw run).setClock? = some (machine.setClock.raw run) := by
  simp only [RawMachine.setClock?, pop?_raw, writeClock?_raw, service?_raw, Option.bind_eq_bind,
    Option.bind_some]
  rfl

lemma serviceOf?_raw (operation : HubOperation) :
    (machine.raw run).serviceOf? operation = some ((machine.serviceOf operation).raw run) := by
  simp only [RawMachine.serviceOf?, pop?_raw, service?_raw, Option.bind_eq_bind, Option.bind_some]
  rfl

lemma lockService?_raw (operation : HubOperation) (push : Bool) :
    (machine.raw run).lockService? operation push
      = some ((machine.lockService operation push).raw run) := by
  simp only [RawMachine.lockService?, pop?_raw, service?_raw, push?_raw, Option.bind_eq_bind,
    Option.bind_some]
  cases push <;> rfl

lemma pushAnswer?_raw (answered : HubAnswer × SpinMachine τ) (push : Bool) :
    RawMachine.pushAnswer? (answered.1, answered.2.raw run) push
      = some ((pushAnswer answered push).raw run) := by
  cases push with
  | true => exact answered.2.push?_raw run _
  | false => rfl

/-! ### Constants and fields of registers -/

lemma takeLiteral?_raw (count : Nat) (value : UInt32) :
    RawMachine.takeLiteral? count value (machine.raw run)
      = some ((takeLiteral count value machine).1,
          (takeLiteral count value machine).2.raw run) := by
  induction count generalizing machine value with
  | zero => rfl
  | succ count ih =>
    simp only [RawMachine.takeLiteral?, nextByte?_raw, Option.bind_eq_bind, Option.bind_some]
    exact ih _ _

lemma pushLiteral?_raw (bytes : Nat) :
    (machine.raw run).pushLiteral? bytes = some ((machine.pushLiteral bytes).raw run) := by
  simp only [RawMachine.pushLiteral?, takeLiteral?_raw, push?_raw, Option.bind_eq_bind,
    Option.bind_some]
  rfl

lemma pushPacked?_raw : (machine.raw run).pushPacked? = some (machine.pushPacked.raw run) := by
  simp only [RawMachine.pushPacked?, nextByte?_raw, Spin.packedConstant?_eq, push?_raw,
    Option.bind_eq_bind, Option.bind_some]
  rfl

variable [Timebase τ]

lemma accessBit?_raw : (machine.raw run).accessBit? = some (machine.accessBit.raw run) := by
  let field := RegisterField.single machine.pop.1
  have mask : Spin.shifted? (· <<< ·) 1 (machine.pop.1 &&& 31) = some field.mask := by
    rw [RegisterField.mask_single]
    exact if_pos field.low_lt
  simp only [RawMachine.accessBit?, pop?_raw, mask, Option.bind_eq_bind, Option.bind_some]
  exact accessRegister?_raw _ run _ field.low_lt

lemma accessBits?_raw : (machine.raw run).accessBits? = some (machine.accessBits.raw run) := by
  simp only [RawMachine.accessBits?, accessBits, pop?_raw, Option.bind_eq_bind, Option.bind_some]
  let field := RegisterField.between machine.pop.1 machine.pop.2.pop.1
  have masked := field.bitRange?_eq
  have low := field.low_lt
  split
  · next down =>
    simp only [field, RegisterField.between, RegisterField.mask, if_pos down] at masked low
    simp only [masked, Option.bind_some]
    exact accessRegister?_raw _ run _ low
  · next up =>
    simp only [field, RegisterField.between, RegisterField.mask, if_neg up] at masked low
    simp only [masked, Option.bind_some]
    exact accessRegister?_raw _ run _ low

/-! ### Bytecodes -/

omit [Timebase τ] in
/-- What is done with a machine that is then finished. -/
lemma done_raw {machine? : Option (RawMachine τ)} {after : SpinMachine τ}
    (h : machine? = some (after.raw run)) :
    (do return (← machine?).done : Option (RawOutcome τ)) = some (after.done.raw run) := by
  rw [h]
  rfl

lemma special?_of_not_wait {operation : SpecialOp} (other : operation.isWait = false)
    (pc : UInt32) :
    (machine.raw run).special? operation pc = some ((machine.special operation pc).raw run) := by
  cases operation with
  | waitPins equal => cases other
  | waitCount => cases other
  | waitVideo => cases other
  | openFrame kind => exact done_raw run (machine.openFrame?_raw run kind)
  | branch =>
    simp only [RawMachine.special?, branchOffset?_raw, branchIf_raw, Option.bind_eq_bind,
      Option.bind_some]
    rfl
  | call target => exact machine.call?_raw run target pc
  | loopEnter => exact done_raw run (machine.loopEnter?_raw run)
  | loopNext => exact done_raw run (machine.loopNext?_raw run)
  | branchIfZero => exact done_raw run (machine.branchOn?_raw run true)
  | branchIfNonzero => exact done_raw run (machine.branchOn?_raw run false)
  | caseDone => exact done_raw run (machine.caseDone?_raw run)
  | caseValue => exact done_raw run (machine.caseValue?_raw run)
  | caseRange => exact done_raw run (machine.caseRange?_raw run)
  | listDone => exact done_raw run (machine.listDone?_raw run)
  | lookupValue => exact done_raw run (machine.lookupValue?_raw run)
  | lookdownValue => exact done_raw run (machine.lookdownValue?_raw run)
  | lookupRange => exact done_raw run (machine.lookupRange?_raw run)
  | lookdownRange => exact done_raw run (machine.lookdownRange?_raw run)
  | methodStart => rfl
  | stringSize => exact done_raw run (machine.stringSize?_raw run)
  | stringCompare => exact done_raw run (machine.stringCompare?_raw run)
  | fill size => exact done_raw run (machine.fill?_raw run size)
  | move size => exact done_raw run (machine.move?_raw run size)
  | setClock => exact done_raw run (machine.setClock?_raw run)
  | stopCog => exact done_raw run (machine.serviceOf?_raw run .stopCog)
  | returnLock => exact done_raw run (machine.serviceOf?_raw run .returnLock)
  | startCog push =>
    simp only [RawMachine.special?, startCog?_raw, pushAnswer?_raw run machine.startCog,
      Option.bind_eq_bind, Option.bind_some]
    rfl
  | newLock push =>
    simp only [RawMachine.special?, service?_raw, pushAnswer?_raw run (machine.service .newLock 0),
      Option.bind_eq_bind, Option.bind_some]
    rfl
  | setLock push => exact done_raw run (machine.lockService?_raw run .setLock push)
  | clearLock push => exact done_raw run (machine.lockService?_raw run .clearLock push)
  | specialRegister kind => exact machine.accessSpecial?_raw run kind
  | leave abort popsValue =>
    cases popsValue <;>
      simp only [RawMachine.special?, pop?_raw, raw_memory, raw_frames, Memory.readLong?_eq,
        leave?_raw, Option.bind_eq_bind, Option.bind_some] <;>
      rfl
  | constant value => exact done_raw run (machine.push?_raw run value)
  | packedConstant => exact done_raw run (machine.pushPacked?_raw run)
  | literal bytes => exact done_raw run (machine.pushLiteral?_raw run bytes)
  | registerBit => exact machine.accessBit?_raw run
  | registerBits => exact machine.accessBits?_raw run
  | register => exact machine.accessRegister?_raw run _ (by decide)

variable {run}

lemma special?_raw (kept : run.enter machine.body.state = run) (operation : SpecialOp)
    (pc : UInt32) :
    (machine.raw run).special? operation pc
      = some ((machine.special operation pc).raw
          (run.enter (machine.special operation pc).machine.body.state)) := by
  cases waits : operation.isWait with
  | false =>
    rw [machine.state_special waits, kept]
    exact machine.special?_of_not_wait run waits pc
  | true =>
    cases operation with
    | waitPins equal => exact done_raw _ (machine.waitPins?_raw run equal)
    | waitCount => exact done_raw _ (machine.waitCount?_raw run)
    | waitVideo => exact done_raw _ (machine.waitVideo?_raw run)
    | _ => cases waits

/-- **No bytecode** is refused anything, whatever stands in memory. -/
theorem execute?_raw (kept : run.enter machine.body.state = run) :
    (machine.raw run).execute?
      = some (machine.execute.raw (run.enter machine.execute.machine.body.state)) := by
  have went {outcome : SpinOutcome τ} (same : outcome.machine.body.state = machine.body.state) :
      outcome.raw (run.enter outcome.machine.body.state) = outcome.raw run := by
    rw [same, kept]
  simp only [RawMachine.execute?, execute, nextByte?_raw, BytecodeFamily.classify?_eq, raw_pc,
    Option.bind_eq_bind, Option.bind_some]
  cases BytecodeFamily.classify machine.nextByte.1 with
  | operator operator =>
    dsimp only
    rw [went (state_operate machine.nextByte.2 operator)]
    exact done_raw run (machine.nextByte.2.operate?_raw run operator)
  | memory access =>
    dsimp only
    rw [went (state_accessMemory machine.nextByte.2 access)]
    exact machine.nextByte.2.accessMemory?_raw run access
  | «variable» access =>
    have same : (machine.nextByte.2.accessVariable access).machine.body.state
        = machine.body.state := state_accessAt machine.nextByte.2 _ _ _
    dsimp only
    rw [went same]
    exact machine.nextByte.2.accessVariable?_raw run access
  | special code =>
    dsimp only
    cases SpecialOp.decode? code with
    | none =>
      dsimp only
      rw [went rfl]
      rfl
    | some operation => exact special?_raw machine.nextByte.2 kept operation machine.body.pc

/-! ### The interpreter -/

/-- Bytecodes take few clocks, and waits none. -/
lemma left_execute (few : machine.body.state.left < 2 ^ 32) :
    machine.execute.machine.body.state.left < 2 ^ 32 := by
  cases waits : isWaitCode machine.code with
  | false =>
    rw [machine.state_execute waits]
    exact few
  | true =>
    obtain ⟨operation, decoded⟩ := exists_decode_of_isWaitCode waits
    rw [execute_of_decode machine decoded]
    have waits := (isWait_of_decode decoded).trans waits
    cases operation with
    | waitPins equal => exact Nat.two_pow_pos 32
    | waitCount => exact Nat.two_pow_pos 32
    | waitVideo => exact Nat.two_pow_pos 32
    | _ => cases waits

omit [Timebase τ] in
lemma goOnIf_shows (shown : run.Shows machine.body.state) (reached : Bool) :
    ((machine.raw run).goOnIf reached).Shows
      (if reached then machine.withState .fetch else machine) := by
  cases reached with
  | true => exact .mk (.fetch _ _)
  | false => exact .mk shown

omit [Timebase τ] in
/-- The interpreter goes on when its count is at zero. -/
lemma goOnIf_countDown (run : RunFields) {state : RunState} (shown : run.countDown.Shows state) :
    ((machine.raw run.countDown).goOnIf (run.countDown.count = 0)).Shows
      (machine.withState (if run.count.toNat ≤ 1 then .fetch else state)) := by
  have gone := goOnIf_shows (machine.withState state) shown (run.countDown.count = 0)
  have same : (if decide (run.countDown.count = 0) then
        (machine.withState state).withState .fetch else machine.withState state)
      = machine.withState (if run.count.toNat ≤ 1 then .fetch else state) := by
    simp only [decide_eq_true_eq, run.countDown_eq_zero_iff]
    split <;> rfl
  rw [same] at gone
  exact gone

omit [Timebase τ] in
lemma supplyVideo_shows (frames : SpinFrames) {body : CogBody τ} (shown : run.Shows body.state) :
    (RawMachine.supplyVideo frames (body.raw run)).1 = (frames.supplyVideo body).1
      ∧ (RawMachine.supplyVideo frames (body.raw run)).2.Shows (frames.supplyVideo body).2 := by
  have waits : ((body.raw run).run.mode = .waitVideo ∧ (body.raw run).parts.video.isReady)
      ↔ (body.state = .waiting .video ∧ body.video.isReady) := by
    rw [← RunState.mode_eq_waitVideo_iff, ← shown.mode_eq]
    rfl
  simp only [RawMachine.supplyVideo, SpinFrames.supplyVideo, waits]
  split
  · exact ⟨rfl, ⟨run.withMode .execInterpreter, .fetch _ _, rfl⟩⟩
  · exact ⟨rfl, .mk shown⟩

/-- A clock of a wait looks at pins, at the system counter or at the video generator. -/
lemma step?_waiting (shown : run.Shows machine.body.state) {wait : Wait}
    (state : machine.body.state = .waiting wait) :
    ∃ raw, (machine.raw run).step? = some (machine.step.1, raw) ∧ raw.Shows machine.step.2 := by
  have mode := shown.mode_eq
  rw [state] at mode
  cases wait with
  | pinsEqual =>
    simp only [RawMachine.step?, step, state, raw_body, CogBody.raw_run, mode, RunState.mode,
      RunMode.ofWait]
    exact ⟨_, rfl, machine.goOnIf_shows shown _⟩
  | pinsNotEqual =>
    have other : (if machine.pinsMatch then machine else machine.withState .fetch)
        = if !machine.pinsMatch then machine.withState .fetch else machine := by
      cases machine.pinsMatch <;> rfl
    simp only [RawMachine.step?, step, state, raw_body, CogBody.raw_run, mode, RunState.mode,
      RunMode.ofWait, other]
    exact ⟨_, rfl, machine.goOnIf_shows shown _⟩
  | count =>
    simp only [RawMachine.step?, step, state, raw_body, CogBody.raw_run, mode, RunState.mode,
      RunMode.ofWait]
    exact ⟨_, rfl, machine.goOnIf_shows shown _⟩
  | video =>
    obtain ⟨run', shown', supplied⟩ := (supplyVideo_shows machine.frames shown).2
    simp only [RawMachine.step?, step, state, raw_body, CogBody.raw_run, mode, RunState.mode,
      RunMode.ofWait, raw_frames, supplied]
    exact ⟨_, rfl, run', shown', rfl⟩
  | hubTransfer size =>
    cases size <;>
      simp only [RawMachine.step?, step, state, raw_body, CogBody.raw_run, mode, RunState.mode,
        RunMode.ofWait] <;>
      exact ⟨_, rfl, .mk shown⟩
  | hubService =>
    simp only [RawMachine.step?, step, state, raw_body, CogBody.raw_run, mode, RunState.mode,
      RunMode.ofWait]
    exact ⟨_, rfl, .mk shown⟩

/-- **A clock of the interpreter** is refused nothing. -/
theorem step?_shows {raw : RawMachine τ} (shown : raw.Shows machine) :
    ∃ raw', raw.step? = some (machine.step.1, raw') ∧ raw'.Shows machine.step.2 := by
  obtain ⟨run, shown, rfl⟩ := shown
  have mode := shown.mode_eq
  cases state : machine.body.state with
  | fetch =>
    let fetched := machine.withState (.interpreting SpinFrames.bytecodeClocks)
    let started := run.withClocks .waitInterpreter SpinFrames.bytecodeClocks
    have kept : started.enter fetched.body.state = started := rfl
    have executed := execute?_raw fetched kept
    have few : fetched.execute.machine.body.state.left < 2 ^ 32 :=
      left_execute fetched (show SpinFrames.bytecodeClocks < 2 ^ 32 by decide)
    have same : (machine.raw run).withRun started = fetched.raw started := rfl
    have begun : RawMachine.execute? ((machine.raw run).withRun
        ((machine.raw run).body.run.withClocks .waitInterpreter SpinFrames.bytecodeClocks))
        = some (fetched.execute.raw (started.enter fetched.execute.machine.body.state)) := executed
    have unstepped : (machine.withState (.interpreting SpinFrames.bytecodeClocks)).execute
        = fetched.execute := rfl
    simp only [RawMachine.step?, step, state, raw_body, CogBody.raw_run, mode, RunState.mode]
    simp only [raw_body, CogBody.raw_run] at begun
    simp only [begun, unstepped, Option.bind_eq_bind, Option.bind_some]
    revert few
    rcases fetched.execute with ⟨after, _ | fault⟩ <;>
      exact fun few => ⟨_, rfl, .mk (started.shows_enter few)⟩
  | booting left =>
    rw [state] at shown
    cases shown with
    | booting count later =>
    simp only [RawMachine.step?, step, state, raw_body, CogBody.raw_run]
    exact ⟨_, rfl, machine.goOnIf_countDown _ (.countDown_booting count later)⟩
  | interpreting left =>
    rw [state] at shown
    cases shown with
    | interpreting count later =>
    simp only [RawMachine.step?, step, state, raw_body, CogBody.raw_run]
    exact ⟨_, rfl, machine.goOnIf_countDown _ (.countDown_interpreting count later)⟩
  | waiting wait => exact machine.step?_waiting shown state
  | loadProgram | execute | working | settling =>
    simp only [RawMachine.step?, step, state, raw_body, CogBody.raw_run, mode, RunState.mode]
    exact ⟨_, rfl, .mk shown⟩

end SpinMachine

lemma Hub.clearResult?_raw (hub : Hub) (frame : UInt32) :
    hub.raw.clearResult? frame = some (hub.withMemory fun memory =>
      (memory.writeLong (frame - 8) Word.ones).writeLong (frame - 4) 0).raw := by
  refine hub.withMemory?_raw fun memory => ?_
  simp only [Memory.writeLong?_eq, Option.bind_eq_bind, Option.bind_some]

namespace CogBody

variable (body : CogBody τ) (run : RunFields) (hub : Hub)

/-- **The interpreter starts** from a frame in hub memory. -/
theorem bootInterpreter?_raw :
    (body.raw run).bootInterpreter? hub.raw
      = some ((SpinFrames.boot body hub).raw
          (run.withClocks .bootInterpreter SpinFrames.bootClocks)) := by
  have parameter : (body.raw run).parts.namedCell? SpecialRegister.par.address
      = some (body.cell SpecialRegister.par.address) :=
    body.parts.namedCell?_eq (SpecialRegister.address_lt _)
  have id (body : CogBody τ) (value : UInt32) :
      (body.raw run).setNamedCell? SpinMachine.idCell value
        = some ((body.setCell SpinMachine.idCell value).raw run) :=
    body.setNamedCell?_raw run (by decide) value
  have frame (body : CogBody τ) (value : UInt32) :
      (body.raw run).setNamedCell? SpinMachine.frameCell value
        = some ((body.setCell SpinMachine.frameCell value).raw run) :=
    body.setNamedCell?_raw run (by decide) value
  simp only [RawBody.bootInterpreter?, parameter, hub.raw_memory, Memory.readWord?_eq, id, frame,
    hub.clearResult?_raw, Option.bind_eq_bind, Option.bind_some]
  rfl

end CogBody

end P1Chip
