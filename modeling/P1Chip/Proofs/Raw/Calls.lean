import P1Chip.Proofs.Raw.Machine
import P1Chip.Spin.Call

/-!
# Calls with plain numbers

The two stages of a call, returns and aborts, and starts of cogs, on the machine with plain numbers.
All they touch is the stack, the tables of objects, and the two cells of cog memory in which an
interpreter keeps what it needs to start others.

* `RawMachine.openFrame?`, `RawMachine.call?` — the two stages of a call.
* `RawMachine.leave?` — returns and aborts.
* `RawMachine.startCog?` — a method or a native program in a cog of its own.
* **`SpinMachine.call?_raw`**, **`SpinMachine.leave?_raw`**, **`SpinMachine.startCog?_raw`** —
  nothing is refused.
-/

namespace P1Chip

variable {τ : Type}

namespace RawMachine

variable (machine : RawMachine τ)

/-! ## Calls -/

def openFrame? (kind : FrameKind) : Option (RawMachine τ) := do
  let frames := machine.frames
  let machine ← machine.pushWord? frames.object
  let machine ← machine.pushWord? frames.vars
  let machine ← machine.pushWord? frames.locals
  let returnAddress := machine.frames.stack
  let machine := machine.withFrames fun frames =>
    { frames with
      openFrames := kind :: frames.openFrames
      pendingCalls := returnAddress :: frames.pendingCalls }
  (← machine.pushWord? 0).push? 0

/-- Turns to a child object. -/
def enterChild? (element : Bool) : Option (RawMachine τ) := do
  let (number, machine) ← machine.nextByte?
  let (index, machine) ← machine.popIndex? element
  let entry := number.toUInt32 * 4 + machine.frames.object + index * 4
  let object := machine.frames.object + (← machine.memory.readWord? entry).toUInt32
  let vars := machine.frames.vars + (← machine.memory.readWord? (entry + 2)).toUInt32
  return machine.withFrames ({ · with object, vars })

/-- The object of a call. -/
def enterTarget? : CallTarget → Option (RawMachine τ)
  | .own => some machine
  | .child => machine.enterChild? false
  | .childElement => machine.enterChild? true

/-- Calls a method of the object, in the frame that was opened last. -/
def callMethod? (pc : UInt32) : Option (RawOutcome τ) := do
  let (number, machine) ← machine.nextByte?
  let entry := number.toUInt32 * 4 + machine.frames.object
  match machine.frames.pendingCalls with
  | [] => return machine.raise (.callWithoutFrame pc)
  | returnAddress :: pendingCalls =>
    let back := machine.body.parts.pc
    let machine ← machine.withMemory? (·.writeWord? returnAddress back.toUInt16)
    let start := machine.frames.object + (← machine.memory.readWord? entry).toUInt32
    let stack := machine.frames.stack + (← machine.memory.readWord? (entry + 2)).toUInt32
    let machine := machine.withPc start
    return (machine.withFrames fun frames =>
      { frames with pendingCalls, locals := returnAddress + 2, stack }).done

def call? (target : CallTarget) (pc : UInt32) : Option (RawOutcome τ) := do
  (← machine.enterTarget? target).callMethod? pc

/-- Takes the caller's pointers from below the locals of the current method. -/
def restoreCaller? : Option (RawMachine τ) := do
  let (pc, machine) ← machine.popWord?
  let (locals, machine) ← machine.popWord?
  let (vars, machine) ← machine.popWord?
  let (object, machine) ← machine.popWord?
  return (machine.withPc pc).withFrames ({ · with locals, vars, object })

/-- Leaves the current method, and after an abort its callers too. -/
def unwind? (abort : Bool) :
    List FrameKind → RawMachine τ → Option (Option FrameKind × RawMachine τ)
  | [], machine =>
    let machine := machine.withStack machine.frames.locals
    some (none, machine.withFrames ({ · with openFrames := [] }))
  | kind :: openFrames, machine => do
    let machine := (machine.withStack machine.frames.locals).withFrames ({ · with openFrames })
    let machine ← machine.restoreCaller?
    if !abort || kind.trapsAborts then return (some kind, machine)
    else unwind? abort openFrames machine

/-- Returns from the current method with a result, or aborts it. -/
def leave? (value : UInt32) (abort : Bool) : Option (RawMachine τ) := do
  match ← unwind? abort machine.frames.openFrames machine with
  | (none, machine) => return (← machine.service? .stopCog machine.body.parts.id).2
  | (some kind, machine) =>
    if kind.dropsResult then return machine else machine.push? value

/-! ## Starting cogs -/

/-- Moves popped arguments to consecutive longs, the last one to `address`. -/
def moveArguments? : Nat → UInt32 → RawMachine τ → Option (RawMachine τ)
  | 0, _, machine => some machine
  | count + 1, address, machine => do
    let (value, machine) ← machine.pop?
    moveArguments? count (address - 4) (← machine.withMemory? (·.writeLong? address value))

/-- Builds the frame from which a new interpreter boots. -/
def writeFrame? (stack : UInt32) (object vars start top : UInt16) : Option (RawMachine τ) :=
  machine.withMemory? fun memory => do
    let memory ← memory.writeWord? (stack - 8) object
    let memory ← memory.writeWord? (stack - 6) vars
    let memory ← memory.writeWord? (stack - 4) start
    memory.writeWord? (stack - 2) top

def startMethod? : Option (HubAnswer × RawMachine τ) := do
  let (top, machine) ← machine.pop?
  let stack := (top + 11) &&& 0xFFFFFFFC
  let (packed, machine) ← machine.pop?
  let count := (packed >>> 8) &&& 0xFF
  let object := machine.frames.object
  let vars := machine.frames.vars
  let entry := object + (packed &&& 0xFF) * 4
  let start := (← machine.memory.readWord? entry).toUInt32 + object
  let lastArgument := count * 4 + stack - 4
  let size ← machine.memory.readWord? (entry + 2)
  let methodStack := size.toUInt32 + lastArgument + 4
  let machine ← machine.writeFrame? stack object.toUInt16 vars.toUInt16 start.toUInt16
    (methodStack + 4).toUInt16
  let machine ← moveArguments? count.toNat lastArgument machine
  let slot := (← machine.body.parts.namedCell? SpinMachine.frameCell) - 4
  let cog ← machine.memory.readLong? slot
  let machine ← machine.withMemory? (·.writeLong? slot Word.ones)
  machine.service? .startCog
    (SpinMachine.startArgument ((interpreterEntry <<< 2) ||| (stack <<< 16)) cog)

def startNative? : Option (HubAnswer × RawMachine τ) := do
  let (parameter, machine) ← machine.pop?
  let (program, machine) ← machine.pop?
  let (cog, machine) ← machine.pop?
  machine.service? .startCog (SpinMachine.startArgument
    (((program &&& 0xFFFC) <<< 2) ||| ((parameter &&& 0xFFFC) <<< 16)) cog)

def startCog? : Option (HubAnswer × RawMachine τ) :=
  if machine.frames.startsMethod then
    (machine.withFrames ({ · with startsMethod := false })).startMethod?
  else
    machine.startNative?

end RawMachine

/-! ## Nothing is refused -/

namespace SpinMachine

variable (machine : SpinMachine τ) (run : RunFields)

lemma withFrames_raw (change : SpinFrames → SpinFrames) :
    (machine.raw run).withFrames change = (machine.withFrames change).raw run :=
  rfl

lemma withStack_raw (stack : UInt32) :
    (machine.raw run).withStack stack = (machine.withStack stack).raw run :=
  rfl

lemma openFrame?_raw (kind : FrameKind) :
    (machine.raw run).openFrame? kind = some ((machine.openFrame kind).raw run) := by
  simp only [RawMachine.openFrame?, raw_frames, pushWord?_raw, withFrames_raw, push?_raw,
    Option.bind_eq_bind, Option.bind_some]
  rfl

lemma enterChild?_raw (element : Bool) :
    (machine.raw run).enterChild? element = some ((machine.enterChild element).raw run) := by
  simp only [RawMachine.enterChild?, nextByte?_raw, popIndex?_raw, raw_frames, raw_memory,
    Memory.readWord?_eq, Option.bind_eq_bind, Option.bind_some]
  cases element <;> rfl

lemma callMethod?_raw (pc : UInt32) :
    (machine.raw run).callMethod? pc = some ((machine.call .own pc).raw run) := by
  simp only [RawMachine.callMethod?, nextByte?_raw, raw_frames, call, Option.bind_eq_bind,
    Option.bind_some]
  cases machine.nextByte.2.frames.pendingCalls with
  | nil => rfl
  | cons returnAddress pendingCalls =>
    simp only [raw_pc, withMemory?_raw _ run (·.writeWord?_eq _ _), raw_memory, raw_frames,
      Memory.readWord?_eq, Option.bind_some]
    rfl

/-- **A call** finds the entry of its method, and a place for its return address. -/
theorem call?_raw (target : CallTarget) (pc : UInt32) :
    (machine.raw run).call? target pc = some ((machine.call target pc).raw run) := by
  rw [RawMachine.call?]
  cases target with
  | own => exact machine.callMethod?_raw run pc
  | child =>
    rw [RawMachine.enterTarget?, enterChild?_raw]
    exact callMethod?_raw _ run pc
  | childElement =>
    rw [RawMachine.enterTarget?, enterChild?_raw]
    exact callMethod?_raw _ run pc

lemma restoreCaller?_raw :
    (machine.raw run).restoreCaller? = some (machine.restoreCaller.raw run) := by
  simp only [RawMachine.restoreCaller?, popWord?_raw, Option.bind_eq_bind, Option.bind_some]
  rfl

lemma unwind?_raw (abort : Bool) (openFrames : List FrameKind) :
    RawMachine.unwind? abort openFrames (machine.raw run)
      = some ((unwind abort openFrames machine).1,
          (unwind abort openFrames machine).2.raw run) := by
  induction openFrames generalizing machine with
  | nil => rfl
  | cons kind openFrames ih =>
    simp only [RawMachine.unwind?, unwind, raw_frames, withStack_raw, withFrames_raw,
      restoreCaller?_raw, Option.bind_eq_bind, Option.bind_some]
    split
    · rfl
    · exact ih _

/-- **A return or an abort** finds the pointers of the callers, however many it leaves. -/
theorem leave?_raw (value : UInt32) (abort : Bool) :
    (machine.raw run).leave? value abort = some ((machine.leave value abort).raw run) := by
  rw [RawMachine.leave?, raw_frames, unwind?_raw, leave]
  rcases unwind abort machine.frames.openFrames machine with ⟨_ | kind, left⟩
  · have stopped := left.service?_raw run .stopCog left.body.id
    exact congrArg (·.bind fun answered => some answered.2) stopped
  · simp only [Option.bind_eq_bind, Option.bind_some]
    split
    · rfl
    · exact left.push?_raw run value

lemma moveArguments?_raw (count : Nat) (address : UInt32) :
    RawMachine.moveArguments? count address (machine.raw run)
      = some ((moveArguments count address machine).raw run) := by
  induction count generalizing machine address with
  | zero => rfl
  | succ count ih =>
    simp only [RawMachine.moveArguments?, moveArguments, pop?_raw,
      withMemory?_raw _ run (·.writeLong?_eq _ _), Option.bind_eq_bind, Option.bind_some]
    exact ih _ _

lemma writeFrame?_raw (stack : UInt32) (object vars start top : UInt16) :
    (machine.raw run).writeFrame? stack object vars start top
      = some ((machine.withMemory fun memory =>
          (((memory.writeWord (stack - 8) object).writeWord (stack - 6) vars).writeWord
            (stack - 4) start).writeWord (stack - 2) top).raw run) := by
  refine machine.withMemory?_raw run fun memory => ?_
  simp only [Memory.writeWord?_eq, Option.bind_eq_bind, Option.bind_some]

lemma startMethod?_raw :
    (machine.raw run).startMethod?
      = some (machine.startMethod.1, machine.startMethod.2.raw run) := by
  have cell (machine : SpinMachine τ) : (machine.raw run).body.parts.namedCell? frameCell
      = some (machine.body.cell frameCell) := machine.body.parts.namedCell?_eq (by decide)
  simp only [RawMachine.startMethod?, pop?_raw, raw_frames, raw_memory, Memory.readWord?_eq,
    writeFrame?_raw, moveArguments?_raw, cell, Memory.readLong?_eq,
    withMemory?_raw _ run (·.writeLong?_eq _ _), service?_raw, Option.bind_eq_bind,
    Option.bind_some]
  rfl

lemma startNative?_raw :
    (machine.raw run).startNative?
      = some (machine.startNative.1, machine.startNative.2.raw run) := by
  simp only [RawMachine.startNative?, pop?_raw, service?_raw, Option.bind_eq_bind,
    Option.bind_some]
  rfl

/-- **A start of a cog** finds the method, its arguments and the interpreter's own cells. -/
theorem startCog?_raw :
    (machine.raw run).startCog? = some (machine.startCog.1, machine.startCog.2.raw run) := by
  rw [RawMachine.startCog?, startCog, raw_frames]
  split
  · rw [withFrames_raw, startMethod?_raw]
  · exact machine.startNative?_raw run

end SpinMachine

end P1Chip
