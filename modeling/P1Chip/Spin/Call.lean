import P1Chip.Spin.Machine

/-!
# Calling methods and starting cogs

* `SpinMachine.openFrame`, `SpinMachine.call` — the two stages of a call.
* `SpinMachine.leave` — a return, or an abort that unwinds calls until one traps it.
* `SpinMachine.startCog` — a method or a native program in a cog of its own.
-/

namespace P1Chip.SpinMachine

variable {τ : Type} [Timebase τ]

/-! ## Calls -/

/-- Opens a frame: the caller's pointers are saved, and room is left for the return address, which
the call fills in, and for the result, which is zero at first. -/
def openFrame (machine : SpinMachine τ) (kind : FrameKind) : SpinMachine τ :=
  let frames := machine.frames
  let machine :=
    ((machine.pushWord frames.object).pushWord frames.vars).pushWord frames.locals
  let returnAddress := machine.frames.stack
  let machine := machine.withFrames fun frames =>
    { frames with
      openFrames := kind :: frames.openFrames
      pendingCalls := returnAddress :: frames.pendingCalls }
  (machine.pushWord 0).push 0

/-- Turns to a child object.  The next byte of the code has its number in the object's table; for
an array of objects an index is popped and added. -/
def enterChild (machine : SpinMachine τ) (element : Bool) : SpinMachine τ :=
  let (number, machine) := machine.nextByte
  let (index, machine) := if element then machine.pop else (0, machine)
  let entry := number.toUInt32 * 4 + machine.frames.object + index * 4
  let memory := machine.hub.memory
  let object := machine.frames.object + (memory.readWord entry).toUInt32
  let vars := machine.frames.vars + (memory.readWord (entry + 2)).toUInt32
  machine.withFrames ({ · with object, vars })

/-- Calls a method in the frame that was opened last, whose number is the next byte of the code.
The method's entry in the object's table has its start and the size of its locals.  `pc` is the
address of the call. -/
def call (machine : SpinMachine τ) (target : CallTarget) (pc : UInt32) : SpinOutcome τ :=
  let machine :=
    match target with
    | .own => machine
    | .child => machine.enterChild false
    | .childElement => machine.enterChild true
  let (number, machine) := machine.nextByte
  let entry := number.toUInt32 * 4 + machine.frames.object
  match machine.frames.pendingCalls with
  | [] => machine.raise (.callWithoutFrame pc)
  | returnAddress :: pendingCalls =>
    let back := machine.body.pc
    let machine := machine.withMemory (·.writeWord returnAddress back.toUInt16)
    let memory := machine.hub.memory
    let start := machine.frames.object + (memory.readWord entry).toUInt32
    let stack := machine.frames.stack + (memory.readWord (entry + 2)).toUInt32
    let machine := machine.withPc start
    (machine.withFrames fun frames =>
      { frames with pendingCalls, locals := returnAddress + 2, stack }).done

/-- Takes the caller's pointers from below the locals of the current method. -/
def restoreCaller (machine : SpinMachine τ) : SpinMachine τ :=
  let (pc, machine) := machine.popWord
  let (locals, machine) := machine.popWord
  let (vars, machine) := machine.popWord
  let (object, machine) := machine.popWord
  (machine.withPc pc).withFrames ({ · with locals, vars, object })

/-- Leaves the current method, and after an abort its callers too, up to one whose frame traps
aborts.  Tells the kind of the last frame that was left; there is none when the first method was
reached. -/
def unwind (abort : Bool) : List FrameKind → SpinMachine τ → Option FrameKind × SpinMachine τ
  | [], machine =>
    let machine := machine.withStack machine.frames.locals
    (none, machine.withFrames ({ · with openFrames := [] }))
  | kind :: openFrames, machine =>
    let machine := (machine.withStack machine.frames.locals).withFrames ({ · with openFrames })
    let machine := machine.restoreCaller
    if !abort || kind.trapsAborts then (some kind, machine) else unwind abort openFrames machine

/-- Returns from the current method with a result, or aborts it.  Leaving the first method stops
the cog. -/
def leave (machine : SpinMachine τ) (value : UInt32) (abort : Bool) : SpinMachine τ :=
  match unwind abort machine.frames.openFrames machine with
  | (none, machine) => (machine.service .stopCog machine.body.id).2
  | (some kind, machine) => if kind.dropsResult then machine else machine.push value

/-! ## Starting cogs -/

/-- The cell in which an interpreter keeps the address of its first frame. -/
def frameCell : UInt32 := 0x1EF

/-- The cell in which an interpreter keeps the number of its cog. -/
def idCell : UInt32 := 0x1E9

/-- Moves popped arguments to consecutive longs, the last one to `address`. -/
def moveArguments : Nat → UInt32 → SpinMachine τ → SpinMachine τ
  | 0, _, machine => machine
  | count + 1, address, machine =>
    let (value, machine) := machine.pop
    moveArguments count (address - 4) (machine.withMemory (·.writeLong address value))

/-- What the hub is asked for: the program and parameter fields of the argument, and the number of
the cog, of which eight and more mean any free one. -/
def startArgument (fields cog : UInt32) : UInt32 :=
  fields ||| (if cog < 8 then cog else 8)

/-- Starts a method of the current object in a cog of its own.  The stack of the new cog, the
method and the number of its arguments are popped, then the arguments.  They are laid out on the
new stack the way a call would do, behind a frame from which the new interpreter boots. -/
def startMethod (machine : SpinMachine τ) : HubAnswer × SpinMachine τ :=
  let (top, machine) := machine.pop
  let stack := (top + 11) &&& 0xFFFFFFFC
  let (packed, machine) := machine.pop
  let count := (packed >>> 8) &&& 0xFF
  let object := machine.frames.object
  let vars := machine.frames.vars
  let entry := object + (packed &&& 0xFF) * 4
  let memory := machine.hub.memory
  let start := (memory.readWord entry).toUInt32 + object
  let lastArgument := count * 4 + stack - 4
  let methodStack := (memory.readWord (entry + 2)).toUInt32 + lastArgument + 4
  let machine := machine.withMemory fun memory =>
    (((memory.writeWord (stack - 8) object.toUInt16).writeWord
      (stack - 6) vars.toUInt16).writeWord
      (stack - 4) start.toUInt16).writeWord
      (stack - 2) (methodStack + 4).toUInt16
  let machine := moveArguments count.toNat lastArgument machine
  let slot := machine.body.cell frameCell - 4
  let cog := machine.hub.memory.readLong slot
  let machine := machine.withMemory (·.writeLong slot Word.ones)
  machine.service .startCog (startArgument ((interpreterEntry <<< 2) ||| (stack <<< 16)) cog)

/-- Starts a native program.  Parameter, program and number of the cog are popped. -/
def startNative (machine : SpinMachine τ) : HubAnswer × SpinMachine τ :=
  let (parameter, machine) := machine.pop
  let (program, machine) := machine.pop
  let (cog, machine) := machine.pop
  machine.service .startCog
    (startArgument (((program &&& 0xFFFC) <<< 2) ||| ((parameter &&& 0xFFFC) <<< 16)) cog)

/-- Starts a method if one was announced, and a native program otherwise. -/
def startCog (machine : SpinMachine τ) : HubAnswer × SpinMachine τ :=
  if machine.frames.startsMethod then
    (machine.withFrames ({ · with startsMethod := false })).startMethod
  else
    machine.startNative

end P1Chip.SpinMachine
