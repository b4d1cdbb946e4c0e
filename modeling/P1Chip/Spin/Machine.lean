import P1Chip.Bytecode.Offset
import P1Chip.Bytecode.Special
import P1Chip.Cog.Body
import P1Chip.Fault
import P1Chip.Spin.Arithmetic

/-!
# The bytecode machine

An interpreted cog keeps four pointers into hub memory: to the code and constants of the current
object, to its variables, to the locals of the current method, and to the top of the stack, which
grows upwards.

A call is made in two stages.  First a frame is opened: the caller's pointers are saved on the
stack, with room for the return address and the result.  Then come the arguments, and at last the
call itself fills in the return address and jumps.

* `SpinFrames` — the pointers, and what is remembered of frames.
* `SpinMachine` — an interpreted cog together with the hub, for one bytecode.
* `SpinMachine.push`, `SpinMachine.pop` — the stack.
* `SpinMachine.nextByte`, `SpinMachine.branchOffset` — the code.
-/

namespace P1Chip

/-- What the waiting bytecodes wait for. -/
structure WaitOperands where
  /-- Whether the upper half of the pins is looked at. -/
  upperHalf : Bool
  mask : UInt32
  target : UInt32
  colors : UInt32
  pixels : UInt32
deriving DecidableEq, Repr, Inhabited

/-- What the interpreter keeps between bytecodes. -/
structure SpinFrames where
  /-- Start of the current object's code and constants. -/
  object : UInt32
  /-- Start of the current object's variables. -/
  vars : UInt32
  /-- Start of the current method's locals, the first of which is its result. -/
  locals : UInt32
  /-- The first free place on the stack. -/
  stack : UInt32
  /-- The kinds of all frames that were opened and not left yet, the innermost first. -/
  openFrames : List FrameKind
  /-- Where the return addresses go of the frames that were opened and not called yet, the
  innermost first. -/
  pendingCalls : List UInt32
  /-- Whether the next start of a cog starts a method. -/
  startsMethod : Bool
  wait : WaitOperands
deriving DecidableEq, Repr, Inhabited

namespace SpinFrames

/-- The frames of an interpreter that was not booted yet. -/
def new : SpinFrames where
  object := 0
  vars := 0
  locals := 0
  stack := 0
  openFrames := []
  pendingCalls := []
  startsMethod := false
  wait := ⟨false, 0, 0, 0, 0⟩

end SpinFrames

/-- An interpreted cog and the hub. -/
structure SpinMachine (τ : Type) where
  frames : SpinFrames
  body : CogBody τ
  hub : Hub
deriving Inhabited

/-- The machine after an operation, and the fault that was raised, if any. -/
structure SpinOutcome (τ : Type) where
  machine : SpinMachine τ
  fault? : Option FaultKind
deriving Inhabited

namespace SpinMachine

variable {τ : Type} [Timebase τ]

/-- The operation is finished. -/
def done (machine : SpinMachine τ) : SpinOutcome τ :=
  ⟨machine, none⟩

/-- The operation raised a fault. -/
def raise (machine : SpinMachine τ) (fault : FaultKind) : SpinOutcome τ :=
  ⟨machine, some fault⟩

/-- The machine with other hub memory. -/
def withMemory (machine : SpinMachine τ) (change : Memory → Memory) : SpinMachine τ :=
  { machine with hub := machine.hub.withMemory change }

/-- The machine with other frames. -/
def withFrames (machine : SpinMachine τ) (change : SpinFrames → SpinFrames) : SpinMachine τ :=
  { machine with frames := change machine.frames }

/-- The machine going on at another address. -/
def withPc (machine : SpinMachine τ) (pc : UInt32) : SpinMachine τ :=
  { machine with body := { machine.body with pc } }

/-- The machine with its stack ending somewhere else. -/
def withStack (machine : SpinMachine τ) (stack : UInt32) : SpinMachine τ :=
  machine.withFrames ({ · with stack })

/-! ## The stack -/

/-- Puts a long on the stack. -/
def push (machine : SpinMachine τ) (value : UInt32) : SpinMachine τ :=
  let stack := machine.frames.stack
  (machine.withMemory (·.writeLong stack value)).withStack (stack + 4)

/-- Takes a long from the stack. -/
def pop (machine : SpinMachine τ) : UInt32 × SpinMachine τ :=
  let stack := machine.frames.stack - 4
  (machine.hub.memory.readLong stack, machine.withStack stack)

/-- Puts a word on the stack, the low half of `value`. -/
def pushWord (machine : SpinMachine τ) (value : UInt32) : SpinMachine τ :=
  let stack := machine.frames.stack
  (machine.withMemory (·.writeWord stack value.toUInt16)).withStack (stack + 2)

/-- Takes a word from the stack. -/
def popWord (machine : SpinMachine τ) : UInt32 × SpinMachine τ :=
  let stack := machine.frames.stack - 2
  ((machine.hub.memory.readWord stack).toUInt32, machine.withStack stack)

/-! ## The code -/

/-- Takes the next byte of the code. -/
def nextByte (machine : SpinMachine τ) : UInt8 × SpinMachine τ :=
  let pc := machine.body.pc
  (machine.hub.memory.readByte pc, machine.withPc (pc + 1))

/-- Takes a packed offset from the code, which is read by `value`. -/
def nextOffset (machine : SpinMachine τ) (value : UInt8 → UInt8 → UInt32) :
    UInt32 × SpinMachine τ :=
  let pc := machine.body.pc
  let first := machine.hub.memory.readByte pc
  let second := machine.hub.memory.readByte (pc + 1)
  (value first second, machine.withPc (pc + PackedOffset.size first))

/-- Takes the offset of a branch from the code. -/
def branchOffset (machine : SpinMachine τ) : UInt32 × SpinMachine τ :=
  machine.nextOffset PackedOffset.signed

/-- Takes the offset of a variable from the code. -/
def variableOffset (machine : SpinMachine τ) : UInt32 × SpinMachine τ :=
  machine.nextOffset PackedOffset.unsigned

/-- Goes on at a distance from here, if `taken`. -/
def branchIf (machine : SpinMachine τ) (taken : Bool) (offset : UInt32) : SpinMachine τ :=
  if taken then machine.withPc (machine.body.pc + offset) else machine

/-- Goes on at a distance from the start of the object. -/
def jumpInObject (machine : SpinMachine τ) (offset : UInt32) : SpinMachine τ :=
  machine.withPc (offset + machine.frames.object)

/-- Leaves the clock of the interpreter alone and waits instead. -/
def waitFor (machine : SpinMachine τ) (wait : Wait) : SpinMachine τ :=
  { machine with body := { machine.body with state := .waiting wait } }

/-! ## Registers and the hub -/

/-- A register of the cog, as instructions read it. -/
def readRegister (machine : SpinMachine τ) (address : UInt32) : UInt32 :=
  machine.body.readRegister machine.hub address

/-- Writes a register of the cog, as instructions do. -/
def writeRegister (machine : SpinMachine τ) (address value : UInt32) : SpinMachine τ :=
  { machine with body := machine.body.writeRegister machine.hub.running address value }

/-- Asks the hub for a service. -/
def service (machine : SpinMachine τ) (operation : HubOperation) (argument : UInt32) :
    HubAnswer × SpinMachine τ :=
  let (answer, hub) := machine.hub.execute machine.body.id operation argument
  (answer, { machine with hub })

end SpinMachine

end P1Chip
