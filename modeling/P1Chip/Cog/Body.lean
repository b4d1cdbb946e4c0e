import P1Chip.Cog.RunState
import P1Chip.Counter
import P1Chip.Hub
import P1Chip.Video

/-!
# What all cogs have

A cog has 512 longs of memory, two counters with their phase-locked loops and a video generator,
whatever it executes.

* `CogBody` — these parts.
* `CogBody.readRegister`, `CogBody.writeRegister` — registers as instructions see them.
* `CogBody.out`, `CogBody.dir` — what the cog does with the pins.
-/

namespace P1Chip

/-- The parts that every cog has. -/
structure CogBody (τ : Type) where
  /-- Number of the cog. -/
  id : UInt32
  memory : Vector UInt32 cogLongs
  /-- The program counter: the address of a register, or of a bytecode in hub memory. -/
  pc : UInt32
  /-- The program counter that stops the chip. -/
  breakpoint? : Option UInt32
  state : RunState
  /-- Hub address of the next long of the program to be loaded. -/
  programAddress : UInt32
  counterA : Counter
  counterB : Counter
  video : Video
  plls : PllPair τ
  frameFlag : FrameFlag
  /-- Number of turns on the hub that the cog had. -/
  hubAccesses : UInt64
deriving Inhabited

namespace CogBody

variable {τ : Type} [Timebase τ]

/-! ## Registers -/

/-- The long at an address of cog memory, of which only the low nine bits count. -/
def cell (body : CogBody τ) (address : UInt32) : UInt32 :=
  body.memory[Fin.ofNat cogLongs address.toNat]

/-- The cog with another long at an address of its memory. -/
def setCell (body : CogBody τ) (address value : UInt32) : CogBody τ :=
  { body with memory := body.memory.set (Fin.ofNat cogLongs address.toNat) value }

/-- A register as an instruction reads it.  Counter and pins come from the hub, and the registers
of the counters and the video generator from those parts. -/
def readRegister (body : CogBody τ) (hub : Hub) (address : UInt32) : UInt32 :=
  match SpecialRegister.at? address with
  | some .cnt => hub.counter
  | some .ina => hub.inputA
  | some .inb => hub.inputB
  | some .ctra => body.counterA.control
  | some .ctrb => body.counterB.control
  | some .frqa => body.counterA.frequency
  | some .frqb => body.counterB.frequency
  | some .phsa => body.counterA.phase
  | some .phsb => body.counterB.phase
  | some .vcfg => body.video.config
  | some .vscl => body.video.scale
  | _ => body.cell address

/-- Writes a register as an instruction does; `running` has the running cogs.  What goes to system
counter and pins is dropped.  The parameter register can be written: its description says
otherwise, but the hardware accepts it and programs rely on that. -/
def writeRegister (body : CogBody τ) (running : UInt8) (address value : UInt32) : CogBody τ :=
  match SpecialRegister.at? address with
  | some .cnt | some .ina | some .inb => body
  | some .ctra =>
    let (counterA, plls) := body.counterA.setControl value body.plls
    { body with counterA, plls }
  | some .ctrb =>
    let (counterB, plls) := body.counterB.setControl value body.plls
    { body with counterB, plls }
  | some .frqa =>
    let (counterA, plls) := body.counterA.setFrequency value body.plls
    { body with counterA, plls }
  | some .frqb =>
    let (counterB, plls) := body.counterB.setFrequency value body.plls
    { body with counterB, plls }
  | some .phsa => { body with counterA := body.counterA.setPhase value }
  | some .phsb => { body with counterB := body.counterB.setPhase value }
  | some .vcfg => { body with video := body.video.setConfig value running }
  | some .vscl => { body with video := body.video.setScale value }
  | _ => body.setCell address value

/-- A cog that is about to load its program. -/
def new (id program parameter coreFrequency : UInt32) : CogBody τ where
  id
  memory := (Vector.replicate cogLongs 0).set 0x1F0 parameter
  pc := 0
  breakpoint? := none
  state := .loadProgram 0
  programAddress := program
  counterA := .new .a
  counterB := .new .b
  video := .off
  plls := PllPair.off.setBaseFrequency coreFrequency
  frameFlag := .none
  hubAccesses := 0

/-! ## Pins -/

/-- The 64 pins whose lower half is one register and whose upper half another. -/
def pinPair (low high : UInt32) : UInt64 :=
  low.toUInt64 ||| (high.toUInt64 <<< 32)

/-- Pins that the cog drives high, whether or not they are outputs. -/
def out (body : CogBody τ) : UInt64 :=
  pinPair (body.cell SpecialRegister.outa.address) (body.cell SpecialRegister.outb.address)
    ||| body.counterA.output body.plls
    ||| body.counterB.output body.plls
    ||| body.video.output

/-- Pins that the cog has as outputs. -/
def dir (body : CogBody τ) : UInt64 :=
  pinPair (body.cell SpecialRegister.dira.address) (body.cell SpecialRegister.dirb.address)

/-! ## Steps that all cogs share -/

/-- Copies the next long of the program from hub memory.  Tells whether it was the last one; the
cog then still is in the same state, and is to be booted. -/
def loadNext (body : CogBody τ) (hub : Hub) (next : Fin programLongs) : Bool × CogBody τ :=
  let long := hub.memory.readLong body.programAddress
  let memory := body.memory.set next.val long (Nat.lt_trans next.isLt (by decide))
  let programAddress := body.programAddress + 4
  if h : next.val + 1 < programLongs then
    (false, { body with memory, programAddress, state := .loadProgram ⟨next.val + 1, h⟩ })
  else
    (true, { body with memory, programAddress })

/-- One system clock for both counters. -/
def tickCounters (body : CogBody τ) (pins : UInt64) : CogBody τ :=
  { body with
    counterA := body.counterA.tick pins
    counterB := body.counterB.tick pins }

end CogBody

end P1Chip
