import P1Chip.Clock.Oscillator
import P1Chip.Cog.Basic
import P1Chip.Pins.Plugin

/-!
# The chip

The chip has a hub, eight slots for cogs, the system oscillator and the plugins on its pins.

* `Chip` — these parts.
* `Chip.switchedOn` — a chip without a program.
* `Chip.load`, `Chip.reset` — start a program.
* `Chip.setClockMode`, `Chip.applyActions` — carry out what the hub cannot do by itself.
* `Chip.notifyPins` — tell the plugins what has become of the pins.
-/

namespace P1Chip

/-- The whole chip.  `τ` is the type of times and `π` that of plugins. -/
structure Chip (τ π : Type) where
  hub : Hub
  /-- The slots; a cog that does not run leaves its slot empty. -/
  cogs : Vector (Option (Cog τ)) 8
  oscillator : Oscillator τ
  /-- Seconds since the last reset. -/
  time : τ
  /-- The memory that a reset brings back. -/
  resetMemory : Memory
  plugins : PluginSet π
  frameBreak : FrameBreak

namespace Chip

variable {τ π : Type} [Timebase τ] [Plugin τ π]

/-- The numbers of all slots, in the order in which the cogs step. -/
def slots : List (Fin 8) := List.finRange 8

/-- Slots without any cog. -/
def emptySlots : Vector (Option (Cog τ)) 8 :=
  Vector.replicate 8 none

/-! ## Cogs -/

/-- The cog in a slot; there is none in an empty slot or beyond the last one. -/
def cog? (chip : Chip τ π) (id : Nat) : Option (Cog τ) :=
  if h : id < 8 then chip.cogs[id] else none

/-- Takes the cog out of a slot. -/
def takeCog (chip : Chip τ π) (id : Fin 8) : Option (Cog τ) × Chip τ π :=
  let cog? := chip.cogs[id]
  (cog?, { chip with cogs := chip.cogs.set id none })

/-- Puts a cog into a slot. -/
def putCog (chip : Chip τ π) (id : Fin 8) (cog : Cog τ) : Chip τ π :=
  { chip with cogs := chip.cogs.set id (some cog) }

/-- Changes all cogs. -/
def mapCogs (chip : Chip τ π) (change : Cog τ → Cog τ) : Chip τ π :=
  { chip with cogs := chip.cogs.map (·.map change) }

/-- Starts a new cog in a slot. -/
def startCog (chip : Chip τ π) (id : Fin 8) (engine : EngineKind) (program parameter : UInt32) :
    Chip τ π :=
  let cog := Cog.new (UInt32.ofNat id.val) engine program parameter chip.hub.coreFrequency
  { chip.putCog id cog with hub := chip.hub.markRunning id true }

/-- Stops the cog in a slot.  No video generator listens to it any more. -/
def stopCog (chip : Chip τ π) (id : Fin 8) : Chip τ π :=
  let chip := chip.mapCogs fun cog => cog.withVideo (·.detachAural id)
  { (chip.takeCog id).2 with hub := chip.hub.markRunning id false }

/-! ## Pins -/

/-- Pins that some cog drives high, and pins that some cog has as outputs. -/
def cogPins (chip : Chip τ π) : UInt64 × UInt64 :=
  chip.cogs.foldl
    (fun pins cog? =>
      match cog? with
      | some cog => (pins.1 ||| cog.body.out, pins.2 ||| cog.body.dir)
      | none => pins)
    (0, 0)

/-- Puts what the cogs drive onto the pins.  Tells whether anything has changed on the pins, from
inside or from outside. -/
def refreshPins (chip : Chip τ π) : Bool × Chip τ π :=
  let before := chip.hub
  let (out, dir) := chip.cogPins
  let hub := before.updatePins out dir
  let (changed, external) := hub.external.takeChanged
  let differs := hub.input != before.input || hub.out != before.out || hub.dir != before.dir
  (changed || differs, { chip with hub := { hub with external } })

/-- Puts what the cogs drive onto the pins, and tells the plugins if anything has changed.  The
cogs then read what the plugins drive, but the plugins hear of that only the next time. -/
def notifyPins (chip : Chip τ π) : Chip τ π :=
  let (changed, chip) := chip.refreshPins
  if changed then
    let (plugins, external) :=
      chip.plugins.deliverPins chip.time chip.hub.pinStates chip.hub.external
    { chip with plugins, hub := { chip.hub with external }.refreshInput }
  else
    chip

/-- Drives a pin from outside. -/
def drivePin (chip : Chip τ π) (pin : UInt32) (floating high : Bool) : Chip τ π :=
  { chip with hub := (chip.hub.drivePin pin floating high).refreshInput }

/-! ## Clock mode and reset -/

/-- Takes over a clock mode, and tells all clocks of the new system clock. -/
def applyClockMode (chip : Chip τ π) (mode : ClockMode) : Chip τ π :=
  let hub := chip.hub.setClockMode mode
  let chip := chip.mapCogs (·.setCoreFrequency hub.coreFrequency)
  { chip with hub, oscillator := chip.oscillator.setFrequency hub.coreFrequency }

/-- Starts the loaded program over: memory is as it was after loading, nothing is left of what
the cogs did, and the first cog starts to interpret the program's first method, whose frame is
built from the header. -/
def reset (chip : Chip τ π) : Chip τ π :=
  let chip :=
    { chip with
      hub := { chip.hub with memory := chip.resetMemory }.reset
      time := Timebase.ofNat 0
      cogs := emptySlots
      oscillator := .stopped
      plugins := chip.plugins.deliverReset τ }
  let chip := chip.notifyPins
  let chip := chip.applyClockMode chip.hub.clockMode.withoutReset
  let header := chip.hub.memory.header
  let frame := header.bootFrame.toUInt32
  let hub := chip.hub.withMemory fun memory =>
    (((memory.writeWord (frame - 8) header.objectBase).writeWord
      (frame - 6) header.variableBase).writeWord
      (frame - 4) header.programCounter).writeWord
      (frame - 2) header.stackPointer
  { chip with hub }.startCog ⟨0, Nat.zero_lt_succ 7⟩ .interpreted interpreterEntry frame

/-- Changes the clock mode, as the hub's service does.  A mode with the reset bit resets the
chip. -/
def setClockMode (chip : Chip τ π) (mode : ClockMode) : Chip τ π :=
  if mode.resets then
    { chip with hub := chip.hub.setClockMode mode }.reset
  else
    chip.applyClockMode mode

/-! ## Switching on and loading -/

/-- A chip with the given memory, before any program was loaded. -/
def switchedOn (memory : Memory) : Chip τ π :=
  applyClockMode
    { hub := .new memory
      cogs := emptySlots
      oscillator := .stopped
      time := Timebase.ofNat 0
      resetMemory := memory
      plugins := .empty
      frameBreak := .none }
    ⟨0⟩

/-- Loads a program and starts it.  An image that is empty or does not fit is refused.  The header
tells which crystal the program expects, if it needs one. -/
def load (chip : Chip τ π) (image : ByteArray) : Except ImageSizeError (Chip τ π) :=
  if image.size = 0 then
    .error .empty
  else if image.size > halfSize then
    .error (.tooLarge image.size halfSize)
  else
    let header := ImageHeader.ofImage image
    let crystal? := header.clockMode.crystalFrequency? header.clockFrequency
    let crystalFrequency := crystal?.getD chip.hub.crystalFrequency
    let hub := { chip.hub with crystalFrequency }.setClockMode header.clockMode
    let trap := header.bootFrame.toUInt32 - 8
    let hub := hub.withMemory fun memory =>
      ((memory.clear.load image).writeLong trap ImageHeader.terminationTrap).writeLong
        (trap + 4) ImageHeader.terminationTrap
    .ok { chip with hub, resetMemory := hub.memory }.reset

/-! ## What the hub has queued -/

/-- Carries out requests, one after the other.  One that resets the chip makes away with those
after it. -/
def perform : List HubAction → Chip τ π → Chip τ π
  | [], chip => chip
  | .start cog engine program parameter :: rest, chip =>
    perform rest (chip.startCog cog engine program parameter)
  | .stop cog :: rest, chip => perform rest (chip.stopCog cog)
  | .setClockMode mode :: rest, chip =>
    if mode.resets then chip.setClockMode mode else perform rest (chip.setClockMode mode)

/-- Carries out everything in the queue of the hub. -/
def applyActions (chip : Chip τ π) : Chip τ π :=
  let (actions, hub) := chip.hub.takeActions
  perform actions { chip with hub }

end Chip

end P1Chip
