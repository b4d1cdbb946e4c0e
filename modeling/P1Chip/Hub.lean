import P1Chip.BitSet8
import P1Chip.HubOperation
import P1Chip.Memory.Basic
import P1Chip.Pins.State

/-!
# The hub

The hub is what the cogs share: memory, locks, the system counter, the ring that takes turns
between the cogs, the clock settings and the pins.  A request that concerns cogs or clocks cannot
be carried out while a cog is working, so the hub puts it in a queue, and whoever runs the cogs
carries it out afterwards.

* `Hub` — the shared state.
* `Hub.execute` — the services of the hub.
* `Hub.advanceRing` — whose turn it is.
* `Hub.updatePins`, `Hub.pinStates` — the pins.
-/

namespace P1Chip

/-- A request that waits until the cogs have finished their step. -/
inductive HubAction where
  | start (cog : Fin 8) (engine : EngineKind) (program parameter : UInt32)
  | stop (cog : Fin 8)
  | setClockMode (mode : ClockMode)
deriving DecidableEq, Repr, Inhabited

/-- What a service of the hub answers. -/
structure HubAnswer where
  value : UInt32
  carry : Bool
  zero : Bool
deriving DecidableEq, Repr, Inhabited

namespace HubAnswer

/-- The answer with the given value and carry flag; the zero flag says whether the value is
zero. -/
def of (value : UInt32) (carry : Bool) : HubAnswer where
  value
  carry
  zero := value == 0

/-- The answer of a service that has run out of cogs or locks: all ones, with the carry flag. -/
def noneFree : HubAnswer :=
  of 0xFFFFFFFF true

end HubAnswer

/-- The state that all cogs share. -/
structure Hub where
  memory : Memory
  /-- Locks that nobody has allocated. -/
  freeLocks : UInt8
  /-- Locks that are set. -/
  setLocks : UInt8
  /-- The system counter. -/
  counter : UInt32
  /-- Position of the ring; at an even position one of the cogs has its turn. -/
  ring : Fin 16
  clockMode : ClockMode
  /-- The system clock in hertz. -/
  coreFrequency : UInt32
  /-- The crystal, or the clock input, in hertz. -/
  crystalFrequency : UInt32
  external : ExternalDrive
  /-- Pins that some cog drives high. -/
  out : UInt64
  /-- Pins that some cog has as outputs. -/
  dir : UInt64
  /-- What the cogs read from the pins. -/
  input : UInt64
  /-- Cogs that run or are about to start. -/
  running : UInt8
  /-- Requests that wait, the oldest first. -/
  queue : List HubAction
deriving Inhabited

namespace Hub

/-- The hub of a chip that was just switched on. -/
def new (memory : Memory) : Hub where
  memory
  freeLocks := 0xFF
  setLocks := 0
  counter := 0
  ring := 0
  clockMode := ⟨0⟩
  coreFrequency := ClockMode.fastInternal
  crystalFrequency := 0
  external := .none
  out := 0
  dir := 0
  input := 0
  running := 0
  queue := []

/-! ## Pins -/

/-- Lets the cogs read the pins as they are now: an output reads what the cogs put on it, and any
other pin what drives it from outside. -/
def refreshInput (hub : Hub) : Hub :=
  { hub with input := (hub.out &&& hub.dir) ||| (hub.external.high &&& ~~~ hub.dir) }

/-- Takes over what all cogs together put out. -/
def updatePins (hub : Hub) (out dir : UInt64) : Hub :=
  { hub with out, dir }.refreshInput

/-- The lower half of the pins. -/
def inputA (hub : Hub) : UInt32 :=
  hub.input.toUInt32

/-- The upper half of the pins. -/
def inputB (hub : Hub) : UInt32 :=
  (hub.input >>> 32).toUInt32

/-- The state of a pin as seen from outside. -/
def pinState (hub : Hub) (pin : UInt32) : PinState :=
  let mask := pinMask pin
  if hub.dir &&& mask != 0 then
    if hub.out &&& mask != 0 then .outputHigh else .outputLow
  else if hub.external.floating &&& mask != 0 then .floating
  else if hub.external.high &&& mask != 0 then .inputHigh
  else .inputLow

/-- The states of all pins as seen from outside. -/
def pinStates (hub : Hub) : PinStates :=
  Vector.ofFn fun i => hub.pinState (UInt32.ofNat i.val)

/-- Drives a pin from outside.  The cogs read it once the input is refreshed. -/
def drivePin (hub : Hub) (pin : UInt32) (floating high : Bool) : Hub :=
  { hub with external := hub.external.drive pin floating high }

/-! ## Memory -/

/-- The hub with other memory. -/
def withMemory (hub : Hub) (change : Memory → Memory) : Hub :=
  { hub with memory := change hub.memory }

/-- What stands at an address of hub memory, in the given size. -/
def read (hub : Hub) (size : DataSize) (address : UInt32) : UInt32 :=
  hub.memory.read size address

/-- The hub with another value of the given size at an address of hub memory. -/
def write (hub : Hub) (size : DataSize) (address value : UInt32) : Hub :=
  hub.withMemory (·.write size address value)

/-! ## Clocks and turns -/

/-- Locks, counter, ring and cogs as after switching on.  Memory, clock settings and what drives
the pins from outside stay. -/
def reset (hub : Hub) : Hub :=
  { hub with
    freeLocks := 0xFF
    setLocks := 0
    counter := 0
    ring := 0
    running := 0
    queue := [] }.updatePins 0 0

/-- One more system clock. -/
def incrementCounter (hub : Hub) : Hub :=
  { hub with counter := hub.counter + 1 }

/-- Moves the ring on, and tells which cog has its turn. -/
def advanceRing (hub : Hub) : Option (Fin 8) × Hub :=
  let ring := Word.lowFourBits (hub.ring.val + 1)
  let turn := if ring.val % 2 = 0 then some (Word.lowThreeBits (ring.val / 2)) else none
  (turn, { hub with ring })

/-- Takes over a clock mode, and with it another system clock. -/
def setClockMode (hub : Hub) (mode : ClockMode) : Hub :=
  { hub with
    clockMode := mode
    coreFrequency := mode.coreFrequency hub.crystalFrequency }

/-! ## Services -/

/-- Notes that a cog runs, or that it does not. -/
def markRunning (hub : Hub) (cog : Fin 8) (running : Bool) : Hub :=
  { hub with running := BitSet8.put hub.running cog running }

/-- Takes all waiting requests out of the queue. -/
def takeActions (hub : Hub) : List HubAction × Hub :=
  (hub.queue, { hub with queue := [] })

/-- Puts a request at the end of the queue. -/
def enqueue (hub : Hub) (action : HubAction) : Hub :=
  { hub with queue := hub.queue ++ [action] }

/-- The cog that a request is for: the one that it names, or the idle one with the lowest
number. -/
def chooseCog? (hub : Hub) : CogChoice → Option (Fin 8)
  | .specific cog => some cog
  | .anyFree => BitSet8.lowest? (~~~ hub.running)

/-- Has a cog started, and stopped before if it runs.  The cog counts as running from now on, so
that the next request for any free cog gets another one. -/
def startCog (hub : Hub) (request : StartRequest) : HubAnswer × Hub :=
  match hub.chooseCog? request.cog with
  | none => (.noneFree, hub)
  | some cog =>
    let hub := if BitSet8.contains hub.running cog then hub.enqueue (.stop cog) else hub
    let hub := hub.markRunning cog true
    let hub := hub.enqueue (.start cog request.engine request.program request.parameter)
    (.of (UInt32.ofNat cog.val) false, hub)

/-- Allocates the free lock with the lowest number. -/
def newLock (hub : Hub) : HubAnswer × Hub :=
  match BitSet8.lowest? hub.freeLocks with
  | none => (.noneFree, hub)
  | some lock =>
    (.of (UInt32.ofNat lock.val) false, { hub with freeLocks := BitSet8.erase hub.freeLocks lock })

/-- Carries out a service for a cog.  Having no cog or lock left is no error: the answer says
so. -/
def execute (hub : Hub) (caller : UInt32) (operation : HubOperation) (argument : UInt32) :
    HubAnswer × Hub :=
  let member := Word.lowThreeBits argument.toNat
  match operation with
  | .setClock => (.of argument false, hub.enqueue (.setClockMode ⟨argument.toUInt8⟩))
  | .cogId => (.of caller false, hub)
  | .startCog => hub.startCog (StartRequest.decode argument)
  | .stopCog => (.of argument false, (hub.markRunning member false).enqueue (.stop member))
  | .newLock => hub.newLock
  | .returnLock =>
    (.of argument false, { hub with freeLocks := BitSet8.insert hub.freeLocks member })
  | .setLock =>
    (.of argument (BitSet8.contains hub.setLocks member),
      { hub with setLocks := BitSet8.insert hub.setLocks member })
  | .clearLock =>
    (.of argument (BitSet8.contains hub.setLocks member),
      { hub with setLocks := BitSet8.erase hub.setLocks member })

end Hub

end P1Chip
