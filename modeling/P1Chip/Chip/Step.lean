import P1Chip.Chip.Basic

/-!
# Running the chip

In one step the chip goes on by a system clock.  First time passes up to the next edge of the
system oscillator, while the phase-locked loops may have many edges of their own; then every cog
steps, one cog has its turn on the hub, and the plugins are told.

* `Chip.advanceClocks` — time up to the next system clock.
* `Chip.step` — one system clock.
* `Chip.stepInstruction` — up to the next instruction of a cog.
-/

namespace P1Chip.Chip

variable {τ π : Type} [Timebase τ] [Plugin τ π]

/-! ## Clocks -/

/-- The time until the next edge of any clock, and whether a phase-locked loop has it before the
system oscillator does. -/
def nextEdge (chip : Chip τ π) : τ × Bool :=
  chip.cogs.foldl
    (fun best cog? =>
      match cog? with
      | some cog => if Timebase.lt cog.timeLeft best.1 then (cog.timeLeft, true) else best
      | none => best)
    (chip.oscillator.timeLeft, false)

/-- An edge of the first loop of cog `id`: it is the aural subcarrier of the generators that
listen to it, and then the pixel clock of the cog's own. -/
def edgeA (chip : Chip τ π) (id : Fin 8) (level : Bool) : Chip τ π :=
  let chip := chip.mapCogs fun cog =>
    if cog.body.video.auralSource = some id then cog.withVideo (·.auralEdge level) else cog
  match chip.takeCog id with
  | (none, chip) => chip
  | (some cog, chip) =>
    let (done, video) := cog.body.video.colorEdge level
    let cog := cog.withVideo fun _ => video
    chip.putCog id (if done then cog.frameComplete chip.hub.running else cog)

/-- An edge of the second loop of cog `id`: it is the carrier of the cog's video generator. -/
def edgeB (chip : Chip τ π) (id : Fin 8) (level : Bool) : Chip τ π :=
  match chip.takeCog id with
  | (none, chip) => chip
  | (some cog, chip) => chip.putCog id (cog.withVideo (·.carrierEdge level))

/-- Passes the edges of a cog's loops on to the video generators. -/
def dispatchEdges (chip : Chip τ π) (id : Fin 8) (edges : PllEdges) : Chip τ π :=
  let chip :=
    match edges.a with
    | some level => chip.edgeA id level
    | none => chip
  match edges.b with
  | some level => chip.edgeB id level
  | none => chip

/-- Lets time pass for the loops of a cog. -/
def advanceCog (chip : Chip τ π) (elapsed : τ) (id : Fin 8) : Chip τ π :=
  match chip.takeCog id with
  | (none, chip) => chip
  | (some cog, chip) =>
    let (edges, cog) := cog.advance elapsed
    (chip.putCog id cog).dispatchEdges id edges

/-- Lets time pass for all clocks. -/
def passTime (chip : Chip τ π) (elapsed : τ) : Chip τ π :=
  let (_, oscillator) := chip.oscillator.advance elapsed
  let chip := slots.foldl (fun chip id => chip.advanceCog elapsed id) { chip with oscillator }
  { chip with time := chip.time + elapsed }

/-- Edges of the loops that one system clock has room for.  A loop has fewer than 34, because it
multiplies the system clock by less than 16 and has two edges for each period, and there are
sixteen loops. -/
def edgeBudget : Nat := 1024

/-- Lets time pass up to the next edge of the system oscillator.  Edges of the loops that come
before it are dealt with one at a time, in the order of their times; `budget` bounds their
number. -/
def advanceUpTo : Nat → Chip τ π → Chip τ π
  | 0, chip => chip
  | budget + 1, chip =>
    let (elapsed, loopFirst) := chip.nextEdge
    let chip := chip.passTime elapsed
    if loopFirst then advanceUpTo budget chip.notifyPins else chip

/-- Lets time pass up to the next system clock. -/
def advanceClocks (chip : Chip τ π) : Chip τ π :=
  advanceUpTo edgeBudget chip

/-! ## Steps -/

/-- The outcome of two parts of a step: the first fault counts, and without a fault the chip goes
on only if both say so. -/
def joinOutcomes : Except Fault Bool → Except Fault Bool → Except Fault Bool
  | .error fault, _ => .error fault
  | .ok _, .error fault => .error fault
  | .ok first, .ok second => .ok (first && second)

/-- One system clock of the cog in a slot, and of what it asked the hub for. -/
def stepCog (chip : Chip τ π) (id : Fin 8) : Except Fault Bool × Chip τ π :=
  match chip.takeCog id with
  | (none, chip) => (.ok true, chip.applyActions)
  | (some cog, chip) =>
    let (outcome, cog, hub) := cog.step chip.hub chip.frameBreak
    (outcome, ({ chip with hub }.putCog id cog).applyActions)

/-- One system clock of the cogs in the given slots. -/
def stepCogs : List (Fin 8) → Chip τ π → Except Fault Bool × Chip τ π
  | [], chip => (.ok true, chip)
  | id :: rest, chip =>
    let (first, chip) := chip.stepCog id
    let (others, chip) := stepCogs rest chip
    (joinOutcomes first others, chip)

/-- The turn of a slot on the hub. -/
def hubTurn (chip : Chip τ π) (id : Fin 8) : Chip τ π :=
  match chip.takeCog id with
  | (none, chip) => chip.applyActions
  | (some cog, chip) =>
    let (cog, hub) := cog.hubAccess chip.hub
    ({ chip with hub }.putCog id cog).applyActions

/-- Counts the system clock, and tells the plugins of it. -/
def countClock (chip : Chip τ π) : Chip τ π :=
  let hub := chip.hub.incrementCounter
  let (plugins, external) := chip.plugins.deliverClock chip.time hub.counter hub.external
  { chip with plugins, hub := { hub with external } }

/-- One system clock.  Tells whether the chip may go on, which a breakpoint or the end of a video
frame can deny, or else the first fault that a cog raised.  All cogs finish their step in any
case. -/
def step (chip : Chip τ π) : Except Fault Bool × Chip τ π :=
  let chip := chip.advanceClocks
  let (turn, hub) := chip.hub.advanceRing
  let (outcome, chip) := stepCogs slots { chip with hub }
  let chip :=
    match turn with
    | some id => chip.hubTurn id
    | none => chip
  (outcome, chip.notifyPins.countClock.notifyPins)

/-- Whether the cog in a slot is in the middle of an instruction. -/
def isBusy (chip : Chip τ π) (id : Nat) : Bool :=
  match chip.cog? id with
  | some cog => !cog.body.state.isBoundary
  | none => false

/-- Steps at most so often, until a cog is about to start an instruction, is not running, or the
chip may not go on. -/
def stepWhileBusy (id : Nat) : Nat → Chip τ π → Except Fault Bool × Chip τ π
  | 0, chip => (.ok true, chip)
  | limit + 1, chip =>
    match chip.step with
    | (.ok true, chip) => if chip.isBusy id then stepWhileBusy id limit chip else (.ok true, chip)
    | (outcome, chip) => (outcome, chip)

/-- The most system clocks that `stepInstruction` waits for an instruction. -/
def instructionLimit : Nat := 0x2000

/-- Runs the chip until a cog is about to start an instruction or bytecode. -/
def stepInstruction (chip : Chip τ π) (id : Nat) : Except Fault Bool × Chip τ π :=
  stepWhileBusy id instructionLimit chip

/-! ## Inspection and intervention -/

/-- Changes the cog in a slot.  Tells whether there is one. -/
def changeCog (chip : Chip τ π) (id : Nat) (change : Cog τ → Cog τ) : Bool × Chip τ π :=
  if h : id < 8 then
    match chip.takeCog ⟨id, h⟩ with
    | (none, chip) => (false, chip)
    | (some cog, chip) => (true, chip.putCog ⟨id, h⟩ (change cog))
  else
    (false, chip)

/-- Sets or clears the breakpoint of a cog.  Tells whether the cog is running. -/
def setBreakpoint (chip : Chip τ π) (id : Nat) (breakpoint? : Option UInt32) :
    Bool × Chip τ π :=
  chip.changeCog id (·.setBreakpoint breakpoint?)

/-- Reads a register of a cog, if the cog is running. -/
def readRegister (chip : Chip τ π) (id index : Nat) :
    Except RegisterIndexError (Option UInt32) :=
  match chip.cog? id with
  | none => .ok none
  | some cog => (cog.readRegister chip.hub index).map some

/-- Writes a register of a cog.  Tells whether the cog is running. -/
def writeRegister (chip : Chip τ π) (id index : Nat) (value : UInt32) :
    Except RegisterIndexError (Bool × Chip τ π) :=
  match chip.cog? id with
  | none => .ok (false, chip)
  | some cog =>
    (cog.writeRegister chip.hub index value).map fun cog => chip.changeCog id fun _ => cog

/-- The chip with other hub memory. -/
def withMemory (chip : Chip τ π) (change : Memory → Memory) : Chip τ π :=
  { chip with hub := chip.hub.withMemory change }

/-- Switches the chip off: all plugins are removed. -/
def close (chip : Chip τ π) : Chip τ π :=
  { chip with plugins := chip.plugins.closeAll τ }

end P1Chip.Chip
