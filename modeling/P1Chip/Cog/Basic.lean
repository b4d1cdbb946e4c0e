import P1Chip.Cog.Native
import P1Chip.Spin.Interpreter

/-!
# Cogs

A cog first copies its program from hub memory into its own, one long at each of its turns on the
hub, and then executes native instructions or bytecode.

* `Cog` — a cog with its engine.
* `Cog.step` — one system clock.
* `Cog.hubAccess` — its turn on the hub.
* `Cog.frameComplete` — the end of a video frame.
-/

namespace P1Chip

/-- What a cog executes, and the state of that. -/
inductive Engine where
  | native (native : Native)
  | interpreted (frames : SpinFrames)
deriving DecidableEq, Repr, Inhabited

namespace Engine

/-- An engine that was not booted yet. -/
def new : EngineKind → Engine
  | .native => .native .new
  | .interpreted => .interpreted .new

/-- The kind of the engine. -/
def kind : Engine → EngineKind
  | .native _ => .native
  | .interpreted _ => .interpreted

end Engine

/-- One of the processors of the chip. -/
structure Cog (τ : Type) where
  body : CogBody τ
  engine : Engine
deriving Inhabited

namespace Cog

variable {τ : Type} [Timebase τ]

/-- A cog that is about to load its program. -/
def new (id : UInt32) (kind : EngineKind) (program parameter coreFrequency : UInt32) : Cog τ where
  body := .new id program parameter coreFrequency
  engine := .new kind

/-! ## Registers -/

/-- The register with the given number, if there is one. -/
def readRegister (cog : Cog τ) (hub : Hub) (index : Nat) : Except RegisterIndexError UInt32 :=
  if index < cogLongs then
    .ok (cog.body.readRegister hub (UInt32.ofNat index))
  else
    .error ⟨index⟩

/-- The cog with another value in the register with the given number, if there is one. -/
def writeRegister (cog : Cog τ) (hub : Hub) (index : Nat) (value : UInt32) :
    Except RegisterIndexError (Cog τ) :=
  if index < cogLongs then
    .ok { cog with body := cog.body.writeRegister hub.running (UInt32.ofNat index) value }
  else
    .error ⟨index⟩

/-- The cog with another breakpoint, or none. -/
def setBreakpoint (cog : Cog τ) (breakpoint? : Option UInt32) : Cog τ :=
  { cog with body := { cog.body with breakpoint? } }

/-! ## Clocks -/

/-- Gives the cog's phase-locked loops another system clock. -/
def setCoreFrequency (cog : Cog τ) (frequency : UInt32) : Cog τ :=
  { cog with body := { cog.body with plls := cog.body.plls.setBaseFrequency frequency } }

/-- Time until the next edge of one of the cog's phase-locked loops. -/
def timeLeft (cog : Cog τ) : τ :=
  cog.body.plls.timeLeft

/-- Lets time pass for the cog's phase-locked loops. -/
def advance (cog : Cog τ) (elapsed : τ) : PllEdges × Cog τ :=
  let (edges, plls) := cog.body.plls.advance elapsed
  (edges, { cog with body := { cog.body with plls } })

/-- The cog with a change to its video generator. -/
def withVideo (cog : Cog τ) (change : Video → Video) : Cog τ :=
  { cog with body := { cog.body with video := change cog.body.video } }

/-! ## Steps -/

/-- One system clock of the engine alone.  Tells whether an instruction or bytecode was started,
or the fault that it raised. -/
def stepEngine (cog : Cog τ) (hub : Hub) : Except FaultKind Bool × Cog τ × Hub :=
  match cog with
  | ⟨body, .native native⟩ =>
    let (outcome, native, body) := native.step body hub
    (outcome, ⟨body, .native native⟩, hub)
  | ⟨body, .interpreted frames⟩ =>
    let (outcome, machine) := SpinMachine.step { frames, body, hub }
    (outcome, ⟨machine.body, .interpreted machine.frames⟩, machine.hub)

/-- Whether the chip may go on after an engine's step: a breakpoint counts when an instruction was
started, and the end of a video frame as `frameBreak` says.  An end that stops the chip is
forgotten. -/
def checkBreaks (cog : Cog τ) (frameBreak : FrameBreak) (started : Bool) : Bool × Cog τ :=
  let goesOn := !(started && cog.body.breakpoint? == some cog.body.pc)
  if frameBreak.triggeredBy cog.body.frameFlag then
    (false, { cog with body := { cog.body with frameFlag := .none } })
  else
    (goesOn, cog)

/-- One system clock of the engine and of both counters.  Tells whether the chip may go on, or the
fault that was raised. -/
def step (cog : Cog τ) (hub : Hub) (frameBreak : FrameBreak) : Except Fault Bool × Cog τ × Hub :=
  let (outcome, cog, hub) := cog.stepEngine hub
  let cog := { cog with body := cog.body.tickCounters hub.input }
  match outcome with
  | .error kind => (.error ⟨cog.body.id, hub.counter, kind⟩, cog, hub)
  | .ok started =>
    let (goesOn, cog) := cog.checkBreaks frameBreak started
    (.ok goesOn, cog, hub)

/-- Starts the engine after loading. -/
def boot (cog : Cog τ) (hub : Hub) : Cog τ × Hub :=
  match cog with
  | ⟨body, .native native⟩ =>
    let (native, body) := native.boot body
    (⟨body, .native native⟩, hub)
  | ⟨body, .interpreted _⟩ =>
    let machine := SpinFrames.boot body hub
    (⟨machine.body, .interpreted machine.frames⟩, machine.hub)

/-- The cog's turn on the hub: it loads the next long of its program, or carries out a waiting
access. -/
def hubAccess (cog : Cog τ) (hub : Hub) : Cog τ × Hub :=
  let cog := { cog with body := { cog.body with hubAccesses := cog.body.hubAccesses + 1 } }
  match cog.body.state with
  | .loadProgram next =>
    let (isLast, body) := cog.body.loadNext hub next
    let cog := { cog with body }
    if isLast then cog.boot hub else (cog, hub)
  | _ =>
    match cog with
    | ⟨body, .native native⟩ =>
      let (native, body, hub) := native.hubAccess body hub
      (⟨body, .native native⟩, hub)
    | ⟨_, .interpreted _⟩ => (cog, hub)

/-- The video generator has finished a frame.  A cog that waits for that supplies the next one at
once; `running` has the running cogs. -/
def frameComplete (cog : Cog τ) (running : UInt8) : Cog τ :=
  let flag (supplied : Bool) : FrameFlag := if supplied then .hit else .miss
  match cog with
  | ⟨body, .native native⟩ =>
    let (supplied, native, body) := native.supplyVideo body running
    ⟨{ body with frameFlag := flag supplied }, .native native⟩
  | ⟨body, .interpreted frames⟩ =>
    let (supplied, body) := frames.supplyVideo body
    ⟨{ body with frameFlag := flag supplied }, .interpreted frames⟩

end Cog

end P1Chip
