import P1Chip.Spin.Execute

/-!
# The interpreter of a cog

An interpreted cog carries out a bytecode in one clock and then lets a fixed number of clocks pass,
unless the bytecode waits for something.

* `SpinFrames.boot` — the start of the interpreter.
* `SpinMachine.step` — one system clock.
* `SpinFrames.supplyVideo` — the next video frame.
-/

namespace P1Chip

variable {τ : Type} [Timebase τ]

namespace SpinFrames

/-- Clocks from the end of loading to the first bytecode. -/
def bootClocks : Nat := 48

/-- Clocks of every bytecode. -/
def bytecodeClocks : Nat := 32

/-- Starts the interpreter from the frame whose address is in the parameter register: it holds the
object, its variables, the first program counter and the stack.  The result of the first method
and the long below it are then set. -/
def boot (body : CogBody τ) (hub : Hub) : SpinMachine τ :=
  let frame := body.cell SpecialRegister.par.address &&& 0xFFFF
  let memory := hub.memory
  let frames : SpinFrames :=
    { new with
      object := (memory.readWord (frame - 8)).toUInt32
      vars := (memory.readWord (frame - 6)).toUInt32
      locals := frame - 4
      stack := (memory.readWord (frame - 2)).toUInt32 - 4 }
  let pc := (memory.readWord (frame - 4)).toUInt32
  let body := (body.setCell SpinMachine.idCell body.id).setCell SpinMachine.frameCell (frame - 4)
  { frames
    body := { body with state := .booting bootClocks, pc }
    hub := hub.withMemory fun memory =>
      (memory.writeLong (frame - 8) Word.ones).writeLong (frame - 4) 0 }

/-- Hands the operands of a waiting bytecode to the video generator, if the cog waits for that and
the generator is ready.  Tells whether it was done. -/
def supplyVideo (frames : SpinFrames) (body : CogBody τ) : Bool × CogBody τ :=
  if body.state = .waiting .video ∧ body.video.isReady then
    (true,
      { body with
        video := body.video.feed frames.wait.colors frames.wait.pixels
        state := .fetch })
  else
    (false, body)

end SpinFrames

namespace SpinMachine

/-- The machine in another state. -/
def withState (machine : SpinMachine τ) (state : RunState) : SpinMachine τ :=
  { machine with body := { machine.body with state } }

/-- Whether the awaited pins have the awaited levels. -/
def pinsMatch (machine : SpinMachine τ) : Bool :=
  let wait := machine.frames.wait
  let pins := if wait.upperHalf then machine.hub.inputB else machine.hub.inputA
  pins &&& wait.mask == wait.target

/-- One system clock.  Tells whether a bytecode was carried out, or the fault that it raised. -/
def step (machine : SpinMachine τ) : Except FaultKind Bool × SpinMachine τ :=
  match machine.body.state with
  | .fetch =>
    let outcome := (machine.withState (.interpreting SpinFrames.bytecodeClocks)).execute
    match outcome.fault? with
    | some fault => (.error fault, outcome.machine)
    | none => (.ok true, outcome.machine)
  | .booting left =>
    (.ok false, machine.withState (if left ≤ 1 then .fetch else .booting (left - 1)))
  | .interpreting left =>
    (.ok false, machine.withState (if left ≤ 1 then .fetch else .interpreting (left - 1)))
  | .waiting .pinsEqual =>
    (.ok false, if machine.pinsMatch then machine.withState .fetch else machine)
  | .waiting .pinsNotEqual =>
    (.ok false, if machine.pinsMatch then machine else machine.withState .fetch)
  | .waiting .count =>
    let reached := machine.frames.wait.target == machine.hub.counter
    (.ok false, if reached then machine.withState .fetch else machine)
  | .waiting .video =>
    (.ok false, { machine with body := (machine.frames.supplyVideo machine.body).2 })
  | .loadProgram _ | .execute | .working _ | .settling _ _
  | .waiting (.hubTransfer _) | .waiting .hubService => (.ok false, machine)

end SpinMachine

end P1Chip
