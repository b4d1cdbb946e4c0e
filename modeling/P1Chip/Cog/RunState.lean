import P1Chip.DataSize
import P1Chip.Register

/-!
# What a cog is doing

* `Wait` — what a cog can be held up by.
* `RunState` — what a cog does on the next system clock.
* `FrameFlag`, `FrameBreak` — how the last video frame ended, and which endings stop the chip.
-/

namespace P1Chip

/-- What a cog can be held up by. -/
inductive Wait where
  /-- The pins, until some of them have given levels. -/
  | pinsEqual
  /-- The pins, until some of them have other levels. -/
  | pinsNotEqual
  /-- The system counter, until it has a given value. -/
  | count
  /-- The video generator, until it takes the next frame. -/
  | video
  /-- The cog's turn at hub memory. -/
  | hubTransfer (size : DataSize)
  /-- The cog's turn for a service of the hub. -/
  | hubService
deriving DecidableEq, Repr, Inhabited

/-- What a cog does on the next system clock. -/
inductive RunState where
  /-- It copies its program, one long at each turn on the hub; `next` is the next long. -/
  | loadProgram (next : Fin programLongs)
  /-- It starts a native instruction. -/
  | execute
  /-- It works on a native instruction, whose results are written when the clocks are over. -/
  | working (left : Nat)
  /-- It lets clocks pass before it waits, or before it goes on with the next instruction. -/
  | settling (left : Nat) (next : Option Wait)
  /-- The interpreter starts. -/
  | booting (left : Nat)
  /-- The interpreter works on a bytecode. -/
  | interpreting (left : Nat)
  /-- It starts a bytecode. -/
  | fetch
  | waiting (on : Wait)
deriving DecidableEq, Repr, Inhabited

namespace RunState

/-- The state in words. -/
def description : RunState → String
  | waiting (.hubTransfer _) | waiting .hubService => "Waiting for hub"
  | booting _ => "Interpreter Boot"
  | fetch => "Interpreter Fetch"
  | interpreting _ => "Interpreter Processing"
  | execute | settling _ _ | working _ => "Running instruction"
  | loadProgram _ => "Loading Program"
  | waiting .count => "Waiting (CNT)"
  | waiting .pinsEqual => "Waiting (PEQ)"
  | waiting .pinsNotEqual => "Waiting (PNE)"
  | waiting .video => "Waiting (video)"

/-- Whether the cog is between two instructions or bytecodes. -/
def isBoundary : RunState → Bool
  | execute | fetch => true
  | _ => false

end RunState

/-- How the last video frame ended. -/
inductive FrameFlag where
  /-- No frame has ended since this was last looked at. -/
  | none
  /-- The cog was waiting, and has supplied the next frame. -/
  | hit
  /-- The cog was busy, and the generator had nothing to show. -/
  | miss
deriving DecidableEq, Repr, Inhabited

/-- Which ends of video frames stop the chip, as a breakpoint does. -/
inductive FrameBreak where
  | none
  /-- Every end of a frame. -/
  | hit
  /-- Only ends with nothing more to show. -/
  | miss
deriving DecidableEq, Repr, Inhabited

namespace FrameBreak

/-- Whether the end of a frame stops the chip. -/
def triggeredBy : FrameBreak → FrameFlag → Bool
  | none, _ => false
  | hit, flag => flag != .none
  | miss, flag => flag == .miss

end FrameBreak

end P1Chip
