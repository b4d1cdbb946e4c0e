import P1Chip.Main
import P1Chip.Proofs.Alu.Chain
import P1Chip.Proofs.Chip.Boot
import P1Chip.Proofs.Chip.ClockFrequency
import P1Chip.Proofs.Chip.Deferral
import P1Chip.Proofs.Chip.FirstInstruction
import P1Chip.Proofs.Chip.Occupancy
import P1Chip.Proofs.Chip.PinBus
import P1Chip.Proofs.Chip.Restart
import P1Chip.Proofs.Chip.Rom
import P1Chip.Proofs.Chip.Rounds
import P1Chip.Proofs.Chip.StepOrder
import P1Chip.Proofs.Chip.Synchronized
import P1Chip.Proofs.Chip.Unwatched
import P1Chip.Proofs.Cog.Arithmetic
import P1Chip.Proofs.Cog.BytecodePace
import P1Chip.Proofs.Cog.CountWait
import P1Chip.Proofs.Cog.Loops
import P1Chip.Proofs.Cog.VideoFrames
import P1Chip.Proofs.Hub.Locks
import P1Chip.Proofs.Instruction.Fields
import P1Chip.Proofs.Memory.Bytes
import P1Chip.Proofs.Memory.Strings
import P1Chip.Proofs.Memory.Words
import P1Chip.Proofs.Pins.Lives
import P1Chip.Proofs.Raw.Run
import P1Chip.Proofs.Spin.Abort
import P1Chip.Proofs.Spin.Assignment
import P1Chip.Proofs.Spin.Blocks
import P1Chip.Proofs.Spin.Cases
import P1Chip.Proofs.Spin.Expression
import P1Chip.Proofs.Spin.Footprint
import P1Chip.Proofs.Spin.Launch
import P1Chip.Proofs.Spin.Products
import P1Chip.Proofs.Spin.Random
import P1Chip.Proofs.Spin.Repeats
import P1Chip.Proofs.Spin.Requests
import P1Chip.Proofs.Spin.Return
import P1Chip.Proofs.Video.SwitchedOff
import P1Chip.Proofs.Video.Vga
