import P1Chip.Chip.Basic
import P1Chip.Text.FixedPoint

/-!
# The report at the end of a run

* `Report.lines` — the state of the hub, of the pins and of every running cog, a line for each.
-/

namespace P1Chip.CommandLine.Report

variable {π : Type}

/-- The parts of a cog that belong to its engine. -/
def engineText : Engine → String
  | .native native => "Z=" ++ toString native.zero ++ " C=" ++ toString native.carry
  | .interpreted frames =>
    "object=" ++ Text.hex 4 frames.object.toNat
      ++ " variables=" ++ Text.hex 4 frames.vars.toNat
      ++ " locals=" ++ Text.hex 4 frames.locals.toNat
      ++ " stack=" ++ Text.hex 4 frames.stack.toNat

/-- The line of a cog. -/
def cogLine (cog : Cog Float) : String :=
  "cog " ++ toString cog.body.id.toNat
    ++ " (" ++ cog.engine.kind.name ++ ") pc=" ++ Text.hex 4 cog.body.pc.toNat
    ++ " " ++ cog.body.state.description
    ++ ": " ++ engineText cog.engine

/-- The line of counter, time, clock and locks. -/
def hubLine (chip : Chip Float π) : String :=
  "counter=" ++ toString chip.hub.counter.toNat
    ++ " time=" ++ Text.fixed 9 chip.time
    ++ "s clock=" ++ chip.hub.clockMode.name
    ++ " (" ++ toString chip.hub.coreFrequency.toNat
    ++ "Hz) locks set=" ++ Text.hex 2 chip.hub.setLocks.toNat
    ++ " free=" ++ Text.hex 2 chip.hub.freeLocks.toNat

/-- The line of the pins. -/
def pinLine (chip : Chip Float π) : String :=
  "ina=" ++ Text.hex 8 chip.hub.inputA.toNat
    ++ " inb=" ++ Text.hex 8 chip.hub.inputB.toNat
    ++ " dir=" ++ Text.hex 16 chip.hub.dir.toNat

/-- The whole report. -/
def lines (chip : Chip Float π) : List String :=
  hubLine chip :: pinLine chip :: chip.cogs.toList.filterMap (·.map cogLine)

end P1Chip.CommandLine.Report
