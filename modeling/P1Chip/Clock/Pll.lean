import P1Chip.Clock.Oscillator

/-!
# Phase-locked loops

Each of the two counters of a cog has a phase-locked loop that multiplies the system clock.  It is
an oscillator that runs at twice the wanted frequency and toggles its output on every edge.  It
locks only onto frequencies from half a megahertz to 128 megahertz.

* `Pll.feed`, `Pll.setBaseFrequency` — lock onto a multiple of the system clock.
* `Pll.advance` — let time pass.
* `PllPair` — the two loops of a cog, which advance together.
-/

namespace P1Chip

/-- One of the two counters of a cog, and of their phase-locked loops. -/
inductive Channel where
  | a
  | b
deriving DecidableEq, Repr, Inhabited

/-- A phase-locked loop. -/
structure Pll (τ : Type) where
  /-- The system clock in hertz, which is multiplied. -/
  baseFrequency : UInt32
  multiplier : τ
  /-- Edges per second, twice the output's frequency; zero while the loop is off. -/
  frequency : τ
  period : τ
  /-- Time until the next edge. -/
  timeLeft : τ
  output : Bool
  /-- Pins that are high while the output is. -/
  pinsHigh : UInt64
  /-- Pins that are high while the output is low. -/
  pinsLow : UInt64
deriving Inhabited

namespace Pll

variable {τ : Type} [Timebase τ]

/-- Lowest frequency that a loop locks onto, in hertz. -/
def lowest : τ := Timebase.ofNat 500000

/-- Highest frequency that a loop locks onto, in hertz. -/
def highest : τ := Timebase.ofNat 128000000

/-- A loop that is off. -/
def off : Pll τ where
  baseFrequency := 0
  multiplier := Timebase.ofNat 0
  frequency := Timebase.ofNat 0
  period := Timebase.ofNat 0
  timeLeft := idleInterval
  output := false
  pinsHigh := 0
  pinsLow := 0

/-- Switches the loop off: until it is fed again there are no edges, and it drives no pins. -/
def disable (pll : Pll τ) : Pll τ :=
  { pll with
    frequency := Timebase.ofNat 0
    period := Timebase.ofNat 0
    timeLeft := idleInterval }

/-- Lets the loop run with the given number of edges per second.  The next edge comes earlier if
the new period is shorter than the time left. -/
def setFrequency (pll : Pll τ) (frequency : τ) : Pll τ :=
  let period := Timebase.period frequency
  { pll with
    frequency
    period
    timeLeft := Timebase.least pll.timeLeft period }

/-- Locks onto a multiple of the system clock.  A frequency out of range switches the loop off. -/
def feed (pll : Pll τ) (multiplier : τ) : Pll τ :=
  let target := Timebase.ofNat pll.baseFrequency.toNat * multiplier
  let pll := { pll with multiplier }
  if Timebase.le lowest target && Timebase.le target highest then
    pll.setFrequency (target * Timebase.ofNat 2)
  else
    pll.disable

/-- Takes over another system clock, and locks onto the same multiple of it. -/
def setBaseFrequency (pll : Pll τ) (frequency : UInt32) : Pll τ :=
  { pll with baseFrequency := frequency }.feed pll.multiplier

/-- Chooses the pins that are high while the output is high, and while it is low. -/
def drivePins (pll : Pll τ) (pinsHigh pinsLow : UInt64) : Pll τ :=
  { pll with pinsHigh, pinsLow }

/-- Whether the loop runs. -/
def isEnabled (pll : Pll τ) : Bool :=
  Timebase.lt (Timebase.ofNat 0) pll.frequency

/-- Pins that the loop drives high now. -/
def pins (pll : Pll τ) : UInt64 :=
  if pll.isEnabled then
    if pll.output then pll.pinsHigh else pll.pinsLow
  else
    0

/-- Lets time pass, not more than `timeLeft`, and tells the new level of the output if it
toggled. -/
def advance (pll : Pll τ) (elapsed : τ) : Option Bool × Pll τ :=
  if pll.isEnabled then
    let left := pll.timeLeft - elapsed
    if Timebase.le left (Timebase.ofNat 0) then
      (some (!pll.output), { pll with timeLeft := left + pll.period, output := !pll.output })
    else
      (none, { pll with timeLeft := left })
  else
    (none, pll)

end Pll

/-! ## The two loops of a cog -/

/-- The new levels of the outputs that toggled. -/
structure PllEdges where
  a : Option Bool
  b : Option Bool
deriving DecidableEq, Repr, Inhabited

/-- The phase-locked loops of the two counters of a cog. -/
structure PllPair (τ : Type) where
  a : Pll τ
  b : Pll τ
deriving Inhabited

namespace PllPair

variable {τ : Type} [Timebase τ]

/-- Both loops off. -/
def off : PllPair τ where
  a := .off
  b := .off

/-- The loop of a counter. -/
def channel (pair : PllPair τ) : Channel → Pll τ
  | .a => pair.a
  | .b => pair.b

/-- The pair with a change to one of the loops. -/
def modify (pair : PllPair τ) (channel : Channel) (change : Pll τ → Pll τ) : PllPair τ :=
  match channel with
  | .a => { pair with a := change pair.a }
  | .b => { pair with b := change pair.b }

/-- Gives both loops another system clock. -/
def setBaseFrequency (pair : PllPair τ) (frequency : UInt32) : PllPair τ where
  a := pair.a.setBaseFrequency frequency
  b := pair.b.setBaseFrequency frequency

/-- Pins that either loop drives high. -/
def pins (pair : PllPair τ) : UInt64 :=
  pair.a.pins ||| pair.b.pins

/-- Time until the next edge of either loop. -/
def timeLeft (pair : PllPair τ) : τ :=
  Timebase.least pair.a.timeLeft pair.b.timeLeft

/-- Lets time pass for both loops. -/
def advance (pair : PllPair τ) (elapsed : τ) : PllEdges × PllPair τ :=
  let (edgeA, a) := pair.a.advance elapsed
  let (edgeB, b) := pair.b.advance elapsed
  (⟨edgeA, edgeB⟩, ⟨a, b⟩)

end PllPair

end P1Chip
