import P1Chip.Clock.Timebase

/-!
# The system oscillator

Each edge of the system oscillator is one system clock.  A clock source is described by the time
that is left until its next edge; whoever drives the clocks advances all of them by the least of
these times, over and over.

* `Oscillator.setFrequency` — start, stop or change the oscillator.
* `Oscillator.advance` — let time pass.
-/

namespace P1Chip

/-- The time until the next edge of a source that does not run, in seconds: longer than the period
of any clock, so that it never comes first. -/
def idleInterval {τ : Type} [Timebase τ] : τ :=
  Timebase.ofNat 1

/-- The source of the system clock. -/
structure Oscillator (τ : Type) where
  /-- Edges per second; zero while it is stopped. -/
  frequency : UInt32
  period : τ
  /-- Time until the next edge. -/
  timeLeft : τ
deriving Inhabited

namespace Oscillator

variable {τ : Type} [Timebase τ]

/-- An oscillator that does not run. -/
def stopped : Oscillator τ where
  frequency := 0
  period := Timebase.ofNat 0
  timeLeft := idleInterval

/-- The oscillator at another frequency; zero stops it.  The next edge comes earlier if the new
period is shorter than the time left. -/
def setFrequency (oscillator : Oscillator τ) (frequency : UInt32) : Oscillator τ :=
  if frequency = 0 then
    stopped
  else
    let period := Timebase.period (Timebase.ofNat frequency.toNat)
    { frequency, period,
      timeLeft := Timebase.least oscillator.timeLeft period }

/-- Lets time pass, not more than `timeLeft`, and tells whether there was an edge. -/
def advance (oscillator : Oscillator τ) (elapsed : τ) : Bool × Oscillator τ :=
  if oscillator.frequency = 0 then
    (false, oscillator)
  else
    let left := oscillator.timeLeft - elapsed
    if Timebase.le left (Timebase.ofNat 0) then
      (true, { oscillator with timeLeft := left + oscillator.period })
    else
      (false, { oscillator with timeLeft := left })

end Oscillator

end P1Chip
