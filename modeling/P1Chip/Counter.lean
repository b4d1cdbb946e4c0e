import P1Chip.Clock.Pll
import P1Chip.Condition

/-!
# Counters

Each cog has two counters.  A counter adds its frequency register to its phase register on some
system clocks: always, or when its input pins meet a condition, as its mode says.  Some modes show
the phase on output pins; the three PLL modes use the frequency register to set the counter's
phase-locked loop instead.

Input pins are sampled at the end of a clock and looked at on the next one, so that an edge is
noticed two clocks after it happened.

* `CounterMode` — the modes.
* `Counter.setControl`, `Counter.setFrequency`, `Counter.setPhase` — writing the registers.
* `Counter.tick` — one system clock.
* `Counter.output` — the pins that the counter drives high.
-/

namespace P1Chip

/-- When a counter counts, and what it shows on its pins. -/
inductive CounterMode where
  | disabled
  | pllInternal
  | pllSingleEnded
  | pllDifferential
  | ncoSingleEnded
  | ncoDifferential
  | dutySingleEnded
  | dutyDifferential
  | posDetector
  | posDetectorFeedback
  | posEdgeDetector
  | posEdgeDetectorFeedback
  | negDetector
  | negDetectorFeedback
  | negEdgeDetector
  | negEdgeDetectorFeedback
  /-- Count while the condition holds, with pin A as the zero flag and pin B as the carry flag. -/
  | logic (condition : Condition)
deriving DecidableEq, Repr, Inhabited

namespace CounterMode

/-- The modes without a condition, in the order of their codes. -/
def plain : Vector CounterMode 16 :=
  #v[disabled, pllInternal, pllSingleEnded, pllDifferential,
    ncoSingleEnded, ncoDifferential, dutySingleEnded, dutyDifferential,
    posDetector, posDetectorFeedback, posEdgeDetector, posEdgeDetectorFeedback,
    negDetector, negDetectorFeedback, negEdgeDetector, negEdgeDetectorFeedback]

/-- The mode in bits 30 to 26 of the control register. -/
def ofControl (control : UInt32) : CounterMode :=
  if control &&& 0x40000000 != 0 then
    logic (Condition.ofBits (control >>> 26))
  else
    plain[(control >>> 26).toNat % 16]

/-- The modes that use the phase-locked loop. -/
def isPll : CounterMode → Bool
  | pllInternal | pllSingleEnded | pllDifferential => true
  | _ => false

/-- The modes whose second output is the inverse of the first input. -/
def hasFeedback : CounterMode → Bool
  | posDetectorFeedback | posEdgeDetectorFeedback
  | negDetectorFeedback | negEdgeDetectorFeedback => true
  | _ => false

end CounterMode

/-- One of the counters of a cog. -/
structure Counter where
  /-- Which of the two counters this is, and which phase-locked loop it owns. -/
  channel : Channel
  control : UInt32
  frequency : UInt32
  phase : UInt32
  mode : CounterMode
  /-- What the loop's frequency is divided by, a power of two up to 128. -/
  divider : UInt32
  /-- The bit of the first pin. -/
  maskA : UInt64
  /-- The bit of the second pin. -/
  maskB : UInt64
  /-- The first pin as sampled on the last clock. -/
  pinA : Bool
  /-- The first pin as sampled on the clock before. -/
  pinABefore : Bool
  /-- The second pin as sampled on the last clock. -/
  pinB : Bool
  outA : Bool
  outB : Bool
deriving DecidableEq, Repr, Inhabited

namespace Counter

variable {τ : Type} [Timebase τ]

/-- A counter that is switched off, with all registers zero. -/
def new (channel : Channel) : Counter where
  channel
  control := 0
  frequency := 0
  phase := 0
  mode := .disabled
  divider := 128
  maskA := 1
  maskB := 1
  pinA := false
  pinABefore := false
  pinB := false
  outA := false
  outB := false

/-! ## Registers -/

/-- The multiple of the system clock that the frequency register and the divider ask for. -/
def multiplier (counter : Counter) : τ :=
  Timebase.ofNat counter.frequency.toNat / Timebase.ofNat 4294967296 * Timebase.ofNat 16
    / Timebase.ofNat counter.divider.toNat

/-- The pins that the loop drives high, while its output is high and while it is low. -/
def loopPins (counter : Counter) : UInt64 × UInt64 :=
  match counter.mode with
  | .pllSingleEnded => (counter.maskA, 0)
  | .pllDifferential => (counter.maskA, counter.maskB)
  | _ => (0, 0)

/-- The loop of a counter that is not in a PLL mode is off; otherwise it locks onto the frequency
that the registers ask for. -/
def driveLoop (counter : Counter) (pll : Pll τ) : Pll τ :=
  if counter.mode.isPll then pll.feed counter.multiplier else pll.disable

/-- Writes the control register: the mode, the divider and the two pins.  Both outputs go low. -/
def setControl (counter : Counter) (value : UInt32) (plls : PllPair τ) : Counter × PllPair τ :=
  let counter :=
    { counter with
      control := value
      mode := CounterMode.ofControl value
      divider := (128 : UInt32) >>> ((value >>> 23) &&& 7)
      maskA := (1 : UInt64) <<< (value &&& 63).toUInt64
      maskB := (1 : UInt64) <<< ((value >>> 9) &&& 63).toUInt64
      outA := false
      outB := false }
  let plls := plls.modify counter.channel fun pll =>
    let (pinsHigh, pinsLow) := counter.loopPins
    let pll := if counter.mode.isPll then pll.drivePins pinsHigh pinsLow else pll
    counter.driveLoop pll
  (counter, plls)

/-- Writes the frequency register. -/
def setFrequency (counter : Counter) (value : UInt32) (plls : PllPair τ) : Counter × PllPair τ :=
  let counter := { counter with frequency := value }
  (counter, plls.modify counter.channel counter.driveLoop)

/-- Writes the phase register. -/
def setPhase (counter : Counter) (value : UInt32) : Counter :=
  { counter with phase := value }

/-! ## Counting -/

/-- Whether the counter counts on this clock, by its mode and the sampled pins. -/
def counts (counter : Counter) : Bool :=
  match counter.mode with
  | .disabled | .pllInternal | .pllSingleEnded | .pllDifferential => false
  | .ncoSingleEnded | .ncoDifferential | .dutySingleEnded | .dutyDifferential => true
  | .posDetector | .posDetectorFeedback => counter.pinA
  | .posEdgeDetector | .posEdgeDetectorFeedback => counter.pinA && !counter.pinABefore
  | .negDetector | .negDetectorFeedback => !counter.pinA
  | .negEdgeDetector | .negEdgeDetectorFeedback => !counter.pinA && counter.pinABefore
  | .logic condition => condition.holds counter.pinA counter.pinB

/-- The phase after this clock. -/
def nextPhase (counter : Counter) : UInt32 :=
  if counter.counts then counter.phase + counter.frequency else counter.phase

/-- Whether adding the frequency to the phase carries out of 32 bits. -/
def carries (counter : Counter) : Bool :=
  counter.phase.toNat + counter.frequency.toNat ≥ 4294967296

/-- The first output after this clock: the top bit of the phase in the NCO modes, the carry in the
DUTY modes, and as it was in all others. -/
def nextOutA (counter : Counter) : Bool :=
  match counter.mode with
  | .ncoSingleEnded | .ncoDifferential => counter.nextPhase &&& 0x80000000 != 0
  | .dutySingleEnded | .dutyDifferential => counter.carries
  | _ => counter.outA

/-- The second output after this clock: the inverse of the first in the differential modes, the
inverse of the sampled first pin with feedback, and as it was in all others. -/
def nextOutB (counter : Counter) : Bool :=
  match counter.mode with
  | .ncoDifferential | .dutyDifferential => !counter.nextOutA
  | mode => if mode.hasFeedback then !counter.pinA else counter.outB

/-- One system clock, at the end of which the input pins are sampled. -/
def tick (counter : Counter) (pins : UInt64) : Counter :=
  { counter with
    phase := counter.nextPhase
    outA := counter.nextOutA
    outB := counter.nextOutB
    pinABefore := counter.pinA
    pinA := pins &&& counter.maskA != 0
    pinB := pins &&& counter.maskB != 0 }

/-- Pins that the counter or its phase-locked loop drives high. -/
def output (counter : Counter) (plls : PllPair τ) : UInt64 :=
  (plls.channel counter.channel).pins
    ||| (if counter.outA then counter.maskA else 0)
    ||| (if counter.outB then counter.maskB else 0)

end Counter

end P1Chip
