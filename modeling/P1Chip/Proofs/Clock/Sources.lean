import P1Chip.Proofs.Cog.Action
import P1Chip.Proofs.Cog.Loops

/-!
# What sets the clock sources

The system oscillator runs at the frequency that was set last, and a loop multiplies the system
clock that it was given last.  A cog has no say in that: all that it does to its loops is that a
counter feeds its own or switches it off, when one of the counter's registers is written.

* `PllPair.Driven` — a counter sets its loop.
* **`CogBody.Actions.driven`** — a cog does nothing else to its loops.
* `Oscillator.frequency_setFrequency`, `Pll.baseFrequency_setBaseFrequency` — where frequencies are
  set.
* `PllPair.ClockedAt` — both loops of a cog multiply a given frequency.
* **`CogBody.Actions.clockedAt`** — they go on to, whatever the cog does.
-/

namespace P1Chip

open Relation

variable {τ : Type} [Timebase τ]

/-! ## Counters and their loops -/

namespace PllPair

omit [Timebase τ] in
/-- Of a change, only what it does to its loop counts. -/
lemma modify_congr {pair : PllPair τ} {channel : Channel} {change change' : Pll τ → Pll τ}
    (same : change (pair.channel channel) = change' (pair.channel channel)) :
    pair.modify channel change = pair.modify channel change' := by
  cases channel
  · exact congrArg (fun a => { pair with a }) same
  · exact congrArg (fun b => { pair with b }) same

/-- A counter has set its loop, after it may have chosen the pins. -/
def Driven (before after : PllPair τ) : Prop :=
  ∃ (counter : Counter) (pinsHigh pinsLow : UInt64),
    after = before.modify counter.channel fun pll =>
      counter.driveLoop (pll.drivePins pinsHigh pinsLow)

lemma driven_setControl (pair : PllPair τ) (counter : Counter) (value : UInt32) :
    pair.Driven (counter.setControl value pair).2 := by
  let written := (counter.setControl value pair).1
  let choose (pll : Pll τ) :=
    if written.mode.isPll then pll.drivePins written.loopPins.1 written.loopPins.2 else pll
  let chosen := choose (pair.channel written.channel)
  have control : (counter.setControl value pair).2
      = pair.modify written.channel fun pll => written.driveLoop (choose pll) :=
    rfl
  rw [control]
  refine ⟨written, chosen.pinsHigh, chosen.pinsLow, modify_congr ?_⟩
  show written.driveLoop chosen = _
  by_cases uses : written.mode.isPll <;> simp only [chosen, choose, uses] <;> rfl

lemma driven_setFrequency (pair : PllPair τ) (counter : Counter) (value : UInt32) :
    pair.Driven (counter.setFrequency value pair).2 :=
  ⟨(counter.setFrequency value pair).1, (pair.channel counter.channel).pinsHigh,
    (pair.channel counter.channel).pinsLow, modify_congr rfl⟩

end PllPair

/-- A register is that of a counter, which sets its loop, or has nothing to do with the loops. -/
lemma CogBody.driven_writeRegister (body : CogBody τ) (running : UInt8) (address value : UInt32) :
    ReflGen PllPair.Driven body.plls (body.writeRegister running address value).plls := by
  simp only [writeRegister]
  split
  case h_4 => exact .single (body.plls.driven_setControl body.counterA value)
  case h_5 => exact .single (body.plls.driven_setControl body.counterB value)
  case h_6 => exact .single (body.plls.driven_setFrequency body.counterA value)
  case h_7 => exact .single (body.plls.driven_setFrequency body.counterB value)
  all_goals exact .refl

/-- **Whatever a cog does**, counters set its loops, and nothing else does. -/
theorem CogBody.Actions.driven {before after : CogBody τ × Hub}
    (run : CogBody.Actions before after) :
    ReflTransGen PllPair.Driven before.1.plls after.1.plls := by
  refine run.preserves
    (P := fun state => ReflTransGen PllPair.Driven before.1.plls state.1.plls) ?_ .refl
  rintro _ _ action driven
  cases action with
  | register body hub address value =>
    exact driven.trans (body.driven_writeRegister hub.running address value).to_reflTransGen
  | _ => exact driven

/-! ## Frequencies -/

lemma Oscillator.frequency_setFrequency (oscillator : Oscillator τ) (frequency : UInt32) :
    (oscillator.setFrequency frequency).frequency = frequency := by
  simp only [setFrequency]
  split
  · next zero => exact zero.symm
  · rfl

lemma Oscillator.frequency_advance (oscillator : Oscillator τ) (elapsed : τ) :
    (oscillator.advance elapsed).2.frequency = oscillator.frequency := by
  simp only [advance]
  split
  · rfl
  · split <;> rfl

namespace Pll

lemma baseFrequency_feed (pll : Pll τ) (multiplier : τ) :
    (pll.feed multiplier).baseFrequency = pll.baseFrequency := by
  simp only [feed]
  split <;> rfl

lemma baseFrequency_setBaseFrequency (pll : Pll τ) (frequency : UInt32) :
    (pll.setBaseFrequency frequency).baseFrequency = frequency :=
  baseFrequency_feed { pll with baseFrequency := frequency } pll.multiplier

lemma baseFrequency_advance (pll : Pll τ) (elapsed : τ) :
    (pll.advance elapsed).2.baseFrequency = pll.baseFrequency := by
  simp only [advance]
  split
  · split <;> rfl
  · rfl

end Pll

/-- A counter feeds its loop or switches it off, but has no say in what is multiplied. -/
lemma Counter.baseFrequency_driveLoop (counter : Counter) (pll : Pll τ) :
    (counter.driveLoop pll).baseFrequency = pll.baseFrequency := by
  rw [driveLoop]
  split
  · exact Pll.baseFrequency_feed pll _
  · rfl

namespace PllPair

/-- Both loops multiply the given frequency. -/
def ClockedAt (pair : PllPair τ) (frequency : UInt32) : Prop :=
  ∀ channel, (pair.channel channel).baseFrequency = frequency

variable {pair : PllPair τ} {frequency : UInt32}

omit [Timebase τ] in
lemma ClockedAt.modify (h : pair.ClockedAt frequency) (channel : Channel)
    {change : Pll τ → Pll τ} (same : ∀ pll, (change pll).baseFrequency = pll.baseFrequency) :
    (pair.modify channel change).ClockedAt frequency := by
  intro other
  rw [channel_modify]
  split
  · exact (same _).trans (h other)
  · exact h other

lemma clockedAt_setBaseFrequency (pair : PllPair τ) (frequency : UInt32) :
    (pair.setBaseFrequency frequency).ClockedAt frequency := by
  intro channel
  rw [channel_setBaseFrequency, Pll.baseFrequency_setBaseFrequency]

lemma ClockedAt.advance (h : pair.ClockedAt frequency) (elapsed : τ) :
    (pair.advance elapsed).2.ClockedAt frequency := by
  intro channel
  rw [channel_advance, Pll.baseFrequency_advance]
  exact h channel

lemma ClockedAt.driven {after : PllPair τ} (h : pair.ClockedAt frequency)
    (driven : pair.Driven after) : after.ClockedAt frequency := by
  obtain ⟨counter, pinsHigh, pinsLow, rfl⟩ := driven
  exact h.modify _ fun pll => counter.baseFrequency_driveLoop (pll.drivePins pinsHigh pinsLow)

lemma ClockedAt.retuned {after : PllPair τ} (h : pair.ClockedAt frequency)
    (driven : ReflTransGen Driven pair after) : after.ClockedAt frequency := by
  induction driven with
  | refl => exact h
  | tail _ last ih => exact ih.driven last

end PllPair

/-- **Whatever a cog does**, its loops go on to multiply the same frequency. -/
theorem CogBody.Actions.clockedAt {before after : CogBody τ × Hub} {frequency : UInt32}
    (run : CogBody.Actions before after) (h : before.1.plls.ClockedAt frequency) :
    after.1.plls.ClockedAt frequency :=
  h.retuned run.driven

end P1Chip
