import P1Chip.Proofs.Clock.Exact
import P1Chip.Proofs.Cog.Step

/-!
# The loops of a cog in time

While time passes, the loops of a cog go on.  With an edge of the first one a video frame may end,
and a cog that waits for that then goes on, which can write a register of a counter and so set its
loop anew.

* `Cog.driven_frameComplete` — at the end of a video frame, one loop is set at most.
* `PllPair.Passes` — what becomes of the loops of a cog in a span of time.
* **`PllPair.Passes.paced`**, **`PllPair.Passes.room_le`**, **`PllPair.Passes.room_lt`** — loops
  stay paced, and each edge takes some of the room that is left for them.
* `PllPair.Passes.timeLeft_le` — an edge that is still to come is not put off.
-/

namespace P1Chip

open Relation

section Cogs

variable {τ : Type} [Timebase τ]

/-- At the end of a video frame, a cog writes a single register. -/
lemma Cog.driven_frameComplete (cog : Cog τ) (running : UInt8) :
    ReflGen PllPair.Driven cog.body.plls (cog.frameComplete running).body.plls := by
  rcases cog with ⟨body, native | frames⟩
  · simp only [frameComplete, Native.supplyVideo]
    split
    · let supplied :=
        { body with video := body.video.feed native.pending.d native.pending.s }
      simp only [Native.writeBack]
      split
      · exact supplied.driven_writeRegister running _ _
      · exact .refl
    · exact .refl
  · simp only [frameComplete, SpinFrames.supplyVideo]
    split <;> exact .refl

/-- What becomes of the loops of a cog in a span of time.  With an edge of the first one a video
frame may have ended, and the cog may have written a register of one of its counters then. -/
def PllPair.Passes (elapsed : τ) (before after : PllPair τ) : Prop :=
  after = (before.advance elapsed).2 ∨
    (before.advance elapsed).1.a.isSome ∧ (before.advance elapsed).2.Driven after

end Cogs

/-! ## Exact times -/

namespace PllPair

/-- Both loops are paced. -/
def Paced (pair : PllPair Rat) : Prop :=
  ∀ channel, (pair.channel channel).Paced

/-- A bound for the edges that both loops can have before some time. -/
def room (pair : PllPair Rat) (time : Rat) : Nat :=
  pair.a.room time + pair.b.room time

lemma timeLeft_le (pair : PllPair Rat) (channel : Channel) :
    pair.timeLeft ≤ (pair.channel channel).timeLeft := by
  rw [timeLeft, Timebase.least_rat]
  cases channel with
  | a => exact min_le_left _ _
  | b => exact min_le_right _ _

/-- The next edge of a cog's loops is that of one of them. -/
lemma exists_timeLeft (pair : PllPair Rat) :
    ∃ channel, (pair.channel channel).timeLeft = pair.timeLeft := by
  rw [timeLeft, Timebase.least_rat]
  rcases min_choice pair.a.timeLeft pair.b.timeLeft with first | second
  · exact ⟨.a, first.symm⟩
  · exact ⟨.b, second.symm⟩

variable {before after : PllPair Rat}

lemma paced_off : (off : PllPair Rat).Paced
  | .a => Pll.paced_off
  | .b => Pll.paced_off

lemma Paced.setBaseFrequency (paced : before.Paced) (frequency : UInt32) :
    (before.setBaseFrequency frequency).Paced := by
  intro channel
  rw [channel_setBaseFrequency]
  exact (paced channel).setBaseFrequency frequency

lemma Driven.channel_cases (driven : before.Driven after) (channel : Channel) :
    after.channel channel = before.channel channel ∨
      ∃ (counter : Counter) (pinsHigh pinsLow : UInt64), after.channel channel
        = counter.driveLoop ((before.channel channel).drivePins pinsHigh pinsLow) := by
  obtain ⟨counter, pinsHigh, pinsLow, rfl⟩ := driven
  rw [channel_modify]
  split
  · exact .inr ⟨counter, pinsHigh, pinsLow, rfl⟩
  · exact .inl rfl

lemma Paced.driven (paced : before.Paced) (driven : before.Driven after) : after.Paced := by
  intro channel
  rcases driven.channel_cases channel with same | ⟨counter, pinsHigh, pinsLow, set⟩
  · rw [same]
    exact paced channel
  · rw [set]
    exact counter.paced_driveLoop ((paced channel).drivePins pinsHigh pinsLow)

lemma Paced.retuned (paced : before.Paced) (driven : ReflTransGen Driven before after) :
    after.Paced := by
  induction driven with
  | refl => exact paced
  | tail _ last ih => exact ih.driven last

/-- A counter that sets its loop makes no room for more edges. -/
lemma Driven.room_le (driven : before.Driven after) (time : Rat) :
    after.room time ≤ before.room time := by
  have each (channel : Channel) :
      (after.channel channel).room time ≤ (before.channel channel).room time := by
    rcases driven.channel_cases channel with same | ⟨counter, pinsHigh, pinsLow, set⟩
    · rw [same]
    · rw [set]
      exact counter.room_driveLoop _ time
  exact Nat.add_le_add (each .a) (each .b)

/-- The edge of a loop that is set anew comes no later, or not at all. -/
lemma Driven.timeLeft_le (driven : before.Driven after) {channel : Channel}
    (on : (after.channel channel).isEnabled) :
    (after.channel channel).timeLeft ≤ (before.channel channel).timeLeft := by
  rcases driven.channel_cases channel with same | ⟨counter, pinsHigh, pinsLow, set⟩
  · rw [same]
  · rw [set] at on ⊢
    exact counter.timeLeft_driveLoop on

/-! ### A span of time -/

variable {elapsed : Rat}

lemma Paced.advance (paced : before.Paced)
    (within : ∀ channel, elapsed ≤ (before.channel channel).timeLeft) :
    (before.advance elapsed).2.Paced := by
  intro channel
  rw [channel_advance]
  exact (paced channel).advance (within channel)

/-- **Loops stay paced** while time passes. -/
theorem Passes.paced (passes : before.Passes elapsed after) (paced : before.Paced)
    (within : ∀ channel, elapsed ≤ (before.channel channel).timeLeft) : after.Paced := by
  rcases passes with rfl | ⟨-, driven⟩
  · exact paced.advance within
  · exact (paced.advance within).driven driven

lemma Passes.room_advance (passes : before.Passes elapsed after) (time : Rat) :
    after.room time ≤ (before.advance elapsed).2.room time := by
  rcases passes with rfl | ⟨-, driven⟩
  · exact le_rfl
  · exact driven.room_le time

/-- An edge that is still to come comes no later than before, or not at all. -/
lemma Passes.timeLeft_le (passes : before.Passes elapsed after) {channel : Channel}
    (waits : elapsed < (before.channel channel).timeLeft)
    (wasOn : (before.channel channel).isEnabled) (on : (after.channel channel).isEnabled) :
    (after.channel channel).timeLeft ≤ (before.channel channel).timeLeft - elapsed := by
  have gone : ((before.advance elapsed).2.channel channel).timeLeft
      = (before.channel channel).timeLeft - elapsed := by
    rw [channel_advance, Pll.advance_of_lt wasOn waits]
  rcases passes with rfl | ⟨-, driven⟩
  · exact gone.le
  · exact (driven.timeLeft_le on).trans gone.le

/-- **Time that passes** makes no room for more edges. -/
theorem Passes.room_le (passes : before.Passes elapsed after) (paced : before.Paced)
    (forward : 0 ≤ elapsed) (within : ∀ channel, elapsed ≤ (before.channel channel).timeLeft)
    (time : Rat) : after.room (time - elapsed) ≤ before.room time :=
  (passes.room_advance _).trans <| Nat.add_le_add
    ((paced .a).room_advance forward (within .a) time)
    ((paced .b).room_advance forward (within .b) time)

/-- **Each edge** takes some of the room. -/
theorem Passes.room_lt (passes : before.Passes elapsed after) (paced : before.Paced)
    (forward : 0 ≤ elapsed) (within : ∀ channel, elapsed ≤ (before.channel channel).timeLeft)
    {channel : Channel} (on : (before.channel channel).isEnabled)
    (due : elapsed = (before.channel channel).timeLeft) {time : Rat} (early : elapsed < time) :
    after.room (time - elapsed) < before.room time := by
  refine (passes.room_advance _).trans_lt ?_
  have other (channel : Channel) := (paced channel).room_advance forward (within channel) time
  have taken := (paced channel).room_edge on (due ▸ early)
  rw [← due] at taken
  cases channel with
  | a => exact Nat.add_lt_add_of_lt_of_le taken (other .b)
  | b => exact Nat.add_lt_add_of_le_of_lt (other .a) taken

end PllPair

end P1Chip
