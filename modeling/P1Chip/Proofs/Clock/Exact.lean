import Mathlib.Algebra.Order.Field.Rat
import Mathlib.Algebra.Order.Floor.Ring
import Mathlib.Data.Rat.Floor
import Mathlib.Tactic.FieldSimp
import Mathlib.Tactic.GCongr
import Mathlib.Tactic.Linarith
import Mathlib.Tactic.NormNum
import Mathlib.Tactic.Positivity
import P1Chip.Proofs.Clock.Sources

/-!
# Clocks with exact times

With exact fractions for times, a clock source that goes on by no more than the time that is left
to it has its next edge exactly when nothing is left, and no time is lost between two edges.  Two
facts bound how often a loop can come before the system clock: a loop multiplies the system clock by
less than 16 and has two edges for each period, and a counter that sets its loop anew can bring the
next edge forward, but only to the end of a whole new period.

* `Oscillator.Paced`, `Pll.Paced` — what is true of a clock source at all times.
* `Oscillator.edge_iff`, `Pll.edge_iff` — when there is an edge.
* `Pll.shortest` — less than the time between two edges of a loop.
* `Pll.room` — a bound for the edges of a loop in a span of time.
* **`Pll.Paced.room_edge`** — each edge takes some of it.
* **`Counter.room_driveLoop`** — a counter that sets its loop makes no room for more of them.
-/

namespace P1Chip

open Timebase

/-! ## Exact fractions -/

namespace Timebase

@[simp]
lemma ofNat_rat (n : Nat) : (ofNat n : Rat) = n := rfl

@[simp]
lemma lt_rat (a b : Rat) : lt a b = decide (a < b) := rfl

@[simp]
lemma le_rat (a b : Rat) : le a b = decide (a ≤ b) := rfl

@[simp]
lemma least_rat (a b : Rat) : least a b = min a b := by
  rw [least, lt_rat, min_comm, min_def_lt]
  simp only [decide_eq_true_eq]

@[simp]
lemma period_rat (frequency : Rat) : period frequency = 1 / frequency := by
  rw [period, ofNat_rat, Nat.cast_one]

end Timebase

@[simp]
lemma idleInterval_rat : (idleInterval : Rat) = 1 := Nat.cast_one

/-- As a number, a frequency other than zero is at least one. -/
lemma one_le_frequency {frequency : UInt32} (runs : frequency ≠ 0) :
    (1 : Rat) ≤ frequency.toNat := by
  have nonzero : frequency.toNat ≠ 0 := fun zero => runs (UInt32.toNat_inj.mp zero)
  exact_mod_cast Nat.one_le_iff_ne_zero.mpr nonzero

/-! ## The system oscillator -/

namespace Oscillator

/-- The next edge is to come, within a second and within a period. -/
structure Paced (oscillator : Oscillator Rat) : Prop where
  ahead : 0 < oscillator.timeLeft
  soon : oscillator.timeLeft ≤ 1
  period : oscillator.frequency ≠ 0 → oscillator.period = 1 / oscillator.frequency.toNat
  withinPeriod : oscillator.frequency ≠ 0 → oscillator.timeLeft ≤ oscillator.period

variable {oscillator : Oscillator Rat}

lemma paced_stopped : (stopped : Oscillator Rat).Paced :=
  ⟨by simp [stopped], by simp [stopped], fun runs => absurd rfl runs, fun runs => absurd rfl runs⟩

lemma Paced.setFrequency (paced : oscillator.Paced) (frequency : UInt32) :
    (oscillator.setFrequency frequency).Paced := by
  rw [Oscillator.setFrequency]
  split
  · exact paced_stopped
  · next runs =>
    have positive := one_le_frequency runs
    simp only [period_rat, ofNat_rat, least_rat]
    refine ⟨lt_min paced.ahead (by positivity), (min_le_left _ _).trans paced.soon,
      fun _ => rfl, fun _ => min_le_right _ _⟩

/-- An oscillator that goes on without an edge. -/
lemma advance_of_lt (runs : oscillator.frequency ≠ 0) {elapsed : Rat}
    (before : elapsed < oscillator.timeLeft) :
    oscillator.advance elapsed
      = (false, { oscillator with timeLeft := oscillator.timeLeft - elapsed }) := by
  have left : ¬ oscillator.timeLeft - elapsed ≤ 0 := by linarith
  rw [advance, if_neg runs]
  exact if_neg (by simpa using left)

/-- An oscillator that goes on up to its edge. -/
lemma advance_timeLeft (runs : oscillator.frequency ≠ 0) :
    oscillator.advance oscillator.timeLeft
      = (true, { oscillator with timeLeft := oscillator.period }) := by
  have next : oscillator.timeLeft - oscillator.timeLeft + oscillator.period = oscillator.period := by
    ring
  rw [advance, if_neg runs]
  refine (if_pos (by simp)).trans ?_
  exact congrArg (fun timeLeft => (true, { oscillator with timeLeft })) next

/-- **There is an edge** exactly when nothing is left of the time until then. -/
theorem edge_iff {elapsed : Rat} (within : elapsed ≤ oscillator.timeLeft) :
    (oscillator.advance elapsed).1 ↔ oscillator.frequency ≠ 0 ∧ elapsed = oscillator.timeLeft := by
  by_cases runs : oscillator.frequency = 0
  · simp [advance, runs]
  · rcases within.lt_or_eq with before | rfl
    · simp [advance_of_lt runs before, before.ne]
    · simp [advance_timeLeft runs, runs]

lemma Paced.advance (paced : oscillator.Paced) {elapsed : Rat} (forward : 0 ≤ elapsed)
    (within : elapsed ≤ oscillator.timeLeft) : (oscillator.advance elapsed).2.Paced := by
  by_cases runs : oscillator.frequency = 0
  · rw [Oscillator.advance, if_pos runs]
    exact paced
  · have period := paced.period runs
    have positive := one_le_frequency runs
    rcases within.lt_or_eq with before | rfl
    · rw [advance_of_lt runs before]
      have soon := paced.soon
      have withinPeriod := paced.withinPeriod runs
      exact ⟨sub_pos.mpr before, by linarith, fun _ => period, fun _ => by linarith⟩
    · rw [advance_timeLeft runs]
      refine ⟨?_, ?_, fun _ => period, fun _ => le_rfl⟩
      · show 0 < oscillator.period
        rw [period]
        positivity
      · show oscillator.period ≤ 1
        rw [period, div_le_one (by linarith)]
        exact positive

end Oscillator

/-! ## Loops -/

namespace Pll

/-- Less than the time between two edges of any loop that multiplies a frequency. -/
def shortest (frequency : UInt32) : Rat :=
  1 / (32 * frequency.toNat)

/-- The next edge is to come; in a loop that is off it does not come within a second, and in one
that runs others follow not too soon. -/
structure Paced (pll : Pll Rat) : Prop where
  multiplier : pll.multiplier < 16
  ahead : 0 < pll.timeLeft
  off : pll.isEnabled = false → pll.timeLeft = 1
  base : pll.isEnabled → pll.baseFrequency ≠ 0
  period : pll.isEnabled → shortest pll.baseFrequency ≤ pll.period

variable {pll : Pll Rat}

lemma isEnabled_rat : pll.isEnabled = decide (0 < pll.frequency) := by
  simp [isEnabled]

lemma paced_off : (off : Pll Rat).Paced := by
  have disabled : (off : Pll Rat).isEnabled = false := by
    rw [isEnabled_rat]
    rfl
  have notEnabled : ¬ (off : Pll Rat).isEnabled := Bool.eq_false_iff.mp disabled
  exact ⟨by simp [off], by simp [off], fun _ => by simp [off], fun on => absurd on notEnabled,
    fun on => absurd on notEnabled⟩

lemma paced_disable (small : pll.multiplier < 16) : pll.disable.Paced := by
  have notEnabled : ¬ pll.disable.isEnabled := Bool.eq_false_iff.mp (isEnabled_disable pll)
  exact ⟨small, by simp [Pll.disable], fun _ => by simp [Pll.disable],
    fun on => absurd on notEnabled, fun on => absurd on notEnabled⟩

lemma Paced.drivePins (paced : pll.Paced) (pinsHigh pinsLow : UInt64) :
    (pll.drivePins pinsHigh pinsLow).Paced :=
  ⟨paced.multiplier, paced.ahead, paced.off, paced.base, paced.period⟩

lemma shortest_le_one (frequency : UInt32) : shortest frequency ≤ 1 := by
  by_cases zero : frequency = 0
  · simp [shortest, zero]
  · have positive := one_le_frequency zero
    rw [shortest, div_le_one (by linarith)]
    linarith

lemma shortest_pos {frequency : UInt32} (runs : frequency ≠ 0) : 0 < shortest frequency := by
  have positive := one_le_frequency runs
  rw [shortest]
  positivity

/-- A multiple that a loop locks onto, and so what it multiplies, is not zero; and less than the 32
edges that a multiple of 16 has fall into a period of what is multiplied. -/
lemma target_bounds {frequency : UInt32} {multiplier : Rat} (small : multiplier < 16)
    (low : 500000 ≤ frequency.toNat * multiplier) :
    frequency ≠ 0 ∧ shortest frequency ≤ 1 / (frequency.toNat * multiplier * 2) := by
  have runs : frequency ≠ 0 := by
    rintro rfl
    norm_num at low
  have positive := one_le_frequency runs
  refine ⟨runs, one_div_le_one_div_of_le (by linarith) ?_⟩
  nlinarith

lemma feed_rat (pll : Pll Rat) (multiplier : Rat) :
    pll.feed multiplier
      = if 500000 ≤ pll.baseFrequency.toNat * multiplier
            ∧ pll.baseFrequency.toNat * multiplier ≤ 128000000 then
          { pll with multiplier }.setFrequency (pll.baseFrequency.toNat * multiplier * 2)
        else
          { pll with multiplier }.disable := by
  simp [feed, lowest, highest]

/-- Whatever a loop was locked onto, it can be fed again. -/
lemma paced_feed (ahead : 0 < pll.timeLeft) {multiplier : Rat} (small : multiplier < 16) :
    (pll.feed multiplier).Paced := by
  rw [feed_rat]
  split
  · next range =>
    obtain ⟨runs, far⟩ := target_bounds small range.1
    have fast : 0 < pll.baseFrequency.toNat * multiplier * 2 := by linarith [range.1]
    refine ⟨small, ?_, fun off => ?_, fun _ => runs, fun _ => ?_⟩
    · simp only [setFrequency, least_rat, period_rat]
      exact lt_min ahead (one_div_pos.mpr fast)
    · rw [isEnabled_rat] at off
      exact absurd fast (of_decide_eq_false off)
    · simpa [setFrequency] using far
  · exact paced_disable small

lemma Paced.setBaseFrequency (paced : pll.Paced) (frequency : UInt32) :
    (pll.setBaseFrequency frequency).Paced := by
  let clocked := { pll with baseFrequency := frequency }
  have ahead : 0 < clocked.timeLeft := paced.ahead
  exact paced_feed ahead paced.multiplier

/-- A loop that goes on without an edge. -/
lemma advance_of_lt (on : pll.isEnabled) {elapsed : Rat} (before : elapsed < pll.timeLeft) :
    pll.advance elapsed = (none, { pll with timeLeft := pll.timeLeft - elapsed }) := by
  have left : ¬ pll.timeLeft - elapsed ≤ 0 := by linarith
  rw [advance, if_pos on]
  exact if_neg (by simpa using left)

/-- A loop that goes on up to its edge. -/
lemma advance_timeLeft (on : pll.isEnabled) :
    pll.advance pll.timeLeft
      = (some (!pll.output), { pll with timeLeft := pll.period, output := !pll.output }) := by
  have next : pll.timeLeft - pll.timeLeft + pll.period = pll.period := by ring
  rw [advance, if_pos on]
  refine (if_pos (by simp)).trans ?_
  exact congrArg (fun timeLeft => (_, { pll with timeLeft, output := !pll.output })) next

lemma advance_of_off (off : pll.isEnabled = false) (elapsed : Rat) :
    pll.advance elapsed = (none, pll) :=
  if_neg (Bool.eq_false_iff.mp off)

/-- **There is an edge** exactly when nothing is left of the time until then. -/
theorem edge_iff {elapsed : Rat} (within : elapsed ≤ pll.timeLeft) :
    (pll.advance elapsed).1.isSome ↔ pll.isEnabled ∧ elapsed = pll.timeLeft := by
  cases on : pll.isEnabled with
  | false => simp [advance_of_off on]
  | true =>
    rcases within.lt_or_eq with before | rfl
    · simp [advance_of_lt on before, before.ne]
    · simp [advance_timeLeft on]

lemma Paced.advance (paced : pll.Paced) {elapsed : Rat} (within : elapsed ≤ pll.timeLeft) :
    (pll.advance elapsed).2.Paced := by
  cases on : pll.isEnabled with
  | false => rwa [advance_of_off on]
  | true =>
    have running {timeLeft : Rat} (ahead : 0 < timeLeft) (output : Bool) :
        { pll with timeLeft, output }.Paced :=
      ⟨paced.multiplier, ahead, fun off => Bool.noConfusion (on.symm.trans off), paced.base,
        paced.period⟩
    rcases within.lt_or_eq with before | rfl
    · rw [advance_of_lt on before]
      exact running (sub_pos.mpr before) pll.output
    · rw [advance_timeLeft on]
      exact running ((shortest_pos (paced.base on)).trans_le (paced.period on)) (!pll.output)

/-! ### How many edges there can be -/

/-- A time within which the loop has no edge, and can be given none by its counter. -/
def quiet (pll : Pll Rat) : Rat :=
  min pll.timeLeft (shortest pll.baseFrequency)

lemma quiet_le_timeLeft (pll : Pll Rat) : pll.quiet ≤ pll.timeLeft :=
  min_le_left _ _

lemma quiet_le_shortest (pll : Pll Rat) : pll.quiet ≤ shortest pll.baseFrequency :=
  min_le_right _ _

lemma le_quiet_iff {time : Rat} :
    time ≤ pll.quiet ↔ time ≤ pll.timeLeft ∧ time ≤ shortest pll.baseFrequency :=
  le_min_iff

lemma quiet_disable (pll : Pll Rat) : pll.quiet ≤ pll.disable.quiet := by
  refine le_quiet_iff.mpr ⟨?_, pll.quiet_le_shortest⟩
  simpa [disable] using pll.quiet_le_shortest.trans (shortest_le_one _)

lemma quiet_feed (pll : Pll Rat) {multiplier : Rat} (small : multiplier < 16) :
    pll.quiet ≤ (pll.feed multiplier).quiet := by
  rw [feed_rat]
  split
  · next range =>
    have far := (target_bounds small range.1).2
    simp only [setFrequency, least_rat, period_rat]
    exact le_quiet_iff.mpr
      ⟨le_min pll.quiet_le_timeLeft (pll.quiet_le_shortest.trans far), pll.quiet_le_shortest⟩
  · exact quiet_disable { pll with multiplier }

/-- A bound for the edges that a loop can have before some time, whatever its counter does. -/
def room (pll : Pll Rat) (time : Rat) : Nat :=
  ⌈(time - pll.quiet) * (32 * pll.baseFrequency.toNat)⌉₊

lemma room_mono {after : Pll Rat} {time time' : Rat}
    (base : after.baseFrequency = pll.baseFrequency)
    (quiet : time' - after.quiet ≤ time - pll.quiet) : after.room time' ≤ pll.room time := by
  rw [room, room, base]
  gcongr

/-- Before the end of a period of the system clock, there are no more than 32. -/
lemma Paced.room_le (paced : pll.Paced) {time : Rat}
    (within : pll.baseFrequency ≠ 0 → time ≤ 1 / pll.baseFrequency.toNat) : pll.room time ≤ 32 := by
  rw [room, Nat.ceil_le]
  by_cases zero : pll.baseFrequency = 0
  · simp [zero]
  · have positive := one_le_frequency zero
    have ahead : 0 < pll.quiet := lt_min paced.ahead (shortest_pos zero)
    have period : time * pll.baseFrequency.toNat ≤ 1 := by
      rw [← le_div_iff₀ (by linarith)]
      exact within zero
    push_cast
    nlinarith

/-- Time that passes makes no room. -/
lemma Paced.room_advance (paced : pll.Paced) {elapsed : Rat} (forward : 0 ≤ elapsed)
    (within : elapsed ≤ pll.timeLeft) (time : Rat) :
    (pll.advance elapsed).2.room (time - elapsed) ≤ pll.room time := by
  refine room_mono (baseFrequency_advance pll elapsed) ?_
  suffices pll.quiet - elapsed ≤ (pll.advance elapsed).2.quiet by linarith
  have sooner := pll.quiet_le_timeLeft
  have short := pll.quiet_le_shortest
  rw [le_quiet_iff, baseFrequency_advance]
  refine ⟨?_, by linarith⟩
  cases on : pll.isEnabled with
  | false =>
    rw [advance_of_off on]
    linarith
  | true =>
    rcases within.lt_or_eq with before | rfl
    · rw [advance_of_lt on before]
      exact sub_le_sub_right sooner elapsed
    · rw [advance_timeLeft on]
      have period := paced.period on
      show pll.quiet - pll.timeLeft ≤ pll.period
      linarith

/-- **Each edge** takes some of the room. -/
theorem Paced.room_edge (paced : pll.Paced) (on : pll.isEnabled) {time : Rat}
    (before : pll.timeLeft < time) :
    (pll.advance pll.timeLeft).2.room (time - pll.timeLeft) < pll.room time := by
  have positive := one_le_frequency (paced.base on)
  have quiet : (pll.advance pll.timeLeft).2.quiet = shortest pll.baseFrequency := by
    rw [advance_timeLeft on]
    exact min_eq_right (paced.period on)
  have sooner := pll.quiet_le_timeLeft
  have unit : shortest pll.baseFrequency * (32 * pll.baseFrequency.toNat) = 1 := by
    rw [shortest]
    field_simp
  have left : 0 < (time - pll.timeLeft) * (32 * pll.baseFrequency.toNat) := by
    have := sub_pos.mpr before
    positivity
  calc ⌈(time - pll.timeLeft - (pll.advance pll.timeLeft).2.quiet)
          * (32 * (pll.advance pll.timeLeft).2.baseFrequency.toNat)⌉₊
      = ⌈(time - pll.timeLeft) * (32 * pll.baseFrequency.toNat) - 1⌉₊ := by
        rw [quiet, baseFrequency_advance, sub_mul _ (shortest _), unit]
    _ < ⌈(time - pll.timeLeft) * (32 * pll.baseFrequency.toNat)⌉₊ := by
        rw [Nat.ceil_sub_one]
        exact Nat.sub_lt (Nat.ceil_pos.mpr left) Nat.one_pos
    _ ≤ pll.room time := by
        rw [room]
        gcongr

end Pll

/-! ## Counters -/

namespace Counter

/-- A counter never asks for sixteen times the system clock. -/
lemma multiplier_lt (counter : Counter) : (counter.multiplier : Rat) < 16 := by
  have frequency : (counter.frequency.toNat : Rat) < 4294967296 := by
    exact_mod_cast counter.frequency.toNat_lt
  have whole : (counter.frequency.toNat : Rat) / 4294967296 * 16 < 16 := by linarith
  rw [multiplier]
  simp only [ofNat_rat]
  rcases Nat.eq_zero_or_pos counter.divider.toNat with zero | positive
  · simp [zero]
  · have one : (1 : Rat) ≤ counter.divider.toNat := by exact_mod_cast positive
    exact (div_le_self (by positivity) one).trans_lt whole

variable (counter : Counter) {pll : Pll Rat}

lemma paced_driveLoop (paced : pll.Paced) : (counter.driveLoop pll).Paced := by
  rw [driveLoop]
  split
  · exact Pll.paced_feed paced.ahead counter.multiplier_lt
  · exact Pll.paced_disable paced.multiplier

/-- The edge of a loop that is set anew comes no later, or not at all. -/
lemma timeLeft_driveLoop (on : (counter.driveLoop pll).isEnabled) :
    (counter.driveLoop pll).timeLeft ≤ pll.timeLeft := by
  have running {pll : Pll Rat} : ¬ pll.disable.isEnabled :=
    Bool.eq_false_iff.mp (Pll.isEnabled_disable pll)
  rw [driveLoop] at on ⊢
  split at on
  · next uses =>
    rw [if_pos uses]
    rw [Pll.feed_rat] at on ⊢
    split at on
    · next range =>
      rw [if_pos range]
      simp only [Pll.setFrequency, least_rat]
      exact min_le_left _ _
    · exact absurd on running
  · exact absurd on running

/-- **A counter that sets its loop** makes no room for more edges. -/
theorem room_driveLoop (pll : Pll Rat) (time : Rat) :
    (counter.driveLoop pll).room time ≤ pll.room time := by
  refine Pll.room_mono (counter.baseFrequency_driveLoop pll) (sub_le_sub_left ?_ time)
  rw [driveLoop]
  split
  · exact pll.quiet_feed counter.multiplier_lt
  · exact pll.quiet_disable

end Counter

end P1Chip
