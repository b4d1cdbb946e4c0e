import Mathlib.Algebra.BigOperators.Fin
import Mathlib.Algebra.Order.BigOperators.Group.Finset
import P1Chip.Proofs.Chip.Paced
import P1Chip.Proofs.Chip.Synchronized

/-!
# The rounds up to a system clock

Up to a system clock, time passes in rounds, each of which ends with the next edge of any clock
source.  The last round is the one that ends with the edge of the system oscillator; before it, some
loop has an edge in every round.  There is room for at most 32 edges of each loop in a period of the
system clock, and what becomes of the loops in between makes no more of it, so that the rounds end by
themselves.  Without a system clock all loops are off, and the first round is the last.

* `Chip.roundStart`, `Chip.roundTime`, `Chip.roundEnd` — the rounds.
* `Chip.turnEdges`, `Chip.HasEdge` — the edges of a cog's loops in a round.
* `Chip.Due` — when a loop has its next edge.
* `Chip.LastRound` — which round is the last.
* `Chip.Timely` — what is true of a chip before and after each round.
* `Chip.room` — a bound for the rounds that are left.
* **`Chip.Timely.room_nextRound_lt`** — each round but the last takes some of it.
* **`Chip.Timely.exists_lastRound`** — so the rounds come to an end.
* `Chip.ReachesClock` — how time passes up to the next system clock.
* **`Chip.reachesClock_run`** — this is how it passes in every chip.
-/

namespace P1Chip

/-- The new level of the output of a loop, if it toggled. -/
def PllEdges.channel (edges : PllEdges) : Channel → Option Bool
  | .a => edges.a
  | .b => edges.b

namespace Chip

/-! ## Rounds -/

section Rounds

variable {τ π : Type} [Timebase τ]

/-- The chip in a round, when the loops of a slot are about to go on. -/
def atTurn (chip : Chip τ π) (id : Fin 8) : Chip τ π :=
  chip.advanceAll chip.nextEdge.1 (slots.take id)

/-- The edges of a cog's loops in a round. -/
def turnEdges (chip : Chip τ π) (id : Fin 8) : PllEdges :=
  ((chip.atTurn id).cogs.get id).elim ⟨none, none⟩ fun cog => (cog.advance chip.nextEdge.1).1

/-- A cog's loops have their edges at its turn, but stand as they did before the round. -/
lemma turnEdges_eq (chip : Chip τ π) (id : Fin 8) :
    chip.turnEdges id
      = (chip.plls? id).elim ⟨none, none⟩ fun pair => (pair.advance chip.nextEdge.1).1 := by
  rw [← chip.plls?_advanceAll_take chip.nextEdge.1 id, plls?, turnEdges, atTurn]
  cases (chip.advanceAll chip.nextEdge.1 (slots.take id)).cogs.get id with
  | none => rfl
  | some cog => rfl

/-- At its turn, the loops of a cog go on and their edges are passed on. -/
lemma advanceCog_atTurn {chip : Chip τ π} {id : Fin 8} {cog : Cog τ}
    (there : (chip.atTurn id).cogs.get id = some cog) :
    (chip.atTurn id).advanceCog chip.nextEdge.1 id
      = ((chip.atTurn id).putCog id (cog.advance chip.nextEdge.1).2).dispatchEdges id
          (chip.turnEdges id) := by
  rw [advanceCog, takeCog_eq, turnEdges, there]
  dsimp only
  rw [putCog_takeCog]
  rfl

/-- A loop of a cog has an edge in a round. -/
def HasEdge (chip : Chip τ π) (id : Fin 8) (channel : Channel) : Prop :=
  ((chip.turnEdges id).channel channel).isSome

lemma turnEdges_channel {chip : Chip τ π} {id : Fin 8} {pair : PllPair τ}
    (is : chip.plls? id = some pair) (channel : Channel) :
    (chip.turnEdges id).channel channel = ((pair.channel channel).advance chip.nextEdge.1).1 := by
  rw [turnEdges_eq, is]
  cases channel <;> rfl

variable [Plugin τ π]

/-- The chip after a round in which a loop came first. -/
def nextRound (chip : Chip τ π) : Chip τ π :=
  (chip.passTime chip.nextEdge.1).notifyPins

/-- The chip at the start of a round. -/
def roundStart (chip : Chip τ π) (round : Nat) : Chip τ π :=
  nextRound^[round] chip

/-- The time that passes in a round. -/
def roundTime (chip : Chip τ π) (round : Nat) : τ :=
  (chip.roundStart round).nextEdge.1

/-- When a round ends, and its edges happen. -/
def roundEnd (chip : Chip τ π) (round : Nat) : τ :=
  (chip.roundStart round).time + chip.roundTime round

/-- In a round, a video frame ends with an edge of a cog's first loop, and the cog sets its loops
anew. -/
def SetsLoops (chip : Chip τ π) (id : Fin 8) : Prop :=
  (chip.turnEdges id).a.isSome ∧
    chip.nextRound.plls? id ≠ (chip.plls? id).map fun pair => (pair.advance chip.nextEdge.1).2

lemma roundStart_succ (chip : Chip τ π) (round : Nat) :
    chip.roundStart (round + 1) = (chip.roundStart round).nextRound :=
  Function.iterate_succ_apply' nextRound round chip

lemma roundStart_nextRound (chip : Chip τ π) (round : Nat) :
    chip.nextRound.roundStart round = chip.roundStart (round + 1) :=
  (Function.iterate_succ_apply nextRound round chip).symm

/-- Telling the plugins does nothing to the clock sources. -/
lemma notifyPins_sources (chip : Chip τ π) :
    chip.notifyPins.plls? = chip.plls? ∧ chip.notifyPins.oscillator = chip.oscillator
      ∧ chip.notifyPins.time = chip.time := by
  rw [notifyPins_eq]
  split <;> exact ⟨rfl, rfl, rfl⟩

lemma plls?_nextRound (chip : Chip τ π) :
    chip.nextRound.plls? = (chip.passTime chip.nextEdge.1).plls? :=
  (notifyPins_sources _).1

lemma oscillator_nextRound (chip : Chip τ π) :
    chip.nextRound.oscillator = (chip.oscillator.advance chip.nextEdge.1).2 := by
  obtain ⟨cogs, only⟩ := chip.onlyCogs_passTime chip.nextEdge.1
  rw [nextRound, (notifyPins_sources _).2.1, only]

lemma time_nextRound (chip : Chip τ π) : chip.nextRound.time = chip.time + chip.nextEdge.1 := by
  obtain ⟨cogs, only⟩ := chip.onlyCogs_passTime chip.nextEdge.1
  rw [nextRound, (notifyPins_sources _).2.2, only]

lemma advanceUpTo_succ (chip : Chip τ π) (budget : Nat) :
    advanceUpTo (budget + 1) chip
      = if chip.nextEdge.2 then advanceUpTo budget chip.nextRound
        else chip.passTime chip.nextEdge.1 :=
  rfl

/-- A loop comes first in all rounds up to the given one, and the oscillator in that. -/
structure LastRound (chip : Chip τ π) (last : Nat) : Prop where
  loopFirst : ∀ round < last, (chip.roundStart round).nextEdge.2 = true
  oscillatorLast : (chip.roundStart last).nextEdge.2 = false

/-- One round later, there is one less. -/
lemma LastRound.nextRound {chip : Chip τ π} {last : Nat} (rounds : chip.LastRound (last + 1)) :
    chip.nextRound.LastRound last where
  loopFirst := by
    intro round before
    rw [roundStart_nextRound]
    exact rounds.loopFirst (round + 1) (Nat.succ_lt_succ before)
  oscillatorLast := by
    rw [roundStart_nextRound]
    exact rounds.oscillatorLast

/-- And one round before, if a loop comes first in that, there is one more. -/
lemma LastRound.cons {chip : Chip τ π} {last : Nat} (first : chip.nextEdge.2 = true)
    (rounds : chip.nextRound.LastRound last) : chip.LastRound (last + 1) where
  loopFirst := by
    intro round before
    cases round with
    | zero => exact first
    | succ round =>
      rw [← roundStart_nextRound]
      exact rounds.loopFirst round (Nat.lt_of_succ_lt_succ before)
  oscillatorLast := by
    rw [← roundStart_nextRound]
    exact rounds.oscillatorLast

/-- Time passes in rounds, if it may do so often enough. -/
lemma LastRound.advanceUpTo {chip : Chip τ π} {last : Nat} (rounds : chip.LastRound last)
    {budget : Nat} (within : last < budget) :
    advanceUpTo budget chip = (chip.roundStart last).passTime (chip.roundTime last) := by
  induction budget generalizing chip last with
  | zero => exact absurd within (Nat.not_lt_zero last)
  | succ budget ih =>
    rw [advanceUpTo_succ]
    cases last with
    | zero => exact if_neg (Bool.eq_false_iff.mp rounds.oscillatorLast)
    | succ last =>
      have first : chip.nextEdge.2 = true := rounds.loopFirst 0 (Nat.succ_pos last)
      have others := ih rounds.nextRound (Nat.lt_of_succ_lt_succ within)
      rw [if_pos first, others, roundTime, roundTime, roundStart_nextRound]

end Rounds

/-! ## Before and after each round -/

variable {π : Type}

/-- All clock sources are paced, and have the same system clock. -/
structure Timely (chip : Chip Rat π) : Prop where
  synchronized : chip.Synchronized
  paced : chip.Paced

/-- When the next edge of the system oscillator is to come. -/
def nextClock (chip : Chip Rat π) : Rat :=
  chip.time + chip.oscillator.timeLeft

/-- A loop of a cog runs, and has its next edge at the given time. -/
def Due (chip : Chip Rat π) (id : Fin 8) (channel : Channel) (time : Rat) : Prop :=
  ∃ pair, chip.plls? id = some pair ∧ (pair.channel channel).isEnabled ∧
    chip.time + (pair.channel channel).timeLeft = time

/-- A bound for the edges that the loops can have before the next system clock, and so for the rounds. -/
def room (chip : Chip Rat π) : Nat :=
  ∑ n : Fin 8, (chip.plls? n).elim 0 fun pair => pair.room chip.oscillator.timeLeft

variable {chip : Chip Rat π}

namespace Timely

/-- The loops multiply the frequency of the oscillator. -/
lemma base (timely : chip.Timely) {n : Fin 8} {pair : PllPair Rat} (is : chip.plls? n = some pair)
    (channel : Channel) : (pair.channel channel).baseFrequency = chip.oscillator.frequency := by
  obtain ⟨cog, there, rfl⟩ := Option.map_eq_some_iff.mp is
  rw [timely.synchronized.oscillator]
  exact timely.synchronized.loops n cog there channel

/-- What comes before the oscillator is the edge of a loop that runs. -/
lemma first_loop (timely : chip.Timely) (first : chip.nextEdge.2 = true) :
    ∃ n pair channel, chip.plls? n = some pair ∧ (pair.channel channel).isEnabled ∧
      chip.nextEdge.1 = (pair.channel channel).timeLeft := by
  obtain ⟨before, n, pair, channel, is, due⟩ := chip.earliest_nextEdge.first first
  refine ⟨n, pair, channel, is, ?_, due.symm⟩
  by_contra off
  have idle := (timely.paced.loops is channel).off (Bool.eq_false_iff.mpr off)
  have soon := timely.paced.oscillator.soon
  linarith

/-- So without a system clock, no loop comes first. -/
lemma runs_of_first (timely : chip.Timely) (first : chip.nextEdge.2 = true) :
    chip.oscillator.frequency ≠ 0 := by
  obtain ⟨n, pair, channel, is, on, -⟩ := timely.first_loop first
  rw [← timely.base is channel]
  exact (timely.paced.loops is channel).base on

/-- In a period of the system clock there is room for 32 edges of each loop. -/
lemma room_le (timely : chip.Timely) : chip.room ≤ 512 := by
  have each : ∀ n ∈ (Finset.univ : Finset (Fin 8)),
      ((chip.plls? n).elim 0 fun pair => pair.room chip.oscillator.timeLeft) ≤ 64 := by
    intro n _
    cases is : chip.plls? n with
    | none => exact Nat.zero_le _
    | some pair =>
      have bound (channel : Channel) :
          (pair.channel channel).room chip.oscillator.timeLeft ≤ 32 := by
        refine (timely.paced.loops is channel).room_le fun runs => ?_
        rw [timely.base is channel] at runs ⊢
        rw [← timely.paced.oscillator.period runs]
        exact timely.paced.oscillator.withinPeriod runs
      exact Nat.add_le_add (bound .a) (bound .b)
  simpa [room] using Finset.sum_le_card_nsmul _ _ _ each

end Timely

section Loops

variable {id : Fin 8} {channel : Channel}

/-- A loop has an edge in a round if it is due at the end of it. -/
lemma hasEdge_iff : chip.HasEdge id channel ↔ chip.Due id channel (chip.time + chip.nextEdge.1) := by
  cases is : chip.plls? id with
  | none =>
    rw [HasEdge, turnEdges_eq, is]
    constructor
    · intro edge
      cases channel <;> cases edge
    · rintro ⟨_, there, -⟩
      cases is.symm.trans there
  | some pair =>
    have within := chip.earliest_nextEdge.loops is channel
    rw [HasEdge, turnEdges_channel is, Pll.edge_iff within]
    constructor
    · rintro ⟨on, now⟩
      exact ⟨pair, is, on, by rw [now]⟩
    · rintro ⟨_, there, on, now⟩
      cases is.symm.trans there
      exact ⟨on, (add_left_cancel now).symm⟩

variable [Plugin Rat π]

/-- In a round, a loop that runs has its edge or goes on to wait for it, unless it is set anew; and
even then it comes no later, or not at all. -/
lemma Due.nextRound {time : Rat} (due : chip.Due id channel time) :
    chip.HasEdge id channel ∧ chip.time + chip.nextEdge.1 = time ∨
      (∃ sooner ≤ time, chip.nextRound.Due id channel sooner ∧
        (¬ chip.SetsLoops id → sooner = time)) ∨
      chip.SetsLoops id ∧ ∀ time, ¬ chip.nextRound.Due id channel time := by
  obtain ⟨pair, is, on, rfl⟩ := due
  obtain ⟨after, gone, passes⟩ := exists_passes is
  rw [← plls?_nextRound] at gone
  rcases (chip.earliest_nextEdge.loops is channel).lt_or_eq with waits | now
  · right
    have sets (changed : after ≠ (pair.advance chip.nextEdge.1).2) : chip.SetsLoops id := by
      refine ⟨?_, ?_⟩
      · rw [turnEdges_eq, is]
        exact (passes.resolve_left changed).1
      · rw [gone, is]
        exact fun h => changed (Option.some.inj h)
    have advanced : (pair.advance chip.nextEdge.1).2.channel channel
        = { pair.channel channel with
            timeLeft := (pair.channel channel).timeLeft - chip.nextEdge.1 } := by
      rw [PllPair.channel_advance, Pll.advance_of_lt on waits]
    by_cases still : (after.channel channel).isEnabled
    · refine .inl ⟨_, ?_, ⟨after, gone, still, rfl⟩, fun kept => ?_⟩
      · have sooner := passes.timeLeft_le waits on still
        rw [time_nextRound]
        linarith
      · rw [not_imp_comm.mp sets kept, advanced, time_nextRound]
        ring
    · refine .inr ⟨sets ?_, ?_⟩
      · rintro rfl
        rw [advanced] at still
        exact still on
      · rintro time ⟨_, there, running, -⟩
        cases gone.symm.trans there
        exact still running
  · exact .inl ⟨hasEdge_iff.mpr ⟨pair, is, on, by rw [now]⟩, by rw [now]⟩

end Loops

variable [Plugin Rat π]

namespace Timely

lemma nextRound (timely : chip.Timely) : chip.nextRound.Timely where
  synchronized := by
    have run : ClockActions chip chip.nextRound :=
      (chip.clockActions_passTime chip.nextEdge.1).trans (clockActions_notifyPins _)
    exact run.actions.preserves (fun _ _ action h => h.action action) timely.synchronized
  paced := timely.paced.passTime.notifyPins

lemma roundStart (timely : chip.Timely) (round : Nat) : (chip.roundStart round).Timely := by
  induction round with
  | zero => exact timely
  | succ round ih =>
    rw [roundStart_succ]
    exact ih.nextRound

/-- The oscillator goes on without an edge if a loop comes first. -/
lemma oscillator_nextRound (timely : chip.Timely) (first : chip.nextEdge.2 = true) :
    chip.nextRound.oscillator
      = { chip.oscillator with timeLeft := chip.oscillator.timeLeft - chip.nextEdge.1 } := by
  rw [Chip.oscillator_nextRound, Oscillator.advance_of_lt (timely.runs_of_first first)
    (chip.earliest_nextEdge.first first).1]

/-- A round in which a loop comes first does not put off the next system clock. -/
lemma nextClock_nextRound (timely : chip.Timely) (first : chip.nextEdge.2 = true) :
    chip.nextRound.nextClock = chip.nextClock := by
  rw [nextClock, nextClock, timely.oscillator_nextRound first, time_nextRound]
  ring

/-- **Each round in which a loop comes first** takes some of the room for others. -/
theorem room_nextRound_lt (timely : chip.Timely) (first : chip.nextEdge.2 = true) :
    chip.nextRound.room < chip.room := by
  have earliest := chip.earliest_nextEdge
  have forward := timely.paced.nextEdge_pos.le
  obtain ⟨n, pair, channel, is, on, due⟩ := timely.first_loop first
  rw [room, room, timely.oscillator_nextRound first]
  refine Finset.sum_lt_sum (fun n _ => ?_) ⟨n, Finset.mem_univ n, ?_⟩ <;> rw [plls?_nextRound]
  · cases gone : (chip.passTime chip.nextEdge.1).plls? n with
    | none => exact Nat.zero_le _
    | some after =>
      obtain ⟨pair, before, passes⟩ := exists_passed gone
      rw [before]
      exact passes.room_le (timely.paced.loops before) forward (earliest.loops before) _
  · obtain ⟨after, gone, passes⟩ := exists_passes is
    rw [gone, is]
    exact passes.room_lt (timely.paced.loops is) forward (earliest.loops is) on due
      (earliest.first first).1

/-- **The rounds come to an end**, as each takes some of the room that is left. -/
theorem exists_lastRound (timely : chip.Timely) : ∃ last ≤ chip.room, chip.LastRound last := by
  induction bound : chip.room using Nat.strong_induction_on generalizing chip with
  | _ room ih =>
    subst bound
    cases first : chip.nextEdge.2 with
    | false => exact ⟨0, Nat.zero_le _, fun _ before => absurd before (Nat.not_lt_zero _), first⟩
    | true =>
      have taken := timely.room_nextRound_lt first
      obtain ⟨last, within, rounds⟩ := ih _ taken timely.nextRound rfl
      exact ⟨last + 1, Nat.succ_le_of_lt (within.trans_lt taken), .cons first rounds⟩

variable {last : Nat}

/-- No round before the last one puts off the next system clock. -/
lemma nextClock_roundStart (timely : chip.Timely) (rounds : chip.LastRound last) {round : Nat}
    (within : round ≤ last) :
    (chip.roundStart round).nextClock = chip.nextClock ∧
      (chip.roundStart round).oscillator.frequency = chip.oscillator.frequency := by
  induction round with
  | zero => exact ⟨rfl, rfl⟩
  | succ round ih =>
    obtain ⟨clock, frequency⟩ := ih (by omega)
    have start := timely.roundStart round
    have first := rounds.loopFirst round within
    rw [roundStart_succ, start.nextClock_nextRound first, start.oscillator_nextRound first]
    exact ⟨clock, frequency⟩

/-- The last round ends with the next system clock. -/
lemma roundEnd_last (timely : chip.Timely) (rounds : chip.LastRound last) :
    chip.roundEnd last = chip.nextClock := by
  have earliest := (chip.roundStart last).earliest_nextEdge
  rw [roundEnd, roundTime, earliest.last rounds.oscillatorLast]
  exact (timely.nextClock_roundStart rounds le_rfl).1

lemma roundEnd_strictMono (timely : chip.Timely) : StrictMono chip.roundEnd := by
  refine strictMono_nat_of_lt_succ fun round => ?_
  have forward := (timely.roundStart (round + 1)).paced.nextEdge_pos
  rw [roundEnd, roundEnd, roundTime, roundTime]
  rw [roundStart_succ] at forward ⊢
  rw [time_nextRound]
  exact lt_add_of_pos_right _ forward

/-- The oscillator, if it runs, has its edge in the last round. -/
lemma clockEdge_iff (timely : chip.Timely) (rounds : chip.LastRound last)
    (runs : chip.oscillator.frequency ≠ 0) {round : Nat} (within : round ≤ last) :
    ((chip.roundStart round).oscillator.advance (chip.roundTime round)).1 ↔ round = last := by
  have earliest := (chip.roundStart round).earliest_nextEdge
  have frequency := (timely.nextClock_roundStart rounds within).2
  rw [roundTime, Oscillator.edge_iff earliest.oscillator, frequency, and_iff_right runs]
  constructor
  · intro due
    by_contra other
    have before := (earliest.first (rounds.loopFirst round (lt_of_le_of_ne within other))).1
    exact before.ne due
  · rintro rfl
    exact earliest.last rounds.oscillatorLast

/-- A loop that is due before the next system clock has its edge in an earlier round, and at that
time unless its cog sets it anew before; then it comes sooner, or the cog switches the loop off. -/
lemma exists_edge (timely : chip.Timely) (rounds : chip.LastRound last) {round : Nat}
    (within : round ≤ last) {id : Fin 8} {channel : Channel} {time : Rat}
    (due : (chip.roundStart round).Due id channel time) (early : time < chip.nextClock) :
    ∃ later, round ≤ later ∧ later < last ∧
      ((chip.roundStart later).HasEdge id channel ∧ chip.roundEnd later ≤ time ∧
          ((∀ between, round ≤ between → between < later →
            ¬ (chip.roundStart between).SetsLoops id) → chip.roundEnd later = time) ∨
        (chip.roundStart later).SetsLoops id ∧
          ∀ time, ¬ (chip.roundStart (later + 1)).Due id channel time) := by
  induction left : last - round generalizing round time with
  | zero =>
    -- nothing is due before the oscillator in the last round
    obtain rfl : round = last := by omega
    obtain ⟨pair, is, -, rfl⟩ := due
    have wait := (chip.roundStart round).earliest_nextEdge.loops is channel
    have clock := timely.roundEnd_last rounds
    rw [roundEnd, roundTime] at clock
    linarith
  | succ left ih =>
    have before : round < last := by omega
    rcases due.nextRound with ⟨edge, now⟩ | ⟨sooner, le, waits, kept⟩ | off
    · exact ⟨round, le_rfl, before, .inl ⟨edge, now.le, fun _ => now⟩⟩
    · rw [← roundStart_succ] at waits
      obtain ⟨later, reached, inTime, edge | off⟩ :=
        ih before waits (le.trans_lt early) (by omega)
      · refine ⟨later, by omega, inTime, .inl ⟨edge.1, edge.2.1.trans le, fun same => ?_⟩⟩
        rw [← kept (same round le_rfl reached)]
        exact edge.2.2 fun between after => same between (by omega)
      · exact ⟨later, by omega, inTime, .inr off⟩
    · rw [← roundStart_succ] at off
      exact ⟨round, le_rfl, before, .inr off⟩

end Timely

/-! ## The next system clock -/

/-- How time passes up to the next system clock, in rounds of which the given one is the last. -/
structure ReachesClock (chip : Chip Rat π) (last : Nat) : Prop extends LastRound chip last where
  /-- Nothing happens but these rounds. -/
  ends : chip.advanceClocks = (chip.roundStart last).passTime (chip.roundTime last)
  /-- They end by themselves, and not because there may not be more of them. -/
  unbounded : ∀ budget, last < budget → advanceUpTo budget chip = chip.advanceClocks
  /-- Without a system clock, there is only one. -/
  stopped : chip.hub.coreFrequency = 0 → last = 0
  /-- In no round the oscillator goes on by more than what is left until its edge. -/
  oscillatorWithin : ∀ round ≤ last,
    chip.roundTime round ≤ (chip.roundStart round).oscillator.timeLeft
  /-- Neither does any loop, as it stands at its turn. -/
  loopsWithin : ∀ round ≤ last, ∀ {id pair},
    ((chip.roundStart round).atTurn id).plls? id = some pair →
      ∀ channel, chip.roundTime round ≤ (pair.channel channel).timeLeft
  /-- Altogether the time passes that was left to the oscillator. -/
  time : chip.advanceClocks.time = chip.time + chip.oscillator.timeLeft
  /-- The oscillator has its edge in the last round, and only there. -/
  clockEdge : chip.hub.coreFrequency ≠ 0 → ∀ round ≤ last,
    (((chip.roundStart round).oscillator.advance (chip.roundTime round)).1 ↔ round = last)
  /-- What edges there are is passed on to the video generators. -/
  dispatched : ∀ round ≤ last, ∀ {id cog},
    ((chip.roundStart round).atTurn id).cogs.get id = some cog →
      ((chip.roundStart round).atTurn id).advanceCog (chip.roundTime round) id
        = (((chip.roundStart round).atTurn id).putCog id
            (cog.advance (chip.roundTime round)).2).dispatchEdges id
            ((chip.roundStart round).turnEdges id)
  /-- A loop has an edge in a round if it is due at the end of it. -/
  loopEdge : ∀ round ≤ last, ∀ id channel, (chip.roundStart round).HasEdge id channel ↔
    (chip.roundStart round).Due id channel (chip.roundEnd round)
  /-- Edges come in the order of their times. -/
  order : ∀ {round later}, round < later → later ≤ last →
    chip.roundEnd round < chip.roundEnd later
  clockTime : chip.roundEnd last = chip.nextClock
  /-- A loop that is due before the next system clock has its edge in an earlier round, and at that
  time unless its cog sets it anew before; then it comes sooner, or the cog switches the loop off. -/
  early : ∀ round ≤ last, ∀ {id channel time},
    (chip.roundStart round).Due id channel time → time < chip.nextClock →
    ∃ later, round ≤ later ∧ later < last ∧
      ((chip.roundStart later).HasEdge id channel ∧ chip.roundEnd later ≤ time ∧
          ((∀ between, round ≤ between → between < later →
            ¬ (chip.roundStart between).SetsLoops id) → chip.roundEnd later = time) ∨
        (chip.roundStart later).SetsLoops id ∧
          ∀ time, ¬ (chip.roundStart (later + 1)).Due id channel time)

/-- **Time reaches the next system clock**, in less rounds than there may be. -/
theorem Timely.reachesClock (timely : chip.Timely) :
    ∃ last < edgeBudget, chip.ReachesClock last := by
  obtain ⟨last, within, rounds⟩ := timely.exists_lastRound
  have enough : last < edgeBudget := by
    have room := timely.room_le
    rw [edgeBudget]
    omega
  have ends : chip.advanceClocks = (chip.roundStart last).passTime (chip.roundTime last) :=
    rounds.advanceUpTo enough
  have earliest (round : Nat) := (chip.roundStart round).earliest_nextEdge
  refine ⟨last, enough, ?_⟩
  constructor
  case toLastRound => exact rounds
  case ends => exact ends
  case unbounded =>
    intro budget within
    rw [ends, rounds.advanceUpTo within]
  case stopped =>
    intro zero
    by_contra other
    have first := rounds.loopFirst 0 (Nat.pos_of_ne_zero other)
    exact timely.runs_of_first first (timely.synchronized.oscillator.trans zero)
  case oscillatorWithin => exact fun round _ => (earliest round).oscillator
  case loopsWithin =>
    intro round _ id pair is
    rw [atTurn, plls?_advanceAll_take] at is
    exact (earliest round).loops is
  case time =>
    obtain ⟨cogs, only⟩ := (chip.roundStart last).onlyCogs_passTime (chip.roundTime last)
    rw [ends, only]
    exact timely.roundEnd_last rounds
  case clockEdge =>
    intro runs round within
    rw [← timely.synchronized.oscillator] at runs
    exact timely.clockEdge_iff rounds runs within
  case dispatched => exact fun _ _ _ _ there => advanceCog_atTurn there
  case loopEdge => exact fun _ _ _ _ => hasEdge_iff
  case order => exact fun before _ => timely.roundEnd_strictMono before
  case clockTime => exact timely.roundEnd_last rounds
  case early => exact fun _ within _ _ _ due => timely.exists_edge rounds within due

/-- **This is how time passes** in every chip, whatever its programs and plugins do and in whatever
order it is used. -/
theorem reachesClock_run (memory : Memory) (operations : List (Operation π)) :
    ∃ last < edgeBudget, ((switchedOn memory : Chip Rat π).run operations).ReachesClock last :=
  Timely.reachesClock
    ⟨(synchronized_switchedOn memory).run operations, paced_run memory operations⟩

end Chip

end P1Chip
