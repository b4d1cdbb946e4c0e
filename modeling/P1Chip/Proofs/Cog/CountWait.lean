import P1Chip.Proofs.Cog.Step
import P1Chip.Proofs.Cog.VideoFrames
import P1Chip.Proofs.Counter.Counting
import P1Chip.Proofs.Video.Events
import P1Chip.Proofs.Word

/-!
# Waiting for the system counter

A cog of either kind can wait until the system counter has a given value.  The counter goes around
after `2 ^ 32` clocks, so every value comes, and the cog has to wait for as many clocks as the value
is ahead of the counter, modulo `2 ^ 32`.  Until then it does nothing at all: the system clock goes
on, its counters count and its loops and its video generator run, it has its turns on the hub, and
other cogs change the hub as they like, but nothing of its registers, its flags and its pointers
changes.

* `Cycle`, `Cog.after` — clocks of a cog, with what happens to it in between.
* `Cog.Rests` — nothing has changed but what the clocks do.
* `Cog.woken` — what the end of the wait does.
* **`Cog.stepIn_of_waiting`** — a clock of a waiting cog.
* **`Cog.rests_after`** — the wait goes on as long as the value is ahead of the counter.
* **`Cog.wakes_on_time`** — and ends in the clock at which the counter has the value.
-/

namespace P1Chip

/-- What happens to a cog without a program or a user that asks for it. -/
def VideoEvent.isPassive {τ : Type} : VideoEvent τ → Bool
  | .step .. | .writeRegister .. => false
  | _ => true

/-- A system clock of a cog, and what has happened to it since the one before. -/
structure Cycle (τ : Type) where
  events : List (VideoEvent τ)
  /-- The hub in this clock. -/
  hub : Hub
  frameBreak : FrameBreak

/-- A sum without a carry from below. -/
lemma Alu.addCarry_false (d s : UInt32) :
    addCarry d s false = .of (d + s) (decide (2 ^ 32 ≤ d.toNat + s.toNat)) := by
  have sum : d + s + false.toUInt32 = d + s := UInt32.add_zero _
  rw [addCarry, sum]
  rfl

namespace Cog

variable {τ : Type} [Timebase τ]

/-! ## Clocks of a cog -/

/-- The cog after some events. -/
def nextAll (cog : Cog τ) (events : List (VideoEvent τ)) : Cog τ :=
  events.foldl next cog

/-- The clock itself, which comes after these. -/
def stepIn (cog : Cog τ) (cycle : Cycle τ) : Except Fault Bool × Cog τ × Hub :=
  cog.step cycle.hub cycle.frameBreak

/-- The cog after some clocks. -/
def after (cycles : Nat → Cycle τ) (cog : Cog τ) : Nat → Cog τ
  | 0 => cog
  | clock + 1 =>
    let cycle := cycles clock
    (((cog.after cycles clock).nextAll cycle.events).stepIn cycle).2.1

/-- What is left of a clock after the engine's part: the counters tick, and the end of a video
frame may stop the chip. -/
def endClock (cog : Cog τ) (cycle : Cycle τ) : Except Fault Bool × Cog τ × Hub :=
  let ticked : Cog τ := { cog with body := cog.body.tickCounters cycle.hub.input }
  let (goesOn, cog) := ticked.checkBreaks cycle.frameBreak false
  (.ok goesOn, cog, cycle.hub)

omit [Timebase τ] in
lemma state_endClock (cog : Cog τ) (cycle : Cycle τ) :
    (cog.endClock cycle).2.1.body.state = cog.body.state := by
  simp only [endClock, checkBreaks]
  split <;> rfl

/-! ## The wait and its end -/

/-- The value of the system counter that the cog waits for. -/
def countTarget (cog : Cog τ) : UInt32 :=
  match cog.engine with
  | .native native => native.pending.d
  | .interpreted frames => frames.wait.target

/-- The cog at the end of the wait; `running` has the running cogs.  A native one adds its source
operand to the value that has come, and writes sum and flags as its instruction asks for. -/
def woken (cog : Cog τ) (running : UInt8) : Cog τ :=
  match cog with
  | ⟨body, .native native⟩ =>
    let pending := native.pending
    let sum := pending.d + pending.s
    let carry := decide (2 ^ 32 ≤ pending.d.toNat + pending.s.toNat)
    let zero := sum == 0
    let written :=
      if pending.effects.writeResult then body.writeRegister running pending.destination sum
      else body
    { body := { written with state := .execute }
      engine := .native { native with
        carry := if pending.effects.writeCarry then carry else native.carry
        zero := if pending.effects.writeZero then zero else native.zero
        pending := { pending with result := sum, carry, zero } } }
  | ⟨body, .interpreted frames⟩ => ⟨{ body with state := .fetch }, .interpreted frames⟩

lemma state_woken (cog : Cog τ) (running : UInt8) : (cog.woken running).body.state.isBoundary := by
  rcases cog with ⟨body, native | frames⟩ <;> rfl

variable {cog : Cog τ}

/-- The engine of a waiting cog looks at the counter, and does nothing else. -/
lemma stepEngine_of_waiting (waits : cog.body.state = .waiting .count) (hub : Hub) :
    cog.stepEngine hub
      = (.ok false, if cog.countTarget = hub.counter then cog.woken hub.running else cog, hub) := by
  -- the engines keep the value in different places, so the test comes before the engine
  by_cases reached : cog.countTarget = hub.counter
  · rw [if_pos reached]
    rcases cog with ⟨body, native | frames⟩
    · have state : body.state = .waiting .count := waits
      have reached : native.pending.d = hub.counter := reached
      simp only [stepEngine, Native.step, state, Native.checkCount, if_pos reached,
        Alu.addCarry_false]
      rfl
    · have state : body.state = .waiting .count := waits
      have reached : frames.wait.target = hub.counter := reached
      simp only [stepEngine, SpinMachine.step, state, beq_iff_eq, if_pos reached]
      rfl
  · rw [if_neg reached]
    rcases cog with ⟨body, native | frames⟩
    · have state : body.state = .waiting .count := waits
      have ahead : native.pending.d ≠ hub.counter := reached
      simp only [stepEngine, Native.step, state, Native.checkCount, if_neg ahead]
    · have state : body.state = .waiting .count := waits
      have ahead : frames.wait.target ≠ hub.counter := reached
      simp only [stepEngine, SpinMachine.step, state, beq_iff_eq, if_neg ahead]

/-- **A clock of a waiting cog** ends the wait if the value has come, and does nothing else to cog
and hub but what every clock does. -/
theorem stepIn_of_waiting (waits : cog.body.state = .waiting .count) (cycle : Cycle τ) :
    cog.stepIn cycle
      = (if cog.countTarget = cycle.hub.counter then cog.woken cycle.hub.running
          else cog).endClock cycle := by
  simp only [stepIn, step, stepEngine_of_waiting waits]
  rfl

/-- A turn on the hub is counted, and is of no use to a cog that does not wait for it. -/
lemma hubAccess_of_waiting (waits : cog.body.state = .waiting .count) (hub : Hub) :
    cog.hubAccess hub
      = ({ cog with body := { cog.body with hubAccesses := cog.body.hubAccesses + 1 } }, hub) :=
  hubAccess_of_busy (by rw [waits]; rfl) hub

/-! ## Resting -/

/-- Nothing has changed of a waiting cog in some clocks that ended with the given pins, but for
what no program can tell and for its counters, which have ticked. -/
structure Rests (start : Cog τ) (pins : Nat → UInt64) (clocks : Nat) (cog : Cog τ) : Prop where
  waits : cog.body.state = .waiting .count
  engine : cog.engine = start.engine
  id : cog.body.id = start.body.id
  pc : cog.body.pc = start.body.pc
  memory : cog.body.memory = start.body.memory
  counterA : cog.body.counterA = start.body.counterA.after pins clocks
  counterB : cog.body.counterB = start.body.counterB.after pins clocks
  video : start.body.video.SameSetup cog.body.video

namespace Rests

variable {start : Cog τ} {pins : Nat → UInt64} {clocks : Nat}

omit [Timebase τ] in
lemma refl (waits : start.body.state = .waiting .count) (pins : Nat → UInt64) :
    start.Rests pins 0 start :=
  ⟨waits, rfl, rfl, rfl, rfl, rfl, rfl, .refl⟩

/-- Nothing that happens to a resting cog disturbs it. -/
lemma next (h : start.Rests pins clocks cog) {event : VideoEvent τ} (passive : event.isPassive) :
    start.Rests pins clocks (cog.next event) := by
  cases event with
  | step hub frameBreak => cases passive
  | writeRegister hub index value => cases passive
  | hubAccess hub =>
    rw [Cog.next, hubAccess_of_waiting h.waits]
    exact { h with }
  | pixelEdge running level =>
    have clocked : start.Rests pins clocks (cog.clocked (.pixelEdge running level)) :=
      { h with video := h.video.trans (.colorEdge ..) }
    -- an edge that ends a frame finds the cog busy
    simp only [Cog.next]
    split
    · rw [frameComplete_of_busy fun both => by cases clocked.waits.symm.trans both]
      exact { clocked with }
    · exact clocked
  | carrierEdge level => exact { h with video := h.video.trans (.carrierEdge ..) }
  | auralEdge level => exact { h with video := h.video.trans (.auralEdge ..) }
  | detachAural stopped => exact { h with video := h.video.trans (.detachAural ..) }
  | loops plls => exact { h with }
  | setBreakpoint breakpoint? => exact { h with }

lemma nextAll (h : start.Rests pins clocks cog) {events : List (VideoEvent τ)}
    (passive : ∀ event ∈ events, event.isPassive) :
    start.Rests pins clocks (cog.nextAll events) := by
  induction events generalizing cog with
  | nil => exact h
  | cons event events ih =>
    rw [List.forall_mem_cons] at passive
    exact ih (h.next passive.1) passive.2

omit [Timebase τ] in
/-- The rest of a clock lets the counters tick. -/
lemma endClock (h : start.Rests pins clocks cog) {cycle : Cycle τ}
    (same : cycle.hub.input = pins clocks) :
    start.Rests pins (clocks + 1) (cog.endClock cycle).2.1 := by
  have ticked : start.Rests pins (clocks + 1)
      { cog with body := cog.body.tickCounters cycle.hub.input } :=
    { h with
      counterA := by rw [same, CogBody.tickCounters, h.counterA]; rfl
      counterB := by rw [same, CogBody.tickCounters, h.counterB]; rfl }
  simp only [Cog.endClock, checkBreaks]
  split
  · exact { ticked with }
  · exact ticked

omit [Timebase τ] in
/-- What a program would read is as it was, but for the phases of the counters. -/
lemma readRegister_eq (h : start.Rests pins clocks cog) (hub : Hub) {address : UInt32}
    (notA : SpecialRegister.at? address ≠ some .phsa)
    (notB : SpecialRegister.at? address ≠ some .phsb) :
    cog.body.readRegister hub address = start.body.readRegister hub address := by
  simp only [CogBody.readRegister, CogBody.cell, h.memory, h.counterA, h.counterB, h.video.config,
    h.video.scale, Counter.control_after, Counter.frequency_after]
  split <;> first | rfl | contradiction

end Rests

/-! ## The whole wait -/

section Wait

variable {cycles : Nat → Cycle τ}

omit [Timebase τ] in
/-- How far the system counter has come. -/
lemma counter_cycle
    (counted : ∀ clock, (cycles (clock + 1)).hub.counter
      = (cycles clock).hub.incrementCounter.counter) (clock : Nat) :
    (cycles clock).hub.counter = (cycles 0).hub.counter + UInt32.ofNat clock := by
  induction clock with
  | zero => exact (UInt32.add_zero _).symm
  | succ clock ih =>
    rw [counted, Hub.incrementCounter, ih, UInt32.ofNat_add, UInt32.add_assoc]
    rfl

variable (waits : cog.body.state = .waiting .count)
  (counted : ∀ clock, (cycles (clock + 1)).hub.counter
    = (cycles clock).hub.incrementCounter.counter)
  (passive : ∀ clock, ∀ event ∈ (cycles clock).events, event.isPassive)

include counted in
/-- The clock of a cog that has rested up to the awaited value, or not so far. -/
lemma Rests.stepIn_eq {ready : Cog τ} {clock : Nat}
    (h : cog.Rests (fun clock => (cycles clock).hub.input) clock ready)
    (within : clock ≤ (cog.countTarget - (cycles 0).hub.counter).toNat) :
    ready.stepIn (cycles clock)
      = (if clock = (cog.countTarget - (cycles 0).hub.counter).toNat then
            ready.woken (cycles clock).hub.running
          else
            ready).endClock (cycles clock) := by
  have target : ready.countTarget = cog.countTarget := by
    rw [countTarget, countTarget, h.engine]
  have reached := Word.eq_add_iff within
  rw [← counter_cycle counted clock] at reached
  simp only [stepIn_of_waiting h.waits, target, reached]

include waits counted passive in
/-- **The wait goes on** as long as the value is ahead of the counter. -/
theorem rests_after {clock : Nat}
    (within : clock ≤ (cog.countTarget - (cycles 0).hub.counter).toNat) :
    cog.Rests (fun clock => (cycles clock).hub.input) clock (cog.after cycles clock) := by
  induction clock with
  | zero => exact .refl waits _
  | succ clock ih =>
    have ready := (ih (Nat.le_of_succ_le within)).nextAll (passive clock)
    rw [after, ready.stepIn_eq counted (Nat.le_of_succ_le within), if_neg (Nat.ne_of_lt within)]
    exact ready.endClock rfl

end Wait

/-- **A cog wakes on time.**  From a clock on at which it waits for some value of the system
counter, it rests for as many clocks as the value is ahead, modulo `2 ^ 32`, whatever its events
are, and changes nothing of the hub in its clocks and turns.  In the clock after that it wakes. -/
theorem wakes_on_time (waits : cog.body.state = .waiting .count) {cycles : Nat → Cycle τ}
    (counted : ∀ clock, (cycles (clock + 1)).hub.counter
      = (cycles clock).hub.incrementCounter.counter)
    (passive : ∀ clock, ∀ event ∈ (cycles clock).events, event.isPassive) :
    let distance := (cog.countTarget - (cycles 0).hub.counter).toNat
    let ready := fun clock => (cog.after cycles clock).nextAll (cycles clock).events
    (∀ clock ≤ distance, ∀ events : List (VideoEvent τ), (∀ event ∈ events, event.isPassive) →
        let resting := (cog.after cycles clock).nextAll events
        cog.Rests (fun clock => (cycles clock).hub.input) clock resting ∧
          (∀ hub, (resting.hubAccess hub).2 = hub) ∧
          ∀ hub address, SpecialRegister.at? address ≠ some .phsa →
            SpecialRegister.at? address ≠ some .phsb →
            resting.body.readRegister hub address = cog.body.readRegister hub address) ∧
      (∀ clock < distance,
        (ready clock).stepIn (cycles clock) = (ready clock).endClock (cycles clock)) ∧
      (ready distance).stepIn (cycles distance)
        = ((ready distance).woken (cycles distance).hub.running).endClock (cycles distance) ∧
      (cog.after cycles (distance + 1)).body.state.isBoundary := by
  intro distance ready
  have rests {clock : Nat} (within : clock ≤ distance) := rests_after waits counted passive within
  have steps {clock : Nat} (within : clock ≤ distance) :=
    ((rests within).nextAll (passive clock)).stepIn_eq counted within
  have last : (ready distance).stepIn (cycles distance)
      = ((ready distance).woken (cycles distance).hub.running).endClock (cycles distance) :=
    (steps le_rfl).trans (by rw [if_pos rfl])
  refine ⟨?_, ?_, last, ?_⟩
  · intro clock within events quiet resting
    have h := (rests within).nextAll quiet
    refine ⟨h, fun hub => ?_, fun hub address notA notB => h.readRegister_eq hub notA notB⟩
    rw [hubAccess_of_waiting h.waits]
  · intro clock before
    exact (steps (Nat.le_of_lt before)).trans (by rw [if_neg (Nat.ne_of_lt before)])
  · rw [after, last, state_endClock]
    exact state_woken ..

/-- A native cog that waits for the value 1 with an instruction for register 5 that writes sum and
flags. -/
def waitingCog : Cog Rat where
  body := { (CogBody.new 0 0 0 0).setCell 5 1 with state := .waiting .count }
  engine := .native { Native.new with
    pending :=
      { destination := 5, d := 1, s := 0xFFFFFFFF, effects := ⟨true, true, true⟩
        result := 0, carry := false, zero := false } }

/-- Clocks from two before the counter is zero, each after a turn on the hub and an edge of the
pixel clock. -/
def aroundZero (clock : Nat) : Cycle Rat :=
  let hub := Hub.new ⟨.replicate halfSize 0, .replicate halfSize 0⟩
  { events := [.hubAccess hub, .pixelEdge 1 true]
    hub := { hub with counter := 0xFFFFFFFE + UInt32.ofNat clock }
    frameBreak := .none }

/-- The cog waits for three clocks and wakes in the fourth, and its sum goes around as well. -/
theorem wakes_on_time_aroundZero :
    waitingCog.body.state = .waiting .count ∧
      (∀ clock, (aroundZero (clock + 1)).hub.counter
        = (aroundZero clock).hub.incrementCounter.counter) ∧
      (∀ clock, ∀ event ∈ (aroundZero clock).events, event.isPassive) ∧
      (waitingCog.after aroundZero 3).body.state = .waiting .count ∧
      let woken := waitingCog.after aroundZero 4
      woken.body.state = .execute ∧ woken.body.cell 5 = 0 ∧
        ∃ native, woken.engine = .native native ∧ native.carry ∧ native.zero := by
  have waits : waitingCog.body.state = .waiting .count := rfl
  have counted (clock : Nat) : (aroundZero (clock + 1)).hub.counter
      = (aroundZero clock).hub.incrementCounter.counter := by
    show 0xFFFFFFFE + UInt32.ofNat (clock + 1) = 0xFFFFFFFE + UInt32.ofNat clock + 1
    rw [UInt32.ofNat_add, UInt32.add_assoc]
    rfl
  have passive (clock : Nat) : ∀ event ∈ (aroundZero clock).events, event.isPassive := by
    simp [aroundZero, VideoEvent.isPassive]
  have distance : (waitingCog.countTarget - (aroundZero 0).hub.counter).toNat = 3 := by decide
  obtain ⟨rests, -, last, -⟩ := wakes_on_time waits counted passive
  rw [distance] at rests last
  have fourth : waitingCog.after aroundZero 4
      = ((((waitingCog.after aroundZero 3).nextAll (aroundZero 3).events).woken
          (aroundZero 3).hub.running).endClock (aroundZero 3)).2.1 :=
    congrArg (·.2.1) last
  have resting : (waitingCog.after aroundZero 3).body.state = .waiting .count :=
    (rests 3 le_rfl [] (by simp)).1.waits
  refine ⟨waits, counted, passive, resting, ?_⟩
  rw [fourth]
  exact ⟨by decide +kernel, by decide +kernel, _, rfl, by decide +kernel, by decide +kernel⟩

end Cog

end P1Chip
