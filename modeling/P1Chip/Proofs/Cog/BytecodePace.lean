import P1Chip.Proofs.Cog.CountWait
import P1Chip.Proofs.Spin.RunState

/-!
# From one bytecode to the next

An interpreted cog carries out a bytecode in one clock, and then lets clocks pass.  In these it does
nothing: its program counter, its frames and the hub are as the bytecode has left them.  That a
bytecode does not take long is so for all bytecodes but those that wait, whatever they do and
whether they fault or not.

The clock in which a bytecode is carried out is not one of those that are let pass.  So the next
bytecode comes one clock later than their number says.

* `Cog.starts` — a clock in which a cog starts something.
* `Cog.ready` — a cog just before a clock.
* `Cog.Idles` — nothing has changed since a bytecode was carried out.
* **`Cog.stepIn_of_idles`** — a clock in between.
* **`Cog.nextStart_iff`** — when the next bytecode comes, and that nothing happens before.
-/

namespace P1Chip

/-- The event is a system clock of the cog itself. -/
def VideoEvent.isStep {τ : Type} : VideoEvent τ → Bool
  | .step .. => true
  | _ => false

namespace Cog

variable {τ : Type}

/-! ## Clocks -/

section Clocks

variable [Timebase τ]

/-- In this clock the cog starts an instruction or a bytecode, which may fault. -/
def starts (cog : Cog τ) (hub : Hub) : Bool :=
  match (cog.stepEngine hub).1 with
  | .ok started => started
  | .error _ => true

/-- The cog just before a clock. -/
def ready (cog : Cog τ) (cycles : Nat → Cycle τ) (clock : Nat) : Cog τ :=
  (cog.after cycles clock).nextAll (cycles clock).events

/-- What the engine has done to the cog is all that matters of a clock here. -/
lemma step_engine (cog : Cog τ) (hub : Hub) (frameBreak : FrameBreak) :
    (cog.step hub frameBreak).2.1.engine = (cog.stepEngine hub).2.1.engine
      ∧ (cog.step hub frameBreak).2.1.body.state = (cog.stepEngine hub).2.1.body.state
      ∧ (cog.step hub frameBreak).2.1.body.pc = (cog.stepEngine hub).2.1.body.pc
      ∧ (cog.step hub frameBreak).2.2 = (cog.stepEngine hub).2.2 := by
  dsimp only [step, checkBreaks]
  split
  · exact ⟨rfl, rfl, rfl, rfl⟩
  · split <;> exact ⟨rfl, rfl, rfl, rfl⟩

end Clocks

/-! ## Clocks in which nothing happens -/

/-- The state of an interpreted cog that has so many clocks left. -/
def idleState : Nat → RunState
  | 0 => .fetch
  | left + 1 => .interpreting (left + 1)

/-- An interpreted cog has carried out a bytecode and done nothing since.  It lets some more clocks
pass. -/
structure Idles (carried : Cog τ) (left : Nat) (cog : Cog τ) : Prop where
  state : cog.body.state = idleState left
  engine : cog.engine = carried.engine
  pc : cog.body.pc = carried.body.pc

namespace Idles

variable {carried cog : Cog τ} {left : Nat}

lemma usesHub (h : carried.Idles left cog) : cog.body.state.usesHub = false := by
  rw [h.state]
  cases left <;> rfl

lemma busy (h : carried.Idles left cog) : cog.body.state ≠ .waiting .video := by
  rw [h.state]
  cases left <;> exact nofun

variable [Timebase τ]

/-- Between two clocks it can be given other registers, and nothing else that matters. -/
lemma next (h : carried.Idles left cog) {event : VideoEvent τ} (between : event.isStep = false) :
    carried.Idles left (cog.next event) := by
  cases event with
  | step hub frameBreak => cases between
  | writeRegister hub index value =>
    simp only [Cog.next, writeRegister]
    split
    · next written found =>
      split at found
      · cases found
        exact ⟨(CogBody.writeRegister_state ..).trans h.state, h.engine,
          (CogBody.writeRegister_pc ..).trans h.pc⟩
      · cases found
    · exact h
  | hubAccess hub =>
    rw [Cog.next, hubAccess_of_busy h.usesHub]
    exact { h with }
  | pixelEdge running level =>
    have clocked : carried.Idles left (cog.clocked (.pixelEdge running level)) := { h with }
    simp only [Cog.next]
    split
    · rw [frameComplete_of_busy clocked.busy]
      exact { clocked with }
    · exact clocked
  | _ => exact { h with }

lemma nextAll (h : carried.Idles left cog) {events : List (VideoEvent τ)}
    (between : ∀ event ∈ events, event.isStep = false) :
    carried.Idles left (cog.nextAll events) := by
  induction events generalizing cog with
  | nil => exact h
  | cons event events ih =>
    rw [List.forall_mem_cons] at between
    exact ih (h.next between.1) between.2

variable {frames : SpinFrames} (interpreted : carried.engine = .interpreted frames)

include interpreted

/-- The engine counts down. -/
lemma stepEngine_eq (h : carried.Idles (left + 1) cog) (hub : Hub) :
    cog.stepEngine hub
      = (.ok false, { cog with body := { cog.body with state := idleState left } }, hub) := by
  rcases cog with ⟨body, native | frames⟩
  · cases h.engine.trans interpreted
  · have state : body.state = .interpreting (left + 1) := h.state
    simp only [stepEngine, SpinMachine.step, state]
    cases left <;> rfl

/-- **A clock in between** starts nothing, and leaves the hub alone. -/
theorem stepIn (h : carried.Idles (left + 1) cog) (cycle : Cycle τ) :
    cog.starts cycle.hub = false ∧ carried.Idles left (cog.stepIn cycle).2.1
      ∧ (cog.stepIn cycle).2.2 = cycle.hub := by
  have engine := h.stepEngine_eq interpreted cycle.hub
  obtain ⟨sameEngine, sameState, samePc, sameHub⟩ := cog.step_engine cycle.hub cycle.frameBreak
  rw [engine] at sameEngine sameState samePc sameHub
  refine ⟨?_, ⟨sameState, sameEngine.trans h.engine, samePc.trans h.pc⟩, sameHub⟩
  rw [starts, engine]

/-- When no clocks are left, the next bytecode is started. -/
lemma starts_of_zero (h : carried.Idles 0 cog) (hub : Hub) : cog.starts hub = true := by
  rcases cog with ⟨body, native | frames⟩
  · cases h.engine.trans interpreted
  · have state : body.state = .fetch := h.state
    simp only [starts, stepEngine, SpinMachine.step, state]
    split
    · next outcome =>
      split at outcome
      · cases outcome
      · cases outcome
        rfl
    · rfl

end Idles

/-! ## The whole time of a bytecode -/

section Bytecode

open SpinFrames

variable [Timebase τ] {cog : Cog τ} {cycles : Nat → Cycle τ} {frames : SpinFrames}

/-- This clock is the next one in which something is started, counted from one in which something
was started as well. -/
structure NextStart (cog : Cog τ) (cycles : Nat → Cycle τ) (clock : Nat) : Prop where
  later : 0 < clock
  starts : (cog.ready cycles clock).starts (cycles clock).hub = true
  before : ∀ other, 0 < other → other < clock →
    (cog.ready cycles other).starts (cycles other).hub = false

/-- The clock of a bytecode that does not wait. -/
lemma idles_of_fetch (interpreted : cog.engine = .interpreted frames)
    (boundary : cog.body.state = .fetch) {cycle : Cycle τ}
    (other : isWaitCode (cycle.hub.memory.readByte cog.body.pc) = false) :
    (∃ frames', (cog.stepIn cycle).2.1.engine = .interpreted frames')
      ∧ (cog.stepIn cycle).2.1.Idles bytecodeClocks (cog.stepIn cycle).2.1 := by
  obtain ⟨sameEngine, sameState, -, -⟩ := cog.step_engine cycle.hub cycle.frameBreak
  rcases cog with ⟨body, engine⟩
  obtain rfl : engine = .interpreted frames := interpreted
  have state : body.state = .fetch := boundary
  let machine : SpinMachine τ :=
    SpinMachine.withState { frames, body, hub := cycle.hub } (.interpreting bytecodeClocks)
  have carried : machine.execute.machine.body.state = .interpreting bytecodeClocks :=
    machine.state_execute other
  have stepped : (SpinMachine.step { frames, body, hub := cycle.hub }).2
      = machine.execute.machine := by
    simp only [SpinMachine.step, state]
    split <;> rfl
  have engineState : (stepEngine ⟨body, .interpreted frames⟩ cycle.hub).2.1.body.state
      = machine.execute.machine.body.state := congrArg (·.body.state) stepped
  exact ⟨⟨_, sameEngine⟩, sameState.trans (engineState.trans carried), rfl, rfl⟩

/-- Clock by clock, a cog that has carried out a bytecode counts down. -/
lemma idles_ready {left : Nat} (interpreted : (cog.after cycles 1).engine = .interpreted frames)
    (carried : (cog.after cycles 1).Idles left (cog.after cycles 1))
    (between : ∀ clock, ∀ event ∈ (cycles clock).events, event.isStep = false)
    {passed : Nat} (within : passed ≤ left) :
    (cog.after cycles 1).Idles (left - passed) (cog.ready cycles (passed + 1)) := by
  induction passed with
  | zero => exact carried.nextAll (between 1)
  | succ passed ih =>
    have idle := ih (Nat.le_of_succ_le within)
    rw [show left - passed = left - (passed + 1) + 1 by omega] at idle
    exact (idle.stepIn interpreted (cycles (passed + 1))).2.1.nextAll (between (passed + 2))

/-- **The next bytecode comes one clock later** than the clocks that are let pass behind a bytecode
say.  That is so for all that do not wait, whatever they do and whether they fault or not.  In
between nothing is started, and program counter, frames and hub are as the bytecode has left
them. -/
theorem nextStart_iff (interpreted : (cog.ready cycles 0).engine = .interpreted frames)
    (boundary : (cog.ready cycles 0).body.state = .fetch)
    (other : isWaitCode ((cycles 0).hub.memory.readByte (cog.ready cycles 0).body.pc) = false)
    (between : ∀ clock, ∀ event ∈ (cycles clock).events, event.isStep = false) :
    (cog.ready cycles 0).starts (cycles 0).hub = true
      ∧ (∀ clock, cog.NextStart cycles clock ↔ clock = bytecodeClocks + 1)
      ∧ ∀ clock, 0 < clock → clock ≤ bytecodeClocks →
        let carried := cog.after cycles 1
        let idle := cog.ready cycles clock
        let stepped := idle.stepIn (cycles clock)
        idle.engine = carried.engine ∧ idle.body.pc = carried.body.pc
          ∧ stepped.2.1.engine = carried.engine ∧ stepped.2.1.body.pc = carried.body.pc
          ∧ stepped.2.2 = (cycles clock).hub ∧ ∀ hub, (idle.hubAccess hub).2 = hub := by
  obtain ⟨⟨_, interpreted'⟩, carried⟩ := idles_of_fetch interpreted boundary other
  have idle {clock : Nat} (later : 0 < clock) (within : clock ≤ bytecodeClocks + 1) :
      (cog.after cycles 1).Idles (bytecodeClocks + 1 - clock) (cog.ready cycles clock) := by
    obtain ⟨passed, rfl⟩ := Nat.exists_eq_succ_of_ne_zero (Nat.ne_of_gt later)
    rw [Nat.succ_sub_succ]
    exact idles_ready interpreted' carried between (Nat.le_of_succ_le_succ within)
  have stepped {clock : Nat} (later : 0 < clock) (within : clock ≤ bytecodeClocks) := by
    have idle := idle later (Nat.le_succ_of_le within)
    rw [Nat.succ_sub within] at idle
    exact idle.stepIn interpreted' (cycles clock)
  have next : cog.NextStart cycles (bytecodeClocks + 1) := by
    refine ⟨Nat.succ_pos _, ?_, fun clock later early =>
      (stepped later (Nat.le_of_lt_succ early)).1⟩
    have due := idle (Nat.succ_pos bytecodeClocks) (Nat.le_refl _)
    rw [Nat.sub_self] at due
    exact due.starts_of_zero interpreted' _
  refine ⟨?_, fun clock => ⟨fun first => ?_, fun same => same ▸ next⟩, ?_⟩
  · have now : (cog.ready cycles 0).Idles 0 (cog.ready cycles 0) := ⟨boundary, rfl, rfl⟩
    exact now.starts_of_zero interpreted _
  · -- of two first starts, neither comes before the other
    rcases Nat.lt_trichotomy clock (bytecodeClocks + 1) with early | same | late
    · cases (next.before clock first.later early).symm.trans first.starts
    · exact same
    · cases (first.before _ next.later late).symm.trans next.starts
  · intro clock later within carried idling step
    have before := idle later (Nat.le_succ_of_le within)
    obtain ⟨-, after, hub⟩ := stepped later within
    refine ⟨before.engine, before.pc, after.engine, after.pc, hub, fun hub => ?_⟩
    rw [hubAccess_of_busy before.usesHub]

/-- A cog at `10` that starts a bytecode, in memory with these bytes. -/
def fetchingCog (bytes : List (UInt16 × UInt8)) : Cog Rat :=
  let machine := (SpinMachine.machineWith bytes).withState .fetch
  ⟨machine.body, .interpreted machine.frames⟩

/-- Clocks in which nothing else happens, with these bytes in memory. -/
def quietCycles (bytes : List (UInt16 × UInt8)) (_ : Nat) : Cycle Rat :=
  { events := [], hub := (SpinMachine.machineWith bytes).hub, frameBreak := .none }

/-- A call that faults takes as long as any other bytecode. -/
theorem nextStart_of_fault :
    let bytes := [(0x10, 0x05)]
    let cog := fetchingCog bytes
    (cog.stepIn (quietCycles bytes 0)).1 = .error ⟨0, 0, .callWithoutFrame 0x10⟩
      ∧ cog.NextStart (quietCycles bytes) 33 := by
  intro bytes cog
  have waitless : isWaitCode ((quietCycles bytes 0).hub.memory.readByte
      (cog.ready (quietCycles bytes) 0).body.pc) = false := by decide +kernel
  have interpreted : (cog.ready (quietCycles bytes) 0).engine
      = .interpreted (SpinMachine.machineWith bytes).frames := rfl
  have pace := nextStart_iff interpreted rfl waitless fun _ _ none => by cases none
  exact ⟨by decide +kernel, (pace.2.1 33).mpr rfl⟩

/-- It does not come as soon as the clocks are over that are let pass. -/
theorem not_nextStart_bytecodeClocks :
    ¬ ∀ (cog : Cog Rat) (cycles : Nat → Cycle Rat) (frames : SpinFrames),
        (cog.ready cycles 0).engine = .interpreted frames →
        (cog.ready cycles 0).body.state = .fetch →
        isWaitCode ((cycles 0).hub.memory.readByte (cog.ready cycles 0).body.pc) = false →
        (∀ clock, ∀ event ∈ (cycles clock).events, event.isStep = false) →
        cog.NextStart cycles bytecodeClocks := by
  intro paced
  let bytes : List (UInt16 × UInt8) := [(0x10, 0x35)]
  have next := paced (fetchingCog bytes) (quietCycles bytes) _ rfl rfl (by decide +kernel)
    fun _ _ none => by cases none
  have idle : ((fetchingCog bytes).ready (quietCycles bytes) bytecodeClocks).starts
      (quietCycles bytes bytecodeClocks).hub = false := by decide +kernel
  cases idle.symm.trans next.starts

end Bytecode

end Cog

end P1Chip
