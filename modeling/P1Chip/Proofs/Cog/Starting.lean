import P1Chip.Proofs.Cog.Loading

/-!
# Clocks up to the first instruction

A cog that was started gets a long of its program every sixteen system clocks, at its turns on the
hub.  A native one then starts its first instruction, and an interpreter boots for some more clocks.
So it can be told from the position of the ring, and from what the cog is doing, how many clocks are
left.

* `Hub.clocksToTurn` — the ring as a countdown.
* `StartsIn` — the clocks that are left.
* **`StartsIn.next`** — each clock is one less.
* `Cog.stage` — what a cog executes, and what it is doing.
* **`Cog.step_of_starts`**, **`Cog.hubAccess_of_starts`** — the clocks and turns of such a cog.
-/

namespace P1Chip

/-! ## The ring -/

namespace Hub

/-- Clocks up to the next one in which a cog has its turn. -/
def clocksToTurn (ring : Fin 16) (id : Fin 8) : Nat :=
  (2 * id.val + 15 - ring.val) % 16 + 1

/-- The ring one position further. -/
def nextRing (ring : Fin 16) : Fin 16 :=
  Word.lowFourBits (ring.val + 1)

lemma advanceRing_eq_iff (hub : Hub) (id : Fin 8) :
    hub.advanceRing.1 = some id ↔ clocksToTurn hub.ring id = 1 := by
  simp only [advanceRing]
  generalize hub.ring = ring
  revert ring id
  decide

/-- After a turn the countdown starts again. -/
lemma clocksToTurn_nextRing (ring : Fin 16) (id : Fin 8) :
    clocksToTurn (nextRing ring) id
      = if clocksToTurn ring id = 1 then 16 else clocksToTurn ring id - 1 := by
  revert ring id
  decide

lemma clocksToTurn_pos (ring : Fin 16) (id : Fin 8) : 0 < clocksToTurn ring id :=
  Nat.succ_pos _

lemma clocksToTurn_le (ring : Fin 16) (id : Fin 8) : clocksToTurn ring id ≤ 16 :=
  Nat.mod_lt _ (by decide)

end Hub

/-! ## Cogs that start -/

/-- Clocks between loading and the first instruction. -/
def EngineKind.bootClocks : EngineKind → Nat
  | .native => 0
  | .interpreted => SpinFrames.bootClocks

/-- What a cog does when it is about to start an instruction. -/
def EngineKind.startState : EngineKind → RunState
  | .native => .execute
  | .interpreted => .fetch

/-- The clocks that a cog of some kind, in some state, needs up to its first instruction; `turn` is
the number of clocks to its next turn on the hub. -/
inductive StartsIn (turn : Nat) : EngineKind × RunState → Nat → Prop
  | loads (kind : EngineKind) (position : Fin programLongs) :
    StartsIn turn (kind, .loadProgram position)
      (16 * (programLongs - 1 - position) + turn + kind.bootClocks)
  | boots (left : Nat) : StartsIn turn (.interpreted, .booting left) (max left 1)
  | ready (kind : EngineKind) : StartsIn turn (kind, kind.startState) 0

/-- What a clock of such a cog does. -/
def clockStage : EngineKind × RunState → EngineKind × RunState
  | (.interpreted, .booting left) =>
    (.interpreted, if left ≤ 1 then .fetch else .booting (left - 1))
  | stage => stage

/-- What a turn on the hub does. -/
def turnStage : EngineKind × RunState → EngineKind × RunState
  | (kind, .loadProgram position) =>
    (kind, if more : position.val + 1 < programLongs then .loadProgram ⟨position.val + 1, more⟩
      else kind.bootState)
  | stage => stage

namespace StartsIn

variable {turn clocks : Nat} {stage : EngineKind × RunState}

/-- **Each clock is one less**, with a turn every sixteen clocks.  A turn comes after the clock. -/
theorem next (starts : StartsIn turn stage (clocks + 1)) (positive : 0 < turn) :
    StartsIn (if turn = 1 then 16 else turn - 1)
      (if turn = 1 then turnStage (clockStage stage) else clockStage stage) clocks := by
  generalize left : clocks + 1 = all at starts
  cases starts with
  | loads kind position =>
    have inside : position.val < 496 := position.isLt
    by_cases here : turn = 1
    · simp only [if_pos here, clockStage, turnStage]
      by_cases more : position.val + 1 < programLongs
      · rw [dif_pos more]
        have rest : clocks
            = 16 * (programLongs - 1 - (position.val + 1)) + 16 + kind.bootClocks := by
          omega
        rw [rest]
        exact .loads kind ⟨position.val + 1, more⟩
      · rw [dif_neg more]
        have rest : clocks = kind.bootClocks := by
          omega
        rw [rest]
        cases kind with
        | native => exact .ready .native
        | interpreted => exact .boots SpinFrames.bootClocks
    · simp only [if_neg here, clockStage]
      have rest : clocks
          = 16 * (programLongs - 1 - position.val) + (turn - 1) + kind.bootClocks := by
        omega
      rw [rest]
      exact .loads kind position
  | boots waits =>
    have unturned : turnStage (clockStage (.interpreted, .booting waits))
        = clockStage (.interpreted, .booting waits) := by
      simp only [clockStage]
      split <;> rfl
    rw [unturned, ite_self, clockStage]
    by_cases last : waits ≤ 1
    · have rest : clocks = 0 := by omega
      rw [if_pos last, rest]
      exact .ready .interpreted
    · have rest : clocks = max (waits - 1) 1 := by omega
      rw [if_neg last, rest]
      exact .boots (waits - 1)
  | ready => cases left

/-- After the clock alone it still is a cog that starts. -/
lemma clock (starts : StartsIn turn stage (clocks + 1)) :
    ∃ rest, StartsIn turn (clockStage stage) rest := by
  generalize left : clocks + 1 = all at starts
  cases starts with
  | loads kind position =>
    cases kind
    · exact ⟨_, .loads .native position⟩
    · exact ⟨_, .loads .interpreted position⟩
  | boots waits =>
    rw [clockStage]
    split
    · exact ⟨_, .ready .interpreted⟩
    · exact ⟨_, .boots _⟩
  | ready => cases left

/-- A cog that starts does not wait for its video generator. -/
lemma ne_video (starts : StartsIn turn stage clocks) : stage.2 ≠ .waiting .video := by
  cases starts with
  | ready kind => cases kind <;> exact nofun
  | _ => exact nofun

/-- As long as there are clocks left, it is not at an instruction. -/
lemma isBoundary_eq (starts : StartsIn turn stage clocks) (positive : 0 < turn) :
    stage.2.isBoundary = decide (clocks = 0) := by
  cases starts with
  | loads kind position => exact (decide_eq_false (by omega)).symm
  | boots waits => exact (decide_eq_false (by omega)).symm
  | ready kind => cases kind <;> rfl

end StartsIn

variable {τ π : Type}

namespace Cog

/-- What a cog executes, and what it is doing. -/
def stage (cog : Cog τ) : EngineKind × RunState :=
  (cog.engine.kind, cog.body.state)

lemma stage_endClock (cog : Cog τ) (cycle : Cycle τ) :
    (cog.endClock cycle).2.1.stage = cog.stage := by
  simp only [endClock, checkBreaks]
  split <;> rfl

variable [Timebase τ] {cog : Cog τ} {turn clocks : Nat} {stage : EngineKind × RunState}

/-- **A clock of a cog that starts** is not seen by the hub. -/
theorem step_of_starts (starts : StartsIn turn cog.stage (clocks + 1)) (hub : Hub)
    (frameBreak : FrameBreak) :
    (cog.step hub frameBreak).2.1.stage = clockStage cog.stage ∧
      (cog.step hub frameBreak).2.2 = hub := by
  generalize reached : cog.stage = stage at starts
  generalize left : clocks + 1 = all at starts
  cases starts with
  | loads kind position =>
    have loading : cog.body.state = .loadProgram position := congrArg Prod.snd reached
    rw [step_of_loading loading, stage_endClock, reached]
    cases kind <;> exact ⟨rfl, rfl⟩
  | boots waits =>
    rcases cog with ⟨body, native | frames⟩
    · cases reached
    · have booting : body.state = .booting waits := congrArg Prod.snd reached
      let after : Cog τ :=
        ⟨{ body with state := if waits ≤ 1 then .fetch else .booting (waits - 1) },
          .interpreted frames⟩
      have stepped : Cog.step ⟨body, .interpreted frames⟩ hub frameBreak
          = after.endClock ⟨[], hub, frameBreak⟩ := by
        simp only [Cog.step, stepEngine, SpinMachine.step, booting]
        rfl
      rw [stepped, stage_endClock]
      exact ⟨rfl, rfl⟩
  | ready => cases left

/-- **In its turns** it may write to memory, but asks for nothing. -/
theorem hubAccess_of_starts (starts : StartsIn turn cog.stage clocks) (hub : Hub) :
    (cog.hubAccess hub).1.stage = turnStage cog.stage ∧
      (cog.hubAccess hub).2.queue = hub.queue ∧ (cog.hubAccess hub).2.ring = hub.ring := by
  generalize reached : cog.stage = stage at starts
  cases starts with
  | loads kind position =>
    have loading : cog.body.state = .loadProgram position := congrArg Prod.snd reached
    obtain rfl : cog.engine.kind = kind := congrArg Prod.fst reached
    rw [hubAccess_of_loading loading, turnStage]
    split
    · exact ⟨rfl, rfl, rfl⟩
    · rcases cog with ⟨body, native | frames⟩ <;> exact ⟨rfl, rfl, rfl⟩
  | boots waits =>
    have booting : cog.body.state = .booting waits := congrArg Prod.snd reached
    rw [hubAccess_of_busy (by rw [booting]; rfl)]
    exact ⟨reached, rfl, rfl⟩
  | ready kind =>
    have ready : cog.body.state = kind.startState := congrArg Prod.snd reached
    rw [hubAccess_of_busy (by rw [ready]; cases kind <;> rfl)]
    cases kind <;> exact ⟨reached, rfl, rfl⟩

end Cog

end P1Chip
