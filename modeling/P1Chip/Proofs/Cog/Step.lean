import P1Chip.Proofs.Cog.Action
import P1Chip.Proofs.Spin.Action

/-!
# What a cog does in a clock

Both engines are made of the same actions, and so is all that a cog does on its own: a clock, a
turn on the hub and the end of a video frame.

* `SpinMachine.Actions.body` — the interpreter's actions, without the frames.
* **`Cog.actions_step`**, **`Cog.actions_hubAccess`**, **`Cog.actions_frameComplete`** — every
  cog, whatever it executes.
* `Cog.stepEngine_of_loading`, `Cog.hubAccess_of_loading` — a cog that copies its program.
* `Cog.hubAccess_of_busy`, `Cog.frameComplete_of_busy` — what a cog does not wait for.
-/

namespace P1Chip

open Relation CogBody

variable {τ : Type} [Timebase τ]

/-! ## The interpreter -/

/-- What an interpreted cog does to its body and the hub is what any cog may do. -/
theorem SpinMachine.Actions.body {before after : SpinMachine τ}
    (h : SpinMachine.Actions before after) :
    CogBody.Actions (before.body, before.hub) (after.body, after.hub) := by
  induction h with
  | refl => exact .refl
  | tail _ last ih =>
    cases last with
    | frames => exact ih
    | pc pc => exact ih.tail (.pc _ _ pc)
    | register address value => exact ih.tail (.register _ _ address value)
    | service operation argument => exact ih.tail (.service _ _ operation argument)
    | write size address value => exact ih.tail (.write _ _ size address value)
    | wait wait _ => exact ih.tail (.state _ _ (.waiting wait))

/-- The wait for the video generator is no exception. -/
lemma SpinMachine.cogActions_execute (machine : SpinMachine τ) :
    CogBody.Actions (machine.body, machine.hub)
      (machine.execute.machine.body, machine.execute.machine.hub) := by
  by_cases video : machine.code = waitVideoCode
  · rw [execute_waitVideo video]
    exact .head (.pc _ _ _) (.single (.state _ _ (.waiting .video)))
  · exact (actions_execute machine video).body

lemma SpinFrames.actions_supplyVideo (frames : SpinFrames) (body : CogBody τ) (hub : Hub) :
    CogBody.Actions (body, hub) ((frames.supplyVideo body).2, hub) := by
  simp only [SpinFrames.supplyVideo]
  split
  · next h => exact .tail (.single (.feed _ _ _ _ h.2)) (.state _ _ _)
  · exact .refl

lemma SpinFrames.actions_boot (body : CogBody τ) (hub : Hub) :
    CogBody.Actions (body, hub)
      ((SpinFrames.boot body hub).body, (SpinFrames.boot body hub).hub) := by
  let frame := body.cell SpecialRegister.par.address &&& 0xFFFF
  let hub' := hub.write .long (frame - 8) Word.ones
  let body' := (body.setCell SpinMachine.idCell body.id).setCell SpinMachine.frameCell (frame - 4)
  have hw : CogBody.Actions (body, hub) (body, hub'.write .long (frame - 4) 0) :=
    .head (.write _ _ _ _ _) (.single (.write _ _ _ _ _))
  have hb : CogBody.Action (body, hub'.write .long (frame - 4) 0)
      (body', hub'.write .long (frame - 4) 0) :=
    .cells _ _ body'.memory body.programAddress
  exact ((hw.tail hb).tail (.state _ _ (.booting SpinFrames.bootClocks))).tail (.pc _ _ _)

lemma SpinMachine.actions_step (machine : SpinMachine τ) :
    CogBody.Actions (machine.body, machine.hub) (machine.step.2.body, machine.step.2.hub) := by
  rw [SpinMachine.step]
  split
  · let fetched := machine.withState (.interpreting SpinFrames.bytecodeClocks)
    have he : CogBody.Actions (machine.body, machine.hub)
        (fetched.execute.machine.body, fetched.execute.machine.hub) :=
      .head (.state _ _ _) fetched.cogActions_execute
    dsimp only
    split <;> exact he
  · exact .single (.state _ _ _)
  · exact .single (.state _ _ _)
  · dsimp only
    split
    · exact .single (.state _ _ _)
    · exact .refl
  · dsimp only
    split
    · exact .refl
    · exact .single (.state _ _ _)
  · dsimp only
    split
    · exact .single (.state _ _ _)
    · exact .refl
  · exact SpinFrames.actions_supplyVideo _ _ _
  all_goals exact .refl

/-! ## Cogs of either kind -/

namespace Cog

lemma actions_stepEngine (cog : Cog τ) (hub : Hub) :
    CogBody.Actions (cog.body, hub) ((cog.stepEngine hub).2.1.body, (cog.stepEngine hub).2.2) := by
  rcases cog with ⟨body, native | frames⟩
  · exact native.actions_step body hub
  · exact SpinMachine.actions_step { frames, body, hub }

lemma actions_checkBreaks (cog : Cog τ) (hub : Hub) (frameBreak : FrameBreak) (started : Bool) :
    CogBody.Actions (cog.body, hub) ((cog.checkBreaks frameBreak started).2.body, hub) := by
  simp only [checkBreaks]
  split
  · exact .single (.flag _ _ _)
  · exact .refl

/-- **A clock of a cog** is made of actions. -/
theorem actions_step (cog : Cog τ) (hub : Hub) (frameBreak : FrameBreak) :
    CogBody.Actions (cog.body, hub)
      ((cog.step hub frameBreak).2.1.body, (cog.step hub frameBreak).2.2) := by
  have he := actions_stepEngine cog hub
  simp only [step]
  revert he
  rcases cog.stepEngine hub with ⟨outcome, cog', hub'⟩
  intro he
  have ht := he.tail (.tick _ _)
  cases outcome with
  | error kind => exact ht
  | ok started =>
    let ticked : Cog τ := { cog' with body := cog'.body.tickCounters hub'.input }
    exact ReflTransGen.trans ht (actions_checkBreaks ticked hub' frameBreak started)

lemma actions_boot (cog : Cog τ) (hub : Hub) :
    CogBody.Actions (cog.body, hub) ((cog.boot hub).1.body, (cog.boot hub).2) := by
  rcases cog with ⟨body, native | frames⟩
  · exact .head (.state _ _ .execute) (.single (.pc _ _ 0))
  · exact SpinFrames.actions_boot body hub

lemma actions_loadNext (body : CogBody τ) (hub : Hub) (next : Fin programLongs) :
    CogBody.Actions (body, hub) ((body.loadNext hub next).2, hub) := by
  have hc := Action.cells body hub
    (body.memory.set next.val (hub.memory.readLong body.programAddress)
      (Nat.lt_trans next.isLt (by decide)))
    (body.programAddress + 4)
  simp only [CogBody.loadNext]
  split
  · exact .head hc (.single (.state _ _ _))
  · exact .single hc

/-- **A cog's turn on the hub** is made of actions. -/
theorem actions_hubAccess (cog : Cog τ) (hub : Hub) :
    CogBody.Actions (cog.body, hub) ((cog.hubAccess hub).1.body, (cog.hubAccess hub).2) := by
  refine .head (.turn _ _) ?_
  simp only [hubAccess]
  split
  · next next _ =>
    let counted := { cog.body with hubAccesses := cog.body.hubAccesses + 1 }
    have hl := actions_loadNext counted hub next
    split
    · exact ReflTransGen.trans hl (actions_boot ⟨(counted.loadNext hub next).2, cog.engine⟩ hub)
    · exact hl
  · rcases cog with ⟨body, native | frames⟩
    · exact native.actions_hubAccess _ hub
    · exact .refl

/-- **The end of a video frame** is made of actions. -/
theorem actions_frameComplete (cog : Cog τ) (hub : Hub) :
    CogBody.Actions (cog.body, hub) ((cog.frameComplete hub.running).body, hub) := by
  rcases cog with ⟨body, native | frames⟩
  · exact (native.actions_supplyVideo body hub).tail (.flag _ _ _)
  · exact (frames.actions_supplyVideo body hub).tail (.flag _ _ _)

end Cog

/-! ## Cogs that load, and busy ones -/

/-- Whether a turn on the hub is of use to a cog that does this. -/
def RunState.usesHub : RunState → Bool
  | loadProgram _ | waiting (.hubTransfer _) | waiting .hubService => true
  | _ => false

namespace CogBody

omit [Timebase τ]

/-- The body with the next long of its program. -/
def withNext (body : CogBody τ) (hub : Hub) (position : Fin programLongs) : CogBody τ :=
  { body.setCell (.ofNat position) (hub.memory.readLong body.programAddress) with
    programAddress := body.programAddress + 4 }

/-- The number of a long of the program is an address in cog memory. -/
lemma toNat_position (position : Fin programLongs) :
    (UInt32.ofNat position).toNat % 512 = position := by
  have below : position.val < 496 := position.isLt
  rw [UInt32.toNat_ofNat']
  omega

lemma loadNext_eq (body : CogBody τ) (hub : Hub) (position : Fin programLongs) :
    body.loadNext hub position
      = if more : position.val + 1 < programLongs then
          (false, { body.withNext hub position with
            state := .loadProgram ⟨position.val + 1, more⟩ })
        else
          (true, body.withNext hub position) := by
  simp only [loadNext, withNext, setCell, Fin.ofNat, toNat_position]

end CogBody

namespace Cog

variable {cog : Cog τ} {position : Fin programLongs}

/-- The engine of a cog that loads does nothing. -/
lemma stepEngine_of_loading (loading : cog.body.state = .loadProgram position) (hub : Hub) :
    cog.stepEngine hub = (.ok false, cog, hub) := by
  rcases cog with ⟨body, native | frames⟩
  · have state : body.state = .loadProgram position := loading
    simp only [stepEngine, Native.step, state]
  · have state : body.state = .loadProgram position := loading
    simp only [stepEngine, SpinMachine.step, state]

/-- At its turn it copies the next long.  Only the last one is followed by something. -/
lemma hubAccess_of_loading (loading : cog.body.state = .loadProgram position) (hub : Hub) :
    let body := { cog.body with hubAccesses := cog.body.hubAccesses + 1 }.withNext hub position
    cog.hubAccess hub
      = if more : position.val + 1 < programLongs then
          (⟨{ body with state := .loadProgram ⟨position.val + 1, more⟩ }, cog.engine⟩, hub)
        else
          boot ⟨body, cog.engine⟩ hub := by
  simp only [hubAccess, loading, CogBody.loadNext_eq]
  split <;> rfl

/-- Other cogs have turns that are counted, but of no use to them. -/
lemma hubAccess_of_busy (busy : cog.body.state.usesHub = false) (hub : Hub) :
    cog.hubAccess hub
      = ({ cog with body := { cog.body with hubAccesses := cog.body.hubAccesses + 1 } }, hub) := by
  rcases cog with ⟨body, engine⟩
  change body.state.usesHub = false at busy
  cases state : body.state with
  | loadProgram next => cases state ▸ busy
  | waiting on =>
    cases on with
    | hubTransfer size => cases state ▸ busy
    | hubService => cases state ▸ busy
    | _ => cases engine <;> simp only [hubAccess, state, Native.hubAccess]
  | _ => cases engine <;> simp only [hubAccess, state, Native.hubAccess]

/-- A cog that does not wait for its video generator has nothing for it at the end of a frame. -/
lemma frameComplete_of_busy (busy : cog.body.state ≠ .waiting .video) (running : UInt8) :
    cog.frameComplete running = { cog with body := { cog.body with frameFlag := .miss } } := by
  have refused : ¬ (cog.body.state = .waiting .video ∧ cog.body.video.isReady) :=
    fun both => busy both.1
  rcases cog with ⟨body, native | frames⟩
  · simp only [frameComplete, Native.supplyVideo, if_neg refused]
    rfl
  · simp only [frameComplete, SpinFrames.supplyVideo, if_neg refused]
    rfl

end Cog

end P1Chip
