import Mathlib.Logic.Relation
import P1Chip.Cog.Basic

/-!
# What a cog can do

A clock of a cog, its turn on the hub and the end of a video frame all come down to a few kinds of
small changes: the program counter moves, a register is written, the hub is asked for a service.
This file lists these changes once, and shows that there are no others.  Whatever holds at first
and survives each of them then holds of every cog at all times, and no proof of that kind has to
look at instructions or bytecodes again.

* `CogBody.Action` — one small change of a cog's body and the hub.
* `CogBody.Actions` — any number of them, one after the other.
* `CogBody.Actions.preserves` — what survives each of them survives all of them.
* `CogBody.Actions.served` — of the hub they change memory, locks, bits and requests only.
* `Native.actions_step`, `Native.actions_hubAccess` — the native engine only makes such changes.

The interpreter is dealt with in `Proofs/Spin/Action.lean`, and both engines together in
`Proofs/Cog/Step.lean`.
-/

namespace P1Chip

open Relation

variable {τ : Type} [Timebase τ]

namespace CogBody

/-- One small change of a cog's body and the hub. -/
inductive Action : CogBody τ × Hub → CogBody τ × Hub → Prop
  /-- The cog goes on somewhere else. -/
  | pc (body : CogBody τ) (hub : Hub) (pc : UInt32) : Action (body, hub) ({ body with pc }, hub)
  /-- The cog turns to something else. -/
  | state (body : CogBody τ) (hub : Hub) (state : RunState) :
      Action (body, hub) ({ body with state }, hub)
  /-- Cog memory is loaded, or set up for the interpreter. -/
  | cells (body : CogBody τ) (hub : Hub) (memory : Vector UInt32 cogLongs)
      (programAddress : UInt32) : Action (body, hub) ({ body with memory, programAddress }, hub)
  /-- A register is written. -/
  | register (body : CogBody τ) (hub : Hub) (address value : UInt32) :
      Action (body, hub) (body.writeRegister hub.running address value, hub)
  /-- The video generator, which waits for it, is given a frame. -/
  | feed (body : CogBody τ) (hub : Hub) (colors pixels : UInt32) (ready : body.video.isReady) :
      Action (body, hub) ({ body with video := body.video.feed colors pixels }, hub)
  /-- Both counters see the pins. -/
  | tick (body : CogBody τ) (hub : Hub) : Action (body, hub) (body.tickCounters hub.input, hub)
  /-- It is noted, or forgotten, how a video frame ended. -/
  | flag (body : CogBody τ) (hub : Hub) (frameFlag : FrameFlag) :
      Action (body, hub) ({ body with frameFlag }, hub)
  /-- The turn on the hub is counted. -/
  | turn (body : CogBody τ) (hub : Hub) :
      Action (body, hub) ({ body with hubAccesses := body.hubAccesses + 1 }, hub)
  /-- The hub is asked for a service. -/
  | service (body : CogBody τ) (hub : Hub) (operation : HubOperation) (argument : UInt32) :
      Action (body, hub) (body, (hub.execute body.id operation argument).2)
  /-- Hub memory is written. -/
  | write (body : CogBody τ) (hub : Hub) (size : DataSize) (address value : UInt32) :
      Action (body, hub) (body, hub.write size address value)

/-- Any number of small changes, one after the other. -/
abbrev Actions : CogBody τ × Hub → CogBody τ × Hub → Prop :=
  ReflTransGen Action

/-- **The induction over actions.**  What survives each of them survives all of them. -/
theorem Actions.preserves {P : CogBody τ × Hub → Prop}
    (step : ∀ x y, Action x y → P x → P y) {x y : CogBody τ × Hub} (run : Actions x y)
    (h : P x) : P y := by
  induction run with
  | refl => exact h
  | tail _ last ih => exact step _ _ last ih

end CogBody

open CogBody

/-! ## What becomes of the hub -/

namespace Hub

/-- The hub has served a cog: counter, ring, clock settings and pins are as they were. -/
def Served (before after : Hub) : Prop :=
  ∃ memory freeLocks setLocks running queue,
    after = { before with memory, freeLocks, setLocks, running, queue }

lemma Served.refl (hub : Hub) : hub.Served hub :=
  ⟨_, _, _, _, _, rfl⟩

lemma Served.trans {first second third : Hub} (h : first.Served second)
    (h' : second.Served third) : first.Served third := by
  obtain ⟨_, _, _, _, _, rfl⟩ := h
  obtain ⟨_, _, _, _, _, rfl⟩ := h'
  exact ⟨_, _, _, _, _, rfl⟩

lemma served_execute (hub : Hub) (caller : UInt32) (operation : HubOperation)
    (argument : UInt32) : hub.Served (hub.execute caller operation argument).2 := by
  cases operation with
  | startCog =>
    simp only [execute, startCog]
    split
    · exact .refl hub
    · split <;> exact ⟨_, _, _, _, _, rfl⟩
  | newLock =>
    simp only [execute, newLock]
    split <;> exact ⟨_, _, _, _, _, rfl⟩
  | _ => exact ⟨_, _, _, _, _, rfl⟩

end Hub

/-- **What a cog does to the hub** concerns memory, locks, bits and requests only. -/
theorem CogBody.Actions.served {before after : CogBody τ × Hub} (run : Actions before after) :
    before.2.Served after.2 := by
  refine Actions.preserves (P := fun state => before.2.Served state.2) ?_ run (.refl _)
  rintro _ _ action served
  cases action with
  | service body hub operation argument =>
    exact served.trans (hub.served_execute body.id operation argument)
  | write => exact served.trans ⟨_, _, _, _, _, rfl⟩
  | _ => exact served

/-! ## The native engine -/

namespace Native

lemma actions_writeBack (native : Native) (body : CogBody τ) (hub : Hub) :
    Actions (body, hub) ((native.writeBack body hub.running).2, hub) := by
  simp only [writeBack]
  split
  · exact .tail (.single (.register _ _ _ _)) (.state _ _ _)
  · exact .single (.state _ _ _)

lemma actions_supplyVideo (native : Native) (body : CogBody τ) (hub : Hub) :
    Actions (body, hub) ((native.supplyVideo body hub.running).2.2, hub) := by
  simp only [supplyVideo]
  split
  · next h => exact .head (.feed _ _ _ _ h.2) (actions_writeBack native _ hub)
  · exact .refl

lemma actions_checkPins (native : Native) (body : CogBody τ) (hub : Hub) (equal : Bool) :
    Actions (body, hub) ((native.checkPins body hub equal).2, hub) := by
  unfold checkPins
  generalize (if native.carry then hub.inputB else hub.inputA) = pins
  dsimp only
  split
  · exact actions_writeBack _ body hub
  · exact .refl

lemma actions_checkCount (native : Native) (body : CogBody τ) (hub : Hub) :
    Actions (body, hub) ((native.checkCount body hub).2, hub) := by
  simp only [checkCount]
  split
  · exact actions_writeBack _ body hub
  · exact .refl

lemma actions_start (native : Native) (body : CogBody τ) (hub : Hub) :
    Actions (body, hub) ((native.start body hub).2.1, hub) :=
  .head (.pc body hub (native.plan body hub).pc)
    (.single (.state _ hub (native.plan body hub).state))

/-- **A clock of the native engine** is made of actions, and leaves the hub alone. -/
theorem actions_step (native : Native) (body : CogBody τ) (hub : Hub) :
    Actions (body, hub) ((native.step body hub).2.2, hub) := by
  simp only [step]
  split
  · have h := actions_start native body hub
    revert h
    rcases native.start body hub with ⟨native', body', _ | fault⟩ <;> exact id
  · split
    · exact actions_writeBack native body hub
    · exact .single (.state _ _ _)
  · split
    · split <;> exact .single (.state _ _ _)
    · exact .single (.state _ _ _)
  · exact actions_checkPins native body hub true
  · exact actions_checkPins native body hub false
  · exact actions_checkCount native body hub
  · exact actions_supplyVideo native body hub
  all_goals exact .refl

/-- **The native engine's turn on the hub** is made of actions. -/
theorem actions_hubAccess (native : Native) (body : CogBody τ) (hub : Hub) :
    Actions (body, hub) (native.hubAccess body hub).2 := by
  rw [hubAccess]
  split
  · refine .head (.service body hub (HubOperation.ofBits native.pending.s) native.pending.d) ?_
    exact actions_writeBack _ body _
  · next size _ =>
    dsimp only
    split
    · exact actions_writeBack _ body hub
    · refine .head (.write body hub size native.pending.s native.pending.d) ?_
      exact actions_writeBack native body (hub.write size native.pending.s native.pending.d)
  · exact .refl

end Native

end P1Chip
