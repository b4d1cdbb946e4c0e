import P1Chip.Cog.Basic
import P1Chip.Proofs.Hub.Service
import P1Chip.Proofs.Memory.Words

/-!
# Native cogs and the hub

A native cog reads pins, counter and running cogs from the hub in every clock, but it changes
nothing there.  What an instruction asks of the hub waits for the cog's turn, and then the cog
either asks for one service or accesses one byte, word or long.  So cogs that step in the same
clock do not see each other, and it makes no difference which of them is the first.

* `Native.Turn` — what a turn on the hub can do to it.
* **`Cog.turn_hubAccess`** — turns of native cogs do nothing else.
* `Cog.IsNative.step_hub` — a clock of a native cog leaves the hub alone.
* `Cog.stepAll` — cogs that step one after the other.
* **`Cog.stepAll_eq`** — native cogs then step as if each were alone.
-/

namespace P1Chip

variable {τ : Type} [Timebase τ]

/-! ## Turns -/

/-- What a turn on the hub makes of it, for a native cog with the given instruction in progress. -/
structure Native.Turn (native : Native) (body : CogBody τ) (before after : Hub) : Prop where
  /-- A cog that waits for a service gets it, and no service writes to memory. -/
  service : body.state = .waiting .hubService →
    after = (before.execute body.id (.ofBits native.pending.s) native.pending.d).2 ∧
      after.memory = before.memory
  /-- A cog that waits to write does so, and only to one cell of the lower half of memory. -/
  write : ∀ size, body.state = .waiting (.hubTransfer size) →
    native.pending.effects.writeResult = false →
      after = { before with memory := before.memory.write size native.pending.s native.pending.d } ∧
        ∀ place, after.memory.byteAt place ≠ before.memory.byteAt place →
          Memory.InCell size native.pending.s place ∧ place.toNat < halfSize
  /-- Nobody else changes the hub. -/
  rest : body.state ≠ .waiting .hubService →
    (∀ size, body.state = .waiting (.hubTransfer size) →
      native.pending.effects.writeResult = true) →
    after = before

namespace Cog

/-- **Turns of native cogs** do to the hub what is waited for, and nothing else. -/
theorem turn_hubAccess (native : Native) (body : CogBody τ) (hub : Hub) :
    native.Turn body hub (hubAccess ⟨body, .native native⟩ hub).2 where
  service := by
    intro state
    have served : (hubAccess ⟨body, .native native⟩ hub).2
        = (hub.execute body.id (.ofBits native.pending.s) native.pending.d).2 := by
      simp only [hubAccess, Native.hubAccess, state]
    rw [served]
    exact ⟨rfl, hub.memory_execute ..⟩
  write := by
    intro size state writes
    have written : (hubAccess ⟨body, .native native⟩ hub).2
        = hub.write size native.pending.s native.pending.d := by
      simp only [hubAccess, Native.hubAccess, state, writes, Bool.false_eq_true, if_false]
    rw [written]
    exact ⟨rfl, fun _ changed => hub.memory.inCell_of_write changed⟩
  rest := by
    intro unserved reads
    cases state : body.state with
    | loadProgram next =>
      -- the last long boots the cog, which for native cogs does not concern the hub
      simp only [hubAccess, state]
      split <;> rfl
    | waiting on =>
      cases on with
      | hubService => exact absurd state unserved
      | hubTransfer size =>
        simp only [hubAccess, Native.hubAccess, state, reads size state, if_true]
      | _ => simp only [hubAccess, Native.hubAccess, state]
    | _ => simp only [hubAccess, Native.hubAccess, state]

/-! ## Clocks -/

/-- The cog executes native instructions. -/
def IsNative (cog : Cog τ) : Prop :=
  cog.engine.kind = .native

variable {cog : Cog τ}

/-- A clock of a native cog leaves the hub alone. -/
lemma IsNative.step_hub (h : cog.IsNative) (hub : Hub) (frameBreak : FrameBreak) :
    (cog.step hub frameBreak).2.2 = hub := by
  rcases cog with ⟨body, native | frames⟩
  · simp only [step, stepEngine]
    split <;> rfl
  · cases h

lemma IsNative.step (h : cog.IsNative) (hub : Hub) (frameBreak : FrameBreak) :
    (cog.step hub frameBreak).2.1.IsNative := by
  rcases cog with ⟨body, native | frames⟩
  · have checked (cog : Cog τ) (started : Bool) :
        (cog.checkBreaks frameBreak started).2.engine = cog.engine := by
      simp only [checkBreaks]
      split <;> rfl
    simp only [IsNative, Cog.step, stepEngine]
    split
    · rfl
    · exact congrArg Engine.kind (checked _ _)
  · cases h

/-- Cogs that step one after the other: what came of each, each as it is then, and the hub in the
end. -/
def stepAll (frameBreak : FrameBreak) : List (Cog τ) → Hub → List (Except Fault Bool × Cog τ) × Hub
  | [], hub => ([], hub)
  | cog :: cogs, hub =>
    let (outcome, cog, hub) := cog.step hub frameBreak
    let (others, hub) := stepAll frameBreak cogs hub
    ((outcome, cog) :: others, hub)

/-- **Native cogs step as if each were alone**, so their order makes no difference. -/
theorem stepAll_eq {cogs : List (Cog τ)} (native : ∀ cog ∈ cogs, cog.IsNative) (hub : Hub)
    (frameBreak : FrameBreak) :
    stepAll frameBreak cogs hub
      = (cogs.map fun cog => ((cog.step hub frameBreak).1, (cog.step hub frameBreak).2.1),
        hub) := by
  induction cogs with
  | nil => rfl
  | cons cog cogs ih =>
    have first := (native cog List.mem_cons_self).step_hub hub frameBreak
    have rest := ih fun other within => native other (List.mem_cons_of_mem _ within)
    simp only [stepAll, first, rest]
    rfl

end Cog

end P1Chip
