import P1Chip.Proofs.Chip.Action
import P1Chip.Proofs.Pins.Bus

/-!
# The pins of a running chip

What the cogs read from the pins is noted in the hub, and so is what they put out, so both can be
out of date.  In the middle of a step they are: a cog has changed its outputs, or a plugin has
driven a pin.  But at its end the chip puts the outputs of all cogs together, tells the plugins, and
reads the pins again after that.  So do resets, and whoever else drives a pin has the cogs read it
at once.

* `Chip.attainable_action` — pins are only ever driven by the functions that there are for it.
* `Chip.readsPins_apply` — every operation leaves the cogs with what is on the pins.
* `Chip.PutsOut` — on the pins is what the cogs put out, and nothing else.
* **`Chip.putsOut_notifyPins`** — so it is when the plugins have been told of the pins.
* **`Chip.coherent_run`** — all operations leave the pins coherent, and steps with these outputs.
-/

namespace P1Chip.Chip

variable {τ π : Type} [Timebase τ]

/-! ## What the cogs put out -/

/-- On the pins is what the cogs in the slots put out together. -/
structure PutsOut (chip : Chip τ π) : Prop where
  out : ∀ pin, HasPin chip.hub.out pin ↔
    ∃ id cog, chip.cogs.get id = some cog ∧ HasPin cog.body.out pin
  dir : ∀ pin, HasPin chip.hub.dir pin ↔
    ∃ id cog, chip.cogs.get id = some cog ∧ HasPin cog.body.dir pin

/-- Outputs and directions, with those of what stands in another slot. -/
def addPins (pins : UInt64 × UInt64) : Option (Cog τ) → UInt64 × UInt64
  | some cog => (pins.1 ||| cog.body.out, pins.2 ||| cog.body.dir)
  | none => pins

lemma hasPin_foldl_addPins (cogs : List (Option (Cog τ))) (pins : UInt64 × UInt64)
    (pin : Fin pinCount) :
    (HasPin (cogs.foldl addPins pins).1 pin ↔
      HasPin pins.1 pin ∨ ∃ cog, some cog ∈ cogs ∧ HasPin cog.body.out pin) ∧
    (HasPin (cogs.foldl addPins pins).2 pin ↔
      HasPin pins.2 pin ∨ ∃ cog, some cog ∈ cogs ∧ HasPin cog.body.dir pin) := by
  induction cogs generalizing pins with
  | nil => simp
  | cons cog? cogs ih =>
    obtain ⟨out, dir⟩ := ih (addPins pins cog?)
    rw [List.foldl_cons, out, dir]
    cases cog? with
    | none => simp [addPins]
    | some cog => simp [addPins, or_assoc]

/-- What is put together from all cogs is what some cog has. -/
lemma hasPin_cogPins (chip : Chip τ π) (pin : Fin pinCount) :
    (HasPin chip.cogPins.1 pin ↔
      ∃ id cog, chip.cogs.get id = some cog ∧ HasPin cog.body.out pin) ∧
    (HasPin chip.cogPins.2 pin ↔
      ∃ id cog, chip.cogs.get id = some cog ∧ HasPin cog.body.dir pin) := by
  have pins : chip.cogPins = chip.cogs.toList.foldl addPins (0, 0) := (Vector.foldl_toList _).symm
  have stands (cog : Cog τ) :
      some cog ∈ chip.cogs.toList ↔ ∃ id : Fin 8, chip.cogs.get id = some cog := by
    rw [Vector.mem_toList_iff, Vector.mem_iff_getElem]
    constructor
    · rintro ⟨id, within, there⟩
      exact ⟨⟨id, within⟩, there⟩
    · rintro ⟨id, there⟩
      exact ⟨id, id.isLt, there⟩
  obtain ⟨out, dir⟩ := hasPin_foldl_addPins chip.cogs.toList (0, 0) pin
  rw [pins, out, dir]
  simp only [stands, not_hasPin_zero, false_or, ← exists_and_right]
  exact ⟨exists_comm, exists_comm⟩

variable [Plugin τ π]

/-- **When the plugins have been told of the pins**, what the cogs put out is on them. -/
theorem putsOut_notifyPins (chip : Chip τ π) : chip.notifyPins.PutsOut := by
  have refreshed : chip.refreshPins.2.PutsOut :=
    ⟨fun pin => (chip.hasPin_cogPins pin).1, fun pin => (chip.hasPin_cogPins pin).2⟩
  rw [notifyPins_eq]
  split
  · exact ⟨refreshed.out, refreshed.dir⟩
  · exact refreshed

/-! ## What drives the pins from outside -/

variable {chip after : Chip τ π}

lemma attainable_notifyPins (keeps : KeepsToInterface τ π) (h : chip.hub.external.Attainable) :
    chip.notifyPins.hub.external.Attainable := by
  rw [notifyPins_eq]
  split
  · exact PluginSet.attainable_deliverPins keeps _ _ _ h.takeChanged
  · exact h.takeChanged

lemma attainable_reset (keeps : KeepsToInterface τ π) (h : chip.hub.external.Attainable) :
    chip.reset.hub.external.Attainable := by
  have emptied : chip.emptied.hub.external.Attainable := h
  have booted (chip : Chip τ π) : chip.booted.hub.external = chip.hub.external := rfl
  rw [reset_eq, booted]
  exact attainable_notifyPins keeps emptied

/-- **Every small change** of a chip leaves the pins as they can be driven. -/
theorem attainable_action (keeps : KeepsToInterface τ π) (action : Action chip after)
    (h : chip.hub.external.Attainable) : after.hub.external.Attainable := by
  have served {hub : Hub} (served : chip.hub.Served hub) : hub.external.Attainable := by
    obtain ⟨_, _, _, _, _, rfl⟩ := served
    exact h
  cases action with
  | clock action =>
    cases action with
    | pins => exact h.takeChanged
    | tell => exact PluginSet.attainable_deliverPins keeps _ _ _ h
    | _ => exact h
  | cogStep => exact served (Cog.actions_step _ chip.hub chip.frameBreak).served
  | turn => exact served (Cog.actions_hubAccess _ chip.hub).served
  | reset => exact attainable_reset keeps h
  | resetMode => exact attainable_reset keeps h
  | count => exact PluginSet.attainable_deliverClock keeps _ _ _ h
  | drivePin pin floating high => exact h.drive pin floating high
  | _ => exact h

lemma attainable_apply (keeps : KeepsToInterface τ π) (h : chip.hub.external.Attainable)
    (operation : Operation π) : (chip.apply operation).hub.external.Attainable :=
  apply_preserves (P := (·.hub.external.Attainable))
    (fun _ _ action h => attainable_action keeps action h) (fun _ _ h => attainable_reset keeps h)
    (fun _ _ h => h) h operation

/-! ## What the cogs read -/

lemma readsPins_notifyPins (chip : Chip τ π) : chip.notifyPins.hub.ReadsPins := by
  rw [notifyPins_eq]
  split <;> rfl

/-- A reset reads the pins when no outputs are left. -/
lemma readsPins_reset (chip : Chip τ π) : chip.reset.hub.ReadsPins := by
  have booted {chip : Chip τ π} (h : chip.hub.ReadsPins) : chip.booted.hub.ReadsPins := h
  rw [reset_eq]
  exact booted chip.emptied.readsPins_notifyPins

lemma readsPins_step (chip : Chip τ π) : chip.step.2.hub.ReadsPins := by
  rw [step_eq]
  exact readsPins_notifyPins _

omit [Timebase τ] [Plugin τ π] in
/-- Changing a cog is not yet reading the pins. -/
lemma hub_changeCog (chip : Chip τ π) (id : Nat) (change : Cog τ → Cog τ) :
    (chip.changeCog id change).2.hub = chip.hub := by
  rw [changeCog]
  split
  · next within =>
    rw [takeCog_eq]
    cases chip.cogs.get ⟨id, within⟩ <;> rfl
  · rfl

/-- Every operation leaves the cogs with what is on the pins. -/
lemma readsPins_apply (h : chip.hub.ReadsPins) (operation : Operation π) :
    (chip.apply operation).hub.ReadsPins := by
  cases operation with
  | load image =>
    rcases chip.apply_load image with same | started
    · rw [same]
      exact h
    · rw [started]
      exact readsPins_reset _
  | reset =>
    rw [apply]
    exact chip.readsPins_reset
  | step =>
    rw [apply]
    exact chip.readsPins_step
  | stepInstruction cog =>
    rw [apply]
    exact stepInstruction_preserves (P := (·.hub.ReadsPins))
      (fun chip _ => chip.readsPins_step) h cog
  | setClockMode mode =>
    rw [apply, setClockMode]
    split
    · exact readsPins_reset _
    · exact h
  | drivePin => rfl
  | setBreakpoint cog =>
    rw [apply, setBreakpoint, hub_changeCog]
    exact h
  | writeRegister cog index value =>
    rcases chip.apply_writeRegister cog index value with same | ⟨other, -, written⟩
    · rw [same]
      exact h
    · rw [written, hub_changeCog]
      exact h
  | _ => exact h

/-! ## Coherence -/

/-- **The pins are coherent after every operation**, whatever the plugins drive: no pin is left
alone and high as well, the cogs read what is on the pins, and that is what is seen from outside.
At the end of a step the outputs are those of the cogs. -/
theorem coherent_run (keeps : KeepsToInterface τ π) (memory : Memory)
    (operations : List (Operation π)) :
    let chip : Chip τ π := (switchedOn memory).run operations
    chip.hub.Coherent ∧ chip.step.2.PutsOut := by
  intro chip
  have undriven : (0 : UInt64) = (0 &&& 0) ||| (0 &&& ~~~ 0) := by decide
  have first : (switchedOn memory : Chip τ π).hub.external.Attainable
      ∧ (switchedOn memory : Chip τ π).hub.ReadsPins := ⟨.none, undriven⟩
  have last : chip.hub.external.Attainable ∧ chip.hub.ReadsPins :=
    run_preserves (P := fun chip => chip.hub.external.Attainable ∧ chip.hub.ReadsPins)
      (fun _ operation h => ⟨attainable_apply keeps h.1 operation, readsPins_apply h.2 operation⟩)
      operations first
  refine ⟨Hub.coherent_of_attainable last.1 last.2, ?_⟩
  rw [step_eq]
  exact putsOut_notifyPins _

/-- A plugin that hears of the pins, and a pin that is driven high. -/
theorem coherent_wired :
    let chip : Chip Rat Wire := (switchedOn blankMemory).run
      [.attach ⟨0, 1⟩, .subscribePins ⟨0⟩, .drivePin 0 false true]
    KeepsToInterface Rat Wire ∧ chip.hub.input = 1 ∧ chip.hub.Coherent ∧ chip.step.2.PutsOut :=
  ⟨drivesOnly_wire.keepsToInterface, rfl,
    coherent_run drivesOnly_wire.keepsToInterface blankMemory _⟩

end P1Chip.Chip
