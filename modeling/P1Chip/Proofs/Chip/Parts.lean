import Mathlib.Logic.Basic
import P1Chip.Chip.Step

/-!
# Parts of resets and steps

A reset empties the chip, tells the plugins, and starts the first cog.  A step passes the time,
gives the cogs their clock and one of them its turn, and then tells the plugins, of the pins and
of the clock.  These are the parts about which something can be said.

* `Chip.emptied`, `Chip.booted` — the parts of a reset.
* `Chip.stepSlots` — the part of a step in which the cogs run.
* `Chip.tell` — the plugins are told.
* `Chip.stepInstruction_preserves` — whole instructions are many steps.
-/

namespace P1Chip.Chip

variable {τ π : Type}

/-! ## Slots -/

/-- What is taken from a slot is what stands in it. -/
lemma takeCog_eq (chip : Chip τ π) (id : Fin 8) :
    chip.takeCog id = (chip.cogs.get id, (chip.takeCog id).2) :=
  rfl

/-- A slot that is filled does not concern the others. -/
lemma get_putCog (chip : Chip τ π) (id n : Fin 8) (cog : Cog τ) :
    (chip.putCog id cog).cogs.get n = if n = id then some cog else chip.cogs.get n := by
  show (chip.cogs.set id (some cog))[n.val] = if n = id then some cog else chip.cogs[n.val]
  rw [Vector.getElem_set]
  simp only [Fin.ext_iff, eq_comm]

/-- Neither does one that is emptied. -/
lemma get_takeCog (chip : Chip τ π) (id n : Fin 8) :
    (chip.takeCog id).2.cogs.get n = if n = id then none else chip.cogs.get n := by
  show (chip.cogs.set id none)[n.val] = if n = id then none else chip.cogs[n.val]
  rw [Vector.getElem_set]
  simp only [Fin.ext_iff, eq_comm]

lemma get_mapCogs (chip : Chip τ π) (change : Cog τ → Cog τ) (n : Fin 8) :
    (chip.mapCogs change).cogs.get n = (chip.cogs.get n).map change := by
  show (chip.cogs.map (Option.map change))[n.val] = (chip.cogs[n.val]).map change
  rw [Vector.getElem_map]

/-- Nothing is taken from an empty slot. -/
lemma takeCog_of_none {chip : Chip τ π} {id : Fin 8} (there : chip.cogs.get id = none) :
    (chip.takeCog id).2 = chip := by
  have same : chip.cogs.set id none = chip.cogs := by
    rw [← there]
    exact Vector.set_getElem_self id.isLt
  exact congrArg (fun cogs => { chip with cogs }) same

/-- A cog that is taken out only to be put back is changed in its slot. -/
lemma putCog_takeCog (chip : Chip τ π) (id : Fin 8) (cog : Cog τ) :
    (chip.takeCog id).2.putCog id cog = chip.putCog id cog :=
  congrArg (fun cogs => { chip with cogs }) (Vector.set_set ..)

/-- Of two cogs that are put into a slot, the second one stays. -/
lemma putCog_putCog (chip : Chip τ π) (id : Fin 8) (first second : Cog τ) :
    (chip.putCog id first).putCog id second = chip.putCog id second :=
  congrArg (fun cogs => { chip with cogs }) (Vector.set_set ..)

/-- Two slots can be filled in either order. -/
lemma putCog_comm (chip : Chip τ π) {id other : Fin 8} (apart : other ≠ id) (cog cog' : Cog τ) :
    (chip.putCog id cog).putCog other cog' = (chip.putCog other cog').putCog id cog :=
  congrArg (fun cogs => { chip with cogs })
    (Vector.set_comm _ _ fun same => apart (Fin.ext same.symm))

/-! ## Time -/

section Clocks

variable [Timebase τ]

/-- The chip when some time has passed. -/
def later (chip : Chip τ π) (elapsed : τ) : Chip τ π :=
  { chip with time := chip.time + elapsed }

/-- The chip when the system oscillator and the loops of some cogs have gone on. -/
def advanceAll (chip : Chip τ π) (elapsed : τ) (slots : List (Fin 8)) : Chip τ π :=
  slots.foldl (fun chip id => chip.advanceCog elapsed id)
    { chip with oscillator := (chip.oscillator.advance elapsed).2 }

lemma passTime_eq (chip : Chip τ π) (elapsed : τ) :
    chip.passTime elapsed = (chip.advanceAll elapsed slots).later elapsed :=
  rfl

/-- What survives the oscillator and every cog survives all of them. -/
lemma advanceAll_preserves {P : Chip τ π → Prop} {elapsed : τ}
    (survives : ∀ chip id, P chip → P (chip.advanceCog elapsed id)) {chip : Chip τ π}
    (h : P { chip with oscillator := (chip.oscillator.advance elapsed).2 })
    (slots : List (Fin 8)) : P (chip.advanceAll elapsed slots) := by
  rw [advanceAll]
  generalize ({ chip with oscillator := (chip.oscillator.advance elapsed).2 } : Chip τ π) = start
    at h ⊢
  induction slots generalizing start with
  | nil => exact h
  | cons id slots ih => exact ih (start.advanceCog elapsed id) (survives start id h)

end Clocks

/-! ## Telling the plugins -/

section Plugins

variable [Plugin τ π]

/-- The plugins are told what the pins are. -/
def tell (chip : Chip τ π) : Chip τ π :=
  let told := chip.plugins.deliverPins chip.time chip.hub.pinStates chip.hub.external
  { chip with plugins := told.1, hub := { chip.hub with external := told.2 }.refreshInput }

end Plugins

variable [Timebase τ] [Plugin τ π]

/-- The plugins are told if there is something to tell. -/
lemma notifyPins_eq (chip : Chip τ π) :
    chip.notifyPins = if chip.refreshPins.1 then chip.refreshPins.2.tell else chip.refreshPins.2 :=
  rfl

/-! ## Resets -/

/-- The chip at the start of a reset: no cog is left, and no output. -/
def emptied (chip : Chip τ π) : Chip τ π :=
  { chip with
    hub := { chip.hub with memory := chip.resetMemory }.reset
    time := Timebase.ofNat 0
    cogs := emptySlots
    oscillator := .stopped
    plugins := chip.plugins.deliverReset τ }

/-- The chip after the program's first frame was built and the first cog started. -/
def booted (chip : Chip τ π) : Chip τ π :=
  let chip := chip.applyClockMode chip.hub.clockMode.withoutReset
  let header := chip.hub.memory.header
  let frame := header.bootFrame.toUInt32
  let hub := chip.hub.withMemory fun memory =>
    (((memory.writeWord (frame - 8) header.objectBase).writeWord
      (frame - 6) header.variableBase).writeWord
      (frame - 4) header.programCounter).writeWord
      (frame - 2) header.stackPointer
  { chip with hub }.startCog 0 .interpreted interpreterEntry frame

lemma reset_eq (chip : Chip τ π) : chip.reset = chip.emptied.notifyPins.booted :=
  rfl

/-! ## Steps -/

/-- The chip in a step, after its cogs have had their clock and one of them its turn. -/
def stepSlots (chip : Chip τ π) : Chip τ π :=
  let stepped := (stepCogs slots { chip with hub := chip.hub.advanceRing.2 }).2
  chip.hub.advanceRing.1.elim stepped stepped.hubTurn

lemma step_eq (chip : Chip τ π) :
    chip.step.2 = chip.advanceClocks.stepSlots.notifyPins.countClock.notifyPins := by
  simp only [step, stepSlots]
  cases chip.advanceClocks.hub.advanceRing.1 with
  | none => simp only [Option.elim_none]
  | some id => simp only [Option.elim_some]

/-- What survives the turn of any cog survives that of the one whose turn it is, if there is one. -/
lemma stepSlots_preserves {P : Chip τ π → Prop}
    (survives : ∀ chip id, P chip → P (chip.hubTurn id)) {chip : Chip τ π}
    (stepped : P (stepCogs slots { chip with hub := chip.hub.advanceRing.2 }).2) :
    P chip.stepSlots := by
  rw [stepSlots]
  cases chip.hub.advanceRing.1 with
  | none =>
    rw [Option.elim_none]
    exact stepped
  | some id =>
    rw [Option.elim_some]
    exact survives _ id stepped

/-- What survives every system clock survives whole instructions. -/
lemma stepInstruction_preserves {P : Chip τ π → Prop} (survives : ∀ chip, P chip → P chip.step.2)
    {chip : Chip τ π} (h : P chip) (id : Nat) : P (chip.stepInstruction id).2 := by
  have steps : ∀ (limit : Nat) (chip : Chip τ π), P chip → P (stepWhileBusy id limit chip).2 := by
    intro limit
    induction limit with
    | zero => exact fun _ h => h
    | succ limit ih =>
      intro chip h
      have stepped := survives chip h
      simp only [stepWhileBusy]
      revert stepped
      rcases chip.step with ⟨⟨_⟩ | ⟨_ | _⟩, after⟩ <;> intro stepped
      · exact stepped
      · exact stepped
      · dsimp only
        split
        · exact ih after stepped
        · exact stepped
  exact steps instructionLimit chip h

end P1Chip.Chip
