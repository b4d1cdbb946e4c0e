import Mathlib.Logic.Basic
import P1Chip.Chip.Step
import P1Chip.Proofs.Memory.Program

/-!
# Everything that can be done with a chip

A chip is switched on, and from then on changes only by what its user does: loading programs,
stepping, driving pins, attaching plugins, and looking into memory and registers.  What holds of
every chip holds after every list of such operations.

* `Operation` — one thing that a user does.
* `Chip.apply`, `Chip.run` — doing one, and doing many.
* `Chip.apply_load`, `Chip.apply_writeRegister` — what is refused, and what is done otherwise.
* **`Chip.run_preserves`** — what every operation preserves holds all the time.
-/

namespace P1Chip

/-- One thing that the user of a chip does.  `π` is the type of plugins. -/
inductive Operation (π : Type) where
  /-- A program is loaded and started, if its image has a size that fits. -/
  | load (image : ByteArray)
  | reset
  | step
  | stepInstruction (cog : Nat)
  | setClockMode (mode : ClockMode)
  | drivePin (pin : UInt32) (floating high : Bool)
  | setFrameBreak (frameBreak : FrameBreak)
  | setBreakpoint (cog : Nat) (breakpoint? : Option UInt32)
  /-- A register of a cog is written, if there is such a register. -/
  | writeRegister (cog index : Nat) (value : UInt32)
  | writeMemory (size : DataSize) (address value : UInt32)
  | attach (plugin : π)
  | remove (id : PluginId)
  | subscribeClock (id : PluginId)
  | subscribePins (id : PluginId)

/-- Whether an operation leaves it alone which plugins there are and what they asked for.  Whole
instructions are left out too, because they are many steps. -/
def Operation.isOfRun {π : Type} : Operation π → Bool
  | .stepInstruction _ | .attach _ | .remove _ | .subscribeClock _ | .subscribePins _ => false
  | _ => true

namespace Chip

/-- A memory without any program. -/
def blankMemory : Memory where
  ram := .replicate halfSize 0
  rom := .replicate halfSize 0

variable {τ π : Type}

/-- The chip with other plugins. -/
def withPlugins (chip : Chip τ π) (change : PluginSet π → PluginSet π) : Chip τ π :=
  { chip with plugins := change chip.plugins }

variable [Timebase τ] [Plugin τ π]

/-- The chip after one operation.  What is refused changes nothing. -/
def apply (chip : Chip τ π) : Operation π → Chip τ π
  | .load image => (chip.load image).toOption.getD chip
  | .reset => chip.reset
  | .step => chip.step.2
  | .stepInstruction cog => (chip.stepInstruction cog).2
  | .setClockMode mode => chip.setClockMode mode
  | .drivePin pin floating high => chip.drivePin pin floating high
  | .setFrameBreak frameBreak => { chip with frameBreak }
  | .setBreakpoint cog breakpoint? => (chip.setBreakpoint cog breakpoint?).2
  | .writeRegister cog index value =>
    match chip.writeRegister cog index value with
    | .ok (_, chip) => chip
    | .error _ => chip
  | .writeMemory size address value => chip.withMemory (·.write size address value)
  | .attach plugin => chip.withPlugins fun plugins => (plugins.attach plugin).2
  | .remove id => chip.withPlugins fun plugins => (plugins.remove τ id).2
  | .subscribeClock id => chip.withPlugins fun plugins => (plugins.subscribeClock id).2
  | .subscribePins id => chip.withPlugins fun plugins => (plugins.subscribePins id).2

/-- The chip with a program in its memories, before that is started. -/
def loaded (chip : Chip τ π) (image : ByteArray) : Chip τ π :=
  let header := ImageHeader.ofImage image
  let crystalFrequency := header.crystal?.getD chip.hub.crystalFrequency
  let hub := { chip.hub with crystalFrequency }.setClockMode header.clockMode
  let memory := chip.hub.memory.programmed image
  { chip with hub := { hub with memory }, resetMemory := memory }

/-- Loading a program is a reset with that program. -/
lemma load_eq (chip : Chip τ π) {image : ByteArray} (nonempty : 0 < image.size)
    (fits : image.size ≤ halfSize) : chip.load image = .ok (chip.loaded image).reset := by
  simp only [load, if_neg (Nat.ne_of_gt nonempty), if_neg (Nat.not_lt.mpr fits)]
  rfl

/-- Unless it is refused. -/
lemma apply_load (chip : Chip τ π) (image : ByteArray) :
    chip.apply (.load image) = chip ∨ chip.apply (.load image) = (chip.loaded image).reset := by
  simp only [apply, load]
  split
  · exact .inl rfl
  · split
    · exact .inl rfl
    · exact .inr rfl

/-- Writing a register changes the cog that has it, unless it is refused. -/
lemma apply_writeRegister (chip : Chip τ π) (id index : Nat) (value : UInt32) :
    chip.apply (.writeRegister id index value) = chip ∨
      ∃ cog, chip.cog? id = some cog ∧
        chip.apply (.writeRegister id index value) = (chip.changeCog id fun _ =>
          { cog with
            body := cog.body.writeRegister chip.hub.running (UInt32.ofNat index) value }).2 := by
  simp only [apply, writeRegister, Cog.writeRegister]
  cases chip.cog? id with
  | none => exact .inl rfl
  | some cog =>
    by_cases register : index < cogLongs
    · simp only [register, if_true]
      exact .inr ⟨cog, rfl, rfl⟩
    · simp only [register, if_false]
      exact .inl rfl

/-- The chip after a list of operations. -/
def run (operations : List (Operation π)) (chip : Chip τ π) : Chip τ π :=
  operations.foldl apply chip

lemma run_concat (chip : Chip τ π) (operations : List (Operation π)) (last : Operation π) :
    chip.run (operations ++ [last]) = (chip.run operations).apply last := by
  rw [run, List.foldl_append]
  rfl

/-- **What holds at first and survives every operation** holds after all of them. -/
theorem run_preserves {P : Chip τ π → Prop} (survives : ∀ chip operation, P chip →
    P (chip.apply operation)) (operations : List (Operation π)) {chip : Chip τ π} (h : P chip) :
    P (chip.run operations) := by
  induction operations generalizing chip with
  | nil => exact h
  | cons operation operations ih => exact ih (survives chip operation h)

end Chip

end P1Chip
