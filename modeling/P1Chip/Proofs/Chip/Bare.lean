import P1Chip.Proofs.Chip.Operation
import P1Chip.Proofs.Chip.Parts

/-!
# Chips without plugins

Where no plugin is attached nobody has to be told, and the parts of a chip that call plugins come
down to what they do to the hub.  Then it can be said in one definition what a reset makes of a
chip, and what is left there of the chip as it was before: the memory that resets bring back, the
clock mode, the crystal, and what drives the pins from outside.

* `Chip.Bare` — no plugin is attached.
* `Chip.Bare.notifyPins`, `Chip.Bare.countClock` — telling the plugins, of which there are none.
* `Chip.started` — a chip whose program has just been started, field by field.
* **`Chip.Bare.reset`**, **`Chip.Bare.load`** — this is what resetting and loading give.
-/

namespace P1Chip

variable {τ π : Type}

namespace PluginSet

variable [Plugin τ π] {set : PluginSet π}

lemma deliverClock_of_isEmpty (none : set.isEmpty) (time : τ) (counter : UInt32)
    (external : ExternalDrive) : set.deliverClock time counter external = (set, external) := by
  rcases set with ⟨nextId, _ | _, printed⟩
  · simp [deliverClock, deliver]
  · cases none

lemma deliverPins_of_isEmpty (none : set.isEmpty) (time : τ) (pins : PinStates)
    (external : ExternalDrive) : set.deliverPins time pins external = (set, external) := by
  rcases set with ⟨nextId, _ | _, printed⟩
  · simp [deliverPins, deliver]
  · cases none

lemma deliverReset_of_isEmpty (none : set.isEmpty) : set.deliverReset τ = set := by
  rcases set with ⟨nextId, _ | _, printed⟩
  · simp [deliverReset]
  · cases none

end PluginSet

namespace Chip

/-- No plugin is attached. -/
def Bare (chip : Chip τ π) : Prop :=
  chip.plugins.isEmpty

instance (chip : Chip τ π) : Decidable chip.Bare :=
  inferInstanceAs (Decidable (_ = true))

variable [Timebase τ]

section Started

variable (memory : Memory) (mode : ClockMode) (crystal : UInt32) (floating high : UInt64)
  (plugins : PluginSet π) (frameBreak : FrameBreak)

/-- A chip whose program has just been started: `memory` is what resets bring back, `mode` the
clock mode that was asked for, and `floating` and `high` are the pins that are driven from
outside. -/
def started : Chip τ π :=
  let clockMode := mode.withoutReset
  let coreFrequency := clockMode.coreFrequency crystal
  let frame := memory.header.frame
  let hub : Hub :=
    { Hub.new memory.withBootFrame with
      clockMode
      coreFrequency
      crystalFrequency := crystal
      external := { floating, high, changed := false }
      running := 1 }
  let cog : Cog τ := .new 0 .interpreted interpreterEntry frame coreFrequency
  { hub := hub.refreshInput
    cogs := .ofFn fun id => if id.val = 0 then some cog else none
    oscillator := Oscillator.stopped.setFrequency coreFrequency
    time := Timebase.ofNat 0
    resetMemory := memory
    plugins
    frameBreak }

/-- The reset bit of the mode makes no difference. -/
lemma started_withoutReset :
    (started memory mode.withoutReset crystal floating high plugins frameBreak : Chip τ π)
      = started memory mode crystal floating high plugins frameBreak := by
  have idem : mode.withoutReset.withoutReset = mode.withoutReset := by
    simp only [ClockMode.withoutReset, UInt8.and_assoc, UInt8.and_self]
  simp only [started, idem]

/-- The chip after a reset has taken everything away; the system clock is still the one from
before. -/
def idle (coreFrequency : UInt32) : Chip τ π :=
  let hub : Hub :=
    { Hub.new memory with
      clockMode := mode
      coreFrequency
      crystalFrequency := crystal
      external := { floating, high, changed := false } }
  { hub := hub.refreshInput
    cogs := emptySlots
    oscillator := .stopped
    time := Timebase.ofNat 0
    resetMemory := memory
    plugins
    frameBreak }

/-- Then the first cog starts. -/
lemma booted_idle (coreFrequency : UInt32) :
    (idle memory mode crystal floating high plugins frameBreak coreFrequency : Chip τ π).booted
      = started memory mode crystal floating high plugins frameBreak := by
  -- no cog is there that could hear of the new clock mode
  have empty (change : Cog τ → Cog τ) : emptySlots.map (Option.map change) = emptySlots := by
    rw [emptySlots, Vector.map_replicate, Option.map_none]
  have first : BitSet8.put 0 0 true = 1 := by decide
  have alone (cog : Cog τ) : emptySlots.set 0 (some cog)
      = .ofFn fun id : Fin 8 => if id.val = 0 then some cog else none := by
    ext1 id within
    rw [Vector.getElem_set, Vector.getElem_ofFn, emptySlots, Vector.getElem_replicate]
    simp only [eq_comm]
  rw [started, ← first]
  simp only [← alone, booted, applyClockMode, mapCogs, idle, Hub.refreshInput, Hub.setClockMode,
    empty]
  rfl

end Started

namespace Bare

variable [Plugin τ π] {chip : Chip τ π}

omit [Timebase τ] in
lemma tell (bare : chip.Bare) : chip.tell = { chip with hub := chip.hub.refreshInput } := by
  simp only [Chip.tell, PluginSet.deliverPins_of_isEmpty bare]

/-- The pins are refreshed, and that is all. -/
lemma notifyPins (bare : chip.Bare) : chip.notifyPins = chip.refreshPins.2 := by
  have refreshed : chip.refreshPins.2.Bare := bare
  rw [notifyPins_eq, refreshed.tell]
  split <;> rfl

omit [Timebase τ] in
lemma countClock (bare : chip.Bare) :
    chip.countClock = { chip with hub := chip.hub.incrementCounter } := by
  simp only [Chip.countClock, PluginSet.deliverClock_of_isEmpty bare]

lemma emptied (bare : chip.Bare) : chip.emptied.plugins = chip.plugins :=
  PluginSet.deliverReset_of_isEmpty bare

/-- **What a reset leaves** of a chip. -/
theorem reset (bare : chip.Bare) :
    chip.reset = started chip.resetMemory chip.hub.clockMode chip.hub.crystalFrequency
      chip.hub.external.floating chip.hub.external.high chip.plugins chip.frameBreak := by
  have none : chip.emptied.Bare := by
    rw [Bare, bare.emptied]
    exact bare
  have silent : chip.emptied.notifyPins =
      idle chip.resetMemory chip.hub.clockMode chip.hub.crystalFrequency
        chip.hub.external.floating chip.hub.external.high chip.plugins chip.frameBreak
        chip.hub.coreFrequency := by
    rw [none.notifyPins]
    simp only [refreshPins, bare.emptied]
    rfl
  rw [reset_eq, silent, booted_idle]

/-- **What loading a program leaves** of a chip. -/
theorem load (bare : chip.Bare) {image : ByteArray} (nonempty : 0 < image.size)
    (fits : image.size ≤ halfSize) :
    let header := ImageHeader.ofImage image
    chip.load image = .ok
      (started (chip.hub.memory.programmed image) header.clockMode
        (header.crystal?.getD chip.hub.crystalFrequency) chip.hub.external.floating
        chip.hub.external.high chip.plugins chip.frameBreak) := by
  have bareLoaded : (chip.loaded image).Bare := bare
  rw [load_eq chip nonempty fits, bareLoaded.reset]
  rfl

/-- A program that was loaded had an image of a size that fits. -/
lemma of_load (bare : chip.Bare) {image : ByteArray} {loaded : Chip τ π}
    (ok : chip.load image = .ok loaded) :
    let header := ImageHeader.ofImage image
    loaded = started (chip.hub.memory.programmed image) header.clockMode
      (header.crystal?.getD chip.hub.crystalFrequency) chip.hub.external.floating
      chip.hub.external.high chip.plugins chip.frameBreak := by
  have nonempty : image.size ≠ 0 := by
    intro empty
    rw [Chip.load, if_pos empty] at ok
    cases ok
  have fits : ¬ image.size > halfSize := by
    intro large
    rw [Chip.load, if_neg nonempty, if_pos large] at ok
    cases ok
  rw [bare.load (Nat.pos_of_ne_zero nonempty) (Nat.le_of_not_gt fits)] at ok
  exact (Except.ok.inj ok).symm

/-- The upper half of memory outlasts every program. -/
lemma rom_load (bare : chip.Bare) {image : ByteArray} {loaded : Chip τ π}
    (ok : chip.load image = .ok loaded) : loaded.hub.memory.rom = chip.hub.memory.rom := by
  rw [bare.of_load ok]
  exact (Memory.rom_withBootFrame _).trans (Memory.rom_programmed ..)

end Bare

end Chip

end P1Chip
