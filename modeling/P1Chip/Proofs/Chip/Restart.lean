import P1Chip.Proofs.Chip.Action
import P1Chip.Proofs.Chip.Bare

/-!
# Starting over

A chip is never as it was when it was switched on: a program has run, locks were taken, cogs were
started, and the user has looked around.  A reset does away with all of that, and so does another
program that is loaded.  What can still be told afterwards is what stands outside of the program:
the clock mode, how the pins are driven from outside, and which video frames stop the chip.

There is one thing that loading does not always make new.  A header names its crystal only if its
clock mode needs one; for any other program the chip keeps the crystal that it knew of before.  With
an internal oscillator nothing depends on that as long as the mode lasts, but it can be asked for.

* `Chip.Keeps` — what no run of a program changes.
* **`Chip.Bare.keeps_actions`** — runs are made of actions, and no action changes it.
* **`Chip.reset_forgets`** — a reset does not depend on the run before it.
* `Chip.AlikeButClock` — two chips differ in their system clock at most.
* **`Chip.load_forgets`** — loading does not depend on what the chip did before, but for the
  crystal.
-/

namespace P1Chip

/-- The same pins are driven from outside, to the same levels. -/
def ExternalDrive.SameDrive (first second : ExternalDrive) : Prop :=
  first.floating = second.floating ∧ first.high = second.high

instance (first second : ExternalDrive) : Decidable (first.SameDrive second) :=
  inferInstanceAs (Decidable (_ ∧ _))

/-! ## Internal oscillators -/

namespace ClockMode

variable (mode : ClockMode)

/-- The reset bit is not part of the source. -/
lemma source_withoutReset : mode.withoutReset.source = mode.source := by
  apply Fin.ext
  show (mode.bits &&& 0x7F).toNat % 8 = mode.bits.toNat % 8
  rw [UInt8.toNat_and, show (0x7F : UInt8).toNat = 2 ^ 7 - 1 from rfl,
    Nat.and_two_pow_sub_one_eq_mod]
  omega

variable {mode}

/-- An internal oscillator makes the same system clock with every crystal. -/
lemma coreFrequency_of_internal (internal : mode.source.val ≤ 1) (crystal other : UInt32) :
    mode.coreFrequency crystal = mode.coreFrequency other := by
  have source : mode.source.val = 0 ∨ mode.source.val = 1 := by omega
  rcases source with source | source <;> simp only [coreFrequency, source]

/-- It needs none. -/
lemma crystalFrequency?_of_internal (internal : mode.source.val ≤ 1) (core : UInt32) :
    mode.crystalFrequency? core = none := by
  have source : mode.source.val = 0 ∨ mode.source.val = 1 := by omega
  rcases source with source | source <;> simp only [crystalFrequency?, source, ite_self]

end ClockMode

variable {τ π : Type} [Timebase τ]

/-- The cog with its phase-locked loops switched off. -/
def Cog.withoutLoops (cog : Cog τ) : Cog τ :=
  { cog with body := { cog.body with plls := .off } }

namespace Chip

/-! ## Runs -/

/-- Nothing has changed of what a program is started from: the memory that resets bring back, the
crystal and the plugins. -/
structure Keeps (before after : Chip τ π) : Prop where
  resetMemory : after.resetMemory = before.resetMemory
  crystal : after.hub.crystalFrequency = before.hub.crystalFrequency
  plugins : after.plugins = before.plugins

omit [Timebase τ] in
lemma Keeps.refl (chip : Chip τ π) : chip.Keeps chip :=
  ⟨rfl, rfl, rfl⟩

omit [Timebase τ] in
lemma Keeps.trans {first second third : Chip τ π} (h : first.Keeps second)
    (h' : second.Keeps third) : first.Keeps third :=
  ⟨h'.resetMemory.trans h.resetMemory, h'.crystal.trans h.crystal, h'.plugins.trans h.plugins⟩

omit [Timebase τ] in
lemma Keeps.bare {before after : Chip τ π} (h : before.Keeps after) (bare : before.Bare) :
    after.Bare := by
  rw [Bare, h.plugins]
  exact bare

omit [Timebase τ] in
/-- A hub that has served a cog has the crystal that it had. -/
lemma keeps_of_served {chip : Chip τ π} {hub : Hub} (served : chip.hub.Served hub)
    (id : Fin 8) (cog : Cog τ) : chip.Keeps ({ chip with hub }.putCog id cog) := by
  obtain ⟨_, _, _, _, _, rfl⟩ := served
  exact ⟨rfl, rfl, rfl⟩

variable [Plugin τ π]

lemma Bare.keeps_clockAction {before after : Chip τ π} (bare : before.Bare)
    (action : ClockAction before after) : before.Keeps after := by
  cases action with
  | tell =>
    rw [bare.tell]
    exact ⟨rfl, rfl, rfl⟩
  | _ => exact ⟨rfl, rfl, rfl⟩

lemma Bare.keeps_reset {chip : Chip τ π} (bare : chip.Bare) : chip.Keeps chip.reset := by
  rw [bare.reset]
  exact ⟨rfl, rfl, rfl⟩

/-- **No action changes** what a program is started from. -/
theorem Bare.keeps_action {before after : Chip τ π} (bare : before.Bare)
    (action : Action before after) : before.Keeps after := by
  cases action with
  | clock action => exact bare.keeps_clockAction action
  | cogStep =>
    exact keeps_of_served (Cog.actions_step _ before.hub before.frameBreak).served _ _
  | turn => exact keeps_of_served (Cog.actions_hubAccess _ before.hub).served _ _
  | reset => exact bare.keeps_reset
  | resetMode mode =>
    have renewed : ({ before with hub := before.hub.setClockMode mode } : Chip τ π).Bare := bare
    exact ⟨renewed.keeps_reset.resetMemory, renewed.keeps_reset.crystal,
      renewed.keeps_reset.plugins⟩
  | count =>
    rw [bare.countClock]
    exact ⟨rfl, rfl, rfl⟩
  | _ => exact ⟨rfl, rfl, rfl⟩

/-- Neither does any number of them. -/
theorem Bare.keeps_actions {before after : Chip τ π} (bare : before.Bare)
    (actions : Actions before after) : before.Keeps after := by
  refine actions.preserves (P := before.Keeps) (fun _ _ action keeps => ?_) (.refl before)
  exact keeps.trans ((keeps.bare bare).keeps_action action)

/-! ## Resets -/

/-- After a run a reset starts the program that was loaded, with the clock mode and the pins of
the moment. -/
lemma Bare.reset_run {chip : Chip τ π} (bare : chip.Bare) {operations : List (Operation π)}
    (keep : ∀ operation ∈ operations, operation.keepsProgram) :
    let hub := (chip.run operations).hub
    (chip.run operations).reset =
      started chip.resetMemory hub.clockMode chip.hub.crystalFrequency hub.external.floating
        hub.external.high chip.plugins (chip.run operations).frameBreak := by
  have kept := bare.keeps_actions (actions_run operations chip keep)
  have run := (kept.bare bare).reset
  rwa [kept.resetMemory, kept.crystal, kept.plugins] at run

/-- **A reset forgets the run before it.**  Two runs of the same program that leave the same clock
mode and are driven alike come to the same chip, apart from the frame ends that stop it, which
are for the user to say; and if mode and drive are those from the beginning, then it is the chip
right after loading. -/
theorem reset_forgets {chip loaded : Chip τ π} (bare : chip.Bare) {image : ByteArray}
    (ok : chip.load image = .ok loaded) {first second : List (Operation π)}
    (keepFirst : ∀ operation ∈ first, operation.keepsProgram)
    (keepSecond : ∀ operation ∈ second, operation.keepsProgram)
    (mode : (loaded.run first).hub.clockMode = (loaded.run second).hub.clockMode)
    (drive : (loaded.run first).hub.external.SameDrive (loaded.run second).hub.external) :
    let frameBreak := (loaded.run first).frameBreak
    (loaded.run first).reset = { (loaded.run second).reset with frameBreak } ∧
      ((loaded.run first).hub.clockMode = loaded.hub.clockMode →
        (loaded.run first).hub.external.SameDrive loaded.hub.external →
        (loaded.run first).reset = { loaded with frameBreak }) := by
  have start := bare.of_load ok
  have bareLoaded : loaded.Bare := by
    rw [start]
    exact bare
  have resetFirst := bareLoaded.reset_run keepFirst
  have resetSecond := bareLoaded.reset_run keepSecond
  constructor
  · rw [resetFirst, resetSecond, mode, drive.1, drive.2]
    rfl
  · intro sameMode sameDrive
    rw [resetFirst, sameMode, sameDrive.1, sameDrive.2, start]
    exact started_withoutReset ..

/-- A program for the fast internal oscillator, which is a header and nothing else. -/
def internalProgram : ByteArray :=
  ⟨#[0x00, 0x1B, 0xB7, 0x00, 0x00, 0, 0, 0, 0, 0, 0x20, 0, 0, 0, 0, 0]⟩

/-- A chip with that program. -/
def internalChip : Chip Rat Empty :=
  (switchedOn blankMemory).apply (.load internalProgram)

/-- One of these runs changes memory, steps, and turns to the slow internal oscillator and back;
the other one only lets the chip stop at the ends of video frames. -/
theorem reset_forgets_steps :
    let first : List (Operation Empty) :=
      [.writeMemory .long 64 1, .step, .setClockMode ⟨1⟩, .setClockMode ⟨0⟩]
    let second : List (Operation Empty) := [.setFrameBreak .hit]
    (internalChip.run first).reset
        = { (internalChip.run second).reset with frameBreak := (internalChip.run first).frameBreak } ∧
      (internalChip.run first).reset
        = { internalChip with frameBreak := (internalChip.run first).frameBreak } := by
  intro first second
  have bare : (switchedOn blankMemory : Chip Rat Empty).Bare := rfl
  have ok : (switchedOn blankMemory).load internalProgram = .ok internalChip := by
    rw [internalChip, apply, bare.load (by decide) (by decide)]
    rfl
  have keepFirst : ∀ operation ∈ first, operation.keepsProgram := by decide
  have keepSecond : ∀ operation ∈ second, operation.keepsProgram := by decide
  have forgets := reset_forgets bare ok keepFirst keepSecond (by decide +kernel)
    (by decide +kernel)
  exact ⟨forgets.1, forgets.2 (by decide +kernel) (by decide +kernel)⟩

/-! ## Loading -/

/-- Two chips differ at most in their system clock and in the crystal that it is made from. -/
structure AlikeButClock (first second : Chip τ π) : Prop where
  hub : first.hub =
    { second.hub with
      crystalFrequency := first.hub.crystalFrequency
      coreFrequency := first.hub.coreFrequency }
  cogs : first.cogs.map (Option.map Cog.withoutLoops)
    = second.cogs.map (Option.map Cog.withoutLoops)
  time : first.time = second.time
  resetMemory : first.resetMemory = second.resetMemory
  frameBreak : first.frameBreak = second.frameBreak

section Started

variable {memory : Memory} {mode : ClockMode} {crystal other : UInt32} {floating high : UInt64}
  {plugins others : PluginSet π} {frameBreak : FrameBreak}

omit [Plugin τ π] in
lemma alikeButClock_started :
    (started memory mode crystal floating high plugins frameBreak : Chip τ π).AlikeButClock
      (started memory mode other floating high others frameBreak) where
  hub := rfl
  cogs := by
    simp only [started, Vector.map_ofFn, Function.comp_def, apply_ite]
    rfl
  time := rfl
  resetMemory := rfl
  frameBreak := rfl

omit [Plugin τ π] in
/-- With an internal oscillator nothing is made from the crystal. -/
lemma started_of_internal (internal : mode.source.val ≤ 1) :
    let second : Chip τ π := started memory mode other floating high others frameBreak
    started memory mode crystal floating high plugins frameBreak =
      { second with plugins, hub := { second.hub with crystalFrequency := crystal } } := by
  have same := mode.withoutReset.coreFrequency_of_internal
    (mode.source_withoutReset.symm ▸ internal) crystal other
  simp only [started, same]
  rfl

end Started

/-- **Loading forgets what the chip did before.**  Two chips that have the same upper half of
memory and are driven alike come to the same chip, if the header names its crystal or both knew of
the same one.  Otherwise each keeps the crystal that it knew of; with an internal oscillator that
is the only difference, and in any case only clocks can differ. -/
theorem load_forgets {first second : Chip τ π} (bareFirst : first.Bare)
    (bareSecond : second.Bare) (rom : first.hub.memory.rom = second.hub.memory.rom)
    (drive : first.hub.external.SameDrive second.hub.external)
    (frameBreak : first.frameBreak = second.frameBreak) {image : ByteArray}
    (nonempty : 0 < image.size) (fits : image.size ≤ halfSize) :
    let header := ImageHeader.ofImage image
    ∃ a b, first.load image = .ok a ∧ second.load image = .ok b ∧ a.AlikeButClock b ∧
      (header.crystal?.isSome ∨ first.hub.crystalFrequency = second.hub.crystalFrequency →
        a = { b with plugins := first.plugins }) ∧
      (header.clockMode.source.val ≤ 1 →
        a = { b with
          plugins := first.plugins
          hub := { b.hub with crystalFrequency := first.hub.crystalFrequency } }) := by
  intro header
  have same : first.hub.memory.programmed image = second.hub.memory.programmed image :=
    Memory.programmed_congr rom image
  have loadFirst := bareFirst.load nonempty fits
  have loadSecond := bareSecond.load nonempty fits
  rw [same, drive.1, drive.2, frameBreak] at loadFirst
  refine ⟨_, _, loadFirst, loadSecond, alikeButClock_started, ?_, ?_⟩
  · intro known
    have crystal : header.crystal?.getD first.hub.crystalFrequency
        = header.crystal?.getD second.hub.crystalFrequency := by
      rcases known with named | agreed
      · obtain ⟨crystal, named⟩ := Option.isSome_iff_exists.mp named
        rw [named, Option.getD_some, Option.getD_some]
      · rw [agreed]
    rw [crystal]
    rfl
  · intro internal
    have unnamed : header.crystal? = none := by
      rw [ImageHeader.crystal?, header.clockMode.crystalFrequency?_of_internal internal]
    rw [unnamed, Option.getD_none, Option.getD_none]
    exact started_of_internal internal

/-- A program for a crystal of five megahertz, which is a header and nothing else. -/
def crystalProgram : ByteArray :=
  ⟨#[0x00, 0xB4, 0xC4, 0x04, 0x6F, 0, 0, 0, 0, 0, 0x20, 0, 0, 0, 0, 0]⟩

/-- A chip with that program. -/
def crystalChip : Chip Rat Empty :=
  (switchedOn blankMemory).apply (.load crystalProgram)

lemma load_crystalProgram :
    (switchedOn blankMemory : Chip Rat Empty).load crystalProgram = .ok crystalChip := by
  have bare : (switchedOn blankMemory : Chip Rat Empty).Bare := rfl
  rw [crystalChip, apply, bare.load (by decide) (by decide)]
  rfl

/-- Loaded again, after it was run and its clock changed, a program gives the same chip. -/
theorem load_forgets_clockMode :
    let fresh : Chip Rat Empty := switchedOn blankMemory
    let used := crystalChip.run [.setClockMode ⟨1⟩]
    ∃ a b, fresh.load crystalProgram = .ok a ∧ used.load crystalProgram = .ok b ∧
      a = { b with plugins := fresh.plugins } := by
  intro fresh used
  have bare : fresh.Bare := rfl
  have bareUsed : used.Bare := by decide +kernel
  have memory (chip : Chip Rat Empty) :
      (chip.run [.setClockMode ⟨1⟩]).hub.memory = chip.hub.memory := rfl
  have rom : used.hub.memory.rom = fresh.hub.memory.rom := by
    rw [memory, bare.rom_load load_crystalProgram]
  have nonempty : 0 < crystalProgram.size := by decide
  obtain ⟨a, b, okFresh, okUsed, -, named, -⟩ :=
    load_forgets bare bareUsed rom.symm (by decide +kernel) (by decide +kernel) nonempty
      (by decide)
  exact ⟨a, b, okFresh, okUsed, named (.inl (by decide))⟩

/-- A program that names no crystal leaves the one that the program before it named. -/
theorem load_remembers_crystal :
    let fresh : Chip Rat Empty := switchedOn blankMemory
    fresh.Bare ∧ crystalChip.Bare ∧
      fresh.hub.memory.rom = crystalChip.hub.memory.rom ∧
      fresh.hub.external.SameDrive crystalChip.hub.external ∧
      fresh.frameBreak = crystalChip.frameBreak ∧
      0 < internalProgram.size ∧ internalProgram.size ≤ halfSize ∧
      ∃ a b, fresh.load internalProgram = .ok a ∧ crystalChip.load internalProgram = .ok b ∧
        a.hub.crystalFrequency = 0 ∧ b.hub.crystalFrequency = 5000000 := by
  intro fresh
  have bareFresh : fresh.Bare := rfl
  have bareCrystal : crystalChip.Bare := by decide +kernel
  have rom : crystalChip.hub.memory.rom = fresh.hub.memory.rom :=
    bareFresh.rom_load load_crystalProgram
  exact ⟨bareFresh, bareCrystal, rom.symm, by decide +kernel, by decide +kernel,
    by decide, by decide, _, _, bareFresh.load (by decide) (by decide),
    bareCrystal.load (by decide) (by decide), by decide +kernel, by decide +kernel⟩

end Chip

end P1Chip
