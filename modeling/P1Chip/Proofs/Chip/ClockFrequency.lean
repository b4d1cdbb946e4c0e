import P1Chip.Proofs.Chip.Restart

/-!
# The clock that a program was made for

A header says how fast the program's system clock is to be, and its clock mode how that clock is to
be made: from the crystal or the clock input, or from a multiple of it.  Loading works out
backwards which crystal gives the frequency, and the reset that follows works out forwards which
frequency the crystal gives.  A multiple by a power of two loses the lowest bits of the frequency
in this; nothing else should be lost.

The way back asks for one thing more than the way forth.  It takes an oscillator whose gain is zero
for one without a crystal, but a program may well leave the gain at zero and have its clock from the
clock input.  Then the header's frequency is passed over, and the chip goes on with the crystal of
the program before it.

* `ClockMode.UsesCrystal`, `ClockMode.doublings` — the modes in question, and their multiples.
* `ClockMode.toNat_coreFrequency`, `ClockMode.crystalFrequency?_of_usesCrystal` — forwards and
  backwards.
* `Chip.coreFrequency_reset` — what the reset makes of the crystal.
* `Chip.IsClockedFor` — the chip has the clock that the program was made for.
* **`Chip.isClockedFor_load_iff`** — it has it exactly if the gain is not zero, or the program
  before it happened to use a crystal of the right frequency.
-/

namespace P1Chip

/-! ## Modes -/

namespace ClockMode

variable (mode : ClockMode)

/-- The system clock is the crystal or the clock input, or a multiple of it that is switched on. -/
def UsesCrystal : Prop :=
  mode.source.val = 2 ∨ 3 ≤ mode.source.val ∧ mode.pllEnabled

instance : Decidable mode.UsesCrystal :=
  inferInstanceAs (Decidable (_ ∨ _))

/-- How often the crystal is doubled: not at all for the sources 2 and 3, and once more for each
source after them. -/
def doublings : Nat :=
  mode.source.val - 3

/-- The reset bit does not switch the phase-locked loop. -/
lemma pllEnabled_withoutReset : mode.withoutReset.pllEnabled = mode.pllEnabled := by
  show (mode.bits &&& 0x7F &&& 0x40 != 0) = (mode.bits &&& 0x40 != 0)
  rw [UInt8.and_assoc]
  rfl

/-- So it has no part in the system clock. -/
lemma coreFrequency_withoutReset (crystal : UInt32) :
    mode.withoutReset.coreFrequency crystal = mode.coreFrequency crystal := by
  simp only [coreFrequency, pllShift?, source_withoutReset, pllEnabled_withoutReset]

/-- That is less often than a word has bits. -/
lemma doublings_lt : mode.doublings < 32 := by
  have bound := mode.source.isLt
  rw [doublings]
  omega

lemma toNat_doublings : (UInt32.ofNat mode.doublings).toNat % 32 = mode.doublings := by
  have few := mode.doublings_lt
  rw [UInt32.toNat_ofNat']
  omega

/-- The bits of a word are those that doubling drops and those that it moves up. -/
lemma width_doublings : 2 ^ 32 = 2 ^ (32 - mode.doublings) * 2 ^ mode.doublings := by
  rw [← Nat.pow_add, Nat.sub_add_cancel (Nat.le_of_lt mode.doublings_lt)]

variable {mode}

lemma coreFrequency_of_usesCrystal (uses : mode.UsesCrystal) (crystal : UInt32) :
    mode.coreFrequency crystal = crystal <<< UInt32.ofNat mode.doublings := by
  rcases uses with direct | ⟨multiple, enabled⟩
  · simp [coreFrequency, doublings, direct]
  · rw [coreFrequency]
    split
    · omega
    · omega
    · omega
    · simp only [pllShift?, if_pos multiple, enabled, if_true, doublings]

/-- **Forwards**: what is doubled loses its highest bits. -/
lemma toNat_coreFrequency (uses : mode.UsesCrystal) (crystal : UInt32) :
    (mode.coreFrequency crystal).toNat
      = crystal.toNat % 2 ^ (32 - mode.doublings) * 2 ^ mode.doublings := by
  rw [coreFrequency_of_usesCrystal uses, UInt32.toNat_shiftLeft, toNat_doublings,
    Nat.shiftLeft_eq, mode.width_doublings, Nat.mul_mod_mul_right]

/-- **Backwards**: a mode has a crystal only if the oscillator has a gain. -/
lemma crystalFrequency?_of_usesCrystal (uses : mode.UsesCrystal) (core : UInt32) :
    mode.crystalFrequency? core
      = if mode.gain.val = 0 then none else some (core >>> UInt32.ofNat mode.doublings) := by
  rw [crystalFrequency?]
  rcases uses with direct | ⟨multiple, -⟩
  · simp [doublings, direct]
  · split
    · rfl
    · split <;> first | omega | rfl

/-- What was found backwards loses nothing forwards. -/
lemma toNat_shiftRight_doublings (core : UInt32) :
    (core >>> UInt32.ofNat mode.doublings).toNat % 2 ^ (32 - mode.doublings)
      = core.toNat / 2 ^ mode.doublings := by
  have small : core.toNat / 2 ^ mode.doublings < 2 ^ (32 - mode.doublings) := by
    have bound := core.toNat_lt
    rw [mode.width_doublings] at bound
    exact Nat.div_lt_of_lt_mul (by rwa [Nat.mul_comm] at bound)
  rw [UInt32.toNat_shiftRight, toNat_doublings, Nat.shiftRight_eq_div_pow, Nat.mod_eq_of_lt small]

end ClockMode

variable {τ π : Type} [Timebase τ] [Plugin τ π]

namespace Chip

/-! ## Resets -/

/-- The clock mode and the crystal outlast everything before the first cog starts, whatever the
plugins do. -/
lemma coreFrequency_reset (chip : Chip τ π) :
    chip.reset.hub.coreFrequency
      = chip.hub.clockMode.coreFrequency chip.hub.crystalFrequency := by
  have booted (chip : Chip τ π) : chip.booted.hub.coreFrequency
      = chip.hub.clockMode.withoutReset.coreFrequency chip.hub.crystalFrequency := rfl
  have told (chip : Chip τ π) : chip.notifyPins.hub.clockMode = chip.hub.clockMode ∧
      chip.notifyPins.hub.crystalFrequency = chip.hub.crystalFrequency := by
    rw [notifyPins_eq]
    split <;> exact ⟨rfl, rfl⟩
  rw [reset_eq, booted, (told _).1, (told _).2, ClockMode.coreFrequency_withoutReset]
  rfl

/-! ## Loading -/

/-- The system clock is the one that the header asks for, up to the lowest bits that a multiple by
a power of two cannot have. -/
def IsClockedFor (chip : Chip τ π) (header : ImageHeader) : Prop :=
  let shift := header.clockMode.doublings
  chip.hub.coreFrequency.toNat = header.clockFrequency.toNat / 2 ^ shift * 2 ^ shift

instance (chip : Chip τ π) (header : ImageHeader) : Decidable (chip.IsClockedFor header) :=
  inferInstanceAs (Decidable (_ = _))

/-- An empty image would have all fields of its header zero. -/
lemma pos_size_of_usesCrystal {image : ByteArray}
    (uses : (ImageHeader.ofImage image).clockMode.UsesCrystal) : 0 < image.size := by
  by_contra empty
  have missing : image[4]? = none := getElem?_neg image 4 (by omega)
  have mode : (ImageHeader.ofImage image).clockMode = ⟨0⟩ := by
    simp only [ImageHeader.ofImage, ImageHeader.ofBytes, missing, Option.getD_none]
  rw [mode] at uses
  revert uses
  decide

/-- **A program gets the clock that it was made for** exactly if its header leaves the oscillator a
gain, or the crystal that the chip knows of gives that clock anyway. -/
theorem isClockedFor_load_iff (chip : Chip τ π) {image : ByteArray}
    (fits : image.size ≤ halfSize)
    (uses : (ImageHeader.ofImage image).clockMode.UsesCrystal) :
    let header := ImageHeader.ofImage image
    let shift := header.clockMode.doublings
    ∃ loaded, chip.load image = .ok loaded ∧
      (loaded.IsClockedFor header ↔
        header.clockMode.gain.val ≠ 0 ∨
          chip.hub.crystalFrequency.toNat % 2 ^ (32 - shift)
            = header.clockFrequency.toNat / 2 ^ shift) := by
  intro header shift
  refine ⟨_, load_eq chip (pos_size_of_usesCrystal uses) fits, ?_⟩
  have core : (chip.loaded image).reset.hub.coreFrequency.toNat
      = (header.crystal?.getD chip.hub.crystalFrequency).toNat % 2 ^ (32 - shift) * 2 ^ shift := by
    rw [coreFrequency_reset]
    exact ClockMode.toNat_coreFrequency uses _
  have same : (chip.loaded image).reset.IsClockedFor header ↔
      (header.crystal?.getD chip.hub.crystalFrequency).toNat % 2 ^ (32 - shift)
        = header.clockFrequency.toNat / 2 ^ shift := by
    show (chip.loaded image).reset.hub.coreFrequency.toNat = _ * 2 ^ shift ↔ _
    rw [core, Nat.mul_left_inj (Nat.pos_iff_ne_zero.mp (Nat.two_pow_pos shift))]
  rw [same, ImageHeader.crystal?, ClockMode.crystalFrequency?_of_usesCrystal uses]
  by_cases gain : header.clockMode.gain.val = 0
  · rw [if_pos gain, Option.getD_none]
    exact ⟨.inr, fun known => known.resolve_left (· gain)⟩
  · rw [if_neg gain, Option.getD_some]
    exact ⟨fun _ => .inl gain, fun _ => ClockMode.toNat_shiftRight_doublings _⟩

/-- A program that is nothing but a header, made for 80,000,007 hertz from a crystal with a factor
of sixteen. -/
def unevenProgram : ByteArray :=
  ⟨#[0x07, 0xB4, 0xC4, 0x04, 0x6F, 0, 0, 0, 0, 0, 0x20, 0, 0, 0, 0, 0]⟩

/-- It gets 80 megahertz. -/
theorem isClockedFor_unevenProgram :
    let fresh : Chip Rat Empty := switchedOn blankMemory
    let header := ImageHeader.ofImage unevenProgram
    unevenProgram.size ≤ halfSize ∧ header.clockMode.UsesCrystal ∧
      header.clockFrequency = 80000007 ∧
      ∃ loaded, fresh.load unevenProgram = .ok loaded ∧ loaded.IsClockedFor header ∧
        loaded.hub.coreFrequency = 80000000 := by
  intro fresh header
  have fits : unevenProgram.size ≤ halfSize := by decide
  have uses : header.clockMode.UsesCrystal := by decide
  obtain ⟨loaded, ok, clocked⟩ := isClockedFor_load_iff fresh fits uses
  have gain : header.clockMode.gain.val ≠ 0 := by decide
  have honoured := clocked.mpr (.inl gain)
  refine ⟨fits, uses, by decide, loaded, ok, honoured, ?_⟩
  apply UInt32.toNat_inj.mp
  rw [IsClockedFor] at honoured
  rw [honoured]
  decide

/-- A program for the clock input, where five megahertz are to come in. -/
def inputProgram : ByteArray :=
  ⟨#[0x40, 0x4B, 0x4C, 0x00, 0x22, 0, 0, 0, 0, 0, 0x20, 0, 0, 0, 0, 0]⟩

/-- **A program for the clock input** is left without a clock. -/
theorem not_isClockedFor_inputProgram :
    let fresh : Chip Rat Empty := switchedOn blankMemory
    let header := ImageHeader.ofImage inputProgram
    inputProgram.size ≤ halfSize ∧ header.clockMode.UsesCrystal ∧
      header.clockFrequency = 5000000 ∧
      ∃ loaded, fresh.load inputProgram = .ok loaded ∧ loaded.hub.coreFrequency = 0 ∧
        ¬ loaded.IsClockedFor header := by
  intro fresh header
  have bare : fresh.Bare := rfl
  exact ⟨by decide, by decide, by decide, _, bare.load (by decide) (by decide),
    by decide +kernel, by decide +kernel⟩

end Chip

end P1Chip
