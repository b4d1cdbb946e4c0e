import P1Chip.Proofs.Chip.Action
import P1Chip.Proofs.Hub.Service
import P1Chip.Proofs.Memory.Program

/-!
# The upper half of memory

A chip has memory twice: the hub's, which cogs and users write to, and what a reset brings back.
Every write goes through single bytes, a byte of the upper half is never set, and loading and
resetting build on what was there.  So both memories keep the upper half that the chip was switched
on with.

* `Memory.bytes`, `Memory.getElem?_bytes_toNat` — memory as one row of bytes.
* `Memory.KeepsRom` — whoever reads in the upper half reads what was there before.
* `CogBody.Actions.rom` — whatever a cog does, it does not change the upper half.
* `Chip.HasRom` — both memories have the given upper half.
* **`Chip.HasRom.action`** — no small change of a chip changes it.
* **`Chip.rom_run`** — nor does anything that is done with the chip.
-/

namespace P1Chip

variable {τ π : Type} [Timebase τ]

/-! ## Memory -/

namespace Memory

/-- All bytes, those of the lower half first. -/
def bytes (memory : Memory) : Array UInt8 :=
  (memory.ram ++ memory.rom).toArray

lemma size_bytes (memory : Memory) : memory.bytes.size = 0x10000 :=
  Vector.size_toArray _

lemma getElem?_bytes (memory : Memory) (position : Nat) :
    memory.bytes[position]? = if position < halfSize
      then memory.ram[position]? else memory.rom[position - halfSize]? := by
  rw [bytes, Vector.getElem?_toArray, Vector.getElem?_append]

/-- An address is a position in the row. -/
lemma getElem?_bytes_toNat (memory : Memory) (address : UInt16) :
    memory.bytes[address.toNat]? = some (memory.byteAt address) := by
  rw [getElem?_bytes, byteAt]
  split
  · next low => exact Vector.getElem?_eq_getElem low
  · exact Vector.getElem?_eq_getElem (sub_halfSize_lt address)

/-- Nothing in the upper half has changed, and memory has its full size. -/
structure KeepsRom (memory built : Memory) : Prop where
  byte : ∀ position, 0x8000 ≤ position → memory.bytes[position]? = built.bytes[position]?
  size : memory.bytes.size = 0x10000
  /-- Any access that starts in the upper half reads what was there before. -/
  read : ∀ size (address : UInt32), 0x8000 ≤ address.toNat % 0x10000 →
    memory.read size address = built.read size address

/-- It is enough to compare the upper halves. -/
lemma keepsRom_of_rom {memory built : Memory} (same : memory.rom = built.rom) :
    memory.KeepsRom built := by
  have row : ∀ position, 0x8000 ≤ position → memory.bytes[position]? = built.bytes[position]? := by
    intro position high
    have behind : ¬ position < halfSize := Nat.not_lt.mpr high
    rw [getElem?_bytes, getElem?_bytes, if_neg behind, if_neg behind, same]
  have byte (address : UInt16) (high : 0x8000 ≤ address.toNat) :
      memory.byteAt address = built.byteAt address := by
    have there := row address.toNat high
    rw [getElem?_bytes_toNat, getElem?_bytes_toNat] at there
    exact Option.some.inj there
  -- words and longs do not reach from one half into the other
  have behind (start k : UInt16) (high : 0x8000 ≤ start.toNat)
      (within : start.toNat + k.toNat < 0x10000) :
      memory.byteAt (start + k) = built.byteAt (start + k) :=
    byte _ (by rw [toNat_add_of_lt within]; omega)
  refine ⟨row, memory.size_bytes, fun size address high => ?_⟩
  cases size with
  | byte =>
    have same : memory.readByte address = built.readByte address :=
      byte _ (by rw [UInt32.toNat_toUInt16]; exact high)
    exact congrArg UInt8.toUInt32 same
  | word =>
    have start := toNat_wordStart address
    have one : UInt16.toNat 1 = 1 := rfl
    have same : memory.readWord address = built.readWord address :=
      readWord_congr (byte _ (by omega)) (behind _ 1 (by omega) (by omega))
    exact congrArg UInt16.toUInt32 same
  | long =>
    have start := toNat_longStart address
    exact readLong_congr fun k within => behind _ k (by omega) (by omega)

end Memory

/-! ## Cogs -/

/-- **Whatever a cog does**, by instructions or by bytecodes, the upper half stays. -/
theorem CogBody.Actions.rom {before after : CogBody τ × Hub}
    (run : CogBody.Actions before after) : after.2.memory.rom = before.2.memory.rom := by
  refine run.preserves (P := fun now => now.2.memory.rom = before.2.memory.rom) ?_ rfl
  intro _ _ action same
  cases action with
  | service body hub operation argument =>
    exact (congrArg Memory.rom (hub.memory_execute ..)).trans same
  | write body hub size address value => exact (hub.memory.rom_write ..).trans same
  | _ => exact same

/-! ## Chips -/

namespace Chip

/-- What the cogs read and what a reset brings back have the given upper half. -/
structure HasRom (chip : Chip τ π) (rom : Vector UInt8 halfSize) : Prop where
  live : chip.hub.memory.rom = rom
  saved : chip.resetMemory.rom = rom

namespace HasRom

variable {chip after : Chip τ π} {rom : Vector UInt8 halfSize}

/-- A cog that does what cogs do leaves the upper half alone. -/
lemma actions (h : chip.HasRom rom) {hub : Hub} {id : Fin 8} {cog cog' : Cog τ}
    (run : CogBody.Actions (cog.body, chip.hub) (cog'.body, hub)) :
    ({ chip with hub }.putCog id cog').HasRom rom :=
  ⟨run.rom.trans h.live, h.saved⟩

variable [Plugin τ π]

lemma notifyPins (h : chip.HasRom rom) : chip.notifyPins.HasRom rom := by
  rw [notifyPins_eq]
  split <;> exact ⟨h.live, h.saved⟩

omit [Plugin τ π] in
/-- The first frame of the program is written as cogs write. -/
lemma booted (h : chip.HasRom rom) : chip.booted.HasRom rom :=
  ⟨(Memory.rom_withBootFrame _).trans h.live, h.saved⟩

/-- A reset brings back the memory that was saved. -/
lemma reset (h : chip.resetMemory.rom = rom) : chip.reset.HasRom rom := by
  have emptied : chip.emptied.HasRom rom := ⟨h, h⟩
  rw [reset_eq]
  exact emptied.notifyPins.booted

/-- **No small change** of a chip changes the upper half of its memories. -/
theorem action (h : chip.HasRom rom) (action : Action chip after) : after.HasRom rom := by
  cases action with
  | clock action => cases action <;> exact ⟨h.live, h.saved⟩
  | cogStep => exact h.actions (Cog.actions_step _ chip.hub chip.frameBreak)
  | turn => exact h.actions (Cog.actions_hubAccess _ chip.hub)
  | reset => exact reset h.saved
  | resetMode => exact reset h.saved
  | memory size address value => exact ⟨(chip.hub.memory.rom_write ..).trans h.live, h.saved⟩
  | _ => exact ⟨h.live, h.saved⟩

/-- Neither does a program that is loaded: it goes to the lower half. -/
lemma apply (h : chip.HasRom rom) (operation : Operation π) :
    (chip.apply operation).HasRom rom :=
  apply_preserves (P := (·.HasRom rom)) (fun _ _ action h => h.action action)
    (fun _ _ h => reset ((Memory.rom_programmed ..).trans h.live)) (fun _ _ h => ⟨h.live, h.saved⟩)
    h operation

end HasRom

variable [Plugin τ π]

/-- **The upper half never changes**, neither in the memory of the hub nor in what a reset brings
back, whatever is loaded, whatever the cogs do and wherever they or the user write. -/
theorem rom_run (memory : Memory) (operations : List (Operation π)) :
    let chip : Chip τ π := (switchedOn memory).run operations
    chip.hub.memory.KeepsRom memory ∧ chip.resetMemory.KeepsRom memory := by
  have first : (switchedOn memory : Chip τ π).HasRom memory.rom := ⟨rfl, rfl⟩
  have last := run_preserves (P := (·.HasRom memory.rom))
    (fun _ operation h => h.apply operation) operations first
  exact ⟨Memory.keepsRom_of_rom last.live, Memory.keepsRom_of_rom last.saved⟩

end Chip

end P1Chip
