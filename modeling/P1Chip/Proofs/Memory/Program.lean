import P1Chip.Proofs.Masks
import P1Chip.Proofs.Memory.Words

/-!
# A program in hub memory

Loading writes the image and, below the place where the first method has its frame, a trap for a
method that returns.  A reset then writes the frame itself, which is four words that tell the
interpreter where to begin.  The frame stands close to the trap, and both may stand close to the
header, so it takes some arithmetic to say that neither harms what is needed of the other.

* `Memory.programmed`, `Memory.withBootFrame` — what loading and resetting write.
* `Memory.rom_programmed`, `Memory.rom_withBootFrame` — they leave the upper half alone.
* **`Memory.header_programmed`** — the header stands in memory as it stands in the image.
* `Memory.BootFrame` — the words from which the interpreter starts.
* **`Memory.bootFrame_withBootFrame`** — they are what the header says.
* `Memory.withFirstResult` — what the interpreter writes when it starts.
-/

namespace P1Chip

/-! ## Headers -/

namespace ImageHeader

/-- A header depends on its sixteen bytes. -/
lemma ofBytes_congr {byte other : Nat → UInt8} (same : ∀ offset < 16, byte offset = other offset) :
    ofBytes byte = ofBytes other := by
  simp only [ofBytes, same 0 (by decide), same 1 (by decide), same 2 (by decide),
    same 3 (by decide), same 4 (by decide), same 5 (by decide), same 6 (by decide),
    same 7 (by decide), same 8 (by decide), same 9 (by decide), same 10 (by decide),
    same 11 (by decide), same 12 (by decide), same 13 (by decide), same 14 (by decide),
    same 15 (by decide)]

/-- The crystal that an image names, if its clock mode needs one. -/
def crystal? (header : ImageHeader) : Option UInt32 :=
  header.clockMode.crystalFrequency? header.clockFrequency

/-- Where the first method has its frame, as an address. -/
abbrev frame (header : ImageHeader) : UInt32 :=
  header.bootFrame.toUInt32

/-- It has no more than sixteen bits. -/
lemma frame_and (header : ImageHeader) : header.frame &&& 0xFFFF = header.frame := by
  have bound := header.bootFrame.toNat_lt
  apply UInt32.toNat_inj.mp
  rw [Word.toNat_lowBits _ 16 rfl, UInt16.toNat_toUInt32, Nat.mod_eq_of_lt bound]

/-- An address that is a little below the frame. -/
lemma toNat_frame_sub (header : ImageHeader) {below : UInt32}
    (h : below.toNat ≤ header.bootFrame.toNat) :
    (header.frame - below).toNat = header.bootFrame.toNat - below.toNat := by
  have within : below ≤ header.frame := by
    rwa [UInt32.le_iff_toNat_le, UInt16.toNat_toUInt32]
  rw [UInt32.toNat_sub_of_le _ _ within, UInt16.toNat_toUInt32]

end ImageHeader

namespace Memory

/-! ## Loading -/

/-- Hub memory with a program: its image, all zeros behind that, and the termination trap below the
first stack frame. -/
def programmed (memory : Memory) (image : ByteArray) : Memory :=
  let trap := (ImageHeader.ofImage image).frame - 8
  ((memory.clear.load image).writeLong trap ImageHeader.terminationTrap).writeLong
    (trap + 4) ImageHeader.terminationTrap

/-- Only the upper half of memory is left of what was there before. -/
lemma programmed_congr {memory other : Memory} (rom : memory.rom = other.rom)
    (image : ByteArray) : memory.programmed image = other.programmed image := by
  rcases memory with ⟨ram, upper⟩
  rcases other with ⟨otherRam, _⟩
  cases rom
  rfl

lemma rom_programmed (memory : Memory) (image : ByteArray) :
    (memory.programmed image).rom = memory.rom := by
  simp only [programmed, rom_writeLong, load, clear]

/-- What is loaded stands at the start of memory, with zeros behind it. -/
lemma byteAt_load_clear (memory : Memory) (image : ByteArray) {address : UInt16}
    (low : address.toNat < halfSize) :
    (memory.clear.load image).byteAt address = image[address.toNat]?.getD 0 := by
  simp [byteAt, low, load, clear]

/-- **The header stands in memory as it stands in the image**, unless the trap falls upon it. -/
theorem header_programmed (memory : Memory) {image : ByteArray}
    (low : 24 ≤ (ImageHeader.ofImage image).bootFrame.toNat) :
    (memory.programmed image).header = ImageHeader.ofImage image := by
  have bound := (ImageHeader.ofImage image).bootFrame.toNat_lt
  have trap : ((ImageHeader.ofImage image).frame - 8).toNat
      = (ImageHeader.ofImage image).bootFrame.toNat - 8 :=
    ImageHeader.toNat_frame_sub _ (Nat.le_trans (by decide) low)
  have above : ((ImageHeader.ofImage image).frame - 8 + 4).toNat
      = (ImageHeader.ofImage image).bootFrame.toNat - 4 := by
    rw [UInt32.toNat_add, trap, show UInt32.toNat 4 = 4 from rfl]
    omega
  -- the frame does not start before 24, so the trap lies behind the sixteen bytes
  refine ImageHeader.ofBytes_congr fun offset within => ?_
  have place : (UInt32.ofNat offset).toUInt16.toNat = offset := by
    rw [UInt32.toNat_toUInt16, UInt32.toNat_ofNat']
    omega
  rw [readByte, programmed, byteAt_writeLong_of_ne _ (by omega),
    byteAt_writeLong_of_ne _ (by omega), byteAt_load_clear _ _ (by rw [place, halfSize]; omega),
    place]

/-! ## The frame of the first method -/

/-- Hub memory with the frame of the program's first method. -/
def withBootFrame (memory : Memory) : Memory :=
  let header := memory.header
  (((memory.writeWord (header.frame - 8) header.objectBase).writeWord
    (header.frame - 6) header.variableBase).writeWord
    (header.frame - 4) header.programCounter).writeWord
    (header.frame - 2) header.stackPointer

lemma rom_withBootFrame (memory : Memory) : memory.withBootFrame.rom = memory.rom := by
  simp only [withBootFrame, rom_writeWord]

/-- The words from which the interpreter starts are what a header says. -/
structure BootFrame (memory : Memory) (header : ImageHeader) : Prop where
  object : memory.readWord (header.frame - 8) = header.objectBase
  vars : memory.readWord (header.frame - 6) = header.variableBase
  pc : memory.readWord (header.frame - 4) = header.programCounter
  stack : memory.readWord (header.frame - 2) = header.stackPointer

/-- **The interpreter starts from what the header says**, if there is room for the frame in the
lower half. -/
theorem bootFrame_withBootFrame {memory : Memory} (low : 8 ≤ memory.header.bootFrame.toNat)
    (high : memory.header.bootFrame.toNat ≤ halfSize) :
    memory.withBootFrame.BootFrame memory.header := by
  have size : halfSize = 32768 := rfl
  have at8 : (memory.header.frame - 8).toNat = memory.header.bootFrame.toNat - 8 :=
    memory.header.toNat_frame_sub low
  have at6 : (memory.header.frame - 6).toNat = memory.header.bootFrame.toNat - 6 :=
    memory.header.toNat_frame_sub (Nat.le_trans (by decide) low)
  have at4 : (memory.header.frame - 4).toNat = memory.header.bootFrame.toNat - 4 :=
    memory.header.toNat_frame_sub (Nat.le_trans (by decide) low)
  have at2 : (memory.header.frame - 2).toNat = memory.header.bootFrame.toNat - 2 :=
    memory.header.toNat_frame_sub (Nat.le_trans (by decide) low)
  -- each word is one of four in a row, and those that are written after it are others
  constructor
  · rw [withBootFrame, readWord_writeWord_of_ne _ (by omega), readWord_writeWord_of_ne _ (by omega),
      readWord_writeWord_of_ne _ (by omega), readWord_writeWord _ rfl (by omega)]
  · rw [withBootFrame, readWord_writeWord_of_ne _ (by omega), readWord_writeWord_of_ne _ (by omega),
      readWord_writeWord _ rfl (by omega)]
  · rw [withBootFrame, readWord_writeWord_of_ne _ (by omega), readWord_writeWord _ rfl (by omega)]
  · rw [withBootFrame, readWord_writeWord _ rfl (by omega)]

/-- Hub memory when the interpreter has started: the result of the first method is zero, and a long
of ones stands below it. -/
def withFirstResult (memory : Memory) (header : ImageHeader) : Memory :=
  (memory.writeLong (header.frame - 8) Word.ones).writeLong (header.frame - 4) 0

/-- The two longs do not overlap, however the frame is aligned. -/
lemma readLong_withFirstResult (memory : Memory) {header : ImageHeader}
    (low : 8 ≤ header.bootFrame.toNat) (high : header.bootFrame.toNat ≤ halfSize) :
    (memory.withFirstResult header).readLong (header.frame - 8) = 0xFFFFFFFF ∧
      (memory.withFirstResult header).readLong (header.frame - 4) = 0 := by
  have size : halfSize = 32768 := rfl
  have at8 : (header.frame - 8).toNat = header.bootFrame.toNat - 8 := header.toNat_frame_sub low
  have at4 : (header.frame - 4).toNat = header.bootFrame.toNat - 4 :=
    header.toNat_frame_sub (Nat.le_trans (by decide) low)
  constructor
  · rw [withFirstResult, readLong_writeLong_of_ne _ (by omega), readLong_writeLong _ (by omega)]
    rfl
  · rw [withFirstResult, readLong_writeLong _ (by omega)]

end Memory

end P1Chip
