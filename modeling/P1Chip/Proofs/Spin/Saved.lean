import P1Chip.Proofs.Memory.Words
import P1Chip.Proofs.Spin.Nesting

/-!
# What a frame keeps in hub memory

A frame has four words on the stack below the locals of the method that is called in it: the three
pointers of the caller, and the place where it goes on.  The words have 16 bits, so a caller gets
its pointers back modulo 64 kilobytes.  As hub memory repeats with the same period, that makes no
difference to it.

* `Saved` — the three pointers are where the frame starts.
* `SpinMachine.openFrame_saved` — opening a frame puts them there.
* `Saved.call`, `Saved.sameBytes` — the call leaves them alone, and so does anything that does not
  overwrite them.
* **`SpinMachine.dropFrame_of_saved`** — leaving the method takes them back.
-/

namespace P1Chip

variable {τ : Type}

/-- The pointers of a caller stand at the start of a frame, as far as they fit in words. -/
structure Saved (memory : Memory) (base object vars locals : UInt32) : Prop where
  object : memory.readWord base = object.toUInt16
  vars : memory.readWord (base + 2) = vars.toUInt16
  locals : memory.readWord (base + 4) = locals.toUInt16

/-- The frame fits in the lower half of hub memory. -/
def FrameFits (base : UInt32) : Prop :=
  base.toNat % 65536 + 12 ≤ halfSize

instance (base : UInt32) : Decidable (FrameFits base) :=
  inferInstanceAs (Decidable (_ ≤ _))

namespace Saved

variable {memory memory' : Memory} {base object vars locals : UInt32}

/-- They stay where they are if the three words stay as they are. -/
lemma keep (saved : Saved memory base object vars locals)
    (h0 : memory'.readWord base = memory.readWord base)
    (h2 : memory'.readWord (base + 2) = memory.readWord (base + 2))
    (h4 : memory'.readWord (base + 4) = memory.readWord (base + 4)) :
    Saved memory' base object vars locals :=
  ⟨h0.trans saved.object, h2.trans saved.vars, h4.trans saved.locals⟩

/-- A call writes the return address behind them. -/
lemma call (saved : Saved memory base object vars locals) (back : UInt16) :
    Saved (memory.writeWord (base + 6) back) base object vars locals := by
  refine saved.keep (Memory.readWord_writeWord_of_ne _ ?_ _)
    (Memory.readWord_writeWord_of_ne _ ?_ _) (Memory.readWord_writeWord_of_ne _ ?_ _)
  all_goals
    simp only [UInt32.toNat_add, UInt32.reduceToNat]
    omega

/-- They stay where they are if the bytes of the frame stay as they are. -/
lemma sameBytes (saved : Saved memory base object vars locals) (even : base.toNat % 2 = 0)
    {count : UInt32} (hc : 6 ≤ count) (h : Memory.SameBytes base count memory memory') :
    Saved memory' base object vars locals := by
  have h0 := h.readWord even (k := 0) rfl (by grind) (by grind)
  rw [UInt32.add_zero] at h0
  exact saved.keep h0 (h.readWord even rfl (by grind) (by grind))
    (h.readWord even rfl (by grind) (by grind))

end Saved

namespace SpinMachine

/-- A push followed by a pop gives the value back. -/
lemma pop_push {machine : SpinMachine τ} (h : machine.frames.stack.toNat % 65536 < halfSize)
    (value : UInt32) : (machine.push value).pop.1 = value := by
  have hs : machine.frames.stack + 4 - 4 = machine.frames.stack := by grind
  show (machine.hub.memory.writeLong machine.frames.stack value).readLong
    (machine.frames.stack + 4 - 4) = value
  rw [hs]
  exact Memory.readLong_writeLong _ h value

lemma openFrame_memory (machine : SpinMachine τ) (kind : FrameKind) :
    (machine.openFrame kind).hub.memory =
      ((((machine.hub.memory.writeWord machine.frames.stack
        machine.frames.object.toUInt16).writeWord (machine.frames.stack + 2)
        machine.frames.vars.toUInt16).writeWord (machine.frames.stack + 4)
        machine.frames.locals.toUInt16).writeWord (machine.frames.stack + 6) 0).writeLong
        (machine.frames.stack + 8) 0 := by
  have h4 : machine.frames.stack + 2 + 2 = machine.frames.stack + 4 := by grind
  have h6 : machine.frames.stack + 2 + 2 + 2 = machine.frames.stack + 6 := by grind
  have h8 : machine.frames.stack + 2 + 2 + 2 + 2 = machine.frames.stack + 8 := by grind
  rw [← h4, ← h6, ← h8]
  rfl

/-- **Opening a frame** saves the pointers of the caller in it. -/
theorem openFrame_saved (machine : SpinMachine τ) (kind : FrameKind)
    (fits : FrameFits machine.frames.stack) :
    Saved (machine.openFrame kind).hub.memory machine.frames.stack machine.frames.object
      machine.frames.vars machine.frames.locals := by
  simp only [FrameFits, halfSize] at fits
  rw [openFrame_memory]
  constructor
  · rw [Memory.readWord_writeLong_of_ne, Memory.readWord_writeWord_of_ne,
      Memory.readWord_writeWord_of_ne, Memory.readWord_writeWord_of_ne,
      Memory.readWord_writeWord _ rfl (by rw [halfSize]; omega)]
    all_goals
      simp only [UInt32.toNat_add, UInt32.reduceToNat]
      omega
  · rw [Memory.readWord_writeLong_of_ne, Memory.readWord_writeWord_of_ne,
      Memory.readWord_writeWord_of_ne, Memory.readWord_writeWord _ rfl]
    all_goals
      simp only [UInt32.toNat_add, UInt32.reduceToNat, halfSize]
      omega
  · rw [Memory.readWord_writeLong_of_ne, Memory.readWord_writeWord_of_ne,
      Memory.readWord_writeWord _ rfl]
    all_goals
      simp only [UInt32.toNat_add, UInt32.reduceToNat, halfSize]
      omega

/-- Addresses below the locals of a method are addresses in its frame. -/
lemma toUInt16_locals_sub {locals base : UInt32} (h : locals.toUInt16 = (base + 8).toUInt16)
    (k : UInt32) : (locals - (8 - k)).toUInt16 = (base + k).toUInt16 := by
  rw [UInt32.toUInt16_sub, h, UInt32.toUInt16_sub, UInt32.toUInt16_add, UInt32.toUInt16_add]
  grind

/-- **Leaving a method** gives the caller its pointers back, if they are still below the locals of
the method. -/
theorem dropFrame_of_saved (machine : SpinMachine τ) {base object vars locals : UInt32}
    (saved : Saved machine.hub.memory base object vars locals)
    (h : machine.frames.locals.toUInt16 = (base + 8).toUInt16) (openFrames : List FrameKind) :
    (machine.dropFrame openFrames).frames =
      { machine.frames with
        object := object.toUInt16.toUInt32
        vars := vars.toUInt16.toUInt32
        locals := locals.toUInt16.toUInt32
        stack := machine.frames.locals - 8
        openFrames } := by
  have h8 : (machine.frames.locals - 8).toUInt16 = base.toUInt16 := by
    rw [UInt32.toUInt16_sub, h, UInt32.toUInt16_add]
    grind
  have h6 : (machine.frames.locals - 6).toUInt16 = (base + 2).toUInt16 := toUInt16_locals_sub h 2
  have h4 : (machine.frames.locals - 4).toUInt16 = (base + 4).toUInt16 := toUInt16_locals_sub h 4
  rw [dropFrame_frames, Memory.readWord_eq_of_toUInt16 _ h8, Memory.readWord_eq_of_toUInt16 _ h6,
    Memory.readWord_eq_of_toUInt16 _ h4, saved.object, saved.vars, saved.locals]

/-- It goes on where the frame says. -/
lemma dropFrame_pc_of_back (machine : SpinMachine τ) {base : UInt32} {back : UInt16}
    (saved : machine.hub.memory.readWord (base + 6) = back)
    (h : machine.frames.locals.toUInt16 = (base + 8).toUInt16) (openFrames : List FrameKind) :
    (machine.dropFrame openFrames).body.pc = back.toUInt32 := by
  have h2 : (machine.frames.locals - 2).toUInt16 = (base + 6).toUInt16 := toUInt16_locals_sub h 6
  rw [dropFrame_pc, Memory.readWord_eq_of_toUInt16 _ h2, saved]

end SpinMachine

end P1Chip
