import Mathlib.Data.Nat.Bitwise
import P1Chip.Proofs.Hub.Service
import P1Chip.Proofs.Hub.StartRequest
import P1Chip.Proofs.Spin.Begins
import P1Chip.Proofs.Spin.Stack

/-!
# Methods that begin in another cog

A program starts a method in another cog by the bytecode for native programs, after one that
announces a method.  Then the interpreter lays out a frame at the start of the new stack: four words
from which the other interpreter boots, and behind them the arguments, taken from the stack.

This file shows that the method begins there as it does when it is called.  For that the new frame
must not lie on top of what the interpreter itself keeps in memory.  Besides the operands on its
stack, this is one long at the bottom of its own first frame, in which a program can put the number
of the cog to start: the interpreter sets it to all ones after the frame is laid out.

* **`SpinMachine.moved_moveArguments`** — what becomes of arguments that are taken from there.
* `SpinMachine.Laid` — a frame from which an interpreter boots.
* **`SpinMachine.begins_boot`** — the first method of an interpreter that boots begins.
* **`SpinMachine.launched`** — the frame is laid out, and the hub is asked to start a cog there.
* **`SpinMachine.launched_as_called`** — all of that next to an ordinary call.
* `SpinMachine.not_begins_of_slot` — a frame on top of that long is damaged.
-/

namespace P1Chip

open Memory

namespace SpinMachine

variable {τ : Type}

/-! ## Requests -/

/-- The cog that a long names: one of the eight, or else any free one. -/
def choice (cog : UInt32) : CogChoice :=
  if cog < 8 then .specific (Word.lowThreeBits cog.toNat) else .anyFree

lemma selection_choice (cog : UInt32) :
    (choice cog).selection = if cog < 8 then cog else 8 := by
  by_cases few : cog < 8
  · have low : cog.toNat < 8 := UInt32.lt_iff_toNat_lt.mp few
    rw [choice, if_pos few, if_pos few]
    apply UInt32.toNat_inj.mp
    rw [CogChoice.toNat_selection_specific]
    exact Nat.mod_eq_of_lt low
  · rw [choice, if_neg few, if_neg few]
    rfl

/-- What the interpreter asks for when it starts a native program. -/
lemma startArgument_native (parameter program cog : UInt32) :
    startArgument (((program &&& 0xFFFC) <<< 2) ||| ((parameter &&& 0xFFFC) <<< 16)) cog
      = StartRequest.encode ⟨parameter, program, choice cog⟩ := by
  rw [startArgument, ← selection_choice, UInt32.or_comm ((program &&& 0xFFFC) <<< 2)]
  rfl

/-- What the interpreter asks for when it starts a method: nothing of the address is cut off but
what is cut off by shifting it. -/
lemma startArgument_method {place : UInt32} (aligned : place.toNat % 4 = 0) (cog : UInt32) :
    startArgument ((interpreterEntry <<< 2) ||| (place <<< 16)) cog
      = StartRequest.encode ⟨place, interpreterEntry, choice cog⟩ := by
  have short : (place &&& 0xFFFC) <<< 16 = place <<< 16 := by
    apply UInt32.toNat_inj.mp
    rw [UInt32.toNat_shiftLeft, UInt32.toNat_shiftLeft, StartRequest.toNat_address, Nat.shiftLeft_eq,
      Nat.shiftLeft_eq, show UInt32.toNat 16 % 32 = 16 from rfl]
    omega
  rw [← short]
  exact startArgument_native place interpreterEntry cog

lemma decode_startArgument {place : UInt32} (aligned : place.toNat % 4 = 0) (cog : UInt32) :
    StartRequest.decode (startArgument ((interpreterEntry <<< 2) ||| (place <<< 16)) cog)
      = ⟨place.toUInt16.toUInt32, interpreterEntry, choice cog⟩ := by
  have parameter : place &&& 0xFFFC = place.toUInt16.toUInt32 := by
    apply UInt32.toNat_inj.mp
    rw [StartRequest.toNat_address, UInt16.toNat_toUInt32, UInt32.toNat_toUInt16]
    omega
  have entry : interpreterEntry &&& 0xFFFC = interpreterEntry := rfl
  rw [startArgument_method aligned, StartRequest.decode_encode, StartRequest.aligned, parameter, entry]

/-- The hub finds in the interpreter's argument what is to be started. -/
lemma service_startArgument (machine : SpinMachine τ) {place : UInt32}
    (aligned : place.toNat % 4 = 0) (cog : UInt32) :
    let served := machine.hub.startCog ⟨place.toUInt16.toUInt32, interpreterEntry, choice cog⟩
    machine.service .startCog (startArgument ((interpreterEntry <<< 2) ||| (place <<< 16)) cog)
      = (served.1, { machine with hub := served.2 }) := by
  simp only [service, Hub.execute]
  rw [decode_startArgument aligned]

/-! ## Arguments -/

/-- None of so many longs on the stack lies in the row. -/
def StackApart (machine : SpinMachine τ) (used : Nat) (start : UInt32) (count : Nat) : Prop :=
  ∀ k < used, ¬ InLongs start count (machine.frames.stack - 4 * .ofNat (k + 1))

instance (machine : SpinMachine τ) (used : Nat) (start : UInt32) (count : Nat) :
    Decidable (machine.StackApart used start count) :=
  inferInstanceAs (Decidable (∀ k < used, _))

/-- The machine when some arguments have become a row of longs. -/
structure Moved (before : SpinMachine τ) (start : UInt32) (count : Nat) (after : SpinMachine τ) :
    Prop where
  rest : after = (before.withStack (before.frames.stack - 4 * .ofNat count)).withMemory
    fun _ => after.hub.memory
  outside : SameOutside start count before.hub.memory after.hub.memory
  argument : ∀ i < count, after.hub.memory.readLong (start + 4 * .ofNat i)
    = before.hub.memory.readLong (before.frames.stack - 4 * .ofNat (count - i))

/-- The machine when the last long on its stack was moved to an address. -/
def moveLast (machine : SpinMachine τ) (address : UInt32) : SpinMachine τ :=
  machine.pop.2.withMemory (·.writeLong address machine.pop.1)

lemma moveArguments_succ (count : Nat) (address : UInt32) (machine : SpinMachine τ) :
    moveArguments (count + 1) address machine
      = moveArguments count (address - 4) (machine.moveLast address) :=
  rfl

lemma moveLast_stack (machine : SpinMachine τ) (address : UInt32) :
    (machine.moveLast address).frames.stack = machine.frames.stack - 4 :=
  rfl

lemma moveLast_memory (machine : SpinMachine τ) (address : UInt32) :
    (machine.moveLast address).hub.memory = machine.hub.memory.writeLong address
      (machine.hub.memory.readLong (machine.frames.stack - 4)) :=
  rfl

lemma Moved.zero (machine : SpinMachine τ) (start : UInt32) : machine.Moved start 0 machine where
  rest := by
    have same : machine.frames.stack - 4 * .ofNat 0 = machine.frames.stack := by simp
    rw [same]
    rfl
  outside := fun _ _ => rfl
  argument := nofun

/-- What is left of the stack is still apart from what is left of the row. -/
lemma StackApart.moveLast {machine : SpinMachine τ} {used count : Nat} {start : UInt32}
    (apart : machine.StackApart (used + 1) start (count + 1)) (address : UInt32) :
    (machine.moveLast address).StackApart used start count := by
  intro k hk
  have far := apart (k + 1) (by omega)
  rw [moveLast_stack, sub_longs_succ]
  simp only [InLongs] at far ⊢
  omega

/-- The last argument is moved before the others. -/
lemma Moved.succ {machine after : SpinMachine τ} {start : UInt32} {count : Nat}
    (aligned : start.toNat % 4 = 0) (fits : start.toNat % 65536 + 4 * (count + 1) ≤ halfSize)
    (apart : machine.StackApart (count + 1) start (count + 1))
    (moved : (machine.moveLast (start + 4 * .ofNat count)).Moved start count after) :
    machine.Moved start (count + 1) after := by
  have place : (start + 4 * .ofNat count).toNat % 65536 = start.toNat % 65536 + 4 * count :=
    toNat_add_longs (by simp only [halfSize] at fits; omega)
  have inside : InLongs start (count + 1) (start + 4 * .ofNat count) := by
    simp only [InLongs, place]
    omega
  have written : SameOutside start (count + 1) machine.hub.memory
      (machine.moveLast (start + 4 * .ofNat count)).hub.memory := by
    rw [moveLast_memory]
    exact .writeLong_of_inLongs aligned inside _
  refine ⟨?_, written.trans (moved.outside.mono (Nat.le_succ count)), fun i hi => ?_⟩
  · have rest := moved.rest
    rw [moveLast_stack, sub_longs_succ] at rest
    exact rest
  · rcases Nat.lt_succ_iff_lt_or_eq.mp hi with before | rfl
    · have argument := moved.argument i before
      have far := apart (count - i) (by omega)
      have next : count - i + 1 = count + 1 - i := by omega
      rw [next] at far
      rw [moveLast_stack, sub_longs_succ, next, written.readLong aligned far] at argument
      exact argument
    · have behind : ¬ InLongs start i (start + 4 * .ofNat i) := by
        simp only [InLongs, place]
        omega
      have one : i + 1 - i = 1 := by omega
      rw [moved.outside.readLong aligned behind, moveLast_memory, one,
        readLong_writeLong _ (by simp only [halfSize] at fits ⊢; omega)]
      rfl

/-- Arguments become a row of longs, if none of them stands there already. -/
theorem moved_moveArguments {start : UInt32} (aligned : start.toNat % 4 = 0) (count : Nat)
    (fits : start.toNat % 65536 + 4 * count ≤ halfSize) (machine : SpinMachine τ)
    (apart : machine.StackApart count start count) :
    machine.Moved start count (moveArguments count (start + 4 * .ofNat count - 4) machine) := by
  induction count generalizing machine with
  | zero => exact .zero machine start
  | succ count ih =>
    have last : start + 4 * .ofNat (count + 1) - 4 = start + 4 * .ofNat count := by
      rw [UInt32.ofNat_add]
      grind
    rw [last, moveArguments_succ]
    exact .succ aligned fits apart (ih (by omega) _ (apart.moveLast _))

/-! ## Frames from which an interpreter boots -/

/-- Where the first argument goes that is laid out for a stack at an address. -/
def firstArgument (address : UInt32) : UInt32 :=
  (address + 11) &&& 0xFFFFFFFC

lemma firstArgument_aligned (address : UInt32) : (firstArgument address).toNat % 4 = 0 := by
  have low := Nat.and_mod_two_pow (a := (address + 11).toNat) (b := UInt32.toNat 0xFFFFFFFC) (n := 2)
  rw [firstArgument, UInt32.toNat_and]
  exact low.trans (Nat.and_zero _)

/-- The four words from which a new interpreter boots. -/
def bootWords (place : UInt32) (object vars pc stack : UInt16) (memory : Memory) : Memory :=
  (((memory.writeWord (place - 8) object).writeWord (place - 6) vars).writeWord
    (place - 4) pc).writeWord (place - 2) stack

/-- A frame from which a new interpreter boots, and behind it the arguments of its first method. -/
structure Laid (memory : Memory) (place : UInt32) (first : Invocation) : Prop where
  object : memory.readWord (place - 8) = first.object.toUInt16
  vars : memory.readWord (place - 6) = first.vars.toUInt16
  pc : memory.readWord (place - 4) = (first.object + first.start.toUInt32).toUInt16
  stack : memory.readWord (place - 2)
    = (place + 4 * .ofNat first.arguments.length + first.size.toUInt32 + 4).toUInt16
  argument : ∀ i (_ : i < first.arguments.length),
    memory.readLong (place + 4 * .ofNat i) = first.arguments[i]

/-- The frame and so many arguments lie in the lower half of hub memory. -/
structure LaidFits (place : UInt32) (count : Nat) : Prop where
  low : 8 ≤ place.toNat % 65536
  high : place.toNat % 65536 + 4 * count ≤ halfSize

/-- An address that is a little below another one. -/
lemma toNat_sub_of_le {place k : UInt32} (h : k.toNat ≤ place.toNat % 65536) :
    (place - k).toNat % 65536 = place.toNat % 65536 - k.toNat := by
  rw [UInt32.toNat_sub_of_le]
  · omega
  · rw [UInt32.le_iff_toNat_le]
    omega

namespace LaidFits

variable {place : UInt32} {count : Nat}

/-- Where the words of the frame are. -/
lemma toNat_word (fits : LaidFits place count) {k : UInt32} (small : k.toNat ≤ 8) :
    (place - k).toNat % 65536 = place.toNat % 65536 - k.toNat :=
  toNat_sub_of_le (Nat.le_trans small fits.low)

/-- Where the arguments are. -/
lemma toNat_argument (fits : LaidFits place count) {i : Nat} (hi : i ≤ count) :
    (place + 4 * .ofNat i).toNat % 65536 = place.toNat % 65536 + 4 * i := by
  have high := fits.high
  simp only [halfSize] at high
  exact toNat_add_longs (by omega)

/-- What is in the frame or one of the arguments. -/
lemma inLongs_iff (fits : LaidFits place count) {address : UInt32} :
    InLongs (place - 8) (count + 2) address
      ↔ place.toNat % 65536 ≤ address.toNat % 65536 + 8
        ∧ address.toNat % 65536 < place.toNat % 65536 + 4 * count := by
  have low := fits.low
  rw [InLongs, fits.toNat_word (k := 8) (by decide), show UInt32.toNat 8 = 8 from rfl]
  omega

/-- The frame is made of whole longs. -/
lemma row_aligned (fits : LaidFits place count) (aligned : place.toNat % 4 = 0) :
    (place - 8).toNat % 4 = 0 := by
  have low := fits.low
  have row := fits.toNat_word (k := 8) (by decide)
  rw [show UInt32.toNat 8 = 8 from rfl] at row
  omega

end LaidFits

section Frame

variable {memory : Memory} {place : UInt32} {first : Invocation} {count : Nat}

lemma sameOutside_bootWords (fits : LaidFits place count) (aligned : place.toNat % 4 = 0)
    (object vars pc stack : UInt16) :
    SameOutside (place - 8) (count + 2) memory (bootWords place object vars pc stack memory) := by
  have row := fits.row_aligned aligned
  have inside (k : UInt32) (low : 2 ≤ k.toNat) (high : k.toNat ≤ 8) :
      InLongs (place - 8) (count + 2) (place - k) := by
    have bottom := fits.low
    rw [fits.inLongs_iff, fits.toNat_word high]
    omega
  exact (((SameOutside.writeWord_of_inLongs row (inside 8 (by decide) (by decide)) object).trans
    (.writeWord_of_inLongs row (inside 6 (by decide) (by decide)) vars)).trans
    (.writeWord_of_inLongs row (inside 4 (by decide) (by decide)) pc)).trans
    (.writeWord_of_inLongs row (inside 2 (by decide) (by decide)) stack)

/-- The words stand where they were written. -/
lemma readWord_bootWords (memory : Memory) (fits : LaidFits place count) (aligned : place.toNat % 4 = 0)
    (object vars pc stack : UInt16) :
    let after := bootWords place object vars pc stack memory
    after.readWord (place - 8) = object ∧ after.readWord (place - 6) = vars
      ∧ after.readWord (place - 4) = pc ∧ after.readWord (place - 2) = stack := by
  have low := fits.low
  have high := fits.high
  have at8 := fits.toNat_word (k := 8) (by decide)
  have at6 := fits.toNat_word (k := 6) (by decide)
  have at4 := fits.toNat_word (k := 4) (by decide)
  have at2 := fits.toNat_word (k := 2) (by decide)
  simp only [UInt32.reduceToNat] at at8 at6 at4 at2
  refine ⟨?_, ?_, ?_, ?_⟩
  · rw [bootWords, readWord_writeWord_of_ne _ (by omega), readWord_writeWord_of_ne _ (by omega),
      readWord_writeWord_of_ne _ (by omega), readWord_writeWord _ rfl (by omega)]
  · rw [bootWords, readWord_writeWord_of_ne _ (by omega), readWord_writeWord_of_ne _ (by omega),
      readWord_writeWord _ rfl (by omega)]
  · rw [bootWords, readWord_writeWord_of_ne _ (by omega), readWord_writeWord _ rfl (by omega)]
  · rw [bootWords, readWord_writeWord _ rfl (by omega)]

/-- A long that is written elsewhere does no harm to the frame. -/
lemma Laid.writeLong (laid : Laid memory place first) (fits : LaidFits place first.arguments.length)
    (aligned : place.toNat % 4 = 0) {address : UInt32}
    (apart : ¬ InLongs (place - 8) (first.arguments.length + 2) address) (value : UInt32) :
    Laid (memory.writeLong address value) place first := by
  have low := fits.low
  rw [fits.inLongs_iff] at apart
  have word (k : UInt32) (above : 2 ≤ k.toNat) (below : k.toNat ≤ 8) :
      (memory.writeLong address value).readWord (place - k) = memory.readWord (place - k) := by
    refine readWord_writeLong_of_ne _ ?_ _
    rw [fits.toNat_word below]
    omega
  refine ⟨?_, ?_, ?_, ?_, fun i hi => ?_⟩
  · rw [word 8 (by decide) (by decide), laid.object]
  · rw [word 6 (by decide) (by decide), laid.vars]
  · rw [word 4 (by decide) (by decide), laid.pc]
  · rw [word 2 (by decide) (by decide), laid.stack]
  · have argument := fits.toNat_argument (Nat.le_of_lt hi)
    rw [readLong_writeLong_of_ne, laid.argument i hi]
    omega

end Frame

/-- **An interpreter that boots from a frame** begins with the method that it was laid out for. -/
theorem begins_boot {body : CogBody τ} {hub : Hub} {place : UInt32} {first : Invocation}
    (fits : LaidFits place first.arguments.length) (aligned : place.toNat % 4 = 0)
    (laid : Laid hub.memory place first)
    (par : body.cell SpecialRegister.par.address = place.toUInt16.toUInt32) :
    (SpinFrames.boot body hub).Begins first := by
  let frame := body.cell SpecialRegister.par.address &&& 0xFFFF
  have short : frame.toUInt16 = place.toUInt16 := by
    show (body.cell SpecialRegister.par.address &&& 0xFFFF).toUInt16 = _
    rw [par, UInt32.toUInt16_and, UInt16.toUInt16_toUInt32]
    exact UInt16.and_neg_one
  have below (k : UInt32) : (frame - k).toUInt16 = (place - k).toUInt16 := by
    rw [UInt32.toUInt16_sub, UInt32.toUInt16_sub, short]
  have modulo : frame.toNat % 65536 = place.toNat % 65536 := by
    rw [← UInt32.toNat_toUInt16, ← UInt32.toNat_toUInt16, short]
  have low := fits.low
  have high := fits.high
  have frameFits : LaidFits frame first.arguments.length := ⟨by omega, by omega⟩
  have at8 := frameFits.toNat_word (k := 8) (by decide)
  have at4 := frameFits.toNat_word (k := 4) (by decide)
  simp only [UInt32.reduceToNat] at at8 at4
  constructor
  · show (hub.memory.readWord (frame - 8)).toUInt32.toUInt16 = _
    rw [readWord_eq_of_toUInt16 _ (below 8), laid.object, UInt16.toUInt16_toUInt32]
  · show (hub.memory.readWord (frame - 6)).toUInt32.toUInt16 = _
    rw [readWord_eq_of_toUInt16 _ (below 6), laid.vars, UInt16.toUInt16_toUInt32]
  · show (hub.memory.readWord (frame - 4)).toUInt32.toUInt16 = _
    rw [readWord_eq_of_toUInt16 _ (below 4), laid.pc, UInt16.toUInt16_toUInt32]
  · show ((hub.memory.writeLong (frame - 8) Word.ones).writeLong (frame - 4) 0).readLong (frame - 4)
      = 0
    exact readLong_writeLong _ (by omega) _
  · intro i hi
    show ((hub.memory.writeLong (frame - 8) Word.ones).writeLong (frame - 4) 0).readLong
      (frame - 4 + 4 * .ofNat (i + 1)) = _
    have behind : frame - 4 + 4 * .ofNat (i + 1) = frame + 4 * .ofNat i := by
      rw [UInt32.ofNat_add]
      grind
    have same : (frame + 4 * .ofNat i).toUInt16 = (place + 4 * .ofNat i).toUInt16 := by
      rw [UInt32.toUInt16_add, UInt32.toUInt16_add, short]
    have argument := frameFits.toNat_argument (Nat.le_of_lt hi)
    -- neither of the two longs that the interpreter sets is an argument
    rw [behind, readLong_writeLong_of_ne _ (by omega), readLong_writeLong_of_ne _ (by omega),
      readLong_eq_of_toUInt16 _ same, laid.argument i hi]
  · show ((hub.memory.readWord (frame - 2)).toUInt32 - 4).toUInt16
      = (frame - 4 + 4 + 4 * .ofNat first.arguments.length + first.size.toUInt32).toUInt16
    rw [readWord_eq_of_toUInt16 _ (below 2), laid.stack]
    simp only [UInt32.toUInt16_sub, UInt32.toUInt16_add, UInt16.toUInt16_toUInt32, short]
    grind

/-! ## Starting a method in another cog -/

/-- The address of the long in which the interpreter finds the number of the cog to start. -/
def startSlot (machine : SpinMachine τ) : UInt32 :=
  machine.body.cell frameCell - 4

/-- The interpreter is about to start a method in another cog, and to push which one.  The
arguments of the method are on its stack, then a word with their number and the method's, then the
address of the new stack. -/
structure Launches (machine : SpinMachine τ) (arguments : List UInt32) (packed address : UInt32) :
    Prop where
  announced : machine.frames.startsMethod
  code : machine.code = 0x28
  operands : machine.OnStack (arguments ++ [packed] ++ [address])
  count : (packed >>> 8).toUInt8.toNat = arguments.length

/-- There is room in the lower half for the new frame and its arguments, and what the interpreter
itself keeps in memory is somewhere else: the operands on its stack, and the number of the cog. -/
structure LaunchRoom (machine : SpinMachine τ) (place : UInt32) (count : Nat) : Prop where
  fits : LaidFits place count
  stack : machine.StackApart (count + 2) (place - 8) (count + 2)
  slot : ¬ InLongs (place - 8) (count + 2) machine.startSlot

/-- The machine when it has laid out the frame of another cog, with arguments from its stack. -/
def layFrame (machine : SpinMachine τ) (place : UInt32) (first : Invocation) : SpinMachine τ :=
  moveArguments first.arguments.length (place + 4 * .ofNat first.arguments.length - 4)
    (machine.withMemory
      (bootWords place first.object.toUInt16 first.vars.toUInt16
        (first.object + first.start.toUInt32).toUInt16
        (place + 4 * .ofNat first.arguments.length + first.size.toUInt32 + 4).toUInt16))

lemma withStack_hub (machine : SpinMachine τ) (stack : UInt32) :
    (machine.withStack stack).hub = machine.hub :=
  rfl

lemma withStack_stack (machine : SpinMachine τ) (stack : UInt32) :
    (machine.withStack stack).frames.stack = stack :=
  rfl

lemma withStack_object (machine : SpinMachine τ) (stack : UInt32) :
    (machine.withStack stack).frames.object = machine.frames.object :=
  rfl

lemma withStack_vars (machine : SpinMachine τ) (stack : UInt32) :
    (machine.withStack stack).frames.vars = machine.frames.vars :=
  rfl

/-- The machine when two longs were taken from its stack. -/
def popTwo (machine : SpinMachine τ) : SpinMachine τ :=
  machine.withStack (machine.frames.stack - 4 - 4)

/-- **How the frame of the new cog is laid out**, and what the hub is asked for then. -/
lemma startMethod_eq [Timebase τ] (machine : SpinMachine τ) {arguments : List UInt32}
    {packed address : UInt32} (operands : machine.OnStack (arguments ++ [packed] ++ [address]))
    (count : (packed >>> 8).toUInt8.toNat = arguments.length) :
    machine.startMethod =
      let place := firstArgument address
      let laid := machine.popTwo.layFrame place (machine.invocation packed.toUInt8 arguments)
      (laid.withMemory (·.writeLong laid.startSlot Word.ones)).service .startCog
        (startArgument ((interpreterEntry <<< 2) ||| (place <<< 16))
          (laid.hub.memory.readLong laid.startSlot)) := by
  obtain ⟨top, operands⟩ := operands.last
  obtain ⟨below, -⟩ := operands.last
  have byte (word : UInt32) : word &&& 0xFF = word.toUInt8.toUInt32 := by
    apply UInt32.toNat_inj.mp
    rw [UInt32.toNat_and, UInt8.toNat_toUInt32, UInt32.toNat_toUInt8]
    exact Nat.and_two_pow_sub_one_eq_mod _ 8
  have number : (packed >>> 8) &&& 0xFF = .ofNat arguments.length := by
    rw [byte, ← count, UInt32.ofNat_uInt8ToNat]
  have few : (UInt32.ofNat arguments.length).toNat = arguments.length := by
    have := (packed >>> 8).toUInt8.toNat_lt
    rw [UInt32.toNat_ofNat']
    omega
  change machine.hub.memory.readLong (machine.frames.stack - 4 - 4) = packed at below
  have commuted (word : UInt32) : word + (.ofNat arguments.length * 4 + firstArgument address - 4)
      + 4 + 4 = firstArgument address + 4 * .ofNat arguments.length + word + 4 := by grind
  have last : .ofNat arguments.length * 4 + firstArgument address - 4
      = firstArgument address + 4 * .ofNat arguments.length - 4 := by grind
  simp only [startMethod, pop, withStack_hub, withStack_stack, withStack_object, withStack_vars, top,
    below, number, few, byte]
  rw [← firstArgument, commuted, last, UInt32.add_comm _ machine.frames.object]
  rfl

/-- The frame is laid out, and everything but its bytes and the end of the stack is as it was. -/
structure LaidOut (before : SpinMachine τ) (place : UInt32) (first : Invocation)
    (after : SpinMachine τ) : Prop where
  laid : Laid after.hub.memory place first
  outside : SameOutside (place - 8) (first.arguments.length + 2) before.hub.memory after.hub.memory
  rest : after = (before.withStack (before.frames.stack - 4 * .ofNat first.arguments.length)).withMemory
    fun _ => after.hub.memory

namespace LaidOut

variable {before laid : SpinMachine τ} {place : UInt32} {first : Invocation}

lemma hub (out : LaidOut before place first laid) :
    laid.hub = { before.hub with memory := laid.hub.memory } :=
  congrArg (·.hub) out.rest

lemma stack (out : LaidOut before place first laid) :
    laid.frames.stack = before.frames.stack - 4 * .ofNat first.arguments.length :=
  congrArg (·.frames.stack) out.rest

lemma startSlot (out : LaidOut before place first laid) : laid.startSlot = before.startSlot :=
  (congrArg SpinMachine.startSlot out.rest).trans rfl

/-- The number of the cog to start is left alone, if it stands beside the frame. -/
lemma readLong_startSlot (out : LaidOut before place first laid)
    (fits : LaidFits place first.arguments.length) (aligned : place.toNat % 4 = 0)
    (apart : ¬ InLongs (place - 8) (first.arguments.length + 2) before.startSlot) :
    laid.hub.memory.readLong laid.startSlot = before.hub.memory.readLong before.startSlot := by
  rw [out.startSlot]
  exact out.outside.readLong (fits.row_aligned aligned) apart

end LaidOut

/-- Arguments from the stack make up a frame, if they do not stand where it is laid out. -/
lemma laidOut_layFrame {machine : SpinMachine τ} {place : UInt32} {first : Invocation}
    (fits : LaidFits place first.arguments.length) (aligned : place.toNat % 4 = 0)
    (apart : machine.StackApart first.arguments.length (place - 8) (first.arguments.length + 2))
    (operands : machine.OnStack first.arguments) :
    LaidOut machine place first (machine.layFrame place first) := by
  let framed := machine.withMemory
    (bootWords place first.object.toUInt16 first.vars.toUInt16
      (first.object + first.start.toUInt32).toUInt16
      (place + 4 * .ofNat first.arguments.length + first.size.toUInt32 + 4).toUInt16)
  obtain ⟨object, vars, pc, stack⟩ := readWord_bootWords machine.hub.memory fits aligned
    first.object.toUInt16 first.vars.toUInt16 (first.object + first.start.toUInt32).toUInt16
    (place + 4 * .ofNat first.arguments.length + first.size.toUInt32 + 4).toUInt16
  have framedOutside : SameOutside (place - 8) (first.arguments.length + 2) machine.hub.memory
    framed.hub.memory := sameOutside_bootWords fits aligned _ _ _ _
  have low := fits.low
  -- the arguments are the row behind the four words
  have widen {address : UInt32} (inside : InLongs place first.arguments.length address) :
      InLongs (place - 8) (first.arguments.length + 2) address := by
    rw [fits.inLongs_iff]
    exact ⟨Nat.le_add_right_of_le inside.1, inside.2⟩
  have moved : Moved framed place first.arguments.length (machine.layFrame place first) :=
    moved_moveArguments aligned _ fits.high framed fun k hk inside => apart k hk (widen inside)
  have word (k : UInt32) (above : 2 ≤ k.toNat) (below : k.toNat ≤ 8) :
      (machine.layFrame place first).hub.memory.readWord (place - k)
        = framed.hub.memory.readWord (place - k) := by
    refine moved.outside.readWord aligned ?_
    rw [InLongs, fits.toNat_word below]
    omega
  refine ⟨⟨?_, ?_, ?_, ?_, fun i hi => ?_⟩, ?_, ?_⟩
  · exact (word 8 (by decide) (by decide)).trans object
  · exact (word 6 (by decide) (by decide)).trans vars
  · exact (word 4 (by decide) (by decide)).trans pc
  · exact (word 2 (by decide) (by decide)).trans stack
  · rw [moved.argument i hi, ← operands i hi]
    have far := apart (first.arguments.length - i - 1) (by omega)
    rw [show first.arguments.length - i - 1 + 1 = first.arguments.length - i by omega] at far
    exact framedOutside.readLong (fits.row_aligned aligned) far
  · exact framedOutside.trans fun address outside =>
      moved.outside address fun inside => outside (widen inside)
  · exact moved.rest

/-- The frame is laid out when the two longs that tell about the method were taken from the stack. -/
lemma laidOut_launch {ready : SpinMachine τ} {packed address : UInt32} (place : UInt32)
    (first : Invocation)
    (fits : LaidFits place first.arguments.length) (aligned : place.toNat % 4 = 0)
    (apart : ready.StackApart (first.arguments.length + 2) (place - 8) (first.arguments.length + 2))
    (operands : ready.OnStack (first.arguments ++ [packed] ++ [address])) :
    LaidOut ready.popTwo place first (ready.popTwo.layFrame place first) := by
  refine laidOut_layFrame fits aligned (fun k hk => ?_) operands.last.2.last.2
  have far := apart (k + 2) (by omega)
  rw [← sub_longs_succ, ← sub_longs_succ] at far
  exact far

variable [Timebase τ]

lemma execute_startCog {machine : SpinMachine τ} (code : machine.code = 0x28)
    (announced : machine.frames.startsMethod) :
    machine.execute
      = (pushAnswer (machine.next.withFrames ({ · with startsMethod := false })).startMethod
        true).done := by
  have decoded : SpecialOp.decode? machine.code = some (.startCog true) := by
    rw [code]
    decide
  rw [execute_of_decode machine decoded]
  show (pushAnswer machine.next.startCog true).done = _
  rw [startCog]
  have same : machine.next.frames.startsMethod = true := announced
  rw [if_pos same]

/-- **A launch lays out the frame** and, if there is a cog for it, asks the hub to start an
interpreter there. -/
theorem launched {machine : SpinMachine τ} {arguments : List UInt32} {packed address : UInt32}
    (launches : machine.Launches arguments packed address)
    (room : machine.LaunchRoom (firstArgument address) arguments.length) :
    machine.execute.fault? = none
      ∧ Laid machine.execute.machine.hub.memory (firstArgument address)
        (machine.invocation packed.toUInt8 arguments)
      ∧ ∀ cog, machine.hub.chooseCog? (choice (machine.hub.memory.readLong machine.startSlot))
          = some cog →
        machine.execute.machine.hub.queue = machine.hub.queue
          ++ Hub.startRequests machine.hub.running cog
            ⟨(firstArgument address).toUInt16.toUInt32, interpreterEntry,
              choice (machine.hub.memory.readLong machine.startSlot)⟩ := by
  let place := firstArgument address
  let first := machine.invocation packed.toUInt8 arguments
  let ready := machine.next.withFrames ({ · with startsMethod := false })
  have aligned : place.toNat % 4 = 0 := firstArgument_aligned address
  have operands : ready.OnStack (arguments ++ [packed] ++ [address]) := launches.operands
  have out : LaidOut ready.popTwo place first (ready.popTwo.layFrame place first) :=
    laidOut_launch place first room.fits aligned room.stack operands
  have started := ready.startMethod_eq operands launches.count
  change ready.startMethod = (SpinMachine.withMemory (ready.popTwo.layFrame place first)
    (·.writeLong (ready.popTwo.layFrame place first).startSlot Word.ones)).service .startCog
      (startArgument ((interpreterEntry <<< 2) ||| (place <<< 16))
        ((ready.popTwo.layFrame place first).hub.memory.readLong
          (ready.popTwo.layFrame place first).startSlot)) at started
  generalize ready.popTwo.layFrame place first = laid at out started
  have hub : laid.hub = { machine.hub with memory := laid.hub.memory } := out.hub
  have slot : laid.startSlot = machine.startSlot := out.startSlot
  have named : laid.hub.memory.readLong laid.startSlot
      = machine.hub.memory.readLong machine.startSlot :=
    out.readLong_startSlot room.fits aligned room.slot
  let request : StartRequest := ⟨place.toUInt16.toUInt32, interpreterEntry,
    choice (machine.hub.memory.readLong machine.startSlot)⟩
  let asked := laid.withMemory (·.writeLong laid.startSlot Word.ones)
  rw [named, service_startArgument _ aligned] at started
  rw [execute_startCog launches.code launches.announced, started]
  refine ⟨rfl, ?_, fun number chosen => ?_⟩
  · have written : Laid asked.hub.memory place first :=
      out.laid.writeLong room.fits aligned (by rw [slot]; exact room.slot) _
    have kept : Laid (asked.hub.startCog request).2.memory place first := by
      rw [Hub.memory_startCog]
      exact written
    -- the answer is pushed where the arguments began
    refine kept.writeLong room.fits aligned ?_ _
    have stack : laid.frames.stack
        = machine.frames.stack - 4 - 4 - 4 * .ofNat arguments.length := out.stack
    show ¬ InLongs _ _ laid.frames.stack
    rw [stack, sub_longs_succ, sub_longs_succ]
    exact room.stack (arguments.length + 1) (by omega)
  · have same : asked.hub.chooseCog? request.cog = some number := by
      show (laid.hub.withMemory _).chooseCog? request.cog = _
      rw [hub]
      exact chosen
    show (asked.hub.startCog request).2.queue = _
    rw [Hub.startCog_of_some same]
    show laid.hub.queue ++ Hub.startRequests laid.hub.running _ _ = _
    rw [hub]

/-- **A method that is started in another cog begins as if it were called.**  The interpreter that
starts it raises no fault.  If the program names a cog, or one is free, the hub is asked to stop
that cog if it runs, and to start an interpreter there, with the address of the frame as its
parameter.  An interpreter that boots with this parameter is where a caller is that has the same
object and variables, opens a frame, pushes the same arguments and calls the method. -/
theorem launched_as_called {machine : SpinMachine τ} {arguments : List UInt32}
    {packed address : UInt32} (launches : machine.Launches arguments packed address)
    (room : machine.LaunchRoom (firstArgument address) arguments.length) :
    let parameter := (firstArgument address).toUInt16.toUInt32
    let first := machine.invocation packed.toUInt8 arguments
    machine.execute.fault? = none ∧
      (∀ cog, machine.hub.chooseCog? (choice (machine.hub.memory.readLong machine.startSlot))
          = some cog →
        machine.execute.machine.hub.queue = machine.hub.queue
          ++ (if BitSet8.contains machine.hub.running cog then [.stop cog] else [])
          ++ [.start cog .interpreted interpreterEntry parameter]) ∧
      (∀ (body : CogBody τ) (hub : Hub), body.cell SpecialRegister.par.address = parameter →
        hub.memory = machine.execute.machine.hub.memory → (SpinFrames.boot body hub).Begins first) ∧
      ∀ (caller : SpinMachine τ) (pc : UInt32), caller.OwnCall packed.toUInt8 arguments pc →
        caller.invocation packed.toUInt8 arguments = first →
        (caller.readyToCall arguments pc).execute.machine.Begins first := by
  intro parameter first
  obtain ⟨fault, laid, queue⟩ := launched launches room
  refine ⟨fault, fun cog chosen => ?_, fun body hub par same => ?_, fun caller pc call same => ?_⟩
  · rw [queue cog chosen, Hub.startRequests, List.append_assoc]
    rfl
  · rw [← same] at laid
    exact begins_boot room.fits (firstArgument_aligned address) laid par
  · rw [← same]
    exact (begins_call call).2

/-! ### A method with one argument -/

/-- An object at `40`, whose first method starts at `50` and has eight bytes of variables.  At 0
the method is started with an argument, for which everything is on the stack at `100`; at 1 a frame
is opened, and at 2 the method is called. -/
def launchMemory : Memory :=
  [(0x00, 0x28), (0x02, 0x05), (0x03, 0x01), (0x44, 0x10), (0x46, 0x08),
    (0x100, 0x07), (0x104, 0x01), (0x105, 0x01), (0x109, 0x02)].foldl
    (fun memory (entry : UInt16 × UInt8) => memory.setByte entry.1 entry.2)
    ⟨.replicate halfSize 0, .replicate halfSize 0⟩

/-- The interpreter at an address, when its stack ends at another one and its first frame is said to
be at a third one. -/
def launchMachine (pc stack frame : UInt32) : SpinMachine Rat where
  frames :=
    { SpinFrames.new with object := 0x40, vars := 0x80, locals := 0x90, stack, startsMethod := true }
  body := { (CogBody.new 0 0 0 0).setCell frameCell frame with pc }
  hub := .new launchMemory

/-- Cog 0, when it has loaded the interpreter and is about to boot from the frame at `208`. -/
def launchedBody : CogBody Rat :=
  .new 0 interpreterEntry 0x208 0

/-- The method begins in cog 0, whose number is in the long below the first frame, and it begins
when it is called. -/
theorem launched_as_called_oneArgument :
    let first := (launchMachine 0 0x10C 0xFC).invocation 1 [7]
    (launchMachine 0 0x10C 0xFC).execute.machine.hub.queue
        = [.start 0 .interpreted interpreterEntry 0x208]
      ∧ (SpinFrames.boot launchedBody (launchMachine 0 0x10C 0xFC).execute.machine.hub).Begins first
      ∧ ((launchMachine 1 0x100 0xFC).readyToCall [7] 2).execute.machine.Begins first := by
  intro first
  have launches : (launchMachine 0 0x10C 0xFC).Launches [7] 0x101 0x200 :=
    ⟨by decide, by decide +kernel, by decide +kernel, by decide⟩
  have room : (launchMachine 0 0x10C 0xFC).LaunchRoom (firstArgument 0x200) 1 :=
    ⟨⟨by decide, by decide⟩, by decide +kernel, by decide +kernel⟩
  have opens : (launchMachine 1 0x100 0xFC).Opens := by
    show (launchMachine 1 0x100 0xFC).code < 4
    decide +kernel
  have call : (launchMachine 1 0x100 0xFC).OwnCall 1 [7] 2 :=
    ⟨opens, by decide, by decide, by decide +kernel, by decide +kernel, by decide,
      by decide⟩
  obtain ⟨-, queue, boot, called⟩ := launched_as_called launches room
  exact ⟨queue 0 (by decide +kernel), boot _ _ (by decide +kernel) rfl, called _ _ call rfl⟩

/-- If the first frame is said to be where the argument goes, the argument is lost, though the new
frame is apart from the stack and from the method's entry. -/
theorem not_begins_of_slot :
    let machine := launchMachine 0 0x10C 0x20C
    machine.Launches [7] 0x101 0x200 ∧ LaidFits (firstArgument 0x200) 1
      ∧ machine.StackApart 3 (firstArgument 0x200 - 8) 3
      ∧ ¬ InLongs (firstArgument 0x200 - 8) 3 (methodEntry machine.frames.object 1)
      ∧ ¬ (SpinFrames.boot launchedBody machine.execute.machine.hub).Begins
        (machine.invocation 1 [7]) := by
  intro machine
  refine ⟨⟨by decide, by decide +kernel, by decide +kernel, by decide⟩, ⟨by decide, by decide⟩,
    by decide +kernel, by decide, fun begins => ?_⟩
  have argument := begins.argument 0 (Nat.zero_lt_one)
  revert argument
  show ¬ (SpinFrames.boot launchedBody machine.execute.machine.hub).hub.memory.readLong _ = 7
  decide +kernel

end SpinMachine

end P1Chip
