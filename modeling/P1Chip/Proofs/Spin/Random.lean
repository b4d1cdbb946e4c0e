import Mathlib.Data.List.Count
import Mathlib.Data.List.Perm.Basic
import Mathlib.Logic.Function.Iterate
import P1Chip.Proofs.Spin.Updates

/-!
# The pseudo-random sequence in both directions

The pseudo-random sequence comes from a shift register that moves by 32 steps at a time, forwards
or backwards.  Each of its steps has an inverse, and only zero leads to zero, so going forwards and
backwards undo each other on all words but zero, which one stands in for.

A program goes through the sequence by updates of a variable.  In whatever order the updates come,
it is only their number that counts, as long as the variable has all bits of a word.  A shorter one
keeps but the low bits of each value, and they do not lead back.

* `Spin.randomStepBack_randomStep`, `Spin.randomStep_randomStepBack` — single steps.
* **`Spin.randomReverse_randomForward`**, **`Spin.randomForward_randomReverse`** — 32 of them.
* `RandomDirection` — the two updates.
* **`RandomDirection.foldl_value`** — any number of updates of a word, in any order.
* `VariablePlace` — a variable in hub memory, or a register.
* `SpinMachine.Draws`, `SpinMachine.Drawn` — the bytecodes that update it.
* **`SpinMachine.random_counted`** — any number of them, if the variable has all bits of a word.
* `SpinMachine.not_random_counted_byte` — two of them, if it is a byte.
-/

namespace P1Chip

namespace Spin

/-! ## Single steps -/

/-- A bit of a word, counted from the lowest. -/
def bitOf (x : UInt32) (place : Nat) : Bool :=
  x.toBitVec.getLsbD place

lemma eq_of_bitOf {x y : UInt32} (same : ∀ place < 32, bitOf x place = bitOf y place) : x = y :=
  UInt32.toBitVec_inj.mp (BitVec.eq_of_getLsbD_eq same)

/-- A step to the right moves all bits but the last one. -/
lemma bitOf_randomStep (x : UInt32) {place : Nat} (inner : place < 31) :
    bitOf (randomStep x) place = bitOf x (place + 1) := by
  simp [bitOf, randomStep, Nat.add_comm, inner]

lemma bitOf_randomStep_last (x : UInt32) :
    bitOf (randomStep x) 31 = (bitOf x 0 ^^ bitOf x 1 ^^ bitOf x 2 ^^ bitOf x 4) := by
  simp [bitOf, randomStep]

/-- A step to the left moves all bits but the first one. -/
lemma bitOf_randomStepBack (x : UInt32) {place : Nat} (inner : place < 31) :
    bitOf (randomStepBack x) (place + 1) = bitOf x place := by
  simp [bitOf, randomStepBack]
  omega

lemma bitOf_randomStepBack_first (x : UInt32) :
    bitOf (randomStepBack x) 0 = (bitOf x 0 ^^ bitOf x 1 ^^ bitOf x 3 ^^ bitOf x 31) := by
  simp [bitOf, randomStepBack]

/-- The taps of one direction, moved by a step, are three of the taps of the other one. -/
lemma randomStepBack_randomStep (x : UInt32) : randomStepBack (randomStep x) = x := by
  apply eq_of_bitOf
  intro place within
  cases place with
  | zero =>
    rw [bitOf_randomStepBack_first, bitOf_randomStep_last, bitOf_randomStep x (by decide),
      bitOf_randomStep x (by decide), bitOf_randomStep x (by decide)]
    cases bitOf x 0 <;> cases bitOf x 1 <;> cases bitOf x 2 <;> cases bitOf x 4 <;> rfl
  | succ place => rw [bitOf_randomStepBack _ (by omega), bitOf_randomStep x (by omega)]

lemma randomStep_randomStepBack (x : UInt32) : randomStep (randomStepBack x) = x := by
  apply eq_of_bitOf
  intro place within
  by_cases last : place = 31
  · subst last
    rw [bitOf_randomStep_last, bitOf_randomStepBack_first, bitOf_randomStepBack x (by decide),
      bitOf_randomStepBack x (by decide), bitOf_randomStepBack x (by decide)]
    cases bitOf x 0 <;> cases bitOf x 1 <;> cases bitOf x 3 <;> cases bitOf x 31 <;> rfl
  · rw [bitOf_randomStep _ (by omega), bitOf_randomStepBack x (by omega)]

/-! ## The two directions -/

lemma repeat_eq_iterate {α : Type} (f : α → α) (count : Nat) (x : α) :
    Nat.repeat f count x = f^[count] x := by
  induction count with
  | zero => rfl
  | succ count ih => rw [Nat.repeat, ih, Function.iterate_succ_apply']

lemma randomForward_eq (x : UInt32) : randomForward x = randomStep^[32] (randomSeed x) :=
  repeat_eq_iterate ..

lemma randomReverse_eq (x : UInt32) : randomReverse x = randomStepBack^[32] (randomSeed x) :=
  repeat_eq_iterate ..

lemma randomSeed_ne_zero (x : UInt32) : randomSeed x ≠ 0 := by
  rw [randomSeed]
  split
  · decide
  · assumption

lemma randomSeed_of_ne_zero {x : UInt32} (nonzero : x ≠ 0) : randomSeed x = x :=
  if_neg nonzero

/-- A function that has an inverse and leaves zero where it is leads nothing else to zero, however
often it is applied. -/
lemma iterate_ne_zero {step back : UInt32 → UInt32} (undone : Function.LeftInverse back step)
    (fixed : step 0 = 0) (count : Nat) {x : UInt32} (nonzero : x ≠ 0) : step^[count] x ≠ 0 :=
  fun zero => nonzero
    (undone.injective.iterate count (zero.trans (Function.iterate_fixed fixed count).symm))

/-- **Forwards never gives zero.** -/
theorem randomForward_ne_zero (x : UInt32) : randomForward x ≠ 0 := by
  rw [randomForward_eq]
  exact iterate_ne_zero randomStepBack_randomStep rfl 32 (randomSeed_ne_zero x)

/-- **Nor does backwards.** -/
theorem randomReverse_ne_zero (x : UInt32) : randomReverse x ≠ 0 := by
  rw [randomReverse_eq]
  exact iterate_ne_zero randomStep_randomStepBack rfl 32 (randomSeed_ne_zero x)

/-- **Backwards undoes forwards.** -/
theorem randomReverse_randomForward (x : UInt32) :
    randomReverse (randomForward x) = randomSeed x := by
  have undone : Function.LeftInverse randomStepBack randomStep := randomStepBack_randomStep
  rw [randomReverse_eq, randomSeed_of_ne_zero (randomForward_ne_zero x), randomForward_eq]
  exact undone.iterate 32 (randomSeed x)

/-- **Forwards undoes backwards.** -/
theorem randomForward_randomReverse (x : UInt32) :
    randomForward (randomReverse x) = randomSeed x := by
  have undone : Function.LeftInverse randomStep randomStepBack := randomStep_randomStepBack
  rw [randomForward_eq, randomSeed_of_ne_zero (randomReverse_ne_zero x), randomReverse_eq]
  exact undone.iterate 32 (randomSeed x)

end Spin

/-! ## Many updates of a word -/

/-- A direction of the pseudo-random sequence. -/
inductive RandomDirection where
  | forward
  | backward
deriving DecidableEq, Repr

namespace RandomDirection

open Spin

/-- The update of a variable that goes in this direction. -/
def update : RandomDirection → Update
  | forward => .randomForward
  | backward => .randomReverse

/-- The value that comes after another one in this direction. -/
def value : RandomDirection → UInt32 → UInt32
  | forward => randomForward
  | backward => randomReverse

lemma value_comm (first second : RandomDirection) (x : UInt32) :
    second.value (first.value x) = first.value (second.value x) := by
  cases first <;> cases second <;>
    simp only [value, randomReverse_randomForward, randomForward_randomReverse]

instance : RightCommutative fun (x : UInt32) (direction : RandomDirection) => direction.value x :=
  ⟨fun x first second => value_comm first second x⟩

lemma foldl_replicate (direction : RandomDirection) (count : Nat) (x : UInt32) :
    (List.replicate count direction).foldl (fun x direction => direction.value x) x
      = direction.value^[count] x := by
  induction count generalizing x with
  | zero => rfl
  | succ count ih => rw [List.replicate_succ, List.foldl_cons, ih, Function.iterate_succ_apply]

/-- **Only the number counts** of the updates in each direction. -/
theorem foldl_value (directions : List RandomDirection) (x : UInt32) :
    directions.foldl (fun x direction => direction.value x) x
      = randomForward^[directions.count .forward]
          (randomReverse^[directions.count .backward] x) := by
  have sorted : directions.Perm (List.replicate (directions.count .backward) backward
      ++ List.replicate (directions.count .forward) forward) := by
    rw [List.perm_iff_count]
    intro direction
    cases direction <;> simp [List.count_replicate]
  rw [sorted.foldl_eq, List.foldl_append, foldl_replicate, foldl_replicate]
  rfl

end RandomDirection

/-! ## Variables -/

namespace RegisterField

/-- The field that is the whole register. -/
lemma value_whole (word : UInt32) : whole.value word = word := by
  apply UInt32.toNat_inj.mp
  rw [toNat_value]
  show word.toNat / 2 ^ 0 % 2 ^ 32 = word.toNat
  rw [Nat.pow_zero, Nat.div_one, Nat.mod_eq_of_lt word.toNat_lt]

lemma insert_whole (word value : UInt32) : whole.insert word value = value := by
  apply UInt32.toNat_inj.mp
  rw [← value_whole (whole.insert word value), toNat_value_insert]
  exact Nat.mod_eq_of_lt value.toNat_lt

end RegisterField

/-- Where a variable is: at an address of hub memory, or a register of the cog. -/
inductive VariablePlace where
  | memory (size : DataSize) (address : UInt32)
  | register (address : UInt32)
deriving DecidableEq, Repr

namespace VariablePlace

/-- The variable has all bits of a word. -/
def IsWhole : VariablePlace → Prop
  | memory size _ => size = .long
  | register _ => True

/-- What is written there is kept: it is not the ROM, nor a register that shows the hub. -/
def Keeps : VariablePlace → Prop
  | memory _ address => address.toNat % 65536 < halfSize
  | register address => CogBody.IsWritable address

instance (place : VariablePlace) : Decidable place.Keeps :=
  match place with
  | memory _ address => inferInstanceAs (Decidable (address.toNat % 65536 < halfSize))
  | register address => inferInstanceAs (Decidable (CogBody.IsWritable address))

variable {τ : Type}

/-- What a machine has there. -/
def value (machine : SpinMachine τ) : VariablePlace → UInt32
  | memory size address => machine.hub.read size address
  | register address => machine.readRegister address

/-- What is pushed goes to RAM, and never to a variable that keeps nothing. -/
lemma value_push {place : VariablePlace} (fixed : ¬ place.Keeps) (whole : place.IsWhole)
    (machine : SpinMachine τ) (pushed : UInt32) :
    place.value (machine.push pushed) = place.value machine := by
  cases place with
  | memory size address =>
    obtain rfl : size = .long := whole
    exact Memory.readLong_of_rom (machine.hub.memory.rom_writeLong _ pushed) (Nat.not_lt.mp fixed)
  | register address => rfl

variable [Timebase τ]

/-- It is this variable that is updated. -/
def IsUpdatedBy (updating : SpinMachine.Updating τ) : VariablePlace → Prop
  | memory size address => updating = updating.located.updatingAt size address
  | register address =>
    updating = updating.located.updatingRegister address
      ∨ updating = updating.located.updatingField .whole address

variable {updating : SpinMachine.Updating τ} {place : VariablePlace}

lemma before_of_isUpdatedBy (h : place.IsUpdatedBy updating) :
    updating.before = place.value updating.located := by
  cases place with
  | memory size address =>
    rw [h]
    rfl
  | register address =>
    rcases h with h | h
    · rw [h]
      rfl
    · rw [h]
      exact RegisterField.value_whole _

lemma store_register {address : UInt32} (h : (register address).IsUpdatedBy updating)
    (after : SpinMachine τ) (stored : UInt32) :
    updating.store after stored = after.writeRegister address stored := by
  rcases h with h | h
  · rw [h]
    rfl
  · rw [h]
    exact congrArg (after.writeRegister address) (RegisterField.insert_whole _ stored)

/-- What an update leaves in a whole variable, if that keeps it. -/
lemma value_store (whole : place.IsWhole) (h : place.IsUpdatedBy updating)
    (after : SpinMachine τ) (stored : UInt32) :
    place.value (updating.store after stored)
      = if place.Keeps then stored else place.value after := by
  cases place with
  | memory size address =>
    obtain rfl : size = .long := whole
    rw [h]
    show (after.hub.memory.writeLong address stored).readLong address = _
    split
    · next keeps => exact Memory.readLong_writeLong _ keeps stored
    · next fixed =>
      exact Memory.readLong_of_rom (after.hub.memory.rom_writeLong address stored)
        (Nat.not_lt.mp fixed)
  | register address =>
    rw [store_register h]
    show (after.body.writeRegister after.hub.running address stored).readRegister after.hub address
      = _
    split
    · next keeps => exact CogBody.readRegister_writeRegister_self _ _ _ keeps stored
    · next fixed =>
      rw [CogBody.writeRegister_of_not_writable _ _ fixed]
      rfl

end VariablePlace

namespace SpinMachine

open Spin

variable {τ : Type}

lemma namedField_took {machine located : SpinMachine τ} {operation : SpecialOp}
    {field : RegisterField} (h : machine.namedField? operation = some (field, located)) :
    ∃ intake, located = machine.took intake := by
  cases operation with
  | register =>
    cases h
    exact ⟨_, machine.took_nothing.symm⟩
  | registerBit =>
    cases h
    exact ⟨_, machine.pop_took⟩
  | registerBits =>
    cases h
    rw [pop_took, pop_took, took_took]
    exact ⟨_, rfl⟩
  | _ => cases h

lemma applyUpdate_draw (machine : SpinMachine τ) (direction : RandomDirection) (before : UInt32) :
    machine.applyUpdate direction.update before
      = .ok (.same (direction.value before, machine)) := by
  cases direction <;> rfl

variable [Timebase τ] {machine last : SpinMachine τ} {place : VariablePlace}
  {direction : RandomDirection} {directions : List RandomDirection}

/-- But for one, the operations that update something name a field. -/
lemma updatingBy_eq (machine : SpinMachine τ) (operation : SpecialOp) :
    (∃ kind, operation = .specialRegister kind)
      ∨ machine.updatingBy? operation
        = (machine.namedField? operation).bind fun (field, located) =>
          (RegisterAccess.decode? located.code).bind fun access =>
            (located.next.updatingField field access.register).ofKind? access.kind := by
  cases operation with
  | specialRegister kind => exact .inl ⟨kind, rfl⟩
  | _ => exact .inr rfl

lemma updatingBy_took {operation : SpecialOp} {updating : Updating τ}
    (h : machine.updatingBy? operation = some updating) :
    ∃ intake, updating.located = machine.took intake := by
  obtain ⟨kind, rfl⟩ | named := machine.updatingBy_eq operation
  · obtain ⟨-, h⟩ := Option.ite_none_right_eq_some.mp h
    obtain ⟨-, rfl⟩ := Updating.ofKind?_eq_some.mp h
    exact ⟨_, machine.pop_took⟩
  · obtain ⟨⟨field, located⟩, found, h⟩ := Option.bind_eq_some_iff.mp (named.symm.trans h)
    obtain ⟨access, -, h⟩ := Option.bind_eq_some_iff.mp h
    obtain ⟨-, rfl⟩ := Updating.ofKind?_eq_some.mp h
    obtain ⟨intake, rfl⟩ := namedField_took found
    exact ⟨_, (machine.took intake).nextByte_took.trans (machine.took_took intake _)⟩

/-- Until it is found what is updated, code is read and operands are popped. -/
lemma located_took {updating : Updating τ} (h : machine.updating? = some updating) :
    ∃ intake, updating.located = machine.took intake := by
  rw [updating?] at h
  split at h
  · cases h
  · next access classified =>
    obtain ⟨-, rfl⟩ := Updating.ofKind?_eq_some.mp h
    exact ⟨_, (locate_took machine.next access).trans (machine.took_nextByte _)⟩
  · obtain ⟨-, rfl⟩ := Updating.ofKind?_eq_some.mp h
    exact ⟨_, machine.nextByte_took⟩
  · next code classified =>
    obtain ⟨operation, -, h⟩ := Option.bind_eq_some_iff.mp h
    obtain ⟨intake, took⟩ := updatingBy_took h
    exact ⟨_, took.trans (machine.took_nextByte intake)⟩

/-! ## Updates of a variable -/

/-- The next bytecode updates the variable, and goes in the given direction of the sequence. -/
def Draws (place : VariablePlace) (direction : RandomDirection) (machine : SpinMachine τ) : Prop :=
  ∃ updating, machine.updating? = some updating ∧ place.IsUpdatedBy updating
    ∧ (UpdateByte.decode updating.located.code).update = direction.update

/-- The next bytecode finds the given address in hub memory, and updates what is there. -/
def DrawsAt (access : MemoryAccess) (address : UInt32) (direction : RandomDirection)
    (machine : SpinMachine τ) : Prop :=
  BytecodeFamily.classify machine.code = .memory access ∧ access.kind = .update
    ∧ (machine.next.locate access).1 = address
    ∧ (UpdateByte.decode (machine.next.locate access).2.code).update = direction.update

instance (access : MemoryAccess) (address : UInt32) (direction : RandomDirection)
    (machine : SpinMachine τ) : Decidable (machine.DrawsAt access address direction) :=
  inferInstanceAs (Decidable (_ ∧ _))

lemma DrawsAt.draws {access : MemoryAccess} {address : UInt32}
    (h : machine.DrawsAt access address direction) :
    machine.Draws (.memory access.size address) direction := by
  obtain ⟨classified, updates, rfl, asked⟩ := h
  refine ⟨(machine.next.locate access).2.updatingAt access.size (machine.next.locate access).1, ?_,
    rfl, asked⟩
  rw [updating?, classified]
  exact Updating.ofKind?_eq_some.mpr ⟨updates, rfl⟩

/-- A run of a machine with such updates of a variable, one after the other.  In between anything
may happen that leaves the variable alone. -/
inductive Drawn (place : VariablePlace) :
    List RandomDirection → SpinMachine τ → SpinMachine τ → Prop
  | stop (machine : SpinMachine τ) : Drawn place [] machine machine
  | draw {machine last : SpinMachine τ} {direction : RandomDirection}
      {directions : List RandomDirection} (draws : machine.Draws place direction)
      (rest : Drawn place directions machine.execute.machine last) :
      Drawn place (direction :: directions) machine last
  | other {machine between last : SpinMachine τ} {directions : List RandomDirection}
      (same : place.value between = place.value machine)
      (rest : Drawn place directions between last) : Drawn place directions machine last

/-- **One update** of a whole variable. -/
theorem execute_of_draws (whole : place.IsWhole) (draws : machine.Draws place direction) :
    machine.execute.fault? = none
      ∧ place.value machine.execute.machine
        = if place.Keeps then direction.value (place.value machine) else place.value machine := by
  obtain ⟨updating, updates, updated, asked⟩ := draws
  obtain ⟨intake, took⟩ := located_took updates
  have same : place.value updating.located = place.value machine := by
    rw [took]
    cases place <;> rfl
  obtain ⟨push, decoded⟩ : ∃ push, UpdateByte.decode updating.located.code
      = ⟨direction.update, push⟩ := ⟨_, congrArg (UpdateByte.mk · _) asked⟩
  rw [execute_of_updating updates, Updating.outcome,
    update_of_ok decoded (applyUpdate_draw _ direction _),
    VariablePlace.before_of_isUpdatedBy updated, same]
  refine ⟨rfl, (VariablePlace.value_store whole updated _ _).trans ?_⟩
  split
  · rfl
  · next fixed =>
    refine Eq.trans ?_ same
    cases push with
    | false => cases place <;> rfl
    | true =>
      exact (VariablePlace.value_push fixed whole _ _).trans (by cases place <;> rfl)

/-- **A run of updates** of a whole variable. -/
theorem value_of_drawn (whole : place.IsWhole) (drawn : Drawn place directions machine last) :
    place.value last
      = if place.Keeps then
          directions.foldl (fun x direction => direction.value x) (place.value machine)
        else place.value machine := by
  induction drawn with
  | stop machine => split <;> rfl
  | draw draws rest ih =>
    rw [ih, (execute_of_draws whole draws).2]
    split <;> rfl
  | other same rest ih => rw [ih, same]

/-- **The pseudo-random sequence goes both ways**: forwards and backwards undo each other on all
words but zero, which is as good as one, and never lead to zero; and what any updates in the two
directions leave in a whole variable depends on nothing but how many there are of each.  A variable
that keeps what is written goes that many steps in the sequence, and any other stays as it is. -/
theorem random_counted :
    (∀ x, randomReverse (randomForward x) = (if x = 0 then 1 else x)
        ∧ randomForward (randomReverse x) = (if x = 0 then 1 else x)
        ∧ randomForward x ≠ 0 ∧ randomReverse x ≠ 0)
      ∧ ∀ (place : VariablePlace), place.IsWhole →
        ∀ (directions : List RandomDirection) (machine last : SpinMachine τ),
          Drawn place directions machine last →
          (place.Keeps → place.value last = randomForward^[directions.count .forward]
            (randomReverse^[directions.count .backward] (place.value machine)))
          ∧ (¬ place.Keeps → place.value last = place.value machine)
          ∧ ∀ (others : List RandomDirection) (other otherLast : SpinMachine τ),
            Drawn place others other otherLast →
            place.value other = place.value machine →
            (∀ direction, others.count direction = directions.count direction) →
            place.value otherLast = place.value last := by
  refine ⟨fun x => ⟨randomReverse_randomForward x, randomForward_randomReverse x,
    randomForward_ne_zero x, randomReverse_ne_zero x⟩, ?_⟩
  intro place whole directions machine last drawn
  refine ⟨?_, ?_, ?_⟩
  · intro keeps
    rw [value_of_drawn whole drawn, if_pos keeps, RandomDirection.foldl_value]
  · intro fixed
    rw [value_of_drawn whole drawn, if_neg fixed]
  · intro others other otherLast otherDrawn same counts
    rw [value_of_drawn whole drawn, value_of_drawn whole otherDrawn, same,
      RandomDirection.foldl_value, RandomDirection.foldl_value, counts, counts]

/-- Two updates in a row. -/
lemma drawn_two (access : MemoryAccess) {address : UInt32} {first second : RandomDirection}
    (h : machine.DrawsAt access address first
      ∧ machine.execute.machine.DrawsAt access address second) :
    Drawn (.memory access.size address) [first, second] machine
      machine.execute.machine.execute.machine :=
  .draw h.1.draws (.draw h.2.draws (.stop _))

/-- A machine with a one in its first local, which it updates twice. -/
def drawingMachine (access first second : UInt8) : SpinMachine Rat :=
  machineWith [(0x10, access), (0x12, first), (0x13, access), (0x15, second), (0x30, 1)]

/-- A machine that takes the long at address `0x8000`, the first of the ROM, and updates it. -/
def romDrawingMachine : SpinMachine Rat :=
  machineWith [(0x10, 0xC2), (0x11, 0x08), (0x3D, 0x80)]

/-- A long goes forwards and then backwards, or backwards and then forwards, and one in the ROM
stays as it is. -/
theorem random_counted_of_two :
    let machine := drawingMachine 0xCE 0x08 0x0C
    let other := drawingMachine 0xCE 0x0C 0x08
    romDrawingMachine.execute.machine.hub.read .long 0x8000
        = romDrawingMachine.hub.read .long 0x8000
      ∧ machine.execute.machine.hub.read .long 0x30 ≠ other.execute.machine.hub.read .long 0x30
      ∧ machine.execute.machine.execute.machine.hub.read .long 0x30
        = randomForward^[1] (randomReverse^[1] 1)
      ∧ other.execute.machine.execute.machine.hub.read .long 0x30
        = machine.execute.machine.execute.machine.hub.read .long 0x30 := by
  intro machine other
  have drawn : Drawn (.memory .long 0x30) [.forward, .backward] machine _ :=
    drawn_two ⟨.update, .locals, false, .long⟩ (by decide +kernel)
  have otherDrawn : Drawn (.memory .long 0x30) [.backward, .forward] other _ :=
    drawn_two ⟨.update, .locals, false, .long⟩ (by decide +kernel)
  have value : machine.hub.read .long 0x30 = 1 := by decide +kernel
  have same : other.hub.read .long 0x30 = machine.hub.read .long 0x30 := by decide +kernel
  obtain ⟨formula, -, counted⟩ := random_counted.2 (.memory .long 0x30) rfl _ _ _ drawn
  have romDraws : romDrawingMachine.DrawsAt ⟨.update, .main, false, .long⟩ 0x8000 .forward := by
    decide +kernel
  have romDrawn : Drawn (.memory .long 0x8000) [.forward] romDrawingMachine _ :=
    .draw romDraws.draws (.stop _)
  have fixed := (random_counted.2 (.memory .long 0x8000) rfl _ _ _ romDrawn).2.1 (by decide)
  refine ⟨fixed, by decide +kernel, ?_, counted _ _ _ otherDrawn same fun direction => ?_⟩
  · rw [← value]
    exact formula (by decide)
  · cases direction <;> rfl

/-- A byte does not go the same way. -/
theorem not_random_counted_byte :
    ¬ ∀ (place : VariablePlace) (directions others : List RandomDirection)
        (machine last other otherLast : SpinMachine Rat),
        Drawn place directions machine last → Drawn place others other otherLast →
        place.value machine ≠ 0 → place.value other = place.value machine →
        (∀ direction, others.count direction = directions.count direction) →
        place.value otherLast = place.value last := by
  intro counted
  let machine := drawingMachine 0x8E 0x08 0x0C
  let other := drawingMachine 0x8E 0x0C 0x08
  have drawn : Drawn (.memory .byte 0x30) [.forward, .backward] machine _ :=
    drawn_two ⟨.update, .locals, false, .byte⟩ (by decide +kernel)
  have otherDrawn : Drawn (.memory .byte 0x30) [.backward, .forward] other _ :=
    drawn_two ⟨.update, .locals, false, .byte⟩ (by decide +kernel)
  have same := counted _ _ _ _ _ _ _ drawn otherDrawn (by decide +kernel) (by decide +kernel)
    fun direction => by cases direction <;> rfl
  have different : other.execute.machine.execute.machine.hub.read .byte 0x30
      ≠ machine.execute.machine.execute.machine.hub.read .byte 0x30 := by decide +kernel
  exact different same

end SpinMachine

end P1Chip
