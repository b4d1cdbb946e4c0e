import P1Chip.Proofs.Memory.Longs
import P1Chip.Proofs.Spin.Nesting

/-!
# What lies on the stack

Operands are pushed by one bytecode and popped by another one.  In between they are the last longs
on the stack, the one that was pushed last on top.

* `SpinMachine.OnStack` — values on the stack.
* `SpinMachine.OnStack.last`, `SpinMachine.OnStack.push` — popping one of them, pushing another.
* `SpinMachine.holding` — there are machines with any values on the stack.
-/

namespace P1Chip

open Memory

namespace SpinMachine

variable {τ : Type}

/-- The values are the last ones on the stack. -/
def OnStack (machine : SpinMachine τ) (values : List UInt32) : Prop :=
  ∀ i (_ : i < values.length),
    machine.hub.memory.readLong (machine.frames.stack - 4 * .ofNat (values.length - i)) = values[i]

instance (machine : SpinMachine τ) (values : List UInt32) : Decidable (machine.OnStack values) :=
  inferInstanceAs (Decidable (∀ i (_ : i < values.length), _))

/-- Where the longs on a stack are that has one long less. -/
lemma sub_longs_succ (stack : UInt32) (k : Nat) :
    stack - 4 - 4 * .ofNat k = stack - 4 * .ofNat (k + 1) := by
  rw [UInt32.ofNat_add]
  grind

/-- There is one way to read so many longs. -/
lemma OnStack.unique {machine : SpinMachine τ} {values values' : List UInt32}
    (h : machine.OnStack values) (h' : machine.OnStack values')
    (same : values.length = values'.length) : values = values' := by
  refine List.ext_getElem same fun i hi hi' => ?_
  rw [← h i hi, ← h' i hi', same]

/-- What is popped from a stack of values. -/
lemma OnStack.last {machine : SpinMachine τ} {values : List UInt32} {last : UInt32}
    (h : machine.OnStack (values ++ [last])) :
    machine.hub.memory.readLong (machine.frames.stack - 4) = last
      ∧ (machine.withStack (machine.frames.stack - 4)).OnStack values := by
  constructor
  · have top := h values.length (by simp)
    have one : (values ++ [last]).length - values.length = 1 := by simp
    rw [one, List.getElem_concat_length rfl] at top
    exact top
  · intro i hi
    have value := h i (by simp; omega)
    have more : (values ++ [last]).length - i = values.length - i + 1 := by simp; omega
    rw [more, ← sub_longs_succ, List.getElem_append_left hi] at value
    exact value

/-- The upper ones of some values on the stack. -/
lemma OnStack.above {machine : SpinMachine τ} {below above : List UInt32}
    (h : machine.OnStack (below ++ above)) : machine.OnStack above := by
  intro i hi
  have value := h (below.length + i) (by simp; omega)
  have count : (below ++ above).length - (below.length + i) = above.length - i := by simp; omega
  rw [count, List.getElem_append_right (Nat.le_add_right ..)] at value
  simpa only [Nat.add_sub_cancel_left] using value

lemma toNat_sub_longs (stack : UInt32) {k : Nat} (short : k < 2 ^ 14) :
    (stack - 4 * .ofNat k).toNat = (stack.toNat + (2 ^ 32 - 4 * k)) % 2 ^ 32 := by
  rw [UInt32.toNat_sub, UInt32.toNat_mul, UInt32.toNat_ofNat']
  simp only [UInt32.reduceToNat]
  omega

/-- A value that is pushed where memory can be written lies on top of the others. -/
lemma OnStack.push {machine : SpinMachine τ} {values : List UInt32} (h : machine.OnStack values)
    (short : values.length < 2 ^ 14) (room : machine.frames.stack.toNat % 65536 < halfSize)
    (value : UInt32) : (machine.push value).OnStack (values ++ [value]) := by
  intro i hi
  have more : (values ++ [value]).length - i = values.length - i + 1 := by
    simp only [List.length_append, List.length_singleton] at hi ⊢
    omega
  have same : machine.frames.stack + 4 - 4 = machine.frames.stack := by grind
  show (machine.hub.memory.writeLong machine.frames.stack value).readLong
    (machine.frames.stack + 4 - 4 * .ofNat ((values ++ [value]).length - i)) = _
  rw [more, ← sub_longs_succ, same]
  by_cases below : i < values.length
  · rw [List.getElem_append_left below, ← h i below]
    refine readLong_writeLong_of_ne _ ?_ value
    rw [toNat_sub_longs _ (by omega)]
    omega
  · have top : i = values.length := by
      simp only [List.length_append, List.length_singleton] at hi
      omega
    subst top
    have here : machine.frames.stack - 4 * .ofNat (values.length - values.length)
        = machine.frames.stack := by simp
    rw [here, readLong_writeLong _ room, List.getElem_concat_length rfl]

/-! ## Machines with given stacks -/

/-- The number of the long at the bottom of `count` longs on the stack. -/
def bottomLong (stack : UInt32) (count : Nat) : Nat :=
  (stack - 4 * .ofNat count).toNat % 65536 / 4

/-- A machine with some values on its stack, which is about to carry out the lowest byte of
`code`. -/
def holding [Timebase τ] (object stack : UInt32) (values : List UInt32) (code : UInt32) :
    SpinMachine τ where
  frames := { SpinFrames.new with object, stack }
  body := { CogBody.new 0 0 0 0 with
    pc := .ofNat ((bottomLong stack values.length + values.length) % 2 ^ 14 * 4) }
  hub := .new <| .ofLongs fun number =>
    values[(number + (2 ^ 14 - bottomLong stack values.length)) % 2 ^ 14]?.getD code

variable [Timebase τ] (object stack : UInt32) {values : List UInt32} (code : UInt32)

lemma onStack_holding (short : values.length < 2 ^ 14) :
    (holding object stack values code : SpinMachine τ).OnStack values := by
  intro i hi
  refine (readLong_ofLongs _ _).trans ?_
  have place : ((stack - 4 * .ofNat (values.length - i)).toNat % 65536 / 4
      + (2 ^ 14 - bottomLong stack values.length)) % 2 ^ 14 = i := by
    rw [bottomLong, toNat_sub_longs _ short, toNat_sub_longs _ (by omega)]
    omega
  show values[((stack - 4 * .ofNat (values.length - i)).toNat % 65536 / 4
      + (2 ^ 14 - bottomLong stack values.length)) % 2 ^ 14]?.getD code = _
  rw [place, List.getElem?_eq_getElem hi, Option.getD_some]

/-- The code goes on with the other bytes. -/
lemma readByte_holding (short : values.length < 2 ^ 14) {k : Nat} (low : k < 4) :
    (holding object stack values code : SpinMachine τ).hub.memory.readByte
        ((holding object stack values code : SpinMachine τ).body.pc + .ofNat k)
      = (code >>> (8 * .ofNat k)).toUInt8 := by
  let start := (bottomLong stack values.length + values.length) % 2 ^ 14
  have place : (UInt32.ofNat (start * 4) + .ofNat k).toNat % 65536 = start * 4 + k := by
    rw [← UInt32.ofNat_add, UInt32.toNat_ofNat']
    omega
  have number : (start * 4 + k) / 4 = start := by omega
  have rest : (start * 4 + k) % 4 = k := by omega
  have behind : values.length ≤ (start + (2 ^ 14 - bottomLong stack values.length)) % 2 ^ 14 := by
    simp only [start, bottomLong]
    omega
  refine (readByte_ofLongs _ _).trans ?_
  show longByte (fun number => values[(number + (2 ^ 14 - bottomLong stack values.length))
    % 2 ^ 14]?.getD code) ((UInt32.ofNat (start * 4) + .ofNat k).toNat % 65536) = _
  rw [place, longByte, number, rest, List.getElem?_eq_none behind, Option.getD_none]

lemma code_holding (short : values.length < 2 ^ 14) :
    (holding object stack values code : SpinMachine τ).code = code.toUInt8 := by
  have first : (holding object stack values code : SpinMachine τ).hub.memory.readByte
      ((holding object stack values code : SpinMachine τ).body.pc + .ofNat 0)
        = (code >>> (8 * .ofNat 0)).toUInt8 :=
    readByte_holding object stack code short (by decide)
  have start : (holding object stack values code : SpinMachine τ).body.pc + .ofNat 0
      = (holding object stack values code : SpinMachine τ).body.pc := UInt32.add_zero _
  rw [start] at first
  exact first

end SpinMachine

end P1Chip
