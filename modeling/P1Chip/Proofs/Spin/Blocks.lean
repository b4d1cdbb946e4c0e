import P1Chip.Proofs.Memory.Blocks
import P1Chip.Proofs.Spin.Faults
import P1Chip.Proofs.Spin.Stack

/-!
# Fills and moves

The bytecodes that fill and move blocks of memory take a count, a value or a source, and a
destination from the stack.  The stack lies in memory too, so what they write may cover their own
operands.  These have been read by then.

* `SpinMachine.AtBlock` — machines at a block operation.
* `SpinMachine.execute_fill`, `SpinMachine.execute_move` — what the bytecodes do.
* **`SpinMachine.blocks_exact`** — they write one row of elements.
-/

namespace P1Chip.SpinMachine

open Memory Word

variable {τ : Type} [Timebase τ]

/-- The next bytecode is this operation, with its operands on the stack. -/
structure AtBlock (operation : SpecialOp) (operands : List UInt32) (machine : SpinMachine τ) :
    Prop where
  code : SpecialOp.decode? machine.code = some operation
  operands : machine.OnStack operands

/-- The machine behind a block operation, which has taken three operands. -/
def blockAfter (machine : SpinMachine τ) (change : Memory → Memory) : SpinMachine τ :=
  (machine.next.withStack (machine.frames.stack - 4 - 4 - 4)).withMemory change

variable {machine : SpinMachine τ} {size : DataSize} {destination count : UInt32}

omit [Timebase τ] in
/-- What three operands on the stack are popped as. -/
lemma popped_of_onStack {third : UInt32} (h : machine.OnStack [destination, third, count]) :
    machine.pop.1 = count ∧ machine.pop.2.pop.1 = third
      ∧ machine.pop.2.pop.2.pop.1 = destination := by
  have countOn : machine.OnStack ([destination, third] ++ [count]) := h
  have thirdOn : machine.pop.2.OnStack ([destination] ++ [third]) := countOn.last.2
  have destinationOn : machine.pop.2.pop.2.OnStack ([] ++ [destination]) := thirdOn.last.2
  exact ⟨countOn.last.1, thirdOn.last.1, destinationOn.last.1⟩

theorem execute_fill {value : UInt32}
    (h : AtBlock (.fill size) [destination, value, count] machine) :
    machine.execute
      = (machine.blockAfter (Memory.fill size value (blockCount count) destination)).done := by
  have operands : machine.next.OnStack [destination, value, count] := h.operands
  obtain ⟨poppedCount, poppedValue, poppedDestination⟩ := popped_of_onStack operands
  rw [execute_of_decode machine h.code, ← poppedCount, ← poppedValue, ← poppedDestination]
  rfl

theorem execute_move {source : UInt32}
    (h : AtBlock (.move size) [destination, source, count] machine) :
    machine.execute
      = (machine.blockAfter (Memory.move size (blockCount count) source destination)).done := by
  have operands : machine.next.OnStack [destination, source, count] := h.operands
  obtain ⟨poppedCount, poppedSource, poppedDestination⟩ := popped_of_onStack operands
  rw [execute_of_decode machine h.code, ← poppedCount, ← poppedSource, ← poppedDestination]
  rfl

/-- **A fill** of a row in RAM gives every element the value, and **a move** what its source was
before, if it goes downwards or behind the sources.  Nothing else changes in memory. -/
theorem blocks_exact {elements : Nat} (counted : signed count = elements)
    (target : size.IsRow destination elements halfSize) :
    (∀ (machine : SpinMachine τ) (value : UInt32),
      AtBlock (.fill size) [destination, value, count] machine →
      machine.execute.fault? = none
        ∧ RowWritten size destination elements (fun _ => size.cut value) machine.hub.memory
          machine.execute.machine.hub.memory)
      ∧ ∀ (machine : SpinMachine τ) (source : UInt32),
        AtBlock (.move size) [destination, source, count] machine →
        size.IsRow source elements 65536 →
        (destination.toNat % 65536 ≤ source.toNat % 65536
          ∨ source.toNat % 65536 + size.bytes.toNat * elements ≤ destination.toNat % 65536) →
        machine.execute.fault? = none
          ∧ RowWritten size destination elements
            (fun i => machine.hub.memory.read size (size.element source i)) machine.hub.memory
            machine.execute.machine.hub.memory := by
  have whole : blockCount count = elements := blockCount_of_isRow target counted
  constructor
  · intro machine value h
    rw [execute_fill h, whole]
    exact ⟨rfl, rowWritten_fill target value⟩
  · intro machine source h origin order
    rw [execute_move h, whole]
    exact ⟨rfl, rowWritten_move target origin order⟩

/-- Two words that are filled, and two that are moved onto the first of them. -/
theorem blocks_exact_of_words :
    let filling := machineWith [(0x10, 0x19), (0x34, 0x50), (0x38, 0xCD), (0x39, 0xAB), (0x3C, 2)]
    let moving := machineWith [(0x10, 0x1D), (0x34, 0x50), (0x38, 0x52), (0x3C, 2), (0x52, 3),
      (0x54, 4)]
    AtBlock (.fill .word) [0x50, 0xABCD, 2] filling
      ∧ filling.execute.machine.hub.memory.read .word 0x52 = 0xABCD
      ∧ AtBlock (.move .word) [0x50, 0x52, 2] moving
      ∧ moving.execute.machine.hub.memory.read .word 0x50 = 3
      ∧ moving.execute.machine.hub.memory.read .word 0x52 = 4 := by
  intro filling moving
  have target : DataSize.word.IsRow 0x50 2 halfSize := ⟨by decide, .inr (by decide)⟩
  have origin : DataSize.word.IsRow 0x52 2 65536 := ⟨by decide, .inr (by decide)⟩
  have atFill : AtBlock (.fill .word) [0x50, 0xABCD, 2] filling :=
    ⟨by decide +kernel, by decide +kernel⟩
  have atMove : AtBlock (.move .word) [0x50, 0x52, 2] moving :=
    ⟨by decide +kernel, by decide +kernel⟩
  obtain ⟨fills, moves⟩ := @blocks_exact Rat _ _ _ _ _ (show signed 2 = (2 : Nat) by decide) target
  have filled := (fills filling 0xABCD atFill).2
  have moved := (moves moving 0x52 atMove origin (.inl (by decide))).2
  refine ⟨atFill, (filled.inside 1 (by decide)).trans (by decide), atMove, ?_, ?_⟩
  · exact (moved.inside 0 (by decide)).trans (by decide +kernel)
  · exact (moved.inside 1 (by decide)).trans (by decide +kernel)

end P1Chip.SpinMachine
