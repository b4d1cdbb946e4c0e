import P1Chip.Memory.Block
import P1Chip.Proofs.Memory.Cells
import P1Chip.Proofs.Word

/-!
# Filling and moving rows of elements

A block operation writes the elements of a row one after the other.  What it writes to an element
can be told if nothing else that it writes falls upon the cells in question: a fill always writes
the same, and a move reads what was there before as long as it writes nothing that it has still to
read.

Memory has no more than 65536 elements, and no operation goes through more.  For a fill that makes
no difference: it has written the whole lower half by then.  A move that goes around reads what it
wrote itself, and changes memory as long as there is an element that differs from its source.

* `Memory.byteAt_fill`, `Memory.byteAt_move` — what lies elsewhere is as it was.
* **`Memory.read_fill`**, **`Memory.read_move`** — the elements that were written.
* `Memory.RowWritten` — a row has been written, and nothing else.
* `Memory.fill_blockCount` — long fills.
* `Memory.Settled` — all elements are equal to their sources.
* **`Memory.blockCount_unobservable_iff`** — long operations.
-/

namespace P1Chip.Memory

open Word

variable (size : DataSize) (memory : Memory)

/-! ## Elsewhere -/

section Elsewhere

variable {size memory} {count : Nat} {destination : UInt32} {place : UInt16}

lemma byteAt_write {address value : UInt32} (outside : ¬ InCell size address place) :
    (memory.write size address value).byteAt place = memory.byteAt place := by
  by_contra changed
  exact outside (inCell_of_write memory changed).1

lemma byteAt_fill {value : UInt32}
    (outside : ∀ i < count, ¬ InCell size (size.element destination i) place) :
    (fill size value count destination memory).byteAt place = memory.byteAt place := by
  induction count generalizing destination memory with
  | zero => rfl
  | succ count ih =>
    simp only [Nat.forall_lt_succ_left, size.element_zero, ← size.element_succ] at outside
    rw [fill, ih outside.2, byteAt_write outside.1]

lemma byteAt_move {source : UInt32}
    (outside : ∀ i < count, ¬ InCell size (size.element destination i) place) :
    (move size count source destination memory).byteAt place = memory.byteAt place := by
  induction count generalizing source destination memory with
  | zero => rfl
  | succ count ih =>
    simp only [Nat.forall_lt_succ_left, size.element_zero, ← size.element_succ] at outside
    rw [move, ih outside.2, byteAt_write outside.1]

lemma read_move_of_ne {source address : UInt32}
    (outside : ∀ i < count, size.cell address ≠ size.cell (size.element destination i)) :
    (move size count source destination memory).read size address = memory.read size address := by
  induction count generalizing source destination memory with
  | zero => rfl
  | succ count ih =>
    simp only [Nat.forall_lt_succ_left, size.element_zero, ← size.element_succ] at outside
    rw [move, ih outside.2, read_write_of_ne memory size outside.1]

end Elsewhere

/-! ## Fills -/

/-- What a cell holds does not change if it is filled with that. -/
lemma read_fill_of_holds {value address : UInt32} (holds : memory.read size address = size.cut value)
    (count : Nat) (destination : UInt32) :
    (fill size value count destination memory).read size address = size.cut value := by
  induction count generalizing destination memory with
  | zero => exact holds
  | succ count ih =>
    refine ih _ ?_ _
    rw [read_write]
    split
    · rfl
    · exact holds

/-- **Every element of a fill** has the value, but for those in the upper half. -/
theorem read_fill {count number : Nat} (inside : number < count) {destination : UInt32}
    (low : (size.element destination number).toNat % 65536 < halfSize) (value : UInt32) :
    (fill size value count destination memory).read size (size.element destination number)
      = size.cut value := by
  induction count generalizing number destination memory with
  | zero => exact absurd inside (Nat.not_lt_zero number)
  | succ count ih =>
    match number with
    | 0 =>
      rw [size.element_zero] at low ⊢
      exact read_fill_of_holds size _ (read_write_self memory size low value) count _
    | number + 1 =>
      rw [← size.element_succ] at low ⊢
      exact ih _ (Nat.lt_of_succ_lt_succ inside) low

lemma fill_append (value : UInt32) (count more : Nat) (destination : UInt32) :
    fill size value (count + more) destination memory
      = fill size value more (size.element destination count)
        (fill size value count destination memory) := by
  induction count generalizing destination memory with
  | zero => rw [Nat.zero_add, size.element_zero, fill]
  | succ count ih => rw [Nat.succ_add, fill, ih, size.element_succ, fill]

/-! ## Moves -/

lemma move_append (count more : Nat) (source destination : UInt32) :
    move size (count + more) source destination memory
      = move size more (size.element source count) (size.element destination count)
        (move size count source destination memory) := by
  induction count generalizing source destination memory with
  | zero => rw [Nat.zero_add, size.element_zero, size.element_zero, move]
  | succ count ih => rw [Nat.succ_add, move, ih, size.element_succ, size.element_succ, move]

/-- **Every element of a move** is what its source was, if the move writes to no source that it has
still to read, and writes to no element twice. -/
theorem read_move {count number : Nat} (inside : number < count) {source destination : UInt32}
    (unread : ∀ i < count, ∀ j < i,
      size.cell (size.element source i) ≠ size.cell (size.element destination j))
    (once : ∀ i < count, ∀ j < i,
      size.cell (size.element destination i) ≠ size.cell (size.element destination j))
    (low : (size.element destination number).toNat % 65536 < halfSize) :
    (move size count source destination memory).read size (size.element destination number)
      = memory.read size (size.element source number) := by
  induction count generalizing number source destination memory with
  | zero => exact absurd inside (Nat.not_lt_zero number)
  | succ count ih =>
    rw [move]
    match number with
    | 0 =>
      rw [size.element_zero] at low ⊢
      have alone : ∀ i < count, size.cell destination
          ≠ size.cell (size.element (destination + size.bytes) i) := by
        intro i more
        have apart := once (i + 1) (Nat.succ_lt_succ more) 0 (Nat.succ_pos i)
        rw [size.element_zero, ← size.element_succ] at apart
        exact apart.symm
      rw [size.element_zero, read_move_of_ne alone, read_write_self memory size low, cut_read]
    | number + 1 =>
      have more : number < count := Nat.lt_of_succ_lt_succ inside
      rw [← size.element_succ] at low ⊢
      rw [← size.element_succ]
      rw [ih _ more ?_ ?_ low]
      · have apart := unread (number + 1) inside 0 (Nat.succ_pos number)
        rw [size.element_zero, ← size.element_succ] at apart
        exact read_write_of_ne memory size apart _
      · intro i less j before
        have apart := unread (i + 1) (Nat.succ_lt_succ less) (j + 1) (Nat.succ_lt_succ before)
        rwa [← size.element_succ, ← size.element_succ] at apart
      · intro i less j before
        have apart := once (i + 1) (Nat.succ_lt_succ less) (j + 1) (Nat.succ_lt_succ before)
        rwa [← size.element_succ, ← size.element_succ] at apart

/-! ## Rows -/

/-- A row of elements has been written: they have these values, and everything else is as it
was. -/
structure RowWritten (size : DataSize) (start : UInt32) (count : Nat) (value : Nat → UInt32)
    (before after : Memory) : Prop where
  inside : ∀ i < count, after.read size (size.element start i) = value i
  outside : ∀ address, ¬ size.InRow start count address →
    after.readByte address = before.readByte address

section Rows

variable {size memory} {count : Nat} {destination : UInt32}
  (target : size.IsRow destination count halfSize)

include target

lemma rowWritten_fill (value : UInt32) :
    RowWritten size destination count (fun _ => size.cut value) memory
      (fill size value count destination memory) where
  inside _ inside := read_fill size memory inside (target.low inside) value
  outside _ outside := byteAt_fill fun _ inside reached =>
    outside (target.inRow_of_inCell (by decide) inside reached)

/-- A move downwards reads every source before it writes there, and one behind the sources does
not write there at all. -/
lemma rowWritten_move {source : UInt32} (origin : size.IsRow source count 65536)
    (order : destination.toNat % 65536 ≤ source.toNat % 65536
      ∨ source.toNat % 65536 + size.bytes.toNat * count ≤ destination.toNat % 65536) :
    RowWritten size destination count (fun i => memory.read size (size.element source i)) memory
      (move size count source destination memory) where
  inside number inside := by
    have cells : size.cell destination ≤ size.cell source
        ∨ size.cell source + count ≤ size.cell destination := by
      have aligned := origin.aligned
      simp only [DataSize.cell]
      cases size <;> simp only [DataSize.bytes, UInt32.reduceToNat] at aligned order ⊢ <;> omega
    refine read_move size memory inside (fun i more j before => ?_) (fun i more j before => ?_)
      (target.low inside)
    · rw [origin.cell_element (Nat.le_refl _) more,
        target.cell_element (by decide) (Nat.lt_trans before more)]
      omega
    · rw [target.cell_element (by decide) more,
        target.cell_element (by decide) (Nat.lt_trans before more)]
      omega
  outside _ outside := byteAt_move fun _ inside reached =>
    outside (target.inRow_of_inCell (by decide) inside reached)

/-- No row is so long that it is cut off. -/
lemma blockCount_of_isRow {word : UInt32} (counted : signed word = count) :
    blockCount word = count := by
  have fits := target.fits
  have cutOff : blockCount word = min (signed word).toNat blockLimit := rfl
  have half : halfSize = 32768 := rfl
  rw [cutOff, counted]
  cases size <;> simp only [DataSize.bytes, UInt32.reduceToNat, blockLimit] at fits ⊢ <;> omega

end Rows

/-! ## Long operations -/

/-- Whether an address is in the lower half depends on its cell. -/
lemma low_of_cell {address other : UInt32} (same : size.cell other = size.cell address)
    (low : address.toNat % 65536 < halfSize) : other.toNat % 65536 < halfSize := by
  have half : halfSize = 32768 := rfl
  cases size <;> simp only [DataSize.cell, DataSize.bytes, UInt32.reduceToNat] at same <;> omega

/-- So many elements reach every cell. -/
lemma exists_element (start address : UInt32) :
    ∃ i < blockLimit, size.cell (size.element start i) = size.cell address := by
  refine ⟨(size.cell address + (65536 / size.bytes.toNat - size.cell start))
    % (65536 / size.bytes.toNat), ?_, ?_⟩
  · cases size <;> simp only [DataSize.cell, DataSize.bytes, UInt32.reduceToNat, blockLimit] <;> omega
  · rw [size.cell_element]
    cases size <;> simp only [DataSize.cell, DataSize.bytes, UInt32.reduceToNat] <;> omega

/-- So the elements repeat. -/
lemma cell_element_mod (start : UInt32) (number : Nat) :
    size.cell (size.element start (number % blockLimit)) = size.cell (size.element start number) := by
  rw [size.cell_element, size.cell_element]
  cases size <;> simp only [DataSize.bytes, UInt32.reduceToNat, blockLimit] <;> omega

lemma fill_of_filled {value : UInt32}
    (filled : ∀ address : UInt32, address.toNat % 65536 < halfSize →
      memory.read size address = size.cut value) (count : Nat) (destination : UInt32) :
    fill size value count destination memory = memory := by
  induction count generalizing destination with
  | zero => rfl
  | succ count ih => rw [fill, write_of_holds memory size (filled destination), ih]

/-- **A long fill** has filled all it can when it is cut off. -/
theorem fill_blockCount (value count destination : UInt32) :
    fill size value (blockCount count) destination memory
      = fill size value (signed count).toNat destination memory := by
  have cutOff : blockCount count = min (signed count).toNat blockLimit := rfl
  rcases Nat.le_total (signed count).toNat blockLimit with short | long
  · rw [cutOff, Nat.min_eq_left short]
  · obtain ⟨more, total⟩ := Nat.exists_eq_add_of_le long
    rw [cutOff, Nat.min_eq_right long, total, fill_append]
    refine (fill_of_filled size _ (fun address low => ?_) more _).symm
    obtain ⟨i, inside, same⟩ := exists_element size destination address
    rw [← read_of_cell _ size same]
    exact read_fill size memory inside (low_of_cell size same low) value

/-- All elements that can be written are equal to their sources. -/
def Settled (size : DataSize) (source destination : UInt32) (memory : Memory) : Prop :=
  ∀ i < blockLimit, (size.element destination i).toNat % 65536 < halfSize →
    memory.read size (size.element destination i) = memory.read size (size.element source i)

variable {size memory} {source destination : UInt32}

lemma Settled.element (h : memory.Settled size source destination) (number : Nat)
    (low : (size.element destination number).toNat % 65536 < halfSize) :
    memory.read size (size.element destination number)
      = memory.read size (size.element source number) := by
  have same := cell_element_mod size destination number
  have held := h (number % blockLimit) (Nat.mod_lt _ (by decide)) (low_of_cell size same low)
  rwa [read_of_cell memory size same,
    read_of_cell memory size (cell_element_mod size source number)] at held

/-- Then moving them changes nothing, wherever it starts. -/
lemma Settled.move (h : memory.Settled size source destination) (skip count : Nat) :
    Memory.move size count (size.element source skip) (size.element destination skip) memory
      = memory := by
  induction count generalizing skip with
  | zero => rfl
  | succ count ih =>
    have next (start : UInt32) :
        size.element start skip + size.bytes = size.element start (skip + 1) := by
      rw [← size.element_zero (size.element start skip + size.bytes), size.element_succ,
        size.element_add]
    have same : memory.write size (size.element destination skip)
        (memory.read size (size.element source skip)) = memory :=
      write_of_holds memory size fun low => (h.element skip low).trans (cut_read memory size _).symm
    rw [Memory.move, same, next, next, ih]

/-- Where nothing changes in one more round, every element is settled. -/
lemma settled_of_move
    (same : ∀ more ≤ blockLimit,
      Memory.move size (blockLimit + more) source destination memory
        = Memory.move size blockLimit source destination memory) :
    (Memory.move size blockLimit source destination memory).Settled size source destination := by
  intro i inside low
  have place (start : UInt32) :
      size.cell (size.element start i) = size.cell (size.element start (blockLimit + i)) := by
    have again := cell_element_mod size start (blockLimit + i)
    rwa [Nat.add_mod_left, Nat.mod_eq_of_lt inside] at again
  have next := same (i + 1) inside
  rw [← Nat.add_assoc, move_append, same i (Nat.le_of_lt inside)] at next
  rw [read_of_cell _ size (place destination), read_of_cell _ size (place source)]
  have low' := low_of_cell size (place destination).symm low
  have written := congrArg (·.read size (size.element destination (blockLimit + i))) next
  exact written.symm.trans ((read_write_self _ size low' _).trans (cut_read _ size _))

/-- **Cutting off** at 65536 elements makes no difference for a fill, nor for a move of no more
elements.  For all moves between two addresses it makes no difference exactly if by then every
element is equal to its source. -/
theorem blockCount_unobservable_iff (size : DataSize) (memory : Memory)
    (source destination : UInt32) :
    (∀ value count, fill size value (blockCount count) destination memory
        = fill size value (signed count).toNat destination memory)
      ∧ (∀ count, signed count ≤ blockLimit →
        Memory.move size (blockCount count) source destination memory
          = Memory.move size (signed count).toNat source destination memory)
      ∧ ((∀ count, Memory.move size (blockCount count) source destination memory
          = Memory.move size (signed count).toNat source destination memory)
        ↔ (Memory.move size blockLimit source destination memory).Settled size source
          destination) := by
  have cutOff (count : UInt32) : blockCount count = min (signed count).toNat blockLimit := rfl
  refine ⟨fun value count => fill_blockCount size memory value count destination, ?_, ?_, ?_⟩
  · intro count short
    rw [cutOff, Nat.min_eq_left (by omega)]
  · intro unobservable
    refine settled_of_move fun more within => ?_
    have total : (signed (.ofNat (blockLimit + more))).toNat = blockLimit + more := by
      rw [signed_ofNat (by simp only [blockLimit] at within ⊢; omega)]
      rfl
    have whole := unobservable (.ofNat (blockLimit + more))
    rw [cutOff, total, Nat.min_eq_right (Nat.le_add_right ..)] at whole
    exact whole.symm
  · intro settled count
    rcases Nat.le_total (signed count).toNat blockLimit with short | long
    · rw [cutOff, Nat.min_eq_left short]
    · obtain ⟨more, total⟩ := Nat.exists_eq_add_of_le long
      rw [cutOff, Nat.min_eq_right long, total, move_append]
      exact (settled.move blockLimit more).symm

/-- Memory moved down by a byte.  The first byte has its place in two turns: it gets what was the
second one and, if the move is not cut off, what was the third. -/
theorem not_blockCount_unobservable_of_downwards :
    let memory := startingWith [1, 2, 3]
    (Memory.move .byte (blockCount 65537) 1 0 memory).readByte 0 = 2
      ∧ (Memory.move .byte (signed 65537).toNat 1 0 memory).readByte 0 = 3 := by
  intro memory
  let begun := Memory.move .byte 2 1 0 memory
  let cut := Memory.move .byte 65536 1 0 memory
  -- all elements but the first two are elsewhere
  have later (address : UInt32) (first : address.toNat % 65536 < 2) :
      cut.read .byte address = begun.read .byte address := by
    have parts : cut = Memory.move .byte 65534 (DataSize.byte.element 1 2)
        (DataSize.byte.element 0 2) begun := move_append .byte memory 2 65534 1 0
    rw [parts]
    refine read_move_of_ne fun i inside => ?_
    rw [DataSize.element_add, DataSize.cell_element]
    simp only [DataSize.cell, DataSize.bytes, UInt32.reduceToNat]
    omega
  have once : cut.readByte 0 = 2 := by
    have first : cut.read .byte 0 = begun.read .byte 0 := later 0 (by decide)
    exact (UInt8.toUInt32_inj.mp first).trans (by decide +kernel)
  refine ⟨once, ?_⟩
  have whole : Memory.move .byte (signed 65537).toNat 1 0 memory
      = cut.write .byte (DataSize.byte.element 0 65536)
        (cut.read .byte (DataSize.byte.element 1 65536)) := move_append .byte memory 65536 1 1 0
  have again : (Memory.move .byte (signed 65537).toNat 1 0 memory).read .byte 0
      = begun.read .byte (DataSize.byte.element 1 65536) := by
    rw [whole, read_write, if_pos (by decide), cut_read]
    exact later _ (by decide)
  exact (UInt8.toUInt32_inj.mp again).trans (by decide +kernel)

end P1Chip.Memory
