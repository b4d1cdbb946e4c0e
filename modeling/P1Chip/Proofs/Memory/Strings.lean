import Mathlib.Data.Nat.Find
import Mathlib.Order.Bounds.Basic
import P1Chip.Memory.Block
import P1Chip.Proofs.Memory.Longs

/-!
# What a string is

A string goes from its first byte up to the next zero.  Memory wraps around, so as long as there is
a zero anywhere there is one behind every address, and a string starts at every address.  What it
is depends on the low 16 bits of the address only.

The comparison of two strings sees them this way.  The size of a string is counted up to the end of
memory, which is the number 65536 and not an address that wraps: a string that goes on at address
zero is cut short, and at an address from 65536 on nothing is counted at all.

* `Memory.StringSize` — the string at an address has so many bytes.
* `Memory.exists_stringSize` — there is a string at every address.
* `Memory.toNat_stringSize` — what is counted.
* `Memory.stringsEqual_iff` — the comparison compares strings.
* **`Memory.stringsAgree_iff`** — where size and comparison speak of the same strings.
-/

namespace P1Chip.Memory

/-- The string at an address has so many bytes: its zero is the first one. -/
def StringSize (memory : Memory) (address : UInt32) (size : Nat) : Prop :=
  IsLeast {n | memory.readByte (address + .ofNat n) = 0} size

variable {memory : Memory} {address : UInt32} {size : Nat}

/-! ## Strings -/

/-- The byte behind the first one, as the first one behind the next address. -/
lemma readByte_succ (memory : Memory) (address : UInt32) (n : Nat) :
    memory.readByte (address + 1 + .ofNat n) = memory.readByte (address + .ofNat (n + 1)) := by
  rw [UInt32.add_assoc, UInt32.add_comm 1, UInt32.ofNat_add]
  rfl

lemma readByte_zero (memory : Memory) (address : UInt32) :
    memory.readByte (address + .ofNat 0) = memory.readByte address :=
  congrArg memory.readByte (UInt32.add_zero address)

lemma stringSize_zero_iff : StringSize memory address 0 ↔ memory.readByte address = 0 := by
  rw [← readByte_zero]
  exact ⟨fun h => h.1, fun h => ⟨h, fun _ _ => Nat.zero_le _⟩⟩

lemma stringSize_succ_iff :
    StringSize memory address (size + 1)
      ↔ memory.readByte address ≠ 0 ∧ StringSize memory (address + 1) size := by
  constructor
  · intro h
    refine ⟨fun zero => ?_, ?_, fun n zero => ?_⟩
    · have first : size + 1 ≤ 0 := h.2 ((readByte_zero memory address).trans zero)
      exact absurd first (Nat.not_succ_le_zero size)
    · exact (readByte_succ memory address size).trans h.1
    · have later : size + 1 ≤ n + 1 := h.2 ((readByte_succ memory address n).symm.trans zero)
      exact Nat.le_of_succ_le_succ later
  · rintro ⟨first, zero, least⟩
    refine ⟨(readByte_succ memory address size).symm.trans zero, fun n zero => ?_⟩
    match n with
    | 0 => exact absurd ((readByte_zero memory address).symm.trans zero) first
    | n + 1 => exact Nat.succ_le_succ (least ((readByte_succ memory address n).trans zero))

/-- Strings are the same at addresses that agree modulo 64 kilobytes. -/
lemma StringSize.of_toUInt16 (h : StringSize memory address size) {other : UInt32}
    (same : other.toUInt16 = address.toUInt16) : StringSize memory other size := by
  have bytes (n : Nat) :
      memory.readByte (other + .ofNat n) = memory.readByte (address + .ofNat n) := by
    rw [readByte, readByte, UInt32.toUInt16_add, UInt32.toUInt16_add, same]
  unfold StringSize at h ⊢
  simpa only [bytes] using h

/-- A zero anywhere in memory is one behind every address. -/
lemma exists_zero_behind {zero : UInt32} (terminated : memory.readByte zero = 0)
    (address : UInt32) : ∃ n < blockLimit, memory.readByte (address + .ofNat n) = 0 := by
  refine ⟨(zero - address).toUInt16.toNat, (zero - address).toUInt16.toNat_lt, ?_⟩
  have place : (address + .ofNat (zero - address).toUInt16.toNat).toUInt16 = zero.toUInt16 := by
    rw [UInt32.toUInt16_add, UInt32.toUInt16_ofNat', UInt16.ofNat_toNat, UInt32.toUInt16_sub,
      UInt16.add_comm, UInt16.sub_add_cancel]
  rw [readByte, place]
  exact terminated

/-- There is a string at every address. -/
lemma exists_stringSize (terminated : ∃ zero, memory.readByte zero = 0) (address : UInt32) :
    ∃ size < blockLimit, StringSize memory address size := by
  obtain ⟨zero, terminated⟩ := terminated
  obtain ⟨n, near, found⟩ := exists_zero_behind terminated address
  have some : ∃ n, memory.readByte (address + .ofNat n) = 0 := ⟨n, found⟩
  exact ⟨Nat.find some, Nat.lt_of_le_of_lt (Nat.find_min' some found) near, Nat.find_spec some,
    fun _ zero => Nat.find_min' some zero⟩

/-! ## Counting -/

/-- The bytes are counted up to the zero, or until there is no room. -/
lemma countNonzero_eq (h : StringSize memory address size) (room : Nat) (counted : UInt32) :
    memory.countNonzero room address counted = counted + .ofNat (min size room) := by
  induction room generalizing address size counted with
  | zero =>
    rw [Nat.min_zero]
    exact (UInt32.add_zero counted).symm
  | succ room ih =>
    rw [countNonzero]
    match size with
    | 0 =>
      rw [if_pos (stringSize_zero_iff.mp h), Nat.zero_min]
      exact (UInt32.add_zero counted).symm
    | size + 1 =>
      obtain ⟨first, rest⟩ := stringSize_succ_iff.mp h
      rw [if_neg first, ih rest, Nat.succ_min_succ, Nat.succ_eq_add_one, UInt32.ofNat_add,
        UInt32.add_assoc, UInt32.add_comm 1]
      rfl

/-- **What is counted** are the bytes up to the zero, but none behind the end of memory. -/
theorem toNat_stringSize (h : StringSize memory address size) :
    (memory.stringSize address).toNat = min size (blockLimit - address.toNat) := by
  rw [stringSize, countNonzero_eq h, UInt32.zero_add, UInt32.toNat_ofNat']
  exact Nat.mod_eq_of_lt (by simp only [blockLimit]; omega)

/-- A zero stands behind an address, no further on than memory goes. -/
def EndsInTime (memory : Memory) (address : UInt32) : Prop :=
  ∃ n ≤ blockLimit - address.toNat, memory.readByte (address + .ofNat n) = 0

lemma endsInTime_iff (h : StringSize memory address size) :
    EndsInTime memory address ↔ size ≤ blockLimit - address.toNat :=
  ⟨fun ⟨_, near, zero⟩ => Nat.le_trans (h.2 zero) near, fun near => ⟨size, near, h.1⟩⟩

/-- The size is right for the strings that end in time. -/
lemma stringSize_toNat_iff (h : StringSize memory address size) :
    StringSize memory address (memory.stringSize address).toNat ↔ EndsInTime memory address := by
  have counted := toNat_stringSize h
  rw [endsInTime_iff h]
  constructor
  · intro right
    have same : (memory.stringSize address).toNat = size := right.unique h
    omega
  · intro near
    rw [counted, Nat.min_eq_left near]
    exact h

/-! ## Comparing -/

/-- So many bytes are the same at two addresses. -/
def SameRow (memory : Memory) (address other : UInt32) (count : Nat) : Prop :=
  ∀ i < count, memory.readByte (address + .ofNat i) = memory.readByte (other + .ofNat i)

instance (memory : Memory) (address other : UInt32) (count : Nat) :
    Decidable (SameRow memory address other count) :=
  inferInstanceAs (Decidable (∀ i < count, _))

lemma sameRow_succ_iff {other : UInt32} {count : Nat} :
    SameRow memory address other (count + 1)
      ↔ memory.readByte address = memory.readByte other
        ∧ SameRow memory (address + 1) (other + 1) count := by
  simp only [SameRow, Nat.forall_lt_succ_left, readByte_zero, readByte_succ]

/-- Two strings are found equal if the second one has the bytes of the first, with the zero. -/
lemma equalUntilZero_iff (h : StringSize memory address size) {room : Nat} (near : size < room)
    (other : UInt32) :
    memory.equalUntilZero room address other = true ↔ SameRow memory address other (size + 1) := by
  induction room generalizing address other size with
  | zero => exact absurd near (Nat.not_lt_zero size)
  | succ room ih =>
    simp only [equalUntilZero, sameRow_succ_iff]
    by_cases same : memory.readByte address = memory.readByte other
    · match size with
      | 0 =>
        have zero := stringSize_zero_iff.mp h
        have nothing : SameRow memory (address + 1) (other + 1) 0 := fun i none => by omega
        simp [same, ← same.symm.trans zero, nothing]
      | size + 1 =>
        obtain ⟨first, rest⟩ := stringSize_succ_iff.mp h
        have further := ih rest (Nat.lt_of_succ_lt_succ near) (other + 1)
        simp [same, same ▸ first, further]
    · simp [same]

/-- **The comparison** of two addresses tells whether the same string is at both. -/
theorem stringsEqual_iff (terminated : ∃ zero, memory.readByte zero = 0) (a b : UInt32) :
    memory.stringsEqual a b = true
      ↔ ∃ size, StringSize memory a size ∧ StringSize memory b size ∧ SameRow memory a b size := by
  obtain ⟨size, near, first⟩ := exists_stringSize terminated a
  rw [stringsEqual, equalUntilZero_iff first near]
  constructor
  · intro same
    refine ⟨size, first, ⟨(same size (Nat.lt_succ_self size)).symm.trans first.1, ?_⟩,
      fun i more => same i (Nat.lt_succ_of_lt more)⟩
    intro n zero
    by_contra less
    have least : size ≤ n := first.2 ((same n (by omega)).trans zero)
    omega
  · rintro ⟨size', first', second, same⟩ i more
    obtain rfl : size' = size := first'.unique first
    rcases Nat.lt_succ_iff_lt_or_eq.mp more with inside | rfl
    · exact same i inside
    · exact first.1.trans second.1.symm

/-! ## Size and comparison -/

/-- Size and comparison speak of the strings at two addresses: both sizes are right, and equal are
those that have the same size and the same bytes. -/
structure StringsAgree (memory : Memory) (a b : UInt32) : Prop where
  first : StringSize memory a (memory.stringSize a).toNat
  second : StringSize memory b (memory.stringSize b).toNat
  equal : memory.stringsEqual a b = true
    ↔ memory.stringSize a = memory.stringSize b
      ∧ SameRow memory a b (memory.stringSize a).toNat

lemma stringsAgree_of_endsInTime (terminated : ∃ zero, memory.readByte zero = 0) {a b : UInt32}
    (first : EndsInTime memory a) (second : EndsInTime memory b) : StringsAgree memory a b := by
  obtain ⟨sizeA, -, stringA⟩ := exists_stringSize terminated a
  obtain ⟨sizeB, -, stringB⟩ := exists_stringSize terminated b
  have rightA := (stringSize_toNat_iff stringA).mpr first
  have rightB := (stringSize_toNat_iff stringB).mpr second
  refine ⟨rightA, rightB, ?_⟩
  rw [stringsEqual_iff terminated]
  constructor
  · rintro ⟨size, sameA, sameB, bytes⟩
    have countedA : (memory.stringSize a).toNat = size := rightA.unique sameA
    have countedB : (memory.stringSize b).toNat = size := rightB.unique sameB
    exact ⟨UInt32.toNat_inj.mp (countedA.trans countedB.symm), countedA ▸ bytes⟩
  · rintro ⟨sizes, bytes⟩
    exact ⟨_, rightA, sizes ▸ rightB, bytes⟩

/-- **Size and comparison** speak of the same strings, which depend on the low 16 bits of their
addresses only, exactly for those strings that end before memory does.  The comparison is right for
all of them. -/
theorem stringsAgree_iff (terminated : ∃ zero, memory.readByte zero = 0) (a b : UInt32) :
    (StringsAgree memory a b ↔ EndsInTime memory a ∧ EndsInTime memory b)
      ∧ (EndsInTime memory a → ∀ a' : UInt32, a'.toUInt16 = a.toUInt16 →
        (memory.stringSize a' = memory.stringSize a ↔ EndsInTime memory a'))
      ∧ (memory.stringsEqual a b = true
        ↔ ∃ size, StringSize memory a size ∧ StringSize memory b size
          ∧ SameRow memory a b size) := by
  obtain ⟨sizeA, -, stringA⟩ := exists_stringSize terminated a
  obtain ⟨sizeB, -, stringB⟩ := exists_stringSize terminated b
  refine ⟨⟨fun agree => ?_, fun h => stringsAgree_of_endsInTime terminated h.1 h.2⟩, ?_,
    stringsEqual_iff terminated a b⟩
  · exact ⟨(stringSize_toNat_iff stringA).mp agree.first,
      (stringSize_toNat_iff stringB).mp agree.second⟩
  · intro ends a' same
    have right := ((stringSize_toNat_iff stringA).mpr ends).of_toUInt16 same
    rw [← stringSize_toNat_iff (stringA.of_toUInt16 same)]
    constructor
    · intro sizes
      exact sizes ▸ right
    · intro right'
      exact UInt32.toNat_inj.mp (right'.unique right)

/-- Two strings of two letters, in memory that begins with both. -/
theorem stringsAgree_of_letters :
    let memory := startingWith [0x41, 0x42, 0, 0x41, 0x42, 0]
    StringsAgree memory 0 3 ∧ memory.stringSize 0 = 2 ∧ memory.stringsEqual 0 3 = true := by
  intro memory
  have terminated : ∃ zero, memory.readByte zero = 0 := ⟨2, by decide +kernel⟩
  have ends : EndsInTime memory 0 := ⟨2, by decide, by decide +kernel⟩
  have ends' : EndsInTime memory 3 := ⟨2, by decide, by decide +kernel⟩
  have agree := (stringsAgree_iff terminated 0 3).1.mpr ⟨ends, ends'⟩
  have size : memory.stringSize 0 = 2 := by decide +kernel
  have size' : memory.stringSize 3 = 2 := by decide +kernel
  refine ⟨agree, size, agree.equal.mpr ⟨size.trans size'.symm, ?_⟩⟩
  rw [size]
  decide +kernel

/-- Nothing is counted of a string whose address has a bit above the low 16. -/
theorem not_stringsAgree_of_highAddress :
    let memory := startingWith [0x41]
    memory.readByte 1 = 0 ∧ memory.stringSize 0 = 1 ∧ memory.stringSize 0x10000 = 0
      ∧ ¬ StringsAgree memory 0x10000 0x10000 := by
  intro memory
  have letter : memory.readByte (0x10000 + .ofNat (memory.stringSize 0x10000).toNat) ≠ 0 := by
    decide +kernel
  exact ⟨by decide +kernel, by decide +kernel, by decide +kernel, fun agree => letter agree.first.1⟩

end P1Chip.Memory
