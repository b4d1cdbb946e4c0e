import Mathlib.Logic.Basic
import P1Chip.BitSet8

/-!
# Members of sets of eight

* `BitSet8.contains_eq_getLsbD` — members are bits.
* **`BitSet8.contains_put`** — what becomes a member, and what stays one.
* `BitSet8.eq_of_contains` — a set is known by its members.
* **`BitSet8.lowest?_eq_some_iff`**, `BitSet8.lowest?_eq_none_iff` — the least member.
-/

namespace P1Chip.BitSet8

lemma toBitVec_single (i : Fin 8) : (single i).toBitVec = BitVec.twoPow 8 i := by
  revert i
  decide

/-- Members are the bits that are set. -/
lemma contains_eq_getLsbD (set : UInt8) (i : Fin 8) :
    contains set i = set.toBitVec.getLsbD i := by
  have hz : ∀ x : UInt8, (x != 0) = (x.toBitVec != 0) := by
    intro x
    rw [Bool.eq_iff_iff, bne_iff_ne, bne_iff_ne, ne_eq, ne_eq, ← UInt8.toBitVec_inj]
    rfl
  rw [contains, hz, UInt8.toBitVec_and, toBitVec_single, BitVec.and_twoPow]
  cases set.toBitVec.getLsbD i with
  | true =>
    rw [if_pos rfl]
    revert i
    decide
  | false => rfl

/-- **One number becomes a member or stops being one**, and all others stay what they are. -/
theorem contains_put (set : UInt8) (i j : Fin 8) (present : Bool) :
    contains (put set i present) j = if j = i then present else contains set j := by
  have hij : BitVec.getLsbD (BitVec.twoPow 8 i) j = decide (j = i) := by
    revert i j
    decide
  rw [contains_eq_getLsbD, contains_eq_getLsbD]
  cases present with
  | true =>
    have hput : (put set i true).toBitVec = set.toBitVec ||| BitVec.twoPow 8 i := by
      rw [← toBitVec_single]
      rfl
    rw [hput, BitVec.getLsbD_or, hij]
    by_cases h : j = i <;> simp [h]
  | false =>
    have hput : (put set i false).toBitVec = set.toBitVec &&& ~~~ BitVec.twoPow 8 i := by
      rw [← toBitVec_single]
      rfl
    have hj : (j : Nat) < 8 := j.isLt
    rw [hput, BitVec.getLsbD_and, BitVec.getLsbD_not, hij]
    by_cases h : j = i <;> simp [h, hj]

/-- Sets with the same members are the same. -/
lemma eq_of_contains {set other : UInt8} (same : ∀ i, contains set i = contains other i) :
    set = other := by
  apply UInt8.toBitVec_inj.mp
  apply BitVec.eq_of_getLsbD_eq
  intro i within
  rw [← contains_eq_getLsbD set ⟨i, within⟩, ← contains_eq_getLsbD other ⟨i, within⟩]
  exact same ⟨i, within⟩

/-- The complement has the numbers that are no members. -/
lemma contains_complement (set : UInt8) (i : Fin 8) : contains (~~~ set) i = !contains set i := by
  have within : (i : Nat) < 8 := i.isLt
  rw [contains_eq_getLsbD, contains_eq_getLsbD, UInt8.toBitVec_not, BitVec.getLsbD_not]
  simp [within]

/-- **The least member** is one, and no lower number is. -/
theorem lowest?_eq_some_iff {set : UInt8} {i : Fin 8} :
    lowest? set = some i ↔ contains set i ∧ ∀ j < i, contains set j = false := by
  rw [lowest?, List.find?_eq_some_iff_getElem]
  simp only [List.getElem_finRange, Bool.not_eq_true']
  constructor
  · rintro ⟨member, k, within, rfl, lower⟩
    exact ⟨member, fun j below => lower j below⟩
  · rintro ⟨member, lower⟩
    exact ⟨member, i, by simp, rfl, fun j below => lower ⟨j, by omega⟩ below⟩

/-- There is none in the empty set only. -/
lemma lowest?_eq_none_iff {set : UInt8} : lowest? set = none ↔ ∀ i, contains set i = false := by
  simp [lowest?]

end P1Chip.BitSet8
