import Mathlib.Data.Nat.Bitwise

/-!
# Words under masks

Registers keep several fields in one word, and a mask picks one of them.  Shifted fields that do not
overlap make up the word again.

* `Word.toNat_lowBits` — a mask of the lowest bits leaves a remainder.
* `Word.toNat_field` — a mask of some bits in the middle rounds down, too.
* `Word.toNat_or_of_low` — fields that do not overlap are added.
* `Word.hasBit_eq`, `Word.hasPin_eq` — a mask of a single bit tells that bit.
-/

namespace P1Chip.Word

/-- Masks of low bits are remainders. -/
lemma toNat_lowBits (x : UInt32) {mask : UInt32} (bits : Nat) (h : mask.toNat = 2 ^ bits - 1) :
    (x &&& mask).toNat = x.toNat % 2 ^ bits := by
  rw [UInt32.toNat_and, h, Nat.and_two_pow_sub_one_eq_mod]

/-- Masks of bits in the middle round down to their lowest bit. -/
lemma and_field (n bits places : Nat) :
    n &&& (2 ^ bits - 1) <<< places = n / 2 ^ places % 2 ^ bits * 2 ^ places := by
  rw [← Nat.and_two_pow_sub_one_eq_mod, ← Nat.shiftRight_eq_div_pow, ← Nat.shiftLeft_eq]
  apply Nat.eq_of_testBit_eq
  intro i
  simp only [Nat.testBit_and, Nat.testBit_shiftLeft, Nat.testBit_shiftRight]
  by_cases high : places ≤ i
  · rw [Nat.add_sub_cancel' high]
    simp [high]
  · simp [high]

lemma toNat_field (x : UInt32) {mask : UInt32} (bits places : Nat)
    (h : mask.toNat = (2 ^ bits - 1) <<< places) :
    (x &&& mask).toNat = x.toNat / 2 ^ places % 2 ^ bits * 2 ^ places := by
  rw [UInt32.toNat_and, h, and_field]

/-- A field below the lowest bit of the others is added to them. -/
lemma toNat_or_of_low (high low : UInt32) (places : Nat) (above : high.toNat % 2 ^ places = 0)
    (below : low.toNat < 2 ^ places) : (high ||| low).toNat = high.toNat + low.toNat := by
  have multiple : high.toNat = (high.toNat / 2 ^ places) <<< places := by
    rw [Nat.shiftLeft_eq, Nat.div_mul_cancel (Nat.dvd_of_mod_eq_zero above)]
  rw [UInt32.toNat_or, multiple, ← Nat.shiftLeft_add_eq_or_of_lt below]

/-- A field that fits is multiplied by the weight of its place. -/
lemma toNat_shiftLeft_of_fits {x places : UInt32} (within : places.toNat < 32)
    (fits : x.toNat * 2 ^ places.toNat < 2 ^ 32) :
    (x <<< places).toNat = x.toNat * 2 ^ places.toNat := by
  rw [UInt32.toNat_shiftLeft, Nat.mod_eq_of_lt within, Nat.shiftLeft_eq, Nat.mod_eq_of_lt fits]

lemma bit_ne_zero_iff (n bit : Nat) : (n.testBit bit).toNat * 2 ^ bit ≠ 0 ↔ n.testBit bit := by
  have pos := Nat.two_pow_pos bit
  cases n.testBit bit <;> simp

lemma hasBit_eq (x : UInt32) {mask : UInt32} {bit : Nat} (h : mask.toNat = 2 ^ bit) :
    (x &&& mask != 0) = x.toNat.testBit bit := by
  have masked : (x &&& mask).toNat = (x.toNat.testBit bit).toNat * 2 ^ bit := by
    rw [UInt32.toNat_and, h, Nat.and_two_pow]
  rw [Bool.eq_iff_iff, bne_iff_ne, ne_eq, ← UInt32.toNat_inj, masked]
  exact bit_ne_zero_iff x.toNat bit

/-- The same in the 64 bits of the pins. -/
lemma hasPin_eq (pins : UInt64) {mask : UInt64} {pin : Nat} (h : mask.toNat = 2 ^ pin) :
    (pins &&& mask != 0) = pins.toNat.testBit pin := by
  have masked : (pins &&& mask).toNat = (pins.toNat.testBit pin).toNat * 2 ^ pin := by
    rw [UInt64.toNat_and, h, Nat.and_two_pow]
  rw [Bool.eq_iff_iff, bne_iff_ne, ne_eq, ← UInt64.toNat_inj, masked]
  exact bit_ne_zero_iff pins.toNat pin

end P1Chip.Word
