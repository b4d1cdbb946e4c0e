import P1Chip.Proofs.Masks
import P1Chip.Proofs.Word
import P1Chip.Spin.Arithmetic

/-!
# Products and quotients

Spin multiplies and divides words that are read in two's complement.  A product has 64 bits, and
each of its halves has an operator; a division has an operator for each of its parts.  The four are
computed at different widths, with a sign and without, and still belong together.

Operators are made of steps, and some steps have no result for some operands: a division by zero, a
shift over the whole word, a number that should fit and does not.  The third section repeats the
operators with a check at each of these steps, and shows that no check ever fails.

* **`Spin.product_halves`** — the two halves are the product.
* `Spin.Divides` — what quotient and remainder have to be.
* **`Spin.divides`** — they are that.
* `Spin.stepwise?` — an operator that gives up where a step has no result.
* **`Spin.stepwise?_eq`** — it never does.
* **`Spin.products_quotients_exact`** — all of this, of the operators.
-/

namespace P1Chip.Spin

open Word

/-! ## Products -/

/-- The high half of a long number, as a word. -/
lemma highHalf_eq (x : Int64) : (x >>> 32).toUInt64.toUInt32 = .ofInt (x.toInt / 2 ^ 32) := by
  have shifted : (x >>> 32).toInt = x.toInt / 2 ^ 32 := by
    show (x >>> 32).toBitVec.toInt = _
    rw [Int64.toBitVec_shiftRight]
    show (x.toBitVec.sshiftRight 32).toInt = _
    rw [BitVec.toInt_sshiftRight, Int.shiftRight_eq_div_pow]
    rfl
  rw [← shifted]
  generalize x >>> 32 = y
  have low : y.toUInt64.toUInt32.toNat = y.toUInt64.toNat % 2 ^ 32 := UInt64.toNat_toUInt32 _
  have number : y.toInt
      = if 2 * y.toUInt64.toNat < 2 ^ 64 then (y.toUInt64.toNat : Int)
        else y.toUInt64.toNat - 2 ^ 64 :=
    BitVec.toInt_eq_toNat_cond y.toBitVec
  apply UInt32.toNat_inj.mp
  rw [low, number]
  simp only [UInt32.ofInt, UInt32.toNat_ofNat']
  split <;> omega

lemma toInt_toInt64 (x : UInt32) : x.toInt32.toInt64.toInt = signed x :=
  Int32.toInt_toInt64 _

/-- No product is further from zero than the square of the least word. -/
lemma natAbs_product_le (x y : UInt32) : (signed x * signed y).natAbs ≤ 2 ^ 62 := by
  have hx := signed_bounds x
  have hy := signed_bounds y
  rw [Int.natAbs_mul]
  calc (signed x).natAbs * (signed y).natAbs
      ≤ 2 ^ 31 * 2 ^ 31 := Nat.mul_le_mul (by omega) (by omega)
    _ = 2 ^ 62 := rfl

lemma toInt_product (x y : UInt32) :
    (x.toInt32.toInt64 * y.toInt32.toInt64).toInt = signed x * signed y := by
  have bound := natAbs_product_le x y
  rw [Int64.toInt_mul, toInt_toInt64, toInt_toInt64]
  exact Int.bmod_eq_of_le (by omega) (by omega)

lemma multiplyHigh_eq (x y : UInt32) :
    multiplyHigh x y = .ofInt (signed x * signed y / 2 ^ 32) := by
  rw [multiplyHigh, highHalf_eq, toInt_product]

lemma mul_eq_ofInt (x y : UInt32) : x * y = .ofInt (signed x * signed y) := by
  rw [UInt32.ofInt_mul, ofInt_signed, ofInt_signed]

/-- **The two halves** are the product: the high one has its sign, and the low one none. -/
theorem product_halves (x y : UInt32) :
    signed (multiplyHigh x y) * 2 ^ 32 + (x * y).toNat = signed x * signed y := by
  have bound := natAbs_product_le x y
  have low : ((x * y).toNat : Int) = signed x * signed y % 2 ^ 32 := by
    rw [mul_eq_ofInt]
    simp only [UInt32.ofInt, UInt32.toNat_ofNat']
    omega
  rw [multiplyHigh_eq, signed_ofInt (by omega) (by omega), low]
  exact Int.ediv_mul_add_emod _ _

/-! ## Quotients -/

/-- The one quotient that is no signed word: that of the least word by -1. -/
def QuotientWraps (x y : UInt32) : Prop :=
  signed x = -2 ^ 31 ∧ signed y = -1

/-- What the parts of a division have to be, for words that are read with a sign. -/
structure Divides (x y quotient remainder : UInt32) : Prop where
  /-- Together they are the dividend, modulo `2 ^ 32`. -/
  whole : quotient * y + remainder = x
  small : (signed remainder).natAbs < (signed y).natAbs
  /-- The remainder goes with the dividend. -/
  sign : remainder = 0 ∨ (signed remainder).sign = (signed x).sign
  /-- The quotient is rounded towards zero. -/
  rounded : ¬ QuotientWraps x y → signed quotient = (signed x).tdiv (signed y)
  wrapped : QuotientWraps x y → quotient = x ∧ remainder = 0

lemma signed_quotient (x y : UInt32) :
    signed (x.toInt32 / y.toInt32).toUInt32 = ((signed x).tdiv (signed y)).bmod (2 ^ 32) :=
  Int32.toInt_div ..

lemma signed_remainder (x y : UInt32) :
    signed (x.toInt32 % y.toInt32).toUInt32 = (signed x).tmod (signed y) :=
  Int32.toInt_mod ..

lemma signed_eq_zero_iff {x : UInt32} : signed x = 0 ↔ x = 0 :=
  signed_inj (y := 0)

/-- Numbers that differ by a multiple of `2 ^ 32` are one word. -/
lemma ofInt_bmod (n : Int) : UInt32.ofInt (n.bmod (2 ^ 32)) = .ofInt n := by
  have wraps : n.bmod (2 ^ 32) % 2 ^ 32 = n % 2 ^ 32 := Int.bmod_emod
  rw [UInt32.ofInt, wraps, ← UInt32.ofInt]

/-- Every other quotient is rounded towards zero and no more than that. -/
lemma signed_quotient_of_fits {x y : UInt32} (fits : ¬ QuotientWraps x y) :
    signed (x.toInt32 / y.toInt32).toUInt32 = (signed x).tdiv (signed y) := by
  by_cases least : signed x = -2 ^ 31
  · refine Int32.toInt_div_of_ne_right _ _ fun minusOne => fits ⟨least, ?_⟩
    rw [signed, minusOne]
    rfl
  · refine Int32.toInt_div_of_ne_left _ _ fun minimum => least ?_
    rw [signed, minimum]
    rfl

/-- Quotient and remainder, as words, make up the dividend also where the quotient wraps. -/
lemma quotient_mul_add_remainder (x y : UInt32) :
    (x.toInt32 / y.toInt32).toUInt32 * y + (x.toInt32 % y.toInt32).toUInt32 = x := by
  have quotient : (x.toInt32 / y.toInt32).toUInt32 = .ofInt ((signed x).tdiv (signed y)) := by
    rw [← ofInt_bmod, ← signed_quotient, ofInt_signed]
  have remainder : (x.toInt32 % y.toInt32).toUInt32 = .ofInt ((signed x).tmod (signed y)) := by
    rw [← signed_remainder, ofInt_signed]
  calc (x.toInt32 / y.toInt32).toUInt32 * y + (x.toInt32 % y.toInt32).toUInt32
      = .ofInt ((signed x).tdiv (signed y)) * .ofInt (signed y)
          + .ofInt ((signed x).tmod (signed y)) := by rw [quotient, remainder, ofInt_signed]
    _ = .ofInt (signed x) := by
        rw [← UInt32.ofInt_mul, ← UInt32.ofInt_add, Int.tdiv_mul_add_tmod]
    _ = x := ofInt_signed x

/-- **Quotient and remainder** are what they have to be, for every divisor but zero. -/
theorem divides {x y : UInt32} (nonzero : y ≠ 0) :
    Divides x y (x.toInt32 / y.toInt32).toUInt32 (x.toInt32 % y.toInt32).toUInt32 where
  whole := quotient_mul_add_remainder x y
  small := by
    have divisor : signed y ≠ 0 := fun zero => nonzero (signed_eq_zero_iff.mp zero)
    rw [signed_remainder, Int.natAbs_tmod]
    exact Nat.mod_lt _ (Int.natAbs_pos.mpr divisor)
  sign := by
    rw [← signed_eq_zero_iff, signed_remainder]
    by_cases divisible : signed y ∣ signed x
    · exact .inl (Int.tmod_eq_zero_of_dvd divisible)
    · exact .inr (by rw [Int.sign_tmod, if_neg divisible])
  rounded := signed_quotient_of_fits
  wrapped := by
    rintro ⟨least, minusOne⟩
    constructor
    · apply signed_inj.mp
      rw [signed_quotient, least, minusOne]
      rfl
    · apply signed_inj.mp
      rw [signed_remainder, least, minusOne]
      rfl

/-! ## Steps that can fail -/

/-- A difference that is not below zero. -/
def difference? (x y : UInt32) : Option UInt32 :=
  if y ≤ x then some (x - y) else none

/-- A square that is a word. -/
def square? (x : UInt32) : Option UInt32 :=
  if x.toNat * x.toNat < 2 ^ 32 then some (x * x) else none

/-- A product of long numbers that is a long number again. -/
def longProduct? (x y : Int64) : Option Int64 :=
  if -2 ^ 63 ≤ x.toInt * y.toInt ∧ x.toInt * y.toInt < 2 ^ 63 then some (x * y) else none

/-- A shift that does not go over the whole word. -/
def shifted? (shift : UInt32 → UInt32 → UInt32) (x count : UInt32) : Option UInt32 :=
  if count < 32 then some (shift x count) else none

/-- A part of a division that is not by zero. -/
def divided? (part : Int32 → Int32 → Int32) (x y : UInt32) : Option UInt32 :=
  if y.toInt32 = 0 then none else some (part x.toInt32 y.toInt32).toUInt32

def reverseLow? (value count : UInt32) : Option UInt32 :=
  if count = 0 then some 0
  else if count < 32 then do shifted? (· >>> ·) (reverse value) (← difference? 32 count)
  else some (reverse value)

def squareRootBit? (value root place : UInt32) : Option UInt32 := do
  let next := root ||| place
  return if (← square? next) ≤ value then next else root

def squareRoot? (value : UInt32) : Option UInt32 :=
  [0x8000, 0x4000, 0x2000, 0x1000, 0x800, 0x400, 0x200, 0x100,
    0x80, 0x40, 0x20, 0x10, 0x8, 0x4, 0x2, 0x1].foldlM (squareRootBit? value) 0

/-- The zeros above the highest bit that is set. -/
def leadingZeros (value : UInt32) : UInt32 :=
  .ofBitVec value.toBitVec.clz

def bitLength? (value : UInt32) : Option UInt32 :=
  difference? 32 (leadingZeros value)

def multiplyHigh? (left right : UInt32) : Option UInt32 := do
  let product ← longProduct? left.toInt32.toInt64 right.toInt32.toInt64
  return (product >>> 32).toUInt64.toUInt32

/-- An operator that gives up where one of its steps has no result.  The operators at the end have
no such steps: they choose, compare, rotate and combine bits, or are sums, differences and products
modulo `2 ^ 32`. -/
def stepwise? (operator : Operator) (left right : UInt32) : Option UInt32 :=
  match operator with
  | .shiftRight => shifted? (· >>> ·) left (right &&& 31)
  | .shiftLeft => shifted? (· <<< ·) left (right &&& 31)
  | .arithmeticShiftRight => shifted? shiftRightSigned left (right &&& 31)
  | .decode => shifted? (· <<< ·) 1 (left &&& 31)
  | .reverse => reverseLow? left right
  | .encode => bitLength? left
  | .squareRoot => squareRoot? left
  | .multiplyHigh => multiplyHigh? left right
  | .divide => if right = 0 then some ones else divided? (· / ·) left right
  | .modulus => if right = 0 then some ones else divided? (· % ·) left right
  | .rotateRight | .rotateLeft | .limitMinimum | .limitMaximum | .bitAnd | .bitOr | .bitXor | .add
  | .subtract | .logicalAnd | .logicalOr | .multiply | .less | .greater | .notEqual | .equal
  | .lessOrEqual | .greaterOrEqual | .negate | .complement | .absolute | .logicalNot =>
    some (binary operator left right)

lemma shifted?_and (shift : UInt32 → UInt32 → UInt32) (x count : UInt32) :
    shifted? shift x (count &&& 31) = some (shift x (count &&& 31)) := by
  have low : (count &&& 31).toNat = count.toNat % 2 ^ 5 := toNat_lowBits count 5 rfl
  refine if_pos (UInt32.lt_iff_toNat_lt.mpr ?_)
  rw [low]
  exact Nat.mod_lt _ (by decide)

lemma divided?_of_ne {y : UInt32} (nonzero : y ≠ 0) (part : Int32 → Int32 → Int32) (x : UInt32) :
    divided? part x y = some (part x.toInt32 y.toInt32).toUInt32 :=
  if_neg fun zero => nonzero (signed_inj.mp (congrArg Int32.toInt zero))

lemma reverseLow?_eq (value count : UInt32) :
    reverseLow? value count = some (reverseLow value count) := by
  rw [reverseLow?, reverseLow]
  split
  · rfl
  · next nonzero =>
    split
    · next few =>
      have within : 32 - count < 32 := by
        have positive : count.toNat ≠ 0 := fun zero => nonzero (UInt32.toNat_inj.mp zero)
        rw [UInt32.lt_iff_toNat_lt, UInt32.toNat_sub_of_le _ _ (UInt32.le_of_lt few)]
        simp only [UInt32.reduceToNat]
        omega
      rw [difference?, if_pos (UInt32.le_of_lt few)]
      exact if_pos within
    · rfl

lemma squareRootBit?_eq (value : UInt32) {root place : UInt32}
    (low : (root ||| place).toNat < 2 ^ 16) :
    squareRootBit? value root place = some (squareRootBit value root place) := by
  have fits : (root ||| place).toNat * (root ||| place).toNat < 2 ^ 32 :=
    calc (root ||| place).toNat * (root ||| place).toNat
        < 2 ^ 16 * 2 ^ 16 := Nat.mul_lt_mul'' low low
      _ = 2 ^ 32 := rfl
  simp only [squareRootBit?, square?, if_pos fits]
  rfl

/-- A root is tried out bit by bit, and never has more than 16 bits. -/
lemma squareRoot?_eq (value : UInt32) : squareRoot? value = some (squareRoot value) := by
  have steps (places : List UInt32) (low : ∀ place ∈ places, place.toNat < 2 ^ 16) (root : UInt32)
      (small : root.toNat < 2 ^ 16) :
      places.foldlM (squareRootBit? value) root
        = some (places.foldl (squareRootBit value) root) := by
    induction places generalizing root with
    | nil => rfl
    | cons place places ih =>
      rw [List.forall_mem_cons] at low
      have next : (root ||| place).toNat < 2 ^ 16 := by
        rw [UInt32.toNat_or]
        exact Nat.or_lt_two_pow small low.1
      rw [List.foldlM_cons, squareRootBit?_eq value next]
      refine ih low.2 _ ?_
      rw [squareRootBit]
      split
      · exact next
      · exact small
  exact steps _ (by simp) 0 (by decide)

lemma toNat_leadingZeros_le (value : UInt32) : (leadingZeros value).toNat ≤ 32 :=
  BitVec.clz_le

/-- The highest bit that is set stands below the zeros. -/
lemma log2_eq_sub_leadingZeros {value : UInt32} (nonzero : value ≠ 0) :
    value.toNat.log2 = 31 - (leadingZeros value).toNat := by
  have bits : value.toBitVec ≠ 0#32 := fun zero => nonzero (UInt32.toBitVec_inj.mp zero)
  have positive : value.toNat ≠ 0 := fun zero => nonzero (UInt32.toNat_inj.mp zero)
  have few : (leadingZeros value).toNat < 32 := BitVec.clz_lt_iff_ne_zero.mpr bits
  refine (Nat.log2_eq_iff positive).mpr
    ⟨BitVec.two_pow_sub_clz_le_toNat_of_ne_zero (by decide) bits, ?_⟩
  rw [show 31 - (leadingZeros value).toNat + 1 = 32 - (leadingZeros value).toNat by omega]
  exact BitVec.toNat_lt_two_pow_sub_clz

lemma bitLength?_eq (value : UInt32) : bitLength? value = some (bitLength value) := by
  have few : leadingZeros value ≤ 32 := toNat_leadingZeros_le value
  rw [bitLength?, difference?, if_pos few, Option.some_inj, bitLength]
  split
  · next zero =>
    rw [zero]
    rfl
  · next nonzero =>
    have bits : (leadingZeros value).toNat < 32 :=
      BitVec.clz_lt_iff_ne_zero.mpr fun zero => nonzero (UInt32.toBitVec_inj.mp zero)
    have length : value.toNat.log2 + 1 = 32 - (leadingZeros value).toNat := by
      rw [log2_eq_sub_leadingZeros nonzero]
      omega
    apply UInt32.toNat_inj.mp
    rw [UInt32.toNat_sub_of_le _ _ few, length, UInt32.toNat_ofNat_of_lt' (show _ < 2 ^ 32 by omega)]
    rfl

lemma multiplyHigh?_eq (left right : UInt32) :
    multiplyHigh? left right = some (multiplyHigh left right) := by
  have bound := natAbs_product_le left right
  have fits : -2 ^ 63 ≤ left.toInt32.toInt64.toInt * right.toInt32.toInt64.toInt ∧
      left.toInt32.toInt64.toInt * right.toInt32.toInt64.toInt < 2 ^ 63 := by
    rw [toInt_toInt64, toInt_toInt64]
    omega
  simp only [multiplyHigh?, longProduct?, if_pos fits]
  rfl

/-- **No step of an operator fails**, whatever the operands are. -/
theorem stepwise?_eq (operator : Operator) (left right : UInt32) :
    stepwise? operator left right = some (binary operator left right) := by
  cases operator with
  | shiftRight => exact shifted?_and (· >>> ·) left right
  | shiftLeft => exact shifted?_and (· <<< ·) left right
  | arithmeticShiftRight => exact shifted?_and shiftRightSigned left right
  | decode => exact shifted?_and (· <<< ·) 1 left
  | reverse => exact reverseLow?_eq left right
  | encode =>
    simp only [stepwise?, binary, unary?, Option.getD_some]
    exact bitLength?_eq left
  | squareRoot =>
    simp only [stepwise?, binary, unary?, Option.getD_some]
    exact squareRoot?_eq left
  | multiplyHigh =>
    simp only [stepwise?, binary]
    exact multiplyHigh?_eq left right
  | divide =>
    simp only [stepwise?, binary]
    split
    · rfl
    · next nonzero => exact divided?_of_ne nonzero (· / ·) left
  | modulus =>
    simp only [stepwise?, binary]
    split
    · rfl
    · next nonzero => exact divided?_of_ne nonzero (· % ·) left
  | _ => rfl

/-! ## The operators -/

/-- **Products and quotients are exact** for all words, and no operator has a step that fails. -/
theorem products_quotients_exact (left right : UInt32) :
    signed (binary .multiplyHigh left right) * 2 ^ 32 + (binary .multiply left right).toNat
        = signed left * signed right ∧
      (right ≠ 0 →
        Divides left right (binary .divide left right) (binary .modulus left right)) ∧
      ∀ operator, stepwise? operator left right = some (binary operator left right) := by
  refine ⟨product_halves left right, fun nonzero => ?_, fun operator => stepwise?_eq operator ..⟩
  simp only [binary, if_neg nonzero]
  exact divides nonzero

/-- Of the least word by -1, the product is `2 ^ 31` and the quotient wraps. -/
theorem products_quotients_leastByMinusOne :
    (0xFFFFFFFF : UInt32) ≠ 0 ∧ QuotientWraps 0x80000000 0xFFFFFFFF ∧
      binary .multiplyHigh 0x80000000 0xFFFFFFFF = 0 ∧
      binary .multiply 0x80000000 0xFFFFFFFF = 0x80000000 ∧
      binary .divide 0x80000000 0xFFFFFFFF = 0x80000000 ∧
      binary .modulus 0x80000000 0xFFFFFFFF = 0 := by
  have wraps : QuotientWraps 0x80000000 0xFFFFFFFF := ⟨by decide, by decide⟩
  have division := (products_quotients_exact 0x80000000 0xFFFFFFFF).2.1 (by decide)
  exact ⟨by decide, wraps, by decide, by decide, division.wrapped wraps⟩

end P1Chip.Spin
