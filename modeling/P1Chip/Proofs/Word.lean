import Mathlib.Algebra.Group.Nat.Defs
import Mathlib.Algebra.Ring.Int.Defs
import Mathlib.Data.List.Nodup
import P1Chip.Word

/-!
# Signed words and their ranges

A word read in two's complement is a number, and gives the word back when that number is cut to
32 bits.  Sums and differences of words may therefore be found among numbers.

A range is given by two words, its bounds, and has all words between them in signed order.  It runs
from the first bound to the last, upwards or downwards.

* `Word.ofInt_signed`, `Word.signed_ofInt` — words and numbers.
* `Word.Between` — a word is in a range.
* `Word.rangeValues` — the words of a range, one after the other.
* **`Word.mem_rangeValues`** — they are the words between the bounds.
* `Word.idxOf_rangeValues` — the place of a word among them.
-/

namespace P1Chip.Word

/-! ## Words and numbers -/

lemma ofInt_natCast (n : Nat) : UInt32.ofInt n = UInt32.ofNat n := by
  apply UInt32.toNat_inj.mp
  simp only [UInt32.ofInt, UInt32.toNat_ofNat']
  omega

/-- A word is its own lowest limb, with a sign or without. -/
lemma ofInt_signed (x : UInt32) : UInt32.ofInt (signed x) = x := by
  have wraps : signed x % 2 ^ 32 = x.toNat % 2 ^ 32 := by
    rw [signed, Int32.toInt, BitVec.toInt_eq_toNat_bmod]
    exact Int.bmod_emod
  rw [UInt32.ofInt, wraps, ← UInt32.ofInt, ofInt_natCast, UInt32.ofNat_toNat]

lemma ofInt_sub (m n : Int) : UInt32.ofInt (m - n) = .ofInt m - .ofInt n := by
  rw [Int.sub_eq_add_neg, UInt32.ofInt_add, UInt32.ofInt_neg, UInt32.sub_eq_add_neg]

lemma signed_inj {x y : UInt32} : signed x = signed y ↔ x = y :=
  ⟨fun h => by rw [← ofInt_signed x, h, ofInt_signed], congrArg signed⟩

lemma signed_eq (x : UInt32) :
    signed x = if x.toNat < 2 ^ 31 then (x.toNat : Int) else x.toNat - 2 ^ 32 := by
  have cond : signed x = if 2 * x.toNat < 2 ^ 32 then (x.toNat : Int) else x.toNat - 2 ^ 32 :=
    BitVec.toInt_eq_toNat_cond x.toBitVec
  rw [cond]
  split <;> split <;> omega

lemma signed_bounds (x : UInt32) : -2 ^ 31 ≤ signed x ∧ signed x < 2 ^ 31 := by
  have := x.toNat_lt
  rw [signed_eq]
  split <;> omega

/-- A number in the range of signed words survives being cut to a word. -/
lemma signed_ofInt {n : Int} (least : -2 ^ 31 ≤ n) (greatest : n < 2 ^ 31) :
    signed (.ofInt n) = n := by
  have lowest : (UInt32.ofInt n).toNat = (n % 2 ^ 32).toNat := by
    simp only [UInt32.ofInt, UInt32.toNat_ofNat']
    omega
  rw [signed_eq, lowest]
  split <;> omega

lemma signed_ofNat {n : Nat} (small : n < 2 ^ 31) : signed (.ofNat n) = n := by
  rw [← ofInt_natCast, signed_ofInt] <;> omega

/-- The distance of two signed words is their difference, also as a word. -/
lemma ofNat_distance (x y : UInt32) :
    UInt32.ofNat (signed x - signed y).natAbs = if signed y ≤ signed x then x - y else y - x := by
  have distance : ((signed x - signed y).natAbs : Int)
      = if signed y ≤ signed x then signed x - signed y else signed y - signed x := by
    split <;> omega
  rw [← ofInt_natCast, distance]
  split <;> rw [ofInt_sub, ofInt_signed, ofInt_signed]

/-- As numbers count up from a word, they come to another one at its distance, and not before. -/
lemma eq_add_iff {x y : UInt32} {n : Nat} (within : n ≤ (y - x).toNat) :
    y = x + UInt32.ofNat n ↔ n = (y - x).toNat := by
  have small : (UInt32.ofNat n).toNat = n :=
    UInt32.toNat_ofNat_of_lt' (Nat.lt_of_le_of_lt within (y - x).toNat_lt)
  rw [UInt32.add_comm, ← UInt32.sub_eq_iff_eq_add, ← UInt32.toNat_inj, small, eq_comm]

lemma toInt32_lt_iff {x y : UInt32} : x.toInt32 < y.toInt32 ↔ signed x < signed y :=
  Int32.lt_iff_toInt_lt

lemma toInt32_le_iff {x y : UInt32} : x.toInt32 ≤ y.toInt32 ↔ signed x ≤ signed y :=
  Int32.le_iff_toInt_le

/-! ## Ranges -/

/-- The word is in the range with these bounds, whichever of them is the greater one. -/
def Between (first last x : UInt32) : Prop :=
  min (signed first) (signed last) ≤ signed x ∧ signed x ≤ max (signed first) (signed last)

instance (first last x : UInt32) : Decidable (Between first last x) :=
  inferInstanceAs (Decidable (_ ∧ _))

/-- How many words a range has. -/
def rangeSize (first last : UInt32) : Nat :=
  (signed last - signed first).natAbs + 1

/-- The word that stands so many places behind the first bound. -/
def rangeAt (first last : UInt32) (place : Nat) : UInt32 :=
  if signed first < signed last then first + .ofNat place else first - .ofNat place

/-- The words of a range, from the first bound to the last. -/
def rangeValues (first last : UInt32) : List UInt32 :=
  (List.range (rangeSize first last)).map (rangeAt first last)

@[simp]
lemma length_rangeValues (first last : UInt32) :
    (rangeValues first last).length = rangeSize first last := by
  rw [rangeValues, List.length_map, List.length_range]

lemma getElem_rangeValues {first last : UInt32} {place : Nat}
    (h : place < (rangeValues first last).length) :
    (rangeValues first last)[place] = rangeAt first last place := by
  simp only [rangeValues, List.getElem_map, List.getElem_range]

/-- The size of a range is the difference of its bounds, also as a word. -/
lemma ofNat_rangeSize (first last : UInt32) :
    UInt32.ofNat (rangeSize first last)
      = if signed first < signed last then last - first + 1 else first - last + 1 := by
  rw [rangeSize, UInt32.ofNat_add, ofNat_distance]
  rcases Int.lt_trichotomy (signed first) (signed last) with up | same | down
  · rw [if_pos (Int.le_of_lt up), if_pos up]
    rfl
  · rw [if_pos (Int.le_of_eq same), if_neg (Int.lt_irrefl _ <| same ▸ ·), signed_inj.mp same]
    rfl
  · rw [if_neg (Int.not_le.mpr down), if_neg (Int.not_lt.mpr (Int.le_of_lt down))]
    rfl

lemma rangeAt_eq_ofInt (first last : UInt32) (place : Nat) :
    rangeAt first last place
      = .ofInt (if signed first < signed last then signed first + place
          else signed first - place) := by
  rw [rangeAt]
  split <;> simp only [UInt32.ofInt_add, ofInt_sub, ofInt_signed, ofInt_natCast]

lemma signed_rangeAt {first last : UInt32} {place : Nat} (h : place < rangeSize first last) :
    signed (rangeAt first last place)
      = if signed first < signed last then signed first + place else signed first - place := by
  have hf := signed_bounds first
  have hl := signed_bounds last
  rw [rangeSize] at h
  rw [rangeAt_eq_ofInt, signed_ofInt] <;> split <;> omega

/-- A word between the bounds stands as far behind the first bound as it is away from it. -/
lemma rangeAt_of_between {first last x : UInt32} (h : Between first last x) :
    rangeAt first last (signed x - signed first).natAbs = x := by
  obtain ⟨low, high⟩ := h
  rw [rangeAt_eq_ofInt]
  conv_rhs => rw [← ofInt_signed x]
  congr 1
  split <;> omega

lemma lt_rangeSize_of_between {first last x : UInt32} (h : Between first last x) :
    (signed x - signed first).natAbs < rangeSize first last := by
  obtain ⟨low, high⟩ := h
  rw [rangeSize]
  omega

/-- **The words of a range** are those between its bounds. -/
theorem mem_rangeValues {first last x : UInt32} :
    x ∈ rangeValues first last ↔ Between first last x := by
  constructor
  · intro member
    obtain ⟨place, inside, rfl⟩ := List.mem_map.mp member
    have within := List.mem_range.mp inside
    rw [Between, signed_rangeAt within]
    rw [rangeSize] at within
    split <;> omega
  · intro between
    exact List.mem_map.mpr ⟨_, List.mem_range.mpr (lt_rangeSize_of_between between),
      rangeAt_of_between between⟩

lemma nodup_rangeValues (first last : UInt32) : (rangeValues first last).Nodup := by
  refine List.Nodup.map_on (fun i hi j hj same => ?_) List.nodup_range
  have apart := congrArg signed same
  rw [signed_rangeAt (List.mem_range.mp hi), signed_rangeAt (List.mem_range.mp hj)] at apart
  split at apart <;> omega

lemma idxOf_rangeValues {first last x : UInt32} (h : Between first last x) :
    (rangeValues first last).idxOf x = (signed x - signed first).natAbs := by
  have inside : (signed x - signed first).natAbs < (rangeValues first last).length := by
    rw [length_rangeValues]
    exact lt_rangeSize_of_between h
  have value : (rangeValues first last)[(signed x - signed first).natAbs] = x := by
    rw [getElem_rangeValues, rangeAt_of_between h]
  conv_lhs => rw [← value]
  exact (nodup_rangeValues first last).idxOf_getElem _ inside

end P1Chip.Word
