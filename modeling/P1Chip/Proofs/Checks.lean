import P1Chip.BitSet8
import P1Chip.Proofs.Masks
import P1Chip.Word

/-!
# Accesses with a check

Arrays have a last cell and words a last bit.  Definitions of the chip count indices and places of
shifts modulo these sizes, or carry a proof that they are in range.  To show that this makes no
difference, an operation is repeated with a check at each access, which gives up if the index is out
of range.

* `within` — an access and what follows it.
* `setAt?`, `tabulate?` — an array with another value at an index, or at all of them.
* `BitSet8.single?`, `BitSet8.lowestMember?` — cogs and locks by their numbers.
* `Yields` — an operation with checks gives a result, of which something holds.
-/

namespace P1Chip

variable {α β : Type}

/-- What follows an access, if its index is in range: the place in an array of so many cells, or the
distance of a shift in a word of so many bits. -/
def within (index size : Nat) (next : Option α) : Option α :=
  if index < size then next else none

lemma within_of_lt {index size : Nat} (inside : index < size) (next : Option α) :
    within index size next = next :=
  if_pos inside

/-- An index under a mask of low bits. -/
lemma within_lowBits (x : UInt32) {mask : UInt32} (bits : Nat)
    (low : mask.toNat = 2 ^ bits - 1) {size : Nat} (fits : 2 ^ bits ≤ size) (next : Option α) :
    within (x &&& mask).toNat size next = next := by
  refine within_of_lt (Nat.lt_of_lt_of_le ?_ fits) next
  rw [Word.toNat_lowBits x bits low]
  exact Nat.mod_lt _ (Nat.two_pow_pos bits)

/-- An array with another value at an index, if it has one there. -/
def setAt? {size : Nat} (cells : Vector α size) (index : Nat) (value : α) :
    Option (Vector α size) :=
  if inside : index < size then some (cells.set index value) else none

lemma setAt?_of_lt {index size : Nat} (inside : index < size) (cells : Vector α size) (value : α) :
    setAt? cells index value = some (cells.set index value) :=
  dif_pos inside

/-- An array of which one cell is written after the other. -/
def tabulate? (size : Nat) (blank : α) (value? : Nat → Option α) : Option (Vector α size) :=
  (List.range size).foldlM (fun cells i => do setAt? cells i (← value? i)) (.replicate size blank)

/-- In the end it has all values, whatever it had before. -/
lemma tabulate?_eq {size : Nat} {value? : Nat → Option α} {value : Fin size → α}
    (values : ∀ i, value? i.val = some (value i)) (blank : α) :
    tabulate? size blank value? = some (Vector.ofFn value) := by
  -- after some cells, those have their values
  have written (count : Nat) (fits : count ≤ size) : ∃ cells : Vector α size,
      (List.range count).foldlM (fun cells i => do setAt? cells i (← value? i))
          (Vector.replicate size blank) = some cells
        ∧ ∀ i : Fin size, i.val < count → cells.get i = value i := by
    induction count with
    | zero => exact ⟨_, rfl, fun i below => absurd below (Nat.not_lt_zero _)⟩
    | succ count ih =>
      obtain ⟨cells, folded, filled⟩ := ih (Nat.le_of_succ_le fits)
      refine ⟨cells.set count (value ⟨count, fits⟩), ?_, fun i below => ?_⟩
      · have found : value? count = some (value ⟨count, fits⟩) := values ⟨count, fits⟩
        rw [List.range_succ, List.foldlM_append, folded]
        simp only [List.foldlM_cons, List.foldlM_nil, found, Option.bind_eq_bind, Option.bind_some,
          setAt?_of_lt fits]
        rfl
      · show (cells.set count (value ⟨count, fits⟩))[i.val] = value i
        rw [Vector.getElem_set]
        split
        · next here => exact congrArg value (Fin.ext here)
        · next elsewhere => exact filled i (by omega)
  obtain ⟨cells, folded, filled⟩ := written size (Nat.le_refl size)
  rw [tabulate?, folded]
  refine congrArg some (Vector.ext fun i inside => ?_)
  rw [Vector.getElem_ofFn]
  exact filled ⟨i, inside⟩ inside

/-! ## Cogs and locks -/

/-- Three bits of a word are the number of a cog or lock. -/
lemma toNat_lowThreeBits (number : UInt32) :
    (number &&& 7).toNat = (Word.lowThreeBits number.toNat).val :=
  Word.toNat_lowBits number 3 rfl

namespace BitSet8

/-- The set of a single cog or lock. -/
def single? (number : Nat) : Option UInt8 :=
  within number 8 <| some (1 <<< UInt8.ofNat number)

lemma single?_val (member : Fin 8) : single? member.val = some (single member) :=
  within_of_lt member.isLt _

lemma single?_and (number : UInt32) :
    single? (number &&& 7).toNat = some (single (Word.lowThreeBits number.toNat)) := by
  rw [toNat_lowThreeBits, single?_val]

/-- The least number of a set, found by looking at the numbers below eight, one after the other. -/
def lowestMember? (set : UInt8) : Option (Option Nat) :=
  (List.range 8).findM? fun number => do
    return set &&& (← single? number) != 0

lemma lowestMember?_eq (set : UInt8) : lowestMember? set = some ((lowest? set).map Fin.val) := by
  have search (members : List (Fin 8)) :
      ((members.map Fin.val).findM? fun number => do return set &&& (← single? number) != 0)
        = some ((members.find? (contains set)).map Fin.val) := by
    induction members with
    | nil => rfl
    | cons member members ih =>
      rw [List.map_cons, List.findM?, ih, single?_val, List.find?_cons, contains]
      simp only [Option.bind_eq_bind, Option.bind_some, Option.pure_def]
      cases set &&& single member != 0 <;> rfl
  exact search (List.finRange 8)

end BitSet8

/-! ## Results -/

/-- An operation with checks gives a result, of which something holds. -/
def Yields (result? : Option α) (P : α → Prop) : Prop :=
  ∃ result, result? = some result ∧ P result

namespace Yields

variable {P : α → Prop} {Q : β → Prop}

lemma of_eq {result? : Option α} {result : α} (h : result? = some result) (holds : P result) :
    Yields result? P :=
  ⟨result, h, holds⟩

/-- An operation with checks, and one that goes on with its result. -/
lemma bind {result? : Option α} {next : α → Option β} (first : Yields result? P)
    (rest : ∀ result, P result → Yields (next result) Q) : Yields (result? >>= next) Q := by
  obtain ⟨result, rfl, holds⟩ := first
  exact rest result holds

end Yields

end P1Chip
