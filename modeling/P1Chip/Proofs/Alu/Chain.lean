import Mathlib.Data.Nat.Digits.Defs
import Mathlib.Tactic.LinearCombination
import P1Chip.Alu
import P1Chip.Proofs.Word

/-!
# Numbers of many limbs

The arithmetic unit adds and subtracts words.  Longer numbers are cut into words, the lowest first,
and an instruction for each of these limbs hands its flags on to the next one: the carry is what
the limbs so far leave over, and the zero flag stays set as long as all of them were zero.

Every chain starts without a carry and with the zero flag set, whatever the flags were before: that
is what tells the operation for the lowest limb from the one for the others (`Starts`).  One limb
is exact up to its carry (`Extends`), and so are any number of them by induction.  The signed
operations do to the highest limb what the unsigned ones do and only set another carry
(`Replaces`); what they ask of that limb holds of the whole number just as well (`Scales`).

* `value`, `signedValue` — the number that limbs stand for.
* `chain` — instructions on one limb after the other.
* `Extends.chain` — limbs of one sum or difference.
* `Extends.chain_replaced` — another operation for the highest limb.
* **`chain_exact`** — chains are exact arithmetic on numbers of any length.
-/

namespace P1Chip.Alu

open AluOutcome Word

/-! ## Limbs -/

/-- The number whose limbs these are, the lowest first. -/
def value (limbs : List UInt32) : Nat :=
  Nat.ofDigits (2 ^ 32) (limbs.map (·.toNat))

/-- The same limbs read in two's complement. -/
def signedValue (limbs : List UInt32) : Int :=
  Int.bmod (value limbs) (2 ^ (32 * limbs.length))

/-- A number that does not fit into so many limbs in two's complement. -/
def Overflows (limbs : Nat) (number : Int) : Prop :=
  number < -2 ^ (32 * limbs - 1) ∨ 2 ^ (32 * limbs - 1) ≤ number

instance (limbs : Nat) (number : Int) : Decidable (Overflows limbs number) :=
  inferInstanceAs (Decidable (_ ∨ _))

@[simp]
lemma value_nil : value [] = 0 :=
  rfl

@[simp]
lemma value_cons (limb : UInt32) (limbs : List UInt32) :
    value (limb :: limbs) = limb.toNat + 2 ^ 32 * value limbs :=
  Nat.ofDigits_cons

lemma value_append (low high : List UInt32) :
    value (low ++ high) = value low + 2 ^ (32 * low.length) * value high := by
  rw [value, List.map_append, Nat.ofDigits_append, List.length_map, ← pow_mul]
  rfl

lemma value_lt (limbs : List UInt32) : value limbs < 2 ^ (32 * limbs.length) := by
  have digits : ∀ digit ∈ limbs.map (·.toNat), digit < 2 ^ 32 := by
    intro digit within
    obtain ⟨limb, -, rfl⟩ := List.mem_map.mp within
    exact limb.toNat_lt
  have bound := Nat.ofDigits_lt_base_pow_length (by decide) digits
  rwa [List.length_map, ← pow_mul] at bound

/-! ## Chains -/

/-- The two operands of an instruction, and the address of the instruction after it. -/
structure Limb where
  d : UInt32
  s : UInt32
  pc : UInt32

/-- What a chain leaves: the results, the lowest first, and the flags. -/
structure ChainOutcome where
  results : List UInt32
  carry : Bool
  zero : Bool
deriving DecidableEq, Repr

/-- Carries out one instruction after the other, each on its own limb and with the flags of the one
before it. -/
def chain : List Opcode → List Limb → (carry zero : Bool) → Option ChainOutcome
  | opcode :: opcodes, limb :: limbs, carry, zero => do
    let outcome ← evaluate opcode limb.d limb.s carry zero limb.pc
    let rest ← chain opcodes limbs outcome.carry outcome.zero
    return { rest with results := outcome.result :: rest.results }
  | _, _, carry, zero => some { results := [], carry, zero }

/-- One operation for the lowest limb and another one for the `others`. -/
def opcodes (lowest next : Opcode) (others : Nat) : List Opcode :=
  lowest :: List.replicate others next

/-- The operations with another one for the highest limb, which is `alone` if it is the only one
and otherwise `last`. -/
def endingIn (alone last : Opcode) (opcodes : List Opcode) : List Opcode :=
  opcodes.dropLast ++ [if opcodes.length = 1 then alone else last]

/-! ## One limb -/

lemma ofInt_carry (carry : Bool) : UInt32.ofInt carry.toNat = carry.toUInt32 := by
  cases carry <;> rfl

/-- The operation for the lowest limb is the one for the others, started without a carry and with
the zero flag set. -/
def Starts (lowest next : Opcode) : Prop :=
  ∀ (d s : UInt32) (carry zero : Bool) (pc : UInt32),
    evaluate lowest d s carry zero pc = evaluate next d s false true pc

/-- The operation is exact up to its carry: `sign` is 1 for sums and -1 for differences.  The zero
flag stays set as long as the results are zero. -/
def Extends (opcode : Opcode) (sign : Int) : Prop :=
  ∀ (d s : UInt32) (carry zero : Bool) (pc : UInt32), ∃ result onward,
    evaluate opcode d s carry zero pc
        = some { result, carry := onward, zero := zero && result == 0 } ∧
      result.toNat + sign * (2 ^ 32 * onward.toNat) = d.toNat + sign * (s.toNat + carry.toNat)

/-- What an operation on the highest limb comes to in two's complement. -/
def topValue (sign : Int) (d s : UInt32) (carry : Bool) : Int :=
  signed d + sign * (signed s + carry.toNat)

/-- The operation `last` does what `next` does, but its carry flag tells something about the limb
in two's complement. -/
def Replaces (last next : Opcode) (sign : Int) (flag : Int → Bool) : Prop :=
  ∀ (d s : UInt32) (carry zero : Bool) (pc : UInt32),
    evaluate last d s carry zero pc = (evaluate next d s carry zero pc).map fun outcome =>
      { outcome with carry := flag (topValue sign d s carry) }

lemma starts_add : Starts .add .addx := by
  intro d s carry zero pc
  simp only [evaluate, withZero, Bool.true_and]

lemma starts_sub : Starts .sub .subx := by
  intro d s carry zero pc
  simp only [evaluate, withZero, Bool.true_and]

lemma starts_adds : Starts .adds .addsx := by
  intro d s carry zero pc
  simp [evaluate, withZero, sum]

lemma starts_subs : Starts .subs .subsx := by
  intro d s carry zero pc
  simp [evaluate, withZero, sum]

lemma ofInt_signed_add (d s : UInt32) (carry : Bool) :
    UInt32.ofInt (signed d + signed s + carry.toNat) = d + s + carry.toUInt32 := by
  rw [UInt32.ofInt_add, UInt32.ofInt_add, ofInt_signed, ofInt_signed, ofInt_carry]

lemma ofInt_signed_sub (d s : UInt32) (carry : Bool) :
    UInt32.ofInt (signed d - signed s - carry.toNat) = d - s - carry.toUInt32 := by
  rw [Int.sub_eq_add_neg, Int.sub_eq_add_neg, UInt32.ofInt_add, UInt32.ofInt_add, UInt32.ofInt_neg,
    UInt32.ofInt_neg, ofInt_signed, ofInt_signed, ofInt_carry, UInt32.sub_eq_add_neg,
    UInt32.sub_eq_add_neg]

lemma starts_cmps : Starts .cmps .cmpsx := by
  intro d s carry zero pc
  have difference : UInt32.ofInt (signed d - signed s - false.toNat) = d - s := by
    rw [ofInt_signed_sub]
    exact UInt32.sub_zero _
  simp only [evaluate, difference]
  simp [of, withZero]

lemma toNat_carry (carry : Bool) : carry.toUInt32.toNat = carry.toNat := by
  cases carry <;> rfl

lemma toNat_decide (p : Prop) [Decidable p] : (decide p).toNat = if p then 1 else 0 := by
  split <;> simp [*]

lemma extends_addx : Extends .addx 1 := by
  intro d s carry zero pc
  refine ⟨d + s + carry.toUInt32, decide (d.toNat + s.toNat + carry.toNat ≥ 2 ^ 32), rfl, ?_⟩
  have bound := d.toNat_lt
  have bound' := s.toNat_lt
  have bit := Bool.toNat_lt carry
  rw [UInt32.toNat_add, UInt32.toNat_add, toNat_carry, toNat_decide]
  split <;> omega

lemma extends_subx : Extends .subx (-1) := by
  intro d s carry zero pc
  refine ⟨d - s - carry.toUInt32, decide (s.toNat + carry.toNat > d.toNat), rfl, ?_⟩
  have bound := d.toNat_lt
  have bound' := s.toNat_lt
  have bit := Bool.toNat_lt carry
  rw [UInt32.toNat_sub, UInt32.toNat_sub, toNat_carry, toNat_decide]
  split <;> omega

/-- Signed overflow is that of one limb. -/
lemma ofSigned_eq (number : Int) :
    ofSigned number = of (UInt32.ofInt number) (decide (Overflows 1 number)) := by
  have same : (decide (number < -2147483648) || decide (number > 2147483647))
      = decide (Overflows 1 number) := by
    rw [← Bool.decide_or, decide_eq_decide, Overflows]
    omega
  simp only [ofSigned, same]

lemma replaces_addsx : Replaces .addsx .addx 1 fun top => decide (Overflows 1 top) := by
  intro d s carry zero pc
  have top : topValue 1 d s carry = signed d + signed s + carry.toNat := by
    rw [topValue]
    omega
  have result : UInt32.ofInt (topValue 1 d s carry) = d + s + carry.toUInt32 := by
    rw [top, ofInt_signed_add]
  simp only [evaluate, ← top, ofSigned_eq, result]
  rfl

lemma topValue_sub (d s : UInt32) (carry : Bool) :
    topValue (-1) d s carry = signed d - signed s - carry.toNat := by
  rw [topValue]
  omega

lemma replaces_subsx : Replaces .subsx .subx (-1) fun top => decide (Overflows 1 top) := by
  intro d s carry zero pc
  have result : UInt32.ofInt (topValue (-1) d s carry) = d - s - carry.toUInt32 := by
    rw [topValue_sub, ofInt_signed_sub]
  simp only [evaluate, ← topValue_sub, ofSigned_eq, result]
  rfl

lemma replaces_cmpsx : Replaces .cmpsx .subx (-1) fun top => decide (top < 0) := by
  intro d s carry zero pc
  have result : UInt32.ofInt (topValue (-1) d s carry) = d - s - carry.toUInt32 := by
    rw [topValue_sub, ofInt_signed_sub]
  simp only [evaluate, ← topValue_sub, result]
  rfl

/-! ## Many limbs -/

lemma chain_starts {lowest next : Opcode} (starts : Starts lowest next) (opcodes : List Opcode)
    (limb : Limb) (limbs : List Limb) (carry zero : Bool) :
    chain (lowest :: opcodes) (limb :: limbs) carry zero
      = chain (next :: opcodes) (limb :: limbs) false true := by
  simp only [chain, starts limb.d limb.s carry zero limb.pc]

/-- **Limbs of one sum or difference** are exact up to the last carry. -/
theorem Extends.chain {next : Opcode} {sign : Int} (h : Extends next sign) (limbs : List Limb)
    (carry zero : Bool) : ∃ results onward,
      chain (List.replicate limbs.length next) limbs carry zero
          = some { results, carry := onward, zero := zero && decide (value results = 0) } ∧
        results.length = limbs.length ∧
        value results + sign * (2 ^ (32 * limbs.length) * onward.toNat)
          = value (limbs.map (·.d)) + sign * (value (limbs.map (·.s)) + carry.toNat) := by
  induction limbs generalizing carry zero with
  | nil =>
    refine ⟨[], carry, ?_, rfl, ?_⟩
    · simp [Alu.chain]
    · simp
  | cons limb limbs ih =>
    obtain ⟨result, between, evaluated, first⟩ := h limb.d limb.s carry zero limb.pc
    obtain ⟨results, onward, chained, length, rest⟩ := ih between (zero && result == 0)
    refine ⟨result :: results, onward, ?_, congrArg (· + 1) length, ?_⟩
    · have zeros : (result == 0 && decide (value results = 0))
          = decide (value (result :: results) = 0) := by
        rw [Bool.beq_eq_decide_eq, ← Bool.decide_and, decide_eq_decide, value_cons,
          ← UInt32.toNat_inj]
        simp
      rw [Bool.and_assoc, zeros] at chained
      simp only [List.length_cons, List.replicate_succ, Alu.chain, evaluated, Option.bind_eq_bind,
        Option.bind_some, chained]
      rfl
    · have base : (2 : Int) ^ (32 * (limbs.length + 1)) = 2 ^ 32 * 2 ^ (32 * limbs.length) := by
        rw [← pow_add]
        congr 1
        omega
      simp only [List.map_cons, value_cons, List.length_cons]
      push_cast
      linear_combination first + 2 ^ 32 * rest + sign * onward.toNat * base

lemma chain_append {opcodes : List Opcode} {limbs : List Limb}
    (same : opcodes.length = limbs.length) (opcodes' : List Opcode) (limbs' : List Limb)
    (carry zero : Bool) :
    chain (opcodes ++ opcodes') (limbs ++ limbs') carry zero
      = (chain opcodes limbs carry zero).bind fun low =>
        (chain opcodes' limbs' low.carry low.zero).map fun high =>
          { high with results := low.results ++ high.results } := by
  induction opcodes generalizing limbs carry zero with
  | nil =>
    cases List.length_eq_zero_iff.mp same.symm
    simp [Alu.chain]
  | cons opcode opcodes ih =>
    cases limbs with
    | nil => cases same
    | cons limb limbs =>
      have rest := ih (Nat.succ.inj same)
      simp only [List.cons_append, chain, Option.bind_eq_bind, rest]
      cases evaluate opcode limb.d limb.s carry zero limb.pc with
      | none => rfl
      | some outcome =>
        simp only [Option.bind_some, Option.bind_assoc, Option.pure_def]
        cases chain opcodes limbs outcome.carry outcome.zero with
        | none => rfl
        | some low =>
          simp only [Option.bind_some]
          cases chain opcodes' limbs' low.carry low.zero <;> rfl

/-- Limbs below the highest one make no difference to where a number lies among the multiples of
their base. -/
lemma add_mul_lt_iff {low base : Int} (top bound : Int) (nonneg : 0 ≤ low) (below : low < base) :
    low + base * top < base * bound ↔ top < bound := by
  have positive : 0 < base := lt_of_le_of_lt nonneg below
  rw [mul_comm base bound, ← Int.ediv_lt_iff_lt_mul positive,
    Int.add_mul_ediv_left _ _ positive.ne', Int.ediv_eq_zero_of_lt nonneg below, zero_add]

/-- Of a number in two's complement only the highest limb has a sign. -/
lemma signedValue_concat (low : List UInt32) (top : UInt32) :
    signedValue (low ++ [top]) = value low + 2 ^ (32 * low.length) * signed top := by
  have nonneg : 0 ≤ (value low : Int) := Int.natCast_nonneg _
  have bound : (value low : Int) < 2 ^ (32 * low.length) := by
    exact_mod_cast value_lt low
  have sign : signed top = Int.bmod top.toNat (2 ^ 32) := BitVec.toInt_eq_toNat_bmod _
  obtain ⟨wraps, top_eq⟩ : ∃ wraps : Int, signed top + 2 ^ 32 * wraps = top.toNat := by
    rw [sign]
    exact ⟨_, Int.bmod_add_bdiv ..⟩
  have least : ¬ signed top < -2 ^ 31 := by
    have := Int.le_bmod (x := top.toNat) (m := 2 ^ 32) (by decide)
    omega
  have greatest : signed top < 2 ^ 31 := by
    have := Int.bmod_lt (x := top.toNat) (m := 2 ^ 32) (by decide)
    omega
  have base : 2 ^ (32 * (low ++ [top]).length) = 2 * (2 ^ (32 * low.length) * 2 ^ 31) := by
    rw [List.length_append, List.length_singleton, mul_add, pow_add]
    omega
  have number : (value (low ++ [top]) : Int)
      = value low + 2 ^ (32 * low.length) * signed top
        + (2 * (2 ^ (32 * low.length) * 2 ^ 31) : Nat) * wraps := by
    rw [value_append, value_cons, value_nil]
    push_cast
    linear_combination -2 ^ (32 * low.length) * top_eq
  rw [signedValue, base, number, Int.add_mul_bmod_self_left]
  rw [← add_mul_lt_iff _ _ nonneg bound] at least greatest
  generalize (2 : Int) ^ (32 * low.length) * signed top = shifted at *
  apply Int.bmod_eq_of_le
  · push_cast
    omega
  · push_cast
    omega

/-- What a carry flag tells of a number depends on the highest limb alone, whatever the limbs below
it are. -/
def Scales (flag : Nat → Int → Bool) : Prop :=
  ∀ (limbs : Nat) (low top : Int), 0 ≤ low → low < 2 ^ (32 * limbs) →
    flag (limbs + 1) (low + 2 ^ (32 * limbs) * top) = flag 1 top

/-- **Another operation for the highest limb** makes another carry flag, and nothing else. -/
theorem Extends.chain_replaced {last next : Opcode} {sign : Int} {flag : Nat → Int → Bool}
    (h : Extends next sign) (replaces : Replaces last next sign (flag 1)) (scales : Scales flag)
    (low : List Limb) (top : Limb) (carry zero : Bool) {outcome : ChainOutcome}
    (chained : Alu.chain (List.replicate (low.length + 1) next) (low ++ [top]) carry zero
      = some outcome) :
    let d := (low ++ [top]).map (·.d)
    let s := (low ++ [top]).map (·.s)
    Alu.chain (List.replicate low.length next ++ [last]) (low ++ [top]) carry zero
      = some { outcome with
          carry := flag (low.length + 1)
            (signedValue d + sign * (signedValue s + carry.toNat)) } := by
  intro d s
  obtain ⟨results, between, below, length, remains⟩ := h.chain low carry zero
  have split (opcode : Opcode) :
      Alu.chain (List.replicate low.length next ++ [opcode]) (low ++ [top]) carry zero
        = (evaluate opcode top.d top.s between (zero && decide (value results = 0)) top.pc).map
          fun outcome => ⟨results ++ [outcome.result], outcome.carry, outcome.zero⟩ := by
    rw [chain_append (by rw [List.length_replicate]), below, Option.bind_some]
    simp only [Alu.chain]
    cases evaluate opcode top.d top.s between (zero && decide (value results = 0)) top.pc <;> rfl
  have total : signedValue d + sign * (signedValue s + carry.toNat)
      = value results + 2 ^ (32 * low.length) * topValue sign top.d top.s between := by
    simp only [d, s, List.map_append, List.map_cons, List.map_nil, signedValue_concat,
      List.length_map, topValue]
    linear_combination -remains
  have bound : (value results : Int) < 2 ^ (32 * low.length) := by
    rw [← length]
    exact_mod_cast value_lt results
  have told := scales low.length (value results) (topValue sign top.d top.s between)
    (Int.natCast_nonneg _) bound
  rw [List.replicate_succ', split next] at chained
  obtain ⟨limb, evaluated, rfl⟩ := Option.map_eq_some_iff.mp chained
  rw [split last, replaces, evaluated, total, told]
  rfl

lemma scales_overflows : Scales fun limbs number => decide (Overflows limbs number) := by
  intro limbs low top nonneg bound
  have base : (2 : Int) ^ (32 * (limbs + 1) - 1) = 2 ^ (32 * limbs) * 2 ^ 31 := by
    rw [← pow_add]
    congr 1
  have least := add_mul_lt_iff top (-2 ^ 31) nonneg bound
  have greatest := add_mul_lt_iff top (2 ^ 31) nonneg bound
  rw [decide_eq_decide, Overflows, Overflows, base, ← mul_neg, least, ← not_lt, greatest, not_lt]

lemma scales_negative : Scales fun _ number => decide (number < 0) := by
  intro limbs low top nonneg bound
  have zero := add_mul_lt_iff top 0 nonneg bound
  rw [mul_zero] at zero
  rw [decide_eq_decide, zero]

/-! ## Sums and differences -/

/-- What is left over from a sum is its carry. -/
lemma sum_eq {base remainder total : Nat} {onward : Bool} (below : remainder < base)
    (h : remainder + base * onward.toNat = total) :
    remainder = total % base ∧ onward = decide (base ≤ total) := by
  subst h
  refine ⟨?_, ?_⟩
  · rw [Nat.add_mul_mod_self_left, Nat.mod_eq_of_lt below]
  · cases onward <;> simp [below]

/-- What is missing from a difference is its borrow. -/
lemma difference_eq {base remainder d s : Nat} {onward : Bool} (below : remainder < base)
    (s_lt : s < base) (h : (remainder : Int) - base * onward.toNat = d - s) :
    (remainder : Int) = (d - s) % base ∧ onward = decide (d < s) ∧ (remainder = 0 ↔ d = s) := by
  refine ⟨?_, ?_, ?_⟩
  · rw [← h, Int.sub_mul_emod_self_left, Int.emod_eq_of_lt (by omega) (by omega)]
  · cases onward <;> simp at h ⊢ <;> omega
  · cases onward <;> simp at h ⊢ <;> omega

/-- The chain of a sum. -/
lemma chain_sum (limbs : List Limb) :
    let base := 2 ^ (32 * limbs.length)
    let total := value (limbs.map (·.d)) + value (limbs.map (·.s))
    ∃ sum, sum.length = limbs.length ∧ value sum = total % base ∧
      chain (List.replicate limbs.length .addx) limbs false true
        = some ⟨sum, decide (base ≤ total), decide (total % base = 0)⟩ := by
  intro base total
  obtain ⟨sum, onward, chained, length, exactly⟩ := extends_addx.chain limbs false true
  have below := value_lt sum
  rw [length] at below
  have all : value sum + base * onward.toNat = total := by
    simp only [Bool.toNat_false, one_mul, Nat.cast_zero, add_zero] at exactly
    exact_mod_cast exactly
  obtain ⟨remainder, carry⟩ := sum_eq below all
  refine ⟨sum, length, remainder, ?_⟩
  rw [chained, ← remainder, carry, Bool.true_and]

/-- The chain of a difference. -/
lemma chain_difference (limbs : List Limb) :
    let d := value (limbs.map (·.d))
    let s := value (limbs.map (·.s))
    ∃ difference, difference.length = limbs.length ∧
      (value difference : Int) = (d - s) % 2 ^ (32 * limbs.length) ∧
      chain (List.replicate limbs.length .subx) limbs false true
        = some ⟨difference, decide (d < s), decide (d = s)⟩ := by
  intro d s
  obtain ⟨difference, onward, chained, length, exactly⟩ := extends_subx.chain limbs false true
  have below := value_lt difference
  have s_lt := value_lt (limbs.map (·.s))
  rw [length] at below
  rw [List.length_map] at s_lt
  have all : (value difference : Int) - (2 ^ (32 * limbs.length) : Nat) * onward.toNat = d - s := by
    simp only [Bool.toNat_false, Nat.cast_zero, add_zero] at exactly
    push_cast
    linear_combination exactly
  obtain ⟨remainder, carry, zero⟩ := difference_eq below s_lt all
  refine ⟨difference, length, ?_, ?_⟩
  · rw [remainder]
    push_cast
    rfl
  · rw [chained, carry, Bool.true_and]
    simp only [zero, d, s]

/-- The operations of a chain, with the one for the lowest limb made like the others. -/
lemma chain_endingIn {lowest next alone last : Opcode} (starts : Starts lowest next)
    (starts_alone : Starts alone last) (low : Limb) (others : List Limb) (carry zero : Bool) :
    chain (endingIn alone last (opcodes lowest next others.length)) (low :: others) carry zero
      = chain (List.replicate others.length next ++ [last]) (low :: others) false true := by
  cases others with
  | nil => exact chain_starts starts_alone [] low [] carry zero
  | cons second others =>
    have shape : endingIn alone last (opcodes lowest next (others.length + 1))
        = lowest :: (List.replicate others.length next ++ [last]) := by
      rw [endingIn, opcodes, List.replicate_succ', ← List.cons_append, List.dropLast_concat]
      simp
    rw [List.length_cons, shape, chain_starts starts, List.replicate_succ, List.cons_append]

/-- **The other operation for the highest limb**, in a chain as it is written. -/
lemma Extends.chain_ending {lowest next alone last : Opcode} {sign : Int}
    {flag : Nat → Int → Bool} (h : Extends next sign) (starts : Starts lowest next)
    (starts_alone : Starts alone last) (replaces : Replaces last next sign (flag 1))
    (scales : Scales flag) (low : Limb) (others : List Limb) (carry zero : Bool)
    {outcome : ChainOutcome}
    (chained : Alu.chain (List.replicate (others.length + 1) next) (low :: others) false true
      = some outcome) :
    let limbs := low :: others
    Alu.chain (endingIn alone last (opcodes lowest next others.length)) limbs carry zero
      = some { outcome with
          carry := flag limbs.length
            (signedValue (limbs.map (·.d)) + sign * signedValue (limbs.map (·.s))) } := by
  intro limbs
  obtain ⟨below, top, concat⟩ := (List.eq_nil_or_concat limbs).resolve_left (List.cons_ne_nil _ _)
  rw [List.concat_eq_append] at concat
  have all : limbs.length = below.length + 1 := by
    rw [concat, List.length_append, List.length_singleton]
  have length : others.length = below.length := Nat.succ.inj all
  rw [length, show low :: others = below ++ [top] from concat] at chained
  have replaced := h.chain_replaced replaces scales below top false true chained
  rw [chain_endingIn starts starts_alone, length, show low :: others = below ++ [top] from concat,
    replaced, all, concat]
  simp only [Bool.toNat_false, Nat.cast_zero, add_zero]

/-- **Chains are exact arithmetic** on numbers of any length, the lowest limb first. -/
theorem chain_exact (low : Limb) (others : List Limb) (carry zero : Bool) :
    let limbs := low :: others
    let n := limbs.length
    let d := limbs.map (·.d)
    let s := limbs.map (·.s)
    let base := 2 ^ (32 * n)
    let adding := opcodes .add .addx others.length
    let subtracting := opcodes .sub .subx others.length
    ∃ sum difference : List UInt32,
      sum.length = n ∧ value sum = (value d + value s) % base ∧
      difference.length = n ∧ (value difference : Int) = (value d - value s) % base ∧
      chain adding limbs carry zero
        = some ⟨sum, decide (base ≤ value d + value s),
          decide ((value d + value s) % base = 0)⟩ ∧
      chain subtracting limbs carry zero
        = some ⟨difference, decide (value d < value s), decide (value d = value s)⟩ ∧
      chain (endingIn .adds .addsx adding) limbs carry zero
        = some ⟨sum, decide (Overflows n (signedValue d + signedValue s)),
          decide ((value d + value s) % base = 0)⟩ ∧
      chain (endingIn .subs .subsx subtracting) limbs carry zero
        = some ⟨difference, decide (Overflows n (signedValue d - signedValue s)),
          decide (value d = value s)⟩ ∧
      chain (endingIn .cmps .cmpsx subtracting) limbs carry zero
        = some ⟨difference, decide (signedValue d < signedValue s),
          decide (value d = value s)⟩ := by
  intro limbs n d s base adding subtracting
  obtain ⟨sum, sumLength, sumValue, summed⟩ := chain_sum limbs
  obtain ⟨difference, differenceLength, differenceValue, subtracted⟩ := chain_difference limbs
  refine ⟨sum, difference, sumLength, sumValue, differenceLength, ?_, ?_, ?_, ?_, ?_, ?_⟩
  · rw [differenceValue]
    push_cast [base]
    rfl
  · exact (chain_starts starts_add _ low others carry zero).trans summed
  · exact (chain_starts starts_sub _ low others carry zero).trans subtracted
  · rw [extends_addx.chain_ending starts_add starts_adds replaces_addsx scales_overflows low others
      carry zero summed]
    simp only [one_mul]
    rfl
  · rw [extends_subx.chain_ending starts_sub starts_subs replaces_subsx scales_overflows low others
      carry zero subtracted]
    simp only [neg_mul, one_mul, ← Int.sub_eq_add_neg]
    rfl
  · rw [extends_subx.chain_ending starts_sub starts_cmps replaces_cmpsx scales_negative low others
      carry zero subtracted]
    simp only [neg_mul, one_mul, ← Int.sub_eq_add_neg, sub_neg]
    rfl

/-- The highest limbs differ by a whole word, of which the result shows nothing; the limb below
remembers that the numbers are not equal. -/
example : chain [.sub, .cmpsx] [⟨0, 1, 0⟩, ⟨0x80000000, 0x7FFFFFFF, 0⟩] false false
    = some ⟨[0xFFFFFFFF, 0], true, false⟩ := by
  decide

end P1Chip.Alu
