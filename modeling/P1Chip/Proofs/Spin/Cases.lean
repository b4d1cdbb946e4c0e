import P1Chip.Proofs.Spin.Search

/-!
# Cases with ranges

A case compares a value on the stack to candidates, one bytecode for each, and branches at the
first one that fits.  A candidate is a value or a range.  What a range should fit is told by the
bytecodes that know its values: it fits if one of its values would, and also if the same range,
in a list that is searched for the value, would end the search.

Values and lists agree on that, for signed bounds in either order.  The case range compares
unsigned words.  Both orders are the same among the words of one sign, so nothing but a range from
the one sign to the other makes a difference, and there it fits what it should not and leaves out
what it should fit, the bounds apart.

* `Word.BetweenUnsigned` — ranges in the unsigned order.
* **`Word.betweenUnsigned_iff`** — where the two orders agree.
* `SpinMachine.execute_caseValue`, `SpinMachine.execute_caseRange` — the two bytecodes: nothing
  changes but the program counter and the end of the stack.
* **`SpinMachine.caseRange_fits_iff`** — when a case range fits what it should.
-/

namespace P1Chip

open Memory Word

namespace Word

/-- The word is in the range with these bounds, if words are unsigned numbers. -/
def BetweenUnsigned (first last x : UInt32) : Prop :=
  min first.toNat last.toNat ≤ x.toNat ∧ x.toNat ≤ max first.toNat last.toNat

instance (first last x : UInt32) : Decidable (BetweenUnsigned first last x) :=
  inferInstanceAs (Decidable (_ ∧ _))

lemma decide_betweenUnsigned (first last x : UInt32) :
    decide (BetweenUnsigned first last x)
      = if last < first then decide (last ≤ x) && decide (x ≤ first)
        else decide (first ≤ x) && decide (x ≤ last) := by
  rw [Bool.eq_iff_iff]
  split
  · next down =>
    have order : last.toNat ≤ first.toNat := Nat.le_of_lt down
    simp only [BetweenUnsigned, Nat.min_eq_right order, Nat.max_eq_left order,
      decide_eq_true_eq, Bool.and_eq_true, UInt32.le_iff_toNat_le]
  · next up =>
    have order : first.toNat ≤ last.toNat := Nat.not_lt.mp up
    simp only [BetweenUnsigned, Nat.min_eq_left order, Nat.max_eq_right order,
      decide_eq_true_eq, Bool.and_eq_true, UInt32.le_iff_toNat_le]

/-- **The two orders** have the same words in a range if its bounds have the same sign, and
otherwise they have nothing but the bounds in common. -/
theorem betweenUnsigned_iff (first last x : UInt32) :
    (BetweenUnsigned first last x ↔ Between first last x)
      ↔ (signed first < 0 ↔ signed last < 0) ∨ x = first ∨ x = last := by
  have hf := first.toNat_lt
  have hl := last.toNat_lt
  have hx := x.toNat_lt
  simp only [BetweenUnsigned, Between, signed_eq, ← UInt32.toNat_inj]
  split <;> split <;> split <;> omega

end Word

namespace SpinMachine

variable {τ : Type}

/-! ## The two bytecodes -/

/-- Pushing what stands there already moves the end of the stack only. -/
lemma push_of_stands {machine : SpinMachine τ} {value : UInt32}
    (stands : machine.hub.memory.readLong machine.frames.stack = value) :
    machine.push value = machine.withStack (machine.frames.stack + 4) := by
  subst stands
  obtain ⟨frames, body, hub⟩ := machine
  have memory := hub.memory.writeLong_readLong frames.stack
  simp only [push, withMemory, Hub.withMemory, memory]

/-- A branch does not change what stands on the stack. -/
lemma branchIf_push (machine : SpinMachine τ) {stack value : UInt32}
    (stands : machine.hub.memory.readLong stack = value) (taken : Bool) (offset : UInt32) :
    ((machine.withStack stack).branchIf taken offset).push value
      = (machine.branchIf taken offset).withStack (stack + 4) := by
  cases taken with
  | false => exact push_of_stands stands
  | true => exact push_of_stands stands

/-- The machine after a case, behind whose bytecode it stood, with or without the branch.  So many
operands have gone from above the value. -/
def caseAfter (machine : SpinMachine τ) (operands : UInt32) (taken : Bool) : SpinMachine τ :=
  (machine.branchOffset.2.branchIf taken machine.branchOffset.1).withStack
    (machine.frames.stack - 4 * operands)

variable {machine : SpinMachine τ} {value : UInt32}

/-- A candidate fits if it is the value. -/
lemma caseValue_of_onStack {candidate : UInt32} (h : machine.OnStack [value, candidate]) :
    machine.caseValue = machine.caseAfter 1 (candidate == value) := by
  have candidateOn : machine.OnStack ([value] ++ [candidate]) := h
  have valueOn : machine.pop.2.OnStack ([] ++ [value]) := candidateOn.last.2
  have poppedCandidate : machine.pop.1 = candidate := candidateOn.last.1
  have poppedValue : machine.pop.2.pop.1 = value := valueOn.last.1
  have stack : machine.frames.stack - 4 - 4 + 4 = machine.frames.stack - 4 * 1 := by grind
  simp only [caseValue, caseAfter, poppedCandidate, poppedValue, ← stack]
  exact branchIf_push machine.branchOffset.2 valueOn.last.1 _ _

/-- A range fits if the value is in it, as an unsigned number. -/
lemma caseRange_of_onStack {first second : UInt32} (h : machine.OnStack [value, first, second]) :
    machine.caseRange = machine.caseAfter 2 (decide (BetweenUnsigned first second value)) := by
  have secondOn : machine.OnStack ([value, first] ++ [second]) := h
  have firstOn : machine.pop.2.OnStack ([value] ++ [first]) := secondOn.last.2
  have valueOn : machine.pop.2.pop.2.OnStack ([] ++ [value]) := firstOn.last.2
  have poppedSecond : machine.pop.1 = second := secondOn.last.1
  have poppedFirst : machine.pop.2.pop.1 = first := firstOn.last.1
  have poppedValue : machine.pop.2.pop.2.pop.1 = value := valueOn.last.1
  have stack : machine.frames.stack - 4 - 4 - 4 + 4 = machine.frames.stack - 4 * 2 := by grind
  simp only [caseRange, caseAfter, poppedSecond, poppedFirst, poppedValue, ← stack,
    decide_betweenUnsigned]
  split
  · exact branchIf_push machine.branchOffset.2 valueOn.last.1 _ _
  · exact branchIf_push machine.branchOffset.2 valueOn.last.1 _ _

/-! ## Machines at a case -/

variable [Timebase τ]

/-- The next bytecode is a case bytecode with these operands, whose branch leads somewhere else. -/
structure AtCase (code : UInt8) (operands : List UInt32) (machine : SpinMachine τ) : Prop where
  code : machine.code = code
  operands : machine.OnStack operands
  offset : machine.next.branchOffset.1 ≠ 0

theorem execute_caseValue {candidate : UInt32} (h : AtCase 0x0D [value, candidate] machine) :
    machine.execute = (machine.next.caseAfter 1 (candidate == value)).done := by
  have decoded : SpecialOp.decode? machine.code = some .caseValue := by
    rw [h.code]
    rfl
  have operands : machine.next.OnStack [value, candidate] := h.operands
  rw [execute_of_decode machine decoded]
  exact congrArg done (caseValue_of_onStack operands)

theorem execute_caseRange {first second : UInt32}
    (h : AtCase 0x0E [value, first, second] machine) :
    machine.execute
      = (machine.next.caseAfter 2 (decide (BetweenUnsigned first second value))).done := by
  have decoded : SpecialOp.decode? machine.code = some .caseRange := by
    rw [h.code]
    rfl
  have operands : machine.next.OnStack [value, first, second] := h.operands
  rw [execute_of_decode machine decoded]
  exact congrArg done (caseRange_of_onStack operands)

/-- The program goes on somewhere else than behind the bytecode and its offset. -/
def TakesBranch (machine : SpinMachine τ) : Prop :=
  machine.execute.machine.body.pc ≠ machine.next.branchOffset.2.body.pc

/-- The bytecode finishes and has popped so many operands above the value.  Nothing else has
changed but the program counter. -/
def LeavesValue (machine : SpinMachine τ) (value operands : UInt32) : Prop :=
  ∃ pc, let after := (machine.withPc pc).withStack (machine.frames.stack - 4 * operands)
    machine.execute = after.done ∧ after.OnStack [value]

lemma takesBranch_iff (offset : machine.next.branchOffset.1 ≠ 0) {operands : UInt32} {taken : Bool}
    (executed : machine.execute = (machine.next.caseAfter operands taken).done) :
    machine.TakesBranch ↔ taken = true := by
  rw [TakesBranch, executed]
  cases taken with
  | false => exact iff_of_false (fun moved => moved rfl) Bool.false_ne_true
  | true =>
    refine iff_of_true (fun same => offset ?_) rfl
    have behind : machine.next.branchOffset.2.body.pc + machine.next.branchOffset.1
        = machine.next.branchOffset.2.body.pc := same
    grind

lemma leavesValue_of_caseAfter {operands : UInt32} {taken : Bool}
    (executed : machine.execute = (machine.next.caseAfter operands taken).done)
    (stands : (machine.withStack (machine.frames.stack - 4 * operands)).OnStack [value]) :
    machine.LeavesValue value operands := by
  cases taken with
  | false => exact ⟨_, executed, stands⟩
  | true => exact ⟨_, executed, stands⟩

lemma leavesValue_caseValue {candidate : UInt32} (h : AtCase 0x0D [value, candidate] machine) :
    machine.LeavesValue value 1 := by
  have operands : machine.OnStack ([value] ++ [candidate]) := h.operands
  exact leavesValue_of_caseAfter (execute_caseValue h) operands.last.2

lemma leavesValue_caseRange {first second : UInt32}
    (h : AtCase 0x0E [value, first, second] machine) : machine.LeavesValue value 2 := by
  have operands : machine.OnStack ([value, first] ++ [second]) := h.operands
  have below : machine.pop.2.OnStack ([value] ++ [first]) := operands.last.2
  have stack : machine.frames.stack - 4 - 4 = machine.frames.stack - 4 * 2 := by grind
  have left := below.last.2
  exact leavesValue_of_caseAfter (execute_caseRange h) (stack ▸ left)

lemma takesBranch_caseValue {candidate : UInt32} (h : AtCase 0x0D [value, candidate] machine) :
    machine.TakesBranch ↔ candidate = value :=
  (takesBranch_iff h.offset (execute_caseValue h)).trans beq_iff_eq

lemma takesBranch_caseRange {first second : UInt32}
    (h : AtCase 0x0E [value, first, second] machine) :
    machine.TakesBranch ↔ BetweenUnsigned first second value :=
  (takesBranch_iff h.offset (execute_caseRange h)).trans decide_eq_true_iff

/-! ## Ranges and what they should fit -/

/-- A value of the range, as a candidate of its own, makes its machine branch. -/
def FitsInRange (single : UInt32 → SpinMachine τ) (first second : UInt32) : Prop :=
  ∃ candidate, Between first second candidate ∧ (single candidate).TakesBranch

/-- The search below `top` is over after the next bytecode. -/
def EndsSearch (machine : SpinMachine τ) (top : UInt32) : Prop :=
  machine.execute.machine.frames.stack ≠ top

variable {single : UInt32 → SpinMachine τ} {first second : UInt32}

lemma fitsInRange_iff (singles : ∀ candidate, AtCase 0x0D [value, candidate] (single candidate)) :
    FitsInRange single first second ↔ Between first second value := by
  constructor
  · rintro ⟨candidate, between, branches⟩
    exact (takesBranch_caseValue (singles candidate)).mp branches ▸ between
  · exact fun between => ⟨value, between, (takesBranch_caseValue (singles value)).mpr rfl⟩

lemma endsSearch_iff {object top : UInt32} {search : ListSearch}
    (list : Offered .lookdown object top search (.range first second) machine) :
    machine.EndsSearch top ↔ Between first second search.key := by
  rw [EndsSearch, execute_offered list, ListSearch.meet]
  split
  · next between =>
    have gone : top - 12 + 4 ≠ top := by grind
    exact iff_of_true gone between
  · next outside =>
    have stays : top - 12 + 4 + 4 + 4 = top := by grind
    exact iff_of_false (fun gone => gone stays) outside

/-- A case range fits what it should just if the two orders agree on the value. -/
lemma takesBranch_iff_fitsInRange (range : AtCase 0x0E [value, first, second] machine)
    (singles : ∀ candidate, AtCase 0x0D [value, candidate] (single candidate)) :
    (machine.TakesBranch ↔ FitsInRange single first second)
      ↔ (signed first < 0 ↔ signed second < 0) ∨ value = first ∨ value = second := by
  rw [takesBranch_caseRange range, fitsInRange_iff singles]
  exact betweenUnsigned_iff first second value

/-- **A case range** leaves the value on the stack and pops its bounds, as a candidate is popped.
It branches exactly if one of its values would, provided the bounds have the same sign or the value
is one of them; the search of a list always finds the value exactly then. -/
theorem caseRange_fits_iff {lister : SpinMachine τ} {object top : UInt32} {search : ListSearch}
    (range : AtCase 0x0E [search.key, first, second] machine)
    (singles : ∀ candidate, AtCase 0x0D [search.key, candidate] (single candidate))
    (list : Offered .lookdown object top search (.range first second) lister) :
    machine.LeavesValue search.key 2
      ∧ (∀ candidate, (single candidate).LeavesValue search.key 1)
      ∧ (lister.EndsSearch top ↔ FitsInRange single first second)
      ∧ ((machine.TakesBranch ↔ FitsInRange single first second)
        ↔ (signed first < 0 ↔ signed second < 0)
          ∨ search.key = first ∨ search.key = second) := by
  refine ⟨leavesValue_caseRange range, fun candidate => leavesValue_caseValue (singles candidate),
    ?_, takesBranch_iff_fitsInRange range singles⟩
  rw [endsSearch_iff list, fitsInRange_iff singles]

/-- A machine at a case bytecode.  Its branch leads four bytes on. -/
def caseMachine (code : UInt8) (operands : List UInt32) : SpinMachine Rat :=
  holding 0 0x40 operands (code.toUInt32 + 0x0400)

lemma atCase_caseMachine (code : UInt8) {operands : List UInt32}
    (short : operands.length < 2 ^ 14) : AtCase code operands (caseMachine code operands) where
  code := by
    refine (code_holding _ _ _ short).trans (UInt8.toNat_inj.mp ?_)
    simp
  operands := onStack_holding _ _ _ short
  offset := by
    have second : (caseMachine code operands).hub.memory.readByte
        ((caseMachine code operands).body.pc + 1) = 4 := by
      refine (readByte_holding _ _ _ short (k := 1) (by decide)).trans (UInt8.toNat_inj.mp ?_)
      have bound := code.toNat_lt
      have shifted : ((code.toUInt32 + 0x0400) >>> (8 * .ofNat 1)).toNat
          = (code.toNat + 0x0400) / 2 ^ 8 := by
        rw [UInt32.toNat_shiftRight, UInt32.toNat_add, UInt8.toNat_toUInt32,
          Nat.shiftRight_eq_div_pow]
        simp only [UInt32.reduceToNat, UInt32.reduceOfNat, UInt32.reduceMul, Nat.reduceMod]
        omega
      rw [UInt32.toNat_toUInt8, shifted]
      show (code.toNat + 0x0400) / 2 ^ 8 % 2 ^ 8 = 4
      omega
    show PackedOffset.signed ((caseMachine code operands).hub.memory.readByte
      ((caseMachine code operands).body.pc + 1)) _ ≠ 0
    rw [second]
    exact (by decide : (4 : UInt32) ≠ 0)

/-- A range from the one sign to the other fits its own bound. -/
theorem caseRange_fits_of_bound :
    let machine := caseMachine 0x0E [1, 0xFFFFFFFF, 1]
    let single (candidate : UInt32) := caseMachine 0x0D [1, candidate]
    let lister : SpinMachine Rat := offering .lookdown 0 0x40 ⟨0, 0, 1⟩ (.range 0xFFFFFFFF 1)
    AtCase 0x0E [1, 0xFFFFFFFF, 1] machine
      ∧ (∀ candidate, AtCase 0x0D [1, candidate] (single candidate))
      ∧ Offered .lookdown 0 0x40 ⟨0, 0, 1⟩ (.range 0xFFFFFFFF 1) lister
      ∧ machine.LeavesValue 1 2 ∧ machine.TakesBranch ∧ FitsInRange single 0xFFFFFFFF 1
      ∧ lister.EndsSearch 0x40 := by
  intro machine single lister
  have range : AtCase 0x0E [1, 0xFFFFFFFF, 1] machine := atCase_caseMachine _ (by simp)
  have singles (candidate : UInt32) : AtCase 0x0D [1, candidate] (single candidate) :=
    atCase_caseMachine _ (by simp)
  have fits : FitsInRange single 0xFFFFFFFF 1 := (fitsInRange_iff singles).mpr (by decide)
  have list : Offered .lookdown 0 0x40 ⟨0, 0, 1⟩ (.range 0xFFFFFFFF 1) lister :=
    offered_offering ..
  obtain ⟨leaves, -, ends, branches⟩ := caseRange_fits_iff range singles list
  exact ⟨range, singles, list, leaves, (branches.mpr (.inr (.inr rfl))).mpr fits, fits,
    ends.mpr fits⟩

/-- Zero is between -1 and 1, but the case range does not branch. -/
theorem not_caseRange_fits :
    let machine := caseMachine 0x0E [0, 0xFFFFFFFF, 1]
    let single (candidate : UInt32) := caseMachine 0x0D [0, candidate]
    AtCase 0x0E [0, 0xFFFFFFFF, 1] machine
      ∧ (∀ candidate, AtCase 0x0D [0, candidate] (single candidate))
      ∧ ¬ (machine.TakesBranch ↔ FitsInRange single 0xFFFFFFFF 1) := by
  intro machine single
  have range : AtCase 0x0E [0, 0xFFFFFFFF, 1] machine := atCase_caseMachine _ (by simp)
  have singles (candidate : UInt32) : AtCase 0x0D [0, candidate] (single candidate) :=
    atCase_caseMachine _ (by simp)
  refine ⟨range, singles, ?_⟩
  rw [takesBranch_iff_fitsInRange range singles]
  decide

end SpinMachine

end P1Chip
