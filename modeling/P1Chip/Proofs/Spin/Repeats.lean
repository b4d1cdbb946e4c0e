import P1Chip.Proofs.Spin.Saved
import P1Chip.Proofs.Spin.Updates

/-!
# Loops

A loop repeats what stands between two of its bytecodes, the body.  The body may be anything, and
while it runs the rest of the chip does what it likes, so a run of a loop is told by the machines at
the ends of the body, one for each round.  What is asked of them is little: that they stand at the
end of the loop, and that what the loop keeps for itself is as it was.

A loop that counts down keeps its count on the stack, and a loop from one bound to another keeps it
in a variable.  The first is entered by a bytecode that passes it by if there is nothing to count.
The second always runs once, and counts until the variable has passed its bound.  Beyond the
greatest and the least signed number there is nothing to pass on to.

* `SpinMachine.AtBranch` — machines at the ends of a loop that counts down.
* `SpinMachine.execute_loopEnter`, `SpinMachine.execute_loopNext` — what these ends do.
* **`SpinMachine.counted_rounds`** — how often the body runs.
* `LoopVariable`, `SpinMachine.AtStep` — machines at the end of a loop between bounds.
* `SpinMachine.execute_step` — what that end does.
* **`SpinMachine.stepped_rounds_iff`** — how often the body runs, and when the loop ends.
-/

namespace P1Chip

open Memory Word

namespace SpinMachine

variable {τ : Type} [Timebase τ]

/-! ## Counting down -/

/-- The next bytecode is an operation that branches.  It goes on at `target` if the branch is taken,
and at `behind` if not. -/
structure AtBranch (operation : SpecialOp) (target behind : UInt32) (machine : SpinMachine τ) :
    Prop where
  code : SpecialOp.decode? machine.code = some operation
  target : machine.next.branchTarget = target
  behind : machine.next.branchOffset.2.body.pc = behind

variable {machine : SpinMachine τ} {body past : UInt32}

/-- A loop is entered with its count on the stack, or passed by without it. -/
lemma execute_loopEnter (h : AtBranch .loopEnter past body machine) :
    machine.execute = (if signed machine.pop.1 ≤ 0 then machine.pop.2.withPc past
      else machine.withPc body).done := by
  have sign : machine.pop.1.toInt32 ≤ 0 ↔ signed machine.pop.1 ≤ 0 := Int32.le_iff_toInt_le
  have again : machine.next.pop.2.branchOffset.2.push machine.next.pop.1
      = machine.withPc machine.next.branchOffset.2.body.pc := by
    have stack : machine.frames.stack - 4 + 4 = machine.frames.stack := by grind
    refine (push_of_stands rfl).trans ?_
    show machine.next.pop.2.branchOffset.2.withStack (machine.frames.stack - 4 + 4) = _
    rw [stack]
    rfl
  rw [execute_of_decode machine h.code, ← h.target, ← h.behind, ← if_congr sign rfl rfl, ← again]
  rfl

/-- A count goes down by one, and back onto the stack if something is left of it. -/
lemma execute_loopNext (h : AtBranch .loopNext body past machine) :
    machine.execute = (if 0 < signed (machine.pop.1 - 1) then
      (machine.pop.2.withPc body).push (machine.pop.1 - 1) else machine.pop.2.withPc past).done := by
  have sign : 0 < (machine.pop.1 - 1).toInt32 ↔ 0 < signed (machine.pop.1 - 1) :=
    Int32.lt_iff_toInt_lt
  rw [execute_of_decode machine h.code, ← h.target, ← h.behind, ← if_congr sign rfl rfl]
  rfl

/-- Between the machine at the start of the body and the one at its end, the end of the stack and
the count on top of it have not changed, and the end of the loop stands where it leads back. -/
structure LeavesCount (body past : UInt32) (before after : SpinMachine τ) : Prop where
  stack : after.frames.stack = before.frames.stack
  count : after.pop.1 = before.pop.1
  code : AtBranch .loopNext body past after

/-- The machine after so many rounds of a loop that was `entered`, if the body has `ended` so in
each of them. -/
def afterRounds (entered : SpinMachine τ) (ended : Nat → SpinMachine τ) : Nat → SpinMachine τ
  | 0 => entered.execute.machine
  | round + 1 => (ended round).execute.machine

/-- The body is next, with so many rounds to go.  Their number lies at `bottom` on the stack. -/
structure AtBody (body bottom : UInt32) (left : Nat) (machine : SpinMachine τ) : Prop where
  pc : machine.body.pc = body
  stack : machine.frames.stack = bottom + 4
  count : machine.pop.1 = .ofNat left

/-- The loop is over, with its count gone from the stack. -/
structure IsPast (past bottom : UInt32) (machine : SpinMachine τ) : Prop where
  pc : machine.body.pc = past
  stack : machine.frames.stack = bottom

lemma signed_pred_pos {left : Nat} (bounded : left < 2 ^ 31) :
    0 < signed (.ofNat (left + 1) - 1) ↔ 0 < left := by
  have pred : UInt32.ofNat (left + 1) - 1 = .ofNat left := by
    rw [UInt32.ofNat_add]
    grind
  rw [pred, signed_ofNat bounded]
  omega

/-- **A round.**  The end of the loop goes back to the body while rounds are left. -/
theorem execute_round {bottom : UInt32} (room : bottom.toNat % 65536 < halfSize) {left : Nat}
    (bounded : left < 2 ^ 31) {before after : SpinMachine τ}
    (reached : AtBody body bottom (left + 1) before) (leaves : LeavesCount body past before after) :
    after.execute.fault? = none
      ∧ (0 < left → AtBody body bottom left after.execute.machine)
      ∧ (left = 0 → IsPast past bottom after.execute.machine) := by
  have stack : after.frames.stack - 4 = bottom := by
    rw [leaves.stack, reached.stack]
    grind
  have count : after.pop.1 = .ofNat (left + 1) := leaves.count.trans reached.count
  rw [execute_loopNext leaves.code, count, if_congr (signed_pred_pos bounded) rfl rfl]
  split
  · next more =>
    have pred : UInt32.ofNat (left + 1) - 1 = .ofNat left := by
      rw [UInt32.ofNat_add]
      grind
    refine ⟨rfl, fun _ => ⟨rfl, congrArg (· + 4) stack, ?_⟩,
      fun none => absurd none (Nat.ne_of_gt more)⟩
    rw [pred]
    exact pop_push (stack ▸ room : (after.frames.stack - 4).toNat % 65536 < halfSize) _
  · next none =>
    exact ⟨rfl, fun more => absurd more none, fun _ => ⟨rfl, stack⟩⟩

/-- Round after round, from the first machine at the body to the last round's end. -/
theorem rounds_of_leaves {bottom : UInt32} (room : bottom.toNat % 65536 < halfSize) {rounds : Nat}
    (bounded : rounds < 2 ^ 31) {before ended : Nat → SpinMachine τ}
    (goesOn : ∀ round, before (round + 1) = (ended round).execute.machine)
    (first : 0 < rounds → AtBody body bottom rounds (before 0))
    (leaves : ∀ round < rounds, LeavesCount body past (before round) (ended round)) :
    (∀ round < rounds, AtBody body bottom (rounds - round) (before round)
      ∧ (ended round).execute.fault? = none)
      ∧ (0 < rounds → IsPast past bottom (before rounds)) := by
  have step (round left : Nat) (remaining : rounds - round = left + 1)
      (reached : AtBody body bottom (rounds - round) (before round)) :
      (ended round).execute.fault? = none
        ∧ (0 < left → AtBody body bottom left (before (round + 1)))
        ∧ (left = 0 → IsPast past bottom (before (round + 1))) := by
    rw [remaining] at reached
    rw [goesOn]
    exact execute_round room (by omega) reached (leaves round (by omega))
  -- at the start of every round the body is next, and the count tells what is left
  have reached : ∀ round < rounds, AtBody body bottom (rounds - round) (before round) := by
    intro round
    induction round with
    | zero => exact first
    | succ round ih =>
      intro more
      exact (step round (rounds - (round + 1)) (by omega) (ih (by omega))).2.1 (by omega)
  constructor
  · intro round more
    exact ⟨reached round more,
      (step round (rounds - (round + 1)) (by omega) (reached round more)).1⟩
  · cases rounds with
    | zero => exact fun none => absurd none (Nat.lt_irrefl 0)
    | succ last =>
      exact fun _ => (step last 0 (by omega) (reached last (Nat.lt_succ_self last))).2.2 rfl

variable {start : SpinMachine τ} (room : start.frames.stack.toNat % 65536 < halfSize)
  {count : UInt32} (code : AtBranch .loopEnter past body (start.push count))
include room code

/-- The loop is entered at the body, or passed by. -/
lemma execute_entered :
    (start.push count).execute.fault? = none
      ∧ (0 < (signed count).toNat →
        AtBody body start.frames.stack (signed count).toNat (start.push count).execute.machine)
      ∧ ((signed count).toNat = 0 →
        IsPast past start.frames.stack (start.push count).execute.machine) := by
  have popped : (start.push count).pop.1 = count := pop_push room count
  have below : start.frames.stack + 4 - 4 = start.frames.stack := by grind
  rw [execute_loopEnter code, popped]
  split
  · next none =>
    exact ⟨rfl, fun more => by omega, fun _ => ⟨rfl, below⟩⟩
  · next more =>
    have number : UInt32.ofNat (signed count).toNat = count := by
      rw [← ofInt_natCast, Int.toNat_of_nonneg (by omega), ofInt_signed]
    refine ⟨rfl, fun _ => ⟨rfl, rfl, ?_⟩, fun none => by omega⟩
    rw [number]
    exact popped

/-- **A loop that counts down** runs its body as often as the count tells, which is not at all for a
negative one, and ends behind it with the stack as it was before the count was pushed. -/
theorem counted_rounds {ended : Nat → SpinMachine τ}
    (leaves : ∀ round < (signed count).toNat,
      LeavesCount body past (afterRounds (start.push count) ended round) (ended round)) :
    (start.push count).execute.fault? = none
      ∧ (∀ round < (signed count).toNat,
        AtBody body start.frames.stack ((signed count).toNat - round)
            (afterRounds (start.push count) ended round)
          ∧ (ended round).execute.fault? = none)
      ∧ IsPast past start.frames.stack
        (afterRounds (start.push count) ended (signed count).toNat) := by
  have bounds := signed_bounds count
  obtain ⟨fine, enters, passes⟩ := execute_entered room code
  obtain ⟨rounds, ends⟩ := rounds_of_leaves room (by omega) (fun _ => rfl) enters leaves
  refine ⟨fine, rounds, ?_⟩
  rcases Nat.eq_zero_or_pos (signed count).toNat with none | more
  · rw [none]
    exact passes none
  · exact ends more

omit room code in
/-- Two rounds in which a variable goes up by one. -/
theorem counted_rounds_of_two :
    let start := machineWith [(0x10, 0x08), (0x11, 0x04), (0x12, 0x42), (0x13, 0x26), (0x14, 0x09),
      (0x15, 0x7C)]
    let after (bytecodes : Nat) := Nat.repeat (·.execute.machine) bytecodes (start.push 2)
    (after 5).body.pc = 0x16 ∧ (after 5).frames.stack = 0x40
      ∧ (after 5).hub.memory.readLong 0 = 2 := by
  intro start after
  let ended (round : Nat) := after (2 * round + 2)
  have code : AtBranch .loopEnter 0x16 0x12 (start.push 2) :=
    ⟨by decide +kernel, by decide +kernel, by decide +kernel⟩
  have two : (signed 2).toNat = 2 := by decide
  have leaves : ∀ round < (signed 2).toNat,
      LeavesCount 0x12 0x16 (afterRounds (start.push 2) ended round) (ended round) := by
    rw [two]
    intro round more
    match round with
    | 0 => exact ⟨by decide +kernel, by decide +kernel,
        by decide +kernel, by decide +kernel, by decide +kernel⟩
    | 1 => exact ⟨by decide +kernel, by decide +kernel,
        by decide +kernel, by decide +kernel, by decide +kernel⟩
  have past := (counted_rounds (by decide +kernel) code leaves).2.2
  rw [two] at past
  have last : afterRounds (start.push 2) ended 2 = after 5 := rfl
  rw [last] at past
  exact ⟨past.pc, past.stack, by decide +kernel⟩

/-! ## Counting from one bound to the other -/

end SpinMachine

namespace Word

variable {start stop : UInt32}

lemma signed_succ_le_iff (x : UInt32) : signed (x + 1) ≤ signed x ↔ x = 0x7FFFFFFF := by
  have bound := x.toNat_lt
  simp only [signed_eq, ← UInt32.toNat_inj, UInt32.toNat_add, UInt32.reduceToNat]
  split <;> split <;> omega

lemma signed_le_pred_iff (x : UInt32) : signed x ≤ signed (x - 1) ↔ x = 0x80000000 := by
  have bound := x.toNat_lt
  simp only [signed_eq, ← UInt32.toNat_inj, UInt32.toNat_sub, UInt32.reduceToNat]
  split <;> split <;> omega

/-- Behind each word of a range but the last one stands the next one. -/
lemma stepped_rangeAt {place : Nat} (inside : place < (signed stop - signed start).natAbs) :
    stepped start stop (rangeAt start stop place) = rangeAt start stop (place + 1) := by
  rw [stepped, rangeAt, rangeAt, UInt32.ofNat_add]
  rcases Int.lt_or_gt_of_ne (show signed start ≠ signed stop by omega) with up | down
  · rw [if_neg (Int.not_lt.mpr (Int.le_of_lt up)), if_pos up, if_pos up, UInt32.add_assoc]
    rfl
  · have notUp : ¬ signed start < signed stop := Int.not_lt.mpr (Int.le_of_lt down)
    rw [if_pos down, if_neg notUp, if_neg notUp]
    grind

lemma goesOn_eq (start stop value : UInt32) :
    goesOn start stop value
      = if signed stop < signed start then decide (signed stop ≤ signed (stepped start stop value))
        else decide (signed (stepped start stop value) ≤ signed stop) := by
  rw [goesOn, stepped]
  split <;> rfl

lemma goesOn_rangeAt {place : Nat} (inside : place < (signed stop - signed start).natAbs) :
    goesOn start stop (rangeAt start stop place) = true := by
  rw [goesOn_eq, stepped_rangeAt inside, signed_rangeAt (Nat.succ_lt_succ inside)]
  split <;> rw [decide_eq_true_iff] <;> split <;> omega

/-- At the last word it goes on only if that is the greatest or the least of all words. -/
lemma goesOn_stop_iff :
    goesOn start stop stop = true
      ↔ stop = 0x7FFFFFFF ∨ stop = 0x80000000 ∧ start ≠ 0x80000000 := by
  have bounds := signed_bounds start
  have greatest : signed 0x7FFFFFFF = 2 ^ 31 - 1 := by decide
  have least : signed 0x80000000 = - 2 ^ 31 := by decide
  rw [goesOn]
  split
  · next down =>
    rw [decide_eq_true_iff, signed_le_pred_iff]
    constructor
    · rintro rfl
      refine .inr ⟨rfl, ?_⟩
      rintro rfl
      omega
    · rintro (rfl | ⟨rfl, -⟩)
      · omega
      · rfl
  · next up =>
    rw [decide_eq_true_iff, signed_succ_le_iff]
    constructor
    · exact .inl
    · rintro (rfl | ⟨rfl, other⟩)
      · rfl
      · refine absurd (signed_inj.mp ?_) other
        omega

end Word

/-- A variable as loops have it: a place that keeps what is stored there. -/
structure LoopVariable (τ : Type) [Timebase τ] where
  value : SpinMachine τ → UInt32
  store : SpinMachine τ → UInt32 → SpinMachine τ
  value_store : ∀ machine stored, value (store machine stored) = stored

namespace LoopVariable

variable {τ : Type} [Timebase τ]

/-- A long in RAM. -/
def long (address : UInt32) (room : address.toNat % 65536 < halfSize) : LoopVariable τ where
  value machine := machine.hub.read .long address
  store machine stored := machine.withMemory (·.write .long address stored)
  value_store machine stored := readLong_writeLong machine.hub.memory room stored

/-- A register that keeps what is written to it. -/
def register (address : UInt32) (writable : CogBody.IsWritable address) : LoopVariable τ where
  value machine := machine.readRegister address
  store machine stored := machine.writeRegister address stored
  value_store machine stored :=
    machine.body.readRegister_writeRegister_self machine.hub machine.hub.running writable stored

end LoopVariable

namespace SpinMachine

variable {τ : Type} [Timebase τ]

/-- The update is a step of a loop between these bounds.  It goes on at `target` if it goes back,
and at `behind` if not. -/
structure Updating.StepsBetween (start stop target behind : UInt32) (updating : Updating τ) :
    Prop where
  update : (UpdateByte.decode updating.located.code).update = .loopStep
  bounds : updating.located.OnStack [start, stop]
  target : updating.located.next.branchTarget = target
  behind : updating.located.next.branchOffset.2.body.pc = behind

/-- The next bytecode updates the variable of a loop by such a step. -/
def AtStep (counter : LoopVariable τ) (start stop target behind : UInt32)
    (machine : SpinMachine τ) : Prop :=
  ∃ updating, machine.updating? = some updating ∧ updating.before = counter.value machine
    ∧ updating.store = counter.store ∧ updating.StepsBetween start stop target behind

variable {counter : LoopVariable τ} {start stop target behind : UInt32} {machine : SpinMachine τ}

/-- **The end of the loop** counts the variable and goes back while it has not passed its bound. -/
theorem execute_step (h : AtStep counter start stop target behind machine) :
    machine.execute.fault? = none
      ∧ counter.value machine.execute.machine = stepped start stop (counter.value machine)
      ∧ machine.execute.machine.body.pc
        = if goesOn start stop (counter.value machine) then target else behind := by
  obtain ⟨⟨located, before, store, frames_store, pc_store⟩, updates, value, place, steps⟩ := h
  obtain ⟨update, bounds, rfl, rfl⟩ := steps
  obtain ⟨push, decoded⟩ : ∃ push, UpdateByte.decode located.code = ⟨.loopStep, push⟩ :=
    ⟨_, congrArg (UpdateByte.mk · _) update⟩
  have stopOn : located.next.OnStack ([start] ++ [stop]) := bounds
  have startOn : located.next.pop.2.OnStack ([] ++ [start]) := stopOn.last.2
  have poppedStop : located.next.pop.1 = stop := stopOn.last.1
  have poppedStart : located.next.pop.2.pop.1 = start := startOn.last.1
  rw [execute_of_updating updates, Updating.outcome, update_of_ok decoded rfl, loopStep_eq,
    poppedStop, poppedStart]
  dsimp only at value place
  subst value place
  refine ⟨rfl, counter.value_store _ _, (pc_store _ _).trans ?_⟩
  cases push <;> cases goesOn start stop (counter.value machine) <;> rfl

/-- **A loop between bounds** has the words from the one to the other in its variable, one after the
other, and goes back after each of them but the last.  Then it is over, unless the last one is the
greatest number or, on the way down, the least. -/
theorem stepped_rounds_iff {steps : Nat → SpinMachine τ} (back : target ≠ behind)
    (first : counter.value (steps 0) = start)
    (reached : ∀ round ≤ (signed stop - signed start).natAbs,
      AtStep counter start stop target behind (steps round))
    (alone : ∀ round < (signed stop - signed start).natAbs,
      counter.value (steps (round + 1)) = counter.value (steps round).execute.machine) :
    (∀ round ≤ (signed stop - signed start).natAbs,
        counter.value (steps round) = rangeAt start stop round
          ∧ (steps round).execute.fault? = none)
      ∧ (∀ round < (signed stop - signed start).natAbs,
        (steps round).execute.machine.body.pc = target)
      ∧ counter.value (steps (signed stop - signed start).natAbs) = stop
      ∧ ((steps (signed stop - signed start).natAbs).execute.machine.body.pc = behind
        ↔ stop ≠ 0x7FFFFFFF ∧ (stop = 0x80000000 → start = 0x80000000)) := by
  have values : ∀ round ≤ (signed stop - signed start).natAbs,
      counter.value (steps round) = rangeAt start stop round := by
    intro round
    induction round with
    | zero => exact fun _ => first.trans (by simp [rangeAt])
    | succ round ih =>
      intro more
      rw [alone round more, (execute_step (reached round (Nat.le_of_lt more))).2.1,
        ih (Nat.le_of_lt more), stepped_rangeAt more]
  have last : rangeAt start stop (signed stop - signed start).natAbs = stop :=
    rangeAt_of_between ⟨Int.min_le_right .., Int.le_max_right ..⟩
  refine ⟨fun round more => ⟨values round more, (execute_step (reached round more)).1⟩,
    fun round more => ?_, (values _ (Nat.le_refl _)).trans last, ?_⟩
  · rw [(execute_step (reached round (Nat.le_of_lt more))).2.2, values round (Nat.le_of_lt more),
      goesOn_rangeAt more]
    rfl
  · rw [(execute_step (reached _ (Nat.le_refl _))).2.2, values _ (Nat.le_refl _), last]
    have ends : ¬ goesOn start stop stop = true
        ↔ stop ≠ 0x7FFFFFFF ∧ (stop = 0x80000000 → start = 0x80000000) := by
      rw [goesOn_stop_iff, not_or, not_and, not_not]
    rw [← ends, ite_eq_right_iff]
    exact ⟨fun ends goes => back (ends goes), fun ends goes => absurd goes ends⟩

/-- A machine at the end of a loop whose variable is the long at zero.  The loop goes back to the
byte before. -/
def stepMachine (start stop value : UInt32) : SpinMachine Rat :=
  holding 0 12 [value, start, stop] 0x007C0242

/-- The variable of that loop. -/
def stepCounter : LoopVariable Rat :=
  .long 0 (by decide)

lemma onStack_stepMachine (start stop value : UInt32) :
    (stepMachine start stop value).OnStack [value, start, stop] :=
  onStack_holding 0 12 _ (by simp)

lemma value_stepMachine (start stop value : UInt32) :
    stepCounter.value (stepMachine start stop value) = value := by
  have bottom : (0 : UInt32) = 12 - 4 * .ofNat (3 - 0) := by decide
  have lowest := onStack_stepMachine start stop value 0 (by simp)
  show (stepMachine start stop value).hub.memory.readLong 0 = value
  rw [bottom]
  exact lowest

lemma atStep_stepMachine (start stop value : UInt32) :
    AtStep stepCounter start stop 11 15 (stepMachine start stop value) := by
  have short : [value, start, stop].length < 2 ^ 14 := by simp
  have pc : (stepMachine start stop value).body.pc = 12 := by
    show UInt32.ofNat ((bottomLong 12 3 + 3) % 2 ^ 14 * 4) = 12
    decide
  have code : (stepMachine start stop value).code = 0x42 := code_holding 0 12 _ short
  have update : (stepMachine start stop value).next.code = 0x02 :=
    readByte_holding 0 12 _ short (k := 1) (by decide)
  have offset : (stepMachine start stop value).next.next.code = 0x7C := by
    have second : (stepMachine start stop value).body.pc + 1 + 1
        = (stepMachine start stop value).body.pc + .ofNat 2 := UInt32.add_assoc ..
    rw [SpinMachine.code]
    show (stepMachine start stop value).hub.memory.readByte
      ((stepMachine start stop value).body.pc + 1 + 1) = _
    rw [second]
    exact readByte_holding 0 12 _ short (k := 2) (by decide)
  have classified : BytecodeFamily.classify (stepMachine start stop value).code
      = .variable ⟨.update, false, 0⟩ := by
    rw [code]
    rfl
  have updates : (stepMachine start stop value).updating?
      = some ((stepMachine start stop value).next.updatingAt .long 0) := by
    rw [updating?, classified]
    rfl
  have behind : (stepMachine start stop value).next.next.branchOffset.2.body.pc = 15 := by
    show (stepMachine start stop value).body.pc + 1 + 1
      + PackedOffset.size (stepMachine start stop value).next.next.code = 15
    rw [offset, pc]
    rfl
  refine ⟨_, updates, rfl, rfl, ?_, ?_, ?_, behind⟩
  · show (UpdateByte.decode (stepMachine start stop value).next.code).update = _
    rw [update]
    rfl
  · have all : (stepMachine start stop value).OnStack ([value] ++ [start, stop]) :=
      onStack_stepMachine start stop value
    exact all.above
  · show (stepMachine start stop value).next.next.branchOffset.2.body.pc
      + PackedOffset.signed (stepMachine start stop value).next.next.code _ = 11
    have signed (second : UInt8) : PackedOffset.signed 0x7C second = -4 := if_neg (by decide)
    rw [behind, offset, signed]
    rfl

/-- A loop from 3 down to -2 goes back five times. -/
theorem stepped_rounds_of_downwards :
    let steps (round : Nat) := stepMachine 3 0xFFFFFFFE (rangeAt 3 0xFFFFFFFE round)
    (∀ round < 5, (steps round).execute.machine.body.pc = 11)
      ∧ stepCounter.value (steps 5) = 0xFFFFFFFE ∧ (steps 5).execute.machine.body.pc = 15 := by
  intro steps
  have rounds : (signed 0xFFFFFFFE - signed 3).natAbs = 5 := by decide
  have reached (round : Nat) : AtStep stepCounter 3 0xFFFFFFFE 11 15 (steps round) :=
    atStep_stepMachine ..
  have all := stepped_rounds_iff (by decide) (value_stepMachine 3 0xFFFFFFFE _)
    (fun round _ => reached round) fun round more => by
      rw [(execute_step (reached round)).2.1, value_stepMachine, value_stepMachine,
        stepped_rangeAt more]
  rw [rounds] at all
  exact ⟨all.2.1, all.2.2.1, all.2.2.2.mpr (by decide)⟩

/-- A loop from the greatest number to itself goes back. -/
theorem not_stepped_rounds_of_greatest :
    let machine := stepMachine 0x7FFFFFFF 0x7FFFFFFF 0x7FFFFFFF
    AtStep stepCounter 0x7FFFFFFF 0x7FFFFFFF 11 15 machine
      ∧ stepCounter.value machine = 0x7FFFFFFF ∧ machine.execute.machine.body.pc = 11 := by
  intro machine
  have reached : AtStep stepCounter 0x7FFFFFFF 0x7FFFFFFF 11 15 machine := atStep_stepMachine ..
  have value : stepCounter.value machine = 0x7FFFFFFF := value_stepMachine ..
  refine ⟨reached, value, ?_⟩
  rw [(execute_step reached).2.2, value]
  rfl

end SpinMachine

end P1Chip
