import Mathlib.Tactic.Lemma
import P1Chip.Proofs.Cog.InRange

/-!
# Run states as plain fields

A run state says what a cog does, and carries along what belongs to that: the next long while the
cog is loaded, the clocks that are left while it waits.  A cog that is built of plain words has
three fields instead.  The first is the name of the state.  The second is a count, which loading and
all waits share, and which keeps its last value in states that do not need it.  The third is the
state that follows a wait.  In such a cog a count of clocks could be taken for a place in memory, if
the name said so.  It never is: the fields always show a run state.

* `RunMode`, `RunFields` — the names and the three fields.
* `EngineKind.handlesMode` — the names that belong to each engine.
* `RunFields.enter` — the fields of a cog that goes over into a state.
* `RunFields.Shows` — the fields show a run state.
* **`RunFields.Shows.count_lt`**, **`RunFields.Shows.handlesMode`** — what that says of them.
* `RunFields.shows_enter` — a state that was entered is shown.
-/

namespace P1Chip

/-- The states of a cog, by their names alone. -/
inductive RunMode where
  | loadProgram
  | execute
  | waitCycles
  | waitPrewait
  | bootInterpreter
  | waitInterpreter
  | execInterpreter
  | waitPinsEqual
  | waitPinsNotEqual
  | waitCount
  | waitVideo
  | hubReadByte
  | hubReadWord
  | hubReadLong
  | hubOperation
deriving DecidableEq, Repr, Inhabited

namespace RunMode

/-- The state of a cog that is held up by something. -/
def ofWait : Wait → RunMode
  | .pinsEqual => waitPinsEqual
  | .pinsNotEqual => waitPinsNotEqual
  | .count => waitCount
  | .video => waitVideo
  | .hubTransfer .byte => hubReadByte
  | .hubTransfer .word => hubReadWord
  | .hubTransfer .long => hubReadLong
  | .hubService => hubOperation

/-- What follows the clocks that pass before a wait, or before the next instruction. -/
def afterClocks : Option Wait → RunMode
  | some wait => ofWait wait
  | none => execute

end RunMode

/-- The states in which a cog with this engine is ever found: the last nine are waits, of which
those for the hub are the native engine's alone. -/
def EngineKind.handlesMode : EngineKind → RunMode → Bool
  | _, .loadProgram | _, .waitPinsEqual | _, .waitPinsNotEqual => true
  | _, .waitCount | _, .waitVideo => true
  | .native, .execute | .native, .waitCycles | .native, .waitPrewait => true
  | .native, .hubReadByte | .native, .hubReadWord | .native, .hubReadLong => true
  | .native, .hubOperation => true
  | .native, .bootInterpreter | .native, .waitInterpreter | .native, .execInterpreter => false
  | .interpreted, .bootInterpreter | .interpreted, .waitInterpreter => true
  | .interpreted, .execInterpreter => true
  | .interpreted, .execute | .interpreted, .waitCycles | .interpreted, .waitPrewait => false
  | .interpreted, .hubReadByte | .interpreted, .hubReadWord | .interpreted, .hubReadLong => false
  | .interpreted, .hubOperation => false

/-- What a cog keeps to know what it does. -/
structure RunFields where
  mode : RunMode
  /-- The next long of the program, or the clocks that are left. -/
  count : UInt32
  /-- What follows a wait. -/
  next : RunMode
deriving DecidableEq, Repr, Inhabited

/-- The name of a state. -/
def RunState.mode : RunState → RunMode
  | loadProgram _ => .loadProgram
  | execute => .execute
  | working _ => .waitCycles
  | settling _ _ => .waitPrewait
  | booting _ => .bootInterpreter
  | interpreting _ => .waitInterpreter
  | fetch => .execInterpreter
  | waiting wait => .ofWait wait

/-- Clocks that are left in a state that counts them. -/
def RunState.left : RunState → Nat
  | working left | settling left _ | booting left | interpreting left => left
  | _ => 0

lemma RunState.mode_eq_loadProgram {state : RunState} (loads : state.mode = .loadProgram) :
    ∃ next, state = .loadProgram next := by
  cases state with
  | loadProgram next => exact ⟨next, rfl⟩
  | waiting wait =>
    cases wait with
    | hubTransfer size => cases size <;> cases loads
    | _ => cases loads
  | _ => cases loads

lemma RunState.mode_eq_waitVideo_iff {state : RunState} :
    state.mode = .waitVideo ↔ state = .waiting .video := by
  constructor
  · intro waits
    cases state with
    | waiting wait =>
      cases wait with
      | video => rfl
      | hubTransfer size => cases size <;> cases waits
      | _ => cases waits
    | _ => cases waits
  · rintro rfl
    rfl

/-- States and their names belong to the same engines. -/
lemma EngineKind.handlesMode_mode (kind : EngineKind) (state : RunState) :
    kind.handlesMode state.mode = kind.handles state := by
  cases state with
  | waiting wait =>
    cases wait with
    | hubTransfer size => cases kind <;> cases size <;> rfl
    | _ => cases kind <;> rfl
  | _ => cases kind <;> rfl

namespace RunFields

/-- Nothing was loaded yet. -/
def new : RunFields where
  mode := .loadProgram
  count := 0
  next := .execute

/-- The same cog in another state, with the count of the last one. -/
def withMode (run : RunFields) (mode : RunMode) : RunFields :=
  { run with mode }

/-- Another state, and clocks until it is over. -/
def withClocks (run : RunFields) (mode : RunMode) (clocks : Nat) : RunFields :=
  { run with mode, count := .ofNat clocks }

/-- One clock less; there are never less than none. -/
def countDown (run : RunFields) : RunFields :=
  { run with count := if run.count = 0 then 0 else run.count - 1 }

/-- The fields of a cog that goes over into a state.  What the state does not need stays. -/
def enter (run : RunFields) : RunState → RunFields
  | .loadProgram next => run.withClocks .loadProgram next.val
  | .execute => run.withMode .execute
  | .working left => run.withClocks .waitCycles left
  | .settling left next => ⟨.waitPrewait, .ofNat left, .afterClocks next⟩
  | .booting left => run.withClocks .bootInterpreter left
  | .interpreting left => run.withClocks .waitInterpreter left
  | .fetch => run.withMode .execInterpreter
  | .waiting wait => run.withMode (.ofWait wait)

/-- The fields show a run state.  In most states the count or the state that follows are left over
from before, and may be anything. -/
inductive Shows : RunFields → RunState → Prop
  | loadProgram (next : Fin programLongs) (later : RunMode) :
      Shows ⟨.loadProgram, .ofNat next.val, later⟩ (.loadProgram next)
  | execute (count : UInt32) (later : RunMode) : Shows ⟨.execute, count, later⟩ .execute
  | working (left : UInt32) (later : RunMode) :
      Shows ⟨.waitCycles, left, later⟩ (.working left.toNat)
  | settling (left : UInt32) (next : Option Wait) :
      Shows ⟨.waitPrewait, left, .afterClocks next⟩ (.settling left.toNat next)
  | booting (left : UInt32) (later : RunMode) :
      Shows ⟨.bootInterpreter, left, later⟩ (.booting left.toNat)
  | interpreting (left : UInt32) (later : RunMode) :
      Shows ⟨.waitInterpreter, left, later⟩ (.interpreting left.toNat)
  | fetch (count : UInt32) (later : RunMode) : Shows ⟨.execInterpreter, count, later⟩ .fetch
  | waiting (wait : Wait) (count : UInt32) (later : RunMode) :
      Shows ⟨.ofWait wait, count, later⟩ (.waiting wait)

variable {run : RunFields} {state : RunState}

lemma shows_new : new.Shows (.loadProgram 0) :=
  .loadProgram 0 .execute

/-! ## Counts -/

/-- Counts of clocks are words. -/
lemma toNat_clocks {clocks : Nat} (few : clocks < 2 ^ 32) : (UInt32.ofNat clocks).toNat = clocks :=
  UInt32.toNat_ofNat_of_lt' few

/-- Clocks of instructions and bytecodes are few, so the fields of a state show it. -/
lemma shows_enter (run : RunFields) {state : RunState} (few : state.left < 2 ^ 32) :
    (run.enter state).Shows state := by
  cases state with
  | loadProgram next => exact .loadProgram next run.next
  | execute => exact .execute run.count run.next
  | fetch => exact .fetch run.count run.next
  | waiting wait => exact .waiting wait run.count run.next
  | working left =>
    have shown := Shows.working (.ofNat left) run.next
    rw [show (UInt32.ofNat left).toNat = left from toNat_clocks few] at shown
    exact shown
  | settling left next =>
    have shown := Shows.settling (.ofNat left) next
    rw [show (UInt32.ofNat left).toNat = left from toNat_clocks few] at shown
    exact shown
  | booting left =>
    have shown := Shows.booting (.ofNat left) run.next
    rw [show (UInt32.ofNat left).toNat = left from toNat_clocks few] at shown
    exact shown
  | interpreting left =>
    have shown := Shows.interpreting (.ofNat left) run.next
    rw [show (UInt32.ofNat left).toNat = left from toNat_clocks few] at shown
    exact shown

lemma toNat_countDown (run : RunFields) : run.countDown.count.toNat = run.count.toNat - 1 := by
  rw [countDown]
  dsimp only
  split
  · next zero =>
    rw [zero]
    rfl
  · next nonzero =>
    have positive : run.count.toNat ≠ 0 := fun zero => nonzero (UInt32.toNat_inj.mp zero)
    have one : (1 : UInt32) ≤ run.count := by
      rw [UInt32.le_iff_toNat_le]
      show 1 ≤ _
      omega
    rw [UInt32.toNat_sub_of_le _ _ one]
    rfl

lemma countDown_le_one_iff (run : RunFields) : run.countDown.count ≤ 1 ↔ run.count.toNat ≤ 2 := by
  rw [UInt32.le_iff_toNat_le, toNat_countDown]
  show _ ≤ 1 ↔ _
  omega

lemma countDown_eq_zero_iff (run : RunFields) : run.countDown.count = 0 ↔ run.count.toNat ≤ 1 := by
  rw [← UInt32.toNat_inj, toNat_countDown]
  show _ = 0 ↔ _
  omega

/-! ## What fields show -/

namespace Shows

lemma mode_eq (shown : run.Shows state) : run.mode = state.mode := by
  cases shown <;> rfl

/-- Fields that show a state stay the same if that is entered. -/
lemma enter_eq (shown : run.Shows state) : run.enter state = run := by
  cases shown <;> simp only [enter, withClocks, withMode, UInt32.ofNat_toNat]

/-- One clock less, and the fields show that. -/
lemma countDown_working (left : UInt32) (later : RunMode) :
    (countDown ⟨.waitCycles, left, later⟩).Shows (.working (left.toNat - 1)) := by
  rw [← toNat_countDown ⟨.waitCycles, left, later⟩]
  exact .working _ later

lemma countDown_settling (left : UInt32) (next : Option Wait) :
    (countDown ⟨.waitPrewait, left, .afterClocks next⟩).Shows
      (.settling (left.toNat - 1) next) := by
  rw [← toNat_countDown ⟨.waitPrewait, left, .afterClocks next⟩]
  exact .settling _ next

lemma countDown_booting (left : UInt32) (later : RunMode) :
    (countDown ⟨.bootInterpreter, left, later⟩).Shows (.booting (left.toNat - 1)) := by
  rw [← toNat_countDown ⟨.bootInterpreter, left, later⟩]
  exact .booting _ later

lemma countDown_interpreting (left : UInt32) (later : RunMode) :
    (countDown ⟨.waitInterpreter, left, later⟩).Shows (.interpreting (left.toNat - 1)) := by
  rw [← toNat_countDown ⟨.waitInterpreter, left, later⟩]
  exact .interpreting _ later

/-- **While a cog is loaded**, its count is the number of a long of the program. -/
theorem count_lt (shown : run.Shows state) (loads : run.mode = .loadProgram) :
    run.count.toNat < programLongs := by
  obtain ⟨next, rfl⟩ := RunState.mode_eq_loadProgram (shown.mode_eq ▸ loads)
  cases shown
  rw [toNat_clocks (Nat.lt_trans next.isLt (by decide))]
  exact next.isLt

/-- **A cog is never found** in a state of the other engine. -/
theorem handlesMode {kind : EngineKind} (shown : run.Shows state) (handled : kind.handles state) :
    kind.handlesMode run.mode := by
  rw [shown.mode_eq, kind.handlesMode_mode]
  exact handled

end Shows

end RunFields

end P1Chip
