import P1Chip.Proofs.Cog.Arithmetic
import P1Chip.Proofs.Spin.Updates

/-!
# Bytecodes that wait, and the others

What a cog does in the next clock is decided when a bytecode is started: it works on it for some
clocks.  Four bytecodes change that, because they wait for the pins, for the system counter or for
the video generator.  All others leave it alone, also those that fault.

* `isWaitCode` — the bytecodes that wait.
* `SpinMachine.state_update`, `SpinMachine.state_accessRegister`, `SpinMachine.state_startCog`,
  `SpinMachine.state_leave` — what bytecodes are made of leaves the state of the cog alone.
* **`SpinMachine.state_execute`** — and so does every bytecode that does not wait.
-/

namespace P1Chip

/-- Whether an operation waits for something. -/
def SpecialOp.isWait : SpecialOp → Bool
  | .waitPins _ | .waitCount | .waitVideo => true
  | _ => false

/-- The bytecodes that wait. -/
def isWaitCode (code : UInt8) : Bool :=
  code = 0x1B || code = 0x1F || code = 0x23 || code = 0x27

lemma isWait_of_decode {code : UInt8} {operation : SpecialOp}
    (h : SpecialOp.decode? code = some operation) : operation.isWait = isWaitCode code := by
  have table : ∀ n : Fin 64, ∀ operation ∈ SpecialOp.table[n],
      operation.isWait = isWaitCode (UInt8.ofNat n) := by decide
  simp only [SpecialOp.decode?] at h
  split at h
  · next low => simpa using table ⟨code.toNat, low⟩ operation h
  · cases h

namespace SpinMachine

variable {τ : Type} (machine : SpinMachine τ)

/-! ## Operators, branches and updates -/

lemma state_branchIf (taken : Bool) (offset : UInt32) :
    (machine.branchIf taken offset).body.state = machine.body.state := by
  cases taken <;> rfl

lemma state_operate (operator : Operator) :
    (machine.operate operator).body.state = machine.body.state := by
  simp only [operate]
  split <;> rfl

lemma state_assign (operator : Operator) (before : UInt32) :
    (machine.assign operator before).2.body.state = machine.body.state := by
  simp only [assign]
  split <;> rfl

lemma state_applyUpdate {update : Update} {before : UInt32} {updated : Updated τ}
    (h : machine.applyUpdate update before = .ok updated) :
    updated.machine.body.state = machine.body.state := by
  cases update with
  | undefined code => cases h
  | assign operator =>
    cases h
    exact machine.state_assign operator before
  | loopStep =>
    cases h
    rw [Updated.same, loopStep_eq]
    exact machine.pop.2.pop.2.branchOffset.2.state_branchIf _ _
  | loopStride =>
    cases h
    rw [Updated.same, loopStride_eq]
    exact machine.pop.2.pop.2.pop.2.branchOffset.2.state_branchIf _ _
  | _ =>
    cases h
    rfl

/-- An update leaves the state alone if storing the new value does. -/
lemma state_update (before : UInt32) {store : SpinMachine τ → UInt32 → SpinMachine τ}
    (stores : ∀ machine value, (store machine value).body.state = machine.body.state) :
    (machine.update before store).machine.body.state = machine.body.state := by
  rw [update]
  dsimp only
  split
  · rfl
  · next updated applied =>
    have same : updated.machine.body.state = machine.body.state :=
      machine.next.state_applyUpdate applied
    refine (stores _ _).trans ?_
    split <;> exact same

/-! ## Places in hub memory and registers -/

lemma state_accessAt (kind : AccessKind) (size : DataSize) (address : UInt32) :
    (machine.accessAt kind size address).machine.body.state = machine.body.state := by
  cases kind with
  | update => exact machine.state_update _ fun _ _ => rfl
  | _ => rfl

lemma state_accessMemory (access : MemoryAccess) :
    (machine.accessMemory access).machine.body.state = machine.body.state := by
  have located : (machine.locate access).2.body.state = machine.body.state := by
    rw [locate_took]
    rfl
  rw [accessMemory_eq, state_accessAt, located]

variable [Timebase τ]

lemma state_writeRegister (address value : UInt32) :
    (machine.writeRegister address value).body.state = machine.body.state :=
  machine.body.writeRegister_state ..

lemma state_accessRegister (mask lowest : UInt32) :
    (machine.accessRegister mask lowest).machine.body.state = machine.body.state := by
  simp only [accessRegister]
  split
  · rfl
  · split
    · rfl
    · exact state_writeRegister _ _ _
    · exact state_update _ _ fun machine _ => machine.state_writeRegister _ _
    · rfl

lemma state_accessSpecial (kind : AccessKind) :
    (machine.accessSpecial kind).machine.body.state = machine.body.state := by
  simp only [accessSpecial]
  split
  · cases kind with
    | pop => exact state_writeRegister _ _ _
    | update => exact state_update _ _ fun machine _ => machine.state_writeRegister _ _
    | _ => rfl
  · rfl

lemma state_accessBits :
    machine.accessBits.machine.body.state = machine.body.state := by
  simp only [accessBits]
  split <;> exact state_accessRegister _ _ _

/-! ## Special operations -/

omit [Timebase τ]

lemma state_loopEnter : machine.loopEnter.body.state = machine.body.state := by
  simp only [loopEnter]
  split <;> rfl

lemma state_loopNext : machine.loopNext.body.state = machine.body.state := by
  simp only [loopNext]
  split <;> rfl

lemma state_lookupValue : machine.lookupValue.body.state = machine.body.state := by
  simp only [lookupValue]
  split <;> rfl

lemma state_lookdownValue : machine.lookdownValue.body.state = machine.body.state := by
  simp only [lookdownValue]
  split <;> rfl

lemma state_lookupRange : machine.lookupRange.body.state = machine.body.state := by
  simp only [lookupRange]
  split <;> split <;> rfl

lemma state_lookdownRange : machine.lookdownRange.body.state = machine.body.state := by
  simp only [lookdownRange]
  split <;> split <;> rfl

lemma state_pushAnswer (answered : HubAnswer × SpinMachine τ) (push : Bool) :
    (pushAnswer answered push).body.state = answered.2.body.state := by
  cases push <;> rfl

lemma state_lockService (operation : HubOperation) (push : Bool) :
    (machine.lockService operation push).body.state = machine.body.state := by
  cases push <;> rfl

lemma state_takeLiteral (count : Nat) (value : UInt32) :
    (takeLiteral count value machine).2.body.state = machine.body.state := by
  induction count generalizing machine value with
  | zero => rfl
  | succ count ih => exact ih machine.next _

/-! ### Cogs that are started -/

lemma state_moveArguments (count : Nat) (address : UInt32) :
    (moveArguments count address machine).body.state = machine.body.state := by
  induction count generalizing machine address with
  | zero => rfl
  | succ count ih => exact ih _ (address - 4)

lemma state_startMethod : machine.startMethod.2.body.state = machine.body.state :=
  state_moveArguments _ _ _

lemma state_startCog : machine.startCog.2.body.state = machine.body.state := by
  simp only [startCog]
  split
  · exact state_startMethod _
  · rfl

/-! ### Calls -/

lemma state_call (target : CallTarget) (pc : UInt32) :
    (machine.call target pc).machine.body.state = machine.body.state := by
  cases target <;> simp only [call] <;> split <;> rfl

lemma state_unwind (abort : Bool) (kinds : List FrameKind) :
    (unwind abort kinds machine).2.body.state = machine.body.state := by
  induction kinds generalizing machine with
  | nil => rfl
  | cons kind kinds ih =>
    simp only [unwind]
    split
    · rfl
    · exact ih _

lemma state_leave (value : UInt32) (abort : Bool) :
    (machine.leave value abort).body.state = machine.body.state := by
  have unwound := machine.state_unwind abort machine.frames.openFrames
  simp only [leave]
  split
  · next left reached =>
    rw [reached] at unwound
    exact unwound
  · next kind left reached =>
    rw [reached] at unwound
    split <;> exact unwound

/-! ## Bytecodes -/

variable [Timebase τ]

lemma state_special {operation : SpecialOp} (other : operation.isWait = false) (pc : UInt32) :
    (machine.special operation pc).machine.body.state = machine.body.state := by
  cases operation with
  | waitPins equal => cases other
  | waitCount => cases other
  | waitVideo => cases other
  | call target => exact machine.state_call target pc
  | loopEnter => exact machine.state_loopEnter
  | loopNext => exact machine.state_loopNext
  | branchIfZero => exact state_branchIf _ _ _
  | branchIfNonzero => exact state_branchIf _ _ _
  | caseValue => exact state_branchIf _ _ _
  | caseRange => exact state_branchIf _ _ _
  | lookupValue => exact machine.state_lookupValue
  | lookdownValue => exact machine.state_lookdownValue
  | lookupRange => exact machine.state_lookupRange
  | lookdownRange => exact machine.state_lookdownRange
  | startCog push => exact (state_pushAnswer _ push).trans machine.state_startCog
  | newLock push => exact state_pushAnswer _ push
  | setLock push => exact machine.state_lockService _ push
  | clearLock push => exact machine.state_lockService _ push
  | specialRegister kind => exact machine.state_accessSpecial kind
  | leave abort popped => cases popped <;> exact state_leave _ _ abort
  | literal bytes => exact machine.state_takeLiteral bytes 0
  | registerBit => exact state_accessRegister _ _ _
  | registerBits => exact machine.state_accessBits
  | register => exact machine.state_accessRegister _ _
  | _ => rfl

/-- **Bytecodes that do not wait** leave it to the clock when the cog goes on. -/
theorem state_execute (other : isWaitCode machine.code = false) :
    machine.execute.machine.body.state = machine.body.state := by
  have family : BytecodeFamily.classify machine.nextByte.1
      = BytecodeFamily.classify machine.code := rfl
  simp only [execute, family]
  split
  · exact state_operate _ _
  · exact state_accessMemory _ _
  · exact state_accessAt _ _ _ _
  · next code classified =>
    obtain rfl := eq_of_classify classified
    split
    · next operation decoded =>
      exact state_special _ ((isWait_of_decode decoded).trans other) _
    · rfl

end SpinMachine

end P1Chip
