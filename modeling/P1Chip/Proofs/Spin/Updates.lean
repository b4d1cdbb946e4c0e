import P1Chip.Proofs.Spin.Cases
import P1Chip.Proofs.Spin.Fields

/-!
# Updates and branches

Many bytecodes update something in place: any place in memory, a register, or some bits of one.
They find it each in their own way and then go on alike.  The next byte of the code tells the
update, and the new value is stored where the old one was.

Two of the updates are the ends of loops.  They count a variable and go back while it has not
passed the last value.

* `SpinMachine.Updating` — a machine that has found what it updates.
* `SpinMachine.updating?`, **`SpinMachine.execute_of_updating`** — the bytecodes that update
  something.
* `SpinMachine.branchTarget` — where a branch leads.
* `Word.stepped`, `Word.goesOn` — how a variable is counted, and while which values a loop goes on.
* `SpinMachine.loopStep_eq`, `SpinMachine.loopStride_eq` — the ends of loops.
-/

namespace P1Chip

open Word

/-! ## Counting from one bound to the other -/

namespace Word

/-- The next value of a variable that is counted from one bound to the other. -/
def stepped (start stop value : UInt32) : UInt32 :=
  if signed stop < signed start then value - 1 else value + 1

/-- The next value has not passed the last bound. -/
def goesOn (start stop value : UInt32) : Bool :=
  if signed stop < signed start then decide (signed stop ≤ signed (value - 1))
  else decide (signed (value + 1) ≤ signed stop)

lemma decide_between (first last x : UInt32) :
    decide (Between first last x)
      = if signed last < signed first then
          decide (signed last ≤ signed x) && decide (signed x ≤ signed first)
        else decide (signed first ≤ signed x) && decide (signed x ≤ signed last) := by
  rw [Bool.eq_iff_iff, decide_eq_true_iff, Between]
  split <;> simp only [Bool.and_eq_true, decide_eq_true_eq] <;> omega

end Word

namespace SpinMachine

variable {τ : Type}

/-! ## Branches -/

/-- Where a branch leads whose offset is next in the code. -/
def branchTarget (machine : SpinMachine τ) : UInt32 :=
  machine.branchOffset.2.body.pc + machine.branchOffset.1

/-- The branch leads there, if it is taken. -/
def branchTo? (machine : SpinMachine τ) (taken : Bool) : Option UInt32 :=
  if taken then some machine.branchTarget else none

lemma pc_branchIf (machine : SpinMachine τ) (taken : Bool) :
    (machine.branchOffset.2.branchIf taken machine.branchOffset.1).body.pc
      = (machine.branchTo? taken).getD (machine.body.pc + PackedOffset.size machine.code) := by
  cases taken <;> rfl

lemma frames_branchIf (machine : SpinMachine τ) (taken : Bool) (offset : UInt32) :
    (machine.branchIf taken offset).frames = machine.frames := by
  cases taken <;> rfl

/-! ## The ends of loops -/

/-- The variable is counted, and the branch is taken while the count has not passed the bound on
top of the stack. -/
lemma loopStep_eq (machine : SpinMachine τ) (before : UInt32) :
    machine.loopStep before
      = (stepped machine.pop.2.pop.1 machine.pop.1 before,
          machine.pop.2.pop.2.branchOffset.2.branchIf
            (goesOn machine.pop.2.pop.1 machine.pop.1 before)
            machine.pop.2.pop.2.branchOffset.1) := by
  simp only [loopStep, stepped, goesOn, toInt32_lt_iff, toInt32_le_iff]
  split <;> rfl

/-- A stride is added, and the branch is taken while the sum is between the bounds. -/
lemma loopStride_eq (machine : SpinMachine τ) (before : UInt32) :
    machine.loopStride before
      = (before + machine.pop.2.pop.2.pop.1,
          machine.pop.2.pop.2.pop.2.branchOffset.2.branchIf
            (decide (Between machine.pop.2.pop.1 machine.pop.1
              (before + machine.pop.2.pop.2.pop.1)))
            machine.pop.2.pop.2.pop.2.branchOffset.1) := by
  simp only [loopStride, decide_between, toInt32_lt_iff, toInt32_le_iff]
  split <;> rfl

/-- An update of such a value takes the branch behind it. -/
def takesBack (machine : SpinMachine τ) (before : UInt32) : Update → Bool
  | .loopStep => goesOn machine.pop.2.pop.1 machine.pop.1 before
  | .loopStride =>
    decide (Between machine.pop.2.pop.1 machine.pop.1 (before + machine.pop.2.pop.2.pop.1))
  | _ => false

/-! ## What is updated -/

/-- A machine that has found what it updates, and stands at the byte that tells the update. -/
structure Updating (τ : Type) where
  located : SpinMachine τ
  /-- The value before. -/
  before : UInt32
  store : SpinMachine τ → UInt32 → SpinMachine τ
  frames_store : ∀ machine value, (store machine value).frames = machine.frames
  pc_store : ∀ machine value, (store machine value).body.pc = machine.body.pc

namespace Updating

/-- What comes of the update. -/
def outcome (updating : Updating τ) : SpinOutcome τ :=
  updating.located.update updating.before updating.store

/-- Where the update branches to. -/
def jump? (updating : Updating τ) : Option UInt32 :=
  updating.located.next.branchTo? (updating.located.next.takesBack updating.before
    (UpdateByte.decode updating.located.code).update)

end Updating

/-- A place in memory is updated. -/
def updatingAt (machine : SpinMachine τ) (size : DataSize) (address : UInt32) : Updating τ where
  located := machine
  before := machine.hub.read size address
  store := fun machine stored => machine.withMemory (·.write size address stored)
  frames_store := fun _ _ => rfl
  pc_store := fun _ _ => rfl

variable [Timebase τ]

/-- A register is updated as a whole. -/
def updatingRegister (machine : SpinMachine τ) (register : UInt32) : Updating τ where
  located := machine
  before := machine.readRegister register
  store := fun machine stored => machine.writeRegister register stored
  frames_store := fun _ _ => rfl
  pc_store := fun machine _ => machine.body.writeRegister_pc machine.hub.running register _

/-- A field of a register is updated. -/
def updatingField (machine : SpinMachine τ) (field : RegisterField) (register : UInt32) :
    Updating τ where
  located := machine
  before := machine.fieldOf field register
  store := fun after stored =>
    after.writeRegister register (field.insert (machine.readRegister register) stored)
  frames_store := fun _ _ => rfl
  pc_store := fun after _ => after.body.writeRegister_pc after.hub.running register _

/-- What is updated, if the access is an update. -/
def Updating.ofKind? (updating : Updating τ) (kind : AccessKind) : Option (Updating τ) :=
  if kind = .update then some updating else none

omit [Timebase τ] in
lemma Updating.ofKind?_eq_some {updating found : Updating τ} {kind : AccessKind} :
    updating.ofKind? kind = some found ↔ kind = .update ∧ updating = found := by
  rw [ofKind?, Option.ite_none_right_eq_some, Option.some_inj]

/-- What a special operation updates, by the machine behind its bytecode. -/
def updatingBy? (machine : SpinMachine τ) : SpecialOp → Option (Updating τ)
  | .specialRegister kind =>
    if machine.pop.1 < 16 then
      (machine.pop.2.updatingRegister (SpecialRegister.par.address + machine.pop.1)).ofKind? kind
    else none
  | operation =>
    (machine.namedField? operation).bind fun (field, located) =>
      (RegisterAccess.decode? located.code).bind fun access =>
        (located.next.updatingField field access.register).ofKind? access.kind

/-- What the next bytecode updates, if it updates anything. -/
def updating? (machine : SpinMachine τ) : Option (Updating τ) :=
  match BytecodeFamily.classify machine.code with
  | .operator _ => none
  | .memory access =>
    let (address, located) := machine.next.locate access
    (located.updatingAt access.size address).ofKind? access.kind
  | .variable access =>
    let start := if access.isLocal then machine.frames.locals else machine.frames.vars
    (machine.next.updatingAt .long (start + access.offset)).ofKind? access.kind
  | .special code => (SpecialOp.decode? code).bind machine.next.updatingBy?

variable {machine : SpinMachine τ} {updating : Updating τ}

lemma accessSpecial_of_updating {kind : AccessKind}
    (h : machine.updatingBy? (.specialRegister kind) = some updating) :
    machine.accessSpecial kind = updating.outcome := by
  obtain ⟨low, updates⟩ := Option.ite_none_right_eq_some.mp h
  obtain ⟨rfl, rfl⟩ := Updating.ofKind?_eq_some.mp updates
  exact if_pos low

lemma accessField_of_updating {operation : SpecialOp} (pc : UInt32)
    (h : ((machine.namedField? operation).bind fun (field, located) =>
      (RegisterAccess.decode? located.code).bind fun access =>
        (located.next.updatingField field access.register).ofKind? access.kind) = some updating) :
    machine.special operation pc = updating.outcome := by
  obtain ⟨⟨field, located⟩, named, h⟩ := Option.bind_eq_some_iff.mp h
  obtain ⟨⟨kind, register⟩, decoded, h⟩ := Option.bind_eq_some_iff.mp h
  obtain ⟨rfl, rfl⟩ := Updating.ofKind?_eq_some.mp h
  have access : RegisterAccess.decode? located.nextByte.1 = some ⟨.update, register⟩ := decoded
  rw [special_of_field named, accessRegister]
  simp only [access]
  rfl

/-- **A bytecode that updates something** does so as the byte behind it tells. -/
theorem execute_of_updating (h : machine.updating? = some updating) :
    machine.execute = updating.outcome := by
  have family : BytecodeFamily.classify machine.nextByte.1
      = BytecodeFamily.classify machine.code := rfl
  rw [updating?] at h
  split at h
  · cases h
  · next access classified =>
    obtain ⟨kind, rfl⟩ := Updating.ofKind?_eq_some.mp h
    simp only [execute, family, classified]
    refine (accessMemory_eq _ access).trans ?_
    rw [kind]
    rfl
  · next access classified =>
    obtain ⟨kind, rfl⟩ := Updating.ofKind?_eq_some.mp h
    simp only [execute, family, classified, accessVariable, kind]
    rfl
  · next code classified =>
    obtain rfl := eq_of_classify classified
    obtain ⟨operation, decoded, h⟩ := Option.bind_eq_some_iff.mp h
    rw [execute_of_decode machine decoded]
    cases operation with
    | specialRegister kind => exact accessSpecial_of_updating h
    | _ => exact accessField_of_updating machine.body.pc h

end SpinMachine

end P1Chip
