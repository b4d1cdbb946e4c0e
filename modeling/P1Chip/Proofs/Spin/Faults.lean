import P1Chip.Proofs.Spin.Nesting

/-!
# What a fault leaves behind

A bytecode that has no meaning is found out in the middle of it: bytes of the code were read then,
and operands were popped.  Those are gone, and nothing else should be.

How much is gone is told by the bytecode and the byte behind it.  The operands are where they were,
below the end of the stack that has moved, so a machine after a fault is the machine before it with
another program counter and another end of the stack.  There is one exception.  A call of a method
of a child object turns to that object before it asks for the frame that it needs, and does not turn
back when there is none.

* `SpinMachine.took` — a machine that has read bytes and popped operands.
* `BytecodeFamily.intake` — how much a bytecode has taken in when it faults.
* `SpinMachine.execute_fault` — the machine after a fault.
* **`SpinMachine.fault_keeps_iff`** — when nothing but that has changed.
-/

namespace P1Chip

/-! ## What is taken in -/

/-- Bytes of the code behind the bytecode, and longs from the stack. -/
structure Intake where
  bytes : UInt32
  operands : UInt32
deriving DecidableEq, Repr

/-- What is read and popped to find an address: the packed offset that starts with the byte `next`,
or the popped start of main memory, and the index. -/
def MemoryAccess.address (access : MemoryAccess) (next : UInt8) : Intake where
  bytes := if access.space = .main then 0 else PackedOffset.size next
  operands := (if access.space = .main then 1 else 0) + if access.indexed then 1 else 0

/-- The bytes of an access to a register that faults: one that names the register, and if that asks
for an update, one that fails to say which. -/
def RegisterAccess.bytes (next : UInt8) : UInt32 :=
  if (RegisterAccess.decode? next).any (·.kind = .update) then 2 else 1

/-- What a special operation has taken in when it faults. -/
def SpecialOp.intake (next : UInt8) : SpecialOp → Intake
  | .call .own => ⟨1, 0⟩
  | .call .child => ⟨2, 0⟩
  | .call .childElement => ⟨2, 1⟩
  | .specialRegister _ => ⟨1, 1⟩
  | .register => ⟨RegisterAccess.bytes next, 0⟩
  | .registerBit => ⟨RegisterAccess.bytes next, 1⟩
  | .registerBits => ⟨RegisterAccess.bytes next, 2⟩
  | _ => ⟨0, 0⟩

/-- What a bytecode before the byte `next` has taken in when it faults. -/
def BytecodeFamily.intake (next : UInt8) : BytecodeFamily → Intake
  | .special code => ((SpecialOp.decode? code).map (·.intake next)).getD ⟨0, 0⟩
  | .variable _ => ⟨1, 0⟩
  | .memory access => ⟨(access.address next).bytes + 1, (access.address next).operands⟩
  | .operator _ => ⟨0, 0⟩

namespace SpinMachine

variable {τ : Type}

/-- The machine that has read and popped so much, and done nothing else. -/
def took (machine : SpinMachine τ) (intake : Intake) : SpinMachine τ :=
  (machine.withPc (machine.body.pc + intake.bytes)).withStack
    (machine.frames.stack - 4 * intake.operands)

/-- If the operation faults, this is the machine that it leaves. -/
def Faults (outcome : SpinOutcome τ) (left : SpinMachine τ) : Prop :=
  outcome.fault?.isSome → outcome.machine = left

variable (machine : SpinMachine τ)

lemma faults_done (left : SpinMachine τ) : Faults machine.done left :=
  nofun

lemma took_took (first second : Intake) :
    (machine.took first).took second
      = machine.took ⟨first.bytes + second.bytes, first.operands + second.operands⟩ := by
  have pc : machine.body.pc + first.bytes + second.bytes
      = machine.body.pc + (first.bytes + second.bytes) := UInt32.add_assoc ..
  have stack : machine.frames.stack - 4 * first.operands - 4 * second.operands
      = machine.frames.stack - 4 * (first.operands + second.operands) := by grind
  rw [took, took, took, ← pc, ← stack]
  rfl

lemma took_nothing : machine.took ⟨0, 0⟩ = machine := by
  have pc : machine.body.pc + 0 = machine.body.pc := UInt32.add_zero _
  have stack : machine.frames.stack - 4 * 0 = machine.frames.stack := by grind
  rw [took, pc, stack]
  rfl

lemma nextOffset_took (value : UInt8 → UInt8 → UInt32) :
    (machine.nextOffset value).2 = machine.took ⟨PackedOffset.size machine.code, 0⟩ := by
  have stack : machine.frames.stack - 4 * 0 = machine.frames.stack := by grind
  rw [took, stack]
  rfl

lemma nextByte_took : machine.nextByte.2 = machine.took ⟨1, 0⟩ := by
  have stack : machine.frames.stack - 4 * 0 = machine.frames.stack := by grind
  rw [took, stack]
  rfl

lemma pop_took : machine.pop.2 = machine.took ⟨0, 1⟩ := by
  have pc : machine.body.pc + 0 = machine.body.pc := UInt32.add_zero _
  rw [took, pc]
  rfl

lemma took_nextByte (intake : Intake) :
    machine.nextByte.2.took intake = machine.took ⟨1 + intake.bytes, intake.operands⟩ := by
  rw [nextByte_took, took_took, UInt32.zero_add]

lemma took_pop (intake : Intake) :
    machine.pop.2.took intake = machine.took ⟨intake.bytes, 1 + intake.operands⟩ := by
  rw [pop_took, took_took, UInt32.zero_add]

/-- What the next bytecode has taken in when it faults, with the bytecode itself. -/
def intake (machine : SpinMachine τ) : Intake :=
  let behind := (BytecodeFamily.classify machine.code).intake machine.next.code
  ⟨1 + behind.bytes, behind.operands⟩

lemma took_intake :
    machine.took machine.intake
      = machine.next.took ((BytecodeFamily.classify machine.code).intake machine.next.code) :=
  (machine.took_nextByte _).symm

lemma eq_of_classify {code special : UInt8}
    (h : BytecodeFamily.classify code = .special special) : special = code := by
  simp only [BytecodeFamily.classify] at h
  split at h
  · cases h
    rfl
  · split at h
    · cases h
    · split at h <;> cases h

lemma intake_of_decode {operation : SpecialOp} (next : UInt8)
    (decoded : SpecialOp.decode? machine.code = some operation) :
    (BytecodeFamily.classify machine.code).intake next = operation.intake next := by
  rw [classify_of_decode decoded, BytecodeFamily.intake, decoded]
  rfl

/-! ## Updates and accesses -/

lemma update_fault (before : UInt32) (store : SpinMachine τ → UInt32 → SpinMachine τ) :
    Faults (machine.update before store) (machine.took ⟨1, 0⟩) := by
  rw [← nextByte_took, update]
  dsimp only
  split
  · exact fun _ => rfl
  · exact faults_done _ _

lemma accessAt_fault (kind : AccessKind) (size : DataSize) (address : UInt32) :
    Faults (machine.accessAt kind size address) (machine.took ⟨1, 0⟩) := by
  cases kind with
  | update => exact machine.update_fault _ _
  | push => exact faults_done _ _
  | pop => exact faults_done _ _
  | reference => exact faults_done _ _

lemma accessVariable_fault (access : VariableAccess) :
    Faults (machine.accessVariable access) (machine.took ⟨1, 0⟩) :=
  machine.accessAt_fault _ _ _

lemma index_took (access : MemoryAccess) :
    (if access.indexed then machine.pop else (0, machine)).2
      = machine.took ⟨0, if access.indexed then 1 else 0⟩ := by
  split
  · exact machine.pop_took
  · exact machine.took_nothing.symm

/-- The address that an access is for, and the machine that has found it. -/
def locate (machine : SpinMachine τ) (access : MemoryAccess) : UInt32 × SpinMachine τ :=
  match access.space with
  | .main =>
    let (index, machine) := if access.indexed then machine.pop else (0, machine)
    let (start, machine) := machine.pop
    (start + (index <<< access.size.shift), machine)
  | space =>
    let (start, machine) := machine.spaceBase space
    let (offset, machine) := machine.variableOffset
    let (index, machine) := if access.indexed then machine.pop else (0, machine)
    (start + offset + (index <<< access.size.shift), machine)

lemma accessMemory_eq (access : MemoryAccess) :
    machine.accessMemory access = (machine.locate access).2.accessAt access.kind access.size
      (machine.locate access).1 := by
  obtain ⟨kind, space, indexed, size⟩ := access
  cases space <;> rfl

lemma locate_took (access : MemoryAccess) :
    (machine.locate access).2 = machine.took (access.address machine.code) := by
  rw [locate]
  split
  · next main =>
    show (if access.indexed then machine.pop else (0, machine)).2.pop.2 = _
    rw [index_took, pop_took, took_took, MemoryAccess.address, if_pos main, if_pos main]
    exact congrArg machine.took (by simp [UInt32.add_comm])
  · next other =>
    have base : (machine.spaceBase access.space).2 = machine := by
      cases space : access.space with
      | main => exact (other space).elim
      | _ => rfl
    show (if access.indexed then (machine.spaceBase access.space).2.variableOffset.2.pop
      else (0, (machine.spaceBase access.space).2.variableOffset.2)).2 = _
    rw [index_took, base, variableOffset, nextOffset_took, took_took, MemoryAccess.address,
      if_neg other, if_neg other, UInt32.add_zero]

/-- The address of an access is found first, and the access to it may fault. -/
lemma accessMemory_fault (access : MemoryAccess) :
    Faults (machine.accessMemory access)
      (machine.took ⟨(access.address machine.code).bytes + 1,
        (access.address machine.code).operands⟩) := by
  have found : Faults (machine.accessMemory access)
      ((machine.took (access.address machine.code)).took ⟨1, 0⟩) := by
    rw [accessMemory_eq, ← locate_took]
    exact accessAt_fault _ _ _ _
  rwa [took_took, UInt32.add_zero] at found

/-! ## Calls -/

/-- How far away from the current object and its variables those of the child are whose number is
the next byte, or its element with the given index. -/
def childOffsets (machine : SpinMachine τ) (index : UInt32) : UInt32 × UInt32 :=
  let entry := machine.code.toUInt32 * 4 + machine.frames.object + index * 4
  ((machine.hub.memory.readWord entry).toUInt32,
    (machine.hub.memory.readWord (entry + 2)).toUInt32)

/-- How far a call moves the pointers to the object and its variables. -/
def turn (machine : SpinMachine τ) : CallTarget → UInt32 × UInt32
  | .own => (0, 0)
  | .child => machine.childOffsets 0
  | .childElement => machine.childOffsets machine.pop.1

/-- The machine with those pointers moved. -/
def turnedBy (machine : SpinMachine τ) (offsets : UInt32 × UInt32) : SpinMachine τ :=
  machine.withFrames fun frames =>
    { frames with object := frames.object + offsets.1, vars := frames.vars + offsets.2 }

lemma turnedBy_eq_iff (offsets : UInt32 × UInt32) :
    machine.turnedBy offsets = machine ↔ offsets = (0, 0) := by
  obtain ⟨object, vars⟩ := offsets
  constructor
  · intro same
    have sameObject : machine.frames.object + object = machine.frames.object :=
      congrArg (·.frames.object) same
    have sameVars : machine.frames.vars + vars = machine.frames.vars :=
      congrArg (·.frames.vars) same
    rw [Prod.mk.injEq]
    exact ⟨by grind, by grind⟩
  · rintro ⟨⟩
    simp only [turnedBy, withFrames, UInt32.add_zero]

lemma enterChild_took :
    machine.enterChild false = (machine.took ⟨1, 0⟩).turnedBy (machine.turn .child) ∧
      machine.enterChild true
        = (machine.took ⟨1, 1⟩).turnedBy (machine.turn .childElement) := by
  have both : machine.nextByte.2.pop.2 = machine.took ⟨1, 1⟩ := by
    rw [pop_took, took_nextByte]
    rfl
  rw [← both, ← nextByte_took]
  exact ⟨rfl, rfl⟩

/-- The machine that has turned to the object of a call. -/
def entered (machine : SpinMachine τ) : CallTarget → SpinMachine τ
  | .own => machine
  | .child => machine.enterChild false
  | .childElement => machine.enterChild true

lemma entered_took (target : CallTarget) :
    ∃ intake, (machine.took intake).turnedBy (machine.turn target) = machine.entered target
      ∧ (SpecialOp.call target).intake machine.code = ⟨intake.bytes + 1, intake.operands⟩ := by
  cases target with
  | own =>
    refine ⟨⟨0, 0⟩, ?_, rfl⟩
    rw [took_nothing]
    exact (turnedBy_eq_iff machine _).mpr rfl
  | child => exact ⟨⟨1, 0⟩, machine.enterChild_took.1.symm, rfl⟩
  | childElement => exact ⟨⟨1, 1⟩, machine.enterChild_took.2.symm, rfl⟩

/-- A call asks for its frame when it has turned to the object and read the method's number. -/
lemma call_entered (target : CallTarget) (pc : UInt32) :
    Faults (machine.call target pc) (machine.entered target).nextByte.2 := by
  simp only [call]
  split
  · exact fun _ => rfl
  · exact faults_done _ _

lemma call_fault (target : CallTarget) (pc : UInt32) :
    Faults (machine.call target pc)
      ((machine.took ((SpecialOp.call target).intake machine.code)).turnedBy
        (machine.turn target)) := by
  obtain ⟨intake, turned, total⟩ := machine.entered_took target
  have number : (machine.entered target).nextByte.2
      = (machine.took ((SpecialOp.call target).intake machine.code)).turnedBy
          (machine.turn target) := by
    rw [← turned, nextByte_took, total]
    show ((machine.took intake).took ⟨1, 0⟩).turnedBy (machine.turn target) = _
    rw [took_took, UInt32.add_zero]
  rw [← number]
  exact machine.call_entered target pc

/-! ## Registers -/

variable [Timebase τ]

lemma accessRegister_fault (mask lowest : UInt32) :
    Faults (machine.accessRegister mask lowest)
      (machine.took ⟨RegisterAccess.bytes machine.code, 0⟩) := by
  rw [accessRegister]
  dsimp only
  split
  · next decoded =>
    have undecoded : RegisterAccess.decode? machine.code = none := decoded
    rw [RegisterAccess.bytes, undecoded]
    exact fun _ => machine.nextByte_took
  · next access decoded =>
    have named : RegisterAccess.decode? machine.code = some access := decoded
    rw [RegisterAccess.bytes, named]
    split
    · exact faults_done _ _
    · exact faults_done _ _
    · next kind =>
      rw [if_pos (by simp [kind])]
      have both : machine.nextByte.2.took ⟨1, 0⟩ = machine.took ⟨2, 0⟩ :=
        machine.took_nextByte _
      rw [← both]
      exact update_fault _ _ _
    · next kind =>
      rw [if_neg (by simp [kind])]
      exact fun _ => machine.nextByte_took

lemma accessSpecial_fault (kind : AccessKind) :
    Faults (machine.accessSpecial kind) (machine.took ⟨1, 1⟩) := by
  have both : machine.pop.2.took ⟨1, 0⟩ = machine.took ⟨1, 1⟩ := machine.took_pop _
  rw [← both, accessSpecial]
  dsimp only
  split
  · cases kind with
    | update => exact update_fault _ _ _
    | push => exact faults_done _ _
    | pop => exact faults_done _ _
    | reference => exact faults_done _ _
  · exact faults_done _ _

/-! ## Bytecodes -/

lemma accessBit_fault :
    Faults machine.accessBit (machine.took ⟨RegisterAccess.bytes machine.code, 1⟩) := by
  have both : machine.pop.2.took ⟨RegisterAccess.bytes machine.code, 0⟩
      = machine.took ⟨RegisterAccess.bytes machine.code, 1⟩ := machine.took_pop _
  rw [← both]
  exact machine.pop.2.accessRegister_fault _ _

lemma accessBits_fault :
    Faults machine.accessBits (machine.took ⟨RegisterAccess.bytes machine.code, 2⟩) := by
  have both : machine.pop.2.pop.2.took ⟨RegisterAccess.bytes machine.code, 0⟩
      = machine.took ⟨RegisterAccess.bytes machine.code, 2⟩ := by
    rw [took_pop, took_pop]
    rfl
  rw [← both]
  exact machine.pop.2.pop.2.accessRegister_fault _ _

lemma special_fault {operation : SpecialOp} (other : ∀ target, operation ≠ .call target)
    (pc : UInt32) :
    Faults (machine.special operation pc) (machine.took (operation.intake machine.code)) := by
  cases operation with
  | call target => exact (other target rfl).elim
  | specialRegister kind => exact machine.accessSpecial_fault kind
  | register => exact machine.accessRegister_fault _ _
  | registerBit => exact machine.accessBit_fault
  | registerBits => exact machine.accessBits_fault
  | leave abort popped => cases popped <;> exact faults_done _ _
  | _ => exact faults_done _ _

/-- How far the next bytecode moves the pointers to the object and its variables before it can
fault. -/
def turned (machine : SpinMachine τ) : UInt32 × UInt32 :=
  match SpecialOp.decode? machine.code with
  | some (.call target) => machine.next.turn target
  | _ => (0, 0)

/-- A bytecode that calls no method has only read and popped something. -/
lemma plain_fault (other : ∀ target, SpecialOp.decode? machine.code ≠ some (.call target)) :
    Faults machine.execute (machine.took machine.intake) := by
  cases decoded : SpecialOp.decode? machine.code with
  | some operation =>
    have noCall : ∀ target, operation ≠ .call target := by
      rintro target rfl
      exact other target decoded
    rw [took_intake, machine.intake_of_decode _ decoded, execute_of_decode machine decoded]
    exact machine.next.special_fault noCall machine.body.pc
  | none =>
    have family : BytecodeFamily.classify machine.nextByte.1
        = BytecodeFamily.classify machine.code := rfl
    rw [took_intake, execute]
    dsimp only
    rw [family]
    split
    · exact faults_done _ _
    · next access classified =>
      rw [classified]
      exact machine.next.accessMemory_fault access
    · next access classified =>
      rw [classified]
      exact machine.next.accessVariable_fault access
    · next code classified =>
      obtain rfl := eq_of_classify classified
      rw [classified, BytecodeFamily.intake, decoded]
      exact fun _ => machine.next.took_nothing.symm

/-- **A bytecode that faults** has read and popped something, and if it is a call, it has turned to
an object. -/
theorem execute_fault :
    Faults machine.execute ((machine.took machine.intake).turnedBy machine.turned) := by
  rw [turned]
  split
  · next target decoded =>
    rw [took_intake, machine.intake_of_decode _ decoded, execute_of_decode machine decoded]
    exact machine.next.call_fault target machine.body.pc
  · next other =>
    rw [(turnedBy_eq_iff _ _).mpr rfl]
    exact machine.plain_fault other

/-- **Nothing but that has changed** after a fault, unless a call was made without a frame, of a
method of a child object that is somewhere else than the object or has its variables somewhere
else. -/
theorem fault_keeps_iff {machine : SpinMachine τ} (faulted : machine.execute.fault?.isSome) :
    machine.execute.machine = (machine.took machine.intake).turnedBy machine.turned
      ∧ (machine.execute.machine = machine.took machine.intake ↔ machine.turned = (0, 0)) := by
  have left := machine.execute_fault faulted
  exact ⟨left, by rw [left, turnedBy_eq_iff]⟩

/-- A machine at `10` with its stack at `40`, an object at `20`, and these bytes in memory. -/
def machineWith (bytes : List (UInt16 × UInt8)) : SpinMachine Rat where
  frames := { SpinFrames.new with object := 0x20, locals := 0x30, stack := 0x40 }
  body := { CogBody.new 0 0 0 0 with pc := 0x10 }
  hub := .new (bytes.foldl (fun memory entry => memory.setByte entry.1 entry.2)
    ⟨.replicate halfSize 0, .replicate halfSize 0⟩)

/-- An update of a local that is not defined. -/
theorem fault_keeps_of_update :
    let machine := machineWith [(0x10, 0x62), (0x11, 0x01)]
    machine.execute.fault? = some (.update 0x01 0x11) ∧
      machine.execute.machine = machine.took ⟨2, 0⟩ := by
  intro machine
  have fault : machine.execute.fault? = some (.update 0x01 0x11) := by decide +kernel
  have faulted : machine.execute.fault?.isSome := by rw [fault]; rfl
  have intake : machine.intake = ⟨2, 0⟩ := by decide +kernel
  have turned : machine.turned = (0, 0) := by decide +kernel
  have kept := (fault_keeps_iff faulted).2.mpr turned
  exact ⟨fault, intake ▸ kept⟩

/-- A call without a frame leaves the machine with the child object, at `60`. -/
theorem not_fault_keeps_of_childCall :
    let machine := machineWith [(0x10, 0x06), (0x11, 0x01), (0x24, 0x40)]
    machine.execute.fault? = some (.callWithoutFrame 0x10) ∧
      machine.frames.object = 0x20 ∧ machine.execute.machine.frames.object = 0x60 := by
  decide +kernel

end SpinMachine

end P1Chip
