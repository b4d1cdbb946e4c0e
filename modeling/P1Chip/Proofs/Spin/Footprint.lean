import P1Chip.Proofs.Spin.Expression
import P1Chip.Proofs.Spin.Updates

/-!
# Footprints of bytecodes

A compiler has to know how long a bytecode is and what it does to the height of the stack, whatever
the data are.  The bytes of the code tell it.  A bytecode is followed by operands, such as an offset
or the byte of an update, and each of these bytes may ask for more of them, and for operands on the
stack.

Some bytecodes belong to calls and loops, and have a height that depends on the data by their
nature.  Among all others there is one exception.  The access to a special register looks at the
popped number of the register first and does nothing more if there is no such register.  It leaves
the value on the stack that it should have popped, and the byte of an update in the code, where it
is carried out as a bytecode.

* `Footprint` — a length, and the operands and results on the stack.
* `Footprint.ofCode` — the footprint that the bytes of the code tell.
* `SelfDelimiting`, `selfDelimiting_ofCode` — it tells itself where these bytes end.
* `SpinMachine.jump?` — where a machine branches to.
* `SpinMachine.Leaves`, `SpinMachine.leaves_execute` — what the footprint means.
* **`SpinMachine.footprint_fixed_iff`** — when two machines with the same code do the same to their
  stacks and program counters.
-/

namespace P1Chip

open Word

/-! ## Footprints -/

/-- The bytes of the code from some place on. -/
abbrev CodeBytes := Nat → UInt8

/-- The bytes after the first ones. -/
def CodeBytes.drop (code : CodeBytes) (count : Nat) : CodeBytes :=
  fun place => code (count + place)

/-- What some part of a bytecode uses of the code and of the stack. -/
structure Footprint where
  /-- How many bytes of the code it takes. -/
  bytes : Nat
  /-- How many longs it pops. -/
  operands : Nat
  /-- How many longs it pushes. -/
  results : Nat
deriving DecidableEq, Repr

namespace Footprint

instance : Add Footprint where
  add first second :=
    ⟨first.bytes + second.bytes, first.operands + second.operands, first.results + second.results⟩

/-- By how much the stack grows. -/
def growth (footprint : Footprint) : UInt32 :=
  4 * .ofNat footprint.results - 4 * .ofNat footprint.operands

lemma growth_add (first second : Footprint) :
    (first + second).growth = first.growth + second.growth := by
  show 4 * UInt32.ofNat (first.results + second.results)
    - 4 * UInt32.ofNat (first.operands + second.operands) = _
  rw [growth, growth, UInt32.ofNat_add, UInt32.ofNat_add]
  grind

/-- A stack that does not grow has as many results as operands, if there are not too many. -/
lemma results_of_growth {footprint : Footprint} (level : footprint.growth = 0)
    (fewResults : footprint.results < 2 ^ 30) (fewOperands : footprint.operands < 2 ^ 30) :
    footprint.results = footprint.operands := by
  have bytes : 4 * UInt32.ofNat footprint.results = 4 * UInt32.ofNat footprint.operands := by
    rw [growth] at level
    grind
  have numbers := congrArg UInt32.toNat bytes
  rw [UInt32.toNat_mul, UInt32.toNat_mul, UInt32.toNat_ofNat', UInt32.toNat_ofNat'] at numbers
  simp only [UInt32.reduceToNat] at numbers
  omega

/-- The footprint of an offset, which starts with the byte `first`. -/
def ofOffset (first : UInt8) : Footprint :=
  ⟨(PackedOffset.size first).toNat, 0, 0⟩

/-- What stays on the stack if it is asked for. -/
def ofResult (push : Bool) : Footprint :=
  ⟨0, 0, if push then 1 else 0⟩

end Footprint

/-- The footprint of an update, without the byte that tells it. -/
def Update.footprint (code : CodeBytes) : Update → Footprint
  | .copy => ⟨0, 1, 0⟩
  | .loopStep => ⟨0, 2, 0⟩ + .ofOffset (code 0)
  | .loopStride => ⟨0, 3, 0⟩ + .ofOffset (code 0)
  | .assign operator => ⟨0, if operator.isUnary then 0 else 1, 0⟩
  | _ => ⟨0, 0, 0⟩

/-- The footprint of an update that starts with its byte. -/
def UpdateByte.footprint (code : CodeBytes) : Footprint :=
  let byte := UpdateByte.decode (code 0)
  ⟨1, 0, 0⟩ + (.ofResult byte.push + byte.update.footprint (code.drop 1))

/-- What is done with a place that was found. -/
def AccessKind.footprint (code : CodeBytes) : AccessKind → Footprint
  | .push | .reference => ⟨0, 0, 1⟩
  | .pop => ⟨0, 1, 0⟩
  | .update => UpdateByte.footprint code

/-- What is used to find an address in memory. -/
def MemoryAccess.addressFootprint (next : UInt8) (access : MemoryAccess) : Footprint :=
  ⟨(access.address next).bytes.toNat, (access.address next).operands.toNat, 0⟩

def MemoryAccess.footprint (code : CodeBytes) (access : MemoryAccess) : Footprint :=
  access.addressFootprint (code 0)
    + access.kind.footprint (code.drop (access.addressFootprint (code 0)).bytes)

/-- The footprint of an access to a register, which starts with the byte that names it. -/
def RegisterAccess.footprint (code : CodeBytes) : Footprint :=
  ⟨1, 0, 0⟩ +
    match RegisterAccess.decode? (code 0) with
    | some access => access.kind.footprint (code.drop 1)
    | none => ⟨0, 0, 0⟩

/-- The bytecodes of calls and counted loops, of the elements of lists, and those that start a
cog.  What they do to the stack depends on the data. -/
def varyingCodes : List UInt8 :=
  [0x00, 0x01, 0x02, 0x03, 0x05, 0x06, 0x07, 0x08, 0x09, 0x10, 0x11, 0x12, 0x13, 0x28, 0x2C,
    0x30, 0x31, 0x32, 0x33]

/-- The footprint of a special operation that has one. -/
def SpecialOp.footprint (code : CodeBytes) : SpecialOp → Footprint
  | .branch => ⟨0, 0, 0⟩ + .ofOffset (code 0)
  | .branchIfZero | .branchIfNonzero => ⟨0, 1, 0⟩ + .ofOffset (code 0)
  | .caseDone => ⟨0, 2, 0⟩
  | .caseValue => ⟨0, 2, 1⟩ + .ofOffset (code 0)
  | .caseRange => ⟨0, 3, 1⟩ + .ofOffset (code 0)
  | .listDone => ⟨0, 3, 1⟩
  | .stringSize => ⟨0, 1, 1⟩
  | .stringCompare => ⟨0, 2, 1⟩
  | .fill _ | .move _ | .waitPins _ => ⟨0, 3, 0⟩
  | .waitVideo | .setClock => ⟨0, 2, 0⟩
  | .waitCount | .stopCog | .returnLock => ⟨0, 1, 0⟩
  | .newLock push => .ofResult push
  | .setLock push | .clearLock push => ⟨0, 1, 0⟩ + .ofResult push
  | .specialRegister kind => ⟨0, 1, 0⟩ + kind.footprint code
  | .constant _ => ⟨0, 0, 1⟩
  | .packedConstant => ⟨1, 0, 1⟩
  | .literal bytes => ⟨bytes, 0, 1⟩
  | .register => RegisterAccess.footprint code
  | .registerBit => ⟨0, 1, 0⟩ + RegisterAccess.footprint code
  | .registerBits => ⟨0, 2, 0⟩ + RegisterAccess.footprint code
  | _ => ⟨0, 0, 0⟩

/-- Whether a special operation has a footprint. -/
def SpecialOp.hasFootprint : SpecialOp → Bool
  | .openFrame _ | .call _ | .leave _ _ | .loopEnter | .loopNext | .lookupValue | .lookdownValue
  | .lookupRange | .lookdownRange | .startCog _ | .specialRegister .reference => false
  | _ => true

lemma hasFootprint_of_decode {code : UInt8} (fixed : code ∉ varyingCodes) {operation : SpecialOp}
    (h : SpecialOp.decode? code = some operation) : operation.hasFootprint := by
  have table : ∀ n : Fin 64, ∀ operation ∈ SpecialOp.table[n],
      UInt8.ofNat n ∉ varyingCodes → operation.hasFootprint := by
    decide +kernel
  simp only [SpecialOp.decode?] at h
  split at h
  · next low => exact table ⟨code.toNat, low⟩ operation h (by simpa using fixed)
  · cases h

def BytecodeFamily.footprint (code : CodeBytes) : BytecodeFamily → Footprint
  | .special bytecode =>
    match SpecialOp.decode? bytecode with
    | some operation => operation.footprint code
    | none => ⟨0, 0, 0⟩
  | .variable access => access.kind.footprint code
  | .memory access => access.footprint code
  | .operator applied => ⟨0, if applied.isUnary then 1 else 2, 1⟩

/-- The footprint of the bytecode that the code starts with. -/
def Footprint.ofCode (code : CodeBytes) : Footprint :=
  ⟨1, 0, 0⟩ + (BytecodeFamily.classify (code 0)).footprint (code.drop 1)

/-! ## Where footprints end -/

/-- The bytes that it takes are all that it depends on. -/
def SelfDelimiting (footprint : CodeBytes → Footprint) : Prop :=
  ∀ code other : CodeBytes, (∀ place < (footprint code).bytes, other place = code place) →
    footprint other = footprint code

lemma selfDelimiting_const (footprint : Footprint) : SelfDelimiting fun _ => footprint :=
  fun _ _ _ => rfl

/-- A byte is taken that tells what else is. -/
lemma selfDelimiting_andThen (head : UInt8 → Footprint) (rest : UInt8 → CodeBytes → Footprint)
    (taken : ∀ byte, 0 < (head byte).bytes) (delimits : ∀ byte, SelfDelimiting (rest byte)) :
    SelfDelimiting fun code =>
      head (code 0) + rest (code 0) (code.drop (head (code 0)).bytes) := by
  intro code other same
  have first : other 0 = code 0 := same 0 (Nat.lt_of_lt_of_le (taken _) (Nat.le_add_right ..))
  have more : rest (code 0) (other.drop (head (code 0)).bytes)
      = rest (code 0) (code.drop (head (code 0)).bytes) :=
    delimits _ _ _ fun place inside => same _ (Nat.add_lt_add_left inside _)
  simp only [first, more]

/-- The stack may be used as well. -/
lemma SelfDelimiting.add {footprint : CodeBytes → Footprint} (h : SelfDelimiting footprint)
    (operands results : Nat) :
    SelfDelimiting fun code => ⟨0, operands, results⟩ + footprint code := by
  intro code other same
  have rest : footprint other = footprint code :=
    h code other fun place inside => same place (Nat.lt_of_lt_of_le inside (Nat.le_add_left ..))
  simp only [rest]

lemma size_pos (first : UInt8) : 0 < (PackedOffset.size first).toNat := by
  rw [PackedOffset.size]
  split <;> decide

lemma selfDelimiting_ofOffset : SelfDelimiting fun code => .ofOffset (code 0) := by
  intro code other same
  have first : other 0 = code 0 := same 0 (size_pos _)
  simp only [first]

lemma selfDelimiting_update (update : Update) : SelfDelimiting (update.footprint ·) := by
  cases update with
  | loopStep => exact selfDelimiting_ofOffset.add 2 0
  | loopStride => exact selfDelimiting_ofOffset.add 3 0
  | _ => exact selfDelimiting_const _

lemma selfDelimiting_updateByte : SelfDelimiting UpdateByte.footprint :=
  selfDelimiting_andThen (fun _ => ⟨1, 0, 0⟩)
    (fun byte code => .ofResult (UpdateByte.decode byte).push
      + (UpdateByte.decode byte).update.footprint code)
    (fun _ => Nat.zero_lt_one) fun _ => (selfDelimiting_update _).add 0 _

lemma selfDelimiting_accessKind (kind : AccessKind) : SelfDelimiting (kind.footprint ·) := by
  cases kind with
  | update => exact selfDelimiting_updateByte
  | _ => exact selfDelimiting_const _

lemma selfDelimiting_memoryAccess (access : MemoryAccess) :
    SelfDelimiting (access.footprint ·) := by
  by_cases main : access.space = .main
  · have address (next : UInt8) : access.addressFootprint next
        = ⟨0, (access.address 0).operands.toNat, 0⟩ := by
      simp only [MemoryAccess.addressFootprint, MemoryAccess.address, if_pos main]
      rfl
    simp only [MemoryAccess.footprint, address]
    refine SelfDelimiting.add ?_ _ 0
    have whole (code : CodeBytes) : code.drop 0 = code :=
      funext fun _ => congrArg code (Nat.zero_add _)
    simp only [whole]
    exact selfDelimiting_accessKind access.kind
  · refine selfDelimiting_andThen access.addressFootprint (fun _ => (access.kind.footprint ·))
      (fun byte => ?_) fun _ => selfDelimiting_accessKind access.kind
    simp only [MemoryAccess.addressFootprint, MemoryAccess.address, if_neg main]
    exact size_pos byte

lemma selfDelimiting_registerAccess : SelfDelimiting RegisterAccess.footprint := by
  refine selfDelimiting_andThen (fun _ => ⟨1, 0, 0⟩)
    (fun byte code => match RegisterAccess.decode? byte with
      | some access => access.kind.footprint code
      | none => ⟨0, 0, 0⟩)
    (fun _ => Nat.zero_lt_one) fun byte => ?_
  split
  · next access _ => exact selfDelimiting_accessKind access.kind
  · exact selfDelimiting_const _

lemma selfDelimiting_specialOp (operation : SpecialOp) :
    SelfDelimiting (operation.footprint ·) := by
  cases operation with
  | branch => exact selfDelimiting_ofOffset.add 0 0
  | branchIfZero | branchIfNonzero => exact selfDelimiting_ofOffset.add 1 0
  | caseValue => exact selfDelimiting_ofOffset.add 2 1
  | caseRange => exact selfDelimiting_ofOffset.add 3 1
  | specialRegister kind => exact (selfDelimiting_accessKind kind).add 1 0
  | register => exact selfDelimiting_registerAccess
  | registerBit => exact selfDelimiting_registerAccess.add 1 0
  | registerBits => exact selfDelimiting_registerAccess.add 2 0
  | _ => exact selfDelimiting_const _

lemma selfDelimiting_family (family : BytecodeFamily) : SelfDelimiting (family.footprint ·) := by
  match family with
  | .special bytecode =>
    simp only [BytecodeFamily.footprint]
    split
    · exact selfDelimiting_specialOp _
    · exact selfDelimiting_const _
  | .variable access => exact selfDelimiting_accessKind access.kind
  | .memory access => exact selfDelimiting_memoryAccess access
  | .operator _ => exact selfDelimiting_const _

/-- **Footprints delimit themselves**: no byte behind the bytecode has a say. -/
theorem selfDelimiting_ofCode : SelfDelimiting Footprint.ofCode :=
  selfDelimiting_andThen (fun _ => ⟨1, 0, 0⟩)
    (fun byte code => (BytecodeFamily.classify byte).footprint code)
    (fun _ => Nat.zero_lt_one) fun _ => selfDelimiting_family _

namespace SpinMachine

variable {τ : Type}

/-! ## Machines and footprints -/

/-- The code from the program counter on. -/
def stream (machine : SpinMachine τ) : CodeBytes :=
  fun place => machine.hub.memory.readByte (machine.body.pc + .ofNat place)

/-- The footprint of the next bytecode. -/
def footprint (machine : SpinMachine τ) : Footprint :=
  .ofCode machine.stream

/-- The machine `after` some part of a bytecode has such a footprint behind it, and goes on where it
was led. -/
structure Leaves (machine : SpinMachine τ) (footprint : Footprint) (target? : Option UInt32)
    (after : SpinMachine τ) : Prop where
  stack : after.frames.stack
    = machine.frames.stack - 4 * .ofNat footprint.operands + 4 * .ofNat footprint.results
  pc : after.body.pc = target?.getD (machine.body.pc + .ofNat footprint.bytes)

section

variable {machine after : SpinMachine τ} {footprint : Footprint} {target? : Option UInt32}

lemma stream_zero (machine : SpinMachine τ) : machine.stream 0 = machine.code := by
  have start : machine.body.pc + .ofNat 0 = machine.body.pc := UInt32.add_zero _
  rw [stream, start]
  rfl

lemma stream_took (machine : SpinMachine τ) (bytes : Nat) (operands : UInt32) :
    (machine.took ⟨.ofNat bytes, operands⟩).stream = machine.stream.drop bytes := by
  funext place
  have address : machine.body.pc + .ofNat bytes + .ofNat place
      = machine.body.pc + .ofNat (bytes + place) := by
    rw [UInt32.ofNat_add, UInt32.add_assoc]
  show machine.hub.memory.readByte (machine.body.pc + .ofNat bytes + .ofNat place) = _
  rw [address]
  rfl

lemma Leaves.growth (h : machine.Leaves footprint target? after) :
    after.frames.stack - machine.frames.stack = footprint.growth := by
  rw [h.stack, Footprint.growth]
  grind

lemma Leaves.advance (h : machine.Leaves footprint none after) :
    after.body.pc - machine.body.pc = .ofNat footprint.bytes := by
  rw [h.pc, Option.getD_none]
  grind

/-- What was taken first belongs to the footprint. -/
lemma Leaves.of_took {bytes operands : Nat}
    (h : (machine.took ⟨.ofNat bytes, .ofNat operands⟩).Leaves footprint target? after) :
    machine.Leaves (⟨bytes, operands, 0⟩ + footprint) target? after where
  stack := by
    have stack : after.frames.stack
      = machine.frames.stack - 4 * .ofNat operands - 4 * .ofNat footprint.operands
        + 4 * .ofNat footprint.results := h.stack
    show _ = machine.frames.stack - 4 * .ofNat (operands + footprint.operands)
      + 4 * .ofNat (0 + footprint.results)
    rw [stack, UInt32.ofNat_add, Nat.zero_add]
    grind
  pc := by
    show _ = target?.getD (machine.body.pc + .ofNat (bytes + footprint.bytes))
    rw [UInt32.ofNat_add, ← UInt32.add_assoc]
    exact h.pc

lemma stream_next (machine : SpinMachine τ) : machine.next.stream = machine.stream.drop 1 := by
  have next : machine.next = machine.took ⟨.ofNat 1, 0⟩ := machine.nextByte_took
  rw [next, stream_took]

/-- A byte that was taken first belongs to the footprint. -/
lemma Leaves.of_next (h : machine.next.Leaves footprint target? after) :
    machine.Leaves (⟨1, 0, 0⟩ + footprint) target? after := by
  have next : machine.next = machine.took ⟨.ofNat 1, .ofNat 0⟩ := machine.nextByte_took
  exact (next ▸ h).of_took

/-- A result is pushed at the end. -/
lemma Leaves.result (h : machine.Leaves footprint target? after) (push : Bool) (value : UInt32) :
    machine.Leaves (.ofResult push + footprint) target?
      (if push then after.push value else after) := by
  have more : (.ofResult push + footprint : Footprint)
      = ⟨footprint.bytes, footprint.operands, (if push then 1 else 0) + footprint.results⟩ :=
    Footprint.mk.injEq .. ▸ ⟨Nat.zero_add _, Nat.zero_add _, rfl⟩
  rw [more]
  cases push with
  | false =>
    show machine.Leaves ⟨_, _, 0 + footprint.results⟩ target? after
    rw [Nat.zero_add]
    exact h
  | true =>
    refine ⟨?_, h.pc⟩
    show after.frames.stack + 4 = _ - _ + 4 * .ofNat (1 + footprint.results)
    rw [h.stack, UInt32.ofNat_add]
    grind

/-- So many longs are popped from a stack and pushed there. -/
def restacked (stack : UInt32) (operands results : Nat) : UInt32 :=
  Nat.repeat (· + 4) results (Nat.repeat (· - 4) operands stack)

lemma restacked_eq (stack : UInt32) (operands results : Nat) :
    restacked stack operands results = stack - 4 * .ofNat operands + 4 * .ofNat results := by
  have popped (count : Nat) : Nat.repeat (· - 4) count stack = stack - 4 * .ofNat count := by
    induction count with
    | zero => simp [Nat.repeat]
    | succ count ih => rw [Nat.repeat, ih, UInt32.ofNat_add]; grind
  have pushed (count : Nat) (below : UInt32) :
      Nat.repeat (· + 4) count below = below + 4 * .ofNat count := by
    induction count with
    | zero => simp [Nat.repeat]
    | succ count ih => rw [Nat.repeat, ih, UInt32.ofNat_add]; grind
  rw [restacked, popped, pushed]

/-- What only changes the end of the stack leaves the program counter behind the bytes. -/
lemma leaves_of_stack {operands results : Nat} (pc : after.body.pc = machine.body.pc)
    (stack : after.frames.stack = restacked machine.frames.stack operands results) :
    machine.Leaves ⟨0, operands, results⟩ none after where
  stack := stack.trans (restacked_eq ..)
  pc := pc.trans (UInt32.add_zero _).symm

/-- A branch is taken or not, with some longs popped and pushed. -/
lemma leaves_of_branch {operands results : Nat} {taken : Bool}
    (pc : after.body.pc
      = (machine.branchTo? taken).getD (machine.body.pc + PackedOffset.size machine.code))
    (stack : after.frames.stack = restacked machine.frames.stack operands results) :
    machine.Leaves (⟨0, operands, results⟩ + .ofOffset (machine.stream 0))
      (machine.branchTo? taken) after where
  stack := stack.trans (restacked_eq ..)
  pc := by
    rw [pc, stream_zero]
    show _ = Option.getD _ (_ + UInt32.ofNat (0 + (PackedOffset.size machine.code).toNat))
    rw [Nat.zero_add, UInt32.ofNat_toNat]

end

/-! ## Updates -/

variable {machine : SpinMachine τ}

lemma applyUpdate_leaves {update : Update} {before : UInt32} {updated : Updated τ}
    (h : machine.applyUpdate update before = .ok updated) :
    machine.Leaves (update.footprint machine.stream)
      (machine.branchTo? (machine.takesBack before update)) updated.machine := by
  cases update with
  | undefined code => cases h
  | loopStep =>
    cases h
    rw [loopStep_eq]
    exact leaves_of_branch (pc_branchIf machine.pop.2.pop.2 _)
      (congrArg (·.stack) (frames_branchIf ..))
  | loopStride =>
    cases h
    rw [loopStride_eq]
    exact leaves_of_branch (pc_branchIf machine.pop.2.pop.2.pop.2 _)
      (congrArg (·.stack) (frames_branchIf ..))
  | assign operator =>
    cases h
    rw [Update.footprint, ← Spin.isSome_unary? operator before, assign]
    cases Spin.unary? operator before with
    | some result => exact leaves_of_stack rfl rfl
    | none => exact leaves_of_stack rfl rfl
  | _ =>
    cases h
    exact leaves_of_stack rfl rfl

lemma update_ne_fine {before : UInt32} {code : UInt8}
    (h : machine.next.applyUpdate (UpdateByte.decode machine.code).update before = .error code)
    (store : SpinMachine τ → UInt32 → SpinMachine τ) :
    (machine.update before store).fault? ≠ none := by
  have behind : machine.nextByte.2.applyUpdate (UpdateByte.decode machine.nextByte.1).update before
      = .error code := h
  simp only [update, behind]
  exact Option.some_ne_none _

lemma updateByte_footprint (machine : SpinMachine τ) :
    UpdateByte.footprint machine.stream
      = ⟨1, 0, 0⟩ + (.ofResult (UpdateByte.decode machine.code).push
        + (UpdateByte.decode machine.code).update.footprint machine.next.stream) := by
  rw [UpdateByte.footprint, stream_zero, stream_next]

/-- **An update** uses what its bytes tell. -/
theorem Updating.leaves (updating : Updating τ) (fine : updating.outcome.fault? = none) :
    updating.located.Leaves (UpdateByte.footprint updating.located.stream) updating.jump?
      updating.outcome.machine := by
  obtain ⟨machine, before, store, frames_store, pc_store⟩ := updating
  cases applied : machine.next.applyUpdate (UpdateByte.decode machine.code).update before with
  | error code => exact (update_ne_fine applied store fine).elim
  | ok updated =>
    have behind := ((applyUpdate_leaves applied).result (UpdateByte.decode machine.code).push
      updated.result).of_next
    rw [updateByte_footprint, Updating.outcome, update_of_ok rfl applied]
    exact ⟨(congrArg (·.stack) (frames_store ..)).trans behind.stack,
      (pc_store ..).trans behind.pc⟩

/-! ## Accesses -/

lemma accessAt_leaves (machine : SpinMachine τ) {kind : AccessKind} {size : DataSize}
    {address : UInt32} (fine : (machine.accessAt kind size address).fault? = none) :
    machine.Leaves (kind.footprint machine.stream)
      (((machine.updatingAt size address).ofKind? kind).bind Updating.jump?)
      (machine.accessAt kind size address).machine := by
  cases kind with
  | update => exact (machine.updatingAt size address).leaves fine
  | push => exact leaves_of_stack rfl rfl
  | pop => exact leaves_of_stack rfl rfl
  | reference => exact leaves_of_stack rfl rfl

lemma accessMemory_leaves (machine : SpinMachine τ) {access : MemoryAccess}
    (fine : (machine.accessMemory access).fault? = none) :
    machine.Leaves (access.footprint machine.stream)
      ((((machine.locate access).2.updatingAt access.size (machine.locate access).1).ofKind?
        access.kind).bind Updating.jump?)
      (machine.accessMemory access).machine := by
  have found : (machine.locate access).2
      = machine.took ⟨.ofNat (access.addressFootprint machine.code).bytes,
          .ofNat (access.addressFootprint machine.code).operands⟩ := by
    rw [locate_took, MemoryAccess.addressFootprint, UInt32.ofNat_toNat, UInt32.ofNat_toNat]
  rw [accessMemory_eq] at fine ⊢
  have behind := accessAt_leaves _ fine
  have stream : (machine.locate access).2.stream
      = machine.stream.drop (access.addressFootprint machine.code).bytes := by
    rw [found, stream_took]
  rw [stream, found] at behind
  rw [MemoryAccess.footprint, stream_zero, found]
  exact behind.of_took

variable [Timebase τ]

lemma accessRegister_leaves (machine : SpinMachine τ) {field : RegisterField}
    (fine : (machine.accessRegister field.mask field.low).fault? = none) :
    machine.Leaves (RegisterAccess.footprint machine.stream)
      (((RegisterAccess.decode? machine.code).bind fun access =>
        (machine.next.updatingField field access.register).ofKind? access.kind).bind
          Updating.jump?)
      (machine.accessRegister field.mask field.low).machine := by
  rw [RegisterAccess.footprint, stream_zero, ← stream_next]
  cases decoded : RegisterAccess.decode? machine.code with
  | none =>
    have named : RegisterAccess.decode? machine.nextByte.1 = none := decoded
    simp only [accessRegister, named] at fine
    cases fine
  | some access =>
    obtain ⟨kind, register⟩ := access
    have named : RegisterAccess.decode? machine.nextByte.1 = some ⟨kind, register⟩ := decoded
    simp only [accessRegister, named] at fine ⊢
    refine Leaves.of_next ?_
    cases kind with
    | update => exact (machine.next.updatingField field register).leaves fine
    | push => exact leaves_of_stack rfl rfl
    | pop => exact leaves_of_stack (machine.next.body.writeRegister_pc ..) rfl
    | reference => cases fine

lemma accessSpecial_leaves (machine : SpinMachine τ) {kind : AccessKind}
    (value : kind ≠ .reference) (known : machine.pop.1 < 16)
    (fine : (machine.accessSpecial kind).fault? = none) :
    machine.Leaves (⟨0, 1, 0⟩ + kind.footprint machine.stream)
      ((machine.updatingBy? (.specialRegister kind)).bind Updating.jump?)
      (machine.accessSpecial kind).machine := by
  have stream : machine.pop.2.stream = machine.stream := rfl
  rw [accessSpecial] at fine ⊢
  dsimp only at fine ⊢
  rw [if_pos known] at fine ⊢
  rw [updatingBy?, if_pos known, ← stream]
  refine Leaves.of_took (machine.pop_took ▸ ?_)
  cases kind with
  | update => exact (machine.pop.2.updatingRegister _).leaves fine
  | push => exact leaves_of_stack rfl rfl
  | pop => exact leaves_of_stack (machine.body.writeRegister_pc ..) rfl
  | reference => exact (value rfl).elim

/-! ## Bytecodes -/

/-- Where a special operation leads, by the machine behind its bytecode. -/
def specialJump? (machine : SpinMachine τ) : SpecialOp → Option UInt32
  | .branch => machine.branchTo? true
  | .branchIfZero => machine.branchTo? (machine.pop.1 == 0)
  | .branchIfNonzero => machine.branchTo? (machine.pop.1 != 0)
  | .caseDone => some (machine.pop.2.pop.1 + machine.frames.object)
  | .caseValue => machine.branchTo? (machine.pop.1 == machine.pop.2.pop.1)
  | .caseRange =>
    machine.branchTo?
      (decide (BetweenUnsigned machine.pop.2.pop.1 machine.pop.1 machine.pop.2.pop.2.pop.1))
  | _ => none

/-- Where the next bytecode branches or jumps to, if it does. -/
def jump? (machine : SpinMachine τ) : Option UInt32 :=
  (machine.updating?.bind Updating.jump?).or
    ((SpecialOp.decode? machine.code).bind machine.next.specialJump?)

omit [Timebase τ] in
lemma branchOn_leaves (machine : SpinMachine τ) {zero taken : Bool}
    (h : ((machine.pop.1 == 0) == zero) = taken) :
    machine.Leaves (⟨0, 1, 0⟩ + .ofOffset (machine.stream 0)) (machine.branchTo? taken)
      (machine.branchOn zero) := by
  subst h
  exact leaves_of_branch (pc_branchIf machine.pop.2 _) (congrArg (·.stack) (frames_branchIf ..))

omit [Timebase τ] in
lemma caseValue_leaves (machine : SpinMachine τ) :
    machine.Leaves (⟨0, 2, 1⟩ + .ofOffset (machine.stream 0))
      (machine.branchTo? (machine.pop.1 == machine.pop.2.pop.1)) machine.caseValue :=
  leaves_of_branch (pc_branchIf machine.pop.2.pop.2 _)
    (congrArg (·.stack + 4) (frames_branchIf ..))

omit [Timebase τ] in
lemma caseRange_leaves (machine : SpinMachine τ) :
    machine.Leaves (⟨0, 3, 1⟩ + .ofOffset (machine.stream 0))
      (machine.branchTo?
        (decide (BetweenUnsigned machine.pop.2.pop.1 machine.pop.1 machine.pop.2.pop.2.pop.1)))
      machine.caseRange := by
  rw [decide_betweenUnsigned]
  simp only [caseRange]
  split
  · exact leaves_of_branch (pc_branchIf machine.pop.2.pop.2.pop.2 _)
      (congrArg (·.stack + 4) (frames_branchIf ..))
  · exact leaves_of_branch (pc_branchIf machine.pop.2.pop.2.pop.2 _)
      (congrArg (·.stack + 4) (frames_branchIf ..))

omit [Timebase τ] in
lemma takeLiteral_took (machine : SpinMachine τ) (count : Nat) (value : UInt32) :
    (takeLiteral count value machine).2 = machine.took ⟨.ofNat count, 0⟩ := by
  induction count generalizing machine value with
  | zero => exact machine.took_nothing.symm
  | succ count ih =>
    rw [takeLiteral, ih, took_nextByte, Nat.add_comm, UInt32.ofNat_add]
    rfl

lemma special_leaves (machine : SpinMachine τ) {operation : SpecialOp}
    (fixed : operation.hasFootprint) (pc : UInt32)
    (known : ∀ kind, operation = .specialRegister kind → machine.pop.1 < 16)
    (fine : (machine.special operation pc).fault? = none) :
    machine.Leaves (operation.footprint machine.stream)
      (((machine.updatingBy? operation).bind Updating.jump?).or (machine.specialJump? operation))
      (machine.special operation pc).machine := by
  cases operation with
  | branch => exact leaves_of_branch (pc_branchIf machine true) rfl
  | branchIfZero => exact machine.branchOn_leaves (beq_true _)
  | branchIfNonzero => exact machine.branchOn_leaves (beq_false _)
  | caseDone => exact ⟨restacked_eq _ 2 0, rfl⟩
  | caseValue => exact machine.caseValue_leaves
  | caseRange => exact machine.caseRange_leaves
  | newLock push | setLock push | clearLock push =>
    cases push <;> exact leaves_of_stack rfl rfl
  | packedConstant => exact ⟨restacked_eq _ 0 1, rfl⟩
  | literal bytes =>
    have pushed (value : UInt32) : (machine.took ⟨.ofNat bytes, .ofNat 0⟩).Leaves ⟨0, 0, 1⟩ none
        ((machine.took ⟨.ofNat bytes, 0⟩).push value) := leaves_of_stack rfl rfl
    show machine.Leaves ⟨bytes, 0, 1⟩ none ((takeLiteral bytes 0 machine).2.push _)
    rw [takeLiteral_took]
    exact (pushed _).of_took
  | specialRegister kind =>
    have value : kind ≠ .reference := by
      rintro rfl
      cases fixed
    show machine.Leaves _ (Option.or _ none) _
    rw [Option.or_none]
    exact machine.accessSpecial_leaves value (known kind rfl) fine
  | register =>
    show machine.Leaves _ (Option.or _ none) _
    rw [Option.or_none]
    exact machine.accessRegister_leaves fine
  | registerBit =>
    have popped : machine.pop.2 = machine.took ⟨.ofNat 0, .ofNat 1⟩ := machine.pop_took
    show machine.Leaves _ (Option.or _ none) _
    rw [Option.or_none]
    exact Leaves.of_took (popped ▸ machine.pop.2.accessRegister_leaves fine)
  | registerBits =>
    have popped : machine.pop.2.pop.2 = machine.took ⟨.ofNat 0, .ofNat 2⟩ := by
      rw [pop_took, pop_took, took_took]
      rfl
    have named : machine.namedField? .registerBits
        = some (.between machine.pop.1 machine.pop.2.pop.1, machine.pop.2.pop.2) := rfl
    rw [special_of_field named] at fine ⊢
    show machine.Leaves _ (Option.or _ none) _
    rw [Option.or_none]
    exact Leaves.of_took (popped ▸ machine.pop.2.pop.2.accessRegister_leaves fine)
  | openFrame | call | leave | loopEnter | loopNext | lookupValue | lookdownValue | lookupRange
  | lookdownRange | startCog => cases fixed
  | _ => exact leaves_of_stack rfl rfl

/-- The next bytecode is an access to a special register that there is not. -/
def Skips (machine : SpinMachine τ) : Prop :=
  (∃ kind, SpecialOp.decode? machine.code = some (.specialRegister kind)) ∧ 16 ≤ machine.pop.1

omit [Timebase τ] in
lemma footprint_eq (machine : SpinMachine τ) :
    machine.footprint
      = ⟨1, 0, 0⟩ + (BytecodeFamily.classify machine.code).footprint machine.next.stream := by
  rw [footprint, Footprint.ofCode, stream_zero, stream_next]

lemma leaves_of_decode {operation : SpecialOp}
    (decoded : SpecialOp.decode? machine.code = some operation) (fixed : operation.hasFootprint)
    (known : ¬ machine.Skips) (fine : machine.execute.fault? = none) :
    machine.Leaves machine.footprint machine.jump? machine.execute.machine := by
  have executed : machine.execute = machine.next.special operation machine.body.pc :=
    execute_of_decode machine decoded
  have lower : ∀ kind, operation = .specialRegister kind → machine.pop.1 < 16 := by
    rintro kind rfl
    exact UInt32.not_le.mp fun high => known ⟨⟨kind, decoded⟩, high⟩
  rw [executed] at fine ⊢
  have behind := machine.next.special_leaves fixed _ lower fine
  rw [footprint_eq, jump?, updating?, classify_of_decode decoded, decoded,
    BytecodeFamily.footprint, decoded]
  dsimp only
  rw [decoded]
  exact behind.of_next

omit [Timebase τ] in
lemma operate_leaves (machine : SpinMachine τ) (operator : Operator) :
    machine.Leaves ⟨0, if operator.isUnary then 1 else 2, 1⟩ none (machine.operate operator) := by
  rw [operate, ← Spin.isSome_unary? operator machine.pop.1]
  dsimp only
  cases Spin.unary? operator machine.pop.1 with
  | some result => exact leaves_of_stack rfl rfl
  | none => exact leaves_of_stack rfl rfl

/-- **What footprints mean**: a bytecode takes so many bytes, unless it branches or jumps, and pops
and pushes so many longs. -/
theorem leaves_execute (fixed : machine.code ∉ varyingCodes)
    (known : ¬ machine.Skips) (fine : machine.execute.fault? = none) :
    machine.Leaves machine.footprint machine.jump? machine.execute.machine := by
  cases decoded : SpecialOp.decode? machine.code with
  | some operation =>
    exact leaves_of_decode decoded (hasFootprint_of_decode fixed decoded) known fine
  | none =>
    have family : BytecodeFamily.classify machine.nextByte.1
      = BytecodeFamily.classify machine.code := rfl
    rw [footprint_eq, jump?, decoded, Option.bind_none, Option.or_none, updating?]
    refine Leaves.of_next ?_
    cases classified : BytecodeFamily.classify machine.code with
    | operator operator =>
      simp only [execute, family, classified]
      exact machine.next.operate_leaves operator
    | memory access =>
      simp only [execute, family, classified] at fine ⊢
      exact machine.next.accessMemory_leaves fine
    | «variable» access =>
      simp only [execute, family, classified] at fine ⊢
      exact machine.next.accessAt_leaves fine
    | special code =>
      obtain rfl := eq_of_classify classified
      simp only [execute, family, classified, decoded] at fine
      cases fine

/-! ## Two machines with the same code -/

/-- The two machines have the same bytecode next, with the same operands in the code. -/
def SameCode (machine other : SpinMachine τ) : Prop :=
  ∀ place < machine.footprint.bytes, other.stream place = machine.stream place

instance (machine other : SpinMachine τ) : Decidable (machine.SameCode other) :=
  inferInstanceAs (Decidable (∀ place < machine.footprint.bytes, _))

/-- The next bytecode moves the end of the stack by as much in one machine as in the other, and the
program counter as well, if it does not branch or jump. -/
def SameEffect (machine other : SpinMachine τ) : Prop :=
  other.execute.machine.frames.stack - other.frames.stack
      = machine.execute.machine.frames.stack - machine.frames.stack
    ∧ (machine.jump? = none → other.jump? = none →
      other.execute.machine.body.pc - other.body.pc
        = machine.execute.machine.body.pc - machine.body.pc)

instance (machine other : SpinMachine τ) : Decidable (machine.SameEffect other) :=
  inferInstanceAs (Decidable (_ ∧ (_ → _ → _)))

variable {other : SpinMachine τ}

omit [Timebase τ] in
lemma SameCode.footprint (h : machine.SameCode other) : other.footprint = machine.footprint :=
  selfDelimiting_ofCode _ _ h

omit [Timebase τ] in
lemma SameCode.code (h : machine.SameCode other) : other.code = machine.code := by
  have first : other.stream 0 = machine.stream 0 :=
    h 0 (Nat.lt_of_lt_of_le Nat.zero_lt_one (Nat.le_add_right ..))
  rwa [stream_zero, stream_zero] at first

omit [Timebase τ] in
lemma SameCode.symm (h : machine.SameCode other) : other.SameCode machine :=
  fun place inside => (h place (h.footprint ▸ inside)).symm

lemma SameEffect.symm (h : machine.SameEffect other) : other.SameEffect machine :=
  ⟨h.1.symm, fun stays stays' => (h.2 stays' stays).symm⟩

lemma jump?_of_special {kind : AccessKind}
    (decoded : SpecialOp.decode? machine.code = some (.specialRegister kind)) :
    machine.jump? = (machine.next.updatingBy? (.specialRegister kind)).bind Updating.jump? := by
  rw [jump?, updating?, classify_of_decode decoded]
  dsimp only
  rw [decoded]
  exact Option.or_none

/-- What is skipped are the operands behind the number of the register. -/
lemma leaves_of_skips (h : machine.Skips) :
    machine.Leaves ⟨1, 1, 0⟩ none machine.execute.machine ∧ machine.jump? = none := by
  obtain ⟨⟨kind, decoded⟩, high⟩ := h
  have executed : machine.execute = machine.next.accessSpecial kind :=
    execute_of_decode machine decoded
  have unknown : ¬ machine.next.pop.1 < 16 := UInt32.not_lt.mpr high
  constructor
  · rw [executed, accessSpecial]
    dsimp only
    rw [if_neg unknown]
    exact ⟨restacked_eq _ 1 0, rfl⟩
  · rw [jump?_of_special decoded, updatingBy?, if_neg unknown]
    rfl

omit [Timebase τ] in
/-- An update that may branch has two operands at least, and the others have no further bytes. -/
lemma update_branches_or (update : Update) (code : CodeBytes) :
    2 ≤ (update.footprint code).operands
      ∨ (update.footprint code).bytes = 0
        ∧ ∀ (machine : SpinMachine τ) before, machine.takesBack before update = false := by
  cases update with
  | loopStep => exact .inl (Nat.le_refl 2)
  | loopStride => exact .inl (Nat.le_succ 2)
  | _ => exact .inr ⟨rfl, fun _ _ => rfl⟩

lemma update_operands_le (update : Update) (code : CodeBytes) :
    (update.footprint code).operands ≤ 3 ∧ (update.footprint code).results = 0 := by
  cases update with
  | assign operator =>
    refine ⟨?_, rfl⟩
    show (if operator.isUnary then 0 else 1) ≤ 3
    split <;> decide
  | _ => exact ⟨Nat.le_of_ble_eq_true rfl, rfl⟩

omit [Timebase τ] in
/-- An update that leaves the height of the stack alone is a single byte and does not branch. -/
lemma updateByte_of_growth (level : (UpdateByte.footprint machine.stream).growth = 0) :
    (UpdateByte.footprint machine.stream).bytes = 1
      ∧ ∀ (behind : SpinMachine τ) before,
        behind.takesBack before (UpdateByte.decode machine.code).update = false := by
  rw [updateByte_footprint] at level ⊢
  generalize UpdateByte.decode machine.code = byte at level ⊢
  obtain ⟨operands, results⟩ := update_operands_le byte.update machine.next.stream
  have pushed : (Footprint.ofResult byte.push).results ≤ 1 := by
    cases byte.push <;> decide
  have balance : 0 + ((Footprint.ofResult byte.push).results
      + (byte.update.footprint machine.next.stream).results)
        = 0 + (0 + (byte.update.footprint machine.next.stream).operands) :=
    Footprint.results_of_growth level (by show 0 + (_ + _) < _; omega)
      (by show 0 + (0 + _) < _; omega)
  rcases update_branches_or byte.update machine.next.stream with many | ⟨bytes, never⟩
  · omega
  · refine ⟨?_, never⟩
    show 1 + (0 + (byte.update.footprint machine.next.stream).bytes) = 1
    rw [bytes]

/-- An update of a special register that leaves the height of the stack alone does not branch. -/
lemma jump?_of_level (decoded : SpecialOp.decode? machine.code = some (.specialRegister .update))
    (known : ¬ machine.Skips) (level : (UpdateByte.footprint machine.next.stream).growth = 0) :
    machine.jump? = none := by
  obtain ⟨-, never⟩ := updateByte_of_growth level
  have low : machine.next.pop.1 < 16 :=
    UInt32.not_le.mp fun high => known ⟨⟨.update, decoded⟩, high⟩
  rw [jump?_of_special decoded, updatingBy?, if_pos low]
  show machine.next.pop.2.next.branchTo? (takesBack _ _
    (UpdateByte.decode machine.next.code).update) = none
  rw [never]
  rfl

/-- If one machine skips the operands and the other does not, they differ. -/
lemma not_sameEffect_of_skips (same : machine.SameCode other) (fixed : other.code ∉ varyingCodes)
    (skips : machine.Skips) (known : ¬ other.Skips) (fine : other.execute.fault? = none) :
    ¬ machine.SameEffect other := by
  intro effect
  obtain ⟨skipped, stays⟩ := leaves_of_skips skips
  obtain ⟨⟨kind, decoded⟩, -⟩ := skips
  rw [← same.code] at decoded
  have leaves := leaves_execute fixed known fine
  have footprint : other.footprint
      = ⟨1, 0, 0⟩ + (⟨0, 1, 0⟩ + kind.footprint other.next.stream) := by
    rw [footprint_eq, classify_of_decode decoded, BytecodeFamily.footprint, decoded]
    rfl
  rw [footprint] at leaves
  -- both pop the number of the register, so the rest should leave the height of the stack alone
  have level : (kind.footprint other.next.stream).growth = 0 := by
    have growth := (leaves.growth.symm.trans effect.1).trans skipped.growth
    have number : (⟨1, 1, 0⟩ : Footprint).growth
      = (⟨1, 0, 0⟩ : Footprint).growth + (⟨0, 1, 0⟩ : Footprint).growth := by decide
    rw [Footprint.growth_add, Footprint.growth_add, number] at growth
    grind
  cases kind with
  | push =>
    have pushed : (⟨0, 0, 1⟩ : Footprint).growth = 0 := level
    exact absurd pushed (by decide)
  | pop =>
    have popped : (⟨0, 1, 0⟩ : Footprint).growth = 0 := level
    exact absurd popped (by decide)
  | reference => cases hasFootprint_of_decode fixed decoded
  | update =>
    have advance := effect.2 stays (jump?_of_level decoded known level)
    rw [jump?_of_level decoded known level] at leaves
    rw [leaves.advance, skipped.advance] at advance
    have advance : UInt32.ofNat (1 + (0 + (UpdateByte.footprint other.next.stream).bytes))
      = .ofNat 1 := advance
    rw [(updateByte_of_growth level).1] at advance
    exact absurd advance (by decide)

/-- **Two machines with the same code** do the same to their stacks and program counters, unless one
of them skips the operands and the other does not. -/
theorem footprint_fixed_iff (same : machine.SameCode other) (fixed : machine.code ∉ varyingCodes)
    (fine : machine.execute.fault? = none) (fine' : other.execute.fault? = none) :
    (machine.SameEffect other ↔ (machine.Skips ↔ other.Skips))
      ∧ (¬ machine.Skips →
        machine.Leaves machine.footprint machine.jump? machine.execute.machine) := by
  have fixed' : other.code ∉ varyingCodes := same.code ▸ fixed
  refine ⟨?_, fun known => leaves_execute fixed known fine⟩
  by_cases skips : machine.Skips <;> by_cases skips' : other.Skips
  · have leaves := leaves_of_skips skips
    have leaves' := leaves_of_skips skips'
    refine iff_of_true ⟨?_, fun _ _ => ?_⟩ (iff_of_true skips skips')
    · rw [leaves.1.growth, leaves'.1.growth]
    · rw [leaves.1.advance, leaves'.1.advance]
  · exact iff_of_false (not_sameEffect_of_skips same fixed' skips skips' fine')
      fun both => skips' (both.mp skips)
  · have differs := not_sameEffect_of_skips same.symm fixed skips' skips fine
    exact iff_of_false (fun effect => differs effect.symm) fun both => skips (both.mpr skips')
  · have leaves := leaves_execute fixed skips fine
    have leaves' := leaves_execute fixed' skips' fine'
    rw [same.footprint] at leaves'
    refine iff_of_true ⟨?_, fun stays stays' => ?_⟩ (iff_of_false skips skips')
    · rw [leaves.growth, leaves'.growth]
    · rw [stays] at leaves
      rw [stays'] at leaves'
      rw [leaves.advance, leaves'.advance]

/-- Registers 4 and 6 are cleared and yielded. -/
theorem footprint_fixed_of_registers :
    let machine := machineWith [(0x10, 0x26), (0x11, 0x98), (0x3C, 4)]
    let other := machineWith [(0x10, 0x26), (0x11, 0x98), (0x3C, 6)]
    machine.SameCode other ∧ machine.SameEffect other
      ∧ machine.Leaves ⟨2, 1, 1⟩ none machine.execute.machine := by
  intro machine other
  have same : machine.SameCode other := by decide +kernel
  have known : ¬ machine.Skips := fun skips => absurd skips.2 (by decide +kernel)
  have known' : ¬ other.Skips := fun skips => absurd skips.2 (by decide +kernel)
  have fixed := footprint_fixed_iff same (by decide +kernel) (by decide +kernel)
    (by decide +kernel)
  have footprint : machine.footprint = ⟨2, 1, 1⟩ := by decide +kernel
  have stays : machine.jump? = none := by decide +kernel
  have leaves := fixed.2 known
  rw [footprint, stays] at leaves
  exact ⟨same, fixed.1.mpr (iff_of_false known known'), leaves⟩

/-- Register 16 is not there, so that the update is still next. -/
theorem not_footprint_fixed_of_registers :
    let machine := machineWith [(0x10, 0x26), (0x11, 0x98), (0x3C, 4)]
    let other := machineWith [(0x10, 0x26), (0x11, 0x98), (0x3C, 16)]
    machine.SameCode other ∧ machine.code ∉ varyingCodes ∧ machine.execute.fault? = none
      ∧ other.execute.fault? = none ∧ ¬ machine.SameEffect other := by
  decide +kernel

end SpinMachine

end P1Chip
