import Mathlib.Logic.Relation
import P1Chip.Cog.Basic

/-!
# What a bytecode can do

A bytecode changes the frames of the interpreter, or does one of a few small things, any number of
times.  Only three kinds of bytecodes touch what belongs to calls: the pointers of the current
method and the two lists of open frames.  All others are plain, and none but one makes the cog wait
for its video generator.

* `SpinMachine.Action` — one small change, with a relation that says how frames may change.
* `SpinMachine.Plain` — any number of changes that leave alone what belongs to calls.
* `SpinMachine.code` — the bytecode at the program counter.
* **`SpinMachine.plain_execute`** — every bytecode but those of calls and the wait for the video
  generator is plain.
* **`SpinMachine.actions_execute`** — every bytecode but that wait is made of actions.
* **`SpinMachine.execute_waitVideo`** — and this is what the wait does.
-/

namespace P1Chip

open Relation

variable {τ : Type} [Timebase τ]

/-- The same method is running, and the same frames are open. -/
structure SpinFrames.SameCalls (before after : SpinFrames) : Prop where
  object : after.object = before.object
  vars : after.vars = before.vars
  locals : after.locals = before.locals
  openFrames : after.openFrames = before.openFrames
  pendingCalls : after.pendingCalls = before.pendingCalls

lemma SpinFrames.SameCalls.trans {first second third : SpinFrames} (h : first.SameCalls second)
    (h' : second.SameCalls third) : first.SameCalls third :=
  ⟨h'.object.trans h.object, h'.vars.trans h.vars, h'.locals.trans h.locals,
    h'.openFrames.trans h.openFrames, h'.pendingCalls.trans h.pendingCalls⟩

/-- Whether an operation belongs to calls: it opens a frame, calls a method or leaves one. -/
def SpecialOp.isOfCalls : SpecialOp → Bool
  | .openFrame _ | .call _ | .leave _ _ => true
  | _ => false

namespace SpinMachine

/-- One small change of an interpreted cog and the hub; frames change as `allowed` says. -/
inductive Action (allowed : SpinFrames → SpinFrames → Prop) :
    SpinMachine τ → SpinMachine τ → Prop
  | frames (machine : SpinMachine τ) (frames : SpinFrames) (h : allowed machine.frames frames) :
      Action allowed machine { machine with frames }
  /-- The program goes on somewhere else. -/
  | pc (machine : SpinMachine τ) (pc : UInt32) : Action allowed machine (machine.withPc pc)
  /-- A register of the cog is written. -/
  | register (machine : SpinMachine τ) (address value : UInt32) :
      Action allowed machine (machine.writeRegister address value)
  /-- The hub is asked for a service. -/
  | service (machine : SpinMachine τ) (operation : HubOperation) (argument : UInt32) :
      Action allowed machine (machine.service operation argument).2
  /-- Hub memory is written. -/
  | write (machine : SpinMachine τ) (size : DataSize) (address value : UInt32) :
      Action allowed machine (machine.withMemory (·.write size address value))
  /-- The cog waits for anything but its video generator. -/
  | wait (machine : SpinMachine τ) (wait : Wait) (h : wait ≠ .video) :
      Action allowed machine (machine.waitFor wait)

/-- Any number of changes, the frames included. -/
def Actions : SpinMachine τ → SpinMachine τ → Prop :=
  ReflTransGen (Action fun _ _ => True)

/-- Any number of changes that leave alone what belongs to calls. -/
def Plain : SpinMachine τ → SpinMachine τ → Prop :=
  ReflTransGen (Action SpinFrames.SameCalls)

/-- The bytecode at the program counter. -/
def code (machine : SpinMachine τ) : UInt8 :=
  machine.hub.memory.readByte machine.body.pc

variable {start machine : SpinMachine τ}

lemma Plain.actions (h : Plain start machine) : Actions start machine := by
  refine ReflTransGen.mono (fun before after action => ?_) _ _ h
  cases action with
  | frames frames _ => exact .frames _ frames trivial
  | pc pc => exact .pc _ pc
  | register address value => exact .register _ address value
  | service operation argument => exact .service _ operation argument
  | write size address value => exact .write _ size address value
  | wait wait other => exact .wait _ wait other

lemma Plain.sameCalls (h : Plain start machine) : start.frames.SameCalls machine.frames := by
  induction h with
  | refl => exact ⟨rfl, rfl, rfl, rfl, rfl⟩
  | tail _ last ih =>
    cases last with
    | frames _ same => exact ih.trans same
    | _ => exact ih

/-! ## The operations that bytecodes are made of -/

namespace Plain

@[refl]
lemma refl (machine : SpinMachine τ) : Plain machine machine :=
  ReflTransGen.refl

lemma trans {last : SpinMachine τ} (h : Plain start machine) (rest : Plain machine last) :
    Plain start last :=
  ReflTransGen.trans h rest

lemma frames (h : Plain start machine) {frames : SpinFrames}
    (same : machine.frames.SameCalls frames) : Plain start { machine with frames } :=
  ReflTransGen.tail h (.frames machine frames same)

lemma withStack (h : Plain start machine) (stack : UInt32) :
    Plain start (machine.withStack stack) :=
  h.frames ⟨rfl, rfl, rfl, rfl, rfl⟩

lemma withPc (h : Plain start machine) (pc : UInt32) : Plain start (machine.withPc pc) :=
  ReflTransGen.tail h (.pc machine pc)

lemma waitFor (h : Plain start machine) {wait : Wait} (other : wait ≠ .video) :
    Plain start (machine.waitFor wait) :=
  ReflTransGen.tail h (.wait machine wait other)

lemma write (h : Plain start machine) (size : DataSize) (address value : UInt32) :
    Plain start (machine.withMemory (·.write size address value)) :=
  ReflTransGen.tail h (.write machine size address value)

lemma writeRegister (h : Plain start machine) (address value : UInt32) :
    Plain start (machine.writeRegister address value) :=
  ReflTransGen.tail h (.register machine address value)

lemma service (h : Plain start machine) (operation : HubOperation) (argument : UInt32) :
    Plain start (machine.service operation argument).2 :=
  ReflTransGen.tail h (.service machine operation argument)

lemma push (h : Plain start machine) (value : UInt32) : Plain start (machine.push value) :=
  (h.write .long _ _).withStack _

lemma branchIf (h : Plain start machine) (taken : Bool) (offset : UInt32) :
    Plain start (machine.branchIf taken offset) := by
  simp only [SpinMachine.branchIf]
  split
  · exact h.withPc _
  · exact h

lemma jumpInObject (h : Plain start machine) (offset : UInt32) :
    Plain start (machine.jumpInObject offset) :=
  h.withPc _

/-- A change of the condition that a waiting bytecode waits for. -/
lemma withWait (h : Plain start machine) (wait : WaitOperands) :
    Plain start (machine.withFrames ({ · with wait })) :=
  h.frames ⟨rfl, rfl, rfl, rfl, rfl⟩

lemma withStartsMethod (h : Plain start machine) (startsMethod : Bool) :
    Plain start (machine.withFrames ({ · with startsMethod })) :=
  h.frames ⟨rfl, rfl, rfl, rfl, rfl⟩

/-! ## Operators and updates -/

lemma operate (h : Plain start machine) (operator : Operator) :
    Plain start (machine.operate operator) := by
  simp only [SpinMachine.operate, pop]
  split
  · exact (h.withStack _).push _
  · exact ((h.withStack _).withStack _).push _

lemma assign (h : Plain start machine) (operator : Operator) (before : UInt32) :
    Plain start (machine.assign operator before).2 := by
  simp only [SpinMachine.assign, pop]
  split
  · exact h
  · exact h.withStack _

lemma loopStep (h : Plain start machine) (before : UInt32) :
    Plain start (machine.loopStep before).2 := by
  rw [SpinMachine.loopStep]
  dsimp only [pop, branchOffset, nextOffset]
  split <;> exact (((h.withStack _).withStack _).withPc _).branchIf _ _

lemma loopStride (h : Plain start machine) (before : UInt32) :
    Plain start (machine.loopStride before).2 := by
  simp only [SpinMachine.loopStride, pop, branchOffset, nextOffset]
  exact ((((h.withStack _).withStack _).withStack _).withPc _).branchIf _ _

lemma applyUpdate (h : Plain start machine) {update : Update} {before : UInt32}
    {updated : Updated τ} (hu : machine.applyUpdate update before = .ok updated) :
    Plain start updated.machine := by
  cases update with
  | undefined code => simp [SpinMachine.applyUpdate] at hu
  | copy => cases hu; exact h.withStack _
  | assign operator => cases hu; exact h.assign operator before
  | loopStep => cases hu; exact h.loopStep before
  | loopStride => cases hu; exact h.loopStride before
  | _ => cases hu; exact h

/-- An update is plain if storing the new value is. -/
lemma update (h : Plain start machine) (before : UInt32)
    {store : SpinMachine τ → UInt32 → SpinMachine τ}
    (hs : ∀ machine value, Plain start machine → Plain start (store machine value)) :
    Plain start (machine.update before store).machine := by
  rw [SpinMachine.update]
  dsimp only [nextByte]
  split
  · exact h.withPc _
  · next updated hu =>
    have hm : Plain start updated.machine := (h.withPc _).applyUpdate hu
    apply hs
    split
    · exact hm.push _
    · exact hm

/-! ## Places in hub memory and registers -/

lemma accessAt (h : Plain start machine) (kind : AccessKind) (size : DataSize)
    (address : UInt32) : Plain start (machine.accessAt kind size address).machine := by
  cases kind with
  | push => exact h.push _
  | pop => exact (h.withStack _).write _ _ _
  | update => exact h.update _ fun _ _ hm => hm.write _ _ _
  | reference => exact h.push _

lemma spaceBase (h : Plain start machine) (space : AddressSpace) :
    Plain start (machine.spaceBase space).2 := by
  cases space with
  | main => exact h.withStack _
  | _ => exact h

lemma accessMemory (h : Plain start machine) (access : MemoryAccess) :
    Plain start (machine.accessMemory access).machine := by
  have popped : ∀ {m : SpinMachine τ}, Plain start m →
      Plain start (if access.indexed = true then m.pop else (0, m)).2 := by
    intro m hm
    split
    · exact hm.withStack _
    · exact hm
  simp only [SpinMachine.accessMemory]
  split
  · exact ((popped h).withStack _).accessAt _ _ _
  · exact (popped ((h.spaceBase access.space).withPc _)).accessAt _ _ _

lemma accessVariable (h : Plain start machine) (access : VariableAccess) :
    Plain start (machine.accessVariable access).machine :=
  h.accessAt _ _ _

lemma accessRegister (h : Plain start machine) (mask lowest : UInt32) :
    Plain start (machine.accessRegister mask lowest).machine := by
  simp only [SpinMachine.accessRegister, nextByte]
  split
  · exact h.withPc _
  · next access _ =>
    split
    · exact (h.withPc _).push _
    · exact ((h.withPc _).withStack _).writeRegister _ _
    · exact (h.withPc _).update _ fun _ _ hm => hm.writeRegister _ _
    · exact h.withPc _

lemma accessSpecial (h : Plain start machine) (kind : AccessKind) :
    Plain start (machine.accessSpecial kind).machine := by
  rw [SpinMachine.accessSpecial]
  dsimp only [pop]
  split
  · cases kind with
    | push => exact (h.withStack _).push _
    | pop => exact ((h.withStack _).withStack _).writeRegister _ _
    | update => exact (h.withStack _).update _ fun _ _ hm => hm.writeRegister _ _
    | reference => exact h.withStack _
  · exact h.withStack _

/-! ## Special operations

Each of them takes its operands, and then does one thing.
-/

lemma loopEnter (h : Plain start machine) : Plain start machine.loopEnter := by
  rw [SpinMachine.loopEnter]
  dsimp only [pop, branchOffset, nextOffset]
  split
  · exact ((h.withStack _).withPc _).branchIf _ _
  · exact ((h.withStack _).withPc _).push _

lemma loopNext (h : Plain start machine) : Plain start machine.loopNext := by
  rw [SpinMachine.loopNext]
  dsimp only [pop, branchOffset, nextOffset]
  split
  · exact (((h.withStack _).withPc _).branchIf _ _).push _
  · exact (h.withStack _).withPc _

lemma branchOn (h : Plain start machine) (zero : Bool) : Plain start (machine.branchOn zero) :=
  ((h.withStack _).withPc _).branchIf _ _

lemma caseValue (h : Plain start machine) : Plain start machine.caseValue :=
  ((((h.withStack _).withStack _).withPc _).branchIf _ _).push _

lemma caseRange (h : Plain start machine) : Plain start machine.caseRange :=
  (((((h.withStack _).withStack _).withStack _).withPc _).branchIf _ _).push _

lemma popSearch (h : Plain start machine) : Plain start machine.popSearch.2 :=
  ((h.withStack _).withStack _).withStack _

lemma pushSearch (h : Plain start machine) (search : ListSearch) :
    Plain start (machine.pushSearch search) :=
  ((h.push _).push _).push _

lemma foundAt (h : Plain start machine) (search : ListSearch) (value : UInt32) :
    Plain start (machine.foundAt search value) :=
  (h.jumpInObject _).push _

lemma lookupValue (h : Plain start machine) : Plain start machine.lookupValue := by
  rw [SpinMachine.lookupValue]
  dsimp only [pop]
  split
  · exact (h.withStack _).popSearch.foundAt _ _
  · exact (h.withStack _).popSearch.pushSearch _

lemma lookdownValue (h : Plain start machine) : Plain start machine.lookdownValue := by
  rw [SpinMachine.lookdownValue]
  dsimp only [pop]
  split
  · exact (h.withStack _).popSearch.foundAt _ _
  · exact (h.withStack _).popSearch.pushSearch _

lemma lookupRange (h : Plain start machine) : Plain start machine.lookupRange := by
  have hs : Plain start machine.pop.2.pop.2.popSearch.2 :=
    ((h.withStack _).withStack _).popSearch
  simp only [SpinMachine.lookupRange]
  split <;> split
  · exact hs.foundAt _ _
  · exact hs.pushSearch _
  · exact hs.foundAt _ _
  · exact hs.pushSearch _

lemma lookdownRange (h : Plain start machine) : Plain start machine.lookdownRange := by
  have hs : Plain start machine.pop.2.pop.2.popSearch.2 :=
    ((h.withStack _).withStack _).popSearch
  simp only [SpinMachine.lookdownRange]
  split <;> split
  · exact hs.foundAt _ _
  · exact hs.pushSearch _
  · exact hs.foundAt _ _
  · exact hs.pushSearch _

/-- Filling memory is a row of writes. -/
lemma fillMemory (h : Plain start machine) (size : DataSize) (value : UInt32) (count : Nat)
    (destination : UInt32) :
    Plain start (machine.withMemory (Memory.fill size value count destination)) := by
  induction count generalizing machine destination with
  | zero => exact h
  | succ count ih => exact ih (h.write size destination value) (destination + size.bytes)

/-- Copying memory is a row of writes. -/
lemma moveMemory (h : Plain start machine) (size : DataSize) (count : Nat)
    (source destination : UInt32) :
    Plain start (machine.withMemory (Memory.move size count source destination)) := by
  induction count generalizing machine source destination with
  | zero => exact h
  | succ count ih =>
    exact ih (h.write size destination (machine.hub.memory.read size source))
      (source + size.bytes) (destination + size.bytes)

lemma fill (h : Plain start machine) (size : DataSize) : Plain start (machine.fill size) :=
  (((h.withStack _).withStack _).withStack _).fillMemory _ _ _ _

lemma move (h : Plain start machine) (size : DataSize) : Plain start (machine.move size) :=
  (((h.withStack _).withStack _).withStack _).moveMemory _ _ _ _

lemma waitPins (h : Plain start machine) (equal : Bool) : Plain start (machine.waitPins equal) :=
  ((((h.withStack _).withStack _).withStack _).withWait _).waitFor (by cases equal <;> decide)

lemma waitCount (h : Plain start machine) : Plain start machine.waitCount :=
  ((h.withStack _).withWait _).waitFor (by decide)

lemma setClock (h : Plain start machine) : Plain start machine.setClock :=
  ((((h.withStack _).withStack _).write .long _ _).write .byte _ _).service _ _

lemma serviceOf (h : Plain start machine) (operation : HubOperation) :
    Plain start (machine.serviceOf operation) :=
  (h.withStack _).service _ _

lemma lockService (h : Plain start machine) (operation : HubOperation) (push : Bool) :
    Plain start (machine.lockService operation push) := by
  have hs := (h.withStack (machine.frames.stack - 4)).service operation machine.pop.1
  cases push with
  | true => exact hs.push _
  | false => exact hs

lemma pushAnswer {answered : HubAnswer × SpinMachine τ} (h : Plain start answered.2)
    (push : Bool) : Plain start (SpinMachine.pushAnswer answered push) := by
  cases push with
  | true => exact Plain.push h _
  | false => exact h

/-- Laying out the arguments of a new cog is a row of pops and writes. -/
lemma moveArguments (h : Plain start machine) (count : Nat) (address : UInt32) :
    Plain start (SpinMachine.moveArguments count address machine) := by
  induction count generalizing machine address with
  | zero => exact h
  | succ count ih => exact ih ((h.withStack _).write .long address machine.pop.1) (address - 4)

lemma startMethod (h : Plain start machine) : Plain start machine.startMethod.2 := by
  refine ((Plain.moveArguments ?_ _ _).write .long _ _).service _ _
  -- the frame from which the new interpreter boots has four words
  exact ((((h.withStack _).withStack _).write .word _ _).write .word _ _).write .word _ _ |>.write
    .word _ _

lemma startNative (h : Plain start machine) : Plain start machine.startNative.2 :=
  (((h.withStack _).withStack _).withStack _).service _ _

lemma startCog (h : Plain start machine) : Plain start machine.startCog.2 := by
  simp only [SpinMachine.startCog]
  split
  · exact (h.withStartsMethod false).startMethod
  · exact h.startNative

/-- Taking a constant from the code only moves the program counter. -/
lemma takeLiteral (h : Plain start machine) (count : Nat) (value : UInt32) :
    Plain start (SpinMachine.takeLiteral count value machine).2 := by
  induction count generalizing machine value with
  | zero => exact h
  | succ count ih => exact ih (h.withPc _) _

lemma accessBits (h : Plain start machine) : Plain start machine.accessBits.machine := by
  rw [SpinMachine.accessBits]
  dsimp only [pop]
  split <;> exact ((h.withStack _).withStack _).accessRegister _ _

end Plain

/-- **Special operations are plain**, but for those of calls and the wait for the video
generator. -/
theorem plain_special (machine : SpinMachine τ) {operation : SpecialOp}
    (h : operation.isOfCalls = false) (other : operation ≠ .waitVideo) (pc : UInt32) :
    Plain machine (machine.special operation pc).machine := by
  have hm := Plain.refl machine
  cases operation with
  | openFrame kind => simp [SpecialOp.isOfCalls] at h
  | call target => simp [SpecialOp.isOfCalls] at h
  | leave abort popped => simp [SpecialOp.isOfCalls] at h
  | branch => exact (hm.withPc _).branchIf true _
  | loopEnter => exact hm.loopEnter
  | loopNext => exact hm.loopNext
  | branchIfZero => exact hm.branchOn _
  | branchIfNonzero => exact hm.branchOn _
  | caseDone => exact ((hm.withStack _).withStack _).jumpInObject _
  | caseValue => exact hm.caseValue
  | caseRange => exact hm.caseRange
  | listDone => exact hm.popSearch.push _
  | lookupValue => exact hm.lookupValue
  | lookdownValue => exact hm.lookdownValue
  | lookupRange => exact hm.lookupRange
  | lookdownRange => exact hm.lookdownRange
  | methodStart => exact hm.withStartsMethod true
  | stringSize => exact (hm.withStack _).push _
  | stringCompare => exact ((hm.withStack _).withStack _).push _
  | fill size => exact hm.fill size
  | move size => exact hm.move size
  | waitPins equal => exact hm.waitPins equal
  | waitCount => exact hm.waitCount
  | waitVideo => exact absurd rfl other
  | setClock => exact hm.setClock
  | stopCog => exact hm.serviceOf .stopCog
  | returnLock => exact hm.serviceOf .returnLock
  | startCog push => exact hm.startCog.pushAnswer push
  | newLock push => exact (hm.service _ _).pushAnswer push
  | setLock push => exact hm.lockService .setLock push
  | clearLock push => exact hm.lockService .clearLock push
  | specialRegister kind => exact hm.accessSpecial kind
  | constant value => exact hm.push value
  | packedConstant => exact (hm.withPc _).push _
  | literal bytes => exact (hm.takeLiteral bytes 0).push _
  | registerBit => exact (hm.withStack _).accessRegister _ _
  | registerBits => exact hm.accessBits
  | register => exact hm.accessRegister _ _

/-! ## The bytecodes of calls

They change the frames at will, and otherwise are made of the same operations.
-/

lemma Actions.refl (machine : SpinMachine τ) : Actions machine machine :=
  ReflTransGen.refl

lemma Actions.trans {last : SpinMachine τ} (h : Actions start machine)
    (rest : Actions machine last) : Actions start last :=
  ReflTransGen.trans h rest

lemma Actions.plain {last : SpinMachine τ} (h : Actions start machine)
    (rest : Plain machine last) : Actions start last :=
  h.trans rest.actions

lemma Actions.frames (h : Actions start machine) (frames : SpinFrames) :
    Actions start { machine with frames } :=
  ReflTransGen.tail h (.frames machine frames trivial)

lemma Plain.pushWord (h : Plain start machine) (value : UInt32) :
    Plain start (machine.pushWord value) :=
  (h.write .word _ value).withStack _

lemma actions_openFrame (machine : SpinMachine τ) (kind : FrameKind) :
    Actions machine (machine.openFrame kind) := by
  have saved := (((Plain.refl machine).pushWord machine.frames.object).pushWord
    machine.frames.vars).pushWord machine.frames.locals
  exact (saved.actions.frames _).plain (((Plain.refl _).pushWord 0).push 0)

lemma actions_enterChild (machine : SpinMachine τ) (element : Bool) :
    Actions machine (machine.enterChild element) := by
  cases element with
  | true => exact ((((Plain.refl machine).withPc _).withStack _).actions).frames _
  | false => exact (((Plain.refl machine).withPc _).actions).frames _

lemma actions_call (machine : SpinMachine τ) (target : CallTarget) (pc : UInt32) :
    Actions machine (machine.call target pc).machine := by
  -- once the object is known, it makes no difference whose method is called
  have own : ∀ m : SpinMachine τ, Actions m (m.call .own pc).machine := by
    intro m
    simp only [call]
    split
    · exact ((Plain.refl m).withPc _).actions
    · exact ((((Plain.refl m).withPc _).write .word _ _).withPc _).actions.frames _
  cases target with
  | own => exact own machine
  | child => exact (actions_enterChild machine false).trans (own _)
  | childElement => exact (actions_enterChild machine true).trans (own _)

lemma actions_restoreCaller (machine : SpinMachine τ) : Actions machine machine.restoreCaller :=
  ((((((Plain.refl machine).withStack _).withStack _).withStack _).withStack _).withPc
    machine.popWord.1).actions.frames _

lemma actions_unwind (abort : Bool) (kinds : List FrameKind) (machine : SpinMachine τ) :
    Actions machine (unwind abort kinds machine).2 := by
  induction kinds generalizing machine with
  | nil => exact (Actions.refl machine).frames _
  | cons kind kinds ih =>
    let left := (machine.withStack machine.frames.locals).withFrames
      ({ · with openFrames := kinds })
    have hl : Actions machine left.restoreCaller :=
      ((Actions.refl machine).frames _).trans (actions_restoreCaller left)
    simp only [unwind]
    split
    · exact hl
    · exact hl.trans (ih left.restoreCaller)

lemma actions_leave (machine : SpinMachine τ) (value : UInt32) (abort : Bool) :
    Actions machine (machine.leave value abort) := by
  have hu := actions_unwind abort machine.frames.openFrames machine
  simp only [leave]
  revert hu
  rcases unwind abort machine.frames.openFrames machine with ⟨_ | kind, left⟩ <;> intro hu
  · exact hu.plain ((Plain.refl left).service .stopCog left.body.id)
  · dsimp only
    split
    · exact hu
    · exact hu.plain ((Plain.refl left).push value)

lemma actions_special (machine : SpinMachine τ) {operation : SpecialOp}
    (other : operation ≠ .waitVideo) (pc : UInt32) :
    Actions machine (machine.special operation pc).machine := by
  by_cases h : operation.isOfCalls = false
  · exact (plain_special machine h other pc).actions
  · cases operation with
    | openFrame kind => exact actions_openFrame machine kind
    | call target => exact actions_call machine target pc
    | leave abort popped =>
      cases popped with
      | true =>
        exact ((Plain.refl machine).withStack _).actions.trans
          (actions_leave machine.pop.2 machine.pop.1 abort)
      | false => exact actions_leave machine _ abort
    | _ => exact absurd rfl h

/-! ## Bytecodes -/

/-- The bytecodes that open a frame, call a method or leave one. -/
def isCallCode (code : UInt8) : Bool :=
  code < 4 || (5 ≤ code && code < 8) || (0x30 ≤ code && code < 0x34)

lemma isOfCalls_of_decode {code : UInt8} {operation : SpecialOp}
    (h : SpecialOp.decode? code = some operation) : operation.isOfCalls = isCallCode code := by
  have table : ∀ n : Fin 64, ∀ operation ∈ SpecialOp.table[n],
      operation.isOfCalls = isCallCode (UInt8.ofNat n) := by decide
  simp only [SpecialOp.decode?] at h
  split at h
  · next hc => simpa using table ⟨code.toNat, hc⟩ operation h
  · cases h

lemma not_isCallCode_of_decode {code : UInt8} (h : SpecialOp.decode? code = none) :
    isCallCode code = false := by
  have table : ∀ n : Fin 64, SpecialOp.table[n] = none → isCallCode (UInt8.ofNat n) = false := by
    decide
  simp only [SpecialOp.decode?] at h
  split at h
  · next hc => simpa using table ⟨code.toNat, hc⟩ h
  · have hc : 0x40 ≤ code := by rw [UInt8.le_iff_toNat_le]; simp; omega
    grind [isCallCode]

/-- A bytecode with a special operation belongs to their family. -/
lemma classify_of_decode {code : UInt8} {operation : SpecialOp}
    (h : SpecialOp.decode? code = some operation) :
    BytecodeFamily.classify code = .special code := by
  simp only [SpecialOp.decode?] at h
  split at h
  · next low => exact if_pos low
  · cases h

/-- A bytecode that is executed is a special operation if it has one. -/
lemma execute_of_decode (machine : SpinMachine τ) {operation : SpecialOp}
    (h : SpecialOp.decode? machine.code = some operation) :
    machine.execute = (machine.withPc (machine.body.pc + 1)).special operation machine.body.pc := by
  have hf : BytecodeFamily.classify (machine.hub.memory.readByte machine.body.pc)
      = .special machine.code := classify_of_decode h
  simp only [execute, nextByte]
  rw [hf]
  dsimp only
  rw [h]

/-- The bytecode that makes the cog wait for its video generator. -/
def waitVideoCode : UInt8 := 0x27

lemma waitVideo_of_decode {code : UInt8} (h : SpecialOp.decode? code = some .waitVideo) :
    code = waitVideoCode := by
  have table : ∀ n : Fin 64, SpecialOp.table[n] = some .waitVideo →
      UInt8.ofNat n = waitVideoCode := by decide
  simp only [SpecialOp.decode?] at h
  split at h
  · next hc => simpa using table ⟨code.toNat, hc⟩ h
  · cases h

/-- **The wait for the video generator** takes pixels and colors from the stack, and does nothing
else. -/
theorem execute_waitVideo {machine : SpinMachine τ} (h : machine.code = waitVideoCode) :
    machine.execute = (machine.withPc (machine.body.pc + 1)).waitVideo.done := by
  have decoded : SpecialOp.decode? machine.code = some .waitVideo := by
    rw [h]
    decide
  rw [execute_of_decode machine decoded]
  rfl

/-- **Bytecodes are plain**, but for those of calls and the wait for the video generator. -/
theorem plain_execute (machine : SpinMachine τ) (h : isCallCode machine.code = false)
    (other : machine.code ≠ waitVideoCode) : Plain machine machine.execute.machine := by
  have hm := (Plain.refl machine).withPc (machine.body.pc + 1)
  simp only [execute, nextByte]
  split
  · exact hm.operate _
  · exact hm.accessMemory _
  · exact hm.accessVariable _
  · next code hc =>
    split
    · next operation ho =>
      have hcode : code = machine.code := by
        simp only [BytecodeFamily.classify] at hc
        split at hc <;> grind [SpinMachine.code]
      rw [hcode] at ho
      exact hm.trans (plain_special _ ((isOfCalls_of_decode ho).trans h)
        (fun video => other (waitVideo_of_decode (video ▸ ho))) _)
    · exact hm

/-- Bytecodes leave alone what belongs to calls, but for those of calls. -/
lemma sameCalls_execute (machine : SpinMachine τ) (h : isCallCode machine.code = false) :
    machine.frames.SameCalls machine.execute.machine.frames := by
  by_cases video : machine.code = waitVideoCode
  · rw [execute_waitVideo video]
    exact ⟨rfl, rfl, rfl, rfl, rfl⟩
  · exact (plain_execute machine h video).sameCalls

/-- **Bytecodes are made of actions**, but for the wait for the video generator. -/
theorem actions_execute (machine : SpinMachine τ) (other : machine.code ≠ waitVideoCode) :
    Actions machine machine.execute.machine := by
  cases hd : SpecialOp.decode? machine.code with
  | none => exact (plain_execute machine (not_isCallCode_of_decode hd) other).actions
  | some operation =>
    rw [execute_of_decode machine hd]
    exact ((Plain.refl machine).withPc _).actions.trans
      (actions_special _ (fun video => other (waitVideo_of_decode (video ▸ hd))) _)

end SpinMachine

end P1Chip
