import P1Chip.Proofs.Cog.Registers
import P1Chip.Proofs.Cog.Step
import P1Chip.Proofs.Spin.RunState
import P1Chip.Proofs.Video.Shifts

/-!
# Cogs stay in range

A native cog fetches its instructions from its own memory, so its program counter has to be an
address there.  It is one, because every instruction goes on at an address of nine bits.  A cog is
never found in a state that belongs to the other engine, and its video generator always drives some
of the 64 pins.

* `EngineKind.handles` — the states of each engine.
* `CogBody.InRange` — program counter, state and pins are in range.
* **`Native.inRange_step`**, **`Native.inRange_hubAccess`** — the native engine keeps them there.
* **`SpinMachine.inRange_step`** — so does the interpreter.
* **`Cog.InRange.step`**, **`Cog.InRange.hubAccess`**, **`Cog.InRange.frameComplete`** — and every
  cog.
-/

namespace P1Chip

/-- The states in which a cog with this engine is ever found. -/
def EngineKind.handles : EngineKind → RunState → Bool
  | _, .loadProgram _ => true
  | _, .waiting .pinsEqual | _, .waiting .pinsNotEqual => true
  | _, .waiting .count | _, .waiting .video => true
  | .native, .execute | .native, .working _ | .native, .settling _ _ => true
  | .native, .waiting (.hubTransfer _) | .native, .waiting .hubService => true
  | .interpreted, .booting _ | .interpreted, .interpreting _ | .interpreted, .fetch => true
  | .native, .booting _ | .native, .interpreting _ | .native, .fetch => false
  | .interpreted, .execute | .interpreted, .working _ | .interpreted, .settling _ _ => false
  | .interpreted, .waiting (.hubTransfer _) | .interpreted, .waiting .hubService => false

/-- Both engines are loaded. -/
lemma EngineKind.handles_loadProgram (kind : EngineKind) (next : Fin programLongs) :
    kind.handles (.loadProgram next) := by
  cases kind <;> rfl

/-- A native cog may wait for anything. -/
lemma EngineKind.handles_waiting (wait : Wait) : native.handles (.waiting wait) := by
  cases wait <;> rfl

variable {τ : Type}

/-- Program counter, state and pins of a cog are in range for its engine. -/
structure CogBody.InRange (kind : EngineKind) (body : CogBody τ) : Prop where
  pc : kind = .native → body.pc.toNat < cogLongs
  state : kind.handles body.state
  pins : body.video.OnPins

/-! ## Small changes -/

namespace CogBody

variable {kind : EngineKind} {body : CogBody τ}

lemma InRange.withState (h : body.InRange kind) {state : RunState} (handled : kind.handles state) :
    InRange kind { body with state } :=
  ⟨h.pc, handled, h.pins⟩

lemma InRange.withVideo (h : body.InRange kind) {video : Video} (pins : video.OnPins) :
    InRange kind { body with video } :=
  ⟨h.pc, h.state, pins⟩

/-- The program counter of an interpreter is an address in hub memory, where all are. -/
lemma inRange_interpreted (handled : EngineKind.interpreted.handles body.state)
    (pins : body.video.OnPins) : body.InRange .interpreted where
  pc := nofun
  state := handled
  pins := pins

/-- As long as it is loaded, a cog has more of its program to load, or is done. -/
lemma InRange.loadNext (h : body.InRange kind) (hub : Hub) (next : Fin programLongs) :
    (body.loadNext hub next).2.InRange kind := by
  simp only [CogBody.loadNext]
  split
  · exact ⟨h.pc, kind.handles_loadProgram _, h.pins⟩
  · exact ⟨h.pc, h.state, h.pins⟩

/-- The end of a frame is only noted. -/
lemma InRange.withFlag (h : body.InRange kind) (frameFlag : FrameFlag) :
    InRange kind { body with frameFlag } :=
  ⟨h.pc, h.state, h.pins⟩

variable [Timebase τ]

lemma onPins_writeRegister (pins : body.video.OnPins) (running : UInt8) (address value : UInt32) :
    (body.writeRegister running address value).video.OnPins := by
  simp only [writeRegister]
  split
  case h_10 => exact Video.onPins_setConfig ..
  case h_11 => exact Video.onPins_setScale _ pins value
  all_goals exact pins

/-- Registers have no say in what the cog does next. -/
lemma InRange.writeRegister (h : body.InRange kind) (running : UInt8) (address value : UInt32) :
    (body.writeRegister running address value).InRange kind where
  pc := by
    rw [writeRegister_pc]
    exact h.pc
  state := by
    rw [writeRegister_state]
    exact h.state
  pins := onPins_writeRegister h.pins running address value

/-- **Whatever a cog does**, its pins stay in range. -/
theorem Actions.onPins {before after : CogBody τ × Hub} (run : Actions before after)
    (pins : before.1.video.OnPins) : after.1.video.OnPins := by
  refine Actions.preserves (P := fun state => state.1.video.OnPins) ?_ run pins
  rintro _ _ action pins
  cases action with
  | register body hub address value => exact onPins_writeRegister pins hub.running address value
  | _ => exact pins

end CogBody

/-! ## Native instructions -/

/-- A branch goes to an address in cog memory. -/
lemma Alu.jump_lt {opcode : Opcode} {d s pc target : UInt32} {carry zero : Bool}
    {outcome : AluOutcome} (evaluated : evaluate opcode d s carry zero pc = some outcome)
    (jumps : outcome.jump? = some target) : target.toNat < cogLongs := by
  have low : (s &&& 0x1FF).toNat < cogLongs := by
    rw [Word.toNat_lowBits s 9 rfl]
    exact Nat.mod_lt _ (by decide)
  have branched (taken : Bool) (goes : branch taken s = some target) : target.toNat < cogLongs := by
    cases taken with
    | false => cases goes
    | true =>
      cases goes
      exact low
  cases opcode
  case jmpret =>
    cases evaluated
    exact branched true jumps
  case djnz =>
    cases evaluated
    exact branched (d - 1 != 0) jumps
  case tjnz =>
    cases evaluated
    exact branched (d != 0) jumps
  case tjz =>
    cases evaluated
    exact branched (d == 0) jumps
  case cmpsub =>
    rw [evaluate] at evaluated
    split at evaluated <;> cases evaluated <;> cases jumps
  all_goals cases evaluated <;> cases jumps

namespace Native

variable [Timebase τ] (native : Native) {body : CogBody τ}

omit [Timebase τ] in
/-- What an instruction plans is in range. -/
lemma inRange_planFor (opcode : Opcode) (pending : Pending) (address : UInt32) {pc : UInt32}
    (low : pc.toNat < cogLongs) (carry zero : Bool) :
    let plan := planFor opcode pending address pc carry zero
    plan.pc.toNat < cogLongs ∧ EngineKind.native.handles plan.state := by
  cases evaluated : Alu.evaluate opcode pending.d pending.s carry zero pc with
  | none =>
    cases opcode
    case cmpsub =>
      rw [Alu.evaluate] at evaluated
      split at evaluated <;> cases evaluated
    all_goals first
      | exact ⟨low, rfl⟩
      | cases evaluated
  | some outcome =>
    rw [planFor_of_evaluate evaluated]
    refine ⟨?_, rfl⟩
    cases jumps : outcome.jump? with
    | none => exact low
    | some target => exact Alu.jump_lt evaluated jumps

omit [Timebase τ] in
lemma inRange_plan (body : CogBody τ) (hub : Hub) :
    (native.plan body hub).pc.toNat < cogLongs
      ∧ EngineKind.native.handles (native.plan body hub).state := by
  have low : ((body.pc + 1) &&& 0x1FF).toNat < cogLongs := by
    rw [Word.toNat_lowBits _ 9 rfl]
    exact Nat.mod_lt _ (by decide)
  rw [plan]
  split
  · exact inRange_planFor _ _ _ low _ _
  · exact ⟨low, rfl⟩

lemma inRange_writeBack (h : body.InRange .native) (running : UInt8) :
    (native.writeBack body running).2.InRange .native := by
  simp only [writeBack]
  split
  · exact (h.writeRegister running _ _).withState rfl
  · exact h.withState rfl

lemma inRange_supplyVideo (h : body.InRange .native) (running : UInt8) :
    (native.supplyVideo body running).2.2.InRange .native := by
  simp only [supplyVideo]
  split
  · let video := body.video.feed native.pending.d native.pending.s
    have fed : CogBody.InRange .native { body with video } := ⟨h.pc, h.state, h.pins⟩
    exact native.inRange_writeBack fed running
  · exact h

lemma inRange_checkPins (h : body.InRange .native) (hub : Hub) (equal : Bool) :
    (native.checkPins body hub equal).2.InRange .native := by
  unfold checkPins
  generalize (if native.carry then hub.inputB else hub.inputA) = pins
  dsimp only
  split
  · exact inRange_writeBack _ h hub.running
  · exact h

lemma inRange_checkCount (h : body.InRange .native) (hub : Hub) :
    (native.checkCount body hub).2.InRange .native := by
  simp only [checkCount]
  split
  · exact inRange_writeBack _ h hub.running
  · exact h

omit [Timebase τ] in
lemma inRange_start (h : body.InRange .native) (hub : Hub) :
    (native.start body hub).2.1.InRange .native :=
  ⟨fun _ => (native.inRange_plan body hub).1, (native.inRange_plan body hub).2, h.pins⟩

/-- **A clock of the native engine** leaves its cog in range. -/
theorem inRange_step (h : body.InRange .native) (hub : Hub) :
    (native.step body hub).2.2.InRange .native := by
  simp only [step]
  split
  · have started := native.inRange_start h hub
    revert started
    rcases native.start body hub with ⟨native', body', _ | fault⟩ <;> exact id
  · split
    · exact native.inRange_writeBack h hub.running
    · exact h.withState rfl
  · split
    · split
      · exact h.withState (EngineKind.handles_waiting _)
      · exact h.withState rfl
    · exact h.withState rfl
  · exact native.inRange_checkPins h hub true
  · exact native.inRange_checkPins h hub false
  · exact native.inRange_checkCount h hub
  · exact native.inRange_supplyVideo h hub.running
  all_goals exact h

/-- **So does its turn on the hub.** -/
theorem inRange_hubAccess (h : body.InRange .native) (hub : Hub) :
    (native.hubAccess body hub).2.1.InRange .native := by
  rw [hubAccess]
  split
  · exact inRange_writeBack _ h _
  · dsimp only
    split
    · exact inRange_writeBack _ h hub.running
    · exact native.inRange_writeBack h _
  · exact h

end Native

/-! ## Bytecodes -/

namespace SpinMachine

variable [Timebase τ] (machine : SpinMachine τ)

/-- Bytecodes that wait put the cog into a state of its own. -/
lemma handles_special {operation : SpecialOp} (waits : operation.isWait) (pc : UInt32) :
    EngineKind.interpreted.handles (machine.special operation pc).machine.body.state := by
  cases operation with
  | waitPins equal => cases equal <;> rfl
  | waitCount => rfl
  | waitVideo => rfl
  | _ => cases waits

lemma exists_decode_of_isWaitCode {code : UInt8} (waits : isWaitCode code) :
    ∃ operation, SpecialOp.decode? code = some operation := by
  simp only [isWaitCode, Bool.or_eq_true, decide_eq_true_eq] at waits
  rcases waits with ((rfl | rfl) | rfl) | rfl <;> exact ⟨_, rfl⟩

lemma handles_execute (h : EngineKind.interpreted.handles machine.body.state) :
    EngineKind.interpreted.handles machine.execute.machine.body.state := by
  cases waits : isWaitCode machine.code with
  | false =>
    rw [machine.state_execute waits]
    exact h
  | true =>
    obtain ⟨operation, decoded⟩ := exists_decode_of_isWaitCode waits
    rw [execute_of_decode machine decoded]
    exact handles_special _ ((isWait_of_decode decoded).trans waits) _

lemma inRange_execute (h : machine.body.InRange .interpreted) :
    machine.execute.machine.body.InRange .interpreted :=
  CogBody.inRange_interpreted (machine.handles_execute h.state)
    (machine.cogActions_execute.onPins h.pins)

/-- **A clock of the interpreter** leaves its cog in range. -/
theorem inRange_step (h : machine.body.InRange .interpreted) :
    machine.step.2.body.InRange .interpreted := by
  refine CogBody.inRange_interpreted ?_ (machine.actions_step.onPins h.pins)
  rw [step]
  split
  · have executed := inRange_execute (machine.withState (.interpreting SpinFrames.bytecodeClocks))
      (h.withState rfl)
    dsimp only
    split <;> exact executed.state
  · dsimp only
    split <;> rfl
  · dsimp only
    split <;> rfl
  · dsimp only
    split
    · rfl
    · exact h.state
  · dsimp only
    split
    · exact h.state
    · rfl
  · dsimp only
    split
    · rfl
    · exact h.state
  · simp only [SpinFrames.supplyVideo]
    split
    · rfl
    · exact h.state
  all_goals exact h.state

end SpinMachine

/-! ## Cogs -/

namespace Cog

/-- Program counter, state and pins are in range for the engine of the cog. -/
def InRange (cog : Cog τ) : Prop :=
  cog.body.InRange cog.engine.kind

variable [Timebase τ] {cog : Cog τ}

/-- A new cog is about to load its program. -/
lemma inRange_new (id : UInt32) (kind : EngineKind) (program parameter coreFrequency : UInt32) :
    (Cog.new id kind program parameter coreFrequency : Cog τ).InRange := by
  have pc : UInt32.toNat 0 < cogLongs := by decide
  exact ⟨fun _ => pc, EngineKind.handles_loadProgram _ 0, Video.onPins_off⟩

omit [Timebase τ] in
lemma InRange.withVideo (h : cog.InRange) {change : Video → Video}
    (pins : (change cog.body.video).OnPins) : (cog.withVideo change).InRange :=
  CogBody.InRange.withVideo h pins

lemma InRange.stepEngine (h : cog.InRange) (hub : Hub) : (cog.stepEngine hub).2.1.InRange := by
  rcases cog with ⟨body, native | frames⟩
  · exact native.inRange_step h hub
  · exact SpinMachine.inRange_step { frames, body, hub } h

/-- **A clock of a cog.** -/
theorem InRange.step (h : cog.InRange) (hub : Hub) (frameBreak : FrameBreak) :
    (cog.step hub frameBreak).2.1.InRange := by
  have stepped := h.stepEngine hub
  simp only [Cog.step]
  revert stepped
  rcases cog.stepEngine hub with ⟨outcome, cog', hub'⟩
  intro stepped
  cases outcome with
  | error kind => exact ⟨stepped.pc, stepped.state, stepped.pins⟩
  | ok started =>
    simp only [checkBreaks]
    split <;> exact ⟨stepped.pc, stepped.state, stepped.pins⟩

omit [Timebase τ] in
/-- An engine that was loaded starts in one of its own states, a native one at address 0. -/
lemma InRange.boot (h : cog.InRange) (hub : Hub) : (cog.boot hub).1.InRange := by
  rcases cog with ⟨body, native | frames⟩
  · have pc : UInt32.toNat 0 < cogLongs := by decide
    exact ⟨fun _ => pc, rfl, h.pins⟩
  · exact CogBody.inRange_interpreted rfl h.pins

/-- **A turn on the hub.** -/
theorem InRange.hubAccess (h : cog.InRange) (hub : Hub) : (cog.hubAccess hub).1.InRange := by
  let body : CogBody τ := { cog.body with hubAccesses := cog.body.hubAccesses + 1 }
  have counted : body.InRange cog.engine.kind := ⟨h.pc, h.state, h.pins⟩
  simp only [Cog.hubAccess]
  split
  · next next _ =>
    have loaded : Cog.InRange ⟨(body.loadNext hub next).2, cog.engine⟩ :=
      counted.loadNext hub next
    split
    · exact loaded.boot hub
    · exact loaded
  · rcases cog with ⟨body, native | frames⟩
    · exact native.inRange_hubAccess counted hub
    · exact counted

/-- **The end of a video frame.** -/
theorem InRange.frameComplete (h : cog.InRange) (running : UInt8) :
    (cog.frameComplete running).InRange := by
  rcases cog with ⟨body, native | frames⟩
  · exact (native.inRange_supplyVideo h running).withFlag _
  · simp only [Cog.frameComplete, SpinFrames.supplyVideo]
    split
    · exact CogBody.inRange_interpreted rfl h.pins
    · exact CogBody.inRange_interpreted h.state h.pins

end Cog

end P1Chip
