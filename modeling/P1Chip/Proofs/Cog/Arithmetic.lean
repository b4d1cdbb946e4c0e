import P1Chip.Cog.Native
import P1Chip.Proofs.Masks

/-!
# Arithmetic instructions as a whole

The native engine spreads an instruction of the arithmetic unit over several clocks: the first one
reads the operands, computes the outcome and fetches the next instruction, and the last one writes
the results.  Seen from one instruction to the next it is a single step, `Native.oneShot`, and this
file shows that the clocks in between add nothing to it.

* `Opcode.isArithmetic` — the operations that only the arithmetic unit takes part in.
* `OneShot`, `Native.oneShot` — an instruction as a single step.
* `Native.after` — the engine after some clocks.
* `Native.CarriesOut` — how the clocks of an instruction carry out a single step.
* **`Native.carriesOut_oneShot`** — they always do.
-/

namespace P1Chip

/-! ## Operations -/

namespace Opcode

/-- Operations that only the arithmetic unit takes part in. -/
def isArithmetic (opcode : Opcode) : Bool :=
  !(opcode.isHubAccess || opcode.isWait || opcode.isReserved)

def isTest : Opcode → Bool
  | djnz | tjnz | tjz => true
  | _ => false

end Opcode

/-- The arithmetic unit has an outcome for just these operations. -/
lemma Alu.isSome_evaluate (opcode : Opcode) (d s : UInt32) (carry zero : Bool) (pc : UInt32) :
    (Alu.evaluate opcode d s carry zero pc).isSome = opcode.isArithmetic := by
  cases opcode with
  | cmpsub =>
    simp only [Alu.evaluate]
    split <;> rfl
  | _ => rfl

/-! ## Single steps -/

variable {τ : Type} [Timebase τ]

/-- What an instruction comes to. -/
structure OneShot where
  clocks : Nat
  pc : UInt32
  /-- What is written to the destination register, if anything is. -/
  result? : Option UInt32
  carry : Bool
  zero : Bool

/-- The cog after an instruction; `running` has the running cogs at its last clock. -/
def OneShot.body (shot : OneShot) (before : CogBody τ) (destination : UInt32) (running : UInt8) :
    CogBody τ :=
  let written :=
    match shot.result? with
    | some result => before.writeRegister running destination result
    | none => before
  { written with pc := shot.pc }

/-- The address of the instruction after the current one, among the 512 longs of a cog. -/
def CogBody.nextPc (body : CogBody τ) : UInt32 :=
  .ofNat ((body.pc.toNat + 1) % 512)

lemma CogBody.writeRegister_state (body : CogBody τ) (running : UInt8) (address value : UInt32) :
    (body.writeRegister running address value).state = body.state := by
  simp only [writeRegister]
  split <;> rfl

lemma CogBody.writeRegister_with (body : CogBody τ) (running : UInt8)
    (address value pc : UInt32) (state : RunState) :
    writeRegister { body with pc, state } running address value
      = { body.writeRegister running address value with pc, state } := by
  simp only [writeRegister]
  split <;> rfl

lemma OneShot.state_body (shot : OneShot) (before : CogBody τ) (destination : UInt32)
    (running : UInt8) : (shot.body before destination running).state = before.state := by
  simp only [body]
  split
  · exact before.writeRegister_state ..
  · rfl

omit [Timebase τ] in
lemma CogBody.at_boundary (body : CogBody τ) (boundary : body.state = .execute) (pc : UInt32) :
    { body with pc, state := .execute } = { body with pc } := by
  rw [← boundary]

omit [Timebase τ] in
lemma CogBody.nextPc_eq (body : CogBody τ) : (body.pc + 1) &&& 0x1FF = body.nextPc := by
  apply UInt32.toNat_inj.mp
  have next : (body.pc + 1).toNat = (body.pc.toNat + 1) % 2 ^ 32 := UInt32.toNat_add ..
  rw [Word.toNat_lowBits _ 9 rfl, next, nextPc, UInt32.toNat_ofNat']
  omega

namespace Native

/-- The outcome of the fetched instruction, if its condition holds. -/
def outcome? (native : Native) (body : CogBody τ) (hub : Hub) : Option AluOutcome :=
  let instruction := native.instruction
  let d := body.readRegister hub instruction.destination
  let s :=
    if instruction.immediate then instruction.source
    else body.readRegister hub instruction.source
  if instruction.condition.holds native.zero native.carry then
    Alu.evaluate instruction.opcode d s native.carry native.zero body.nextPc
  else
    none

/-- The fetched instruction as a single step; `hub` is what its operands are read from. -/
def oneShot (native : Native) (body : CogBody τ) (hub : Hub) : OneShot :=
  let instruction := native.instruction
  match native.outcome? body hub with
  | none =>
    { clocks := 4, pc := body.nextPc, result? := none, carry := native.carry, zero := native.zero }
  | some outcome =>
    { clocks := if instruction.opcode.isTest && outcome.jump?.isNone then 8 else 4
      pc := outcome.jump?.getD body.nextPc
      result? := if instruction.effects.writeResult then some outcome.result else none
      carry := if instruction.effects.writeCarry then outcome.carry else native.carry
      zero := if instruction.effects.writeZero then outcome.zero else native.zero }

/-! ## Clocks -/

/-- The engine after some clocks.  The hub may be another one at each of them. -/
def after (hubs : Nat → Hub) (native : Native) (body : CogBody τ) : Nat → Native × CogBody τ
  | 0 => (native, body)
  | clock + 1 =>
    let current := after hubs native body clock
    (current.1.step current.2 (hubs clock)).2

/-- What the engine tells at a clock: whether an instruction was started. -/
def answer (hubs : Nat → Hub) (native : Native) (body : CogBody τ) (clock : Nat) :
    Except FaultKind Bool :=
  let current := after hubs native body clock
  (current.1.step current.2 (hubs clock)).1

/-- The clocks of the fetched instruction carry out a single step. -/
structure CarriesOut (shot : OneShot) (hubs : Nat → Hub) (native : Native) (body : CogBody τ) :
    Prop where
  /-- The first clock starts an instruction, and no other does. -/
  answers : ∀ clock < shot.clocks, answer hubs native body clock = .ok (decide (clock = 0))
  /-- The cog is under way until the last clock. -/
  underway : ∀ clock, 0 < clock → clock < shot.clocks →
    (after hubs native body clock).2.state ≠ .execute
  /-- Until then no flag has changed. -/
  flags : ∀ clock, 0 < clock → clock < shot.clocks →
    (after hubs native body clock).1.carry = native.carry
      ∧ (after hubs native body clock).1.zero = native.zero
  /-- Nor has a register: the cog only has turned to the next instruction, and counts. -/
  registers : ∀ clock, 0 < clock → clock < shot.clocks →
    (after hubs native body clock).2
      = { body with pc := shot.pc, state := (after hubs native body clock).2.state }
  /-- After the last clock the flags are what they come to, and the next instruction is the one
  that stood there before the result was written. -/
  engine : (after hubs native body shot.clocks).1
    = { instruction := ⟨body.cell shot.pc⟩
        carry := shot.carry
        zero := shot.zero
        pending := (after hubs native body shot.clocks).1.pending }
  /-- The result is written, and nothing else. -/
  written : (after hubs native body shot.clocks).2
    = shot.body body native.instruction.destination (hubs (shot.clocks - 1)).running
  /-- The next instruction is about to start. -/
  boundary : (after hubs native body shot.clocks).2.state = .execute
  /-- It does not look at what is still kept of this one. -/
  forgotten : ∀ pending hub, { (after hubs native body shot.clocks).1 with pending }.step
      (after hubs native body shot.clocks).2 hub
    = (after hubs native body shot.clocks).1.step (after hubs native body shot.clocks).2 hub

/-! ### The first clock -/

lemma step_forgets (native : Native) {body : CogBody τ} (boundary : body.state = .execute)
    (pending : Pending) (hub : Hub) :
    { native with pending }.step body hub = native.step body hub := by
  simp only [step, boundary]
  rfl

lemma step_of_plan {native : Native} {body : CogBody τ} {hub : Hub}
    (boundary : body.state = .execute) {pending : Pending} {state : RunState} {pc : UInt32}
    (planned : native.plan body hub = { pending, state, pc, fault? := none }) :
    native.step body hub = (.ok true, { native with pending, instruction := ⟨body.cell pc⟩ },
      { body with pc, state }) := by
  simp only [step, boundary, start, planned]

lemma planFor_of_evaluate {opcode : Opcode} {pending : Pending} {address pc : UInt32}
    {carry zero : Bool} {outcome : AluOutcome}
    (h : Alu.evaluate opcode pending.d pending.s carry zero pc = some outcome) :
    planFor opcode pending address pc carry zero =
      { pending :=
          { pending with
            result := outcome.result
            carry := outcome.carry
            zero := outcome.zero }
        state := .working (if opcode.isTest && outcome.jump?.isNone then 8 else 4)
        pc := outcome.jump?.getD pc
        fault? := none } := by
  cases opcode
  -- operations without an outcome are waits and the like
  all_goals first
    | simp only [planFor, h]; rfl
    | cases h

variable {native : Native} {body : CogBody τ} {hub : Hub}

omit [Timebase τ] in
lemma isSome_outcome? (plain : native.instruction.opcode.isArithmetic) :
    (native.outcome? body hub).isSome
      = native.instruction.condition.holds native.zero native.carry := by
  simp only [outcome?]
  split
  · next holds => rw [Alu.isSome_evaluate, plain, holds]
  · next fails => rw [Bool.eq_false_iff.mpr fails, Option.isSome_none]

omit [Timebase τ] in
/-- An arithmetic instruction whose condition does not hold only takes its time. -/
lemma plan_of_none (plain : native.instruction.opcode.isArithmetic)
    (idle : native.outcome? body hub = none) :
    ∃ pending, native.plan body hub
      = { pending, state := .settling 4 none, pc := body.nextPc, fault? := none } := by
  have fails : native.instruction.condition.holds native.zero native.carry = false := by
    rw [← isSome_outcome? plain, idle, Option.isSome_none]
  simp only [plan, fails, body.nextPc_eq]
  exact ⟨_, rfl⟩

omit [Timebase τ] in
/-- One whose condition holds keeps its outcome until it is written. -/
lemma plan_of_some {outcome : AluOutcome} (h : native.outcome? body hub = some outcome) :
    ∃ d s, native.plan body hub
      = { pending :=
            { destination := native.instruction.destination
              d
              s
              effects := native.instruction.effects
              result := outcome.result
              carry := outcome.carry
              zero := outcome.zero }
          state := .working (native.oneShot body hub).clocks
          pc := (native.oneShot body hub).pc
          fault? := none } := by
  simp only [oneShot, h]
  simp only [outcome?] at h
  split at h
  · next holds =>
    simp only [plan, holds, body.nextPc_eq]
    exact ⟨_, _, planFor_of_evaluate h⟩
  · cases h

/-! ### The other clocks -/

/-- A cog that only counts clocks down stays as it is until two are left. -/
lemma after_counting {hubs : Nat → Hub} {started : Native} {wait : Nat → RunState} {pc : UInt32}
    {clocks : Nat}
    (first : after hubs native body 1 = (started, { body with pc, state := wait clocks }))
    (counts : ∀ left (hub : Hub), 2 < left → started.step { body with pc, state := wait left } hub
      = (.ok false, started, { body with pc, state := wait (left - 1) }))
    (clock : Nat) (under : clock + 2 ≤ clocks) :
    after hubs native body (clock + 1)
      = (started, { body with pc, state := wait (clocks - clock) }) := by
  induction clock with
  | zero => exact first
  | succ clock ih =>
    have before := ih (by omega)
    have more : 2 < clocks - clock := by omega
    rw [after, before]
    dsimp only
    rw [counts _ _ more, Nat.sub_sub]

lemma writeBack_with (native : Native) (body : CogBody τ) (pc : UInt32) (state : RunState)
    (running : UInt8) :
    native.writeBack { body with pc, state } running
      = ({ native with
            zero := if native.pending.effects.writeZero then native.pending.zero else native.zero
            carry :=
              if native.pending.effects.writeCarry then native.pending.carry else native.carry },
          { (if native.pending.effects.writeResult then
              body.writeRegister running native.pending.destination native.pending.result
            else body) with pc, state := .execute }) := by
  simp only [writeBack]
  rw [body.writeRegister_with]
  cases native.pending.effects.writeResult <;> rfl

/-- An instruction that starts, counts and then finishes is carried out. -/
lemma carriesOut_of_counting {shot : OneShot} {hubs : Nat → Hub} {pending : Pending}
    (wait : Nat → RunState) (boundary : body.state = .execute) (long : 2 < shot.clocks)
    (waits : ∀ left, wait left ≠ .execute)
    (starts : native.step body (hubs 0)
      = (.ok true, { native with pending, instruction := ⟨body.cell shot.pc⟩ },
        { body with pc := shot.pc, state := wait shot.clocks }))
    (counts : ∀ (started : Native) left (hub : Hub), 2 < left →
      started.step { body with pc := shot.pc, state := wait left } hub
        = (.ok false, started, { body with pc := shot.pc, state := wait (left - 1) }))
    (finishes : ∀ hub : Hub,
      { native with pending, instruction := ⟨body.cell shot.pc⟩ }.step
          { body with pc := shot.pc, state := wait 2 } hub
        = (.ok false,
          { instruction := ⟨body.cell shot.pc⟩, carry := shot.carry, zero := shot.zero, pending },
          shot.body body native.instruction.destination hub.running)) :
    CarriesOut shot hubs native body := by
  let started : Native := { native with pending, instruction := ⟨body.cell shot.pc⟩ }
  have first : after hubs native body 1
      = (started, { body with pc := shot.pc, state := wait shot.clocks }) := congrArg (·.2) starts
  have counting := after_counting first (counts started)
  -- between the first clock and the last only the count changes
  have underway : ∀ clock, 0 < clock → clock < shot.clocks → after hubs native body clock
      = (started, { body with pc := shot.pc, state := wait (shot.clocks - (clock - 1)) }) := by
    intro clock pos under
    have here := counting (clock - 1) (by omega)
    rwa [Nat.sub_add_cancel pos] at here
  have last : after hubs native body shot.clocks
      = ({ instruction := ⟨body.cell shot.pc⟩, carry := shot.carry, zero := shot.zero, pending },
        shot.body body native.instruction.destination (hubs (shot.clocks - 1)).running) := by
    have before := underway (shot.clocks - 1) (by omega) (by omega)
    rw [show shot.clocks - (shot.clocks - 1 - 1) = 2 by omega] at before
    rw [show shot.clocks = shot.clocks - 1 + 1 by omega, after, before]
    exact congrArg (·.2) (finishes _)
  have ended : (after hubs native body shot.clocks).2.state = .execute := by
    rw [last]
    exact (shot.state_body ..).trans boundary
  refine ⟨?_, ?_, ?_, ?_, ?_, ?_, ended, step_forgets _ ended⟩
  · intro clock under
    cases clock with
    | zero => exact congrArg (·.1) starts
    | succ clock =>
      rw [answer, underway _ (Nat.succ_pos _) under]
      by_cases more : 2 < shot.clocks - (clock + 1 - 1)
      · exact congrArg (·.1) (counts started _ (hubs (clock + 1)) more)
      · rw [show shot.clocks - (clock + 1 - 1) = 2 by omega]
        exact congrArg (·.1) (finishes (hubs (clock + 1)))
  · intro clock pos under
    rw [underway clock pos under]
    exact waits _
  · intro clock pos under
    rw [underway clock pos under]
    exact ⟨rfl, rfl⟩
  · intro clock pos under
    rw [underway clock pos under]
  · rw [last]
  · rw [last]

/-- **Arithmetic instructions are single steps.**  Whatever the hub does meanwhile, the clocks of
an instruction of the arithmetic unit carry out its single step: the operands are those at the
first clock, and what is written is written at the last one.  It has an outcome exactly if its
condition holds. -/
theorem carriesOut_oneShot (native : Native) (body : CogBody τ) (hubs : Nat → Hub)
    (boundary : body.state = .execute) (plain : native.instruction.opcode.isArithmetic) :
    (native.outcome? body (hubs 0)).isSome
        = native.instruction.condition.holds native.zero native.carry
      ∧ CarriesOut (native.oneShot body (hubs 0)) hubs native body := by
  refine ⟨isSome_outcome? plain, ?_⟩
  cases h : native.outcome? body (hubs 0) with
  | none =>
    obtain ⟨pending, planned⟩ := plan_of_none plain h
    have shot : native.oneShot body (hubs 0)
        = ⟨4, body.nextPc, none, native.carry, native.zero⟩ := by
      simp only [oneShot, h]
    rw [shot]
    refine carriesOut_of_counting (.settling · none) boundary (show 2 < 4 by decide) nofun
      (step_of_plan boundary planned) ?_ ?_
    · intro started left hub more
      simp only [step, Nat.not_le.mpr more, if_false]
    · intro hub
      exact congrArg (fun resumed => (Except.ok false, _, resumed))
        (body.at_boundary boundary body.nextPc)
  | some outcome =>
    obtain ⟨d, s, planned⟩ := plan_of_some h
    refine carriesOut_of_counting (.working ·) boundary ?_ nofun
      (step_of_plan boundary planned) ?_ ?_
    · simp only [oneShot, h]
      split <;> decide
    · intro started left hub more
      simp only [step, Nat.not_le.mpr more, if_false]
    · intro hub
      refine congrArg (Except.ok false, ·) ((writeBack_with ..).trans ?_)
      simp only [oneShot, h, OneShot.body]
      refine congrArg (_, ·) ?_
      cases native.instruction.effects.writeResult with
      | true => exact CogBody.at_boundary _ ((body.writeRegister_state ..).trans boundary) _
      | false => exact body.at_boundary boundary _

/-! ### The end of a loop -/

/-- A loop at address 0 that counts register `10` down. -/
def loopNative : Native :=
  { new with
    instruction := .build .djnz { writeZero := true, writeCarry := false, writeResult := true }
      true .always 0x10 0 }

def loopBody : CogBody Rat :=
  { CogBody.new 0 0 0 0 with state := .execute }.setCell 0x10 1

/-- The loop is left after eight clocks, and until the last of them the register holds one. -/
theorem carriesOut_lastRound :
    let hubs := fun _ => Hub.new ⟨.replicate halfSize 0, .replicate halfSize 0⟩
    let shot := loopNative.oneShot loopBody (hubs 0)
    (loopBody.state = .execute ∧ loopNative.instruction.opcode.isArithmetic)
      ∧ CarriesOut shot hubs loopNative loopBody ∧ shot.clocks = 8
      ∧ (after hubs loopNative loopBody 7).2.cell 0x10 = 1
      ∧ (after hubs loopNative loopBody 8).2.cell 0x10 = 0
      ∧ (after hubs loopNative loopBody 8).2.pc = 1
      ∧ (after hubs loopNative loopBody 8).1.zero := by
  intro hubs shot
  have boundary : loopBody.state = .execute := by decide +kernel
  have plain : loopNative.instruction.opcode.isArithmetic := by decide +kernel
  have carried := (carriesOut_oneShot loopNative loopBody hubs boundary plain).2
  exact ⟨⟨boundary, plain⟩, carried, by decide +kernel, by decide +kernel, by decide +kernel,
    by decide +kernel, by decide +kernel⟩

end Native

end P1Chip
