import P1Chip.Alu
import P1Chip.Cog.Body
import P1Chip.Fault
import P1Chip.Instruction.Word

/-!
# Native instructions

A native instruction is carried out in a first clock, then the cog lets some clocks pass, and only
then result and flags are written.  The next instruction is fetched before that, so one that
changes the instruction right after it changes it too late.

* `Native` — flags, the fetched instruction and the one in progress.
* `Native.start` — the first clock of an instruction.
* `Native.step` — one system clock.
* `Native.hubAccess` — the cog's turn on the hub.
-/

namespace P1Chip

/-- Operands and results of the instruction in progress. -/
structure Pending where
  destination : UInt32
  d : UInt32
  s : UInt32
  effects : Effects
  result : UInt32
  carry : Bool
  zero : Bool
deriving DecidableEq, Repr, Inhabited

/-- The part of a cog that executes native instructions. -/
structure Native where
  carry : Bool
  zero : Bool
  /-- The next instruction. -/
  instruction : Instruction
  pending : Pending
deriving DecidableEq, Repr, Inhabited

namespace Native

variable {τ : Type} [Timebase τ]

/-- Clocks of an instruction of the arithmetic unit, the first one included. -/
def aluClocks : Nat := 4

/-- Clocks of a test that does not branch. -/
def notTakenClocks : Nat := 8

/-- Clocks from the start of an access to the hub until it waits for its turn. -/
def hubClocks : Nat := 6

/-- Flags clear, nothing fetched and nothing in progress. -/
def new : Native where
  carry := false
  zero := false
  instruction := ⟨0⟩
  pending := ⟨0, 0, 0, ⟨false, false, false⟩, 0, false, false⟩

/-- Starts the program that was loaded, at address 0. -/
def boot (native : Native) (body : CogBody τ) : Native × CogBody τ :=
  ({ native with carry := false, zero := false, instruction := ⟨body.cell 0⟩ },
    { body with state := .execute, pc := 0 })

/-- Writes the results that the instruction's effects ask for; the cog then goes on with the next
one. -/
def writeBack (native : Native) (body : CogBody τ) (running : UInt8) : Native × CogBody τ :=
  let pending := native.pending
  let body :=
    if pending.effects.writeResult then
      body.writeRegister running pending.destination pending.result
    else
      body
  ({ native with
      zero := if pending.effects.writeZero then pending.zero else native.zero
      carry := if pending.effects.writeCarry then pending.carry else native.carry },
    { body with state := .execute })

/-! ## Starting an instruction -/

/-- What the first clock of an instruction decides. -/
structure Plan where
  pending : Pending
  state : RunState
  pc : UInt32
  fault? : Option FaultKind

/-- What to do with an instruction whose operands are known and whose condition holds.  `address`
is where it stands and `pc` where the next one does. -/
def planFor (opcode : Opcode) (pending : Pending) (address pc : UInt32) (carry zero : Bool) :
    Plan :=
  let wait (clocks : Nat) (on : Wait) : Plan :=
    { pending, state := .settling clocks (some on), pc, fault? := none }
  match opcode with
  | .mul | .muls | .enc | .ones =>
    { pending := { pending with result := 0, carry := true, zero := true }
      state := .working aluClocks
      pc
      fault? := some (.nativeOpcode opcode.bits address) }
  | .rwByte => wait hubClocks (.hubTransfer .byte)
  | .rwWord => wait hubClocks (.hubTransfer .word)
  | .rwLong => wait hubClocks (.hubTransfer .long)
  | .hubOp => wait hubClocks .hubService
  | .waitpeq => wait aluClocks .pinsEqual
  | .waitpne => wait aluClocks .pinsNotEqual
  | .waitcnt => wait aluClocks .count
  | .waitvid => wait aluClocks .video
  | _ =>
    match Alu.evaluate opcode pending.d pending.s carry zero pc with
    | none => { pending, state := .execute, pc, fault? := none }
    | some outcome =>
      let isTest := opcode == .djnz || opcode == .tjnz || opcode == .tjz
      { pending :=
          { pending with
            result := outcome.result
            carry := outcome.carry
            zero := outcome.zero }
        state := .working (if isTest && outcome.jump?.isNone then notTakenClocks else aluClocks)
        pc := outcome.jump?.getD pc
        fault? := none }

/-- Reads the operands of the fetched instruction and decides what to do.  An instruction whose
condition does not hold only takes its time. -/
def plan (native : Native) (body : CogBody τ) (hub : Hub) : Plan :=
  let instruction := native.instruction
  let pc := (body.pc + 1) &&& 0x1FF
  let s :=
    if instruction.immediate then instruction.source
    else body.readRegister hub instruction.source
  let d := body.readRegister hub instruction.destination
  let pending : Pending :=
    { destination := instruction.destination
      d
      s
      effects := instruction.effects
      result := d
      carry := native.carry
      zero := native.zero }
  if instruction.condition.holds native.zero native.carry then
    planFor instruction.opcode pending body.pc pc native.carry native.zero
  else
    { pending, state := .settling aluClocks none, pc, fault? := none }

/-- The first clock of an instruction.  The next one is fetched at once. -/
def start (native : Native) (body : CogBody τ) (hub : Hub) :
    Native × CogBody τ × Option FaultKind :=
  let plan := native.plan body hub
  ({ native with pending := plan.pending, instruction := ⟨body.cell plan.pc⟩ },
    { body with state := plan.state, pc := plan.pc },
    plan.fault?)

/-! ## Going on with an instruction -/

/-- Hands the operands of a waiting instruction to the video generator, if the cog waits for that
and the generator is ready.  Tells whether it was done. -/
def supplyVideo (native : Native) (body : CogBody τ) (running : UInt8) :
    Bool × Native × CogBody τ :=
  if body.state = .waiting .video ∧ body.video.isReady then
    let body := { body with video := body.video.feed native.pending.d native.pending.s }
    (true, native.writeBack body running)
  else
    (false, native, body)

/-- The instruction in progress with a result and flags. -/
def withResult (native : Native) (result : UInt32) (carry zero : Bool) : Native :=
  { native with pending := { native.pending with result, carry, zero } }

/-- Looks at the half of the pins that the carry flag selects, and ends the wait if the masked pins
are equal to the operand, or are not, as `equal` asks. -/
def checkPins (native : Native) (body : CogBody τ) (hub : Hub) (equal : Bool) :
    Native × CogBody τ :=
  let pins := if native.carry then hub.inputB else hub.inputA
  let masked := pins &&& native.pending.s
  if (masked == native.pending.d) == equal then
    (native.withResult masked native.carry (masked == 0)).writeBack body hub.running
  else
    (native, body)

/-- Ends the wait for the system counter if it has the awaited value; the result is the value to
wait for the next time. -/
def checkCount (native : Native) (body : CogBody τ) (hub : Hub) : Native × CogBody τ :=
  if native.pending.d = hub.counter then
    let outcome := Alu.addCarry native.pending.d native.pending.s false
    (native.withResult outcome.result outcome.carry outcome.zero).writeBack body hub.running
  else
    (native, body)

/-- One system clock.  Tells whether an instruction was started, or the fault that starting it
raised. -/
def step (native : Native) (body : CogBody τ) (hub : Hub) :
    Except FaultKind Bool × Native × CogBody τ :=
  match body.state with
  | .execute =>
    let (native, body, fault?) := native.start body hub
    match fault? with
    | some fault => (.error fault, native, body)
    | none => (.ok true, native, body)
  | .working left =>
    if left ≤ 2 then (.ok false, native.writeBack body hub.running)
    else (.ok false, native, { body with state := .working (left - 1) })
  | .settling left next =>
    if left ≤ 2 then
      match next with
      | some wait => (.ok false, native, { body with state := .waiting wait })
      | none => (.ok false, native, { body with state := .execute })
    else
      (.ok false, native, { body with state := .settling (left - 1) next })
  | .waiting .pinsEqual => (.ok false, native.checkPins body hub true)
  | .waiting .pinsNotEqual => (.ok false, native.checkPins body hub false)
  | .waiting .count => (.ok false, native.checkCount body hub)
  | .waiting .video => (.ok false, (native.supplyVideo body hub.running).2)
  | .waiting (.hubTransfer _) | .waiting .hubService
  | .loadProgram _ | .booting _ | .interpreting _ | .fetch => (.ok false, native, body)

/-- The cog's turn on the hub: a waiting access is carried out, and its results are written. -/
def hubAccess (native : Native) (body : CogBody τ) (hub : Hub) : Native × CogBody τ × Hub :=
  let pending := native.pending
  match body.state with
  | .waiting .hubService =>
    let (answer, hub) := hub.execute body.id (HubOperation.ofBits pending.s) pending.d
    let (native, body) :=
      (native.withResult answer.value answer.carry answer.zero).writeBack body hub.running
    (native, body, hub)
  | .waiting (.hubTransfer size) =>
    if pending.effects.writeResult then
      let data := hub.read size pending.s
      let (native, body) :=
        (native.withResult data pending.carry (data == 0)).writeBack body hub.running
      (native, body, hub)
    else
      let hub := hub.write size pending.s pending.d
      let (native, body) := native.writeBack body hub.running
      (native, body, hub)
  | _ => (native, body, hub)

end Native

end P1Chip
