import P1Chip.Proofs.Raw.Body

/-!
# Native instructions with plain numbers

The native engine on the parts of a cog with plain numbers.  Where it is refused something, it gives
up: registers, opcodes and conditions are looked up, operands are shifted, the next instruction is
fetched from wherever the program counter stands, and every clock of a wait is counted down in the
field that loading has used before.

* `RawBody.Shows` — parts with plain numbers that are those of a cog.
* `Native.start?`, `Native.writeBack?` — the first and the last clock of an instruction.
* `Native.step?`, `Native.hubAccess?` — a system clock, and a turn on the hub.
* **`Native.step?_shows`**, **`Native.hubAccess?_shows`** — nothing is refused.
-/

namespace P1Chip

variable {τ : Type}

/-- Parts with plain numbers show those of a cog. -/
def RawBody.Shows (raw : RawBody τ) (body : CogBody τ) : Prop :=
  ∃ run : RunFields, run.Shows body.state ∧ raw = body.raw run

lemma RawBody.Shows.mk {body : CogBody τ} {run : RunFields} (shown : run.Shows body.state) :
    (body.raw run).Shows body :=
  ⟨run, shown, rfl⟩

/-- The first clock of an instruction, for a cog with plain numbers. -/
structure RawPlan where
  pending : Pending
  run : RunFields
  pc : UInt32
  fault? : Option FaultKind

/-- The plan with its numbers written out. -/
def Native.Plan.raw (plan : Native.Plan) (run : RunFields) : RawPlan where
  pending := plan.pending
  run := run.enter plan.state
  pc := plan.pc
  fault? := plan.fault?

namespace Native

/-! ## Starting an instruction -/

/-- What to do with an instruction whose operands are known and whose condition holds. -/
def planFor? (opcode : Opcode) (pending : Pending) (address pc : UInt32) (carry zero : Bool)
    (run : RunFields) : Option RawPlan :=
  let wait (clocks : Nat) (next : RunMode) : Option RawPlan :=
    some { pending, run := ⟨.waitPrewait, .ofNat clocks, next⟩, pc, fault? := none }
  match opcode with
  | .mul | .muls | .enc | .ones => some
    { pending := { pending with result := 0, carry := true, zero := true }
      run := run.withClocks .waitCycles aluClocks
      pc
      fault? := some (.nativeOpcode opcode.bits address) }
  | .rwByte => wait hubClocks .hubReadByte
  | .rwWord => wait hubClocks .hubReadWord
  | .rwLong => wait hubClocks .hubReadLong
  | .hubOp => wait hubClocks .hubOperation
  | .waitpeq => wait aluClocks .waitPinsEqual
  | .waitpne => wait aluClocks .waitPinsNotEqual
  | .waitcnt => wait aluClocks .waitCount
  | .waitvid => wait aluClocks .waitVideo
  | _ => do
    match ← Alu.evaluate? opcode pending.d pending.s carry zero pc with
    | none => return { pending, run, pc, fault? := none }
    | some outcome =>
      let isTest := opcode == .djnz || opcode == .tjnz || opcode == .tjz
      let clocks := if isTest && outcome.jump?.isNone then notTakenClocks else aluClocks
      return {
        pending :=
          { pending with
            result := outcome.result
            carry := outcome.carry
            zero := outcome.zero }
        run := run.withClocks .waitCycles clocks
        pc := outcome.jump?.getD pc
        fault? := none }

variable (native : Native)

/-- The second operand of the fetched instruction. -/
def operand? (body : RawBody τ) (hub : RawHub) : Option UInt32 :=
  if native.instruction.immediate then some native.instruction.source
  else body.readRegister? hub native.instruction.source

/-- Reads the operands of the fetched instruction and decides what to do. -/
def plan? (body : RawBody τ) (hub : RawHub) : Option RawPlan := do
  let instruction := native.instruction
  let pc := (body.parts.pc + 1) &&& 0x1FF
  let s ← native.operand? body hub
  let d ← body.readRegister? hub instruction.destination
  let pending : Pending :=
    { destination := instruction.destination
      d
      s
      effects := instruction.effects
      result := d
      carry := native.carry
      zero := native.zero }
  let condition ← Condition.ofBits? (instruction.bits >>> 18)
  if condition.holds native.zero native.carry then
    let opcode ← Opcode.ofBits? (instruction.bits >>> 26)
    planFor? opcode pending body.parts.pc pc native.carry native.zero body.run
  else
    return { pending, run := ⟨.waitPrewait, .ofNat aluClocks, .execute⟩, pc, fault? := none }

/-- The first clock of an instruction, which also fetches the next one. -/
def start? (body : RawBody τ) (hub : RawHub) :
    Option (Native × RawBody τ × Option FaultKind) := do
  let plan ← native.plan? body hub
  let bits ← body.parts.namedCell? plan.pc
  return ({ native with pending := plan.pending, instruction := ⟨bits⟩ },
    (body.withRun plan.run).withPc plan.pc, plan.fault?)

/-- Starts the program that was loaded, at address 0. -/
def boot? (body : RawBody τ) : Option (Native × RawBody τ) := do
  let bits ← body.parts.namedCell? 0
  return ({ native with carry := false, zero := false, instruction := ⟨bits⟩ },
    (body.withRun (body.run.withMode .execute)).withPc 0)

/-! ## Going on with an instruction -/

section WriteBack

variable [Timebase τ]

/-- Writes the results that the instruction's effects ask for. -/
def writeBack? (body : RawBody τ) (running : UInt8) : Option (Native × RawBody τ) := do
  let pending := native.pending
  let body ←
    if pending.effects.writeResult then
      body.writeRegister? running pending.destination pending.result
    else
      some body
  return ({ native with
      zero := if pending.effects.writeZero then pending.zero else native.zero
      carry := if pending.effects.writeCarry then pending.carry else native.carry },
    body.withRun (body.run.withMode .execute))

/-- Hands the operands of a waiting instruction to the video generator. -/
def supplyVideo? (body : RawBody τ) (running : UInt8) : Option (Bool × Native × RawBody τ) := do
  if body.run.mode = .waitVideo ∧ body.parts.video.isReady then
    let video := body.parts.video.feed native.pending.d native.pending.s
    return (true, ← native.writeBack? { body with parts := { body.parts with video } } running)
  else
    return (false, native, body)

/-- Ends a wait for pins. -/
def checkPins? (body : RawBody τ) (hub : RawHub) (equal : Bool) : Option (Native × RawBody τ) :=
  let pins := if native.carry then hub.shared.inputB else hub.shared.inputA
  let masked := pins &&& native.pending.s
  if (masked == native.pending.d) == equal then
    (native.withResult masked native.carry (masked == 0)).writeBack? body hub.shared.running
  else
    some (native, body)

/-- Ends a wait for the system counter. -/
def checkCount? (body : RawBody τ) (hub : RawHub) : Option (Native × RawBody τ) :=
  if native.pending.d = hub.shared.counter then
    let outcome := Alu.addCarry native.pending.d native.pending.s false
    (native.withResult outcome.result outcome.carry outcome.zero).writeBack? body
      hub.shared.running
  else
    some (native, body)

/-- One system clock. -/
def step? (body : RawBody τ) (hub : RawHub) :
    Option (Except FaultKind Bool × Native × RawBody τ) :=
  match body.run.mode with
  | .execute => do
    let (native, body, fault?) ← native.start? body hub
    match fault? with
    | some fault => return (.error fault, native, body)
    | none => return (.ok true, native, body)
  | .waitCycles => do
    let body := body.withRun body.run.countDown
    if body.run.count ≤ 1 then
      return (.ok false, ← native.writeBack? body hub.shared.running)
    else
      return (.ok false, native, body)
  | .waitPrewait =>
    let body := body.withRun body.run.countDown
    if body.run.count ≤ 1 then
      some (.ok false, native, body.withRun (body.run.withMode body.run.next))
    else
      some (.ok false, native, body)
  | .waitPinsEqual => do return (.ok false, ← native.checkPins? body hub true)
  | .waitPinsNotEqual => do return (.ok false, ← native.checkPins? body hub false)
  | .waitCount => do return (.ok false, ← native.checkCount? body hub)
  | .waitVideo => do return (.ok false, (← native.supplyVideo? body hub.shared.running).2)
  | _ => some (.ok false, native, body)

/-- A waiting transfer from or to hub memory. -/
def transfer? (body : RawBody τ) (hub : RawHub) (size : DataSize) :
    Option (Native × RawBody τ × RawHub) := do
  let pending := native.pending
  if pending.effects.writeResult then
    let data ← hub.shared.memory.read? size pending.s
    let (native, body) ←
      (native.withResult data pending.carry (data == 0)).writeBack? body hub.shared.running
    return (native, body, hub)
  else
    let hub ← hub.write? size pending.s pending.d
    let (native, body) ← native.writeBack? body hub.shared.running
    return (native, body, hub)

/-- The cog's turn on the hub. -/
def hubAccess? (body : RawBody τ) (hub : RawHub) : Option (Native × RawBody τ × RawHub) :=
  match body.run.mode with
  | .hubOperation => do
    let pending := native.pending
    let (answer, hub) ← hub.execute? body.parts.id (HubOperation.ofBits pending.s) pending.d
    let (native, body) ← (native.withResult answer.value answer.carry answer.zero).writeBack? body
      hub.shared.running
    return (native, body, hub)
  | .hubReadByte => native.transfer? body hub .byte
  | .hubReadWord => native.transfer? body hub .word
  | .hubReadLong => native.transfer? body hub .long
  | _ => some (native, body, hub)

end WriteBack

/-! ## Nothing is refused -/

lemma planFor?_raw (opcode : Opcode) (pending : Pending) (address pc : UInt32) (carry zero : Bool)
    {run : RunFields} (executes : run.enter .execute = run) :
    planFor? opcode pending address pc carry zero run
      = some ((planFor opcode pending address pc carry zero).raw run) := by
  cases opcode
  case mul | muls | enc | ones | rwByte | rwWord | rwLong | hubOp | waitpeq | waitpne | waitcnt
    | waitvid => rfl
  all_goals
    simp only [planFor?, planFor, Alu.evaluate?_eq, Option.bind_eq_bind, Option.bind_some]
    generalize Alu.evaluate _ pending.d pending.s carry zero pc = outcome?
    cases outcome? with
    | none => simp only [Plan.raw, executes, Option.pure_def]
    | some outcome => rfl

variable (body : CogBody τ) (hub : Hub) {run : RunFields}

lemma plan?_raw (executes : run.enter .execute = run) :
    native.plan? (body.raw run) hub.raw = some ((native.plan body hub).raw run) := by
  have operand : native.operand? (body.raw run) hub.raw
      = some (if native.instruction.immediate then native.instruction.source
        else body.readRegister hub native.instruction.source) := by
    rw [operand?, CogBody.readRegister?_raw, ← apply_ite some]
  simp only [plan?, plan, operand, CogBody.readRegister?_raw, Condition.ofBits?_eq,
    Opcode.ofBits?_eq, Option.bind_eq_bind, Option.bind_some]
  rw [apply_ite (Plan.raw · run), apply_ite some]
  exact if_congr Iff.rfl (planFor?_raw _ _ _ _ _ _ executes) rfl

/-- Instructions take few clocks. -/
lemma left_planFor (opcode : Opcode) (pending : Pending) (address pc : UInt32)
    (carry zero : Bool) : (planFor opcode pending address pc carry zero).state.left ≤ 8 := by
  cases evaluated : Alu.evaluate opcode pending.d pending.s carry zero pc with
  | none =>
    cases opcode
    case cmpsub =>
      rw [Alu.evaluate] at evaluated
      split at evaluated <;> cases evaluated
    all_goals first
      | exact Nat.le_of_ble_eq_true rfl
      | cases evaluated
  | some outcome =>
    rw [planFor_of_evaluate evaluated]
    dsimp only [RunState.left]
    split <;> decide

lemma left_start : (native.start body hub).2.1.state.left < 2 ^ 32 := by
  have short : (native.plan body hub).state.left ≤ 8 := by
    rw [plan]
    split
    · exact left_planFor ..
    · show aluClocks ≤ 8
      decide
  exact Nat.lt_of_le_of_lt short (by decide)

/-- The next instruction is fetched from cog memory, wherever this one stands. -/
lemma start?_raw (executes : run.enter .execute = run) :
    native.start? (body.raw run) hub.raw
      = some ((native.start body hub).1,
          (native.start body hub).2.1.raw (run.enter (native.start body hub).2.1.state),
          (native.start body hub).2.2) := by
  have low : (native.plan body hub).pc.toNat < cogLongs := (native.inRange_plan body hub).1
  have fetched : (body.raw run).parts.namedCell? (native.plan body hub).pc
      = some (body.cell (native.plan body hub).pc) := body.parts.namedCell?_eq low
  rw [start?, plan?_raw _ _ _ executes]
  simp only [Plan.raw, fetched, Option.bind_eq_bind, Option.bind_some]
  rfl

lemma boot?_raw :
    native.boot? (body.raw run)
      = some ((native.boot body).1, (native.boot body).2.raw (run.withMode .execute)) := by
  have low : UInt32.toNat 0 < cogLongs := by decide
  have fetched : (body.raw run).parts.namedCell? 0 = some (body.cell 0) :=
    body.parts.namedCell?_eq low
  rw [boot?, fetched]
  rfl

variable [Timebase τ]

/-- Results are written to registers, and the cog goes on with the next instruction whatever its
count is. -/
lemma writeBack?_shows (run : RunFields) (running : UInt8) :
    ∃ raw, native.writeBack? (body.raw run) running
        = some ((native.writeBack body running).1, raw)
      ∧ raw.Shows (native.writeBack body running).2 := by
  refine ⟨(native.writeBack body running).2.raw (run.withMode .execute), ?_,
    .mk (.execute run.count run.next)⟩
  rw [writeBack?]
  cases written : native.pending.effects.writeResult with
  | true =>
    simp only [written, if_true, CogBody.writeRegister?_raw, writeBack, Option.bind_eq_bind,
      Option.bind_some]
    rfl
  | false =>
    simp only [written, writeBack]
    rfl

lemma supplyVideo?_shows (shown : run.Shows body.state) (running : UInt8) :
    ∃ raw, native.supplyVideo? (body.raw run) running
        = some ((native.supplyVideo body running).1, (native.supplyVideo body running).2.1, raw)
      ∧ raw.Shows (native.supplyVideo body running).2.2 := by
  have waits : ((body.raw run).run.mode = .waitVideo ∧ (body.raw run).parts.video.isReady)
      ↔ (body.state = .waiting .video ∧ body.video.isReady) := by
    rw [← RunState.mode_eq_waitVideo_iff, ← shown.mode_eq]
    rfl
  simp only [supplyVideo?, supplyVideo, waits]
  split
  · let fed := { body with video := body.video.feed native.pending.d native.pending.s }
    obtain ⟨raw, written, after⟩ := native.writeBack?_shows fed run running
    refine ⟨raw, ?_, after⟩
    have same : { body.raw run with parts := { (body.raw run).parts with
        video := (body.raw run).parts.video.feed native.pending.d native.pending.s } }
        = fed.raw run := rfl
    rw [same, written]
    rfl
  · exact ⟨_, rfl, .mk shown⟩

lemma checkPins?_shows (shown : run.Shows body.state) (equal : Bool) :
    ∃ raw, native.checkPins? (body.raw run) hub.raw equal
        = some ((native.checkPins body hub equal).1, raw)
      ∧ raw.Shows (native.checkPins body hub equal).2 := by
  unfold checkPins? checkPins
  rw [hub.raw_inputA, hub.raw_inputB]
  generalize (if native.carry then hub.inputB else hub.inputA) = pins
  dsimp only
  split
  · exact writeBack?_shows _ body run hub.running
  · exact ⟨_, rfl, .mk shown⟩

lemma checkCount?_shows (shown : run.Shows body.state) :
    ∃ raw, native.checkCount? (body.raw run) hub.raw = some ((native.checkCount body hub).1, raw)
      ∧ raw.Shows (native.checkCount body hub).2 := by
  simp only [checkCount?, checkCount]
  rw [hub.raw_counter]
  split
  · exact writeBack?_shows _ body run hub.running
  · exact ⟨_, rfl, .mk shown⟩

/-- A clock of a wait looks at pins, at the system counter or at the video generator. -/
lemma step?_waiting (shown : run.Shows body.state) {wait : Wait}
    (state : body.state = .waiting wait) :
    ∃ raw, native.step? (body.raw run) hub.raw
        = some ((native.step body hub).1, (native.step body hub).2.1, raw)
      ∧ raw.Shows (native.step body hub).2.2 := by
  have mode := shown.mode_eq
  rw [state] at mode
  cases wait with
  | pinsEqual =>
    obtain ⟨raw, checked, shown⟩ := native.checkPins?_shows body hub shown true
    simp only [step?, step, state, CogBody.raw_run, mode, RunState.mode, RunMode.ofWait,
      checked, Option.bind_eq_bind, Option.bind_some]
    exact ⟨raw, rfl, shown⟩
  | pinsNotEqual =>
    obtain ⟨raw, checked, shown⟩ := native.checkPins?_shows body hub shown false
    simp only [step?, step, state, CogBody.raw_run, mode, RunState.mode, RunMode.ofWait,
      checked, Option.bind_eq_bind, Option.bind_some]
    exact ⟨raw, rfl, shown⟩
  | count =>
    obtain ⟨raw, checked, shown⟩ := native.checkCount?_shows body hub shown
    simp only [step?, step, state, CogBody.raw_run, mode, RunState.mode, RunMode.ofWait,
      checked, Option.bind_eq_bind, Option.bind_some]
    exact ⟨raw, rfl, shown⟩
  | video =>
    obtain ⟨raw, supplied, shown⟩ := native.supplyVideo?_shows body shown hub.running
    simp only [step?, step, state, CogBody.raw_run, mode, RunState.mode, RunMode.ofWait,
      hub.raw_running, supplied, Option.bind_eq_bind, Option.bind_some]
    exact ⟨raw, rfl, shown⟩
  | hubTransfer size =>
    cases size <;>
      simp only [step?, step, state, CogBody.raw_run, mode, RunState.mode, RunMode.ofWait] <;>
      exact ⟨_, rfl, .mk shown⟩
  | hubService =>
    simp only [step?, step, state, CogBody.raw_run, mode, RunState.mode, RunMode.ofWait]
    exact ⟨_, rfl, .mk shown⟩

/-- **A system clock** of a native cog is refused nothing. -/
theorem step?_shows {raw : RawBody τ} (shown : raw.Shows body) :
    ∃ raw', native.step? raw hub.raw
        = some ((native.step body hub).1, (native.step body hub).2.1, raw')
      ∧ raw'.Shows (native.step body hub).2.2 := by
  obtain ⟨run, shown, rfl⟩ := shown
  have mode := shown.mode_eq
  cases state : body.state with
  | execute =>
    have executes : run.enter .execute = run := by
      rw [← state]
      exact shown.enter_eq
    have few := native.left_start body hub
    simp only [step?, step, state, RunState.mode, CogBody.raw_run, mode,
      start?_raw _ _ _ executes, Option.bind_eq_bind, Option.bind_some]
    revert few
    rcases native.start body hub with ⟨native', body', _ | fault⟩ <;>
      exact fun few => ⟨_, rfl, .mk (run.shows_enter few)⟩
  | working left =>
    rw [state] at shown
    cases shown with
    | working count later =>
    simp only [step?, step, state, CogBody.raw_run, CogBody.raw_withRun,
      RunFields.countDown_le_one_iff]
    split
    · let run := RunFields.countDown ⟨.waitCycles, count, later⟩
      obtain ⟨raw, written, shown⟩ := native.writeBack?_shows body run hub.running
      simp only [run] at written
      simp only [hub.raw_running, written, Option.bind_eq_bind, Option.bind_some]
      exact ⟨raw, rfl, shown⟩
    · exact ⟨_, rfl, .mk (RunFields.Shows.countDown_working count later)⟩
  | settling left next =>
    rw [state] at shown
    cases shown with
    | settling count next =>
    simp only [step?, step, state, CogBody.raw_run, CogBody.raw_withRun,
      RunFields.countDown_le_one_iff]
    split
    · cases next with
      | none => exact ⟨_, rfl, .mk (.execute _ _)⟩
      | some wait => exact ⟨_, rfl, .mk (.waiting wait _ _)⟩
    · exact ⟨_, rfl, .mk (RunFields.Shows.countDown_settling count next)⟩
  | waiting wait => exact native.step?_waiting body hub shown state
  | loadProgram next | booting left | interpreting left | fetch =>
    simp only [step?, step, state, CogBody.raw_run, mode, RunState.mode]
    exact ⟨_, rfl, .mk shown⟩

/-- A transfer reads or writes hub memory, and its results are written. -/
lemma transfer?_shows (run : RunFields) {size : DataSize}
    (state : body.state = .waiting (.hubTransfer size)) :
    ∃ raw, native.transfer? (body.raw run) hub.raw size
        = some ((native.hubAccess body hub).1, raw, (native.hubAccess body hub).2.2.raw)
      ∧ raw.Shows (native.hubAccess body hub).2.1 := by
  simp only [transfer?, hubAccess, state, hub.raw_memory, Memory.read?_eq, hub.write?_raw,
    Option.bind_eq_bind, Option.bind_some]
  split
  · let data := hub.read size native.pending.s
    let finished := native.withResult data native.pending.carry (data == 0)
    obtain ⟨raw, written, shown⟩ := finished.writeBack?_shows body run hub.running
    exact ⟨raw, congrArg (·.bind fun done => some (done.1, done.2, hub.raw)) written, shown⟩
  · let other := hub.write size native.pending.s native.pending.d
    obtain ⟨raw, written, shown⟩ := native.writeBack?_shows body run hub.running
    exact ⟨raw, congrArg (·.bind fun done => some (done.1, done.2, other.raw)) written, shown⟩

/-- **A turn on the hub** is refused nothing. -/
theorem hubAccess?_shows {raw : RawBody τ} (shown : raw.Shows body) :
    ∃ raw', native.hubAccess? raw hub.raw
        = some ((native.hubAccess body hub).1, raw', (native.hubAccess body hub).2.2.raw)
      ∧ raw'.Shows (native.hubAccess body hub).2.1 := by
  obtain ⟨run, shown, rfl⟩ := shown
  have mode := shown.mode_eq
  rw [hubAccess?, CogBody.raw_run, mode]
  cases state : body.state with
  | waiting wait =>
    cases wait with
    | hubService =>
      let answered := hub.execute body.id (HubOperation.ofBits native.pending.s) native.pending.d
      let finished := native.withResult answered.1.value answered.1.carry answered.1.zero
      obtain ⟨raw, written, shown⟩ := finished.writeBack?_shows body run answered.2.running
      have served : hub.raw.execute? (body.raw run).parts.id (HubOperation.ofBits native.pending.s)
          native.pending.d = some (answered.1, answered.2.raw) := hub.execute?_raw ..
      simp only [hubAccess, state, RunState.mode, RunMode.ofWait, served, Option.bind_eq_bind,
        Option.bind_some]
      exact ⟨raw, congrArg (·.bind fun done => some (done.1, done.2, answered.2.raw)) written,
        shown⟩
    | hubTransfer size => cases size <;> exact native.transfer?_shows body hub run state
    | pinsEqual | pinsNotEqual | count | video =>
      simp only [hubAccess, state]
      exact ⟨_, rfl, .mk shown⟩
  | loadProgram | execute | working | settling | booting | interpreting | fetch =>
    simp only [hubAccess, state]
    exact ⟨_, rfl, .mk shown⟩

end Native

end P1Chip
