import P1Chip.Cog.Basic
import P1Chip.Proofs.Raw.Bytecodes

/-!
# Cogs with plain numbers

A cog is loaded one long at a time, and then booted.  After that only its engine says what its turns
and its clocks do.  With plain numbers nothing but the name of the state tells whether the count is
one of longs or one of clocks, and the cog that the video generator listens to is found by comparing
numbers.

* `RawCog` — a cog with plain numbers.
* `RawCog.Shows` — it is a given cog, which is in range.
* `RawCog.new?`, `RawCog.step?`, `RawCog.hubAccess?`, `RawCog.colorEdge?` — what cogs do.
* **`RawCog.new?_shows`**, **`RawCog.Shows.step?`**, **`RawCog.Shows.hubAccess?`**,
  **`RawCog.Shows.colorEdge?`** — nothing is refused, and the same cog comes out.
-/

namespace P1Chip

variable {τ : Type}

/-- A change that has nothing to do with numbers that can be out of range. -/
structure CogBody.IsPlain (change : CogBody τ → CogBody τ) (body : CogBody τ) : Prop where
  parts : (change body).parts = change body.parts
  pc : (change body).pc = body.pc
  state : (change body).state = body.state
  video : (change body).video = body.video

/-- A cog with plain numbers. -/
structure RawCog (τ : Type) where
  body : RawBody τ
  engine : Engine
deriving Inhabited

namespace RawCog

variable (cog : RawCog τ)

/-- The cog with other parts, none of which are the numbers written out. -/
def withParts (change : CogBody τ → CogBody τ) : RawCog τ :=
  { cog with body := { cog.body with parts := change cog.body.parts } }

/-! ## The video generator -/

/-- The cog with a change to its video generator. -/
def withVideo (change : Video → Video) : RawCog τ :=
  cog.withParts fun parts => { parts with video := change parts.video }

/-- The video generator does not listen to the cog with a number any more. -/
def detachAural (number : Nat) : RawCog τ :=
  { cog with body := { cog.body with
      auralSource := if cog.body.auralSource = some number then none else cog.body.auralSource } }

/-- The video generator hears an edge of the cog with a number, if it listens to that. -/
def auralEdge (number : Nat) (level : Bool) : RawCog τ :=
  if cog.body.auralSource = some number then cog.withVideo (·.auralEdge level) else cog

/-- The cog with another breakpoint, or none. -/
def setBreakpoint (breakpoint? : Option UInt32) : RawCog τ :=
  cog.withParts ({ · with breakpoint? })

/-! ## Clocks -/

/-- Gives the cog's phase-locked loops another system clock. -/
def setCoreFrequency [Timebase τ] (frequency : UInt32) : RawCog τ :=
  cog.withParts fun parts => { parts with plls := parts.plls.setBaseFrequency frequency }

/-- Time until the next edge of one of the cog's phase-locked loops. -/
def timeLeft [Timebase τ] : τ :=
  cog.body.parts.plls.timeLeft

/-- Lets time pass for the cog's phase-locked loops. -/
def advance [Timebase τ] (elapsed : τ) : PllEdges × RawCog τ :=
  ((cog.body.parts.plls.advance elapsed).1,
    cog.withParts fun parts => { parts with plls := (parts.plls.advance elapsed).2 })

/-! ## Loading -/

/-- A cog that is about to load its program. -/
def new? [Timebase τ] (number : Nat) (kind : EngineKind)
    (program parameter coreFrequency : UInt32) : Option (RawCog τ) := do
  let parts : CogBody τ := (CogBody.new (UInt32.ofNat number) program 0 coreFrequency).parts
  let body : RawBody τ := { parts, run := .new, auralSource := none }
  return { body := ← body.setNamedCell? SpecialRegister.par.address parameter, engine := .new kind }

/-- Starts the engine after loading. -/
def boot? (hub : RawHub) : Option (RawCog τ × RawHub) :=
  match cog.engine with
  | .native native => do
    let (native, body) ← native.boot? cog.body
    return (⟨body, .native native⟩, hub)
  | .interpreted _ => do
    let machine ← cog.body.bootInterpreter? hub
    return (⟨machine.body, .interpreted machine.frames⟩, machine.hub)

/-- The next long of the program, and the start of the engine after the last one. -/
def load? (hub : RawHub) : Option (RawCog τ × RawHub) := do
  let (isLast, body) ← cog.body.loadNext? hub
  if isLast then (RawCog.mk body cog.engine).boot? hub else return (⟨body, cog.engine⟩, hub)

variable [Timebase τ]

/-- The cog's turn on the hub. -/
def hubAccess? (hub : RawHub) : Option (RawCog τ × RawHub) :=
  let cog := cog.withParts fun parts => { parts with hubAccesses := parts.hubAccesses + 1 }
  if cog.body.run.mode = .loadProgram then
    cog.load? hub
  else
    match cog.engine with
    | .native native => do
      let (native, body, hub) ← native.hubAccess? cog.body hub
      return (⟨body, .native native⟩, hub)
    | .interpreted _ => some (cog, hub)

/-! ## Steps -/

/-- One system clock of the engine alone. -/
def stepEngine? (hub : RawHub) : Option (Except FaultKind Bool × RawCog τ × RawHub) :=
  match cog.engine with
  | .native native => do
    let (outcome, native, body) ← native.step? cog.body hub
    return (outcome, ⟨body, .native native⟩, hub)
  | .interpreted frames => do
    let (outcome, machine) ← RawMachine.step? { frames, body := cog.body, hub }
    return (outcome, ⟨machine.body, .interpreted machine.frames⟩, machine.hub)

omit [Timebase τ] in
/-- Whether the chip may go on after an engine's step. -/
def checkBreaks (frameBreak : FrameBreak) (started : Bool) : Bool × RawCog τ :=
  let parts := cog.body.parts
  let goesOn := !(started && parts.breakpoint? == some parts.pc)
  if frameBreak.triggeredBy parts.frameFlag then
    (false, cog.withParts ({ · with frameFlag := .none }))
  else
    (goesOn, cog)

/-- One system clock of the engine and of both counters. -/
def step? (hub : RawHub) (frameBreak : FrameBreak) :
    Option (Except Fault Bool × RawCog τ × RawHub) := do
  let (outcome, cog, hub) ← cog.stepEngine? hub
  let cog := cog.withParts (·.tickCounters hub.shared.input)
  match outcome with
  | .error kind => return (.error ⟨cog.body.parts.id, hub.shared.counter, kind⟩, cog, hub)
  | .ok started =>
    let (goesOn, cog) := cog.checkBreaks frameBreak started
    return (.ok goesOn, cog, hub)

/-- Writes a register, as a debugger does. -/
def writeRegister? (running : UInt8) (address value : UInt32) : Option (RawCog τ) := do
  return { cog with body := ← cog.body.writeRegister? running address value }

/-! ## The end of a frame -/

/-- The video generator has finished a frame. -/
def frameComplete? (running : UInt8) : Option (RawCog τ) :=
  let flag (supplied : Bool) (cog : RawCog τ) : RawCog τ :=
    cog.withParts ({ · with frameFlag := if supplied then .hit else .miss })
  match cog.engine with
  | .native native => do
    let (supplied, native, body) ← native.supplyVideo? cog.body running
    return flag supplied ⟨body, .native native⟩
  | .interpreted frames =>
    let (supplied, body) := RawMachine.supplyVideo frames cog.body
    some (flag supplied ⟨body, .interpreted frames⟩)

/-- An edge of the pixel clock, which may be the last one of a frame. -/
def colorEdge? (running : UInt8) (level : Bool) : Option (RawCog τ) := do
  let (done, video) ← cog.body.parts.video.colorEdge? level
  let cog := cog.withVideo fun _ => video
  if done then cog.frameComplete? running else return cog

end RawCog

/-! ## The same cog -/

/-- A cog with its numbers written out, and the fields of its run state. -/
def Cog.raw (cog : Cog τ) (run : RunFields) : RawCog τ :=
  ⟨cog.body.raw run, cog.engine⟩

/-- The cog after the next long of its program was copied, and booted if that was the last one. -/
def Cog.load (cog : Cog τ) (hub : Hub) (next : Fin programLongs) : Cog τ × Hub :=
  let (isLast, body) := cog.body.loadNext hub next
  if isLast then boot ⟨body, cog.engine⟩ hub else (⟨body, cog.engine⟩, hub)

/-- A cog with plain numbers shows one that is in range. -/
def RawCog.Shows (raw : RawCog τ) (cog : Cog τ) : Prop :=
  cog.InRange ∧ ∃ run : RunFields, run.Shows cog.body.state ∧ raw = cog.raw run

namespace Cog

variable [Timebase τ]

variable {body : CogBody τ} (loaded : ∀ next, body.state ≠ .loadProgram next) (hub : Hub)

include loaded

/-- After loading, native cogs may have something to do at their turns. -/
lemma hubAccess_native (native : Native) :
    let counted := { body with hubAccesses := body.hubAccesses + 1 }
    let after := native.hubAccess counted hub
    hubAccess ⟨body, .native native⟩ hub = (⟨after.2.1, .native after.1⟩, after.2.2) := by
  simp only [hubAccess]

/-- Interpreted ones have nothing. -/
lemma hubAccess_interpreted (frames : SpinFrames) :
    let counted := { body with hubAccesses := body.hubAccesses + 1 }
    hubAccess ⟨body, .interpreted frames⟩ hub = (⟨counted, .interpreted frames⟩, hub) := by
  simp only [hubAccess]

end Cog

namespace RawCog

variable {raw : RawCog τ} {cog : Cog τ}

lemma Shows.inRange (shown : raw.Shows cog) : cog.InRange :=
  shown.1

/-- A change to parts, none of which are numbers that were written out. -/
lemma Shows.withParts (shown : raw.Shows cog) (change : CogBody τ → CogBody τ)
    (plain : CogBody.IsPlain change cog.body) :
    (raw.withParts change).Shows { cog with body := change cog.body } := by
  obtain ⟨inRange, run, fields, rfl⟩ := shown
  refine ⟨⟨fun native => ?_, ?_, ?_⟩, run, ?_, ?_⟩
  · rw [plain.pc]
    exact inRange.pc native
  · rw [plain.state]
    exact inRange.state
  · rw [plain.video]
    exact inRange.pins
  · rw [plain.state]
    exact fields
  · show RawCog.mk (RawBody.mk (change cog.body.parts) run (cog.body.video.auralSource.map Fin.val))
      cog.engine = _
    rw [← plain.parts, ← plain.video]
    rfl

/-! ### The video generator -/

/-- Another state of a video generator that listens to the same cog. -/
lemma Shows.setVideo (shown : raw.Shows cog) {video : Video} (pins : video.OnPins)
    (same : video.auralSource = cog.body.video.auralSource) :
    (raw.withVideo fun _ => video.withSource none).Shows (cog.withVideo fun _ => video) := by
  obtain ⟨inRange, run, fields, rfl⟩ := shown
  refine ⟨inRange.withVideo pins, run, fields, ?_⟩
  show RawCog.mk (RawBody.mk _ run (cog.body.video.auralSource.map Fin.val)) _ = _
  rw [← same]
  rfl

/-- A change for which it makes no difference to which cog the generator listens. -/
lemma Shows.withVideo (shown : raw.Shows cog) {change : Video → Video}
    (ignores : Video.IgnoresSource change) (pins : (change cog.body.video).OnPins) :
    (raw.withVideo change).Shows (cog.withVideo change) := by
  have set := shown.setVideo pins (ignores.auralSource cog.body.video)
  obtain ⟨-, run, -, rfl⟩ := shown
  have changed : change (cog.raw run).body.parts.video
      = (change cog.body.video).withSource none := ignores cog.body.video none
  rw [← changed] at set
  exact set

/-- Cogs are the same if their numbers are. -/
lemma Shows.listens_iff (shown : raw.Shows cog) (id : Fin 8) :
    raw.body.auralSource = some id.val ↔ cog.body.video.auralSource = some id := by
  obtain ⟨-, run, -, rfl⟩ := shown
  exact Option.map_eq_some_iff.trans
    ⟨fun ⟨source, listens, same⟩ => listens.trans (congrArg some (Fin.ext same)),
      fun listens => ⟨id, listens, rfl⟩⟩

lemma Shows.detachAural (shown : raw.Shows cog) (id : Fin 8) :
    (raw.detachAural id.val).Shows (cog.withVideo (·.detachAural id)) := by
  rw [RawCog.detachAural, if_congr (shown.listens_iff id) rfl rfl]
  obtain ⟨inRange, run, fields, rfl⟩ := shown
  refine ⟨inRange.withVideo (inRange.pins.same (.detachAural _ id)), run, fields, ?_⟩
  simp only [Cog.raw, CogBody.raw, Cog.withVideo, Video.detachAural]
  split <;> rfl

lemma Shows.auralEdge (shown : raw.Shows cog) (id : Fin 8) (level : Bool) :
    (raw.auralEdge id.val level).Shows
      (if cog.body.video.auralSource = some id
        then cog.withVideo (·.auralEdge level) else cog) := by
  rw [RawCog.auralEdge, if_congr (shown.listens_iff id) rfl rfl]
  split
  · exact shown.withVideo (Video.ignoresSource_auralEdge level)
      (shown.inRange.pins.same (.auralEdge _ level))
  · exact shown

lemma Shows.carrierEdge (shown : raw.Shows cog) (level : Bool) :
    (raw.withVideo (·.carrierEdge level)).Shows (cog.withVideo (·.carrierEdge level)) :=
  shown.withVideo (Video.ignoresSource_carrierEdge level)
    (shown.inRange.pins.same (.carrierEdge _ level))

lemma Shows.setBreakpoint (shown : raw.Shows cog) (breakpoint? : Option UInt32) :
    (raw.setBreakpoint breakpoint?).Shows (cog.setBreakpoint breakpoint?) :=
  shown.withParts _ ⟨rfl, rfl, rfl, rfl⟩

variable [Timebase τ]

/-! ### Clocks -/

lemma Shows.setCoreFrequency (shown : raw.Shows cog) (frequency : UInt32) :
    (raw.setCoreFrequency frequency).Shows (cog.setCoreFrequency frequency) :=
  shown.withParts _ ⟨rfl, rfl, rfl, rfl⟩

lemma Shows.timeLeft (shown : raw.Shows cog) : raw.timeLeft = cog.timeLeft := by
  obtain ⟨-, run, -, rfl⟩ := shown
  rfl

lemma Shows.edges (shown : raw.Shows cog) (elapsed : τ) :
    (raw.advance elapsed).1 = (cog.advance elapsed).1 := by
  obtain ⟨-, run, -, rfl⟩ := shown
  rfl

lemma Shows.advance (shown : raw.Shows cog) (elapsed : τ) :
    (raw.advance elapsed).2.Shows (cog.advance elapsed).2 :=
  shown.withParts (fun body => { body with plls := (body.plls.advance elapsed).2 })
    ⟨rfl, rfl, rfl, rfl⟩

/-! ### Loading -/

/-- **A new cog** has a place for its parameter, and its count is at the first long. -/
theorem new?_shows (id : Fin 8) (kind : EngineKind) (program parameter coreFrequency : UInt32) :
    Yields (new? (τ := τ) id.val kind program parameter coreFrequency)
      (·.Shows (.new (UInt32.ofNat id.val) kind program parameter coreFrequency)) := by
  let blank : CogBody τ := .new (UInt32.ofNat id.val) program 0 coreFrequency
  let loading : Cog τ := .new (UInt32.ofNat id.val) kind program parameter coreFrequency
  have placed : blank.setCell SpecialRegister.par.address parameter = loading.body := by
    show { blank with memory := blank.memory.set 0x1F0 parameter } = _
    exact congrArg (fun memory => { blank with memory }) (Vector.set_set ..)
  have written := blank.setNamedCell?_raw .new (SpecialRegister.address_lt .par) parameter
  rw [placed] at written
  refine ⟨loading.raw .new, ?_, Cog.inRange_new .., .new, RunFields.shows_new, rfl⟩
  exact congrArg (·.bind fun body => some (⟨body, .new kind⟩ : RawCog τ)) written

omit [Timebase τ] in
/-- The engine starts, whatever the count is. -/
lemma boot?_shows (run : RunFields) (hub : Hub) (inRange : cog.InRange) :
    ∃ raw, (cog.raw run).boot? hub.raw = some (raw, (cog.boot hub).2.raw)
      ∧ raw.Shows (cog.boot hub).1 := by
  have booted := inRange.boot hub
  rcases cog with ⟨body, native | frames⟩
  · refine ⟨⟨(native.boot body).2.raw (run.withMode .execute), .native (native.boot body).1⟩, ?_,
      booted, _, .execute _ _, rfl⟩
    simp only [boot?, Cog.raw, native.boot?_raw, Option.bind_eq_bind, Option.bind_some]
    rfl
  · let machine := SpinFrames.boot body hub
    let started := run.withClocks .bootInterpreter SpinFrames.bootClocks
    have counts : started.Shows machine.body.state :=
      run.shows_enter (show (RunState.booting SpinFrames.bootClocks).left < 2 ^ 32 by decide)
    refine ⟨⟨machine.body.raw started, .interpreted machine.frames⟩, ?_, booted, _, counts, rfl⟩
    simp only [boot?, Cog.raw, body.bootInterpreter?_raw, Option.bind_eq_bind, Option.bind_some]
    rfl

omit [Timebase τ] in
/-- One more long is loaded, or the engine starts. -/
lemma load?_shows (next : Fin programLongs) (later : RunMode) (hub : Hub) (inRange : cog.InRange) :
    ∃ raw, (cog.raw ⟨.loadProgram, .ofNat next.val, later⟩).load? hub.raw
        = some (raw, (cog.load hub next).2.raw)
      ∧ raw.Shows (cog.load hub next).1 := by
  let counted : RunFields := ⟨.loadProgram, .ofNat ((next.val + 1) % programLongs), later⟩
  have kept : Cog.InRange ⟨(cog.body.loadNext hub next).2, cog.engine⟩ :=
    CogBody.InRange.loadNext inRange hub next
  have long := cog.body.loadNext?_raw hub next later
  have fields := cog.body.shows_loadNext hub next later
  simp only [load?, Cog.raw, Cog.load, long, Option.bind_eq_bind, Option.bind_some]
  revert kept fields
  rcases cog.body.loadNext hub next with ⟨_ | _, body⟩ <;> intro kept fields
  · exact ⟨_, rfl, kept, counted, fields rfl, rfl⟩
  · exact boot?_shows counted hub kept

/-- **A turn on the hub** is refused nothing, whether the cog loads its program or asks for
something. -/
theorem Shows.hubAccess? (shown : raw.Shows cog) (hub : Hub) :
    ∃ raw', raw.hubAccess? hub.raw = some (raw', (cog.hubAccess hub).2.raw)
      ∧ raw'.Shows (cog.hubAccess hub).1 := by
  have after := shown.inRange.hubAccess hub
  obtain ⟨inRange, run, fields, rfl⟩ := shown
  let counted : Cog τ :=
    { cog with body := { cog.body with hubAccesses := cog.body.hubAccesses + 1 } }
  have same : (cog.raw run).withParts
      (fun parts => { parts with hubAccesses := parts.hubAccesses + 1 }) = counted.raw run := rfl
  rw [RawCog.hubAccess?, same]
  by_cases loads : run.mode = .loadProgram
  · obtain ⟨next, state⟩ := RunState.mode_eq_loadProgram (fields.mode_eq ▸ loads)
    have turn : cog.hubAccess hub = counted.load hub next := by
      simp only [Cog.hubAccess, Cog.load, counted, state]
    have inRange : counted.InRange := ⟨inRange.pc, inRange.state, inRange.pins⟩
    rw [state] at fields
    cases fields with
    | loadProgram next later =>
    rw [turn]
    exact load?_shows next later hub inRange
  · have loaded (next : Fin programLongs) : cog.body.state ≠ .loadProgram next := fun state =>
      loads (fields.mode_eq.trans (congrArg RunState.mode state))
    have running : (counted.raw run).body.run.mode ≠ .loadProgram := loads
    rw [if_neg running]
    rcases cog with ⟨body, native | frames⟩
    · rw [Cog.hubAccess_native loaded hub native] at after ⊢
      obtain ⟨raw, accessed, run', shown', rfl⟩ :=
        native.hubAccess?_shows counted.body hub (.mk fields)
      refine ⟨⟨_, _⟩, ?_, after, run', shown', rfl⟩
      exact congrArg (·.bind fun done =>
        some (RawCog.mk done.2.1 (.native done.1), done.2.2)) accessed
    · rw [Cog.hubAccess_interpreted loaded hub frames] at after ⊢
      exact ⟨_, rfl, after, run, fields, rfl⟩

/-! ### Steps -/

lemma Shows.stepEngine? (shown : raw.Shows cog) (hub : Hub) :
    ∃ raw', raw.stepEngine? hub.raw
        = some ((cog.stepEngine hub).1, raw', (cog.stepEngine hub).2.2.raw)
      ∧ raw'.Shows (cog.stepEngine hub).2.1 := by
  have after := shown.inRange.stepEngine hub
  obtain ⟨inRange, run, fields, rfl⟩ := shown
  rcases cog with ⟨body, native | frames⟩
  · obtain ⟨raw, stepped, run', shown', rfl⟩ := native.step?_shows body hub (.mk fields)
    refine ⟨⟨_, _⟩, ?_, after, run', shown', rfl⟩
    exact congrArg (·.bind fun done =>
      some (done.1, RawCog.mk done.2.2 (.native done.2.1), hub.raw)) stepped
  · obtain ⟨raw, stepped, run', shown', rfl⟩ :=
      SpinMachine.step?_shows { frames, body, hub } (.mk fields)
    refine ⟨⟨_, _⟩, ?_, after, run', shown', rfl⟩
    exact congrArg (·.bind fun done =>
      some (done.1, RawCog.mk done.2.body (.interpreted done.2.frames), done.2.hub)) stepped

omit [Timebase τ] in
lemma Shows.checkBreaks (shown : raw.Shows cog) (frameBreak : FrameBreak) (started : Bool) :
    (raw.checkBreaks frameBreak started).1 = (cog.checkBreaks frameBreak started).1
      ∧ (raw.checkBreaks frameBreak started).2.Shows (cog.checkBreaks frameBreak started).2 := by
  have cleared := shown.withParts (fun body => { body with frameFlag := .none })
    ⟨rfl, rfl, rfl, rfl⟩
  have whole := shown
  obtain ⟨-, run, -, rfl⟩ := shown
  have flag : (cog.raw run).body.parts.frameFlag = cog.body.frameFlag := rfl
  simp only [RawCog.checkBreaks, Cog.checkBreaks, flag]
  split
  · exact ⟨rfl, cleared⟩
  · exact ⟨rfl, whole⟩

/-- **A clock of a cog** is refused nothing, whatever it executes. -/
theorem Shows.step? (shown : raw.Shows cog) (hub : Hub) (frameBreak : FrameBreak) :
    ∃ raw', raw.step? hub.raw frameBreak
        = some ((cog.step hub frameBreak).1, raw', (cog.step hub frameBreak).2.2.raw)
      ∧ raw'.Shows (cog.step hub frameBreak).2.1 := by
  obtain ⟨raw', stepped, shown'⟩ := shown.stepEngine? hub
  simp only [RawCog.step?, Cog.step, stepped, Option.bind_eq_bind, Option.bind_some]
  revert shown'
  rcases cog.stepEngine hub with ⟨outcome, cog', hub'⟩
  intro shown'
  have ticked := shown'.withParts (·.tickCounters hub'.input)
    ⟨rfl, rfl, rfl, rfl⟩
  cases outcome with
  | error kind =>
    obtain ⟨-, run, -, rfl⟩ := shown'
    exact ⟨_, rfl, ticked⟩
  | ok started =>
    obtain ⟨goesOn, checked⟩ := ticked.checkBreaks frameBreak started
    exact ⟨_, congrArg (fun goesOn => some (Except.ok goesOn, _, hub'.raw)) goesOn, checked⟩

/-- **A register** is written, if there is one. -/
lemma Shows.writeRegister? (shown : raw.Shows cog) (running : UInt8) (address value : UInt32) :
    Yields (raw.writeRegister? running address value)
      (·.Shows { cog with body := cog.body.writeRegister running address value }) := by
  obtain ⟨inRange, run, fields, rfl⟩ := shown
  refine ⟨Cog.raw ⟨cog.body.writeRegister running address value, cog.engine⟩ run, ?_,
    CogBody.InRange.writeRegister inRange running address value, run, ?_, rfl⟩
  · have written := cog.body.writeRegister?_raw run running address value
    exact congrArg (·.bind fun body => some (RawCog.mk body cog.engine)) written
  · show run.Shows (cog.body.writeRegister running address value).state
    rw [CogBody.writeRegister_state]
    exact fields

/-! ### The end of a frame -/

/-- **The end of a frame** is refused nothing. -/
theorem Shows.frameComplete? (shown : raw.Shows cog) (running : UInt8) :
    Yields (raw.frameComplete? running) (·.Shows (cog.frameComplete running)) := by
  have after := shown.inRange.frameComplete running
  obtain ⟨inRange, run, fields, rfl⟩ := shown
  rcases cog with ⟨body, native | frames⟩
  · obtain ⟨raw, supplied, run', shown', rfl⟩ := native.supplyVideo?_shows body fields running
    refine ⟨_, ?_, after, run', shown', rfl⟩
    simp only [RawCog.frameComplete?, Cog.raw, supplied, Option.bind_eq_bind, Option.bind_some]
    rfl
  · obtain ⟨supplied, run', shown', same⟩ := SpinMachine.supplyVideo_shows frames fields
    refine ⟨_, ?_, after, run', shown', rfl⟩
    simp only [RawCog.frameComplete?, Cog.raw, supplied, same]
    rfl

/-- **An edge of the pixel clock** finds its color and its pins. -/
theorem Shows.colorEdge? (shown : raw.Shows cog) (running : UInt8) (level : Bool) :
    let colored := cog.body.video.colorEdge level
    let cog := cog.withVideo fun _ => colored.2
    Yields (raw.colorEdge? running level)
      (·.Shows (if colored.1 then cog.frameComplete running else cog)) := by
  intro colored
  have pins : cog.body.video.OnPins := shown.inRange.pins
  have set := shown.setVideo (pins.same (.colorEdge _ level))
    (cog.body.video.auralSource_colorEdge level)
  have colored : raw.body.parts.video.colorEdge? level
      = some ((cog.body.video.colorEdge level).1,
          (cog.body.video.colorEdge level).2.withSource none) := by
    obtain ⟨-, run, -, rfl⟩ := shown
    have same : (cog.raw run).body.parts.video = cog.body.video.withSource none := rfl
    have pins : (cog.body.video.withSource none).OnPins := pins
    rw [same, Video.colorEdge?_eq pins, Video.colorEdge_withSource]
  simp only [RawCog.colorEdge?, colored, Option.bind_eq_bind, Option.bind_some]
  split
  · exact set.frameComplete? running
  · exact ⟨_, rfl, set⟩

end RawCog

end P1Chip
