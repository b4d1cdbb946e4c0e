import P1Chip.Proofs.Chip.Action
import P1Chip.Proofs.Chip.Bare
import P1Chip.Proofs.Cog.Registers

/-!
# How a program begins

After a program was loaded only the first cog runs.  It copies the interpreter out of hub memory, a
long for each turn on the hub, and it has a turn every sixteen system clocks.  Nothing can disturb
it meanwhile: the other slots are empty, the queue of the hub is empty, and a cog that loads does
not react to clocks, pins or video frames.  With the last long the interpreter boots from the frame
that was built from the header.

Hence there is one invariant, with the position of the ring and the number of longs as parameters,
and of all that happens in a system clock only two things matter to it: the ring moves on, and at
position 0 the first cog has its turn.

* `Cog.Loads` — a cog that copies the interpreter; `Cog.Boots` — one that has just started it.
* `Chip.Alone` — only the first cog runs, and nothing waits in the queue.
* `Chip.Alone.advanceClocks`, `Chip.Alone.stepCogs` — time that passes and the clocks of the cogs
  leave a loading cog as it is.
* **`Chip.Alone.step`**, **`Chip.Alone.step_round`** — a system clock while the cog loads.
* **`Chip.Alone.steps`** — any number of them.
* **`Chip.begins_of_load`** — 7936 system clocks after loading the program is about to begin.
-/

namespace P1Chip

/-! ## The ring -/

namespace Hub

variable {hub : Hub}

/-- The first cog has its turn when the ring is round. -/
lemma turn_of_round (round : hub.ring.val = 15) : hub.advanceRing.1 = some 0 := by
  simp only [advanceRing]
  generalize hub.ring = ring at round ⊢
  revert ring
  decide

/-- Before that it has none. -/
lemma turn_ne_of_lt (before : hub.ring.val + 1 < 16) : hub.advanceRing.1 ≠ some 0 := by
  simp only [advanceRing]
  generalize hub.ring = ring at before ⊢
  revert ring
  decide

end Hub

variable {τ π : Type} [Timebase τ]

/-! ## Cogs that load -/

namespace Cog

/-- A cog that copies the interpreter and has got some longs of it; `frame` is in its parameter
register. -/
structure Loads (frame : UInt32) (longs : Nat) (cog : Cog τ) : Prop where
  engine : cog.engine.kind = .interpreted
  state : ∃ next, cog.body.state = .loadProgram next ∧ next.val = longs
  parameter : cog.body.cell SpecialRegister.par.address = frame

/-- A cog whose interpreter is about to begin with the first method of a program. -/
structure Boots (header : ImageHeader) (cog : Cog τ) : Prop where
  state : cog.body.state = .booting SpinFrames.bootClocks
  pc : cog.body.pc = header.programCounter.toUInt32
  frames : ∃ frames, cog.engine = .interpreted frames ∧
    frames.object = header.objectBase.toUInt32 ∧ frames.vars = header.variableBase.toUInt32 ∧
    frames.locals = header.frame - 4 ∧ frames.stack = header.stackPointer.toUInt32 - 4

variable {cog : Cog τ} {frame : UInt32} {longs : Nat}

lemma loads_new (id program parameter coreFrequency : UInt32) :
    (new id .interpreted program parameter coreFrequency : Cog τ).Loads parameter 0 where
  engine := rfl
  state := ⟨0, rfl, rfl⟩
  parameter := by
    show ((Vector.replicate cogLongs 0).set 0x1F0 parameter)[0x1F0] = parameter
    exact Vector.getElem_set_self _

lemma Loads.advance (loads : cog.Loads frame longs) (elapsed : τ) :
    (cog.advance elapsed).2.Loads frame longs :=
  ⟨loads.engine, loads.state, loads.parameter⟩

omit [Timebase τ] in
lemma Loads.withVideo (loads : cog.Loads frame longs) (change : Video → Video) :
    (cog.withVideo change).Loads frame longs :=
  ⟨loads.engine, loads.state, loads.parameter⟩

/-- It does not wait for the video generator. -/
lemma Loads.frameComplete (loads : cog.Loads frame longs) (running : UInt8) :
    (cog.frameComplete running).Loads frame longs := by
  obtain ⟨next, state, -⟩ := loads.state
  rw [frameComplete_of_busy fun waits => by cases state.symm.trans waits]
  exact ⟨loads.engine, loads.state, loads.parameter⟩

/-- Its clock is for the counters only. -/
lemma Loads.step (loads : cog.Loads frame longs) (hub : Hub) (frameBreak : FrameBreak) :
    (cog.step hub frameBreak).2.1.Loads frame longs ∧ (cog.step hub frameBreak).2.2 = hub := by
  obtain ⟨next, state, -⟩ := loads.state
  simp only [Cog.step, stepEngine_of_loading state, checkBreaks]
  split <;> exact ⟨⟨loads.engine, loads.state, loads.parameter⟩, trivial⟩

omit [Timebase τ] in
/-- The program does not reach up to the parameter register. -/
lemma cell_par_withNext (body : CogBody τ) (hub : Hub) (next : Fin programLongs) :
    (body.withNext hub next).cell SpecialRegister.par.address
      = body.cell SpecialRegister.par.address := by
  refine CogBody.cell_setCell_of_ne body ?_ _
  rw [CogBody.toNat_position]
  exact Nat.ne_of_gt next.isLt

/-- At its turn on the hub it copies a long. -/
lemma Loads.hubAccess (loads : cog.Loads frame longs) (more : longs + 1 < programLongs)
    (hub : Hub) :
    (cog.hubAccess hub).1.Loads frame (longs + 1) ∧ (cog.hubAccess hub).2 = hub := by
  obtain ⟨engine, ⟨next, state, rfl⟩, parameter⟩ := loads
  rw [hubAccess_of_loading state, dif_pos more]
  exact ⟨⟨engine, ⟨⟨next.val + 1, more⟩, rfl, rfl⟩, (cell_par_withNext ..).trans parameter⟩, rfl⟩

omit [Timebase τ] in
/-- The interpreter starts from the frame that is in hub memory. -/
lemma boots_boot {header : ImageHeader} {body : CogBody τ} {hub : Hub} (frames : SpinFrames)
    (parameter : body.cell SpecialRegister.par.address = header.frame)
    (frame : hub.memory.BootFrame header) :
    (boot ⟨body, .interpreted frames⟩ hub).1.Boots header ∧
      (boot ⟨body, .interpreted frames⟩ hub).2
        = { hub with memory := hub.memory.withFirstResult header } := by
  have start : body.cell SpecialRegister.par.address &&& 0xFFFF = header.frame := by
    rw [parameter, header.frame_and]
  simp only [boot, SpinFrames.boot, start, frame.object, frame.vars, frame.pc, frame.stack]
  exact ⟨⟨rfl, rfl, _, rfl, rfl, rfl, rfl, rfl⟩, rfl⟩

/-- With the last long the interpreter starts. -/
lemma Loads.hubAccess_last {header : ImageHeader} (loads : cog.Loads header.frame longs)
    (last : longs + 1 = programLongs) {hub : Hub} (frame : hub.memory.BootFrame header) :
    (cog.hubAccess hub).1.Boots header ∧
      (cog.hubAccess hub).2 = { hub with memory := hub.memory.withFirstResult header } := by
  obtain ⟨engine, ⟨next, state, rfl⟩, parameter⟩ := loads
  rw [hubAccess_of_loading state, dif_neg (Nat.not_lt.mpr (Nat.le_of_eq last.symm))]
  rcases cog with ⟨body, native | frames⟩
  · cases engine
  · exact boots_boot frames ((cell_par_withNext ..).trans parameter) frame

end Cog

namespace Chip

variable [Plugin τ π] {chip : Chip τ π} {holds next : Cog τ → Prop} {content : Memory}
  {position longs : Nat} {frame : UInt32}

/-- Only the first cog runs, no request waits, and no plugin is there.  `holds` says what the cog
is doing, `content` is what hub memory holds, and `position` is where the ring stands. -/
structure Alone (holds : Cog τ → Prop) (content : Memory) (position : Nat) (chip : Chip τ π) :
    Prop where
  bare : chip.Bare
  memory : chip.hub.memory = content
  ring : chip.hub.ring.val = position
  queue : chip.hub.queue = []
  running : chip.hub.running = 1
  first : ∃ cog, chip.cogs.get 0 = some cog ∧ holds cog
  others : ∀ id, id ≠ 0 → chip.cogs.get id = none

namespace Alone

omit [Plugin τ π] [Timebase τ] in
/-- Nothing else of a chip matters. -/
lemma congr {other : Chip τ π} (alone : chip.Alone holds content position)
    (plugins : other.plugins = chip.plugins) (cogs : other.cogs = chip.cogs)
    (memory : other.hub.memory = chip.hub.memory) (ring : other.hub.ring = chip.hub.ring)
    (queue : other.hub.queue = chip.hub.queue) (running : other.hub.running = chip.hub.running) :
    other.Alone holds content position where
  bare := by
    rw [Bare, plugins]
    exact alone.bare
  memory := memory.trans alone.memory
  ring := ring ▸ alone.ring
  queue := queue.trans alone.queue
  running := running.trans alone.running
  first := cogs ▸ alone.first
  others := cogs ▸ alone.others

omit [Plugin τ π] [Timebase τ] in
/-- A cog that is found in some slot is the first one. -/
lemma of_get (alone : chip.Alone holds content position) {id : Fin 8} {cog : Cog τ}
    (there : chip.cogs.get id = some cog) : id = 0 ∧ holds cog := by
  by_cases zero : id = 0
  · subst zero
    obtain ⟨_, same, h⟩ := alone.first
    cases there.symm.trans same
    exact ⟨rfl, h⟩
  · cases there.symm.trans (alone.others id zero)

omit [Plugin τ π] [Timebase τ] in
/-- It may do something else, and change memory. -/
lemma putCog (alone : chip.Alone holds content position) {id : Fin 8} {cog cog' : Cog τ}
    (there : chip.cogs.get id = some cog) (h : next cog') (memory : Memory) :
    ({ chip with hub := { chip.hub with memory } }.putCog id cog').Alone next memory position where
  bare := alone.bare
  memory := rfl
  ring := alone.ring
  queue := alone.queue
  running := alone.running
  first := ⟨cog', by rw [get_putCog, if_pos (alone.of_get there).1.symm], h⟩
  others := by
    intro other ne
    rw [get_putCog, (alone.of_get there).1, if_neg ne]
    exact alone.others other ne

omit [Plugin τ π] [Timebase τ] in
lemma change (alone : chip.Alone holds content position) {id : Fin 8} {cog cog' : Cog τ}
    (there : chip.cogs.get id = some cog) (h : next cog') :
    (chip.putCog id cog').Alone next content position := by
  cases alone.memory
  exact alone.putCog there h chip.hub.memory

/-! ## Time -/

/-- Time that passes changes nothing that matters to a cog that loads. -/
lemma clockAction {before after : Chip τ π}
    (alone : before.Alone (Cog.Loads frame longs) content position)
    (action : ClockAction before after) :
    after.Alone (Cog.Loads frame longs) content position := by
  cases action with
  | loops there elapsed => exact alone.change there ((alone.of_get there).2.advance elapsed)
  | pixel there level => exact alone.change there ((alone.of_get there).2.withVideo _)
  | frame there => exact alone.change there ((alone.of_get there).2.frameComplete _)
  | carrier there level => exact alone.change there ((alone.of_get there).2.withVideo _)
  | aural id level =>
    obtain ⟨cog, there, loads⟩ := alone.first
    refine ⟨alone.bare, alone.memory, alone.ring, alone.queue, alone.running, ?_, fun other ne => ?_⟩
    · rw [get_mapCogs, there, Option.map_some]
      refine ⟨_, rfl, ?_⟩
      split
      · exact loads.withVideo _
      · exact loads
    · rw [get_mapCogs, alone.others other ne, Option.map_none]
  | tell =>
    rw [alone.bare.tell]
    exact alone.congr rfl rfl rfl rfl rfl rfl
  | _ => exact alone.congr rfl rfl rfl rfl rfl rfl

lemma advanceClocks (alone : chip.Alone (Cog.Loads frame longs) content position) :
    chip.advanceClocks.Alone (Cog.Loads frame longs) content position := by
  have actions := chip.clockActions_advanceClocks
  generalize chip.advanceClocks = after at actions ⊢
  induction actions with
  | refl => exact alone
  | tail _ last ih => exact ih.clockAction last

/-! ## Cogs -/

/-- There is nothing in the queue to be carried out. -/
lemma applyActions (alone : chip.Alone holds content position) :
    chip.applyActions.Alone holds content position := by
  have idle : chip.applyActions = { chip with hub := { chip.hub with queue := [] } } := by
    simp only [Chip.applyActions, Hub.takeActions, alone.queue, perform]
  rw [idle]
  exact alone.congr rfl rfl rfl rfl alone.queue.symm rfl

lemma stepCog (alone : chip.Alone (Cog.Loads frame longs) content position) (id : Fin 8) :
    (chip.stepCog id).2.Alone (Cog.Loads frame longs) content position := by
  rw [Chip.stepCog, takeCog_eq]
  cases there : chip.cogs.get id with
  | none =>
    rw [takeCog_of_none there]
    exact alone.applyActions
  | some cog =>
    obtain ⟨loads, same⟩ := (alone.of_get there).2.step chip.hub chip.frameBreak
    have stepped :
        ({ chip with hub := (cog.step chip.hub chip.frameBreak).2.2 }.putCog id
          (cog.step chip.hub chip.frameBreak).2.1).Alone (Cog.Loads frame longs) content
          position := by
      rw [same]
      exact alone.change there loads
    rw [← putCog_takeCog] at stepped
    exact stepped.applyActions

lemma stepCogs (alone : chip.Alone (Cog.Loads frame longs) content position)
    (slots : List (Fin 8)) :
    (stepCogs slots chip).2.Alone (Cog.Loads frame longs) content position := by
  induction slots generalizing chip with
  | nil => exact alone
  | cons id slots ih => exact ih (alone.stepCog id)

/-- The turn of the first cog. -/
lemma hubTurn (alone : chip.Alone holds content position) {memory : Memory}
    (turn : ∀ cog, holds cog → next (cog.hubAccess chip.hub).1
      ∧ (cog.hubAccess chip.hub).2 = { chip.hub with memory }) :
    (chip.hubTurn 0).Alone next memory position := by
  obtain ⟨cog, there, h⟩ := alone.first
  obtain ⟨after, hub⟩ := turn cog h
  have turned :
      ({ chip with hub := (cog.hubAccess chip.hub).2 }.putCog 0 (cog.hubAccess chip.hub).1).Alone
        next memory position := by
    rw [hub]
    exact alone.putCog there after memory
  rw [← putCog_takeCog] at turned
  rw [Chip.hubTurn, takeCog_eq, there]
  exact turned.applyActions

/-- The turns of the other slots are empty. -/
lemma hubTurn_of_ne (alone : chip.Alone holds content position) {id : Fin 8} (ne : id ≠ 0) :
    (chip.hubTurn id).Alone holds content position := by
  have empty := alone.others id ne
  rw [Chip.hubTurn, takeCog_eq, empty, takeCog_of_none empty]
  exact alone.applyActions

/-! ## System clocks -/

/-- What follows in a system clock when the cogs have run. -/
lemma step_of_stepSlots (alone : chip.advanceClocks.stepSlots.Alone holds content position) :
    chip.step.2.Alone holds content position := by
  have told {chip : Chip τ π} (alone : chip.Alone holds content position) :
      chip.notifyPins.Alone holds content position := by
    rw [alone.bare.notifyPins]
    exact alone.congr rfl rfl rfl rfl rfl rfl
  have counted {chip : Chip τ π} (alone : chip.Alone holds content position) :
      chip.countClock.Alone holds content position := by
    rw [alone.bare.countClock]
    exact alone.congr rfl rfl rfl rfl rfl rfl
  rw [step_eq]
  exact told (counted (told alone))

/-- The cogs have their clock after the ring has moved on. -/
lemma stepRing (alone : chip.Alone (Cog.Loads frame longs) content position) :
    (Chip.stepCogs slots { chip with hub := chip.hub.advanceRing.2 }).2.Alone
      (Cog.Loads frame longs) content ((position + 1) % 16) := by
  have moved : ({ chip with hub := chip.hub.advanceRing.2 } : Chip τ π).Alone
      (Cog.Loads frame longs) content ((position + 1) % 16) := by
    refine ⟨alone.bare, alone.memory, ?_, alone.queue, alone.running, alone.first, alone.others⟩
    rw [← alone.ring]
    rfl
  exact moved.stepCogs slots

/-- **A system clock before the ring is round** brings the loading cog nothing. -/
theorem step (alone : chip.Alone (Cog.Loads frame longs) content position)
    (before : position + 1 < 16) :
    chip.step.2.Alone (Cog.Loads frame longs) content (position + 1) := by
  have clocked := alone.advanceClocks
  have others : chip.advanceClocks.hub.advanceRing.1 ≠ some 0 :=
    Hub.turn_ne_of_lt (clocked.ring.symm ▸ before)
  have stepped := clocked.stepRing
  rw [Nat.mod_eq_of_lt before] at stepped
  refine step_of_stepSlots ?_
  rw [stepSlots]
  cases turn : chip.advanceClocks.hub.advanceRing.1 with
  | none =>
    rw [Option.elim_none]
    exact stepped
  | some id =>
    rw [Option.elim_some]
    refine stepped.hubTurn_of_ne fun zero => others ?_
    rw [turn, zero]

/-- **When the ring is round** the first cog has its turn. -/
theorem step_round (alone : chip.Alone (Cog.Loads frame longs) content 15) {memory : Memory}
    (turn : ∀ (cog : Cog τ) (hub : Hub), cog.Loads frame longs → hub.memory = content →
      next (cog.hubAccess hub).1 ∧ (cog.hubAccess hub).2 = { hub with memory }) :
    chip.step.2.Alone next memory 0 := by
  have clocked := alone.advanceClocks
  have stepped := clocked.stepRing
  refine step_of_stepSlots ?_
  rw [stepSlots, Hub.turn_of_round clocked.ring, Option.elim_some]
  exact stepped.hubTurn fun cog loads => turn cog _ loads stepped.memory

/-- In that turn it copies a long. -/
lemma step_long (alone : chip.Alone (Cog.Loads frame longs) content 15)
    (more : longs + 1 < programLongs) :
    chip.step.2.Alone (Cog.Loads frame (longs + 1)) content 0 := by
  refine alone.step_round fun cog hub loads same => ?_
  obtain ⟨loads, kept⟩ := loads.hubAccess more hub
  exact ⟨loads, by rw [kept, ← same]⟩

/-- The last long starts the interpreter. -/
lemma step_last {header : ImageHeader}
    (alone : chip.Alone (Cog.Loads header.frame longs) content 15)
    (last : longs + 1 = programLongs) (frame : content.BootFrame header) :
    chip.step.2.Alone (Cog.Boots header) (content.withFirstResult header) 0 := by
  refine alone.step_round fun cog hub loads same => ?_
  subst same
  exact loads.hubAccess_last last frame

/-- **The loading cog after any number of system clocks** that do not suffice for all longs. -/
theorem steps (alone : chip.Alone (Cog.Loads frame 0) content 0) {n : Nat}
    (few : n < 16 * programLongs) :
    (chip.run (List.replicate n .step)).Alone (Cog.Loads frame (n / 16)) content (n % 16) := by
  -- the ring stands at `n % 16`, and each time that it came round a long was copied
  induction n with
  | zero => exact alone
  | succ n ih =>
    have before := ih (Nat.lt_of_succ_lt few)
    rw [List.replicate_succ', run_concat]
    by_cases round : n % 16 = 15
    · rw [round] at before
      have after := before.step_long (by omega)
      rwa [show (n + 1) / 16 = n / 16 + 1 by omega, show (n + 1) % 16 = 0 by omega]
    · have after := before.step (by omega)
      rwa [show (n + 1) / 16 = n / 16 by omega, show (n + 1) % 16 = n % 16 + 1 by omega]

end Alone

/-! ## From the image to the first bytecode -/

omit [Plugin τ π] in
/-- A program that was just started is about to be loaded into the first cog. -/
lemma alone_started {memory : Memory} {mode : ClockMode} {crystal : UInt32}
    {floating high : UInt64} {plugins : PluginSet π} {frameBreak : FrameBreak}
    (none : plugins.isEmpty) :
    (started memory mode crystal floating high plugins frameBreak : Chip τ π).Alone
      (Cog.Loads memory.header.frame 0) memory.withBootFrame 0 where
  bare := none
  memory := rfl
  ring := rfl
  queue := rfl
  running := rfl
  first := ⟨_, (Vector.getElem_ofFn _).trans (if_pos rfl), Cog.loads_new ..⟩
  others := fun id ne =>
    (Vector.getElem_ofFn id.isLt).trans (if_neg fun zero => ne (Fin.ext zero))

/-- The chip when the interpreter is about to begin with the first method of a program. -/
structure Begins (header : ImageHeader) (chip : Chip τ π) : Prop where
  running : chip.hub.running = 1
  others : ∀ id, id ≠ 0 → chip.cogs.get id = none
  first : ∃ cog, chip.cogs.get 0 = some cog ∧ cog.Boots header
  /-- The long below the result of the first method. -/
  below : chip.hub.memory.readLong (header.frame - 8) = 0xFFFFFFFF
  result : chip.hub.memory.readLong (header.frame - 4) = 0

/-- With the last system clock of loading the program begins. -/
lemma Alone.begins {header : ImageHeader} (low : 8 ≤ header.bootFrame.toNat)
    (high : header.bootFrame.toNat ≤ halfSize)
    (alone : chip.Alone (Cog.Loads header.frame longs) content 15)
    (last : longs + 1 = programLongs) (frame : content.BootFrame header) :
    (chip.apply .step).Begins header := by
  have after := alone.step_last last frame
  obtain ⟨below, result⟩ := content.readLong_withFirstResult low high
  rw [← after.memory] at below result
  have begins : chip.step.2.Begins header :=
    ⟨after.running, after.others, after.first, below, result⟩
  exact begins

/-- **The program begins as its header asks**, after 7936 system clocks, which are 496 turns of the
first cog.  Until then that cog is loading the interpreter, one long at a turn. -/
theorem begins_of_load (bare : chip.Bare) {image : ByteArray} (nonempty : 0 < image.size)
    (fits : image.size ≤ halfSize) (low : 24 ≤ (ImageHeader.ofImage image).bootFrame.toNat)
    (high : (ImageHeader.ofImage image).bootFrame.toNat ≤ halfSize) :
    ∃ loaded, chip.load image = .ok loaded ∧
      (∀ n < 7936, ∃ cog next, (loaded.run (List.replicate n .step)).cogs.get 0 = some cog ∧
        cog.body.state = .loadProgram next ∧ next.val = n / 16) ∧
      (loaded.run (List.replicate 7936 .step)).Begins (ImageHeader.ofImage image) := by
  generalize asked : ImageHeader.ofImage image = header at low high
  let memory := chip.hub.memory.programmed image
  have named : memory.header = header := by
    rw [← asked]
    exact Memory.header_programmed _ (asked.symm ▸ low)
  have enough : 8 ≤ header.bootFrame.toNat := Nat.le_trans (by decide) low
  have frame : memory.withBootFrame.BootFrame header :=
    named ▸ Memory.bootFrame_withBootFrame (named.symm ▸ enough) (named.symm ▸ high)
  obtain ⟨loaded, ok, start⟩ : ∃ loaded, chip.load image = .ok loaded ∧
      loaded.Alone (Cog.Loads header.frame 0) memory.withBootFrame 0 :=
    ⟨_, bare.load nonempty fits, named ▸ alone_started bare⟩
  refine ⟨loaded, ok, fun n few => ?_, ?_⟩
  · obtain ⟨cog, there, loads⟩ := (start.steps few).first
    obtain ⟨next, state, count⟩ := loads.state
    exact ⟨cog, next, there, state, count⟩
  · -- the last system clock is one in which the ring comes round
    have before := start.steps (show 7935 < 16 * programLongs by decide)
    rw [show 7936 = 7935 + 1 from rfl, List.replicate_succ', run_concat]
    exact before.begins enough high rfl frame

/-- The image of such a program: it consists of a header whose frame stands right behind it, at an
odd address. -/
def oddProgram : ByteArray :=
  ⟨#[0x00, 0x1B, 0xB7, 0x00, 0x00, 0, 0x10, 0, 0x18, 0, 0x19, 0, 0x18, 0, 0x20, 0]⟩

/-- It begins on a chip that was just switched on. -/
theorem begins_oddProgram :
    ∃ loaded, (switchedOn blankMemory : Chip Rat Empty).load oddProgram = .ok loaded ∧
      (∀ n < 7936, ∃ cog next, (loaded.run (List.replicate n .step)).cogs.get 0 = some cog ∧
        cog.body.state = .loadProgram next ∧ next.val = n / 16) ∧
      (loaded.run (List.replicate 7936 .step)).Begins (ImageHeader.ofImage oddProgram) := by
  have bare : (switchedOn blankMemory : Chip Rat Empty).Bare := rfl
  exact begins_of_load bare (by decide) (by decide) (by decide) (by decide)

end Chip

end P1Chip
