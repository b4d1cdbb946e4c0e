import P1Chip.Proofs.Chip.OneSlot

/-!
# Up to the first instruction

A cog that nobody disturbs is at its first instruction some clocks after its start, and that is
sooner than a chip stops waiting for an instruction.  In an empty chip nobody can disturb it: a cog
that starts asks for nothing.

* `Chip.IsStarting` — the clocks that are left for the cog in a slot.
* `Chip.IsLeftAlone` — no request concerns that cog.
* **`Chip.IsStarting.step`** — each step is one clock less.
* **`Chip.IsStarting.stepWhileBusy`** — the chip steps until none is left.
* `Chip.IsAlone` — no other slot has a cog.
* **`Chip.IsAlone.isLeftAlone`** — then nothing disturbs the cog.
* **`Chip.loads_and_starts`** — a cog from its start to its first instruction.
-/

namespace P1Chip.Chip

variable {τ π : Type} [Timebase τ] [Plugin τ π]

/-! ## Many steps -/

/-- In a slot there is a cog that needs some clocks up to its first instruction. -/
def IsStarting (id : Fin 8) (clocks : Nat) (chip : Chip τ π) : Prop :=
  ∃ ring stage, chip.Stands id ring stage ∧ StartsIn (Hub.clocksToTurn ring id) stage clocks

/-- Nothing that is asked for concerns the cog in a slot, in as many steps as the chip makes up to
the next instruction of that cog. -/
def IsLeftAlone (id : Fin 8) : Nat → Chip τ π → Prop
  | 0, _ => True
  | limit + 1, chip =>
    (∀ request ∈ chip.stepRequests, ¬ request.Concerns id) ∧
      (chip.step.1 = .ok true → chip.step.2.isBusy id → chip.step.2.IsLeftAlone id limit)

variable {chip : Chip τ π} {id : Fin 8} {clocks limit : Nat}

/-- Whether another step follows the first one. -/
lemma stepWhileBusy_succ (chip : Chip τ π) (id limit : Nat) :
    stepWhileBusy id (limit + 1) chip
      = if chip.step.1 = .ok true ∧ chip.step.2.isBusy id then stepWhileBusy id limit chip.step.2
        else chip.step := by
  rw [stepWhileBusy]
  rcases chip.step with ⟨⟨_⟩ | ⟨_ | _⟩, after⟩
  · exact (if_neg fun both => by cases both.1).symm
  · exact (if_neg fun both => by cases both.1).symm
  · simp only [true_and]

lemma run_replicate_succ (chip : Chip τ π) (n : Nat) :
    chip.run (List.replicate (n + 1) .step) = chip.step.2.run (List.replicate n .step) := by
  rw [run, List.replicate_succ, List.foldl_cons]
  rfl

namespace IsStarting

/-- **Each step is one clock less.** -/
theorem step (starting : chip.IsStarting id (clocks + 1))
    (others : ∀ request ∈ chip.stepRequests, ¬ request.Concerns id) :
    chip.step.2.IsStarting id clocks := by
  obtain ⟨ring, stage, stands, starts⟩ := starting
  refine ⟨_, _, stands.step starts others, ?_⟩
  rw [Hub.clocksToTurn_nextRing]
  exact starts.next (Hub.clocksToTurn_pos ring id)

omit [Timebase τ] [Plugin τ π] in
/-- There is an instruction when no clock is left. -/
lemma exists_cog (starting : chip.IsStarting id clocks) :
    ∃ cog, chip.cogs.get id = some cog ∧ cog.body.state.isBoundary = decide (clocks = 0) := by
  obtain ⟨ring, _, ⟨-, cog, there, rfl⟩, starts⟩ := starting
  exact ⟨cog, there, starts.isBoundary_eq (Hub.clocksToTurn_pos ring id)⟩

omit [Timebase τ] [Plugin τ π] in
lemma isBusy_eq (starting : chip.IsStarting id clocks) :
    chip.isBusy id = !decide (clocks = 0) := by
  obtain ⟨cog, there, boundary⟩ := starting.exists_cog
  have named : chip.cog? id = some cog := by
    rw [cog?, dif_pos id.isLt]
    exact there
  rw [isBusy, named, ← boundary]

/-- **The chip steps until the cog is at its first instruction**, or until a break or a fault. -/
theorem stepWhileBusy (starting : chip.IsStarting id (clocks + 1)) (enough : clocks < limit)
    (alone : chip.IsLeftAlone id limit) :
    let result := Chip.stepWhileBusy id limit chip
    ∃ n ≤ clocks + 1, 0 < n ∧ result.2 = chip.run (List.replicate n .step) ∧
      (∀ m < n, (chip.run (List.replicate m .step)).isBusy id) ∧
      (result.1 = .ok true → n = clocks + 1 ∧ result.2.IsStarting id 0) := by
  induction clocks generalizing chip limit with
  | zero =>
    obtain ⟨limit, rfl⟩ := Nat.exists_eq_add_one.mpr enough
    have busy := starting.isBusy_eq
    have next := starting.step alone.1
    have ready : ¬ (chip.step.1 = .ok true ∧ chip.step.2.isBusy id) := by
      rw [next.isBusy_eq]
      exact fun both => nomatch both.2
    rw [stepWhileBusy_succ, if_neg ready]
    refine ⟨1, le_rfl, Nat.one_pos, rfl, fun m before => ?_, fun _ => ⟨rfl, next⟩⟩
    cases Nat.lt_one_iff.mp before
    exact busy
  | succ clocks ih =>
    obtain ⟨limit, rfl⟩ := Nat.exists_eq_add_one.mpr (Nat.zero_lt_of_lt enough)
    have busy := starting.isBusy_eq
    have next := starting.step alone.1
    have waits : chip.step.2.isBusy id := next.isBusy_eq
    rw [stepWhileBusy_succ]
    by_cases goesOn : chip.step.1 = .ok true
    · rw [if_pos ⟨goesOn, waits⟩]
      obtain ⟨n, few, positive, same, before, last⟩ :=
        ih next (Nat.lt_of_succ_lt_succ enough) (alone.2 goesOn waits)
      rw [← run_replicate_succ] at same
      refine ⟨n + 1, Nat.succ_le_succ few, Nat.succ_pos n, same, fun m within => ?_, fun ok => ?_⟩
      · cases m with
        | zero => exact busy
        | succ m =>
          rw [run_replicate_succ]
          exact before m (Nat.lt_of_succ_lt_succ within)
      · obtain ⟨rfl, ready⟩ := last ok
        exact ⟨rfl, ready⟩
    · rw [if_neg fun both => goesOn both.1]
      refine ⟨1, Nat.succ_pos _, Nat.one_pos, rfl, fun m before => ?_, fun ok => absurd ok goesOn⟩
      cases Nat.lt_one_iff.mp before
      exact busy

end IsStarting

/-! ## A cog without others -/

/-- No slot but one has a cog, and no request waits. -/
structure IsAlone (id : Fin 8) (chip : Chip τ π) : Prop where
  others : ∀ slot, slot ≠ id → chip.cogs.get slot = none
  queue : chip.hub.queue = []

namespace IsAlone

variable {slot : Fin 8} {ring : Fin 16} {stage : EngineKind × RunState} {turn : Nat}

omit [Timebase τ] [Plugin τ π] in
lemma congr (alone : chip.IsAlone id) {other : Chip τ π} (cogs : other.cogs = chip.cogs)
    (queue : other.hub.queue = chip.hub.queue) : other.IsAlone id :=
  ⟨fun slot ne => cogs ▸ alone.others slot ne, queue.trans alone.queue⟩

omit [Timebase τ] [Plugin τ π] in
lemma eq_of_get (alone : chip.IsAlone id) {cog : Cog τ} (there : chip.cogs.get slot = some cog) :
    slot = id := by
  by_contra ne
  cases there.symm.trans (alone.others slot ne)

omit [Timebase τ] [Plugin τ π] in
lemma putCog (alone : chip.IsAlone id) (cog : Cog τ) : (chip.putCog id cog).IsAlone id := by
  refine ⟨fun other ne => ?_, alone.queue⟩
  rw [get_putCog, if_neg ne]
  exact alone.others other ne

lemma advanceClocks (alone : chip.IsAlone id) : chip.advanceClocks.IsAlone id := by
  have actions := chip.clockActions_advanceClocks
  generalize chip.advanceClocks = after at actions ⊢
  induction actions with
  | refl => exact alone
  | tail _ last ih =>
    cases last with
    | loops there | pixel there | frame there | carrier there =>
      cases ih.eq_of_get there
      exact ih.putCog _
    | aural source level =>
      refine ⟨fun other ne => ?_, ih.queue⟩
      rw [get_mapCogs, ih.others other ne, Option.map_none]
    | _ => exact ih.congr rfl rfl

lemma notifyPins (alone : chip.IsAlone id) : chip.notifyPins.IsAlone id := by
  rw [notifyPins_eq]
  split <;> exact alone.congr rfl rfl

omit [Timebase τ] in
lemma countClock (alone : chip.IsAlone id) : chip.countClock.IsAlone id :=
  alone.congr rfl rfl

lemma applyActions (alone : chip.IsAlone id) : chip.applyActions = chip :=
  applyActions_of_quiet alone.queue

omit [Plugin τ π] in
/-- Its clock. -/
lemma clockSlot (alone : chip.IsAlone id) (stands : chip.Stands id ring stage)
    (starts : StartsIn turn stage (clocks + 1)) : (chip.clockSlot id).IsAlone id := by
  obtain ⟨cog, there, rfl⟩ := stands.cog
  have same := (Cog.step_of_starts starts chip.hub chip.frameBreak).2
  rw [Chip.clockSlot, there]
  exact (alone.putCog _).congr rfl (congrArg Hub.queue same)

omit [Plugin τ π] in
/-- Its turn. -/
lemma turnSlot (alone : chip.IsAlone id) (stands : chip.Stands id ring stage)
    (starts : StartsIn turn stage clocks) : (chip.turnSlot id).IsAlone id := by
  obtain ⟨cog, there, rfl⟩ := stands.cog
  have same := (Cog.hubAccess_of_starts starts chip.hub).2.1
  rw [Chip.turnSlot, there]
  exact (alone.putCog _).congr rfl same

omit [Plugin τ π] in
lemma clockSlot_of_ne (alone : chip.IsAlone id) (ne : slot ≠ id) : chip.clockSlot slot = chip := by
  rw [Chip.clockSlot, alone.others slot ne]
  rfl

omit [Plugin τ π] in
lemma turnSlot_of_ne (alone : chip.IsAlone id) (ne : slot ≠ id) : chip.turnSlot slot = chip := by
  rw [Chip.turnSlot, alone.others slot ne]
  rfl

/-- Nothing is asked for in the clocks of some slots, if the cog has at most one of them. -/
lemma stepCogs (alone : chip.IsAlone id) {order : List (Fin 8)} (once : order.Nodup)
    (starting : id ∈ order → ∃ ring stage turn clocks,
      chip.Stands id ring stage ∧ StartsIn turn stage (clocks + 1)) :
    clockRequests order chip = [] ∧ (Chip.stepCogs order chip).2.IsAlone id := by
  induction order generalizing chip with
  | nil => exact ⟨rfl, alone⟩
  | cons slot rest ih =>
    rw [List.nodup_cons] at once
    have first : (chip.clockSlot slot).IsAlone id ∧
        (id ∈ rest → ∃ ring stage turn clocks,
          (chip.clockSlot slot).Stands id ring stage ∧ StartsIn turn stage (clocks + 1)) := by
      by_cases here : slot = id
      · subst here
        obtain ⟨ring, stage, turn, clocks, stands, starts⟩ := starting List.mem_cons_self
        exact ⟨alone.clockSlot stands starts, fun again => absurd again once.1⟩
      · rw [alone.clockSlot_of_ne here]
        exact ⟨alone, fun later => starting (List.mem_cons_of_mem slot later)⟩
    have stepped : (chip.stepCog slot).2 = chip.clockSlot slot := by
      rw [stepCog_eq_clockSlot, first.1.applyActions]
    obtain ⟨quiet, last⟩ := ih first.1 once.2 first.2
    refine ⟨?_, ?_⟩
    · rw [clockRequests, stepped, quiet, first.1.queue]
      rfl
    · show (Chip.stepCogs rest (chip.stepCog slot).2).2.IsAlone id
      rw [stepped]
      exact last

/-- **Nothing is asked for in a step** as long as the only cog starts. -/
theorem step (alone : chip.IsAlone id) (starting : chip.IsStarting id (clocks + 1)) :
    chip.stepRequests = [] ∧ chip.step.2.IsAlone id := by
  obtain ⟨ring, stage, stands, starts⟩ := starting
  have ringed := stands.atClock starts.ne_video
  have clocked : chip.atClock.IsAlone id := alone.advanceClocks.congr rfl rfl
  obtain ⟨quiet, last⟩ := clocked.stepCogs nodup_slots fun _ => ⟨_, _, _, _, ringed, starts⟩
  have stepped := ringed.stepCogs starts (by rw [quiet]; exact nofun) nodup_slots (mem_slots id)
  have turned : turnRequests chip.advanceClocks.hub.advanceRing.1
        (Chip.stepCogs slots chip.atClock).2 = [] ∧ chip.advanceClocks.stepSlots.IsAlone id := by
    rw [stepSlots]
    cases chip.advanceClocks.hub.advanceRing.1 with
    | none => exact ⟨rfl, last⟩
    | some slot =>
      have after : ((Chip.stepCogs slots chip.atClock).2.turnSlot slot).IsAlone id := by
        by_cases here : slot = id
        · subst here
          obtain ⟨rest, starts⟩ := starts.clock
          exact last.turnSlot stepped starts
        · rw [last.turnSlot_of_ne here]
          exact last
      rw [Option.elim_some, hubTurn_eq_turnSlot]
      exact ⟨after.queue, after.applyActions.symm ▸ after⟩
  refine ⟨?_, ?_⟩
  · rw [stepRequests, quiet, turned.1]
    rfl
  · rw [step_eq]
    exact turned.2.notifyPins.countClock.notifyPins

/-- So nothing disturbs it. -/
theorem isLeftAlone (alone : chip.IsAlone id) (starting : chip.IsStarting id (clocks + 1))
    (limit : Nat) : chip.IsLeftAlone id limit := by
  induction limit generalizing chip clocks with
  | zero => trivial
  | succ limit ih =>
    obtain ⟨quiet, next⟩ := alone.step starting
    have others : ∀ request ∈ chip.stepRequests, ¬ request.Concerns id := by
      rw [quiet]
      exact nofun
    refine ⟨others, fun _ busy => ?_⟩
    have later := starting.step others
    cases clocks with
    | zero => exact absurd (later.isBusy_eq.symm.trans busy) nofun
    | succ clocks => exact ih next later

omit [Plugin τ π] in
/-- A cog that is started in an empty chip. -/
lemma of_empty (empty : ∀ slot, chip.cogs.get slot = none) (quiet : chip.hub.queue = [])
    (id : Fin 8) (kind : EngineKind) (program parameter : UInt32) :
    (chip.startCog id kind program parameter).IsAlone id :=
  ⟨fun slot ne => (get_putCog ..).trans ((if_neg ne).trans (empty slot)), quiet⟩

end IsAlone

/-! ## A cog that was started -/

/-- In a slot there is a cog that copies its program, as there is after it was started. -/
def IsLoading (id : Fin 8) (chip : Chip τ π) : Prop :=
  ∃ cog position, chip.cogs.get id = some cog ∧ cog.body.state = .loadProgram position

omit [Plugin τ π] in
lemma isLoading_startCog (chip : Chip τ π) (id : Fin 8) (kind : EngineKind)
    (program parameter : UInt32) : (chip.startCog id kind program parameter).IsLoading id :=
  ⟨_, 0, (get_putCog ..).trans (if_pos rfl), rfl⟩

omit [Timebase τ] [Plugin τ π] in
/-- A turn every sixteen clocks, and what the interpreter takes, make no more than 7984. -/
lemma IsLoading.isStarting (loading : chip.IsLoading id) :
    ∃ clocks < 7984, chip.IsStarting id (clocks + 1) := by
  obtain ⟨cog, position, there, state⟩ := loading
  let turn := Hub.clocksToTurn chip.hub.ring id
  have soon : turn ≤ 16 := Hub.clocksToTurn_le ..
  have positive : 0 < turn := Hub.clocksToTurn_pos ..
  have boot : cog.engine.kind.bootClocks ≤ 48 := by
    cases cog.engine.kind <;> decide
  have starts : StartsIn turn _ _ := .loads cog.engine.kind position
  have size : programLongs = 496 := rfl
  obtain ⟨clocks, total⟩ := Nat.exists_eq_add_one.mpr (show
    0 < 16 * (programLongs - 1 - position) + turn + cog.engine.kind.bootClocks by omega)
  rw [total] at starts
  have stage : cog.stage = (cog.engine.kind, .loadProgram position) := congrArg (Prod.mk _) state
  refine ⟨clocks, by omega, _, _, ⟨rfl, cog, there, stage⟩, starts⟩

/-- So a chip that waits for longer finds the cog at its first instruction. -/
theorem IsLoading.stepWhileBusy (loading : chip.IsLoading id) (enough : 7984 < limit)
    (alone : chip.IsLeftAlone id limit) :
    let result := Chip.stepWhileBusy id limit chip
    ∃ n < limit, result.2 = chip.run (List.replicate n .step) ∧
      (∀ m < n, (chip.run (List.replicate m .step)).isBusy id) ∧
      (result.1 = .ok true → ∃ cog, result.2.cogs.get id = some cog ∧
        cog.body.state.isBoundary) := by
  obtain ⟨clocks, few, starting⟩ := loading.isStarting
  obtain ⟨n, within, -, same, before, last⟩ := starting.stepWhileBusy (by omega) alone
  refine ⟨n, by omega, same, before, fun ok => ?_⟩
  obtain ⟨cog, there, boundary⟩ := (last ok).2.exists_cog
  exact ⟨cog, there, boundary⟩

/-- **From the start of a cog to its first instruction.**  A new cog loads its program whatever
happens to it, as long as no user writes to its registers and the program in hub memory stays: one
long at each of its turns, and with the last of the 496 it has all of them.  And a chip in which a
cog loads, and nothing stops or restarts it, steps until the cog is at its first instruction, which
comes before the chip stops waiting for it, unless a break or a fault comes first. -/
theorem loads_and_starts (id : UInt32) (kind : EngineKind)
    (program parameter coreFrequency : UInt32) (longs : Fin programLongs → UInt32) :
    (∀ events : List (VideoEvent τ), (∀ event ∈ events, event.isWrite = false) →
      (∀ hub ∈ events.filterMap VideoEvent.turn?, hub.memory.HoldsProgram program longs) →
      ∀ few : (events.filterMap VideoEvent.turn?).length < programLongs,
        let cog := (Cog.new id kind program parameter coreFrequency).nextAll events
        cog.IsLoading ⟨_, few⟩ ∧
          ((events.filterMap VideoEvent.turn?).length + 1 = programLongs →
            ∀ hub : Hub, hub.memory.HoldsProgram program longs →
              (cog.hubAccess hub).1.HasLoaded kind parameter longs)) ∧
    ∀ (chip : Chip τ π) (slot : Fin 8), chip.IsLoading slot →
      chip.IsLeftAlone slot instructionLimit →
        let result := chip.stepInstruction slot
        ∃ n < instructionLimit, result.2 = chip.run (List.replicate n .step) ∧
          (∀ m < n, (chip.run (List.replicate m .step)).isBusy slot) ∧
          (result.1 = .ok true → ∃ cog, result.2.cogs.get slot = some cog ∧
            cog.body.state.isBoundary) := by
  refine ⟨fun events unwritten holds few =>
    Cog.loads_program id kind program parameter coreFrequency longs unwritten holds few, ?_⟩
  intro chip slot loading alone
  have enough : 7984 < instructionLimit := by simp only [instructionLimit, Nat.reduceLT]
  rw [stepInstruction]
  exact loading.stepWhileBusy enough alone

/-- A chip that was just switched on, with an interpreter that is started in a slot. -/
def startedChip (id : Fin 8) : Chip Rat Empty :=
  (switchedOn blankMemory).startCog id .interpreted interpreterEntry 0x40

/-- It starts in the fourth slot, and nobody disturbs it. -/
theorem loads_and_starts_startedChip :
    let chip := startedChip 3
    let longs : Fin programLongs → UInt32 :=
      fun i => blankMemory.readLong (interpreterEntry + 4 * .ofNat i)
    let events : List (VideoEvent Rat) := [.hubAccess chip.hub, .step chip.hub .none]
    (∀ event ∈ events, event.isWrite = false) ∧
      (∀ hub ∈ events.filterMap VideoEvent.turn?,
        hub.memory.HoldsProgram interpreterEntry longs) ∧
      chip.IsLoading 3 ∧ chip.IsLeftAlone 3 instructionLimit ∧
      ((Cog.new 3 .interpreted interpreterEntry 0x40 0).nextAll events).IsLoading 1 ∧
      ∃ n < instructionLimit,
        (chip.stepInstruction 3).2 = chip.run (List.replicate n .step) := by
  intro chip longs events
  have unwritten : ∀ event ∈ events, event.isWrite = false := by
    simp [events, VideoEvent.isWrite]
  have holds : ∀ hub ∈ events.filterMap VideoEvent.turn?,
      hub.memory.HoldsProgram interpreterEntry longs := by
    intro hub turn
    cases List.mem_singleton.mp turn
    exact fun _ => rfl
  have loading : chip.IsLoading 3 := isLoading_startCog ..
  have empty (slot : Fin 8) : (switchedOn blankMemory : Chip Rat Empty).cogs.get slot = none := by
    have none : (emptySlots : Vector (Option (Cog Rat)) 8).get slot = none :=
      Vector.getElem_replicate slot.isLt
    exact (get_mapCogs ..).trans (congrArg (Option.map _) none)
  have alone : chip.IsLeftAlone 3 instructionLimit := by
    obtain ⟨clocks, -, starting⟩ := loading.isStarting
    exact (IsAlone.of_empty empty rfl ..).isLeftAlone starting instructionLimit
  obtain ⟨loads, starts⟩ :=
    @loads_and_starts Rat Empty _ _ 3 .interpreted interpreterEntry 0x40 0 longs
  obtain ⟨n, within, same, -, -⟩ := starts chip 3 loading alone
  exact ⟨unwritten, holds, loading, alone, (loads events unwritten holds (by decide)).1, n, within,
    same⟩

end P1Chip.Chip
