import P1Chip.Proofs.Chip.Action
import P1Chip.Proofs.Chip.StepOrder
import P1Chip.Proofs.Cog.Starting

/-!
# One slot of a chip

What becomes of a cog that starts does not depend on the other slots, as long as nobody stops the
cog, starts another one in its slot or resets the chip.  This file follows one slot through a step
of the chip, with only the ring and what the cog is doing in mind.

* `HubAction.Concerns` — the requests that would disturb a cog.
* `Chip.Stands` — the ring, and the stage of one cog.
* **`Chip.Stands.clockAction`**, **`Chip.Stands.perform`** — time that passes and requests that do
  not concern the cog leave them alone.
* `Chip.stepRequests` — what is carried out in a step.
* **`Chip.Stands.step`** — a step of a chip with a cog that starts.
-/

namespace P1Chip

/-- The request stops the cog in a slot, starts another one there or resets the chip. -/
def HubAction.Concerns (id : Fin 8) : HubAction → Prop
  | .start cog _ _ _ | .stop cog => cog = id
  | .setClockMode mode => mode.resets

variable {τ π : Type}

namespace Chip

/-- The ring stands at a position, and in a slot there is a cog at some stage. -/
structure Stands (id : Fin 8) (ring : Fin 16) (stage : EngineKind × RunState)
    (chip : Chip τ π) : Prop where
  ring : chip.hub.ring = ring
  cog : ∃ cog, chip.cogs.get id = some cog ∧ cog.stage = stage

namespace Stands

variable {chip : Chip τ π} {id slot : Fin 8} {ring : Fin 16} {stage : EngineKind × RunState}

/-- Nothing else of a chip matters. -/
lemma congr (stands : chip.Stands id ring stage) {other : Chip τ π}
    (cogs : other.cogs = chip.cogs) (same : other.hub.ring = chip.hub.ring) :
    other.Stands id ring stage :=
  ⟨same.trans stands.ring, cogs ▸ stands.cog⟩

/-- Neither does what is put into other slots. -/
lemma putCog (stands : chip.Stands id ring stage) {cog : Cog τ}
    (same : slot = id → cog.stage = stage) : (chip.putCog slot cog).Stands id ring stage := by
  refine ⟨stands.ring, ?_⟩
  rw [get_putCog]
  split
  · next here => exact ⟨cog, rfl, same here.symm⟩
  · exact stands.cog

lemma of_get (stands : chip.Stands id ring stage) {cog : Cog τ}
    (there : chip.cogs.get id = some cog) : cog.stage = stage := by
  obtain ⟨_, same, reached⟩ := stands.cog
  cases there.symm.trans same
  exact reached

/-- A change of all cogs that leaves them at their stages. -/
lemma mapCogs (stands : chip.Stands id ring stage) (change : Cog τ → Cog τ)
    (same : ∀ cog, (change cog).stage = cog.stage) :
    (chip.mapCogs change).Stands id ring stage := by
  obtain ⟨cog, there, reached⟩ := stands.cog
  refine ⟨stands.ring, change cog, ?_, (same cog).trans reached⟩
  rw [get_mapCogs, there, Option.map_some]

variable [Timebase τ] [Plugin τ π]

/-- **Time that passes** leaves a cog where it is, unless it waits for its video generator. -/
theorem clockAction {before after : Chip τ π} (stands : before.Stands id ring stage)
    (free : stage.2 ≠ .waiting .video) (action : ClockAction before after) :
    after.Stands id ring stage := by
  cases action with
  | loops there elapsed | pixel there level | carrier there level =>
    refine stands.putCog fun here => ?_
    subst here
    -- neither loops nor generator are part of the stage
    have reached := stands.of_get there
    exact reached
  | frame there =>
    refine stands.putCog fun here => ?_
    subst here
    cases stands.of_get there
    rw [Cog.frameComplete_of_busy free]
    rfl
  | aural source level =>
    refine stands.mapCogs _ fun cog => ?_
    split <;> rfl
  | _ => exact stands.congr rfl rfl

lemma advanceClocks (stands : chip.Stands id ring stage) (free : stage.2 ≠ .waiting .video) :
    chip.advanceClocks.Stands id ring stage := by
  have actions := chip.clockActions_advanceClocks
  generalize chip.advanceClocks = after at actions ⊢
  induction actions with
  | refl => exact stands
  | tail _ last ih => exact ih.clockAction free last

lemma notifyPins (stands : chip.Stands id ring stage) : chip.notifyPins.Stands id ring stage := by
  rw [notifyPins_eq]
  split <;> exact stands.congr rfl rfl

omit [Timebase τ] in
lemma countClock (stands : chip.Stands id ring stage) : chip.countClock.Stands id ring stage :=
  stands.congr rfl rfl

/-- **Requests that do not concern a cog** leave it where it is. -/
theorem perform (stands : chip.Stands id ring stage) {requests : List HubAction}
    (others : ∀ request ∈ requests, ¬ request.Concerns id) :
    (perform requests chip).Stands id ring stage := by
  induction requests generalizing chip with
  | nil => exact stands
  | cons request requests ih =>
    rw [List.forall_mem_cons] at others
    cases request with
    | start cog engine program parameter =>
      have started : (chip.startCog cog engine program parameter).Stands id ring stage :=
        (stands.putCog fun here => absurd here others.1).congr rfl rfl
      exact ih started others.2
    | stop cog =>
      have muted := stands.mapCogs (fun other => other.withVideo (·.detachAural cog)) fun _ => rfl
      obtain ⟨other, there, reached⟩ := muted.cog
      have stopped : (chip.stopCog cog).Stands id ring stage := by
        refine ⟨stands.ring, other, ?_, reached⟩
        exact (get_takeCog _ cog id).trans (by rw [if_neg (Ne.symm others.1), there])
      exact ih stopped others.2
    | setClockMode mode =>
      have runs : ¬ mode.resets = true := others.1
      have changed : (chip.applyClockMode mode).Stands id ring stage :=
        (stands.mapCogs (·.setCoreFrequency (chip.hub.setClockMode mode).coreFrequency)
          fun _ => rfl).congr rfl rfl
      simp only [Chip.perform, setClockMode, if_neg runs]
      exact ih changed others.2

lemma applyActions (stands : chip.Stands id ring stage)
    (others : ∀ request ∈ chip.hub.queue, ¬ request.Concerns id) :
    chip.applyActions.Stands id ring stage :=
  (stands.congr rfl rfl : ({ chip with hub := chip.hub.takeActions.2 } : Chip τ π).Stands id ring
    stage).perform others

end Stands

/-! ## Steps -/

variable [Timebase τ] [Plugin τ π]

lemma nodup_slots : slots.Nodup :=
  List.nodup_finRange 8

lemma mem_slots (id : Fin 8) : id ∈ slots :=
  List.mem_finRange id

/-- The chip when a slot has had its clock, but what was asked for is still to be done. -/
def clockSlot (chip : Chip τ π) (slot : Fin 8) : Chip τ π :=
  (chip.cogs.get slot).elim chip fun cog =>
    { chip with hub := (cog.step chip.hub chip.frameBreak).2.2 }.putCog slot
      (cog.step chip.hub chip.frameBreak).2.1

/-- The chip when a slot has had its turn on the hub. -/
def turnSlot (chip : Chip τ π) (slot : Fin 8) : Chip τ π :=
  (chip.cogs.get slot).elim chip fun cog =>
    { chip with hub := (cog.hubAccess chip.hub).2 }.putCog slot (cog.hubAccess chip.hub).1

lemma stepCog_eq_clockSlot (chip : Chip τ π) (slot : Fin 8) :
    (chip.stepCog slot).2 = (chip.clockSlot slot).applyActions := by
  rw [stepCog, takeCog_eq, clockSlot]
  cases there : chip.cogs.get slot with
  | none =>
    rw [takeCog_of_none there]
    rfl
  | some cog => exact congrArg applyActions (putCog_takeCog { chip with hub := _ } slot _)

lemma hubTurn_eq_turnSlot (chip : Chip τ π) (slot : Fin 8) :
    chip.hubTurn slot = (chip.turnSlot slot).applyActions := by
  rw [hubTurn, takeCog_eq, turnSlot]
  cases there : chip.cogs.get slot with
  | none =>
    rw [takeCog_of_none there]
    rfl
  | some cog => exact congrArg applyActions (putCog_takeCog { chip with hub := _ } slot _)

/-- The requests that are carried out while some slots step, each right after the clock of the slot
that it comes from. -/
def clockRequests : List (Fin 8) → Chip τ π → List HubAction
  | [], _ => []
  | slot :: rest, chip =>
    (chip.clockSlot slot).hub.queue ++ clockRequests rest (chip.stepCog slot).2

/-- The requests that are carried out after the turn of a slot, if there is one. -/
def turnRequests (turn : Option (Fin 8)) (chip : Chip τ π) : List HubAction :=
  turn.elim [] fun slot => (chip.turnSlot slot).hub.queue

/-- The requests that are carried out in a step. -/
def stepRequests (chip : Chip τ π) : List HubAction :=
  clockRequests slots chip.atClock
    ++ turnRequests chip.advanceClocks.hub.advanceRing.1 (stepCogs slots chip.atClock).2

namespace Stands

variable {chip : Chip τ π} {id slot : Fin 8} {ring : Fin 16} {stage : EngineKind × RunState}
  {turn clocks : Nat}

omit [Plugin τ π] [Timebase τ] in
/-- What other cogs do. -/
lemma serve (stands : chip.Stands id ring stage) (ne : slot ≠ id) {hub : Hub}
    (served : chip.hub.Served hub) (cog : Cog τ) :
    ({ chip with hub }.putCog slot cog).Stands id ring stage := by
  obtain ⟨_, _, _, _, _, rfl⟩ := served
  exact (stands.putCog fun here => absurd here ne).congr rfl rfl

omit [Plugin τ π] in
lemma clockSlot_of_ne (stands : chip.Stands id ring stage) (ne : slot ≠ id) :
    (chip.clockSlot slot).Stands id ring stage := by
  rw [Chip.clockSlot]
  cases chip.cogs.get slot with
  | none => exact stands
  | some cog => exact stands.serve ne (cog.actions_step chip.hub chip.frameBreak).served _

omit [Plugin τ π] in
lemma turnSlot_of_ne (stands : chip.Stands id ring stage) (ne : slot ≠ id) :
    (chip.turnSlot slot).Stands id ring stage := by
  rw [Chip.turnSlot]
  cases chip.cogs.get slot with
  | none => exact stands
  | some cog => exact stands.serve ne (cog.actions_hubAccess chip.hub).served _

omit [Plugin τ π] in
lemma clockSlot (stands : chip.Stands id ring stage) (starts : StartsIn turn stage (clocks + 1)) :
    (chip.clockSlot id).Stands id ring (clockStage stage) := by
  obtain ⟨cog, there, reached⟩ := stands.cog
  subst reached
  obtain ⟨stepped, same⟩ := Cog.step_of_starts starts chip.hub chip.frameBreak
  rw [Chip.clockSlot, there]
  refine ⟨?_, _, ?_, stepped⟩
  · exact (congrArg Hub.ring same).trans stands.ring
  · exact (get_putCog ..).trans (if_pos rfl)

omit [Plugin τ π] in
lemma turnSlot (stands : chip.Stands id ring stage) (starts : StartsIn turn stage clocks) :
    (chip.turnSlot id).Stands id ring (turnStage stage) := by
  obtain ⟨cog, there, reached⟩ := stands.cog
  subst reached
  obtain ⟨turned, -, same⟩ := Cog.hubAccess_of_starts starts chip.hub
  rw [Chip.turnSlot, there]
  exact ⟨same.trans stands.ring, _, (get_putCog ..).trans (if_pos rfl), turned⟩

/-- The clocks of other slots. -/
lemma stepCogs_of_notMem (stands : chip.Stands id ring stage) {order : List (Fin 8)}
    (others : ∀ request ∈ clockRequests order chip, ¬ request.Concerns id)
    (absent : id ∉ order) : (stepCogs order chip).2.Stands id ring stage := by
  induction order generalizing chip with
  | nil => exact stands
  | cons slot rest ih =>
    rw [List.mem_cons, not_or] at absent
    simp only [clockRequests, List.forall_mem_append] at others
    have first := (stands.clockSlot_of_ne (Ne.symm absent.1)).applyActions others.1
    rw [← stepCog_eq_clockSlot] at first
    exact ih first others.2 absent.2

/-- **The clocks of some slots**, with that of the cog among them. -/
theorem stepCogs (stands : chip.Stands id ring stage) (starts : StartsIn turn stage (clocks + 1))
    {order : List (Fin 8)}
    (others : ∀ request ∈ clockRequests order chip, ¬ request.Concerns id)
    (once : order.Nodup) (present : id ∈ order) :
    (stepCogs order chip).2.Stands id ring (clockStage stage) := by
  induction order generalizing chip with
  | nil => cases present
  | cons slot rest ih =>
    rw [List.nodup_cons] at once
    simp only [clockRequests, List.forall_mem_append] at others
    by_cases here : slot = id
    · subst here
      have first := (stands.clockSlot starts).applyActions others.1
      rw [← stepCog_eq_clockSlot] at first
      exact first.stepCogs_of_notMem others.2 once.1
    · have first := (stands.clockSlot_of_ne here).applyActions others.1
      rw [← stepCog_eq_clockSlot] at first
      exact ih first others.2 once.2 ((List.mem_cons.mp present).resolve_left (Ne.symm here))

lemma atClock (stands : chip.Stands id ring stage) (free : stage.2 ≠ .waiting .video) :
    chip.atClock.Stands id (Hub.nextRing ring) stage :=
  ⟨congrArg Hub.nextRing (stands.advanceClocks free).ring, (stands.advanceClocks free).cog⟩

/-- Whether the cog has its turn. -/
lemma turn_eq_iff (stands : chip.Stands id ring stage) (free : stage.2 ≠ .waiting .video) :
    chip.advanceClocks.hub.advanceRing.1 = some id ↔ Hub.clocksToTurn ring id = 1 := by
  rw [Hub.advanceRing_eq_iff, (stands.advanceClocks free).ring]

/-- **A step** is a clock, and in some steps also a turn, of a cog that starts. -/
theorem step (stands : chip.Stands id ring stage)
    (starts : StartsIn (Hub.clocksToTurn ring id) stage (clocks + 1))
    (others : ∀ request ∈ chip.stepRequests, ¬ request.Concerns id) :
    chip.step.2.Stands id (Hub.nextRing ring)
      (if Hub.clocksToTurn ring id = 1 then turnStage (clockStage stage)
        else clockStage stage) := by
  simp only [stepRequests, List.forall_mem_append] at others
  have stepped := (stands.atClock starts.ne_video).stepCogs starts others.1
    nodup_slots (mem_slots id)
  have turned : chip.advanceClocks.stepSlots.Stands id (Hub.nextRing ring)
      (if Hub.clocksToTurn ring id = 1 then turnStage (clockStage stage)
        else clockStage stage) := by
    rw [← if_congr (stands.turn_eq_iff starts.ne_video) rfl rfl, stepSlots]
    replace others := others.2
    cases turn : chip.advanceClocks.hub.advanceRing.1 with
    | none =>
      rw [if_neg (Option.some_ne_none id).symm]
      exact stepped
    | some slot =>
      rw [turn] at others
      rw [Option.elim_some, hubTurn_eq_turnSlot]
      by_cases here : slot = id
      · subst here
        obtain ⟨rest, starts⟩ := starts.clock
        rw [if_pos rfl]
        exact (stepped.turnSlot starts).applyActions others
      · rw [if_neg fun same => here (Option.some.inj same)]
        exact (stepped.turnSlot_of_ne here).applyActions others
  rw [step_eq]
  exact turned.notifyPins.countClock.notifyPins

end Stands

end Chip

end P1Chip
