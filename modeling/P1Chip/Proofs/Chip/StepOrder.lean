import P1Chip.Proofs.Chip.Occupancy
import P1Chip.Proofs.Cog.HubTurn

/-!
# The order of native cogs

The chip steps its cogs one after the other, always the first slot first.  Where the slots hold
native cogs this order is arbitrary: none of them changes the hub or asks for anything before its
turn, so two neighbours in the order can change places, and then any others.  Only if more than one
of them raises a fault does the order show, because the chip reports the first one.

* `Chip.RunsNative` — no interpreter runs in the slot.
* `Chip.stepSlot`, `Chip.outcomeOf` — what becomes of a slot on its own.
* `Chip.stepEach` — slots that step one after the other, with what came of each.
* `Chip.stepCogs_eq` — a step of the chip makes one outcome of that.
* **`Chip.stepEach_perm`** — the same in any order.
* **`Chip.hub_changed_in_turn`** — native cogs change the hub only in their turns.
-/

namespace P1Chip.Chip

variable {τ π : Type} [Timebase τ]

/-! ## One slot -/

/-- No interpreter runs in the slot. -/
def RunsNative (chip : Chip τ π) (id : Fin 8) : Prop :=
  ∀ cog, chip.cogs.get id = some cog → cog.IsNative

/-- What comes of the step of one slot, for the chip as it is. -/
def outcomeOf (chip : Chip τ π) (id : Fin 8) : Except Fault Bool :=
  (chip.cogs.get id).elim (.ok true) fun cog => (cog.step chip.hub chip.frameBreak).1

/-- The chip with one slot a clock further, and nothing else changed. -/
def stepSlot (chip : Chip τ π) (id : Fin 8) : Chip τ π :=
  (chip.cogs.get id).elim chip fun cog => chip.putCog id (cog.step chip.hub chip.frameBreak).2.1

section Slots

variable {chip : Chip τ π} {id other : Fin 8}

lemma stepSlot_of_none (there : chip.cogs.get id = none) : chip.stepSlot id = chip := by
  rw [stepSlot, there, Option.elim_none]

lemma stepSlot_of_some {cog : Cog τ} (there : chip.cogs.get id = some cog) :
    chip.stepSlot id = chip.putCog id (cog.step chip.hub chip.frameBreak).2.1 := by
  rw [stepSlot, there, Option.elim_some]

/-- The hub stays as it is, and so does the rest. -/
lemma hub_stepSlot (chip : Chip τ π) (id : Fin 8) : (chip.stepSlot id).hub = chip.hub := by
  rw [stepSlot]
  cases chip.cogs.get id <;> rfl

lemma frameBreak_stepSlot (chip : Chip τ π) (id : Fin 8) :
    (chip.stepSlot id).frameBreak = chip.frameBreak := by
  rw [stepSlot]
  cases chip.cogs.get id <;> rfl

lemma get_stepSlot (chip : Chip τ π) (id n : Fin 8) :
    (chip.stepSlot id).cogs.get n = if n = id
      then (chip.cogs.get id).map fun cog => (cog.step chip.hub chip.frameBreak).2.1
      else chip.cogs.get n := by
  cases there : chip.cogs.get id with
  | none =>
    rw [stepSlot_of_none there]
    split
    · next same => rw [same, there, Option.map_none]
    · rfl
  | some cog => rw [stepSlot_of_some there, get_putCog, Option.map_some]

lemma RunsNative.stepSlot (h : chip.RunsNative other) : (chip.stepSlot id).RunsNative other := by
  intro cog there
  rw [get_stepSlot] at there
  split at there
  · next same =>
    subst same
    obtain ⟨before, was, rfl⟩ := Option.map_eq_some_iff.mp there
    exact (h before was).step _ _
  · exact h cog there

/-- A native cog that is started does not concern the other slots. -/
lemma RunsNative.startCog {program parameter : UInt32} (h : other ≠ id → chip.RunsNative other) :
    (chip.startCog id .native program parameter).RunsNative other := by
  intro cog there
  change (chip.putCog id _).cogs.get other = some cog at there
  rw [get_putCog] at there
  split at there
  · cases Option.some.inj there
    rfl
  · next apart => exact h apart cog there

/-- What comes of another slot does not depend on this one. -/
lemma outcomeOf_stepSlot (apart : other ≠ id) :
    (chip.stepSlot id).outcomeOf other = chip.outcomeOf other := by
  rw [outcomeOf, get_stepSlot, if_neg apart, hub_stepSlot, frameBreak_stepSlot]
  rfl

lemma stepSlot_comm (apart : other ≠ id) :
    (chip.stepSlot id).stepSlot other = (chip.stepSlot other).stepSlot id := by
  have first := get_stepSlot chip id other
  have second := get_stepSlot chip other id
  rw [if_neg apart] at first
  rw [if_neg apart.symm] at second
  cases there : chip.cogs.get id with
  | none =>
    rw [stepSlot_of_none there, stepSlot_of_none (second.trans there)]
  | some cog =>
    cases there' : chip.cogs.get other with
    | none =>
      rw [stepSlot_of_none (first.trans there'), stepSlot_of_none there']
    | some cog' =>
      rw [stepSlot_of_some (first.trans there'), stepSlot_of_some (second.trans there),
        hub_stepSlot, frameBreak_stepSlot, hub_stepSlot, frameBreak_stepSlot,
        stepSlot_of_some there, stepSlot_of_some there', putCog_comm _ apart]

end Slots

/-! ## Slots one after the other -/

/-- Whether the chip goes on after some outcomes, or the first fault of them. -/
def joinAll (outcomes : List (Except Fault Bool)) : Except Fault Bool :=
  outcomes.foldr joinOutcomes (.ok true)

lemma joinOutcomes_eq_ok_iff {first second : Except Fault Bool} {goesOn : Bool} :
    joinOutcomes first second = .ok goesOn ↔
      ∃ a b, first = .ok a ∧ second = .ok b ∧ goesOn = (a && b) := by
  rcases first with fault | a <;> rcases second with fault' | b <;>
    simp [joinOutcomes, eq_comm]

/-- The order shows only in which fault is the first one. -/
lemma joinAll_perm {outcomes outcomes' : List (Except Fault Bool)}
    (same : outcomes.Perm outcomes') (goesOn : Bool) :
    joinAll outcomes = .ok goesOn ↔ joinAll outcomes' = .ok goesOn := by
  have joined (outcome : Except Fault Bool) (rest : List (Except Fault Bool)) :
      joinAll (outcome :: rest) = joinOutcomes outcome (joinAll rest) := rfl
  induction same generalizing goesOn with
  | nil => exact .rfl
  | cons outcome _ ih =>
    rw [joined, joined]
    simp only [joinOutcomes_eq_ok_iff, ih]
  | swap first second rest =>
    simp only [joined, joinOutcomes_eq_ok_iff]
    constructor
    · rintro ⟨a, _, ha, ⟨b, c, hb, hc, rfl⟩, rfl⟩
      exact ⟨b, _, hb, ⟨a, c, ha, hc, rfl⟩, Bool.and_left_comm ..⟩
    · rintro ⟨a, _, ha, ⟨b, c, hb, hc, rfl⟩, rfl⟩
      exact ⟨b, _, hb, ⟨a, c, ha, hc, rfl⟩, Bool.and_left_comm ..⟩
  | trans _ _ first second => exact (first goesOn).trans (second goesOn)

variable [Plugin τ π]

/-- With nothing in the queue there is nothing to do. -/
lemma applyActions_of_quiet {chip : Chip τ π} (quiet : chip.hub.queue = []) :
    chip.applyActions = chip := by
  have same : { chip.hub with queue := [] } = chip.hub := by
    rw [← quiet]
  simp only [applyActions, Hub.takeActions, quiet, perform, same]

/-- The slots step one after the other, with what comes of each of them. -/
def stepEach : List (Fin 8) → Chip τ π → List (Fin 8 × Except Fault Bool) × Chip τ π
  | [], chip => ([], chip)
  | id :: rest, chip =>
    let (outcome, chip) := chip.stepCog id
    let (others, chip) := stepEach rest chip
    ((id, outcome) :: others, chip)

/-- A step of the chip makes one outcome of that. -/
lemma stepCogs_eq (order : List (Fin 8)) (chip : Chip τ π) :
    stepCogs order chip
      = (joinAll ((stepEach order chip).1.map (·.2)), (stepEach order chip).2) := by
  induction order generalizing chip with
  | nil => rfl
  | cons id rest ih =>
    simp only [stepCogs, ih, stepEach]
    rfl

/-- A slot without an interpreter does not concern the others. -/
lemma stepCog_eq {chip : Chip τ π} {id : Fin 8} (quiet : chip.hub.queue = [])
    (native : chip.RunsNative id) : chip.stepCog id = (chip.outcomeOf id, chip.stepSlot id) := by
  rw [stepCog, takeCog_eq, outcomeOf]
  cases there : chip.cogs.get id with
  | none =>
    rw [takeCog_of_none there, stepSlot_of_none there]
    exact congrArg (Prod.mk _) (applyActions_of_quiet quiet)
  | some cog =>
    have hub := (native cog there).step_hub chip.hub chip.frameBreak
    have put : { (chip.takeCog id).2 with hub := (cog.step chip.hub chip.frameBreak).2.2 }.putCog
        id (cog.step chip.hub chip.frameBreak).2.1 = chip.stepSlot id := by
      rw [hub, stepSlot_of_some there]
      exact putCog_takeCog ..
    have rest : (chip.stepSlot id).applyActions = chip.stepSlot id :=
      applyActions_of_quiet (by rw [hub_stepSlot, quiet])
    exact Prod.ext rfl ((congrArg applyActions put).trans rest)

/-- Slots without interpreters step one after the other, and each only looks at itself. -/
lemma stepEach_cons {chip : Chip τ π} {id : Fin 8} (rest : List (Fin 8))
    (quiet : chip.hub.queue = []) (native : chip.RunsNative id) :
    stepEach (id :: rest) chip
      = ((id, chip.outcomeOf id) :: (stepEach rest (chip.stepSlot id)).1,
        (stepEach rest (chip.stepSlot id)).2) := by
  rw [stepEach, stepCog_eq quiet native]

/-- **Slots without interpreters can step in any order**, with the same outcomes. -/
theorem stepEach_perm {order order' : List (Fin 8)} (same : order.Perm order') {chip : Chip τ π}
    (quiet : chip.hub.queue = []) (native : ∀ id ∈ order, chip.RunsNative id) :
    (stepEach order chip).1.Perm (stepEach order' chip).1 ∧
      (stepEach order chip).2 = (stepEach order' chip).2 := by
  induction same generalizing chip with
  | nil => exact ⟨.nil, rfl⟩
  | cons id _ ih =>
    have first := native id List.mem_cons_self
    have quietSlot : (chip.stepSlot id).hub.queue = [] := by rw [hub_stepSlot, quiet]
    have rest := ih quietSlot fun other within =>
      (native other (List.mem_cons_of_mem _ within)).stepSlot
    rw [stepEach_cons _ quiet first, stepEach_cons _ quiet first]
    exact ⟨rest.1.cons _, rest.2⟩
  | swap id other rest =>
    by_cases apart : other = id
    · rw [apart]
      exact ⟨.refl _, rfl⟩
    · have first := native other List.mem_cons_self
      have second := native id (List.mem_cons_of_mem _ List.mem_cons_self)
      have quietSlot (n : Fin 8) : (chip.stepSlot n).hub.queue = [] := by rw [hub_stepSlot, quiet]
      rw [stepEach_cons _ quiet first, stepEach_cons _ (quietSlot other) second.stepSlot,
        stepEach_cons _ quiet second, stepEach_cons _ (quietSlot id) first.stepSlot,
        outcomeOf_stepSlot apart, outcomeOf_stepSlot (Ne.symm apart), stepSlot_comm apart]
      exact ⟨.swap .., rfl⟩
  | trans one _ first second =>
    have there := first quiet native
    have back := second quiet fun id within => native id (one.mem_iff.mpr within)
    exact ⟨there.1.trans back.1, there.2.trans back.2⟩

/-- Slots without interpreters leave the hub as it is. -/
lemma hub_stepEach {order : List (Fin 8)} {chip : Chip τ π} (quiet : chip.hub.queue = [])
    (native : ∀ id ∈ order, chip.RunsNative id) : (stepEach order chip).2.hub = chip.hub := by
  induction order generalizing chip with
  | nil => rfl
  | cons id rest ih =>
    have quietSlot : (chip.stepSlot id).hub.queue = [] := by rw [hub_stepSlot, quiet]
    have others := ih quietSlot fun other within =>
      (native other (List.mem_cons_of_mem _ within)).stepSlot
    rw [stepEach_cons _ quiet (native id List.mem_cons_self), others, hub_stepSlot]

/-! ## The hub outside of turns -/

/-- It makes no difference in which of two orders some slots step. -/
structure OrderFree (chip : Chip τ π) (order order' : List (Fin 8)) : Prop where
  /-- The cogs become the same, and everything else is the same as well. -/
  same : (stepCogs order chip).2 = (stepCogs order' chip).2
  hub : (stepCogs order chip).2.hub = chip.hub
  /-- Of each slot comes the same. -/
  outcomes : (stepEach order chip).1.Perm (stepEach order' chip).1
  /-- If none of them raises a fault, the chip goes on in both orders or in none. -/
  goesOn : ∀ goesOn, (stepCogs order chip).1 = .ok goesOn ↔ (stepCogs order' chip).1 = .ok goesOn

/-- The chip in a step, when time has passed and the ring has moved on, but no cog has stepped. -/
def atClock (chip : Chip τ π) : Chip τ π :=
  { chip.advanceClocks with hub := chip.advanceClocks.hub.advanceRing.2 }

/-- **Native cogs change the hub only in their turns**, and there only by what they wait for.  So
native cogs that step one after the other step as if each were alone, in a chip too: there the
queue is empty when the cogs begin to step, and their order makes no difference. -/
theorem hub_changed_in_turn :
    (∀ (native : Native) (body : CogBody τ) (hub : Hub),
      let cog : Cog τ := ⟨body, .native native⟩
      (∀ frameBreak, (cog.step hub frameBreak).2.2 = hub) ∧
        native.Turn body hub (cog.hubAccess hub).2) ∧
    (∀ (cogs : List (Cog τ)) (hub : Hub) (frameBreak : FrameBreak),
      (∀ cog ∈ cogs, cog.IsNative) →
      Cog.stepAll frameBreak cogs hub
        = (cogs.map fun cog => ((cog.step hub frameBreak).1, (cog.step hub frameBreak).2.1),
          hub)) ∧
    (∀ (chip : Chip τ π) (order order' : List (Fin 8)), chip.hub.queue = [] →
      (∀ id ∈ order, chip.RunsNative id) → order.Perm order' → chip.OrderFree order order') ∧
    ∀ (memory : Memory) (operations : List (Operation π)),
      ((switchedOn memory : Chip τ π).run operations).atClock.hub.queue = [] := by
  refine ⟨fun native body hub => ?_, fun cogs hub frameBreak native =>
    Cog.stepAll_eq native hub frameBreak, ?_, ?_⟩
  · have native' : Cog.IsNative (⟨body, .native native⟩ : Cog τ) := rfl
    exact ⟨fun frameBreak => native'.step_hub hub frameBreak, Cog.turn_hubAccess native body hub⟩
  · intro chip order order' quiet native same
    obtain ⟨outcomes, chips⟩ := stepEach_perm same quiet native
    refine ⟨?_, ?_, outcomes, fun goesOn => ?_⟩
    · rw [stepCogs_eq, stepCogs_eq, chips]
    · rw [stepCogs_eq]
      exact hub_stepEach quiet native
    · rw [stepCogs_eq, stepCogs_eq]
      exact joinAll_perm (outcomes.map (·.2)) goesOn
  · intro memory operations
    exact ((settled_run memory operations).advanceUpTo edgeBudget).queue

/-- Two native cogs that have just been started can step in either order, in their chip and
outside of it. -/
theorem orderFree_twoNatives :
    let chip : Chip Rat Empty :=
      ((switchedOn blankMemory).startCog 1 .native 0 0).startCog 2 .native 64 0
    let cogs : List (Cog Rat) := [.new 1 .native 0 0 0, .new 2 .native 64 0 0]
    ((∀ cog ∈ cogs, cog.IsNative) ∧
      Cog.stepAll .none cogs chip.hub
        = (cogs.map fun cog => ((cog.step chip.hub .none).1, (cog.step chip.hub .none).2.1),
          chip.hub)) ∧
    chip.hub.queue = [] ∧ (∀ id ∈ [1, 2], chip.RunsNative id) ∧ chip.OrderFree [1, 2] [2, 1] := by
  intro chip cogs
  have natives : ∀ cog ∈ cogs, cog.IsNative := by
    rw [List.forall_mem_cons, List.forall_mem_singleton]
    exact ⟨rfl, rfl⟩
  have quiet : chip.hub.queue = [] := rfl
  have slots : ∀ id ∈ ([1, 2] : List (Fin 8)), chip.RunsNative id := by
    rw [List.forall_mem_cons, List.forall_mem_singleton]
    exact ⟨.startCog fun _ => .startCog fun apart => absurd rfl apart,
      .startCog fun apart => absurd rfl apart⟩
  obtain ⟨-, each, ordered, -⟩ := @hub_changed_in_turn Rat Empty _ _
  exact ⟨⟨natives, each cogs chip.hub .none natives⟩, quiet, slots,
    ordered chip [1, 2] [2, 1] quiet slots (.swap ..)⟩

end P1Chip.Chip
