import P1Chip.Proofs.Chip.OneSlot
import P1Chip.Proofs.Raw.Chip

/-!
# Steps of a chip with plain numbers

In a step every slot is looked up many times: for each edge of its cog's loops, for its clock, for
its turn on the hub, and for all that the hub has been asked for.  The numbers come from counting
the slots, from the ring and from the queue.

* `RawChip.advanceUpTo?`, `RawChip.stepCogs?`, `RawChip.hubTurn?` — the parts of a step.
* `RawChip.step?` — one system clock.
* **`RawChip.Shows.advanceUpTo?`**, **`RawChip.Shows.stepCogs?`**, **`RawChip.Shows.hubTurn?`** —
  none of the parts is refused anything.
* **`RawChip.Shows.step?`** — neither is a step, and both chips go on as the same.
-/

namespace P1Chip

open Chip (joinOutcomes slots)

variable {τ π : Type} [Timebase τ]

namespace RawChip

variable (chip : RawChip τ π)

/-! ## Time -/

/-- The earlier one of a time and the next edge of what stands in another slot. -/
def sooner (best : τ × Bool) : Option (RawCog τ) → τ × Bool
  | some cog => if Timebase.lt cog.timeLeft best.1 then (cog.timeLeft, true) else best
  | none => best

/-- The time until the next edge of any clock, and whether a loop has it before the system
oscillator does. -/
def nextEdge : τ × Bool :=
  chip.cogs.toList.foldl sooner (chip.oscillator.timeLeft, false)

/-- An edge of the first loop of the cog with a number. -/
def edgeA? (number : Nat) (level : Bool) : Option (RawChip τ π) :=
  (chip.mapCogs (·.auralEdge number level)).changeCog? number
    (·.colorEdge? chip.hub.shared.running level)

/-- An edge of the second loop of the cog with a number. -/
def edgeB? (number : Nat) (level : Bool) : Option (RawChip τ π) :=
  chip.changeCog? number fun cog => some (cog.withVideo (·.carrierEdge level))

/-- Passes the edges of a cog's loops on to the video generators. -/
def dispatchEdges? (number : Nat) (edges : PllEdges) : Option (RawChip τ π) := do
  let chip ←
    match edges.a with
    | some level => chip.edgeA? number level
    | none => some chip
  match edges.b with
  | some level => chip.edgeB? number level
  | none => some chip

/-- Lets time pass for the loops of the cog with a number. -/
def advanceCog? (elapsed : τ) (number : Nat) : Option (RawChip τ π) := do
  match ← chip.cogs[number]? with
  | none => return chip
  | some cog =>
    let (edges, cog) := cog.advance elapsed
    let chip ← chip.putCog? number (some cog)
    chip.dispatchEdges? number edges

/-- Lets time pass for all clocks. -/
def passTime? (elapsed : τ) : Option (RawChip τ π) := do
  let (_, oscillator) := chip.oscillator.advance elapsed
  let chip ← (List.range 8).foldlM (·.advanceCog? elapsed ·) { chip with oscillator }
  return { chip with time := chip.time + elapsed }

variable [Plugin τ π]

/-- Lets time pass up to the next edge of the system oscillator. -/
def advanceUpTo? : Nat → RawChip τ π → Option (RawChip τ π)
  | 0, chip => some chip
  | budget + 1, chip => do
    let (elapsed, loopFirst) := chip.nextEdge
    let chip ← chip.passTime? elapsed
    if loopFirst then advanceUpTo? budget (← chip.notifyPins?) else return chip

/-! ## Steps -/

/-- One system clock of the cog with a number, and of what it asked the hub for. -/
def stepCog? (number : Nat) : Option (Except Fault Bool × RawChip τ π) := do
  match ← chip.cogs[number]? with
  | none => return (.ok true, ← chip.applyActions?)
  | some cog =>
    let (outcome, cog, hub) ← cog.step? chip.hub chip.frameBreak
    let chip ← RawChip.putCog? { chip with hub } number (some cog)
    return (outcome, ← chip.applyActions?)

/-- One system clock of the cogs with the given numbers. -/
def stepCogs? : List Nat → RawChip τ π → Option (Except Fault Bool × RawChip τ π)
  | [], chip => some (.ok true, chip)
  | number :: rest, chip => do
    let (first, chip) ← chip.stepCog? number
    let (others, chip) ← stepCogs? rest chip
    return (joinOutcomes first others, chip)

/-- The turn on the hub of the cog with a number. -/
def hubTurn? (number : Nat) : Option (RawChip τ π) := do
  match ← chip.cogs[number]? with
  | none => chip.applyActions?
  | some cog =>
    let (cog, hub) ← cog.hubAccess? chip.hub
    let chip ← RawChip.putCog? { chip with hub } number (some cog)
    chip.applyActions?

/-- Counts the system clock, and tells the plugins of it. -/
def countClock : RawChip τ π :=
  let hub := chip.hub.withShared (·.incrementCounter)
  let (plugins, external) :=
    chip.plugins.deliverClock chip.time hub.shared.counter hub.shared.external
  { chip with plugins, hub := hub.withShared ({ · with external }) }

/-- One system clock. -/
def step? : Option (Except Fault Bool × RawChip τ π) := do
  let chip ← advanceUpTo? Chip.edgeBudget chip
  let (turn, hub) := chip.hub.advanceRing
  let (outcome, chip) ← stepCogs? (List.range 8) { chip with hub }
  let chip ← turn.elim (some chip) chip.hubTurn?
  let chip ← chip.notifyPins?
  let chip ← chip.countClock.notifyPins?
  return (outcome, chip)

end RawChip

/-! ## Nothing is refused -/

/-- The slots have the first eight numbers. -/
lemma Chip.range_eq_slots : List.range 8 = slots.map Fin.val := by
  decide

/-- What a step tells is what the clocks of the slots tell. -/
lemma Chip.outcome_step [Plugin τ π] (chip : Chip τ π) :
    chip.step.1 = (stepCogs slots
      { chip.advanceClocks with hub := chip.advanceClocks.hub.advanceRing.2 }).1 := by
  rw [step]

namespace RawChip

variable {raw : RawChip τ π} {chip : Chip τ π}

/-! ### Time -/

lemma Shows.nextEdge (shown : raw.Shows chip) : raw.nextEdge = chip.nextEdge := by
  obtain ⟨cogs, slots, rfl⟩ := shown
  rw [RawChip.nextEdge, Chip.nextEdge, ← Vector.foldl_toList]
  refine List.rel_foldl (P := Eq) ?_ rfl slots.forall₂
  rintro best _ rfl _ _ (same | _)
  · rw [sooner, same.timeLeft]
  · rfl

lemma Shows.edgeA? (shown : raw.Shows chip) (id : Fin 8) (level : Bool) :
    Yields (raw.edgeA? id.val level) (·.Shows (chip.edgeA id level)) := by
  let change (cog : Cog τ) : Cog τ :=
    let colored := cog.body.video.colorEdge level
    let cog := cog.withVideo fun _ => colored.2
    if colored.1 then cog.frameComplete chip.hub.running else cog
  let told : Chip τ π := chip.mapCogs fun cog =>
    if cog.body.video.auralSource = some id then cog.withVideo (·.auralEdge level) else cog
  have heard := shown.mapCogs fun _ _ same => RawCog.Shows.auralEdge same id level
  have model : chip.edgeA id level = (told.changeCog id.val change).2 := by
    rw [Chip.changeCog_val, Chip.takeCog_eq, Chip.edgeA, Chip.takeCog_eq]
    cases told.cogs.get id <;> rfl
  rw [RawChip.edgeA?, shown.hub, model]
  exact heard.changeCog? id fun _ _ same => same.colorEdge? chip.hub.running level

omit [Timebase τ] in
lemma Shows.edgeB? (shown : raw.Shows chip) (id : Fin 8) (level : Bool) :
    Yields (raw.edgeB? id.val level) (·.Shows (chip.edgeB id level)) := by
  have model : chip.edgeB id level
      = (chip.changeCog id.val (·.withVideo (·.carrierEdge level))).2 :=
    (Chip.changeCog_val ..).symm
  rw [model]
  exact shown.changeCog? id fun _ _ same => .of_eq rfl (same.carrierEdge level)

lemma Shows.dispatchEdges? (shown : raw.Shows chip) (id : Fin 8) (edges : PllEdges) :
    Yields (raw.dispatchEdges? id.val edges) (·.Shows (chip.dispatchEdges id edges)) := by
  rcases edges with ⟨_ | a, _ | b⟩
  · exact .of_eq rfl shown
  · exact shown.edgeB? id b
  · exact (shown.edgeA? id a).bind fun _ edged => .of_eq rfl edged
  · exact (shown.edgeA? id a).bind fun _ edged => edged.edgeB? id b

lemma Shows.advanceCog? (shown : raw.Shows chip) (elapsed : τ) (id : Fin 8) :
    Yields (raw.advanceCog? elapsed id.val) (·.Shows (chip.advanceCog elapsed id)) := by
  rw [Chip.advanceCog, Chip.takeCog_eq, RawChip.advanceCog?]
  rcases shown.slot id with ⟨found, empty⟩ | ⟨rawCog, cog, found, there, same⟩
  · rw [found, Chip.takeCog_of_none empty, empty]
    exact .of_eq rfl shown
  · rw [found, there]
    dsimp only
    rw [Chip.putCog_takeCog, ← same.edges]
    exact (shown.putCog? id (same.advance elapsed)).bind fun _ advanced =>
      advanced.dispatchEdges? id _

omit [Timebase τ] in
/-- What is done with every slot in turn. -/
lemma Shows.foldlM {step? : RawChip τ π → Nat → Option (RawChip τ π)}
    {step : Chip τ π → Fin 8 → Chip τ π}
    (each : ∀ raw chip id, raw.Shows chip → Yields (step? raw id.val) (·.Shows (step chip id)))
    (ids : List (Fin 8)) (shown : raw.Shows chip) :
    Yields ((ids.map Fin.val).foldlM step? raw) (·.Shows (ids.foldl step chip)) := by
  induction ids generalizing raw chip with
  | nil => exact .of_eq rfl shown
  | cons id ids ih => exact (each _ _ id shown).bind fun _ stepped => ih stepped

lemma Shows.later (shown : raw.Shows chip) (elapsed : τ) :
    RawChip.Shows { raw with time := raw.time + elapsed } (chip.later elapsed) := by
  obtain ⟨cogs, slots, rfl⟩ := shown
  exact ⟨cogs, slots, rfl⟩

lemma Shows.oscillated (shown : raw.Shows chip) (elapsed : τ) :
    RawChip.Shows { raw with oscillator := (raw.oscillator.advance elapsed).2 }
      { chip with oscillator := (chip.oscillator.advance elapsed).2 } := by
  obtain ⟨cogs, slots, rfl⟩ := shown
  exact ⟨cogs, slots, rfl⟩

lemma Shows.passTime? (shown : raw.Shows chip) (elapsed : τ) :
    Yields (raw.passTime? elapsed) (·.Shows (chip.passTime elapsed)) := by
  have advanced := (shown.oscillated elapsed).foldlM
    (fun _ _ id shown => shown.advanceCog? elapsed id) slots
  rw [RawChip.passTime?, Chip.range_eq_slots, Chip.passTime_eq]
  exact advanced.bind fun _ shown => .of_eq rfl (shown.later elapsed)

variable [Plugin τ π]

/-- **Time up to the next system clock** passes, whatever edges the loops have. -/
theorem Shows.advanceUpTo? (budget : Nat) (shown : raw.Shows chip) :
    Yields (RawChip.advanceUpTo? budget raw) (·.Shows (Chip.advanceUpTo budget chip)) := by
  induction budget generalizing raw chip with
  | zero => exact .of_eq rfl shown
  | succ budget ih =>
    simp only [RawChip.advanceUpTo?, Chip.advanceUpTo, shown.nextEdge]
    refine (shown.passTime? chip.nextEdge.1).bind fun _ passed => ?_
    split
    · exact passed.notifyPins?.bind fun _ notified => ih notified
    · exact .of_eq rfl passed

/-! ### Steps -/

/-- **The clock of a slot**, and requests for any of the slots. -/
theorem Shows.stepCog? (shown : raw.Shows chip) (id : Fin 8) :
    Yields (raw.stepCog? id.val) fun stepped =>
      stepped.1 = (chip.stepCog id).1 ∧ stepped.2.Shows (chip.stepCog id).2 := by
  rw [Chip.stepCog_eq_clockSlot, Chip.clockSlot, Chip.stepCog, Chip.takeCog_eq, RawChip.stepCog?]
  rcases shown.slot id with ⟨found, empty⟩ | ⟨rawCog, cog, found, there, same⟩
  · rw [found, empty]
    exact shown.applyActions?.bind fun _ applied => .of_eq rfl ⟨rfl, applied⟩
  · obtain ⟨rawCog', stepped, same⟩ := same.step? chip.hub chip.frameBreak
    have stepped' : rawCog.step? raw.hub raw.frameBreak
        = some ((cog.step chip.hub chip.frameBreak).1, rawCog',
          (cog.step chip.hub chip.frameBreak).2.2.raw) := by
      rw [shown.hub, shown.frameBreak]
      exact stepped
    rw [found, there]
    show Yields (rawCog.step? raw.hub raw.frameBreak >>= _) _
    rw [stepped']
    refine ((shown.withHub _).putCog? id same).bind fun _ put => ?_
    exact put.applyActions?.bind fun _ applied => .of_eq rfl ⟨rfl, applied⟩

/-- **The clocks of all slots.** -/
theorem Shows.stepCogs? (ids : List (Fin 8)) (shown : raw.Shows chip) :
    Yields (RawChip.stepCogs? (ids.map Fin.val) raw) fun stepped =>
      stepped.1 = (Chip.stepCogs ids chip).1 ∧ stepped.2.Shows (Chip.stepCogs ids chip).2 := by
  induction ids generalizing raw chip with
  | nil => exact .of_eq rfl ⟨rfl, shown⟩
  | cons id ids ih =>
    refine (shown.stepCog? id).bind fun _ ⟨first, stepped⟩ => ?_
    refine (ih stepped).bind fun _ ⟨others, stepped⟩ => ?_
    exact .of_eq rfl ⟨congrArg₂ joinOutcomes first others, stepped⟩

/-- **The turn of a slot** on the hub. -/
theorem Shows.hubTurn? (shown : raw.Shows chip) (id : Fin 8) :
    Yields (raw.hubTurn? id.val) (·.Shows (chip.hubTurn id)) := by
  rw [Chip.hubTurn_eq_turnSlot, Chip.turnSlot, RawChip.hubTurn?]
  rcases shown.slot id with ⟨found, empty⟩ | ⟨rawCog, cog, found, there, same⟩
  · rw [found, empty]
    exact shown.applyActions?
  · obtain ⟨rawCog', turned, same⟩ := same.hubAccess? chip.hub
    rw [found, there]
    show Yields (rawCog.hubAccess? raw.hub >>= _) _
    rw [shown.hub, turned]
    exact ((shown.withHub _).putCog? id same).bind fun _ put => put.applyActions?

omit [Timebase τ] in
lemma Shows.countClock (shown : raw.Shows chip) : raw.countClock.Shows chip.countClock := by
  obtain ⟨cogs, slots, rfl⟩ := shown
  exact ⟨cogs, slots, rfl⟩

/-- The ring grants its turn to a slot that there is, if to any. -/
lemma Shows.turn? (shown : raw.Shows chip) (turn : Option (Fin 8)) :
    Yields ((turn.map Fin.val).elim (some raw) raw.hubTurn?)
      (·.Shows (turn.elim chip chip.hubTurn)) := by
  cases turn with
  | none => exact .of_eq rfl shown
  | some id => exact shown.hubTurn? id

/-- **A step** is refused nothing, and gives the same outcome and the same chip. -/
theorem Shows.step? (shown : raw.Shows chip) :
    Yields raw.step? fun stepped => stepped.1 = chip.step.1 ∧ stepped.2.Shows chip.step.2 := by
  rw [RawChip.step?, Chip.outcome_step, Chip.step_eq, Chip.stepSlots, Chip.advanceClocks]
  refine (shown.advanceUpTo? Chip.edgeBudget).bind fun raw advanced => ?_
  generalize Chip.advanceUpTo Chip.edgeBudget chip = chip at advanced ⊢
  rw [advanced.hub, Hub.advanceRing_raw, Chip.range_eq_slots]
  refine ((advanced.withHub _).stepCogs? slots).bind fun _ stepped => ?_
  obtain ⟨outcome, stepped⟩ := stepped
  refine (stepped.turn? _).bind fun _ turned => ?_
  refine turned.notifyPins?.bind fun _ notified => ?_
  exact notified.countClock.notifyPins?.bind fun _ told => .of_eq rfl ⟨outcome, told⟩

end RawChip

end P1Chip
