import P1Chip.Proofs.Chip.Operation
import P1Chip.Proofs.Chip.PassTime

/-!
# Clock sources are paced at all times

No clock source of a chip is ever overdue: time passes only up to the next edge of any of them, and
what cogs, requests and users do in between sets a source anew or leaves it as it is.

* `Chip.Paced` — the oscillator and the loops of all cogs are paced.
* `Chip.Paced.nextEdge_pos` — some time passes until the next edge.
* **`Chip.Paced.passTime`** — when it has passed, all sources are paced again.
* **`Chip.paced_run`** — they are after all operations.
-/

namespace P1Chip.Chip

variable {π : Type}

/-- The oscillator and the loops of all cogs are paced. -/
structure Paced (chip : Chip Rat π) : Prop where
  oscillator : chip.oscillator.Paced
  loops : ∀ {n pair}, chip.plls? n = some pair → pair.Paced

variable {chip : Chip Rat π}

/-! ## Cogs in their slots -/

namespace Paced

lemma putCog (paced : chip.Paced) (hub : Hub) (id : Fin 8) {cog : Cog Rat}
    (loops : cog.body.plls.Paced) : ({ chip with hub }.putCog id cog).Paced where
  oscillator := paced.oscillator
  loops := by
    intro n pair is
    rw [plls?_putCog] at is
    split at is
    · cases is
      exact loops
    · exact paced.loops is

lemma mapCogs (paced : chip.Paced) {change : Cog Rat → Cog Rat}
    (loops : ∀ cog, cog.body.plls.Paced → (change cog).body.plls.Paced) :
    (chip.mapCogs change).Paced where
  oscillator := paced.oscillator
  loops := by
    intro n pair is
    rw [plls?, get_mapCogs, Option.map_map] at is
    obtain ⟨cog, there, rfl⟩ := Option.map_eq_some_iff.mp is
    exact loops cog (paced.loops (plls?_of_get there))

lemma takeCog (paced : chip.Paced) (id : Fin 8) : (chip.takeCog id).2.Paced where
  oscillator := paced.oscillator
  loops := by
    intro n pair is
    rw [plls?, get_takeCog] at is
    split at is
    · cases is
    · exact paced.loops is

/-- What a cog does keeps its loops paced. -/
lemma actions (paced : chip.Paced) {hub : Hub} {id : Fin 8} {cog cog' : Cog Rat}
    (there : chip.cogs.get id = some cog)
    (run : CogBody.Actions (cog.body, chip.hub) (cog'.body, hub)) :
    ({ chip with hub }.putCog id cog').Paced :=
  paced.putCog hub id ((paced.loops (plls?_of_get there)).retuned run.driven)

lemma startCog (paced : chip.Paced) (id : Fin 8) (engine : EngineKind)
    (program parameter : UInt32) : (chip.startCog id engine program parameter).Paced :=
  paced.putCog _ id (PllPair.paced_off.setBaseFrequency chip.hub.coreFrequency)

lemma stopCog (paced : chip.Paced) (id : Fin 8) : (chip.stopCog id).Paced := by
  have detached : (chip.mapCogs fun cog => cog.withVideo (·.detachAural id)).Paced :=
    paced.mapCogs fun _ loops => loops
  exact ⟨paced.oscillator, (detached.takeCog id).loops⟩

lemma applyClockMode (paced : chip.Paced) (mode : ClockMode) : (chip.applyClockMode mode).Paced := by
  let frequency := (chip.hub.setClockMode mode).coreFrequency
  have changed : (chip.mapCogs (·.setCoreFrequency frequency)).Paced :=
    paced.mapCogs fun _ loops => loops.setBaseFrequency frequency
  exact ⟨paced.oscillator.setFrequency frequency, changed.loops⟩

/-! ## Time -/

/-- Some time passes until the next edge. -/
lemma nextEdge_pos (paced : chip.Paced) : 0 < chip.nextEdge.1 := by
  have earliest := chip.earliest_nextEdge
  cases first : chip.nextEdge.2 with
  | false =>
    rw [earliest.last first]
    exact paced.oscillator.ahead
  | true =>
    obtain ⟨-, n, pair, channel, is, due⟩ := earliest.first first
    rw [← due]
    exact (paced.loops is channel).ahead

/-- **When time has passed up to the next edge**, all sources are paced again. -/
theorem passTime (paced : chip.Paced) : (chip.passTime chip.nextEdge.1).Paced := by
  have earliest := chip.earliest_nextEdge
  obtain ⟨cogs, only⟩ := chip.onlyCogs_passTime chip.nextEdge.1
  constructor
  · rw [only]
    exact paced.oscillator.advance paced.nextEdge_pos.le earliest.oscillator
  · intro n after is
    obtain ⟨pair, before, passes⟩ := exists_passed is
    exact passes.paced (paced.loops before) (earliest.loops before)

end Paced

/-! ## Pins and resets -/

/-- Where there is no cog, there is nothing but the oscillator. -/
lemma paced_of_empty (oscillator : chip.oscillator.Paced) (cogs : chip.cogs = emptySlots) :
    chip.Paced where
  oscillator := oscillator
  loops := by
    intro n pair is
    have none : (emptySlots : Vector (Option (Cog Rat)) 8).get n = none :=
      Vector.getElem_replicate n.isLt
    rw [plls?, cogs, none] at is
    cases is

variable [Plugin Rat π]

lemma Paced.notifyPins (paced : chip.Paced) : chip.notifyPins.Paced := by
  rw [notifyPins_eq]
  split <;> exact ⟨paced.oscillator, paced.loops⟩

/-- After a reset, the oscillator and the loops of the first cog start anew. -/
lemma paced_reset (chip : Chip Rat π) : chip.reset.Paced := by
  have emptied : chip.emptied.notifyPins.Paced :=
    (paced_of_empty Oscillator.paced_stopped rfl).notifyPins
  have applied := emptied.applyClockMode chip.emptied.notifyPins.hub.clockMode.withoutReset
  rw [reset_eq, booted]
  refine Paced.startCog ?_ ..
  exact ⟨applied.oscillator, applied.loops⟩

namespace Paced

/-! ## Requests -/

lemma setClockMode (paced : chip.Paced) (mode : ClockMode) : (chip.setClockMode mode).Paced := by
  rw [Chip.setClockMode]
  split
  · exact paced_reset _
  · exact paced.applyClockMode mode

lemma perform (paced : chip.Paced) (requests : List HubAction) : (perform requests chip).Paced := by
  induction requests generalizing chip with
  | nil => exact paced
  | cons request requests ih =>
    cases request with
    | start cog engine program parameter => exact ih (paced.startCog cog engine program parameter)
    | stop cog => exact ih (paced.stopCog cog)
    | setClockMode mode =>
      rw [Chip.perform]
      split
      · exact paced.setClockMode mode
      · exact ih (paced.setClockMode mode)

lemma applyActions (paced : chip.Paced) : chip.applyActions.Paced := by
  have taken : Paced { chip with hub := chip.hub.takeActions.2 } :=
    ⟨paced.oscillator, paced.loops⟩
  exact taken.perform chip.hub.queue

/-! ## Steps -/

lemma advanceUpTo (paced : chip.Paced) (budget : Nat) : (advanceUpTo budget chip).Paced := by
  induction budget generalizing chip with
  | zero => exact paced
  | succ budget ih =>
    simp only [Chip.advanceUpTo]
    split
    · exact ih paced.passTime.notifyPins
    · exact paced.passTime

lemma stepCog (paced : chip.Paced) (id : Fin 8) : (chip.stepCog id).2.Paced := by
  rw [Chip.stepCog, takeCog_eq]
  cases there : chip.cogs.get id with
  | none => exact (paced.takeCog id).applyActions
  | some cog =>
    dsimp only
    refine applyActions ?_
    have stepped := paced.actions there (cog.actions_step chip.hub chip.frameBreak)
    rwa [← putCog_takeCog] at stepped

lemma stepCogs (paced : chip.Paced) (slots : List (Fin 8)) : (stepCogs slots chip).2.Paced := by
  induction slots generalizing chip with
  | nil => exact paced
  | cons id slots ih => exact ih (paced.stepCog id)

lemma hubTurn (paced : chip.Paced) (id : Fin 8) : (chip.hubTurn id).Paced := by
  rw [Chip.hubTurn, takeCog_eq]
  cases there : chip.cogs.get id with
  | none => exact (paced.takeCog id).applyActions
  | some cog =>
    dsimp only
    refine applyActions ?_
    have turned := paced.actions there (cog.actions_hubAccess chip.hub)
    rwa [← putCog_takeCog] at turned

lemma stepSlots (paced : chip.Paced) : chip.stepSlots.Paced := by
  have ringed : Paced { chip with hub := chip.hub.advanceRing.2 } :=
    ⟨paced.oscillator, paced.loops⟩
  exact stepSlots_preserves (fun _ id paced => paced.hubTurn id) (ringed.stepCogs slots)

lemma countClock (paced : chip.Paced) : chip.countClock.Paced :=
  ⟨paced.oscillator, paced.loops⟩

/-- **A system clock** leaves all sources paced. -/
theorem step (paced : chip.Paced) : chip.step.2.Paced := by
  rw [step_eq]
  exact (paced.advanceUpTo edgeBudget).stepSlots.notifyPins.countClock.notifyPins

lemma stepInstruction (paced : chip.Paced) (id : Nat) : (chip.stepInstruction id).2.Paced :=
  stepInstruction_preserves (fun _ paced => paced.step) paced id

/-! ## Operations -/

omit [Plugin Rat π] in
lemma cog? (paced : chip.Paced) {id : Nat} {cog : Cog Rat} (named : chip.cog? id = some cog) :
    cog.body.plls.Paced := by
  rw [Chip.cog?] at named
  split at named
  · next within =>
    have there : chip.cogs.get ⟨id, within⟩ = some cog := named
    exact paced.loops (plls?_of_get there)
  · cases named

omit [Plugin Rat π] in
lemma changeCog (paced : chip.Paced) (id : Nat) {change : Cog Rat → Cog Rat}
    (loops : ∀ cog, cog.body.plls.Paced → (change cog).body.plls.Paced) :
    (chip.changeCog id change).2.Paced := by
  rw [Chip.changeCog]
  split
  · next within =>
    rw [takeCog_eq]
    cases there : chip.cogs.get ⟨id, within⟩ with
    | none => exact paced.takeCog _
    | some cog =>
      exact (paced.takeCog _).putCog chip.hub _ (loops cog (paced.loops (plls?_of_get there)))
  · exact paced

lemma writeRegister (paced : chip.Paced) (id index : Nat) (value : UInt32) :
    (chip.apply (.writeRegister id index value)).Paced := by
  rcases chip.apply_writeRegister id index value with same | ⟨cog, named, written⟩
  · rw [same]
    exact paced
  · have write := CogBody.Action.register cog.body chip.hub (UInt32.ofNat index) value
    rw [written]
    refine paced.changeCog id fun _ _ => ?_
    exact (paced.cog? named).retuned (CogBody.Actions.driven (.single write))

/-- **Every operation** leaves all sources paced. -/
theorem apply (paced : chip.Paced) (operation : Operation π) : (chip.apply operation).Paced := by
  cases operation with
  | load image =>
    rcases chip.apply_load image with same | started
    · rw [same]
      exact paced
    · rw [started]
      exact paced_reset _
  | reset => exact chip.paced_reset
  | step => exact paced.step
  | stepInstruction cog => exact paced.stepInstruction cog
  | setClockMode mode => exact paced.setClockMode mode
  | setBreakpoint cog breakpoint? => exact paced.changeCog cog fun _ loops => loops
  | writeRegister cog index value => exact paced.writeRegister cog index value
  | _ => exact ⟨paced.oscillator, paced.loops⟩

end Paced

/-- **No clock source of a chip is ever overdue**, whatever its programs and plugins do and in
whatever order it is used. -/
theorem paced_run (memory : Memory) (operations : List (Operation π)) :
    ((switchedOn memory : Chip Rat π).run operations).Paced := by
  have first : (switchedOn memory : Chip Rat π).Paced :=
    (paced_of_empty Oscillator.paced_stopped rfl).applyClockMode ⟨0⟩
  exact run_preserves (fun _ operation paced => paced.apply operation) operations first

end P1Chip.Chip
