import P1Chip.Proofs.Chip.Operation
import P1Chip.Proofs.Chip.Parts
import P1Chip.Proofs.Cog.Step

/-!
# What a chip can do

A step of a chip is made of small changes of two kinds: while time passes, the clocks go on and
their edges reach the video generators, and after that the cogs have their turns and what they ask
for is carried out.  So is everything else that the user of a chip does, unless another program is
loaded or the plugins change.  Whatever holds at first and survives each of these changes holds of
every chip at all times.

* `Chip.ClockAction` — one small change while time passes.
* `Chip.Action` — one small change of a chip.
* `Chip.Actions.preserves` — what survives each of them survives any number of them.
* **`Chip.clockActions_advanceClocks`** — time that passes makes only changes of the first kind.
* **`Chip.actions_step`**, **`Chip.actions_apply`** — steps and operations are made of actions.
* **`Chip.apply_preserves`** — so what survives actions survives operations.
-/

namespace P1Chip

open Relation

/-- Whether an operation leaves the program and the plugins as they are. -/
def Operation.keepsProgram {π : Type} : Operation π → Bool
  | .load _ | .attach _ | .remove _ | .subscribeClock _ | .subscribePins _ => false
  | _ => true

namespace Chip

variable {τ π : Type} [Timebase τ] [Plugin τ π]

/-- One small change of a chip while time passes. -/
inductive ClockAction : Chip τ π → Chip τ π → Prop
  /-- The system oscillator goes on. -/
  | oscillator (chip : Chip τ π) (elapsed : τ) :
      ClockAction chip { chip with oscillator := (chip.oscillator.advance elapsed).2 }
  /-- The time is noted. -/
  | time (chip : Chip τ π) (elapsed : τ) : ClockAction chip (chip.later elapsed)
  /-- The loops of a cog go on. -/
  | loops {chip : Chip τ π} {id : Fin 8} {cog : Cog τ} (there : chip.cogs.get id = some cog)
      (elapsed : τ) : ClockAction chip (chip.putCog id (cog.advance elapsed).2)
  /-- The pixel clock of a video generator has an edge. -/
  | pixel {chip : Chip τ π} {id : Fin 8} {cog : Cog τ} (there : chip.cogs.get id = some cog)
      (level : Bool) :
      ClockAction chip (chip.putCog id (cog.withVideo fun video => (video.colorEdge level).2))
  /-- The end of a video frame reaches its cog. -/
  | frame {chip : Chip τ π} {id : Fin 8} {cog : Cog τ} (there : chip.cogs.get id = some cog) :
      ClockAction chip (chip.putCog id (cog.frameComplete chip.hub.running))
  /-- The carrier of a video generator has an edge. -/
  | carrier {chip : Chip τ π} {id : Fin 8} {cog : Cog τ} (there : chip.cogs.get id = some cog)
      (level : Bool) : ClockAction chip (chip.putCog id (cog.withVideo (·.carrierEdge level)))
  /-- The aural subcarrier of the generators that listen to a cog has an edge. -/
  | aural (chip : Chip τ π) (id : Fin 8) (level : Bool) :
      ClockAction chip (chip.mapCogs fun cog =>
        if cog.body.video.auralSource = some id then cog.withVideo (·.auralEdge level) else cog)
  /-- What the cogs drive is put onto the pins. -/
  | pins (chip : Chip τ π) : ClockAction chip chip.refreshPins.2
  /-- The plugins are told of the pins. -/
  | tell (chip : Chip τ π) : ClockAction chip chip.tell

/-- One small change of a chip, by the program that it runs or by its user. -/
inductive Action : Chip τ π → Chip τ π → Prop
  | clock {before after : Chip τ π} (action : ClockAction before after) : Action before after
  /-- The ring moves on. -/
  | ring (chip : Chip τ π) : Action chip { chip with hub := chip.hub.advanceRing.2 }
  /-- A cog has its clock. -/
  | cogStep {chip : Chip τ π} {id : Fin 8} {cog : Cog τ} (there : chip.cogs.get id = some cog) :
      Action chip
        ({ chip with hub := (cog.step chip.hub chip.frameBreak).2.2 }.putCog id
          (cog.step chip.hub chip.frameBreak).2.1)
  /-- A cog has its turn on the hub. -/
  | turn {chip : Chip τ π} {id : Fin 8} {cog : Cog τ} (there : chip.cogs.get id = some cog) :
      Action chip
        ({ chip with hub := (cog.hubAccess chip.hub).2 }.putCog id (cog.hubAccess chip.hub).1)
  /-- Requests leave the queue of the hub. -/
  | requests (chip : Chip τ π) : Action chip { chip with hub := chip.hub.takeActions.2 }
  | start (chip : Chip τ π) (id : Fin 8) (engine : EngineKind) (program parameter : UInt32) :
      Action chip (chip.startCog id engine program parameter)
  | stop (chip : Chip τ π) (id : Fin 8) : Action chip (chip.stopCog id)
  | clockMode (chip : Chip τ π) {mode : ClockMode} (runs : mode.resets = false) :
      Action chip (chip.applyClockMode mode)
  | reset (chip : Chip τ π) : Action chip chip.reset
  /-- A mode with the reset bit is set. -/
  | resetMode (chip : Chip τ π) (mode : ClockMode) :
      Action chip { chip with hub := chip.hub.setClockMode mode }.reset
  /-- The system clock is counted. -/
  | count (chip : Chip τ π) : Action chip chip.countClock
  | drivePin (chip : Chip τ π) (pin : UInt32) (floating high : Bool) :
      Action chip (chip.drivePin pin floating high)
  | frameBreak (chip : Chip τ π) (frameBreak : FrameBreak) : Action chip { chip with frameBreak }
  | breakpoint {chip : Chip τ π} {id : Fin 8} {cog : Cog τ} (there : chip.cogs.get id = some cog)
      (breakpoint? : Option UInt32) :
      Action chip (chip.putCog id (cog.setBreakpoint breakpoint?))
  | register {chip : Chip τ π} {id : Fin 8} {cog : Cog τ} (there : chip.cogs.get id = some cog)
      (address value : UInt32) :
      Action chip (chip.putCog id
        { cog with body := cog.body.writeRegister chip.hub.running address value })
  | memory (chip : Chip τ π) (size : DataSize) (address value : UInt32) :
      Action chip (chip.withMemory (·.write size address value))

/-- Any number of small changes while time passes. -/
abbrev ClockActions : Chip τ π → Chip τ π → Prop :=
  ReflTransGen ClockAction

/-- Any number of small changes. -/
abbrev Actions : Chip τ π → Chip τ π → Prop :=
  ReflTransGen Action

/-- **The induction over actions.**  What survives each of them survives all of them. -/
theorem Actions.preserves {P : Chip τ π → Prop}
    (survives : ∀ before after, Action before after → P before → P after)
    {before after : Chip τ π} (run : Actions before after) (h : P before) : P after := by
  induction run with
  | refl => exact h
  | tail _ last ih => exact survives _ _ last ih

lemma ClockActions.actions {before after : Chip τ π} (run : ClockActions before after) :
    Actions before after := by
  induction run with
  | refl => exact .refl
  | tail _ last ih => exact ih.tail (.clock last)

/-! ## Time -/

lemma clockActions_edgeB (chip : Chip τ π) (id : Fin 8) (level : Bool) :
    ClockActions chip (chip.edgeB id level) := by
  rw [edgeB, takeCog_eq]
  cases there : chip.cogs.get id with
  | none =>
    rw [takeCog_of_none there]
  | some cog =>
    dsimp only
    rw [putCog_takeCog]
    exact .single (.carrier there level)

lemma clockActions_edgeA (chip : Chip τ π) (id : Fin 8) (level : Bool) :
    ClockActions chip (chip.edgeA id level) := by
  refine .head (.aural chip id level) ?_
  rw [edgeA]
  generalize (chip.mapCogs fun cog =>
    if cog.body.video.auralSource = some id then cog.withVideo (·.auralEdge level) else cog)
      = heard
  rw [takeCog_eq]
  cases there : heard.cogs.get id with
  | none =>
    rw [takeCog_of_none there]
  | some cog =>
    let shown := cog.withVideo fun video => (video.colorEdge level).2
    have edge : ClockActions heard (heard.putCog id shown) := .single (.pixel there level)
    dsimp only
    rw [putCog_takeCog]
    split
    · have put : (heard.putCog id shown).cogs.get id = some shown := by
        rw [get_putCog, if_pos rfl]
      have ended := edge.tail (.frame put)
      rw [putCog_putCog] at ended
      exact ended
    · exact edge

lemma clockActions_dispatchEdges (chip : Chip τ π) (id : Fin 8) (edges : PllEdges) :
    ClockActions chip (chip.dispatchEdges id edges) := by
  rcases edges with ⟨_ | a, _ | b⟩
  · exact .refl
  · exact chip.clockActions_edgeB id b
  · exact chip.clockActions_edgeA id a
  · exact (chip.clockActions_edgeA id a).trans (clockActions_edgeB _ id b)

lemma clockActions_advanceCog (chip : Chip τ π) (elapsed : τ) (id : Fin 8) :
    ClockActions chip (chip.advanceCog elapsed id) := by
  rw [advanceCog, takeCog_eq]
  cases there : chip.cogs.get id with
  | none =>
    rw [takeCog_of_none there]
  | some cog =>
    dsimp only
    rw [putCog_takeCog]
    exact .head (.loops there elapsed) (clockActions_dispatchEdges _ id _)

lemma clockActions_passTime (chip : Chip τ π) (elapsed : τ) :
    ClockActions chip (chip.passTime elapsed) := by
  have advanced : ClockActions chip (chip.advanceAll elapsed slots) :=
    advanceAll_preserves (fun _ id run => run.trans (clockActions_advanceCog _ elapsed id))
      (.single (.oscillator chip elapsed)) slots
  rw [passTime_eq]
  exact advanced.tail (.time _ elapsed)

lemma clockActions_notifyPins (chip : Chip τ π) : ClockActions chip chip.notifyPins := by
  rw [notifyPins_eq]
  split
  · exact .tail (.single (.pins chip)) (.tell _)
  · exact .single (.pins chip)

/-- **Time that passes** changes clocks, video generators and pins only. -/
theorem clockActions_advanceClocks (chip : Chip τ π) : ClockActions chip chip.advanceClocks := by
  have upTo : ∀ (budget : Nat) (chip : Chip τ π), ClockActions chip (advanceUpTo budget chip) := by
    intro budget
    induction budget with
    | zero => exact fun _ => .refl
    | succ budget ih =>
      intro chip
      simp only [advanceUpTo]
      split
      · exact (chip.clockActions_passTime _).trans ((clockActions_notifyPins _).trans (ih _))
      · exact chip.clockActions_passTime _
  exact upTo edgeBudget chip

/-! ## Requests -/

lemma actions_setClockMode (chip : Chip τ π) (mode : ClockMode) :
    Actions chip (chip.setClockMode mode) := by
  rw [setClockMode]
  split
  · exact .single (.resetMode chip mode)
  · next runs => exact .single (.clockMode chip (Bool.eq_false_iff.mpr runs))

lemma actions_perform (requests : List HubAction) (chip : Chip τ π) :
    Actions chip (perform requests chip) := by
  induction requests generalizing chip with
  | nil => exact .refl
  | cons request requests ih =>
    cases request with
    | start cog engine program parameter =>
      exact .head (.start chip cog engine program parameter) (ih _)
    | stop cog => exact .head (.stop chip cog) (ih _)
    | setClockMode mode =>
      rw [perform]
      split
      · exact chip.actions_setClockMode mode
      · exact (chip.actions_setClockMode mode).trans (ih _)

lemma actions_applyActions (chip : Chip τ π) : Actions chip chip.applyActions :=
  .head (.requests chip) (actions_perform chip.hub.queue _)

/-! ## Steps -/

lemma actions_stepCog (chip : Chip τ π) (id : Fin 8) : Actions chip (chip.stepCog id).2 := by
  rw [stepCog, takeCog_eq]
  cases there : chip.cogs.get id with
  | none =>
    rw [takeCog_of_none there]
    exact chip.actions_applyActions
  | some cog =>
    have stepped := Action.cogStep there
    rw [← putCog_takeCog] at stepped
    exact .head stepped (actions_applyActions _)

lemma actions_stepCogs (slots : List (Fin 8)) (chip : Chip τ π) :
    Actions chip (stepCogs slots chip).2 := by
  induction slots generalizing chip with
  | nil => exact .refl
  | cons id slots ih => exact (chip.actions_stepCog id).trans (ih _)

lemma actions_hubTurn (chip : Chip τ π) (id : Fin 8) : Actions chip (chip.hubTurn id) := by
  rw [hubTurn, takeCog_eq]
  cases there : chip.cogs.get id with
  | none =>
    rw [takeCog_of_none there]
    exact chip.actions_applyActions
  | some cog =>
    have turned := Action.turn there
    rw [← putCog_takeCog] at turned
    exact .head turned (actions_applyActions _)

lemma actions_stepSlots (chip : Chip τ π) : Actions chip chip.stepSlots := by
  have stepped : Actions chip (stepCogs slots { chip with hub := chip.hub.advanceRing.2 }).2 :=
    .head (.ring chip) (actions_stepCogs slots _)
  exact stepSlots_preserves (P := Actions chip)
    (fun after id run => run.trans (after.actions_hubTurn id)) stepped

/-- **A system clock** is made of actions. -/
theorem actions_step (chip : Chip τ π) : Actions chip chip.step.2 := by
  have told (chip : Chip τ π) : Actions chip chip.notifyPins := chip.clockActions_notifyPins.actions
  have stepped := chip.clockActions_advanceClocks.actions.trans (actions_stepSlots _)
  rw [step_eq]
  exact ((stepped.trans (told _)).tail (.count _)).trans (told _)

lemma actions_stepInstruction (chip : Chip τ π) (id : Nat) :
    Actions chip (chip.stepInstruction id).2 :=
  stepInstruction_preserves (P := Actions chip) (fun after run => run.trans after.actions_step)
    .refl id

/-! ## Operations -/

/-- What is done to the cog in a slot is an action if it is one of that cog. -/
lemma actions_changeCog (chip : Chip τ π) (id : Nat) (change : Cog τ → Cog τ)
    (action : ∀ {slot : Fin 8} {cog : Cog τ}, slot.val = id → chip.cogs.get slot = some cog →
      Action chip (chip.putCog slot (change cog))) :
    Actions chip (chip.changeCog id change).2 := by
  rw [changeCog]
  split
  · next within =>
    rw [takeCog_eq]
    cases there : chip.cogs.get ⟨id, within⟩ with
    | none =>
      rw [takeCog_of_none there]
    | some cog =>
      dsimp only
      rw [putCog_takeCog]
      exact .single (action rfl there)
  · exact .refl

lemma actions_writeRegister (chip : Chip τ π) (id index : Nat) (value : UInt32) :
    Actions chip (chip.apply (.writeRegister id index value)) := by
  rcases chip.apply_writeRegister id index value with same | ⟨cog, named, written⟩
  · rw [same]
  · rw [written]
    refine chip.actions_changeCog id _ fun {slot other} same there => ?_
    subst same
    rw [cog?, dif_pos slot.isLt] at named
    cases there.symm.trans named
    exact .register there (UInt32.ofNat index) value

/-- **Every operation** that keeps program and plugins is made of actions. -/
theorem actions_apply (chip : Chip τ π) {operation : Operation π}
    (keeps : operation.keepsProgram) : Actions chip (chip.apply operation) := by
  cases operation with
  | reset => exact .single (.reset chip)
  | step => exact chip.actions_step
  | stepInstruction cog => exact chip.actions_stepInstruction cog
  | setClockMode mode => exact chip.actions_setClockMode mode
  | drivePin pin floating high => exact .single (.drivePin chip pin floating high)
  | setFrameBreak frameBreak => exact .single (.frameBreak chip frameBreak)
  | setBreakpoint cog breakpoint? =>
    exact chip.actions_changeCog cog _ fun _ there => .breakpoint there breakpoint?
  | writeRegister cog index value => exact chip.actions_writeRegister cog index value
  | writeMemory size address value => exact .single (.memory chip size address value)
  | _ => cases keeps

/-- So is every run in which all of them do. -/
theorem actions_run (operations : List (Operation π)) (chip : Chip τ π)
    (keep : ∀ operation ∈ operations, operation.keepsProgram) :
    Actions chip (chip.run operations) := by
  induction operations generalizing chip with
  | nil => exact .refl
  | cons operation operations ih =>
    have first := chip.actions_apply (keep operation List.mem_cons_self)
    have rest := ih (chip.apply operation) fun other within =>
      keep other (List.mem_cons_of_mem _ within)
    exact first.trans rest

/-- **The induction over operations.**  What survives every small change, the start of a program
that was just loaded and other plugins survives everything that is done with a chip. -/
theorem apply_preserves {P : Chip τ π → Prop}
    (action : ∀ before after, Action before after → P before → P after)
    (load : ∀ chip image, P chip → P (chip.loaded image).reset)
    (plugins : ∀ chip change, P chip → P (chip.withPlugins change)) {chip : Chip τ π} (h : P chip)
    (operation : Operation π) : P (chip.apply operation) := by
  have others (keeps : operation.keepsProgram) : P (chip.apply operation) :=
    (chip.actions_apply keeps).preserves action h
  cases operation with
  | load image =>
    rcases chip.apply_load image with same | started
    · rw [same]
      exact h
    · rw [started]
      exact load chip image h
  | attach plugin =>
    rw [apply]
    exact plugins chip _ h
  | remove id =>
    rw [apply]
    exact plugins chip _ h
  | subscribeClock id =>
    rw [apply]
    exact plugins chip _ h
  | subscribePins id =>
    rw [apply]
    exact plugins chip _ h
  | _ => exact others rfl

end Chip

end P1Chip
