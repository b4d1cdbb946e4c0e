import P1Chip.Proofs.Chip.Watching

/-!
# Watching changes nothing

A plugin with a companion that remembers what it was shown is still the same plugin.  Whatever is
done with a chip, it makes no difference to the chip whether its plugins are watched.

* `PluginSet.unwatched`, `Chip.unwatched`, `Operation.unwatched` — without the companions.
* `PluginSet.deliver_unwatched` — calling plugins, watched or not.
* **`Chip.unwatched_run`** — a run of a chip with watched plugins is a run of the chip.
* `Chip.unwatched_run_watchedOn` — also from the moment it was switched on.
-/

namespace P1Chip

variable {τ π : Type}

/-! ## Plugins -/

/-- A plugin without its companion. -/
def Attached.unwatched (a : Attached (Watcher π)) : Attached π where
  id := a.id
  wantsClock := a.wantsClock
  wantsPins := a.wantsPins
  plugin := a.plugin.plugin

namespace PluginSet

/-- The plugins without their companions. -/
def unwatched (set : PluginSet (Watcher π)) : PluginSet π where
  nextId := set.nextId
  attached := set.attached.map Attached.unwatched
  printed := set.printed

lemma unwatched_watched (set : PluginSet π) : set.watched.unwatched = set := by
  simp only [unwatched, watched, List.map_map]
  congr
  exact List.map_id _

lemma unwatched_attach (set : PluginSet (Watcher π)) (watcher : Watcher π) :
    (set.attach watcher).2.unwatched = (set.unwatched.attach watcher.plugin).2 := by
  simp [attach, unwatched, Attached.unwatched]

/-- Plugins ask for more in the same way. -/
lemma unwatched_subscribe (set : PluginSet (Watcher π)) (id : PluginId)
    {change : Attached (Watcher π) → Attached (Watcher π)} {change' : Attached π → Attached π}
    (same : ∀ a, (change a).unwatched = change' a.unwatched) :
    (set.subscribe id change).2.unwatched = (set.unwatched.subscribe id change').2 := by
  have attached : (set.attached.map fun a => if a.id = id then change a else a).map
      Attached.unwatched
        = (set.attached.map Attached.unwatched).map fun a => if a.id = id then change' a else a := by
    rw [List.map_map, List.map_map]
    apply List.map_congr_left
    intro a _
    show (if a.id = id then change a else a).unwatched
      = if a.id = id then change' a.unwatched else a.unwatched
    split
    · exact same a
    · rfl
  simp only [subscribe, unwatched, attached]

/-- **Calls are answered in the same way**, as long as companions answer like their plugins. -/
theorem deliver_unwatched (wants : Attached (Watcher π) → Bool) (wants' : Attached π → Bool)
    (call : Watcher π → ExternalDrive → Reaction (Watcher π))
    (call' : π → ExternalDrive → Reaction π)
    (sameWants : ∀ a, wants a = wants' a.unwatched)
    (same : ∀ watcher external,
      (call watcher external).plugin.plugin = (call' watcher.plugin external).plugin
        ∧ (call watcher external).external = (call' watcher.plugin external).external
        ∧ (call watcher external).lines = (call' watcher.plugin external).lines)
    (attached : List (Attached (Watcher π))) (external : ExternalDrive) :
    deliver wants' call' (attached.map Attached.unwatched) external
      = ((deliver wants call attached external).1.map Attached.unwatched,
        (deliver wants call attached external).2) := by
  induction attached generalizing external with
  | nil => rfl
  | cons a attached ih =>
    obtain ⟨plugin, pins, lines⟩ := same a.plugin external
    simp only [List.map_cons, deliver, ← sameWants a]
    split
    · rw [ih]
      simp [Attached.unwatched, plugin, pins, lines]
    · rw [ih]
      rfl

variable [Plugin τ π]

lemma unwatched_deliverClock (set : PluginSet (Watcher π)) (time : τ) (counter : UInt32)
    (external : ExternalDrive) :
    set.unwatched.deliverClock time counter external
      = ((set.deliverClock time counter external).1.unwatched,
        (set.deliverClock time counter external).2) := by
  have answers := deliver_unwatched (·.wantsClock) (·.wantsClock)
    (fun watcher => Plugin.onClock watcher time counter)
    (fun plugin => Plugin.onClock plugin time counter) (fun _ => rfl)
    (fun _ _ => ⟨rfl, rfl, rfl⟩) set.attached external
  simp only [deliverClock, unwatched, answers]

lemma unwatched_deliverPins (set : PluginSet (Watcher π)) (time : τ) (pins : PinStates)
    (external : ExternalDrive) :
    set.unwatched.deliverPins time pins external
      = ((set.deliverPins time pins external).1.unwatched,
        (set.deliverPins time pins external).2) := by
  have answers := deliver_unwatched (·.wantsPins) (·.wantsPins)
    (fun watcher => Plugin.onPins watcher time pins)
    (fun plugin => Plugin.onPins plugin time pins) (fun _ => rfl)
    (fun _ _ => ⟨rfl, rfl, rfl⟩) set.attached external
  simp only [deliverPins, unwatched, answers]

variable (τ)

lemma unwatched_deliverReset (set : PluginSet (Watcher π)) :
    set.unwatched.deliverReset τ = (set.deliverReset τ).unwatched := by
  simp only [deliverReset, unwatched, List.map_map, List.flatMap_map]
  rfl

lemma unwatched_remove (set : PluginSet (Watcher π)) (id : PluginId) :
    (set.unwatched.remove τ id).2 = (set.remove τ id).2.unwatched := by
  have found : (set.attached.map Attached.unwatched).find? (·.id == id)
      = (set.attached.find? (·.id == id)).map Attached.unwatched := by
    rw [List.find?_map]
    rfl
  have left : (set.attached.map Attached.unwatched).eraseP (·.id == id)
      = (set.attached.eraseP (·.id == id)).map Attached.unwatched := by
    rw [List.eraseP_map]
    rfl
  simp only [remove, unwatched, found, left]
  cases set.attached.find? (·.id == id) <;> rfl

end PluginSet

/-- What is done with a chip, without the companions of plugins that are attached. -/
def Operation.unwatched : Operation (Watcher π) → Operation π
  | .load image => .load image
  | .reset => .reset
  | .step => .step
  | .stepInstruction cog => .stepInstruction cog
  | .setClockMode mode => .setClockMode mode
  | .drivePin pin floating high => .drivePin pin floating high
  | .setFrameBreak frameBreak => .setFrameBreak frameBreak
  | .setBreakpoint cog breakpoint? => .setBreakpoint cog breakpoint?
  | .writeRegister cog index value => .writeRegister cog index value
  | .writeMemory size address value => .writeMemory size address value
  | .attach watcher => .attach watcher.plugin
  | .remove id => .remove id
  | .subscribeClock id => .subscribeClock id
  | .subscribePins id => .subscribePins id

/-! ## Chips -/

namespace Chip

/-- The chip without the companions of its plugins. -/
def unwatched (chip : Chip τ (Watcher π)) : Chip τ π where
  hub := chip.hub
  cogs := chip.cogs
  oscillator := chip.oscillator
  time := chip.time
  resetMemory := chip.resetMemory
  plugins := chip.plugins.unwatched
  frameBreak := chip.frameBreak

lemma unwatched_takeCog (chip : Chip τ (Watcher π)) (id : Fin 8) :
    chip.unwatched.takeCog id = ((chip.takeCog id).1, (chip.takeCog id).2.unwatched) :=
  rfl

lemma unwatched_changeCog (chip : Chip τ (Watcher π)) (id : Nat) (change : Cog τ → Cog τ) :
    chip.unwatched.changeCog id change
      = ((chip.changeCog id change).1, (chip.changeCog id change).2.unwatched) := by
  simp only [changeCog, unwatched_takeCog]
  split
  · next h => rcases chip.takeCog ⟨id, h⟩ with ⟨_ | cog, taken⟩ <;> rfl
  · rfl

lemma unwatched_mapCogs (chip : Chip τ (Watcher π)) (change : Cog τ → Cog τ) :
    chip.unwatched.mapCogs change = (chip.mapCogs change).unwatched :=
  rfl

/-! ### Clocks -/

lemma unwatched_edgeB (chip : Chip τ (Watcher π)) (id : Fin 8) (level : Bool) :
    chip.unwatched.edgeB id level = (chip.edgeB id level).unwatched := by
  simp only [edgeB, unwatched_takeCog]
  rcases chip.takeCog id with ⟨_ | cog, taken⟩ <;> rfl

section Clocks

variable [Timebase τ]

lemma unwatched_writeRegister (chip : Chip τ (Watcher π)) (id index : Nat) (value : UInt32) :
    chip.unwatched.writeRegister id index value
      = (chip.writeRegister id index value).map fun written => (written.1, written.2.unwatched) := by
  have cog : chip.unwatched.cog? id = chip.cog? id := rfl
  simp only [writeRegister, cog]
  cases chip.cog? id with
  | none => rfl
  | some cog =>
    show (cog.writeRegister chip.hub index value).map _ = _
    cases written : cog.writeRegister chip.hub index value with
    | error fault => simp [written, Except.map]
    | ok cog => simp [written, Except.map, unwatched_changeCog]

lemma unwatched_edgeA (chip : Chip τ (Watcher π)) (id : Fin 8) (level : Bool) :
    chip.unwatched.edgeA id level = (chip.edgeA id level).unwatched := by
  simp only [edgeA, unwatched_mapCogs, unwatched_takeCog]
  rcases (chip.mapCogs fun cog => if cog.body.video.auralSource = some id
    then cog.withVideo (·.auralEdge level) else cog).takeCog id with ⟨_ | cog, taken⟩ <;> rfl

lemma unwatched_dispatchEdges (chip : Chip τ (Watcher π)) (id : Fin 8) (edges : PllEdges) :
    chip.unwatched.dispatchEdges id edges = (chip.dispatchEdges id edges).unwatched := by
  rcases edges with ⟨_ | a, _ | b⟩
  · rfl
  · exact chip.unwatched_edgeB id b
  · exact chip.unwatched_edgeA id a
  · simp only [dispatchEdges, unwatched_edgeA, unwatched_edgeB]

lemma unwatched_advanceCog (chip : Chip τ (Watcher π)) (elapsed : τ) (id : Fin 8) :
    chip.unwatched.advanceCog elapsed id = (chip.advanceCog elapsed id).unwatched := by
  simp only [advanceCog, unwatched_takeCog]
  rcases chip.takeCog id with ⟨_ | cog, taken⟩
  · rfl
  · exact unwatched_dispatchEdges (taken.putCog id _) id _

lemma unwatched_advanceAll (chip : Chip τ (Watcher π)) (elapsed : τ) (slots : List (Fin 8)) :
    chip.unwatched.advanceAll elapsed slots = (chip.advanceAll elapsed slots).unwatched := by
  have cogs : ∀ (slots : List (Fin 8)) (chip : Chip τ (Watcher π)),
      slots.foldl (fun chip id => chip.advanceCog elapsed id) chip.unwatched
        = (slots.foldl (fun chip id => chip.advanceCog elapsed id) chip).unwatched := by
    intro slots
    induction slots with
    | nil => exact fun _ => rfl
    | cons id slots ih =>
      intro chip
      rw [List.foldl_cons, List.foldl_cons, unwatched_advanceCog, ih]
  exact cogs slots { chip with oscillator := (chip.oscillator.advance elapsed).2 }

lemma unwatched_later (chip : Chip τ (Watcher π)) (elapsed : τ) :
    chip.unwatched.later elapsed = (chip.later elapsed).unwatched :=
  rfl

lemma unwatched_passTime (chip : Chip τ (Watcher π)) (elapsed : τ) :
    chip.unwatched.passTime elapsed = (chip.passTime elapsed).unwatched := by
  rw [passTime_eq, passTime_eq, unwatched_advanceAll, unwatched_later]

lemma unwatched_nextEdge (chip : Chip τ (Watcher π)) : chip.unwatched.nextEdge = chip.nextEdge :=
  rfl

lemma unwatched_refreshPins (chip : Chip τ (Watcher π)) :
    chip.unwatched.refreshPins = (chip.refreshPins.1, chip.refreshPins.2.unwatched) :=
  rfl

lemma unwatched_booted (chip : Chip τ (Watcher π)) :
    chip.unwatched.booted = chip.booted.unwatched :=
  rfl

end Clocks

section Plugins

variable [Plugin τ π]

lemma unwatched_tell (chip : Chip τ (Watcher π)) : chip.unwatched.tell = chip.tell.unwatched := by
  have told := PluginSet.unwatched_deliverPins chip.plugins chip.time chip.hub.pinStates
    chip.hub.external
  simp only [tell, unwatched, told]

lemma unwatched_countClock (chip : Chip τ (Watcher π)) :
    chip.unwatched.countClock = chip.countClock.unwatched := by
  have told := PluginSet.unwatched_deliverClock chip.plugins chip.time
    chip.hub.incrementCounter.counter chip.hub.incrementCounter.external
  simp only [countClock, unwatched, told]

end Plugins

/-! ### Requests and resets -/

variable [Timebase τ] [Plugin τ π]

lemma unwatched_notifyPins (chip : Chip τ (Watcher π)) :
    chip.unwatched.notifyPins = chip.notifyPins.unwatched := by
  rw [notifyPins_eq, notifyPins_eq, unwatched_refreshPins]
  split
  · exact unwatched_tell chip.refreshPins.2
  · rfl

lemma unwatched_emptied (chip : Chip τ (Watcher π)) :
    chip.unwatched.emptied = chip.emptied.unwatched := by
  simp only [emptied, unwatched, PluginSet.unwatched_deliverReset]

lemma unwatched_reset (chip : Chip τ (Watcher π)) :
    chip.unwatched.reset = chip.reset.unwatched := by
  rw [reset_eq, reset_eq, unwatched_emptied, unwatched_notifyPins, unwatched_booted]

lemma unwatched_setClockMode (chip : Chip τ (Watcher π)) (mode : ClockMode) :
    chip.unwatched.setClockMode mode = (chip.setClockMode mode).unwatched := by
  simp only [setClockMode]
  split
  · exact unwatched_reset { chip with hub := chip.hub.setClockMode mode }
  · rfl

lemma unwatched_perform (requests : List HubAction) (chip : Chip τ (Watcher π)) :
    perform requests chip.unwatched = (perform requests chip).unwatched := by
  induction requests generalizing chip with
  | nil => rfl
  | cons request requests ih =>
    cases request with
    | start cog engine program parameter => exact ih (chip.startCog cog engine program parameter)
    | stop cog => exact ih (chip.stopCog cog)
    | setClockMode mode =>
      rw [perform, perform, unwatched_setClockMode, ih]
      split <;> rfl

lemma unwatched_applyActions (chip : Chip τ (Watcher π)) :
    chip.unwatched.applyActions = chip.applyActions.unwatched :=
  unwatched_perform chip.hub.queue { chip with hub := chip.hub.takeActions.2 }

/-! ### Steps -/

lemma unwatched_advanceUpTo (budget : Nat) (chip : Chip τ (Watcher π)) :
    advanceUpTo budget chip.unwatched = (advanceUpTo budget chip).unwatched := by
  induction budget generalizing chip with
  | zero => rfl
  | succ budget ih =>
    simp only [advanceUpTo, unwatched_nextEdge, unwatched_passTime, unwatched_notifyPins, ih]
    split <;> rfl

lemma unwatched_stepCog (chip : Chip τ (Watcher π)) (id : Fin 8) :
    chip.unwatched.stepCog id = ((chip.stepCog id).1, (chip.stepCog id).2.unwatched) := by
  simp only [stepCog, unwatched_takeCog]
  rcases chip.takeCog id with ⟨_ | cog, taken⟩
  · exact congrArg (_, ·) taken.unwatched_applyActions
  · let stepped := cog.step taken.hub taken.frameBreak
    have applied := unwatched_applyActions
      ({ taken with hub := stepped.2.2 }.putCog id stepped.2.1)
    exact congrArg (stepped.1, ·) applied

lemma unwatched_stepCogs (slots : List (Fin 8)) (chip : Chip τ (Watcher π)) :
    stepCogs slots chip.unwatched
      = ((stepCogs slots chip).1, (stepCogs slots chip).2.unwatched) := by
  induction slots generalizing chip with
  | nil => rfl
  | cons id slots ih => simp only [stepCogs, unwatched_stepCog, ih]

lemma unwatched_hubTurn (chip : Chip τ (Watcher π)) (id : Fin 8) :
    chip.unwatched.hubTurn id = (chip.hubTurn id).unwatched := by
  simp only [hubTurn, unwatched_takeCog]
  rcases chip.takeCog id with ⟨_ | cog, taken⟩
  · exact taken.unwatched_applyActions
  · let turn := cog.hubAccess taken.hub
    exact unwatched_applyActions ({ taken with hub := turn.2 }.putCog id turn.1)

lemma unwatched_stepSlots (chip : Chip τ (Watcher π)) :
    chip.unwatched.stepSlots = chip.stepSlots.unwatched := by
  have hub : chip.unwatched.hub = chip.hub := rfl
  have ring : ({ chip.unwatched with hub := chip.hub.advanceRing.2 } : Chip τ π)
      = ({ chip with hub := chip.hub.advanceRing.2 } : Chip τ (Watcher π)).unwatched := rfl
  simp only [stepSlots, hub, ring, unwatched_stepCogs]
  generalize (stepCogs slots { chip with hub := chip.hub.advanceRing.2 }).2 = stepped
  cases chip.hub.advanceRing.1 with
  | none => rfl
  | some id => exact stepped.unwatched_hubTurn id

/-- The outcome of a step is that of its cogs. -/
lemma step_outcome (chip : Chip τ π) :
    chip.step.1 = (stepCogs slots
      { chip.advanceClocks with hub := chip.advanceClocks.hub.advanceRing.2 }).1 := by
  simp only [step]

lemma unwatched_step (chip : Chip τ (Watcher π)) :
    chip.unwatched.step = (chip.step.1, chip.step.2.unwatched) := by
  have clocked : chip.unwatched.advanceClocks = chip.advanceClocks.unwatched :=
    chip.unwatched_advanceUpTo edgeBudget
  have outcome : chip.unwatched.step.1 = chip.step.1 := by
    rw [step_outcome, step_outcome, clocked]
    generalize chip.advanceClocks = clocked
    have ring : ({ clocked.unwatched with hub := clocked.unwatched.hub.advanceRing.2 } : Chip τ π)
        = ({ clocked with hub := clocked.hub.advanceRing.2 } : Chip τ (Watcher π)).unwatched := rfl
    rw [ring, unwatched_stepCogs]
  have chips : chip.unwatched.step.2 = chip.step.2.unwatched := by
    rw [step_eq, step_eq, clocked, unwatched_stepSlots, unwatched_notifyPins,
      unwatched_countClock, unwatched_notifyPins]
  rw [← outcome, ← chips]

lemma unwatched_stepWhileBusy (id limit : Nat) (chip : Chip τ (Watcher π)) :
    stepWhileBusy id limit chip.unwatched
      = ((stepWhileBusy id limit chip).1, (stepWhileBusy id limit chip).2.unwatched) := by
  induction limit generalizing chip with
  | zero => rfl
  | succ limit ih =>
    have busy (chip : Chip τ (Watcher π)) : chip.unwatched.isBusy id = chip.isBusy id := rfl
    simp only [stepWhileBusy, unwatched_step]
    rcases chip.step with ⟨_ | _ | _, stepped⟩
    · rfl
    · rfl
    · simp only [busy, ih]
      split <;> rfl

/-! ### Operations -/

lemma unwatched_load (chip : Chip τ (Watcher π)) (image : ByteArray) :
    chip.unwatched.load image = (chip.load image).map unwatched := by
  simp only [load]
  split
  · rfl
  · split
    · rfl
    · simp only [Except.map]
      rw [← unwatched_reset]
      rfl

/-- One operation does the same to a chip, whether its plugins are watched or not. -/
theorem unwatched_apply (chip : Chip τ (Watcher π)) (operation : Operation (Watcher π)) :
    (chip.apply operation).unwatched = chip.unwatched.apply operation.unwatched := by
  cases operation with
  | load image =>
    simp only [apply, Operation.unwatched, unwatched_load]
    cases chip.load image <;> rfl
  | reset => exact chip.unwatched_reset.symm
  | step =>
    simp only [apply, Operation.unwatched, unwatched_step]
  | stepInstruction cog =>
    simp only [apply, Operation.unwatched, stepInstruction, unwatched_stepWhileBusy]
  | setClockMode mode => exact (chip.unwatched_setClockMode mode).symm
  | drivePin pin floating high => rfl
  | setFrameBreak frameBreak => rfl
  | setBreakpoint cog breakpoint? =>
    exact (congrArg (·.2) (chip.unwatched_changeCog cog (·.setBreakpoint breakpoint?))).symm
  | writeRegister cog index value =>
    simp only [apply, Operation.unwatched, unwatched_writeRegister]
    cases chip.writeRegister cog index value <;> rfl
  | writeMemory size address value => rfl
  | attach watcher =>
    exact congrArg (fun plugins => chip.unwatched.withPlugins fun _ => plugins)
      (chip.plugins.unwatched_attach watcher)
  | remove id =>
    exact congrArg (fun plugins => chip.unwatched.withPlugins fun _ => plugins)
      (chip.plugins.unwatched_remove τ id).symm
  | subscribeClock id =>
    exact congrArg (fun plugins => chip.unwatched.withPlugins fun _ => plugins)
      (chip.plugins.unwatched_subscribe id fun _ => rfl)
  | subscribePins id =>
    exact congrArg (fun plugins => chip.unwatched.withPlugins fun _ => plugins)
      (chip.plugins.unwatched_subscribe id fun _ => rfl)

/-- **Watching changes nothing.**  A run of a chip with watched plugins is a run of the chip. -/
theorem unwatched_run (operations : List (Operation (Watcher π))) (chip : Chip τ (Watcher π)) :
    (chip.run operations).unwatched = chip.unwatched.run (operations.map Operation.unwatched) := by
  induction operations generalizing chip with
  | nil => rfl
  | cons operation operations ih =>
    have head := chip.unwatched_apply operation
    have rest := ih (chip.apply operation)
    rw [head] at rest
    exact rest

/-- In particular, what happens to watched plugins from the moment a chip is switched on is what
happens to the plugins. -/
theorem unwatched_run_watchedOn (memory : Memory) (plugins : PluginSet π)
    (operations : List (Operation (Watcher π))) :
    ((watchedOn memory plugins : Chip τ (Watcher π)).run operations).unwatched
      = ((switchedOn memory).withPlugins fun _ => plugins).run
          (operations.map Operation.unwatched) := by
  have start : (watchedOn memory plugins : Chip τ (Watcher π)).unwatched
      = (switchedOn memory).withPlugins fun _ => plugins :=
    congrArg (fun plugins => (switchedOn memory).withPlugins fun _ => plugins)
      plugins.unwatched_watched
  rw [unwatched_run, start]

end Chip

end P1Chip
