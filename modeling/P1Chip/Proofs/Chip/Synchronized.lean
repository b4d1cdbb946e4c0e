import P1Chip.Proofs.Chip.Action
import P1Chip.Proofs.Clock.Sources

/-!
# One system clock

The system clock stands in four places: the hub has the clock mode and the frequency that it makes
of the crystal, the system oscillator runs at that frequency, and so does whatever the loops of the
cogs multiply.  A new mode reaches all of them, a new cog starts with the frequency that is noted in
the hub, and a program is loaded only together with a reset.  So they agree at all times.

* `Chip.Synchronized` — all places have the same system clock.
* `Chip.synchronized_applyClockMode` — a new mode reaches all of them, whatever was there before.
* **`Chip.Synchronized.action`** — every small change of a chip keeps them together.
* **`Chip.synchronized_run`** — every chip has one system clock after all operations.
-/

namespace P1Chip

/-- A mode without its reset bit has none. -/
lemma ClockMode.resets_withoutReset (mode : ClockMode) : mode.withoutReset.resets = false := by
  have bit : mode.bits &&& 0x7F &&& 0x80 = 0 := by
    rw [UInt8.and_assoc]
    exact UInt8.and_zero
  simp [resets, withoutReset, bit]

variable {τ π : Type} [Timebase τ]

/-! ## Chips -/

namespace Chip

/-- The mode, the hub, the system oscillator and the loops of all cogs have the same system clock,
and no reset is pending in the mode. -/
structure Synchronized (chip : Chip τ π) : Prop where
  mode : chip.hub.clockMode.resets = false
  core : chip.hub.coreFrequency = chip.hub.clockMode.coreFrequency chip.hub.crystalFrequency
  oscillator : chip.oscillator.frequency = chip.hub.coreFrequency
  loops : ∀ (n : Fin 8) (cog : Cog τ), chip.cogs.get n = some cog →
    cog.body.plls.ClockedAt chip.hub.coreFrequency

namespace Synchronized

variable {chip : Chip τ π}

omit [Timebase τ] in
/-- A cog that changes in its slot, and may have asked the hub for something, does no harm. -/
lemma putCog (h : chip.Synchronized) {hub : Hub} (served : chip.hub.Served hub) (id : Fin 8)
    {cog : Cog τ} (clocked : cog.body.plls.ClockedAt chip.hub.coreFrequency) :
    ({ chip with hub }.putCog id cog).Synchronized := by
  obtain ⟨_, _, _, _, _, rfl⟩ := served
  refine ⟨h.mode, h.core, h.oscillator, fun n other there => ?_⟩
  rw [get_putCog] at there
  split at there
  · cases there
    exact clocked
  · exact h.loops n other there

omit [Timebase τ] in
/-- Neither does one whose loops stay what they are. -/
lemma changed (h : chip.Synchronized) {id : Fin 8} {cog cog' : Cog τ}
    (there : chip.cogs.get id = some cog) (same : cog'.body.plls = cog.body.plls) :
    (chip.putCog id cog').Synchronized := by
  refine h.putCog (.refl _) id ?_
  rw [same]
  exact h.loops id cog there

/-- Neither does one that does what cogs do. -/
lemma actions (h : chip.Synchronized) {hub : Hub} {id : Fin 8} {cog cog' : Cog τ}
    (there : chip.cogs.get id = some cog)
    (run : CogBody.Actions (cog.body, chip.hub) (cog'.body, hub)) :
    ({ chip with hub }.putCog id cog').Synchronized :=
  h.putCog run.served id (run.clockedAt (h.loops id cog there))

omit [Timebase τ] in
/-- Cogs that change without a new system clock do no harm. -/
lemma mapCogs (h : chip.Synchronized) {change : Cog τ → Cog τ}
    (same : ∀ cog, (change cog).body.plls = cog.body.plls) : (chip.mapCogs change).Synchronized := by
  refine ⟨h.mode, h.core, h.oscillator, fun n other there => ?_⟩
  rw [get_mapCogs] at there
  obtain ⟨cog, before, rfl⟩ := Option.map_eq_some_iff.mp there
  rw [same]
  exact h.loops n cog before

lemma startCog (h : chip.Synchronized) (id : Fin 8) (engine : EngineKind)
    (program parameter : UInt32) : (chip.startCog id engine program parameter).Synchronized :=
  h.putCog ⟨_, _, _, _, _, rfl⟩ id (PllPair.clockedAt_setBaseFrequency .off _)

omit [Timebase τ] in
lemma stopCog (h : chip.Synchronized) (id : Fin 8) : (chip.stopCog id).Synchronized := by
  have detached : (chip.mapCogs fun cog => cog.withVideo (·.detachAural id)).Synchronized :=
    h.mapCogs fun _ => rfl
  refine ⟨detached.mode, detached.core, detached.oscillator, fun n other there => ?_⟩
  have left : ((chip.mapCogs fun cog => cog.withVideo (·.detachAural id)).takeCog id).2.cogs.get n
      = some other := there
  rw [get_takeCog] at left
  split at left
  · cases left
  · exact detached.loops n other left

end Synchronized

/-- **A new clock mode** reaches all clocks, whatever they had before. -/
theorem synchronized_applyClockMode (chip : Chip τ π) {mode : ClockMode}
    (runs : mode.resets = false) : (chip.applyClockMode mode).Synchronized where
  mode := runs
  core := rfl
  oscillator := Oscillator.frequency_setFrequency chip.oscillator _
  loops := by
    intro n other there
    have changed : (chip.mapCogs
        (·.setCoreFrequency (chip.hub.setClockMode mode).coreFrequency)).cogs.get n
          = some other := there
    rw [get_mapCogs] at changed
    obtain ⟨cog, -, rfl⟩ := Option.map_eq_some_iff.mp changed
    exact PllPair.clockedAt_setBaseFrequency cog.body.plls _

variable [Plugin τ π]

/-- A reset applies the mode again, without its reset bit. -/
lemma synchronized_reset (chip : Chip τ π) : chip.reset.Synchronized := by
  rw [reset_eq, booted]
  generalize chip.emptied.notifyPins = quiet
  have applied := quiet.synchronized_applyClockMode quiet.hub.clockMode.resets_withoutReset
  generalize quiet.applyClockMode quiet.hub.clockMode.withoutReset = clocked at applied ⊢
  refine Synchronized.startCog ?_ ..
  exact ⟨applied.mode, applied.core, applied.oscillator, applied.loops⟩

namespace Synchronized

variable {chip after : Chip τ π}

lemma clockAction (h : chip.Synchronized) (action : ClockAction chip after) :
    after.Synchronized := by
  cases action with
  | oscillator elapsed =>
    exact ⟨h.mode, h.core, (Oscillator.frequency_advance _ elapsed).trans h.oscillator, h.loops⟩
  | time => exact ⟨h.mode, h.core, h.oscillator, h.loops⟩
  | loops there elapsed => exact h.putCog (.refl _) _ ((h.loops _ _ there).advance elapsed)
  | pixel there => exact h.changed there rfl
  | frame there => exact h.actions there (Cog.actions_frameComplete _ chip.hub)
  | carrier there => exact h.changed there rfl
  | aural id level =>
    refine h.mapCogs fun cog => ?_
    split <;> rfl
  | pins => exact ⟨h.mode, h.core, h.oscillator, h.loops⟩
  | tell => exact ⟨h.mode, h.core, h.oscillator, h.loops⟩

/-- **Every small change** of a chip leaves it with one system clock. -/
theorem action (h : chip.Synchronized) (action : Action chip after) : after.Synchronized := by
  cases action with
  | clock action => exact h.clockAction action
  | cogStep there => exact h.actions there (Cog.actions_step _ chip.hub chip.frameBreak)
  | turn there => exact h.actions there (Cog.actions_hubAccess _ chip.hub)
  | start id engine program parameter => exact h.startCog id engine program parameter
  | stop id => exact h.stopCog id
  | clockMode runs => exact chip.synchronized_applyClockMode runs
  | reset => exact chip.synchronized_reset
  | resetMode mode => exact synchronized_reset _
  | breakpoint there => exact h.changed there rfl
  | register there address value =>
    exact h.actions there (.single (.register _ chip.hub address value))
  | _ => exact ⟨h.mode, h.core, h.oscillator, h.loops⟩

lemma apply (h : chip.Synchronized) (operation : Operation π) :
    (chip.apply operation).Synchronized :=
  apply_preserves (fun _ _ action h => h.action action) (fun _ _ _ => synchronized_reset _)
    (fun _ _ h => ⟨h.mode, h.core, h.oscillator, h.loops⟩) h operation

lemma run (h : chip.Synchronized) (operations : List (Operation π)) :
    (chip.run operations).Synchronized :=
  run_preserves (fun _ operation h => h.apply operation) operations h

end Synchronized

omit [Plugin τ π] in
lemma synchronized_switchedOn (memory : Memory) :
    (switchedOn memory : Chip τ π).Synchronized :=
  synchronized_applyClockMode _ rfl

/-- **Every chip has one system clock**, whatever its programs and plugins do and in whatever order
it is used. -/
theorem synchronized_run (memory : Memory) (operations : List (Operation π)) :
    ((switchedOn memory : Chip τ π).run operations).Synchronized :=
  (synchronized_switchedOn memory).run operations

end Chip

end P1Chip
