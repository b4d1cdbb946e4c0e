import P1Chip.Proofs.Chip.Parts
import P1Chip.Proofs.Cog.Step
import P1Chip.Proofs.Pins.Watcher

/-!
# Plugins that know the pins

Plugins that asked for it are told of the pins whenever something has changed on them.  A chip
looks for changes by comparing the pins before and after it has asked the cogs again, so a change
that was made to the pins themselves goes unnoticed.  There is one of that kind: a reset takes all
outputs away before it looks.

* `Chip.Informed` — every plugin has seen the pins as they are, or is going to be told.
* `Chip.SamePins` — nothing has happened that a plugin could see.
* `Chip.Cleared` — a reset has taken the outputs away.
* `Chip.Aftermath` — one or the other, which is all that the parts of a step can do.
* **`Chip.informed_tell`** — whoever is told is informed.
* **`Chip.cleared_reset`** — a reset takes the outputs away.
* **`Chip.Aftermath.informed_iff`** — when the informed stay informed.
-/

namespace P1Chip.Chip

variable {τ π : Type}

/-- Every plugin that asked for it has seen the pins as they are, or else it is noted that they
have changed. -/
def Informed (chip : Chip τ (Watcher π)) : Prop :=
  chip.hub.external.changed = true ∨ ∀ seen ∈ chip.plugins.shown, seen = chip.hub.pinStates

instance (chip : Chip τ (Watcher π)) : Decidable chip.Informed :=
  inferInstanceAs (Decidable (_ ∨ _))

/-! ## Nothing to see -/

/-- The pins are as they were, and so is what the plugins were shown of them. -/
structure SamePins (before after : Chip τ (Watcher π)) : Prop where
  dir : after.hub.dir = before.hub.dir
  out : after.hub.out = before.hub.out
  external : after.hub.external = before.hub.external
  shown : after.plugins.shown = before.plugins.shown

namespace SamePins

variable {chip chip' chip'' : Chip τ (Watcher π)}

lemma refl (chip : Chip τ (Watcher π)) : SamePins chip chip :=
  ⟨rfl, rfl, rfl, rfl⟩

lemma trans (first : SamePins chip chip') (second : SamePins chip' chip'') :
    SamePins chip chip'' where
  dir := second.dir.trans first.dir
  out := second.out.trans first.out
  external := second.external.trans first.external
  shown := second.shown.trans first.shown

lemma pinStates (same : SamePins chip chip') : chip'.hub.pinStates = chip.hub.pinStates :=
  Hub.pinStates_congr same.dir same.out (by rw [same.external]) (by rw [same.external])

/-- Who was informed still is. -/
lemma informed_iff (same : SamePins chip chip') : chip'.Informed ↔ chip.Informed := by
  simp only [Informed, same.external, same.shown, same.pinStates]

lemma later [Timebase τ] (same : SamePins chip chip') (elapsed : τ) :
    SamePins chip (chip'.later elapsed) :=
  ⟨same.dir, same.out, same.external, same.shown⟩

end SamePins

/-! ## Outputs that are gone -/

/-- A reset has taken the outputs away.  If there was something to tell, the plugins have been told
of that too, and otherwise nothing was said. -/
structure Cleared (before after : Chip τ (Watcher π)) : Prop where
  dir : after.hub.dir = 0
  watchers : after.plugins.shown.length = before.plugins.shown.length
  told : before.hub.external.changed = true → after.Informed
  untold : before.hub.external.changed = false →
    after.hub.external = before.hub.external ∧ after.plugins.shown = before.plugins.shown

lemma SamePins.cleared {chip chip' chip'' : Chip τ (Watcher π)} (same : SamePins chip chip')
    (cleared : Cleared chip' chip'') : Cleared chip chip'' where
  dir := cleared.dir
  watchers := by
    rw [← same.shown]
    exact cleared.watchers
  told := by
    rw [← same.external]
    exact cleared.told
  untold := by
    rw [← same.external, ← same.shown]
    exact cleared.untold

lemma Cleared.samePins {chip chip' chip'' : Chip τ (Watcher π)} (cleared : Cleared chip chip')
    (same : SamePins chip' chip'') : Cleared chip chip'' where
  dir := same.dir.trans cleared.dir
  watchers := by
    rw [same.shown]
    exact cleared.watchers
  told := fun h => same.informed_iff.mpr (cleared.told h)
  untold := by
    rw [same.external, same.shown]
    exact cleared.untold

/-- Either nothing has happened that a plugin could see, or the chip was reset. -/
def Aftermath (before after : Chip τ (Watcher π)) : Prop :=
  SamePins before after ∨ Cleared before after

lemma Aftermath.samePins {chip chip' chip'' : Chip τ (Watcher π)} (after : Aftermath chip chip')
    (same : SamePins chip' chip'') : Aftermath chip chip'' :=
  after.imp (·.trans same) (·.samePins same)

lemma Aftermath.watchers {before after : Chip τ (Watcher π)} (h : Aftermath before after) :
    after.plugins.shown.length = before.plugins.shown.length :=
  h.elim (fun same => by rw [same.shown]) (·.watchers)

/-- **What a reset does to the informed**: they stay informed exactly if there was something to
tell or no output to be taken away. -/
theorem Aftermath.informed_iff {before after : Chip τ (Watcher π)} (h : Aftermath before after)
    (informed : before.Informed) (watched : 0 < before.plugins.shown.length) :
    after.Informed ↔ before.hub.external.changed = true ∨ after.hub.dir = before.hub.dir := by
  rcases h with same | cleared
  · exact ⟨fun _ => .inr same.dir, fun _ => same.informed_iff.mpr informed⟩
  · cases changed : before.hub.external.changed with
    | true => exact ⟨fun _ => .inl rfl, fun _ => cleared.told changed⟩
    | false =>
      obtain ⟨external, shown⟩ := cleared.untold changed
      have seen : ∀ seen ∈ before.plugins.shown, seen = before.hub.pinStates :=
        informed.resolve_left (by rw [changed]; nofun)
      constructor
      · intro still
        refine .inr ?_
        by_contra outputs
        rw [cleared.dir] at outputs
        obtain ⟨pins, hp⟩ := List.exists_mem_of_length_pos watched
        have now := still.resolve_left (by rw [external, changed]; nofun) pins (shown ▸ hp)
        exact Hub.pinStates_ne (Ne.symm outputs) cleared.dir (now.symm.trans (seen pins hp))
      · intro silent
        have dir := silent.resolve_left nofun
        refine .inr ?_
        rw [shown, Hub.pinStates_of_dir_eq_zero (dir ▸ cleared.dir) cleared.dir external]
        exact seen

/-! ## Cogs and clocks -/

/-- A pin that is driven from outside is noted. -/
lemma Informed.drivePin {chip : Chip τ (Watcher π)} (informed : chip.Informed) (pin : UInt32)
    (floating high : Bool) : (chip.drivePin pin floating high).Informed := by
  cases changed : (chip.hub.external.drive pin floating high).changed with
  | true => exact .inl changed
  | false =>
    have same : SamePins chip (chip.drivePin pin floating high) :=
      ⟨rfl, rfl, ExternalDrive.drive_of_unchanged changed, rfl⟩
    exact same.informed_iff.mpr informed

/-- Cogs come and go without any change on the pins, until the chip looks at what they drive. -/
lemma samePins_takeCog (chip : Chip τ (Watcher π)) (id : Fin 8) :
    SamePins chip (chip.takeCog id).2 :=
  ⟨rfl, rfl, rfl, rfl⟩

/-- What a cog does in its slot is seen only if it does something to the pins of the hub. -/
lemma samePins_putCog {chip : Chip τ (Watcher π)} {hub : Hub}
    (same : hub.dir = chip.hub.dir ∧ hub.out = chip.hub.out
      ∧ hub.external = chip.hub.external) (id : Fin 8) (cog : Cog τ) :
    SamePins chip ({ (chip.takeCog id).2 with hub }.putCog id cog) :=
  ⟨same.1, same.2.1, same.2.2, rfl⟩

lemma samePins_takeActions (chip : Chip τ (Watcher π)) :
    SamePins chip { chip with hub := chip.hub.takeActions.2 } :=
  ⟨rfl, rfl, rfl, rfl⟩

lemma samePins_advanceRing (chip : Chip τ (Watcher π)) :
    SamePins chip { chip with hub := chip.hub.advanceRing.2 } :=
  ⟨rfl, rfl, rfl, rfl⟩

lemma samePins_edgeB (chip : Chip τ (Watcher π)) (id : Fin 8) (level : Bool) :
    SamePins chip (chip.edgeB id level) := by
  rw [edgeB, takeCog_eq]
  cases chip.cogs.get id <;> exact ⟨rfl, rfl, rfl, rfl⟩

lemma samePins_changeCog (chip : Chip τ (Watcher π)) (id : Nat) (change : Cog τ → Cog τ) :
    SamePins chip (chip.changeCog id change).2 := by
  rw [changeCog]
  split
  · next h =>
    rw [takeCog_eq]
    cases chip.cogs.get ⟨id, h⟩ <;> exact ⟨rfl, rfl, rfl, rfl⟩
  · exact .refl chip

section Clocks

variable [Timebase τ]

/-- Nothing that a cog does by itself concerns the pins of the hub. -/
lemma pins_of_actions {before after : CogBody τ × Hub} (run : CogBody.Actions before after) :
    after.2.dir = before.2.dir ∧ after.2.out = before.2.out
      ∧ after.2.external = before.2.external := by
  obtain ⟨_, _, _, _, _, same⟩ := run.served
  rw [same]
  exact ⟨rfl, rfl, rfl⟩

lemma samePins_edgeA (chip : Chip τ (Watcher π)) (id : Fin 8) (level : Bool) :
    SamePins chip (chip.edgeA id level) := by
  rw [edgeA, takeCog_eq]
  cases (chip.mapCogs fun cog => if cog.body.video.auralSource = some id
    then cog.withVideo (·.auralEdge level) else cog).cogs.get id <;> exact ⟨rfl, rfl, rfl, rfl⟩

lemma samePins_applyClockMode (chip : Chip τ (Watcher π)) (mode : ClockMode) :
    SamePins chip (chip.applyClockMode mode) :=
  ⟨rfl, rfl, rfl, rfl⟩

lemma samePins_booted (chip : Chip τ (Watcher π)) :
    SamePins chip chip.booted :=
  ⟨rfl, rfl, rfl, rfl⟩

lemma samePins_dispatchEdges (chip : Chip τ (Watcher π)) (id : Fin 8) (edges : PllEdges) :
    SamePins chip (chip.dispatchEdges id edges) := by
  rcases edges with ⟨_ | a, _ | b⟩
  · exact .refl chip
  · exact chip.samePins_edgeB id b
  · exact chip.samePins_edgeA id a
  · exact (chip.samePins_edgeA id a).trans (samePins_edgeB _ id b)

lemma samePins_advanceCog (chip : Chip τ (Watcher π)) (elapsed : τ) (id : Fin 8) :
    SamePins chip (chip.advanceCog elapsed id) := by
  rw [advanceCog, takeCog_eq]
  cases chip.cogs.get id with
  | none => exact chip.samePins_takeCog id
  | some cog =>
    let put := (chip.takeCog id).2.putCog id (cog.advance elapsed).2
    have same : SamePins chip put := ⟨rfl, rfl, rfl, rfl⟩
    exact same.trans (put.samePins_dispatchEdges id _)

lemma samePins_passTime (chip : Chip τ (Watcher π)) (elapsed : τ) :
    SamePins chip (chip.passTime elapsed) := by
  have advanced : SamePins chip (chip.advanceAll elapsed slots) :=
    advanceAll_preserves (fun _ id same => same.trans (samePins_advanceCog _ elapsed id))
      ⟨rfl, rfl, rfl, rfl⟩ slots
  rw [passTime_eq]
  exact advanced.later elapsed

/-- What has changed outside is told. -/
lemma refreshPins_of_changed {chip : Chip τ π} (changed : chip.hub.external.changed = true) :
    chip.refreshPins.1 = true := by
  simp [refreshPins, ExternalDrive.takeChanged, Hub.updatePins, Hub.refreshInput, changed]

end Clocks

/-! ## Telling the plugins -/

section Plugins

variable [Plugin τ π]

/-- **Whoever is told** is informed, unless some plugin changes the pins in turn. -/
theorem informed_tell (drives : DrivesOnly τ π) (chip : Chip τ (Watcher π)) :
    chip.tell.Informed := by
  let told := chip.plugins.deliverPins chip.time chip.hub.pinStates chip.hub.external
  have shown : told.1.shown = chip.plugins.shown.map fun _ => chip.hub.pinStates :=
    PluginSet.shown_deliverPins _ _ _ _
  cases changed : told.2.changed with
  | true => exact .inl changed
  | false =>
    have external : told.2 = chip.hub.external :=
      PluginSet.deliverPins_external drives.watcher chip.plugins changed
    have pins : chip.tell.hub.pinStates = chip.hub.pinStates :=
      Hub.pinStates_congr rfl rfl (congrArg (·.floating) external) (congrArg (·.high) external)
    refine .inr fun seen hs => ?_
    obtain ⟨-, -, rfl⟩ := List.mem_map.mp (shown ▸ hs)
    exact pins.symm

/-- A plugin that does something to the pins at a clock raises the flag. -/
lemma countClock_unchanged (drives : DrivesOnly τ π) {chip : Chip τ (Watcher π)}
    (h : chip.countClock.hub.external.changed = false) : SamePins chip chip.countClock where
  dir := rfl
  out := rfl
  external := PluginSet.deliverClock_external drives.watcher chip.plugins h
  shown := PluginSet.shown_deliverClock _ _ _ _

lemma watchers_countClock (chip : Chip τ (Watcher π)) :
    chip.countClock.plugins.shown.length = chip.plugins.shown.length :=
  congrArg List.length (PluginSet.shown_deliverClock ..)

lemma informed_countClock_iff (drives : DrivesOnly τ π) {chip : Chip τ (Watcher π)} :
    chip.countClock.Informed ↔ chip.countClock.hub.external.changed = true ∨ chip.Informed := by
  cases changed : chip.countClock.hub.external.changed with
  | true => exact ⟨fun _ => .inl rfl, fun _ => .inl changed⟩
  | false =>
    rw [(countClock_unchanged drives changed).informed_iff]
    exact ⟨.inr, (·.resolve_left nofun)⟩

end Plugins

variable [Timebase τ] [Plugin τ π]

/-- With nothing new to tell, the plugins are not told anything. -/
lemma samePins_notifyPins {chip : Chip τ (Watcher π)} (nothing : chip.refreshPins.1 = false) :
    SamePins chip chip.notifyPins := by
  have quiet : chip.notifyPins = chip.refreshPins.2 := by
    simp [notifyPins_eq, nothing]
  simp only [refreshPins, ExternalDrive.takeChanged, Bool.or_eq_false_iff,
    bne_eq_false_iff_eq] at nothing
  obtain ⟨unchanged, ⟨-, out⟩, dir⟩ := nothing
  have external : ∀ external : ExternalDrive, external.changed = false →
      { external with changed := false } = external := by
    rintro ⟨floating, high, changed⟩ rfl
    rfl
  rw [quiet]
  exact ⟨dir, out, external chip.hub.external unchanged, rfl⟩

lemma informed_notifyPins (drives : DrivesOnly τ π) {chip : Chip τ (Watcher π)}
    (something : chip.refreshPins.1 = true) : chip.notifyPins.Informed := by
  rw [notifyPins_eq, if_pos something]
  exact informed_tell drives _

/-- A part of a step that may tell the plugins leaves them informed exactly if it tells them or
they were informed before. -/
lemma informed_notifyPins_iff (drives : DrivesOnly τ π) {chip : Chip τ (Watcher π)} :
    chip.notifyPins.Informed ↔ chip.refreshPins.1 = true ∨ chip.Informed := by
  cases something : chip.refreshPins.1 with
  | true => exact ⟨fun _ => .inl rfl, fun _ => informed_notifyPins drives something⟩
  | false =>
    rw [(samePins_notifyPins something).informed_iff]
    exact ⟨.inr, (·.resolve_left nofun)⟩

/-- Whoever is informed stays so when the plugins are told if there is something to tell. -/
lemma Informed.notifyPins (drives : DrivesOnly τ π) {chip : Chip τ (Watcher π)}
    (h : chip.Informed) : chip.notifyPins.Informed := by
  cases something : chip.refreshPins.1 with
  | true => exact informed_notifyPins drives something
  | false => exact (samePins_notifyPins something).informed_iff.mpr h

lemma Informed.advanceUpTo (drives : DrivesOnly τ π) {chip : Chip τ (Watcher π)}
    (h : chip.Informed) (budget : Nat) : (advanceUpTo budget chip).Informed := by
  induction budget generalizing chip with
  | zero => exact h
  | succ budget ih =>
    have passed := (chip.samePins_passTime chip.nextEdge.1).informed_iff.mpr h
    simp only [Chip.advanceUpTo]
    split
    · exact ih (passed.notifyPins drives)
    · exact passed

lemma watchers_notifyPins (chip : Chip τ (Watcher π)) :
    chip.notifyPins.plugins.shown.length = chip.plugins.shown.length := by
  cases something : chip.refreshPins.1 with
  | true =>
    rw [notifyPins_eq, if_pos something]
    exact (congrArg List.length (PluginSet.shown_deliverPins ..)).trans (List.length_map ..)
  | false => rw [(samePins_notifyPins something).shown]

lemma watchers_advanceUpTo (chip : Chip τ (Watcher π)) (budget : Nat) :
    (advanceUpTo budget chip).plugins.shown.length = chip.plugins.shown.length := by
  induction budget generalizing chip with
  | zero => rfl
  | succ budget ih =>
    have passed := congrArg List.length (chip.samePins_passTime chip.nextEdge.1).shown
    simp only [Chip.advanceUpTo]
    split
    · rw [ih, watchers_notifyPins, passed]
    · exact passed

/-! ## Resets and requests -/

lemma notifyPins_dir (chip : Chip τ π) : chip.notifyPins.hub.dir = chip.cogPins.2 := by
  simp only [notifyPins]
  split <;> rfl

/-- **A reset** takes the outputs away before it looks for changes. -/
theorem cleared_reset (drives : DrivesOnly τ π) (chip : Chip τ (Watcher π)) :
    Cleared chip chip.reset := by
  let empty := chip.emptied
  have noPins : empty.cogPins = (0, 0) := rfl
  have changed : empty.refreshPins.1 = chip.hub.external.changed := by
    simp only [refreshPins, noPins]
    show (chip.hub.external.changed || _) = _
    simp [empty, emptied, Hub.reset, Hub.updatePins, Hub.refreshInput]
  have shown : empty.plugins.shown = chip.plugins.shown :=
    PluginSet.shown_deliverReset τ chip.plugins
  rw [reset_eq]
  refine Cleared.samePins ⟨?_, ?_, ?_, ?_⟩ (samePins_booted _)
  · rw [notifyPins_dir, noPins]
  · rw [watchers_notifyPins, shown]
  · rw [← changed]
    exact informed_notifyPins drives
  · rw [← changed]
    intro nothing
    have same := samePins_notifyPins nothing
    exact ⟨same.external, same.shown.trans shown⟩

/-- Another reset changes nothing. -/
lemma Aftermath.reset (drives : DrivesOnly τ π) {chip chip' : Chip τ (Watcher π)}
    (after : Aftermath chip chip') : Aftermath chip chip'.reset := by
  have again := cleared_reset drives chip'
  rcases after with same | cleared
  · exact .inr (same.cleared again)
  · refine .inr ⟨again.dir, again.watchers.trans cleared.watchers, ?_, ?_⟩
    · intro h
      rcases cleared.told h with changed | seen
      · exact again.told changed
      · cases changed : chip'.hub.external.changed with
        | true => exact again.told changed
        | false =>
          obtain ⟨external, shown⟩ := again.untold changed
          refine .inr ?_
          rw [shown, Hub.pinStates_of_dir_eq_zero cleared.dir again.dir external]
          exact seen
    · intro h
      obtain ⟨external, shown⟩ := cleared.untold h
      have untold := again.untold (external ▸ h)
      exact ⟨untold.1.trans external, untold.2.trans shown⟩

lemma Aftermath.perform (drives : DrivesOnly τ π) (requests : List HubAction)
    {chip chip' : Chip τ (Watcher π)} (after : Aftermath chip chip') :
    Aftermath chip (perform requests chip') := by
  induction requests generalizing chip' with
  | nil => exact after
  | cons request requests ih =>
    cases request with
    | start cog engine program parameter => exact ih (after.samePins ⟨rfl, rfl, rfl, rfl⟩)
    | stop cog => exact ih (after.samePins ⟨rfl, rfl, rfl, rfl⟩)
    | setClockMode mode =>
      have noted : SamePins chip' { chip' with hub := chip'.hub.setClockMode mode } :=
        ⟨rfl, rfl, rfl, rfl⟩
      rw [Chip.perform, setClockMode]
      split
      · exact (after.samePins noted).reset drives
      · exact ih (after.samePins (chip'.samePins_applyClockMode mode))

lemma Aftermath.applyActions (drives : DrivesOnly τ π) {chip chip' : Chip τ (Watcher π)}
    (after : Aftermath chip chip') : Aftermath chip chip'.applyActions :=
  (after.samePins chip'.samePins_takeActions).perform drives chip'.hub.queue

lemma Aftermath.stepCog (drives : DrivesOnly τ π) {chip chip' : Chip τ (Watcher π)}
    (after : Aftermath chip chip') (id : Fin 8) : Aftermath chip (chip'.stepCog id).2 := by
  rw [Chip.stepCog, takeCog_eq]
  cases chip'.cogs.get id with
  | none => exact (after.samePins (chip'.samePins_takeCog id)).applyActions drives
  | some cog =>
    have same := pins_of_actions (cog.actions_step chip'.hub chip'.frameBreak)
    exact (after.samePins (samePins_putCog same id _)).applyActions drives

lemma Aftermath.stepCogs (drives : DrivesOnly τ π) {chip chip' : Chip τ (Watcher π)}
    (after : Aftermath chip chip') (slots : List (Fin 8)) :
    Aftermath chip (stepCogs slots chip').2 := by
  induction slots generalizing chip' with
  | nil => exact after
  | cons id slots ih => exact ih (after.stepCog drives id)

lemma Aftermath.hubTurn (drives : DrivesOnly τ π) {chip chip' : Chip τ (Watcher π)}
    (after : Aftermath chip chip') (id : Fin 8) : Aftermath chip (chip'.hubTurn id) := by
  rw [Chip.hubTurn, takeCog_eq]
  cases chip'.cogs.get id with
  | none => exact (after.samePins (chip'.samePins_takeCog id)).applyActions drives
  | some cog =>
    have same := pins_of_actions (cog.actions_hubAccess chip'.hub)
    exact (after.samePins (samePins_putCog same id _)).applyActions drives

lemma aftermath_stepSlots (drives : DrivesOnly τ π) (chip : Chip τ (Watcher π)) :
    Aftermath chip chip.stepSlots := by
  have ringed : Aftermath chip { chip with hub := chip.hub.advanceRing.2 } :=
    .inl chip.samePins_advanceRing
  exact stepSlots_preserves (fun _ id after => after.hubTurn drives id)
    (ringed.stepCogs drives slots)

end P1Chip.Chip
