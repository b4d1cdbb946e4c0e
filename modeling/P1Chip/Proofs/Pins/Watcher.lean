import Mathlib.Logic.Basic
import Mathlib.Tactic.ByContra
import P1Chip.Hub
import P1Chip.Pins.Plugin

/-!
# Plugins that watch the pins

What a plugin has been shown is not kept anywhere, so this file gives every plugin a companion that
remembers it, and otherwise does what the plugin does.

* `Watcher` — a plugin that remembers the pins as they were last shown to it.
* `DrivesOnly` — plugins act on the pins by driving them, and in no other way.
* `PluginSet.shown` — what those plugins were last shown that want to hear of the pins.
* **`PluginSet.shown_deliverPins`** — telling them of the pins shows them these pins.
* **`Hub.pinStates_ne`** — outputs are seen, whatever is on them.
-/

namespace P1Chip

variable {τ π : Type}

/-! ## Driving pins -/

namespace ExternalDrive

/-- Drives several pins, one after the other. -/
def driveAll (external : ExternalDrive) (drives : List (UInt32 × Bool × Bool)) : ExternalDrive :=
  drives.foldl (fun external drive => external.drive drive.1 drive.2.1 drive.2.2) external

/-- Driving a pin either raises the flag or does nothing. -/
lemma drive_of_unchanged {external : ExternalDrive} {pin : UInt32} {floating high : Bool}
    (h : (external.drive pin floating high).changed = false) :
    external.drive pin floating high = external := by
  simp only [drive] at h ⊢
  simp only [Bool.or_eq_false_iff, bne_eq_false_iff_eq] at h
  obtain ⟨⟨changed, floatingPins⟩, highPins⟩ := h
  simp only [floatingPins, highPins, changed, bne_self_eq_false, Bool.or_self]
  cases external
  cases changed
  rfl

lemma driveAll_of_unchanged {external : ExternalDrive} {drives : List (UInt32 × Bool × Bool)}
    (h : (external.driveAll drives).changed = false) : external.driveAll drives = external := by
  induction drives generalizing external with
  | nil => rfl
  | cons drive drives ih =>
    have hr : external.driveAll (drive :: drives)
        = external.drive drive.1 drive.2.1 drive.2.2 := ih h
    rw [hr] at h ⊢
    exact drive_of_unchanged h

end ExternalDrive

/-- Plugins act on the pins by driving them, and in no other way. -/
structure DrivesOnly (τ π : Type) [Plugin τ π] : Prop where
  onClock : ∀ (plugin : π) (time : τ) (counter : UInt32) (external : ExternalDrive),
    ∃ drives, (Plugin.onClock plugin time counter external).external = external.driveAll drives
  onPins : ∀ (plugin : π) (time : τ) (pins : PinStates) (external : ExternalDrive),
    ∃ drives, (Plugin.onPins plugin time pins external).external = external.driveAll drives

/-- A plugin that connects two pins: it drives one of them with what is on the other. -/
structure Wire where
  source : Fin pinCount
  target : Fin pinCount

instance : Plugin τ Wire where
  onClock := fun wire _ _ external => { plugin := wire, external, lines := [] }
  onPins := fun wire _ pins external =>
    let high := pins[wire.source] = .outputHigh ∨ pins[wire.source] = .inputHigh
    { plugin := wire
      external := external.drive (UInt32.ofNat wire.target) (pins[wire.source] = .floating) high
      lines := [] }
  onReset := fun wire => (wire, [])
  onClose := fun _ => []

lemma drivesOnly_wire : DrivesOnly τ Wire where
  onClock := fun _ _ _ _ => ⟨[], rfl⟩
  onPins := fun wire _ pins _ =>
    ⟨[(UInt32.ofNat wire.target, pins[wire.source] = .floating,
      pins[wire.source] = .outputHigh ∨ pins[wire.source] = .inputHigh)], rfl⟩

/-! ## Watchers -/

/-- A plugin, and the pins as they were last shown to it. -/
structure Watcher (π : Type) where
  plugin : π
  seen : PinStates

/-- A watcher does what its plugin does. -/
instance [Plugin τ π] : Plugin τ (Watcher π) where
  onClock := fun watcher time counter external =>
    let reaction := Plugin.onClock watcher.plugin time counter external
    { plugin := { watcher with plugin := reaction.plugin }
      external := reaction.external
      lines := reaction.lines }
  onPins := fun watcher time pins external =>
    let reaction := Plugin.onPins watcher.plugin time pins external
    { plugin := ⟨reaction.plugin, pins⟩
      external := reaction.external
      lines := reaction.lines }
  onReset := fun watcher =>
    let (plugin, lines) := Plugin.onReset τ watcher.plugin
    ({ watcher with plugin }, lines)
  onClose := fun watcher => Plugin.onClose τ watcher.plugin

lemma DrivesOnly.watcher [Plugin τ π] (drives : DrivesOnly τ π) : DrivesOnly τ (Watcher π) where
  onClock := fun watcher time counter external =>
    drives.onClock watcher.plugin time counter external
  onPins := fun watcher time pins external => drives.onPins watcher.plugin time pins external

namespace PluginSet

/-- The plugins as watchers to which nothing was shown yet: for all they know, every pin floats. -/
def watched (set : PluginSet π) : PluginSet (Watcher π) where
  nextId := set.nextId
  attached := set.attached.map fun a =>
    { id := a.id
      wantsClock := a.wantsClock
      wantsPins := a.wantsPins
      plugin := ⟨a.plugin, .replicate pinCount .floating⟩ }
  printed := set.printed

/-! ## Calling plugins -/

/-- Calls that drive pins raise the flag or leave the pins alone, all of them together. -/
lemma deliver_external {wants : Attached π → Bool} {call : π → ExternalDrive → Reaction π}
    (drives : ∀ plugin external, ∃ drives, (call plugin external).external
      = external.driveAll drives) (attached : List (Attached π)) {external : ExternalDrive}
    (h : (deliver wants call attached external).2.1.changed = false) :
    (deliver wants call attached external).2.1 = external := by
  induction attached generalizing external with
  | nil => rfl
  | cons a attached ih =>
    simp only [deliver] at h ⊢
    split at h
    · next ha =>
      rw [if_pos ha]
      dsimp only at h ⊢
      have hi := ih h
      rw [hi] at h ⊢
      obtain ⟨list, hl⟩ := drives a.plugin external
      rw [hl] at h ⊢
      exact ExternalDrive.driveAll_of_unchanged h
    · next ha =>
      rw [if_neg ha]
      exact ih h

/-- Being told of a clock, plugins raise the flag or leave the pins alone. -/
lemma deliverClock_external [Plugin τ π] (drives : DrivesOnly τ π) (set : PluginSet π) {time : τ}
    {counter : UInt32} {external : ExternalDrive}
    (h : (set.deliverClock time counter external).2.changed = false) :
    (set.deliverClock time counter external).2 = external :=
  deliver_external (fun plugin external => drives.onClock plugin time counter external) _ h

/-- Being told of the pins, too. -/
lemma deliverPins_external [Plugin τ π] (drives : DrivesOnly τ π) (set : PluginSet π) {time : τ}
    {pins : PinStates} {external : ExternalDrive}
    (h : (set.deliverPins time pins external).2.changed = false) :
    (set.deliverPins time pins external).2 = external :=
  deliver_external (fun plugin external => drives.onPins plugin time pins external) _ h

/-! ## What plugins were shown -/

/-- What those of some plugins were last shown that want to hear of the pins. -/
def shownTo (attached : List (Attached (Watcher π))) : List PinStates :=
  (attached.filter (·.wantsPins)).map (·.plugin.seen)

lemma shownTo_cons (a : Attached (Watcher π)) (rest : List (Attached (Watcher π))) :
    shownTo (a :: rest) = (if a.wantsPins then [a.plugin.seen] else []) ++ shownTo rest := by
  rw [shownTo, List.filter_cons]
  split <;> rfl

/-- What the plugins of a set were last shown. -/
def shown (set : PluginSet (Watcher π)) : List PinStates :=
  shownTo set.attached

lemma shown_watched (set : PluginSet π) :
    set.watched.shown
      = (set.attached.filter (·.wantsPins)).map fun _ => .replicate pinCount .floating := by
  simp only [shown, shownTo, watched, List.filter_map, List.map_map]
  rfl

variable [Plugin τ π]

/-- A clock shows them nothing. -/
lemma shown_deliverClock (set : PluginSet (Watcher π)) (time : τ) (counter : UInt32)
    (external : ExternalDrive) : (set.deliverClock time counter external).1.shown = set.shown := by
  have lists : ∀ (attached : List (Attached (Watcher π))) (external : ExternalDrive),
      shownTo (deliver (·.wantsClock) (fun plugin => Plugin.onClock plugin time counter) attached
        external).1 = shownTo attached := by
    intro attached
    induction attached with
    | nil => exact fun _ => rfl
    | cons a attached ih =>
      intro external
      rw [shownTo_cons]
      simp only [deliver]
      split
      · dsimp only
        rw [shownTo_cons, ih]
        rfl
      · dsimp only
        rw [shownTo_cons, ih]
  exact lists set.attached external

/-- **Telling them of the pins** shows them these pins. -/
theorem shown_deliverPins (set : PluginSet (Watcher π)) (time : τ) (pins : PinStates)
    (external : ExternalDrive) :
    (set.deliverPins time pins external).1.shown = set.shown.map fun _ => pins := by
  have lists : ∀ (attached : List (Attached (Watcher π))) (external : ExternalDrive),
      shownTo (deliver (·.wantsPins) (fun plugin => Plugin.onPins plugin time pins) attached
        external).1 = (shownTo attached).map fun _ => pins := by
    intro attached
    induction attached with
    | nil => exact fun _ => rfl
    | cons a attached ih =>
      intro external
      rw [shownTo_cons, List.map_append]
      simp only [deliver]
      split
      · next ha =>
        dsimp only
        rw [shownTo_cons, ih, if_pos ha]
        rfl
      · next ha =>
        dsimp only
        rw [shownTo_cons, ih, if_neg ha]
        rfl
  exact lists set.attached external

variable (τ)

/-- A reset shows them nothing. -/
lemma shown_deliverReset (set : PluginSet (Watcher π)) :
    (set.deliverReset τ).shown = set.shown := by
  simp only [deliverReset, shown]
  rw [List.map_map]
  induction set.attached with
  | nil => rfl
  | cons a attached ih =>
    rw [List.map_cons, shownTo_cons, shownTo_cons, ih]
    rfl

end PluginSet

/-! ## Sets of pins -/

/-- Whether a pin is in a set of pins. -/
def HasPin (pins : UInt64) (pin : Fin pinCount) : Prop :=
  pins &&& pinMask (UInt32.ofNat pin) ≠ 0

instance (pins : UInt64) (pin : Fin pinCount) : Decidable (HasPin pins pin) :=
  inferInstanceAs (Decidable (_ ≠ _))

lemma toBitVec_pinMask (pin : Fin pinCount) :
    (pinMask (UInt32.ofNat pin)).toBitVec = BitVec.twoPow 64 pin := by
  revert pin
  decide

/-- Pins are the bits of the set. -/
lemma hasPin_iff {pins : UInt64} {pin : Fin pinCount} :
    HasPin pins pin ↔ pins.toBitVec.getLsbD pin = true := by
  rw [HasPin, ne_eq, ← UInt64.toBitVec_inj, UInt64.toBitVec_and, toBitVec_pinMask,
    BitVec.and_twoPow]
  split
  · next there =>
    refine iff_of_true (fun zero => ?_) there
    have bit := congrArg (·.getLsbD pin) zero
    simp at bit
  · next missing => exact iff_of_false (fun some => some rfl) missing

/-- Every set that is not empty has a pin. -/
lemma exists_hasPin_of_ne_zero {pins : UInt64} (h : pins ≠ 0) : ∃ pin, HasPin pins pin := by
  by_contra! none
  apply h
  rw [← UInt64.toBitVec_inj]
  apply BitVec.eq_of_getLsbD_eq
  intro i hi
  have missing := hasPin_iff.not.mp (none ⟨i, hi⟩)
  rw [Bool.not_eq_true] at missing
  simp [missing]

/-! ## What is seen from outside -/

namespace Hub

variable {hub hub' : Hub}

/-- What the pins look like depends on what drives them, from inside and from outside. -/
lemma pinStates_congr (dir : hub'.dir = hub.dir) (out : hub'.out = hub.out)
    (floating : hub'.external.floating = hub.external.floating)
    (high : hub'.external.high = hub.external.high) : hub'.pinStates = hub.pinStates := by
  simp only [pinStates, pinState]
  rw [dir, out, floating, high]

/-- Without outputs, only what drives the pins from outside is seen. -/
lemma pinStates_of_dir_eq_zero (dir : hub.dir = 0) (dir' : hub'.dir = 0)
    (external : hub'.external = hub.external) : hub'.pinStates = hub.pinStates := by
  simp only [pinStates, pinState]
  simp [dir, dir', external]

/-- At first every pin floats. -/
lemma pinStates_new (memory : Memory) :
    (Hub.new memory).pinStates = .replicate pinCount .floating := by
  have floats : ∀ pin : Fin pinCount,
      ExternalDrive.none.floating &&& pinMask (UInt32.ofNat pin) ≠ 0 := by decide
  apply Vector.ext
  intro i hi
  have pin := floats ⟨i, hi⟩
  simp only [pinStates, Vector.getElem_ofFn, Vector.getElem_replicate]
  simp [pinState, Hub.new, pin]

/-- **Outputs are seen**, whatever is on them: pins with outputs never look like pins without. -/
theorem pinStates_ne (dir : hub.dir ≠ 0) (dir' : hub'.dir = 0) :
    hub'.pinStates ≠ hub.pinStates := by
  obtain ⟨pin, hp⟩ := exists_hasPin_of_ne_zero dir
  intro same
  have hs : hub'.pinState (UInt32.ofNat pin) = hub.pinState (UInt32.ofNat pin) := by
    have := congrArg (fun pins : PinStates => pins[pin]) same
    simpa [pinStates] using this
  have output : hub.pinState (UInt32.ofNat pin) = .outputHigh
      ∨ hub.pinState (UInt32.ofNat pin) = .outputLow := by
    simp only [pinState]
    rw [if_pos (bne_iff_ne.mpr hp)]
    split
    · exact .inl rfl
    · exact .inr rfl
  have input : hub'.pinState (UInt32.ofNat pin) ≠ .outputHigh
      ∧ hub'.pinState (UInt32.ofNat pin) ≠ .outputLow := by
    simp only [pinState]
    rw [dir', UInt64.zero_and, if_neg (by decide)]
    split
    · exact ⟨nofun, nofun⟩
    · split <;> exact ⟨nofun, nofun⟩
  rw [hs] at input
  exact output.elim input.1 input.2

end Hub

end P1Chip
