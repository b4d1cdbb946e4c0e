import P1Chip.Proofs.Video.Events

/-!
# Generators that are switched off

The levels of a pin group are put together at the edges of the clocks, and the configuration
register says which of them reach a pin.  Writing it leaves the levels as they are: a generator that
is switched off clears them at its next clock, and between two frames it has none.  Until then the
last color stands on whatever pins the new configuration has.

* `Video.Silent` — a generator that is switched off drives no pins.
* `Video.hasFrameClock` — whether some event is a clock of a frame.
* **`Video.levels_run_of_disabled`** — what clears the levels of a generator that is switched off.
* `Video.exists_lastConfig` — the last write of the configuration register in a run.
* **`Video.silent_run_iff`** — when a generator that is switched off drives no pins.
* `Video.not_silent_betweenFrames` — a run after which it does.
-/

namespace P1Chip.Video

/-- If the generator is switched off, it drives no pins. -/
def Silent (video : Video) : Prop :=
  video.mode = .disabled → video.output = 0

instance (video : Video) : Decidable video.Silent :=
  inferInstanceAs (Decidable (_ → _))

/-- The pins that a configuration lets the generator drive. -/
def pinsOf (config : UInt32) : UInt64 :=
  (config &&& 0xFF).toUInt64 <<< ((config >>> 6) &&& 0x38).toUInt64

def Event.isConfig : Event → Bool
  | .config .. => true
  | _ => false

/-- Whether the event is a clock of a frame: a rising edge of the pixel clock, and not between two
frames. -/
def isFrameClock (video : Video) : Event → Bool
  | .color level => level && !video.isReady
  | _ => false

def hasFrameClock (video : Video) : List Event → Bool
  | [] => false
  | event :: rest => video.isFrameClock event || (video.apply event).hasFrameClock rest

/-! ## While the configuration stays -/

variable {video : Video}

/-- Only writing the configuration register changes mode and pins. -/
lemma sameOutputs_apply (video : Video) {event : Event} (kept : !event.isConfig) :
    (video.apply event).mode = video.mode ∧ (video.apply event).pinMask = video.pinMask := by
  cases event with
  | config => cases kept
  | scale value =>
    simp only [apply, setScale]
    split <;> exact ⟨rfl, rfl⟩
  | feed => exact ⟨rfl, rfl⟩
  | detach stopped => exact ⟨(SameSetup.detachAural ..).mode, (SameSetup.detachAural ..).pinMask⟩
  | color level => exact ⟨(SameSetup.colorEdge ..).mode, (SameSetup.colorEdge ..).pinMask⟩
  | carrier level => exact ⟨(SameSetup.carrierEdge ..).mode, (SameSetup.carrierEdge ..).pinMask⟩
  | aural level => exact ⟨(SameSetup.auralEdge ..).mode, (SameSetup.auralEdge ..).pinMask⟩

/-- A generator that is switched off mixes nothing. -/
lemma levels_mix_of_disabled (disabled : video.mode = .disabled) :
    video.mix.levels = video.levels := by
  rw [mix, disabled]
  rfl

lemma levels_clockPixel_of_disabled (disabled : video.mode = .disabled) :
    video.clockPixel.levels = 0 := by
  rw [clockPixel, if_pos disabled]

/-- It only clears its levels, at a clock of a frame. -/
lemma levels_apply_of_disabled (disabled : video.mode = .disabled) {event : Event}
    (kept : !event.isConfig) :
    (video.apply event).levels = if video.isFrameClock event then 0 else video.levels := by
  cases event with
  | config => cases kept
  | scale value =>
    simp only [apply, setScale]
    split <;> rfl
  | feed => rfl
  | detach stopped =>
    simp only [apply, detachAural]
    split <;> rfl
  | color level =>
    show (video.colorEdge level).2.levels = if level && !video.isReady then 0 else video.levels
    rw [colorEdge]
    by_cases clocked : level && !video.isReady
    · rw [if_pos clocked, if_pos clocked]
      exact levels_clockPixel_of_disabled disabled
    · rw [if_neg clocked, if_neg clocked]
  | carrier level => exact levels_mix_of_disabled disabled
  | aural level => exact levels_mix_of_disabled disabled

/-- **The levels of a generator that is switched off** stay what they are up to the next clock of a
frame, and are cleared then. -/
theorem levels_run_of_disabled (disabled : video.mode = .disabled) {events : List Event}
    (kept : ∀ event ∈ events, !event.isConfig) :
    (video.run events).levels = if video.hasFrameClock events then 0 else video.levels := by
  induction events generalizing video with
  | nil => rfl
  | cons event rest ih =>
    obtain ⟨keptFirst, keptRest⟩ := List.forall_mem_cons.mp kept
    have first := levels_apply_of_disabled disabled keptFirst
    have still : (video.apply event).mode = .disabled :=
      (video.sameOutputs_apply keptFirst).1.trans disabled
    calc (video.run (event :: rest)).levels
        = if (video.apply event).hasFrameClock rest then 0 else (video.apply event).levels :=
          ih still keptRest
      _ = if video.hasFrameClock (event :: rest) then 0 else video.levels := by
          rw [first, hasFrameClock]
          cases video.isFrameClock event <;> simp

lemma sameOutputs_run (video : Video) {events : List Event}
    (kept : ∀ event ∈ events, !event.isConfig) :
    (video.run events).mode = video.mode ∧ (video.run events).pinMask = video.pinMask := by
  induction events generalizing video with
  | nil => exact ⟨rfl, rfl⟩
  | cons event rest ih =>
    obtain ⟨keptFirst, keptRest⟩ := List.forall_mem_cons.mp kept
    have first := video.sameOutputs_apply keptFirst
    have others := ih (video.apply event) keptRest
    exact ⟨others.1.trans first.1, others.2.trans first.2⟩

/-- What a generator that is switched off drives is cleared at the next clock of a frame. -/
lemma output_run_of_disabled (disabled : video.mode = .disabled) {events : List Event}
    (kept : ∀ event ∈ events, !event.isConfig) :
    (video.run events).output = if video.hasFrameClock events then 0 else video.output := by
  rw [output, levels_run_of_disabled disabled kept, (video.sameOutputs_run kept).2]
  split
  · exact UInt64.zero_and
  · rfl

/-! ## Whole runs -/

/-- A run writes the configuration register a last time, or never does. -/
lemma exists_lastConfig (events : List Event) :
    (∀ event ∈ events, !event.isConfig) ∨
      ∃ before value running after, events = before ++ .config value running :: after ∧
        ∀ event ∈ after, !event.isConfig := by
  induction events with
  | nil => exact .inl nofun
  | cons event rest ih =>
    rcases ih with kept | ⟨before, value, running, after, rfl, kept⟩
    · cases event with
      | config value running => exact .inr ⟨[], value, running, rest, rfl, kept⟩
      | _ => exact .inl (List.forall_mem_cons.mpr ⟨rfl, kept⟩)
    · exact .inr ⟨event :: before, value, running, after, rfl, kept⟩

/-- After its last configuration a generator that this switched off is silent if a clock of a frame
has come since, or if the levels of the time before do not reach the pins. -/
lemma silent_lastConfig_iff (before : List Event) (value : UInt32) (running : UInt8)
    {after : List Event} (kept : ∀ event ∈ after, !event.isConfig)
    (disabled : VideoMode.ofConfig value = .disabled) :
    (off.run (before ++ .config value running :: after)).Silent
      ↔ ((off.run before).setConfig value running).hasFrameClock after ∨
        (off.run before).levels &&& pinsOf value = 0 := by
  let switched := (off.run before).setConfig value running
  have run : off.run (before ++ .config value running :: after) = switched.run after :=
    off.run_append before _
  have mode : (switched.run after).mode = .disabled :=
    (switched.sameOutputs_run kept).1.trans disabled
  have shown : switched.output = (off.run before).levels &&& pinsOf value := rfl
  rw [run, Silent, forall_prop_of_true mode, output_run_of_disabled disabled kept, shown]
  show (if switched.hasFrameClock after then 0 else _) = 0 ↔ switched.hasFrameClock after ∨ _
  split
  · next clocked => simp only [clocked, true_or]
  · next still => simp only [still, Bool.false_eq_true, false_or]

/-- **When a generator that is switched off drives no pins.**  It does not after a run exactly if
the write that switched it off, as the last one of the configuration register, found no level on the
pins that it chose, or a clock of a frame has come since. -/
theorem silent_run_iff (events : List Event) :
    (off.run events).Silent
      ↔ ∀ before value running after, events = before ++ .config value running :: after →
        (∀ event ∈ after, !event.isConfig) → VideoMode.ofConfig value = .disabled →
          ((off.run before).setConfig value running).hasFrameClock after ∨
            (off.run before).levels &&& pinsOf value = 0 := by
  constructor
  · rintro silent before value running after rfl kept disabled
    exact (silent_lastConfig_iff before value running kept disabled).mp silent
  · intro condition
    rcases exists_lastConfig events with kept | ⟨before, value, running, after, rfl, kept⟩
    · -- a generator that was never configured has had no levels
      intro _
      rw [output_run_of_disabled rfl kept]
      split <;> rfl
    · by_cases disabled : VideoMode.ofConfig value = .disabled
      · exact (silent_lastConfig_iff before value running kept disabled).mpr
          (condition before value running after rfl kept disabled)
      · intro mode
        rw [run_append] at mode
        exact absurd ((sameOutputs_run _ kept).1.symm.trans mode) disabled

/-- A frame of as many clocks as `clocks` says, all in the color `0xFF`, on the first eight pins in
VGA mode. -/
def whiteFrame (clocks : UInt32) : List Event :=
  [.config 0x200000FF 0, .scale (0x1000 ||| clocks), .feed 0xFF 0, .color true]

/-- Switched off in the middle of a frame, the generator is silent from the next clock on. -/
example :
    let events := whiteFrame 2 ++ [.config 0xFF 0, .color true]
    (off.run events).mode = .disabled ∧ (off.run (whiteFrame 2)).output = 0xFF
      ∧ (off.run events).output = 0 := by
  decide +kernel

/-- Switched off between two frames, the generator goes on to drive its pins, whatever edges
come. -/
theorem not_silent_betweenFrames :
    let events := whiteFrame 1 ++ [.config 0xFF 0, .color true, .carrier true, .aural true]
    (off.run events).output = 0xFF ∧ ¬ (off.run events).Silent := by
  decide +kernel

end P1Chip.Video
