import Mathlib.Data.List.Induction
import P1Chip.Video

/-!
# The life of a video generator

Everything that happens to a video generator is an event: its registers are written, frames are fed
to it, and its three clocks have edges.  Edges and frames leave its setup alone, which is what the
two registers say.  Only the clocks per pixel may lag behind the scale register until the next frame
is fed.

* `Video.Event`, `Video.run` — events, one after the other.
* `Video.SameSetup` — two generators are set up alike.
* **`Video.setUp_run`** — a generator is set up as its registers say.
-/

namespace P1Chip.Video

/-! ## Events -/

/-- What can happen to a video generator. -/
inductive Event where
  | config (value : UInt32) (running : UInt8)
  | scale (value : UInt32)
  | feed (colors pixels : UInt32)
  /-- A cog is stopped that may have been the aural subcarrier. -/
  | detach (stopped : Fin 8)
  | color (level : Bool)
  | carrier (level : Bool)
  | aural (level : Bool)
deriving DecidableEq, Repr, Inhabited

/-- The events between one frame and the next that leave the configuration as it is. -/
def Event.isDuringFrame : Event → Bool
  | .config .. | .feed .. => false
  | _ => true

def apply (video : Video) : Event → Video
  | .config value running => video.setConfig value running
  | .scale value => video.setScale value
  | .feed colors pixels => video.feed colors pixels
  | .detach stopped => video.detachAural stopped
  | .color level => (video.colorEdge level).2
  | .carrier level => video.carrierEdge level
  | .aural level => video.auralEdge level

def run (video : Video) (events : List Event) : Video :=
  events.foldl apply video

lemma run_concat (video : Video) (events : List Event) (event : Event) :
    video.run (events ++ [event]) = (video.run events).apply event := by
  rw [run, List.foldl_append]
  rfl

lemma run_append (video : Video) (first second : List Event) :
    video.run (first ++ second) = (video.run first).run second :=
  List.foldl_append

/-! ## Setups -/

/-- Both generators are set up alike. -/
structure SameSetup (before after : Video) : Prop where
  config : after.config = before.config
  scale : after.scale = before.scale
  scaleChanged : after.scaleChanged = before.scaleChanged
  clocksPerPixel : after.clocksPerPixel = before.clocksPerPixel
  mode : after.mode = before.mode
  fourColors : after.fourColors = before.fourColors
  pinGroup : after.pinGroup = before.pinGroup
  pinMask : after.pinMask = before.pinMask

namespace SameSetup

lemma refl {video : Video} : SameSetup video video :=
  ⟨rfl, rfl, rfl, rfl, rfl, rfl, rfl, rfl⟩

lemma trans {first second third : Video} (h : SameSetup first second)
    (rest : SameSetup second third) : SameSetup first third where
  config := rest.config.trans h.config
  scale := rest.scale.trans h.scale
  scaleChanged := rest.scaleChanged.trans h.scaleChanged
  clocksPerPixel := rest.clocksPerPixel.trans h.clocksPerPixel
  mode := rest.mode.trans h.mode
  fourColors := rest.fourColors.trans h.fourColors
  pinGroup := rest.pinGroup.trans h.pinGroup
  pinMask := rest.pinMask.trans h.pinMask

lemma mix {before video : Video} (h : SameSetup before video) : SameSetup before video.mix := by
  refine h.trans ?_
  simp only [Video.mix]
  split <;> exact ⟨rfl, rfl, rfl, rfl, rfl, rfl, rfl, rfl⟩

lemma shiftPixel (video : Video) : SameSetup video video.shiftPixel := by
  simp only [Video.shiftPixel]
  split <;> exact ⟨rfl, rfl, rfl, rfl, rfl, rfl, rfl, rfl⟩

lemma showColor (video : Video) : SameSetup video video.showColor := by
  simp only [Video.showColor]
  split
  · exact ⟨rfl, rfl, rfl, rfl, rfl, rfl, rfl, rfl⟩
  · exact ⟨rfl, rfl, rfl, rfl, rfl, rfl, rfl, rfl⟩
  · exact .mix ⟨rfl, rfl, rfl, rfl, rfl, rfl, rfl, rfl⟩
  · exact .mix ⟨rfl, rfl, rfl, rfl, rfl, rfl, rfl, rfl⟩

lemma clockPixel {before video : Video} (h : SameSetup before video) :
    SameSetup before video.clockPixel := by
  refine h.trans ?_
  simp only [Video.clockPixel]
  split
  · exact ⟨rfl, rfl, rfl, rfl, rfl, rfl, rfl, rfl⟩
  · exact ((shiftPixel video).trans (showColor _)).trans ⟨rfl, rfl, rfl, rfl, rfl, rfl, rfl, rfl⟩

lemma colorEdge (video : Video) (level : Bool) : SameSetup video (video.colorEdge level).2 := by
  simp only [Video.colorEdge]
  split
  · exact .clockPixel ⟨rfl, rfl, rfl, rfl, rfl, rfl, rfl, rfl⟩
  · exact ⟨rfl, rfl, rfl, rfl, rfl, rfl, rfl, rfl⟩

lemma carrierEdge (video : Video) (level : Bool) : SameSetup video (video.carrierEdge level) :=
  .mix ⟨rfl, rfl, rfl, rfl, rfl, rfl, rfl, rfl⟩

lemma auralEdge (video : Video) (level : Bool) : SameSetup video (video.auralEdge level) :=
  .mix ⟨rfl, rfl, rfl, rfl, rfl, rfl, rfl, rfl⟩

lemma detachAural (video : Video) (stopped : Fin 8) :
    SameSetup video (video.detachAural stopped) := by
  simp only [Video.detachAural]
  split <;> exact ⟨rfl, rfl, rfl, rfl, rfl, rfl, rfl, rfl⟩

end SameSetup

/-- The generator is set up as its registers say. -/
structure SetUp (video : Video) : Prop where
  mode : video.mode = .ofConfig video.config
  fourColors : video.fourColors = (video.config &&& 0x10000000 != 0)
  pinGroup : video.pinGroup = ((video.config >>> 6) &&& 0x38).toUInt64
  pinMask : video.pinMask = (video.config &&& 0xFF).toUInt64 <<< video.pinGroup
  clocksPerPixel : video.scaleChanged = false →
    video.clocksPerPixel = (video.scale >>> 12) &&& 0xFF

namespace SetUp

variable {video : Video}

lemma same (h : video.SetUp) {after : Video} (same : SameSetup video after) : after.SetUp where
  mode := by rw [same.mode, same.config, h.mode]
  fourColors := by rw [same.fourColors, same.config, h.fourColors]
  pinGroup := by rw [same.pinGroup, same.config, h.pinGroup]
  pinMask := by rw [same.pinMask, same.pinGroup, same.config, h.pinMask]
  clocksPerPixel := by rw [same.scaleChanged, same.clocksPerPixel, same.scale]; exact h.clocksPerPixel

lemma setScale (h : video.SetUp) (value : UInt32) : (video.setScale value).SetUp := by
  simp only [Video.setScale]
  split
  · exact h
  · exact ⟨h.mode, h.fourColors, h.pinGroup, h.pinMask, fun kept => nomatch kept⟩

lemma feed (h : video.SetUp) (colors pixels : UInt32) : (video.feed colors pixels).SetUp where
  mode := h.mode
  fourColors := h.fourColors
  pinGroup := h.pinGroup
  pinMask := h.pinMask
  clocksPerPixel _ := by
    simp only [Video.feed]
    split
    · rfl
    · next kept => exact h.clocksPerPixel (Bool.not_eq_true _ ▸ kept)

lemma apply (h : video.SetUp) (event : Event) : (video.apply event).SetUp := by
  cases event with
  | config value running => exact ⟨rfl, rfl, rfl, rfl, h.clocksPerPixel⟩
  | scale value => exact h.setScale value
  | feed colors pixels => exact h.feed colors pixels
  | detach stopped => exact h.same (.detachAural video stopped)
  | color level => exact h.same (.colorEdge video level)
  | carrier level => exact h.same (.carrierEdge video level)
  | aural level => exact h.same (.auralEdge video level)

end SetUp

/-- **A generator is set up** as its registers say, whatever has happened to it. -/
theorem setUp_run (events : List Event) : (off.run events).SetUp := by
  induction events using List.reverseRecOn with
  | nil => exact ⟨rfl, rfl, rfl, rfl, fun kept => nomatch kept⟩
  | append_singleton events event ih =>
    rw [run_concat]
    exact ih.apply event

end P1Chip.Video
