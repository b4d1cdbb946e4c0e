import P1Chip.Proofs.Cog.Handover
import P1Chip.Proofs.Masks
import P1Chip.Proofs.Memory.Words
import P1Chip.Proofs.Video.Events

/-!
# Frames in VGA mode

In VGA mode the pins show one color after the other, each for the clocks of a pixel, until the
clocks of the frame are over.  The scale register has both numbers, and what it says when a frame is
fed holds for the whole frame.  The configuration register says how many bits select the color of a
pixel, and which pins show it.

The generator counts down what is left of the current pixel and of the frame, and shifts the pixels
that have been shown out of a word.  Nothing but the edges of the pixel clock moves it on.

* `Video.frameLength`, `Video.pixelLength` — the clocks of frames and pixels.
* `Video.pixelPins` — what the pins show of a pixel.
* `Video.PixelAt`, `Video.Drawing` — a generator in the middle of a frame.
* `Video.Drawing.clock` — a clock moves it on.
* `Video.Drawing.quiet` — nothing else does.
* `Video.drawing_run` — any number of events.
* **`Video.vga_frame`** — the pins, and the end of the frame.
-/

namespace P1Chip.Video

/-! ## What a frame should show -/

/-- A count in which zero stands for the greatest one. -/
def countOf (field full : Nat) : Nat :=
  if field = 0 then full else field

/-- The clocks of a frame. -/
def frameLength (scale : UInt32) : Nat :=
  countOf (scale.toNat % 2 ^ 12) (2 ^ 12)

/-- The clocks of a pixel. -/
def pixelLength (scale : UInt32) : Nat :=
  countOf (scale.toNat / 2 ^ 12 % 2 ^ 8) (2 ^ 8)

/-- How many bits select the color of a pixel. -/
def pixelBits (config : UInt32) : Nat :=
  if config.toNat.testBit 28 then 2 else 1

/-- The number of the color of a pixel.  Behind the last pixel it is zero. -/
def pixelValue (config pixels : UInt32) (number : Nat) : Nat :=
  pixels.toNat / 2 ^ (pixelBits config * number) % 2 ^ pixelBits config

/-- The color with this number. -/
def colorByte (colors : UInt32) (value : Nat) : Nat :=
  colors.toNat / 2 ^ (8 * value) % 2 ^ 8

/-- The pins that a pixel drives high: those of its color that the mask lets through, in the pin
group. -/
def pixelPins (config colors pixels : UInt32) (number : Nat) : Nat :=
  (colorByte colors (pixelValue config pixels number) &&& config.toNat % 2 ^ 8)
    * 2 ^ (8 * (config.toNat / 2 ^ 9 % 8))

/-! ## Fields of the registers -/

lemma countOf_pos {field full : Nat} (h : 0 < full) : 0 < countOf field full := by
  rw [countOf]
  split <;> omega

lemma toNat_orFull (field full : UInt32) :
    (orFull field full).toNat = countOf field.toNat full.toNat := by
  have zero : field = 0 ↔ field.toNat = 0 := UInt32.toNat_inj.symm
  rw [orFull, countOf, apply_ite UInt32.toNat]
  exact if_congr zero rfl rfl

lemma toNat_frameClocks (scale : UInt32) :
    (orFull (scale &&& 0xFFF) 0x1000).toNat = frameLength scale := by
  rw [toNat_orFull, Word.toNat_lowBits scale 12 rfl]
  rfl

lemma toNat_pixelClocks (scale : UInt32) :
    (orFull ((scale >>> 12) &&& 0xFF) 0x100).toNat = pixelLength scale := by
  rw [toNat_orFull, Word.toNat_lowBits _ 8 rfl, UInt32.toNat_shiftRight, Nat.shiftRight_eq_div_pow]
  rfl

lemma pixelValue_lt (config pixels : UInt32) (number : Nat) :
    pixelValue config pixels number < 4 := by
  have few : 2 ^ pixelBits config ≤ 2 ^ 2 := by
    rw [pixelBits]
    split <;> decide
  exact Nat.lt_of_lt_of_le (Nat.mod_lt _ (Nat.two_pow_pos _)) few

/-- The color byte that is picked out of the colors. -/
lemma toNat_colorAt {colors index : UInt32} (small : index.toNat < 4) :
    ((colors >>> (index <<< 3)) &&& 0xFF).toNat = colorByte colors index.toNat := by
  have shift : (index <<< 3).toNat % 32 = 8 * index.toNat := by
    rw [UInt32.toNat_shiftLeft, Nat.shiftLeft_eq]
    simp only [UInt32.reduceToNat, Nat.reduceMod, Nat.reducePow]
    omega
  rw [Word.toNat_lowBits _ 8 rfl, UInt32.toNat_shiftRight, shift, Nat.shiftRight_eq_div_pow]
  rfl

variable {start : Video}

lemma SetUp.fourColors_eq (h : start.SetUp) :
    start.fourColors = start.config.toNat.testBit 28 := by
  have bit : (0x10000000 : UInt32).toNat = 2 ^ 28 := rfl
  rw [h.fourColors, Word.hasBit_eq start.config bit]

lemma SetUp.pixelBits_eq (h : start.SetUp) :
    pixelBits start.config = if start.fourColors then 2 else 1 := by
  rw [pixelBits, h.fourColors_eq]

lemma SetUp.toNat_pinGroup (h : start.SetUp) :
    start.pinGroup.toNat = 8 * (start.config.toNat / 2 ^ 9 % 8) := by
  have field : (start.config >>> 6).toNat = start.config.toNat / 2 ^ 6 :=
    (UInt32.toNat_shiftRight ..).trans (Nat.shiftRight_eq_div_pow ..)
  rw [h.pinGroup, UInt32.toNat_toUInt64, Word.toNat_field _ 3 3 rfl, field]
  omega

/-- A byte in the pin group. -/
lemma SetUp.toNat_shiftLeft (h : start.SetUp) {byte : UInt32} (small : byte.toNat < 2 ^ 8) :
    (byte.toUInt64 <<< start.pinGroup).toNat = byte.toNat <<< start.pinGroup.toNat := by
  have group := h.toNat_pinGroup
  have within : byte.toNat <<< start.pinGroup.toNat < 2 ^ 64 := by
    rw [Nat.shiftLeft_eq]
    calc byte.toNat * 2 ^ start.pinGroup.toNat
        < 2 ^ 8 * 2 ^ start.pinGroup.toNat := Nat.mul_lt_mul_of_pos_right small (Nat.two_pow_pos _)
      _ ≤ 2 ^ 8 * 2 ^ 56 := Nat.mul_le_mul_left _ (Nat.pow_le_pow_right (by decide) (by omega))
  rw [UInt64.toNat_shiftLeft, UInt32.toNat_toUInt64, Nat.mod_eq_of_lt (a := start.pinGroup.toNat)
    (by omega), Nat.mod_eq_of_lt within]

/-- The pins that show a color. -/
lemma SetUp.toNat_output (h : start.SetUp) {video : Video} (group : video.pinGroup = start.pinGroup)
    (mask : video.pinMask = start.pinMask)
    (levels : video.levels = video.color.toUInt64 <<< video.pinGroup)
    (byte : video.color.toNat < 2 ^ 8) :
    video.output.toNat
      = (video.color.toNat &&& start.config.toNat % 2 ^ 8)
        * 2 ^ (8 * (start.config.toNat / 2 ^ 9 % 8)) := by
  have low : (start.config &&& 0xFF).toNat = start.config.toNat % 2 ^ 8 :=
    Word.toNat_lowBits start.config 8 rfl
  have small : (start.config &&& 0xFF).toNat < 2 ^ 8 := low ▸ Nat.mod_lt _ (by decide)
  rw [output, levels, group, mask, h.pinMask, UInt64.toNat_and, h.toNat_shiftLeft byte,
    h.toNat_shiftLeft small, ← Nat.shiftLeft_and_distrib, Nat.shiftLeft_eq, low, h.toNat_pinGroup]

/-! ## Pixels -/

/-- The generator has shown so many clocks of a frame, and begun with so many of its pixels. -/
structure PixelAt (start : Video) (colors pixels : UInt32) (shown begun : Nat) (video : Video) :
    Prop where
  fourColors : video.fourColors = start.fourColors
  length : (orFull video.clocksPerPixel 0x100).toNat = pixelLength start.scale
  palette : video.colors = colors
  toCome : video.pixels.toNat = pixels.toNat / 2 ^ (pixelBits start.config * begun)
  current : 0 < begun →
    video.color.toNat = colorByte colors (pixelValue start.config pixels (begun - 1))
  left : shown + video.pixelClocks.toNat = begun * pixelLength start.scale + 1
  counting : 1 ≤ video.pixelClocks.toNat ∧ video.pixelClocks.toNat ≤ pixelLength start.scale

namespace PixelAt

/-- Only the fields that pixels need are looked at. -/
lemma congr {video after : Video} {colors pixels : UInt32} {shown begun : Nat}
    (h : PixelAt start colors pixels shown begun video)
    (fourColors : after.fourColors = video.fourColors)
    (length : after.clocksPerPixel = video.clocksPerPixel)
    (palette : after.colors = video.colors) (toCome : after.pixels = video.pixels)
    (color : after.color = video.color) (clocks : after.pixelClocks = video.pixelClocks) :
    PixelAt start colors pixels shown begun after where
  fourColors := fourColors.trans h.fourColors
  length := by rw [length, h.length]
  palette := palette.trans h.palette
  toCome := by rw [toCome, h.toCome]
  current := color ▸ h.current
  left := by rw [clocks, h.left]
  counting := clocks ▸ h.counting

variable {video : Video} {colors pixels : UInt32} {shown begun : Nat}

lemma begun_pos (h : PixelAt start colors pixels shown begun video) (some : 0 < shown) :
    0 < begun := by
  have left := h.left
  have counting := h.counting
  refine Nat.pos_of_ne_zero fun none => ?_
  rw [none] at left
  omega

/-- Which pixel is shown. -/
lemma number_eq (h : PixelAt start colors pixels shown begun video) (some : 0 < shown) :
    (shown - 1) / pixelLength start.scale = begun - 1 := by
  have left := h.left
  have counting := h.counting
  obtain ⟨number, rfl⟩ := Nat.exists_eq_add_one.mpr (h.begun_pos some)
  rw [Nat.add_mul, Nat.one_mul] at left
  rw [Nat.add_sub_cancel]
  refine Nat.div_eq_of_lt_le (by omega) ?_
  rw [Nat.add_mul, Nat.one_mul]
  omega

/-- The bits that select the color of the next pixel. -/
lemma toNat_index (h : PixelAt start colors pixels shown begun video) (setUp : start.SetUp) :
    (video.pixels &&& (if video.fourColors then 3 else 1)).toNat
      = pixelValue start.config pixels begun := by
  rw [h.fourColors, pixelValue, ← h.toCome, setUp.pixelBits_eq]
  cases start.fourColors
  · exact Word.toNat_lowBits video.pixels 1 rfl
  · exact Word.toNat_lowBits video.pixels 2 rfl

/-- These bits are shifted out. -/
lemma toNat_shifted (h : PixelAt start colors pixels shown begun video) (setUp : start.SetUp) :
    (video.pixels >>> (if video.fourColors then 2 else 1)).toNat
      = video.pixels.toNat / 2 ^ pixelBits start.config := by
  rw [h.fourColors, setUp.pixelBits_eq, UInt32.toNat_shiftRight, Nat.shiftRight_eq_div_pow]
  cases start.fourColors <;> rfl

/-- **Moving on to the next pixel**, or staying with the current one, takes a clock. -/
theorem shiftPixel (h : PixelAt start colors pixels shown begun video) (setUp : start.SetUp) :
    ∃ begun', PixelAt start colors pixels (shown + 1) begun' video.shiftPixel := by
  have left := h.left
  have counting := h.counting
  rw [Video.shiftPixel]
  split
  · next last =>
    have one : video.pixelClocks.toNat ≤ 1 := last
    have some : 0 < pixelLength start.scale := countOf_pos (by decide)
    refine ⟨begun + 1, ?_⟩
    exact {
      fourColors := h.fourColors
      length := h.length
      palette := h.palette
      toCome := by
        rw [h.toNat_shifted setUp, h.toCome, Nat.div_div_eq_div_mul, ← Nat.pow_add, Nat.mul_succ]
      current := fun _ => by
        rw [h.palette, toNat_colorAt (h.toNat_index setUp ▸ pixelValue_lt ..), h.toNat_index setUp]
        rfl
      left := by
        rw [h.length, Nat.add_mul, Nat.one_mul]
        omega
      counting := by
        rw [h.length]
        exact ⟨some, Nat.le_refl _⟩ }
  · next more =>
    have many : 1 < video.pixelClocks.toNat := Nat.not_le.mp more
    have less : (video.pixelClocks - 1).toNat = video.pixelClocks.toNat - 1 :=
      UInt32.toNat_sub_of_le _ _ (Nat.le_of_lt many)
    refine ⟨begun, h.fourColors, h.length, h.palette, h.toCome, h.current, ?_, ?_⟩
    · rw [less]
      omega
    · rw [less]
      omega

end PixelAt

/-! ## Frames -/

/-- The generator has shown so many clocks of a frame with these colors and pixels, which was fed
when it was as at the `start`. -/
structure Drawing (start : Video) (colors pixels : UInt32) (shown : Nat) (video : Video) :
    Prop where
  mode : video.mode = .vga
  pinGroup : video.pinGroup = start.pinGroup
  pinMask : video.pinMask = start.pinMask
  toGo : shown + video.frameClocks.toNat = frameLength start.scale
  frames : video.frames = start.frames + if shown = frameLength start.scale then 1 else 0
  levels : 0 < shown → video.levels = video.color.toUInt64 <<< video.pinGroup
  pixel : ∃ begun, PixelAt start colors pixels shown begun video

lemma clockPixel_of_vga {video : Video} (vga : video.mode = .vga) :
    video.clockPixel
      = { video.shiftPixel with
          levels := video.shiftPixel.color.toUInt64 <<< video.shiftPixel.pinGroup
          phase := video.shiftPixel.phase + 0x10 } := by
  have mode : video.shiftPixel.mode = .vga := (SameSetup.shiftPixel video).mode.trans vga
  simp only [clockPixel, vga, reduceCtorEq, if_false, showColor, mode]

/-- The generator when a clock of its frame has been counted, and nothing has been shown yet. -/
def counted (video : Video) : Video :=
  { video with
    frameClocks := video.frameClocks - 1
    frames := if video.frameClocks - 1 == 0 then video.frames + 1 else video.frames }

lemma sameSetup_counted (video : Video) : SameSetup video video.counted :=
  ⟨rfl, rfl, rfl, rfl, rfl, rfl, rfl, rfl⟩

/-- A rising edge during a frame. -/
lemma colorEdge_of_busy {video : Video} (busy : video.frameClocks ≠ 0) :
    video.colorEdge true = (video.frameClocks - 1 == 0, video.counted.clockPixel) := by
  have unready : video.isReady = false := beq_eq_false_iff_ne.mpr busy
  simp only [colorEdge, unready, Bool.not_false, Bool.and_self, if_true, counted]

lemma mix_of_vga {video : Video} (vga : video.mode = .vga) : video.mix = video := by
  rw [mix, vga]
  rfl

lemma frameLength_pos (scale : UInt32) : 0 < frameLength scale :=
  countOf_pos (by decide)

namespace Drawing

variable {video : Video} {colors pixels : UInt32} {shown : Nat}

/-- A frame that was fed. -/
lemma feed (setUp : start.SetUp) (vga : start.mode = .vga) (colors pixels : UInt32) :
    Drawing start colors pixels 0 (start.feed colors pixels) := by
  have clocks := (setUp.feed colors pixels).clocksPerPixel rfl
  have length : (orFull (start.feed colors pixels).clocksPerPixel 0x100).toNat
      = pixelLength start.scale := by
    rw [clocks]
    exact toNat_pixelClocks start.scale
  have some : 0 < pixelLength start.scale := countOf_pos (by decide)
  have unfinished : 0 ≠ frameLength start.scale := Nat.ne_of_lt (frameLength_pos start.scale)
  exact {
    mode := vga
    pinGroup := rfl
    pinMask := rfl
    toGo := (Nat.zero_add _).trans (toNat_frameClocks start.scale)
    frames := by
      rw [if_neg unfinished]
      exact (UInt64.add_zero _).symm
    levels := fun none => absurd none (Nat.lt_irrefl 0)
    pixel := ⟨0, {
      fourColors := rfl
      length
      palette := rfl
      toCome := (Nat.div_one _).symm
      current := fun none => absurd none (Nat.lt_irrefl 0)
      left := by
        rw [Nat.zero_mul]
        rfl
      counting := ⟨Nat.le_refl 1, some⟩ }⟩ }

/-- What the pins show. -/
lemma toNat_output (h : Drawing start colors pixels shown video) (setUp : start.SetUp)
    (some : 0 < shown) :
    video.output.toNat
      = pixelPins start.config colors pixels ((shown - 1) / pixelLength start.scale) := by
  obtain ⟨begun, pixel⟩ := h.pixel
  have color := pixel.current (pixel.begun_pos some)
  have byte : video.color.toNat < 2 ^ 8 := color ▸ Nat.mod_lt _ (by decide)
  rw [setUp.toNat_output h.pinGroup h.pinMask (h.levels some) byte, pixelPins,
    pixel.number_eq some, color]

lemma busy (h : Drawing start colors pixels shown video)
    (more : shown < frameLength start.scale) : video.frameClocks ≠ 0 := fun none => by
  have toGo := h.toGo
  rw [none, UInt32.toNat_zero] at toGo
  omega

lemma toNat_counted (h : Drawing start colors pixels shown video)
    (more : shown < frameLength start.scale) :
    shown + 1 + video.counted.frameClocks.toNat = frameLength start.scale := by
  have toGo := h.toGo
  have less : video.counted.frameClocks.toNat = video.frameClocks.toNat - 1 :=
    UInt32.toNat_sub_of_le video.frameClocks 1 (show 1 ≤ video.frameClocks.toNat by omega)
  rw [less]
  omega

/-- Whether a clock is the last one. -/
lemma last_iff (h : Drawing start colors pixels shown video)
    (more : shown < frameLength start.scale) :
    video.frameClocks - 1 = 0 ↔ shown + 1 = frameLength start.scale := by
  have toGo : shown + 1 + (video.frameClocks - 1).toNat = frameLength start.scale :=
    h.toNat_counted more
  rw [← UInt32.toNat_inj, UInt32.toNat_zero]
  omega

/-- The last clock finishes the frame. -/
lemma frames_counted (h : Drawing start colors pixels shown video)
    (more : shown < frameLength start.scale) :
    video.counted.frames
      = start.frames + if shown + 1 = frameLength start.scale then 1 else 0 := by
  have unfinished : video.frames = start.frames := by
    rw [h.frames, if_neg (Nat.ne_of_lt more)]
    exact UInt64.add_zero _
  simp only [counted, beq_iff_eq, h.last_iff more, unfinished]
  split
  · rfl
  · exact (UInt64.add_zero _).symm

/-- **A clock** of a frame that is not over shows the next clock of its pixels, and tells whether
it was the last one. -/
theorem clock (h : Drawing start colors pixels shown video) (setUp : start.SetUp)
    (more : shown < frameLength start.scale) :
    (video.colorEdge true).1 = decide (shown + 1 = frameLength start.scale)
      ∧ Drawing start colors pixels (shown + 1) (video.colorEdge true).2 := by
  have setup : SameSetup video video.counted.clockPixel := .clockPixel (sameSetup_counted video)
  obtain ⟨clocks, frames⟩ := clockPixel_frame video.counted
  obtain ⟨begun, pixel⟩ := h.pixel
  have current : PixelAt start colors pixels shown begun video.counted :=
    pixel.congr rfl rfl rfl rfl rfl rfl
  obtain ⟨begun', shifted⟩ := current.shiftPixel setUp
  have drawn : video.counted.clockPixel = _ := clockPixel_of_vga h.mode
  rw [colorEdge_of_busy (h.busy more)]
  refine ⟨?_, ?_⟩
  · rw [Bool.eq_iff_iff, beq_iff_eq, decide_eq_true_iff]
    exact h.last_iff more
  · exact {
      mode := setup.mode.trans h.mode
      pinGroup := setup.pinGroup.trans h.pinGroup
      pinMask := setup.pinMask.trans h.pinMask
      toGo := clocks ▸ h.toNat_counted more
      frames := frames.trans (h.frames_counted more)
      levels := fun _ => by rw [drawn]
      pixel := ⟨begun', by
        rw [drawn]
        exact shifted.congr rfl rfl rfl rfl rfl rfl⟩ }

/-- When the frame is over, clocks do nothing. -/
lemma finished (h : Drawing start colors pixels (frameLength start.scale) video) (level : Bool) :
    video.colorEdge level = (false, video) := by
  have none : video.frameClocks.toNat = 0 := Nat.add_eq_left.mp h.toGo
  have ready : video.isReady = true := beq_iff_eq.mpr (UInt32.toNat_inj.mp none)
  simp only [colorEdge, ready, Bool.not_true, Bool.and_false, Bool.false_eq_true, if_false]

/-- These fields are not looked at in VGA mode before the next frame. -/
lemma retuned (h : Drawing start colors pixels shown video) (scale : UInt32) (scaleChanged : Bool)
    (auralSource : Option (Fin 8)) (carrier aural : Bool) :
    Drawing start colors pixels shown
      { video with scale, scaleChanged, auralSource, carrier, aural } :=
  { h with pixel := h.pixel.imp fun _ pixel => pixel.congr rfl rfl rfl rfl rfl rfl }

lemma quiet (h : Drawing start colors pixels shown video) {event : Event}
    (within : event.isDuringFrame) (silent : event ≠ .color true) :
    Drawing start colors pixels shown (video.apply event) := by
  cases event with
  | config value running => nomatch within
  | feed colors pixels => nomatch within
  | scale value =>
    simp only [apply, setScale]
    split
    · exact h
    · exact h.retuned value true _ _ _
  | detach stopped =>
    simp only [apply, detachAural]
    split
    · exact h.retuned _ _ none _ _
    · exact h
  | color level =>
    cases level with
    | true => exact absurd rfl silent
    | false => exact h
  | carrier level =>
    have edge : video.carrierEdge level = { video with carrier := level } := mix_of_vga h.mode
    rw [apply, edge]
    exact h.retuned _ _ _ level _
  | aural level =>
    have edge : video.auralEdge level = { video with aural := level } := mix_of_vga h.mode
    rw [apply, edge]
    exact h.retuned _ _ _ _ level

end Drawing

/-- Whatever happens during a frame, it has been drawn as far as there were clocks for it. -/
theorem drawing_run (setUp : start.SetUp) (vga : start.mode = .vga) (colors pixels : UInt32)
    (events : List Event) (within : ∀ event ∈ events, event.isDuringFrame) :
    Drawing start colors pixels (min (events.count (.color true)) (frameLength start.scale))
      ((start.feed colors pixels).run events) := by
  induction events using List.reverseRecOn with
  | nil =>
    rw [List.count_nil, Nat.zero_min]
    exact .feed setUp vga colors pixels
  | append_singleton events event ih =>
    rw [List.forall_mem_append, List.forall_mem_singleton] at within
    have drawn := ih within.1
    rw [run_concat, List.count_append, List.count_singleton]
    by_cases rising : event = .color true
    · rw [rising, beq_self_eq_true, if_pos rfl]
      by_cases more : events.count (.color true) < frameLength start.scale
      · rw [Nat.min_eq_left (Nat.le_of_lt more)] at drawn
        rw [Nat.min_eq_left more]
        exact (drawn.clock setUp more).2
      · have done := Nat.not_lt.mp more
        rw [Nat.min_eq_right done] at drawn
        rw [Nat.min_eq_right (Nat.le_add_right_of_le done), apply, drawn.finished]
        exact drawn
    · rw [beq_false_of_ne rising, if_neg Bool.false_ne_true, Nat.add_zero]
      exact drawn.quiet within.2 rising

/-- **A frame in VGA mode** shows the right pixel at every clock.  Of all the clocks in which it
could end, it ends in the last one of its length, and later clocks change nothing. -/
theorem vga_frame {past events : List Event} (vga : (off.run past).mode = .vga)
    (within : ∀ event ∈ events, event.isDuringFrame) (colors pixels : UInt32) :
    let video := off.run past
    let after := (video.feed colors pixels).run events
    let clocks := events.count (.color true)
    let length := frameLength video.scale
    (0 < clocks → after.output.toNat
        = pixelPins video.config colors pixels ((min clocks length - 1) / pixelLength video.scale))
      ∧ (∀ level, (after.colorEdge level).1 = (level && decide (clocks + 1 = length)))
      ∧ after.frames = video.frames + if length ≤ clocks then 1 else 0 := by
  intro video after clocks length
  have setUp : video.SetUp := setUp_run past
  have drawn : Drawing video colors pixels (min clocks length) after :=
    drawing_run setUp vga colors pixels events within
  have long : 0 < length := frameLength_pos video.scale
  refine ⟨fun some => drawn.toNat_output setUp (by omega), fun level => ?_, ?_⟩
  · cases level with
    | false => rfl
    | true =>
      rw [Bool.true_and]
      by_cases more : clocks < length
      · rw [Nat.min_eq_left (Nat.le_of_lt more)] at drawn
        exact (drawn.clock setUp more).1
      · have done := Nat.not_lt.mp more
        rw [Nat.min_eq_right done] at drawn
        rw [drawn.finished]
        exact (decide_eq_false (by omega)).symm
  · rw [drawn.frames]
    exact congrArg _ (if_congr (by omega) rfl rfl)

/-- Four colors of which each is shown for two clocks, in a frame of four. -/
theorem vga_frame_of_fourColors :
    let video := off.run [.config 0x300002FF 0, .scale 0x2004]
    let after := (video.feed 0x44332211 0b1110).run
      [.color true, .color false, .scale 0x1001, .color true, .carrier true, .color true]
    after.output.toNat = 0x4400 ∧ (after.colorEdge true).1 = true ∧ after.frames = 0 := by
  intro video after
  obtain ⟨pins, done, frames⟩ := @vga_frame [.config 0x300002FF 0, .scale 0x2004]
    [.color true, .color false, .scale 0x1001, .color true, .carrier true, .color true]
    rfl (by decide) 0x44332211 0b1110
  exact ⟨pins (by decide), done true, frames⟩

end P1Chip.Video
