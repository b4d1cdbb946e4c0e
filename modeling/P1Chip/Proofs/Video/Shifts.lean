import P1Chip.Proofs.Checks
import P1Chip.Proofs.Video.Events
import P1Chip.Proofs.Video.Source

/-!
# Shifts of the video generator

The generator shifts colors, levels and masks to the pins of its group.  The first pin of the group
is kept from when the configuration register was written, so these shifts are in range only if it is
always one of the 64 pins.

* `Video.OnPins` — the group starts at one of the pins.
* `Video.setConfig?`, `Video.shiftPixel?`, `Video.colorEdge?` — operations with a check at each
  shift.
* **`Video.setConfig?_eq`**, **`Video.colorEdge?_eq`** — no check fails.
-/

namespace P1Chip.Video

variable (video : Video)

/-! ## The pin group -/

/-- The group starts at one of the 64 pins. -/
def OnPins : Prop :=
  video.pinGroup.toNat < 64

lemma onPins_off : OnPins off := by
  show UInt64.toNat 0 < 64
  decide

lemma toNat_pinGroup_setConfig (value : UInt32) (running : UInt8) :
    (video.setConfig value running).pinGroup.toNat = (value >>> 6).toNat / 8 % 8 * 8 :=
  (UInt32.toNat_toUInt64 _).trans (Word.toNat_field (value >>> 6) 3 3 rfl)

lemma onPins_setConfig (value : UInt32) (running : UInt8) :
    (video.setConfig value running).OnPins := by
  rw [OnPins, toNat_pinGroup_setConfig]
  omega

lemma onPins_setScale (pins : video.OnPins) (value : UInt32) : (video.setScale value).OnPins := by
  rw [setScale]
  split <;> exact pins

variable {video} in
/-- Where the group starts is a matter of setup. -/
lemma OnPins.same (pins : video.OnPins) {after : Video} (same : SameSetup video after) :
    after.OnPins := by
  rw [OnPins, same.pinGroup]
  exact pins

/-! ## Operations with checks -/

/-- Writes the configuration register.  The running cogs are a byte, whose bit is found by a shift.
The number of the cog to listen to comes first, and the generator itself has none. -/
def setConfig? (value : UInt32) (running : UInt8) : Option (Option Nat × Video) := do
  let aural := ((value >>> 23) &&& 7).toNat
  let bit ← BitSet8.single? aural
  let pinGroup := (value >>> 6) &&& 0x38
  within pinGroup.toNat 64 <| some
    (if running &&& bit != 0 then some aural else none,
      { video with
        config := value
        mode := VideoMode.ofConfig value
        fourColors := value &&& 0x10000000 != 0
        chromaBroadcast := value &&& 0x08000000 != 0
        chromaBaseband := value &&& 0x04000000 != 0
        auralSource := none
        pinGroup := pinGroup.toUInt64
        pinMask := (value &&& 0xFF).toUInt64 <<< pinGroup.toUInt64 })

/-- Moves on to the next pixel; its color is found by a shift of the colors. -/
def shiftPixel? : Option Video :=
  if video.pixelClocks ≤ 1 then
    let index := video.pixels &&& (if video.fourColors then 3 else 1)
    within (index <<< 3).toNat 32 (some video.shiftPixel)
  else
    some video.shiftPixel

/-- Puts the color on the pins.  All that is shifted there is shifted by the pin group. -/
def showColor? : Option Video :=
  if video.mode = .disabled then some video
  else within video.pinGroup.toNat 64 (some video.showColor)

def clockPixel? : Option Video :=
  if video.mode = .disabled then
    some { video with levels := 0 }
  else do
    let video ← video.shiftPixel?
    let video ← video.showColor?
    return { video with phase := video.phase + 0x10 }

def colorEdge? (level : Bool) : Option (Bool × Video) :=
  if level && !video.isReady then do
    let frameClocks := video.frameClocks - 1
    let done := frameClocks == 0
    let frames := if done then video.frames + 1 else video.frames
    return (done, ← { video with frameClocks, frames }.clockPixel?)
  else
    some (false, video)

/-! ## No check fails -/

theorem setConfig?_eq (value : UInt32) (running : UInt8) :
    video.setConfig? value running
      = some ((video.setConfig value running).auralSource.map Fin.val,
          (video.setConfig value running).withSource none) := by
  have group : ((value >>> 6) &&& 0x38).toNat < 64 := by
    rw [Word.toNat_field (value >>> 6) 3 3 rfl]
    omega
  simp only [setConfig?, toNat_lowThreeBits, BitSet8.single?_val, Option.bind_eq_bind,
    Option.bind_some, within_of_lt group]
  rw [setConfig, BitSet8.contains]
  split <;> rfl

lemma shiftPixel?_eq : video.shiftPixel? = some video.shiftPixel := by
  have small (colors : Bool) : (video.pixels &&& (if colors then 3 else 1)).toNat < 4 := by
    cases colors
    · exact Nat.lt_of_le_of_lt (Nat.and_le_right (n := video.pixels.toNat) (m := 1)) (by decide)
    · exact Nat.lt_of_le_of_lt (Nat.and_le_right (n := video.pixels.toNat) (m := 3)) (by decide)
  rw [shiftPixel?]
  split
  · refine within_of_lt ?_ _
    have index := small video.fourColors
    have shifted : ((video.pixels &&& (if video.fourColors then 3 else 1)) <<< 3).toNat = _ :=
      Word.toNat_shiftLeft_of_fits (by decide) (by simp only [UInt32.reduceToNat]; omega)
    rw [shifted, show UInt32.toNat 3 = 3 from rfl]
    omega
  · rfl

variable {video}

lemma showColor?_eq (pins : video.OnPins) : video.showColor? = some video.showColor := by
  rw [showColor?]
  split
  · next disabled => rw [showColor, disabled]
  · exact within_of_lt pins _

lemma clockPixel?_eq (pins : video.OnPins) : video.clockPixel? = some video.clockPixel := by
  rw [clockPixel?, clockPixel]
  split
  · rfl
  · have shifted : video.shiftPixel.OnPins := pins.same (.shiftPixel video)
    rw [shiftPixel?_eq, Option.bind_eq_bind, Option.bind_some, showColor?_eq shifted]
    rfl

/-- **An edge of the pixel clock** shifts within its words, if the group starts at a pin. -/
theorem colorEdge?_eq (pins : video.OnPins) (level : Bool) :
    video.colorEdge? level = some (video.colorEdge level) := by
  rw [colorEdge?, colorEdge]
  split
  · let frameClocks := video.frameClocks - 1
    let frames := if frameClocks == 0 then video.frames + 1 else video.frames
    have counted : OnPins { video with frameClocks, frames } := pins
    dsimp only
    rw [clockPixel?_eq counted]
    rfl
  · rfl

end P1Chip.Video
