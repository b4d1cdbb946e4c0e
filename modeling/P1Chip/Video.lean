import P1Chip.BitSet8
import P1Chip.Word

/-!
# The video generator

A cog hands its video generator a long of colors and a long of pixels.  The generator then shifts
out pixels on the rising edges of the cog's first phase-locked loop: each pixel takes a number of
clocks, and each such frame a number of clocks, both from the scale register.  A pixel selects one
of the color bytes, which is put on a group of eight pins: as it is in VGA mode, and mixed with a
chroma phase, a broadcast carrier and an aural subcarrier in the composite modes.

* `Video.feed` — start a frame.
* `Video.colorEdge`, `Video.carrierEdge`, `Video.auralEdge` — edges of the three clocks.
* `Video.output` — the pins that are driven high.
-/

namespace P1Chip

/-- What the generator puts out. -/
inductive VideoMode where
  | disabled
  | vga
  /-- Baseband on the low nibble of the pin group, broadcast on the high one. -/
  | composite1
  /-- Broadcast on the low nibble of the pin group, baseband on the high one. -/
  | composite2
deriving DecidableEq, Repr, Inhabited

namespace VideoMode

/-- The mode in bits 30 and 29 of the configuration register. -/
def ofConfig (config : UInt32) : VideoMode :=
  match (config >>> 29).toNat % 4 with
  | 0 => disabled
  | 1 => vga
  | 2 => composite1
  | _ => composite2

/-- The modes in which baseband, carrier and subcarrier are mixed. -/
def isComposite : VideoMode → Bool
  | composite1 | composite2 => true
  | _ => false

end VideoMode

/-- The video generator of a cog. -/
structure Video where
  /-- The configuration register. -/
  config : UInt32
  /-- The scale register. -/
  scale : UInt32
  /-- Whether the scale register was changed since the last frame started. -/
  scaleChanged : Bool
  /-- Clocks per pixel in the current frame; zero stands for 256. -/
  clocksPerPixel : UInt32
  /-- Clocks left of the current pixel. -/
  pixelClocks : UInt32
  /-- Clocks left of the current frame. -/
  frameClocks : UInt32
  mode : VideoMode
  fourColors : Bool
  chromaBaseband : Bool
  chromaBroadcast : Bool
  /-- The cog whose first phase-locked loop is the aural subcarrier. -/
  auralSource : Option (Fin 8)
  /-- Number of the first pin of the group. -/
  pinGroup : UInt64
  pinMask : UInt64
  /-- Pixels that are still to come, the next one in the low bits. -/
  pixels : UInt32
  colors : UInt32
  /-- Color byte of the current pixel. -/
  color : UInt32
  /-- Phase of the chroma signal. -/
  phase : UInt8
  carrier : Bool
  aural : Bool
  /-- Levels of the pin group before the mask. -/
  levels : UInt64
  broadcastUp : UInt64
  broadcastDown : UInt64
  baseband : UInt64
  auralBit : UInt64
  /-- Frames that were finished. -/
  frames : UInt64
deriving DecidableEq, Repr, Inhabited

namespace Video

/-- A generator that is switched off and has not shown any frame. -/
def off : Video where
  config := 0
  scale := 0
  scaleChanged := true
  clocksPerPixel := 0
  pixelClocks := 0
  frameClocks := 0
  mode := .disabled
  fourColors := false
  chromaBaseband := false
  chromaBroadcast := false
  auralSource := none
  pinGroup := 0
  pinMask := 0
  pixels := 0
  colors := 0
  color := 0
  phase := 0
  carrier := false
  aural := false
  levels := 0
  broadcastUp := 0
  broadcastDown := 0
  baseband := 0
  auralBit := 0
  frames := 0

/-! ## Registers -/

/-- Writes the configuration register.  `running` has the bits of the running cogs: only one of
them can become the aural subcarrier. -/
def setConfig (video : Video) (value : UInt32) (running : UInt8) : Video :=
  let aural := Word.lowThreeBits (value >>> 23).toNat
  let pinGroup := ((value >>> 6) &&& 0x38).toUInt64
  { video with
    config := value
    mode := VideoMode.ofConfig value
    fourColors := value &&& 0x10000000 != 0
    chromaBroadcast := value &&& 0x08000000 != 0
    chromaBaseband := value &&& 0x04000000 != 0
    auralSource := if BitSet8.contains running aural then some aural else none
    pinGroup
    pinMask := (value &&& 0xFF).toUInt64 <<< pinGroup }

/-- Writes the scale register.  A new number of clocks per pixel counts from the next frame on. -/
def setScale (video : Video) (value : UInt32) : Video :=
  if video.scale = value then video else { video with scale := value, scaleChanged := true }

/-- Stops listening to a cog that is being stopped. -/
def detachAural (video : Video) (cog : Fin 8) : Video :=
  if video.auralSource = some cog then { video with auralSource := none } else video

/-! ## Frames -/

/-- Whether the last frame is finished and the generator waits for the next one. -/
def isReady (video : Video) : Bool :=
  video.frameClocks == 0

/-- A count in which zero stands for `full`. -/
def orFull (count full : UInt32) : UInt32 :=
  if count = 0 then full else count

/-- Starts a frame.  Its first pixel goes out on the first clock. -/
def feed (video : Video) (colors pixels : UInt32) : Video :=
  { video with
    colors
    pixels
    clocksPerPixel :=
      if video.scaleChanged then (video.scale >>> 12) &&& 0xFF else video.clocksPerPixel
    scaleChanged := false
    frameClocks := orFull (video.scale &&& 0xFFF) 0x1000
    pixelClocks := 1 }

/-- Pins that are driven high. -/
def output (video : Video) : UInt64 :=
  video.levels &&& video.pinMask

/-! ## Mixing -/

/-- The color's luma raised by one if the chroma phase is in its upper half, and lowered by one
otherwise, in three bits. -/
def modulate (luma : UInt64) (upper : Bool) : UInt64 :=
  (if upper then luma + 1 else luma - 1) &&& 7

/-- Sets the baseband and broadcast levels for a color: the low three bits are the luma, bit 3
asks for chroma, and the upper nibble is the phase of the hue. -/
def fillComposite (video : Video) (color : UInt32) : Video :=
  let luma := (color &&& 7).toUInt64
  let hasChroma := color &&& 8 != 0
  let upper := (video.phase.toUInt64 + color.toUInt64) &&& 0x80 != 0
  let baseband := if hasChroma && video.chromaBaseband then modulate luma upper else luma
  let baseband := if hasChroma && upper then baseband ||| 8 else baseband
  let broadcast := if hasChroma && video.chromaBroadcast then modulate luma upper else luma
  { video with
    baseband := baseband <<< video.pinGroup
    broadcastUp := ((7 : UInt64) - (broadcast >>> 1)) <<< video.pinGroup
    broadcastDown := ((broadcast + 1) >>> 1) <<< video.pinGroup }

/-- Puts the mixture of baseband, broadcast and aural subcarrier out, in the composite modes. -/
def mix (video : Video) : Video :=
  if video.mode.isComposite then
    let broadcast := if video.carrier then video.broadcastUp else video.broadcastDown
    let aural := if video.aural != video.carrier then video.auralBit else 0
    { video with levels := video.baseband ||| broadcast ||| aural }
  else
    video

/-! ## Edges -/

/-- An edge of the aural subcarrier. -/
def auralEdge (video : Video) (level : Bool) : Video :=
  { video with aural := level }.mix

/-- An edge of the broadcast carrier, which is the cog's second phase-locked loop. -/
def carrierEdge (video : Video) (level : Bool) : Video :=
  { video with carrier := level }.mix

/-- Moves on to the next pixel if the current one is over. -/
def shiftPixel (video : Video) : Video :=
  if video.pixelClocks ≤ 1 then
    let bits : UInt32 := if video.fourColors then 2 else 1
    let index := video.pixels &&& (if video.fourColors then 3 else 1)
    { video with
      color := (video.colors >>> (index <<< 3)) &&& 0xFF
      pixels := video.pixels >>> bits
      pixelClocks := orFull video.clocksPerPixel 0x100 }
  else
    { video with pixelClocks := video.pixelClocks - 1 }

/-- Puts the color of the current pixel on the pins, as the mode says. -/
def showColor (video : Video) : Video :=
  match video.mode with
  | .disabled => video
  | .vga => { video with levels := video.color.toUInt64 <<< video.pinGroup }
  | .composite1 =>
    let video := video.fillComposite video.color
    { video with
      broadcastUp := video.broadcastUp <<< 4
      broadcastDown := video.broadcastDown <<< 4
      auralBit := (0x80 : UInt64) <<< video.pinGroup }.mix
  | .composite2 =>
    let video := video.fillComposite video.color
    { video with
      baseband := video.baseband <<< 4
      auralBit := (0x08 : UInt64) <<< video.pinGroup }.mix

/-- One clock of a frame.  A generator that is switched off lets the frame pass without showing
anything. -/
def clockPixel (video : Video) : Video :=
  if video.mode = .disabled then
    { video with levels := 0 }
  else
    let video := video.shiftPixel.showColor
    { video with phase := video.phase + 0x10 }

/-- An edge of the pixel clock, which is the cog's first phase-locked loop.  Only rising edges
during a frame count.  Tells whether this edge finished the frame. -/
def colorEdge (video : Video) (level : Bool) : Bool × Video :=
  if level && !video.isReady then
    let frameClocks := video.frameClocks - 1
    let done := frameClocks == 0
    let frames := if done then video.frames + 1 else video.frames
    (done, { video with frameClocks, frames }.clockPixel)
  else
    (false, video)

end Video

end P1Chip
