import Mathlib.Tactic.Lemma
import P1Chip.Video

/-!
# The aural source

A video generator may listen to the first loop of some cog.  Which one it is says what edges it is
told of, and nothing else: whatever the generator does, it does with any source, and keeps it.

* `Video.IgnoresSource` — it makes no difference to which cog the generator listens.
* `Video.IgnoresSource.auralSource` — then the generator goes on listening to it.
* **`Video.colorEdge_withSource`** — what an edge of the pixel clock does is of this kind.
-/

namespace P1Chip.Video

variable (video : Video)

/-- The generator when it listens to another cog, or to none. -/
def withSource (source : Option (Fin 8)) : Video :=
  { video with auralSource := source }

/-- A change for which it makes no difference to which cog the generator listens. -/
def IgnoresSource (change : Video → Video) : Prop :=
  ∀ (video : Video) (source : Option (Fin 8)),
    change (video.withSource source) = (change video).withSource source

/-- Such a change keeps the source. -/
lemma IgnoresSource.auralSource {change : Video → Video} (ignores : IgnoresSource change)
    (video : Video) : (change video).auralSource = video.auralSource := by
  have same : change video = (change video).withSource video.auralSource :=
    ignores video video.auralSource
  rw [same]
  rfl

lemma ignoresSource_setScale (value : UInt32) : IgnoresSource (·.setScale value) := by
  intro video source
  simp only [setScale]
  rw [apply_ite (withSource · source)]
  rfl

lemma ignoresSource_mix : IgnoresSource mix := by
  intro video source
  rw [mix, mix, apply_ite (withSource · source)]
  rfl

lemma ignoresSource_auralEdge (level : Bool) : IgnoresSource (·.auralEdge level) :=
  fun video => ignoresSource_mix { video with aural := level }

lemma ignoresSource_carrierEdge (level : Bool) : IgnoresSource (·.carrierEdge level) :=
  fun video => ignoresSource_mix { video with carrier := level }

lemma ignoresSource_shiftPixel : IgnoresSource shiftPixel := by
  intro video source
  rw [shiftPixel, shiftPixel, apply_ite (withSource · source)]
  rfl

lemma ignoresSource_showColor : IgnoresSource showColor := by
  intro video source
  rcases video with ⟨⟩
  simp only [withSource, showColor]
  split <;> rfl

lemma ignoresSource_clockPixel : IgnoresSource clockPixel := by
  intro video source
  rw [clockPixel, clockPixel, ignoresSource_shiftPixel, ignoresSource_showColor,
    apply_ite (withSource · source)]
  rfl

/-- **An edge of the pixel clock** shows the same, whichever cog the generator listens to. -/
theorem colorEdge_withSource (source : Option (Fin 8)) (level : Bool) :
    (video.withSource source).colorEdge level
      = ((video.colorEdge level).1, (video.colorEdge level).2.withSource source) := by
  have ready : (video.withSource source).isReady = video.isReady := rfl
  simp only [colorEdge, ready]
  split
  · exact Prod.ext rfl (ignoresSource_clockPixel { video with
      frameClocks := video.frameClocks - 1
      frames := if video.frameClocks - 1 == 0 then video.frames + 1 else video.frames } source)
  · rfl

lemma auralSource_colorEdge (level : Bool) :
    (video.colorEdge level).2.auralSource = video.auralSource := by
  have same : (video.colorEdge level).2 = (video.colorEdge level).2.withSource video.auralSource :=
    congrArg Prod.snd (video.colorEdge_withSource video.auralSource level)
  rw [same]
  rfl

end P1Chip.Video
