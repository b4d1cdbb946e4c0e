import Mathlib.Tactic.Tauto
import P1Chip.Proofs.Pins.Watcher

/-!
# The pins between chip and outside

The cogs read the pins from a word that is put together from three others: what cogs put out, which
pins are outputs, and what is driven high from outside.  What a pin looks like from outside comes
from the same three and from a fourth, the pins that nothing drives.  The two agree because a pin
that nothing drives is not high, whatever plugins do to the pins.

* `ExternalDrive.Attainable` — what can be made of the pins by driving them.
* `KeepsToInterface` — plugins do nothing else to them.
* **`ExternalDrive.Attainable.exclusive`** — then no pin is left alone and high as well.
* `PluginSet.attainable_deliverClock`, `PluginSet.attainable_deliverPins` — nor is it when many
  plugins have been called.
* `Hub.ReadsPins` — the cogs read what is on the pins.
* **`Hub.coherent_of_attainable`** — and what they read is what is seen from outside.
-/

namespace P1Chip

variable {τ π : Type}

/-! ## Sets of pins -/

section Sets

variable {pins other : UInt64} {pin : Fin pinCount}

@[simp] lemma not_hasPin_zero : ¬ HasPin 0 pin := by
  rw [HasPin, UInt64.zero_and]
  exact fun some => some rfl

@[simp] lemma hasPin_and : HasPin (pins &&& other) pin ↔ HasPin pins pin ∧ HasPin other pin := by
  rw [hasPin_iff, hasPin_iff, hasPin_iff, UInt64.toBitVec_and, BitVec.getLsbD_and,
    Bool.and_eq_true]

@[simp] lemma hasPin_or : HasPin (pins ||| other) pin ↔ HasPin pins pin ∨ HasPin other pin := by
  rw [hasPin_iff, hasPin_iff, hasPin_iff, UInt64.toBitVec_or, BitVec.getLsbD_or, Bool.or_eq_true]

@[simp] lemma hasPin_not : HasPin (~~~ pins) pin ↔ ¬ HasPin pins pin := by
  have bound : pin.val < 64 := pin.isLt
  rw [hasPin_iff, hasPin_iff, UInt64.toBitVec_not, BitVec.getLsbD_not]
  simp [bound]

end Sets

/-! ## Driving pins from outside -/

namespace ExternalDrive

/-- What can be made of the pins: at first nothing drives them, and from then on pins are driven,
or let go of, and it is asked whether something has changed. -/
inductive Attainable : ExternalDrive → Prop
  | none : Attainable .none
  | drive {external : ExternalDrive} (h : Attainable external) (pin : UInt32)
      (floating high : Bool) : Attainable (external.drive pin floating high)
  | takeChanged {external : ExternalDrive} (h : Attainable external) :
      Attainable external.takeChanged.2

variable {external : ExternalDrive}

/-- **A pin that nothing drives is not high.** -/
theorem Attainable.exclusive (h : external.Attainable) (pin : Fin pinCount) :
    ¬ (HasPin external.floating pin ∧ HasPin external.high pin) := by
  induction h with
  | none => exact fun both => not_hasPin_zero both.2
  | @drive external _ driven floating high ih =>
    -- the pins that are driven get other bits, and each of the others keeps both of its own
    cases floating <;> cases high
    all_goals
      simp only [ExternalDrive.drive, hasPin_and, hasPin_or, hasPin_not, Bool.not_true,
        Bool.not_false, Bool.and_true, Bool.and_false, Bool.false_eq_true, if_true, if_false]
      tauto
  | takeChanged _ ih => exact ih

lemma Attainable.driveAll (h : external.Attainable) (drives : List (UInt32 × Bool × Bool)) :
    (external.driveAll drives).Attainable := by
  induction drives generalizing external with
  | nil => exact h
  | cons drive drives ih => exact ih (h.drive drive.1 drive.2.1 drive.2.2)

end ExternalDrive

/-- Whatever plugins do to the pins, they do it by the functions that there are for it. -/
structure KeepsToInterface (τ π : Type) [Plugin τ π] : Prop where
  onClock : ∀ (plugin : π) (time : τ) (counter : UInt32) {external : ExternalDrive},
    external.Attainable → (Plugin.onClock plugin time counter external).external.Attainable
  onPins : ∀ (plugin : π) (time : τ) (pins : PinStates) {external : ExternalDrive},
    external.Attainable → (Plugin.onPins plugin time pins external).external.Attainable

/-- Driving pins is one of them. -/
lemma DrivesOnly.keepsToInterface [Plugin τ π] (drives : DrivesOnly τ π) :
    KeepsToInterface τ π where
  onClock := by
    intro plugin time counter external attainable
    obtain ⟨list, driven⟩ := drives.onClock plugin time counter external
    rw [driven]
    exact attainable.driveAll list
  onPins := by
    intro plugin time pins external attainable
    obtain ⟨list, driven⟩ := drives.onPins plugin time pins external
    rw [driven]
    exact attainable.driveAll list

namespace PluginSet

/-- Plugins that keep to the interface keep to it together. -/
lemma attainable_deliver {wants : Attached π → Bool} {call : π → ExternalDrive → Reaction π}
    (keeps : ∀ plugin {external : ExternalDrive}, external.Attainable →
      (call plugin external).external.Attainable)
    (attached : List (Attached π)) {external : ExternalDrive} (h : external.Attainable) :
    (deliver wants call attached external).2.1.Attainable := by
  induction attached generalizing external with
  | nil => exact h
  | cons a attached ih =>
    simp only [deliver]
    split
    · exact ih (keeps a.plugin h)
    · exact ih h

variable [Plugin τ π] {external : ExternalDrive}

lemma attainable_deliverClock (keeps : KeepsToInterface τ π) (set : PluginSet π) (time : τ)
    (counter : UInt32) (h : external.Attainable) :
    (set.deliverClock time counter external).2.Attainable :=
  attainable_deliver (fun plugin _ => keeps.onClock plugin time counter) set.attached h

lemma attainable_deliverPins (keeps : KeepsToInterface τ π) (set : PluginSet π) (time : τ)
    (pins : PinStates) (h : external.Attainable) :
    (set.deliverPins time pins external).2.Attainable :=
  attainable_deliver (fun plugin _ => keeps.onPins plugin time pins) set.attached h

end PluginSet

/-! ## What the cogs read -/

namespace Hub

/-- The cogs read what is on the pins: on outputs what they put out, and on all others what drives
them high from outside. -/
def ReadsPins (hub : Hub) : Prop :=
  hub.input = (hub.out &&& hub.dir) ||| (hub.external.high &&& ~~~ hub.dir)

/-- Whoever looks at the pins, from inside or from outside, sees the same. -/
structure Coherent (hub : Hub) : Prop where
  exclusive : ∀ pin, ¬ (HasPin hub.external.floating pin ∧ HasPin hub.external.high pin)
  input : hub.ReadsPins
  states : ∀ pin : Fin pinCount, HasPin hub.input pin ↔
    hub.pinStates[pin] = .outputHigh ∨ hub.pinStates[pin] = .inputHigh

/-- A pin looks high if it is an output that is high, or none and driven high from outside. -/
lemma pinState_high_iff {hub : Hub} {pin : Fin pinCount}
    (exclusive : ¬ (HasPin hub.external.floating pin ∧ HasPin hub.external.high pin)) :
    (hub.pinStates[pin] = .outputHigh ∨ hub.pinStates[pin] = .inputHigh) ↔
      (HasPin hub.out pin ∧ HasPin hub.dir pin) ∨
        (HasPin hub.external.high pin ∧ ¬ HasPin hub.dir pin) := by
  have state : hub.pinStates[pin] = hub.pinState (UInt32.ofNat pin) :=
    Vector.getElem_ofFn pin.isLt
  rw [state]
  simp only [pinState, HasPin, bne_iff_ne] at exclusive ⊢
  split
  · next output => split <;> simp_all
  · next input =>
    split
    · next floats => simp_all
    · split <;> simp_all

/-- **What is read from the pins is what is seen from outside.** -/
theorem coherent_of_attainable {hub : Hub} (attainable : hub.external.Attainable)
    (reads : hub.ReadsPins) : hub.Coherent where
  exclusive := attainable.exclusive
  input := reads
  states := by
    intro pin
    rw [pinState_high_iff (attainable.exclusive pin), reads, hasPin_or, hasPin_and, hasPin_and,
      hasPin_not]

end Hub

end P1Chip
