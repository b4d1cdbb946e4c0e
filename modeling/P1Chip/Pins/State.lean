/-!
# The pins

The chip has 64 pins.  A set of pins is a 64-bit mask.

* `PinState` — what a pin looks like from outside.
* `ExternalDrive` — what drives the pins from outside, and whether that has changed.
-/

namespace P1Chip

/-- Number of pins of the chip.  Only the lower 32 of them have wires. -/
abbrev pinCount : Nat := 64

/-- The state of a pin as seen from outside. -/
inductive PinState where
  /-- Nothing drives the pin. -/
  | floating
  | outputLow
  | outputHigh
  /-- The chip does not drive the pin, and something outside drives it low. -/
  | inputLow
  /-- The chip does not drive the pin, and something outside drives it high. -/
  | inputHigh
deriving DecidableEq, Repr, Inhabited

namespace PinState

/-- One character for the state of a pin. -/
def symbol : PinState → Char
  | floating => '-'
  | outputLow => '0'
  | outputHigh => '1'
  | inputLow => 'l'
  | inputHigh => 'h'

/-- The state that a character stands for; any other character is a floating pin. -/
def ofSymbol : Char → PinState
  | '0' => outputLow
  | '1' => outputHigh
  | 'l' => inputLow
  | 'h' => inputHigh
  | _ => floating

end PinState

/-- The states of all pins. -/
abbrev PinStates := Vector PinState pinCount

/-- The mask of one pin; numbers count modulo 64. -/
def pinMask (pin : UInt32) : UInt64 :=
  1 <<< pin.toUInt64

/-- How the pins are driven from outside. -/
structure ExternalDrive where
  /-- Pins that nothing drives. -/
  floating : UInt64
  /-- Pins that are driven high. -/
  high : UInt64
  /-- Whether a pin has changed since this was last asked. -/
  changed : Bool
deriving DecidableEq, Repr, Inhabited

namespace ExternalDrive

/-- No pin is driven. -/
def none : ExternalDrive where
  floating := 0xFFFFFFFFFFFFFFFF
  high := 0
  changed := false

/-- Drives a pin, or lets go of it.  A floating pin is not high. -/
def drive (external : ExternalDrive) (pin : UInt32) (floating high : Bool) : ExternalDrive :=
  let mask := pinMask pin
  let floatingPins :=
    if floating then external.floating ||| mask else external.floating &&& ~~~ mask
  let highPins :=
    if high && !floating then external.high ||| mask else external.high &&& ~~~ mask
  { floating := floatingPins
    high := highPins
    changed := external.changed || floatingPins != external.floating || highPins != external.high }

/-- Whether a pin has changed since the last time, and the same drive with nothing to tell. -/
def takeChanged (external : ExternalDrive) : Bool × ExternalDrive :=
  (external.changed, { external with changed := false })

end ExternalDrive

end P1Chip
