import P1Chip.Pins.Plugin
import P1Chip.Text.FixedPoint

/-!
# Printing the pins

* `PinTrace` — a plugin that prints all pins, the last one first, each time any of them changes.
-/

namespace P1Chip.CommandLine

/-- The pins as they were last printed. -/
structure PinTrace where
  last? : Option PinStates
deriving DecidableEq, Inhabited

namespace PinTrace

/-- Nothing was printed yet. -/
def new : PinTrace := ⟨none⟩

/-- The pins from the last to the first, in groups of eight. -/
def pinText (pins : PinStates) : String :=
  let groups := (List.range 8).reverse.map fun group =>
    String.ofList ((List.range 8).reverse.map fun i =>
      (pins[group * 8 + i]?.getD .floating).symbol)
  " ".intercalate groups

/-- A line with the time in seconds and the pins. -/
def line (time : Float) (pins : PinStates) : String :=
  Text.padLeft 14 ' ' (Text.fixed 9 time) ++ "s " ++ pinText pins

/-- Prints the pins, unless they are as they were. -/
def see (trace : PinTrace) (time : Float) (pins : PinStates) (external : ExternalDrive) :
    Reaction PinTrace :=
  if trace.last? = some pins then { plugin := trace, external, lines := [] }
  else { plugin := ⟨some pins⟩, external, lines := [line time pins] }

instance : Plugin Float PinTrace where
  onClock := fun trace _ _ external => { plugin := trace, external, lines := [] }
  onPins := see
  onReset := fun trace => (trace, [])
  onClose := fun _ => []

end PinTrace

end P1Chip.CommandLine
