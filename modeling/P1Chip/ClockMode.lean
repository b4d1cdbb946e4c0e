import P1Chip.Word

/-!
# The clock mode

The clock register holds one byte that chooses the source of the system clock:

* bit 7 resets the chip when it is written,
* bit 6 turns on the crystal's phase-locked loop,
* bit 5 turns on the crystal oscillator,
* bits 4 and 3 give the oscillator's gain,
* bits 2 to 0 select the source.

`ClockMode.coreFrequency` is the system clock that a mode makes of a crystal, and
`ClockMode.crystalFrequency?` the crystal that a mode needs for a given system clock.
-/

namespace P1Chip

/-- A value of the clock register. -/
structure ClockMode where
  /-- The byte that is written to the register. -/
  bits : UInt8
deriving DecidableEq, Repr, Inhabited

namespace ClockMode

/-- Frequency of the fast internal oscillator, in hertz. -/
def fastInternal : UInt32 := 12000000

/-- Frequency of the slow internal oscillator, in hertz. -/
def slowInternal : UInt32 := 20000

/-- Writing a mode with this bit resets the chip. -/
def resets (mode : ClockMode) : Bool :=
  mode.bits &&& 0x80 != 0

/-- Whether the crystal's phase-locked loop is on. -/
def pllEnabled (mode : ClockMode) : Bool :=
  mode.bits &&& 0x40 != 0

/-- Whether the crystal oscillator is on. -/
def oscillatorEnabled (mode : ClockMode) : Bool :=
  mode.bits &&& 0x20 != 0

/-- The gain field of the oscillator. -/
def gain (mode : ClockMode) : Fin 4 :=
  ⟨mode.bits.toNat / 8 % 4, Nat.mod_lt _ (Nat.zero_lt_succ 3)⟩

/-- The source field: 0 and 1 are the internal oscillators, 2 the crystal or clock input itself,
and 3 to 7 its multiples. -/
def source (mode : ClockMode) : Fin 8 :=
  Word.lowThreeBits mode.bits.toNat

/-- The same mode without the reset bit. -/
def withoutReset (mode : ClockMode) : ClockMode :=
  ⟨mode.bits &&& 0x7F⟩

/-- For the sources that multiply the crystal: the exponent of two of the factor. -/
def pllShift? (mode : ClockMode) : Option Nat :=
  if 3 ≤ mode.source.val then some (mode.source.val - 3) else none

/-- The system clock in hertz that the mode makes of a crystal (or clock input) of the given
frequency, modulo `2 ^ 32`.  A multiple without the phase-locked loop gives no clock at all. -/
def coreFrequency (mode : ClockMode) (crystal : UInt32) : UInt32 :=
  match mode.source.val with
  | 0 => fastInternal
  | 1 => slowInternal
  | 2 => crystal
  | _ =>
    match mode.pllShift? with
    | some shift => if mode.pllEnabled then crystal <<< UInt32.ofNat shift else 0
    | none => 0

/-- The crystal that a program expects, from the system clock that it was made for.  There is
none when the mode leaves the oscillator's gain at zero or uses an internal oscillator. -/
def crystalFrequency? (mode : ClockMode) (core : UInt32) : Option UInt32 :=
  if mode.gain.val = 0 then
    none
  else
    match mode.source.val with
    | 0 | 1 => none
    | 2 => some core
    | source => some (core >>> UInt32.ofNat (source - 3))

/-- Names of the oscillator's gains. -/
def gainNames : Vector String 4 :=
  #v["XINPUT", "XTAL1", "XTAL2", "XTAL3"]

/-- Names of the clock sources. -/
def sourceNames : Vector String 8 :=
  #v["RCFAST", "RCSLOW", "XINPUT", "PLL1X", "PLL2X", "PLL4X", "PLL8X", "PLL16X"]

/-- The mode as a sum of the names of its parts, the source last. -/
def name (mode : ClockMode) : String :=
  (if mode.resets then "RESET+" else "")
    ++ (if mode.pllEnabled then "PLL+" else "")
    ++ (if mode.oscillatorEnabled then gainNames[mode.gain] ++ "+" else "")
    ++ sourceNames[mode.source]

end ClockMode

end P1Chip
