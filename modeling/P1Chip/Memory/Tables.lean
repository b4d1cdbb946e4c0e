/-!
# The tables in read-only memory

Programs find three tables in the upper half of hub memory: logarithms and antilogarithms to the
base two, and a quarter wave of the sine.  Every entry is a word, rounded to nearest.

| address | entries | entry `i`, with `x = i / 2048`       |
|---------|---------|--------------------------------------|
| `C000`  | 2048    | `65536 * log2 (1 + x)`               |
| `D000`  | 2048    | `65536 * (2 ^ x - 1)`                |
| `E000`  | 2049    | `65535 * sin (x * pi / 2)`           |

The rest of the read-only memory is zero.
-/

namespace P1Chip

/-- Bytes of memory that can be written, and as many again that cannot. -/
abbrev halfSize : Nat := 0x8000

namespace RomTable

/-- A quarter turn, in radians. -/
def quarterTurn : Float := 1.57079632679489661923

/-- The position of entry `i` between the start of a table, 0, and its end, 1. -/
def position (i : Nat) : Float :=
  Float.ofNat i / 2048.0

/-- A table value as a word: the nearest whole number, halves away from zero. -/
def entry (value : Float) : UInt16 :=
  value.round.toUInt16

/-- The word of read-only memory with the given number, counted from address `8000`. -/
def wordAt (index : Nat) : UInt16 :=
  if 0x2000 ≤ index ∧ index < 0x2800 then
    entry ((1.0 + position (index - 0x2000)).log2 * 65536.0)
  else if 0x2800 ≤ index ∧ index < 0x3000 then
    entry (((position (index - 0x2800)).exp2 - 1.0) * 65536.0)
  else if 0x3000 ≤ index ∧ index ≤ 0x3800 then
    entry ((position (index - 0x3000) * quarterTurn).sin * 65535.0)
  else
    0

/-- Read-only memory that holds the tables, the low byte of each word first. -/
def bytes : Vector UInt8 halfSize :=
  Vector.ofFn fun i =>
    let word := wordAt (i.val / 2)
    if i.val % 2 = 0 then word.toUInt8 else (word >>> 8).toUInt8

end RomTable

end P1Chip
