/-!
# Packed offsets

Branches and variables are given by offsets of one or two bytes.  When the top bit of the first
byte is clear, its other seven bits are the offset; otherwise those seven bits and the second byte
are.  The same bytes can be read as an unsigned number or as a signed one, whose top bit is bit 6
or bit 14.

* `PackedOffset.size` — how many bytes an offset takes.
* `PackedOffset.unsigned`, `PackedOffset.signed` — its two values.
-/

namespace P1Chip.PackedOffset

/-- Whether an offset that starts with the byte `first` goes on with a second one. -/
def isLong (first : UInt8) : Bool :=
  first &&& 0x80 != 0

/-- Bytes that an offset takes, by its first byte. -/
def size (first : UInt8) : UInt32 :=
  if isLong first then 2 else 1

/-- The bits of an offset of two bytes. -/
def joined (first second : UInt8) : UInt32 :=
  ((first &&& 0x7F).toUInt32 <<< 8) ||| second.toUInt32

/-- The offset as an unsigned number.  The second byte counts only where there is one. -/
def unsigned (first second : UInt8) : UInt32 :=
  if isLong first then joined first second else first.toUInt32

/-- The offset as a signed number, in two's complement. -/
def signed (first second : UInt8) : UInt32 :=
  if isLong first then
    let value := joined first second
    if value &&& 0x4000 != 0 then value ||| 0xFFFF8000 else value
  else
    let value := first.toUInt32
    if value &&& 0x40 != 0 then value ||| 0xFFFFFF80 else value

end P1Chip.PackedOffset
