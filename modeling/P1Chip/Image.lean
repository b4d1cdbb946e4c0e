import P1Chip.ClockMode

/-!
# Program images

A program image is loaded at the start of hub memory and begins with a header of sixteen bytes.
All fields are little-endian.

| offset | size | field                                   |
|--------|------|-----------------------------------------|
| 0      | long | clock frequency                         |
| 4      | byte | clock mode                              |
| 5      | byte | checksum                                |
| 6      | word | object base                             |
| 8      | word | variable base                           |
| 10     | word | end of the image, where the stack frame of the first method starts |
| 12     | word | first program counter                   |
| 14     | word | first stack pointer                     |

`ImageHeader.ofBytes` reads the header, given what stands at each offset.
-/

namespace P1Chip

/-- The header of a program image. -/
structure ImageHeader where
  /-- System clock in hertz that the program was made for. -/
  clockFrequency : UInt32
  clockMode : ClockMode
  checksum : UInt8
  objectBase : UInt16
  variableBase : UInt16
  /-- End of the image; the first method's stack frame is built here. -/
  bootFrame : UInt16
  programCounter : UInt16
  stackPointer : UInt16
deriving DecidableEq, Repr, Inhabited

/-- The word with the given low and high bytes. -/
def littleWord (low high : UInt8) : UInt16 :=
  low.toUInt16 ||| (high.toUInt16 <<< 8)

/-- The long with the given low and high words. -/
def littleLong (low high : UInt16) : UInt32 :=
  low.toUInt32 ||| (high.toUInt32 <<< 16)

namespace ImageHeader

/-- The value of the two longs put just below the first stack frame.  A first method that returns
pops them and goes on with bytecode that stops the cog. -/
def terminationTrap : UInt32 := 0xFFFFF9FF

/-- The header in the bytes `byte 0` to `byte 15`. -/
def ofBytes (byte : Nat → UInt8) : ImageHeader where
  clockFrequency := littleLong (littleWord (byte 0) (byte 1)) (littleWord (byte 2) (byte 3))
  clockMode := ⟨byte 4⟩
  checksum := byte 5
  objectBase := littleWord (byte 6) (byte 7)
  variableBase := littleWord (byte 8) (byte 9)
  bootFrame := littleWord (byte 10) (byte 11)
  programCounter := littleWord (byte 12) (byte 13)
  stackPointer := littleWord (byte 14) (byte 15)

/-- The header of an image.  Where the image is too short, its bytes read as zero, as they do in
the cleared memory it is loaded into. -/
def ofImage (image : ByteArray) : ImageHeader :=
  ofBytes fun offset => image[offset]?.getD 0

end ImageHeader

end P1Chip
