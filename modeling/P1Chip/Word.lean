/-!
# Words

Operations on 32-bit words that both the native instructions and the operators of Spin need:
rotation, reversal of the bits, and the reading of a word as a signed number.  The fields of three
and four bits that choose a cog, a lock or a register are read here as well.
-/

namespace P1Chip.Word

/-- All bits set: the word for "true" and for "none". -/
def ones : UInt32 := 0xFFFFFFFF

/-- The number that the low three bits of `n` hold. -/
def lowThreeBits (n : Nat) : Fin 8 :=
  ⟨n % 8, Nat.mod_lt n (Nat.zero_lt_succ 7)⟩

/-- The number that the low four bits of `n` hold. -/
def lowFourBits (n : Nat) : Fin 16 :=
  ⟨n % 16, Nat.mod_lt n (Nat.zero_lt_succ 15)⟩

/-- The word read as a number in two's complement. -/
def signed (x : UInt32) : Int :=
  x.toInt32.toInt

/-- Bit 31. -/
def isNegative (x : UInt32) : Bool :=
  x &&& 0x80000000 != 0

/-- The distance of a signed word from zero; the least word is its own. -/
def magnitude (x : UInt32) : UInt32 :=
  if isNegative x then -x else x

/-- Rotation to the right, by the low five bits of `n`. -/
def rotateRight (x n : UInt32) : UInt32 :=
  (x >>> n) ||| (x <<< (32 - n))

/-- Rotation to the left, by the low five bits of `n`. -/
def rotateLeft (x n : UInt32) : UInt32 :=
  (x <<< n) ||| (x >>> (32 - n))

/-- Shift to the right that keeps the sign, by the low five bits of `n`. -/
def shiftRightSigned (x n : UInt32) : UInt32 :=
  (x.toInt32 >>> n.toInt32).toUInt32

/-- Groups of `n` bits change places with their neighbours; `low` has the bits of every second
group. -/
def swapGroups (low n x : UInt32) : UInt32 :=
  ((x >>> n) &&& low) ||| ((x &&& low) <<< n)

/-- The bits in reverse order: neighbours change places, then pairs, nibbles, bytes and halves. -/
def reverse (x : UInt32) : UInt32 :=
  swapGroups 0x0000FFFF 16 (swapGroups 0x00FF00FF 8 (swapGroups 0x0F0F0F0F 4
    (swapGroups 0x33333333 2 (swapGroups 0x55555555 1 x))))

/-- Whether the number of set bits is odd: halves of the word are folded onto each other until one
bit is left. -/
def parity (x : UInt32) : Bool :=
  let x := x ^^^ (x >>> 16)
  let x := x ^^^ (x >>> 8)
  let x := x ^^^ (x >>> 4)
  let x := x ^^^ (x >>> 2)
  let x := x ^^^ (x >>> 1)
  x &&& 1 != 0

/-- All ones for true, zero for false. -/
def ofBool (b : Bool) : UInt32 :=
  if b then ones else 0

end P1Chip.Word
