import P1Chip.Memory.Basic

/-!
# Blocks and strings in hub memory

* `Memory.fill`, `Memory.move` — write a number of elements, one after the other.
* `Memory.stringSize`, `Memory.stringsEqual` — strings that end with a zero byte.
* `blockCount` — how many elements an operation goes through at most.

Hub memory has 65536 bytes, so an operation on more elements would only go over the same ones
again.
-/

namespace P1Chip

/-- The most elements that one operation goes through. -/
abbrev blockLimit : Nat := 65536

/-- The number of elements in a signed count: none if it is negative, and never more than
`blockLimit`. -/
def blockCount (count : UInt32) : Nat :=
  min count.toInt32.toInt.toNat blockLimit

namespace Memory

/-- Writes `value` to `count` elements, from the first on. -/
def fill (size : DataSize) (value : UInt32) : Nat → UInt32 → Memory → Memory
  | 0, _, memory => memory
  | count + 1, destination, memory =>
    fill size value count (destination + size.bytes) (memory.write size destination value)

/-- Copies `count` elements, from the first on.  Each is read when its turn comes, after those
before it were written. -/
def move (size : DataSize) : Nat → UInt32 → UInt32 → Memory → Memory
  | 0, _, _, memory => memory
  | count + 1, source, destination, memory =>
    move size count (source + size.bytes) (destination + size.bytes)
      (memory.write size destination (memory.read size source))

/-- Bytes from an address up to the next zero, of which there are `room` to look at; `size` were
counted before. -/
def countNonzero (memory : Memory) : Nat → UInt32 → UInt32 → UInt32
  | 0, _, size => size
  | room + 1, address, size =>
    if memory.readByte address = 0 then size
    else countNonzero memory room (address + 1) (size + 1)

/-- The number of bytes from an address up to the next zero or the end of hub memory.  An address
past the end has none. -/
def stringSize (memory : Memory) (address : UInt32) : UInt32 :=
  memory.countNonzero (blockLimit - address.toNat) address 0

/-- Whether the bytes at two addresses are equal up to a zero, of which there are `room` to look
at. -/
def equalUntilZero (memory : Memory) : Nat → UInt32 → UInt32 → Bool
  | 0, _, _ => true
  | room + 1, a, b =>
    let x := memory.readByte a
    if x != memory.readByte b then false
    else if x = 0 then true
    else equalUntilZero memory room (a + 1) (b + 1)

/-- Whether two addresses hold the same string. -/
def stringsEqual (memory : Memory) (a b : UInt32) : Bool :=
  memory.equalUntilZero blockLimit a b

end Memory

end P1Chip
