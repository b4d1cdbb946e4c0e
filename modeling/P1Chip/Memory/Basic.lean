import P1Chip.DataSize
import P1Chip.Image
import P1Chip.Memory.Tables

/-!
# Hub memory

Hub memory has 64 kilobytes: the lower half can be read and written, the upper half only read.
Addresses wrap around at its end.  Words and longs are little-endian and stand at even addresses
and at multiples of four; the low bits of an address that point into one are ignored.

* `Memory` — the two halves.
* `Memory.readByte`, `Memory.readWord`, `Memory.readLong`, `Memory.read` — reading.
* `Memory.writeByte`, `Memory.writeWord`, `Memory.writeLong`, `Memory.write` — writing; what goes
  to the upper half is dropped.
-/

namespace P1Chip

/-- The memory that all cogs share. -/
structure Memory where
  /-- The half that can be written, from address 0. -/
  ram : Vector UInt8 halfSize
  /-- The half that cannot be written, from address `8000`. -/
  rom : Vector UInt8 halfSize
deriving DecidableEq, Inhabited

namespace Memory

/-- Memory with nothing in it but the tables. -/
def withTables : Memory where
  ram := Vector.replicate halfSize 0
  rom := RomTable.bytes

/-- Memory with the given contents of the upper half.  Only the first 32 kilobytes count, and
where there are fewer the rest is zero. -/
def withRom (rom : ByteArray) : Memory where
  ram := Vector.replicate halfSize 0
  rom := Vector.ofFn fun i => rom[i.val]?.getD 0

/-! ## Bytes -/

/-- No address reaches past the end of the upper half. -/
theorem sub_halfSize_lt (address : UInt16) : address.toNat - halfSize < halfSize := by
  have := address.toNat_lt
  simp only [halfSize]
  omega

/-- The byte at an address. -/
def byteAt (memory : Memory) (address : UInt16) : UInt8 :=
  if h : address.toNat < halfSize then
    memory.ram[address.toNat]
  else
    memory.rom.get ⟨address.toNat - halfSize, sub_halfSize_lt address⟩

/-- The memory with another byte at an address, unless it is in the upper half. -/
def setByte (memory : Memory) (address : UInt16) (value : UInt8) : Memory :=
  if h : address.toNat < halfSize then
    { memory with ram := memory.ram.set address.toNat value }
  else
    memory

/-! ## Reading -/

/-- The byte at an address, which counts modulo 64 kilobytes. -/
def readByte (memory : Memory) (address : UInt32) : UInt8 :=
  memory.byteAt address.toUInt16

/-- The word that the address points into. -/
def readWord (memory : Memory) (address : UInt32) : UInt16 :=
  let start := address.toUInt16 &&& 0xFFFE
  littleWord (memory.byteAt start) (memory.byteAt (start + 1))

/-- The long that the address points into. -/
def readLong (memory : Memory) (address : UInt32) : UInt32 :=
  let start := address.toUInt16 &&& 0xFFFC
  littleLong
    (littleWord (memory.byteAt start) (memory.byteAt (start + 1)))
    (littleWord (memory.byteAt (start + 2)) (memory.byteAt (start + 3)))

/-- What stands at an address, in the given size and filled up with zeros. -/
def read (memory : Memory) (size : DataSize) (address : UInt32) : UInt32 :=
  match size with
  | .byte => (memory.readByte address).toUInt32
  | .word => (memory.readWord address).toUInt32
  | .long => memory.readLong address

/-! ## Writing -/

/-- The memory with another byte at an address. -/
def writeByte (memory : Memory) (address : UInt32) (value : UInt8) : Memory :=
  memory.setByte address.toUInt16 value

/-- The memory with another word where the address points. -/
def writeWord (memory : Memory) (address : UInt32) (value : UInt16) : Memory :=
  let start := address.toUInt16 &&& 0xFFFE
  (memory.setByte start value.toUInt8).setByte (start + 1) (value >>> 8).toUInt8

/-- The memory with another long where the address points. -/
def writeLong (memory : Memory) (address : UInt32) (value : UInt32) : Memory :=
  let start := address.toUInt16 &&& 0xFFFC
  (((memory.setByte start value.toUInt8).setByte (start + 1) (value >>> 8).toUInt8).setByte
    (start + 2) (value >>> 16).toUInt8).setByte (start + 3) (value >>> 24).toUInt8

/-- The memory with another value of the given size where the address points; of the value only
the low bits of that size are kept. -/
def write (memory : Memory) (size : DataSize) (address : UInt32) (value : UInt32) : Memory :=
  match size with
  | .byte => memory.writeByte address value.toUInt8
  | .word => memory.writeWord address value.toUInt16
  | .long => memory.writeLong address value

/-! ## Whole images -/

/-- The memory with its lower half set to zero. -/
def clear (memory : Memory) : Memory :=
  { memory with ram := Vector.replicate halfSize 0 }

/-- The memory with `data` at the start of the lower half; what does not fit is dropped. -/
def load (memory : Memory) (data : ByteArray) : Memory :=
  { memory with ram := Vector.ofFn fun i => data[i.val]?.getD memory.ram[i] }

/-- The header at the start of the lower half. -/
def header (memory : Memory) : ImageHeader :=
  ImageHeader.ofBytes fun offset => memory.readByte (UInt32.ofNat offset)

end Memory

end P1Chip
