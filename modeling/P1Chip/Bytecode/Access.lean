import P1Chip.DataSize

/-!
# Access to variables and registers in bytecode

Three kinds of bytecode name a place that holds a value, and say in two or three bits what to do
with it.

* `MemoryAccess` — any place in hub memory, relative to one of the frames or to a popped address.
* `VariableAccess` — one of the first eight longs of a frame, in a single byte.
* `RegisterAccess` — one of the last 32 registers of the cog, in the byte after the bytecode.
-/

namespace P1Chip

/-- What is done with the place. -/
inductive AccessKind where
  /-- Its value is pushed. -/
  | push
  /-- It is given a popped value. -/
  | pop
  /-- It is updated in place, as a further byte says. -/
  | update
  /-- Its address is pushed. -/
  | reference
deriving DecidableEq, Repr, Inhabited

namespace AccessKind

/-- The kind in the low two bits of a byte. -/
def ofBits (bits : UInt8) : AccessKind :=
  match bits.toNat % 4 with
  | 0 => push
  | 1 => pop
  | 2 => update
  | _ => reference

end AccessKind

/-- What an address is relative to. -/
inductive AddressSpace where
  /-- A popped address. -/
  | main
  /-- The code and constants of the current object. -/
  | object
  /-- The variables of the current object. -/
  | vars
  /-- The locals of the current method. -/
  | locals
deriving DecidableEq, Repr, Inhabited

/-- Access to a place in hub memory. -/
structure MemoryAccess where
  kind : AccessKind
  space : AddressSpace
  /-- Whether an index is popped and added, scaled by the size. -/
  indexed : Bool
  size : DataSize
deriving DecidableEq, Repr, Inhabited

namespace MemoryAccess

/-- The access that a bytecode from `0x80` to `0xDF` makes: bits 6 and 5 hold the size, bit 4 asks
for an index, bits 3 and 2 hold the space and bits 1 and 0 the kind. -/
def decode (code : UInt8) : MemoryAccess where
  kind := AccessKind.ofBits code
  space :=
    match code.toNat / 4 % 4 with
    | 0 => .main
    | 1 => .object
    | 2 => .vars
    | _ => .locals
  indexed := code &&& 0x10 != 0
  size :=
    match code.toNat / 32 % 4 with
    | 0 => .byte
    | 1 => .word
    | _ => .long

end MemoryAccess

/-- Access to one of the first eight longs of a frame. -/
structure VariableAccess where
  kind : AccessKind
  /-- Whether the frame is that of the method's locals, and not of the object's variables. -/
  isLocal : Bool
  /-- Distance of the long from the start of the frame, in bytes. -/
  offset : UInt32
deriving DecidableEq, Repr, Inhabited

namespace VariableAccess

/-- The access that a bytecode from `0x40` to `0x7F` makes: bit 5 chooses the frame, bits 4 to 2
hold the number of the long and bits 1 and 0 the kind. -/
def decode (code : UInt8) : VariableAccess where
  kind := AccessKind.ofBits code
  isLocal := code &&& 0x20 != 0
  offset := (code &&& 0x1C).toUInt32

/-- The space that the access is relative to. -/
def space (access : VariableAccess) : AddressSpace :=
  if access.isLocal then .locals else .vars

end VariableAccess

/-- Access to a register of the cog. -/
structure RegisterAccess where
  kind : AccessKind
  /-- Address of the register, from `0x1E0` to `0x1FF`. -/
  register : UInt32
deriving DecidableEq, Repr, Inhabited

namespace RegisterAccess

/-- The access that the byte after a register bytecode makes, if it makes one: its top three bits
say what is done, its other bits hold the register. -/
def decode? (byte : UInt8) : Option RegisterAccess :=
  let register := 0x1E0 + (byte &&& 0x1F).toUInt32
  match byte.toNat / 32 with
  | 4 => some ⟨.push, register⟩
  | 5 => some ⟨.pop, register⟩
  | 6 => some ⟨.update, register⟩
  | _ => none

end RegisterAccess

end P1Chip
