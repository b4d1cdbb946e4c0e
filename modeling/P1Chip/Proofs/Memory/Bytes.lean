import Mathlib.Data.Nat.Digits.Defs
import P1Chip.Proofs.Memory.Cells

/-!
# Memory as an array of bytes

Reads and writes of three sizes overlap each other, their addresses wrap around, and half of what
they reach cannot be written.  All the same hub memory is nothing but an array with a byte for each
of its 65536 places.  A value stands there with its lowest byte first, from the address rounded
down to a multiple of the size on.

An array can be asked for a place that it does not have.  So its accesses are partial, byte by byte,
and that memory does what the array does includes that no access leaves the array.

* `DataSize.start` — where the cell starts that an address points into.
* `ByteArea`, `ByteArea.load?`, `ByteArea.store?` — the array and its accesses.
* `Memory.area` — memory as such an array.
* **`Memory.load?_area`**, **`Memory.store?_area`** — single accesses.
* **`Memory.refines_bytes`** — reads behind any number of writes.
-/

namespace P1Chip

/-- The address of the first byte of a cell. -/
def DataSize.start (size : DataSize) (address : UInt32) : Nat :=
  address.toNat / size.bytes.toNat * size.bytes.toNat % 65536

/-- A value that is written, with the size of which it is. -/
structure Store where
  size : DataSize
  address : UInt32
  value : UInt32

namespace Store

def start (store : Store) : Nat :=
  store.size.start store.address

/-- The bytes that the value has in this size, the lowest one first. -/
def row (store : Store) : List UInt8 :=
  (List.range store.size.bytes.toNat).map fun k => .ofNat (store.value.toNat / 256 ^ k)

end Store

lemma Store.row_byte (address value : UInt32) :
    row ⟨.byte, address, value⟩ = [value.toUInt8] := by
  show [UInt8.ofNat (value.toNat / 1)] = _
  rw [Nat.div_one, UInt8.ofNat_uInt32ToNat]

lemma Store.row_word (address value : UInt32) :
    row ⟨.word, address, value⟩
      = [value.toUInt16.toUInt8, (value.toUInt16 >>> 8).toUInt8] := by
  show [UInt8.ofNat (value.toNat / 1), UInt8.ofNat (value.toNat / 256)] = _
  simp only [List.cons.injEq, and_true, ← UInt8.toNat_inj, UInt8.toNat_ofNat', UInt16.toNat_toUInt8,
    UInt16.toNat_shiftRight, UInt32.toNat_toUInt16, Nat.shiftRight_eq_div_pow]
  simp
  omega

lemma Store.row_long (address value : UInt32) :
    row ⟨.long, address, value⟩
      = [value.toUInt8, (value >>> 8).toUInt8, (value >>> 16).toUInt8, (value >>> 24).toUInt8] := by
  show [UInt8.ofNat (value.toNat / 1), UInt8.ofNat (value.toNat / 256),
    UInt8.ofNat (value.toNat / 65536), UInt8.ofNat (value.toNat / 16777216)] = _
  simp only [List.cons.injEq, and_true, ← UInt8.toNat_inj, UInt8.toNat_ofNat', UInt32.toNat_toUInt8,
    UInt32.toNat_shiftRight, Nat.shiftRight_eq_div_pow]
  simp

/-- The value of some bytes, the lowest one first. -/
def littleEndian (row : List UInt8) : UInt32 :=
  .ofNat (Nat.ofDigits 256 (row.map UInt8.toNat))

lemma littleEndian_byte (byte : UInt8) : littleEndian [byte] = byte.toUInt32 := by
  rw [littleEndian, List.map_singleton, Nat.ofDigits_singleton, UInt32.ofNat_uInt8ToNat]

lemma littleEndian_word (low high : UInt8) :
    littleEndian [low, high] = (littleWord low high).toUInt32 := by
  have digits : Nat.ofDigits 256 [low.toNat, high.toNat] = (littleWord low high).toNat := by
    rw [toNat_littleWord, Nat.ofDigits_cons, Nat.ofDigits_singleton]
    omega
  show UInt32.ofNat (Nat.ofDigits 256 [low.toNat, high.toNat]) = _
  rw [digits, UInt32.ofNat_uInt16ToNat]

lemma littleEndian_long (b0 b1 b2 b3 : UInt8) :
    littleEndian [b0, b1, b2, b3] = littleLong (littleWord b0 b1) (littleWord b2 b3) := by
  have digits : Nat.ofDigits 256 [b0.toNat, b1.toNat, b2.toNat, b3.toNat]
      = (littleLong (littleWord b0 b1) (littleWord b2 b3)).toNat := by
    rw [toNat_littleLong, toNat_littleWord, toNat_littleWord]
    simp only [Nat.ofDigits_cons, Nat.ofDigits_nil]
    omega
  show UInt32.ofNat (Nat.ofDigits 256 [b0.toNat, b1.toNat, b2.toNat, b3.toNat]) = _
  rw [digits, UInt32.ofNat_toNat]

/-! ## Arrays of bytes -/

/-- A byte for every address, counted modulo 64 kilobytes. -/
abbrev ByteArea := Vector UInt8 65536

namespace ByteArea

/-- The bytes from a place on, if there are so many. -/
def row? (area : ByteArea) (place : Nat) : Nat → Option (List UInt8)
  | 0 => some []
  | count + 1 => do
    let first ← area[place]?
    let rest ← area.row? (place + 1) count
    return first :: rest

/-- The array with other bytes from a place on, if there are so many. -/
def setRow? (area : ByteArea) (place : Nat) : List UInt8 → Option ByteArea
  | [] => some area
  | first :: rest =>
    if h : place < 65536 then setRow? (area.set place first) (place + 1) rest else none

/-- What is read at an address: the bytes of the cell, the lowest one first. -/
def load? (area : ByteArea) (size : DataSize) (address : UInt32) : Option UInt32 :=
  (area.row? (size.start address) size.bytes.toNat).map littleEndian

/-- The array after a write, which is dropped if its cell is in the upper half. -/
def store? (area : ByteArea) (store : Store) : Option ByteArea :=
  if store.start < 0x8000 then area.setRow? store.start store.row else some area

end ByteArea

namespace Memory

variable (memory : Memory)

/-- The bytes of memory: those of the lower half, then those of the upper one. -/
def area : ByteArea :=
  memory.ram ++ memory.rom

/-- Memory after a write. -/
def store (store : Store) : Memory :=
  memory.write store.size store.address store.value

/-- Memory after some writes. -/
def storeAll (stores : List Store) : Memory :=
  stores.foldl store memory

/-- Memory with other bytes from a place on. -/
def setRow (memory : Memory) (place : Nat) : List UInt8 → Memory
  | [] => memory
  | first :: rest => (memory.setByte (.ofNat place) first).setRow (place + 1) rest

/-! ## Rows of bytes -/

lemma toNat_place {place : Nat} (within : place < 65536) : (UInt16.ofNat place).toNat = place := by
  rw [UInt16.toNat_ofNat', Nat.mod_eq_of_lt within]

lemma getElem_area {place : Nat} (within : place < 65536) :
    memory.area[place] = memory.byteAt (.ofNat place) := by
  have joined : (memory.ram ++ memory.rom)[place] = _ := Vector.getElem_append within
  rw [byteAt]
  simp only [toNat_place within]
  exact joined

lemma row?_area {place count : Nat} (fits : place + count ≤ 65536) :
    memory.area.row? place count
      = some ((List.range count).map fun k => memory.byteAt (.ofNat (place + k))) := by
  induction count generalizing place with
  | zero => rfl
  | succ count ih =>
    have here : memory.area[place]? = some (memory.byteAt (.ofNat place)) := by
      rw [Vector.getElem?_eq_getElem (by omega), getElem_area]
    rw [ByteArea.row?, here, ih (by omega), List.range_succ_eq_map, List.map_cons, List.map_map]
    simp only [Option.bind_eq_bind, Option.bind_some, Option.pure_def, Function.comp_def,
      Nat.add_zero, Nat.succ_eq_add_one, Nat.add_assoc, Nat.add_comm 1]

lemma area_setByte {place : Nat} (low : place < halfSize) (value : UInt8) :
    (memory.setByte (.ofNat place) value).area
      = memory.area.set place value (Nat.lt_trans low (by decide)) := by
  have within : place < 65536 := Nat.lt_trans low (by decide)
  refine Vector.ext fun other inside => ?_
  have same : UInt16.ofNat other = UInt16.ofNat place ↔ place = other := by
    rw [← UInt16.toNat_inj, toNat_place inside, toNat_place within, eq_comm]
  rw [getElem_area, byteAt_setByte, Vector.getElem_set, getElem_area]
  simp only [same, toNat_place within, low, and_true]

lemma setRow?_area {place : Nat} {row : List UInt8} (fits : place + row.length ≤ halfSize) :
    memory.area.setRow? place row = some (memory.setRow place row).area := by
  induction row generalizing memory place with
  | nil => rfl
  | cons first rest ih =>
    rw [List.length_cons] at fits
    have low : place < halfSize := by omega
    have within : place < 65536 := Nat.lt_trans low (by decide)
    rw [ByteArea.setRow?, dif_pos within, ← area_setByte memory low, ih _ (by omega), setRow]

/-! ## Single accesses -/

end Memory

namespace DataSize

lemma start_byte (address : UInt32) : byte.start address = address.toUInt16.toNat := by
  rw [UInt32.toNat_toUInt16, start]
  simp only [bytes, UInt32.reduceToNat, Nat.div_one, Nat.mul_one]

lemma start_word (address : UInt32) : word.start address = (Memory.wordStart address).toNat := by
  rw [Memory.toNat_wordStart, start]
  simp only [bytes, UInt32.reduceToNat]
  omega

lemma start_long (address : UInt32) : long.start address = (Memory.longStart address).toNat := by
  rw [Memory.toNat_longStart, start]
  simp only [bytes, UInt32.reduceToNat]
  omega

/-- No cell reaches beyond the end of the array, and none reaches from one half into the other. -/
lemma start_add_le (size : DataSize) (address : UInt32) :
    size.start address + size.bytes.toNat ≤ 65536 ∧
      (size.start address < halfSize → size.start address + size.bytes.toNat ≤ halfSize) := by
  have half : halfSize = 32768 := rfl
  rw [start]
  cases size <;> simp only [bytes, UInt32.reduceToNat] <;> omega

end DataSize

namespace Memory

variable (memory : Memory)

/-- **A read** is that of the array, which has all its bytes. -/
theorem load?_area (size : DataSize) (address : UInt32) :
    memory.area.load? size address = some (memory.read size address) := by
  rw [ByteArea.load?, row?_area _ (size.start_add_le address).1, Option.map_some]
  congr 1
  cases size with
  | byte =>
    simp only [DataSize.start_byte, UInt16.ofNat_add, UInt16.ofNat_toNat]
    show littleEndian [memory.byteAt (address.toUInt16 + 0)] = _
    rw [UInt16.add_zero, littleEndian_byte]
    rfl
  | word =>
    simp only [DataSize.start_word, UInt16.ofNat_add, UInt16.ofNat_toNat]
    show littleEndian [memory.byteAt (wordStart address + 0),
      memory.byteAt (wordStart address + 1)] = _
    rw [UInt16.add_zero, littleEndian_word]
    rfl
  | long =>
    simp only [DataSize.start_long, UInt16.ofNat_add, UInt16.ofNat_toNat]
    show littleEndian [memory.byteAt (longStart address + 0), memory.byteAt (longStart address + 1),
      memory.byteAt (longStart address + 2), memory.byteAt (longStart address + 3)] = _
    rw [UInt16.add_zero, littleEndian_long]
    rfl

/-- A write puts the bytes of its value into its cell. -/
lemma store_eq_setRow (store : Store) :
    memory.store store = memory.setRow store.start store.row := by
  obtain ⟨size, address, value⟩ := store
  cases size with
  | byte =>
    rw [Store.row_byte]
    simp only [setRow, Store.start, DataSize.start_byte, UInt16.ofNat_toNat]
    rfl
  | word =>
    rw [Store.row_word]
    simp only [setRow, Store.start, DataSize.start_word, UInt16.ofNat_add, UInt16.ofNat_toNat]
    rfl
  | long =>
    rw [Store.row_long]
    simp only [setRow, Store.start, DataSize.start_long, UInt16.ofNat_add, UInt16.ofNat_toNat,
      UInt16.add_assoc]
    rfl

/-- **A write** is that of the array. -/
theorem store?_area (store : Store) :
    memory.area.store? store = some (memory.store store).area := by
  have fits := (store.size.start_add_le store.address).2
  rw [ByteArea.store?]
  split
  · next low =>
    have length : store.row.length = store.size.bytes.toNat := by
      rw [Store.row, List.length_map, List.length_range]
    rw [store_eq_setRow, setRow?_area memory (by rw [length]; exact fits low)]
  · next high =>
    have place : ¬ store.address.toNat % 65536 < halfSize := by
      have half : halfSize = 32768 := rfl
      rw [Store.start, DataSize.start] at high
      revert high
      cases store.size <;> simp only [DataSize.bytes, UInt32.reduceToNat] <;> omega
    rw [Memory.store, write_of_high memory store.size place]

/-! ## Any number of accesses -/

lemma storeAll_area (stores : List Store) :
    stores.foldlM ByteArea.store? memory.area = some (memory.storeAll stores).area := by
  induction stores generalizing memory with
  | nil => rfl
  | cons first rest ih =>
    rw [List.foldlM_cons, store?_area]
    exact ih (memory.store first)

/-- **Hub memory refines an array of bytes.**  Whatever was written before, a read has the result
that it has in the array, and none of the accesses leaves the array.  A write changes nothing
outside of its cell. -/
theorem refines_bytes (stores : List Store) (size : DataSize) (address : UInt32) :
    (stores.foldlM ByteArea.store? memory.area).bind (·.load? size address)
        = some ((memory.storeAll stores).read size address) ∧
      ∀ (store : Store) (place : Nat),
        (memory.storeAll (stores ++ [store])).area[place]?
            ≠ (memory.storeAll stores).area[place]? →
          store.start ≤ place ∧ place < store.start + store.size.bytes.toNat := by
  constructor
  · rw [storeAll_area, Option.bind_some, load?_area]
  · intro store place changed
    rw [storeAll, List.foldl_append] at changed
    change ((memory.storeAll stores).store store).area[place]? ≠ _ at changed
    have within : place < 65536 := by
      by_contra outside
      exact changed (by rw [Vector.getElem?_eq_none (by omega), Vector.getElem?_eq_none (by omega)])
    rw [Vector.getElem?_eq_getElem within, Vector.getElem?_eq_getElem within, getElem_area,
      getElem_area] at changed
    have inside := (inCell_of_write _ fun same => changed (congrArg some same)).1
    rw [InCell, toNat_place within] at inside
    rw [Store.start, DataSize.start]
    revert inside
    cases store.size <;> simp only [DataSize.bytes, UInt32.reduceToNat] <;> omega

end Memory

end P1Chip
