import P1Chip.Proofs.Memory.Longs

/-!
# Cells

For each size of data, memory is a row of cells: bytes, words at even addresses, or longs at
multiples of four.  An access of that size goes to the cell that its address points into.  So one
lemma says what a write does to every read of the same size.

* `DataSize.cell`, `DataSize.cut` — the number of a cell, and what it keeps of a value.
* **`Memory.read_write`** — reads behind a write.
* `Memory.write_of_holds` — writing what the cell holds already.
* `DataSize.element` — where the elements of a row are.
* `DataSize.IsRow`, `DataSize.InRow` — rows that do not wrap around.
-/

namespace P1Chip

namespace DataSize

/-- The number of the cell that an address points into. -/
def cell (size : DataSize) (address : UInt32) : Nat :=
  address.toNat % 65536 / size.bytes.toNat

/-- What a cell keeps of a value: its low bits. -/
def cut (size : DataSize) (value : UInt32) : UInt32 :=
  .ofNat (value.toNat % 256 ^ size.bytes.toNat)

@[simp]
lemma cut_byte (value : UInt32) : byte.cut value = value.toUInt8.toUInt32 := by
  have low : value.toNat % 256 < 2 ^ 32 := by omega
  apply UInt32.toNat_inj.mp
  rw [cut, UInt32.toNat_ofNat', UInt8.toNat_toUInt32, UInt32.toNat_toUInt8]
  exact Nat.mod_eq_of_lt low

@[simp]
lemma cut_word (value : UInt32) : word.cut value = value.toUInt16.toUInt32 := by
  have low : value.toNat % 65536 < 2 ^ 32 := by omega
  apply UInt32.toNat_inj.mp
  rw [cut, UInt32.toNat_ofNat', UInt16.toNat_toUInt32, UInt32.toNat_toUInt16]
  exact Nat.mod_eq_of_lt low

@[simp]
lemma cut_long (value : UInt32) : long.cut value = value := by
  show UInt32.ofNat (value.toNat % 2 ^ 32) = value
  rw [Nat.mod_eq_of_lt value.toNat_lt, UInt32.ofNat_toNat]

end DataSize

namespace Memory

variable (memory : Memory) (size : DataSize)

/-! ## Reading and writing cells -/

lemma read_of_cell {address other : UInt32} (same : size.cell other = size.cell address) :
    memory.read size other = memory.read size address := by
  cases size with
  | byte =>
    have place : other.toUInt16 = address.toUInt16 := by
      simp only [DataSize.cell, DataSize.bytes, UInt32.reduceToNat, Nat.div_one] at same
      exact UInt16.toNat_inj.mp same
    simp only [read, readByte]
    rw [place]
  | word =>
    have start : wordStart other = wordStart address :=
      UInt16.toNat_inj.mp (by rw [toNat_wordStart, toNat_wordStart]; exact congrArg (· * 2) same)
    show (littleWord (memory.byteAt (wordStart other)) (memory.byteAt (wordStart other + 1))).toUInt32
      = _
    rw [start]
    rfl
  | long =>
    have start : longStart other = longStart address :=
      UInt16.toNat_inj.mp (by rw [toNat_longStart, toNat_longStart]; exact congrArg (· * 4) same)
    show littleLong
      (littleWord (memory.byteAt (longStart other)) (memory.byteAt (longStart other + 1)))
      (littleWord (memory.byteAt (longStart other + 2)) (memory.byteAt (longStart other + 3))) = _
    rw [start]
    rfl

lemma read_write_self {address : UInt32} (low : address.toNat % 65536 < halfSize)
    (value : UInt32) : (memory.write size address value).read size address = size.cut value := by
  cases size with
  | byte =>
    have place : address.toUInt16.toNat < halfSize := low
    rw [DataSize.cut_byte]
    exact congrArg UInt8.toUInt32 (memory.byteAt_setByte_self place value.toUInt8)
  | word =>
    rw [DataSize.cut_word]
    exact congrArg UInt16.toUInt32 (memory.readWord_writeWord rfl low value.toUInt16)
  | long =>
    rw [DataSize.cut_long]
    exact memory.readLong_writeLong low value

lemma read_write_of_ne {address other : UInt32} (apart : size.cell other ≠ size.cell address)
    (value : UInt32) :
    (memory.write size address value).read size other = memory.read size other := by
  cases size with
  | byte =>
    have place : other.toUInt16.toNat ≠ address.toUInt16.toNat := fun same =>
      apart (congrArg (· / 1) same)
    exact congrArg UInt8.toUInt32 (memory.byteAt_setByte_of_ne place value.toUInt8)
  | word =>
    exact congrArg UInt16.toUInt32 (memory.readWord_writeWord_of_ne apart value.toUInt16)
  | long => exact memory.readLong_writeLong_of_ne apart value

/-- Nothing is written to the upper half. -/
lemma write_of_high {address : UInt32} (high : ¬ address.toNat % 65536 < halfSize)
    (value : UInt32) : memory.write size address value = memory := by
  have dropped (memory : Memory) {place : UInt16} (far : ¬ place.toNat < halfSize)
      (byte : UInt8) : memory.setByte place byte = memory := dif_neg far
  have size16 : halfSize = 32768 := rfl
  cases size with
  | byte =>
    have far : ¬ address.toUInt16.toNat < halfSize := high
    exact dropped memory far value.toUInt8
  | word =>
    have start := toNat_wordStart address
    have next := toNat_wordStart_add_one address
    show (memory.setByte (wordStart address) _).setByte (wordStart address + 1) _ = memory
    rw [dropped _ (by omega), dropped _ (by omega)]
  | long =>
    have start := toNat_longStart address
    have next : (longStart address + 1).toNat = (longStart address).toNat + 1 :=
      toNat_longStart_add address (by decide)
    have third : (longStart address + 2).toNat = (longStart address).toNat + 2 :=
      toNat_longStart_add address (by decide)
    have last : (longStart address + 3).toNat = (longStart address).toNat + 3 :=
      toNat_longStart_add address (by decide)
    show (((memory.setByte (longStart address) _).setByte (longStart address + 1) _).setByte
      (longStart address + 2) _).setByte (longStart address + 3) _ = memory
    rw [dropped _ (by omega), dropped _ (by omega), dropped _ (by omega), dropped _ (by omega)]

/-- **Reads behind a write.**  What was written is read in its cell, unless that is in the upper
half; all other cells are as they were. -/
theorem read_write (address other value : UInt32) :
    (memory.write size address value).read size other
      = if size.cell other = size.cell address ∧ address.toNat % 65536 < halfSize then size.cut value
        else memory.read size other := by
  split
  · next here => rw [read_of_cell _ size here.1, read_write_self memory size here.2]
  · next other' =>
    by_cases same : size.cell other = size.cell address
    · rw [write_of_high memory size fun low => other' ⟨same, low⟩]
    · exact read_write_of_ne memory size same value

/-- What is read has no other bits than a cell keeps. -/
lemma cut_read (address : UInt32) :
    size.cut (memory.read size address) = memory.read size address := by
  cases size with
  | byte =>
    rw [DataSize.cut_byte]
    exact congrArg UInt8.toUInt32 (UInt8.toUInt8_toUInt32 _)
  | word =>
    rw [DataSize.cut_word]
    exact congrArg UInt16.toUInt32 (UInt16.toUInt16_toUInt32 _)
  | long => exact DataSize.cut_long _

/-! ## Writing what is there -/

lemma writeWord_readWord (address : UInt32) :
    memory.writeWord address (memory.readWord address) = memory := by
  have low := (memory.byteAt (wordStart address)).toNat_lt
  have high := (memory.byteAt (wordStart address + 1)).toNat_lt
  have first : (memory.readWord address).toUInt8 = memory.byteAt (wordStart address) := by
    apply UInt8.toNat_inj.mp
    rw [UInt16.toNat_toUInt8]
    show (littleWord _ _).toNat % 256 = _
    rw [toNat_littleWord]
    simp only [wordStart] at low ⊢
    omega
  have second : (memory.readWord address >>> 8).toUInt8 = memory.byteAt (wordStart address + 1) := by
    apply UInt8.toNat_inj.mp
    rw [UInt16.toNat_toUInt8, UInt16.toNat_shiftRight]
    show (littleWord _ _).toNat >>> 8 % 256 = _
    rw [toNat_littleWord, Nat.shiftRight_eq_div_pow]
    simp only [wordStart] at low high ⊢
    omega
  show (memory.setByte (wordStart address) (memory.readWord address).toUInt8).setByte
    (wordStart address + 1) (memory.readWord address >>> 8).toUInt8 = memory
  rw [first, second, setByte_byteAt, setByte_byteAt]

/-- Writing what the cell holds already changes nothing. -/
lemma write_of_holds {address value : UInt32}
    (holds : address.toNat % 65536 < halfSize → memory.read size address = size.cut value) :
    memory.write size address value = memory := by
  by_cases low : address.toNat % 65536 < halfSize
  · have held := holds low
    cases size with
    | byte =>
      rw [DataSize.cut_byte] at held
      have byte : value.toUInt8 = memory.readByte address := (UInt8.toUInt32_inj.mp held).symm
      show memory.writeByte address value.toUInt8 = memory
      rw [byte]
      exact memory.setByte_byteAt address.toUInt16
    | word =>
      rw [DataSize.cut_word] at held
      have word : value.toUInt16 = memory.readWord address := (UInt16.toUInt32_inj.mp held).symm
      show memory.writeWord address value.toUInt16 = memory
      rw [word, writeWord_readWord]
    | long =>
      rw [DataSize.cut_long] at held
      show memory.writeLong address value = memory
      rw [← show memory.readLong address = value from held, writeLong_readLong]
  · exact memory.write_of_high size low value

end Memory

/-! ## Rows of elements -/

namespace DataSize

/-- Where the element with this number is, in a row of elements. -/
def element (size : DataSize) (start : UInt32) (number : Nat) : UInt32 :=
  start + size.bytes * .ofNat number

variable (size : DataSize) (start : UInt32)

lemma element_zero : size.element start 0 = start := by
  simp [element]

/-- The elements behind the first ones are a row as well. -/
lemma element_add (skip number : Nat) :
    size.element (size.element start skip) number = size.element start (skip + number) := by
  simp only [element, UInt32.ofNat_add]
  grind

lemma element_succ (number : Nat) :
    size.element (start + size.bytes) number = size.element start (number + 1) := by
  rw [Nat.add_comm, ← element_add]
  congr 1
  simp [element]

lemma toNat_element (number : Nat) :
    (size.element start number).toNat % 65536
      = (start.toNat + size.bytes.toNat * number) % 65536 := by
  rw [element, UInt32.toNat_add, UInt32.toNat_mul, UInt32.toNat_ofNat']
  cases size <;> simp only [bytes, UInt32.reduceToNat] <;> omega

/-- The cells of the elements follow on each other, around memory. -/
lemma cell_element (number : Nat) :
    size.cell (size.element start number)
      = (size.cell start + number) % (65536 / size.bytes.toNat) := by
  rw [cell, cell, toNat_element]
  cases size <;> simp only [bytes, UInt32.reduceToNat] <;> omega

/-- So many elements follow on each other from an address up to a limit, without wrapping
around. -/
structure IsRow (size : DataSize) (start : UInt32) (count limit : Nat) : Prop where
  aligned : start.toNat % size.bytes.toNat = 0
  fits : count = 0 ∨ start.toNat % 65536 + size.bytes.toNat * count ≤ limit

/-- The address is in one of these elements. -/
def InRow (size : DataSize) (start : UInt32) (count : Nat) (address : UInt32) : Prop :=
  start.toNat % 65536 ≤ address.toNat % 65536
    ∧ address.toNat % 65536 < start.toNat % 65536 + size.bytes.toNat * count

namespace IsRow

variable {size : DataSize} {start : UInt32} {count limit : Nat}

lemma toNat_element (h : size.IsRow start count limit) (within : limit ≤ 65536) {number : Nat}
    (inside : number < count) :
    (size.element start number).toNat % 65536
      = start.toNat % 65536 + size.bytes.toNat * number := by
  have fits := h.fits
  rw [DataSize.toNat_element]
  cases size <;> simp only [bytes, UInt32.reduceToNat] at fits ⊢ <;> omega

lemma cell_element (h : size.IsRow start count limit) (within : limit ≤ 65536) {number : Nat}
    (inside : number < count) :
    size.cell (size.element start number) = size.cell start + number := by
  rw [cell, cell, h.toNat_element within inside]
  cases size <;> simp only [bytes, UInt32.reduceToNat] <;> omega

lemma low (h : size.IsRow start count halfSize) {number : Nat} (inside : number < count) :
    (size.element start number).toNat % 65536 < halfSize := by
  have fits := h.fits
  have half : halfSize = 32768 := rfl
  rw [h.toNat_element (by decide) inside]
  cases size <;> simp only [bytes, UInt32.reduceToNat] at fits ⊢ <;> omega

/-- What an access to an element reaches is in the row. -/
lemma inRow_of_inCell (h : size.IsRow start count limit) (within : limit ≤ 65536) {number : Nat}
    (inside : number < count) {address : UInt32}
    (reached : Memory.InCell size (size.element start number) address.toUInt16) :
    size.InRow start count address := by
  have aligned := h.aligned
  rw [Memory.InCell, UInt32.toNat_toUInt16, h.toNat_element within inside] at reached
  rw [InRow]
  cases size <;> simp only [bytes, UInt32.reduceToNat] at aligned reached ⊢ <;> omega

end IsRow

end DataSize

end P1Chip
