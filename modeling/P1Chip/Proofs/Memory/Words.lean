import Mathlib.Algebra.Group.Nat.Defs
import Mathlib.Tactic.ByContra
import P1Chip.Memory.Basic
import P1Chip.Proofs.Masks

/-!
# Words that are written and read again

Every access to hub memory goes through single bytes, so one lemma about bytes,
`Memory.byteAt_setByte`, carries all others.  A word or a long that was written is read again as
long as it lies in the lower half, and what lies elsewhere keeps its value.

Addresses are compared as numbers: two of them point into the same word if they agree modulo
64 kilobytes and after division by two, and into the same long after division by four.

* `littleWord_bytes`, `littleLong_bytes` — a word is put together again from its bytes.
* `Memory.wordStart`, `Memory.longStart` — the first byte of what an address points into.
* **`Memory.inCell_of_write`** — what is written stays in one cell of the lower half.
* **`Memory.readWord_writeWord`**, **`Memory.readLong_writeLong`** — what was written is there.
* **`Memory.readWord_writeWord_of_ne`**, **`Memory.readWord_writeLong_of_ne`**,
  **`Memory.readLong_writeLong_of_ne`** — the rest is as it was.
* `Memory.HasBytes` — a row of bytes stands at an address.
* `Memory.SameBytes` — a row of bytes is the same in two memories.
* `Memory.SameOutside` — everything but a row of longs is.
-/

namespace P1Chip

/-! ## Bytes of words and longs -/

lemma toNat_littleWord (low high : UInt8) :
    (littleWord low high).toNat = low.toNat + high.toNat * 256 := by
  have hl := low.toNat_lt
  have hh := high.toNat_lt
  have hs : (high.toUInt16 <<< 8).toNat = high.toNat <<< 8 := by
    simp [UInt16.toNat_shiftLeft, Nat.shiftLeft_eq]
    omega
  simp only [littleWord]
  rw [UInt16.toNat_or, hs, UInt8.toNat_toUInt16, Nat.or_comm,
    ← Nat.shiftLeft_add_eq_or_of_lt (by omega), Nat.shiftLeft_eq]
  omega

lemma toNat_littleLong (low high : UInt16) :
    (littleLong low high).toNat = low.toNat + high.toNat * 65536 := by
  have hl := low.toNat_lt
  have hh := high.toNat_lt
  have hs : (high.toUInt32 <<< 16).toNat = high.toNat <<< 16 := by
    simp [UInt32.toNat_shiftLeft, Nat.shiftLeft_eq]
    omega
  simp only [littleLong]
  rw [UInt32.toNat_or, hs, UInt16.toNat_toUInt32, Nat.or_comm,
    ← Nat.shiftLeft_add_eq_or_of_lt (by omega), Nat.shiftLeft_eq]
  omega

lemma littleWord_bytes (value : UInt16) :
    littleWord value.toUInt8 (value >>> 8).toUInt8 = value := by
  have hv := value.toNat_lt
  apply UInt16.toNat_inj.mp
  rw [toNat_littleWord]
  simp [UInt16.toNat_shiftRight, Nat.shiftRight_eq_div_pow]
  omega

lemma littleLong_bytes (value : UInt32) :
    littleLong (littleWord value.toUInt8 (value >>> 8).toUInt8)
      (littleWord (value >>> 16).toUInt8 (value >>> 24).toUInt8) = value := by
  have hv := value.toNat_lt
  apply UInt32.toNat_inj.mp
  rw [toNat_littleLong, toNat_littleWord, toNat_littleWord]
  simp [UInt32.toNat_shiftRight, Nat.shiftRight_eq_div_pow]
  omega

namespace Memory

/-! ## Where words and longs start -/

/-- The first byte of the word that an address points into. -/
def wordStart (address : UInt32) : UInt16 :=
  address.toUInt16 &&& 0xFFFE

/-- The first byte of the long that an address points into. -/
def longStart (address : UInt32) : UInt16 :=
  address.toUInt16 &&& 0xFFFC

lemma toNat_wordStart (address : UInt32) :
    (wordStart address).toNat = address.toNat % 65536 / 2 * 2 := by
  have rounded := Word.and_field (address.toNat % 65536) 15 1
  rw [wordStart, UInt16.toNat_and, UInt32.toNat_toUInt16]
  exact rounded.trans (by omega)

lemma toNat_longStart (address : UInt32) :
    (longStart address).toNat = address.toNat % 65536 / 4 * 4 := by
  have rounded := Word.and_field (address.toNat % 65536) 14 2
  rw [longStart, UInt16.toNat_and, UInt32.toNat_toUInt16]
  exact rounded.trans (by omega)

/-! ## Bytes that are written -/

variable (memory : Memory)

/-- **What a byte that was set does to all bytes.** -/
theorem byteAt_setByte (address other : UInt16) (value : UInt8) :
    (memory.setByte address value).byteAt other
      = if other = address ∧ address.toNat < halfSize then value else memory.byteAt other := by
  simp only [setByte]
  by_cases ha : address.toNat < halfSize
  · rw [dif_pos ha]
    simp only [byteAt]
    by_cases ho : other.toNat < halfSize
    · rw [dif_pos ho, dif_pos ho]
      by_cases h : other = address
      · subst h
        simp [ha]
      · have hne : address.toNat ≠ other.toNat := fun he => h (UInt16.toNat_inj.mp he.symm)
        rw [Vector.getElem_set_ne ha ho hne]
        simp [h]
    · have hne : other ≠ address := fun he => ho (he ▸ ha)
      rw [dif_neg ho, dif_neg ho]
      simp [hne]
  · rw [dif_neg ha]
    simp [ha]

lemma byteAt_setByte_self {address : UInt16} (h : address.toNat < halfSize) (value : UInt8) :
    (memory.setByte address value).byteAt address = value := by
  rw [byteAt_setByte, if_pos ⟨rfl, h⟩]

lemma byteAt_setByte_of_ne {address other : UInt16} (h : other.toNat ≠ address.toNat)
    (value : UInt8) : (memory.setByte address value).byteAt other = memory.byteAt other := by
  rw [byteAt_setByte, if_neg]
  rintro ⟨rfl, -⟩
  exact h rfl

/-- The bytes behind the first one of a word or a long are in the same half. -/
lemma toNat_add_of_lt {start k : UInt16} (h : start.toNat + k.toNat < 65536) :
    (start + k).toNat = start.toNat + k.toNat := by
  rw [UInt16.toNat_add, Nat.mod_eq_of_lt h]

/-- Where the other byte of a word is. -/
lemma toNat_wordStart_add_one (address : UInt32) :
    (wordStart address + 1).toNat = (wordStart address).toNat + 1 := by
  have start := toNat_wordStart address
  exact toNat_add_of_lt (by simp only [UInt16.reduceToNat]; omega)

/-- Where the other bytes of a long are. -/
lemma toNat_longStart_add (address : UInt32) {k : UInt16} (small : k.toNat < 4) :
    (longStart address + k).toNat = (longStart address).toNat + k.toNat := by
  have start := toNat_longStart address
  exact toNat_add_of_lt (by omega)

/-- A byte of the upper half is not set. -/
lemma rom_setByte (address : UInt16) (value : UInt8) :
    (memory.setByte address value).rom = memory.rom := by
  simp only [setByte]
  split <;> rfl

lemma rom_writeWord (address : UInt32) (value : UInt16) :
    (memory.writeWord address value).rom = memory.rom := by
  simp only [writeWord, rom_setByte]

lemma rom_writeLong (address value : UInt32) :
    (memory.writeLong address value).rom = memory.rom := by
  simp only [writeLong, rom_setByte]

lemma rom_write (size : DataSize) (address value : UInt32) :
    (memory.write size address value).rom = memory.rom := by
  cases size with
  | byte => exact memory.rom_setByte _ _
  | word => exact memory.rom_writeWord _ _
  | long => exact memory.rom_writeLong _ _

/-- Memories with the same upper half have the same bytes there. -/
lemma byteAt_of_rom {memory other : Memory} (same : other.rom = memory.rom) {address : UInt16}
    (high : halfSize ≤ address.toNat) : other.byteAt address = memory.byteAt address := by
  rw [byteAt, byteAt, dif_neg (Nat.not_lt.mpr high), dif_neg (Nat.not_lt.mpr high), same]

lemma byteAt_writeWord_of_ne {address : UInt32} {other : UInt16}
    (h : other.toNat / 2 ≠ address.toNat % 65536 / 2) (value : UInt16) :
    (memory.writeWord address value).byteAt other = memory.byteAt other := by
  have hs := toNat_wordStart address
  have h1 := toNat_wordStart_add_one address
  show ((memory.setByte (wordStart address) _).setByte (wordStart address + 1) _).byteAt other
    = _
  rw [byteAt_setByte_of_ne _ (by omega), byteAt_setByte_of_ne _ (by omega)]

lemma byteAt_writeLong_of_ne {address : UInt32} {other : UInt16}
    (h : other.toNat / 4 ≠ address.toNat % 65536 / 4) (value : UInt32) :
    (memory.writeLong address value).byteAt other = memory.byteAt other := by
  have hs := toNat_longStart address
  have h1 : (longStart address + 1).toNat = (longStart address).toNat + 1 :=
    toNat_longStart_add address (by decide)
  have h2 : (longStart address + 2).toNat = (longStart address).toNat + 2 :=
    toNat_longStart_add address (by decide)
  have h3 : (longStart address + 3).toNat = (longStart address).toNat + 3 :=
    toNat_longStart_add address (by decide)
  show ((((memory.setByte (longStart address) _).setByte (longStart address + 1) _).setByte
    (longStart address + 2) _).setByte (longStart address + 3) _).byteAt other = _
  rw [byteAt_setByte_of_ne _ (by omega), byteAt_setByte_of_ne _ (by omega),
    byteAt_setByte_of_ne _ (by omega), byteAt_setByte_of_ne _ (by omega)]

/-- A byte that an access of the given size at an address reaches. -/
def InCell (size : DataSize) (address : UInt32) (place : UInt16) : Prop :=
  place.toNat / size.bytes.toNat = address.toNat % 65536 / size.bytes.toNat

instance (size : DataSize) (address : UInt32) (place : UInt16) :
    Decidable (InCell size address place) :=
  inferInstanceAs (Decidable (_ = _))

/-- **A write reaches the bytes of one cell** in the lower half, and no others. -/
theorem inCell_of_write {size : DataSize} {address value : UInt32} {place : UInt16}
    (changed : (memory.write size address value).byteAt place ≠ memory.byteAt place) :
    InCell size address place ∧ place.toNat < halfSize := by
  constructor
  · by_contra outside
    refine changed ?_
    cases size with
    | byte =>
      refine byteAt_setByte_of_ne memory (fun same => outside ?_) value.toUInt8
      rw [InCell, same, UInt32.toNat_toUInt16]
    | word => exact byteAt_writeWord_of_ne memory outside value.toUInt16
    | long => exact byteAt_writeLong_of_ne memory outside value
  · by_contra high
    exact changed (byteAt_of_rom (memory.rom_write size address value) (Nat.not_lt.mp high))

/-! ## Words and longs that are written -/

/-- Equal bytes make equal words. -/
lemma readWord_congr {before after : Memory} {address : UInt32}
    (h0 : after.byteAt (wordStart address) = before.byteAt (wordStart address))
    (h1 : after.byteAt (wordStart address + 1) = before.byteAt (wordStart address + 1)) :
    after.readWord address = before.readWord address := by
  show littleWord (after.byteAt (wordStart address)) (after.byteAt (wordStart address + 1))
    = littleWord (before.byteAt (wordStart address)) (before.byteAt (wordStart address + 1))
  rw [h0, h1]

/-- **A word that was written is read again.** -/
theorem readWord_writeWord {address other : UInt32}
    (same : other.toNat % 65536 / 2 = address.toNat % 65536 / 2)
    (ram : address.toNat % 65536 < halfSize) (value : UInt16) :
    (memory.writeWord address value).readWord other = value := by
  have hs := toNat_wordStart address
  have ho : wordStart other = wordStart address := by
    apply UInt16.toNat_inj.mp
    rw [hs, toNat_wordStart, same]
  have h1 := toNat_wordStart_add_one address
  simp only [halfSize] at ram
  show littleWord
    (((memory.setByte (wordStart address) _).setByte (wordStart address + 1) _).byteAt
      (wordStart other))
    (((memory.setByte (wordStart address) _).setByte (wordStart address + 1) _).byteAt
      (wordStart other + 1)) = value
  rw [ho, byteAt_setByte_self _ (by rw [halfSize]; omega), byteAt_setByte_of_ne _ (by omega),
    byteAt_setByte_self _ (by rw [halfSize]; omega), littleWord_bytes]

/-- **Other words are as they were.** -/
theorem readWord_writeWord_of_ne {address other : UInt32}
    (h : other.toNat % 65536 / 2 ≠ address.toNat % 65536 / 2) (value : UInt16) :
    (memory.writeWord address value).readWord other = memory.readWord other := by
  have ho := toNat_wordStart other
  have h1 := toNat_wordStart_add_one other
  apply readWord_congr
  · exact byteAt_writeWord_of_ne memory (by omega) value
  · exact byteAt_writeWord_of_ne memory (by omega) value

/-- **Words outside a long that is written are as they were.** -/
theorem readWord_writeLong_of_ne {address other : UInt32}
    (h : other.toNat % 65536 / 4 ≠ address.toNat % 65536 / 4) (value : UInt32) :
    (memory.writeLong address value).readWord other = memory.readWord other := by
  have ho := toNat_wordStart other
  have h1 := toNat_wordStart_add_one other
  apply readWord_congr
  · exact byteAt_writeLong_of_ne memory (by omega) value
  · exact byteAt_writeLong_of_ne memory (by omega) value

/-- **A long that was written is read again.** -/
theorem readLong_writeLong {address : UInt32} (ram : address.toNat % 65536 < halfSize)
    (value : UInt32) : (memory.writeLong address value).readLong address = value := by
  have hs := toNat_longStart address
  have h1 : (longStart address + 1).toNat = (longStart address).toNat + 1 :=
    toNat_longStart_add address (by decide)
  have h2 : (longStart address + 2).toNat = (longStart address).toNat + 2 :=
    toNat_longStart_add address (by decide)
  have h3 : (longStart address + 3).toNat = (longStart address).toNat + 3 :=
    toNat_longStart_add address (by decide)
  simp only [halfSize] at ram
  let written := (((memory.setByte (longStart address) value.toUInt8).setByte
    (longStart address + 1) (value >>> 8).toUInt8).setByte
    (longStart address + 2) (value >>> 16).toUInt8).setByte
    (longStart address + 3) (value >>> 24).toUInt8
  have hb0 : written.byteAt (longStart address) = value.toUInt8 := by
    rw [byteAt_setByte_of_ne _ (by omega), byteAt_setByte_of_ne _ (by omega),
      byteAt_setByte_of_ne _ (by omega), byteAt_setByte_self _ (by rw [halfSize]; omega)]
  have hb1 : written.byteAt (longStart address + 1) = (value >>> 8).toUInt8 := by
    rw [byteAt_setByte_of_ne _ (by omega), byteAt_setByte_of_ne _ (by omega),
      byteAt_setByte_self _ (by rw [halfSize]; omega)]
  have hb2 : written.byteAt (longStart address + 2) = (value >>> 16).toUInt8 := by
    rw [byteAt_setByte_of_ne _ (by omega), byteAt_setByte_self _ (by rw [halfSize]; omega)]
  have hb3 : written.byteAt (longStart address + 3) = (value >>> 24).toUInt8 :=
    byteAt_setByte_self _ (by rw [halfSize]; omega) _
  show littleLong
    (littleWord (written.byteAt (longStart address)) (written.byteAt (longStart address + 1)))
    (littleWord (written.byteAt (longStart address + 2)) (written.byteAt (longStart address + 3)))
    = value
  rw [hb0, hb1, hb2, hb3, littleLong_bytes]

/-- Equal bytes make equal longs. -/
lemma readLong_congr {before after : Memory} {address : UInt32}
    (bytes : ∀ k : UInt16, k.toNat < 4 →
      after.byteAt (longStart address + k) = before.byteAt (longStart address + k)) :
    after.readLong address = before.readLong address := by
  have h0 := bytes 0 (by decide)
  rw [UInt16.add_zero] at h0
  show littleLong
    (littleWord (after.byteAt (longStart address)) (after.byteAt (longStart address + 1)))
    (littleWord (after.byteAt (longStart address + 2)) (after.byteAt (longStart address + 3))) = _
  rw [h0, bytes 1 (by decide), bytes 2 (by decide), bytes 3 (by decide)]
  rfl

/-- Memories with the same upper half have the same longs there. -/
lemma readLong_of_rom {memory other : Memory} (same : other.rom = memory.rom) {address : UInt32}
    (high : halfSize ≤ address.toNat % 65536) :
    other.readLong address = memory.readLong address := by
  have start := toNat_longStart address
  rw [halfSize] at high
  refine readLong_congr fun k low => byteAt_of_rom same ?_
  rw [toNat_longStart_add address low, halfSize]
  omega

/-- **Other longs are as they were.** -/
theorem readLong_writeLong_of_ne {address other : UInt32}
    (h : other.toNat % 65536 / 4 ≠ address.toNat % 65536 / 4) (value : UInt32) :
    (memory.writeLong address value).readLong other = memory.readLong other := by
  have ho := toNat_longStart other
  refine readLong_congr fun k hk => byteAt_writeLong_of_ne memory ?_ value
  rw [toNat_longStart_add other hk]
  omega

/-! ## Addresses -/

/-- Words are the same at addresses that agree modulo 64 kilobytes. -/
lemma readWord_eq_of_toUInt16 {address other : UInt32} (h : other.toUInt16 = address.toUInt16) :
    memory.readWord other = memory.readWord address := by
  simp only [readWord]
  rw [h]

/-- So are longs. -/
lemma readLong_eq_of_toUInt16 {address other : UInt32} (h : other.toUInt16 = address.toUInt16) :
    memory.readLong other = memory.readLong address := by
  simp only [readLong]
  rw [h]

/-- A word at an even address starts there. -/
lemma readWord_of_even {address : UInt32} (h : address.toNat % 2 = 0) :
    memory.readWord address
      = littleWord (memory.readByte address) (memory.readByte (address + 1)) := by
  have hs : wordStart address = address.toUInt16 := by
    apply UInt16.toNat_inj.mp
    rw [toNat_wordStart, UInt32.toNat_toUInt16]
    omega
  have h1 : address.toUInt16 + 1 = (address + 1).toUInt16 := (UInt32.toUInt16_add address 1).symm
  show littleWord (memory.byteAt (wordStart address)) (memory.byteAt (wordStart address + 1)) = _
  rw [hs, h1]
  rfl

/-! ## Rows of bytes -/

/-- A row of bytes stands at an address. -/
def HasBytes (memory : Memory) (start : UInt32) (bytes : List UInt8) : Prop :=
  ∀ i (_ : i < bytes.length), memory.readByte (start + .ofNat i) = bytes[i]

instance (memory : Memory) (start : UInt32) (bytes : List UInt8) :
    Decidable (memory.HasBytes start bytes) :=
  inferInstanceAs (Decidable (∀ i (_ : i < bytes.length), _))

namespace HasBytes

variable {memory : Memory} {start : UInt32}

lemma head {byte : UInt8} {bytes : List UInt8}
    (h : memory.HasBytes start (byte :: bytes)) : memory.readByte start = byte := by
  have first := h 0 (Nat.zero_lt_succ _)
  rwa [show UInt32.ofNat 0 = 0 from rfl, UInt32.add_zero] at first

/-- What stands behind the first part of a row. -/
lemma part (first last : List UInt8) {middle : List UInt8}
    (h : memory.HasBytes start (first ++ middle ++ last)) :
    memory.HasBytes (start + .ofNat first.length) middle := by
  intro i hi
  have byte := h (first.length + i) (by simp only [List.length_append]; omega)
  rw [UInt32.ofNat_add, ← UInt32.add_assoc] at byte
  rw [byte, List.getElem_append_left (by simp only [List.length_append]; omega),
    List.getElem_append_right (Nat.le_add_right _ _)]
  simp only [Nat.add_sub_cancel_left]

lemma tail {byte : UInt8} {bytes : List UInt8}
    (h : memory.HasBytes start (byte :: bytes)) : memory.HasBytes (start + 1) bytes := by
  refine part [byte] [] ?_
  rwa [List.append_nil]

lemma append {first last : List UInt8} (h : memory.HasBytes start (first ++ last)) :
    memory.HasBytes start first ∧ memory.HasBytes (start + .ofNat first.length) last := by
  constructor
  · have begins := part [] last h
    rwa [List.length_nil, show UInt32.ofNat 0 = 0 from rfl, UInt32.add_zero] at begins
  · refine part first [] ?_
    rwa [List.append_nil]

end HasBytes

/-- A row of bytes is the same in both memories. -/
def SameBytes (start count : UInt32) (before after : Memory) : Prop :=
  ∀ i < count, after.readByte (start + i) = before.readByte (start + i)

namespace SameBytes

variable {start count : UInt32} {before between after : Memory}

lemma trans (first : SameBytes start count before between)
    (second : SameBytes start count between after) : SameBytes start count before after :=
  fun i hi => (second i hi).trans (first i hi)

/-- A row is the same if it is part of one that is. -/
lemma part (h : SameBytes start count before after) (skip fewer : UInt32)
    (within : skip.toNat + fewer.toNat ≤ count.toNat) :
    SameBytes (start + skip) fewer before after := by
  intro i hi
  rw [UInt32.lt_iff_toNat_lt] at hi
  have hc := count.toNat_lt
  have low : skip + i < count := by
    rw [UInt32.lt_iff_toNat_lt, UInt32.toNat_add]
    omega
  rw [UInt32.add_assoc]
  exact h (skip + i) low

/-- Words that are written behind a row leave it alone. -/
lemma writeWord (even : start.toNat % 2 = 0) {k : UInt32} (hk : k.toNat % 2 = 0)
    (behind : count.toNat ≤ k.toNat) (near : k.toNat < 65536) (value : UInt16) :
    SameBytes start count before (before.writeWord (start + k) value) := by
  intro i hi
  rw [UInt32.lt_iff_toNat_lt] at hi
  refine byteAt_writeWord_of_ne before ?_ value
  rw [UInt32.toNat_toUInt16, UInt32.toNat_add, UInt32.toNat_add]
  omega

/-- The words in a row are the same if its bytes are. -/
lemma readWord (h : SameBytes start count before after) (even : start.toNat % 2 = 0) {k : UInt32}
    (hk : k.toNat % 2 = 0) (low : k < count) (high : k + 1 < count) :
    after.readWord (start + k) = before.readWord (start + k) := by
  have he : (start + k).toNat % 2 = 0 := by
    rw [UInt32.toNat_add]
    omega
  have hh := h (k + 1) high
  rw [← UInt32.add_assoc] at hh
  rw [readWord_of_even after he, readWord_of_even before he, h k low, hh]

end SameBytes

/-! ## Rows of longs -/

/-- The address points into one of `count` longs in a row. -/
def InLongs (start : UInt32) (count : Nat) (address : UInt32) : Prop :=
  start.toNat % 65536 ≤ address.toNat % 65536
    ∧ address.toNat % 65536 < start.toNat % 65536 + 4 * count

instance (start : UInt32) (count : Nat) (address : UInt32) :
    Decidable (InLongs start count address) :=
  inferInstanceAs (Decidable (_ ∧ _))

/-- Where a long further on in a row starts. -/
lemma toNat_add_longs {start : UInt32} {skip : Nat} (h : start.toNat % 65536 + 4 * skip < 65536) :
    (start + 4 * .ofNat skip).toNat % 65536 = start.toNat % 65536 + 4 * skip := by
  rw [UInt32.toNat_add, UInt32.toNat_mul, UInt32.toNat_ofNat']
  simp only [UInt32.reduceToNat]
  omega

/-- What is in a part of a row is in the row. -/
lemma InLongs.of_part {start address : UInt32} {count skip fewer : Nat}
    (h : InLongs (start + 4 * .ofNat skip) fewer address) (within : skip + fewer ≤ count)
    (fits : start.toNat % 65536 + 4 * count ≤ halfSize) : InLongs start count address := by
  simp only [halfSize] at fits
  simp only [InLongs] at h ⊢
  rw [toNat_add_longs (by omega)] at h
  omega

/-- Both memories are the same but for a row of longs. -/
def SameOutside (start : UInt32) (count : Nat) (before after : Memory) : Prop :=
  ∀ address, ¬ InLongs start count address → after.readByte address = before.readByte address

namespace SameOutside

variable {start : UInt32} {count : Nat} {before between after : Memory}

lemma trans (first : SameOutside start count before between)
    (second : SameOutside start count between after) : SameOutside start count before after :=
  fun address outside => (second address outside).trans (first address outside)

/-- A row may be taken longer than it is. -/
lemma mono {fewer : Nat} (h : SameOutside start fewer before after) (le : fewer ≤ count) :
    SameOutside start count before after :=
  fun address outside => h address fun inside =>
    outside ⟨inside.1, Nat.lt_of_lt_of_le inside.2 (by omega)⟩

/-- It may also start further to the front. -/
lemma of_part {skip fewer : Nat} (h : SameOutside (start + 4 * .ofNat skip) fewer before after)
    (within : skip + fewer ≤ count) (fits : start.toNat % 65536 + 4 * count ≤ halfSize) :
    SameOutside start count before after :=
  fun address outside => h address fun inside => outside (inside.of_part within fits)

lemma symm (h : SameOutside start count before after) : SameOutside start count after before :=
  fun address outside => (h address outside).symm

/-- It makes no difference to write the same to both memories. -/
lemma setByte (h : SameOutside start count before after) (place : UInt16) (value : UInt8) :
    SameOutside start count (before.setByte place value) (after.setByte place value) := by
  intro address outside
  have same : after.byteAt address.toUInt16 = before.byteAt address.toUInt16 := h address outside
  rw [readByte, readByte, byteAt_setByte, byteAt_setByte, same]

lemma write (h : SameOutside start count before after) (size : DataSize) (address value : UInt32) :
    SameOutside start count (before.write size address value) (after.write size address value) := by
  cases size with
  | byte => exact h.setByte _ _
  | word => exact (h.setByte _ _).setByte _ _
  | long => exact (((h.setByte _ _).setByte _ _).setByte _ _).setByte _ _

/-- A long that is written is a row of its own. -/
lemma writeLong (aligned : start.toNat % 4 = 0) (value : UInt32) :
    SameOutside start 1 before (before.writeLong start value) := by
  intro address outside
  simp only [InLongs] at outside
  refine byteAt_writeLong_of_ne before ?_ value
  rw [UInt32.toNat_toUInt16]
  omega

/-- A word that is written into the row leaves the rest alone. -/
lemma writeWord_of_inLongs (aligned : start.toNat % 4 = 0) {address : UInt32}
    (inside : InLongs start count address) (value : UInt16) :
    SameOutside start count before (before.writeWord address value) := by
  intro other outside
  simp only [InLongs] at inside outside
  refine byteAt_writeWord_of_ne before ?_ value
  rw [UInt32.toNat_toUInt16]
  omega

/-- So does a long. -/
lemma writeLong_of_inLongs (aligned : start.toNat % 4 = 0) {address : UInt32}
    (inside : InLongs start count address) (value : UInt32) :
    SameOutside start count before (before.writeLong address value) := by
  intro other outside
  simp only [InLongs] at inside outside
  refine byteAt_writeLong_of_ne before ?_ value
  rw [UInt32.toNat_toUInt16]
  omega

/-- Words outside of the row are the same. -/
lemma readWord (h : SameOutside start count before after) (aligned : start.toNat % 4 = 0)
    {address : UInt32} (outside : ¬ InLongs start count address) :
    after.readWord address = before.readWord address := by
  have hw := toNat_wordStart address
  have h1 := toNat_wordStart_add_one address
  simp only [InLongs] at outside
  have byte : ∀ place : UInt16, place.toNat / 2 = address.toNat % 65536 / 2 →
      after.byteAt place = before.byteAt place := by
    intro place near
    have same := h place.toUInt32 (by
      simp only [InLongs, UInt16.toNat_toUInt32]
      have := place.toNat_lt
      omega)
    simpa only [readByte, UInt16.toUInt16_toUInt32] using same
  exact readWord_congr (byte _ (by omega)) (byte _ (by omega))

/-- Longs outside of the row are the same. -/
lemma readLong (h : SameOutside start count before after) (aligned : start.toNat % 4 = 0)
    {address : UInt32} (outside : ¬ InLongs start count address) :
    after.readLong address = before.readLong address := by
  have hl := toNat_longStart address
  simp only [InLongs] at outside
  -- the row consists of whole longs, so all four bytes are on the same side of it
  have bytes : ∀ k : UInt16, k.toNat < 4 →
      after.byteAt (longStart address + k) = before.byteAt (longStart address + k) := by
    intro k hk
    have hs := toNat_longStart_add address hk
    have same := h (longStart address + k).toUInt32 (by
      simp only [InLongs, UInt16.toNat_toUInt32]
      omega)
    simpa only [readByte, UInt16.toUInt16_toUInt32] using same
  exact readLong_congr bytes

/-- Whatever is read outside of the row is the same. -/
lemma read (h : SameOutside start count before after) (aligned : start.toNat % 4 = 0)
    {address : UInt32} (outside : ¬ InLongs start count address) (size : DataSize) :
    after.read size address = before.read size address := by
  cases size with
  | byte => exact congrArg UInt8.toUInt32 (h address outside)
  | word => exact congrArg UInt16.toUInt32 (h.readWord aligned outside)
  | long => exact h.readLong aligned outside

/-- Bytes outside of the row still stand there. -/
lemma hasBytes (h : SameOutside start count before after) {place : UInt32} {bytes : List UInt8}
    (outside : ∀ i < bytes.length, ¬ InLongs start count (place + .ofNat i))
    (stands : before.HasBytes place bytes) : after.HasBytes place bytes :=
  fun i hi => (h _ (outside i hi)).trans (stands i hi)

end SameOutside

end Memory

end P1Chip
