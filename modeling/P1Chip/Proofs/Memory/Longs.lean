import P1Chip.Proofs.Memory.Words

/-!
# Memory with given contents

Whatever longs are asked for, there is a memory that holds them.  So states of the chip that are
described by what stands in hub memory do exist.

* `Memory.ofLongs` — the memory.
* **`Memory.readLong_ofLongs`** — its longs are the ones that were asked for.
* `Memory.startingWith` — memory with a few bytes.
* `Memory.writeLong_readLong` — writing back what was read.
-/

namespace P1Chip.Memory

/-- The byte at a place, if the longs are given by their numbers. -/
def longByte (long : Nat → UInt32) (place : Nat) : UInt8 :=
  (long (place / 4) >>> (8 * .ofNat (place % 4))).toUInt8

/-- Memory with the given longs, both halves included. -/
def ofLongs (long : Nat → UInt32) : Memory where
  ram := Vector.ofFn fun i => longByte long i
  rom := Vector.ofFn fun i => longByte long (halfSize + i)

variable (long : Nat → UInt32)

lemma byteAt_ofLongs (address : UInt16) :
    (ofLongs long).byteAt address = longByte long address.toNat := by
  rw [byteAt]
  split
  · exact Vector.getElem_ofFn _
  · next high =>
    have place : halfSize + (address.toNat - halfSize) = address.toNat :=
      Nat.add_sub_of_le (Nat.not_lt.mp high)
    refine (Vector.getElem_ofFn _).trans ?_
    rw [place]

lemma byteAt_longStart (address : UInt32) {k : UInt16} (low : k.toNat < 4) :
    (ofLongs long).byteAt (longStart address + k)
      = (long (address.toNat % 65536 / 4) >>> (8 * .ofNat k.toNat)).toUInt8 := by
  have start := toNat_longStart address
  have place : (longStart address + k).toNat = address.toNat % 65536 / 4 * 4 + k.toNat := by
    rw [toNat_add_of_lt (by omega), start]
  have number : (address.toNat % 65536 / 4 * 4 + k.toNat) / 4 = address.toNat % 65536 / 4 := by
    omega
  have rest : (address.toNat % 65536 / 4 * 4 + k.toNat) % 4 = k.toNat := by omega
  rw [byteAt_ofLongs, place, longByte, number, rest]

/-- **The longs of the memory** are the given ones. -/
theorem readLong_ofLongs (address : UInt32) :
    (ofLongs long).readLong address = long (address.toNat % 65536 / 4) := by
  have b0 := byteAt_longStart long address (k := 0) (by decide)
  have b1 := byteAt_longStart long address (k := 1) (by decide)
  have b2 := byteAt_longStart long address (k := 2) (by decide)
  have b3 := byteAt_longStart long address (k := 3) (by decide)
  rw [UInt16.add_zero] at b0
  show littleLong
    (littleWord ((ofLongs long).byteAt (longStart address))
      ((ofLongs long).byteAt (longStart address + 1)))
    (littleWord ((ofLongs long).byteAt (longStart address + 2))
      ((ofLongs long).byteAt (longStart address + 3))) = _
  rw [b0, b1, b2, b3]
  exact littleLong_bytes _

lemma readByte_ofLongs (address : UInt32) :
    (ofLongs long).readByte address = longByte long (address.toNat % 65536) := by
  rw [readByte, byteAt_ofLongs, UInt32.toNat_toUInt16]

/-- Memory with these bytes at its start. -/
def startingWith (bytes : List UInt8) : Memory :=
  (bytes.zipIdx.foldl fun memory (byte, place) => memory.setByte (.ofNat place) byte)
    ⟨.replicate halfSize 0, .replicate halfSize 0⟩

/-! ## Writing back -/

variable (memory : Memory)

lemma setByte_byteAt (address : UInt16) :
    memory.setByte address (memory.byteAt address) = memory := by
  simp only [setByte]
  split
  · next low => simp only [byteAt, dif_pos low, Vector.set_getElem_self]
  · rfl

/-- A long has the bytes that it was put together from. -/
lemma bytes_littleLong (b0 b1 b2 b3 : UInt8) :
    (littleLong (littleWord b0 b1) (littleWord b2 b3)).toUInt8 = b0 ∧
      (littleLong (littleWord b0 b1) (littleWord b2 b3) >>> 8).toUInt8 = b1 ∧
      (littleLong (littleWord b0 b1) (littleWord b2 b3) >>> 16).toUInt8 = b2 ∧
      (littleLong (littleWord b0 b1) (littleWord b2 b3) >>> 24).toUInt8 = b3 := by
  have h0 := b0.toNat_lt
  have h1 := b1.toNat_lt
  have h2 := b2.toNat_lt
  have h3 := b3.toNat_lt
  simp only [← UInt8.toNat_inj, UInt32.toNat_toUInt8, UInt32.toNat_shiftRight, toNat_littleLong,
    toNat_littleWord, Nat.shiftRight_eq_div_pow, UInt32.reduceToNat, Nat.reduceMod, Nat.reducePow]
  omega

/-- A long that is written back where it was read changes nothing, in either half. -/
lemma writeLong_readLong (address : UInt32) :
    memory.writeLong address (memory.readLong address) = memory := by
  obtain ⟨h0, h1, h2, h3⟩ := bytes_littleLong (memory.byteAt (longStart address))
    (memory.byteAt (longStart address + 1)) (memory.byteAt (longStart address + 2))
    (memory.byteAt (longStart address + 3))
  simp only [longStart] at h0 h1 h2 h3
  simp only [writeLong, readLong, h0, h1, h2, h3, setByte_byteAt]

end P1Chip.Memory
