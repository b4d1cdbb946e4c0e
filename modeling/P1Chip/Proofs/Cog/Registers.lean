import Mathlib.Data.List.Induction
import Mathlib.Tactic.Lemma
import P1Chip.Cog.Body

/-!
# Registers as cells

Eleven of the 512 registers of a cog belong to its counters and its video generator, and three show
the hub; the others are longs of cog memory.  Nothing of that can be told by writing and reading: a
register keeps what was written last, if it can be written at all, and leaves the others alone.

* `SpecialRegister.at?_congr`, `SpecialRegister.eq_of_at?` — addresses and the registers there.
* `CogBody.IsWritable` — the registers that keep what is written to them.
* **`CogBody.readRegister_writeRegister`** — what a write does to all registers.
* `RegisterWrite`, `CogBody.writeAll` — many writes, and the last one for each register.
* **`CogBody.registers_independent`** — what they do to all registers.
-/

namespace P1Chip

namespace SpecialRegister

/-- The low nine bits of an address tell the register. -/
lemma at?_congr {first second : UInt32} (same : first.toNat % 512 = second.toNat % 512) :
    at? first = at? second := by
  have low : Word.lowFourBits first.toNat = Word.lowFourBits second.toNat := by
    apply Fin.ext
    show first.toNat % 16 = second.toNat % 16
    omega
  rw [at?, at?, same, low]

/-- The registers are different ones. -/
lemma get_all_inj {i j : Fin 16} : all.get i = all.get j ↔ i = j := by
  revert i j
  decide

/-- No two addresses below 512 have the same register. -/
lemma eq_of_at? {first second : UInt32} {register : SpecialRegister}
    (h : at? first = some register) (h' : at? second = some register) :
    first.toNat % 512 = second.toNat % 512 := by
  rw [at?] at h h'
  split at h <;> split at h'
  · next high high' =>
    have same : all.get (Word.lowFourBits first.toNat) = all.get (Word.lowFourBits second.toNat) :=
      Option.some.inj (h.trans h'.symm)
    have low : first.toNat % 16 = second.toNat % 16 := congrArg Fin.val (get_all_inj.mp same)
    omega
  all_goals contradiction

end SpecialRegister

/-- The two registers of the video generator are different ones. -/
lemma Video.config_setScale (video : Video) (value : UInt32) :
    (video.setScale value).config = video.config := by
  rw [setScale]
  split <;> rfl

namespace CogBody

variable {τ : Type}

/-- The register keeps what is written to it: it does not show the system counter or the pins. -/
def IsWritable (address : UInt32) : Prop :=
  (SpecialRegister.at? address).all (!·.isReadOnly)

instance (address : UInt32) : Decidable (IsWritable address) :=
  inferInstanceAs (Decidable (_ = true))

lemma cell_congr (body : CogBody τ) {address other : UInt32}
    (same : other.toNat % 512 = address.toNat % 512) : body.cell other = body.cell address := by
  have index : Fin.ofNat cogLongs other.toNat = Fin.ofNat cogLongs address.toNat := Fin.ext same
  simp only [cell, index]

/-- Below 512, the cell at an address is the long with that number. -/
lemma getElem?_memory (body : CogBody τ) {address : UInt32} (low : address.toNat < cogLongs) :
    body.memory[address.toNat]? = some (body.cell address) := by
  have index : address.toNat = (Fin.ofNat cogLongs address.toNat).val :=
    (Nat.mod_eq_of_lt low).symm
  rw [Vector.getElem?_eq_getElem low]
  exact congrArg some (getElem_congr rfl index _)

lemma cell_setCell (body : CogBody τ) (address value : UInt32) :
    (body.setCell address value).cell address = value :=
  Vector.getElem_set_self _

lemma cell_setCell_of_ne (body : CogBody τ) {address other : UInt32}
    (different : other.toNat % 512 ≠ address.toNat % 512) (value : UInt32) :
    (body.setCell address value).cell other = body.cell other :=
  Vector.getElem_set_ne (Fin.isLt _) (Fin.isLt _) (Ne.symm different)

lemma readRegister_congr (body : CogBody τ) (hub : Hub) {address other : UInt32}
    (same : other.toNat % 512 = address.toNat % 512) :
    body.readRegister hub other = body.readRegister hub address := by
  rw [readRegister, readRegister, SpecialRegister.at?_congr same, cell_congr body same]

variable [Timebase τ]

lemma writeRegister_pc (body : CogBody τ) (running : UInt8) (address value : UInt32) :
    (body.writeRegister running address value).pc = body.pc := by
  simp only [writeRegister]
  split <;> rfl

/-- What was written is read. -/
lemma readRegister_writeRegister_self (body : CogBody τ) (hub : Hub) (running : UInt8)
    {address : UInt32} (writable : IsWritable address) (value : UInt32) :
    (body.writeRegister running address value).readRegister hub address = value := by
  rw [IsWritable] at writable
  rw [writeRegister]
  cases register : SpecialRegister.at? address with
  | none => simp only [readRegister, register, cell_setCell]
  | some register' =>
    rw [register] at writable
    cases register' with
    | cnt => cases writable
    | ina => cases writable
    | inb => cases writable
    | vscl =>
      simp only [readRegister, register, Video.setScale]
      split
      · next same => exact same
      · rfl
    | par | outa | outb | dira | dirb => simp only [readRegister, register, cell_setCell]
    | _ =>
      simp only [readRegister, register]
      rfl

/-- What shows the hub is not changed by writing to it. -/
lemma writeRegister_of_not_writable (body : CogBody τ) (running : UInt8) {address : UInt32}
    (readOnly : ¬ IsWritable address) (value : UInt32) :
    body.writeRegister running address value = body := by
  rw [IsWritable] at readOnly
  rw [writeRegister]
  cases register : SpecialRegister.at? address with
  | none => simp [register] at readOnly
  | some register' =>
    rw [register] at readOnly
    cases register' with
    | cnt | ina | inb => rfl
    | _ => exact (readOnly rfl).elim

/-- The other registers are as they were. -/
lemma readRegister_writeRegister_of_ne (body : CogBody τ) (hub : Hub) (running : UInt8)
    {address other : UInt32} (different : other.toNat % 512 ≠ address.toNat % 512)
    (value : UInt32) :
    (body.writeRegister running address value).readRegister hub other
      = body.readRegister hub other := by
  have apart {register : SpecialRegister} (h : SpecialRegister.at? address = some register) :
      SpecialRegister.at? other ≠ some register :=
    fun h' => different (SpecialRegister.eq_of_at? h' h)
  have cells := body.cell_setCell_of_ne different value
  have config := body.video.config_setScale value
  simp only [writeRegister]
  -- one part is written and one is read: they are different parts, or the registers would be one
  split <;> simp only [readRegister] <;> split <;> first
    | rfl
    | exact cells
    | exact config
    | exact absurd ‹SpecialRegister.at? other = _› (apart ‹SpecialRegister.at? address = _›)

/-- **What a write does to all registers**: it sets the one that it names, if that keeps
anything. -/
theorem readRegister_writeRegister (body : CogBody τ) (hub : Hub) (running : UInt8)
    (address other value : UInt32) :
    (body.writeRegister running address value).readRegister hub other
      = if other.toNat % 512 = address.toNat % 512 ∧ IsWritable address then value
        else body.readRegister hub other := by
  split
  · next same =>
    rw [readRegister_congr _ hub same.1]
    exact body.readRegister_writeRegister_self hub running same.2 value
  · next other' =>
    by_cases writable : IsWritable address
    · exact body.readRegister_writeRegister_of_ne hub running
        (fun same => other' ⟨same, writable⟩) _
    · rw [body.writeRegister_of_not_writable running writable]

end CogBody

/-! ## Many writes -/

/-- A write to a register, while the given cogs are running. -/
structure RegisterWrite where
  running : UInt8
  address : UInt32
  value : UInt32

namespace RegisterWrite

/-- The value that was written last to the register at an address. -/
def last? (writes : List RegisterWrite) (address : UInt32) : Option UInt32 :=
  (writes.filter fun write => write.address.toNat % 512 = address.toNat % 512).getLast?.map value

lemma last?_concat (writes : List RegisterWrite) (last : RegisterWrite) (address : UInt32) :
    last? (writes ++ [last]) address
      = if last.address.toNat % 512 = address.toNat % 512 then some last.value
        else last? writes address := by
  rw [last?, List.filter_append, List.filter_cons, List.filter_nil]
  by_cases same : last.address.toNat % 512 = address.toNat % 512
  · rw [if_pos same, if_pos (decide_eq_true same), List.getLast?_concat, Option.map_some]
  · rw [if_neg same, if_neg (fun found => same (of_decide_eq_true found)), List.append_nil]
    rfl

end RegisterWrite

namespace CogBody

variable {τ : Type} [Timebase τ]

/-- The cog after some writes, one after the other. -/
def writeAll (body : CogBody τ) (writes : List RegisterWrite) : CogBody τ :=
  writes.foldl (fun body write => body.writeRegister write.running write.address write.value) body

omit [Timebase τ] in
lemma isWritable_iff (address : UInt32) :
    IsWritable address
      ↔ SpecialRegister.at? address ∉ [some .cnt, some .ina, some .inb] := by
  rw [IsWritable]
  cases SpecialRegister.at? address with
  | none => simp
  | some register => cases register <;> simp [SpecialRegister.isReadOnly]

/-- **Registers are independent cells.**  After any number of writes, a register has the value that
was written to it last, or the one that it had before if there was none; and system counter and
pins cannot be written at all. -/
theorem registers_independent (body : CogBody τ) (hub : Hub) (writes : List RegisterWrite)
    (address : UInt32) :
    (body.writeAll writes).readRegister hub address
      = if SpecialRegister.at? address ∈ [some .cnt, some .ina, some .inb] then
          body.readRegister hub address
        else
          (RegisterWrite.last? writes address).getD (body.readRegister hub address) := by
  induction writes using List.reverseRecOn with
  | nil => exact (ite_self _).symm
  | append_singleton writes last ih =>
    have written : body.writeAll (writes ++ [last])
        = (body.writeAll writes).writeRegister last.running last.address last.value := by
      rw [writeAll, List.foldl_append]
      rfl
    rw [written, readRegister_writeRegister, RegisterWrite.last?_concat]
    by_cases same : last.address.toNat % 512 = address.toNat % 512
    · have writable := isWritable_iff last.address
      rw [SpecialRegister.at?_congr same] at writable
      rw [if_pos same, Option.getD_some]
      split
      · next here => rw [if_neg (writable.mp here.2)]
      · next readOnly =>
        have shown := not_not.mp fun named => readOnly ⟨same.symm, writable.mpr named⟩
        rw [ih, if_pos shown, if_pos shown]
    · rw [if_neg same, if_neg fun here => same here.1.symm, ih]

end CogBody

end P1Chip
