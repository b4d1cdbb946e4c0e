import P1Chip.Proofs.Raw.Hub
import P1Chip.Proofs.Raw.RunFields

/-!
# The parts of a cog with plain numbers

Of the parts that every cog has, the run state becomes three plain fields, and the cog that the
video generator listens to a plain number.  A cog that is loaded writes where its count says, and
that is the field with which it counts clocks later on.

* `RawBody` — these parts, with plain numbers.
* `CogBody.raw` — the parts of a cog with its numbers written out, and the fields of its run state.
* `RawBody.readRegister?`, `RawBody.writeRegister?`, `RawBody.loadNext?` — what they do.
* **`CogBody.readRegister?_raw`**, **`CogBody.writeRegister?_raw`** — registers are found.
* **`CogBody.loadNext?_raw`** — a cog that is loaded finds a place for the next long.
-/

namespace P1Chip

/-- The parts of a cog with plain numbers. -/
structure RawBody (τ : Type) where
  /-- All that has no such numbers; its run state and the aural source of its video generator are
  not used. -/
  parts : CogBody τ
  run : RunFields
  /-- Number of the cog that the video generator listens to. -/
  auralSource : Option Nat
deriving Inhabited

namespace CogBody

variable {τ : Type}

/-- The parts without run state and aural source. -/
def parts (body : CogBody τ) : CogBody τ :=
  { body with state := .execute, video := body.video.withSource none }

/-- The parts with their numbers written out. -/
def raw (body : CogBody τ) (run : RunFields) : RawBody τ where
  parts := body.parts
  run
  auralSource := body.video.auralSource.map Fin.val

end CogBody

namespace RawBody

variable {τ : Type} (body : RawBody τ)

/-- The parts with other fields of the run state. -/
def withRun (run : RunFields) : RawBody τ :=
  { body with run }

/-- The parts with another program counter. -/
def withPc (pc : UInt32) : RawBody τ :=
  { body with parts := { body.parts with pc } }

def setCell? (address value : UInt32) : Option (RawBody τ) := do
  return { body with parts := ← body.parts.setCell? address value }

def setNamedCell? (address value : UInt32) : Option (RawBody τ) := do
  return { body with parts := ← body.parts.setNamedCell? address value }

/-- A register as an instruction reads it. -/
def readRegister? (hub : RawHub) (address : UInt32) : Option UInt32 :=
  let parts := body.parts
  match SpecialRegister.at? address with
  | some .cnt => some hub.shared.counter
  | some .ina => some hub.shared.inputA
  | some .inb => some hub.shared.inputB
  | some .ctra => some parts.counterA.control
  | some .ctrb => some parts.counterB.control
  | some .frqa => some parts.counterA.frequency
  | some .frqb => some parts.counterB.frequency
  | some .phsa => some parts.counterA.phase
  | some .phsb => some parts.counterB.phase
  | some .vcfg => some parts.video.config
  | some .vscl => some parts.video.scale
  | _ => parts.cell? address

/-- Pins that the cog drives high, whether or not they are outputs. -/
def out? [Timebase τ] : Option UInt64 := do
  let low ← body.parts.namedCell? SpecialRegister.outa.address
  let high ← body.parts.namedCell? SpecialRegister.outb.address
  return CogBody.pinPair low high
    ||| body.parts.counterA.output body.parts.plls
    ||| body.parts.counterB.output body.parts.plls
    ||| body.parts.video.output

/-- Pins that the cog has as outputs. -/
def dir? : Option UInt64 := do
  let low ← body.parts.namedCell? SpecialRegister.dira.address
  let high ← body.parts.namedCell? SpecialRegister.dirb.address
  return CogBody.pinPair low high

/-- Copies the next long of the program to the place that the count says.  Tells whether it was the
last one, after which the count is back at zero. -/
def loadNext? (hub : RawHub) : Option (Bool × RawBody τ) := do
  let long ← hub.shared.memory.readLong? body.parts.programAddress
  let memory ← setAt? body.parts.memory body.run.count.toNat long
  let programAddress := body.parts.programAddress + 4
  let parts := { body.parts with memory, programAddress }
  let count := body.run.count + 1
  if count.toNat = programLongs then
    return (true, { body with parts, run := { body.run with count := 0 } })
  else
    return (false, { body with parts, run := { body.run with count } })

variable [Timebase τ]

/-- Writes a register as an instruction does. -/
def writeRegister? (running : UInt8) (address value : UInt32) : Option (RawBody τ) :=
  let parts := body.parts
  match SpecialRegister.at? address with
  | some .cnt | some .ina | some .inb => some body
  | some .ctra => do
    let (counterA, plls) ← parts.counterA.setControl? value parts.plls
    return { body with parts := { parts with counterA, plls } }
  | some .ctrb => do
    let (counterB, plls) ← parts.counterB.setControl? value parts.plls
    return { body with parts := { parts with counterB, plls } }
  | some .frqa =>
    let (counterA, plls) := parts.counterA.setFrequency value parts.plls
    some { body with parts := { parts with counterA, plls } }
  | some .frqb =>
    let (counterB, plls) := parts.counterB.setFrequency value parts.plls
    some { body with parts := { parts with counterB, plls } }
  | some .phsa =>
    some { body with parts := { parts with counterA := parts.counterA.setPhase value } }
  | some .phsb =>
    some { body with parts := { parts with counterB := parts.counterB.setPhase value } }
  | some .vcfg => do
    let (auralSource, video) ← parts.video.setConfig? value running
    return { body with auralSource, parts := { parts with video } }
  | some .vscl => some { body with parts := { parts with video := parts.video.setScale value } }
  | _ => body.setCell? address value

end RawBody

/-! ## Nothing is refused -/

namespace CogBody

variable {τ : Type} (body : CogBody τ) (run : RunFields)

@[simp]
lemma raw_run : (body.raw run).run = run :=
  rfl

@[simp]
lemma raw_withRun (other : RunFields) : (body.raw run).withRun other = body.raw other :=
  rfl

lemma setCell?_raw (address value : UInt32) :
    (body.raw run).setCell? address value = some ((body.setCell address value).raw run) := by
  rw [RawBody.setCell?, setCell?_eq]
  rfl

lemma setNamedCell?_raw {address : UInt32} (low : address.toNat < cogLongs) (value : UInt32) :
    (body.raw run).setNamedCell? address value = some ((body.setCell address value).raw run) := by
  rw [RawBody.setNamedCell?, setNamedCell?_eq _ low]
  rfl

/-- **Every register** can be read. -/
theorem readRegister?_raw (hub : Hub) (address : UInt32) :
    (body.raw run).readRegister? hub.raw address = some (body.readRegister hub address) := by
  rw [RawBody.readRegister?, readRegister]
  cases SpecialRegister.at? address with
  | none => exact body.parts.cell?_eq address
  | some register =>
    cases register with
    | par | outa | outb | dira | dirb => exact body.parts.cell?_eq address
    | _ => rfl

lemma out?_raw [Timebase τ] : (body.raw run).out? = some body.out := by
  simp only [RawBody.out?, namedCell?_eq _ (SpecialRegister.address_lt _), Option.bind_eq_bind,
    Option.bind_some]
  rfl

lemma dir?_raw : (body.raw run).dir? = some body.dir := by
  simp only [RawBody.dir?, namedCell?_eq _ (SpecialRegister.address_lt _), Option.bind_eq_bind,
    Option.bind_some]
  rfl

/-- **Every register** can be written. -/
theorem writeRegister?_raw [Timebase τ] (running : UInt8) (address value : UInt32) :
    (body.raw run).writeRegister? running address value
      = some ((body.writeRegister running address value).raw run) := by
  rw [RawBody.writeRegister?, writeRegister]
  cases SpecialRegister.at? address with
  | none => exact body.setCell?_raw run address value
  | some register =>
    cases register with
    | par | outa | outb | dira | dirb => exact body.setCell?_raw run address value
    | ctra | ctrb =>
      simp only [Counter.setControl?_eq]
      rfl
    | vcfg =>
      simp only [Video.setConfig?_eq]
      rfl
    | vscl =>
      have scaled : (body.video.withSource none).setScale value
          = (body.video.setScale value).withSource none :=
        Video.ignoresSource_setScale value body.video none
      have kept : (body.video.setScale value).auralSource = body.video.auralSource :=
        (Video.ignoresSource_setScale value).auralSource body.video
      show some (RawBody.mk
        { body.parts with video := (body.video.withSource none).setScale value } run
        (body.video.auralSource.map Fin.val)) = _
      rw [scaled, ← kept]
      rfl
    | _ => rfl

/-- **A cog that is loaded** finds a place for the next long, and ends exactly at the last one. -/
theorem loadNext?_raw (hub : Hub) (next : Fin programLongs) (later : RunMode) :
    (body.raw ⟨.loadProgram, .ofNat next.val, later⟩).loadNext? hub.raw
      = some ((body.loadNext hub next).1,
          (body.loadNext hub next).2.raw
            ⟨.loadProgram, .ofNat ((next.val + 1) % programLongs), later⟩) := by
  have below : next.val < programLongs := next.isLt
  have word : (UInt32.ofNat next.val).toNat = next.val :=
    RunFields.toNat_clocks (Nat.lt_trans below (by decide))
  have inside : next.val < cogLongs := Nat.lt_trans below (by decide)
  have counted : UInt32.ofNat next.val + 1 = UInt32.ofNat (next.val + 1) :=
    (UInt32.ofNat_add ..).symm
  have following : (UInt32.ofNat (next.val + 1)).toNat = next.val + 1 :=
    RunFields.toNat_clocks (Nat.lt_of_le_of_lt below (by decide))
  simp only [RawBody.loadNext?, raw, Memory.readLong?_eq, setAt?_of_lt inside, word, counted,
    following, Option.bind_eq_bind, Option.bind_some, loadNext]
  by_cases more : next.val + 1 < programLongs
  · rw [if_neg (Nat.ne_of_lt more), dif_pos more, Nat.mod_eq_of_lt more]
    rfl
  · have last : next.val + 1 = programLongs := by omega
    rw [if_pos last, dif_neg more, last]
    rfl

/-- Unless that was the last one, the count says which is next. -/
lemma shows_loadNext (hub : Hub) (next : Fin programLongs) (later : RunMode)
    (goesOn : (body.loadNext hub next).1 = false) :
    RunFields.Shows ⟨.loadProgram, .ofNat ((next.val + 1) % programLongs), later⟩
      (body.loadNext hub next).2.state := by
  simp only [loadNext] at goesOn ⊢
  split at goesOn
  · next more =>
    rw [dif_pos more, Nat.mod_eq_of_lt more]
    exact .loadProgram ⟨next.val + 1, more⟩ later
  · cases goesOn

end CogBody

end P1Chip
