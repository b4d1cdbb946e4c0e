import Mathlib.Data.List.Forall2
import P1Chip.Proofs.Chip.Parts
import P1Chip.Proofs.Chip.PinBus
import P1Chip.Proofs.Raw.Cog

/-!
# Chips with plain numbers

The slots of a chip are an array in which cogs are looked up by their numbers.  In the chip of this
module any number can be looked up, and what stands in the slots are cogs with plain numbers.  It
gives up where a slot, a pin, a place in memory or the name of a clock mode is refused.

* `RawChip` — a chip with plain numbers.
* `RawChip.Shows` — it is a given chip, and its cogs are in range.
* `RawChip.putCog?`, `RawChip.changeCog?` — slots by their numbers.
* `RawChip.notifyPins?`, `RawChip.reset?`, `RawChip.load?`, `RawChip.applyActions?` — what a chip
  does besides stepping.
* **`RawChip.Shows.notifyPins?`**, **`RawChip.Shows.reset?`**, **`RawChip.Shows.applyActions?`** —
  nothing is refused.
-/

namespace P1Chip

variable {τ π : Type}

/-- The hub with a change that has nothing to do with the ring or the queue. -/
def RawHub.withShared (hub : RawHub) (change : Hub → Hub) : RawHub :=
  { hub with shared := change hub.shared }

namespace Memory

variable (memory : Memory)

/-- The words of a program's first frame, as the header has them. -/
def buildFrame? (header : ImageHeader) : Option Memory := do
  let frame := header.bootFrame.toUInt32
  let memory ← memory.writeWord? (frame - 8) header.objectBase
  let memory ← memory.writeWord? (frame - 6) header.variableBase
  let memory ← memory.writeWord? (frame - 4) header.programCounter
  memory.writeWord? (frame - 2) header.stackPointer

/-- Where the first method lands when it returns. -/
def setTraps? (header : ImageHeader) : Option Memory := do
  let trap := header.bootFrame.toUInt32 - 8
  let memory ← memory.writeLong? trap ImageHeader.terminationTrap
  memory.writeLong? (trap + 4) ImageHeader.terminationTrap

lemma buildFrame?_eq (header : ImageHeader) :
    let frame := header.bootFrame.toUInt32
    memory.buildFrame? header
      = some ((((memory.writeWord (frame - 8) header.objectBase).writeWord
          (frame - 6) header.variableBase).writeWord
          (frame - 4) header.programCounter).writeWord
          (frame - 2) header.stackPointer) := by
  simp only [buildFrame?, writeWord?_eq, Option.bind_eq_bind, Option.bind_some]

lemma setTraps?_eq (header : ImageHeader) :
    let trap := header.bootFrame.toUInt32 - 8
    memory.setTraps? header
      = some ((memory.writeLong trap ImageHeader.terminationTrap).writeLong
          (trap + 4) ImageHeader.terminationTrap) := by
  simp only [setTraps?, writeLong?_eq, Option.bind_eq_bind, Option.bind_some]

end Memory

/-- A chip with plain numbers. -/
structure RawChip (τ π : Type) where
  hub : RawHub
  /-- The slots, which are looked up by number. -/
  cogs : Vector (Option (RawCog τ)) 8
  oscillator : Oscillator τ
  time : τ
  resetMemory : Memory
  plugins : PluginSet π
  frameBreak : FrameBreak

namespace RawChip

variable (chip : RawChip τ π)

/-! ## Slots -/

/-- Fills or empties the slot with a number. -/
def putCog? (number : Nat) (cog? : Option (RawCog τ)) : Option (RawChip τ π) := do
  return { chip with cogs := ← setAt? chip.cogs number cog? }

/-- Changes the cog with a number, if it runs. -/
def changeCog? (number : Nat) (change? : RawCog τ → Option (RawCog τ)) :
    Option (RawChip τ π) := do
  match ← chip.cogs[number]? with
  | none => return chip
  | some cog => chip.putCog? number (← change? cog)

/-- Changes all cogs. -/
def mapCogs (change : RawCog τ → RawCog τ) : RawChip τ π :=
  { chip with cogs := chip.cogs.map (·.map change) }

/-- Stops the cog with a number. -/
def stopCog? (number : Nat) : Option (RawChip τ π) := do
  let chip ← (chip.mapCogs (·.detachAural number)).putCog? number none
  return { chip with hub := ← chip.hub.markRunning? number false }

variable [Timebase τ]

/-- Starts a new cog in the slot with a number. -/
def startCog? (number : Nat) (engine : EngineKind) (program parameter : UInt32) :
    Option (RawChip τ π) := do
  let cog ← RawCog.new? number engine program parameter chip.hub.shared.coreFrequency
  let chip ← chip.putCog? number (some cog)
  return { chip with hub := ← chip.hub.markRunning? number true }

/-! ## Pins -/

/-- Outputs and directions, with those of what stands in another slot. -/
def addPins? (pins : UInt64 × UInt64) : Option (RawCog τ) → Option (UInt64 × UInt64)
  | some cog => do return (pins.1 ||| (← cog.body.out?), pins.2 ||| (← cog.body.dir?))
  | none => some pins

/-- Pins that some cog drives high, and pins that some cog has as outputs. -/
def cogPins? : Option (UInt64 × UInt64) :=
  chip.cogs.toList.foldlM addPins? (0, 0)

/-- Puts what the cogs drive onto the pins. -/
def refreshPins? : Option (Bool × RawChip τ π) := do
  let before := chip.hub.shared
  let (out, dir) ← chip.cogPins?
  let hub := before.updatePins out dir
  let (changed, external) := hub.external.takeChanged
  let differs := hub.input != before.input || hub.out != before.out || hub.dir != before.dir
  return (changed || differs,
    { chip with hub := chip.hub.withShared fun _ => { hub with external } })

/-- Drives a pin from outside. -/
def drivePin? (pin : UInt32) (floating high : Bool) : Option (RawChip τ π) := do
  let hub ← chip.hub.drivePin? pin floating high
  return { chip with hub := hub.withShared (·.refreshInput) }

/-! ## Clock mode -/

/-- Takes over a clock mode.  It is named where that is logged. -/
def applyClockMode? (mode : ClockMode) : Option (RawChip τ π) := do
  let hub := chip.hub.withShared (·.setClockMode mode)
  let frequency := hub.shared.coreFrequency
  let _ ← mode.name?
  let chip := chip.mapCogs (·.setCoreFrequency frequency)
  return { chip with hub, oscillator := chip.oscillator.setFrequency frequency }

variable [Plugin τ π]

/-- Tells the plugins what the pins are. -/
def tell? : Option (RawChip τ π) := do
  let states ← chip.hub.pinStates?
  let (plugins, external) := chip.plugins.deliverPins chip.time states chip.hub.shared.external
  return { chip with plugins, hub := chip.hub.withShared ({ · with external }.refreshInput) }

/-- Puts what the cogs drive onto the pins, and tells the plugins if anything has changed. -/
def notifyPins? : Option (RawChip τ π) := do
  let (changed, chip) ← chip.refreshPins?
  if changed then chip.tell? else return chip

/-! ## Resets -/

/-- The chip at the start of a reset. -/
def emptied : RawChip τ π :=
  { chip with
    hub :=
      { shared := { chip.hub.shared with memory := chip.resetMemory }.reset
        ring := 0
        queue := [] }
    time := Timebase.ofNat 0
    cogs := .replicate 8 none
    oscillator := .stopped
    plugins := chip.plugins.deliverReset τ }

/-- Builds the program's first frame, and starts the first cog. -/
def booted? : Option (RawChip τ π) := do
  let chip ← chip.applyClockMode? chip.hub.shared.clockMode.withoutReset
  let header := chip.hub.shared.memory.header
  let hub ← chip.hub.withMemory? (·.buildFrame? header)
  RawChip.startCog? { chip with hub } 0 .interpreted interpreterEntry header.bootFrame.toUInt32

/-- Starts the loaded program over. -/
def reset? : Option (RawChip τ π) := do
  let chip ← chip.emptied.notifyPins?
  chip.booted?

/-- Changes the clock mode, as the hub's service does. -/
def setClockMode? (mode : ClockMode) : Option (RawChip τ π) :=
  if mode.resets then
    RawChip.reset? { chip with hub := chip.hub.withShared (·.setClockMode mode) }
  else
    chip.applyClockMode? mode

/-! ## Switching on and loading -/

/-- A chip with the given memory, before any program was loaded. -/
def switchedOn? (memory : Memory) : Option (RawChip τ π) :=
  applyClockMode?
    { hub := { shared := .new memory, ring := 0, queue := [] }
      cogs := .replicate 8 none
      oscillator := .stopped
      time := Timebase.ofNat 0
      resetMemory := memory
      plugins := .empty
      frameBreak := .none }
    ⟨0⟩

/-- Loads a program and starts it, if its image has a size that fits. -/
def load? (image : ByteArray) : Option (RawChip τ π) :=
  if image.size = 0 ∨ image.size > halfSize then
    some chip
  else do
    let header := ImageHeader.ofImage image
    let crystal? := header.clockMode.crystalFrequency? header.clockFrequency
    let crystalFrequency := crystal?.getD chip.hub.shared.crystalFrequency
    let hub := chip.hub.withShared ({ · with crystalFrequency }.setClockMode header.clockMode)
    let hub ← hub.withMemory? fun memory => (memory.clear.load image).setTraps? header
    let _ ← header.clockMode.name?
    RawChip.reset? { chip with hub, resetMemory := hub.shared.memory }

/-! ## What the hub has queued -/

/-- Carries out requests, one after the other. -/
def perform? : List RawAction → RawChip τ π → Option (RawChip τ π)
  | [], chip => some chip
  | .start cog engine program parameter :: rest, chip => do
    perform? rest (← chip.startCog? cog engine program parameter)
  | .stop cog :: rest, chip => do
    perform? rest (← chip.stopCog? cog)
  | .setClockMode mode :: rest, chip =>
    if mode.resets then chip.setClockMode? mode
    else do perform? rest (← chip.setClockMode? mode)

/-- Carries out everything in the queue of the hub. -/
def applyActions? : Option (RawChip τ π) :=
  perform? chip.hub.queue { chip with hub := { chip.hub with queue := [] } }

end RawChip

/-! ## The same chip -/

/-- Slots with plain cogs, of which each shows the one in the same slot. -/
def SlotsShow (raw : Vector (Option (RawCog τ)) 8) (cogs : Vector (Option (Cog τ)) 8) : Prop :=
  ∀ id : Fin 8, Option.Rel RawCog.Shows (raw.get id) (cogs.get id)

namespace SlotsShow

variable {raw : Vector (Option (RawCog τ)) 8} {cogs : Vector (Option (Cog τ)) 8}

lemma empty : SlotsShow (.replicate 8 none) (Chip.emptySlots : Vector (Option (Cog τ)) 8) := by
  intro id
  show Option.Rel _ (Vector.replicate 8 none)[id.val] (Vector.replicate 8 none)[id.val]
  rw [Vector.getElem_replicate, Vector.getElem_replicate]
  exact .none

lemma set (shown : SlotsShow raw cogs) (id : Fin 8) {rawCog? : Option (RawCog τ)}
    {cog? : Option (Cog τ)} (same : Option.Rel RawCog.Shows rawCog? cog?) :
    SlotsShow (raw.set id rawCog? id.isLt) (cogs.set id cog? id.isLt) := by
  intro other
  show Option.Rel _ (raw.set id rawCog? id.isLt)[other.val] (cogs.set id cog? id.isLt)[other.val]
  rw [Vector.getElem_set, Vector.getElem_set]
  split
  · exact same
  · exact shown other

lemma map (shown : SlotsShow raw cogs) {change : RawCog τ → RawCog τ} {change' : Cog τ → Cog τ}
    (changed : ∀ raw cog, raw.Shows cog → (change raw).Shows (change' cog)) :
    SlotsShow (raw.map (·.map change)) (cogs.map (·.map change')) := by
  intro id
  show Option.Rel _ (raw.map (Option.map change))[id.val] (cogs.map (Option.map change'))[id.val]
  rw [Vector.getElem_map, Vector.getElem_map]
  have here : Option.Rel RawCog.Shows raw[id.val] cogs[id.val] := shown id
  revert here
  generalize raw[id.val] = rawCog?
  generalize cogs[id.val] = cog?
  intro here
  cases here with
  | none => exact .none
  | some same => exact .some (changed _ _ same)

/-- One beside the other, from the first slot to the last. -/
lemma forall₂ (shown : SlotsShow raw cogs) :
    List.Forall₂ (Option.Rel RawCog.Shows) raw.toList cogs.toList := by
  refine List.forall₂_iff_get.mpr ⟨?_, fun i first second => ?_⟩
  · rw [Vector.length_toList, Vector.length_toList]
  · rw [Vector.length_toList] at first
    exact shown ⟨i, first⟩

end SlotsShow

/-- The chip with its numbers written out, and with the given cogs in its slots. -/
def Chip.raw (chip : Chip τ π) (cogs : Vector (Option (RawCog τ)) 8) : RawChip τ π where
  hub := chip.hub.raw
  cogs
  oscillator := chip.oscillator
  time := chip.time
  resetMemory := chip.resetMemory
  plugins := chip.plugins
  frameBreak := chip.frameBreak

namespace Chip

variable (chip : Chip τ π) (id : Fin 8) (change : Cog τ → Cog τ)

/-- A slot that is there is changed if it is not empty. -/
lemma changeCog_val :
    (chip.changeCog id.val change).2
      = match chip.takeCog id with
        | (none, chip) => chip
        | (some cog, chip) => chip.putCog id (change cog) := by
  rw [changeCog, dif_pos id.isLt, takeCog_eq]
  cases chip.cogs.get id <;> rfl

lemma changeCog_eq_elim :
    (chip.changeCog id.val change).2
      = (chip.cogs.get id).elim chip fun cog => chip.putCog id (change cog) := by
  rw [changeCog_val, takeCog_eq]
  cases there : chip.cogs.get id with
  | none => exact takeCog_of_none there
  | some cog => exact chip.putCog_takeCog id (change cog)

end Chip

/-- A chip with plain numbers shows one whose cogs are in range. -/
def RawChip.Shows (raw : RawChip τ π) (chip : Chip τ π) : Prop :=
  ∃ cogs, SlotsShow cogs chip.cogs ∧ raw = chip.raw cogs

namespace RawChip

variable {raw : RawChip τ π} {chip : Chip τ π}

lemma Shows.hub (shown : raw.Shows chip) : raw.hub = chip.hub.raw := by
  obtain ⟨cogs, -, rfl⟩ := shown
  rfl

lemma Shows.frameBreak (shown : raw.Shows chip) : raw.frameBreak = chip.frameBreak := by
  obtain ⟨cogs, -, rfl⟩ := shown
  rfl

/-- The same slots, with another hub. -/
lemma Shows.withHub (shown : raw.Shows chip) (hub : Hub) :
    RawChip.Shows { raw with hub := hub.raw } { chip with hub } := by
  obtain ⟨cogs, slots, rfl⟩ := shown
  exact ⟨cogs, slots, rfl⟩

/-! ### Slots -/

/-- Every slot can be looked up, and is empty in both chips or in none. -/
lemma Shows.slot (shown : raw.Shows chip) (id : Fin 8) :
    (raw.cogs[id.val]? = some none ∧ chip.cogs.get id = none) ∨
      ∃ rawCog cog, raw.cogs[id.val]? = some (some rawCog) ∧ chip.cogs.get id = some cog ∧
        rawCog.Shows cog := by
  obtain ⟨cogs, slots, rfl⟩ := shown
  have found : (chip.raw cogs).cogs[id.val]? = some (cogs.get id) :=
    Vector.getElem?_eq_getElem id.isLt
  have here := slots id
  rw [found]
  generalize cogs.get id = rawCog? at here ⊢
  generalize chip.cogs.get id = cog? at here ⊢
  cases here with
  | none => exact .inl ⟨rfl, rfl⟩
  | some same => exact .inr ⟨_, _, rfl, rfl, same⟩

lemma Shows.putCog? (shown : raw.Shows chip) (id : Fin 8) {rawCog : RawCog τ} {cog : Cog τ}
    (same : rawCog.Shows cog) :
    Yields (raw.putCog? id.val (some rawCog)) (·.Shows (chip.putCog id cog)) := by
  obtain ⟨cogs, slots, rfl⟩ := shown
  refine ⟨(chip.putCog id cog).raw (cogs.set id (some rawCog) id.isLt), ?_, _,
    slots.set id (.some same), rfl⟩
  rw [RawChip.putCog?]
  simp only [Chip.raw, setAt?_of_lt id.isLt]
  rfl

lemma Shows.takeCog? (shown : raw.Shows chip) (id : Fin 8) :
    Yields (raw.putCog? id.val none) (·.Shows (chip.takeCog id).2) := by
  obtain ⟨cogs, slots, rfl⟩ := shown
  refine ⟨(chip.takeCog id).2.raw (cogs.set id none id.isLt), ?_, _, slots.set id .none, rfl⟩
  rw [RawChip.putCog?]
  simp only [Chip.raw, setAt?_of_lt id.isLt]
  rfl

/-- A cog is changed as it is in the chip that is shown. -/
lemma Shows.changeCog? (shown : raw.Shows chip) (id : Fin 8)
    {change? : RawCog τ → Option (RawCog τ)} {change : Cog τ → Cog τ}
    (changed : ∀ raw cog, raw.Shows cog → Yields (change? raw) (·.Shows (change cog))) :
    Yields (raw.changeCog? id.val change?) (·.Shows (chip.changeCog id.val change).2) := by
  rw [Chip.changeCog_eq_elim, RawChip.changeCog?]
  rcases shown.slot id with ⟨found, empty⟩ | ⟨rawCog, cog, found, there, same⟩
  · rw [found, empty]
    exact .of_eq rfl shown
  · rw [found, there]
    exact (changed _ _ same).bind fun _ changed => shown.putCog? id changed

lemma Shows.mapCogs (shown : raw.Shows chip) {change : RawCog τ → RawCog τ}
    {change' : Cog τ → Cog τ}
    (changed : ∀ raw cog, raw.Shows cog → (change raw).Shows (change' cog)) :
    (raw.mapCogs change).Shows (chip.mapCogs change') := by
  obtain ⟨cogs, slots, rfl⟩ := shown
  exact ⟨_, slots.map changed, rfl⟩

lemma Shows.markRunning? (shown : raw.Shows chip) (id : Fin 8) (running : Bool) :
    Yields (do return { raw with hub := ← raw.hub.markRunning? id.val running })
      (·.Shows { chip with hub := chip.hub.markRunning id running }) := by
  rw [shown.hub, Hub.markRunning?_raw]
  exact .of_eq rfl (shown.withHub _)

lemma Shows.stopCog? (shown : raw.Shows chip) (id : Fin 8) :
    Yields (raw.stopCog? id.val) (·.Shows (chip.stopCog id)) := by
  have detached := shown.mapCogs fun _ _ same => RawCog.Shows.detachAural same id
  exact (detached.takeCog? id).bind fun _ stopped => stopped.markRunning? id false

variable [Timebase τ]

lemma Shows.startCog? (shown : raw.Shows chip) (id : Fin 8) (engine : EngineKind)
    (program parameter : UInt32) :
    Yields (raw.startCog? id.val engine program parameter)
      (·.Shows (chip.startCog id engine program parameter)) := by
  rw [RawChip.startCog?, shown.hub]
  exact (RawCog.new?_shows ..).bind fun _ new => (shown.putCog? id new).bind fun _ started =>
    started.markRunning? id true

/-! ### Pins -/

/-- Outputs and directions are found in the registers of every cog. -/
lemma Shows.cogPins? (shown : raw.Shows chip) : raw.cogPins? = some chip.cogPins := by
  obtain ⟨cogs, slots, rfl⟩ := shown
  rw [RawChip.cogPins?, Chip.cogPins, ← Vector.foldl_toList, List.foldlM_eq_foldl]
  refine List.rel_foldl (P := fun pins? pins => pins? = some pins) ?_ rfl slots.forall₂
  rintro _ pins rfl _ _ (same | _)
  · obtain ⟨-, run, -, rfl⟩ := same
    simp only [addPins?, Cog.raw, CogBody.out?_raw, CogBody.dir?_raw]
    rfl
  · rfl

lemma Shows.refreshPins? (shown : raw.Shows chip) :
    Yields raw.refreshPins? fun refreshed =>
      refreshed.1 = chip.refreshPins.1 ∧ refreshed.2.Shows chip.refreshPins.2 := by
  refine ⟨(chip.refreshPins.1, { raw with hub := chip.refreshPins.2.hub.raw }), ?_, rfl,
    shown.withHub _⟩
  rw [RawChip.refreshPins?, shown.cogPins?, shown.hub]
  rfl

omit [Timebase τ] in
lemma Shows.drivePin? (shown : raw.Shows chip) (pin : UInt32) (floating high : Bool) :
    Yields (raw.drivePin? pin floating high) (·.Shows (chip.drivePin pin floating high)) := by
  rw [RawChip.drivePin?, shown.hub, Hub.drivePin?_raw]
  exact .of_eq rfl (shown.withHub _)

/-! ### Clock mode -/

lemma Shows.applyClockMode? (shown : raw.Shows chip) (mode : ClockMode) :
    Yields (raw.applyClockMode? mode) (·.Shows (chip.applyClockMode mode)) := by
  have frequency (raw : RawCog τ) (cog : Cog τ) (same : raw.Shows cog) :=
    same.setCoreFrequency (chip.hub.setClockMode mode).coreFrequency
  obtain ⟨cogs, slots, rfl⟩ := shown
  rw [RawChip.applyClockMode?, mode.name?_eq]
  exact .of_eq rfl ⟨_, slots.map frequency, rfl⟩

variable [Plugin τ π]

omit [Timebase τ] in
lemma Shows.tell? (shown : raw.Shows chip) : Yields raw.tell? (·.Shows chip.tell) := by
  obtain ⟨cogs, slots, rfl⟩ := shown
  have states : (chip.raw cogs).hub.pinStates? = some chip.hub.pinStates := chip.hub.pinStates?_raw
  rw [RawChip.tell?, states]
  exact .of_eq rfl ⟨cogs, slots, rfl⟩

/-- **Telling the plugins** is refused nothing. -/
theorem Shows.notifyPins? (shown : raw.Shows chip) :
    Yields raw.notifyPins? (·.Shows chip.notifyPins) := by
  rw [RawChip.notifyPins?, Chip.notifyPins_eq]
  refine shown.refreshPins?.bind fun ⟨changed, refreshed⟩ ⟨same, shown⟩ => ?_
  subst same
  dsimp only
  split
  · exact shown.tell?
  · exact .of_eq rfl shown

/-! ### Resets -/

lemma Shows.emptied (shown : raw.Shows chip) : raw.emptied.Shows chip.emptied := by
  obtain ⟨cogs, slots, rfl⟩ := shown
  exact ⟨_, .empty, rfl⟩

omit [Plugin τ π] in
lemma Shows.booted? (shown : raw.Shows chip) : Yields raw.booted? (·.Shows chip.booted) := by
  have mode : raw.hub.shared.clockMode = chip.hub.clockMode := by
    rw [shown.hub]
    rfl
  rw [RawChip.booted?, mode]
  refine (shown.applyClockMode? _).bind fun raw clocked => ?_
  let header := (chip.applyClockMode chip.hub.clockMode.withoutReset).hub.memory.header
  rw [clocked.hub, Hub.raw_memory]
  dsimp only
  rw [Hub.withMemory?_raw _ (·.buildFrame?_eq header)]
  exact (clocked.withHub _).startCog? 0 .interpreted interpreterEntry header.bootFrame.toUInt32

/-- **A reset** builds the first frame and starts the first cog, whatever was loaded. -/
theorem Shows.reset? (shown : raw.Shows chip) : Yields raw.reset? (·.Shows chip.reset) :=
  shown.emptied.notifyPins?.bind fun _ notified => notified.booted?

lemma Shows.setClockMode? (shown : raw.Shows chip) (mode : ClockMode) :
    Yields (raw.setClockMode? mode) (·.Shows (chip.setClockMode mode)) := by
  rw [RawChip.setClockMode?, Chip.setClockMode]
  split
  · rw [shown.hub]
    exact (shown.withHub (chip.hub.setClockMode mode)).reset?
  · exact shown.applyClockMode? mode

/-! ### Switching on and loading -/

omit [Plugin τ π] in
/-- A chip can be switched on, whatever is in its memory. -/
theorem switchedOn?_shows (memory : Memory) :
    Yields (switchedOn? memory : Option (RawChip τ π)) (·.Shows (.switchedOn memory)) := by
  let blank : Chip τ π :=
    { hub := .new memory
      cogs := Chip.emptySlots
      oscillator := .stopped
      time := Timebase.ofNat 0
      resetMemory := memory
      plugins := .empty
      frameBreak := .none }
  have shown : (blank.raw (.replicate 8 none)).Shows blank := ⟨_, .empty, rfl⟩
  exact shown.applyClockMode? ⟨0⟩

lemma Shows.load? (shown : raw.Shows chip) (image : ByteArray) :
    Yields (raw.load? image) (·.Shows ((chip.load image).toOption.getD chip)) := by
  rw [RawChip.load?]
  by_cases refused : image.size = 0 ∨ image.size > halfSize
  · have kept : (chip.load image).toOption.getD chip = chip := by
      rw [Chip.load]
      rcases refused with empty | large
      · rw [if_pos empty]
        rfl
      · rw [if_pos large]
        split <;> rfl
    rw [if_pos refused, kept]
    exact .of_eq rfl shown
  · rw [if_neg refused, Chip.load, if_neg (not_or.mp refused).1, if_neg (not_or.mp refused).2]
    let header := ImageHeader.ofImage image
    let crystal? := header.clockMode.crystalFrequency? header.clockFrequency
    let crystalFrequency := crystal?.getD chip.hub.crystalFrequency
    let clocked := { chip.hub with crystalFrequency }.setClockMode header.clockMode
    have trapped := clocked.withMemory?_raw fun memory =>
      (memory.clear.load image).setTraps?_eq header
    obtain ⟨cogs, slots, rfl⟩ := shown
    show Yields (clocked.raw.withMemory? _ >>= fun hub => header.clockMode.name? >>= fun _ =>
      RawChip.reset? { chip.raw cogs with hub, resetMemory := hub.shared.memory }) _
    rw [trapped, header.clockMode.name?_eq]
    exact Shows.reset? ⟨cogs, slots, rfl⟩

/-! ### What the hub has queued -/

lemma Shows.perform? (requests : List HubAction) (shown : raw.Shows chip) :
    Yields (RawChip.perform? (requests.map HubAction.raw) raw)
      (·.Shows (Chip.perform requests chip)) := by
  induction requests generalizing raw chip with
  | nil => exact .of_eq rfl shown
  | cons request requests ih =>
    cases request with
    | start cog engine program parameter =>
      exact (shown.startCog? cog engine program parameter).bind fun _ started => ih started
    | stop cog => exact (shown.stopCog? cog).bind fun _ stopped => ih stopped
    | setClockMode mode =>
      rw [List.map_cons, HubAction.raw, RawChip.perform?, Chip.perform]
      split
      · exact shown.setClockMode? mode
      · exact (shown.setClockMode? mode).bind fun _ clocked => ih clocked

/-- **Requests** are for slots that there are. -/
theorem Shows.applyActions? (shown : raw.Shows chip) :
    Yields raw.applyActions? (·.Shows chip.applyActions) := by
  have taken : RawChip.Shows { raw with hub := { raw.hub with queue := [] } }
      { chip with hub := chip.hub.takeActions.2 } := by
    rw [shown.hub]
    exact shown.withHub _
  rw [RawChip.applyActions?]
  have queue : raw.hub.queue = chip.hub.takeActions.1.map HubAction.raw := by
    rw [shown.hub]
    rfl
  rw [queue]
  exact taken.perform? _

end RawChip

end P1Chip
