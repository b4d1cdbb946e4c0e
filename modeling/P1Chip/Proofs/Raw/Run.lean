import P1Chip.Proofs.Chip.Operation
import P1Chip.Proofs.Raw.Step

/-!
# Whatever is done with a chip

A chip with plain numbers is switched on and used, with any memory and in any order of operations.
It would give up at the first register, long, slot, pin, field or table entry that it does not have,
at the first shift by too many places, and at the first cog that is loaded beyond its memory.  It
never does.  Its state is that of the chip that cannot be refused anything, so its numbers are in
range between the operations as well.

* `RawChip.after?`, `RawChip.run?` — doing one thing, and doing many.
* `RawChip.InRange` — the numbers that a chip keeps are in range.
* **`RawChip.Shows.after?`** — no operation is refused anything.
* **`RawChip.accesses_inRange`** — every chip is in range, and so is every access of its next step.
-/

namespace P1Chip

variable {τ π : Type}

/-- The cog is about to start an instruction or bytecode. -/
def RunMode.isBoundary : RunMode → Bool
  | execute | execInterpreter => true
  | _ => false

lemma RunState.isBoundary_mode (state : RunState) : state.mode.isBoundary = state.isBoundary := by
  cases state with
  | waiting wait =>
    cases wait with
    | hubTransfer size => cases size <;> rfl
    | _ => rfl
  | _ => rfl

namespace RawChip

variable (chip : RawChip τ π)

/-- Whether the cog with a number is in the middle of an instruction.  There may be no such cog. -/
def isBusy (number : Nat) : Bool :=
  match chip.cogs[number]? with
  | some (some cog) => !cog.body.run.mode.isBoundary
  | _ => false

/-- Changes the cog with a number, if there is one. -/
def inspectCog? (number : Nat) (change? : RawCog τ → Option (RawCog τ)) :
    Option (RawChip τ π) :=
  if number < 8 then chip.changeCog? number change? else some chip

/-- The chip with other plugins. -/
def withPlugins (change : PluginSet π → PluginSet π) : RawChip τ π :=
  { chip with plugins := change chip.plugins }

variable [Timebase τ]

/-- Writes a register of a cog, if there is such a register. -/
def writeRegister? (number index : Nat) (value : UInt32) : Option (RawChip τ π) :=
  if index < cogLongs then
    chip.inspectCog? number
      (·.writeRegister? chip.hub.shared.running (UInt32.ofNat index) value)
  else
    some chip

variable [Plugin τ π]

/-- Steps at most so often, until the cog with a number is about to start an instruction. -/
def stepWhileBusy? (number : Nat) : Nat → RawChip τ π → Option (Except Fault Bool × RawChip τ π)
  | 0, chip => some (.ok true, chip)
  | limit + 1, chip => do
    match ← chip.step? with
    | (.ok true, chip) =>
      if chip.isBusy number then stepWhileBusy? number limit chip else return (.ok true, chip)
    | (outcome, chip) => return (outcome, chip)

/-- The chip after one operation. -/
def after? : Operation π → Option (RawChip τ π)
  | .load image => chip.load? image
  | .reset => chip.reset?
  | .step => do return (← chip.step?).2
  | .stepInstruction cog => do return (← stepWhileBusy? cog Chip.instructionLimit chip).2
  | .setClockMode mode => chip.setClockMode? mode
  | .drivePin pin floating high => chip.drivePin? pin floating high
  | .setFrameBreak frameBreak => some { chip with frameBreak }
  | .setBreakpoint cog breakpoint? =>
    chip.inspectCog? cog fun cog => some (cog.setBreakpoint breakpoint?)
  | .writeRegister cog index value => chip.writeRegister? cog index value
  | .writeMemory size address value => do
    return { chip with hub := ← chip.hub.write? size address value }
  | .attach plugin => some (chip.withPlugins fun plugins => (plugins.attach plugin).2)
  | .remove id => some (chip.withPlugins fun plugins => (plugins.remove τ id).2)
  | .subscribeClock id => some (chip.withPlugins fun plugins => (plugins.subscribeClock id).2)
  | .subscribePins id => some (chip.withPlugins fun plugins => (plugins.subscribePins id).2)

/-- A chip that was switched on with some memory, after a list of operations. -/
def run? (memory : Memory) (operations : List (Operation π)) : Option (RawChip τ π) := do
  operations.foldlM (·.after? ·) (← switchedOn? memory)

omit [Timebase τ] [Plugin τ π] in
/-- Every number in a chip that is used as an index is in range. -/
structure InRange (chip : RawChip τ π) : Prop where
  /-- Native cogs fetch from their own memory. -/
  pc : ∀ (number : Nat) (cog : RawCog τ), chip.cogs[number]? = some (some cog) →
    cog.engine.kind = .native → cog.body.parts.pc.toNat < 512
  /-- Cogs that are loaded have a long to load, whatever else their count has been used for. -/
  loading : ∀ (number : Nat) (cog : RawCog τ), chip.cogs[number]? = some (some cog) →
    cog.body.run.mode = .loadProgram → cog.body.run.count.toNat < 496
  /-- No cog is in a state of the other engine. -/
  handled : ∀ (number : Nat) (cog : RawCog τ), chip.cogs[number]? = some (some cog) →
    cog.engine.kind.handlesMode cog.body.run.mode
  /-- Video generators listen to cogs that there are. -/
  aural : ∀ (number : Nat) (cog : RawCog τ) (source : Nat),
    chip.cogs[number]? = some (some cog) → cog.body.auralSource = some source → source < 8
  /-- Requests are for cogs that there are. -/
  requests : ∀ request ∈ chip.hub.queue, ∀ number, request.number? = some number → number < 8
  /-- The next turn on the hub is that of a cog that there is. -/
  grant : ∀ number, chip.hub.advanceRing.1 = some number → number < 8

end RawChip

/-! ## Nothing is refused -/

namespace Chip

variable (chip : Chip τ π)

lemma cog?_val (id : Fin 8) : chip.cog? id.val = chip.cogs.get id :=
  dif_pos id.isLt

lemma cog?_of_le {number : Nat} (beyond : 8 ≤ number) : chip.cog? number = none :=
  dif_neg (Nat.not_lt.mpr beyond)

lemma changeCog_of_le {number : Nat} (beyond : 8 ≤ number) (change : Cog τ → Cog τ) :
    (chip.changeCog number change).2 = chip := by
  rw [changeCog, dif_neg (Nat.not_lt.mpr beyond)]

variable [Timebase τ] [Plugin τ π]

/-- A register that there is is written in the cog that has it, if that runs. -/
lemma apply_writeRegister_eq (number index : Nat) (value : UInt32) :
    chip.apply (.writeRegister number index value)
      = if index < cogLongs then
          (chip.changeCog number fun cog => { cog with
            body := cog.body.writeRegister chip.hub.running (UInt32.ofNat index) value }).2
        else
          chip := by
  simp only [apply, writeRegister, Cog.writeRegister]
  by_cases there : number < 8
  · have changed := chip.changeCog_eq_elim ⟨number, there⟩
    dsimp only at changed
    rw [chip.cog?_val ⟨number, there⟩]
    cases standing : chip.cogs.get ⟨number, there⟩ with
    | none =>
      rw [changed, standing]
      exact (ite_self chip).symm
    | some cog =>
      by_cases inside : index < cogLongs
      · simp only [if_pos inside, Except.map, changed, standing, Option.elim_some]
      · simp only [if_neg inside, Except.map]
  · rw [chip.cog?_of_le (Nat.not_lt.mp there), chip.changeCog_of_le (Nat.not_lt.mp there), ite_self]

end Chip

namespace RawChip

variable {raw : RawChip τ π} {chip : Chip τ π}

lemma Shows.inspectCog? (shown : raw.Shows chip) (number : Nat)
    {change? : RawCog τ → Option (RawCog τ)} {change : Cog τ → Cog τ}
    (changed : ∀ raw cog, raw.Shows cog → Yields (change? raw) (·.Shows (change cog))) :
    Yields (raw.inspectCog? number change?) (·.Shows (chip.changeCog number change).2) := by
  rw [RawChip.inspectCog?]
  split
  · next inside => exact shown.changeCog? ⟨number, inside⟩ changed
  · next beyond =>
    rw [chip.changeCog_of_le (Nat.not_lt.mp beyond)]
    exact .of_eq rfl shown

lemma Shows.withPlugins (shown : raw.Shows chip) (change : PluginSet π → PluginSet π) :
    (raw.withPlugins change).Shows (chip.withPlugins change) := by
  obtain ⟨cogs, slots, rfl⟩ := shown
  exact ⟨cogs, slots, rfl⟩

lemma Shows.isBusy (shown : raw.Shows chip) (number : Nat) :
    raw.isBusy number = chip.isBusy number := by
  rw [RawChip.isBusy, Chip.isBusy]
  by_cases inside : number < 8
  · rw [chip.cog?_val ⟨number, inside⟩]
    rcases shown.slot ⟨number, inside⟩ with ⟨found, empty⟩ | ⟨rawCog, cog, found, there, same⟩
    · rw [found, empty]
    · obtain ⟨-, run, fields, rfl⟩ := same
      rw [found, there]
      dsimp only
      rw [← RunState.isBoundary_mode, ← fields.mode_eq]
      rfl
  · rw [chip.cog?_of_le (Nat.not_lt.mp inside), Vector.getElem?_eq_none (Nat.not_lt.mp inside)]

variable [Timebase τ] [Plugin τ π]

lemma Shows.writeRegister? (shown : raw.Shows chip) (number index : Nat) (value : UInt32) :
    Yields (raw.writeRegister? number index value)
      (·.Shows (chip.apply (.writeRegister number index value))) := by
  rw [RawChip.writeRegister?, Chip.apply_writeRegister_eq, shown.hub]
  split
  · exact shown.inspectCog? number fun _ _ same =>
      same.writeRegister? chip.hub.running (UInt32.ofNat index) value
  · exact .of_eq rfl shown

lemma Shows.stepWhileBusy? (shown : raw.Shows chip) (number limit : Nat) :
    Yields (RawChip.stepWhileBusy? number limit raw)
      (·.2.Shows (Chip.stepWhileBusy number limit chip).2) := by
  induction limit generalizing raw chip with
  | zero => exact .of_eq rfl shown
  | succ limit ih =>
    rw [RawChip.stepWhileBusy?, Chip.stepWhileBusy]
    refine shown.step?.bind ?_
    generalize chip.step = stepped
    rintro ⟨_, after⟩ ⟨same, shown⟩
    rcases stepped with ⟨outcome, stepped⟩
    dsimp only at same shown
    rw [same]
    rcases outcome with fault | _ | _
    · exact .of_eq rfl shown
    · exact .of_eq rfl shown
    · dsimp only
      rw [shown.isBusy]
      split
      · exact ih shown
      · exact .of_eq rfl shown

/-- **No operation** is refused anything. -/
theorem Shows.after? (shown : raw.Shows chip) (operation : Operation π) :
    Yields (raw.after? operation) (·.Shows (chip.apply operation)) := by
  cases operation with
  | load image => exact shown.load? image
  | reset => exact shown.reset?
  | step => exact shown.step?.bind fun _ ⟨_, stepped⟩ => .of_eq rfl stepped
  | stepInstruction cog =>
    exact (shown.stepWhileBusy? cog Chip.instructionLimit).bind fun _ stepped => .of_eq rfl stepped
  | setClockMode mode => exact shown.setClockMode? mode
  | drivePin pin floating high => exact shown.drivePin? pin floating high
  | setFrameBreak frameBreak =>
    obtain ⟨cogs, slots, rfl⟩ := shown
    exact .of_eq rfl ⟨cogs, slots, rfl⟩
  | setBreakpoint cog breakpoint? =>
    exact shown.inspectCog? cog fun _ _ same => .of_eq rfl (same.setBreakpoint breakpoint?)
  | writeRegister cog index value => exact shown.writeRegister? cog index value
  | writeMemory size address value =>
    rw [RawChip.after?, shown.hub, Hub.write?_raw]
    exact .of_eq rfl (shown.withHub _)
  | attach plugin => exact .of_eq rfl (shown.withPlugins _)
  | remove id => exact .of_eq rfl (shown.withPlugins _)
  | subscribeClock id => exact .of_eq rfl (shown.withPlugins _)
  | subscribePins id => exact .of_eq rfl (shown.withPlugins _)

/-- **No list of operations** is refused anything, whatever is in memory. -/
theorem run?_shows (memory : Memory) (operations : List (Operation π)) :
    Yields (run? memory operations : Option (RawChip τ π))
      (·.Shows ((Chip.switchedOn memory).run operations)) := by
  have goesOn (operations : List (Operation π)) (raw : RawChip τ π) (chip : Chip τ π)
      (shown : raw.Shows chip) :
      Yields (operations.foldlM (·.after? ·) raw) (·.Shows (chip.run operations)) := by
    induction operations generalizing raw chip with
    | nil => exact .of_eq rfl shown
    | cons operation operations ih =>
      exact (shown.after? operation).bind fun _ applied => ih _ _ applied
  exact (switchedOn?_shows memory).bind fun raw shown => goesOn operations raw _ shown

/-! ## Everything is in range -/

omit [Timebase τ] [Plugin τ π] in
/-- What stands in a slot shows a cog. -/
lemma Shows.cog (shown : raw.Shows chip) {number : Nat} {rawCog : RawCog τ}
    (there : raw.cogs[number]? = some (some rawCog)) : ∃ cog, rawCog.Shows cog := by
  obtain ⟨inside, -⟩ := Vector.getElem?_eq_some_iff.mp there
  rcases shown.slot ⟨number, inside⟩ with ⟨found, -⟩ | ⟨_, cog, found, -, same⟩
  · cases found.symm.trans there
  · cases found.symm.trans there
    exact ⟨cog, same⟩

omit [Timebase τ] [Plugin τ π] in
/-- **The numbers of a chip** are in range if it shows one. -/
theorem Shows.inRange (shown : raw.Shows chip) : raw.InRange where
  pc number rawCog there native := by
    obtain ⟨cog, inRange, run, -, rfl⟩ := shown.cog there
    exact inRange.pc native
  loading number rawCog there loads := by
    obtain ⟨cog, -, run, fields, rfl⟩ := shown.cog there
    exact fields.count_lt loads
  handled number rawCog there := by
    obtain ⟨cog, inRange, run, fields, rfl⟩ := shown.cog there
    exact fields.handlesMode inRange.state
  aural number rawCog source there listens := by
    obtain ⟨cog, -, run, -, rfl⟩ := shown.cog there
    obtain ⟨id, -, rfl⟩ := Option.map_eq_some_iff.mp listens
    exact id.isLt
  requests request waits number named := by
    rw [shown.hub] at waits
    exact Hub.number_lt_of_mem_queue _ waits named
  grant number granted := by
    rw [shown.hub, Hub.advanceRing_raw] at granted
    obtain ⟨id, -, rfl⟩ := Option.map_eq_some_iff.mp granted
    exact id.isLt

/-- **Whatever is done with a chip**, with whatever memory and programs, nothing that is looked up,
written or shifted in the course of it is out of range.  Afterwards all numbers that the chip keeps
are in range, its next step goes through as well, and it is the chip that cannot be refused
anything. -/
theorem accesses_inRange (memory : Memory) (operations : List (Operation π)) :
    let chip : Chip τ π := (Chip.switchedOn memory).run operations
    ∃ raw : RawChip τ π, run? memory operations = some raw ∧ raw.Shows chip ∧ raw.InRange ∧
      ∃ next, raw.step? = some (chip.step.1, next) ∧ next.Shows chip.step.2 := by
  intro chip
  obtain ⟨raw, ran, shown⟩ := run?_shows (τ := τ) memory operations
  obtain ⟨⟨outcome, next⟩, stepped, same, shown'⟩ := shown.step?
  refine ⟨raw, ran, shown, shown.inRange, next, ?_, shown'⟩
  rw [stepped]
  exact congrArg (fun outcome => some (outcome, next)) same

end RawChip

end P1Chip
