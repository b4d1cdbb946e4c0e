import P1Chip.Proofs.Cog.CountWait
import P1Chip.Proofs.Cog.Registers
import P1Chip.Proofs.Cog.Step

/-!
# Loading a program

A cog that was started copies its program out of hub memory, one long at each of its turns on the
hub, and boots in the turn in which it gets the last one.  Until then it executes nothing: its
clocks are for its counters only, which have nothing to count.  So when the program is there, the
special registers still are what they were at the start, whatever has happened to the cog in
between.

* `Memory.HoldsProgram` — the longs of a program in hub memory.
* `CogBody.IsFresh` — the special registers of a new cog.
* `CogBody.HasCopied` — some longs of a program have been copied.
* `Cog.Copies` — a cog that is about to copy the next one.
* **`Cog.Copies.next`** — what happens to it between its turns does not matter.
* **`Cog.Copies.hubAccess`** — at its turn it gets the next long.
* `Cog.HasLoaded` — a cog that has just got all of them.
* **`Cog.loads_program`** — a new cog after any events.
-/

namespace P1Chip

variable {τ : Type}

/-! ## Events and programs -/

namespace VideoEvent

/-- A user writes to a register of the cog. -/
def isWrite : VideoEvent τ → Bool
  | .writeRegister .. => true
  | _ => false

/-- The hub at a turn of the cog, if the event is one. -/
def turn? : VideoEvent τ → Option Hub
  | .hubAccess hub => some hub
  | _ => none

end VideoEvent

/-- The longs of a program stand in hub memory, one behind the other.  Addresses go around. -/
def Memory.HoldsProgram (memory : Memory) (program : UInt32)
    (longs : Fin programLongs → UInt32) : Prop :=
  ∀ i : Fin programLongs, memory.readLong (program + 4 * .ofNat i) = longs i

/-- What a cog does when it has got its program. -/
def EngineKind.bootState : EngineKind → RunState
  | .native => .execute
  | .interpreted => .booting SpinFrames.bootClocks

/-! ## Special registers -/

/-- The registers of a counter are zero. -/
structure Counter.IsZero (counter : Counter) : Prop where
  control : counter.control = 0
  frequency : counter.frequency = 0
  phase : counter.phase = 0

/-- Without a frequency there is nothing to count. -/
lemma Counter.IsZero.tick {counter : Counter} (zero : counter.IsZero) (pins : UInt64) :
    (counter.tick pins).IsZero := by
  refine ⟨zero.control, zero.frequency, ?_⟩
  simp only [Counter.tick, nextPhase, zero.frequency, zero.phase, UInt32.add_zero, ite_self]

namespace CogBody

/-- The special registers are those of a new cog that was given a parameter. -/
structure IsFresh (parameter : UInt32) (body : CogBody τ) : Prop where
  cells : ∀ address : UInt32, programLongs ≤ address.toNat % 512 →
    body.cell address
      = if address.toNat % 512 = SpecialRegister.par.address.toNat then parameter else 0
  counterA : body.counterA.IsZero
  counterB : body.counterB.IsZero
  video : Video.off.SameSetup body.video

namespace IsFresh

variable {parameter : UInt32} {body : CogBody τ}

/-- What is below the special registers does not matter. -/
lemma setCell (fresh : body.IsFresh parameter) {address : UInt32}
    (below : address.toNat % 512 < programLongs) (value : UInt32) :
    (body.setCell address value).IsFresh parameter where
  cells := by
    intro other above
    rw [cell_setCell_of_ne body (Nat.ne_of_gt (Nat.lt_of_lt_of_le below above))]
    exact fresh.cells other above
  counterA := fresh.counterA
  counterB := fresh.counterB
  video := fresh.video

/-- A program reads zeros from them, but for the parameter and for what the hub shows. -/
lemma readRegister_eq (fresh : body.IsFresh parameter) (hub : Hub) {register : SpecialRegister}
    (writable : register.isReadOnly = false) :
    body.readRegister hub register.address = if register = .par then parameter else 0 := by
  have cells := fresh.cells register.address
  rw [CogBody.readRegister, SpecialRegister.at?_address]
  cases register with
  | cnt => cases writable
  | ina => cases writable
  | inb => cases writable
  | ctra => exact fresh.counterA.control
  | ctrb => exact fresh.counterB.control
  | frqa => exact fresh.counterA.frequency
  | frqb => exact fresh.counterB.frequency
  | phsa => exact fresh.counterA.phase
  | phsb => exact fresh.counterB.phase
  | vcfg => exact fresh.video.config
  | vscl => exact fresh.video.scale
  | _ => exact cells (by decide)

end IsFresh

lemma isFresh_new [Timebase τ] (id program parameter coreFrequency : UInt32) :
    (new id program parameter coreFrequency : CogBody τ).IsFresh parameter where
  cells := by
    intro address above
    have bound : address.toNat % 512 < cogLongs := Nat.mod_lt _ (by decide)
    show ((Vector.replicate cogLongs 0).set 0x1F0 parameter)[address.toNat % 512] = _
    rw [Vector.getElem_set, Vector.getElem_replicate]
    exact if_congr eq_comm rfl rfl
  counterA := ⟨rfl, rfl, rfl⟩
  counterB := ⟨rfl, rfl, rfl⟩
  video := .refl

/-! ## Longs that were copied -/

/-- The first longs of a program have been copied, and nothing else has happened to the registers
of a new cog. -/
structure HasCopied (program parameter : UInt32) (longs : Fin programLongs → UInt32)
    (count : Nat) (body : CogBody τ) : Prop where
  copied : ∀ i : Fin programLongs, i.val < count → body.cell (.ofNat i) = longs i
  address : body.programAddress = program + 4 * .ofNat count
  fresh : body.IsFresh parameter

lemma HasCopied.withNext {program parameter : UInt32} {longs : Fin programLongs → UInt32}
    {body : CogBody τ} {position : Fin programLongs} {hub : Hub}
    (h : body.HasCopied program parameter longs position)
    (holds : hub.memory.HoldsProgram program longs) :
    (body.withNext hub position).HasCopied program parameter longs (position + 1) where
  copied := by
    intro i within
    rcases Nat.lt_succ_iff_lt_or_eq.mp within with before | same
    · have apart : (UInt32.ofNat i).toNat % 512 ≠ (UInt32.ofNat position).toNat % 512 := by
        rw [toNat_position, toNat_position]
        exact Nat.ne_of_lt before
      exact (cell_setCell_of_ne body apart _).trans (h.copied i before)
    · cases Fin.ext same
      refine (cell_setCell body _ _).trans ?_
      rw [h.address]
      exact holds position
  address := by
    show body.programAddress + 4 = _
    rw [h.address, UInt32.ofNat_add]
    grind
  fresh :=
    { h.fresh.setCell (by rw [toNat_position]; exact position.isLt)
        (hub.memory.readLong body.programAddress) with }

end CogBody

variable [Timebase τ]

/-! ## Cogs that copy -/

namespace Cog

variable {cog : Cog τ} {kind : EngineKind} {program parameter : UInt32}
  {longs : Fin programLongs → UInt32} {position : Fin programLongs}

/-- A cog of some kind that is about to copy the long at `position` of its program. -/
structure Copies (kind : EngineKind) (program parameter : UInt32)
    (longs : Fin programLongs → UInt32) (position : Fin programLongs) (cog : Cog τ) : Prop where
  kind : cog.engine.kind = kind
  state : cog.body.state = .loadProgram position
  body : cog.body.HasCopied program parameter longs position

lemma step_of_loading (loading : cog.body.state = .loadProgram position) (hub : Hub)
    (frameBreak : FrameBreak) : cog.step hub frameBreak = cog.endClock ⟨[], hub, frameBreak⟩ := by
  simp only [step, stepEngine_of_loading loading]
  rfl

namespace Copies

/-! ### Between its turns -/

omit [Timebase τ] in
lemma endClock (copies : cog.Copies kind program parameter longs position) (cycle : Cycle τ) :
    (cog.endClock cycle).2.1.Copies kind program parameter longs position := by
  have ticked : Copies kind program parameter longs position
      { cog with body := cog.body.tickCounters cycle.hub.input } :=
    { copies with
      body := { copies.body with
        fresh := { copies.body.fresh with
          counterA := copies.body.fresh.counterA.tick _
          counterB := copies.body.fresh.counterB.tick _ } } }
  simp only [Cog.endClock, checkBreaks]
  split
  · exact ⟨ticked.kind, ticked.state, { ticked.body with fresh := { ticked.body.fresh with } }⟩
  · exact ticked

omit [Timebase τ] in
/-- What no register shows may change. -/
lemma unseen (copies : cog.Copies kind program parameter longs position) {video : Video}
    (same : cog.body.video.SameSetup video) (plls : PllPair τ) (frameFlag : FrameFlag)
    (breakpoint? : Option UInt32) :
    Copies kind program parameter longs position
      { cog with body := { cog.body with video, plls, frameFlag, breakpoint? } } :=
  ⟨copies.kind, copies.state,
    { copies.body with
      fresh := { copies.body.fresh with video := copies.body.fresh.video.trans same } }⟩

lemma frameComplete (copies : cog.Copies kind program parameter longs position)
    (running : UInt8) :
    (cog.frameComplete running).Copies kind program parameter longs position := by
  rw [frameComplete_of_busy fun waits => by cases copies.state.symm.trans waits]
  exact copies.unseen .refl _ _ _

/-- **Between its turns** nothing happens to it that matters. -/
theorem next (copies : cog.Copies kind program parameter longs position) {event : VideoEvent τ}
    (unwritten : event.isWrite = false) (noTurn : event.turn? = none) :
    (cog.next event).Copies kind program parameter longs position := by
  cases event with
  | writeRegister hub index value => cases unwritten
  | hubAccess hub => cases noTurn
  | step hub frameBreak =>
    rw [Cog.next, step_of_loading copies.state]
    exact copies.endClock _
  | pixelEdge running level =>
    have clocked : (cog.clocked (.pixelEdge running level)).Copies kind program parameter longs
        position := copies.unseen (.colorEdge ..) _ _ _
    simp only [Cog.next]
    split
    · exact clocked.frameComplete running
    · exact clocked
  | carrierEdge level => exact copies.unseen (.carrierEdge ..) _ _ _
  | auralEdge level => exact copies.unseen (.auralEdge ..) _ _ _
  | detachAural stopped => exact copies.unseen (.detachAural ..) _ _ _
  | loops plls => exact copies.unseen .refl plls _ _
  | setBreakpoint breakpoint? => exact copies.unseen .refl _ _ breakpoint?

end Copies

/-! ### At its turns -/

omit [Timebase τ] in
lemma Copies.counted (copies : cog.Copies kind program parameter longs position) :
    { cog.body with hubAccesses := cog.body.hubAccesses + 1 }.HasCopied program parameter longs
      position :=
  { copies.body with fresh := { copies.body.fresh with } }

/-- **At its turn** it gets the next long. -/
theorem Copies.hubAccess (copies : cog.Copies kind program parameter longs position) {hub : Hub}
    (holds : hub.memory.HoldsProgram program longs) (more : position.val + 1 < programLongs) :
    (cog.hubAccess hub).1.Copies kind program parameter longs ⟨position.val + 1, more⟩ ∧
      (cog.hubAccess hub).2 = hub := by
  have got := copies.counted.withNext holds
  rw [hubAccess_of_loading copies.state, dif_pos more]
  exact ⟨⟨copies.kind, rfl, { got with fresh := { got.fresh with } }⟩, rfl⟩

/-- A cog that has just got its program, and was given a parameter.  The interpreter has two
registers of its own in the program. -/
structure HasLoaded (kind : EngineKind) (parameter : UInt32) (longs : Fin programLongs → UInt32)
    (cog : Cog τ) : Prop where
  state : cog.body.state = kind.bootState
  program : ∀ (hub : Hub) (i : Fin programLongs),
    (kind = .interpreted → i.val ≠ 0x1E9 ∧ i.val ≠ 0x1EF) →
      cog.readRegister hub i = .ok (longs i)
  special : ∀ (hub : Hub) (register : SpecialRegister), register.isReadOnly = false →
    cog.readRegister hub register.address.toNat
      = .ok (if register = .par then parameter else 0)

omit [Timebase τ] in
/-- All of this can be told from cog memory and from the parts that are not memory. -/
lemma hasLoaded_of_cells {body : CogBody τ} {engine : Engine} (state : body.state = kind.bootState)
    (cells : ∀ i : Fin programLongs, (kind = .interpreted → i.val ≠ 0x1E9 ∧ i.val ≠ 0x1EF) →
      body.cell (.ofNat i) = longs i)
    (fresh : body.IsFresh parameter) : HasLoaded kind parameter longs ⟨body, engine⟩ where
  state := state
  program := by
    intro hub i own
    have below : i.val < 496 := i.isLt
    have plain : SpecialRegister.at? (.ofNat i) = none := by
      rw [SpecialRegister.at?, CogBody.toNat_position, if_neg (by omega)]
    rw [readRegister, if_pos (show i.val < 512 by omega), CogBody.readRegister, plain]
    exact congrArg _ (cells i own)
  special := by
    intro hub register writable
    have inside : register.address.toNat < cogLongs := by
      cases register <;> decide
    rw [readRegister, if_pos inside, UInt32.ofNat_toNat]
    exact congrArg _ (fresh.readRegister_eq hub writable)

omit [Timebase τ] in
/-- Booting leaves the program and the special registers alone. -/
lemma hasLoaded_boot {body : CogBody τ} {engine : Engine}
    (h : body.HasCopied program parameter longs programLongs) (hub : Hub) :
    (boot ⟨body, engine⟩ hub).1.HasLoaded engine.kind parameter longs := by
  cases engine with
  | native native =>
    exact hasLoaded_of_cells rfl (fun i _ => h.copied i i.isLt) { h.fresh with }
  | interpreted frames =>
    refine hasLoaded_of_cells rfl (fun i own => ?_) { (h.fresh.setCell ?_ _).setCell ?_ _ with }
    · obtain ⟨notId, notFrame⟩ := own rfl
      have place := CogBody.toNat_position i
      exact (CogBody.cell_setCell_of_ne _ (by rw [place]; exact notFrame) _).trans
        ((CogBody.cell_setCell_of_ne _ (by rw [place]; exact notId) _).trans (h.copied i i.isLt))
    · decide
    · decide

/-- **The last turn** boots it. -/
theorem Copies.hubAccess_last (copies : cog.Copies kind program parameter longs position)
    {hub : Hub} (holds : hub.memory.HoldsProgram program longs)
    (last : position.val + 1 = programLongs) :
    (cog.hubAccess hub).1.HasLoaded kind parameter longs := by
  have got := copies.counted.withNext holds
  rw [last] at got
  rw [hubAccess_of_loading copies.state, dif_neg (Nat.not_lt.mpr (Nat.le_of_eq last.symm)),
    ← copies.kind]
  exact hasLoaded_boot got hub

/-! ## Events -/

/-- **A cog that copies after some events** has got as many more longs as it had turns. -/
theorem Copies.nextAll (copies : cog.Copies kind program parameter longs position)
    {events : List (VideoEvent τ)} (unwritten : ∀ event ∈ events, event.isWrite = false)
    (holds : ∀ hub ∈ events.filterMap VideoEvent.turn?, hub.memory.HoldsProgram program longs)
    (few : position.val + (events.filterMap VideoEvent.turn?).length < programLongs) :
    (cog.nextAll events).Copies kind program parameter longs
      ⟨position.val + (events.filterMap VideoEvent.turn?).length, few⟩ := by
  induction events generalizing cog position with
  | nil => exact copies
  | cons event events ih =>
    rw [List.forall_mem_cons] at unwritten
    cases turn : event.turn? with
    | none =>
      simp only [List.filterMap_cons_none turn] at holds few ⊢
      exact ih (copies.next unwritten.1 turn) unwritten.2 holds few
    | some hub =>
      obtain rfl : event = .hubAccess hub := by
        cases event <;> cases turn
        rfl
      simp only [List.filterMap_cons_some turn, List.forall_mem_cons, List.length_cons]
        at holds few ⊢
      have next := (copies.hubAccess holds.1 (by omega)).1
      have rest := ih next unwritten.2 holds.2 (by dsimp only; omega)
      simp only [Nat.add_assoc, Nat.add_comm 1] at rest
      exact rest

/-- A cog that loads: in a clock it executes nothing and leaves the hub alone, and so it does in any
turn but the last one. -/
structure IsLoading (position : Fin programLongs) (cog : Cog τ) : Prop where
  state : cog.body.state = .loadProgram position
  engine : ∀ hub, cog.stepEngine hub = (.ok false, cog, hub)
  step : ∀ hub frameBreak, (cog.step hub frameBreak).2.2 = hub
  turn : position.val + 1 < programLongs → ∀ hub, (cog.hubAccess hub).2 = hub

lemma isLoading_of_state (loading : cog.body.state = .loadProgram position) :
    cog.IsLoading position where
  state := loading
  engine := stepEngine_of_loading loading
  step hub frameBreak := by
    rw [step_of_loading loading]
    rfl
  turn more hub := by
    rw [hubAccess_of_loading loading, dif_pos more]

/-! ## A new cog -/

lemma copies_new (id : UInt32) (kind : EngineKind) (program parameter coreFrequency : UInt32)
    (longs : Fin programLongs → UInt32) :
    (new id kind program parameter coreFrequency : Cog τ).Copies kind program parameter longs
      0 where
  kind := by cases kind <;> rfl
  state := rfl
  body :=
    { copied := fun _ none => absurd none (Nat.not_lt_zero _)
      address := (UInt32.add_zero program).symm
      fresh := CogBody.isFresh_new id program parameter coreFrequency }

/-- **A new cog loads its program**, whatever happens to it, as long as no user writes to its
registers and the program in hub memory stays.  Before its last turn it is loading, with a long for
each turn that it had, and in the last one it gets the whole program. -/
theorem loads_program (id : UInt32) (kind : EngineKind) (program parameter coreFrequency : UInt32)
    (longs : Fin programLongs → UInt32) {events : List (VideoEvent τ)}
    (unwritten : ∀ event ∈ events, event.isWrite = false)
    (holds : ∀ hub ∈ events.filterMap VideoEvent.turn?, hub.memory.HoldsProgram program longs)
    (few : (events.filterMap VideoEvent.turn?).length < programLongs) :
    let cog := (new id kind program parameter coreFrequency : Cog τ).nextAll events
    cog.IsLoading ⟨_, few⟩ ∧
      ((events.filterMap VideoEvent.turn?).length + 1 = programLongs →
        ∀ hub : Hub, hub.memory.HoldsProgram program longs →
          (cog.hubAccess hub).1.HasLoaded kind parameter longs) := by
  intro cog
  have start := copies_new (τ := τ) id kind program parameter coreFrequency longs
  have copies := start.nextAll unwritten holds (by rwa [Fin.val_zero, Nat.zero_add])
  simp only [Fin.val_zero, Nat.zero_add] at copies
  exact ⟨isLoading_of_state copies.state, fun last hub there => copies.hubAccess_last there last⟩

end Cog

end P1Chip
