import P1Chip.Proofs.Cog.Arithmetic
import P1Chip.Proofs.Spin.Action

/-!
# Handing over a video frame

A cog that executes the wait for its video generator holds a frame until the generator takes it.
This file says what a clock or a turn on the hub may do to the frame that a cog holds and to the
generator, and shows that both engines keep to it.

* `VideoFrame` — what a cog hands to its generator.
* `Video.Retuned` — all that can happen to a generator between the edges of its pixel clock, but
  for taking a frame.
* `Cog.held`, `Cog.offered` — the frame that a cog holds, and the one that is taken if the
  generator is asked now.
* `Cog.Handover` — frames are kept.
* **`Native.handover_step`**, **`SpinMachine.handover_step`** — a clock of either engine keeps
  them.
-/

namespace P1Chip

open Relation

/-- What a cog hands to its video generator. -/
structure VideoFrame where
  colors : UInt32
  pixels : UInt32
deriving DecidableEq, Repr, Inhabited

/-! ## The generator -/

namespace Video

/-- What can happen to a generator besides frames: its registers are written, and its carriers have
edges or are lost. -/
inductive Retune (video : Video) : Video → Prop
  | config (value : UInt32) (running : UInt8) : Retune video (video.setConfig value running)
  | scale (value : UInt32) : Retune video (video.setScale value)
  | carrier (level : Bool) : Retune video (video.carrierEdge level)
  | aural (level : Bool) : Retune video (video.auralEdge level)
  | detach (stopped : Fin 8) : Retune video (video.detachAural stopped)

def Retuned : Video → Video → Prop :=
  ReflTransGen Retune

/-- The generator after taking a frame, if there is one. -/
def supplied (video : Video) : Option VideoFrame → Video
  | some frame => video.feed frame.colors frame.pixels
  | none => video

/-- The number of frames that were begun and not finished. -/
def openFrames (video : Video) : Nat :=
  if video.isReady then 0 else 1

/-- Both generators are at the same point of the same frame. -/
structure SameFrame (before after : Video) : Prop where
  frameClocks : after.frameClocks = before.frameClocks
  colors : after.colors = before.colors
  pixels : after.pixels = before.pixels
  frames : after.frames = before.frames

lemma SameFrame.trans {first second third : Video} (h : SameFrame first second)
    (rest : SameFrame second third) : SameFrame first third :=
  ⟨rest.frameClocks.trans h.frameClocks, rest.colors.trans h.colors, rest.pixels.trans h.pixels,
    rest.frames.trans h.frames⟩

lemma SameFrame.openFrames_eq {before after : Video} (h : SameFrame before after) :
    after.openFrames = before.openFrames := by
  rw [openFrames, openFrames, isReady, isReady, h.frameClocks]

lemma sameFrame_mix (video : Video) : SameFrame video video.mix := by
  simp only [mix]
  split <;> exact ⟨rfl, rfl, rfl, rfl⟩

lemma Retune.sameFrame {before after : Video} (h : Retune before after) :
    SameFrame before after := by
  cases h with
  | config value running => exact ⟨rfl, rfl, rfl, rfl⟩
  | scale value =>
    simp only [setScale]
    split <;> exact ⟨rfl, rfl, rfl, rfl⟩
  | carrier level =>
    have mixed := sameFrame_mix { before with carrier := level }
    exact ⟨mixed.frameClocks, mixed.colors, mixed.pixels, mixed.frames⟩
  | aural level =>
    have mixed := sameFrame_mix { before with aural := level }
    exact ⟨mixed.frameClocks, mixed.colors, mixed.pixels, mixed.frames⟩
  | detach stopped =>
    simp only [detachAural]
    split <;> exact ⟨rfl, rfl, rfl, rfl⟩

lemma Retuned.sameFrame {before after : Video} (h : Retuned before after) :
    SameFrame before after := by
  induction h with
  | refl => exact ⟨rfl, rfl, rfl, rfl⟩
  | tail _ last ih => exact ih.trans last.sameFrame

lemma isReady_feed (video : Video) (colors pixels : UInt32) :
    (video.feed colors pixels).isReady = false := by
  have never : orFull (video.scale &&& 0xFFF) 0x1000 ≠ 0 := by
    simp only [orFull]
    split
    · decide
    · next count => exact count
  exact beq_eq_false_iff_ne.mpr never

lemma clockPixel_frame (video : Video) :
    video.clockPixel.frameClocks = video.frameClocks ∧ video.clockPixel.frames = video.frames := by
  have shifted : video.shiftPixel.frameClocks = video.frameClocks
      ∧ video.shiftPixel.frames = video.frames := by
    simp only [shiftPixel]
    split <;> exact ⟨rfl, rfl⟩
  have shown : ∀ video : Video, video.showColor.frameClocks = video.frameClocks
      ∧ video.showColor.frames = video.frames := by
    intro video
    simp only [showColor]
    split
    · exact ⟨rfl, rfl⟩
    · exact ⟨rfl, rfl⟩
    · exact ⟨(sameFrame_mix _).frameClocks, (sameFrame_mix _).frames⟩
    · exact ⟨(sameFrame_mix _).frameClocks, (sameFrame_mix _).frames⟩
  simp only [clockPixel]
  split
  · exact ⟨rfl, rfl⟩
  · exact ⟨(shown _).1.trans shifted.1, (shown _).2.trans shifted.2⟩

/-- What an edge of the pixel clock says it finished was open before, and is counted. -/
lemma colorEdge_frame (video : Video) (level : Bool) :
    (video.colorEdge level).2.openFrames + (video.colorEdge level).1.toNat = video.openFrames
      ∧ (video.colorEdge level).2.frames
        = video.frames + if (video.colorEdge level).1 then 1 else 0 := by
  simp only [colorEdge]
  split
  · next counts =>
    have busy : (video.frameClocks == 0) = false := by
      rw [Bool.and_eq_true, Bool.not_eq_true'] at counts
      exact counts.2
    obtain ⟨clocks, frames⟩ := clockPixel_frame
      { video with
        frameClocks := video.frameClocks - 1
        frames := if video.frameClocks - 1 == 0 then video.frames + 1 else video.frames }
    simp only [openFrames, isReady, clocks, frames, busy]
    cases video.frameClocks - 1 == 0
    · exact ⟨rfl, (UInt64.add_zero _).symm⟩
    · exact ⟨rfl, rfl⟩
  · exact ⟨rfl, (UInt64.add_zero _).symm⟩

end Video

/-! ## Frames that a cog holds -/

/-- The cog holds a frame and cannot go on before its generator takes it. -/
def RunState.holdsFrame : RunState → Bool
  | settling _ (some .video) | waiting .video => true
  | _ => false

lemma RunState.holdsFrame_settling (left left' : Nat) (next : Option Wait) :
    (settling left next).holdsFrame = (settling left' next).holdsFrame := by
  rcases next with _ | wait
  · rfl
  · cases wait <;> rfl

/-- The operands of the wait that the engine has started last. -/
def Engine.operands : Engine → VideoFrame
  | native engine => ⟨engine.pending.d, engine.pending.s⟩
  | interpreted frames => ⟨frames.wait.colors, frames.wait.pixels⟩

variable {τ : Type}

namespace Cog

/-- The frame that the cog holds, if any. -/
def held (cog : Cog τ) : Option VideoFrame :=
  if cog.body.state.holdsFrame then some cog.engine.operands else none

/-- The frame that the generator takes if it is asked now. -/
def offered (cog : Cog τ) : Option VideoFrame :=
  if cog.body.state = .waiting .video ∧ cog.body.video.isReady then some cog.engine.operands
  else none

lemma offered_of_ne {cog : Cog τ} (other : cog.body.state ≠ .waiting .video) :
    cog.offered = none :=
  if_neg fun h => other h.1

end Cog

/-- The frame that a native instruction issues: it has to be the wait for the video generator, and
its condition has to hold. -/
def Native.issued (native : Native) (body : CogBody τ) (hub : Hub) : Option VideoFrame :=
  let instruction := native.instruction
  if instruction.opcode = .waitvid ∧ instruction.condition.holds native.zero native.carry then
    some {
      colors := body.readRegister hub instruction.destination
      pixels :=
        if instruction.immediate then instruction.source
        else body.readRegister hub instruction.source }
  else
    none

/-- The frame that a bytecode issues: pixels are on top of the stack, and colors below. -/
def SpinMachine.issued (machine : SpinMachine τ) : Option VideoFrame :=
  if machine.code = waitVideoCode then
    some { colors := machine.pop.2.pop.1, pixels := machine.pop.1 }
  else
    none

/-! ## Frames that are kept -/

namespace Cog

/-- Frames are kept: what a cog held and what it issues is what it hands over and what it still
holds, in this order.  It hands over its own frame, and only if the generator is ready; besides,
the generator is only retuned.  A cog that waits goes on if and only if it hands over its frame. -/
structure Handover (before after : Cog τ) (issued fed : Option VideoFrame) : Prop where
  generator : Video.Retuned (before.body.video.supplied fed) after.body.video
  ready : ∀ frame ∈ fed, before.body.video.isReady
  own : ∀ frame ∈ fed, before.body.state = .waiting .video ∧ frame = before.engine.operands
  waits : before.body.state = .waiting .video →
    (after.body.state = .waiting .video ↔ fed = none)
  kept : before.held.toList ++ issued.toList = fed.toList ++ after.held.toList

namespace Handover

variable {before between after : Cog τ} {issued fed : Option VideoFrame}

/-- A cog that has nothing to do with frames, or goes on holding its frame. -/
lemma quiet (generator : Video.Retuned before.body.video after.body.video)
    (held : after.held = before.held)
    (waits : before.body.state = .waiting .video → after.body.state = .waiting .video) :
    Handover before after none none where
  generator := generator
  ready := nofun
  own := nofun
  waits := fun waiting => ⟨fun _ => rfl, fun _ => waits waiting⟩
  kept := by rw [held, Option.toList_none, List.append_nil, List.nil_append]

/-- What happens to a cog afterwards makes no difference if it is not about frames. -/
lemma tail (h : Handover before between issued fed)
    (generator : Video.Retuned between.body.video after.body.video)
    (state : after.body.state = between.body.state) (engine : after.engine = between.engine) :
    Handover before after issued fed where
  generator := ReflTransGen.trans h.generator generator
  ready := h.ready
  own := h.own
  waits := by rw [state]; exact h.waits
  kept := by
    have held : after.held = between.held := by rw [held, held, state, engine]
    rw [held]
    exact h.kept

lemma head (h : Handover between after issued fed)
    (video : between.body.video = before.body.video)
    (state : between.body.state = before.body.state) (engine : between.engine = before.engine) :
    Handover before after issued fed where
  generator := video ▸ h.generator
  ready := video ▸ h.ready
  own := by rw [← state, ← engine]; exact h.own
  waits := by rw [← state]; exact h.waits
  kept := by
    have held : before.held = between.held := by rw [held, held, state, engine]
    rw [held]
    exact h.kept

lemma start (generator : Video.Retuned before.body.video after.body.video)
    (free : before.body.state.holdsFrame = false) (holds : after.held = issued) :
    Handover before after issued none where
  generator := generator
  ready := nofun
  own := nofun
  waits := fun waiting => by
    rw [waiting] at free
    cases free
  kept := by
    rw [holds, held, free]
    rfl

lemma free (generator : Video.Retuned before.body.video after.body.video)
    (free : before.body.state.holdsFrame = false) (free' : after.body.state.holdsFrame = false) :
    Handover before after none none := by
  refine .start generator free ?_
  rw [held, free']
  rfl

lemma taken (waiting : before.body.state = .waiting .video) (ready : before.body.video.isReady)
    (generator : Video.Retuned (before.body.video.supplied before.engine.operands) after.body.video)
    (free : after.body.state.holdsFrame = false) :
    Handover before after none before.engine.operands where
  generator := generator
  ready := fun _ _ => ready
  own := fun _ own => ⟨waiting, (Option.mem_some.mp own).symm⟩
  waits := fun _ => by
    refine ⟨fun still => ?_, nofun⟩
    rw [still] at free
    cases free
  kept := by
    rw [held, held, waiting, free]
    rfl

end Handover

end Cog

/-! ## Registers -/

variable [Timebase τ]

lemma CogBody.retuned_writeRegister (body : CogBody τ) (running : UInt8) (address value : UInt32) :
    Video.Retuned body.video (body.writeRegister running address value).video := by
  simp only [writeRegister]
  split
  all_goals first
    | exact .refl
    | exact .single (.config value running)
    | exact .single (.scale value)

/-! ## The native engine -/

namespace Native

lemma retuned_writeBack (native : Native) (body : CogBody τ) (running : UInt8) :
    Video.Retuned body.video (native.writeBack body running).2.video := by
  simp only [writeBack]
  split
  · exact body.retuned_writeRegister running _ _
  · exact .refl

/-- A cog that writes results does not hold a frame any more, whatever its engine was about. -/
lemma handover_writeBack {native : Native} (results : Native) {body : CogBody τ}
    (free : body.state.holdsFrame = false) (running : UInt8) :
    Cog.Handover ⟨body, .native native⟩
      ⟨(results.writeBack body running).2, .native (results.writeBack body running).1⟩ none none :=
  .free (results.retuned_writeBack body running) free rfl

lemma holdsFrame_planFor {opcode : Opcode} (other : opcode ≠ .waitvid) (pending : Pending)
    (address pc : UInt32) (carry zero : Bool) :
    (planFor opcode pending address pc carry zero).state.holdsFrame = false := by
  cases opcode
  all_goals first
    | exact absurd rfl other
    | rfl
    | simp only [planFor]; split <;> rfl

omit [Timebase τ] in
/-- An instruction plans to hold just the frame that it issues. -/
lemma held_plan (native : Native) (body : CogBody τ) (hub : Hub) :
    (if (native.plan body hub).state.holdsFrame then
      some (VideoFrame.mk (native.plan body hub).pending.d (native.plan body hub).pending.s)
    else none) = native.issued body hub := by
  simp only [plan]
  split
  · next holds =>
    by_cases video : native.instruction.opcode = .waitvid
    · rw [issued, if_pos (And.intro video holds), video]
      rfl
    · have issuesNone : native.issued body hub = none := if_neg fun h => video h.1
      rw [issuesNone, holdsFrame_planFor video]
      rfl
  · next fails =>
    have issuesNone : native.issued body hub = none := if_neg fun h => fails h.2
    rw [issuesNone]
    rfl

lemma step_execute (native : Native) {body : CogBody τ} (boundary : body.state = .execute)
    (hub : Hub) :
    (native.step body hub).2
      = ({ native with
            pending := (native.plan body hub).pending
            instruction := ⟨body.cell (native.plan body hub).pc⟩ },
          { body with
            state := (native.plan body hub).state
            pc := (native.plan body hub).pc }) := by
  simp only [step, boundary, start]
  split <;> rfl

lemma handover_start (native : Native) {body : CogBody τ} (boundary : body.state = .execute)
    (hub : Hub) :
    Cog.Handover ⟨body, .native native⟩
      ⟨(native.step body hub).2.2, .native (native.step body hub).2.1⟩ (native.issued body hub)
      none := by
  rw [step_execute native boundary]
  refine .start .refl ?_ (native.held_plan body hub)
  rw [boundary]
  rfl

lemma handover_settling (native : Native) {body : CogBody τ} {left : Nat} {next : Option Wait}
    (settling : body.state = .settling left next) (hub : Hub) :
    Cog.Handover ⟨body, .native native⟩
      ⟨(native.step body hub).2.2, .native (native.step body hub).2.1⟩ none none := by
  -- the operands stay with the engine, so only the state decides what is held
  have goesOn : ∀ state : RunState, state.holdsFrame = body.state.holdsFrame →
      Cog.Handover ⟨body, .native native⟩ ⟨{ body with state }, .native native⟩ none none := by
    intro state same
    refine .quiet .refl ?_ fun waiting => ?_
    · rw [Cog.held, Cog.held, same]
    · cases settling.symm.trans waiting
  simp only [step, settling]
  split
  · cases next with
    | none => exact goesOn .execute (by rw [settling]; rfl)
    | some wait => exact goesOn (.waiting wait) (by rw [settling]; cases wait <;> rfl)
  · exact goesOn (.settling (left - 1) next) (by rw [settling, RunState.holdsFrame_settling])

lemma handover_supplyVideo (native : Native) (body : CogBody τ) (running : UInt8) :
    Cog.Handover ⟨body, .native native⟩
      ⟨(native.supplyVideo body running).2.2, .native (native.supplyVideo body running).2.1⟩ none
      (Cog.offered ⟨body, .native native⟩) := by
  simp only [supplyVideo, Cog.offered]
  split
  · next ready =>
    exact .taken ready.1 ready.2 (native.retuned_writeBack
      { body with video := body.video.feed native.pending.d native.pending.s } running) rfl
  · exact .quiet .refl rfl id

lemma handover_checkPins (native : Native) {body : CogBody τ}
    (free : body.state.holdsFrame = false) (hub : Hub) (equal : Bool) :
    Cog.Handover ⟨body, .native native⟩
      ⟨(native.checkPins body hub equal).2, .native (native.checkPins body hub equal).1⟩ none
      none := by
  unfold checkPins
  generalize (if native.carry then hub.inputB else hub.inputA) = pins
  dsimp only
  split
  · exact handover_writeBack _ free hub.running
  · exact .free .refl free free

lemma handover_checkCount (native : Native) {body : CogBody τ}
    (free : body.state.holdsFrame = false) (hub : Hub) :
    Cog.Handover ⟨body, .native native⟩
      ⟨(native.checkCount body hub).2, .native (native.checkCount body hub).1⟩ none none := by
  simp only [checkCount]
  split
  · exact handover_writeBack _ free hub.running
  · exact .free .refl free free

/-- A clock that neither starts an instruction nor asks the generator has nothing to do with
frames. -/
lemma handover_underway (native : Native) {body : CogBody τ} (running : body.state ≠ .execute)
    (other : body.state ≠ .waiting .video) (hub : Hub) :
    Cog.Handover ⟨body, .native native⟩
      ⟨(native.step body hub).2.2, .native (native.step body hub).2.1⟩ none none := by
  match h : body.state with
  | .execute => exact absurd h running
  | .waiting .video => exact absurd h other
  | .settling left next => exact native.handover_settling h hub
  | .working left =>
    simp only [step, h]
    split
    · exact handover_writeBack native (by rw [h]; rfl) hub.running
    · exact .free .refl (by rw [h]; rfl) rfl
  | .waiting .pinsEqual =>
    simp only [step, h]
    exact native.handover_checkPins (by rw [h]; rfl) hub true
  | .waiting .pinsNotEqual =>
    simp only [step, h]
    exact native.handover_checkPins (by rw [h]; rfl) hub false
  | .waiting .count =>
    simp only [step, h]
    exact native.handover_checkCount (by rw [h]; rfl) hub
  | .waiting (.hubTransfer _) | .waiting .hubService
  | .loadProgram _ | .booting _ | .interpreting _ | .fetch =>
    simp only [step, h]
    exact .quiet .refl rfl id

/-- **A clock of the native engine** keeps frames. -/
theorem handover_step (native : Native) (body : CogBody τ) (hub : Hub) :
    Cog.Handover ⟨body, .native native⟩
      ⟨(native.step body hub).2.2, .native (native.step body hub).2.1⟩
      (if body.state = .execute then native.issued body hub else none)
      (Cog.offered ⟨body, .native native⟩) := by
  by_cases boundary : body.state = .execute
  · rw [if_pos boundary, Cog.offered_of_ne (by rw [boundary]; decide)]
    exact native.handover_start boundary hub
  · rw [if_neg boundary]
    by_cases waiting : body.state = .waiting .video
    · have supplied := native.handover_supplyVideo body hub.running
      simp only [step, waiting]
      exact supplied
    · rw [Cog.offered_of_ne waiting]
      exact native.handover_underway boundary waiting hub

/-- **The native engine's turn on the hub** has nothing to do with frames. -/
theorem handover_hubAccess (native : Native) (body : CogBody τ) (hub : Hub) :
    Cog.Handover ⟨body, .native native⟩
      ⟨(native.hubAccess body hub).2.1, .native (native.hubAccess body hub).1⟩ none none := by
  rw [hubAccess]
  split
  · next h => exact handover_writeBack _ (by rw [h]; rfl) _
  · next h =>
    dsimp only
    split
    · exact handover_writeBack _ (by rw [h]; rfl) hub.running
    · exact handover_writeBack native (by rw [h]; rfl) _
  · exact .quiet .refl rfl id

end Native

/-! ## The interpreter -/

namespace SpinMachine

lemma Actions.holdsNoFrame {before after : SpinMachine τ} (h : Actions before after) :
    Video.Retuned before.body.video after.body.video
      ∧ (before.body.state.holdsFrame = false → after.body.state.holdsFrame = false) := by
  induction h with
  | refl => exact ⟨.refl, id⟩
  | @tail between _ _ last ih =>
    cases last with
    | frames | pc | service | write => exact ih
    | register address value =>
      refine ⟨ReflTransGen.trans ih.1 (CogBody.retuned_writeRegister _ _ address value),
        fun free => ?_⟩
      rw [writeRegister, CogBody.writeRegister_state]
      exact ih.2 free
    | wait wait other =>
      refine ⟨ih.1, fun _ => ?_⟩
      cases wait with
      | video => exact absurd rfl other
      | _ => rfl

lemma handover_fetch (machine : SpinMachine τ) (fetch : machine.body.state = .fetch) :
    Cog.Handover ⟨machine.body, .interpreted machine.frames⟩
      ⟨machine.step.2.body, .interpreted machine.step.2.frames⟩ machine.issued none := by
  let busy := machine.withState (.interpreting SpinFrames.bytecodeClocks)
  have stepped : machine.step.2 = busy.execute.machine := by
    simp only [step, fetch]
    split <;> rfl
  have free : machine.body.state.holdsFrame = false := by
    rw [fetch]
    rfl
  rw [stepped]
  by_cases video : machine.code = waitVideoCode
  · have issued : machine.issued
        = some { colors := machine.pop.2.pop.1, pixels := machine.pop.1 } := if_pos video
    rw [show busy.execute = _ from execute_waitVideo video, issued]
    exact .start .refl free rfl
  · have issued : machine.issued = none := if_neg video
    have free' := (actions_execute busy video).holdsNoFrame
    rw [issued]
    exact .free free'.1 free (free'.2 rfl)

omit [Timebase τ] in
lemma handover_supplyVideo (frames : SpinFrames) (body : CogBody τ) :
    Cog.Handover ⟨body, .interpreted frames⟩
      ⟨(frames.supplyVideo body).2, .interpreted frames⟩ none
      (Cog.offered ⟨body, .interpreted frames⟩) := by
  simp only [SpinFrames.supplyVideo, Cog.offered]
  split
  · next ready => exact .taken ready.1 ready.2 .refl rfl
  · exact .quiet .refl rfl id

/-- A clock that neither carries out a bytecode nor asks the generator has nothing to do with
frames. -/
lemma handover_underway (machine : SpinMachine τ) (running : machine.body.state ≠ .fetch)
    (other : machine.body.state ≠ .waiting .video) :
    Cog.Handover ⟨machine.body, .interpreted machine.frames⟩
      ⟨machine.step.2.body, .interpreted machine.step.2.frames⟩ none none := by
  match h : machine.body.state with
  | .fetch => exact absurd h running
  | .waiting .video => exact absurd h other
  | .booting left | .interpreting left =>
    simp only [step, h]
    refine .free .refl (by rw [h]; rfl) ?_
    simp only [withState]
    split <;> rfl
  | .waiting .pinsEqual | .waiting .pinsNotEqual | .waiting .count =>
    simp only [step, h]
    split
    all_goals first
      | exact .free .refl (by rw [h]; rfl) rfl
      | exact .quiet .refl rfl id
  | .waiting (.hubTransfer _) | .waiting .hubService
  | .loadProgram _ | .execute | .working _ | .settling _ _ =>
    simp only [step, h]
    exact .quiet .refl rfl id

/-- **A clock of the interpreter** keeps frames. -/
theorem handover_step (machine : SpinMachine τ) :
    Cog.Handover ⟨machine.body, .interpreted machine.frames⟩
      ⟨machine.step.2.body, .interpreted machine.step.2.frames⟩
      (if machine.body.state = .fetch then machine.issued else none)
      (Cog.offered ⟨machine.body, .interpreted machine.frames⟩) := by
  by_cases boundary : machine.body.state = .fetch
  · rw [if_pos boundary, Cog.offered_of_ne (by rw [boundary]; decide)]
    exact machine.handover_fetch boundary
  · rw [if_neg boundary]
    by_cases waiting : machine.body.state = .waiting .video
    · simp only [step, waiting]
      exact handover_supplyVideo machine.frames machine.body
    · rw [Cog.offered_of_ne waiting]
      exact machine.handover_underway boundary waiting

end SpinMachine

end P1Chip
