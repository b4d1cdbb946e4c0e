import P1Chip.Proofs.Cog.Handover

/-!
# Video frames are handed over once

The generator takes a frame as soon as it has finished the one before: in a clock of the cog, or at
the edge of the pixel clock that ends a frame.  This file follows a cog of either kind through any
sequence of clocks, turns on the hub, register writes and edges, and shows that every frame is
handed over exactly once and in order.

* `VideoEvent`, `Cog.next` — the events in the life of a cog that concern its generator.
* `Cog.issued`, `Cog.fed`, `Cog.completes` — frames that an event issues, hands over and ends.
* **`Cog.handover_next`** — every event keeps frames.
* `VideoLog` — a cog with what became of its frames.
* **`VideoLog.balanced_run`** — every sequence of events keeps frames.
-/

namespace P1Chip

variable {τ : Type} [Timebase τ]

/-! ## Events -/

/-- What can happen to a cog and its generator. -/
inductive VideoEvent (τ : Type) where
  | step (hub : Hub) (frameBreak : FrameBreak)
  | hubAccess (hub : Hub)
  | writeRegister (hub : Hub) (index : Nat) (value : UInt32)
  /-- An edge of the cog's first loop; `running` has the running cogs. -/
  | pixelEdge (running : UInt8) (level : Bool)
  | carrierEdge (level : Bool)
  /-- An edge of the aural subcarrier, which is the first loop of some cog. -/
  | auralEdge (level : Bool)
  /-- A cog is stopped that may have been the aural subcarrier. -/
  | detachAural (stopped : Fin 8)
  /-- Time passes for the cog's loops, or the system clock changes. -/
  | loops (plls : PllPair τ)
  | setBreakpoint (breakpoint? : Option UInt32)

namespace Cog

/-- The cog with its generator after an edge of the pixel clock. -/
def clocked (cog : Cog τ) : VideoEvent τ → Cog τ
  | .pixelEdge _ level => cog.withVideo (·.colorEdge level |>.2)
  | _ => cog

def completes (cog : Cog τ) : VideoEvent τ → Bool
  | .pixelEdge _ level => (cog.body.video.colorEdge level).1
  | _ => false

/-- The cog after an event.  The end of a frame is dealt with at once. -/
def next (cog : Cog τ) (event : VideoEvent τ) : Cog τ :=
  match event with
  | .step hub frameBreak => (cog.step hub frameBreak).2.1
  | .hubAccess hub => (cog.hubAccess hub).1
  | .writeRegister hub index value =>
    match cog.writeRegister hub index value with
    | .ok cog => cog
    | .error _ => cog
  | .pixelEdge running _ =>
    if cog.completes event then (cog.clocked event).frameComplete running else cog.clocked event
  | .carrierEdge level => cog.withVideo (·.carrierEdge level)
  | .auralEdge level => cog.withVideo (·.auralEdge level)
  | .detachAural stopped => cog.withVideo (·.detachAural stopped)
  | .loops plls => { cog with body := { cog.body with plls } }
  | .setBreakpoint breakpoint? => cog.setBreakpoint breakpoint?

def issued (cog : Cog τ) : VideoEvent τ → Option VideoFrame
  | .step hub _ =>
    match cog.engine, cog.body.state with
    | .native native, .execute => native.issued cog.body hub
    | .interpreted frames, .fetch => SpinMachine.issued { frames, body := cog.body, hub }
    | _, _ => none
  | _ => none

/-- The frame that an event hands to the generator.  Besides the end of a frame, only a clock of
the cog does that. -/
def fed (cog : Cog τ) (event : VideoEvent τ) : Option VideoFrame :=
  match event with
  | .step _ _ => cog.offered
  | .pixelEdge _ _ => if cog.completes event then (cog.clocked event).offered else none
  | _ => none

end Cog

/-! ## Events keep frames -/

namespace Cog

lemma handover_stepEngine (cog : Cog τ) (hub : Hub) (frameBreak : FrameBreak) :
    Handover cog (cog.stepEngine hub).2.1 (cog.issued (.step hub frameBreak)) cog.offered := by
  rcases cog with ⟨body, native | frames⟩
  · have kept := native.handover_step body hub
    simp only [issued]
    split
    · next engine state =>
      cases engine
      rwa [if_pos state] at kept
    · next engine _ => cases engine
    · next other _ =>
      rwa [if_neg fun state => other native rfl state] at kept
  · have kept := SpinMachine.handover_step { frames, body, hub }
    simp only [issued]
    split
    · next engine _ => cases engine
    · next engine state =>
      cases engine
      rwa [if_pos state] at kept
    · next _ other =>
      rwa [if_neg fun state => other frames rfl state] at kept

/-- **A clock of a cog** keeps frames. -/
theorem handover_step (cog : Cog τ) (hub : Hub) (frameBreak : FrameBreak) :
    Handover cog (cog.step hub frameBreak).2.1 (cog.issued (.step hub frameBreak))
      cog.offered := by
  have engine := cog.handover_stepEngine hub frameBreak
  simp only [step]
  revert engine
  rcases cog.stepEngine hub with ⟨outcome, stepped, hub'⟩
  intro engine
  cases outcome with
  | error kind => exact engine.tail .refl rfl rfl
  | ok started =>
    simp only [checkBreaks]
    split <;> exact engine.tail .refl rfl rfl

omit [Timebase τ] in
lemma loadNext_video (body : CogBody τ) (hub : Hub) (next : Fin programLongs) :
    (body.loadNext hub next).2.video = body.video := by
  simp only [CogBody.loadNext]
  split <;> rfl

omit [Timebase τ] in
lemma loadNext_holdsFrame {body : CogBody τ} {next : Fin programLongs}
    (loading : body.state = .loadProgram next) (hub : Hub) :
    (body.loadNext hub next).2.state.holdsFrame = false := by
  simp only [CogBody.loadNext]
  split
  · rfl
  · rw [loading]
    rfl

omit [Timebase τ] in
lemma handover_boot {before loaded : Cog τ} (free : before.body.state.holdsFrame = false)
    (video : loaded.body.video = before.body.video) (hub : Hub) :
    Handover before (loaded.boot hub).1 none none := by
  rcases loaded with ⟨body, native | frames⟩
  all_goals
    refine .free ?_ free rfl
    rw [← video]
    exact .refl

theorem handover_hubAccess (cog : Cog τ) (hub : Hub) :
    Handover cog (cog.hubAccess hub).1 none none := by
  let counted : Cog τ :=
    { cog with body := { cog.body with hubAccesses := cog.body.hubAccesses + 1 } }
  suffices kept : Handover counted (cog.hubAccess hub).1 none none from kept.head rfl rfl rfl
  simp only [hubAccess]
  split
  · next next loads =>
    have loading : counted.body.state = .loadProgram next := loads
    have free : counted.body.state.holdsFrame = false := by
      rw [loading]
      rfl
    have video := loadNext_video counted.body hub next
    split
    · exact handover_boot free video hub
    · refine .free ?_ free (loadNext_holdsFrame loading hub)
      rw [video]
      exact .refl
  · rcases cog with ⟨body, native | frames⟩
    · exact native.handover_hubAccess _ hub
    · exact .quiet .refl rfl id

theorem handover_writeRegister (cog : Cog τ) (running : UInt8) (address value : UInt32) :
    Handover cog { cog with body := cog.body.writeRegister running address value } none none := by
  have state := cog.body.writeRegister_state running address value
  refine .quiet (cog.body.retuned_writeRegister running address value) ?_ fun waiting => ?_
  · rw [held, held, state]
  · rw [state, waiting]

/-- **The end of a frame** lets a waiting cog hand over the next one. -/
theorem handover_frameComplete (cog : Cog τ) (running : UInt8) :
    Handover cog (cog.frameComplete running) none cog.offered := by
  rcases cog with ⟨body, native | frames⟩
  · exact (native.handover_supplyVideo body running).tail .refl rfl rfl
  · exact (SpinMachine.handover_supplyVideo frames body).tail .refl rfl rfl

/-- **Every event keeps frames.** -/
theorem handover_next (cog : Cog τ) (event : VideoEvent τ) :
    Handover (cog.clocked event) (cog.next event) (cog.issued event) (cog.fed event) := by
  cases event with
  | step hub frameBreak => exact cog.handover_step hub frameBreak
  | hubAccess hub => exact cog.handover_hubAccess hub
  | writeRegister hub index value =>
    by_cases valid : index < cogLongs
    · simp only [next, writeRegister, if_pos valid]
      exact cog.handover_writeRegister hub.running (UInt32.ofNat index) value
    · simp only [next, writeRegister, if_neg valid]
      exact .quiet .refl rfl id
  | pixelEdge running level =>
    simp only [next, fed]
    split
    · exact (cog.clocked _).handover_frameComplete running
    · exact .quiet .refl rfl id
  | carrierEdge level => exact .quiet (.single (.carrier level)) rfl id
  | auralEdge level => exact .quiet (.single (.aural level)) rfl id
  | detachAural stopped => exact .quiet (.single (.detach stopped)) rfl id
  | loops plls => exact .quiet .refl rfl id
  | setBreakpoint breakpoint? => exact .quiet .refl rfl id

/-! ## Frames are counted -/

omit [Timebase τ] in
/-- A frame that is handed over is one more that was begun, and was not finished. -/
lemma Handover.openFrames_eq {before after : Cog τ} {issued fed : Option VideoFrame}
    (h : Handover before after issued fed) :
    after.body.video.openFrames = before.body.video.openFrames + fed.toList.length := by
  rw [h.generator.sameFrame.openFrames_eq]
  cases fed with
  | none => rfl
  | some frame =>
    rw [Video.openFrames, Video.openFrames, if_pos (h.ready frame rfl), Video.supplied,
      Video.isReady_feed]
    rfl

omit [Timebase τ] in
lemma Handover.frames_eq {before after : Cog τ} {issued fed : Option VideoFrame}
    (h : Handover before after issued fed) :
    after.body.video.frames = before.body.video.frames := by
  rw [h.generator.sameFrame.frames]
  cases fed <;> rfl

omit [Timebase τ] in
lemma clocked_frame (cog : Cog τ) (event : VideoEvent τ) :
    (cog.clocked event).body.video.openFrames + (cog.completes event).toNat
        = cog.body.video.openFrames
      ∧ (cog.clocked event).body.video.frames
        = cog.body.video.frames + if cog.completes event then 1 else 0 := by
  cases event with
  | pixelEdge running level => exact cog.body.video.colorEdge_frame level
  | _ => exact ⟨rfl, (UInt64.add_zero _).symm⟩

omit [Timebase τ] in
lemma clocked_held (cog : Cog τ) (event : VideoEvent τ) : (cog.clocked event).held = cog.held := by
  cases event <;> rfl

end Cog

/-! ## Sequences of events -/

/-- A cog with what became of its frames so far. -/
structure VideoLog (τ : Type) where
  cog : Cog τ
  /-- Frames that instructions or bytecodes issued, in program order. -/
  issued : List VideoFrame
  fed : List VideoFrame
  completed : Nat

namespace VideoLog

def new (cog : Cog τ) : VideoLog τ :=
  { cog, issued := [], fed := [], completed := 0 }

def next (log : VideoLog τ) (event : VideoEvent τ) : VideoLog τ where
  cog := log.cog.next event
  issued := log.issued ++ (log.cog.issued event).toList
  fed := log.fed ++ (log.cog.fed event).toList
  completed := log.completed + (log.cog.completes event).toNat

def run (log : VideoLog τ) (events : List (VideoEvent τ)) : VideoLog τ :=
  events.foldl next log

/-- No frame is lost, duplicated or overwritten. -/
structure Balanced (log : VideoLog τ) : Prop where
  /-- The generator took what was issued, in this order, but for what the cog still holds. -/
  order : log.issued = log.fed ++ log.cog.held.toList
  /-- All of these but the current one have ended. -/
  count : log.fed.length = log.completed + if log.cog.body.video.isReady then 0 else 1
  /-- The generator has counted them. -/
  frames : log.cog.body.video.frames = UInt64.ofNat log.completed

lemma balanced_new (id : UInt32) (kind : EngineKind) (program parameter frequency : UInt32) :
    (new (Cog.new id kind program parameter frequency : Cog τ)).Balanced :=
  ⟨rfl, rfl, rfl⟩

lemma Balanced.next {log : VideoLog τ} (h : log.Balanced) (event : VideoEvent τ) :
    (log.next event).Balanced := by
  have kept := log.cog.handover_next event
  -- an edge first ends a frame, and only then may the next one be handed over
  obtain ⟨ended, counted⟩ := log.cog.clocked_frame event
  refine ⟨?_, ?_, ?_⟩
  · calc log.issued ++ (log.cog.issued event).toList
        = log.fed ++ (log.cog.held.toList ++ (log.cog.issued event).toList) := by
          rw [h.order, List.append_assoc]
      _ = log.fed ++ ((log.cog.fed event).toList ++ (log.cog.next event).held.toList) := by
          rw [← log.cog.clocked_held event, kept.kept]
      _ = _ := (List.append_assoc _ _ _).symm
  · have begun := kept.openFrames_eq
    have count : log.fed.length = log.completed + log.cog.body.video.openFrames := h.count
    show (log.fed ++ (log.cog.fed event).toList).length
      = log.completed + (log.cog.completes event).toNat
        + (log.cog.next event).body.video.openFrames
    rw [List.length_append]
    omega
  · show (log.cog.next event).body.video.frames
      = UInt64.ofNat (log.completed + (log.cog.completes event).toNat)
    rw [kept.frames_eq, counted, h.frames, UInt64.ofNat_add]
    cases log.cog.completes event <;> rfl

lemma Balanced.run {log : VideoLog τ} (h : log.Balanced) (events : List (VideoEvent τ)) :
    (log.run events).Balanced := by
  induction events generalizing log with
  | nil => exact h
  | cons event events ih => exact ih (h.next event)

/-- **No frame is lost, duplicated or overwritten**, whatever happens to a cog of either kind: the
generator has taken the frames in program order, each once and when it was ready, and a cog leaves
its wait just when its own frame is taken. -/
theorem balanced_run (id : UInt32) (kind : EngineKind) (program parameter frequency : UInt32)
    (events : List (VideoEvent τ)) :
    let log := (new (Cog.new id kind program parameter frequency)).run events
    log.Balanced ∧ ∀ event, Cog.Handover (log.cog.clocked event) (log.cog.next event)
      (log.cog.issued event) (log.cog.fed event) :=
  ⟨(balanced_new id kind program parameter frequency).run events, fun event =>
    Cog.handover_next _ event⟩

/-- The generator takes the first frame in a clock of the cog, and the second one at the edge that
ends the first. -/
example :
    let wait := fun pixels => Instruction.build .waitvid ⟨false, false, false⟩ true .always 0 pixels
    let body : CogBody Rat :=
      { CogBody.new 0 0 0 0 with state := .execute, video := Video.off.setScale 2 }
    let engine := Engine.native { Native.new with instruction := wait 5 }
    let hub := Hub.new ⟨.replicate halfSize 0, .replicate halfSize 0⟩
    let log := (new ⟨body.setCell 1 (wait 6).bits, engine⟩).run
      (.replicate 10 (.step hub .none) ++ .replicate 2 (.pixelEdge 1 true))
    log.issued = [⟨0, 5⟩, ⟨0, 6⟩] ∧ log.fed = log.issued ∧ log.completed = 1 := by
  decide +kernel

end VideoLog

end P1Chip
