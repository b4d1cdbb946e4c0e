import P1Chip.Proofs.Spin.Saved

/-!
# Frames that stand

While frames are open, hub memory holds the pointers of their callers, and each caller's pointers
are the ones that the callers inside it build on.  This file follows both through properly nested
runs in which nothing overwrites the words of a frame while it is open.

* `OpenFrame.Stands` — hub memory holds what belongs to a frame.
* `Owned` — the pointers of a method and those in the frames fit together.
* `SpinMachine.SafeStep`, `SpinMachine.SafeRun` — runs that leave the words of frames alone.
* `SpinMachine.Standing` — all frames stand, and the lists of the interpreter agree with them.
* **`SpinMachine.SafeRun.standing`** — this is so all through a run that starts without frames.
* **`SpinMachine.unwind_of_called`** — where an abort ends if all frames that it leaves were called.
-/

namespace P1Chip

open Relation

variable {τ : Type}

/-! ## What is kept for a frame -/

namespace OpenFrame

/-- Hub memory holds the pointers of the caller, and where it goes on once it has made the call. -/
structure Stands (frame : OpenFrame) (memory : Memory) : Prop where
  fits : FrameFits frame.base
  saved : Saved memory frame.base frame.object frame.vars frame.locals
  back : ∀ back, frame.back = some back → memory.readWord (frame.base + 6) = back.toUInt16

/-- The words of the frame are as they were. -/
def Kept (frame : OpenFrame) (before after : Memory) : Prop :=
  ∀ k ∈ ([0, 2, 4, 6] : List UInt32),
    after.readWord (frame.base + k) = before.readWord (frame.base + k)

instance (frame : OpenFrame) (before after : Memory) : Decidable (frame.Kept before after) :=
  List.decidableBAll _ _

lemma Stands.keep {frame : OpenFrame} {before after : Memory} (stands : frame.Stands before)
    (kept : frame.Kept before after) : frame.Stands after where
  fits := stands.fits
  saved := by
    have h0 := kept 0 (by decide)
    rw [UInt32.add_zero] at h0
    exact stands.saved.keep h0 (kept 2 (by decide)) (kept 4 (by decide))
  back := fun back hb => (kept 6 (by decide)).trans (stands.back back hb)

/-- A frame that was just opened stands. -/
lemma stands_opened {machine : SpinMachine τ} (fits : FrameFits machine.frames.stack) :
    (opened machine).Stands (machine.next.openFrame (.ofCode machine.code)).hub.memory where
  fits := fits
  saved := SpinMachine.openFrame_saved machine.next _ fits
  back := by
    intro back hb
    cases hb

/-- A frame stands with the pointers of its caller, whether they are read when the frame is opened
or when the call is made. -/
lemma Stands.called {frame : OpenFrame} {machine : SpinMachine τ}
    (stands : frame.Stands machine.hub.memory)
    (object : frame.object.toUInt16 = machine.frames.object.toUInt16)
    (vars : frame.vars.toUInt16 = machine.frames.vars.toUInt16)
    (locals : frame.locals.toUInt16 = machine.frames.locals.toUInt16) :
    (frame.called machine).Stands (machine.hub.memory.writeWord (frame.base + 6)
      (machine.body.pc + 1 + (CallTarget.ofCode machine.code).operands).toUInt16) where
  fits := stands.fits
  saved := by
    have saved := stands.saved.call
      (machine.body.pc + 1 + (CallTarget.ofCode machine.code).operands).toUInt16
    exact ⟨saved.object.trans object, saved.vars.trans vars, saved.locals.trans locals⟩
  back := by
    intro back hb
    cases hb
    have fits := stands.fits
    simp only [FrameFits, halfSize] at fits
    refine Memory.readWord_writeWord _ rfl ?_ _
    simp only [UInt32.toNat_add, UInt32.reduceToNat, halfSize]
    omega

end OpenFrame

/-- The pointers of a method and those that the frames inside it hold fit together: what it opened
has its own pointers, its locals stand in the frame in which it was called, and from there on it is
its caller's turn. -/
def Owned (object vars locals : UInt16) : List OpenFrame → Prop
  | [] => True
  | frame :: frames =>
    if frame.isCalled then
      locals = (frame.base + 8).toUInt16
        ∧ Owned frame.object.toUInt16 frame.vars.toUInt16 frame.locals.toUInt16 frames
    else
      frame.object.toUInt16 = object ∧ frame.vars.toUInt16 = vars
        ∧ frame.locals.toUInt16 = locals ∧ Owned object vars locals frames

/-- The pointers of the running method fit together with the frames. -/
abbrev SpinFrames.Owns (pointers : SpinFrames) (frames : List OpenFrame) : Prop :=
  Owned pointers.object.toUInt16 pointers.vars.toUInt16 pointers.locals.toUInt16 frames

lemma owned_cons_called {object vars locals : UInt16} {frame : OpenFrame}
    {frames : List OpenFrame} (h : frame.isCalled) :
    Owned object vars locals (frame :: frames) ↔ locals = (frame.base + 8).toUInt16
      ∧ Owned frame.object.toUInt16 frame.vars.toUInt16 frame.locals.toUInt16 frames := by
  rw [Owned, if_pos h]

lemma owned_cons_opened {object vars locals : UInt16} {frame : OpenFrame}
    {frames : List OpenFrame} (h : frame.isCalled = false) :
    Owned object vars locals (frame :: frames) ↔ frame.object.toUInt16 = object
      ∧ frame.vars.toUInt16 = vars ∧ frame.locals.toUInt16 = locals
      ∧ Owned object vars locals frames := by
  rw [Owned, if_neg (by rw [h]; decide)]

/-! ## Leaving a frame that stands -/

/-- The caller of a frame has its pointers back, its stack ends where the frame was, and it goes on
behind the call. -/
structure BackIn (frame : OpenFrame) (left : SpinMachine τ) : Prop where
  object : left.frames.object = frame.object.toUInt16.toUInt32
  vars : left.frames.vars = frame.vars.toUInt16.toUInt32
  locals : left.frames.locals = frame.locals.toUInt16.toUInt32
  stack : left.frames.stack.toUInt16 = frame.base.toUInt16
  pc : ∀ back, frame.back = some back → left.body.pc = back.toUInt16.toUInt32

lemma BackIn.owns {frame : OpenFrame} {left : SpinMachine τ} {frames : List OpenFrame}
    (back : BackIn frame left)
    (owned : Owned frame.object.toUInt16 frame.vars.toUInt16 frame.locals.toUInt16 frames) :
    left.frames.Owns frames := by
  simp only [SpinFrames.Owns]
  rw [back.object, back.vars, back.locals, UInt16.toUInt16_toUInt32, UInt16.toUInt16_toUInt32,
    UInt16.toUInt16_toUInt32]
  exact owned

namespace SpinMachine

lemma dropFrame_of_stands (machine : SpinMachine τ) {frame : OpenFrame}
    (stands : frame.Stands machine.hub.memory)
    (locals : machine.frames.locals.toUInt16 = (frame.base + 8).toUInt16)
    (openFrames : List FrameKind) : BackIn frame (machine.dropFrame openFrames) := by
  have frames := dropFrame_of_saved machine stands.saved locals openFrames
  constructor
  · rw [frames]
  · rw [frames]
  · rw [frames]
  · rw [frames]
    show (machine.frames.locals - 8).toUInt16 = frame.base.toUInt16
    rw [UInt32.toUInt16_sub, locals, UInt32.toUInt16_add]
    grind
  · intro back hb
    exact dropFrame_pc_of_back machine (stands.back back hb) locals openFrames

/-- **Where an abort ends** if all methods that it leaves were called in frames that stand: behind
the call in the innermost frame that traps it, or nowhere. -/
theorem unwind_of_called {frames : List OpenFrame} (machine : SpinMachine τ)
    (owns : machine.frames.Owns frames)
    (stands : ∀ frame ∈ frames, frame.Stands machine.hub.memory)
    (called : ∀ frame ∈ frames.takeWhile OpenFrame.passes, frame.isCalled) :
    ∃ left : SpinMachine τ, left.hub = machine.hub ∧ left.body.id = machine.body.id
      ∧ match frames.dropWhile OpenFrame.passes with
        | [] => unwind true (OpenFrame.kinds frames) machine = (none, left)
          ∧ left.frames.openFrames = []
        | frame :: outer =>
          unwind true (OpenFrame.kinds frames) machine = (some frame.kind, left)
            ∧ left.frames.openFrames = OpenFrame.kinds outer ∧ BackIn frame left
            ∧ left.frames.Owns outer := by
  induction frames generalizing machine with
  | nil => exact ⟨(unwind true [] machine).2, rfl, rfl, rfl, rfl⟩
  | cons frame frames ih =>
    by_cases traps : frame.traps
    · obtain ⟨hc, hk⟩ : frame.isCalled ∧ frame.kind.trapsAborts := by
        simpa [OpenFrame.traps] using traps
      obtain ⟨locals, owned⟩ := (owned_cons_called hc).mp owns
      have back := dropFrame_of_stands machine (stands frame (List.mem_cons_self ..)) locals
        (OpenFrame.kinds frames)
      rw [List.dropWhile_cons_of_neg (by simpa [OpenFrame.passes] using traps)]
      refine ⟨machine.dropFrame (OpenFrame.kinds frames), rfl, rfl, ?_, rfl, back,
        back.owns owned⟩
      exact (unwind_cons _ _ machine).trans (if_pos hk)
    · have untrapped : frame.passes := by simpa [OpenFrame.passes] using traps
      rw [List.takeWhile_cons_of_pos untrapped] at called
      have hc := called frame (List.mem_cons_self ..)
      have hk : ¬ frame.kind.trapsAborts = true := by
        intro hk
        exact traps (by simp [OpenFrame.traps, hc, hk])
      obtain ⟨locals, owned⟩ := (owned_cons_called hc).mp owns
      have back := dropFrame_of_stands machine (stands frame (List.mem_cons_self ..)) locals
        (OpenFrame.kinds frames)
      obtain ⟨left, hub, id, rest⟩ := ih _ (back.owns owned)
        (fun f hf => stands f (List.mem_cons_of_mem _ hf))
        (fun f hf => called f (List.mem_cons_of_mem _ hf))
      have step : unwind true (OpenFrame.kinds (frame :: frames)) machine
          = unwind true (OpenFrame.kinds frames)
            (machine.dropFrame (OpenFrame.kinds frames)) :=
        (unwind_cons _ _ machine).trans (if_neg hk)
      rw [List.dropWhile_cons_of_pos untrapped, step]
      exact ⟨left, hub, id, rest⟩

/-! ## Safe runs -/

/-- The lists of the interpreter, hub memory and the pointers of the running method agree with the
frames that are open. -/
structure Standing (state : List OpenFrame × SpinMachine τ) : Prop where
  listed : Listed [] [] state
  stands : ∀ frame ∈ state.1, frame.Stands state.2.hub.memory
  owns : state.2.frames.Owns state.1

/-- Without frames there is nothing to agree with. -/
lemma standing_nil {machine : SpinMachine τ} (openFrames : machine.frames.openFrames = [])
    (pendingCalls : machine.frames.pendingCalls = []) : Standing ([], machine) where
  listed := ⟨openFrames, pendingCalls⟩
  stands := by
    intro frame hf
    cases hf
  owns := trivial

variable [Timebase τ]

/-- A properly nested step in which every frame fits in memory, and the words of frames that stay
open are left alone. -/
structure SafeStep (before after : List OpenFrame × SpinMachine τ) : Prop where
  step : CallStep before after
  fits : ∀ frame ∈ after.1, FrameFits frame.base
  kept : ∀ frame ∈ before.1, frame ∈ after.1 →
    frame.Kept before.2.hub.memory after.2.hub.memory

/-- Any number of such steps. -/
abbrev SafeRun :
    List OpenFrame × SpinMachine τ → List OpenFrame × SpinMachine τ → Prop :=
  ReflTransGen SafeStep

variable {frames : List OpenFrame} {frame : OpenFrame} {machine : SpinMachine τ}

/-- Opening a frame changes no pointer but the end of the stack. -/
lemma opened_owns (h : machine.Opens) (owns : machine.frames.Owns frames) :
    machine.execute.machine.frames.Owns (.opened machine :: frames) := by
  have hf := openFrame_frames machine.next (.ofCode machine.code)
  rw [execute_openFrame h]
  show (machine.next.openFrame _).frames.Owns _
  rw [hf]
  exact (owned_cons_opened rfl).mpr ⟨rfl, rfl, rfl, owns⟩

/-- A call that finds its frame fills in the return address and moves the locals there. -/
lemma called_innermost (h : machine.Calls) (hf : frame.isCalled = false)
    (listed : Listed [] [] (frame :: frames, machine)) :
    Called machine.next (machine.body.pc + 1 + (CallTarget.ofCode machine.code).operands)
      (frame.base + 6) (OpenFrame.pending frames) machine.execute := by
  have hp : machine.next.frames.pendingCalls
      = (frame.base + 6) :: OpenFrame.pending frames := by
    have hp := listed.pendingCalls
    rw [OpenFrame.pending_cons_opened hf, List.append_nil] at hp
    exact hp
  rw [execute_call h]
  exact call_of_pending machine.next _ _ hp

lemma called_owns (h : machine.Calls) (hf : frame.isCalled = false)
    (standing : Standing (frame :: frames, machine)) :
    machine.execute.machine.frames.Owns (frame.called machine :: frames) := by
  have call := called_innermost h hf standing.listed
  obtain ⟨-, -, -, owned⟩ := (owned_cons_opened hf).mp standing.owns
  refine (owned_cons_called rfl).mpr ⟨?_, owned⟩
  have h8 : frame.base + 6 + 2 = frame.base + 8 := by grind
  rw [call.locals, h8]
  rfl

/-- A return goes back to the caller of the innermost frame. -/
lemma returned_owns (h : machine.Returns) (hf : frame.isCalled)
    (standing : Standing (frame :: frames, machine)) :
    machine.execute.machine.frames.Owns frames := by
  obtain ⟨locals, owned⟩ := (owned_cons_called hf).mp standing.owns
  have back := dropFrame_of_stands machine.next
    (standing.stands frame (List.mem_cons_self ..)) locals (OpenFrame.kinds frames ++ [])
  rw [execute_return h, leave_of_return machine.next standing.listed.openFrames]
  split
  · exact back.owns owned
  · exact back.owns owned

/-- An abort that is trapped goes back to the caller of the frame that traps it. -/
lemma aborted_owns {inner : List OpenFrame} (h : machine.Aborts)
    (hi : ∀ f ∈ inner, f.isCalled ∧ f.kind.trapsAborts = false) (hf : frame.traps)
    (standing : Standing (inner ++ frame :: frames, machine)) :
    machine.execute.machine.frames.Owns frames := by
  have pass : ∀ f ∈ inner, f.passes := by
    intro f hm
    simp [OpenFrame.passes, OpenFrame.traps, (hi f hm).2]
  have stop : ¬ frame.passes := by simpa [OpenFrame.passes] using hf
  have taken : (inner ++ frame :: frames).takeWhile OpenFrame.passes = inner := by
    rw [List.takeWhile_append_of_pos pass, List.takeWhile_cons_of_neg stop, List.append_nil]
  have dropped : (inner ++ frame :: frames).dropWhile OpenFrame.passes = frame :: frames := by
    rw [List.dropWhile_append_of_pos pass, List.dropWhile_cons_of_neg stop]
  obtain ⟨left, -, -, rest⟩ := unwind_of_called machine.next standing.owns
    standing.stands (by rw [taken]; exact fun f hm => (hi f hm).1)
  rw [dropped] at rest
  obtain ⟨unwound, -, -, owns⟩ := rest
  have openFrames : machine.next.frames.openFrames
      = OpenFrame.kinds (inner ++ frame :: frames) := by
    have ho := standing.listed.openFrames
    rw [List.append_nil] at ho
    exact ho
  rw [← openFrames] at unwound
  rw [execute_abort h, leave_of_trap unwound]
  split
  · exact owns
  · exact owns

/-- **What a safe step does to frames that stand.** -/
theorem SafeStep.standing {before after : List OpenFrame × SpinMachine τ}
    (safe : SafeStep before after) (h : Standing before) : Standing after := by
  obtain ⟨step, fits, kept⟩ := safe
  have listed := step.listed h.listed
  have older : ∀ f ∈ before.1, f ∈ after.1 → f.Stands after.2.hub.memory :=
    fun f hb ha => (h.stands f hb).keep (kept f hb ha)
  cases step with
  | plain frames same =>
    refine ⟨listed, fun f hf => older f hf hf, ?_⟩
    have owns := h.owns
    simp only [SpinFrames.Owns] at owns ⊢
    rw [same.object, same.vars, same.locals]
    exact owns
  | @opened frames machine hc =>
    refine ⟨listed, ?_, opened_owns hc h.owns⟩
    intro f hf
    rcases List.mem_cons.mp hf with rfl | hold
    · rw [execute_openFrame hc]
      exact OpenFrame.stands_opened (fits _ (List.mem_cons_self ..))
    · exact older f hold (List.mem_cons_of_mem _ hold)
  | @called frame frames machine hc hf =>
    refine ⟨listed, ?_, called_owns hc hf h⟩
    intro f hm
    rcases List.mem_cons.mp hm with rfl | hold
    · obtain ⟨object, vars, locals, -⟩ := (owned_cons_opened hf).mp h.owns
      rw [(called_innermost hc hf h.listed).memory]
      exact (h.stands frame (List.mem_cons_self ..)).called object vars locals
    · exact older f (List.mem_cons_of_mem _ hold) (List.mem_cons_of_mem _ hold)
  | @returned frame frames machine hc hf =>
    exact ⟨listed, fun f hm => older f (List.mem_cons_of_mem _ hm) hm, returned_owns hc hf h⟩
  | @aborted inner frame frames machine hc hi hf =>
    refine ⟨listed, fun f hm => older f ?_ hm, aborted_owns hc hi hf h⟩
    exact List.mem_append_right _ (List.mem_cons_of_mem _ hm)

/-- **Frames stand** all through a safe run. -/
theorem SafeRun.standing {before after : List OpenFrame × SpinMachine τ}
    (run : SafeRun before after) (h : Standing before) : Standing after := by
  induction run with
  | refl => exact h
  | tail _ last ih => exact last.standing ih

end SpinMachine

end P1Chip
