import P1Chip.Proofs.Spin.Standing

/-!
# Where aborts end

An abort gives up the running method and its callers, up to the innermost method that was called in
a frame that traps aborts.  The interpreter finds it by taking kinds of frames from its list, one
for each method that it leaves.  But a frame is in that list from the moment it is opened: if the
arguments of a call are still being computed when the abort comes, the kind of a frame without a
method is taken for that of a method, and all further ones are off by one.  Besides, the place of
that frame stays in the list of pending calls.

* `Resumed` — how an abort should leave the method that trapped it.
* `AbortEnds` — where an abort should end.
* **`SpinMachine.abortEnds_iff`** — it ends there exactly if it leaves no frame that was opened but
  not called.
-/

namespace P1Chip

open Relation

variable {τ : Type}

/-- The caller of a frame goes on after an abort: with its own pointers, behind its call, and with
the value of the abort on its stack unless the frame drops results. -/
structure Resumed (frame : OpenFrame) (value : UInt32) (after : SpinMachine τ) : Prop where
  object : after.frames.object = frame.object.toUInt16.toUInt32
  vars : after.frames.vars = frame.vars.toUInt16.toUInt32
  locals : after.frames.locals = frame.locals.toUInt16.toUInt32
  pc : ∀ back, frame.back = some back → after.body.pc = back.toUInt16.toUInt32
  stack : if frame.kind.dropsResult then after.frames.stack.toUInt16 = frame.base.toUInt16
    else after.frames.stack.toUInt16 = (frame.base + 4).toUInt16 ∧ after.pop.1 = value

/-- Where an abort should end, with all `frames` that are open: in the innermost method that was
called in a frame that traps it, and if there is none with the cog stopped.  The lists of the
interpreter then hold the frames outside of that one. -/
structure AbortEnds (frames : List OpenFrame) (machine after : SpinMachine τ) : Prop where
  place : match frames.dropWhile OpenFrame.passes with
    | [] => after.hub = (machine.hub.execute machine.body.id .stopCog machine.body.id).2
    | frame :: _ => Resumed frame machine.result after
  openFrames : after.frames.openFrames
    = OpenFrame.kinds (frames.dropWhile OpenFrame.passes).tail
  pendingCalls : after.frames.pendingCalls
    = OpenFrame.pending (frames.dropWhile OpenFrame.passes).tail

/-- The frame that traps an abort is not pending. -/
lemma OpenFrame.pending_passes (frames : List OpenFrame) :
    pending frames
      = pending (frames.takeWhile passes) ++ pending (frames.dropWhile passes).tail := by
  induction frames with
  | nil => rfl
  | cons frame frames ih =>
    by_cases passes : frame.passes
    · rw [List.takeWhile_cons_of_pos passes, List.dropWhile_cons_of_pos passes]
      cases called : frame.isCalled with
      | true => rw [pending_cons_called called, pending_cons_called called, ih]
      | false => rw [pending_cons_opened called, pending_cons_opened called, ih, List.cons_append]
    · have traps : frame.isCalled ∧ frame.kind.trapsAborts := by
        simpa [OpenFrame.passes, OpenFrame.traps] using passes
      rw [List.takeWhile_cons_of_neg passes, List.dropWhile_cons_of_neg passes,
        pending_cons_called traps.1]
      rfl

/-- Back in its caller, only the value is missing. -/
lemma BackIn.resumed {frame : OpenFrame} {left : SpinMachine τ} (back : BackIn frame left)
    (fits : FrameFits frame.base) (value : UInt32) :
    Resumed frame value (if frame.kind.dropsResult then left else left.push value) := by
  split
  · next drops =>
    refine ⟨back.object, back.vars, back.locals, back.pc, ?_⟩
    rw [if_pos drops]
    exact back.stack
  · next keeps =>
    refine ⟨back.object, back.vars, back.locals, back.pc, ?_⟩
    have stack : left.frames.stack.toNat % 65536 = frame.base.toNat % 65536 := by
      have hs := congrArg UInt16.toNat back.stack
      rwa [UInt32.toNat_toUInt16, UInt32.toNat_toUInt16] at hs
    simp only [FrameFits] at fits
    rw [if_neg keeps]
    refine ⟨?_, SpinMachine.pop_push (by omega) value⟩
    show (left.frames.stack + 4).toUInt16 = (frame.base + 4).toUInt16
    rw [UInt32.toUInt16_add, back.stack, UInt32.toUInt16_add]

namespace SpinMachine

variable [Timebase τ] {frames : List OpenFrame} {machine : SpinMachine τ}

/-- An abort leaves the list of pending calls alone. -/
lemma abort_pendingCalls (standing : Standing (frames, machine)) (h : machine.Aborts) :
    machine.execute.machine.frames.pendingCalls = OpenFrame.pending frames := by
  rw [execute_abort h]
  refine (leave_pendingCalls machine.next machine.result true).trans ?_
  exact standing.listed.pendingCalls.trans (List.append_nil _)

/-- An abort ends where it should if all frames that it leaves were called. -/
lemma abortEnds_of_called (standing : Standing (frames, machine)) (h : machine.Aborts)
    (called : ∀ frame ∈ frames.takeWhile OpenFrame.passes, frame.isCalled) :
    AbortEnds frames machine machine.execute.machine := by
  have pendingCalls := abort_pendingCalls standing h
  rw [OpenFrame.pending_passes, OpenFrame.pending_eq_nil_iff.mpr called, List.nil_append]
    at pendingCalls
  have openFrames : machine.next.frames.openFrames = OpenFrame.kinds frames :=
    standing.listed.openFrames.trans (List.append_nil _)
  obtain ⟨left, hub, id, rest⟩ := unwind_of_called machine.next standing.owns
    standing.stands called
  have fits : ∀ frame ∈ frames.dropWhile OpenFrame.passes, FrameFits frame.base :=
    fun frame hf => (standing.stands frame (List.dropWhile_subset _ hf)).fits
  rw [← openFrames] at rest
  rw [execute_abort h] at pendingCalls ⊢
  cases outer : frames.dropWhile OpenFrame.passes with
  | nil =>
    rw [outer] at rest pendingCalls
    obtain ⟨unwound, none⟩ := rest
    have stopped : machine.next.leave machine.result true
        = (left.service .stopCog left.body.id).2 := by
      rw [leave, unwound]
    refine ⟨?_, ?_, ?_⟩
    · rw [outer]
      show (machine.next.leave machine.result true).hub = _
      rw [stopped]
      show (left.hub.execute left.body.id .stopCog left.body.id).2 = _
      rw [hub, id]
      rfl
    · rw [outer]
      show (machine.next.leave machine.result true).frames.openFrames = _
      rw [stopped]
      exact none
    · rw [outer]
      exact pendingCalls
  | cons frame outside =>
    rw [outer] at rest pendingCalls fits
    obtain ⟨unwound, kinds, back, -⟩ := rest
    have resumed := leave_of_trap unwound machine.result
    refine ⟨?_, ?_, ?_⟩
    · rw [outer]
      show Resumed frame machine.result (machine.next.leave machine.result true)
      rw [resumed]
      exact back.resumed (fits frame (List.mem_cons_self ..)) machine.result
    · rw [outer]
      show (machine.next.leave machine.result true).frames.openFrames = _
      rw [resumed]
      split <;> exact kinds
    · rw [outer]
      exact pendingCalls

/-- **Where aborts end.**  In a run that starts without frames, nests calls properly and leaves the
words of open frames alone, an abort ends where it should if and only if every frame that it leaves
was called: none of them was only opened, with the arguments of its call still being computed. -/
theorem abortEnds_iff {start : SpinMachine τ} (openFrames : start.frames.openFrames = [])
    (pendingCalls : start.frames.pendingCalls = []) (run : SafeRun ([], start) (frames, machine))
    (h : machine.Aborts) :
    AbortEnds frames machine machine.execute.machine
      ↔ ∀ frame ∈ frames.takeWhile OpenFrame.passes, frame.isCalled := by
  have standing := SafeRun.standing run (standing_nil openFrames pendingCalls)
  constructor
  · intro ends
    have pending := abort_pendingCalls standing h
    rw [ends.pendingCalls, OpenFrame.pending_passes frames] at pending
    exact OpenFrame.pending_eq_nil_iff.mp (List.self_eq_append_left.mp pending)
  · exact abortEnds_of_called standing h

/-! ### Two runs -/

instance (machine : SpinMachine τ) : Decidable machine.Opens :=
  inferInstanceAs (Decidable (_ < _))

instance (machine : SpinMachine τ) : Decidable machine.Calls :=
  inferInstanceAs (Decidable (_ ∧ _))

instance (machine : SpinMachine τ) : Decidable machine.Aborts :=
  inferInstanceAs (Decidable (_ ∨ _))

/-- The next state of a run that only opens frames and calls methods in them. -/
def follow : List OpenFrame × SpinMachine τ → List OpenFrame × SpinMachine τ
  | (frames, machine) =>
    let frames :=
      if machine.Opens then .opened machine :: frames
      else frames.modifyHead (·.called machine)
    (frames, machine.execute.machine)

lemma safeStep_follow (state : List OpenFrame × SpinMachine τ)
    (step : state.2.Opens ∨ state.2.Calls ∧ state.1.head?.any (!·.isCalled))
    (fits : ∀ frame ∈ (follow state).1, FrameFits frame.base)
    (kept : ∀ frame ∈ state.1, frame ∈ (follow state).1 →
      frame.Kept state.2.hub.memory (follow state).2.hub.memory) :
    SafeStep state (follow state) := by
  refine ⟨?_, fits, kept⟩
  rcases state with ⟨frames, machine⟩
  by_cases opens : machine.Opens
  · rw [follow, if_pos opens]
    exact .opened frames opens
  · obtain ⟨calls, head⟩ := step.resolve_left opens
    rw [follow, if_neg opens]
    cases frames with
    | nil => cases head
    | cons frame frames => exact .called frame frames calls (by simpa using head)

/-- An object at `10` with three methods.  Method 2 aborts.  Method 3 calls it; method 1 calls it
for an argument of a call that it is about to make.  The code at 0 calls method 1 and the code at 8
calls method 3, both in frames that trap aborts. -/
def abortMemory : Memory :=
  [(0x00, 0x02), (0x01, 0x05), (0x02, 0x01), (0x08, 0x02), (0x09, 0x05), (0x0A, 0x03),
    (0x14, 0x10), (0x18, 0x14), (0x1C, 0x18),
    (0x20, 0x00), (0x21, 0x00), (0x22, 0x05), (0x23, 0x02),
    (0x24, 0x30),
    (0x28, 0x00), (0x29, 0x05), (0x2A, 0x02)].foldl
    (fun memory (entry : UInt16 × UInt8) => memory.setByte entry.1 entry.2)
    ⟨.replicate halfSize 0, .replicate halfSize 0⟩

/-- The run that starts at an address, after so many bytecodes. -/
def abortRun (pc : UInt32) : Nat → List OpenFrame × SpinMachine Rat
  | 0 =>
    ([], { frames := { SpinFrames.new with
             object := 0x10, vars := 0x30, locals := 0x34, stack := 0x38 }
           body := { CogBody.new 0 0 0 0 with pc }
           hub := .new abortMemory })
  | steps + 1 => follow (abortRun pc steps)

/-- From method 2 through method 3 an abort ends where it should. -/
theorem abortEnds_of_calledFrames :
    AbortEnds (abortRun 8 4).1 (abortRun 8 4).2 (abortRun 8 4).2.execute.machine := by
  have first : SafeStep (abortRun 8 0) (abortRun 8 1) :=
    safeStep_follow _ (by decide +kernel) (by decide +kernel) (by decide +kernel)
  have second : SafeStep (abortRun 8 1) (abortRun 8 2) :=
    safeStep_follow _ (by decide +kernel) (by decide +kernel) (by decide +kernel)
  have third : SafeStep (abortRun 8 2) (abortRun 8 3) :=
    safeStep_follow _ (by decide +kernel) (by decide +kernel) (by decide +kernel)
  have fourth : SafeStep (abortRun 8 3) (abortRun 8 4) :=
    safeStep_follow _ (by decide +kernel) (by decide +kernel) (by decide +kernel)
  have run : SafeRun (abortRun 8 0) (abortRun 8 4) :=
    (((ReflTransGen.single first).tail second).tail third).tail fourth
  have aborts : (abortRun 8 4).2.Aborts := by decide +kernel
  exact (abortEnds_iff rfl rfl run aborts).mpr (by decide +kernel)

/-- From method 2 through method 1 it does not: the frame for the call that method 1 is about to
make stands in between, and the program goes on somewhere else. -/
theorem not_abortEnds_of_openedFrame :
    SafeRun (abortRun 0 0) (abortRun 0 5) ∧ (abortRun 0 5).2.Aborts
      ∧ ¬ AbortEnds (abortRun 0 5).1 (abortRun 0 5).2 (abortRun 0 5).2.execute.machine := by
  have first : SafeStep (abortRun 0 0) (abortRun 0 1) :=
    safeStep_follow _ (by decide +kernel) (by decide +kernel) (by decide +kernel)
  have second : SafeStep (abortRun 0 1) (abortRun 0 2) :=
    safeStep_follow _ (by decide +kernel) (by decide +kernel) (by decide +kernel)
  have third : SafeStep (abortRun 0 2) (abortRun 0 3) :=
    safeStep_follow _ (by decide +kernel) (by decide +kernel) (by decide +kernel)
  have fourth : SafeStep (abortRun 0 3) (abortRun 0 4) :=
    safeStep_follow _ (by decide +kernel) (by decide +kernel) (by decide +kernel)
  have fifth : SafeStep (abortRun 0 4) (abortRun 0 5) :=
    safeStep_follow _ (by decide +kernel) (by decide +kernel) (by decide +kernel)
  have run : SafeRun (abortRun 0 0) (abortRun 0 5) :=
    ((((ReflTransGen.single first).tail second).tail third).tail fourth).tail fifth
  refine ⟨run, by decide +kernel, ?_⟩
  intro ends
  -- the innermost frame that traps aborts is the outermost one of all
  obtain ⟨frame, trapped, back⟩ : ∃ frame,
      (abortRun 0 5).1.dropWhile OpenFrame.passes = [frame] ∧ frame.back = some 3 :=
    ⟨(OpenFrame.opened (abortRun 0 0).2).called (abortRun 0 1).2, by decide +kernel,
      by decide +kernel⟩
  have place := ends.place
  rw [trapped] at place
  have pc : (abortRun 0 5).2.execute.machine.body.pc ≠ 3 := by decide +kernel
  exact pc (place.pc 3 back)

end SpinMachine

end P1Chip
