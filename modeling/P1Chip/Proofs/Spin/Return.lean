import P1Chip.Proofs.Spin.Saved

/-!
# Calls give back what they took

A method is called in two stages and left in a third, and between them the arguments and the method
itself do as they like, calls of their own included.  If they close the frames that they open, and
do not touch the words that belong to the call, then the caller finds everything as it left it:
its pointers, its place in the code, the open frames, and its stack with nothing but the result
added.

* `CompleteCall` — a call from the bytecode that opens its frame to the return.
* `Restored` — how the caller finds things afterwards.
* **`CompleteCall.restored`** — every complete call restores its caller.
* `CompleteCall.of_arguments` — a list of arguments makes a call complete.
-/

namespace P1Chip

namespace SpinMachine

variable {τ : Type}

/-- Arguments that are pushed behind `used` bytes of a frame do not reach what it keeps, as long as
they do not go all the way around hub memory. -/
lemma sameBytes_foldl_push {base : UInt32} (aligned : base.toNat % 4 = 0) (values : List UInt32) :
    ∀ (machine : SpinMachine τ) (used : Nat),
      machine.frames.stack = base + UInt32.ofNat used → used % 4 = 0 → 12 ≤ used →
      used + 4 * values.length ≤ 65536 →
      Memory.SameBytes base 6 machine.hub.memory (values.foldl push machine).hub.memory := by
  induction values with
  | nil => exact fun _ _ _ _ _ _ _ _ => rfl
  | cons value values ih =>
    intro machine used hs h4 h12 hl i hi
    rw [List.length_cons] at hl
    have hnext : machine.frames.stack + 4 = base + UInt32.ofNat (used + 4) := by
      rw [hs, UInt32.ofNat_add, UInt32.add_assoc]
      rfl
    have rest := ih (machine.push value) (used + 4) hnext (by omega) (by omega) (by omega) i hi
    refine rest.trans (Memory.byteAt_writeLong_of_ne _ ?_ _)
    have h6 : i.toNat < 6 := UInt32.lt_iff_toNat_lt.mp hi
    rw [hs]
    simp only [UInt32.toNat_toUInt16, UInt32.toNat_add, UInt32.toNat_ofNat']
    omega

variable [Timebase τ]

/-- A call with all that belongs to it.  The `caller` opens a frame, computes the arguments and
then is `calling`; the method ends where it is `returning`.  On the way, both close what they
open.  When the method returns, the bytes in which the frame remembers the caller are what they
were: the pointers since the frame was opened, and the return address since the call. -/
structure CompleteCall (caller calling returning : SpinMachine τ) : Prop where
  opens : caller.Opens
  aligned : caller.frames.stack.toNat % 4 = 0
  fits : FrameFits caller.frames.stack
  arguments : Closed caller.execute.machine calling
  calls : calling.Calls
  method : Closed calling.execute.machine returning
  methodLocals : returning.frames.locals = calling.execute.machine.frames.locals
  pointersKept : Memory.SameBytes caller.frames.stack 6 caller.execute.machine.hub.memory
    returning.hub.memory
  backKept : Memory.SameBytes (caller.frames.stack + 6) 2 calling.execute.machine.hub.memory
    returning.hub.memory
  returns : returning.Returns

/-- The caller has its pointers back, modulo 64 kilobytes, and goes on at `back`.  On its stack
there is nothing new but the result, unless that is dropped. -/
structure Restored (caller : SpinMachine τ) (back result : UInt32) (after : SpinMachine τ) :
    Prop where
  object : after.frames.object = caller.frames.object.toUInt16.toUInt32
  vars : after.frames.vars = caller.frames.vars.toUInt16.toUInt32
  locals : after.frames.locals = caller.frames.locals.toUInt16.toUInt32
  pc : after.body.pc = back.toUInt16.toUInt32
  openFrames : after.frames.openFrames = caller.frames.openFrames
  pendingCalls : after.frames.pendingCalls = caller.frames.pendingCalls
  stack : if caller.code &&& 1 = 0 then
      after.frames.stack = caller.frames.stack + 4 ∧ after.pop.1 = result
    else after.frames.stack = caller.frames.stack

/-! ## The stages of a call -/

namespace CompleteCall

variable {caller calling returning : SpinMachine τ}

/-- When the method is called, the frame that was opened is the innermost one. -/
lemma lists (call : CompleteCall caller calling returning) :
    calling.frames.openFrames = .ofCode caller.code :: caller.frames.openFrames
      ∧ calling.frames.pendingCalls
        = (caller.frames.stack + 6) :: caller.frames.pendingCalls := by
  have h := call.arguments.lists
  rw [execute_openFrame call.opens] at h
  change calling.frames.openFrames = (caller.next.openFrame _).frames.openFrames
    ∧ calling.frames.pendingCalls = (caller.next.openFrame _).frames.pendingCalls at h
  rw [openFrame_frames] at h
  exact h

lemma called (call : CompleteCall caller calling returning) :
    Called calling.next (calling.body.pc + 1 + (CallTarget.ofCode calling.code).operands)
      (caller.frames.stack + 6) caller.frames.pendingCalls calling.execute := by
  rw [execute_call call.calls]
  exact call_of_pending calling.next _ _ call.lists.2

/-- The frame keeps the caller's pointers until the method returns. -/
lemma saved (call : CompleteCall caller calling returning) :
    Saved returning.hub.memory caller.frames.stack caller.frames.object caller.frames.vars
      caller.frames.locals := by
  have even : caller.frames.stack.toNat % 2 = 0 := by
    have := call.aligned
    omega
  have opened : Saved caller.execute.machine.hub.memory caller.frames.stack
      caller.frames.object caller.frames.vars caller.frames.locals := by
    rw [execute_openFrame call.opens]
    exact openFrame_saved caller.next _ call.fits
  exact opened.sameBytes even (by decide) call.pointersKept

/-- So it does with the return address, once the call has filled it in. -/
lemma savedBack (call : CompleteCall caller calling returning) :
    returning.hub.memory.readWord (caller.frames.stack + 6)
      = (calling.body.pc + 1 + (CallTarget.ofCode calling.code).operands).toUInt16 := by
  have fits := call.fits
  simp only [FrameFits, halfSize] at fits
  have even : (caller.frames.stack + 6).toNat % 2 = 0 := by
    have := call.aligned
    simp only [UInt32.toNat_add, UInt32.reduceToNat]
    omega
  have kept := call.backKept.readWord even (k := 0) rfl (by decide) (by decide)
  rw [UInt32.add_zero] at kept
  rw [kept, call.called.memory]
  refine Memory.readWord_writeWord _ rfl ?_ _
  simp only [UInt32.toNat_add, UInt32.reduceToNat, halfSize]
  omega

/-- **A complete call restores its caller**, and none of its three bytecodes raises a fault. -/
theorem restored (call : CompleteCall caller calling returning) :
    caller.execute.fault? = none ∧ calling.execute.fault? = none
      ∧ returning.execute.fault? = none
      ∧ Restored caller (calling.body.pc + 1 + (CallTarget.ofCode calling.code).operands)
        returning.result returning.execute.machine := by
  have opened : caller.execute.fault? = none := by
    rw [execute_openFrame call.opens]
    rfl
  have left := execute_return call.returns
  refine ⟨opened, call.called.fault, by rw [left]; rfl, ?_⟩
  -- the method returns with the lists that it was called with, and the same locals
  have lists := call.method.lists
  rw [call.called.openFrames, call.called.pendingCalls] at lists
  have openFrames : returning.next.frames.openFrames
      = .ofCode caller.code :: caller.frames.openFrames := lists.1.trans call.lists.1
  have locals : returning.next.frames.locals = caller.frames.stack + 8 := by
    have hl : returning.frames.locals = caller.frames.stack + 6 + 2 :=
      call.methodLocals.trans call.called.locals
    exact hl.trans (by grind)
  let dropped := returning.next.dropFrame caller.frames.openFrames
  have frames := dropFrame_of_saved returning.next call.saved
    (congrArg UInt32.toUInt16 locals) caller.frames.openFrames
  have object : dropped.frames.object = caller.frames.object.toUInt16.toUInt32 := by rw [frames]
  have vars : dropped.frames.vars = caller.frames.vars.toUInt16.toUInt32 := by rw [frames]
  have callerLocals : dropped.frames.locals = caller.frames.locals.toUInt16.toUInt32 := by
    rw [frames]
  have pc := dropFrame_pc_of_back returning.next call.savedBack
    (congrArg UInt32.toUInt16 locals) caller.frames.openFrames
  have pendingCalls : dropped.frames.pendingCalls = caller.frames.pendingCalls := lists.2
  have stack : dropped.frames.stack = caller.frames.stack := by
    rw [frames]
    show returning.next.frames.locals - 8 = caller.frames.stack
    rw [locals]
    grind
  rw [left, leave_of_return returning.next openFrames]
  split
  · next drops =>
    have hd : caller.code &&& 1 ≠ 0 := by simpa [FrameKind.ofCode] using drops
    refine ⟨object, vars, callerLocals, pc, rfl, pendingCalls, ?_⟩
    rw [if_neg hd]
    exact stack
  · next keeps =>
    have hk : caller.code &&& 1 = 0 := by simpa [FrameKind.ofCode] using keeps
    have fits := call.fits
    simp only [FrameFits] at fits
    refine ⟨object, vars, callerLocals, pc, rfl, pendingCalls, ?_⟩
    rw [if_pos hk]
    exact ⟨congrArg (· + 4) stack, pop_push (by rw [stack]; omega) _⟩

/-- **A method that is called with a list of arguments** makes a complete call if it closes what it
opens and keeps the bytes of its frame.  The arguments cannot touch them, as long as they do not go
all the way around hub memory. -/
theorem of_arguments (opens : caller.Opens) (aligned : caller.frames.stack.toNat % 4 = 0)
    (fits : FrameFits caller.frames.stack) {values : List UInt32}
    (few : 12 + 4 * values.length ≤ 65536) (pushed : calling = values.foldl push caller.execute.machine)
    (calls : calling.Calls) (method : Closed calling.execute.machine returning)
    (methodLocals : returning.frames.locals = calling.execute.machine.frames.locals)
    (methodKeeps : Memory.SameBytes caller.frames.stack 8 calling.execute.machine.hub.memory
      returning.hub.memory) (returns : returning.Returns) :
    CompleteCall caller calling returning := by
  subst pushed
  let calling := values.foldl push caller.execute.machine
  have even : caller.frames.stack.toNat % 2 = 0 := by omega
  have argumentsKeep : Memory.SameBytes caller.frames.stack 6 caller.execute.machine.hub.memory
      calling.hub.memory := by
    refine sameBytes_foldl_push aligned values _ 12 ?_ (by decide) (by decide) few
    rw [execute_openFrame opens]
    exact congrArg SpinFrames.stack (openFrame_frames caller.next _)
  have arguments : Closed caller.execute.machine calling := .single (.arguments values)
  have pending : calling.frames.pendingCalls
      = (caller.frames.stack + 6) :: caller.frames.pendingCalls := by
    rw [arguments.lists.2, execute_openFrame opens]
    exact congrArg SpinFrames.pendingCalls (openFrame_frames caller.next _)
  have callKeeps : Memory.SameBytes caller.frames.stack 6 calling.hub.memory
      calling.execute.machine.hub.memory := by
    have called := call_of_pending calling.next (.ofCode calling.code) calling.body.pc pending
    rw [execute_call calls, called.memory]
    exact .writeWord even rfl (by decide) (by decide) _
  have pointersKept := methodKeeps.part 0 6 (by decide)
  rw [UInt32.add_zero] at pointersKept
  exact {
    opens, aligned, fits, arguments, calls, method, methodLocals, returns
    pointersKept := (argumentsKeep.trans callKeeps).trans pointersKept
    backKept := methodKeeps.part 6 2 (by decide) }

end CompleteCall

/-! ### A call with one argument -/

/-- At the start of memory a method is called, whose entry is in the table at `40`.  At `50` it
returns its result variable. -/
def oneCallMemory : Memory :=
  ((((Memory.mk (.replicate halfSize 0) (.replicate halfSize 0)).setByte 1 0x05).setByte
    2 0x01).setByte 0x44 0x10).setByte 0x50 0x32

/-- The caller, before it opens the frame. -/
def oneCallCaller : SpinMachine Rat where
  frames := { SpinFrames.new with object := 0x40, vars := 0x80, locals := 0x90, stack := 0x100 }
  body := .new 0 0 0 0
  hub := .new oneCallMemory

/-- The caller, with one argument on its stack. -/
def oneCallCalling : SpinMachine Rat :=
  [7].foldl push oneCallCaller.execute.machine

theorem restored_of_oneCall :
    CompleteCall oneCallCaller oneCallCalling oneCallCalling.execute.machine
      ∧ Restored oneCallCaller
        (oneCallCalling.body.pc + 1 + (CallTarget.ofCode oneCallCalling.code).operands)
        oneCallCalling.execute.machine.result
        oneCallCalling.execute.machine.execute.machine := by
  have opens : oneCallCaller.Opens := by
    show oneCallCaller.code < 4
    decide +kernel
  have calls : oneCallCalling.Calls := by
    show 5 ≤ oneCallCalling.code ∧ oneCallCalling.code < 8
    decide +kernel
  have returns : oneCallCalling.execute.machine.Returns := by
    show oneCallCalling.execute.machine.code = 0x32
      ∨ oneCallCalling.execute.machine.code = 0x33
    decide +kernel
  have fits : FrameFits oneCallCaller.frames.stack := by decide
  have pushed : oneCallCalling = [7].foldl push oneCallCaller.execute.machine := rfl
  have call : CompleteCall oneCallCaller oneCallCalling oneCallCalling.execute.machine :=
    .of_arguments opens (by decide) fits (by decide) pushed calls .refl rfl (fun _ _ => rfl)
      returns
  exact ⟨call, call.restored.2.2.2⟩

end SpinMachine

end P1Chip
