import P1Chip.Proofs.Spin.Saved

/-!
# How a called method begins

* `Invocation` — a method and what it is called with.
* `SpinMachine.Begins` — the machine is about to carry out the first bytecode of a method.
* `SpinMachine.Pushed`, `SpinMachine.Opened` — the machine after some pushes, and in a new frame.
* **`SpinMachine.begins_call`** — a method that is called begins.
-/

namespace P1Chip

open Memory

variable {τ : Type}

/-- What a method needs to begin: its object, its entry in the table of the object, and what it is
called with. -/
structure Invocation where
  object : UInt32
  vars : UInt32
  /-- Where the method starts, counted from its object. -/
  start : UInt16
  /-- The size of its own variables. -/
  size : UInt16
  arguments : List UInt32

namespace SpinMachine

/-- A method's entry in the table of its object. -/
def methodEntry (object : UInt32) (method : UInt8) : UInt32 :=
  object + method.toUInt32 * 4

/-- A method of the current object, when it is called with some arguments. -/
def invocation (machine : SpinMachine τ) (method : UInt8) (arguments : List UInt32) :
    Invocation where
  object := machine.frames.object
  vars := machine.frames.vars
  start := machine.hub.memory.readWord (methodEntry machine.frames.object method)
  size := machine.hub.memory.readWord (methodEntry machine.frames.object method + 2)
  arguments

/-- A method is about to begin: the pointers are where it wants them, its result is zero, the
arguments stand behind its result, and the stack starts behind its own variables.  Pointers count
modulo 64 kilobytes. -/
structure Begins (machine : SpinMachine τ) (first : Invocation) : Prop where
  object : machine.frames.object.toUInt16 = first.object.toUInt16
  vars : machine.frames.vars.toUInt16 = first.vars.toUInt16
  pc : machine.body.pc.toUInt16 = (first.object + first.start.toUInt32).toUInt16
  result : machine.hub.memory.readLong machine.frames.locals = 0
  argument : ∀ i (_ : i < first.arguments.length),
    machine.hub.memory.readLong (machine.frames.locals + 4 * .ofNat (i + 1)) = first.arguments[i]
  stack : machine.frames.stack.toUInt16
    = (machine.frames.locals + 4 + 4 * .ofNat first.arguments.length
      + first.size.toUInt32).toUInt16

/-! ## Frames and arguments -/

/-- The machine when some values were pushed. -/
structure Pushed (before : SpinMachine τ) (values : List UInt32) (after : SpinMachine τ) :
    Prop where
  frames : after.frames
    = { before.frames with stack := before.frames.stack + 4 * UInt32.ofNat values.length }
  outside : SameOutside before.frames.stack values.length before.hub.memory after.hub.memory
  value : ∀ i (_ : i < values.length),
    after.hub.memory.readLong (before.frames.stack + 4 * .ofNat i) = values[i]

lemma push_stack (machine : SpinMachine τ) (value : UInt32) :
    (machine.push value).frames.stack = machine.frames.stack + 4 :=
  rfl

lemma push_memory (machine : SpinMachine τ) (value : UInt32) :
    (machine.push value).hub.memory = machine.hub.memory.writeLong machine.frames.stack value :=
  rfl

/-- The longs behind a value that was pushed are those behind its own, one further. -/
lemma push_stack_add (machine : SpinMachine τ) (value : UInt32) (i : Nat) :
    (machine.push value).frames.stack + 4 * .ofNat i
      = machine.frames.stack + 4 * .ofNat (i + 1) := by
  rw [push_stack, UInt32.ofNat_add]
  grind

lemma push_aligned {machine : SpinMachine τ} (aligned : machine.frames.stack.toNat % 4 = 0)
    (value : UInt32) : (machine.push value).frames.stack.toNat % 4 = 0 := by
  rw [push_stack, UInt32.toNat_add]
  simp only [UInt32.reduceToNat]
  omega

/-- A push moves the stack by a long, as long as it stays in the lower half. -/
lemma toNat_push_stack {machine : SpinMachine τ}
    (fits : machine.frames.stack.toNat % 65536 + 4 ≤ halfSize) (value : UInt32) :
    (machine.push value).frames.stack.toNat % 65536
      = machine.frames.stack.toNat % 65536 + 4 := by
  rw [halfSize] at fits
  exact @toNat_add_longs machine.frames.stack 1 (by omega)

lemma Pushed.nil (machine : SpinMachine τ) : machine.Pushed [] machine where
  frames := by
    have same : machine.frames.stack + 4 * .ofNat 0 = machine.frames.stack := by simp
    show _ = { machine.frames with stack := machine.frames.stack + 4 * UInt32.ofNat 0 }
    rw [same]
  outside := fun _ _ => rfl
  value := nofun

/-- One value is pushed before some others. -/
lemma Pushed.cons {machine after : SpinMachine τ} {value : UInt32} {values : List UInt32}
    (aligned : machine.frames.stack.toNat % 4 = 0)
    (fits : machine.frames.stack.toNat % 65536 + 4 * (values.length + 1) ≤ halfSize)
    (rest : (machine.push value).Pushed values after) : machine.Pushed (value :: values) after where
  frames := by
    have frames := rest.frames
    rw [push_stack_add] at frames
    exact frames
  outside := by
    have head : InLongs machine.frames.stack (values.length + 1) machine.frames.stack := by
      simp only [InLongs]
      omega
    have first : SameOutside machine.frames.stack (values.length + 1) machine.hub.memory
        (machine.push value).hub.memory := .writeLong_of_inLongs aligned head value
    have others : SameOutside (machine.frames.stack + 4 * .ofNat 1) values.length
        (machine.push value).hub.memory after.hub.memory := rest.outside
    exact first.trans (others.of_part (by omega) fits)
  value := by
    intro i hi
    cases i with
    | zero =>
      have start : machine.frames.stack + 4 * .ofNat 0 = machine.frames.stack := by simp
      have before : ¬ InLongs (machine.push value).frames.stack values.length
          machine.frames.stack := by
        rw [InLongs, toNat_push_stack (by omega)]
        omega
      show after.hub.memory.readLong _ = value
      rw [start, rest.outside.readLong (push_aligned aligned value) before, push_memory]
      exact readLong_writeLong _ (by omega) value
    | succ i =>
      have later := rest.value i (Nat.lt_of_succ_lt_succ hi)
      rw [push_stack_add] at later
      exact later

/-- Values that are pushed make a row of longs. -/
lemma pushed_foldl (values : List UInt32) {machine : SpinMachine τ}
    (aligned : machine.frames.stack.toNat % 4 = 0)
    (fits : machine.frames.stack.toNat % 65536 + 4 * values.length ≤ halfSize) :
    machine.Pushed values (values.foldl push machine) := by
  induction values generalizing machine with
  | nil => exact .nil machine
  | cons value values ih =>
    rw [List.length_cons] at fits
    have room : (machine.push value).frames.stack.toNat % 65536 + 4 * values.length
        ≤ halfSize := by
      rw [toNat_push_stack (by omega)]
      omega
    exact .cons aligned fits (ih (push_aligned aligned value) room)

/-- The machine when a frame was opened. -/
structure Opened (before : SpinMachine τ) (after : SpinMachine τ) : Prop where
  object : after.frames.object = before.frames.object
  vars : after.frames.vars = before.frames.vars
  stack : after.frames.stack = before.frames.stack + 12
  pending : after.frames.pendingCalls
    = (before.frames.stack + 6) :: before.frames.pendingCalls
  outside : SameOutside before.frames.stack 3 before.hub.memory after.hub.memory
  result : after.hub.memory.readLong (before.frames.stack + 8) = 0

/-- A frame is three longs, with room for the result in the last one. -/
lemma opened_openFrame {machine : SpinMachine τ} (kind : FrameKind)
    (aligned : machine.frames.stack.toNat % 4 = 0) (fits : FrameFits machine.frames.stack) :
    machine.Opened (machine.openFrame kind) := by
  have frames := openFrame_frames machine kind
  simp only [FrameFits, halfSize] at fits
  have inside (k : UInt32) (low : k.toNat < 12) :
      InLongs machine.frames.stack 3 (machine.frames.stack + k) := by
    simp only [InLongs, UInt32.toNat_add]
    omega
  have first := inside 0 (by decide)
  rw [UInt32.add_zero] at first
  refine ⟨by rw [frames], by rw [frames], by rw [frames], by rw [frames], ?_, ?_⟩
  · rw [openFrame_memory]
    exact ((((SameOutside.writeWord_of_inLongs aligned first _).trans
      (.writeWord_of_inLongs aligned (inside 2 (by decide)) _)).trans
      (.writeWord_of_inLongs aligned (inside 4 (by decide)) _)).trans
      (.writeWord_of_inLongs aligned (inside 6 (by decide)) _)).trans
      (.writeLong_of_inLongs aligned (inside 8 (by decide)) _)
  · rw [openFrame_memory]
    refine readLong_writeLong _ ?_ _
    simp only [halfSize, UInt32.toNat_add, UInt32.reduceToNat]
    omega

/-! ## Calls -/

/-- What a call of a method of the current object does in a frame that was opened. -/
lemma call_own (machine : SpinMachine τ) (pc : UInt32) {returnAddress : UInt32}
    {rest : List UInt32} (pending : machine.frames.pendingCalls = returnAddress :: rest) :
    machine.call .own pc =
      let memory := machine.hub.memory.writeWord returnAddress (machine.body.pc + 1).toUInt16
      let entry := methodEntry machine.frames.object (machine.hub.memory.readByte machine.body.pc)
      let frames : SpinFrames :=
        { machine.frames with
          pendingCalls := rest
          locals := returnAddress + 2
          stack := machine.frames.stack + (memory.readWord (entry + 2)).toUInt32 }
      (({ machine with frames }.withPc
        (machine.frames.object + (memory.readWord entry).toUInt32)).withMemory
          fun _ => memory).done := by
  have entry (number : UInt8) : number.toUInt32 * 4 + machine.frames.object
      = methodEntry machine.frames.object number := UInt32.add_comm _ _
  simp only [call, nextByte]
  split
  · next none => cases pending.symm.trans none
  · next some =>
    cases pending.symm.trans some
    rw [← entry]
    rfl

/-- The machine that has opened a frame and pushed arguments, and is about to carry out the
bytecode at an address. -/
def readyToCall [Timebase τ] (caller : SpinMachine τ) (arguments : List UInt32) (pc : UInt32) :
    SpinMachine τ :=
  (arguments.foldl push caller.execute.machine).withPc pc

/-- Hub memory when the call has filled in its return address. -/
def calledMemory [Timebase τ] (caller : SpinMachine τ) (arguments : List UInt32) (pc : UInt32) :
    Memory :=
  (caller.readyToCall arguments pc).hub.memory.writeWord (caller.frames.stack + 6)
    (pc + 1 + 1).toUInt16

/-- A caller opens a frame, pushes arguments, and calls a method of its own object.  Frame and
arguments are longs in the lower half, and do not cover the method's entry. -/
structure OwnCall [Timebase τ] (caller : SpinMachine τ) (method : UInt8) (arguments : List UInt32)
    (pc : UInt32) : Prop where
  opens : caller.Opens
  aligned : caller.frames.stack.toNat % 4 = 0
  fits : caller.frames.stack.toNat % 65536 + 4 * (arguments.length + 3) ≤ halfSize
  code : (caller.readyToCall arguments pc).code = 5
  operand : (caller.readyToCall arguments pc).hub.memory.readByte (pc + 1) = method
  entry : ¬ InLongs caller.frames.stack (arguments.length + 3)
    (methodEntry caller.frames.object method)
  entrySize : ¬ InLongs caller.frames.stack (arguments.length + 3)
    (methodEntry caller.frames.object method + 2)

namespace OwnCall

variable [Timebase τ] {caller : SpinMachine τ} {method : UInt8} {arguments : List UInt32}
  {pc : UInt32}

/-- The longs of the frame and of the arguments follow each other. -/
lemma toNat_long (call : caller.OwnCall method arguments pc) {k : Nat}
    (few : k ≤ arguments.length + 3) :
    (caller.frames.stack + 4 * .ofNat k).toNat % 65536
      = caller.frames.stack.toNat % 65536 + 4 * k := by
  have fits := call.fits
  simp only [halfSize] at fits
  exact toNat_add_longs (by omega)

lemma opened (call : caller.OwnCall method arguments pc) :
    caller.Opened caller.execute.machine := by
  have fits := call.fits
  have room : FrameFits caller.next.frames.stack := by
    show caller.frames.stack.toNat % 65536 + 12 ≤ halfSize
    omega
  have frame : caller.next.Opened (caller.next.openFrame (.ofCode caller.code)) :=
    opened_openFrame _ call.aligned room
  rw [execute_openFrame call.opens]
  exact ⟨frame.object, frame.vars, frame.stack, frame.pending, frame.outside, frame.result⟩

/-- The arguments start behind three longs. -/
lemma stack_opened (call : caller.OwnCall method arguments pc) :
    caller.execute.machine.frames.stack = caller.frames.stack + 4 * .ofNat 3 :=
  call.opened.stack

lemma aligned_opened (call : caller.OwnCall method arguments pc) :
    caller.execute.machine.frames.stack.toNat % 4 = 0 := by
  have aligned := call.aligned
  rw [call.opened.stack, UInt32.toNat_add]
  simp only [UInt32.reduceToNat]
  omega

lemma pushed (call : caller.OwnCall method arguments pc) :
    caller.execute.machine.Pushed arguments (arguments.foldl push caller.execute.machine) := by
  have fits := call.fits
  refine pushed_foldl arguments call.aligned_opened ?_
  rw [call.stack_opened, call.toNat_long (by omega)]
  omega

/-- The call writes the return address into the second long of the frame. -/
lemma written (call : caller.OwnCall method arguments pc) :
    SameOutside caller.frames.stack 2 (caller.readyToCall arguments pc).hub.memory
      (calledMemory caller arguments pc) := by
  have fits := call.fits
  simp only [halfSize] at fits
  refine .writeWord_of_inLongs call.aligned ?_ _
  simp only [InLongs, UInt32.toNat_add, UInt32.reduceToNat]
  omega

/-- The whole call writes into the frame and the arguments only. -/
lemma outside (call : caller.OwnCall method arguments pc) :
    SameOutside caller.frames.stack (arguments.length + 3) caller.hub.memory
      (calledMemory caller arguments pc) := by
  have part := call.pushed.outside
  rw [call.stack_opened] at part
  have filled : SameOutside caller.frames.stack (arguments.length + 3) _ _ :=
    part.of_part (by omega) call.fits
  exact ((call.opened.outside.mono (by omega)).trans filled).trans (call.written.mono (by omega))

lemma readLong_result (call : caller.OwnCall method arguments pc) :
    (calledMemory caller arguments pc).readLong (caller.frames.stack + 4 * .ofNat 2) = 0 := by
  have unwritten : ¬ InLongs caller.frames.stack 2 (caller.frames.stack + 4 * .ofNat 2) := by
    rw [InLongs, call.toNat_long (by omega)]
    omega
  have unpushed : ¬ InLongs caller.execute.machine.frames.stack arguments.length
      (caller.frames.stack + 4 * .ofNat 2) := by
    rw [InLongs, call.stack_opened, call.toNat_long (by omega), call.toNat_long (by omega)]
    omega
  rw [call.written.readLong call.aligned unwritten]
  exact (call.pushed.outside.readLong call.aligned_opened unpushed).trans call.opened.result

lemma readLong_argument (call : caller.OwnCall method arguments pc) {i : Nat}
    (hi : i < arguments.length) :
    (calledMemory caller arguments pc).readLong (caller.frames.stack + 4 * .ofNat (i + 3))
      = arguments[i] := by
  have unwritten : ¬ InLongs caller.frames.stack 2 (caller.frames.stack + 4 * .ofNat (i + 3)) := by
    rw [InLongs, call.toNat_long (by omega)]
    omega
  have value := call.pushed.value i hi
  have place : caller.execute.machine.frames.stack + 4 * .ofNat i
      = caller.frames.stack + 4 * .ofNat (i + 3) := by
    rw [call.stack_opened, UInt32.ofNat_add]
    grind
  rw [place] at value
  rw [call.written.readLong call.aligned unwritten]
  exact value

lemma execute_eq (call : caller.OwnCall method arguments pc) :
    (caller.readyToCall arguments pc).execute
      = (caller.readyToCall arguments pc).next.call .own pc := by
  have calls : (caller.readyToCall arguments pc).Calls := by
    rw [Calls, call.code]
    decide
  rw [execute_call calls, call.code]
  rfl

end OwnCall

/-- **A method that is called begins**, and the call raises no fault. -/
theorem begins_call [Timebase τ] {caller : SpinMachine τ} {method : UInt8}
    {arguments : List UInt32} {pc : UInt32} (call : caller.OwnCall method arguments pc) :
    (caller.readyToCall arguments pc).execute.fault? = none
      ∧ (caller.readyToCall arguments pc).execute.machine.Begins
        (caller.invocation method arguments) := by
  let calling := (caller.readyToCall arguments pc).next
  let memory := calledMemory caller arguments pc
  have frames : calling.frames = { caller.execute.machine.frames with
      stack := caller.execute.machine.frames.stack + 4 * UInt32.ofNat arguments.length } :=
    call.pushed.frames
  have pending : calling.frames.pendingCalls
      = (caller.frames.stack + 6) :: caller.frames.pendingCalls := by
    rw [frames, ← call.opened.pending]
  have object : calling.frames.object = caller.frames.object := by
    rw [frames, ← call.opened.object]
  have vars : calling.frames.vars = caller.frames.vars := by
    rw [frames, ← call.opened.vars]
  have entry : methodEntry calling.frames.object (calling.hub.memory.readByte calling.body.pc)
      = methodEntry caller.frames.object method := by
    rw [object]
    exact congrArg (methodEntry caller.frames.object) call.operand
  have start := call.outside.readWord call.aligned call.entry
  have size := call.outside.readWord call.aligned call.entrySize
  have locals : caller.frames.stack + 6 + 2 = caller.frames.stack + 4 * .ofNat 2 := by
    rw [UInt32.add_assoc]
    rfl
  rw [call.execute_eq, call_own _ _ pending, entry]
  refine ⟨rfl, ?_, ?_, ?_, ?_, fun i hi => ?_, ?_⟩
  · exact congrArg UInt32.toUInt16 object
  · exact congrArg UInt32.toUInt16 vars
  · show (calling.frames.object
      + (memory.readWord (methodEntry caller.frames.object method)).toUInt32).toUInt16 = _
    rw [object, start]
    rfl
  · show memory.readLong (caller.frames.stack + 6 + 2) = 0
    rw [locals]
    exact call.readLong_result
  · show memory.readLong (caller.frames.stack + 6 + 2 + 4 * .ofNat (i + 1)) = arguments[i]
    have behind : caller.frames.stack + 6 + 2 + 4 * .ofNat (i + 1)
        = caller.frames.stack + 4 * .ofNat (i + 3) := by
      rw [UInt32.ofNat_add, UInt32.ofNat_add]
      grind
    rw [behind]
    exact call.readLong_argument hi
  · show (calling.frames.stack
        + (memory.readWord (methodEntry caller.frames.object method + 2)).toUInt32).toUInt16
      = (caller.frames.stack + 6 + 2 + 4 + 4 * .ofNat arguments.length
        + (caller.hub.memory.readWord
          (methodEntry caller.frames.object method + 2)).toUInt32).toUInt16
    have behind : calling.frames.stack
        = caller.frames.stack + 6 + 2 + 4 + 4 * .ofNat arguments.length := by
      rw [frames, call.opened.stack]
      grind
    rw [size, behind]

end SpinMachine

end P1Chip
