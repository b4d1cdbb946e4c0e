import P1Chip.Proofs.Spin.Action

/-!
# Calls within calls

A run of the interpreter opens frames, calls methods in them and leaves these methods again.  The
interpreter itself remembers little of that: a list with the kinds of the open frames, a list with
the places of those that were not called yet, and four words in hub memory for each of them.
This file says what a properly nested run is with a list that remembers everything, and shows that
the two lists of the interpreter agree with it all the time.

* `SpinMachine.execute_openFrame`, `SpinMachine.execute_call`, `SpinMachine.execute_leave` — what
  the bytecodes of calls do.
* `OpenFrame` — a frame that was opened and not left yet.
* `SpinMachine.CallStep`, `SpinMachine.CallRun` — properly nested steps and runs.
* `SpinMachine.Closed` — a run that closes all frames that it opens.
* **`SpinMachine.CallRun.listed`** — the lists of the interpreter are those of the open frames.
-/

namespace P1Chip

open Relation

variable {τ : Type}

/-! ## The bytecodes of calls -/

/-- The kind of frame that a bytecode opens. -/
def FrameKind.ofCode (code : UInt8) : FrameKind where
  dropsResult := code &&& 1 != 0
  trapsAborts := code &&& 2 != 0

/-- Whose method a bytecode calls. -/
def CallTarget.ofCode (code : UInt8) : CallTarget :=
  if code = 5 then .own else if code = 6 then .child else .childElement

/-- The bytes of the operands of a call: the number of the method, and before it that of the child
object. -/
def CallTarget.operands : CallTarget → UInt32
  | .own => 1
  | .child | .childElement => 2

namespace SpinMachine

/-- Whether the bytecode at the program counter opens a frame. -/
def Opens (machine : SpinMachine τ) : Prop :=
  machine.code < 4

/-- Whether the bytecode at the program counter calls a method. -/
def Calls (machine : SpinMachine τ) : Prop :=
  5 ≤ machine.code ∧ machine.code < 8

/-- Whether the bytecode at the program counter returns from a method. -/
def Returns (machine : SpinMachine τ) : Prop :=
  machine.code = 0x32 ∨ machine.code = 0x33

/-- Whether the bytecode at the program counter aborts a method. -/
def Aborts (machine : SpinMachine τ) : Prop :=
  machine.code = 0x30 ∨ machine.code = 0x31

/-- What a method that is left now results in: its result variable, or the value on top of the
stack. -/
def result (machine : SpinMachine τ) : UInt32 :=
  if machine.code &&& 1 = 0 then machine.hub.memory.readLong machine.frames.locals
  else machine.pop.1

/-- The machine behind the bytecode at the program counter. -/
def next (machine : SpinMachine τ) : SpinMachine τ :=
  machine.withPc (machine.body.pc + 1)

/-! ### What they change -/

/-- The machine in which one method was left, while `openFrames` are still open. -/
def dropFrame (machine : SpinMachine τ) (openFrames : List FrameKind) : SpinMachine τ :=
  ((machine.withStack machine.frames.locals).withFrames ({ · with openFrames })).restoreCaller

lemma dropFrame_frames (machine : SpinMachine τ) (openFrames : List FrameKind) :
    (machine.dropFrame openFrames).frames =
      { machine.frames with
        object := (machine.hub.memory.readWord (machine.frames.locals - 8)).toUInt32
        vars := (machine.hub.memory.readWord (machine.frames.locals - 6)).toUInt32
        locals := (machine.hub.memory.readWord (machine.frames.locals - 4)).toUInt32
        stack := machine.frames.locals - 8
        openFrames } := by
  have h4 : machine.frames.locals - 2 - 2 = machine.frames.locals - 4 := by grind
  have h6 : machine.frames.locals - 2 - 2 - 2 = machine.frames.locals - 6 := by grind
  have h8 : machine.frames.locals - 2 - 2 - 2 - 2 = machine.frames.locals - 8 := by grind
  rw [← h4, ← h6, ← h8]
  rfl

lemma dropFrame_pc (machine : SpinMachine τ) (openFrames : List FrameKind) :
    (machine.dropFrame openFrames).body.pc
      = (machine.hub.memory.readWord (machine.frames.locals - 2)).toUInt32 :=
  rfl

lemma openFrame_frames (machine : SpinMachine τ) (kind : FrameKind) :
    (machine.openFrame kind).frames =
      { machine.frames with
        stack := machine.frames.stack + 12
        openFrames := kind :: machine.frames.openFrames
        pendingCalls := (machine.frames.stack + 6) :: machine.frames.pendingCalls } := by
  have h6 : machine.frames.stack + 2 + 2 + 2 = machine.frames.stack + 6 := by grind
  have h12 : machine.frames.stack + 2 + 2 + 2 + 2 + 4 = machine.frames.stack + 12 := by grind
  rw [← h6, ← h12]
  rfl

/-- What a call changes that finds a frame: it fills in the return address, and the locals of the
method that is called start behind it. -/
structure Called (machine : SpinMachine τ) (back : UInt32) (returnAddress : UInt32)
    (pendingCalls : List UInt32) (outcome : SpinOutcome τ) : Prop where
  fault : outcome.fault? = none
  locals : outcome.machine.frames.locals = returnAddress + 2
  openFrames : outcome.machine.frames.openFrames = machine.frames.openFrames
  pendingCalls : outcome.machine.frames.pendingCalls = pendingCalls
  memory : outcome.machine.hub.memory
    = machine.hub.memory.writeWord returnAddress back.toUInt16

lemma call_of_pending (machine : SpinMachine τ) (target : CallTarget) (pc : UInt32)
    {returnAddress : UInt32} {pendingCalls : List UInt32}
    (h : machine.frames.pendingCalls = returnAddress :: pendingCalls) :
    Called machine (machine.body.pc + target.operands) returnAddress pendingCalls
      (machine.call target pc) := by
  have twice : machine.body.pc + 2 = machine.body.pc + 1 + 1 := by grind
  simp only [call]
  split
  · next hn => cases target <;> cases h.symm.trans hn
  · next hc =>
    cases target with
    | own => cases h.symm.trans hc; exact ⟨rfl, rfl, rfl, rfl, rfl⟩
    | child =>
      cases h.symm.trans hc
      refine ⟨rfl, rfl, rfl, rfl, ?_⟩
      rw [CallTarget.operands, twice]
      rfl
    | childElement =>
      cases h.symm.trans hc
      refine ⟨rfl, rfl, rfl, rfl, ?_⟩
      rw [CallTarget.operands, twice]
      rfl

/-- Where the stack ended makes no difference to leaving a method. -/
lemma leave_withStack (machine : SpinMachine τ) (stack value : UInt32) (abort : Bool) :
    (machine.withStack stack).leave value abort = machine.leave value abort := by
  have hu : unwind abort machine.frames.openFrames (machine.withStack stack)
      = unwind abort machine.frames.openFrames machine := by
    cases machine.frames.openFrames <;> rfl
  simp only [leave]
  rw [← hu]
  rfl

lemma leave_of_return (machine : SpinMachine τ) {kind : FrameKind} {kinds : List FrameKind}
    (h : machine.frames.openFrames = kind :: kinds) (value : UInt32) :
    machine.leave value false
      = if kind.dropsResult then machine.dropFrame kinds
        else (machine.dropFrame kinds).push value := by
  rw [leave, h]
  rfl

lemma leave_of_trap {machine left : SpinMachine τ} {kind : FrameKind}
    (h : unwind true machine.frames.openFrames machine = (some kind, left)) (value : UInt32) :
    machine.leave value true = if kind.dropsResult then left else left.push value := by
  rw [leave, h]

lemma unwind_cons (kind : FrameKind) (kinds : List FrameKind) (machine : SpinMachine τ) :
    unwind true (kind :: kinds) machine
      = if kind.trapsAborts then (some kind, machine.dropFrame kinds)
        else unwind true kinds (machine.dropFrame kinds) :=
  rfl

/-- An abort leaves methods up to the first kind that traps it. -/
lemma unwind_of_trap {kind : FrameKind} (hk : kind.trapsAborts) {inner : List FrameKind}
    (hi : ∀ k ∈ inner, k.trapsAborts = false) (outer : List FrameKind)
    (machine : SpinMachine τ) :
    ∃ left, unwind true (inner ++ kind :: outer) machine = (some kind, left)
      ∧ left.frames.openFrames = outer := by
  induction inner generalizing machine with
  | nil =>
    refine ⟨machine.dropFrame outer, ?_, rfl⟩
    rw [List.nil_append, unwind_cons, if_pos hk]
  | cons k inner ih =>
    have hf := hi k (List.mem_cons_self ..)
    rw [List.cons_append, unwind_cons, if_neg (by rw [hf]; decide)]
    exact ih (fun k hk => hi k (List.mem_cons_of_mem _ hk)) _

/-- Frames that were not called yet are not given up by leaving a method, whatever happens. -/
lemma unwind_pendingCalls (abort : Bool) (kinds : List FrameKind) (machine : SpinMachine τ) :
    (unwind abort kinds machine).2.frames.pendingCalls = machine.frames.pendingCalls := by
  induction kinds generalizing machine with
  | nil => rfl
  | cons kind kinds ih =>
    simp only [unwind]
    split
    · rfl
    · exact ih _

lemma leave_pendingCalls (machine : SpinMachine τ) (value : UInt32) (abort : Bool) :
    (machine.leave value abort).frames.pendingCalls = machine.frames.pendingCalls := by
  have hu := unwind_pendingCalls abort machine.frames.openFrames machine
  simp only [leave]
  revert hu
  rcases unwind abort machine.frames.openFrames machine with ⟨_ | kind, left⟩ <;> intro hu
  · exact hu
  · dsimp only
    split
    · exact hu
    · exact hu

/-! ### Which bytecodes they are -/

variable [Timebase τ]

lemma execute_openFrame {machine : SpinMachine τ} (h : machine.Opens) :
    machine.execute = (machine.next.openFrame (.ofCode machine.code)).done := by
  have table : ∀ n : Fin 4, SpecialOp.decode? (UInt8.ofNat n)
      = some (.openFrame (.ofCode (UInt8.ofNat n))) := by decide
  have hn : machine.code.toNat < 4 := UInt8.lt_iff_toNat_lt.mp h
  have decoded := table ⟨machine.code.toNat, hn⟩
  rw [UInt8.ofNat_toNat] at decoded
  rw [execute_of_decode machine decoded]
  rfl

lemma execute_call {machine : SpinMachine τ} (h : machine.Calls) :
    machine.execute = machine.next.call (.ofCode machine.code) machine.body.pc := by
  have table : ∀ n : Fin 3, SpecialOp.decode? (UInt8.ofNat (n + 5))
      = some (.call (.ofCode (UInt8.ofNat (n + 5)))) := by decide
  have h5 : 5 ≤ machine.code.toNat := UInt8.le_iff_toNat_le.mp h.1
  have h8 : machine.code.toNat < 8 := UInt8.lt_iff_toNat_lt.mp h.2
  have decoded := table ⟨machine.code.toNat - 5, by omega⟩
  rw [show machine.code.toNat - 5 + 5 = machine.code.toNat by omega, UInt8.ofNat_toNat] at decoded
  rw [execute_of_decode machine decoded]
  rfl

lemma execute_leave {machine : SpinMachine τ} (abort : Bool)
    (h : if abort then machine.Aborts else machine.Returns) :
    machine.execute = (machine.next.leave machine.result abort).done := by
  have popped : SpecialOp.decode? machine.code = some (.leave abort true) →
      machine.execute = (machine.next.leave machine.pop.1 abort).done := by
    intro decoded
    rw [execute_of_decode machine decoded]
    exact congrArg done (leave_withStack machine.next (machine.frames.stack - 4) machine.pop.1 abort)
  have unpopped : SpecialOp.decode? machine.code = some (.leave abort false) →
      machine.execute
        = (machine.next.leave (machine.hub.memory.readLong machine.frames.locals) abort).done := by
    intro decoded
    rw [execute_of_decode machine decoded]
    rfl
  simp only [result]
  cases abort with
  | true =>
    rcases h with h | h
    · rw [unpopped (by rw [h]; decide), h, if_pos (by decide)]
    · rw [popped (by rw [h]; decide), h, if_neg (by decide)]
  | false =>
    rcases h with h | h
    · rw [unpopped (by rw [h]; decide), h, if_pos (by decide)]
    · rw [popped (by rw [h]; decide), h, if_neg (by decide)]

lemma execute_return {machine : SpinMachine τ} (h : machine.Returns) :
    machine.execute = (machine.next.leave machine.result false).done :=
  execute_leave false h

lemma execute_abort {machine : SpinMachine τ} (h : machine.Aborts) :
    machine.execute = (machine.next.leave machine.result true).done :=
  execute_leave true h

end SpinMachine

/-! ## Properly nested runs -/

/-- A frame that was opened and not left yet. -/
structure OpenFrame where
  kind : FrameKind
  /-- Where the stack ended when it was opened. -/
  base : UInt32
  /-- The pointers of the method that opened it, and that calls a method in it. -/
  object : UInt32
  vars : UInt32
  locals : UInt32
  /-- Where that method goes on, once it has made the call. -/
  back : Option UInt32
deriving DecidableEq, Repr

namespace OpenFrame

/-- The frame that the bytecode at the program counter opens. -/
def opened (machine : SpinMachine τ) : OpenFrame where
  kind := .ofCode machine.code
  base := machine.frames.stack
  object := machine.frames.object
  vars := machine.frames.vars
  locals := machine.frames.locals
  back := none

/-- The frame, once the bytecode at the program counter has called a method in it. -/
def called (frame : OpenFrame) (machine : SpinMachine τ) : OpenFrame where
  kind := frame.kind
  base := frame.base
  object := machine.frames.object
  vars := machine.frames.vars
  locals := machine.frames.locals
  back := some (machine.body.pc + 1 + (CallTarget.ofCode machine.code).operands)

/-- Whether a method is running in the frame, or waits for another one. -/
def isCalled (frame : OpenFrame) : Bool :=
  frame.back.isSome

/-- Whether an abort may end at the frame. -/
def traps (frame : OpenFrame) : Bool :=
  frame.isCalled && frame.kind.trapsAborts

/-- Whether an abort goes past the frame. -/
def passes (frame : OpenFrame) : Bool :=
  !frame.traps

/-- The return addresses of those frames that were not called yet. -/
def pending (frames : List OpenFrame) : List UInt32 :=
  (frames.filter (!·.isCalled)).map (·.base + 6)

/-- The kinds of the frames. -/
def kinds (frames : List OpenFrame) : List FrameKind :=
  frames.map (·.kind)

lemma pending_eq_nil_iff {frames : List OpenFrame} :
    pending frames = [] ↔ ∀ frame ∈ frames, frame.isCalled := by
  simp [pending]

lemma pending_append (inner outer : List OpenFrame) :
    pending (inner ++ outer) = pending inner ++ pending outer := by
  simp [pending]

lemma pending_cons_called {frame : OpenFrame} (h : frame.isCalled) (frames : List OpenFrame) :
    pending (frame :: frames) = pending frames := by
  simp [pending, h]

lemma pending_cons_opened {frame : OpenFrame} (h : frame.isCalled = false)
    (frames : List OpenFrame) : pending (frame :: frames) = (frame.base + 6) :: pending frames := by
  simp [pending, h]

end OpenFrame

namespace SpinMachine

variable [Timebase τ]

/-- One step of a properly nested run, with the frames that are open before and after it, the
innermost first. -/
inductive CallStep : List OpenFrame × SpinMachine τ → List OpenFrame × SpinMachine τ → Prop
  /-- Anything that leaves alone what belongs to calls: all other bytecodes, the clocks between
  bytecodes, arguments that are pushed, and what other cogs do. -/
  | plain (frames : List OpenFrame) {machine machine' : SpinMachine τ}
      (same : machine.frames.SameCalls machine'.frames) : CallStep (frames, machine) (frames, machine')
  /-- A frame is opened. -/
  | opened (frames : List OpenFrame) {machine : SpinMachine τ} (h : machine.Opens) :
      CallStep (frames, machine) (.opened machine :: frames, machine.execute.machine)
  /-- A method is called in the innermost frame, in which none was called yet. -/
  | called (frame : OpenFrame) (frames : List OpenFrame) {machine : SpinMachine τ}
      (h : machine.Calls) (hf : frame.isCalled = false) :
      CallStep (frame :: frames, machine) (frame.called machine :: frames, machine.execute.machine)
  /-- The method in the innermost frame returns. -/
  | returned (frame : OpenFrame) (frames : List OpenFrame) {machine : SpinMachine τ}
      (h : machine.Returns) (hf : frame.isCalled) :
      CallStep (frame :: frames, machine) (frames, machine.execute.machine)
  /-- Methods are aborted, up to one that was called in a frame that traps aborts. -/
  | aborted (inner : List OpenFrame) (frame : OpenFrame) (frames : List OpenFrame)
      {machine : SpinMachine τ} (h : machine.Aborts)
      (hi : ∀ f ∈ inner, f.isCalled ∧ f.kind.trapsAborts = false) (hf : frame.traps) :
      CallStep (inner ++ frame :: frames, machine) (frames, machine.execute.machine)

/-- A properly nested run. -/
abbrev CallRun :
    List OpenFrame × SpinMachine τ → List OpenFrame × SpinMachine τ → Prop :=
  ReflTransGen CallStep

/-- A run that leaves all frames that it opens, and no others. -/
def Closed (machine machine' : SpinMachine τ) : Prop :=
  CallRun ([], machine) ([], machine')

/-- The lists of the interpreter are those of the open frames, and of outer ones. -/
structure Listed (kinds : List FrameKind) (pending : List UInt32)
    (state : List OpenFrame × SpinMachine τ) : Prop where
  openFrames : state.2.frames.openFrames = OpenFrame.kinds state.1 ++ kinds
  pendingCalls : state.2.frames.pendingCalls = OpenFrame.pending state.1 ++ pending

namespace CallStep

variable {frames : List OpenFrame} {machine : SpinMachine τ}

/-- All bytecodes but those of calls are plain. -/
lemma bytecode (h : isCallCode machine.code = false) :
    CallStep (frames, machine) (frames, machine.execute.machine) :=
  .plain frames (sameCalls_execute machine h)

/-- So is a list of arguments. -/
lemma arguments (values : List UInt32) :
    CallStep (frames, machine) (frames, values.foldl push machine) := by
  have hp : ∀ {start : SpinMachine τ}, Plain machine start →
      Plain machine (values.foldl push start) := by
    induction values with
    | nil => exact id
    | cons value values ih => exact fun h => ih (h.push value)
  exact .plain frames (hp (.refl machine)).sameCalls

/-- Opening a frame adds it to both lists. -/
lemma opened_listed {kinds : List FrameKind} {pending : List UInt32} (h : machine.Opens)
    (listed : Listed kinds pending (frames, machine)) :
    Listed kinds pending (.opened machine :: frames, machine.execute.machine) := by
  have hf := openFrame_frames machine.next (.ofCode machine.code)
  rw [execute_openFrame h]
  constructor
  · show (machine.next.openFrame _).frames.openFrames = _
    rw [hf]
    exact congrArg (_ :: ·) listed.openFrames
  · show (machine.next.openFrame _).frames.pendingCalls = _
    rw [hf]
    exact congrArg (_ :: ·) listed.pendingCalls

/-- The call takes it from the list of pending calls. -/
lemma called_listed {kinds : List FrameKind} {pending : List UInt32} {frame : OpenFrame}
    (h : machine.Calls) (hf : frame.isCalled = false)
    (listed : Listed kinds pending (frame :: frames, machine)) :
    Listed kinds pending (frame.called machine :: frames, machine.execute.machine) := by
  have pendingCalls := listed.pendingCalls
  rw [OpenFrame.pending_cons_opened hf] at pendingCalls
  have hc := call_of_pending machine.next (.ofCode machine.code) machine.body.pc pendingCalls
  rw [execute_call h]
  constructor
  · rw [hc.openFrames]
    exact listed.openFrames
  · rw [hc.pendingCalls, OpenFrame.pending_cons_called rfl]
    rfl

/-- A return takes it from the list of open frames. -/
lemma returned_listed {kinds : List FrameKind} {pending : List UInt32} {frame : OpenFrame}
    (h : machine.Returns) (hf : frame.isCalled)
    (listed : Listed kinds pending (frame :: frames, machine)) :
    Listed kinds pending (frames, machine.execute.machine) := by
  have hp := OpenFrame.pending_cons_called hf frames
  have openFrames : machine.next.frames.openFrames
      = frame.kind :: (OpenFrame.kinds frames ++ kinds) := listed.openFrames
  rw [execute_return h]
  constructor
  · show (machine.next.leave _ _).frames.openFrames = _
    rw [leave_of_return machine.next openFrames]
    split <;> rfl
  · show (machine.next.leave _ _).frames.pendingCalls = _
    rw [leave_pendingCalls, ← hp]
    exact listed.pendingCalls

/-- So does an abort that is trapped, for all frames that it leaves. -/
lemma aborted_listed {kinds : List FrameKind} {pending : List UInt32}
    {inner : List OpenFrame} {frame : OpenFrame} (h : machine.Aborts)
    (hi : ∀ f ∈ inner, f.isCalled ∧ f.kind.trapsAborts = false) (hf : frame.traps)
    (listed : Listed kinds pending (inner ++ frame :: frames, machine)) :
    Listed kinds pending (frames, machine.execute.machine) := by
  obtain ⟨called, traps⟩ : frame.isCalled ∧ frame.kind.trapsAborts := by
    simpa [OpenFrame.traps] using hf
  have hp : OpenFrame.pending (inner ++ frame :: frames) = OpenFrame.pending frames := by
    have hn := OpenFrame.pending_eq_nil_iff.mpr fun f hf => (hi f hf).1
    rw [OpenFrame.pending_append, hn, OpenFrame.pending_cons_called called, List.nil_append]
  have openFrames : machine.next.frames.openFrames
      = OpenFrame.kinds inner ++ frame.kind :: (OpenFrame.kinds frames ++ kinds) := by
    have ho := listed.openFrames
    simp only [OpenFrame.kinds] at ho ⊢
    rw [List.map_append, List.map_cons, List.append_assoc] at ho
    exact ho
  have untrapped : ∀ k ∈ OpenFrame.kinds inner, k.trapsAborts = false := by
    intro k hk
    obtain ⟨f, hm, rfl⟩ := List.mem_map.mp hk
    exact (hi f hm).2
  obtain ⟨left, hu, hl⟩ := unwind_of_trap traps untrapped (OpenFrame.kinds frames ++ kinds)
    machine.next
  rw [← openFrames] at hu
  rw [execute_abort h]
  constructor
  · show (machine.next.leave _ _).frames.openFrames = _
    rw [leave_of_trap hu]
    split <;> exact hl
  · show (machine.next.leave _ _).frames.pendingCalls = _
    rw [leave_pendingCalls, ← hp]
    exact listed.pendingCalls

/-- **The two lists stay in step** with the frames that are open. -/
theorem listed {kinds : List FrameKind} {pending : List UInt32}
    {before after : List OpenFrame × SpinMachine τ} (step : CallStep before after)
    (h : Listed kinds pending before) : Listed kinds pending after := by
  cases step with
  | plain _ same => exact ⟨same.openFrames.trans h.openFrames, same.pendingCalls.trans h.pendingCalls⟩
  | opened _ hc => exact opened_listed hc h
  | called _ _ hc hf => exact called_listed hc hf h
  | returned _ _ hc hf => exact returned_listed hc hf h
  | aborted _ _ _ hc hi hf => exact aborted_listed hc hi hf h

end CallStep

/-- **The two lists agree with the open frames** all through a properly nested run. -/
theorem CallRun.listed {kinds : List FrameKind} {pending : List UInt32}
    {before after : List OpenFrame × SpinMachine τ} (run : CallRun before after)
    (h : Listed kinds pending before) : Listed kinds pending after := by
  induction run with
  | refl => exact h
  | tail _ last ih => exact last.listed ih

/-- After a run that leaves all frames that it opens, the lists are what they were. -/
theorem Closed.lists {machine machine' : SpinMachine τ} (run : Closed machine machine') :
    machine'.frames.openFrames = machine.frames.openFrames
      ∧ machine'.frames.pendingCalls = machine.frames.pendingCalls := by
  have h := CallRun.listed run ⟨rfl, rfl⟩
  exact ⟨h.openFrames, h.pendingCalls⟩

end SpinMachine

end P1Chip
