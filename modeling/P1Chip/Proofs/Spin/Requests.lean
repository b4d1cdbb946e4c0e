import P1Chip.Proofs.Spin.Launch

/-!
# What an interpreter asks for when it starts a cog

A program starts a cog with three longs on its stack, or with a frame that the interpreter lays out
for a method.  Either way the interpreter writes down a request, in a packing of its own.  The hub
finds in it what the program asked for, whatever is on the stack.

* `SpinMachine.request` — what the program asks for.
* `SpinMachine.asking` — the machine that asks.
* **`SpinMachine.startCog_eq`** — the request is written down as any other one.
* **`SpinMachine.requests_agree`** — requests and arguments, and those of an interpreter.
-/

namespace P1Chip

open Memory

namespace SpinMachine

variable {τ : Type} (machine : SpinMachine τ)

/-! ## Longs on top of the stack -/

/-- One more value is on the stack. -/
lemma OnStack.concat {machine : SpinMachine τ} {values : List UInt32}
    (h : (machine.withStack (machine.frames.stack - 4)).OnStack values) :
    machine.OnStack (values ++ [machine.hub.memory.readLong (machine.frames.stack - 4)]) := by
  intro i hi
  rw [List.length_append, List.length_singleton] at hi
  by_cases below : i < values.length
  · have value := h i below
    have more : values.length + 1 - i = values.length - i + 1 := by omega
    rw [List.getElem_append_left below, ← value, List.length_append, List.length_singleton, more,
      ← sub_longs_succ]
    rfl
  · obtain rfl : i = values.length := by omega
    have one : values.length + 1 - values.length = 1 := by omega
    rw [List.getElem_concat_length rfl, List.length_append, List.length_singleton, one]
    rfl

/-- So many longs on top of the stack, the last one at the end. -/
def topLongs : Nat → SpinMachine τ → List UInt32
  | 0, _ => []
  | count + 1, machine => topLongs count machine.pop.2 ++ [machine.pop.1]

lemma length_topLongs (count : Nat) : (topLongs count machine).length = count := by
  induction count generalizing machine with
  | zero => rfl
  | succ count ih => rw [topLongs, List.length_append, ih, List.length_singleton]

lemma onStack_topLongs (count : Nat) : machine.OnStack (topLongs count machine) := by
  induction count generalizing machine with
  | zero => exact nofun
  | succ count ih => exact (ih machine.pop.2).concat

/-! ## Native programs -/

/-- The request for a native program: its parameter is on top of the stack, and its address and the
number of the cog are below. -/
def nativeRequest : StartRequest where
  parameter := machine.pop.1
  program := machine.pop.2.pop.1
  cog := choice machine.pop.2.pop.2.pop.1

lemma startNative_eq :
    machine.startNative
      = machine.pop.2.pop.2.pop.2.service .startCog machine.nativeRequest.encode := by
  rw [nativeRequest, ← startArgument_native]
  rfl

/-! ## Methods -/

/-- The method that is started: its number and the number of its arguments are below the address of
the new stack, and the arguments below these. -/
def startedMethod : Invocation :=
  let packed := machine.pop.2.pop.1
  machine.invocation packed.toUInt8 (topLongs (packed >>> 8).toUInt8.toNat machine.popTwo)

/-- The machine when the frame of the method is laid out. -/
def laidMethod : SpinMachine τ :=
  machine.popTwo.layFrame (firstArgument machine.pop.1) machine.startedMethod

/-- The request for a method: the parameter is the address of the new stack, behind the frame and
rounded, and the number of the cog is found below the first frame. -/
def methodRequest : StartRequest where
  parameter := firstArgument machine.pop.1
  program := interpreterEntry
  cog := choice (machine.laidMethod.hub.memory.readLong machine.laidMethod.startSlot)

lemma startMethod_eq_service [Timebase τ] :
    machine.startMethod
      = (machine.laidMethod.withMemory (·.writeLong machine.laidMethod.startSlot Word.ones)).service
        .startCog machine.methodRequest.encode := by
  let packed := machine.pop.2.pop.1
  let arguments := topLongs (packed >>> 8).toUInt8.toNat machine.popTwo
  have operands : machine.OnStack (arguments ++ [packed] ++ [machine.pop.1]) :=
    onStack_topLongs machine ((packed >>> 8).toUInt8.toNat + 1 + 1)
  have count : (packed >>> 8).toUInt8.toNat = arguments.length := (length_topLongs _ _).symm
  have written : startArgument ((interpreterEntry <<< 2) ||| (firstArgument machine.pop.1 <<< 16))
      (machine.laidMethod.hub.memory.readLong machine.laidMethod.startSlot)
        = machine.methodRequest.encode :=
    startArgument_method (firstArgument_aligned _) _
  rw [← written]
  exact machine.startMethod_eq operands count

/-! ## Either form -/

/-- The machine when the announcement of a method was heard. -/
def heard : SpinMachine τ :=
  machine.withFrames ({ · with startsMethod := false })

/-- What the program asks for. -/
def request : StartRequest :=
  if machine.frames.startsMethod then machine.heard.methodRequest else machine.nativeRequest

/-- The machine when it asks. -/
def asking : SpinMachine τ :=
  if machine.frames.startsMethod then
    let laid := machine.heard.laidMethod
    laid.withMemory (·.writeLong laid.startSlot Word.ones)
  else machine.pop.2.pop.2.pop.2

/-- **The interpreter's argument is the one that makes the request.** -/
theorem startCog_eq [Timebase τ] :
    machine.startCog = machine.asking.service .startCog machine.request.encode := by
  rw [startCog, request, asking]
  split
  · exact machine.heard.startMethod_eq_service
  · exact machine.startNative_eq

/-- **Arguments mean what their makers intended.**  A request is found in its argument if its
addresses are those of longs and have sixteen bits, and only then.  An argument is made again of what
is found in it, without its lowest bits if it asks for any free cog.  Whatever is on the stack, the
argument of an interpreter is found to be what the program asks for, with such addresses, and if
there is a cog for it, it gets an interpreter when the address of the program is that of the
interpreter, and only then. -/
theorem requests_agree [Timebase τ] :
    (∀ request : StartRequest, StartRequest.decode request.encode = request ↔ request.IsAligned)
      ∧ (∀ argument, (StartRequest.decode argument).encode
          = if argument &&& 8 != 0 then argument &&& 0xFFFFFFF8 else argument)
      ∧ ∀ machine : SpinMachine τ, ∃ argument,
          let found := StartRequest.decode argument
          machine.startCog = machine.asking.service .startCog argument
            ∧ found = machine.request.aligned
            ∧ machine.startCog.2.hub.queue = machine.asking.hub.queue
              ++ (machine.asking.hub.chooseCog? machine.request.cog).elim []
                (Hub.startRequests machine.asking.hub.running · found)
            ∧ (found.engine = .interpreted ↔ found.program = 0xF004) := by
  refine ⟨fun request => ?_, StartRequest.encode_decode, fun machine =>
    ⟨machine.request.encode, machine.startCog_eq, machine.request.decode_encode, ?_, ?_⟩⟩
  · rw [request.decode_encode, request.aligned_eq_self_iff]
  · have cog : (StartRequest.decode machine.request.encode).cog = machine.request.cog := by
      rw [machine.request.decode_encode]
      rfl
    rw [startCog_eq, ← cog]
    exact Hub.queue_startCog _ _
  · simp [StartRequest.engine, StartRequest.isInterpreter, interpreterEntry]

end SpinMachine

end P1Chip
