import P1Chip.Proofs.Memory.Blocks
import P1Chip.Proofs.Spin.Expression
import P1Chip.Proofs.Spin.Fields
import P1Chip.Proofs.Spin.Saved

/-!
# Assignments with an operator

An operator can be applied to a variable in two ways.  Four bytecodes push the variable, push the
other operand, apply the operator and pop into the variable.  Or the other operand alone is pushed,
and a single bytecode updates the variable in place, which takes the operator from the byte behind
it.  The operands come in opposite orders, and one of them never gets onto the stack.

* `Spin.Variable` — variables in frames, as bytecode names them.
* **`SpinMachine.execute_access`** — what such a bytecode does.
* `Spin.Assignment` — an operator that is applied to a variable, with its two codes.
* **`Spin.Assignment.assigned_alike`** — both ways come to the same.
-/

namespace P1Chip

open Memory Spin

/-! ## Variables -/

/-- The low two bits of the bytecodes of an access. -/
def AccessKind.bits (kind : AccessKind) : UInt8 :=
  .ofNat kind.ctorIdx

namespace Spin

/-- A variable in one of the frames, as bytecode names it. -/
inductive Variable where
  /-- One of the first eight longs of a frame, which is named by the bytecode itself. -/
  | long (place : FrameLong)
  /-- What stands at a distance from the start of a frame.  The distance is behind the bytecode, in
  one byte or, if that has its top bit set, in two. -/
  | packed (size : DataSize) (space : AddressSpace) (inFrame : space ≠ .main)
      (first second : UInt8)

namespace Variable

def size : Variable → DataSize
  | long _ => .long
  | packed size .. => size

/-- The bytecode for an access, with the bytes that belong to it. -/
def code (kind : AccessKind) : Variable → List UInt8
  | long place => [place.code + kind.bits]
  | packed size space _ first second =>
    (0x80 + 0x20 * .ofNat size.ctorIdx + 4 * .ofNat space.ctorIdx + kind.bits) ::
      if PackedOffset.isLong first then [first, second] else [first]

end Variable

end Spin

namespace SpinMachine

variable {τ : Type}

/-- The address of a variable. -/
def addressOf (machine : SpinMachine τ) : Variable → UInt32
  | .long place => machine.variableAddress place
  | .packed _ space _ first second =>
    (machine.spaceBase space).1 + PackedOffset.unsigned first second

/-- It does not depend on the stack. -/
lemma addressOf_congr (machine after : SpinMachine τ)
    (same : after.frames = { machine.frames with stack := after.frames.stack })
    (place : Variable) : after.addressOf place = machine.addressOf place := by
  cases place with
  | long place =>
    simp only [addressOf, variableAddress]
    rw [same]
  | packed size space inFrame first second =>
    cases space with
    | main => exact absurd rfl inFrame
    | _ =>
      simp only [addressOf, spaceBase]
      rw [same]

lemma unsigned_of_short {first : UInt8} (short : PackedOffset.isLong first = false)
    (second : UInt8) : PackedOffset.unsigned first second = first.toUInt32 := by
  rw [PackedOffset.unsigned, if_neg (Bool.eq_false_iff.mp short)]

/-- The offset behind a bytecode, and what it leads to. -/
lemma locate_packed {machine : SpinMachine τ} {size : DataSize} {space : AddressSpace}
    {inFrame : space ≠ .main} {first second : UInt8} {kind : AccessKind}
    (stands : machine.hub.memory.HasBytes machine.body.pc
      ((Variable.packed size space inFrame first second).code kind)) :
    machine.next.locate ⟨kind, space, false, size⟩
      = (machine.addressOf (.packed size space inFrame first second),
        machine.withPc (machine.body.pc
          + .ofNat ((Variable.packed size space inFrame first second).code kind).length)) := by
  have behind := stands.tail
  have byte : machine.hub.memory.readByte (machine.body.pc + 1) = first := by
    cases long : PackedOffset.isLong first <;> rw [long] at behind <;> exact behind.head
  have value : PackedOffset.unsigned first (machine.hub.memory.readByte (machine.body.pc + 1 + 1))
      = PackedOffset.unsigned first second := by
    cases long : PackedOffset.isLong first with
    | true =>
      rw [long] at behind
      rw [show machine.hub.memory.readByte (machine.body.pc + 1 + 1) = second from behind.tail.head]
    | false => rw [unsigned_of_short long, unsigned_of_short long]
  have length : 1 + PackedOffset.size first
      = .ofNat ((Variable.packed size space inFrame first second).code kind).length := by
    rw [PackedOffset.size, Variable.code]
    cases PackedOffset.isLong first <;> rfl
  have offset : machine.next.variableOffset = (PackedOffset.unsigned first second,
      machine.withPc (machine.body.pc
        + .ofNat ((Variable.packed size space inFrame first second).code kind).length)) := by
    rw [← length, ← value, ← UInt32.add_assoc, ← byte]
    rfl
  have unscaled : (0 : UInt32) <<< size.shift = 0 := UInt32.zero_shiftLeft
  cases space with
  | main => exact absurd rfl inFrame
  | _ =>
    show (_ + machine.next.variableOffset.1 + 0 <<< size.shift, machine.next.variableOffset.2) = _
    rw [offset, unscaled, UInt32.add_zero]
    rfl

/-! ## Operators and their operands -/

lemma unary?_eq_binary {operator : Operator} (takesOne : operator.isUnary) (left right : UInt32) :
    unary? operator left = some (Spin.binary operator left right) := by
  cases operator <;> first
    | exact absurd takesOne Bool.false_ne_true
    | simp only [unary?, Spin.binary, Option.getD_some]

/-- The operand is pushed, if the operator takes two. -/
def withOperand (machine : SpinMachine τ) (operator : Operator) (operand : UInt32) :
    SpinMachine τ :=
  if operator.isUnary then machine else machine.push operand

lemma withPc_withOperand (machine : SpinMachine τ) (operator : Operator) (operand pc : UInt32) :
    (machine.withOperand operator operand).withPc pc
      = (machine.withPc pc).withOperand operator operand := by
  rw [withOperand, withOperand]
  split <;> rfl

lemma frames_withOperand (machine : SpinMachine τ) (operator : Operator) (operand : UInt32) :
    (machine.withOperand operator operand).frames
      = { machine.frames with stack := (machine.withOperand operator operand).frames.stack } := by
  rw [withOperand]
  split <;> rfl

lemma body_withOperand (machine : SpinMachine τ) (operator : Operator) (operand : UInt32) :
    (machine.withOperand operator operand).body = machine.body := by
  rw [withOperand]
  split <;> rfl

/-- What is pushed can be popped, and leaves its trace above the stack. -/
lemma pop_of_push {machine : SpinMachine τ} (low : machine.frames.stack.toNat % 65536 < halfSize)
    (value : UInt32) :
    (machine.push value).pop
      = (value, machine.withMemory (·.writeLong machine.frames.stack value)) := by
  refine Prod.ext (pop_push low value) ?_
  show (machine.withMemory _).withStack (machine.frames.stack + 4 - 4) = _
  rw [UInt32.add_sub_cancel]
  rfl

/-- The first of two longs in the room. -/
lemma inLongs_stack (machine : SpinMachine τ) :
    InLongs machine.frames.stack 2 machine.frames.stack := by
  simp only [InLongs]
  omega

/-- There is room for two more longs on the stack. -/
structure HasRoom (machine : SpinMachine τ) : Prop where
  aligned : machine.frames.stack.toNat % 4 = 0
  fits : machine.frames.stack.toNat % 65536 + 8 ≤ halfSize

namespace HasRoom

variable {machine : SpinMachine τ}

lemma withPc (room : machine.HasRoom) (pc : UInt32) : (machine.withPc pc).HasRoom :=
  ⟨room.aligned, room.fits⟩

lemma low (room : machine.HasRoom) : machine.frames.stack.toNat % 65536 < halfSize := by
  have fits := room.fits
  omega

lemma second (room : machine.HasRoom) :
    InLongs machine.frames.stack 2 (machine.frames.stack + 4) := by
  have fits := room.fits
  have half : halfSize = 32768 := rfl
  simp only [InLongs, UInt32.toNat_add, UInt32.reduceToNat]
  omega

/-- A long that is written into the room leaves the rest alone. -/
lemma inside (room : machine.HasRoom) {address : UInt32}
    (inside : InLongs machine.frames.stack 2 address) (memory : Memory) (value : UInt32) :
    SameOutside machine.frames.stack 2 memory (memory.writeLong address value) :=
  .writeLong_of_inLongs room.aligned inside value

/-- What is written outside of the room does not change the first long in it. -/
lemma readLong_write (room : machine.HasRoom) {address : UInt32}
    (outside : ¬ InLongs machine.frames.stack 2 address) (memory : Memory) (size : DataSize)
    (value : UInt32) :
    (memory.write size address value).readLong machine.frames.stack
      = memory.readLong machine.frames.stack := by
  have aligned := room.aligned
  have start := toNat_longStart machine.frames.stack
  refine readLong_congr fun k low => ?_
  have place : (longStart machine.frames.stack + k).toNat
      = machine.frames.stack.toNat % 65536 + k.toNat := by
    rw [toNat_add_of_lt (by omega)]
    omega
  by_contra changed
  have reached := (inCell_of_write memory changed).1
  rw [InCell, place] at reached
  refine outside ?_
  simp only [InLongs]
  cases size <;> simp only [DataSize.bytes, UInt32.reduceToNat] at reached <;> omega

lemma operand (room : machine.HasRoom) (operator : Operator) (operand : UInt32) :
    SameOutside machine.frames.stack 2 machine.hub.memory
      (machine.withOperand operator operand).hub.memory := by
  rw [withOperand]
  split
  · exact fun _ _ => rfl
  · exact room.inside machine.inLongs_stack _ operand

lemma operands (room : machine.HasRoom) (operator : Operator) (left right : UInt32) :
    SameOutside machine.frames.stack 2 machine.hub.memory
      ((machine.push left).withOperand operator right).hub.memory := by
  have pushed := room.inside machine.inLongs_stack machine.hub.memory left
  rw [withOperand]
  split
  · exact pushed
  · exact pushed.trans (room.inside room.second _ right)

/-- Two operands are popped in the opposite order. -/
lemma pop_two (room : machine.HasRoom) (left right : UInt32) :
    ((machine.push left).push right).pop.1 = right ∧
      ((machine.push left).push right).pop.2.pop
        = (left, machine.withMemory fun memory =>
            (memory.writeLong machine.frames.stack left).writeLong (machine.frames.stack + 4)
              right) := by
  have fits := room.fits
  have half : halfSize = 32768 := rfl
  have behind : (machine.frames.stack + 4).toNat % 65536
      = machine.frames.stack.toNat % 65536 + 4 := by
    simp only [UInt32.toNat_add, UInt32.reduceToNat]
    omega
  have low : (machine.push left).frames.stack.toNat % 65536 < halfSize := by
    show (machine.frames.stack + 4).toNat % 65536 < halfSize
    omega
  have kept : ((machine.hub.memory.writeLong machine.frames.stack left).writeLong
      (machine.frames.stack + 4) right).readLong (machine.frames.stack + 4 - 4) = left := by
    rw [UInt32.add_sub_cancel, readLong_writeLong_of_ne _ (by omega), readLong_writeLong _ room.low]
  rw [pop_of_push low]
  refine ⟨rfl, Prod.ext kept ?_⟩
  show (machine.withMemory fun memory => (memory.writeLong machine.frames.stack left).writeLong
    (machine.frames.stack + 4) right).withStack (machine.frames.stack + 4 - 4) = _
  rw [UInt32.add_sub_cancel]
  rfl

/-- An operator that is part of an assignment finds the variable's value, and the operand on the
stack. -/
lemma assign (room : machine.HasRoom) (operator : Operator) (before operand : UInt32) :
    ∃ memory, (machine.withOperand operator operand).assign operator before
        = (Spin.binary operator before operand, machine.withMemory fun _ => memory) ∧
      SameOutside machine.frames.stack 2 machine.hub.memory memory := by
  rw [withOperand]
  cases arity : operator.isUnary with
  | true =>
    refine ⟨machine.hub.memory, ?_, fun _ _ => rfl⟩
    simp only [if_true, SpinMachine.assign, unary?_eq_binary arity before operand]
    rfl
  | false =>
    refine ⟨_, ?_, room.inside machine.inLongs_stack _ operand⟩
    simp only [Bool.false_eq_true, if_false, SpinMachine.assign, unary?_eq_none arity,
      pop_of_push room.low]
    rfl

/-- One that is a bytecode finds both on the stack. -/
lemma operate (room : machine.HasRoom) (operator : Operator) (before operand : UInt32) :
    ∃ memory, ((machine.push before).withOperand operator operand).operate operator
        = (machine.withMemory fun _ => memory).withStack (machine.frames.stack + 4) ∧
      SameOutside machine.frames.stack 2 machine.hub.memory memory ∧
      memory.readLong machine.frames.stack = Spin.binary operator before operand := by
  have fetched := room.inside machine.inLongs_stack machine.hub.memory before
  rw [withOperand]
  cases arity : operator.isUnary with
  | true =>
    have value : unary? operator (machine.push before).pop.1
        = some (Spin.binary operator before operand) := by
      rw [pop_of_push room.low, unary?_eq_binary arity before operand]
    rw [if_pos rfl, operate_unary value, pop_of_push room.low]
    exact ⟨_, rfl, fetched.trans (room.inside machine.inLongs_stack _ _),
      readLong_writeLong _ room.low _⟩
  | false =>
    have operands := room.pop_two before operand
    have pushed := fetched.trans (room.inside room.second _ operand)
    rw [if_neg Bool.false_ne_true, operate_binary _ arity, operands.1, operands.2]
    exact ⟨_, rfl, pushed.trans (room.inside machine.inLongs_stack _ _),
      readLong_writeLong _ room.low _⟩

end HasRoom

variable [Timebase τ]

/-- **A bytecode that accesses a variable** finds it by its frame. -/
theorem execute_access (machine : SpinMachine τ) {place : Variable} {kind : AccessKind}
    (stands : machine.hub.memory.HasBytes machine.body.pc (place.code kind)) :
    machine.execute
      = (machine.withPc (machine.body.pc + .ofNat (place.code kind).length)).accessAt kind
          place.size (machine.addressOf place) := by
  cases place with
  | long place =>
    have table : ∀ isLocal index,
        BytecodeFamily.classify (FrameLong.code ⟨isLocal, index⟩ + kind.bits)
          = .variable ⟨kind, isLocal, 4 * .ofNat index⟩ := by
      cases kind <;> decide
    have family : BytecodeFamily.classify machine.nextByte.1
        = .variable ⟨kind, place.isLocal, 4 * .ofNat place.index⟩ :=
      (congrArg _ stands.head).trans (table _ _)
    simp only [execute, family]
    rfl
  | packed size space inFrame first second =>
    have family : BytecodeFamily.classify machine.nextByte.1
        = .memory ⟨kind, space, false, size⟩ := by
      refine (congrArg _ stands.head).trans ?_
      cases kind <;> cases size <;> cases space <;> rfl
    simp only [execute, family]
    exact (accessMemory_eq machine.next _).trans (by rw [locate_packed stands]; rfl)

end SpinMachine

/-! ## Both ways -/

namespace Spin

/-- An operator that is applied to a variable. -/
structure Assignment where
  place : Variable
  operator : Operator
  /-- Whether the new value is wanted on the stack as well. -/
  push : Bool

namespace Assignment

open SpinMachine

/-- The byte that tells the operator to a bytecode that updates something. -/
def updateByte (assignment : Assignment) : UInt8 :=
  (if assignment.push then 0xC0 else 0x40) + assignment.operator.bits

/-- The code that updates the variable in place. -/
def updateCode (assignment : Assignment) : List UInt8 :=
  assignment.place.code .update ++ [assignment.updateByte]

/-- The code that gets the variable's value. -/
def fetchCode (assignment : Assignment) : List UInt8 :=
  assignment.place.code .push

/-- The code that applies the operator and stores the value. -/
def storeCode (assignment : Assignment) : List UInt8 :=
  (0xE0 + assignment.operator.bits) :: assignment.place.code .pop

variable {τ : Type}

/-- Bytes stand in memory, apart from the room on the stack. -/
structure StandsApart (machine : SpinMachine τ) (place : UInt32) (bytes : List UInt8) : Prop where
  stands : machine.hub.memory.HasBytes place bytes
  apart : ∀ i < bytes.length, ¬ InLongs machine.frames.stack 2 (place + .ofNat i)

/-- There is room on the stack, apart from the variable and from both codes. -/
structure Ready (assignment : Assignment) (machine : SpinMachine τ)
    (update fetch store : UInt32) : Prop where
  room : machine.HasRoom
  variableApart : ¬ InLongs machine.frames.stack 2 (machine.addressOf assignment.place)
  update : StandsApart machine update assignment.updateCode
  fetch : StandsApart machine fetch assignment.fetchCode
  store : StandsApart machine store assignment.storeCode

variable [Timebase τ] {assignment : Assignment} {machine : SpinMachine τ}
  {update fetch store : UInt32}

/-- The value that the variable should get. -/
def value (assignment : Assignment) (operand : UInt32) (machine : SpinMachine τ) : UInt32 :=
  Spin.binary assignment.operator
    (machine.hub.read assignment.place.size (machine.addressOf assignment.place)) operand

/-- Memory with that value in the variable. -/
def assigned (assignment : Assignment) (operand : UInt32) (machine : SpinMachine τ)
    (memory : Memory) : Memory :=
  memory.write assignment.place.size (machine.addressOf assignment.place)
    (assignment.value operand machine)

lemma decode_updateByte (assignment : Assignment) :
    UpdateByte.decode assignment.updateByte = ⟨.assign assignment.operator, assignment.push⟩ := by
  have table (operator : Operator) (push : Bool) :
      UpdateByte.decode ((if push then 0xC0 else 0x40) + operator.bits)
        = ⟨.assign operator, push⟩ := by
    cases push <;> cases operator <;> decide
  exact table _ _

omit [Timebase τ] in
/-- Bytes that stand apart still stand when something was written into the room. -/
lemma StandsApart.keep {place : UInt32} {bytes : List UInt8}
    (h : StandsApart machine place bytes) (after : SpinMachine τ)
    (same : SameOutside machine.frames.stack 2 machine.hub.memory after.hub.memory) :
    after.hub.memory.HasBytes place bytes :=
  same.hasBytes h.apart h.stands

/-- The update in place. -/
lemma Ready.execute_update (ready : assignment.Ready machine update fetch store)
    (operand : UInt32) :
    ∃ memory, SameOutside machine.frames.stack 2 machine.hub.memory memory ∧
      (assignment.push → memory.readLong machine.frames.stack = assignment.value operand machine) ∧
      ((machine.withOperand assignment.operator operand).withPc update).execute
        = (((machine.withPc (update + .ofNat assignment.updateCode.length)).withMemory fun _ =>
            assignment.assigned operand machine memory).withStack
              (if assignment.push then machine.frames.stack + 4
                else machine.frames.stack)).done := by
  have room := ready.room
  let start := (machine.withOperand assignment.operator operand).withPc update
  let behind := update + .ofNat (assignment.place.code .update).length
  have untouched : SameOutside machine.frames.stack 2 machine.hub.memory start.hub.memory :=
    room.operand assignment.operator operand
  obtain ⟨code, byte⟩ := (ready.update.keep start untouched).append
  have address : start.addressOf assignment.place = machine.addressOf assignment.place :=
    addressOf_congr machine start (frames_withOperand ..) _
  have before : start.hub.read assignment.place.size (machine.addressOf assignment.place)
      = machine.hub.read assignment.place.size (machine.addressOf assignment.place) :=
    untouched.read room.aligned ready.variableApart _
  have decoded : UpdateByte.decode (start.withPc behind).code
      = ⟨.assign assignment.operator, assignment.push⟩ :=
    (congrArg _ byte.head).trans assignment.decode_updateByte
  obtain ⟨memory, applied, same⟩ :=
    (room.withPc (behind + 1)).assign assignment.operator
      (machine.hub.read assignment.place.size (machine.addressOf assignment.place)) operand
  rw [← withPc_withOperand] at applied
  let after := (machine.withPc (behind + 1)).withMemory fun _ => memory
  have executed : start.execute
      = ((if assignment.push then after.push (assignment.value operand machine)
          else after).withMemory (assignment.assigned operand machine)).done := by
    refine (execute_access start code).trans ?_
    rw [address, accessAt]
    show (start.withPc behind).update (start.hub.read assignment.place.size
      (machine.addressOf assignment.place)) _ = _
    rw [before]
    exact update_of_ok decoded
      (congrArg (fun outcome => Except.ok (Updated.same outcome)) applied) _
  have length : update + .ofNat assignment.updateCode.length = behind + 1 := by
    rw [updateCode, List.length_append, UInt32.ofNat_add, ← UInt32.add_assoc]
    rfl
  rw [length]
  cases wanted : assignment.push with
  | true =>
    have pushed := room.inside machine.inLongs_stack memory (assignment.value operand machine)
    refine ⟨_, same.trans pushed, fun _ => readLong_writeLong _ room.low _, executed.trans ?_⟩
    rw [wanted]
    rfl
  | false =>
    refine ⟨memory, same, fun asked => absurd asked Bool.false_ne_true, executed.trans ?_⟩
    rw [wanted]
    rfl

/-- The variable is pushed. -/
lemma Ready.fetches (ready : assignment.Ready machine update fetch store) :
    (machine.withPc fetch).execute
      = ((machine.withPc (fetch + .ofNat assignment.fetchCode.length)).push
          (machine.hub.read assignment.place.size (machine.addressOf assignment.place))).done := by
  have address : (machine.withPc fetch).addressOf assignment.place
      = machine.addressOf assignment.place :=
    addressOf_congr machine (machine.withPc fetch) rfl _
  refine (execute_access (machine.withPc fetch) ready.fetch.stands).trans ?_
  rw [address]
  rfl

/-- The operator is applied to what has been pushed. -/
lemma Ready.operates (ready : assignment.Ready machine update fetch store) (operand : UInt32) :
    let before := machine.hub.read assignment.place.size (machine.addressOf assignment.place)
    ∃ memory, SameOutside machine.frames.stack 2 machine.hub.memory memory ∧
      memory.readLong machine.frames.stack = assignment.value operand machine ∧
      (((machine.withPc store).push before).withOperand assignment.operator operand).execute
        = (((machine.withPc (store + 1)).withMemory fun _ => memory).withStack
            (machine.frames.stack + 4)).done := by
  intro before
  have room := ready.room
  let start := ((machine.withPc store).push before).withOperand assignment.operator operand
  have pushed : SameOutside machine.frames.stack 2 machine.hub.memory start.hub.memory :=
    (room.withPc store).operands assignment.operator before operand
  have pc : start.body.pc = store := by
    rw [body_withOperand]
    rfl
  have operator : start.code = 0xE0 + assignment.operator.bits := by
    rw [SpinMachine.code, pc]
    exact (ready.store.keep start pushed).head
  have next : start.next = ((machine.withPc (store + 1)).push before).withOperand
      assignment.operator operand := by
    rw [SpinMachine.next, pc, withPc_withOperand]
    rfl
  obtain ⟨memory, applied, same, value⟩ :=
    (room.withPc (store + 1)).operate assignment.operator before operand
  refine ⟨memory, same, value, (execute_operator operator).trans ?_⟩
  rw [next, applied]
  rfl

/-- The value on the stack is stored. -/
lemma Ready.stores (ready : assignment.Ready machine update fetch store) {memory : Memory}
    (same : SameOutside machine.frames.stack 2 machine.hub.memory memory) :
    (((machine.withPc (store + 1)).withMemory fun _ => memory).withStack
        (machine.frames.stack + 4)).execute
      = ((machine.withPc (store + .ofNat assignment.storeCode.length)).withMemory fun _ =>
          memory.write assignment.place.size (machine.addressOf assignment.place)
            (memory.readLong machine.frames.stack)).done := by
  let start := ((machine.withPc (store + 1)).withMemory fun _ => memory).withStack
    (machine.frames.stack + 4)
  have stands : start.hub.memory.HasBytes (store + 1) (assignment.place.code .pop) := by
    have all := ready.store.keep start same
    exact all.tail
  have address : start.addressOf assignment.place = machine.addressOf assignment.place :=
    addressOf_congr machine start rfl _
  have behind : store + 1 + .ofNat (assignment.place.code .pop).length
      = store + .ofNat assignment.storeCode.length := by
    rw [storeCode, List.length_cons, UInt32.ofNat_add, UInt32.add_assoc,
      UInt32.add_comm (.ofNat _)]
    rfl
  let popped (stack : UInt32) : SpinMachine τ :=
    ((machine.withPc (store + .ofNat assignment.storeCode.length)).withMemory fun _ =>
      memory.write assignment.place.size (machine.addressOf assignment.place)
        (memory.readLong stack)).withStack stack
  refine (execute_access start stands).trans ?_
  rw [address]
  show (start.withPc (store + 1 + .ofNat (assignment.place.code .pop).length)).accessAt .pop _ _
    = (popped machine.frames.stack).done
  rw [behind, ← UInt32.add_sub_cancel machine.frames.stack 4]
  rfl

/-- The other way. -/
lemma Ready.execute_store (ready : assignment.Ready machine update fetch store)
    (operand : UInt32) :
    let fetched := (machine.withPc fetch).execute
    let operated :=
      ((fetched.machine.withOperand assignment.operator operand).withPc store).execute
    ∃ memory, SameOutside machine.frames.stack 2 machine.hub.memory memory ∧
      fetched.fault? = none ∧ operated.fault? = none ∧
      operated.machine.pop.1 = assignment.value operand machine ∧
      operated.machine.execute
        = ((machine.withPc (store + .ofNat assignment.storeCode.length)).withMemory fun _ =>
            assignment.assigned operand machine memory).done := by
  intro fetched operated
  have fetches : fetched = _ := ready.fetches
  obtain ⟨memory, same, value, applied⟩ := ready.operates operand
  have found : (fetched.machine.withOperand assignment.operator operand).withPc store
      = ((machine.withPc store).push (machine.hub.read assignment.place.size
          (machine.addressOf assignment.place))).withOperand assignment.operator operand := by
    rw [fetches, withPc_withOperand]
    rfl
  have operates : operated = _ := (congrArg execute found).trans applied
  have stores := ready.stores same
  rw [value] at stores
  rw [operates]
  refine ⟨memory, same, congrArg SpinOutcome.fault? fetches, rfl, ?_, stores⟩
  show memory.readLong (machine.frames.stack + 4 - 4) = _
  rw [UInt32.add_sub_cancel, value]

/-- **Both ways to assign come to the same.** -/
theorem assigned_alike (assignment : Assignment) (operand : UInt32) (machine : SpinMachine τ)
    {update fetch store : UInt32} (ready : assignment.Ready machine update fetch store) :
    let updated := ((machine.withOperand assignment.operator operand).withPc update).execute
    let fetched := (machine.withPc fetch).execute
    let operated :=
      ((fetched.machine.withOperand assignment.operator operand).withPc store).execute
    let stored := operated.machine.execute
    (updated.fault? = none ∧ fetched.fault? = none ∧ operated.fault? = none ∧
        stored.fault? = none) ∧
      updated.machine.hub.read assignment.place.size (updated.machine.addressOf assignment.place)
        = stored.machine.hub.read assignment.place.size
          (stored.machine.addressOf assignment.place) ∧
      SameOutside machine.frames.stack 2 stored.machine.hub.memory updated.machine.hub.memory ∧
      if assignment.push then
        updated.machine.frames.stack = stored.machine.frames.stack + 4 ∧
          updated.machine.pop.1 = operated.machine.pop.1
      else
        updated.machine.frames = stored.machine.frames := by
  intro updated fetched operated stored
  obtain ⟨memory, same, pushed, (updates : updated = _)⟩ := ready.execute_update operand
  obtain ⟨memory', same', fetches, operates, top, (stores : stored = _)⟩ :=
    ready.execute_store operand
  have room := ready.room
  have alike : SameOutside machine.frames.stack 2 (assignment.assigned operand machine memory')
      (assignment.assigned operand machine memory) := (same'.symm.trans same).write _ _ _
  have here : updated.machine.addressOf assignment.place = machine.addressOf assignment.place :=
    addressOf_congr _ _ (by rw [updates]; rfl) _
  have there : stored.machine.addressOf assignment.place = machine.addressOf assignment.place :=
    addressOf_congr _ _ (by rw [stores]; rfl) _
  rw [here, there, updates, stores]
  refine ⟨⟨rfl, fetches, operates, rfl⟩, ?_, alike, ?_⟩
  · exact alike.read room.aligned ready.variableApart _
  · cases wanted : assignment.push with
    | true =>
      refine ⟨rfl, Eq.trans ?_ top.symm⟩
      show (assignment.assigned operand machine memory).readLong (machine.frames.stack + 4 - 4) = _
      rw [UInt32.add_sub_cancel, assigned, room.readLong_write ready.variableApart, pushed wanted]
    | false => exact rfl

/-- A byte, `5`, from which something is subtracted. -/
def decrease : Assignment :=
  ⟨.packed .byte .object (by decide) 4 0, .subtract, true⟩

/-- The codes stand at `10`, `18` and `20`, and the byte at `34`; the stack starts at `40`. -/
def decreaseMachine : SpinMachine Rat where
  frames := { SpinFrames.new with object := 0x30, stack := 0x40 }
  body := CogBody.new 0 0 0 0
  hub := .new ([(0x10, 0x86), (0x11, 0x04), (0x12, 0xCD), (0x18, 0x84), (0x19, 0x04),
    (0x20, 0xED), (0x21, 0x85), (0x22, 0x04), (0x34, 5)].foldl
      (fun memory (entry : UInt16 × UInt8) => memory.setByte entry.1 entry.2)
      ⟨.replicate halfSize 0, .replicate halfSize 0⟩)

/-- The difference is negative, and only its lowest byte is stored. -/
theorem assigned_decrease :
    let updated := ((decreaseMachine.push 7).withPc 0x10).execute
    decrease.Ready decreaseMachine 0x10 0x18 0x20 ∧ updated.fault? = none ∧
      updated.machine.hub.read .byte 0x34 = 0xFE ∧ updated.machine.pop.1 = 0xFFFFFFFE := by
  have ready : decrease.Ready decreaseMachine 0x10 0x18 0x20 :=
    ⟨⟨by decide +kernel, by decide +kernel⟩, by decide +kernel,
      ⟨by decide +kernel, by decide +kernel⟩, ⟨by decide +kernel, by decide +kernel⟩,
      ⟨by decide +kernel, by decide +kernel⟩⟩
  obtain ⟨⟨works, -, -, -⟩, byte, -, pushed⟩ := assigned_alike decrease 7 decreaseMachine ready
  refine ⟨ready, works, byte.trans ?_, pushed.2.trans ?_⟩
  · decide +kernel
  · decide +kernel

end Assignment

end Spin

end P1Chip
