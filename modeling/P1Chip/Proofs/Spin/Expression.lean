import P1Chip.Proofs.Memory.Words
import P1Chip.Proofs.Spin.Nesting

/-!
# The value of an expression

The code of an expression is its tree in postfix order: the operands of an operator stand before
it, the left one first.  Carried out one bytecode after the other, it leaves the value of the tree
on the stack and everything else as it was.  What it needs for that is room on the stack, and that
neither its own code nor the variables it reads lie in that room.

The proof follows the tree.  Its invariant is `Expression.Ready`: a part of an expression is ready
when its turn comes, since the parts before it have changed nothing but the room of the whole.

* `Spin.Expression` — trees of constants, variables and operators.
* `Spin.Expression.code`, `Spin.Expression.value`, `Spin.Expression.depth` — the code of a tree,
  what it should leave on the stack, and how many longs it needs there.
* `SpinMachine.run?` — so many bytecodes, none of which raises a fault.
* **`Spin.Expression.computed_of_ready`** — the code computes the value.
-/

namespace P1Chip

open Spin

/-! ## Expressions -/

namespace Spin

/-- A constant that stands in the code with one to four bytes. -/
structure Literal where
  width : Nat
  value : UInt32
  positive : 0 < width
  short : width ≤ 4
  fits : value.toNat < 256 ^ width

/-- One of the first eight longs of a frame. -/
structure FrameLong where
  /-- Whether the frame is that of the method's locals, and not of the object's variables. -/
  isLocal : Bool
  index : Fin 8

inductive Expression where
  | minusOne
  | zero
  | one
  | literal (constant : Literal)
  | long (place : FrameLong)
  | unary (operator : Operator) (takesOne : operator.isUnary) (operand : Expression)
  | binary (operator : Operator) (takesTwo : operator.isUnary = false) (left right : Expression)

/-! ### What they are worth -/

lemma isSome_unary? (operator : Operator) (value : UInt32) :
    (unary? operator value).isSome = operator.isUnary := by
  cases operator <;> rfl

lemma unary?_eq_none {operator : Operator} (takesTwo : operator.isUnary = false)
    (value : UInt32) : unary? operator value = none :=
  Option.isNone_iff_eq_none.mp (Option.isSome_eq_false_iff.mp
    ((isSome_unary? operator value).trans takesTwo))

/-- The value of an expression, with the given values of variables. -/
def Expression.value (environment : FrameLong → UInt32) : Expression → UInt32
  | minusOne => -1
  | zero => 0
  | one => 1
  | literal constant => constant.value
  | long place => environment place
  | unary operator takesOne operand =>
    (unary? operator (operand.value environment)).get
      ((isSome_unary? operator _).trans takesOne)
  | binary operator _ left right =>
    Spin.binary operator (left.value environment) (right.value environment)

def Expression.places : Expression → List FrameLong
  | minusOne | zero | one | literal _ => []
  | long place => [place]
  | unary _ _ operand => operand.places
  | binary _ _ left right => left.places ++ right.places

lemma Expression.value_congr {environment other : FrameLong → UInt32} (expression : Expression)
    (same : ∀ place ∈ expression.places, other place = environment place) :
    expression.value other = expression.value environment := by
  induction expression with
  | minusOne => rfl
  | zero => rfl
  | one => rfl
  | literal constant => rfl
  | long place => exact same place (List.mem_singleton_self place)
  | unary operator takesOne operand ih =>
    simp only [value, ih same]
  | binary operator takesTwo left right ihl ihr =>
    simp only [value]
    rw [ihl fun place hp => same place (List.mem_append_left _ hp),
      ihr fun place hp => same place (List.mem_append_right _ hp)]

/-! ### How they are written -/

/-- The lowest bytes of a value, the highest of them first. -/
def bigEndian : Nat → UInt32 → List UInt8
  | 0, _ => []
  | count + 1, value => .ofNat (value.toNat / 256 ^ count) :: bigEndian count value

@[simp]
lemma length_bigEndian (count : Nat) (value : UInt32) :
    (bigEndian count value).length = count := by
  induction count with
  | zero => rfl
  | succ count ih => rw [bigEndian, List.length_cons, ih]

/-- The bytecode that pushes a variable. -/
def FrameLong.code (place : FrameLong) : UInt8 :=
  (if place.isLocal then 0x60 else 0x40) + 4 * .ofNat place.index

def Expression.code : Expression → List UInt8
  | minusOne => [0x34]
  | zero => [0x35]
  | one => [0x36]
  | literal constant => (0x37 + .ofNat constant.width) :: bigEndian constant.width constant.value
  | long place => [place.code]
  | unary operator _ operand => operand.code ++ [0xE0 + operator.bits]
  | binary operator _ left right => left.code ++ right.code ++ [0xE0 + operator.bits]

/-- How many bytecodes the code has. -/
def Expression.size : Expression → Nat
  | minusOne | zero | one | literal _ | long _ => 1
  | unary _ _ operand => operand.size + 1
  | binary _ _ left right => left.size + right.size + 1

/-- How many longs are on the stack at once while the code is carried out: the left operand waits
there for the right one. -/
def Expression.depth : Expression → Nat
  | minusOne | zero | one | literal _ | long _ => 1
  | unary _ _ operand => operand.depth
  | binary _ _ left right => max left.depth (right.depth + 1)

lemma Expression.depth_pos (expression : Expression) : 0 < expression.depth := by
  induction expression with
  | unary operator takesOne operand ih => exact ih
  | binary operator takesTwo left right ihl _ => exact Nat.lt_of_lt_of_le ihl (Nat.le_max_left ..)
  | _ => exact Nat.zero_lt_one

end Spin

/-! ## Single bytecodes -/

variable {τ : Type}

namespace SpinMachine

def variableAddress (machine : SpinMachine τ) (place : FrameLong) : UInt32 :=
  (if place.isLocal then machine.frames.locals else machine.frames.vars) + 4 * .ofNat place.index

def environment (machine : SpinMachine τ) (place : FrameLong) : UInt32 :=
  machine.hub.memory.readLong (machine.variableAddress place)

lemma shiftLeft_or_byte (before : UInt32) (byte : UInt8) :
    (before <<< 8) ||| byte.toUInt32 = before * 256 + byte.toUInt32 := by
  have hb := byte.toNat_lt
  have hs : (before <<< 8).toNat = (before.toNat % 2 ^ 24) <<< 8 := by
    simp [UInt32.toNat_shiftLeft, Nat.shiftLeft_eq]
    omega
  apply UInt32.toNat_inj.mp
  rw [UInt32.toNat_or, hs, UInt8.toNat_toUInt32, ← Nat.shiftLeft_add_eq_or_of_lt (by omega),
    Nat.shiftLeft_eq, UInt32.toNat_add, UInt32.toNat_mul, UInt8.toNat_toUInt32]
  simp only [UInt32.reduceToNat]
  omega

/-- A constant is put together from its bytes, behind the ones that were taken before. -/
lemma takeLiteral_of_hasBytes (count : Nat) (value before : UInt32) (machine : SpinMachine τ)
    (h : machine.hub.memory.HasBytes machine.body.pc (bigEndian count value)) :
    takeLiteral count before machine
      = (before * .ofNat (256 ^ count) + .ofNat (value.toNat % 256 ^ count),
        machine.withPc (machine.body.pc + .ofNat count)) := by
  induction count generalizing before machine with
  | zero =>
    rw [takeLiteral, Nat.pow_zero, Nat.mod_one]
    show (before, machine)
      = (before * 1 + 0, { machine with body := { machine.body with pc := machine.body.pc + 0 } })
    rw [UInt32.mul_one, UInt32.add_zero, UInt32.add_zero]
  | succ count ih =>
    rw [bigEndian] at h
    have first : machine.nextByte = (.ofNat (value.toNat / 256 ^ count), machine.next) :=
      Prod.ext h.head rfl
    have rest := ih (before * 256 + (UInt8.ofNat (value.toNat / 256 ^ count)).toUInt32)
      machine.next h.tail
    have digit : (UInt8.ofNat (value.toNat / 256 ^ count)).toUInt32
        = .ofNat (value.toNat / 256 ^ count % 256) := UInt32.toNat_inj.mp (by simp; omega)
    rw [takeLiteral, first]
    show takeLiteral count ((before <<< 8) ||| _) machine.next = _
    rw [shiftLeft_or_byte, rest, digit]
    refine Prod.ext ?_ ?_
    · show (before * 256 + _) * _ + _ = before * _ + _
      rw [Nat.pow_succ, Nat.mod_mul, UInt32.ofNat_mul, UInt32.ofNat_add, UInt32.ofNat_mul]
      show _ = before * (_ * 256) + _
      grind
    · show machine.withPc (machine.body.pc + 1 + .ofNat count) = machine.withPc _
      rw [UInt32.add_assoc, UInt32.ofNat_add, UInt32.add_comm (.ofNat count)]
      rfl

lemma operate_unary {machine : SpinMachine τ} {operator : Operator} {result : UInt32}
    (h : unary? operator machine.pop.1 = some result) :
    machine.operate operator = machine.pop.2.push result := by
  simp only [operate, h]

lemma operate_binary (machine : SpinMachine τ) {operator : Operator}
    (takesTwo : operator.isUnary = false) :
    machine.operate operator = machine.pop.2.pop.2.push
      (Spin.binary operator machine.pop.2.pop.1 machine.pop.1) := by
  simp only [operate, unary?_eq_none takesTwo]

variable [Timebase τ]

/-- The machine after so many bytecodes, if none of them raises a fault. -/
def run? : Nat → SpinMachine τ → Option (SpinMachine τ)
  | 0, machine => some machine
  | count + 1, machine =>
    match machine.execute with
    | ⟨next, none⟩ => run? count next
    | ⟨_, some _⟩ => none

lemma run?_one {machine next : SpinMachine τ} (h : machine.execute = next.done) :
    machine.run? 1 = some next := by
  rw [run?, h]
  rfl

lemma run?_add {between : SpinMachine τ} (first second : Nat) {machine : SpinMachine τ}
    (h : machine.run? first = some between) :
    machine.run? (first + second) = between.run? second := by
  induction first generalizing machine with
  | zero =>
    cases h
    rw [Nat.zero_add]
  | succ first ih =>
    rw [Nat.add_right_comm, run?]
    rw [run?] at h
    revert h
    rcases machine.execute with ⟨next, _ | fault⟩ <;> intro h
    · exact ih h
    · cases h

lemma execute_constant {machine : SpinMachine τ} {value : UInt32}
    (h : SpecialOp.decode? machine.code = some (.constant value)) :
    machine.execute = (machine.next.push value).done := by
  rw [execute_of_decode machine h]
  rfl

lemma execute_variable {machine : SpinMachine τ} {place : FrameLong}
    (h : machine.code = place.code) :
    machine.execute = (machine.next.push (machine.environment place)).done := by
  have table : ∀ isLocal index, BytecodeFamily.classify (FrameLong.code ⟨isLocal, index⟩)
      = .variable ⟨.push, isLocal, 4 * .ofNat index⟩ := by decide
  have hf : BytecodeFamily.classify (machine.hub.memory.readByte machine.body.pc)
      = .variable ⟨.push, place.isLocal, 4 * .ofNat place.index⟩ :=
    (congrArg _ h).trans (table _ _)
  simp only [execute, nextByte]
  rw [hf]
  rfl

lemma execute_operator {machine : SpinMachine τ} {operator : Operator}
    (h : machine.code = 0xE0 + operator.bits) :
    machine.execute = (machine.next.operate operator).done := by
  have table : BytecodeFamily.classify (0xE0 + operator.bits) = .operator operator := by
    cases operator <;> rfl
  have hf : BytecodeFamily.classify (machine.hub.memory.readByte machine.body.pc)
      = .operator operator := (congrArg _ h).trans table
  simp only [execute, nextByte]
  rw [hf]
  rfl

lemma execute_literal {machine : SpinMachine τ} {constant : Literal}
    (h : machine.hub.memory.HasBytes machine.body.pc (Expression.literal constant).code) :
    machine.execute = ((machine.withPc (machine.body.pc + .ofNat (constant.width + 1))).push
      constant.value).done := by
  have table : ∀ width < 5, 0 < width →
      SpecialOp.decode? (0x37 + .ofNat width) = some (.literal width) := by decide
  have decoded : SpecialOp.decode? machine.code = some (.literal constant.width) :=
    (congrArg _ h.head).trans (table _ (Nat.lt_succ_of_le constant.short) constant.positive)
  have taken := takeLiteral_of_hasBytes constant.width constant.value 0 machine.next h.tail
  rw [Nat.mod_eq_of_lt constant.fits, UInt32.zero_mul, UInt32.zero_add, UInt32.ofNat_toNat] at taken
  rw [execute_of_decode machine decoded]
  show (pushLiteral machine.next constant.width).done = _
  rw [pushLiteral, taken]
  show ((machine.withPc (machine.body.pc + 1 + .ofNat constant.width)).push _).done = _
  rw [UInt32.add_assoc, UInt32.ofNat_add, UInt32.add_comm (.ofNat constant.width)]
  rfl

end SpinMachine

/-! ## Whole expressions -/

namespace Spin.Expression

variable {whole inner expression : Expression} {machine between before after : SpinMachine τ}

/-- The expression is what the program goes on with, and there is room for it on the stack: in
memory that can be written, and apart from the code and the variables that it reads. -/
structure Ready (expression : Expression) (machine : SpinMachine τ) : Prop where
  aligned : machine.frames.stack.toNat % 4 = 0
  fits : machine.frames.stack.toNat % 65536 + 4 * expression.depth ≤ halfSize
  code : machine.hub.memory.HasBytes machine.body.pc expression.code
  codeApart : ∀ i < expression.code.length,
    ¬ Memory.InLongs machine.frames.stack expression.depth (machine.body.pc + .ofNat i)
  variablesApart : ∀ place ∈ expression.places,
    ¬ Memory.InLongs machine.frames.stack expression.depth (machine.variableAddress place)

/-- The value of the expression was put on the stack, and the program goes on behind the code.
Outside of the room on the stack all memory is as it was, and so is everything else. -/
structure Computed (expression : Expression) (before after : SpinMachine τ) : Prop where
  body : after.body
    = { before.body with pc := before.body.pc + .ofNat expression.code.length }
  frames : after.frames = { before.frames with stack := before.frames.stack + 4 }
  hub : after.hub = before.hub.withMemory fun _ => after.hub.memory
  top : after.hub.memory.readLong before.frames.stack = expression.value before.environment
  rest : Memory.SameOutside before.frames.stack expression.depth before.hub.memory
    after.hub.memory

lemma Ready.hasBytes (ready : Ready whole machine) (first middle last : List UInt8)
    (code : whole.code = first ++ middle ++ last)
    (pc : between.body.pc = machine.body.pc + .ofNat first.length)
    (same : Memory.SameOutside machine.frames.stack whole.depth machine.hub.memory
      between.hub.memory) : between.hub.memory.HasBytes between.body.pc middle := by
  have stands := ready.code
  rw [code] at stands
  intro i hi
  have place : between.body.pc + .ofNat i = machine.body.pc + .ofNat (first.length + i) := by
    rw [pc, UInt32.ofNat_add, UInt32.add_assoc]
  have inside : first.length + i < whole.code.length := by
    rw [code, List.length_append, List.length_append]
    omega
  rw [place, same _ (ready.codeApart _ inside), ← place, pc]
  exact stands.part first last i hi

/-- A part of an expression is ready when its turn comes: behind the code in front of it, with
`longs` operands waiting on the stack. -/
lemma Ready.part (ready : Ready whole machine) (first last : List UInt8) (longs : Nat)
    (code : whole.code = first ++ inner.code ++ last)
    (places : inner.places ⊆ whole.places) (deep : longs + inner.depth ≤ whole.depth)
    (pc : between.body.pc = machine.body.pc + .ofNat first.length)
    (frames : between.frames
      = { machine.frames with stack := machine.frames.stack + 4 * .ofNat longs })
    (same : Memory.SameOutside machine.frames.stack whole.depth machine.hub.memory
      between.hub.memory) : Ready inner between := by
  have fits := ready.fits
  have pos := inner.depth_pos
  simp only [halfSize] at fits
  have stack : between.frames.stack = machine.frames.stack + 4 * .ofNat longs := by rw [frames]
  refine ⟨?_, ?_, ready.hasBytes first inner.code last code pc same, ?_, ?_⟩
  · have aligned := ready.aligned
    rw [stack, UInt32.toNat_add, UInt32.toNat_mul]
    simp only [UInt32.reduceToNat]
    omega
  · rw [stack, Memory.toNat_add_longs (by omega), halfSize]
    omega
  · intro i hi inRoom
    have inside : first.length + i < whole.code.length := by
      rw [code, List.length_append, List.length_append]
      omega
    rw [stack, pc, UInt32.add_assoc, ← UInt32.ofNat_add] at inRoom
    exact ready.codeApart _ inside (inRoom.of_part deep ready.fits)
  · intro place hp inRoom
    have address : between.variableAddress place = machine.variableAddress place := by
      rw [SpinMachine.variableAddress, frames]
      rfl
    rw [stack, address] at inRoom
    exact ready.variablesApart place (places hp) (inRoom.of_part deep ready.fits)

lemma Ready.first (ready : Ready whole machine) (last : List UInt8)
    (code : whole.code = inner.code ++ last) (places : inner.places ⊆ whole.places)
    (deep : inner.depth ≤ whole.depth) : Ready inner machine := by
  have pc : machine.body.pc = machine.body.pc + .ofNat 0 := (UInt32.add_zero _).symm
  have stack : machine.frames.stack + 4 * .ofNat 0 = machine.frames.stack := UInt32.add_zero _
  exact ready.part [] last 0 code places (by rwa [Nat.zero_add]) pc (by rw [stack])
    (fun _ _ => rfl)

/-- The last bytecode of an expression pushes its value where the room starts. -/
lemma Ready.computed (ready : Ready whole machine) {last : SpinMachine τ} {value : UInt32}
    (body : last.body = { machine.body with pc := machine.body.pc + .ofNat whole.code.length })
    (frames : last.frames = machine.frames)
    (hub : last.hub = machine.hub.withMemory fun _ => last.hub.memory)
    (same : Memory.SameOutside machine.frames.stack whole.depth machine.hub.memory
      last.hub.memory)
    (result : value = whole.value machine.environment) :
    Computed whole machine (last.push value) := by
  have pos := whole.depth_pos
  have fits := ready.fits
  have written : Memory.SameOutside machine.frames.stack 1 last.hub.memory
      (last.hub.memory.writeLong machine.frames.stack value) :=
    .writeLong ready.aligned value
  have memory : (last.push value).hub.memory
      = last.hub.memory.writeLong machine.frames.stack value := by
    rw [← frames]
    rfl
  refine ⟨body, ?_, ?_, ?_, ?_⟩
  · show { last.frames with stack := last.frames.stack + 4 } = _
    rw [frames]
  · show last.hub.withMemory (fun memory => memory.writeLong last.frames.stack value) = _
    rw [memory, hub, frames]
    rfl
  · rw [memory, Memory.readLong_writeLong _ (by omega), result]
  · rw [memory]
    exact same.trans (written.mono pos)

/-- Parts of an expression that are computed leave the variables alone. -/
lemma Ready.environment (ready : Ready whole machine)
    (frames : ∀ place, between.variableAddress place = machine.variableAddress place)
    (same : Memory.SameOutside machine.frames.stack whole.depth machine.hub.memory
      between.hub.memory) :
    ∀ place ∈ whole.places, between.environment place = machine.environment place := by
  intro place hp
  rw [SpinMachine.environment, frames]
  exact same.readLong ready.aligned (ready.variablesApart place hp)

/-- Taking the value from the stack again gives the machine as it was before, but for the program
counter and memory. -/
lemma Computed.pop (computed : Computed expression before after) (pc : UInt32) (memory : Memory) :
    ((after.withPc pc).withMemory fun _ => memory).pop
      = (memory.readLong before.frames.stack, (before.withPc pc).withMemory fun _ => memory) := by
  have back : before.frames.stack + 4 - 4 = before.frames.stack := by grind
  have stack : after.frames.stack - 4 = before.frames.stack := by
    rw [computed.frames]
    exact back
  have frames : { after.frames with stack := before.frames.stack } = before.frames := by
    rw [computed.frames]
  have body : { after.body with pc } = { before.body with pc } := by rw [computed.body]
  have hub : after.hub.withMemory (fun _ => memory) = before.hub.withMemory fun _ => memory := by
    rw [computed.hub]
    rfl
  show (memory.readLong (after.frames.stack - 4), SpinMachine.mk
    { after.frames with stack := after.frames.stack - 4 } { after.body with pc }
    (after.hub.withMemory fun _ => memory)) = _
  rw [stack, frames, body, hub]
  rfl

lemma Computed.next_pop (computed : Computed expression before after) :
    after.next.pop = (expression.value before.environment,
      (before.withPc (after.body.pc + 1)).withMemory fun _ => after.hub.memory) := by
  rw [← computed.top]
  exact computed.pop (after.body.pc + 1) after.hub.memory

variable [Timebase τ]

lemma Ready.exists_push (ready : Ready whole machine)
    (h : machine.execute = ((machine.withPc (machine.body.pc + .ofNat whole.code.length)).push
      (whole.value machine.environment)).done) :
    ∃ after, machine.run? 1 = some after ∧ Computed whole machine after :=
  ⟨_, SpinMachine.run?_one h, ready.computed rfl rfl rfl (fun _ _ => rfl) rfl⟩

lemma Ready.exists_constant (ready : Ready whole machine) {byte : UInt8}
    (code : whole.code = [byte])
    (decoded : SpecialOp.decode? byte = some (.constant (whole.value machine.environment))) :
    ∃ after, machine.run? 1 = some after ∧ Computed whole machine after := by
  have stands := ready.code
  rw [code] at stands
  refine ready.exists_push ?_
  rw [code]
  exact SpinMachine.execute_constant ((congrArg _ stands.head).trans decoded)

lemma Ready.exists_unary {operator : Operator} {takesOne : operator.isUnary}
    (ready : Ready (unary operator takesOne expression) machine)
    (run : machine.run? expression.size = some between)
    (computed : Computed expression machine between) :
    ∃ after, machine.run? (unary operator takesOne expression).size = some after
      ∧ Computed (unary operator takesOne expression) machine after := by
  have pc : between.body.pc = machine.body.pc + .ofNat expression.code.length := by
    rw [computed.body]
  have code : between.code = 0xE0 + operator.bits :=
    (ready.hasBytes expression.code [0xE0 + operator.bits] [] (List.append_nil _).symm pc
      computed.rest).head
  have result : unary? operator between.next.pop.1
      = some ((unary operator takesOne expression).value machine.environment) := by
    rw [computed.next_pop]
    exact (Option.some_get _).symm
  have last := SpinMachine.execute_operator code
  rw [SpinMachine.operate_unary result, computed.next_pop] at last
  refine ⟨_, (SpinMachine.run?_add expression.size 1 run).trans (SpinMachine.run?_one last),
    ready.computed ?_ rfl rfl computed.rest rfl⟩
  rw [Expression.code, List.length_append, UInt32.ofNat_add, ← UInt32.add_assoc, ← pc]
  rfl

/-- An operator with two operands. -/
lemma Ready.exists_binary {operator : Operator} {takesTwo : operator.isUnary = false}
    {left right : Expression} (ready : Ready (binary operator takesTwo left right) machine)
    (runLeft : machine.run? left.size = some between) (first : Computed left machine between)
    (runRight : between.run? right.size = some after) (second : Computed right between after) :
    ∃ after, machine.run? (binary operator takesTwo left right).size = some after
      ∧ Computed (binary operator takesTwo left right) machine after := by
  have stack : between.frames.stack = machine.frames.stack + 4 * .ofNat 1 := by
    rw [first.frames]
    rfl
  have fits := ready.fits
  have pos : 0 < right.depth := right.depth_pos
  simp only [depth, halfSize] at fits
  -- the right operand is computed behind the left one
  have behind : ¬ Memory.InLongs between.frames.stack right.depth machine.frames.stack := by
    rw [stack, Memory.InLongs, Memory.toNat_add_longs (by omega)]
    omega
  have aligned : between.frames.stack.toNat % 4 = 0 := by
    have aligned := ready.aligned
    rw [stack, UInt32.toNat_add]
    show (machine.frames.stack.toNat + 4) % 2 ^ 32 % 4 = 0
    omega
  -- so it cannot have overwritten the left one's value
  have top : after.hub.memory.readLong machine.frames.stack = left.value machine.environment :=
    (second.rest.readLong aligned behind).trans first.top
  have firstRest : Memory.SameOutside machine.frames.stack
      (binary operator takesTwo left right).depth machine.hub.memory between.hub.memory :=
    first.rest.mono (Nat.le_max_left ..)
  have secondRest : Memory.SameOutside (machine.frames.stack + 4 * .ofNat 1) right.depth
      between.hub.memory after.hub.memory := by
    rw [← stack]
    exact second.rest
  have rest := firstRest.trans (secondRest.of_part (by rw [depth]; omega) ready.fits)
  -- and the left one has not changed the variables that it reads
  have value : right.value between.environment = right.value machine.environment :=
    right.value_congr fun place hp => ready.environment
      (fun place => by rw [SpinMachine.variableAddress, first.frames]; rfl) firstRest place
      (List.mem_append_right _ hp)
  have pc : after.body.pc = machine.body.pc + .ofNat (left.code ++ right.code).length := by
    rw [second.body, first.body, List.length_append, UInt32.ofNat_add, UInt32.add_assoc]
  have code : after.code = 0xE0 + operator.bits :=
    (ready.hasBytes (left.code ++ right.code) [0xE0 + operator.bits] []
      (List.append_nil _).symm pc rest).head
  have last := SpinMachine.execute_operator code
  rw [SpinMachine.operate_binary _ takesTwo, second.next_pop, first.pop, top, value] at last
  have run := (SpinMachine.run?_add left.size right.size runLeft).trans runRight
  refine ⟨_, (SpinMachine.run?_add (left.size + right.size) 1 run).trans
    (SpinMachine.run?_one last), ready.computed ?_ rfl rfl rest rfl⟩
  rw [Expression.code, List.length_append, UInt32.ofNat_add, ← UInt32.add_assoc, ← pc]
  rfl

/-- **Expressions are computed.**  If an expression is ready, its bytecodes are carried out one
after the other without a fault, and leave its value on the stack. -/
theorem computed_of_ready (expression : Expression) (machine : SpinMachine τ)
    (ready : Ready expression machine) :
    ∃ after, machine.run? expression.size = some after ∧ Computed expression machine after := by
  induction expression generalizing machine with
  | minusOne =>
    have decoded : SpecialOp.decode? 0x34 = some (.constant (-1)) := by decide
    exact ready.exists_constant rfl decoded
  | zero =>
    have decoded : SpecialOp.decode? 0x35 = some (.constant 0) := by decide
    exact ready.exists_constant rfl decoded
  | one =>
    have decoded : SpecialOp.decode? 0x36 = some (.constant 1) := by decide
    exact ready.exists_constant rfl decoded
  | literal constant =>
    refine ready.exists_push ?_
    rw [code, List.length_cons, length_bigEndian]
    exact SpinMachine.execute_literal ready.code
  | long place => exact ready.exists_push (SpinMachine.execute_variable ready.code.head)
  | unary operator takesOne operand ih =>
    have first : Ready operand machine :=
      ready.first [0xE0 + operator.bits] rfl (fun _ h => h) (Nat.le_refl _)
    obtain ⟨between, run, computed⟩ := ih machine first
    exact ready.exists_unary run computed
  | binary operator takesTwo left right ihl ihr =>
    have first : Ready left machine :=
      ready.first (right.code ++ [0xE0 + operator.bits]) (List.append_assoc ..)
        (List.subset_append_left ..) (Nat.le_max_left ..)
    obtain ⟨between, runLeft, computedLeft⟩ := ihl machine first
    have second : Ready right between :=
      ready.part left.code [0xE0 + operator.bits] 1 rfl (List.subset_append_right ..)
        (by rw [depth, Nat.add_comm]; exact Nat.le_max_right ..)
        (by rw [computedLeft.body]) computedLeft.frames
        (computedLeft.rest.mono (Nat.le_max_left ..))
    obtain ⟨after, runRight, computedRight⟩ := ihr between second
    exact ready.exists_binary runLeft computedLeft runRight computedRight

/-! ### A difference -/

/-- `1000 - -x`, where `x` is the second local. -/
def difference : Expression :=
  .binary .subtract rfl
    (.literal ⟨2, 1000, by decide, by decide, by decide⟩)
    (.unary .negate rfl (.long ⟨true, ⟨1, by decide⟩⟩))

/-- The difference stands at `10` and `x`, at `24`, is 5; the stack starts at `40`. -/
def differenceMachine : SpinMachine Rat where
  frames := { SpinFrames.new with locals := 0x20, stack := 0x40 }
  body := { CogBody.new 0 0 0 0 with pc := 0x10 }
  hub := .new ([(0x10, 0x39), (0x11, 0x03), (0x12, 0xE8), (0x13, 0x64), (0x14, 0xE6),
    (0x15, 0xED), (0x24, 5)].foldl
      (fun memory (entry : UInt16 × UInt8) => memory.setByte entry.1 entry.2)
      ⟨.replicate halfSize 0, .replicate halfSize 0⟩)

/-- The difference is computed: four bytecodes leave 1005 on the stack. -/
theorem computed_difference :
    Ready difference differenceMachine ∧ ∃ after, differenceMachine.run? 4 = some after
      ∧ Computed difference differenceMachine after ∧ after.hub.memory.readLong 0x40 = 1005 := by
  have ready : Ready difference differenceMachine :=
    ⟨by decide +kernel, by decide +kernel, by decide +kernel, by decide +kernel,
      by decide +kernel⟩
  obtain ⟨after, run, computed⟩ := computed_of_ready difference differenceMachine ready
  have value : difference.value differenceMachine.environment = 1005 := by decide +kernel
  exact ⟨ready, after, run, computed, computed.top.trans value⟩

end Spin.Expression

end P1Chip
