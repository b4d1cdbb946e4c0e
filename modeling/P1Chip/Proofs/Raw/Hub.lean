import P1Chip.Proofs.Accesses
import P1Chip.Proofs.BitSet8

/-!
# The hub with plain numbers

Cogs that the hub knows are numbers below eight, and the position of its ring is one below sixteen.
In the hub of this module both are plain numbers: requests carry the numbers that were taken from an
argument, and the ring is a word.  Locks and running cogs are found by shifts that refuse more than
seven places, and what is asked for in memory or of a pin can be refused, too.

* `RawHub`, `RawAction` — the hub and its requests, with plain numbers.
* `Hub.raw` — a hub with its numbers written out.
* `RawHub.execute?`, `RawHub.advanceRing`, `RawHub.pinStates?` — what the hub does.
* **`Hub.execute?_raw`**, **`Hub.advanceRing_raw`**, **`Hub.pinStates?_raw`** — nothing is refused,
  and the numbers come out the same.
* **`Hub.number_lt_of_mem_queue`** — requests that wait are for one of eight cogs.
-/

namespace P1Chip

/-! ## Numbers written out -/

/-- A request for the cog with a number, or for another clock. -/
inductive RawAction where
  | start (cog : Nat) (engine : EngineKind) (program parameter : UInt32)
  | stop (cog : Nat)
  | setClockMode (mode : ClockMode)
deriving DecidableEq, Repr, Inhabited

/-- The number of the cog that a request is for. -/
def RawAction.number? : RawAction → Option Nat
  | .start cog _ _ _ | .stop cog => some cog
  | .setClockMode _ => none

/-- A request with the number of its cog written out. -/
def HubAction.raw : HubAction → RawAction
  | .start cog engine program parameter => .start cog.val engine program parameter
  | .stop cog => .stop cog.val
  | .setClockMode mode => .setClockMode mode

/-- The hub with plain numbers. -/
structure RawHub where
  /-- All that has no such numbers; its ring and its queue are not used. -/
  shared : Hub
  ring : UInt32
  queue : List RawAction
deriving Inhabited

/-- The hub without its ring and its queue. -/
def Hub.shared (hub : Hub) : Hub :=
  { hub with ring := ⟨0, Nat.succ_pos 15⟩, queue := [] }

/-- The hub with its numbers written out. -/
def Hub.raw (hub : Hub) : RawHub where
  shared := hub.shared
  ring := .ofNat hub.ring.val
  queue := hub.queue.map HubAction.raw

namespace RawHub

variable (hub : RawHub)

/-! ## Memory -/

/-- The hub with other memory, if there is any. -/
def withMemory? (change : Memory → Option Memory) : Option RawHub := do
  return { hub with shared := { hub.shared with memory := ← change hub.shared.memory } }

def write? (size : DataSize) (address value : UInt32) : Option RawHub :=
  hub.withMemory? (·.write? size address value)

/-! ## Pins -/

/-- The state of the pin with a number, whose bit is found by a shift. -/
def pinState? (pin : Nat) : Option PinState := do
  let mask ← pinMask? (UInt32.ofNat pin)
  return if hub.shared.dir &&& mask != 0 then
      if hub.shared.out &&& mask != 0 then .outputHigh else .outputLow
    else if hub.shared.external.floating &&& mask != 0 then .floating
    else if hub.shared.external.high &&& mask != 0 then .inputHigh
    else .inputLow

/-- The states of all pins, which are written one after the other. -/
def pinStates? : Option PinStates :=
  tabulate? pinCount .floating hub.pinState?

/-- Drives a pin from outside. -/
def drivePin? (pin : UInt32) (floating high : Bool) : Option RawHub := do
  let external ← hub.shared.external.drive? pin floating high
  return { hub with shared := { hub.shared with external } }

/-! ## Turns -/

/-- Moves the ring on, and tells the number of the cog that has its turn. -/
def advanceRing : Option Nat × RawHub :=
  let ring := (hub.ring + 1) &&& 0xF
  (if ring &&& 1 = 0 then some (ring >>> 1).toNat else none, { hub with ring })

/-! ## Services -/

/-- Puts a request at the end of the queue. -/
def enqueue (action : RawAction) : RawHub :=
  { hub with queue := hub.queue ++ [action] }

/-- Notes that the cog with a number runs, or that it does not. -/
def markRunning? (cog : Nat) (running : Bool) : Option RawHub := do
  let bit ← BitSet8.single? (cog &&& 7)
  let cogs := hub.shared.running
  return { hub with
    shared := { hub.shared with running := if running then cogs ||| bit else cogs &&& ~~~bit } }

/-- The number of the cog that an argument asks for: the one in its low bits, or the least one that
is idle. -/
def chooseCog? (argument : UInt32) : Option (Option Nat) :=
  if argument &&& 8 != 0 then BitSet8.lowestMember? (~~~ hub.shared.running)
  else some (some (argument &&& 7).toNat)

/-- Has a cog started, and stopped before if it runs. -/
def startCog? (argument : UInt32) : Option (HubAnswer × RawHub) := do
  let request := StartRequest.decode argument
  match ← hub.chooseCog? argument with
  | none => return (.noneFree, hub)
  | some cog =>
    let bit ← BitSet8.single? cog
    let hub := if hub.shared.running &&& bit != 0 then hub.enqueue (.stop cog) else hub
    let hub ← hub.markRunning? cog true
    let hub := hub.enqueue (.start cog request.engine request.program request.parameter)
    return (.of (UInt32.ofNat cog) false, hub)

/-- Allocates the free lock with the lowest number. -/
def newLock? : Option (HubAnswer × RawHub) := do
  match ← BitSet8.lowestMember? hub.shared.freeLocks with
  | none => return (.noneFree, hub)
  | some lock =>
    let bit ← BitSet8.single? lock
    return (.of (UInt32.ofNat lock) false,
      { hub with shared := { hub.shared with freeLocks := hub.shared.freeLocks &&& ~~~bit } })

/-- Carries out a service.  The bit of a lock is found for all of them, also where the argument is
not about one. -/
def execute? (caller : UInt32) (operation : HubOperation) (argument : UInt32) :
    Option (HubAnswer × RawHub) := do
  let bit ← BitSet8.single? (argument &&& 7).toNat
  let free := hub.shared.freeLocks
  let set := hub.shared.setLocks
  match operation with
  | .setClock => return (.of argument false, hub.enqueue (.setClockMode ⟨argument.toUInt8⟩))
  | .cogId => return (.of caller false, hub)
  | .startCog => hub.startCog? argument
  | .stopCog =>
    let cog := (argument &&& 7).toNat
    return (.of argument false, (← hub.markRunning? cog false).enqueue (.stop cog))
  | .newLock => hub.newLock?
  | .returnLock =>
    return (.of argument false,
      { hub with shared := { hub.shared with freeLocks := free ||| bit } })
  | .setLock =>
    return (.of argument (set &&& bit != 0),
      { hub with shared := { hub.shared with setLocks := set ||| bit } })
  | .clearLock =>
    return (.of argument (set &&& bit != 0),
      { hub with shared := { hub.shared with setLocks := set &&& ~~~bit } })

end RawHub

/-! ## Nothing is refused -/

/-- Numbers of cogs and locks stay the same when their low bits are taken. -/
lemma Fin.val_and_seven (member : Fin 8) : member.val &&& 7 = member.val := by
  revert member
  decide

namespace Hub

variable (hub : Hub)

@[simp]
lemma raw_memory : hub.raw.shared.memory = hub.memory :=
  rfl

@[simp]
lemma raw_running : hub.raw.shared.running = hub.running :=
  rfl

@[simp]
lemma raw_counter : hub.raw.shared.counter = hub.counter :=
  rfl

@[simp]
lemma raw_inputA : hub.raw.shared.inputA = hub.inputA :=
  rfl

@[simp]
lemma raw_inputB : hub.raw.shared.inputB = hub.inputB :=
  rfl

/-! ### Memory -/

lemma withMemory?_raw {change? : Memory → Option Memory} {change : Memory → Memory}
    (changed : ∀ memory, change? memory = some (change memory)) :
    hub.raw.withMemory? change? = some (hub.withMemory change).raw := by
  rw [RawHub.withMemory?, changed]
  rfl

lemma write?_raw (size : DataSize) (address value : UInt32) :
    hub.raw.write? size address value = some (hub.write size address value).raw :=
  hub.withMemory?_raw (·.write?_eq size address value)

/-! ### Pins -/

lemma pinState?_raw (pin : Fin pinCount) :
    hub.raw.pinState? pin.val = some (hub.pinState (UInt32.ofNat pin.val)) := by
  have low : (UInt32.ofNat pin.val).toNat < 64 := by
    rw [UInt32.toNat_ofNat_of_lt' (Nat.lt_trans pin.isLt (by decide))]
    exact pin.isLt
  rw [RawHub.pinState?, pinMask?, within_of_lt low]
  rfl

theorem pinStates?_raw : hub.raw.pinStates? = some hub.pinStates :=
  tabulate?_eq hub.pinState?_raw .floating

lemma drivePin?_raw (pin : UInt32) (floating high : Bool) :
    hub.raw.drivePin? pin floating high = some (hub.drivePin pin floating high).raw := by
  have driven := hub.external.drive?_eq pin floating high
  have same : hub.raw.shared.external = hub.external := rfl
  rw [RawHub.drivePin?, same, driven]
  rfl

/-! ### Turns -/

/-- **The ring** grants turns to the cogs that it is told to. -/
theorem advanceRing_raw :
    hub.raw.advanceRing = (hub.advanceRing.1.map Fin.val, hub.advanceRing.2.raw) := by
  rcases hub with ⟨memory, freeLocks, setLocks, counter, ring, clockMode, coreFrequency,
    crystalFrequency, external, out, dir, input, running, queue⟩
  have moved (ring : Fin 16) : ((UInt32.ofNat ring.val + 1) &&& 0xF)
      = UInt32.ofNat (Word.lowFourBits (ring.val + 1)).val := by
    revert ring
    decide
  have turn (ring : Fin 16) :
      (if UInt32.ofNat ring.val &&& 1 = 0 then some (UInt32.ofNat ring.val >>> 1).toNat else none)
        = (if ring.val % 2 = 0 then some (Word.lowThreeBits (ring.val / 2)) else none).map
            Fin.val := by
    revert ring
    decide
  simp only [RawHub.advanceRing, advanceRing, raw, moved, turn]
  rfl

/-! ### Services -/

lemma enqueue_raw (action : HubAction) : hub.raw.enqueue action.raw = (hub.enqueue action).raw := by
  simp only [RawHub.enqueue, enqueue, raw, List.map_append, List.map_cons, List.map_nil]
  rfl

lemma markRunning?_raw (cog : Fin 8) (running : Bool) :
    hub.raw.markRunning? cog.val running = some (hub.markRunning cog running).raw := by
  rw [RawHub.markRunning?, Fin.val_and_seven, BitSet8.single?_val]
  rfl

lemma chooseCog?_raw (argument : UInt32) :
    hub.raw.chooseCog? argument
      = some ((hub.chooseCog? (StartRequest.decode argument).cog).map Fin.val) := by
  rw [RawHub.chooseCog?, StartRequest.decode]
  dsimp only
  split
  · exact BitSet8.lowestMember?_eq _
  · rw [toNat_lowThreeBits]
    rfl

lemma startCog?_raw (argument : UInt32) :
    hub.raw.startCog? argument
      = some ((hub.startCog (StartRequest.decode argument)).1,
          (hub.startCog (StartRequest.decode argument)).2.raw) := by
  rw [RawHub.startCog?, chooseCog?_raw, startCog]
  cases hub.chooseCog? (StartRequest.decode argument).cog with
  | none => rfl
  | some cog =>
    have stopped : (if hub.raw.shared.running &&& BitSet8.single cog != 0
        then hub.raw.enqueue (.stop cog.val) else hub.raw)
        = (if BitSet8.contains hub.running cog then hub.enqueue (.stop cog) else hub).raw := by
      rw [apply_ite raw, ← enqueue_raw]
      rfl
    simp only [Option.map_some, Option.bind_eq_bind, Option.bind_some, BitSet8.single?_val, stopped,
      markRunning?_raw]
    exact congrArg (fun raw => some (_, raw)) (enqueue_raw _ (.start cog ..))

lemma newLock?_raw : hub.raw.newLock? = some (hub.newLock.1, hub.newLock.2.raw) := by
  have free : hub.raw.shared.freeLocks = hub.freeLocks := rfl
  rw [RawHub.newLock?, free, BitSet8.lowestMember?_eq, newLock]
  cases BitSet8.lowest? hub.freeLocks with
  | none => rfl
  | some lock =>
    simp only [Option.map_some, Option.bind_eq_bind, Option.bind_some, BitSet8.single?_val]
    rfl

/-- **A service** finds the bits of cogs and locks, and asks for the same cogs. -/
theorem execute?_raw (caller : UInt32) (operation : HubOperation) (argument : UInt32) :
    hub.raw.execute? caller operation argument
      = some ((hub.execute caller operation argument).1,
          (hub.execute caller operation argument).2.raw) := by
  rw [RawHub.execute?, BitSet8.single?_and]
  cases operation with
  | setClock => exact congrArg (fun raw => some (_, raw)) (hub.enqueue_raw (.setClockMode _))
  | startCog => exact hub.startCog?_raw argument
  | newLock => exact hub.newLock?_raw
  | stopCog =>
    simp only [toNat_lowThreeBits, markRunning?_raw, Option.bind_eq_bind, Option.bind_some]
    exact congrArg (fun raw => some (_, raw)) (enqueue_raw _ (.stop _))
  | _ => rfl

/-- Requests that wait are for one of eight cogs. -/
theorem number_lt_of_mem_queue {action : RawAction} {cog : Nat} (waits : action ∈ hub.raw.queue)
    (named : action.number? = some cog) : cog < 8 := by
  obtain ⟨request, -, rfl⟩ := List.mem_map.mp waits
  cases request with
  | start cog engine program parameter =>
    cases named
    exact cog.isLt
  | stop cog =>
    cases named
    exact cog.isLt
  | setClockMode mode => cases named

end Hub

end P1Chip
