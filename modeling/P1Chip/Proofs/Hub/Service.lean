import Mathlib.Logic.Basic
import P1Chip.Hub
import P1Chip.Proofs.BitSet8

/-!
# Services one after the other

The hub serves the cogs in turns, so what all of them ask for is one list of calls, whatever cogs
they come from and in whatever order the cogs run.

* `ServiceCall` — one call of a cog.
* `Hub.serve`, `Hub.after` — the hub answers a call, or many.
* `Hub.answers` — the answers to many calls.
* `Hub.startCog_of_some`, `Hub.startCog_of_none` — what becomes of a request for a cog.
* `Hub.memory_execute` — no service is about memory.
-/

namespace P1Chip

/-- A service that some cog asks for. -/
structure ServiceCall where
  caller : UInt32
  operation : HubOperation
  argument : UInt32
deriving DecidableEq, Repr

/-- The cog or lock that the argument names, if the service is about one. -/
def ServiceCall.member (call : ServiceCall) : Fin 8 :=
  Word.lowThreeBits call.argument.toNat

/-- The numbers of cogs and locks stay different as words. -/
lemma HubAnswer.of_member_inj {member other : Fin 8}
    (same : HubAnswer.of (UInt32.ofNat member) false = .of (UInt32.ofNat other) false) :
    member = other := by
  have value : UInt32.ofNat member = UInt32.ofNat other := congrArg HubAnswer.value same
  revert member other
  decide

/-- The answer that none is left is not about a cog or a lock. -/
lemma HubAnswer.noneFree_ne (value : UInt32) : noneFree ≠ .of value false := by
  intro same
  cases congrArg HubAnswer.carry same

namespace Hub

/-- The answer to a call, and the hub after it. -/
def serve (hub : Hub) (call : ServiceCall) : HubAnswer × Hub :=
  hub.execute call.caller call.operation call.argument

/-- The hub after some calls. -/
def after (hub : Hub) (calls : List ServiceCall) : Hub :=
  calls.foldl (fun hub call => (hub.serve call).2) hub

/-- The answers to some calls. -/
def answers : List ServiceCall → Hub → List HubAnswer
  | [], _ => []
  | call :: calls, hub => (hub.serve call).1 :: answers calls (hub.serve call).2

/-! ## Starting cogs -/

/-- What it takes to start a cog, which runs already or not. -/
def startRequests (running : UInt8) (cog : Fin 8) (request : StartRequest) : List HubAction :=
  (if BitSet8.contains running cog then [.stop cog] else [])
    ++ [.start cog request.engine request.program request.parameter]

lemma startCog_of_none {hub : Hub} {request : StartRequest}
    (none : hub.chooseCog? request.cog = none) : hub.startCog request = (.noneFree, hub) := by
  rw [startCog, none]

lemma startCog_of_some {hub : Hub} {request : StartRequest} {cog : Fin 8}
    (chosen : hub.chooseCog? request.cog = some cog) :
    hub.startCog request = (.of (UInt32.ofNat cog) false,
      { hub with
        running := BitSet8.put hub.running cog true
        queue := hub.queue ++ startRequests hub.running cog request }) := by
  simp only [startCog, chosen, startRequests]
  split <;> simp [enqueue, markRunning]

/-- What is added to the queue, if there is a cog for the request. -/
lemma queue_startCog (hub : Hub) (request : StartRequest) :
    (hub.startCog request).2.queue = hub.queue
      ++ (hub.chooseCog? request.cog).elim [] (startRequests hub.running · request) := by
  cases chosen : hub.chooseCog? request.cog with
  | none => rw [startCog_of_none chosen, Option.elim_none, List.append_nil]
  | some cog => rw [startCog_of_some chosen, Option.elim_some]

lemma memory_startCog (hub : Hub) (request : StartRequest) :
    (hub.startCog request).2.memory = hub.memory := by
  cases chosen : hub.chooseCog? request.cog with
  | none => rw [startCog_of_none chosen]
  | some cog => rw [startCog_of_some chosen]

/-- No service is about memory. -/
lemma memory_execute (hub : Hub) (caller : UInt32) (operation : HubOperation)
    (argument : UInt32) : (hub.execute caller operation argument).2.memory = hub.memory := by
  cases operation with
  | startCog => exact hub.memory_startCog _
  | newLock =>
    simp only [execute, newLock]
    split <;> rfl
  | _ => rfl

/-! ## Calls in a row -/

lemma after_cons (hub : Hub) (call : ServiceCall) (calls : List ServiceCall) :
    hub.after (call :: calls) = (hub.serve call).2.after calls :=
  rfl

lemma after_append (hub : Hub) (earlier later : List ServiceCall) :
    hub.after (earlier ++ later) = (hub.after earlier).after later :=
  List.foldl_append

lemma after_concat (hub : Hub) (calls : List ServiceCall) (last : ServiceCall) :
    hub.after (calls ++ [last]) = ((hub.after calls).serve last).2 :=
  hub.after_append calls [last]

/-- What survives each of the calls survives all of them. -/
lemma after_preserves {P : Hub → Prop} {calls : List ServiceCall}
    (survives : ∀ call ∈ calls, ∀ hub, P hub → P (hub.serve call).2) {hub : Hub} (h : P hub) :
    P (hub.after calls) := by
  induction calls generalizing hub with
  | nil => exact h
  | cons call calls ih =>
    have first := survives call List.mem_cons_self hub h
    exact ih (fun other within => survives other (List.mem_cons_of_mem _ within)) first

end Hub

end P1Chip
