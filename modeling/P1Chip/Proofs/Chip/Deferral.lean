import Mathlib.Tactic.ByContra
import Mathlib.Tactic.Push
import P1Chip.Proofs.BitSet8
import P1Chip.Proofs.Chip.Operation
import P1Chip.Proofs.Hub.Service

/-!
# Requests that wait

When a cog asks for another cog to be started or stopped, or for another clock, the hub answers at
once, but the request waits in the queue until the cogs have finished their step.  By then the hub
may have answered many more calls.  Nobody can tell the difference: the answers are the same as if
each request had been carried out right after its call, and so is the chip in the end.

What makes this true is that the hub notes at once which cogs run, with the same effect on its byte
that the request has later (`Hub.serve_withNotes`), and that an effect which is in the byte already
does not show when the request is carried out (`noted_absorbs`).

* `noted` — what requests do to the byte of running cogs.
* **`Hub.serve_withNotes`** — what a call does depends on the hub's three bytes alone.
* `Hub.exists_stops` — no free cog is promised twice.
* `Chip.serveTogether`, `Chip.serveEach` — all calls first, or each with what it asks for.
* `Chip.perform_withNotes` — requests do not look at what the hub has noted.
* `Chip.Noted.serve_applyActions` — one call, before or after what waits is carried out.
* **`Chip.deferral_unobservable`** — many calls.
-/

namespace P1Chip

/-! ## What requests do to the byte of running cogs -/

namespace HubAction

/-- Whether the request resets the chip. -/
def Resets : HubAction → Prop
  | .setClockMode mode => mode.resets
  | _ => False

/-- What the request does to the byte of running cogs. -/
def note (running : UInt8) : HubAction → UInt8
  | .start cog _ _ _ => BitSet8.put running cog true
  | .stop cog => BitSet8.put running cog false
  | .setClockMode _ => running

end HubAction

/-- What some requests do to the byte of running cogs. -/
def noted (requests : List HubAction) (running : UInt8) : UInt8 :=
  requests.foldl HubAction.note running

lemma noted_append (earlier later : List HubAction) (running : UInt8) :
    noted (earlier ++ later) running = noted later (noted earlier running) :=
  List.foldl_append

/-- Whether a cog runs after a request is either what the request says about it, or what it was
before. -/
lemma contains_note (request : HubAction) (cog : Fin 8) :
    (∃ runs, ∀ running, BitSet8.contains (request.note running) cog = runs)
      ∨ ∀ running, BitSet8.contains (request.note running) cog = BitSet8.contains running cog := by
  have put (other : Fin 8) (present : Bool) :
      (∃ runs, ∀ running, BitSet8.contains (BitSet8.put running other present) cog = runs)
        ∨ ∀ running, BitSet8.contains (BitSet8.put running other present) cog
          = BitSet8.contains running cog := by
    by_cases same : cog = other
    · exact .inl ⟨present, fun running => by rw [BitSet8.contains_put, if_pos same]⟩
    · exact .inr fun running => by rw [BitSet8.contains_put, if_neg same]
  cases request with
  | start other _ _ _ => exact put other true
  | stop other => exact put other false
  | setClockMode _ => exact .inr fun _ => rfl

/-- So it is after many. -/
lemma contains_noted (requests : List HubAction) (cog : Fin 8) :
    (∃ runs, ∀ running, BitSet8.contains (noted requests running) cog = runs)
      ∨ ∀ running, BitSet8.contains (noted requests running) cog
        = BitSet8.contains running cog := by
  induction requests with
  | nil => exact .inr fun _ => rfl
  | cons request requests ih =>
    rcases ih with ⟨runs, decided⟩ | kept
    · exact .inl ⟨runs, fun running => decided (request.note running)⟩
    · rcases contains_note request cog with ⟨runs, decided⟩ | before
      · exact .inl ⟨runs, fun running => (kept _).trans (decided running)⟩
      · exact .inr fun running => (kept _).trans (before running)

/-- **Requests whose effect is in the byte already** do not change it between one effect of later
requests and the next. -/
theorem noted_absorbs {waiting : List HubAction} {running : UInt8}
    (done : noted waiting running = running) (requests : List HubAction) :
    noted requests (noted waiting (noted requests running)) = noted requests running := by
  apply BitSet8.eq_of_contains
  intro cog
  rcases contains_noted requests cog with ⟨runs, decided⟩ | kept
  · rw [decided, decided]
  · rw [kept]
    rcases contains_noted waiting cog with ⟨runs, decided⟩ | still
    · rw [decided, kept, ← decided running, done]
    · rw [still]

/-- Requests have the same effect on the byte if they are carried out again. -/
lemma noted_idem (requests : List HubAction) (running : UInt8) :
    noted requests (noted requests running) = noted requests running := by
  have nothing : noted [] running = running := rfl
  exact noted_absorbs nothing requests

/-! ## Calls -/

namespace ServiceCall

/-- Whether the call resets the chip. -/
def Resets (call : ServiceCall) : Prop :=
  call.operation = .setClock ∧ (ClockMode.mk call.argument.toUInt8).resets

instance (call : ServiceCall) : Decidable call.Resets :=
  inferInstanceAs (Decidable (_ ∧ _))

/-- Whether the call asks for any cog that is free. -/
def AsksAnyFree (call : ServiceCall) : Prop :=
  call.operation = .startCog ∧ (StartRequest.decode call.argument).cog = .anyFree

/-- Whether the call stops a cog. -/
def Stops (call : ServiceCall) (cog : Fin 8) : Prop :=
  call.operation = .stopCog ∧ call.member = cog

end ServiceCall

namespace Hub

/-- The hub with other notes: bytes of running cogs and of locks, and the queue. -/
def withNotes (hub : Hub) (running freeLocks setLocks : UInt8) (queue : List HubAction) : Hub :=
  { hub with running, freeLocks, setLocks, queue }

/-- What a call puts into the queue. -/
def requests (hub : Hub) (call : ServiceCall) : List HubAction :=
  ({ hub with queue := [] }.serve call).2.queue

/-- A cog that is started runs afterwards, whether it is stopped before or not. -/
lemma noted_startRequests (running : UInt8) (cog : Fin 8) (request : StartRequest) :
    noted (startRequests running cog request) running = BitSet8.put running cog true := by
  rw [startRequests]
  split
  · apply BitSet8.eq_of_contains
    intro other
    show BitSet8.contains (BitSet8.put (BitSet8.put running cog false) cog true) other = _
    simp only [BitSet8.contains_put]
    split <;> rfl
  · rfl

/-- **A call changes nothing but the notes**, and what it changes there depends on the three bytes
alone.  In the byte of running cogs it notes what its requests are going to do. -/
theorem serve_withNotes (hub other : Hub) (call : ServiceCall) (queue : List HubAction) :
    (other.withNotes hub.running hub.freeLocks hub.setLocks queue).serve call
      = ((hub.serve call).1,
        other.withNotes (noted (hub.requests call) hub.running) (hub.serve call).2.freeLocks
          (hub.serve call).2.setLocks (queue ++ hub.requests call)) := by
  rcases call with ⟨caller, operation, argument⟩
  cases operation with
  | setClock => rfl
  | stopCog => rfl
  | cogId => simp [serve, execute, requests, withNotes, noted]
  | returnLock => simp [serve, execute, requests, withNotes, noted]
  | setLock => simp [serve, execute, requests, withNotes, noted]
  | clearLock => simp [serve, execute, requests, withNotes, noted]
  | newLock =>
    cases lowest : BitSet8.lowest? hub.freeLocks with
    | none => simp [serve, execute, newLock, requests, withNotes, noted, lowest]
    | some lock => simp [serve, execute, newLock, requests, withNotes, noted, lowest]
  | startCog =>
    -- all hubs with this byte of running cogs choose the same cog
    have alike (kept : Hub) (same : kept.running = hub.running) :
        kept.chooseCog? (StartRequest.decode argument).cog
          = hub.chooseCog? (StartRequest.decode argument).cog := by
      simp only [chooseCog?, same]
    cases chosen : hub.chooseCog? (StartRequest.decode argument).cog with
    | none =>
      have refused (kept : Hub) (same : kept.running = hub.running) :=
        startCog_of_none ((alike kept same).trans chosen)
      simp [serve, execute, requests, refused, withNotes, noted]
    | some cog =>
      have started (kept : Hub) (same : kept.running = hub.running) :=
        startCog_of_some ((alike kept same).trans chosen)
      simp [serve, execute, requests, started, withNotes, noted_startRequests]

/-- The hub after a call. -/
lemma serve_eq (hub : Hub) (call : ServiceCall) : (hub.serve call).2
    = hub.withNotes (noted (hub.requests call) hub.running) (hub.serve call).2.freeLocks
      (hub.serve call).2.setLocks (hub.queue ++ hub.requests call) :=
  congrArg Prod.snd (hub.serve_withNotes hub call hub.queue)

/-- No call asks for a reset unless it sets such a clock mode. -/
lemma not_resets_of_mem_requests {hub : Hub} {call : ServiceCall} (stays : ¬ call.Resets) :
    ∀ request ∈ hub.requests call, ¬ request.Resets := by
  rcases call with ⟨caller, operation, argument⟩
  cases operation with
  | setClock =>
    rintro request within resets
    cases List.mem_singleton.mp within
    exact stays ⟨rfl, resets⟩
  | stopCog =>
    rintro request within
    cases List.mem_singleton.mp within
    exact id
  | newLock =>
    have unasked : hub.requests ⟨caller, .newLock, argument⟩ = [] := by
      simp only [requests, serve, execute, newLock]
      split <;> rfl
    simp [unasked]
  | startCog =>
    let idle : Hub := { hub with queue := [] }
    show ∀ request ∈ (idle.startCog (StartRequest.decode argument)).2.queue, ¬ request.Resets
    cases chosen : idle.chooseCog? (StartRequest.decode argument).cog with
    | none =>
      rw [startCog_of_none chosen]
      exact fun request within => absurd within List.not_mem_nil
    | some cog =>
      rw [startCog_of_some chosen]
      simp only [startRequests]
      split <;> simp [idle, HubAction.Resets]
  | _ => exact fun request within => absurd within List.not_mem_nil

/-! ## No free cog is promised twice -/

/-- A cog that runs stays so until a call stops it. -/
lemma contains_running_serve {hub : Hub} {call : ServiceCall} {cog : Fin 8}
    (runs : BitSet8.contains hub.running cog) (stays : ¬ call.Stops cog) :
    BitSet8.contains (hub.serve call).2.running cog := by
  rcases call with ⟨caller, operation, argument⟩
  cases operation with
  | stopCog =>
    have other : cog ≠ Word.lowThreeBits argument.toNat := fun same => stays ⟨rfl, same.symm⟩
    show BitSet8.contains (BitSet8.put hub.running _ false) cog
    rwa [BitSet8.contains_put, if_neg other]
  | startCog =>
    show BitSet8.contains (hub.startCog (StartRequest.decode argument)).2.running cog
    cases chosen : hub.chooseCog? (StartRequest.decode argument).cog with
    | none => rwa [startCog_of_none chosen]
    | some started =>
      rw [startCog_of_some chosen]
      show BitSet8.contains (BitSet8.put hub.running started true) cog
      rw [BitSet8.contains_put]
      split
      · rfl
      · exact runs
  | newLock =>
    show BitSet8.contains hub.newLock.2.running cog
    rw [newLock]
    split <;> exact runs
  | _ => exact runs

/-- The cog that a call for any free one is answered with was free, and runs from then on. -/
lemma contains_running_of_anyFree {hub : Hub} {call : ServiceCall} {cog : Fin 8}
    (asks : call.AsksAnyFree) (given : (hub.serve call).1 = .of (UInt32.ofNat cog) false) :
    BitSet8.contains hub.running cog = false
      ∧ BitSet8.contains (hub.serve call).2.running cog := by
  obtain ⟨operation, free⟩ := asks
  have served : hub.serve call = hub.startCog (StartRequest.decode call.argument) := by
    rw [serve, operation, execute]
  rw [served] at given ⊢
  cases chosen : hub.chooseCog? (StartRequest.decode call.argument).cog with
  | none =>
    rw [startCog_of_none chosen] at given
    exact absurd given (HubAnswer.noneFree_ne _)
  | some started =>
    rw [startCog_of_some chosen] at given ⊢
    cases HubAnswer.of_member_inj given
    rw [free, chooseCog?] at chosen
    have idle := (BitSet8.lowest?_eq_some_iff.mp chosen).1
    rw [BitSet8.contains_complement, Bool.not_eq_true'] at idle
    refine ⟨idle, ?_⟩
    show BitSet8.contains (BitSet8.put hub.running cog true) cog
    rw [BitSet8.contains_put, if_pos rfl]

/-- **A free cog that is promised twice was stopped meanwhile.** -/
theorem exists_stops {hub : Hub} {first second : ServiceCall} {between : List ServiceCall}
    {cog : Fin 8} (asks : first.AsksAnyFree) (again : second.AsksAnyFree)
    (got : (hub.serve first).1 = .of (UInt32.ofNat cog) false)
    (same : (((hub.serve first).2.after between).serve second).1 = .of (UInt32.ofNat cog) false) :
    ∃ call ∈ between, call.Stops cog := by
  by_contra never
  push Not at never
  have runs := (contains_running_of_anyFree asks got).2
  have still : BitSet8.contains ((hub.serve first).2.after between).running cog :=
    after_preserves (P := fun hub => BitSet8.contains hub.running cog)
      (fun call within _ runs => contains_running_serve runs (never call within)) runs
  rw [(contains_running_of_anyFree again same).1] at still
  cases still

end Hub

namespace Chip

variable {τ π : Type}

/-- The chip with other notes in its hub. -/
def withNotes (chip : Chip τ π) (running freeLocks setLocks : UInt8) (queue : List HubAction) :
    Chip τ π :=
  { chip with hub := chip.hub.withNotes running freeLocks setLocks queue }

/-- The chip when the hub has answered a call.  What the call asks for is still to be done. -/
def serve (chip : Chip τ π) (call : ServiceCall) : Chip τ π :=
  { chip with hub := (chip.hub.serve call).2 }

variable [Timebase τ] [Plugin τ π]

/-- The answers to some calls, and the chip after them, when the chip does what they ask for only
at the end. -/
def serveTogether (calls : List ServiceCall) (chip : Chip τ π) : List HubAnswer × Chip τ π :=
  (chip.hub.answers calls, { chip with hub := chip.hub.after calls }.applyActions)

/-- The answers to some calls, and the chip after them, when the chip does what each of them asks
for right after the call. -/
def serveEach : List ServiceCall → Chip τ π → List HubAnswer × Chip τ π
  | [], chip => ([], chip)
  | call :: calls, chip =>
    let (answers, after) := serveEach calls (chip.serve call).applyActions
    ((chip.hub.serve call).1 :: answers, after)

/-! ## Carrying out requests -/

lemma perform_append (earlier later : List HubAction) (chip : Chip τ π)
    (stays : ∀ request ∈ earlier, ¬ request.Resets) :
    perform (earlier ++ later) chip = perform later (perform earlier chip) := by
  induction earlier generalizing chip with
  | nil => rfl
  | cons request earlier ih =>
    have first := stays request List.mem_cons_self
    have others := fun other within => stays other (List.mem_cons_of_mem request within)
    cases request with
    | start cog engine program parameter => exact ih _ others
    | stop cog => exact ih _ others
    | setClockMode mode =>
      replace first : ¬ mode.resets = true := first
      simp only [List.cons_append, perform, if_neg first]
      exact ih _ others

/-- **Requests do not look at what the hub has noted.**  All that they do there is to note once
more which cogs run. -/
theorem perform_withNotes (requests : List HubAction) (chip : Chip τ π)
    (stays : ∀ request ∈ requests, ¬ request.Resets) (running freeLocks setLocks : UInt8)
    (queue : List HubAction) :
    perform requests (chip.withNotes running freeLocks setLocks queue)
      = (perform requests chip).withNotes (noted requests running) freeLocks setLocks queue := by
  induction requests generalizing chip running with
  | nil => rfl
  | cons request requests ih =>
    have first := stays request List.mem_cons_self
    have others := fun other within => stays other (List.mem_cons_of_mem request within)
    cases request with
    | start cog engine program parameter =>
      exact ih (chip.startCog cog engine program parameter) others _
    | stop cog => exact ih (chip.stopCog cog) others _
    | setClockMode mode =>
      replace first : ¬ mode.resets = true := first
      simp only [perform, setClockMode, if_neg first]
      exact ih (chip.applyClockMode mode) others _

/-- When requests whose effect is noted already are carried out, the notes stay. -/
lemma applyActions_withNotes (chip : Chip τ π) {running freeLocks setLocks : UInt8}
    {queue : List HubAction} (stays : ∀ request ∈ queue, ¬ request.Resets)
    (done : noted queue running = running) :
    (chip.withNotes running freeLocks setLocks queue).applyActions
      = (perform queue chip).withNotes running freeLocks setLocks [] := by
  have performed := perform_withNotes queue chip stays running freeLocks setLocks []
  rw [done] at performed
  exact performed

/-- What waits in the queue does not reset the chip, and its effect on the byte of running cogs is
noted already. -/
structure Noted (chip : Chip τ π) : Prop where
  stays : ∀ request ∈ chip.hub.queue, ¬ request.Resets
  done : noted chip.hub.queue chip.hub.running = chip.hub.running

namespace Noted

variable {chip : Chip τ π} {call : ServiceCall}

omit [Timebase τ] [Plugin τ π] in
/-- A call notes what it asks for. -/
lemma serve (h : chip.Noted) (stays : ¬ call.Resets) :
    (chip.serve call).Noted := by
  rw [Chip.serve, Hub.serve_eq]
  constructor
  · intro request within
    rcases List.mem_append.mp within with within | within
    · exact h.stays request within
    · exact Hub.not_resets_of_mem_requests stays request within
  · show noted (chip.hub.queue ++ chip.hub.requests call) _ = _
    rw [noted_append]
    exact noted_absorbs h.done _

/-- **A call is answered alike before and after what waits is carried out**, and once everything is
carried out the chip is the same too. -/
theorem serve_applyActions (h : chip.Noted) (stays : ¬ call.Resets) :
    (chip.applyActions.hub.serve call).1 = (chip.hub.serve call).1
      ∧ (chip.applyActions.serve call).applyActions = (chip.serve call).applyActions := by
  let asked := chip.hub.requests call
  let waited := perform chip.hub.queue chip
  have unwaited : chip.applyActions
      = waited.withNotes chip.hub.running chip.hub.freeLocks chip.hub.setLocks [] :=
    chip.applyActions_withNotes h.stays h.done
  have served : (waited.withNotes chip.hub.running chip.hub.freeLocks chip.hub.setLocks
      []).hub.serve call = _ := chip.hub.serve_withNotes waited.hub call []
  have stay : ∀ request ∈ asked, ¬ request.Resets := Hub.not_resets_of_mem_requests stays
  rw [unwaited, Chip.serve, served]
  refine ⟨rfl, ?_⟩
  calc (waited.withNotes (noted asked chip.hub.running) (chip.hub.serve call).2.freeLocks
          (chip.hub.serve call).2.setLocks asked).applyActions
      = (perform asked waited).withNotes (noted asked chip.hub.running)
          (chip.hub.serve call).2.freeLocks (chip.hub.serve call).2.setLocks [] :=
        waited.applyActions_withNotes stay (noted_idem asked _)
    _ = (perform (chip.hub.queue ++ asked) chip).withNotes (noted asked chip.hub.running)
          (chip.hub.serve call).2.freeLocks (chip.hub.serve call).2.setLocks [] := by
        rw [perform_append _ _ _ h.stays]
    _ = (chip.serve call).applyActions := by
        have after := h.serve stays
        rw [Chip.serve, Hub.serve_eq] at after ⊢
        exact (chip.applyActions_withNotes after.stays after.done).symm

/-- So it is with many calls. -/
lemma serveEach_applyActions {calls : List ServiceCall} (h : chip.Noted)
    (stays : ∀ call ∈ calls, ¬ call.Resets) :
    chip.applyActions.serveEach calls = chip.serveTogether calls := by
  induction calls generalizing chip with
  | nil => rfl
  | cons call calls ih =>
    have first := stays call List.mem_cons_self
    have others := fun other within => stays other (List.mem_cons_of_mem call within)
    obtain ⟨answer, after⟩ := h.serve_applyActions first
    have rest := ih (h.serve first) others
    rw [serveEach, after, rest, answer]
    rfl

end Noted

/-- **That requests wait cannot be noticed.**  If nothing waits at first, and no call resets the
chip, then the answers to some calls and the chip after them are the same, whether what the calls
ask for is done after all of them or after each one.  In particular the chip never promises a free
cog to two calls, unless a call between them stops that cog. -/
theorem deferral_unobservable (chip : Chip τ π) (idle : chip.hub.queue = [])
    (calls : List ServiceCall) (stays : ∀ call ∈ calls, ¬ call.Resets) :
    chip.serveTogether calls = chip.serveEach calls ∧
      ∀ earlier first between second later (cog : Fin 8),
        calls = earlier ++ first :: between ++ second :: later →
        first.AsksAnyFree → second.AsksAnyFree →
        ((chip.hub.after earlier).serve first).1 = .of (UInt32.ofNat cog) false →
        ((chip.hub.after (earlier ++ first :: between)).serve second).1
          = .of (UInt32.ofNat cog) false →
        ∃ call ∈ between, call.Stops cog := by
  constructor
  · have noted : chip.Noted := ⟨by simp [idle], by rw [idle]; rfl⟩
    have waitless : chip.applyActions = chip := by
      rcases chip with ⟨hub, _⟩
      rcases hub with ⟨_⟩
      cases idle
      rfl
    rw [← noted.serveEach_applyActions stays, waitless]
  · rintro earlier first between second later cog - asks again got same
    rw [Hub.after_append, Hub.after_cons] at same
    exact Hub.exists_stops asks again got same

/-- Two calls for any free cog get the first two, and a third one gets the first cog again once it
is stopped; a change of the clock waits with them. -/
theorem deferral_unobservable_restart :
    let chip : Chip Rat Empty := switchedOn blankMemory
    let anyFree : ServiceCall := ⟨0, .startCog, 8⟩
    let calls : List ServiceCall := [anyFree, anyFree, ⟨1, .setClock, 1⟩, ⟨1, .stopCog, 0⟩, anyFree]
    chip.hub.answers calls = [.of 0 false, .of 1 false, .of 1 false, .of 0 false, .of 0 false]
      ∧ chip.serveTogether calls = chip.serveEach calls
      ∧ ∃ call ∈ [anyFree, ⟨1, .setClock, 1⟩, ⟨1, .stopCog, 0⟩], call.Stops 0 := by
  intro chip anyFree calls
  obtain ⟨same, once⟩ := deferral_unobservable chip rfl calls (by decide)
  refine ⟨by decide, same, ?_⟩
  have asks : anyFree.AsksAnyFree := ⟨rfl, by decide⟩
  exact once [] anyFree _ anyFree [] 0 rfl asks asks (by decide) (by decide)

end Chip

end P1Chip
