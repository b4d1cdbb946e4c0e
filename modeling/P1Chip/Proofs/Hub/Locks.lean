import Mathlib.Data.List.Induction
import Mathlib.Tactic.Push
import P1Chip.Proofs.Hub.Service

/-!
# Locks

Programs that share data rely on eight locks.  A program has a lock allocated and gives it back
later, so that no two of them use the same one by chance; and it enters a critical section when it
sets the lock and is told that the lock was not set before.  The hub keeps two bytes for that.

What counts for programs is the history of calls, not these bytes.  So this file says in terms of
the history which locks are allocated, and shows that the hub's answers agree with it.

* `Hub.Allocated` — a lock was handed out and not given back, as the history tells.
* `LowestFree` — what a request for a lock should be answered.
* **`Hub.allocated_iff`** — the hub's byte of free locks agrees with the history.
* **`Hub.exists_clears`** — a lock that is taken twice was cleared meanwhile.
* `Hub.LeavesLocks` — a call changes nothing about locks that it is not about.
* **`Hub.locks_exclusive`** — all of that together.
-/

namespace P1Chip

namespace ServiceCall

/-- Whether the call gives a lock back. -/
def Returns (call : ServiceCall) (lock : Fin 8) : Prop :=
  call.operation = .returnLock ∧ call.member = lock

/-- Whether the call sets a lock. -/
def Sets (call : ServiceCall) (lock : Fin 8) : Prop :=
  call.operation = .setLock ∧ call.member = lock

/-- Whether the call clears a lock. -/
def Clears (call : ServiceCall) (lock : Fin 8) : Prop :=
  call.operation = .clearLock ∧ call.member = lock

end ServiceCall

/-- The answer to a request for a lock, when `taken` says which ones are allocated: the lowest one
that is not, or that there is none left. -/
inductive LowestFree (taken : Fin 8 → Prop) : HubAnswer → Prop
  | given {lock : Fin 8} (free : ¬ taken lock) (lower : ∀ other < lock, taken other) :
      LowestFree taken (.of (UInt32.ofNat lock) false)
  | exhausted (all : ∀ lock, taken lock) : LowestFree taken .noneFree

namespace Hub

/-- Whether the call is answered with a lock that is allocated from now on. -/
def Gives (hub : Hub) (call : ServiceCall) (lock : Fin 8) : Prop :=
  call.operation = .newLock ∧ (hub.serve call).1 = .of (UInt32.ofNat lock) false

/-- Whether, as far as the history tells, the lock was handed out and not given back since. -/
def Allocated (start : Hub) (history : List ServiceCall) (lock : Fin 8) : Prop :=
  ∃ earlier call later, history = earlier ++ call :: later ∧ (start.after earlier).Gives call lock
    ∧ ∀ other ∈ later, ¬ other.Returns lock

/-- The call changes nothing about locks that it is not about: a request for a lock is about the
one that it is answered with, and any other call about the one that its argument names. -/
structure LeavesLocks (hub : Hub) (call : ServiceCall) : Prop where
  free : call.operation ≠ .newLock → call.operation ≠ .returnLock →
    (hub.serve call).2.freeLocks = hub.freeLocks
  set : call.operation ≠ .setLock → call.operation ≠ .clearLock →
    (hub.serve call).2.setLocks = hub.setLocks
  otherFree : ∀ lock, ¬ hub.Gives call lock → ¬ call.Returns lock →
    BitSet8.contains (hub.serve call).2.freeLocks lock = BitSet8.contains hub.freeLocks lock
  otherSet : ∀ lock, ¬ call.Sets lock → ¬ call.Clears lock →
    BitSet8.contains (hub.serve call).2.setLocks lock = BitSet8.contains hub.setLocks lock

variable (hub : Hub) (call : ServiceCall) (lock : Fin 8)

/-! ## What a call does to the two bytes -/

lemma locks_startCog (request : StartRequest) :
    (hub.startCog request).2.freeLocks = hub.freeLocks
      ∧ (hub.startCog request).2.setLocks = hub.setLocks := by
  simp only [startCog]
  split
  · exact ⟨rfl, rfl⟩
  · dsimp only
    split <;> exact ⟨rfl, rfl⟩

lemma locks_newLock : hub.newLock.2.setLocks = hub.setLocks := by
  simp only [newLock]
  split <;> rfl

variable {call} in
lemma freeLocks_serve_of_ne (notNew : call.operation ≠ .newLock)
    (notReturn : call.operation ≠ .returnLock) :
    (hub.serve call).2.freeLocks = hub.freeLocks := by
  rcases call with ⟨caller, operation, argument⟩
  cases operation with
  | newLock => exact absurd rfl notNew
  | returnLock => exact absurd rfl notReturn
  | startCog => exact (hub.locks_startCog _).1
  | _ => rfl

variable {call} in
lemma setLocks_serve_of_ne (notSet : call.operation ≠ .setLock)
    (notClear : call.operation ≠ .clearLock) :
    (hub.serve call).2.setLocks = hub.setLocks := by
  rcases call with ⟨caller, operation, argument⟩
  cases operation with
  | setLock => exact absurd rfl notSet
  | clearLock => exact absurd rfl notClear
  | startCog => exact (hub.locks_startCog _).2
  | newLock => exact hub.locks_newLock
  | _ => rfl

/-- A request for a lock takes the lock that it is answered with out of the byte of free ones. -/
lemma contains_newLock : BitSet8.contains hub.newLock.2.freeLocks lock = false
    ↔ hub.newLock.1 = .of (UInt32.ofNat lock) false
      ∨ BitSet8.contains hub.freeLocks lock = false := by
  simp only [newLock]
  split
  · simp only [HubAnswer.noneFree_ne, false_or]
  · next given _ =>
    show BitSet8.contains (BitSet8.put hub.freeLocks given false) lock = false ↔ _
    rw [BitSet8.contains_put]
    by_cases same : lock = given
    · subst same
      simp
    · have other : HubAnswer.of (UInt32.ofNat given) false ≠ .of (UInt32.ofNat lock) false :=
        fun answer => same (HubAnswer.of_member_inj answer).symm
      simp only [if_neg same, other, false_or]

/-- **What becomes of the byte of free locks.** -/
theorem contains_freeLocks_serve : BitSet8.contains (hub.serve call).2.freeLocks lock = false
    ↔ hub.Gives call lock ∨ BitSet8.contains hub.freeLocks lock = false ∧ ¬ call.Returns lock := by
  by_cases notNew : call.operation = .newLock
  · have served : hub.serve call = hub.newLock := by rw [serve, notNew, execute]
    simp only [Gives, ServiceCall.Returns, served, notNew, contains_newLock, reduceCtorEq,
      false_and, not_false_eq_true, and_true, true_and]
  by_cases notReturn : call.operation = .returnLock
  · have served : (hub.serve call).2.freeLocks = BitSet8.put hub.freeLocks call.member true := by
      rw [serve, notReturn]
      rfl
    simp only [Gives, ServiceCall.Returns, served, notReturn, BitSet8.contains_put, reduceCtorEq,
      false_and, false_or, true_and]
    by_cases same : lock = call.member
    · simp [same]
    · simp [same, Ne.symm same]
  · simp [Gives, ServiceCall.Returns, notNew, notReturn, hub.freeLocks_serve_of_ne notNew notReturn]

/-- **What becomes of the byte of set locks.** -/
theorem contains_setLocks_serve : BitSet8.contains (hub.serve call).2.setLocks lock
    ↔ call.Sets lock ∨ BitSet8.contains hub.setLocks lock ∧ ¬ call.Clears lock := by
  by_cases notSet : call.operation = .setLock
  · have served : (hub.serve call).2.setLocks = BitSet8.put hub.setLocks call.member true := by
      rw [serve, notSet]
      rfl
    simp only [ServiceCall.Sets, ServiceCall.Clears, served, notSet, BitSet8.contains_put,
      reduceCtorEq, false_and, not_false_eq_true, and_true, true_and]
    by_cases same : lock = call.member
    · simp [same]
    · simp [same, Ne.symm same]
  by_cases notClear : call.operation = .clearLock
  · have served : (hub.serve call).2.setLocks = BitSet8.put hub.setLocks call.member false := by
      rw [serve, notClear]
      rfl
    simp only [ServiceCall.Sets, ServiceCall.Clears, served, notClear, BitSet8.contains_put,
      reduceCtorEq, false_and, false_or, true_and]
    by_cases same : lock = call.member
    · simp [same]
    · simp [same, Ne.symm same]
  · simp [ServiceCall.Sets, ServiceCall.Clears, notSet, notClear,
      hub.setLocks_serve_of_ne notSet notClear]

variable {call lock} in
/-- The answer to a call that sets a lock tells whether it was set. -/
lemma carry_of_sets (sets : call.Sets lock) :
    (hub.serve call).1.carry = BitSet8.contains hub.setLocks lock := by
  obtain ⟨operation, rfl⟩ := sets
  rw [serve, operation]
  rfl

lemma leavesLocks : hub.LeavesLocks call where
  free := hub.freeLocks_serve_of_ne
  set := hub.setLocks_serve_of_ne
  otherFree := by
    intro lock notGiven notReturned
    have known := hub.contains_freeLocks_serve call lock
    simp only [notGiven, notReturned, false_or, not_false_eq_true, and_true] at known
    rw [Bool.eq_iff_iff, ← not_iff_not, Bool.not_eq_true, Bool.not_eq_true]
    exact known
  otherSet := by
    intro lock notSet notCleared
    have known := hub.contains_setLocks_serve call lock
    simp only [notSet, notCleared, false_or, not_false_eq_true, and_true] at known
    exact Bool.eq_iff_iff.mpr known

/-! ## Allocation -/

/-- A request for a lock is answered with the lowest one in the byte of free locks. -/
lemma lowestFree_newLock :
    LowestFree (fun lock => BitSet8.contains hub.freeLocks lock = false) hub.newLock.1 := by
  rw [newLock]
  cases lowest : BitSet8.lowest? hub.freeLocks with
  | none => exact .exhausted (BitSet8.lowest?_eq_none_iff.mp lowest)
  | some lock =>
    obtain ⟨free, lower⟩ := BitSet8.lowest?_eq_some_iff.mp lowest
    exact .given (by simp [free]) lower

/-- One more call in the history. -/
lemma allocated_concat (history : List ServiceCall) :
    hub.Allocated (history ++ [call]) lock
      ↔ (hub.after history).Gives call lock ∨ hub.Allocated history lock ∧ ¬ call.Returns lock := by
  constructor
  · rintro ⟨earlier, given, later, split, gives, kept⟩
    rcases List.eq_nil_or_concat later with rfl | ⟨later, last, rfl⟩
    · obtain ⟨rfl, same⟩ := List.append_inj' split rfl
      cases same
      exact .inl gives
    · rw [List.concat_eq_append, ← List.cons_append, ← List.append_assoc] at split
      rw [List.concat_eq_append] at kept
      obtain ⟨rfl, same⟩ := List.append_inj' split rfl
      cases same
      refine .inr ⟨⟨earlier, given, later, rfl, gives, fun other within => ?_⟩, ?_⟩
      · exact kept other (List.mem_append_left _ within)
      · exact kept call (List.mem_append_right _ (List.mem_singleton.mpr rfl))
  · rintro (gives | ⟨⟨earlier, given, later, rfl, gives, kept⟩, notReturned⟩)
    · exact ⟨history, call, [], rfl, gives, nofun⟩
    · refine ⟨earlier, given, later ++ [call], by simp, gives, fun other within => ?_⟩
      rcases List.mem_append.mp within with within | within
      · exact kept other within
      · cases List.mem_singleton.mp within
        exact notReturned

/-- **The byte of free locks agrees with the history**, if all locks were free at first. -/
theorem allocated_iff {hub : Hub} (free : hub.freeLocks = 0xFF) (history : List ServiceCall)
    (lock : Fin 8) :
    hub.Allocated history lock
      ↔ BitSet8.contains (hub.after history).freeLocks lock = false := by
  induction history using List.reverseRecOn with
  | nil =>
    have none : ∀ lock, BitSet8.contains 0xFF lock = true := by decide
    have start : BitSet8.contains (hub.after []).freeLocks lock = true := by
      show BitSet8.contains hub.freeLocks lock = true
      rw [free, none]
    simp [Allocated, start]
  | append_singleton history call ih =>
    rw [allocated_concat, after_concat, contains_freeLocks_serve, ih]

/-! ## Critical sections -/

/-- **A lock that is taken twice was cleared meanwhile.** -/
theorem exists_clears {first second : ServiceCall} {between : List ServiceCall} {lock : Fin 8}
    (takes : first.Sets lock) (again : second.Sets lock)
    (got : (((hub.serve first).2.after between).serve second).1.carry = false) :
    ∃ call ∈ between, call.Clears lock := by
  by_contra never
  push Not at never
  have set : BitSet8.contains (hub.serve first).2.setLocks lock :=
    (hub.contains_setLocks_serve first lock).mpr (.inl takes)
  have still : BitSet8.contains ((hub.serve first).2.after between).setLocks lock := by
    refine after_preserves (P := fun hub => BitSet8.contains hub.setLocks lock) ?_ set
    intro call within hub set
    exact (hub.contains_setLocks_serve call lock).mpr (.inr ⟨set, never call within⟩)
  rw [carry_of_sets _ again, still] at got
  cases got

/-- **Locks are allocated and taken exclusively**, in whatever order the cogs make their calls.
After a reset a request for a lock is answered with the lowest one that is not allocated, or that
there is none if all eight are; between two calls that set a lock and are told that it was not set,
it is cleared; and no call changes anything about a lock that it is not about. -/
theorem locks_exclusive (hub : Hub) (history : List ServiceCall) (call : ServiceCall) :
    let start := hub.reset
    (call.operation = .newLock →
        LowestFree (start.Allocated history) ((start.after history).serve call).1) ∧
      (∀ earlier first between lock, history = earlier ++ first :: between → first.Sets lock →
        call.Sets lock → ((start.after earlier).serve first).1.carry = false →
        ((start.after history).serve call).1.carry = false →
        ∃ other ∈ between, other.Clears lock) ∧
      (start.after history).LeavesLocks call := by
  intro start
  refine ⟨?_, ?_, leavesLocks _ call⟩
  · intro asks
    have taken : start.Allocated history
        = fun lock => BitSet8.contains (start.after history).freeLocks lock = false :=
      funext fun lock => propext (allocated_iff rfl history lock)
    have served : (start.after history).serve call = (start.after history).newLock := by
      rw [serve, asks, execute]
    rw [taken, served]
    exact lowestFree_newLock _
  · rintro earlier first between lock rfl takes again - got
    rw [after_append, after_cons] at got
    exact exists_clears _ takes again got

/-- A lock that was given back is handed out again, and one that was cleared can be taken again. -/
theorem locks_exclusive_reuse :
    let start : Hub := reset default
    let earlier : List ServiceCall := [⟨0, .newLock, 0⟩, ⟨1, .newLock, 0⟩, ⟨0, .returnLock, 0⟩]
    let clear : ServiceCall := ⟨0, .clearLock, 1⟩
    let history : List ServiceCall := earlier ++ ⟨0, .setLock, 1⟩ :: [clear]
    LowestFree (start.Allocated history) (.of 0 false) ∧ ∃ call ∈ [clear], call.Clears 1 := by
  intro start earlier clear history
  constructor
  · have given : ((start.after history).serve ⟨1, .newLock, 0⟩).1 = .of 0 false := by decide
    rw [← given]
    exact (locks_exclusive default history ⟨1, .newLock, 0⟩).1 rfl
  · exact (locks_exclusive default history ⟨1, .setLock, 1⟩).2.1 earlier ⟨0, .setLock, 1⟩ [clear] 1
      rfl ⟨rfl, by decide⟩ ⟨rfl, by decide⟩ (by decide) (by decide)

end Hub

end P1Chip
