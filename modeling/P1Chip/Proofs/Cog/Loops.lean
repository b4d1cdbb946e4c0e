import Mathlib.Algebra.Order.Ring.Rat
import Mathlib.Tactic.Linarith
import P1Chip.Cog.Basic

/-!
# Loops of counters that do not use them

Only the three PLL modes of a counter use its phase-locked loop, and writing the control or the
frequency register of a counter in any other mode switches the loop off.  But a loop that was
switched off keeps its multiplier, and a new system clock makes both loops of a cog lock again.  So
the loop of an idle counter is silent until the system clock changes to one that suits its last
multiplier, and then it runs.

* `Pll.Silent` — a loop that is off, drives no pin and has no edges.
* `LoopEvent`, `Cog.meet` — all that concerns the counters and loops of a cog.
* `CogBody.IdleLoopsSilent` — no counter has a running loop unless it is in a PLL mode.
* **`Cog.idleLoopsSilent_run_iff`** — this holds all the time exactly if no change of the system
  clock wakes the loop of an idle counter.
* `Cog.not_idleLoopsSilent_of_newClock` — a run in which one does.
-/

namespace P1Chip

open Timebase

/-- What the loops rely on in their numbers: zero is not less than itself, no multiple of it is in
the range in which loops lock, and a frequency in that range is positive. -/
class LawfulTimebase (τ : Type) [Timebase τ] : Prop where
  lt_zero_zero : lt (ofNat 0 : τ) (ofNat 0) = false
  lowest_le_zero : ∀ n : Nat, le Pll.lowest (ofNat n * ofNat 0 : τ) = false
  doubled_pos : ∀ frequency : τ, le Pll.lowest frequency → lt (ofNat 0) (frequency * ofNat 2)

instance : LawfulTimebase Rat where
  lt_zero_zero := by decide
  lowest_le_zero := by
    intro n
    have small : ¬ (500000 : Rat) ≤ (n : Rat) * 0 := by simp
    exact decide_eq_false small
  doubled_pos := by
    intro frequency low
    have low : (500000 : Rat) ≤ frequency := of_decide_eq_true low
    have pos : (0 : Rat) < frequency * 2 := by linarith
    exact decide_eq_true pos

variable {τ : Type} [Timebase τ]

/-! ## A single loop -/

namespace Pll

/-- The loop is off, drives no pin, and has no edge however much time passes. -/
structure Silent (pll : Pll τ) : Prop where
  disabled : pll.isEnabled = false
  pins : pll.pins = 0
  edges : ∀ elapsed, (pll.advance elapsed).1 = none

/-- Whether the loop's last multiple of a system clock is in the range in which loops lock. -/
def locksAt (pll : Pll τ) (frequency : UInt32) : Bool :=
  let target := ofNat frequency.toNat * pll.multiplier
  le lowest target && le target highest

lemma silent_iff (pll : Pll τ) : pll.Silent ↔ pll.isEnabled = false := by
  constructor
  · exact Silent.disabled
  · intro off
    exact ⟨off, by simp [pins, off], by simp [advance, off]⟩

lemma isEnabled_advance (pll : Pll τ) (elapsed : τ) :
    (pll.advance elapsed).2.isEnabled = pll.isEnabled := by
  simp only [advance]
  split
  · split <;> rfl
  · rfl

variable [LawfulTimebase τ]

lemma isEnabled_disable (pll : Pll τ) : pll.disable.isEnabled = false :=
  LawfulTimebase.lt_zero_zero

/-- A loop that takes over a system clock runs if its multiple of it is in range. -/
lemma isEnabled_setBaseFrequency (pll : Pll τ) (frequency : UInt32) :
    (pll.setBaseFrequency frequency).isEnabled = pll.locksAt frequency := by
  simp only [setBaseFrequency, feed, locksAt]
  split
  · next inRange =>
    rw [inRange]
    rw [Bool.and_eq_true] at inRange
    exact LawfulTimebase.doubled_pos _ inRange.1
  · next outside =>
    rw [isEnabled_disable]
    exact (Bool.eq_false_iff.mpr outside).symm

end Pll

/-! ## The loops of a cog -/

omit [Timebase τ] in
lemma PllPair.channel_modify (pair : PllPair τ) (changed channel : Channel)
    (change : Pll τ → Pll τ) :
    (pair.modify changed change).channel channel
      = if channel = changed then change (pair.channel channel) else pair.channel channel := by
  cases changed <;> cases channel <;> rfl

lemma PllPair.channel_setBaseFrequency (pair : PllPair τ) (frequency : UInt32)
    (channel : Channel) :
    (pair.setBaseFrequency frequency).channel channel
      = (pair.channel channel).setBaseFrequency frequency := by
  cases channel <;> rfl

lemma PllPair.channel_advance (pair : PllPair τ) (elapsed : τ) (channel : Channel) :
    (pair.advance elapsed).2.channel channel = ((pair.channel channel).advance elapsed).2 := by
  cases channel <;> rfl

/-- Something that happens to the counters and loops of a cog. -/
inductive LoopEvent (τ : Type) where
  /-- A register is written, among them those of the counters. -/
  | write (running : UInt8) (address value : UInt32)
  | tick (pins : UInt64)
  | advance (elapsed : τ)
  | newClock (frequency : UInt32)

namespace CogBody

def counter (body : CogBody τ) : Channel → Counter
  | .a => body.counterA
  | .b => body.counterB

def loop (body : CogBody τ) (channel : Channel) : Pll τ :=
  body.plls.channel channel

/-- Whether a counter is in none of the modes that use its loop. -/
def isIdle (body : CogBody τ) (channel : Channel) : Bool :=
  !(body.counter channel).mode.isPll

def IdleLoopsSilent (body : CogBody τ) : Prop :=
  ∀ channel, body.isIdle channel → (body.loop channel).Silent

end CogBody

namespace Cog

/-- The cog after something has happened to its counters and loops. -/
def meet (cog : Cog τ) : LoopEvent τ → Cog τ
  | .write running address value =>
    { cog with body := cog.body.writeRegister running address value }
  | .tick pins => { cog with body := cog.body.tickCounters pins }
  | .advance elapsed => (cog.advance elapsed).2
  | .newClock frequency => cog.setCoreFrequency frequency

/-- Whether an event is a new system clock that the loop of an idle counter locks onto. -/
def wakes (cog : Cog τ) : LoopEvent τ → Bool
  | .newClock frequency =>
    [Channel.a, .b].any fun channel =>
      cog.body.isIdle channel && (cog.body.loop channel).locksAt frequency
  | _ => false

end Cog

/-! ## What a counter does to the loops -/

namespace Counter

/-- A counter has set its loop: the other one is as before, and its own is off if the counter is in
no mode that uses it. -/
structure Drives (counter : Counter) (before after : PllPair τ) : Prop where
  other : ∀ channel, channel ≠ counter.channel → after.channel channel = before.channel channel
  off : counter.mode.isPll = false → (after.channel counter.channel).isEnabled = false

variable [LawfulTimebase τ]

lemma drives_modify (counter : Counter) (plls : PllPair τ) (set : Pll τ → Pll τ) :
    counter.Drives plls (plls.modify counter.channel fun pll => counter.driveLoop (set pll)) where
  other := by
    intro channel different
    rw [PllPair.channel_modify, if_neg different]
  off := by
    intro idle
    rw [PllPair.channel_modify, if_pos rfl, driveLoop, idle]
    exact Pll.isEnabled_disable _

lemma drives_setControl (counter : Counter) (value : UInt32) (plls : PllPair τ) :
    (counter.setControl value plls).1.Drives plls (counter.setControl value plls).2 := by
  let written := (counter.setControl value plls).1
  exact drives_modify written plls fun pll =>
    if written.mode.isPll then pll.drivePins written.loopPins.1 written.loopPins.2 else pll

lemma drives_setFrequency (counter : Counter) (value : UInt32) (plls : PllPair τ) :
    (counter.setFrequency value plls).1.Drives plls (counter.setFrequency value plls).2 :=
  drives_modify _ plls fun pll => pll

end Counter

/-! ## Loops that are in order -/

namespace CogBody

/-- Each counter has the loop of its own, and that of an idle one is off. -/
structure Tuned (body : CogBody τ) : Prop where
  own : ∀ channel, (body.counter channel).channel = channel
  off : ∀ channel, body.isIdle channel → (body.loop channel).isEnabled = false

variable {body after : CogBody τ}

namespace Tuned

lemma silent (tuned : body.Tuned) : body.IdleLoopsSilent :=
  fun channel idle => (Pll.silent_iff _).mpr (tuned.off channel idle)

/-- Loops stay in order if nothing changes about them that matters. -/
lemma same (tuned : body.Tuned)
    (own : ∀ channel, (after.counter channel).channel = (body.counter channel).channel)
    (mode : ∀ channel, (after.counter channel).mode = (body.counter channel).mode)
    (loop : ∀ channel, (after.loop channel).isEnabled = (body.loop channel).isEnabled) :
    after.Tuned where
  own := fun channel => (own channel).trans (tuned.own channel)
  off := by
    intro channel idle
    rw [loop]
    apply tuned.off
    rwa [isIdle, mode] at idle

/-- Loops stay in order if one of the counters sets its own. -/
lemma drive (tuned : body.Tuned) (changed : Channel)
    (own : (after.counter changed).channel = (body.counter changed).channel)
    (other : ∀ channel, channel ≠ changed → after.counter channel = body.counter channel)
    (drives : (after.counter changed).Drives body.plls after.plls) : after.Tuned := by
  have ownChanged : (after.counter changed).channel = changed := own.trans (tuned.own changed)
  constructor
  · intro channel
    by_cases h : channel = changed
    · subst h
      exact ownChanged
    · rw [other channel h]
      exact tuned.own channel
  · intro channel idle
    by_cases h : channel = changed
    · subst h
      have off := drives.off (by simpa [isIdle] using idle)
      rwa [ownChanged] at off
    · rw [isIdle, other channel h] at idle
      rw [loop, drives.other channel (ownChanged.symm ▸ h)]
      exact tuned.off channel idle

/-- **Writing registers** keeps the loops in order. -/
theorem writeRegister [LawfulTimebase τ] (tuned : body.Tuned) (running : UInt8)
    (address value : UInt32) : (body.writeRegister running address value).Tuned := by
  have notA : ∀ {after : CogBody τ}, after.counterB = body.counterB →
      ∀ channel, channel ≠ .a → after.counter channel = body.counter channel := by
    rintro after same (_ | _) h
    exacts [absurd rfl h, same]
  have notB : ∀ {after : CogBody τ}, after.counterA = body.counterA →
      ∀ channel, channel ≠ .b → after.counter channel = body.counter channel := by
    rintro after same (_ | _) h
    exacts [same, absurd rfl h]
  simp only [CogBody.writeRegister]
  split
  · exact tuned
  · exact tuned
  · exact tuned
  · exact tuned.drive .a rfl (notA rfl) (Counter.drives_setControl _ value _)
  · exact tuned.drive .b rfl (notB rfl) (Counter.drives_setControl _ value _)
  · exact tuned.drive .a rfl (notA rfl) (Counter.drives_setFrequency _ value _)
  · exact tuned.drive .b rfl (notB rfl) (Counter.drives_setFrequency _ value _)
  · exact tuned.same (by rintro (_ | _) <;> rfl) (by rintro (_ | _) <;> rfl) fun _ => rfl
  · exact tuned.same (by rintro (_ | _) <;> rfl) (by rintro (_ | _) <;> rfl) fun _ => rfl
  · exact tuned.same (fun _ => rfl) (fun _ => rfl) fun _ => rfl
  · exact tuned.same (fun _ => rfl) (fun _ => rfl) fun _ => rfl
  · exact tuned.same (fun _ => rfl) (fun _ => rfl) fun _ => rfl

lemma tickCounters (tuned : body.Tuned) (pins : UInt64) : (body.tickCounters pins).Tuned :=
  tuned.same (by rintro (_ | _) <;> rfl) (by rintro (_ | _) <;> rfl) fun _ => rfl

end Tuned

end CogBody

/-! ## Events -/

namespace Cog

variable {cog : Cog τ}

lemma tuned_advance (tuned : cog.body.Tuned) (elapsed : τ) :
    (cog.advance elapsed).2.body.Tuned := by
  refine tuned.same (fun _ => rfl) (fun _ => rfl) fun channel => ?_
  show ((cog.body.plls.advance elapsed).2.channel channel).isEnabled = _
  rw [PllPair.channel_advance, Pll.isEnabled_advance]
  rfl

/-! ## Runs -/

def meetAll (events : List (LoopEvent τ)) (cog : Cog τ) : Cog τ :=
  events.foldl meet cog

lemma meetAll_take_succ (events : List (LoopEvent τ)) (cog : Cog τ) {k : Nat}
    (h : k < events.length) :
    meetAll (events.take (k + 1)) cog = (meetAll (events.take k) cog).meet events[k] := by
  rw [meetAll, List.take_add_one, List.foldl_append, List.getElem?_eq_getElem h]
  rfl

/-! ## Loops stay in order -/

variable [LawfulTimebase τ]

lemma tuned_new (id : UInt32) (kind : EngineKind) (program parameter coreFrequency : UInt32) :
    (new id kind program parameter coreFrequency : Cog τ).body.Tuned where
  own := by rintro (_ | _) <;> rfl
  off := by
    -- a loop that was never fed has the multiplier zero
    have never : (Pll.off : Pll τ).locksAt coreFrequency = false := by
      rw [Pll.locksAt, Bool.and_eq_false_iff]
      exact .inl (LawfulTimebase.lowest_le_zero _)
    intro channel _
    show ((PllPair.off.setBaseFrequency coreFrequency).channel channel).isEnabled = false
    rw [PllPair.channel_setBaseFrequency, Pll.isEnabled_setBaseFrequency]
    cases channel <;> exact never

/-- A new system clock leaves the loops of idle counters silent unless it wakes one of them. -/
lemma silent_newClock_iff (cog : Cog τ) (frequency : UInt32) :
    (cog.meet (.newClock frequency)).body.IdleLoopsSilent
      ↔ cog.wakes (.newClock frequency) = false := by
  have loops : ∀ channel, ((cog.meet (.newClock frequency)).body.loop channel).Silent
      ↔ (cog.body.loop channel).locksAt frequency = false := by
    intro channel
    show ((cog.body.plls.setBaseFrequency frequency).channel channel).Silent ↔ _
    rw [PllPair.channel_setBaseFrequency, Pll.silent_iff, Pll.isEnabled_setBaseFrequency]
    rfl
  constructor
  · intro silent
    rw [wakes, List.any_eq_false]
    intro channel _ woken
    rw [Bool.and_eq_true] at woken
    have off := (loops channel).mp (silent channel woken.1)
    simp [off] at woken
  · intro asleep channel idle
    rw [wakes, List.any_eq_false] at asleep
    apply (loops channel).mpr
    have all : channel ∈ [Channel.a, .b] := by cases channel <;> simp
    have unlocked := asleep channel all
    have idle : cog.body.isIdle channel = true := idle
    simpa [idle] using unlocked

/-- **Every event** keeps the loops in order, unless it wakes one. -/
theorem tuned_meet (tuned : cog.body.Tuned) {event : LoopEvent τ}
    (asleep : cog.wakes event = false) : (cog.meet event).body.Tuned := by
  cases event with
  | write running address value => exact tuned.writeRegister running address value
  | tick pins => exact tuned.tickCounters pins
  | advance elapsed => exact tuned_advance tuned elapsed
  | newClock frequency =>
    refine ⟨tuned.own, fun channel idle => ?_⟩
    exact ((silent_newClock_iff cog frequency).mpr asleep channel idle).disabled

lemma tuned_meetAll {events : List (LoopEvent τ)} (tuned : cog.body.Tuned)
    (asleep : ∀ k (h : k < events.length), (meetAll (events.take k) cog).wakes events[k] = false)
    (k : Nat) : (meetAll (events.take k) cog).body.Tuned := by
  induction k with
  | zero => exact tuned
  | succ k ih =>
    by_cases h : k < events.length
    · rw [meetAll_take_succ events cog h]
      exact tuned_meet ih (asleep k h)
    · rw [List.take_of_length_le (by omega)] at ih ⊢
      exact ih

/-- **When idle counters have silent loops.**  In a run of a new cog no counter ever has a running
loop unless it is in a PLL mode, exactly if no change of the system clock in the run wakes one. -/
theorem idleLoopsSilent_run_iff (id : UInt32) (kind : EngineKind)
    (program parameter coreFrequency : UInt32) (events : List (LoopEvent τ)) :
    let start : Cog τ := new id kind program parameter coreFrequency
    (∀ k, (meetAll (events.take k) start).body.IdleLoopsSilent)
      ↔ ∀ k (h : k < events.length), (meetAll (events.take k) start).wakes events[k] = false := by
  intro start
  constructor
  · intro silent k h
    have after := silent (k + 1)
    rw [meetAll_take_succ events start h] at after
    cases event : events[k] with
    | newClock frequency =>
      rw [event] at after
      exact (silent_newClock_iff _ frequency).mp after
    | _ => rfl
  · intro asleep k
    -- silence alone is not kept: a counter might drive the loop of the other one
    exact (tuned_meetAll (tuned_new id kind program parameter coreFrequency) asleep k).silent

/-- The first counter runs its loop at the system clock, with pin 4 as its output, and is then
switched off.  The system clock changes while it runs. -/
def pulses (τ : Type) : List (LoopEvent τ) :=
  [.write 1 SpecialRegister.frqa.address 0x10000000,
    .write 1 SpecialRegister.ctra.address 0x0B800004,
    .newClock 40000000,
    .write 1 SpecialRegister.ctra.address 0]

/-- A change of the system clock while the counter uses its loop does no harm. -/
theorem idleLoopsSilent_of_pulses :
    let start : Cog Rat := new 0 .native 0 0 80000000
    ∀ k, (meetAll ((pulses Rat).take k) start).body.IdleLoopsSilent :=
  (idleLoopsSilent_run_iff 0 .native 0 0 80000000 (pulses Rat)).mpr (by decide +kernel)

/-- One after the counter was switched off starts its loop again, here in floating point. -/
theorem not_idleLoopsSilent_of_newClock :
    let start : Cog Float := new 0 .native 0 0 80000000
    let cog := meetAll (pulses Float ++ [.newClock 80000000]) start
    cog.body.isIdle .a ∧ ¬ cog.body.IdleLoopsSilent := by
  refine ⟨by decide +kernel, fun silent => ?_⟩
  have off := (silent .a (by decide +kernel)).disabled
  exact absurd off (by decide +kernel)

end Cog

end P1Chip
