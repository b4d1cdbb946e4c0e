import Mathlib.Algebra.BigOperators.Intervals
import Mathlib.Data.List.Induction
import P1Chip.Counter
import P1Chip.Proofs.Masks

/-!
# What a counter counts

At some clocks a counter adds its frequency to its phase, and at others it does not.  Its mode says
which, from the levels that its two pins had at the ends of the clocks before.  So the phase after
any number of clocks can be told from the registers and the pins alone, and so can the outputs that
show it: the top bit of the phase, or the carries of the additions.

* `Counter.level` — what a pin was at the end of a clock.
* `Counter.countsAt` — the clocks at which each mode counts.
* `Counter.written`, `Counter.after` — a new counter after writes, and then after some clocks.
* `Counter.Follows` — what a counter has of its pins.
* **`Counter.phase_after`** — the phase.
* **`Counter.outA_after`**, **`Counter.phase_carried`** — the top bit and the carries.
* **`Counter.counting_closed`** — all of it for a new counter.
-/

namespace P1Chip

namespace Counter

/-! ## Clocks at which a counter counts -/

/-- The number of the mode, in bits 30 to 26 of the control register. -/
def modeNumber (control : UInt32) : Nat :=
  control.toNat / 2 ^ 26 % 32

/-- The first pin, in bits 5 to 0 of the control register. -/
def firstPin (control : UInt32) : Nat :=
  control.toNat % 64

/-- The second pin, in bits 14 to 9 of the control register. -/
def secondPin (control : UInt32) : Nat :=
  control.toNat / 2 ^ 9 % 64

/-- The level of a pin at the end of a clock, where `words k` are the pins at the end of clock
`k + 1`.  Before the first clock a pin counts as low. -/
def level (words : Nat → UInt64) (pin : Nat) : Nat → Bool
  | 0 => false
  | clock + 1 => (words clock).toNat.testBit pin

/-- Whether a counter counts at a clock, by the number of its mode, from what the first pin was one
clock and two clocks before, and the second pin one clock before. -/
def rule (number : Nat) (first before second : Bool) : Bool :=
  if number < 4 then false
  else if number < 8 then true
  else if number < 10 then first
  else if number < 12 then first && !before
  else if number < 14 then !first
  else if number < 16 then !first && before
  else (number % 16).testBit (first.toNat + 2 * second.toNat)

/-- Whether a counter with the given control register counts at clock `k`, which has the pins of the
clocks before it to go by. -/
def countsAt (control : UInt32) (words : Nat → UInt64) (k : Nat) : Bool :=
  rule (modeNumber control) (level words (firstPin control) (k - 1))
    (level words (firstPin control) (k - 2)) (level words (secondPin control) (k - 1))

/-! ### Modes and their numbers -/

lemma modeNumber_lt (control : UInt32) : modeNumber control < 32 :=
  Nat.mod_lt _ (by decide)

lemma toNat_shiftRight_mode (control : UInt32) :
    (control >>> 26).toNat = control.toNat / 2 ^ 26 := by
  rw [UInt32.toNat_shiftRight]
  exact Nat.shiftRight_eq_div_pow _ 26

/-- Bit 30 tells the logic modes from the others. -/
lemma isLogic_iff (control : UInt32) : control &&& 0x40000000 != 0 ↔ 16 ≤ modeNumber control := by
  have top : modeNumber control / 16 = control.toNat / 2 ^ 30 % 2 := by
    rw [modeNumber]
    omega
  have mask : (0x40000000 : UInt32).toNat = 2 ^ 30 := rfl
  rw [Word.hasBit_eq control mask, Nat.testBit_eq_decide_div_mod_eq, decide_eq_true_eq, ← top]
  have := modeNumber_lt control
  omega

lemma ofControl_of_lt {control : UInt32} (plain : modeNumber control < 16) :
    CounterMode.ofControl control = CounterMode.plain[modeNumber control] := by
  have number : (control >>> 26).toNat % 16 = modeNumber control := by
    rw [toNat_shiftRight_mode, modeNumber] at *
    omega
  rw [CounterMode.ofControl, if_neg (mt (isLogic_iff control).mp (Nat.not_le.mpr plain))]
  simp only [number]

lemma ofControl_of_le {control : UInt32} (logic : 16 ≤ modeNumber control) :
    CounterMode.ofControl control = .logic (.ofBits (control >>> 26)) := by
  rw [CounterMode.ofControl, if_pos ((isLogic_iff control).mpr logic)]

lemma toNat_bits_ofBits (bits : UInt32) : (Condition.ofBits bits).bits.toNat = bits.toNat % 16 := by
  have codes : ∀ code : Fin 16, (Condition.all.get code).bits.toNat = code := by decide
  exact codes ⟨bits.toNat % 16, Nat.mod_lt _ (by decide)⟩

/-- Each mode counts as the rule says. -/
lemma counts_eq {counter : Counter} (mode : counter.mode = .ofControl counter.control) :
    counter.counts
      = rule (modeNumber counter.control) counter.pinA counter.pinABefore counter.pinB := by
  rw [counts, mode]
  generalize counter.pinA = first, counter.pinABefore = before, counter.pinB = second
  rcases Nat.lt_or_ge (modeNumber counter.control) 16 with plain | logic
  · have rules : ∀ (number : Fin 16) (first before second : Bool),
        (counts { new .a with
          mode := CounterMode.plain.get number
          pinA := first
          pinABefore := before
          pinB := second }) = rule number first before second := by
      decide
    rw [ofControl_of_lt plain]
    exact rules ⟨_, plain⟩ first before second
  · have small : modeNumber counter.control % 16 = (counter.control >>> 26).toNat % 16 := by
      rw [toNat_shiftRight_mode, modeNumber]
      omega
    rw [ofControl_of_le logic, rule, if_neg (by omega), if_neg (by omega), if_neg (by omega),
      if_neg (by omega), if_neg (by omega), if_neg (by omega), small, ← toNat_bits_ofBits]
    simp only [Condition.holds_eq_testBit, Nat.add_comm]

/-! ## Counters and their pins -/

/-- A register of a counter is written. -/
inductive Write where
  | control (value : UInt32)
  | frequency (value : UInt32)
  | phase (value : UInt32)
deriving DecidableEq, Repr, Inhabited

section Writes

variable {τ : Type} [Timebase τ]

/-- The counter and the loops of its cog after a write. -/
def write (state : Counter × PllPair τ) : Write → Counter × PllPair τ
  | .control value => state.1.setControl value state.2
  | .frequency value => state.1.setFrequency value state.2
  | .phase value => (state.1.setPhase value, state.2)

/-- A new counter after its registers were written, in any order and any number of times. -/
def written (channel : Channel) (plls : PllPair τ) (writes : List Write) : Counter :=
  (writes.foldl write (new channel, plls)).1

end Writes

/-- The counter is set up as its control register says. -/
structure SetUp (counter : Counter) : Prop where
  mode : counter.mode = .ofControl counter.control
  maskA : counter.maskA.toNat = 2 ^ firstPin counter.control
  maskB : counter.maskB.toNat = 2 ^ secondPin counter.control

/-- The counter has not seen its pins yet. -/
structure Fresh (counter : Counter) : Prop extends counter.SetUp where
  pinA : counter.pinA = false
  pinABefore : counter.pinABefore = false
  pinB : counter.pinB = false

lemma toNat_bit {pin : UInt32} (small : pin.toNat < 64) :
    ((1 : UInt64) <<< pin.toUInt64).toNat = 2 ^ pin.toNat := by
  have within : 2 ^ pin.toNat < 2 ^ 64 := Nat.pow_lt_pow_right (by decide) small
  rw [UInt64.toNat_shiftLeft, UInt32.toNat_toUInt64, Nat.mod_eq_of_lt small, UInt64.toNat_one,
    Nat.one_shiftLeft, Nat.mod_eq_of_lt within]

lemma toNat_lowPin (x : UInt32) :
    ((1 : UInt64) <<< (x &&& 63).toUInt64).toNat = 2 ^ (x.toNat % 64) := by
  have field : (x &&& 63).toNat = x.toNat % 64 := Word.toNat_lowBits x 6 rfl
  rw [toNat_bit (by omega), field]

section Writes

variable {τ : Type} [Timebase τ]

lemma Fresh.write {state : Counter × PllPair τ} (h : state.1.Fresh) (write : Write) :
    (Counter.write state write).1.Fresh := by
  cases write with
  | control value =>
    refine ⟨⟨rfl, toNat_lowPin value, ?_⟩, h.pinA, h.pinABefore, h.pinB⟩
    have shifted : (value >>> 9).toNat = value.toNat / 2 ^ 9 := by
      rw [UInt32.toNat_shiftRight]
      exact Nat.shiftRight_eq_div_pow _ 9
    exact (toNat_lowPin (value >>> 9)).trans (by rw [shifted]; rfl)
  | frequency value => exact ⟨⟨h.mode, h.maskA, h.maskB⟩, h.pinA, h.pinABefore, h.pinB⟩
  | phase value => exact ⟨⟨h.mode, h.maskA, h.maskB⟩, h.pinA, h.pinABefore, h.pinB⟩

lemma fresh_written (channel : Channel) (plls : PllPair τ) (writes : List Write) :
    (written channel plls writes).Fresh := by
  induction writes using List.reverseRecOn with
  | nil =>
    have off : CounterMode.disabled = .ofControl 0 := by decide
    have first : (1 : UInt64).toNat = 2 ^ firstPin 0 := by decide
    have second : (1 : UInt64).toNat = 2 ^ secondPin 0 := by decide
    exact ⟨⟨off, first, second⟩, rfl, rfl, rfl⟩
  | append_singleton writes write ih =>
    rw [written, List.foldl_append]
    exact ih.write write

end Writes

/-- The counter after some clocks, of which clock `k + 1` ends with the pins `words k`. -/
def after (words : Nat → UInt64) (counter : Counter) : Nat → Counter
  | 0 => counter
  | clock + 1 => (counter.after words clock).tick (words clock)

@[simp]
lemma control_after (words : Nat → UInt64) (counter : Counter) (n : Nat) :
    (counter.after words n).control = counter.control := by
  induction n with
  | zero => rfl
  | succ n ih => exact ih

@[simp]
lemma frequency_after (words : Nat → UInt64) (counter : Counter) (n : Nat) :
    (counter.after words n).frequency = counter.frequency := by
  induction n with
  | zero => rfl
  | succ n ih => exact ih

/-- What has become of a counter after `n` clocks, apart from its phase and its outputs. -/
structure Follows (start : Counter) (words : Nat → UInt64) (n : Nat) (counter : Counter) : Prop
    extends counter.SetUp where
  control : counter.control = start.control
  frequency : counter.frequency = start.frequency
  pinA : counter.pinA = level words (firstPin start.control) n
  pinABefore : counter.pinABefore = level words (firstPin start.control) (n - 1)
  pinB : counter.pinB = level words (secondPin start.control) n

variable {start counter : Counter} {words : Nat → UInt64} {n : Nat}

/-- A clock samples the pins that the control register names. -/
lemma Follows.tick (h : start.Follows words n counter) :
    start.Follows words (n + 1) (counter.tick (words n)) where
  mode := h.mode
  maskA := h.maskA
  maskB := h.maskB
  control := h.control
  frequency := h.frequency
  pinA := (Word.hasPin_eq _ h.maskA).trans (by rw [h.control]; rfl)
  pinABefore := h.pinA
  pinB := (Word.hasPin_eq _ h.maskB).trans (by rw [h.control]; rfl)

lemma Fresh.follows_after (fresh : start.Fresh) (words : Nat → UInt64) (n : Nat) :
    start.Follows words n (start.after words n) := by
  induction n with
  | zero => exact ⟨fresh.toSetUp, rfl, rfl, fresh.pinA, fresh.pinABefore, fresh.pinB⟩
  | succ n ih => exact ih.tick

/-- At the next clock the counter counts as the rule of its mode says. -/
lemma Follows.counts_eq (h : start.Follows words n counter) :
    counter.counts = countsAt start.control words (n + 1) := by
  rw [Counter.counts_eq h.mode, h.pinA, h.pinABefore, h.pinB, h.control]
  rfl

/-! ## The phase -/

/-- **The phase after some clocks** is what it was, and the frequency once for each clock at which
the mode counts. -/
theorem phase_after (fresh : start.Fresh) (words : Nat → UInt64) (n : Nat) :
    (start.after words n).phase
      = start.phase + start.frequency
        * UInt32.ofNat (∑ k ∈ Finset.Icc 1 n, (countsAt start.control words k).toNat) := by
  induction n with
  | zero => simp [after]
  | succ n ih =>
    have h := fresh.follows_after words n
    have next : (start.after words (n + 1)).phase = (start.after words n).nextPhase := rfl
    rw [next, nextPhase, h.counts_eq, h.frequency, ih, Finset.sum_Icc_succ_top (by omega),
      UInt32.ofNat_add, UInt32.mul_add, ← UInt32.add_assoc]
    cases countsAt start.control words (n + 1) <;> simp

/-! ## The first output -/

/-- The mode shows the top bit of the phase. -/
def isNco (control : UInt32) : Bool :=
  modeNumber control = 4 || modeNumber control = 5

/-- The mode shows the carries out of the phase. -/
def isDuty (control : UInt32) : Bool :=
  modeNumber control = 6 || modeNumber control = 7

lemma SetUp.mode_eq (setUp : counter.SetUp) (number : Fin 16)
    (h : modeNumber counter.control = number) : counter.mode = CounterMode.plain.get number := by
  rw [setUp.mode, ofControl_of_lt (h ▸ number.isLt)]
  simp only [h]
  rfl

lemma nextOutA_of_isNco (setUp : counter.SetUp) (nco : isNco counter.control) :
    counter.nextOutA = counter.nextPhase.toNat.testBit 31 := by
  rw [isNco, Bool.or_eq_true, decide_eq_true_eq, decide_eq_true_eq] at nco
  have topBit : (0x80000000 : UInt32).toNat = 2 ^ 31 := rfl
  rw [← Word.hasBit_eq counter.nextPhase topBit]
  rcases nco with number | number
  · rw [nextOutA, setUp.mode_eq 4 number]
    rfl
  · rw [nextOutA, setUp.mode_eq 5 number]
    rfl

lemma next_of_isDuty (setUp : counter.SetUp) (duty : isDuty counter.control) :
    counter.nextPhase = counter.phase + counter.frequency ∧ counter.nextOutA = counter.carries := by
  rw [isDuty, Bool.or_eq_true, decide_eq_true_eq, decide_eq_true_eq] at duty
  rcases duty with number | number
  · rw [nextPhase, counts, nextOutA, setUp.mode_eq 6 number]
    exact ⟨rfl, rfl⟩
  · rw [nextPhase, counts, nextOutA, setUp.mode_eq 7 number]
    exact ⟨rfl, rfl⟩

/-- **In the NCO modes** the first output is the top bit of the phase after each clock. -/
theorem outA_after (fresh : start.Fresh) (nco : isNco start.control) (words : Nat → UInt64)
    (n : Nat) :
    (start.after words (n + 1)).outA = (start.after words (n + 1)).phase.toNat.testBit 31 := by
  have h := fresh.follows_after words n
  exact nextOutA_of_isNco h.toSetUp (h.control ▸ nco)

/-- An addition to the phase, with its carry, loses nothing. -/
lemma toNat_add_carries (counter : Counter) :
    (counter.phase + counter.frequency).toNat + 2 ^ 32 * counter.carries.toNat
      = counter.phase.toNat + counter.frequency.toNat := by
  have phase := counter.phase.toNat_lt
  have frequency := counter.frequency.toNat_lt
  rw [UInt32.toNat_add, carries]
  by_cases overflows : counter.phase.toNat + counter.frequency.toNat ≥ 4294967296
  · simp only [overflows, decide_true, Bool.toNat_true]
    omega
  · simp only [overflows, decide_false, Bool.toNat_false]
    omega

/-- **In the DUTY modes** the first output has shown as many carries as the sum of all additions
has overflowed. -/
theorem phase_carried (fresh : start.Fresh) (duty : isDuty start.control) (words : Nat → UInt64)
    (n : Nat) :
    (start.after words n).phase.toNat
        + 2 ^ 32 * ∑ k ∈ Finset.Icc 1 n, (start.after words k).outA.toNat
      = start.phase.toNat + n * start.frequency.toNat := by
  induction n with
  | zero => simp [after]
  | succ n ih =>
    have h := fresh.follows_after words n
    have step : (start.after words (n + 1)).phase
          = (start.after words n).phase + (start.after words n).frequency
        ∧ (start.after words (n + 1)).outA = (start.after words n).carries :=
      next_of_isDuty h.toSetUp (h.control ▸ duty)
    have sum := (start.after words n).toNat_add_carries
    rw [← step.1, ← step.2, h.frequency] at sum
    rw [Finset.sum_Icc_succ_top (by omega), Nat.mul_add, Nat.succ_mul]
    omega

/-! ## New counters -/

/-- **What a counter counts.**  After any writes to a new counter and any number of clocks, the
phase has grown by the frequency once for each clock at which the mode counts.  The first output is
the top bit of the phase in the NCO modes, and has been high once for each overflow of the phase in
the DUTY modes. -/
theorem counting_closed {τ : Type} [Timebase τ] (channel : Channel) (plls : PllPair τ)
    (writes : List Write) (words : Nat → UInt64) (n : Nat) :
    let start := written channel plls writes
    (start.after words n).phase
        = start.phase + start.frequency
          * UInt32.ofNat (∑ k ∈ Finset.Icc 1 n, (countsAt start.control words k).toNat)
      ∧ (isNco start.control → ∀ k, 0 < k →
        (start.after words k).outA = (start.after words k).phase.toNat.testBit 31)
      ∧ (isDuty start.control →
        ∑ k ∈ Finset.Icc 1 n, (start.after words k).outA.toNat
          = (start.phase.toNat + n * start.frequency.toNat) / 2 ^ 32) := by
  intro start
  have fresh : start.Fresh := fresh_written channel plls writes
  refine ⟨phase_after fresh words n, ?_, ?_⟩
  · intro nco k pos
    obtain ⟨clock, rfl⟩ := Nat.exists_eq_succ_of_ne_zero (Nat.ne_of_gt pos)
    exact outA_after fresh nco words clock
  · intro duty
    have carried := phase_carried fresh duty words n
    have within := (start.after words n).phase.toNat_lt
    omega

/-- What was written to the three registers is what the counter starts from. -/
example {τ : Type} [Timebase τ] (plls : PllPair τ) (control frequency phase : UInt32) :
    let start := written .a plls [.control control, .frequency frequency, .phase phase]
    start.control = control ∧ start.frequency = frequency ∧ start.phase = phase :=
  ⟨rfl, rfl, rfl⟩

/-- Three quarters of the range, added four times to a quarter, overflow three times, and the first
output of another counter toggles with the top bit of its phase. -/
theorem counting_closed_threeQuarters :
    let duty := written .a (PllPair.off : PllPair Rat)
      [.phase 0x40000000, .control 0x18000000, .frequency 0xC0000000]
    let nco := written .b (PllPair.off : PllPair Rat)
      [.control 0x14000203, .frequency 0x80000000]
    let words := fun _ => 0
    (isDuty duty.control ∧ ∑ k ∈ Finset.Icc 1 4, (duty.after words k).outA.toNat = 3) ∧
      (isNco nco.control ∧ (nco.after words 1).outA = true ∧ (nco.after words 2).outA = false) := by
  intro duty nco words
  have isDuty : isDuty duty.control := by decide
  have isNco : isNco nco.control := by decide
  have overflows := (counting_closed .a (PllPair.off : PllPair Rat)
    [.phase 0x40000000, .control 0x18000000, .frequency 0xC0000000] words 4).2.2 isDuty
  have top := (counting_closed .b (PllPair.off : PllPair Rat)
    [.control 0x14000203, .frequency 0x80000000] words 0).2.1 isNco
  refine ⟨⟨isDuty, overflows.trans (by decide +kernel)⟩, isNco, ?_, ?_⟩
  · exact (top 1 (by decide)).trans (by decide +kernel)
  · exact (top 2 (by decide)).trans (by decide +kernel)

end Counter

end P1Chip
