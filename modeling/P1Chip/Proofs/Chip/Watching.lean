import P1Chip.Proofs.Chip.Informed
import P1Chip.Proofs.Chip.Operation

/-!
# What plugins know of the pins

Whatever the user of a chip does, the plugins that asked for it are told of all that becomes of the
pins, except when a reset takes outputs away.  A reset is noticed by chance: because a pin was
driven from outside just before, or because something changes in the rest of the same step.

* `Chip.Announces` — an operation that takes outputs away has another reason to tell the plugins.
* **`Chip.Informed.step_iff`** — when a system clock leaves the informed informed.
* **`Chip.Informed.apply_iff`** — and any other operation.
* **`Chip.informed_run_iff`** — the plugins are informed all the time exactly if all operations
  announce what they take away.
-/

namespace P1Chip.Chip

variable {τ π : Type} [Timebase τ]

/-- The chip that was just switched on, with plugins that nobody has told anything. -/
def watchedOn (memory : Memory) (plugins : PluginSet π) : Chip τ (Watcher π) :=
  (switchedOn memory).withPlugins fun _ => plugins.watched

lemma informed_watchedOn (memory : Memory) (plugins : PluginSet π) :
    (watchedOn memory plugins : Chip τ (Watcher π)).Informed := by
  let fresh : Chip τ (Watcher π) := watchedOn memory plugins
  have shown : fresh.plugins.shown
      = (plugins.attached.filter (·.wantsPins)).map fun _ => .replicate pinCount .floating :=
    PluginSet.shown_watched plugins
  have pins : fresh.hub.pinStates = (Hub.new memory).pinStates :=
    Hub.pinStates_congr rfl rfl rfl rfl
  refine .inr fun seen hs => ?_
  obtain ⟨-, -, rfl⟩ := List.mem_map.mp (shown ▸ hs)
  exact (pins.trans (Hub.pinStates_new memory)).symm

variable [Plugin τ π]

/-- Whether an operation that takes outputs away has another reason to tell the plugins: something
had changed before, or the cogs or the plugins change something in the rest of the step. -/
def Announces (chip : Chip τ π) : Operation π → Prop
  | .step =>
    let clocked := chip.advanceClocks
    let stepped := clocked.stepSlots
    clocked.hub.external.changed = true ∨ stepped.hub.dir = clocked.hub.dir
      ∨ stepped.refreshPins.1 = true ∨ stepped.notifyPins.countClock.refreshPins.1 = true
  | operation =>
    chip.hub.external.changed = true ∨ (chip.apply operation).hub.dir = chip.hub.dir

/-- **A system clock** leaves the informed informed exactly if it announces what it takes away. -/
theorem Informed.step_iff (drives : DrivesOnly τ π) {chip : Chip τ (Watcher π)}
    (informed : chip.Informed) (watched : 0 < chip.plugins.shown.length) :
    chip.step.2.Informed ↔ chip.Announces .step := by
  have clocked : chip.advanceClocks.Informed := informed.advanceUpTo drives edgeBudget
  have stepped := (aftermath_stepSlots drives chip.advanceClocks).informed_iff clocked
    (by rw [advanceClocks, watchers_advanceUpTo]; exact watched)
  rw [step_eq, informed_notifyPins_iff drives, informed_countClock_iff drives,
    informed_notifyPins_iff drives, stepped]
  constructor
  · rintro (counted | changed | told | changed | dir)
    · exact .inr (.inr (.inr counted))
    · exact .inr (.inr (.inr (refreshPins_of_changed changed)))
    · exact .inr (.inr (.inl told))
    · exact .inl changed
    · exact .inr (.inl dir)
  · rintro (changed | dir | told | counted)
    · exact .inr (.inr (.inr (.inl changed)))
    · exact .inr (.inr (.inr (.inr dir)))
    · exact .inr (.inr (.inl told))
    · exact .inl counted

/-! ## Operations -/

lemma samePins_writeRegister (chip : Chip τ (Watcher π)) (cog index : Nat) (value : UInt32) :
    SamePins chip (chip.apply (.writeRegister cog index value)) := by
  rcases chip.apply_writeRegister cog index value with same | ⟨other, -, written⟩
  · rw [same]
    exact .refl chip
  · rw [written]
    exact chip.samePins_changeCog cog _

lemma aftermath_load (drives : DrivesOnly τ π) (chip : Chip τ (Watcher π)) (image : ByteArray) :
    Aftermath chip (chip.apply (.load image)) := by
  rcases chip.apply_load image with same | started
  · rw [same]
    exact .inl (.refl chip)
  · rw [started]
    refine .inr (SamePins.cleared ?_ (cleared_reset drives _))
    exact ⟨rfl, rfl, rfl, rfl⟩

/-- Any operation but a step and driving a pin does nothing that a plugin could see, or is a
reset. -/
lemma aftermath_apply (drives : DrivesOnly τ π) (chip : Chip τ (Watcher π))
    {operation : Operation (Watcher π)} (ofRun : operation.isOfRun) (noStep : operation ≠ .step)
    (noPin : ∀ pin floating high, operation ≠ .drivePin pin floating high) :
    Aftermath chip (chip.apply operation) := by
  cases operation with
  | load image => exact aftermath_load drives chip image
  | reset => exact .inr (cleared_reset drives chip)
  | step => exact absurd rfl noStep
  | setClockMode mode =>
    have noted : SamePins chip { chip with hub := chip.hub.setClockMode mode } :=
      ⟨rfl, rfl, rfl, rfl⟩
    rw [apply, setClockMode]
    split
    · exact .inr (noted.cleared (cleared_reset drives _))
    · exact .inl (chip.samePins_applyClockMode mode)
  | drivePin pin floating high => exact absurd rfl (noPin pin floating high)
  | setFrameBreak frameBreak => exact .inl ⟨rfl, rfl, rfl, rfl⟩
  | setBreakpoint cog breakpoint? => exact .inl (chip.samePins_changeCog cog _)
  | writeRegister cog index value => exact .inl (chip.samePins_writeRegister cog index value)
  | writeMemory size address value => exact .inl ⟨rfl, rfl, rfl, rfl⟩
  | _ => cases ofRun

/-- **Every operation** leaves the informed informed exactly if it announces what it takes away. -/
theorem Informed.apply_iff (drives : DrivesOnly τ π) {chip : Chip τ (Watcher π)}
    (informed : chip.Informed) (watched : 0 < chip.plugins.shown.length)
    {operation : Operation (Watcher π)} (ofRun : operation.isOfRun) :
    (chip.apply operation).Informed ↔ chip.Announces operation := by
  have others (noStep : operation ≠ .step)
      (noPin : ∀ pin floating high, operation ≠ .drivePin pin floating high) :
      (chip.apply operation).Informed ↔ chip.hub.external.changed = true
        ∨ (chip.apply operation).hub.dir = chip.hub.dir :=
    (aftermath_apply drives chip ofRun noStep noPin).informed_iff informed watched
  cases operation with
  | step => exact informed.step_iff drives watched
  | drivePin pin floating high =>
    exact ⟨fun _ => .inr rfl, fun _ => informed.drivePin pin floating high⟩
  | _ => exact others (by simp) (by simp)

/-- No operation changes how many plugins are told of the pins. -/
lemma watchers_apply (drives : DrivesOnly τ π) (chip : Chip τ (Watcher π))
    {operation : Operation (Watcher π)} (ofRun : operation.isOfRun) :
    (chip.apply operation).plugins.shown.length = chip.plugins.shown.length := by
  have others (noStep : operation ≠ .step)
      (noPin : ∀ pin floating high, operation ≠ .drivePin pin floating high) :
      (chip.apply operation).plugins.shown.length = chip.plugins.shown.length :=
    (aftermath_apply drives chip ofRun noStep noPin).watchers
  cases operation with
  | step =>
    rw [apply, step_eq, watchers_notifyPins, watchers_countClock, watchers_notifyPins,
      (aftermath_stepSlots drives chip.advanceClocks).watchers, advanceClocks,
      watchers_advanceUpTo]
  | drivePin pin floating high => rfl
  | _ => exact others (by simp) (by simp)

lemma watchers_run (drives : DrivesOnly τ π) (chip : Chip τ (Watcher π))
    {operations : List (Operation (Watcher π))}
    (ofRun : ∀ operation ∈ operations, operation.isOfRun) :
    (chip.run operations).plugins.shown.length = chip.plugins.shown.length := by
  induction operations generalizing chip with
  | nil => rfl
  | cons operation operations ih =>
    rw [List.forall_mem_cons] at ofRun
    exact (ih (chip.apply operation) ofRun.2).trans (watchers_apply drives chip ofRun.1)

/-- **When plugins know the pins.**  From the moment a chip is switched on, every plugin that asked
for it has seen the pins as they are or is going to be told, all the time, if and only if no
operation takes outputs away without another reason to tell the plugins. -/
theorem informed_run_iff (drives : DrivesOnly τ π) (memory : Memory) {plugins : PluginSet π}
    (wanted : ∃ a ∈ plugins.attached, a.wantsPins) {operations : List (Operation (Watcher π))}
    (ofRun : ∀ operation ∈ operations, operation.isOfRun) :
    (∀ n ≤ operations.length,
        ((watchedOn memory plugins : Chip τ (Watcher π)).run (operations.take n)).Informed)
      ↔ ∀ (n : Nat) (h : n < operations.length),
        ((watchedOn memory plugins : Chip τ (Watcher π)).run (operations.take n)).Announces
          operations[n] := by
  let start : Chip τ (Watcher π) := watchedOn memory plugins
  have next (n : Nat) (h : n < operations.length) :
      start.run (operations.take (n + 1)) = (start.run (operations.take n)).apply operations[n] := by
    rw [List.take_succ_eq_append_getElem h, run, List.foldl_append]
    rfl
  have watched (n : Nat) : 0 < (start.run (operations.take n)).plugins.shown.length := by
    have kept : (start.run (operations.take n)).plugins.shown.length
        = plugins.watched.shown.length :=
      watchers_run drives start fun operation ho => ofRun operation (List.mem_of_mem_take ho)
    rw [kept, PluginSet.shown_watched, List.length_map]
    obtain ⟨a, ha, wants⟩ := wanted
    exact List.length_pos_of_mem (List.mem_filter.mpr ⟨ha, wants⟩)
  have iff (n : Nat) (h : n < operations.length)
      (informed : (start.run (operations.take n)).Informed) :
      (start.run (operations.take (n + 1))).Informed
        ↔ (start.run (operations.take n)).Announces operations[n] := by
    rw [next n h]
    exact informed.apply_iff drives (watched n) (ofRun _ (List.getElem_mem h))
  constructor
  · intro always n h
    exact (iff n h (always n (Nat.le_of_lt h))).mp (always (n + 1) h)
  · intro announced n hn
    induction n with
    | zero => exact informed_watchedOn memory plugins
    | succ n ih => exact (iff n hn (ih (Nat.le_of_succ_le hn))).mpr (announced n hn)

/-! ### Two runs -/

/-- Plugins that connect pin 0 to pin 1. -/
def wired : PluginSet Wire where
  nextId := 1
  attached := [{ id := ⟨0⟩, wantsClock := false, wantsPins := true, plugin := ⟨0, 1⟩ }]
  printed := #[]

/-- A reset announces itself if a pin has just been driven. -/
theorem informed_of_drivenPin :
    ((watchedOn blankMemory wired : Chip Rat (Watcher Wire)).run
      [.step, .drivePin 0 false true, .reset]).Informed := by
  have wanted : ∃ a ∈ wired.attached, a.wantsPins := by decide
  have ofRun : ∀ operation ∈ ([.step, .drivePin 0 false true, .reset] :
      List (Operation (Watcher Wire))), operation.isOfRun := by decide
  refine (informed_run_iff drivesOnly_wire blankMemory wanted ofRun).mpr ?_ 3 (by decide)
  intro n h
  match n, h with
  | 0, _ => exact .inr (.inl (by decide +kernel))
  | 1, _ => exact .inr rfl
  | 2, _ => exact .inl (by decide +kernel)

/-- If only the first cog has made pin 0 an output, a reset takes that away without a word. -/
theorem not_informed_of_reset :
    ¬ ((watchedOn blankMemory wired : Chip Rat (Watcher Wire)).run
      [.reset, .writeRegister 0 0x1F6 1, .step, .reset]).Informed := by
  decide +kernel

end P1Chip.Chip
