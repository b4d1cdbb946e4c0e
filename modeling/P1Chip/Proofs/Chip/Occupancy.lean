import P1Chip.Proofs.Chip.Operation
import P1Chip.Proofs.Chip.Parts
import P1Chip.Proofs.Chip.Settles
import P1Chip.Proofs.Cog.Step

/-!
# Who runs

Each request to start or stop a cog is carried out as soon as the cog that made it has finished its
part of a step.  From then on the queue is empty, and slots and bits agree.

* `Chip.Settled` — slots and bits agree, up to some requests that are to be carried out.
* `Chip.settled_perform` — when they are carried out, everything is settled.
* `Chip.Settled.apply` — every operation leaves nothing to settle.
* `Chip.Consistent` — what a user sees of all that.
* **`Chip.consistent_run`** — every chip is consistent after all operations.
-/

namespace P1Chip

variable {τ : Type}

/-! ## The slots of a chip -/

namespace Chip

variable {π : Type}

/-- What stands in the slots. -/
def bodies (chip : Chip τ π) (n : Fin 8) : Option (CogBody τ) :=
  (chip.cogs.get n).map (·.body)

lemma bodies_isSome (chip : Chip τ π) (n : Fin 8) :
    (chip.bodies n).isSome = (chip.cogs.get n).isSome := by
  simp [bodies]

lemma bodies_of_get {chip : Chip τ π} {n : Fin 8} {cog? : Option (Cog τ)}
    (there : chip.cogs.get n = cog?) : chip.bodies n = cog?.map (·.body) := by
  rw [bodies, there]

lemma bodies_putCog (chip : Chip τ π) (id : Fin 8) (cog : Cog τ) :
    (chip.putCog id cog).bodies = Function.update chip.bodies id (some cog.body) := by
  funext n
  rw [bodies, get_putCog, Function.update_apply]
  split <;> rfl

lemma bodies_takeCog (chip : Chip τ π) (id : Fin 8) :
    (chip.takeCog id).2.bodies = Function.update chip.bodies id none := by
  funext n
  rw [bodies, get_takeCog, Function.update_apply]
  split <;> rfl

lemma bodies_mapCogs (chip : Chip τ π) (change : Cog τ → Cog τ) (n : Fin 8) :
    (chip.mapCogs change).bodies n = (chip.cogs.get n).map fun cog => (change cog).body := by
  rw [bodies, get_mapCogs, Option.map_map]
  rfl

/-- Slots and bits agree, up to requests that are to be carried out; the queue is empty. -/
structure Settled (requests : List HubAction) (chip : Chip τ π) : Prop where
  queue : chip.hub.queue = []
  settles : Settles chip.bodies chip.hub.running requests

variable {chip : Chip τ π} {requests : List HubAction}

/-- Cogs that all change on their own do no harm. -/
lemma Settled.mapCogs (h : Settled requests chip) {change : Cog τ → Cog τ}
    (follows : ∀ cog : Cog τ, cog.body.Follows chip.hub.running (change cog).body) :
    Settled requests (chip.mapCogs change) := by
  refine ⟨h.queue, h.settles.follow ?_ ?_⟩
  · intro n
    rw [bodies_mapCogs]
    simp [bodies]
  · intro n body' hb
    rw [bodies_mapCogs] at hb
    obtain ⟨cog, hc, rfl⟩ := Option.map_eq_some_iff.mp hb
    exact ⟨cog.body, bodies_of_get hc, follows cog⟩

/-- Putting back what stands in a slot changes nothing. -/
lemma update_bodies {id : Fin 8} {cog? : Option (Cog τ)} (there : chip.cogs.get id = cog?) :
    Function.update chip.bodies id (cog?.map (·.body)) = chip.bodies := by
  rw [← bodies_of_get there, Function.update_eq_self]

/-- Nothing is taken from an empty slot. -/
lemma Settled.takeCog (h : Settled requests chip) {id : Fin 8} (there : chip.cogs.get id = none) :
    Settled requests (chip.takeCog id).2 := by
  have same : Function.update chip.bodies id none = chip.bodies := update_bodies there
  refine ⟨h.queue, ?_⟩
  rw [bodies_takeCog, same]
  exact h.settles

/-- A cog that changes on its own does no harm. -/
lemma Settled.putCog (h : Settled requests chip) {id : Fin 8} {cog cog' : Cog τ}
    (there : chip.cogs.get id = some cog) (follows : cog.body.Follows chip.hub.running cog'.body) :
    Settled requests ((chip.takeCog id).2.putCog id cog') := by
  have hs := h.settles
  rw [← update_bodies there] at hs
  have hf := hs.follow_update follows
  refine ⟨h.queue, ?_⟩
  rw [bodies_putCog, bodies_takeCog, Function.update_idem]
  exact hf

lemma Settled.edgeB (h : Settled [] chip) (id : Fin 8) (level : Bool) :
    Settled [] (chip.edgeB id level) := by
  rw [Chip.edgeB, takeCog_eq]
  cases there : chip.cogs.get id with
  | none => exact h.takeCog there
  | some cog =>
    exact h.putCog there
      (.of_auralSource ((Video.ignoresSource_carrierEdge level).auralSource cog.body.video) _)

/-- What becomes of the cog in a slot from outside does no harm either. -/
lemma Settled.changeCog (h : Settled [] chip) (id : Nat) {change : Cog τ → Cog τ}
    (follows : ∀ cog, chip.cog? id = some cog →
      cog.body.Follows chip.hub.running (change cog).body) :
    Settled [] (chip.changeCog id change).2 := by
  simp only [Chip.changeCog]
  split
  · next hid =>
    rw [takeCog_eq]
    cases there : chip.cogs.get ⟨id, hid⟩ with
    | none => exact h.takeCog there
    | some cog =>
      refine h.putCog there (follows cog ?_)
      rw [cog?, dif_pos hid]
      exact there
  · exact h

lemma Settled.countClock [Plugin τ π] (h : Settled requests chip) : Settled requests chip.countClock :=
  ⟨h.queue, h.settles⟩

/-- Where no cog runs, there is nothing to settle. -/
lemma settled_of_empty (queue : chip.hub.queue = []) (running : chip.hub.running = 0)
    (cogs : chip.cogs = emptySlots) : Settled [] chip := by
  have none : ∀ n, chip.bodies n = none := by
    intro n
    rw [bodies, cogs]
    show (emptySlots[n.val] : Option (Cog τ)).map _ = _
    simp [emptySlots]
  have zero : ∀ n, BitSet8.contains 0 n = false := by decide
  refine ⟨queue, ?_, ?_, ?_, ?_⟩
  · intro n hn
    rw [none n] at hn
    cases hn
  · intro n hn
    rw [running, zero n] at hn
    cases hn
  · intro n body hb
    cases (none n).symm.trans hb
  · intro n body k hb
    cases (none n).symm.trans hb

lemma Settled.stopCog {cog : Fin 8} (h : Settled (.stop cog :: requests) chip) :
    Settled requests (chip.stopCog cog) := by
  let detached := chip.mapCogs fun other => other.withVideo (·.detachAural cog)
  have hd : Settled (.stop cog :: requests) detached := by
    refine h.mapCogs fun other => ⟨rfl, fun k hk => .inl ?_⟩
    change (other.body.video.detachAural cog).auralSource = some k at hk
    simp only [Video.detachAural] at hk
    split at hk
    · cases hk
    · exact hk
  have unheard : ∀ n body, detached.bodies n = some body →
      body.video.auralSource ≠ some cog := by
    intro n body hb
    rw [bodies_mapCogs] at hb
    obtain ⟨other, -, rfl⟩ := Option.map_eq_some_iff.mp hb
    show (other.body.video.detachAural cog).auralSource ≠ some cog
    simp only [Video.detachAural]
    split
    · exact nofun
    · assumption
  have hs := hd.settles.stopped unheard
  rw [← bodies_takeCog] at hs
  exact ⟨h.queue, hs⟩

/-! ## What a user sees -/

/-- The queue of the hub is empty, its bits say which slots are in use, the cogs have the numbers of
their slots, and none listens to an empty slot. -/
structure Consistent (chip : Chip τ π) : Prop where
  queue : chip.hub.queue = []
  running : ∀ n : Fin 8, BitSet8.contains chip.hub.running n ↔ (chip.cogs.get n).isSome
  id : ∀ (n : Fin 8) (cog : Cog τ), chip.cogs.get n = some cog → cog.body.id = UInt32.ofNat n
  aural : ∀ (n k : Fin 8) (cog : Cog τ), chip.cogs.get n = some cog →
    cog.body.video.auralSource = some k → (chip.cogs.get k).isSome

lemma Settled.consistent (h : Settled [] chip) : chip.Consistent where
  queue := h.queue
  running := by
    intro n
    rw [← bodies_isSome]
    constructor
    · intro hn
      exact (h.settles.running n hn).resolve_right (by rintro ⟨_, hr, _⟩; cases hr)
    · intro hn
      exact (h.settles.occupied n hn).resolve_right nofun
  id := by
    intro n cog there
    exact h.settles.id n cog.body (bodies_of_get there)
  aural := by
    intro n k cog there hk
    rw [← bodies_isSome]
    have listened := h.settles.aural n cog.body k (bodies_of_get there) hk
    exact listened.resolve_right (by rintro ⟨_, hr, _⟩; cases hr)

/-! ## Running a chip -/

variable [Timebase τ]

lemma Settled.startCog {cog : Fin 8} {engine : EngineKind} {program parameter : UInt32}
    (h : Settled (.start cog engine program parameter :: requests) chip) :
    Settled requests (chip.startCog cog engine program parameter) := by
  have starts : (HubAction.start cog engine program parameter).starts cog := rfl
  have hs := h.settles.started starts
    (.new (UInt32.ofNat cog.val) program parameter chip.hub.coreFrequency) rfl rfl
  refine ⟨h.queue, ?_⟩
  show Settles (chip.putCog cog _).bodies _ requests
  rw [bodies_putCog]
  exact hs

/-- What a cog in its slot does with its own parts and the hub leaves requests that settle it. -/
lemma Settled.actions {id : Fin 8} {cog cog' : Cog τ} {hub' : Hub}
    (h : Settled [] ((chip.takeCog id).2.putCog id cog))
    (run : CogBody.Actions (cog.body, chip.hub) (cog'.body, hub')) :
    Settles ((chip.takeCog id).2.putCog id cog').bodies hub'.running hub'.queue := by
  have hs := h.settles
  have hq : chip.hub.queue = [] := h.queue
  rw [bodies_putCog, ← hq] at hs
  rw [bodies_putCog]
  exact Settles.actions run hs

lemma Settled.applyClockMode (h : Settled requests chip) (mode : ClockMode) :
    Settled requests (chip.applyClockMode mode) := by
  have hm : Settled requests
      (chip.mapCogs (·.setCoreFrequency (chip.hub.setClockMode mode).coreFrequency)) :=
    h.mapCogs fun _ => ⟨rfl, fun _ hk => .inl hk⟩
  exact ⟨hm.queue, hm.settles⟩

/-- The first cog starts in an empty chip. -/
lemma Settled.booted (h : Settled [] chip) : Settled [] chip.booted := by
  have hc := h.applyClockMode chip.hub.clockMode.withoutReset
  exact Settled.startCog ⟨hc.queue, Settles.mono hc.settles (List.nil_subset _)⟩

/-! ### Clocks -/

lemma Settled.edgeA (h : Settled [] chip) (id : Fin 8) (level : Bool) :
    Settled [] (chip.edgeA id level) := by
  have hh : Settled [] (chip.mapCogs fun cog =>
      if cog.body.video.auralSource = some id then cog.withVideo (·.auralEdge level) else cog) := by
    refine h.mapCogs fun cog => ?_
    split
    · exact .of_auralSource ((Video.ignoresSource_auralEdge level).auralSource cog.body.video) _
    · exact .refl _ _
  rw [Chip.edgeA]
  generalize (chip.mapCogs fun cog =>
    if cog.body.video.auralSource = some id then cog.withVideo (·.auralEdge level) else cog)
      = heard at hh ⊢
  rw [takeCog_eq]
  cases there : heard.cogs.get id with
  | none => exact hh.takeCog there
  | some cog =>
    let shown := cog.withVideo fun _ => (cog.body.video.colorEdge level).2
    have hs : Settled [] ((heard.takeCog id).2.putCog id shown) :=
      hh.putCog there (.of_auralSource (Video.auralSource_colorEdge _ _) _)
    dsimp only
    split
    · have hf := hs.actions (shown.actions_frameComplete heard.hub)
      rw [hh.queue] at hf
      exact ⟨hh.queue, hf⟩
    · exact hs

lemma Settled.dispatchEdges (h : Settled [] chip) (id : Fin 8) (edges : PllEdges) :
    Settled [] (chip.dispatchEdges id edges) := by
  rcases edges with ⟨_ | a, _ | b⟩
  · exact h
  · exact h.edgeB id b
  · exact h.edgeA id a
  · exact (h.edgeA id a).edgeB id b

lemma Settled.advanceCog (h : Settled [] chip) (elapsed : τ) (id : Fin 8) :
    Settled [] (chip.advanceCog elapsed id) := by
  rw [Chip.advanceCog, takeCog_eq]
  cases there : chip.cogs.get id with
  | none => exact h.takeCog there
  | some cog =>
    have hp : Settled [] ((chip.takeCog id).2.putCog id (cog.advance elapsed).2) :=
      h.putCog there ⟨rfl, fun _ hk => .inl hk⟩
    exact hp.dispatchEdges id _

lemma Settled.later (h : Settled requests chip) (elapsed : τ) :
    Settled requests (chip.later elapsed) :=
  ⟨h.queue, h.settles⟩

lemma Settled.passTime (h : Settled [] chip) (elapsed : τ) : Settled [] (chip.passTime elapsed) := by
  have advanced : Settled [] (chip.advanceAll elapsed slots) :=
    advanceAll_preserves (fun _ id h => h.advanceCog elapsed id) ⟨h.queue, h.settles⟩ slots
  rw [passTime_eq]
  exact advanced.later elapsed

/-! ### Pins, requests and resets -/

variable [Plugin τ π]

lemma Settled.notifyPins (h : Settled requests chip) : Settled requests chip.notifyPins := by
  rw [Chip.notifyPins, refreshPins]
  dsimp only
  split <;> exact ⟨h.queue, h.settles⟩

/-- A reset settles everything: only the first cog runs. -/
lemma settled_reset (chip : Chip τ π) : Settled [] chip.reset := by
  have he : Settled [] chip.emptied := settled_of_empty rfl rfl rfl
  rw [reset_eq]
  exact he.notifyPins.booted

/-- **Carrying out requests** settles what they are about. -/
theorem settled_perform (requests : List HubAction) {chip : Chip τ π}
    (h : Settled requests chip) : Settled [] (perform requests chip) := by
  induction requests generalizing chip with
  | nil => exact h
  | cons request requests ih =>
    cases request with
    | start cog engine program parameter => exact ih h.startCog
    | stop cog => exact ih h.stopCog
    | setClockMode mode =>
      simp only [perform, setClockMode]
      split
      · exact settled_reset _
      · exact ih (Settled.applyClockMode ⟨h.queue, h.settles.clock⟩ mode)

lemma Settled.advanceUpTo (h : Settled [] chip) (budget : Nat) :
    Settled [] (advanceUpTo budget chip) := by
  induction budget generalizing chip with
  | zero => exact h
  | succ budget ih =>
    simp only [Chip.advanceUpTo]
    split
    · exact ih (h.passTime _).notifyPins
    · exact h.passTime _

/-! ### Steps -/

/-- The requests of a cog are carried out as soon as it has made them. -/
lemma Settled.applyActions (queue : Settles chip.bodies chip.hub.running chip.hub.queue) :
    Settled [] chip.applyActions :=
  settled_perform _ ⟨rfl, queue⟩

lemma Settled.stepCog (h : Settled [] chip) (id : Fin 8) : Settled [] (chip.stepCog id).2 := by
  rw [Chip.stepCog, takeCog_eq]
  cases there : chip.cogs.get id with
  | none =>
    have ht := h.takeCog there
    refine Settled.applyActions ?_
    rw [ht.queue]
    exact ht.settles
  | some cog =>
    refine Settled.applyActions ?_
    exact (h.putCog there (.refl _ _)).actions (cog.actions_step chip.hub chip.frameBreak)

lemma Settled.stepCogs (h : Settled [] chip) (slots : List (Fin 8)) :
    Settled [] (stepCogs slots chip).2 := by
  induction slots generalizing chip with
  | nil => exact h
  | cons id slots ih => exact ih (h.stepCog id)

lemma Settled.hubTurn (h : Settled [] chip) (id : Fin 8) : Settled [] (chip.hubTurn id) := by
  rw [Chip.hubTurn, takeCog_eq]
  cases there : chip.cogs.get id with
  | none =>
    have ht := h.takeCog there
    refine Settled.applyActions ?_
    rw [ht.queue]
    exact ht.settles
  | some cog =>
    refine Settled.applyActions ?_
    exact (h.putCog there (.refl _ _)).actions (cog.actions_hubAccess chip.hub)

lemma Settled.stepSlots (h : Settled [] chip) : Settled [] chip.stepSlots := by
  have ringed : Settled [] { chip with hub := chip.hub.advanceRing.2 } := ⟨h.queue, h.settles⟩
  exact stepSlots_preserves (fun _ id h => h.hubTurn id) (ringed.stepCogs slots)

/-- **A system clock** leaves nothing to settle. -/
theorem Settled.step (h : Settled [] chip) : Settled [] chip.step.2 := by
  rw [step_eq]
  exact (h.advanceUpTo edgeBudget).stepSlots.notifyPins.countClock.notifyPins

lemma Settled.stepInstruction (h : Settled [] chip) (id : Nat) :
    Settled [] (chip.stepInstruction id).2 :=
  stepInstruction_preserves (fun _ h => h.step) h id

/-! ## Every operation -/

lemma Settled.writeRegister (h : Settled [] chip) (id index : Nat) (value : UInt32) :
    Settled [] (chip.apply (.writeRegister id index value)) := by
  rcases chip.apply_writeRegister id index value with same | ⟨cog, there, written⟩
  · rw [same]
    exact h
  · rw [written]
    refine h.changeCog id fun other ho => ?_
    cases there.symm.trans ho
    exact ⟨cog.body.writeRegister_id _ _ _, cog.body.writeRegister_auralSource _ _ _⟩

lemma Settled.load (h : Settled [] chip) (image : ByteArray) :
    Settled [] (chip.apply (.load image)) := by
  rcases chip.apply_load image with same | started
  · rw [same]
    exact h
  · rw [started]
    exact settled_reset _

/-- **Every operation** leaves nothing to settle. -/
theorem Settled.apply (h : Settled [] chip) (operation : Operation π) :
    Settled [] (chip.apply operation) := by
  cases operation with
  | load image => exact h.load image
  | reset => exact settled_reset chip
  | step => exact h.step
  | stepInstruction cog => exact h.stepInstruction cog
  | setClockMode mode =>
    show Settled [] (chip.setClockMode mode)
    simp only [setClockMode]
    split
    · exact settled_reset _
    · exact h.applyClockMode mode
  | setBreakpoint cog breakpoint? =>
    exact h.changeCog cog fun _ _ => ⟨rfl, fun _ hk => .inl hk⟩
  | writeRegister cog index value => exact h.writeRegister cog index value
  | _ => exact ⟨h.queue, h.settles⟩

lemma settled_run (memory : Memory) (operations : List (Operation π)) :
    Settled [] ((switchedOn memory : Chip τ π).run operations) := by
  have first : Settled [] (switchedOn memory : Chip τ π) :=
    (settled_of_empty rfl rfl rfl).applyClockMode ⟨0⟩
  exact run_preserves (fun _ operation h => h.apply operation) operations first

/-- **Cogs are accounted for consistently** in every chip, whatever its programs and plugins do and
in whatever order it is used. -/
theorem consistent_run (memory : Memory) (operations : List (Operation π)) :
    Consistent ((switchedOn memory : Chip τ π).run operations) :=
  (settled_run memory operations).consistent

end Chip

end P1Chip
