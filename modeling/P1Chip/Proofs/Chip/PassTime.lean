import Mathlib.Data.Option.Basic
import P1Chip.Proofs.Chip.Parts
import P1Chip.Proofs.Cog.Pace

/-!
# Time that passes

Time that passes is handed to one clock source after the other, and what their edges cause comes in
between.  But an edge of a cog's loops can change the loops of that cog only, and these have gone on
already; so every source goes on from where it stood when the time began to pass.

* `Chip.plls?` — the loops of the cog in a slot.
* **`Chip.plls?_advanceAll_take`** — a cog's loops are as before when it is their turn.
* **`Chip.plls?_passTime`** — what becomes of them.
* `Chip.Earliest` — the time until the next edge of any source.
* **`Chip.earliest_nextEdge`** — this is how far the clocks go on.
-/

namespace P1Chip.Chip

/-! ## Loops in their slots -/

section Slots

variable {τ π : Type}

/-- The loops of the cog in a slot. -/
def plls? (chip : Chip τ π) (n : Fin 8) : Option (PllPair τ) :=
  (chip.cogs.get n).map (·.body.plls)

lemma plls?_of_get {chip : Chip τ π} {n : Fin 8} {cog : Cog τ}
    (there : chip.cogs.get n = some cog) : chip.plls? n = some cog.body.plls := by
  rw [plls?, there, Option.map_some]

lemma plls?_putCog (chip : Chip τ π) (id n : Fin 8) (cog : Cog τ) :
    (chip.putCog id cog).plls? n = if n = id then some cog.body.plls else chip.plls? n := by
  rw [plls?, get_putCog]
  split <;> rfl

/-- A cog that changes in its slot keeps its loops, if it does not change them. -/
lemma plls?_putCog_same {chip : Chip τ π} {id : Fin 8} {cog cog' : Cog τ}
    (there : chip.cogs.get id = some cog) (same : cog'.body.plls = cog.body.plls) :
    (chip.putCog id cog').plls? = chip.plls? := by
  funext n
  rw [plls?_putCog]
  split
  · next h => rw [h, plls?_of_get there, same]
  · rfl

lemma plls?_mapCogs (chip : Chip τ π) {change : Cog τ → Cog τ}
    (same : ∀ cog, (change cog).body.plls = cog.body.plls) :
    (chip.mapCogs change).plls? = chip.plls? := by
  funext n
  rw [plls?, get_mapCogs, Option.map_map]
  exact congrArg (fun loops => (chip.cogs.get n).map loops) (funext same)

lemma plls?_edgeB (chip : Chip τ π) (id : Fin 8) (level : Bool) :
    (chip.edgeB id level).plls? = chip.plls? := by
  rw [edgeB, takeCog_eq]
  cases there : chip.cogs.get id with
  | none =>
    rw [takeCog_of_none there]
  | some cog =>
    dsimp only
    rw [putCog_takeCog]
    exact plls?_putCog_same there rfl

end Slots

/-! ## Edges -/

variable {τ π : Type} [Timebase τ]

/-- Nothing but the loops of one cog has changed, by way of its counters. -/
structure Retunes (chip : Chip τ π) (id : Fin 8) (after : Chip τ π) : Prop where
  others : ∀ n, n ≠ id → after.plls? n = chip.plls? n
  own : Option.Rel (Relation.ReflGen PllPair.Driven) (chip.plls? id) (after.plls? id)

/-- Nothing has changed. -/
lemma retunes_of_eq {chip after : Chip τ π} (same : after.plls? = chip.plls?) (id : Fin 8) :
    chip.Retunes id after where
  others := fun n _ => congrFun same n
  own := by
    rw [same]
    cases chip.plls? id with
    | none => exact .none
    | some pair => exact .some .refl

lemma retunes_putCog {chip : Chip τ π} {id : Fin 8} {cog cog' : Cog τ}
    (there : chip.cogs.get id = some cog) (driven : Relation.ReflGen PllPair.Driven cog.body.plls cog'.body.plls) :
    chip.Retunes id (chip.putCog id cog') where
  others := fun n other => by rw [plls?_putCog, if_neg other]
  own := by
    rw [plls?_putCog, if_pos rfl, plls?_of_get there]
    exact .some driven

/-- The end of a video frame makes a cog go on, and its counters can set its loops then. -/
lemma retunes_edgeA (chip : Chip τ π) (id : Fin 8) (level : Bool) :
    chip.Retunes id (chip.edgeA id level) := by
  have heardSame : (chip.mapCogs fun cog =>
      if cog.body.video.auralSource = some id then cog.withVideo (·.auralEdge level)
      else cog).plls? = chip.plls? := by
    refine chip.plls?_mapCogs fun cog => ?_
    split <;> rfl
  rw [edgeA]
  generalize (chip.mapCogs fun cog =>
    if cog.body.video.auralSource = some id then cog.withVideo (·.auralEdge level) else cog)
      = heard at heardSame ⊢
  suffices heard.Retunes id _ from ⟨heardSame ▸ this.others, heardSame ▸ this.own⟩
  rw [takeCog_eq]
  cases there : heard.cogs.get id with
  | none =>
    rw [takeCog_of_none there]
    exact retunes_of_eq rfl id
  | some cog =>
    dsimp only
    rw [putCog_takeCog]
    refine retunes_putCog there ?_
    split
    · let shown := cog.withVideo fun _ => (cog.body.video.colorEdge level).2
      exact shown.driven_frameComplete heard.hub.running
    · exact .refl

lemma retunes_dispatchEdges (chip : Chip τ π) (id : Fin 8) (edges : PllEdges) :
    chip.Retunes id (chip.dispatchEdges id edges) := by
  rcases edges with ⟨_ | a, _ | b⟩
  · exact retunes_of_eq rfl id
  · exact retunes_of_eq (chip.plls?_edgeB id b) id
  · exact chip.retunes_edgeA id a
  · have edge := chip.retunes_edgeA id a
    have same := (chip.edgeA id a).plls?_edgeB id b
    exact ⟨same ▸ edge.others, same ▸ edge.own⟩

/-- An edge of its second loop does nothing to the loops of a cog. -/
lemma plls?_dispatchEdges (chip : Chip τ π) (id : Fin 8) {edges : PllEdges}
    (quiet : edges.a = none) : (chip.dispatchEdges id edges).plls? = chip.plls? := by
  rcases edges with ⟨a, _ | b⟩ <;> cases quiet
  · rfl
  · exact chip.plls?_edgeB id b

/-! ## All sources -/

/-- Time that passes for the loops of a cog does not concern the others. -/
lemma plls?_advanceCog_other (chip : Chip τ π) (elapsed : τ) {id n : Fin 8} (other : n ≠ id) :
    (chip.advanceCog elapsed id).plls? n = chip.plls? n := by
  rw [advanceCog, takeCog_eq]
  cases there : chip.cogs.get id with
  | none =>
    rw [takeCog_of_none there]
  | some cog =>
    dsimp only
    rw [putCog_takeCog, (retunes_dispatchEdges _ id _).others n other, plls?_putCog, if_neg other]

/-- What becomes of a cog's loops when it is their turn. -/
lemma plls?_advanceCog (chip : Chip τ π) (elapsed : τ) (id : Fin 8) :
    Option.Rel (PllPair.Passes elapsed) (chip.plls? id)
      ((chip.advanceCog elapsed id).plls? id) := by
  rw [advanceCog, takeCog_eq]
  cases there : chip.cogs.get id with
  | none =>
    rw [takeCog_of_none there, plls?, there]
    exact .none
  | some cog =>
    dsimp only
    rw [putCog_takeCog]
    let advanced := chip.putCog id (cog.advance elapsed).2
    have gone : advanced.plls? id = some (cog.body.plls.advance elapsed).2 := by
      rw [plls?_putCog, if_pos rfl]
      rfl
    rw [plls?_of_get there]
    cases edge : (cog.advance elapsed).1.a with
    | none =>
      rw [plls?_dispatchEdges _ id edge, gone]
      exact .some (.inl rfl)
    | some level =>
      have own := (advanced.retunes_dispatchEdges id (cog.advance elapsed).1).own
      rw [gone] at own
      revert own
      generalize (advanced.dispatchEdges id (cog.advance elapsed).1).plls? id = after
      rintro (driven | _)
      cases driven with
      | refl => exact .some (.inl rfl)
      | single driven => exact .some (.inr ⟨Option.isSome_of_eq_some edge, driven⟩)

lemma plls?_foldl_advanceCog (chip : Chip τ π) (elapsed : τ) {n : Fin 8} {ids : List (Fin 8)}
    (others : n ∉ ids) :
    (ids.foldl (fun chip id => chip.advanceCog elapsed id) chip).plls? n = chip.plls? n := by
  induction ids generalizing chip with
  | nil => rfl
  | cons id ids ih =>
    rw [List.mem_cons, not_or] at others
    rw [List.foldl_cons, ih _ others.2, plls?_advanceCog_other _ elapsed others.1]

/-- **The loops of a cog** are as before when it is their turn. -/
theorem plls?_advanceAll_take (chip : Chip τ π) (elapsed : τ) (id : Fin 8) :
    (chip.advanceAll elapsed (slots.take id)).plls? id = chip.plls? id := by
  have others : ∀ id : Fin 8, id ∉ slots.take id := by decide
  exact plls?_foldl_advanceCog _ elapsed (others id)

/-- **What becomes of them** while time passes. -/
theorem plls?_passTime (chip : Chip τ π) (elapsed : τ) (id : Fin 8) :
    Option.Rel (PllPair.Passes elapsed) (chip.plls? id) ((chip.passTime elapsed).plls? id) := by
  have turns : ∀ id : Fin 8, slots = slots.take id ++ id :: slots.drop (id + 1) := by decide
  have others : ∀ id : Fin 8, id ∉ slots.drop (id + 1) := by decide
  let before := chip.advanceAll elapsed (slots.take id)
  have parts : chip.advanceAll elapsed slots
      = (slots.drop (id + 1)).foldl (fun chip id => chip.advanceCog elapsed id)
          (before.advanceCog elapsed id) := by
    conv_lhs => rw [turns id]
    rw [advanceAll, List.foldl_append]
    rfl
  have own := before.plls?_advanceCog elapsed id
  rw [plls?_advanceAll_take] at own
  rw [passTime_eq, parts]
  show Option.Rel _ _ (plls? (List.foldl _ _ _) id)
  rw [plls?_foldl_advanceCog _ elapsed (others id)]
  exact own

lemma exists_passes {chip : Chip τ π} {elapsed : τ} {id : Fin 8} {pair : PllPair τ}
    (is : chip.plls? id = some pair) :
    ∃ after, (chip.passTime elapsed).plls? id = some after ∧ pair.Passes elapsed after := by
  have passes := chip.plls?_passTime elapsed id
  rw [is] at passes
  generalize (chip.passTime elapsed).plls? id = after? at passes ⊢
  cases passes with
  | some passes => exact ⟨_, rfl, passes⟩

/-- No cog appears while time passes. -/
lemma exists_passed {chip : Chip τ π} {elapsed : τ} {id : Fin 8} {after : PllPair τ}
    (is : (chip.passTime elapsed).plls? id = some after) :
    ∃ pair, chip.plls? id = some pair ∧ pair.Passes elapsed after := by
  have passes := chip.plls?_passTime elapsed id
  rw [is] at passes
  generalize chip.plls? id = before? at passes ⊢
  cases passes with
  | some passes => exact ⟨_, rfl, passes⟩

/-! ### What does not change -/

/-- Nothing has changed but the cogs. -/
def OnlyCogs (chip after : Chip τ π) : Prop :=
  ∃ cogs, after = { chip with cogs }

omit [Timebase τ] in
lemma OnlyCogs.trans {first second third : Chip τ π} (h : first.OnlyCogs second)
    (h' : second.OnlyCogs third) : first.OnlyCogs third := by
  obtain ⟨_, rfl⟩ := h
  obtain ⟨_, rfl⟩ := h'
  exact ⟨_, rfl⟩

lemma onlyCogs_edgeA (chip : Chip τ π) (id : Fin 8) (level : Bool) :
    chip.OnlyCogs (chip.edgeA id level) := by
  rw [edgeA, takeCog_eq]
  cases (chip.mapCogs _).cogs.get id with
  | none => exact ⟨_, rfl⟩
  | some cog => exact ⟨_, rfl⟩

omit [Timebase τ] in
lemma onlyCogs_edgeB (chip : Chip τ π) (id : Fin 8) (level : Bool) :
    chip.OnlyCogs (chip.edgeB id level) := by
  rw [edgeB, takeCog_eq]
  cases chip.cogs.get id with
  | none => exact ⟨_, rfl⟩
  | some cog => exact ⟨_, rfl⟩

lemma onlyCogs_dispatchEdges (chip : Chip τ π) (id : Fin 8) (edges : PllEdges) :
    chip.OnlyCogs (chip.dispatchEdges id edges) := by
  rcases edges with ⟨_ | a, _ | b⟩
  · exact ⟨_, rfl⟩
  · exact chip.onlyCogs_edgeB id b
  · exact chip.onlyCogs_edgeA id a
  · exact (chip.onlyCogs_edgeA id a).trans (onlyCogs_edgeB _ id b)

lemma onlyCogs_advanceCog (chip : Chip τ π) (elapsed : τ) (id : Fin 8) :
    chip.OnlyCogs (chip.advanceCog elapsed id) := by
  rw [advanceCog, takeCog_eq]
  cases chip.cogs.get id with
  | none => exact ⟨_, rfl⟩
  | some cog =>
    have put : chip.OnlyCogs ((chip.takeCog id).2.putCog id (cog.advance elapsed).2) := ⟨_, rfl⟩
    exact put.trans (onlyCogs_dispatchEdges _ id _)

/-- Of the chip's own parts, time that passes changes oscillator and time. -/
theorem onlyCogs_passTime (chip : Chip τ π) (elapsed : τ) :
    OnlyCogs
      { chip with
        oscillator := (chip.oscillator.advance elapsed).2
        time := chip.time + elapsed }
      (chip.passTime elapsed) := by
  let next := { chip with oscillator := (chip.oscillator.advance elapsed).2 }
  have advanced : next.OnlyCogs (chip.advanceAll elapsed slots) :=
    advanceAll_preserves (fun chip id only => only.trans (chip.onlyCogs_advanceCog elapsed id))
      ⟨next.cogs, rfl⟩ slots
  rw [passTime_eq]
  obtain ⟨cogs, same⟩ := advanced
  rw [same]
  exact ⟨cogs, rfl⟩

/-! ## The next edge -/

/-- The time until the earlier of two edges, and whether it is that of a loop. -/
def sooner (best : τ × Bool) (cog? : Option (Cog τ)) : τ × Bool :=
  match cog? with
  | some cog => if Timebase.lt cog.timeLeft best.1 then (cog.timeLeft, true) else best
  | none => best

lemma nextEdge_eq (chip : Chip τ π) :
    chip.nextEdge = chip.cogs.toList.foldl sooner (chip.oscillator.timeLeft, false) := by
  rw [Vector.foldl_toList]
  rfl

lemma sooner_cases (best : Rat × Bool) (cog? : Option (Cog Rat)) :
    sooner best cog? = best ∧ (∀ cog, cog? = some cog → best.1 ≤ cog.timeLeft) ∨
      ∃ cog, cog? = some cog ∧ sooner best cog? = (cog.timeLeft, true)
        ∧ cog.timeLeft < best.1 := by
  cases cog? with
  | none => exact .inl ⟨rfl, by rintro _ ⟨⟩⟩
  | some cog =>
    by_cases earlier : cog.timeLeft < best.1
    · exact .inr ⟨cog, rfl, if_pos (decide_eq_true earlier), earlier⟩
    · refine .inl ⟨if_neg (by simpa using earlier), fun _ h => ?_⟩
      cases h
      exact not_lt.mp earlier

/-- What is found among some cogs is an earliest edge. -/
lemma foldl_sooner (cogs : List (Option (Cog Rat))) (best : Rat × Bool) :
    (cogs.foldl sooner best).1 ≤ best.1 ∧
      (∀ cog, some cog ∈ cogs → (cogs.foldl sooner best).1 ≤ cog.timeLeft) ∧
      (cogs.foldl sooner best = best ∨
        (cogs.foldl sooner best).1 < best.1 ∧
          ∃ cog, some cog ∈ cogs ∧ cogs.foldl sooner best = (cog.timeLeft, true)) := by
  induction cogs generalizing best with
  | nil => exact ⟨le_rfl, fun _ h => absurd h List.not_mem_nil, .inl rfl⟩
  | cons cog? cogs ih =>
    obtain ⟨least, all, found⟩ := ih (sooner best cog?)
    have kept : (∃ cog, some cog ∈ cogs
          ∧ cogs.foldl sooner (sooner best cog?) = (cog.timeLeft, true)) →
        ∃ cog, some cog ∈ cog? :: cogs
          ∧ cogs.foldl sooner (sooner best cog?) = (cog.timeLeft, true) :=
      fun ⟨cog, h, same⟩ => ⟨cog, List.mem_cons_of_mem _ h, same⟩
    rw [List.foldl_cons]
    rcases sooner_cases best cog? with ⟨same, later⟩ | ⟨cog, rfl, taken, earlier⟩
    · rw [same] at least all found kept ⊢
      refine ⟨least, fun cog h => ?_, found.imp id fun h => ⟨h.1, kept h.2⟩⟩
      rcases List.mem_cons.mp h with is | h
      · exact least.trans (later cog is.symm)
      · exact all cog h
    · rw [taken] at least all found kept ⊢
      refine ⟨least.trans earlier.le, fun other h => ?_, .inr ⟨least.trans_lt earlier, ?_⟩⟩
      · rcases List.mem_cons.mp h with is | h
        · cases is
          exact least
        · exact all other h
      · rcases found with same | h
        · exact ⟨cog, List.mem_cons_self, same⟩
        · exact kept h.2

/-- A time is that until the next edge of any source; what is told beside it is whether a loop has
an edge before the oscillator does. -/
structure Earliest (chip : Chip Rat π) (elapsed : Rat) (loopFirst : Bool) : Prop where
  oscillator : elapsed ≤ chip.oscillator.timeLeft
  loops : ∀ {n pair}, chip.plls? n = some pair →
    ∀ channel, elapsed ≤ (pair.channel channel).timeLeft
  first : loopFirst → elapsed < chip.oscillator.timeLeft ∧
    ∃ n pair channel, chip.plls? n = some pair ∧ (pair.channel channel).timeLeft = elapsed
  last : loopFirst = false → elapsed = chip.oscillator.timeLeft

/-- **The clocks go on** up to the next edge of any source. -/
theorem earliest_nextEdge (chip : Chip Rat π) :
    chip.Earliest chip.nextEdge.1 chip.nextEdge.2 := by
  have there {cog : Cog Rat} : some cog ∈ chip.cogs.toList ↔ ∃ n, chip.cogs.get n = some cog := by
    rw [Vector.mem_toList_iff, Vector.mem_iff_getElem]
    exact ⟨fun ⟨n, within, is⟩ => ⟨⟨n, within⟩, is⟩, fun ⟨n, is⟩ => ⟨n.val, n.isLt, is⟩⟩
  obtain ⟨least, all, found⟩ := foldl_sooner chip.cogs.toList (chip.oscillator.timeLeft, false)
  rw [← nextEdge_eq] at least all found
  refine ⟨least, ?_, ?_, ?_⟩
  · intro n pair is channel
    obtain ⟨cog, stands, rfl⟩ := Option.map_eq_some_iff.mp is
    exact (all cog (there.mpr ⟨n, stands⟩)).trans (cog.body.plls.timeLeft_le channel)
  · intro first
    rcases found with same | ⟨before, cog, is, same⟩
    · rw [same] at first
      cases first
    · obtain ⟨n, is⟩ := there.mp is
      obtain ⟨channel, due⟩ := cog.body.plls.exists_timeLeft
      refine ⟨before, n, cog.body.plls, channel, plls?_of_get is, ?_⟩
      rw [due, same]
      rfl
  · intro last
    rcases found with same | ⟨-, cog, -, same⟩
    · rw [same]
    · rw [same] at last
      cases last

end P1Chip.Chip
