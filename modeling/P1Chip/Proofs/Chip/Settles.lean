import Mathlib.Logic.Function.Basic
import P1Chip.Proofs.BitSet8
import P1Chip.Proofs.Cog.Action
import P1Chip.Proofs.Video.Source

/-!
# Slots, bits and requests

The chip remembers in two places which cogs run: the hub has a bit for each of them, and the chip
has a slot.  The bit changes when the hub is asked to start or stop a cog, the slot only when the
request leaves the queue, so within a step the two differ.  Besides, a video generator may listen
to another cog, which must not be gone.

The invariant of this file, `Settles`, says what is true at all times: wherever bit and slot
differ, there is a request in the queue that settles the matter.

* `Settles` — slots, bits and the requests that are still to come.
* `Settles.execute` — services of the hub make the requests that settle what they change.
* `Settles.settle` — a slot and its bit that change together settle a request, as they do in
  `Settles.started` and `Settles.stopped`.
* **`Settles.actions`** — whatever a cog does, the requests that it makes settle it.
-/

namespace P1Chip

variable {τ : Type}

/-! ## Slots, bits and requests -/

/-- A request to start a cog. -/
def HubAction.starts (cog : Fin 8) : HubAction → Prop
  | .start other _ _ _ => other = cog
  | _ => False

/-- Slots and bits agree, up to the requests that are still to come.  A slot that is in use without
its bit is going to be emptied; a bit without a slot means that a cog is going to start there.
Each cog has its own number, and listens to one that is there or is going to be. -/
structure Settles (bodies : Fin 8 → Option (CogBody τ)) (running : UInt8)
    (requests : List HubAction) : Prop where
  occupied : ∀ n, (bodies n).isSome → BitSet8.contains running n ∨ .stop n ∈ requests
  running : ∀ n, BitSet8.contains running n →
    (bodies n).isSome ∨ ∃ request ∈ requests, request.starts n
  id : ∀ n body, bodies n = some body → body.id = UInt32.ofNat n
  aural : ∀ n body k, bodies n = some body → body.video.auralSource = some k →
    (bodies k).isSome ∨ ∃ request ∈ requests, request.starts k

/-- A body has become another one without a new number, and listens to no cog that it did not
listen to before, except one that runs. -/
structure CogBody.Follows (running : UInt8) (before after : CogBody τ) : Prop where
  id : after.id = before.id
  aural : ∀ k, after.video.auralSource = some k →
    before.video.auralSource = some k ∨ BitSet8.contains running k

lemma CogBody.Follows.refl (running : UInt8) (body : CogBody τ) : body.Follows running body :=
  ⟨rfl, fun _ hk => .inl hk⟩

namespace Settles

variable {bodies bodies' : Fin 8 → Option (CogBody τ)} {running : UInt8}
  {requests requests' : List HubAction}

/-- Further requests do no harm. -/
lemma mono (h : Settles bodies running requests) (more : requests ⊆ requests') :
    Settles bodies running requests' where
  occupied := fun n hn => (h.occupied n hn).imp_right (more ·)
  running := by
    intro n hn
    refine (h.running n hn).imp_right ?_
    rintro ⟨request, hr, hs⟩
    exact ⟨request, more hr, hs⟩
  id := h.id
  aural := by
    intro n body k hb hk
    refine (h.aural n body k hb hk).imp_right ?_
    rintro ⟨request, hr, hs⟩
    exact ⟨request, more hr, hs⟩

/-- Bodies that change on their own do no harm. -/
lemma follow (h : Settles bodies running requests) (same : ∀ n, (bodies' n).isSome = (bodies n).isSome)
    (follows : ∀ n body', bodies' n = some body' →
      ∃ body, bodies n = some body ∧ body.Follows running body') :
    Settles bodies' running requests where
  occupied := by
    intro n hn
    rw [same n] at hn
    exact h.occupied n hn
  running := by
    intro n hn
    rw [same n]
    exact h.running n hn
  id := by
    intro n body' hb'
    obtain ⟨body, hb, hf⟩ := follows n body' hb'
    exact hf.id.trans (h.id n body hb)
  aural := by
    intro n body' k hb' hk
    obtain ⟨body, hb, hf⟩ := follows n body' hb'
    rw [same k]
    rcases hf.aural k hk with hk | hk
    · exact h.aural n body k hb hk
    · exact h.running k hk

/-- One body that changes on its own does no harm. -/
lemma follow_update {id : Fin 8} {body body' : CogBody τ}
    (h : Settles (Function.update bodies id (some body)) running requests)
    (follows : body.Follows running body') :
    Settles (Function.update bodies id (some body')) running requests := by
  apply h.follow
  · intro n
    by_cases hn : n = id
    · subst hn
      simp
    · simp [hn]
  · intro n other ho
    by_cases hn : n = id
    · subst hn
      rw [Function.update_self] at ho ⊢
      cases ho
      exact ⟨body, rfl, follows⟩
    · rw [Function.update_of_ne hn] at ho ⊢
      exact ⟨other, ho, .refl _ _⟩

/-! ## Requests are made -/

/-- A bit is cleared together with the request to stop that cog. -/
lemma stop (h : Settles bodies running requests) (cog : Fin 8) :
    Settles bodies (BitSet8.put running cog false) (requests ++ [.stop cog]) where
  occupied := by
    intro n hn
    rw [BitSet8.contains_put]
    by_cases hc : n = cog
    · subst hc
      exact .inr (List.mem_append_right _ (List.mem_singleton.mpr rfl))
    · rw [if_neg hc]
      exact (h.occupied n hn).imp_right (List.mem_append_left _)
  running := by
    intro n hn
    rw [BitSet8.contains_put] at hn
    by_cases hc : n = cog
    · rw [if_pos hc] at hn
      cases hn
    · rw [if_neg hc] at hn
      refine (h.running n hn).imp_right ?_
      rintro ⟨request, hr, hs⟩
      exact ⟨request, List.mem_append_left _ hr, hs⟩
  id := h.id
  aural := (h.mono (List.subset_append_left _ _)).aural

/-- A bit is set together with a request to start that cog. -/
lemma start (h : Settles bodies running requests) (cog : Fin 8) (engine : EngineKind)
    (program parameter : UInt32) :
    Settles bodies (BitSet8.put running cog true)
      (requests ++ [.start cog engine program parameter]) where
  occupied := by
    intro n hn
    rw [BitSet8.contains_put]
    by_cases hc : n = cog
    · rw [if_pos hc]
      exact .inl rfl
    · rw [if_neg hc]
      exact (h.occupied n hn).imp_right (List.mem_append_left _)
  running := by
    intro n hn
    rw [BitSet8.contains_put] at hn
    by_cases hc : n = cog
    · subst hc
      exact .inr ⟨_, List.mem_append_right _ (List.mem_singleton.mpr rfl), rfl⟩
    · rw [if_neg hc] at hn
      refine (h.running n hn).imp_right ?_
      rintro ⟨request, hr, hs⟩
      exact ⟨request, List.mem_append_left _ hr, hs⟩
  id := h.id
  aural := (h.mono (List.subset_append_left _ _)).aural

/-- The service that starts a cog asks for a stop before, if the cog runs. -/
lemma startCog {hub : Hub} (h : Settles bodies hub.running hub.queue) (request : StartRequest) :
    Settles bodies (hub.startCog request).2.running (hub.startCog request).2.queue := by
  simp only [Hub.startCog]
  split
  · exact h
  · next cog _ =>
    dsimp only
    split
    · exact (h.mono (List.subset_append_left _ [.stop cog])).start cog _ _ _
    · exact h.start cog _ _ _

/-- **Every service of the hub** leaves requests that settle what it changes. -/
theorem execute {hub : Hub} (h : Settles bodies hub.running hub.queue) (caller : UInt32)
    (operation : HubOperation) (argument : UInt32) :
    Settles bodies (hub.execute caller operation argument).2.running
      (hub.execute caller operation argument).2.queue := by
  cases operation with
  | setClock => exact h.mono (List.subset_append_left _ _)
  | startCog => exact h.startCog _
  | stopCog => exact h.stop _
  | newLock =>
    show Settles bodies hub.newLock.2.running hub.newLock.2.queue
    simp only [Hub.newLock]
    split <;> exact h
  | _ => exact h

/-! ## Requests are carried out -/

/-- The first request is not what the cog waits for, so that a later one is. -/
lemma starts_later {request : HubAction} {cog : Fin 8} (other : ¬ request.starts cog)
    (h : ∃ r ∈ request :: requests, r.starts cog) : ∃ r ∈ requests, r.starts cog := by
  obtain ⟨r, hr, hs⟩ := h
  rcases List.mem_cons.mp hr with rfl | hr
  · exact absurd hs other
  · exact ⟨r, hr, hs⟩

/-- A slot that changes together with its bit settles the request, if the request is about no other
cog.  A body that comes has its own number and an idle video generator; a slot that is emptied must
not be listened to. -/
lemma settle {cog : Fin 8} {request : HubAction} (slot : Option (CogBody τ))
    (h : Settles bodies running (request :: requests))
    (stops : ∀ n, n ≠ cog → HubAction.stop n ≠ request)
    (starts : ∀ n, n ≠ cog → ¬ request.starts n)
    (number : ∀ body, slot = some body → body.id = UInt32.ofNat cog)
    (idle : ∀ body, slot = some body → body.video.auralSource = none)
    (unheard : slot = none →
      ∀ n body, bodies n = some body → body.video.auralSource ≠ some cog) :
    Settles (Function.update bodies cog slot) (BitSet8.put running cog slot.isSome) requests where
  occupied := by
    intro n hn
    rw [BitSet8.contains_put]
    by_cases hc : n = cog
    · subst hc
      rw [Function.update_self] at hn
      rw [if_pos rfl]
      exact .inl hn
    · rw [Function.update_of_ne hc] at hn
      rw [if_neg hc]
      exact (h.occupied n hn).imp_right fun hr => (List.mem_cons.mp hr).resolve_left (stops n hc)
  running := by
    intro n hn
    rw [BitSet8.contains_put] at hn
    by_cases hc : n = cog
    · subst hc
      rw [if_pos rfl] at hn
      rw [Function.update_self]
      exact .inl hn
    · rw [if_neg hc] at hn
      rw [Function.update_of_ne hc]
      exact (h.running n hn).imp_right (starts_later (starts n hc))
  id := by
    intro n body hb
    by_cases hc : n = cog
    · subst hc
      rw [Function.update_self] at hb
      exact number body hb
    · rw [Function.update_of_ne hc] at hb
      exact h.id n body hb
  aural := by
    intro n body k hb hk
    by_cases hn : n = cog
    · subst hn
      rw [Function.update_self] at hb
      cases (idle body hb).symm.trans hk
    · rw [Function.update_of_ne hn] at hb
      by_cases hc : k = cog
      · subst hc
        rw [Function.update_self]
        cases slot with
        | some _ => exact .inl rfl
        | none => exact absurd hk (unheard rfl n body hb)
      · rw [Function.update_of_ne hc]
        exact (h.aural n body k hb hk).imp_right (starts_later (starts k hc))

/-- A cog that starts, with its own number and an idle video generator, settles the request. -/
lemma started {cog : Fin 8} {request : HubAction}
    (h : Settles bodies running (request :: requests)) (hs : request.starts cog)
    (body : CogBody τ)
    (hid : body.id = UInt32.ofNat cog) (idle : body.video.auralSource = none) :
    Settles (Function.update bodies cog (some body)) (BitSet8.put running cog true) requests := by
  cases request with
  | start other =>
    cases hs
    refine h.settle (some body) ?_ ?_ ?_ ?_ ?_
    · rintro n - ⟨⟩
    · exact fun n hn heq => hn heq.symm
    · rintro _ ⟨⟩
      exact hid
    · rintro _ ⟨⟩
      exact idle
    · rintro ⟨⟩
  | _ => cases hs

/-- A slot that is emptied, while nobody listens to it, settles the request. -/
lemma stopped {cog : Fin 8} (h : Settles bodies running (.stop cog :: requests))
    (unheard : ∀ n body, bodies n = some body → body.video.auralSource ≠ some cog) :
    Settles (Function.update bodies cog none) (BitSet8.put running cog false) requests := by
  refine h.settle none ?_ ?_ ?_ ?_ fun _ => unheard
  · rintro n hn ⟨⟩
    exact hn rfl
  · rintro n - ⟨⟩
  · rintro _ ⟨⟩
  · rintro _ ⟨⟩

/-- A request that has nothing to do with cogs settles nothing. -/
lemma clock {mode : ClockMode} (h : Settles bodies running (.setClockMode mode :: requests)) :
    Settles bodies running requests := by
  have silent (n : Fin 8) : ¬ (HubAction.setClockMode mode).starts n := not_false
  refine ⟨?_, ?_, h.id, ?_⟩
  · intro n hn
    refine (h.occupied n hn).imp_right fun hr => (List.mem_cons.mp hr).resolve_left ?_
    rintro ⟨⟩
  · intro n hn
    exact (h.running n hn).imp_right (starts_later (silent n))
  · intro n body k hb hk
    exact (h.aural n body k hb hk).imp_right (starts_later (silent k))

end Settles

/-! ## What cogs do -/

lemma CogBody.Follows.of_auralSource {body : CogBody τ} {video : Video}
    (same : video.auralSource = body.video.auralSource) (running : UInt8) :
    body.Follows running { body with video } :=
  ⟨rfl, fun _ hk => .inl (same.symm.trans hk)⟩

variable [Timebase τ]

namespace CogBody

variable (body : CogBody τ) (running : UInt8)

/-- Registers have no say in the number of a cog. -/
lemma writeRegister_id (address value : UInt32) :
    (body.writeRegister running address value).id = body.id := by
  simp only [writeRegister]
  split <;> rfl

/-- The register that chooses an aural subcarrier accepts only a cog that runs. -/
lemma writeRegister_auralSource (address value : UInt32) (k : Fin 8)
    (hk : (body.writeRegister running address value).video.auralSource = some k) :
    body.video.auralSource = some k ∨ BitSet8.contains running k := by
  simp only [writeRegister] at hk
  split at hk
  case h_10 =>
    change (if BitSet8.contains running _ then some _ else none) = some k at hk
    split at hk
    · next hr =>
      cases hk
      exact .inr hr
    · cases hk
  case h_11 =>
    change (body.video.setScale value).auralSource = some k at hk
    simp only [Video.setScale] at hk
    split at hk <;> exact .inl hk
  all_goals exact .inl hk

end CogBody

/-- **Whatever a cog does** settles what it changes. -/
theorem Settles.actions {bodies : Fin 8 → Option (CogBody τ)} {id : Fin 8}
    {before after : CogBody τ × Hub} (run : CogBody.Actions before after)
    (h : Settles (Function.update bodies id (some before.1)) before.2.running before.2.queue) :
    Settles (Function.update bodies id (some after.1)) after.2.running after.2.queue := by
  refine CogBody.Actions.preserves (P := fun state => Settles
    (Function.update bodies id (some state.1)) state.2.running state.2.queue) ?_ run h
  rintro _ _ action h
  cases action with
  | register body hub address value =>
    exact h.follow_update ⟨body.writeRegister_id _ _ _,
      body.writeRegister_auralSource hub.running address value⟩
  | service body hub operation argument => exact h.execute body.id operation argument
  | write => exact h
  | _ => exact h.follow_update ⟨rfl, fun _ hk => .inl hk⟩

end P1Chip
