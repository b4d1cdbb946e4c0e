import Mathlib.Data.List.Induction
import Mathlib.Data.List.Nodup
import Mathlib.Data.List.Range
import P1Chip.Proofs.Pins.Watcher

/-!
# The lives of plugins

A plugin is attached, may ask for clocks and for pins, hears of what it has asked for and of all
resets, and is told at last that it is removed.  Whatever else is done to the set in the meantime,
nobody is skipped and nobody is told twice.

Plugins are told apart by recorders, which print a line for each call.  What is done to a set is
kept as a history, and everything else follows from that.

* `Recorder` — a plugin that prints a line for each call.
* `PluginOperation`, `PluginSet.perform` — what is done to a set of plugins.
* `PluginHistory.standing`, `PluginHistory.wants` — who is attached after all that, and has asked
  for what.
* `PluginHistory.called`, `PluginHistory.heard` — who is called, and how.
* **`PluginSet.Lives.perform`** — a set keeps to its history.
* **`PluginSet.one_life`** — what a set does with any history, and what each plugin hears in all.
-/

namespace P1Chip

variable {τ π : Type}

/-! ## Recorders -/

/-- A call of a plugin. -/
inductive PluginCall (τ : Type) where
  | clock (time : τ) (counter : UInt32)
  | pins (time : τ) (pins : PinStates)
  | reset
  | close

/-- A plugin, and the line for each of its calls. -/
structure Recorder (τ π : Type) where
  plugin : π
  note : PluginCall τ → String

/-- A recorder does what its plugin does, and prints the line for the call. -/
instance [Plugin τ π] : Plugin τ (Recorder τ π) where
  onClock := fun recorder time counter external =>
    let reaction := Plugin.onClock recorder.plugin time counter external
    { plugin := { recorder with plugin := reaction.plugin }
      external := reaction.external
      lines := [recorder.note (.clock time counter)] }
  onPins := fun recorder time pins external =>
    let reaction := Plugin.onPins recorder.plugin time pins external
    { plugin := { recorder with plugin := reaction.plugin }
      external := reaction.external
      lines := [recorder.note (.pins time pins)] }
  onReset := fun recorder =>
    ({ recorder with plugin := (Plugin.onReset τ recorder.plugin).1 }, [recorder.note .reset])
  onClose := fun recorder => [recorder.note .close]

/-! ## Histories -/

/-- The two kinds of calls that plugins have to ask for. -/
inductive PluginWish where
  | clock
  | pins
deriving DecidableEq, Repr

/-- Something that is done to a set of plugins. -/
inductive PluginOperation (τ π : Type) where
  | attach (plugin : π)
  | subscribe (wish : PluginWish) (id : PluginId)
  | remove (id : PluginId)
  | deliverClock (time : τ) (counter : UInt32) (external : ExternalDrive)
  | deliverPins (time : τ) (pins : PinStates) (external : ExternalDrive)
  | deliverReset
  | closeAll

namespace PluginOperation

def isAttach : PluginOperation τ π → Bool
  | attach _ => true
  | _ => false

/-- Whether it lets the given plugin ask for something. -/
def asks (wish : PluginWish) (id : PluginId) : PluginOperation τ π → Bool
  | subscribe wish' id' => wish == wish' && id == id'
  | _ => false

/-- Whether it detaches the given plugin, if that is attached. -/
def ends (id : PluginId) : PluginOperation τ π → Bool
  | remove id' => id == id'
  | closeAll => true
  | _ => false

end PluginOperation

/-- All that was done to a set of plugins, in order. -/
abbrev PluginHistory (τ π : Type) :=
  List (PluginOperation τ π)

namespace PluginHistory

/-- Number of plugins that were attached. -/
def attaches (history : PluginHistory τ π) : Nat :=
  history.countP (·.isAttach)

/-- What was done since the plugin with the given number was attached. -/
def since : Nat → PluginHistory τ π → PluginHistory τ π
  | _, [] => []
  | number, operation :: history =>
    if operation.isAttach then
      match number with
      | 0 => history
      | number + 1 => since number history
    else since number history

/-- The plugin was attached, and not detached since. -/
def isAttached (history : PluginHistory τ π) (id : PluginId) : Bool :=
  decide (id.index < history.attaches) && !(since id.index history).any (·.ends id)

/-- The plugin has asked for such calls since it was attached. -/
def wants (history : PluginHistory τ π) (wish : PluginWish) (id : PluginId) : Bool :=
  (since id.index history).any (·.asks wish id)

/-- The attached plugins in the order in which they were attached. -/
def standing (history : PluginHistory τ π) : List PluginId :=
  ((List.range history.attaches).map PluginId.mk).filter history.isAttached

/-- The plugins that an operation calls after all that was done before, one after the other. -/
def called (before : PluginHistory τ π) :
    PluginOperation τ π → List (PluginId × PluginCall τ)
  | .attach _ | .subscribe _ _ => []
  | .remove id => (before.standing.filter (· == id)).map (·, .close)
  | .deliverClock time counter _ =>
    (before.standing.filter (before.wants .clock)).map (·, .clock time counter)
  | .deliverPins time pins _ =>
    (before.standing.filter (before.wants .pins)).map (·, .pins time pins)
  | .deliverReset => before.standing.map (·, .reset)
  | .closeAll => before.standing.map (·, .close)

/-- All calls that some operations make after others. -/
def heardAfter (before : PluginHistory τ π) :
    PluginHistory τ π → List (PluginId × PluginCall τ)
  | [] => []
  | operation :: history =>
    before.called operation ++ heardAfter (before ++ [operation]) history

/-- All calls that were made. -/
def heard (history : PluginHistory τ π) : List (PluginId × PluginCall τ) :=
  heardAfter [] history

/-- The calls of a single plugin. -/
def callsOf (history : PluginHistory τ π) (id : PluginId) : List (PluginCall τ) :=
  (history.heard.filter (·.1 == id)).map (·.2)

/-- The call of a single plugin that an operation makes after all that was done before. -/
def tells (before : PluginHistory τ π) (id : PluginId) :
    PluginOperation τ π → Option (PluginCall τ)
  | .attach _ | .subscribe _ _ => none
  | .remove id' => if before.isAttached id && id == id' then some .close else none
  | .deliverClock time counter _ =>
    if before.isAttached id && before.wants .clock id then some (.clock time counter) else none
  | .deliverPins time pins _ =>
    if before.isAttached id && before.wants .pins id then some (.pins time pins) else none
  | .deliverReset => if before.isAttached id then some .reset else none
  | .closeAll => if before.isAttached id then some .close else none

end PluginHistory

namespace PluginSet

variable [Plugin τ π]

/-- Does something to a set of recorders.  The plugins that are attached get their notes by their
numbers. -/
def perform (note : PluginId → PluginCall τ → String) (set : PluginSet (Recorder τ π)) :
    PluginOperation τ π → PluginSet (Recorder τ π)
  | .attach plugin => (set.attach ⟨plugin, note ⟨set.nextId⟩⟩).2
  | .subscribe .clock id => (set.subscribeClock id).2
  | .subscribe .pins id => (set.subscribePins id).2
  | .remove id => (set.remove τ id).2
  | .deliverClock time counter external => (set.deliverClock time counter external).1
  | .deliverPins time pins external => (set.deliverPins time pins external).1
  | .deliverReset => set.deliverReset τ
  | .closeAll => set.closeAll τ

/-- The set after all that was done to it. -/
def after (note : PluginId → PluginCall τ → String) (history : PluginHistory τ π) :
    PluginSet (Recorder τ π) :=
  history.foldl (perform note) empty

end PluginSet

/-! ## One operation more -/

namespace PluginHistory

variable (history : PluginHistory τ π) (operation : PluginOperation τ π) {id : PluginId}

lemma attaches_append :
    attaches (history ++ [operation]) = history.attaches + if operation.isAttach then 1 else 0 := by
  rw [attaches, List.countP_append, List.countP_singleton]
  rfl

/-- Plugins that were not attached yet have no history. -/
lemma since_append (number : Nat) :
    since number (history ++ [operation])
      = if number < history.attaches then since number history ++ [operation] else [] := by
  induction history generalizing number with
  | nil =>
    simp only [List.nil_append, since]
    split
    · cases number <;> rfl
    · rfl
  | cons first history ih =>
    simp only [List.cons_append, since, attaches, List.countP_cons]
    cases first.isAttach with
    | false => exact ih number
    | true =>
      cases number with
      | zero => simp
      | succ number =>
        simp only [if_true, ih, attaches, Nat.succ_lt_succ_iff]
        rfl

lemma isAttached_append (id : PluginId) :
    isAttached (history ++ [operation]) id
      = if id.index < history.attaches then history.isAttached id && !operation.ends id
        else operation.isAttach && id.index = history.attaches := by
  by_cases old : id.index < history.attaches
  · have still : id.index < attaches (history ++ [operation]) := by
      rw [attaches_append]
      exact Nat.lt_of_lt_of_le old (Nat.le_add_right ..)
    rw [if_pos old, isAttached, isAttached, since_append, if_pos old, decide_eq_true still,
      decide_eq_true old]
    simp
  · rw [if_neg old, isAttached, since_append, if_neg old, attaches_append]
    cases operation.isAttach with
    | false => simp [old]
    | true =>
      rw [List.any_nil, Bool.not_false, Bool.and_true, Bool.true_and, if_pos rfl, decide_eq_decide]
      omega

variable {history} in
/-- Only plugins that were attached are attached. -/
lemma lt_of_isAttached (attached : history.isAttached id = true) :
    id.index < history.attaches := by
  rw [isAttached, Bool.and_eq_true, decide_eq_true_iff] at attached
  exact attached.1

lemma mem_standing : id ∈ history.standing ↔ history.isAttached id = true := by
  rw [standing, List.mem_filter, and_iff_right_of_imp]
  intro attached
  exact List.mem_map.mpr ⟨id.index, List.mem_range.mpr (lt_of_isAttached attached), rfl⟩

lemma nodup_standing : history.standing.Nodup := by
  have injective : Function.Injective PluginId.mk := fun _ _ same => PluginId.mk.inj same
  exact (List.nodup_range.map injective).filter _

/-- **Who is attached** after one operation more: whom it does not detach, in the order as before,
and at last a new plugin. -/
theorem standing_append :
    standing (history ++ [operation])
      = history.standing.filter (!operation.ends ·)
        ++ if operation.isAttach then [⟨history.attaches⟩] else [] := by
  have old : ∀ id ∈ (List.range history.attaches).map PluginId.mk,
      isAttached (history ++ [operation]) id = (!operation.ends id && history.isAttached id) := by
    intro id issued
    obtain ⟨index, within, rfl⟩ := List.mem_map.mp issued
    rw [isAttached_append, if_pos (List.mem_range.mp within), Bool.and_comm]
  have kept : ((List.range history.attaches).map PluginId.mk).filter
      (isAttached (history ++ [operation])) = history.standing.filter (!operation.ends ·) := by
    rw [List.filter_congr old, standing, List.filter_filter]
  have new : isAttached (history ++ [operation]) ⟨history.attaches⟩ = operation.isAttach := by
    rw [isAttached_append, if_neg (Nat.lt_irrefl _), decide_eq_true rfl, Bool.and_true]
  rw [standing, attaches_append]
  cases isAttach : operation.isAttach with
  | false => exact kept.trans (List.append_nil _).symm
  | true =>
    rw [isAttach] at new
    rw [if_pos rfl, if_pos rfl, List.range_succ, List.map_append, List.filter_append, kept]
    simp [new]

/-- Only removals detach anyone. -/
lemma standing_append_of_stay (stay : ∀ id, operation.ends id = false) :
    standing (history ++ [operation])
      = history.standing ++ if operation.isAttach then [⟨history.attaches⟩] else [] := by
  have all : history.standing.filter (!operation.ends ·) = history.standing :=
    List.filter_eq_self.mpr fun id _ => by rw [stay]; rfl
  rw [standing_append, all]

/-- What an attached plugin has asked for. -/
lemma wants_append (wish : PluginWish) (old : id.index < history.attaches) :
    wants (history ++ [operation]) wish id = (history.wants wish id || operation.asks wish id) := by
  rw [wants, since_append, if_pos old, List.any_append]
  simp [wants]

/-- A new plugin has asked for nothing. -/
lemma wants_append_new (wish : PluginWish) :
    wants (history ++ [operation]) wish ⟨history.attaches⟩ = false := by
  rw [wants, since_append, if_neg (Nat.lt_irrefl _)]
  rfl

lemma heardAfter_append (before : PluginHistory τ π) :
    heardAfter before (history ++ [operation])
      = heardAfter before history ++ called (before ++ history) operation := by
  induction history generalizing before with
  | nil => simp [heardAfter]
  | cons first history ih => simp [heardAfter, ih, List.append_assoc]

lemma heard_append :
    heard (history ++ [operation]) = history.heard ++ history.called operation :=
  heardAfter_append history operation []

end PluginHistory

/-! ## What can be told of a set of recorders -/

/-- What can be told of an attached recorder: its number, what it asked for and its notes. -/
def Attached.face (attached : Attached (Recorder τ π)) : Attached (PluginCall τ → String) where
  id := attached.id
  wantsClock := attached.wantsClock
  wantsPins := attached.wantsPins
  plugin := attached.plugin.note

/-- The attached plugin after it has asked for something. -/
def Attached.grant (wish : PluginWish) (attached : Attached π) : Attached π :=
  match wish with
  | .clock => { attached with wantsClock := true }
  | .pins => { attached with wantsPins := true }

namespace PluginHistory

variable (note : PluginId → PluginCall τ → String) (history : PluginHistory τ π)
  {operation : PluginOperation τ π} {id : PluginId}

/-- What can be told of an attached plugin by its history. -/
def face (id : PluginId) : Attached (PluginCall τ → String) where
  id := id
  wantsClock := history.wants .clock id
  wantsPins := history.wants .pins id
  plugin := note id

/-- What can be told of all attached plugins. -/
def faces : List (Attached (PluginCall τ → String)) :=
  history.standing.map (history.face note)

variable {history}

/-- Only plugins that ask for something look different afterwards. -/
lemma face_append (standing : id ∈ history.standing)
    (quiet : ∀ wish, operation.asks wish id = false) :
    face note (history ++ [operation]) id = history.face note id := by
  have old := lt_of_isAttached (history.mem_standing.mp standing)
  rw [face, face, wants_append _ _ _ old, wants_append _ _ _ old, quiet, quiet, Bool.or_false,
    Bool.or_false]

/-- Plugins that stay look as before, if none is attached and none asks for anything. -/
lemma faces_append (isAttach : operation.isAttach = false)
    (quiet : ∀ wish id, operation.asks wish id = false) :
    faces note (history ++ [operation])
      = (history.standing.filter (!operation.ends ·)).map (history.face note) := by
  rw [faces, standing_append, isAttach, if_neg Bool.false_ne_true, List.append_nil]
  exact List.map_congr_left fun id stays =>
    face_append note (List.mem_of_mem_filter stays) (quiet · id)

/-- Most operations are of this kind, and nobody goes either. -/
lemma faces_append_of_stay (isAttach : operation.isAttach = false)
    (quiet : ∀ wish id, operation.asks wish id = false)
    (stay : ∀ id, operation.ends id = false) :
    faces note (history ++ [operation]) = history.faces note := by
  rw [faces, standing_append_of_stay _ _ stay, isAttach, if_neg Bool.false_ne_true, List.append_nil]
  exact List.map_congr_left fun id standing => face_append note standing (quiet · id)

lemma faces_append_attach (plugin : π) :
    faces note (history ++ [.attach plugin])
      = history.faces note ++ [⟨⟨history.attaches⟩, false, false, note ⟨history.attaches⟩⟩] := by
  have old : history.standing.map (face note (history ++ [.attach plugin]))
      = history.faces note :=
    List.map_congr_left fun id standing => face_append note standing fun _ => rfl
  rw [faces, standing_append_of_stay _ _ fun _ => rfl, List.map_append, old]
  show _ ++ [face note (history ++ [.attach plugin]) ⟨history.attaches⟩] = _
  rw [face, wants_append_new, wants_append_new]

lemma faces_append_subscribe (wish : PluginWish) (id : PluginId) :
    faces note (history ++ [.subscribe wish id])
      = (history.faces note).map fun face => if face.id = id then face.grant wish else face := by
  rw [faces, standing_append_of_stay _ _ fun _ => rfl]
  show (history.standing ++ []).map _ = _
  rw [List.append_nil, faces, List.map_map]
  refine List.map_congr_left fun id' standing => ?_
  have old := lt_of_isAttached (history.mem_standing.mp standing)
  rw [face, wants_append _ _ _ old, wants_append _ _ _ old]
  show _ = if id' = id then _ else _
  by_cases same : id' = id
  · rw [if_pos same]
    cases wish <;> simp [PluginOperation.asks, same, face, Attached.grant]
  · rw [if_neg same]
    simp [PluginOperation.asks, same, face]

end PluginHistory

namespace PluginSet

/-- Calls of recorders leave what can be told of them, and print the notes of those who want the
call. -/
lemma deliver_recorders (wants : Attached (Recorder τ π) → Bool)
    (call : Recorder τ π → ExternalDrive → Reaction (Recorder τ π)) (told : PluginCall τ)
    (keeps : ∀ recorder external, (call recorder external).plugin.note = recorder.note)
    (tells : ∀ recorder external, (call recorder external).lines = [recorder.note told])
    (attached : List (Attached (Recorder τ π))) (external : ExternalDrive) :
    (deliver wants call attached external).1.map Attached.face = attached.map Attached.face
      ∧ (deliver wants call attached external).2.2
        = (attached.filter wants).map fun a => a.plugin.note told := by
  induction attached generalizing external with
  | nil => exact ⟨rfl, rfl⟩
  | cons a attached ih =>
    simp only [deliver]
    split
    · next asked =>
      obtain ⟨faces, lines⟩ := ih (call a.plugin external).external
      rw [List.filter_cons_of_pos asked]
      dsimp only
      rw [List.map_cons, List.map_cons, List.map_cons, faces, lines, tells]
      refine ⟨?_, rfl⟩
      rw [Attached.face, keeps]
      rfl
    · next unasked =>
      obtain ⟨faces, lines⟩ := ih external
      rw [List.filter_cons_of_neg unasked]
      dsimp only
      rw [List.map_cons, List.map_cons, faces, lines]
      exact ⟨rfl, rfl⟩

/-- A number among different ones is there once, or not at all. -/
lemma find_toList_of_nodup {ids : List PluginId} (nodup : ids.Nodup) (id : PluginId) :
    (ids.find? (· == id)).toList = ids.filter (· == id) := by
  rw [List.filter_beq, nodup.count]
  cases found : ids.find? (· == id) with
  | none =>
    have absent : id ∉ ids := fun member =>
      List.find?_eq_none.mp found id member (beq_self_eq_true id)
    rw [if_neg absent]
    rfl
  | some first =>
    have is := List.find?_some found
    obtain rfl : first = id := beq_iff_eq.mp is
    rw [if_pos (List.mem_of_find?_eq_some found)]
    rfl

lemma faces_subscribe (set : PluginSet (Recorder τ π)) (wish : PluginWish) (id : PluginId) :
    (set.subscribe id (Attached.grant wish)).2.attached.map Attached.face
      = (set.attached.map Attached.face).map
          fun face => if face.id = id then face.grant wish else face := by
  rw [subscribe, List.map_map, List.map_map]
  refine List.map_congr_left fun a _ => ?_
  show Attached.face (if a.id = id then _ else _) = if a.id = id then _ else _
  split
  · cases wish <;> rfl
  · rfl

/-- The set is as its history says, as far as can be told. -/
structure Lives (note : PluginId → PluginCall τ → String) (history : PluginHistory τ π)
    (set : PluginSet (Recorder τ π)) : Prop where
  nextId : set.nextId = history.attaches
  faces : set.attached.map Attached.face = history.faces note
  printed : set.printed.toList = history.heard.map fun heard => note heard.1 heard.2

namespace Lives

variable {note : PluginId → PluginCall τ → String} {history : PluginHistory τ π}
  {set : PluginSet (Recorder τ π)}

lemma nil : Lives note ([] : PluginHistory τ π) empty :=
  ⟨rfl, rfl, rfl⟩

/-- The notes of some recorders are the notes of the plugins that look alike. -/
lemma notes_eq (h : Lives note history set) (told : PluginCall τ)
    (chosen : Attached (PluginCall τ → String) → Bool) :
    (set.attached.filter fun a => chosen a.face).map (fun a => a.plugin.note told)
      = ((history.standing.filter fun id => chosen (history.face note id)).map (·, told)).map
          fun heard => note heard.1 heard.2 := by
  calc (set.attached.filter fun a => chosen a.face).map (fun a => a.plugin.note told)
      = ((set.attached.map Attached.face).filter chosen).map (·.plugin told) := by
        rw [List.filter_map, List.map_map]
        rfl
    _ = ((history.standing.map (history.face note)).filter chosen).map (·.plugin told) := by
        rw [h.faces]
        rfl
    _ = _ := by
        rw [List.filter_map, List.map_map, List.map_map]
        rfl

/-- All of them. -/
lemma notes_all (h : Lives note history set) (told : PluginCall τ) :
    set.attached.map (fun a => a.plugin.note told)
      = (history.standing.map (·, told)).map fun heard => note heard.1 heard.2 := by
  have all := h.notes_eq told fun _ => true
  rwa [List.filter_true, List.filter_true] at all

/-- All recorders have the numbers of the attached plugins. -/
lemma ids_eq (h : Lives note history set) : set.ids = history.standing := by
  calc set.ids = (set.attached.map Attached.face).map (·.id) := by
        rw [List.map_map]
        rfl
    _ = (history.standing.map (history.face note)).map (·.id) := by
        rw [h.faces]
        rfl
    _ = history.standing := by
        rw [List.map_map]
        exact List.map_id _

lemma contains_eq (h : Lives note history set) (id : PluginId) :
    set.contains id = history.isAttached id := by
  have any : set.contains id = set.ids.any (· == id) := by
    rw [ids, List.any_map]
    rfl
  rw [any, h.ids_eq, Bool.eq_iff_iff, List.any_beq', List.elem_iff, PluginHistory.mem_standing]

/-- The first recorder with a number looks like the plugin with that number. -/
lemma find_eq (h : Lives note history set) (id : PluginId) :
    (set.attached.find? (·.id == id)).map Attached.face
      = (history.standing.find? (· == id)).map (history.face note) := by
  calc (set.attached.find? (·.id == id)).map Attached.face
      = (set.attached.map Attached.face).find? (·.id == id) := by
        rw [List.find?_map]
        rfl
    _ = (history.standing.map (history.face note)).find? (·.id == id) := by
        rw [h.faces]
        rfl
    _ = _ := by
        rw [List.find?_map]
        rfl

/-- The set without it: numbers are different, so the first one is the only one. -/
lemma erase_eq (h : Lives note history set) (id : PluginId) :
    (set.attached.eraseP (·.id == id)).map Attached.face
      = (history.standing.filter (· != id)).map (history.face note) := by
  calc (set.attached.eraseP (·.id == id)).map Attached.face
      = (set.attached.map Attached.face).eraseP (·.id == id) := by
        rw [List.eraseP_map]
        rfl
    _ = (history.standing.map (history.face note)).eraseP (·.id == id) := by
        rw [h.faces]
        rfl
    _ = (history.standing.eraseP (· == id)).map (history.face note) := by
        rw [List.eraseP_map]
        rfl
    _ = _ := by rw [← List.erase_eq_eraseP', history.nodup_standing.erase_eq_filter]

/-- Its note is that of the plugin with that number, if there is one. -/
lemma notes_found (h : Lives note history set) (told : PluginCall τ) (id : PluginId) :
    (set.attached.find? (·.id == id)).toList.map (fun a => a.plugin.note told)
      = ((history.standing.filter (· == id)).map (·, told)).map
          fun heard => note heard.1 heard.2 := by
  calc (set.attached.find? (·.id == id)).toList.map (fun a => a.plugin.note told)
      = ((set.attached.find? (·.id == id)).map Attached.face).toList.map (·.plugin told) := by
        cases set.attached.find? (·.id == id) <;> rfl
    _ = (history.standing.find? (· == id)).toList.map (note · told) := by
        rw [h.find_eq]
        cases history.standing.find? (· == id) <;> rfl
    _ = _ := by
        rw [find_toList_of_nodup history.nodup_standing, List.map_map]
        rfl

/-- The set after calls, and after the removal of some of the plugins. -/
lemma told (h : Lives note history set) {operation : PluginOperation τ π}
    {attached : List (Attached (Recorder τ π))} {lines : List String}
    (isAttach : operation.isAttach = false)
    (faces : attached.map Attached.face = PluginHistory.faces note (history ++ [operation]))
    (notes : lines = (history.called operation).map fun heard => note heard.1 heard.2) :
    Lives note (history ++ [operation])
      { set with attached, printed := set.printed.appendList lines } := by
  refine ⟨?_, faces, ?_⟩
  · rw [PluginHistory.attaches_append, isAttach]
    exact h.nextId
  · show (set.printed ++ lines).toList = _
    rw [Array.toList_appendList, h.printed, notes, PluginHistory.heard_append, List.map_append]

/-- Plugins that are called without going or asking for anything. -/
lemma delivered (h : Lives note history set) {operation : PluginOperation τ π}
    {wants : Attached (Recorder τ π) → Bool}
    {call : Recorder τ π → ExternalDrive → Reaction (Recorder τ π)} {told : PluginCall τ}
    (keeps : ∀ recorder external, (call recorder external).plugin.note = recorder.note)
    (tells : ∀ recorder external, (call recorder external).lines = [recorder.note told])
    (isAttach : operation.isAttach = false)
    (quiet : ∀ wish id, operation.asks wish id = false)
    (stay : ∀ id, operation.ends id = false)
    (notes : (set.attached.filter wants).map (fun a => a.plugin.note told)
      = (history.called operation).map fun heard => note heard.1 heard.2)
    (external : ExternalDrive) :
    let answers := deliver wants call set.attached external
    Lives note (history ++ [operation])
      { set with attached := answers.1, printed := set.printed.appendList answers.2.2 } := by
  obtain ⟨same, lines⟩ := deliver_recorders wants call told keeps tells set.attached external
  refine h.told isAttach ?_ (lines.trans notes)
  rw [same, h.faces, PluginHistory.faces_append_of_stay note isAttach quiet stay]

end Lives

variable [Plugin τ π]

/-- Both kinds of calls are asked for in the same way. -/
lemma perform_subscribe (note : PluginId → PluginCall τ → String)
    (set : PluginSet (Recorder τ π)) (wish : PluginWish) (id : PluginId) :
    set.perform note (.subscribe wish id) = (set.subscribe id (Attached.grant wish)).2 := by
  cases wish <;> rfl

/-- The plugin with the given number is taken out of the set and told so, if there is one. -/
lemma remove_eq (set : PluginSet (Recorder τ π)) (id : PluginId) :
    set.remove τ id
      = (set.contains id,
          { set with
            attached := set.attached.eraseP (·.id == id)
            printed := set.printed.appendList
              ((set.attached.find? (·.id == id)).toList.map (·.plugin.note .close)) }) := by
  rw [remove, contains, ← List.isSome_find?]
  cases found : set.attached.find? (·.id == id) with
  | none =>
    have absent : set.attached.eraseP (·.id == id) = set.attached :=
      List.eraseP_of_forall_not (List.find?_eq_none.mp found)
    rw [absent]
    simp
  | some a => rfl

namespace Lives

variable {note : PluginId → PluginCall τ → String} {history : PluginHistory τ π}
  {set : PluginSet (Recorder τ π)}

/-- **A set keeps to its history.** -/
theorem perform (h : Lives note history set) (operation : PluginOperation τ π) :
    Lives note (history ++ [operation]) (set.perform note operation) := by
  cases operation with
  | attach plugin =>
    refine ⟨?_, ?_, ?_⟩
    · rw [PluginHistory.attaches_append]
      exact congrArg (· + 1) h.nextId
    · rw [PluginHistory.faces_append_attach, ← h.faces, ← h.nextId]
      exact List.map_append
    · rw [PluginHistory.heard_append, PluginHistory.called, List.append_nil]
      exact h.printed
  | subscribe wish id =>
    rw [perform_subscribe]
    refine ⟨?_, ?_, ?_⟩
    · rw [PluginHistory.attaches_append]
      exact h.nextId
    · rw [PluginHistory.faces_append_subscribe, ← h.faces]
      exact set.faces_subscribe wish id
    · rw [PluginHistory.heard_append, PluginHistory.called, List.append_nil]
      exact h.printed
  | remove id =>
    rw [PluginSet.perform, remove_eq]
    refine h.told rfl ?_ ?_
    · rw [h.erase_eq, PluginHistory.faces_append note rfl fun _ _ => rfl]
      rfl
    · exact h.notes_found .close id
  | deliverClock time counter external =>
    refine h.delivered ?_ ?_ rfl ?_ ?_ (h.notes_eq (.clock time counter) (·.wantsClock)) external
    all_goals
      intros
      rfl
  | deliverPins time pins external =>
    refine h.delivered ?_ ?_ rfl ?_ ?_ (h.notes_eq (.pins time pins) (·.wantsPins)) external
    all_goals
      intros
      rfl
  | deliverReset =>
    refine h.told rfl ?_ ?_
    · rw [PluginHistory.faces_append_of_stay note rfl (fun _ _ => rfl) fun _ => rfl, List.map_map,
        List.map_map]
      exact h.faces
    · rw [List.flatMap_map, PluginHistory.called, ← h.notes_all]
      exact List.map_eq_flatMap.symm
  | closeAll =>
    refine h.told rfl ?_ ?_
    · rw [PluginHistory.faces_append note rfl fun _ _ => rfl]
      show [] = (history.standing.filter fun _ => false).map _
      rw [List.filter_false]
      rfl
    · rw [PluginHistory.called, ← h.notes_all]
      exact List.map_eq_flatMap.symm

end Lives

end PluginSet

/-! ## The life of a plugin -/

namespace PluginHistory

variable (history : PluginHistory τ π) {operation : PluginOperation τ π} {id : PluginId}

lemma calls_of_chosen (chosen : PluginId → Bool) (told : PluginCall τ) (id : PluginId) :
    (((history.standing.filter chosen).map (·, told)).filter (·.1 == id)).map (·.2)
      = (if history.isAttached id && chosen id then some told else none).toList := by
  have member : id ∈ history.standing.filter chosen
      ↔ (history.isAttached id && chosen id) = true := by
    rw [List.mem_filter, mem_standing, Bool.and_eq_true]
  rw [List.filter_map, List.map_map]
  show ((history.standing.filter chosen).filter (· == id)).map (fun _ => told) = _
  rw [List.filter_beq, (history.nodup_standing.filter chosen).count, List.map_replicate]
  simp only [member]
  split <;> rfl

/-- Everyone is called. -/
lemma calls_of_all (told : PluginCall τ) (id : PluginId) :
    ((history.standing.map (·, told)).filter (·.1 == id)).map (·.2)
      = (if history.isAttached id then some told else none).toList := by
  have all := history.calls_of_chosen (fun _ => true) told id
  rwa [List.filter_true, Bool.and_true] at all

/-- **What a plugin hears** of one operation more. -/
theorem callsOf_append (operation : PluginOperation τ π) (id : PluginId) :
    callsOf (history ++ [operation]) id
      = history.callsOf id ++ (history.tells id operation).toList := by
  rw [callsOf, heard_append, List.filter_append, List.map_append]
  refine congrArg (history.callsOf id ++ ·) ?_
  cases operation with
  | attach plugin => rfl
  | subscribe wish id => rfl
  | remove id' =>
    rw [called, calls_of_chosen]
    rfl
  | deliverClock time counter external => exact history.calls_of_chosen _ _ id
  | deliverPins time pins external => exact history.calls_of_chosen _ _ id
  | deliverReset => exact history.calls_of_all .reset id
  | closeAll => exact history.calls_of_all .close id

lemma tells_of_detached (detached : history.isAttached id = false) :
    history.tells id operation = none := by
  cases operation <;> simp [tells, detached]

/-- Nothing but its end closes a plugin. -/
lemma tells_close_iff (operation : PluginOperation τ π)
    (attached : history.isAttached id = true) :
    history.tells id operation = some .close ↔ operation.ends id = true := by
  cases operation <;> simp [tells, PluginOperation.ends, attached]

/-- Plugins that were not attached yet are not attached. -/
lemma isAttached_of_le (new : history.attaches ≤ id.index) : history.isAttached id = false := by
  rw [isAttached, decide_eq_false (Nat.not_lt.mpr new), Bool.false_and]

/-- The stages of a plugin's life, and what it has heard by then. -/
inductive Told (id : PluginId) : List (PluginCall τ) → Prop
  | new (later : history.attaches ≤ id.index) : Told id []
  | attached {calls : List (PluginCall τ)} (now : history.isAttached id = true)
      (unclosed : .close ∉ calls) : Told id calls
  | detached {calls : List (PluginCall τ)} (old : id.index < history.attaches)
      (gone : history.isAttached id = false) (unclosed : .close ∉ calls) :
      Told id (calls ++ [.close])

variable {history} {calls : List (PluginCall τ)}

/-- One operation more leaves a plugin in its stage, or in the next one. -/
lemma Told.append (h : history.Told id calls) (operation : PluginOperation τ π) :
    Told (history ++ [operation]) id (calls ++ (history.tells id operation).toList) := by
  have attaches := history.attaches_append operation
  have after := history.isAttached_append operation id
  cases h with
  | new later =>
    rw [if_neg (Nat.not_lt.mpr later)] at after
    rw [tells_of_detached _ (isAttached_of_le _ later)]
    cases arrives : operation.isAttach && id.index = history.attaches with
    | true => exact .attached (after.trans arrives) List.not_mem_nil
    | false =>
      refine .new ?_
      rw [attaches]
      split
      · next isAttach =>
        have other : id.index ≠ history.attaches := by simpa [isAttach] using arrives
        omega
      · exact later
  | attached now unclosed =>
    have old := lt_of_isAttached now
    rw [if_pos old, now, Bool.true_and] at after
    have closes := tells_close_iff history operation now
    cases ends : operation.ends id with
    | true =>
      rw [ends] at after closes
      rw [closes.mpr rfl]
      exact .detached (by rw [attaches]; exact Nat.lt_of_lt_of_le old (Nat.le_add_right ..)) after
        unclosed
    | false =>
      rw [ends] at after closes
      refine .attached after fun member => ?_
      rcases List.mem_append.mp member with before | last
      · exact unclosed before
      · exact Bool.false_ne_true (closes.mp (Option.mem_toList.mp last))
  | detached old gone unclosed =>
    rw [if_pos old, gone, Bool.false_and] at after
    rw [tells_of_detached _ gone, Option.toList_none, List.append_nil]
    exact .detached (by rw [attaches]; exact Nat.lt_of_lt_of_le old (Nat.le_add_right ..)) after
      unclosed

lemma Told.unclosed (h : history.Told id calls) (now : history.isAttached id = true) :
    .close ∉ calls := by
  cases h with
  | new later => exact List.not_mem_nil
  | attached _ unclosed => exact unclosed
  | detached _ gone _ => cases gone.symm.trans now

lemma Told.closed (h : history.Told id calls) (old : id.index < history.attaches)
    (gone : history.isAttached id = false) :
    ∃ before, calls = before ++ [.close] ∧ .close ∉ before := by
  cases h with
  | new later => exact absurd old (Nat.not_lt.mpr later)
  | attached now _ => cases gone.symm.trans now
  | detached _ _ unclosed => exact ⟨_, rfl, unclosed⟩

/-- **A plugin is closed once**, when it is detached, and not called again. -/
theorem told_callsOf (history : PluginHistory τ π) (id : PluginId) :
    history.Told id (history.callsOf id) := by
  induction history using List.reverseRecOn with
  | nil => exact .new (Nat.zero_le _)
  | append_singleton history operation ih =>
    rw [callsOf_append]
    exact ih.append operation

/-! ### The order of attachment -/

lemma pairwise_standing (history : PluginHistory τ π) :
    history.standing.Pairwise fun first second => first.index < second.index := by
  have issued : ((List.range history.attaches).map PluginId.mk).Pairwise
      fun first second => first.index < second.index :=
    List.pairwise_map.mpr List.pairwise_lt_range
  exact issued.filter _

/-- **Plugins are called in the order** in which they were attached. -/
theorem pairwise_called (history : PluginHistory τ π) (operation : PluginOperation τ π) :
    (history.called operation).Pairwise fun first second => first.1.index < second.1.index := by
  have picked (chosen : PluginId → Bool) (told : PluginCall τ) :
      ((history.standing.filter chosen).map (·, told)).Pairwise
        fun first second => first.1.index < second.1.index :=
    List.pairwise_map.mpr (history.pairwise_standing.filter chosen)
  cases operation with
  | attach plugin => exact .nil
  | subscribe wish id => exact .nil
  | remove id => exact picked _ _
  | deliverClock time counter external => exact picked _ _
  | deliverPins time pins external => exact picked _ _
  | deliverReset => exact List.pairwise_map.mpr history.pairwise_standing
  | closeAll => exact List.pairwise_map.mpr history.pairwise_standing

end PluginHistory

namespace PluginSet

variable [Plugin τ π] (note : PluginId → PluginCall τ → String)

/-- A set keeps to its history from the beginning. -/
lemma lives_after (history : PluginHistory τ π) : Lives note history (after note history) := by
  induction history using List.reverseRecOn with
  | nil => exact .nil
  | append_singleton history operation ih =>
    rw [after, List.foldl_append]
    exact ih.perform operation

/-- **Every plugin has one life**, whatever is done to the set. -/
theorem one_life (history : PluginHistory τ π) :
    let set := after note history
    -- numbers are given in order, and never again
    (∀ plugin, (set.attach plugin).1 = ⟨history.attaches⟩)
      ∧ (∀ plugin later next,
        ((after note (history ++ .attach plugin :: later)).attach next).1 ≠ ⟨history.attaches⟩)
      ∧ set.ids = history.standing
      ∧ set.ids.Pairwise (fun first second => first.index < second.index)
      ∧ (∀ id, (set.subscribeClock id).1 = history.isAttached id
        ∧ (set.subscribePins id).1 = history.isAttached id
        ∧ (set.remove τ id).1 = history.isAttached id)
      -- all calls, one after the other
      ∧ set.printed.toList = history.heard.map (fun heard => note heard.1 heard.2)
      ∧ (∀ operation,
        PluginHistory.heard (history ++ [operation]) = history.heard ++ history.called operation
          ∧ (history.called operation).Pairwise fun first second => first.1.index < second.1.index)
      -- the calls of one plugin
      ∧ ∀ id,
        (∀ operation, PluginHistory.callsOf (history ++ [operation]) id
          = history.callsOf id ++ (history.tells id operation).toList)
        ∧ (history.isAttached id = true → .close ∉ history.callsOf id)
        ∧ (id.index < history.attaches → history.isAttached id = false →
          ∃ calls, history.callsOf id = calls ++ [.close] ∧ .close ∉ calls) := by
  intro set
  have lives := lives_after note history
  have number (history : PluginHistory τ π) (plugin : Recorder τ π) :
      ((after note history).attach plugin).1 = ⟨history.attaches⟩ :=
    congrArg PluginId.mk (lives_after note history).nextId
  refine ⟨number history, fun plugin later next same => ?_, lives.ids_eq, ?_,
    fun id => ⟨lives.contains_eq id, lives.contains_eq id, ?_⟩, lives.printed,
    fun operation => ⟨PluginHistory.heard_append .., history.pairwise_called operation⟩,
    fun id => ⟨fun operation => history.callsOf_append operation id,
      (history.told_callsOf id).unclosed, (history.told_callsOf id).closed⟩⟩
  · rw [number, PluginId.mk.injEq, PluginHistory.attaches, List.countP_append,
      List.countP_cons_of_pos rfl] at same
    exact absurd same (by rw [PluginHistory.attaches]; omega)
  · rw [lives.ids_eq]
    exact history.pairwise_standing
  · rw [remove_eq]
    exact lives.contains_eq id

/-- A note with the kind of a call and the name of the plugin. -/
def shortNote (id : PluginId) : PluginCall Rat → String
  | .clock .. => "clock " ++ id.name
  | .pins .. => "pins " ++ id.name
  | .reset => "reset " ++ id.name
  | .close => "close " ++ id.name

/-- Three wires.  The second one hears of a clock and is removed, and not again when that is tried
once more. -/
def wireHistory : PluginHistory Rat Wire :=
  let wire : Wire := ⟨.last 63, .last 63⟩
  [.attach wire, .attach wire, .subscribe .clock ⟨1⟩, .attach wire, .deliverClock 0 7 .none,
    .remove ⟨1⟩, .deliverReset, .remove ⟨1⟩]

/-- The second wire is closed, and the others are not yet. -/
theorem one_life_of_wires :
    (after shortNote wireHistory).ids = [⟨0⟩, ⟨2⟩]
      ∧ (after shortNote wireHistory).printed.toList
        = ["clock plugin#1", "close plugin#1", "reset plugin#0", "reset plugin#2"]
      ∧ .close ∉ wireHistory.callsOf ⟨0⟩
      ∧ ∃ calls, wireHistory.callsOf ⟨1⟩ = calls ++ [.close] ∧ .close ∉ calls := by
  obtain ⟨-, -, ids, -, -, printed, -, lives⟩ := one_life shortNote wireHistory
  exact ⟨ids, printed.trans (by decide +kernel), (lives ⟨0⟩).2.1 rfl,
    (lives ⟨1⟩).2.2 (by decide) rfl⟩

end PluginSet

end P1Chip
