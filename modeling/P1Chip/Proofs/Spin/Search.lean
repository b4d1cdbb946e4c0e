import P1Chip.Proofs.Spin.Lists
import P1Chip.Proofs.Spin.Stack

/-!
# Searches that a program carries out

A program that searches a list puts three longs on the stack: the number of the first element, the
address after the list, and what it looks for.  Then the elements follow.  For each of them the
program pushes its operands, in whatever way it comes by them, and carries out a bytecode, which
takes them off again.  Either that ends the search, and one long is left of the three, or they are
all there for the next element.

So a run through a list is a row of machines, one for each bytecode, of which nothing is known but
that the search and the operands lie on the stack.  Its ending is that of the search on paper
(`ListSearch.through`), which settles when a list means its expansion.

* `SpinMachine.Offered` — the bytecode of an element is the next one.
* `SpinMachine.execute_offered` — what it does.
* `SpinMachine.Searches` — the runs through a list, with their endings.
* **`SpinMachine.searches_iff`** — every list has one ending, and it is the one on paper.
* **`SpinMachine.lookup_means_expansion_iff`**, **`SpinMachine.lookdown_means_expansion_iff`** —
  when a list ends as its expansion does.
-/

namespace P1Chip

open Word

/-! ## Elements in a program -/

/-- What is pushed for an element. -/
def ListElement.operands : ListElement → List UInt32
  | single value => [value]
  | range first last => [first, last]

/-- The bytecode of an element. -/
def SearchKind.bytecode : SearchKind → ListElement → UInt8
  | lookup, .single _ => 0x10
  | lookdown, .single _ => 0x11
  | lookup, .range _ _ => 0x12
  | lookdown, .range _ _ => 0x13

/-- What that bytecode stands for. -/
def SearchKind.operation : SearchKind → ListElement → SpecialOp
  | lookup, .single _ => .lookupValue
  | lookdown, .single _ => .lookdownValue
  | lookup, .range _ _ => .lookupRange
  | lookdown, .range _ _ => .lookdownRange

lemma SearchKind.decode_bytecode (kind : SearchKind) (element : ListElement) :
    SpecialOp.decode? (kind.bytecode element) = some (kind.operation element) := by
  cases kind <;> cases element <;> rfl

namespace SpinMachine

/-- A search as it lies on the stack. -/
def ListSearch.longs (search : ListSearch) : List UInt32 :=
  [search.base, search.jump, search.key]

/-- The three longs of a search below `top` lie in memory that can be written. -/
def SearchFits (top : UInt32) : Prop :=
  (top - 12).toNat % 65536 + 8 < halfSize

instance (top : UInt32) : Decidable (SearchFits top) :=
  inferInstanceAs (Decidable (_ < _))

variable {τ : Type}

/-- The bytecode of an element is the next one, and the operands lie on top of the search. -/
structure Offered (kind : SearchKind) (object top : UInt32) (search : ListSearch)
    (element : ListElement) (machine : SpinMachine τ) : Prop where
  code : machine.code = kind.bytecode element
  object : machine.frames.object = object
  stack : machine.frames.stack = top + 4 * .ofNat element.operands.length
  operands : machine.OnStack (search.longs ++ element.operands)

/-- The machine that ends a search or goes on with it, when all of it was popped. -/
def resume (machine : SpinMachine τ) (search : ListSearch) : SearchResult → SpinMachine τ
  | .found value => machine.foundAt search value
  | .missed next => machine.pushSearch next

variable {machine : SpinMachine τ} {search : ListSearch}

lemma popSearch_of_onStack (h : machine.OnStack search.longs) :
    machine.popSearch = (search, machine.withStack (machine.frames.stack - 12)) := by
  obtain ⟨base, jump, key⟩ := search
  have keyOn : machine.OnStack ([base, jump] ++ [key]) := h
  have jumpOn : machine.pop.2.OnStack ([base] ++ [jump]) := keyOn.last.2
  have baseOn : machine.pop.2.pop.2.OnStack ([] ++ [base]) := jumpOn.last.2
  have stack : machine.frames.stack - 12 = machine.frames.stack - 4 - 4 - 4 := by grind
  rw [stack, ← keyOn.last.1, ← jumpOn.last.1, ← baseOn.last.1]
  rfl

lemma ListSearch.longs_inj {first second : ListSearch} :
    first.longs = second.longs ↔ first = second := by
  cases first
  cases second
  simp [longs]

lemma done_inj {first second : SpinMachine τ} (h : first.done = second.done) : first = second :=
  congrArg SpinOutcome.machine h

/-! ## The four bytecodes -/

/-- A search below a single value is taken up there. -/
lemma takeSingle {value : UInt32} (h : machine.OnStack (search.longs ++ [value])) :
    machine.pop.1 = value ∧
      machine.pop.2.popSearch = (search, machine.withStack (machine.frames.stack - 16)) := by
  have stack : machine.frames.stack - 16 = machine.frames.stack - 4 - 12 := by grind
  rw [stack]
  exact ⟨h.last.1, popSearch_of_onStack h.last.2⟩

/-- A search below the bounds of a range is taken up there. -/
lemma takeRange {first last : UInt32} (h : machine.OnStack (search.longs ++ [first, last])) :
    machine.pop.1 = last ∧ machine.pop.2.pop.1 = first ∧
      machine.pop.2.pop.2.popSearch
        = (search, machine.withStack (machine.frames.stack - 20)) := by
  have lastOn : machine.OnStack ((search.longs ++ [first]) ++ [last]) := h
  have firstOn : machine.pop.2.OnStack (search.longs ++ [first]) := lastOn.last.2
  have taken := takeSingle firstOn
  have stack : machine.frames.stack - 20 = machine.frames.stack - 4 - 16 := by grind
  rw [stack]
  exact ⟨lastOn.last.1, taken⟩

lemma lookupValue_of_onStack {value : UInt32} (h : machine.OnStack (search.longs ++ [value])) :
    machine.lookupValue = (machine.withStack (machine.frames.stack - 16)).resume search
      (search.meet .lookup (.single value)) := by
  obtain ⟨popped, taken⟩ := takeSingle h
  simp only [lookupValue, popped, taken, ListSearch.meet]
  split <;> rfl

lemma lookdownValue_of_onStack {value : UInt32} (h : machine.OnStack (search.longs ++ [value])) :
    machine.lookdownValue = (machine.withStack (machine.frames.stack - 16)).resume search
      (search.meet .lookdown (.single value)) := by
  obtain ⟨popped, taken⟩ := takeSingle h
  simp only [lookdownValue, popped, taken, ListSearch.meet]
  split <;> rfl

lemma lookupRange_of_onStack {first last : UInt32}
    (h : machine.OnStack (search.longs ++ [first, last])) :
    machine.lookupRange = (machine.withStack (machine.frames.stack - 20)).resume search
      (search.meet .lookup (.range first last)) := by
  obtain ⟨poppedLast, poppedFirst, taken⟩ := takeRange h
  simp only [lookupRange, poppedLast, poppedFirst, taken, ListSearch.meet, toInt32_lt_iff,
    ListSearch.past, ofNat_rangeSize]
  by_cases upwards : signed first < signed last
  · simp only [if_pos upwards]
    split <;> rfl
  · simp only [if_neg upwards]
    split <;> rfl

lemma lookdownRange_of_onStack {first last : UInt32}
    (h : machine.OnStack (search.longs ++ [first, last])) :
    machine.lookdownRange = (machine.withStack (machine.frames.stack - 20)).resume search
      (search.meet .lookdown (.range first last)) := by
  obtain ⟨poppedLast, poppedFirst, taken⟩ := takeRange h
  simp only [lookdownRange, poppedLast, poppedFirst, taken, ListSearch.meet, toInt32_lt_iff,
    toInt32_le_iff, ListSearch.past, ofNat_rangeSize, Between]
  by_cases upwards : signed first < signed last
  · simp only [if_pos upwards, Int.min_eq_left (Int.le_of_lt upwards),
      Int.max_eq_right (Int.le_of_lt upwards), Bool.and_eq_true, decide_eq_true_eq]
    split <;> rfl
  · have downwards : signed last ≤ signed first := Int.not_lt.mp upwards
    simp only [if_neg upwards, Int.min_eq_right downwards, Int.max_eq_left downwards,
      Bool.and_eq_true, decide_eq_true_eq]
    split <;> rfl

/-! ### What is left on the stack -/

lemma onStack_foundAt (room : machine.frames.stack.toNat % 65536 < halfSize) (value : UInt32) :
    (machine.foundAt search value).OnStack [value] := by
  have nothing : (machine.jumpInObject search.jump).OnStack [] := nofun
  exact nothing.push (by simp) room value

lemma onStack_pushSearch (fits : machine.frames.stack.toNat % 65536 + 8 < halfSize)
    (search : ListSearch) : (machine.pushSearch search).OnStack search.longs := by
  have room (k : UInt32) (low : k.toNat ≤ 8) :
      (machine.frames.stack + k).toNat % 65536 < halfSize := by
    rw [UInt32.toNat_add]
    omega
  have stack : machine.frames.stack + 4 + 4 = machine.frames.stack + 8 := by grind
  have nothing : machine.OnStack [] := nofun
  have base := nothing.push (by simp) (by omega) search.base
  have jump := base.push (by simp) (room 4 (by decide)) search.jump
  refine jump.push (by simp) ?_ search.key
  show (machine.frames.stack + 4 + 4).toNat % 65536 < halfSize
  rw [stack]
  exact room 8 (by decide)

variable [Timebase τ] {kind : SearchKind} {object top : UInt32} {element : ListElement}

lemma special_of_onStack (kind : SearchKind) (element : ListElement)
    (h : machine.OnStack (search.longs ++ element.operands)) (pc : UInt32) :
    machine.special (kind.operation element) pc
      = ((machine.withStack
            (machine.frames.stack - 4 * .ofNat (element.operands.length + 3))).resume
          search (search.meet kind element)).done := by
  cases element with
  | single value =>
    cases kind with
    | lookup => exact congrArg done (lookupValue_of_onStack h)
    | lookdown => exact congrArg done (lookdownValue_of_onStack h)
  | range first last =>
    cases kind with
    | lookup => exact congrArg done (lookupRange_of_onStack h)
    | lookdown => exact congrArg done (lookdownRange_of_onStack h)

/-- **The bytecode of an element** ends the search or goes on with it, as the element says. -/
theorem execute_offered (h : Offered kind object top search element machine) :
    machine.execute
      = ((machine.next.withStack (top - 12)).resume search (search.meet kind element)).done := by
  have decoded : SpecialOp.decode? machine.code = some (kind.operation element) := by
    rw [h.code, kind.decode_bytecode]
  have below : machine.next.frames.stack - 4 * .ofNat (element.operands.length + 3)
      = top - 12 := by
    show machine.frames.stack - _ = _
    rw [h.stack, UInt32.ofNat_add]
    grind
  have operands : machine.next.OnStack (search.longs ++ element.operands) := h.operands
  rw [execute_of_decode machine decoded, ← below]
  exact special_of_onStack kind element operands machine.body.pc

/-! ## Runs through a list -/

/-- How a search ends: with a value on top of the stack and a jump, or with the search still
there. -/
inductive SearchEnd where
  | found (value pc stack : UInt32)
  | missed (search : ListSearch) (stack : UInt32)

/-- The ending that a result on paper stands for. -/
def SearchResult.ending (object top jump : UInt32) : SearchResult → SearchEnd
  | found value => .found value (jump + object) (top - 8)
  | missed search => .missed search top

lemma SearchResult.ending_inj {jump : UInt32} {first second : SearchResult} :
    first.ending object top jump = second.ending object top jump ↔ first = second := by
  cases first <;> cases second <;> simp [ending]

variable (τ kind object top) in
/-- The runs through a list.  Each element is offered to the search, by a machine of which nothing
else is known; the search is over when its three longs have gone. -/
inductive Searches : ListSearch → List ListElement → SearchEnd → Prop
  | ended (search : ListSearch) : Searches search [] (.missed search top)
  | found {search : ListSearch} {element : ListElement} {rest : List ListElement}
      {machine after : SpinMachine τ} {value : UInt32}
      (offered : Offered kind object top search element machine)
      (executed : machine.execute = after.done) (gone : after.frames.stack ≠ top)
      (result : after.OnStack [value]) :
      Searches search (element :: rest) (.found value after.body.pc after.frames.stack)
  | missed {search next : ListSearch} {element : ListElement} {rest : List ListElement}
      {machine after : SpinMachine τ} {ending : SearchEnd}
      (offered : Offered kind object top search element machine)
      (executed : machine.execute = after.done) (stays : after.frames.stack = top)
      (left : after.OnStack next.longs) (further : Searches next rest ending) :
      Searches search (element :: rest) ending

/-- A machine that offers an element to a search. -/
def offering (kind : SearchKind) (object top : UInt32) (search : ListSearch)
    (element : ListElement) : SpinMachine τ :=
  holding object (top + 4 * .ofNat element.operands.length) (search.longs ++ element.operands)
    (kind.bytecode element).toUInt32

lemma offered_offering (kind : SearchKind) (object top : UInt32) (search : ListSearch)
    (element : ListElement) :
    Offered kind object top search element
      (offering kind object top search element : SpinMachine τ) := by
  have short : (search.longs ++ element.operands).length < 2 ^ 14 := by
    cases element <;> simp [ListSearch.longs, ListElement.operands]
  exact ⟨(code_holding _ _ _ short).trans (UInt8.toUInt8_toUInt32 _), rfl, rfl,
    onStack_holding _ _ _ short⟩

lemma Offered.finishes (offered : Offered kind object top search element machine) :
    ∃ after : SpinMachine τ, machine.execute = after.done :=
  ⟨_, execute_offered offered⟩

variable {after : SpinMachine τ}

/-- An element that ends the search leaves one long of it. -/
lemma Offered.found (fits : SearchFits top)
    (offered : Offered kind object top search element machine)
    (executed : machine.execute = after.done) {value : UInt32}
    (met : search.meet kind element = .found value) :
    after.frames.stack = top - 8 ∧ after.body.pc = search.jump + object ∧
      after.OnStack [value] := by
  rw [execute_offered offered, met] at executed
  obtain rfl := done_inj executed
  have stack : top - 12 + 4 = top - 8 := by grind
  refine ⟨stack, ?_, onStack_foundAt ?_ value⟩
  · show search.jump + machine.frames.object = _
    rw [offered.object]
  · exact Nat.lt_of_le_of_lt (Nat.le_add_right _ 8) fits

/-- An element that is passed leaves all of it. -/
lemma Offered.missed (fits : SearchFits top)
    (offered : Offered kind object top search element machine)
    (executed : machine.execute = after.done) {next : ListSearch}
    (met : search.meet kind element = .missed next) :
    after.frames.stack = top ∧ after.OnStack next.longs := by
  rw [execute_offered offered, met] at executed
  obtain rfl := done_inj executed
  have stack : top - 12 + 4 + 4 + 4 = top := by grind
  have below : (machine.next.withStack (top - 12)).frames.stack.toNat % 65536 + 8 < halfSize :=
    fits
  exact ⟨stack, onStack_pushSearch below next⟩

/-- **A list has one ending**, which is the one on paper. -/
theorem searches_iff (fits : SearchFits top) {elements : List ListElement} {ending : SearchEnd} :
    Searches τ kind object top search elements ending
      ↔ ending = (search.through kind elements).ending object top search.jump := by
  constructor
  · intro searches
    induction searches with
    | ended search => rfl
    | @found search element rest machine after value offered executed gone result =>
      rw [ListSearch.through]
      cases met : search.meet kind element with
      | found value' =>
        obtain ⟨stack, pc, result'⟩ := offered.found fits executed met
        obtain rfl := List.singleton_inj.mp (result.unique result' rfl)
        rw [stack, pc]
        rfl
      | missed next => exact absurd (offered.missed fits executed met).1 gone
    | @missed search next element rest machine after _ offered executed stays left _ ih =>
      rw [ListSearch.through]
      cases met : search.meet kind element with
      | found value =>
        have stack := (offered.found fits executed met).1
        exact absurd (stays.symm.trans stack) (by grind)
      | missed next' =>
        have left' := (offered.missed fits executed met).2
        obtain rfl := ListSearch.longs_inj.mp (left.unique left' rfl)
        rw [ih, search.jump_of_meet kind met]
        rfl
  · rintro rfl
    induction elements generalizing search with
    | nil => exact .ended search
    | cons element rest ih =>
      have offered : Offered kind object top search element
          (offering kind object top search element : SpinMachine τ) := offered_offering ..
      obtain ⟨after, executed⟩ := offered.finishes
      rw [ListSearch.through]
      cases met : search.meet kind element with
      | found value =>
        obtain ⟨stack, pc, result⟩ := offered.found fits executed met
        have gone : after.frames.stack ≠ top := by grind
        have run : Searches τ kind object top search (element :: rest) _ :=
          .found offered executed gone result
        rwa [stack, pc] at run
      | missed next =>
        obtain ⟨stays, left⟩ := offered.missed fits executed met
        have run := Searches.missed offered executed stays left ih
        rwa [search.jump_of_meet kind met] at run

/-! ## Lists and their expansions -/

/-- Every run through either of the two lists ends in the same way, and there are such runs. -/
def SameEnding (τ : Type) [Timebase τ] (kind : SearchKind) (object top : UInt32)
    (search : ListSearch) (elements others : List ListElement) : Prop :=
  ∃ ending, (∀ other, Searches τ kind object top search elements other ↔ other = ending) ∧
    ∀ other, Searches τ kind object top search others other ↔ other = ending

/-- Two lists end in the same way just if they do on paper. -/
lemma sameEnding_iff (fits : SearchFits top) {elements others : List ListElement} :
    SameEnding τ kind object top search elements others
      ↔ search.through kind elements = search.through kind others := by
  constructor
  · rintro ⟨ending, first, second⟩
    have one := (first _).mp ((searches_iff fits).mpr rfl)
    have other := (second _).mp ((searches_iff fits).mpr rfl)
    exact SearchResult.ending_inj.mp (one.trans other.symm)
  · intro same
    exact ⟨_, fun _ => searches_iff fits, fun _ => same ▸ searches_iff fits⟩

/-- **A list of ranges that is looked up** ends, wherever it is cut off, as its expansion does if
and only if every range that is reached keeps in step: it is left or not as its values would be,
and if it is not, it runs upwards or the list counts from zero (or from the middle of all words). -/
theorem lookup_means_expansion_iff (fits : SearchFits top) {elements : List ListElement}
    (sized : ∀ first last, ListElement.range first last ∈ elements →
      rangeSize first last < 2 ^ 31) :
    (∀ front, front <+: elements →
        SameEnding τ .lookup object top search front (expansion front))
      ↔ ∀ front first last back, elements = front ++ .range first last :: back →
        (expansion front).length ≤ (search.key - search.base).toNat →
          (search.past .lookup (expansion front).length).InStep first last := by
  rw [← search.lookup_prefixes_iff sized]
  exact forall₂_congr fun _ _ => sameEnding_iff fits

/-- A list that counts from zero, with ranges in both directions. -/
theorem lookup_means_expansion_of_zeroBased :
    SearchFits 0x50C ∧
      ∀ front, front <+: [.range 5 9, .single 7, .range 3 1] →
        SameEnding Rat .lookup 0x200 0x50C ⟨0, 0x214, 7⟩ front (expansion front) := by
  have fits : SearchFits 0x50C := by decide
  refine ⟨fits, (lookup_means_expansion_iff fits ?_).mpr ?_⟩
  · simp only [List.mem_cons, ListElement.range.injEq, reduceCtorEq, List.not_mem_nil]
    rintro first last (⟨rfl, rfl⟩ | h | ⟨rfl, rfl⟩ | h)
    · decide
    · exact h.elim
    · decide
    · exact h.elim
  · intro front first last back _ reached
    exact ListSearch.inStep_of_zeroBased _ rfl (by decide) reached first last

/-- From the values 5 to 9, the fifth one is not found if the first one has the number 1. -/
theorem not_lookup_means_expansion :
    ¬ SameEnding Rat .lookup 0x200 0x50C ⟨1, 0x214, 5⟩ [.range 5 9] (expansion [.range 5 9]) := by
  rw [sameEnding_iff (by decide)]
  decide

/-- **A list of ranges that is searched for a value** ends as its expansion does if and only if the
first range with that value runs upwards, or has it in its middle. -/
theorem lookdown_means_expansion_iff (fits : SearchFits top) (elements : List ListElement) :
    SameEnding τ .lookdown object top search elements (expansion elements)
      ↔ ∀ front first last back, elements = front ++ .range first last :: back →
        search.key ∉ front.flatMap ListElement.values → Between first last search.key →
          signed first ≤ signed last ∨ search.key - last = first - search.key := by
  rw [sameEnding_iff fits]
  exact search.lookdown_expansion_iff elements

/-- The range that has the value runs upwards. -/
theorem lookdown_means_expansion_of_upwards :
    SearchFits 0x50C ∧
      SameEnding Rat .lookdown 0x200 0x50C ⟨1, 0x214, 9⟩ [.single 7, .range 5 9]
        (expansion [.single 7, .range 5 9]) := by
  have fits : SearchFits 0x50C := by decide
  refine ⟨fits, (lookdown_means_expansion_iff fits _).mpr ?_⟩
  intro front first last back split _ _
  have member : ListElement.range first last ∈ [.single 7, .range 5 9] := by
    rw [split]
    simp
  simp only [List.mem_cons, reduceCtorEq, ListElement.range.injEq, List.not_mem_nil, or_false,
    false_or] at member
  obtain ⟨rfl, rfl⟩ := member
  exact .inl (by decide)

/-- From the values 9 down to 5, the first one gets the number of the last one. -/
theorem not_lookdown_means_expansion :
    ¬ SameEnding Rat .lookdown 0x200 0x50C ⟨1, 0x214, 9⟩ [.range 9 5]
      (expansion [.range 9 5]) := by
  rw [sameEnding_iff (by decide)]
  decide

end SpinMachine

end P1Chip
