import Mathlib.Data.List.Induction
import P1Chip.Proofs.Word
import P1Chip.Spin.Execute

/-!
# Lists that are searched

A list is searched for the value with a given number or for the number of a given value.  Its
elements are single values and ranges, and a range stands for its values, one after the other.  The
search carries on, from element to element, the number of the first element and what it looks for:
every value that is passed lowers the number that is still to go, or raises the number of the next
value.

A range is dealt with in one go, by arithmetic.  This file compares that to its values one by one.
On the way to a range both keep the same account, so everything hangs on the single range that is
reached.  There they agree under conditions that say which numbers and directions the arithmetic
has in mind.

* `ListElement`, `expansion` — lists, and the same lists without ranges.
* `ListSearch.meet`, `ListSearch.through` — a search through one element, and through a list.
* `ListSearch.lookup_values`, `ListSearch.lookdown_values` — the search among single values.
* **`ListSearch.lookup_prefixes_iff`**, **`ListSearch.lookdown_expansion_iff`** — when a list means
  its expansion.
-/

namespace P1Chip

open Word

/-! ## Lists -/

/-- What a list is searched for. -/
inductive SearchKind where
  /-- The value with a given number. -/
  | lookup
  /-- The number of a given value. -/
  | lookdown
deriving DecidableEq

inductive ListElement where
  | single (value : UInt32)
  /-- The values from `first` to `last`, upwards or downwards. -/
  | range (first last : UInt32)
deriving DecidableEq

/-- The values that an element stands for. -/
def ListElement.values : ListElement → List UInt32
  | single value => [value]
  | range first last => rangeValues first last

/-- The list in which every range is replaced by its values. -/
def expansion (elements : List ListElement) : List ListElement :=
  (elements.flatMap ListElement.values).map .single

lemma expansion_append (front back : List ListElement) :
    expansion (front ++ back) = expansion front ++ expansion back := by
  rw [expansion, List.flatMap_append, List.map_append]
  rfl

lemma expansion_singleton (element : ListElement) :
    expansion [element] = element.values.map .single := by
  rw [expansion, List.flatMap_singleton]

lemma expansion_expansion (elements : List ListElement) :
    expansion (expansion elements) = expansion elements := by
  simp only [expansion, List.flatMap_map, ListElement.values, List.flatMap_singleton']

namespace SpinMachine

/-! ## Searches -/

deriving instance DecidableEq for ListSearch

/-- What a search comes to. -/
inductive SearchResult where
  | found (value : UInt32)
  | missed (search : ListSearch)
deriving DecidableEq

/-- Goes on with a search that has found nothing yet. -/
def SearchResult.andThen (result : SearchResult) (next : ListSearch → SearchResult) :
    SearchResult :=
  match result with
  | found value => .found value
  | missed search => next search

namespace ListSearch

/-- The search when so many values were passed. -/
def past (search : ListSearch) (kind : SearchKind) (count : Nat) : ListSearch :=
  match kind with
  | .lookup => { search with key := search.key - .ofNat count }
  | .lookdown => { search with base := search.base + .ofNat count }

/-- What a search for a number makes of one value. -/
def meet (search : ListSearch) : SearchKind → ListElement → SearchResult
  | .lookup, .single value =>
    if search.key = search.base then .found value else .missed (search.past .lookup 1)
  | .lookdown, .single value =>
    if search.key = value then .found search.base else .missed (search.past .lookdown 1)
  | .lookup, .range first last =>
    if signed search.key < signed (.ofNat (rangeSize first last)) then
      .found (if signed first < signed last then first + search.key - search.base
        else first - search.key - search.base)
    else .missed (search.past .lookup (rangeSize first last))
  | .lookdown, .range first last =>
    if Between first last search.key then
      .found (search.key - (if signed first < signed last then first else last) + search.base)
    else .missed (search.past .lookdown (rangeSize first last))

/-- What a search comes to at the end of a list. -/
def through (search : ListSearch) (kind : SearchKind) : List ListElement → SearchResult
  | [] => .missed search
  | element :: rest => (search.meet kind element).andThen (·.through kind rest)

variable (search : ListSearch) (kind : SearchKind)

@[simp]
lemma past_zero : search.past kind 0 = search := by
  cases kind <;> simp [past]

@[simp]
lemma past_past (first second : Nat) :
    (search.past kind first).past kind second = search.past kind (first + second) := by
  cases kind <;> simp only [past, UInt32.ofNat_add, ListSearch.mk.injEq, true_and, and_true] <;>
    grind

@[simp]
lemma jump_past (count : Nat) : (search.past kind count).jump = search.jump := by
  cases kind <;> rfl

lemma through_singleton (element : ListElement) :
    search.through kind [element] = search.meet kind element := by
  rw [through]
  cases search.meet kind element <;> rfl

lemma through_append (front back : List ListElement) :
    search.through kind (front ++ back)
      = (search.through kind front).andThen (·.through kind back) := by
  induction front generalizing search with
  | nil => rfl
  | cons element rest ih =>
    rw [List.cons_append, through, through]
    cases search.meet kind element with
    | found value => rfl
    | missed next => exact ih next

/-- An element that is passed counts for all of its values. -/
lemma eq_past_of_meet {element : ListElement} {next : ListSearch}
    (h : search.meet kind element = .missed next) :
    next = search.past kind element.values.length := by
  cases kind <;> cases element <;> rw [meet] at h <;> split at h <;> cases h <;>
    simp only [ListElement.values, List.length_singleton, length_rangeValues]

lemma jump_of_meet {element : ListElement} {next : ListSearch}
    (h : search.meet kind element = .missed next) : next.jump = search.jump := by
  rw [search.eq_past_of_meet kind h, jump_past]

lemma eq_past_of_through {elements : List ListElement} {next : ListSearch}
    (h : search.through kind elements = .missed next) :
    next = search.past kind (expansion elements).length := by
  induction elements generalizing search with
  | nil =>
    cases h
    exact (past_zero _ kind).symm
  | cons element rest ih =>
    rw [through] at h
    cases met : meet search kind element with
    | found value =>
      rw [met] at h
      cases h
    | missed between =>
      rw [met] at h
      have step := eq_past_of_meet search kind met
      have length : (expansion (element :: rest)).length
          = element.values.length + (expansion rest).length := by
        simp only [expansion, List.flatMap_cons, List.map_append, List.length_append,
          List.length_map]
      rw [ih between h, step, past_past, length]

/-! ## Among single values -/

/-- **A number is looked up** among single values by counting. -/
theorem lookup_values (values : List UInt32) :
    search.through .lookup (values.map .single)
      = if h : (search.key - search.base).toNat < values.length then
          .found values[(search.key - search.base).toNat]
        else .missed (search.past .lookup values.length) := by
  induction values generalizing search with
  | nil => simp [through]
  | cons value values ih =>
    rw [List.map_cons, through, meet]
    by_cases here : search.key = search.base
    · have zero : (search.key - search.base).toNat = 0 := by rw [here, UInt32.sub_self]; rfl
      rw [if_pos here, dif_pos (by rw [zero]; exact Nat.zero_lt_succ _)]
      simp only [SearchResult.andThen, zero, List.getElem_cons_zero]
    · rw [if_neg here]
      refine (ih _).trans ?_
      have further : (search.key - search.base).toNat
          = ((search.past .lookup 1).key - (search.past .lookup 1).base).toNat + 1 := by
        have positive : (search.key - search.base).toNat ≠ 0 := by
          intro zero
          have equal : search.key - search.base = 0 := UInt32.toNat_inj.mp zero
          exact here (by grind)
        show _ = (search.key - 1 - search.base).toNat + 1
        have swap : search.key - 1 - search.base = search.key - search.base - 1 := by grind
        have bound := (search.key - search.base).toNat_lt
        rw [swap, UInt32.toNat_sub (search.key - search.base) 1]
        simp only [UInt32.reduceToNat]
        omega
      simp only [further, List.length_cons, Nat.add_lt_add_iff_right, List.getElem_cons_succ,
        past_past, Nat.add_comm 1]

/-- **A value is looked for** among single values from the front. -/
theorem lookdown_values (values : List UInt32) :
    search.through .lookdown (values.map .single)
      = if search.key ∈ values then .found (search.base + .ofNat (values.idxOf search.key))
        else .missed (search.past .lookdown values.length) := by
  induction values generalizing search with
  | nil => simp [through]
  | cons value values ih =>
    rw [List.map_cons, through, meet]
    by_cases here : search.key = value
    · subst here
      simp [SearchResult.andThen]
    · rw [if_neg here]
      refine (ih _).trans ?_
      have key : (search.past .lookdown 1).key = search.key := rfl
      have base : (search.past .lookdown 1).base = search.base + 1 := rfl
      have later : (value :: values).idxOf search.key = values.idxOf search.key + 1 :=
        List.idxOf_cons_ne _ (Ne.symm here)
      rw [key, base, later, past_past, List.length_cons, Nat.add_comm 1, UInt32.ofNat_add]
      simp only [List.mem_cons, here, false_or]
      split
      · congr 1
        grind
      · rfl

/-! ## Ranges and their values -/

/-- **Keeping in step.**  The search goes through every first part of the list as through its
expansion, if it makes of each element that it reaches what it makes of the values in it. -/
theorem prefixes_iff (elements : List ListElement) :
    (∀ front, front <+: elements →
        search.through kind front = search.through kind (expansion front))
      ↔ ∀ front element back, elements = front ++ element :: back →
        search.through kind (expansion front)
            = .missed (search.past kind (expansion front).length) →
          (search.past kind (expansion front).length).meet kind element
            = (search.past kind (expansion front).length).through kind (expansion [element]) := by
  constructor
  · rintro agree front element back rfl reached
    have before := agree front (List.prefix_append _ _)
    have after := agree (front ++ [element]) ⟨back, by simp⟩
    rw [expansion_append, through_append, through_append, before, reached] at after
    simpa only [SearchResult.andThen, through_singleton] using after
  · intro elementwise front
    induction front using List.reverseRecOn with
    | nil => exact fun _ => rfl
    | append_singleton front element ih =>
      rintro ⟨back, split⟩
      rw [List.append_assoc] at split
      have before := ih ⟨_, split⟩
      rw [expansion_append, through_append, through_append, before]
      cases reached : search.through kind (expansion front) with
      | found value => rfl
      | missed next =>
        have here := eq_past_of_through search kind reached
        rw [expansion_expansion] at here
        subst here
        simpa only [SearchResult.andThen, through_singleton] using
          elementwise front element back split.symm reached

lemma meet_single (value : UInt32) :
    search.meet kind (.single value) = search.through kind (expansion [.single value]) :=
  (search.through_singleton kind _).symm

/-- The arithmetic on a range comes to what its values would: it stops when they do, and counts
upwards or from zero. -/
structure InStep (first last : UInt32) : Prop where
  reached : signed search.key < rangeSize first last
    ↔ (search.key - search.base).toNat < rangeSize first last
  upwards : signed search.key < rangeSize first last →
    signed first < signed last ∨ search.base + search.base = 0

/-- A number is looked up in a range as among its values just if the range keeps in step. -/
lemma meet_lookup_range_iff {first last : UInt32} (sized : rangeSize first last < 2 ^ 31) :
    search.meet .lookup (.range first last)
        = search.through .lookup (expansion [.range first last])
      ↔ search.InStep first last := by
  rw [expansion_singleton, ListElement.values, lookup_values, meet, signed_ofNat sized]
  simp only [length_rangeValues]
  by_cases stops : signed search.key < rangeSize first last <;>
    by_cases within : (search.key - search.base).toNat < rangeSize first last
  · rw [if_pos stops, dif_pos within, SearchResult.found.injEq, getElem_rangeValues, rangeAt,
      UInt32.ofNat_toNat]
    have up : first + search.key - search.base = first + (search.key - search.base) := by grind
    have down : first - search.key - search.base = first - (search.key - search.base)
        ↔ search.base + search.base = 0 := by grind
    by_cases upwards : signed first < signed last
    · rw [if_pos upwards, if_pos upwards]
      exact ⟨fun _ => ⟨iff_of_true stops within, fun _ => .inl upwards⟩, fun _ => up⟩
    · rw [if_neg upwards, if_neg upwards, down]
      exact ⟨fun zero => ⟨iff_of_true stops within, fun _ => .inr zero⟩,
        fun h => (h.upwards stops).resolve_left upwards⟩
  · rw [if_pos stops, dif_neg within]
    exact iff_of_false (by simp) fun h => within (h.reached.mp stops)
  · rw [if_neg stops, dif_pos within]
    exact iff_of_false (by simp) fun h => stops (h.reached.mpr within)
  · rw [if_neg stops, dif_neg within]
    exact iff_of_true rfl ⟨iff_of_false stops within, fun h => absurd h stops⟩

/-- A value is looked for in a range as among its values just if the range runs upwards, or the
value is not in it or in its middle. -/
lemma meet_lookdown_range_iff (first last : UInt32) :
    search.meet .lookdown (.range first last)
        = search.through .lookdown (expansion [.range first last])
      ↔ (Between first last search.key →
        signed first ≤ signed last ∨ search.key - last = first - search.key) := by
  rw [expansion_singleton, ListElement.values, lookdown_values, meet, length_rangeValues]
  simp only [mem_rangeValues]
  by_cases between : Between first last search.key
  · rw [if_pos between, if_pos between, SearchResult.found.injEq, idxOf_rangeValues between,
      ofNat_distance]
    obtain ⟨low, high⟩ := between
    by_cases upwards : signed first < signed last
    · rw [if_pos upwards, if_pos (by omega), UInt32.add_comm]
      exact iff_of_true rfl fun _ => .inl (Int.le_of_lt upwards)
    · have distance : (if signed first ≤ signed search.key then search.key - first
          else first - search.key) = first - search.key := by
        split
        · rw [signed_inj.mp (show signed first = signed search.key by omega)]
        · rfl
      have swap : search.key - last + search.base = search.base + (first - search.key)
          ↔ search.key - last = first - search.key := by grind
      rw [if_neg upwards, distance, swap]
      refine ⟨fun middle _ => .inr middle, fun h => (h ⟨low, high⟩).elim (fun le => ?_) id⟩
      -- a range with bounds in this order has only one word
      have same : first = last := signed_inj.mp (by omega)
      have here : search.key = first := signed_inj.mp (by omega)
      rw [← same, here]
  · rw [if_neg between, if_neg between]
    exact iff_of_true rfl fun h => absurd h between

/-! ## Whole lists -/

lemma lookup_missed_iff (elements : List ListElement) :
    search.through .lookup (expansion elements)
        = .missed (search.past .lookup (expansion elements).length)
      ↔ (expansion elements).length ≤ (search.key - search.base).toNat := by
  rw [← Nat.not_lt, expansion, List.length_map, lookup_values]
  split
  · next within => exact iff_of_false nofun fun out => out within
  · next out => exact iff_of_true rfl out

lemma lookdown_missed_iff (elements : List ListElement) :
    search.through .lookdown (expansion elements)
        = .missed (search.past .lookdown (expansion elements).length)
      ↔ search.key ∉ elements.flatMap ListElement.values := by
  rw [expansion, List.length_map, lookdown_values]
  split
  · next within => exact iff_of_false nofun fun out => out within
  · next out => exact iff_of_true rfl out

/-- **Looking up numbers.**  A list and its expansion agree all along just if every range in step
is, when as many numbers are still to go as it leaves of them. -/
theorem lookup_prefixes_iff {elements : List ListElement}
    (sized : ∀ first last, ListElement.range first last ∈ elements →
      rangeSize first last < 2 ^ 31) :
    (∀ front, front <+: elements →
        search.through .lookup front = search.through .lookup (expansion front))
      ↔ ∀ front first last back, elements = front ++ .range first last :: back →
        (expansion front).length ≤ (search.key - search.base).toNat →
          (search.past .lookup (expansion front).length).InStep first last := by
  rw [prefixes_iff]
  constructor
  · intro elementwise front first last back split reached
    have size := sized first last (by rw [split]; simp)
    exact (meet_lookup_range_iff _ size).mp
      (elementwise front _ back split ((search.lookup_missed_iff front).mpr reached))
  · intro inStep front element back split reached
    cases element with
    | single value => exact meet_single _ _ value
    | range first last =>
      have size := sized first last (by rw [split]; simp)
      exact (meet_lookup_range_iff _ size).mpr
        (inStep front first last back split ((search.lookup_missed_iff front).mp reached))

/-- In a list that counts from zero every range is in step for every number but negative ones. -/
lemma inStep_of_zeroBased (fromZero : search.base = 0) (natural : 0 ≤ signed search.key)
    {passed : Nat} (reached : passed ≤ (search.key - search.base).toNat) (first last : UInt32) :
    (search.past .lookup passed).InStep first last := by
  have bound := search.key.toNat_lt
  have half : search.key.toNat < 2 ^ 31 := by
    rw [signed_eq] at natural
    split at natural <;> omega
  rw [fromZero, UInt32.sub_zero] at reached
  have left : (search.key - .ofNat passed).toNat = search.key.toNat - passed := by
    rw [UInt32.toNat_sub, UInt32.toNat_ofNat']
    omega
  have number : signed (search.past .lookup passed).key = (search.key.toNat - passed : Nat) := by
    show signed (search.key - .ofNat passed) = _
    rw [signed_eq, left, if_pos (by omega)]
  have base : (search.past .lookup passed).base = 0 := fromZero
  refine ⟨?_, fun _ => .inr (by rw [base]; rfl)⟩
  rw [number, base, UInt32.sub_zero]
  show _ ↔ (search.key - .ofNat passed).toNat < _
  rw [left, Int.ofNat_lt]

/-- An element without the value is passed. -/
lemma through_of_not_mem {elements : List ListElement}
    (out : search.key ∉ elements.flatMap ListElement.values) :
    search.through .lookdown elements
      = .missed (search.past .lookdown (expansion elements).length) := by
  have agree : search.through .lookdown elements
      = search.through .lookdown (expansion elements) := by
    refine (prefixes_iff search .lookdown elements).mpr ?_ elements List.prefix_rfl
    rintro front element back rfl -
    cases element with
    | single value => exact meet_single _ _ value
    | range first last =>
      refine (meet_lookdown_range_iff _ first last).mpr fun between => absurd ?_ out
      rw [List.flatMap_append, List.flatMap_cons]
      exact List.mem_append_right _
        (List.mem_append_left _ (mem_rangeValues.mpr between))
  rw [agree]
  exact (search.lookdown_missed_iff elements).mpr out

/-- **Looking for values.**  A list and its expansion agree just if the first range that has the
value runs upwards, or has it in its middle. -/
theorem lookdown_expansion_iff (elements : List ListElement) :
    search.through .lookdown elements = search.through .lookdown (expansion elements)
      ↔ ∀ front first last back, elements = front ++ .range first last :: back →
        search.key ∉ front.flatMap ListElement.values → Between first last search.key →
          signed first ≤ signed last ∨ search.key - last = first - search.key := by
  constructor
  · rintro agree front first last back rfl out between
    have reached := (search.lookdown_missed_iff front).mpr out
    have met := agree
    rw [← List.singleton_append, expansion_append, expansion_append, through_append,
      through_append, through_of_not_mem search out, reached] at met
    let here := search.past .lookdown (expansion front).length
    have member : here.key ∈ rangeValues first last := mem_rangeValues.mpr between
    have compact : here.meet .lookdown (.range first last) = .found _ := if_pos between
    obtain ⟨value, single⟩ :
        ∃ value, here.through .lookdown (expansion [.range first last]) = .found value := by
      rw [expansion_singleton, ListElement.values, lookdown_values, if_pos member]
      exact ⟨_, rfl⟩
    -- both have found something in the range, so what comes behind it does not count
    rw [SearchResult.andThen, SearchResult.andThen, through_append, through_append,
      through_singleton, compact, single] at met
    exact (meet_lookdown_range_iff here first last).mp (by rw [compact, single]; exact met) between
  · intro upwards
    refine (prefixes_iff search .lookdown elements).mpr ?_ elements List.prefix_rfl
    intro front element back split reached
    cases element with
    | single value => exact meet_single _ _ value
    | range first last =>
      exact (meet_lookdown_range_iff _ first last).mpr fun between =>
        upwards front first last back split
          ((search.lookdown_missed_iff front).mp reached) between

end ListSearch

end SpinMachine

end P1Chip
