/-
This file takes apart computations that may fail. When one that is made of several succeeds, each
of its parts has succeeded; the lemmas here say so for one part after the other, for lists of
parts, and for a fold in which every part must succeed.
-/

import Entitlement.StoreError
import Mathlib.Data.List.Forall2

namespace Entitlement

variable {Error Item Value Result : Type}

/-! ### One part after the other -/

theorem bind_eq_ok {first : Except Error Value} {next : Value → Except Error Result}
    {result : Result} :
    (first >>= next) = .ok result ↔ ∃ value, first = .ok value ∧ next value = .ok result := by
  cases first with
  | error reason => simp [bind, Except.bind]
  | ok value => simp [bind, Except.bind]

theorem map_eq_ok {first : Except Error Value} {next : Value → Result} {result : Result} :
    first.map next = .ok result ↔ ∃ value, first = .ok value ∧ next value = result := by
  cases first with
  | error reason => simp [Except.map]
  | ok value => simp [Except.map]

theorem pure_eq_ok {value result : Value} :
    (pure value : Except Error Value) = .ok result ↔ value = result := by
  simp [pure, Except.pure]

theorem map_bind_eq {Other : Type} (first : Except Error Value)
    (next : Value → Except Error Result) (change : Result → Other) :
    (first >>= next).map change = first >>= fun value => (next value).map change := by
  cases first <;> rfl

theorem bind_map_eq {Other : Type} (first : Except Error Value) (change : Value → Result)
    (next : Result → Except Error Other) :
    (first.map change >>= next) = first >>= fun value => next (change value) := by
  cases first <;> rfl

/-- Two computations that come to the same up to a change of their values both fail, for the same
reason, or both succeed. -/
theorem cases_of_map_eq_map {change : Value → Result} {first second : Except Error Value}
    (same : first.map change = second.map change) :
    (∃ reason, first = .error reason ∧ second = .error reason) ∨
      ∃ value other, first = .ok value ∧ second = .ok other ∧ change value = change other := by
  cases first with
  | error reason =>
    cases second with
    | error other => exact Or.inl ⟨reason, rfl, congrArg _ (Except.error.inj same).symm⟩
    | ok => cases same
  | ok value =>
    cases second with
    | error => cases same
    | ok other => exact Or.inr ⟨value, other, rfl, rfl, Except.ok.inj same⟩

theorem mapError_eq_ok {Other : Type} {result : Except Error Value} {change : Error → Other}
    {value : Value} : result.mapError change = .ok value ↔ result = .ok value := by
  cases result with
  | error reason => simp [Except.mapError]
  | ok found => simp [Except.mapError]

@[simp] theorem StoreError.lift_eq_ok {result : Except ModelError Value} {value : Value} :
    StoreError.lift result = .ok value ↔ result = .ok value :=
  mapError_eq_ok

/-! ### Lists of parts -/

/-- Each result of a list comes from one of the items. -/
theorem mem_of_mapM_eq_ok {compute : Item → Except Error Value} {items : List Item}
    {values : List Value} (computed : items.mapM compute = .ok values) :
    ∀ value ∈ values, ∃ item ∈ items, compute item = .ok value := by
  induction items generalizing values with
  | nil =>
    rw [List.mapM_nil, pure_eq_ok] at computed
    simp [← computed]
  | cons item rest inductionHypothesis =>
    rw [List.mapM_cons, bind_eq_ok] at computed
    obtain ⟨first, firstOk, computed⟩ := computed
    obtain ⟨others, othersOk, computed⟩ := bind_eq_ok.1 computed
    intro value member
    rw [← pure_eq_ok.1 computed, List.mem_cons] at member
    rcases member with rfl | member
    · exact ⟨item, List.mem_cons_self, firstOk⟩
    · obtain ⟨other, otherMember, otherOk⟩ := inductionHypothesis othersOk value member
      exact ⟨other, List.mem_cons_of_mem _ otherMember, otherOk⟩

/-- The results of a list are those of its items, one by one. -/
theorem forall₂_of_mapM_eq_ok {compute : Item → Except Error Value} {items : List Item}
    {values : List Value} (computed : items.mapM compute = .ok values) :
    List.Forall₂ (fun item value => compute item = .ok value) items values := by
  induction items generalizing values with
  | nil =>
    rw [List.mapM_nil, pure_eq_ok] at computed
    exact computed ▸ .nil
  | cons item rest inductionHypothesis =>
    rw [List.mapM_cons, bind_eq_ok] at computed
    obtain ⟨first, firstOk, computed⟩ := computed
    obtain ⟨others, othersOk, computed⟩ := bind_eq_ok.1 computed
    rw [← pure_eq_ok.1 computed]
    exact .cons firstOk (inductionHypothesis othersOk)

/-- A list of parts that all succeed succeeds. -/
theorem exists_mapM_eq_ok {compute : Item → Except Error Value} {items : List Item}
    (computes : ∀ item ∈ items, ∃ value, compute item = .ok value) :
    ∃ values, items.mapM compute = .ok values ∧
      ∀ value, value ∈ values ↔ ∃ item ∈ items, compute item = .ok value := by
  induction items with
  | nil => exact ⟨[], rfl, by simp⟩
  | cons item rest inductionHypothesis =>
    obtain ⟨first, firstOk⟩ := computes item List.mem_cons_self
    obtain ⟨others, othersOk, member⟩ := inductionHypothesis fun other isMember =>
      computes other (List.mem_cons_of_mem _ isMember)
    refine ⟨first :: others, ?_, fun value => ?_⟩
    · rw [List.mapM_cons, firstOk, othersOk]
      rfl
    · rw [List.mem_cons, List.exists_mem_cons_iff, member, firstOk, Except.ok.injEq, eq_comm]

theorem mem_filterAuxM_eq_ok {test : Item → Except Error Bool} {items kept passed : List Item}
    (filtered : List.filterAuxM test items passed = .ok kept) (item : Item) :
    item ∈ kept ↔ item ∈ passed ∨ (item ∈ items ∧ test item = .ok true) := by
  induction items generalizing passed with
  | nil =>
    obtain rfl := pure_eq_ok.1 filtered
    simp
  | cons first rest inductionHypothesis =>
    obtain ⟨passes, tested, filtered⟩ := bind_eq_ok.1 filtered
    rw [inductionHypothesis filtered, List.mem_cons]
    cases passes with
    | false =>
      have refused : item = first → test item ≠ .ok true := by
        rintro rfl
        rw [tested]
        simp
      dsimp only [cond_false]
      tauto
    | true =>
      have accepted : item = first → test item = .ok true := by
        rintro rfl
        exact tested
      dsimp only [cond_true]
      rw [List.mem_cons]
      tauto

/-- What a filter leaves of a list are the items that pass its test. -/
theorem mem_filterM_eq_ok {test : Item → Except Error Bool} {items kept : List Item}
    (filtered : items.filterM test = .ok kept) (item : Item) :
    item ∈ kept ↔ item ∈ items ∧ test item = .ok true := by
  obtain ⟨passed, filtered, reversed⟩ := bind_eq_ok.1 filtered
  rw [← pure_eq_ok.1 reversed, List.mem_reverse, mem_filterAuxM_eq_ok filtered]
  simp

theorem exists_filterAuxM_eq_ok {test : Item → Except Error Bool} {items : List Item}
    (tests : ∀ item ∈ items, ∃ passes, test item = .ok passes) (passed : List Item) :
    ∃ kept, List.filterAuxM test items passed = .ok kept := by
  induction items generalizing passed with
  | nil => exact ⟨passed, rfl⟩
  | cons first rest inductionHypothesis =>
    obtain ⟨passes, tested⟩ := tests first List.mem_cons_self
    obtain ⟨kept, filtered⟩ := inductionHypothesis
      (fun item member => tests item (List.mem_cons_of_mem _ member))
      (cond passes (first :: passed) passed)
    exact ⟨kept, bind_eq_ok.2 ⟨passes, tested, filtered⟩⟩

/-- A filter whose test always succeeds succeeds. -/
theorem exists_filterM_eq_ok {test : Item → Except Error Bool} {items : List Item}
    (tests : ∀ item ∈ items, ∃ passes, test item = .ok passes) :
    ∃ kept, items.filterM test = .ok kept := by
  obtain ⟨passed, filtered⟩ := exists_filterAuxM_eq_ok tests []
  exact ⟨passed.reverse, bind_eq_ok.2 ⟨passed, filtered, rfl⟩⟩

/-- What every step of a fold keeps, a fold that succeeds keeps. -/
theorem foldlM_keeps {State : Type} {step : State → Item → Except Error State}
    {property : State → Prop} {items : List Item} {start final : State} (begins : property start)
    (keeps : ∀ item ∈ items, ∀ state next, property state → step state item = .ok next →
      property next)
    (folded : items.foldlM step start = .ok final) : property final := by
  induction items generalizing start with
  | nil =>
    rw [List.foldlM_nil, pure_eq_ok] at folded
    exact folded ▸ begins
  | cons item rest inductionHypothesis =>
    rw [List.foldlM_cons, bind_eq_ok] at folded
    obtain ⟨next, stepped, folded⟩ := folded
    exact inductionHypothesis (keeps item List.mem_cons_self start next begins stepped)
      (fun other member => keeps other (List.mem_cons_of_mem _ member)) folded

end Entitlement
