import Mathlib.Data.List.Forall2
import Schemata.ReadError

/-!
# Outcomes that may be refusals

Readers give a value or refuse. Here is what an accepted outcome of several steps says about the
steps: each was accepted, and a fold of accepted steps keeps what every step keeps. Steps on all
items of a list are refused as the first item is that is refused.
-/

namespace Schemata

variable {Problem Item State Value Result : Type}

/-- Nothing is done behind an error. -/
theorem error_bind (problem : Problem) (next : Value → Except Problem Result) :
    (Except.error problem >>= next) = .error problem := rfl

/-- What follows goes on with the value. -/
theorem ok_bind (value : Value) (next : Value → Except Problem Result) :
    (Except.ok value >>= next) = next value := rfl

/-- Two steps give a value only if the first gives one, from which the second goes on. -/
theorem of_bind_eq_ok {first : Except Problem Value} {next : Value → Except Problem Result}
    {result : Result} (accepted : first >>= next = .ok result) :
    ∃ value, first = .ok value ∧ next value = .ok result := by
  cases first with
  | error problem => cases accepted
  | ok value => exact ⟨value, rfl, accepted⟩

/-- Two steps are refused only if one of them is. -/
theorem of_bind_eq_error {first : Except Problem Value} {next : Value → Except Problem Result}
    {problem : Problem} (refused : first >>= next = .error problem) :
    first = .error problem ∨ ∃ value, first = .ok value ∧ next value = .error problem := by
  cases first with
  | error other =>
      cases refused
      exact .inl rfl
  | ok value => exact .inr ⟨value, rfl, refused⟩

/-- A view of an outcome is a value exactly if the outcome is one. -/
theorem map_eq_ok_iff {outcome : Except Problem Value} {view : Value → Result} {result : Result} :
    outcome.map view = .ok result ↔ ∃ value, outcome = .ok value ∧ view value = result := by
  cases outcome <;> simp [Except.map]

/-- A view of an outcome has the same errors. -/
theorem map_eq_error_iff {outcome : Except Problem Value} {view : Value → Result}
    {problem : Problem} : outcome.map view = .error problem ↔ outcome = .error problem := by
  cases outcome <;> simp [Except.map]

/-- Steps that go on alike from every value the first step gives have one outcome. -/
theorem bind_congr_of_ok {first : Except Problem Value} {next other : Value → Except Problem Result}
    (alike : ∀ value, first = .ok value → next value = other value) :
    first >>= next = first >>= other := by
  cases first with
  | error problem => rfl
  | ok value => exact alike value rfl

/-- What the steps on all items of a fold keep holds at its end. -/
theorem foldlM_keeps_of_mem {step : State → Item → Except Problem State}
    (invariant : State → Prop) {items : List Item}
    (kept : ∀ item ∈ items, ∀ state next, invariant state → step state item = .ok next →
      invariant next)
    {start finish : State} (holds : invariant start)
    (accepted : items.foldlM step start = .ok finish) : invariant finish := by
  induction items generalizing start with
  | nil =>
      cases accepted
      exact holds
  | cons item items inductionHypothesis =>
      obtain ⟨keptFirst, keptOthers⟩ := List.forall_mem_cons.1 kept
      obtain ⟨next, stepped, others⟩ := of_bind_eq_ok accepted
      exact inductionHypothesis keptOthers (keptFirst start next holds stepped) others

/-- What every step of a fold keeps holds at its end. -/
theorem foldlM_keeps {step : State → Item → Except Problem State} (invariant : State → Prop)
    (kept : ∀ state item next, invariant state → step state item = .ok next → invariant next)
    {items : List Item} {start finish : State} (holds : invariant start)
    (accepted : items.foldlM step start = .ok finish) : invariant finish :=
  foldlM_keeps_of_mem invariant (fun item _ state next => kept state item next) holds accepted

/-- In lists that are related item by item, every item on the left has a partner. -/
theorem exists_zip_of_mem_left {Relates : Item → Value → Prop} {items : List Item}
    {values : List Value} (related : List.Forall₂ Relates items values) {item : Item}
    (member : item ∈ items) : ∃ value, (item, value) ∈ items.zip values ∧ Relates item value := by
  rw [← List.map_fst_zip (Nat.le_of_eq related.length_eq)] at member
  obtain ⟨⟨_, value⟩, paired, rfl⟩ := List.mem_map.1 member
  exact ⟨value, paired, List.forall₂_zip related paired⟩

/-- In lists that are related item by item, every value on the right has a partner. -/
theorem exists_zip_of_mem_right {Relates : Item → Value → Prop} {items : List Item}
    {values : List Value} (related : List.Forall₂ Relates items values) {value : Value}
    (member : value ∈ values) : ∃ item, (item, value) ∈ items.zip values ∧ Relates item value := by
  rw [← List.map_snd_zip (Nat.le_of_eq related.length_eq.symm)] at member
  obtain ⟨⟨item, _⟩, paired, rfl⟩ := List.mem_map.1 member
  exact ⟨item, paired, List.forall₂_zip related paired⟩

/-- Steps on all items give values exactly if every step gives the value of its item. -/
theorem mapM_eq_ok_iff {step : Item → Except Problem Value} {items : List Item}
    {values : List Value} :
    items.mapM step = .ok values ↔
      List.Forall₂ (fun item value => step item = .ok value) items values := by
  induction items generalizing values with
  | nil =>
      rw [List.mapM_nil, List.forall₂_nil_left_iff]
      exact ⟨fun given => (Except.ok.inj given).symm, fun empty => congrArg Except.ok empty.symm⟩
  | cons item items inductionHypothesis =>
      rw [List.mapM_cons]
      constructor
      · intro accepted
        obtain ⟨value, first, others⟩ := of_bind_eq_ok accepted
        obtain ⟨rest, given, equal⟩ := of_bind_eq_ok others
        cases equal
        exact .cons first (inductionHypothesis.1 given)
      · rintro (_ | ⟨first, others⟩)
        rw [first, inductionHypothesis.2 others]
        rfl

/-- Steps on all items are refused as the first item is that is refused. -/
theorem exists_of_mapM_eq_error {step : Item → Except Problem Value} {items : List Item}
    {problem : Problem} (refused : items.mapM step = .error problem) :
    ∃ before item after, items = before ++ item :: after ∧
      (∀ earlier ∈ before, ∃ value, step earlier = .ok value) ∧ step item = .error problem := by
  induction items with
  | nil => cases refused
  | cons first items inductionHypothesis =>
      rw [List.mapM_cons] at refused
      cases given : step first with
      | error other =>
          rw [given, error_bind] at refused
          cases refused
          exact ⟨[], first, items, rfl, List.forall_mem_nil _, given⟩
      | ok value =>
          rw [given, ok_bind] at refused
          cases rest : items.mapM step with
          | ok values =>
              rw [rest, ok_bind] at refused
              cases refused
          | error other =>
              rw [rest, error_bind] at refused
              cases refused
              obtain ⟨before, item, after, rfl, accepted, itemRefused⟩ := inductionHypothesis rest
              exact ⟨first :: before, item, after, rfl,
                List.forall_mem_cons.2 ⟨⟨value, given⟩, accepted⟩, itemRefused⟩

/-- An outcome is decided as an option, without comparing refusals. -/
theorem eq_ok_of_toOption {outcome : Except Problem Value} {value : Value}
    (accepted : outcome.toOption = some value) : outcome = .ok value := by
  cases outcome with
  | error problem => cases accepted
  | ok other => exact congrArg Except.ok (Option.some.inj accepted)

end Schemata
