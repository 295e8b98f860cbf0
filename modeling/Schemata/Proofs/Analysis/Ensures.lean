import Schemata.Analysis.Checked

/-!
# Steps that leave no problem

A schema is accepted only if no step of its resolution reported a problem.
`Checked.Ensures` says what holds of the value of such a step. The lemmas of this
module carry it through the ways in which steps are put together, so that what a
step ensures is proved once, and its callers never open it again.
-/

namespace Schemata.Analysis.Checked

variable {α β : Type}

/-- A step ensures a property of its value: the property holds unless a problem was reported. -/
def Ensures (checked : Checked α) (property : α → Prop) : Prop :=
  checked.problems = [] → property checked.value

/-- A step gives a value when it reports no problem and this is its value. -/
def Gives (checked : Checked α) (value : α) : Prop :=
  checked.problems = [] ∧ checked.value = value

/-- What a step ensures holds of the value it gives. -/
theorem Ensures.of_gives {checked : Checked α} {property : α → Prop} {value : α}
    (ensures : checked.Ensures property) (gives : checked.Gives value) : property value :=
  gives.2 ▸ ensures gives.1

/-- A step ensures that its value is the one it gives. -/
theorem ensures_gives (checked : Checked α) : checked.Ensures checked.Gives :=
  fun clean => ⟨clean, rfl⟩

/-- A weaker property is ensured too. -/
theorem Ensures.mono {checked : Checked α} {strong weak : α → Prop}
    (ensures : checked.Ensures strong) (weaken : ∀ value, strong value → weak value) :
    checked.Ensures weak :=
  fun clean => weaken _ (ensures clean)

/-- What a step ensures in two ways holds together. -/
theorem Ensures.and {checked : Checked α} {first second : α → Prop}
    (ensuresFirst : checked.Ensures first) (ensuresSecond : checked.Ensures second) :
    checked.Ensures fun value => first value ∧ second value :=
  fun clean => ⟨ensuresFirst clean, ensuresSecond clean⟩

/-- A value that is given without any problem ensures what holds of it. -/
theorem ensures_pure {property : α → Prop} {value : α} (holds : property value) :
    (pure value : Checked α).Ensures property :=
  fun _ => holds

/-- The second of two steps may rely on what the first one ensures. -/
theorem Ensures.bind {first : Checked α} {next : α → Checked β} {middle : α → Prop}
    {property : β → Prop} (ensures : first.Ensures middle)
    (continues : ∀ value, middle value → (next value).Ensures property) :
    (first >>= next).Ensures property := by
  intro clean
  rw [problems_bind, List.append_eq_nil_iff] at clean
  exact continues _ (ensures clean.1) clean.2

/-- After reported problems nothing is left to ensure, unless there were none. -/
theorem ensures_reportAll (problems : List Problem) :
    (reportAll problems).Ensures fun _ => problems = [] :=
  fun clean => clean

/-- A step that begins with a report ensures everything. -/
theorem ensures_report_bind {position : Position} {cause : Cause} {next : Unit → Checked β}
    {property : β → Prop} : (report position cause >>= next).Ensures property := by
  refine Ensures.bind (ensures_reportAll [⟨position, cause⟩]) ?_
  intro _ empty
  cases empty

/-- A value that is kept only without problems is kept, and is as ensured. -/
theorem Ensures.ifClean {checked : Checked α} {property : α → Prop}
    (ensures : checked.Ensures property) :
    checked.ifClean.Ensures fun result => ∃ value, result = some value ∧ property value := by
  intro clean
  rw [problems_ifClean] at clean
  exact ⟨checked.value, (value_ifClean_eq_some_iff _ _).2 ⟨clean, rfl⟩, ensures clean⟩

/--
A fold ensures an invariant at its end. The invariant speaks of the items that are
still to come, so that it can say what was done for those that came already.
-/
theorem ensures_foldlM (step : β → α → Checked β) (invariant : List α → β → Prop)
    (preserved : ∀ item items state, invariant (item :: items) state →
      (step state item).Ensures (invariant items))
    (items : List α) (start : β) (holds : invariant items start) :
    (items.foldlM step start).Ensures (invariant []) := by
  induction items generalizing start with
  | nil => exact ensures_pure holds
  | cons item items inductionHypothesis =>
      rw [List.foldlM_cons]
      exact (preserved item items start holds).bind inductionHypothesis

/-- Items that are resolved one by one: every value was given by one of them. -/
theorem ensures_mapM (step : α → Checked β) (items : List α) :
    (items.mapM step).Ensures fun values =>
      ∀ value ∈ values, ∃ item ∈ items, (step item).Gives value := by
  induction items with
  | nil => exact ensures_pure (by simp)
  | cons item items inductionHypothesis =>
      rw [List.mapM_cons]
      refine (ensures_gives (step item)).bind fun first gives => ?_
      refine inductionHypothesis.bind fun others othersGiven => ensures_pure ?_
      intro value member
      rcases List.mem_cons.1 member with rfl | member
      · exact ⟨item, List.mem_cons_self, gives⟩
      · obtain ⟨source, sourceMem, sourceGives⟩ := othersGiven value member
        exact ⟨source, List.mem_cons_of_mem item sourceMem, sourceGives⟩

end Schemata.Analysis.Checked
