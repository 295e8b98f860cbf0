import Schemata.Proofs.Analysis.Independence

/-!
# Flags fall where problems are recorded

A query is resolved up to its end, also behind a problem, and is kept if every step went well. To
know that, a flag can be handed from step to step, which falls with the first step that goes wrong.
Resolution keeps no flags: it asks whether a problem was recorded (`Checked.ifClean`). Here the
steps of a query are taken with flags. A flag falls exactly where a problem is recorded
(`Checked.flagged`), so the same queries are kept (`selectFlagged_eq`, `updateFlagged_eq`,
`filteredFlagged_eq`).
-/

namespace Schemata.Analysis

namespace Checked

variable {α β : Type}

/-- A value, and whether no problem was met on the way to it. -/
def flagged (checked : Checked α) : Checked (α × Bool) :=
  ⟨(checked.value, checked.isClean), checked.problems⟩

/-- Two steps go well together if each of them does. -/
theorem flagged_bind (first : Checked α) (next : α → Checked β) :
    (first >>= next).flagged = (do
      let (value, ok) ← first.flagged
      let (result, others) ← (next value).flagged
      return (result, ok && others)) := by
  have clean : (first >>= next).isClean = (first.isClean && (next first.value).isClean) := by
    rw [isClean, isClean, problems_bind]
    cases first.problems <;> rfl
  have problems : (first >>= next).problems =
      first.problems ++ ((next first.value).problems ++ []) := by simp
  rw [flagged, clean, problems]
  rfl

/-- What is kept while there is no problem is kept while the flag stands. -/
theorem ifClean_eq_flagged (checked : Checked α) :
    checked.ifClean = (do
      let (value, ok) ← checked.flagged
      return if ok then some value else none) := by
  have problems : checked.problems = checked.problems ++ [] := by simp
  rw [ifClean, problems]
  rfl

/-- A step that finds something, or else records a problem. -/
abbrev Finds (checked : Checked (Option α)) : Prop :=
  checked.Settles fun _ => True

/-- What is looked for is found without a problem, or there is a problem. -/
theorem Finds.eq_or {checked : Checked (Option α)} (finds : checked.Finds) :
    (∃ value, checked = pure (some value)) ∨
      ∃ problem others, checked = ⟨none, problem :: others⟩ := by
  cases finds with
  | @resolved value _ => exact .inl ⟨value, rfl⟩
  | refused problem others => exact .inr ⟨problem, others, rfl⟩

/-- The flag of a step that finds something says whether it was found. -/
theorem Finds.flagged_eq {checked : Checked (Option α)} (finds : checked.Finds) :
    (do
      let found ← checked
      return (found, found.isSome)) = checked.flagged := by
  obtain ⟨value, rfl⟩ | ⟨problem, others, rfl⟩ := finds.eq_or
  · rfl
  · have problems : (problem :: others) ++ [] = problem :: others := by simp
    exact congrArg (Checked.mk (none, false)) problems

/-- Something is found behind a step that finds something, and nothing behind one that does not. -/
theorem Finds.bind {first : Checked (Option α)} {next : Option α → Checked (Option β)}
    (finds : first.Finds) (stops : next none = pure none)
    (continues : ∀ value, (next (some value)).Finds) : (first >>= next).Finds := by
  obtain ⟨value, rfl⟩ | ⟨problem, others, rfl⟩ := finds.eq_or
  · rw [pure_bind]
    exact continues value
  · have missed : (⟨none, problem :: others⟩ : Checked (Option α)) >>= next =
        ⟨none, problem :: (others ++ [])⟩ := by
      have value : (⟨none, problem :: others⟩ : Checked (Option α)) >>= next =
          ⟨(next none).value, (problem :: others) ++ (next none).problems⟩ := rfl
      rw [value, stops]
      rfl
    rw [missed]
    exact .refused problem _

end Checked

open Checked

variable (catalog : Catalog)

/-! ## Names -/

/-- A name stands for a model, or a problem says that it does not. -/
theorem resolveModel_finds (name : Name) : (resolveModel catalog name).Finds := by
  unfold resolveModel
  cases catalog.modelId? name.text with
  | some id => exact .resolved trivial
  | none => exact .refused _ _

/-- A reference stands for a column, or a problem says that it does not. -/
theorem resolveColumn_finds (ref : Declaration.ColumnRef) : (resolveColumn catalog ref).Finds := by
  refine (resolveModel_finds catalog ref.model).bind rfl fun id => ?_
  dsimp only
  cases (catalog.model id).fieldId? ref.field.text with
  | some field => exact .resolved trivial
  | none => exact .refused _ _

/-- The right side of a condition stands for something, or there is a problem. -/
theorem resolveOperand_finds (operand : Declaration.Operand) :
    (resolveOperand catalog operand).Finds := by
  cases operand with
  | placeholder => exact .resolved trivial
  | literal value => exact .resolved trivial
  | column ref => exact (resolveColumn_finds catalog ref).bind rfl fun _ => .resolved trivial

/-- What a select asks for is found, or there is a problem. -/
theorem resolveProjection_finds (declared : Declaration.Projection) :
    (resolveProjection catalog declared).Finds := by
  cases declared with
  | model name => exact (resolveModel_finds catalog name).bind rfl fun _ => .resolved trivial
  | field ref => exact (resolveColumn_finds catalog ref).bind rfl fun _ => .resolved trivial

/-- A request for pages can be met, or there is a problem. -/
theorem resolvePaging_finds (base : ModelId) (declared : Declaration.Paging) :
    (resolvePaging catalog base declared).Finds := by
  refine (resolveColumn_finds catalog declared.column).bind rfl fun column => ?_
  dsimp only
  split
  · exact .refused _ _
  · split
    · exact .resolved trivial
    · exact .refused _ _

/-! ## Joins -/

/-- Add an explicit join, with a flag. -/
def joinFlagged (scope : Scope) (declared : Declaration.Join) : Checked (Scope × Bool) := do
  let left ← resolveColumn catalog declared.left
  let right ← resolveColumn catalog declared.right
  match left, right with
  | some left, some right =>
    let leftName := catalog.displayName left
    let rightName := catalog.displayName right
    if catalog.relations.any (·.connects left right) then
      match scope.contains left.model, scope.contains right.model with
      | true, false => return (scope.join [⟨left, right⟩], true)
      | false, true => return (scope.join [⟨right, left⟩], true)
      | true, true =>
        reportQuery declared.position (.joinRepeats leftName rightName)
        return (scope, false)
      | false, false =>
        reportQuery declared.position (.joinDetached leftName rightName)
        return (scope, false)
    else
      report declared.position (.invalidJoin leftName rightName)
      return (scope, false)
  | _, _ => return (scope, false)

/-- The flag of an explicit join falls exactly if a problem is recorded. -/
theorem joinFlagged_eq (scope : Scope) (declared : Declaration.Join) :
    joinFlagged catalog scope declared = (joinExplicitly catalog scope declared).flagged := by
  unfold joinFlagged joinExplicitly
  obtain ⟨left, isLeft⟩ | ⟨problem, others, isLeft⟩ :=
    (resolveColumn_finds catalog declared.left).eq_or <;>
  obtain ⟨right, isRight⟩ | ⟨second, rest, isRight⟩ :=
    (resolveColumn_finds catalog declared.right).eq_or <;>
  rw [isLeft, isRight]
  · rw [pure_bind, pure_bind, pure_bind, pure_bind]
    dsimp only
    split
    · cases scope.contains left.model <;> cases scope.contains right.model <;> rfl
    · rfl
  all_goals rfl

/-- Add explicit joins in order, with a flag. -/
def joinsFlagged : Scope → List Declaration.Join → Checked (Scope × Bool)
  | scope, [] => pure (scope, true)
  | scope, declared :: others => do
    let (scope, ok) ← joinFlagged catalog scope declared
    let (scope, rest) ← joinsFlagged scope others
    return (scope, ok && rest)

/-- The flag of explicit joins falls exactly if a problem is recorded for one of them. -/
theorem joinsFlagged_eq (scope : Scope) (declared : List Declaration.Join) :
    joinsFlagged catalog scope declared =
      (declared.foldlM (joinExplicitly catalog) scope).flagged := by
  induction declared generalizing scope with
  | nil => rfl
  | cons declared others inductionHypothesis =>
      rw [joinsFlagged, List.foldlM_cons, flagged_bind, joinFlagged_eq]
      simp only [inductionHypothesis]

/-- Bring a model into a query, with a flag. -/
def reachFlagged (position : Position) (scope : Scope) (model : ModelId) :
    Checked (Scope × Bool) :=
  if scope.contains model then
    return (scope, true)
  else
    let base := (catalog.model scope.base).name
    let target := (catalog.model model).name
    match inferPath catalog scope.members model with
    | .ok joins => return (scope.join joins, true)
    | .error .ambiguous => do
      report position (.ambiguousJoin base target)
      return (scope, false)
    | .error .unreachable => do
      report position (.unreachable base target)
      return (scope, false)

/-- The flag of a model to bring in falls exactly if there is no one way to it. -/
theorem reachFlagged_eq (position : Position) (scope : Scope) (model : ModelId) :
    reachFlagged catalog position scope model = (reach catalog position scope model).flagged := by
  unfold reachFlagged reach
  split
  · rfl
  · dsimp only
    obtain (_ | _) | joins := inferPath catalog scope.members model <;> rfl

/-- Bring models into a query in order, with a flag. -/
def reachAllFlagged (position : Position) : Scope → List ModelId → Checked (Scope × Bool)
  | scope, [] => pure (scope, true)
  | scope, model :: others => do
    let (scope, ok) ← reachFlagged catalog position scope model
    let (scope, rest) ← reachAllFlagged position scope others
    return (scope, ok && rest)

/-- The flag of models to bring in falls exactly if a problem is recorded for one of them. -/
theorem reachAllFlagged_eq (position : Position) (scope : Scope) (models : List ModelId) :
    reachAllFlagged catalog position scope models =
      (models.foldlM (reach catalog position) scope).flagged := by
  induction models generalizing scope with
  | nil => rfl
  | cons model others inductionHypothesis =>
      rw [reachAllFlagged, List.foldlM_cons, flagged_bind, reachFlagged_eq]
      simp only [inductionHypothesis]

/-! ## Conditions -/

/-- Bring in the model that an operand mentions, with a flag. -/
def reachOperandFlagged (position : Position) (scope : Scope) : Operand → Checked (Scope × Bool)
  | .column column => reachFlagged catalog position scope column.model
  | _ => return (scope, true)

/-- The flag of an operand falls exactly if its model cannot be brought in. -/
theorem reachOperandFlagged_eq (position : Position) (scope : Scope) (operand : Operand) :
    reachOperandFlagged catalog position scope operand =
      (reachOperand catalog position scope operand).flagged := by
  cases operand with
  | placeholder => rfl
  | literal value => rfl
  | column column => exact reachFlagged_eq catalog position scope column.model

/-- Resolve a condition and bring in the models it mentions, with a flag. -/
def conditionFlagged (scope : Scope) (declared : Declaration.Condition) :
    Checked ((Scope × List Condition) × Bool) := do
  let left ← resolveColumn catalog declared.left
  let right ← resolveOperand catalog declared.right
  match left, right with
  | some left, some right =>
    let (scope, leftOk) ← reachFlagged catalog declared.left.position scope left.model
    let (scope, rightOk) ← reachOperandFlagged catalog declared.position scope right
    let condition : Condition := ⟨left, declared.op, right⟩
    match conditionFault? catalog condition with
    | none => return ((scope, [condition]), leftOk && rightOk)
    | some fault =>
      reportQuery declared.position fault
      return ((scope, []), false)
  | _, _ => return ((scope, []), false)

/-- The flag of a condition falls exactly if a problem is recorded for it. -/
theorem conditionFlagged_eq (scope : Scope) (declared : Declaration.Condition) :
    conditionFlagged catalog scope declared =
      (resolveCondition catalog scope declared).flagged := by
  unfold conditionFlagged resolveCondition
  obtain ⟨left, isLeft⟩ | ⟨problem, others, isLeft⟩ :=
    (resolveColumn_finds catalog declared.left).eq_or <;>
  obtain ⟨right, isRight⟩ | ⟨second, rest, isRight⟩ :=
    (resolveOperand_finds catalog declared.right).eq_or <;>
  rw [isLeft, isRight]
  · rw [pure_bind, pure_bind, pure_bind, pure_bind]
    dsimp only
    rw [reachFlagged_eq, flagged_bind]
    refine bind_congr fun reached => ?_
    obtain ⟨scope, leftOk⟩ := reached
    dsimp only
    rw [flagged_bind, reachOperandFlagged_eq, bind_assoc]
    refine bind_congr fun mentioned => ?_
    obtain ⟨scope, rightOk⟩ := mentioned
    cases conditionFault? catalog ⟨left, declared.op, right⟩ with
    | none => cases leftOk <;> cases rightOk <;> rfl
    | some fault => cases leftOk <;> cases rightOk <;> rfl
  all_goals rfl

/-- Resolve conditions in order, with a flag. -/
def conditionsFlagged :
    Scope → List Declaration.Condition → Checked ((Scope × List Condition) × Bool)
  | scope, [] => pure ((scope, []), true)
  | scope, declared :: others => do
    let ((scope, first), ok) ← conditionFlagged catalog scope declared
    let ((scope, rest), restOk) ← conditionsFlagged scope others
    return ((scope, first ++ rest), ok && restOk)

/-- The flag of conditions falls exactly if a problem is recorded for one of them. -/
theorem conditionsFlagged_eq (scope : Scope) (declared : List Declaration.Condition) :
    conditionsFlagged catalog scope declared =
      (resolveConditions catalog scope declared).flagged := by
  induction declared generalizing scope with
  | nil => rfl
  | cons declared others inductionHypothesis =>
      rw [conditionsFlagged, resolveConditions, flagged_bind, conditionFlagged_eq]
      refine bind_congr fun first => ?_
      obtain ⟨⟨scope, first⟩, ok⟩ := first
      dsimp only
      rw [inductionHypothesis, flagged_bind, bind_assoc]
      refine bind_congr fun rest => ?_
      obtain ⟨⟨scope, rest⟩, restOk⟩ := rest
      cases ok <;> cases restOk <;> rfl

/-! ## Selects -/

/-- Resolve what a select asks for, with a flag. -/
def projectionsFlagged (position : Position) :
    List Projection → List Declaration.Projection → Checked (List Projection × Bool)
  | found, [] => pure (found, true)
  | found, declared :: others => do
    match ← resolveProjection catalog declared with
    | none =>
      let (found, _) ← projectionsFlagged position found others
      return (found, false)
    | some projection =>
      if found.contains projection then
        reportQuery position .repeatedProjection
        let (found, _) ← projectionsFlagged position found others
        return (found, false)
      else
        projectionsFlagged position (found ++ [projection]) others

/-- The flag of what a select asks for falls exactly if a problem is recorded. -/
theorem projectionsFlagged_eq (position : Position) (found : List Projection)
    (declared : List Declaration.Projection) :
    projectionsFlagged catalog position found declared =
      (resolveProjections catalog position found declared).flagged := by
  induction declared generalizing found with
  | nil => rfl
  | cons declared others inductionHypothesis =>
      rw [projectionsFlagged, resolveProjections]
      obtain ⟨projection, isFound⟩ | ⟨problem, rest, missed⟩ :=
        (resolveProjection_finds catalog declared).eq_or
      · rw [isFound, pure_bind, pure_bind]
        dsimp only
        split
        · rw [inductionHypothesis, flagged_bind]
          rfl
        · exact inductionHypothesis _
      · rw [missed, flagged_bind]
        simp only [inductionHypothesis]
        rfl

/-- Resolve a request for pages, with a flag that falls if there is one and it is not resolved. -/
def pagingFlagged (base : ModelId) :
    Option Declaration.Paging → Checked (Option Paging × Bool)
  | none => return (none, true)
  | some declared => do
    let paging ← resolvePaging catalog base declared
    return (paging, paging.isSome)

/-- The flag of a request for pages falls exactly if it cannot be met. -/
theorem pagingFlagged_eq (base : ModelId) (declared : Option Declaration.Paging) :
    pagingFlagged catalog base declared = (resolvePaging? catalog base declared).flagged := by
  cases declared with
  | none => rfl
  | some declared =>
      rw [pagingFlagged, resolvePaging?]
      exact (resolvePaging_finds catalog base declared).flagged_eq

/-- Resolve the parts of a select that starts from a model, with a flag. -/
def draftFlagged (projections : List Projection) (base : ModelId)
    (declared : Declaration.Select) : Checked (SelectDraft × Bool) := do
  let (scope, joined) ← joinsFlagged catalog ⟨base, []⟩ declared.joins
  let (scope, reached) ← reachAllFlagged catalog declared.position scope
    (projections.map Projection.source)
  let ((scope, conditions), compared) ← conditionsFlagged catalog scope declared.conditions
  let (paging, paged) ← pagingFlagged catalog base declared.paging
  return (⟨projections, scope, conditions, paging⟩, joined && reached && compared && paged)

/-- The flag of the parts of a select falls exactly if a problem is recorded for one of them. -/
theorem draftFlagged_eq (projections : List Projection) (base : ModelId)
    (declared : Declaration.Select) :
    draftFlagged catalog projections base declared =
      (draftSelect catalog projections base declared).flagged := by
  rw [draftFlagged, draftSelect, flagged_bind, joinsFlagged_eq]
  refine bind_congr fun step => ?_
  obtain ⟨scope, joined⟩ := step
  dsimp only
  rw [flagged_bind, reachAllFlagged_eq, bind_assoc]
  refine bind_congr fun step => ?_
  obtain ⟨scope, reached⟩ := step
  dsimp only
  rw [flagged_bind, conditionsFlagged_eq, bind_assoc, bind_assoc]
  refine bind_congr fun step => ?_
  obtain ⟨⟨scope, conditions⟩, compared⟩ := step
  dsimp only
  rw [flagged_bind, pagingFlagged_eq, bind_assoc, bind_assoc]
  refine bind_congr fun step => ?_
  obtain ⟨paging, paged⟩ := step
  cases joined <;> cases reached <;> cases compared <;> cases paged <;> rfl

/-- Resolve a select. It is kept if no flag has fallen on the way to it. -/
def selectFlagged (declared : Declaration.Select) : Checked (Option Select) := do
  let (projections, named) ←
    projectionsFlagged catalog declared.position [] declared.projections
  match projections.head? with
  | none => return none
  | some first =>
    let (draft, drafted) ← draftFlagged catalog projections first.source declared
    if named && drafted then
      let count := cardinality catalog draft.scope draft.conditions
      match declared.paging, count with
      | some paging, .one =>
        reportQuery paging.position .pagedSingleRow
        return none
      | _, _ =>
        return some {
          model := draft.scope.base
          projections := draft.projections
          joins := draft.scope.joins
          conditions := draft.conditions
          cardinality := count
          paging := draft.paging
          result := resultShape catalog draft.projections
          position := declared.position }
    else
      return none

/-- Flags keep the selects that are kept without problems. -/
theorem selectFlagged_eq (declared : Declaration.Select) :
    selectFlagged catalog declared = resolveSelect catalog declared := by
  rw [selectFlagged, resolveSelect, ifClean_eq_flagged, projectionsFlagged_eq, draftSelect?,
    flagged_bind, bind_assoc, bind_assoc]
  refine bind_congr fun step => ?_
  obtain ⟨projections, named⟩ := step
  dsimp only
  cases projections.head? with
  | none => cases named <;> rfl
  | some first =>
      dsimp only
      rw [flagged_bind, draftFlagged_eq, bind_assoc, bind_assoc]
      refine bind_congr fun step => ?_
      obtain ⟨draft, drafted⟩ := step
      cases named <;> cases drafted <;> rfl

/-! ## Other queries -/

/-- Resolve an update. Its own flag falls if it has nothing to write. -/
def updateFlagged (declared : Declaration.Update) : Checked (Option Update) := do
  match ← resolveModel catalog declared.model with
  | none => return none
  | some id =>
    let model := catalog.model id
    let foreign := declared.conditions.filterMap (foreignColumn? model.name)
    if model.updatable.isEmpty then
      reportQuery declared.position (.nothingUpdatable model.name)
    let ok := !model.updatable.isEmpty
    reportAll (foreign.map fun ref =>
      ⟨ref.position, .invalidQuery (.foreignCondition model.name)⟩)
    if !foreign.isEmpty then
      return none
    else
      let ((scope, conditions), compared) ←
        conditionsFlagged catalog ⟨id, []⟩ declared.conditions
      if compared then
        match cardinality catalog scope conditions with
        | .many =>
          reportQuery declared.position (.updateNotUnique model.name)
          return none
        | .one => return if ok then some ⟨id, conditions, declared.position⟩ else none
      else
        return none

/-- Flags keep the updates that are kept without problems. -/
theorem updateFlagged_eq (declared : Declaration.Update) :
    updateFlagged catalog declared = resolveUpdate catalog declared := by
  refine bind_congr fun found => ?_
  cases found with
  | none => rfl
  | some id =>
      dsimp only
      rw [conditionsFlagged_eq, ifClean_eq_flagged, bind_assoc]
      -- Conditions are resolved whether or not there is something to write.
      refine ite_congr rfl (fun _ => bind_congr fun _ => bind_congr fun _ => ?_)
        (fun _ => bind_congr fun _ => ?_)
      all_goals
        refine ite_congr rfl (fun _ => rfl) fun _ => bind_congr fun step => ?_
        obtain ⟨⟨scope, conditions⟩, compared⟩ := step
        cases compared with
        | false => rfl
        | true =>
            simp only [if_true, pure_bind]
            cases cardinality catalog scope conditions with
            | many => rfl
            | one => cases (catalog.model id).updatable.isEmpty <;> rfl

/-- Resolve what deletes and counts have in common. It is kept if no flag has fallen. -/
def filteredFlagged (declared : Declaration.Filtered) :
    Checked (Option (Scope × List Condition)) := do
  match ← resolveModel catalog declared.model with
  | none => return none
  | some base =>
    let (scope, joined) ← joinsFlagged catalog ⟨base, []⟩ declared.joins
    let (rows, compared) ← conditionsFlagged catalog scope declared.conditions
    return if joined && compared then some rows else none

/-- Flags keep the deletes and counts that are kept without problems. -/
theorem filteredFlagged_eq (declared : Declaration.Filtered) :
    filteredFlagged catalog declared = resolveFiltered catalog declared := by
  refine bind_congr fun found => ?_
  cases found with
  | none => rfl
  | some base =>
      dsimp only
      rw [ifClean_eq_flagged, draftFiltered, flagged_bind, joinsFlagged_eq, bind_assoc]
      refine bind_congr fun step => ?_
      obtain ⟨scope, joined⟩ := step
      dsimp only
      rw [conditionsFlagged_eq, bind_assoc]
      rfl

end Schemata.Analysis
