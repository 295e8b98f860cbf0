import Schemata.Proofs.Layout.Catalogs

/-!
# Queries do not depend on places

A query is resolved over a catalog by what it says: joins are inferred from relations, conditions
are checked against types, and the number of rows is decided from keys. What is resolved from a
query has no places in it until it is put into the plan, so both runs come to the same.
-/

namespace Schemata.Analysis

open Checked

/-! ## Joins -/

/-- Turns along the relations are the same. -/
theorem foldlM_follow_unplaced (relations : List Relation) (place : ModelId) (search : Search) :
    (relations.map Relation.unplaced).foldlM (Search.follow place) search =
      relations.foldlM (Search.follow place) search := by
  rw [List.foldlM_map]
  rfl

/-- The search along relations comes to the same. -/
theorem run_unplaced (relations : List Relation) (turns : Nat) (search : Search) :
    search.run (relations.map Relation.unplaced) turns = search.run relations turns := by
  induction turns generalizing search with
  | zero => rfl
  | succ turns inductionHypothesis =>
      simp only [Search.run, foldlM_follow_unplaced, inductionHypothesis]

/-- The same joins are inferred. -/
theorem inferPath_unplaced (catalog : Catalog) (members : List ModelId) (target : ModelId) :
    inferPath catalog.unplaced members target = inferPath catalog members target := by
  simp only [inferPath, searchPath, Catalog.unplaced, run_unplaced, List.length_map]

/-- An explicit join is added alike. -/
theorem joinExplicitly_mirrors (catalog : Catalog) (scope : Scope) (declared : Declaration.Join) :
    (joinExplicitly catalog scope declared).Mirrors id
      (joinExplicitly catalog.unplaced scope declared.unplaced) := by
  have connected : ∀ left right, catalog.unplaced.relations.any (·.connects left right) =
      catalog.relations.any (·.connects left right) :=
    fun left right => List.any_map
  refine (resolveColumn_mirrors catalog declared.left).bind fun left => ?_
  refine (resolveColumn_mirrors catalog declared.right).bind fun right => ?_
  cases left with
  | none => exact mirrors_pure scope
  | some left =>
      cases right with
      | none => exact mirrors_pure scope
      | some right =>
          dsimp only [id_eq]
          refine .ite (by rw [connected]) (fun _ => ?_) fun _ => ?_
          · cases scope.contains left.model <;> cases scope.contains right.model
            · exact (mirrors_report _ _ _ _).bind fun _ => mirrors_pure scope
            · exact mirrors_pure (scope.join [⟨right, left⟩])
            · exact mirrors_pure (scope.join [⟨left, right⟩])
            · exact (mirrors_report _ _ _ _).bind fun _ => mirrors_pure scope
          · exact (mirrors_report _ _ _ _).bind fun _ => mirrors_pure scope

/-- A model is brought in alike. -/
theorem reach_mirrors (catalog : Catalog) (position : Position) (scope : Scope) (model : ModelId) :
    (reach catalog position scope model).Mirrors id
      (reach catalog.unplaced .start scope model) := by
  rw [reach, reach]
  refine .ite Iff.rfl (fun _ => mirrors_pure scope) fun _ => ?_
  rw [inferPath_unplaced]
  rcases inferPath catalog scope.members model with fault | joins
  · cases fault <;> exact (mirrors_report _ _ _ _).bind fun _ => mirrors_pure scope
  · exact mirrors_pure (scope.join joins)

/-! ## Conditions -/

/-- An operand is resolved alike. -/
theorem resolveOperand_mirrors (catalog : Catalog) (declared : Declaration.Operand) :
    (resolveOperand catalog declared).Mirrors id
      (resolveOperand catalog.unplaced declared.unplaced) := by
  cases declared with
  | placeholder => exact mirrors_pure (some Operand.placeholder)
  | literal value => exact mirrors_pure (some (Operand.literal value))
  | column ref =>
      exact (resolveColumn_mirrors catalog ref).bind fun column =>
        mirrors_pure (column.map Operand.column)

/-- The fault of a condition is not a matter of places. -/
theorem conditionFault?_unplaced (catalog : Catalog) (condition : Condition) :
    conditionFault? catalog.unplaced condition = conditionFault? catalog condition := by
  simp only [conditionFault?, Catalog.field_unplaced, Catalog.displayName_unplaced]
  rfl

/-- The model of an operand is brought in alike. -/
theorem reachOperand_mirrors (catalog : Catalog) (position : Position) (scope : Scope)
    (operand : Operand) :
    (reachOperand catalog position scope operand).Mirrors id
      (reachOperand catalog.unplaced .start scope operand) := by
  cases operand with
  | column column => exact reach_mirrors catalog position scope column.model
  | placeholder => exact mirrors_pure scope
  | literal value => exact mirrors_pure scope

/-- A condition is resolved alike. -/
theorem resolveCondition_mirrors (catalog : Catalog) (scope : Scope)
    (declared : Declaration.Condition) :
    (resolveCondition catalog scope declared).Mirrors id
      (resolveCondition catalog.unplaced scope declared.unplaced) := by
  obtain ⟨declaredLeft, op, declaredRight, position⟩ := declared
  refine (resolveColumn_mirrors catalog declaredLeft).bind fun left => ?_
  refine (resolveOperand_mirrors catalog declaredRight).bind fun right => ?_
  cases left with
  | none => exact mirrors_pure (scope, [])
  | some left =>
      cases right with
      | none => exact mirrors_pure (scope, [])
      | some right =>
          refine (reach_mirrors catalog _ scope left.model).bind fun scope => ?_
          refine (reachOperand_mirrors catalog position scope right).bind fun scope => ?_
          dsimp only [id_eq, Declaration.Condition.unplaced]
          rw [conditionFault?_unplaced]
          cases conditionFault? catalog ⟨left, op, right⟩ with
          | none => exact mirrors_pure (scope, [Condition.mk left op right])
          | some fault => exact (mirrors_report _ _ _ _).bind fun _ => mirrors_pure (scope, [])

/-- Conditions are resolved alike. -/
theorem resolveConditions_mirrors (catalog : Catalog) (scope : Scope)
    (declared : List Declaration.Condition) :
    (resolveConditions catalog scope declared).Mirrors id
      (resolveConditions catalog.unplaced scope
        (declared.map Declaration.Condition.unplaced)) := by
  induction declared generalizing scope with
  | nil => exact mirrors_pure (scope, [])
  | cons condition others inductionHypothesis =>
      refine (resolveCondition_mirrors catalog scope condition).bind fun first => ?_
      refine (inductionHypothesis first.1).bind fun rest => ?_
      exact mirrors_pure (rest.1, first.2 ++ rest.2)

/-- How many rows a query is about is not a matter of places. -/
theorem cardinality_unplaced (catalog : Catalog) (scope : Scope) (conditions : List Condition) :
    cardinality catalog.unplaced scope conditions = cardinality catalog scope conditions := by
  simp only [cardinality, Catalog.model_unplaced]
  rfl

/-! ## Selects -/

/-- What a select asks for is resolved alike. -/
theorem resolveProjection_mirrors (catalog : Catalog) (declared : Declaration.Projection) :
    (resolveProjection catalog declared).Mirrors id
      (resolveProjection catalog.unplaced declared.unplaced) := by
  cases declared with
  | model name =>
      exact (resolveModel_mirrors catalog name).bind fun id =>
        mirrors_pure (id.map Projection.model)
  | field ref =>
      exact (resolveColumn_mirrors catalog ref).bind fun column =>
        mirrors_pure (column.map Projection.field)

/-- All that a select asks for is resolved alike. -/
theorem resolveProjections_mirrors (catalog : Catalog) (position : Position)
    (found : List Projection) (declared : List Declaration.Projection) :
    (resolveProjections catalog position found declared).Mirrors id
      (resolveProjections catalog.unplaced .start found
        (declared.map Declaration.Projection.unplaced)) := by
  induction declared generalizing found with
  | nil => exact mirrors_pure found
  | cons item others inductionHypothesis =>
      refine (resolveProjection_mirrors catalog item).bind fun projection => ?_
      cases projection with
      | none => exact inductionHypothesis found
      | some projection =>
          refine .ite Iff.rfl (fun _ => ?_) fun _ => inductionHypothesis (found ++ [projection])
          exact (mirrors_report _ _ _ _).bind fun _ => inductionHypothesis found

/-- A request for pages is resolved alike. -/
theorem resolvePaging_mirrors (catalog : Catalog) (base : ModelId)
    (declared : Declaration.Paging) :
    (resolvePaging catalog base declared).Mirrors id
      (resolvePaging catalog.unplaced base declared.unplaced) := by
  refine (resolveColumn_mirrors catalog declared.column).bind fun column => ?_
  cases column with
  | none => exact mirrors_pure none
  | some column =>
      refine .ite Iff.rfl (fun _ => ?_) fun _ => ?_
      · exact (mirrors_report _ _ _ _).bind fun _ => mirrors_pure none
      · refine .ite Iff.rfl (fun _ => ?_) fun _ => ?_
        · exact mirrors_pure (some (Paging.mk column declared.size.value.toNat))
        · exact (mirrors_report _ _ _ _).bind fun _ => mirrors_pure none

/-- A request for pages is resolved alike, if there is one. -/
theorem resolvePaging?_mirrors (catalog : Catalog) (base : ModelId)
    (declared : Option Declaration.Paging) :
    (resolvePaging? catalog base declared).Mirrors id
      (resolvePaging? catalog.unplaced base (declared.map Declaration.Paging.unplaced)) := by
  cases declared with
  | none => exact mirrors_pure none
  | some paging => exact resolvePaging_mirrors catalog base paging

/-- The shape of a row is not a matter of places. -/
theorem resultShape_unplaced (catalog : Catalog) (projections : List Projection) :
    resultShape catalog.unplaced projections = resultShape catalog projections := by
  have name : recordName catalog.unplaced = recordName catalog := by
    funext projections
    simp only [recordName, Catalog.model_unplaced, Catalog.field_unplaced]
    rfl
  unfold resultShape
  rw [name]

/-- The parts of a select are resolved alike. -/
theorem draftSelect_mirrors (catalog : Catalog) (projections : List Projection) (base : ModelId)
    (declared : Declaration.Select) :
    (draftSelect catalog projections base declared).Mirrors id
      (draftSelect catalog.unplaced projections base declared.unplaced) := by
  refine (Checked.Mirrors.foldlM (joinExplicitly_mirrors catalog) ⟨base, []⟩).bind fun scope => ?_
  have reached : ((projections.map Projection.source).foldlM
      (reach catalog declared.position) scope).Mirrors id
      (((projections.map Projection.source).map id).foldlM (reach catalog.unplaced .start) scope) :=
    Checked.Mirrors.foldlM (reach_mirrors catalog declared.position) scope
  rw [List.map_id] at reached
  refine reached.bind fun scope => ?_
  refine (resolveConditions_mirrors catalog scope declared.conditions).bind fun resolved => ?_
  refine (resolvePaging?_mirrors catalog base declared.paging).bind fun paging => ?_
  exact mirrors_pure (SelectDraft.mk projections resolved.1 resolved.2 paging)

/-- The parts of a select are resolved alike, starting from what it asks for. -/
theorem draftSelect?_mirrors (catalog : Catalog) (declared : Declaration.Select) :
    (draftSelect? catalog declared).Mirrors id
      (draftSelect? catalog.unplaced declared.unplaced) := by
  refine (resolveProjections_mirrors catalog declared.position [] declared.projections).bind
    fun projections => ?_
  dsimp only [id_eq]
  cases projections.head? with
  | none => exact mirrors_pure none
  | some first =>
      exact (draftSelect_mirrors catalog projections first.source declared).bind fun draft =>
        mirrors_pure (some draft)

/-- A select is resolved alike. -/
theorem resolveSelect_mirrors (catalog : Catalog) (declared : Declaration.Select) :
    (resolveSelect catalog declared).Mirrors (Option.map Select.unplaced)
      (resolveSelect catalog.unplaced declared.unplaced) := by
  refine (draftSelect?_mirrors catalog declared).ifClean.bind fun drafted => ?_
  rw [Option.map_id]
  dsimp only [id_eq]
  cases drafted.join with
  | none => exact mirrors_pure none
  | some draft =>
      dsimp only
      rw [cardinality_unplaced, resultShape_unplaced, Declaration.Select.unplaced]
      cases declared.paging with
      | none => exact mirrors_pure (some (Select.mk _ _ _ _ _ _ _ declared.position))
      | some paging =>
          dsimp only [Option.map_some]
          cases cardinality catalog draft.scope draft.conditions with
          | one => exact (mirrors_report _ _ _ _).bind fun _ => mirrors_pure none
          | many => exact mirrors_pure (some (Select.mk _ _ _ _ _ _ _ declared.position))

/-! ## Other queries -/

/-- An insert is resolved alike. -/
theorem resolveInsert_mirrors (catalog : Catalog) (declared : Declaration.Insert) :
    (resolveInsert catalog declared).Mirrors (Option.map Insert.unplaced)
      (resolveInsert catalog.unplaced declared.unplaced) := by
  refine (resolveModel_mirrors catalog declared.model).bind fun model => ?_
  cases model with
  | none => exact mirrors_pure none
  | some model => exact mirrors_pure (some (Insert.mk model declared.position))

/-- The columns of other models are found alike. -/
theorem foreignColumn?_unplaced (model : String) (declared : Declaration.Condition) :
    foreignColumn? model declared.unplaced =
      (foreignColumn? model declared).map Declaration.ColumnRef.unplaced := by
  have found : ∀ refs : List Declaration.ColumnRef,
      (refs.map Declaration.ColumnRef.unplaced).find? (·.model.text != model) =
        (refs.find? (·.model.text != model)).map Declaration.ColumnRef.unplaced :=
    fun refs => List.find?_map
  obtain ⟨left, op, right, position⟩ := declared
  cases right with
  | column ref => exact found [left, ref]
  | placeholder => exact found [left]
  | literal value => exact found [left]

/-- An update is resolved alike. -/
theorem resolveUpdate_mirrors (catalog : Catalog) (declared : Declaration.Update) :
    (resolveUpdate catalog declared).Mirrors (Option.map Update.unplaced)
      (resolveUpdate catalog.unplaced declared.unplaced) := by
  have foreign : ∀ model,
      declared.unplaced.conditions.filterMap (foreignColumn? model) =
        (declared.conditions.filterMap (foreignColumn? model)).map
          Declaration.ColumnRef.unplaced := by
    intro model
    rw [Declaration.Update.unplaced, List.filterMap_map, List.map_filterMap]
    congr 1
    funext condition
    exact foreignColumn?_unplaced model condition
  refine (resolveModel_mirrors catalog declared.model).bind fun found => ?_
  cases found with
  | none => exact mirrors_pure none
  | some id =>
      have name : (catalog.model id).unplaced.name = (catalog.model id).name := rfl
      simp only [id_eq, Catalog.model_unplaced, Model.updatable_unplaced, name, foreign,
        cardinality_unplaced, List.isEmpty_map]
      refine .ite Iff.rfl (fun _ => (mirrors_report _ _ _ _).bind fun _ => ?_) fun _ => ?_
      -- Whether or not there is something to update, the conditions are resolved next.
      all_goals
        refine (mirrors_reportAll (by simp only [List.map_eq_nil_iff])).bind fun _ => ?_
        refine .ite Iff.rfl (fun _ => mirrors_pure none) fun _ => ?_
        refine (resolveConditions_mirrors catalog ⟨id, []⟩ declared.conditions).ifClean.bind ?_
        intro resolved
        cases resolved with
        | none => exact mirrors_pure none
        | some resolved =>
            dsimp only [Option.map_some, id_eq]
            cases cardinality catalog resolved.1 resolved.2 with
            | many => exact (mirrors_report _ _ _ _).bind fun _ => mirrors_pure none
            | one =>
                exact .ite Iff.rfl (fun _ => mirrors_pure none) fun _ =>
                  mirrors_pure (some (Update.mk id resolved.2 declared.position))

/-- The joins and conditions of a query are resolved alike. -/
theorem resolveFiltered_mirrors (catalog : Catalog) (declared : Declaration.Filtered) :
    (resolveFiltered catalog declared).Mirrors id
      (resolveFiltered catalog.unplaced declared.unplaced) := by
  refine (resolveModel_mirrors catalog declared.model).bind fun found => ?_
  cases found with
  | none => exact mirrors_pure none
  | some base =>
      have drafted : (draftFiltered catalog base declared).Mirrors id
          (draftFiltered catalog.unplaced base declared.unplaced) :=
        (Checked.Mirrors.foldlM (joinExplicitly_mirrors catalog) ⟨base, []⟩).bind fun scope =>
          resolveConditions_mirrors catalog scope declared.conditions
      have clean := drafted.ifClean
      rwa [Option.map_id] at clean

/-- A delete is resolved alike. -/
theorem resolveDelete_mirrors (catalog : Catalog) (declared : Declaration.Filtered) :
    (resolveDelete catalog declared).Mirrors (Option.map Delete.unplaced)
      (resolveDelete catalog.unplaced declared.unplaced) := by
  refine (resolveFiltered_mirrors catalog declared).bind fun resolved => ?_
  simp only [cardinality_unplaced]
  cases resolved with
  | none => exact mirrors_pure none
  | some resolved => exact mirrors_pure (some (Delete.mk _ _ _ _ declared.position))

/-- A count is resolved alike. -/
theorem resolveCount_mirrors (catalog : Catalog) (declared : Declaration.Filtered) :
    (resolveCount catalog declared).Mirrors (Option.map Count.unplaced)
      (resolveCount catalog.unplaced declared.unplaced) := by
  refine (resolveFiltered_mirrors catalog declared).bind fun resolved => ?_
  cases resolved with
  | none => exact mirrors_pure none
  | some resolved => exact mirrors_pure (some (Count.mk _ _ _ declared.position))

end Schemata.Analysis
