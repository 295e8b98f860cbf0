import Schemata.Proofs.Analysis.ScopeGrowth

/-!
# The scope of resolved queries

Every query of a plan stays inside its own scope. Its joins are a tree that grows from its
model, every column it mentions is on a model of that tree, and the two sides of a
condition go together. `compile_scopesQueries` states this for all queries of all plans;
before it stand what one condition, one select and one other query ensure.
-/

namespace Schemata

/-- The models of a query: the one it starts from, and those that its joins bring in. -/
def queryModels (base : ModelId) (joins : List Join) : List ModelId :=
  base :: joinedModels joins

/-- A condition of a query over some models: its columns are on them and its sides match. -/
structure ConditionScoped (catalog : Catalog) (members : List ModelId)
    (condition : Condition) : Prop where
  left_mem : condition.left.model ∈ members
  left_taken : catalog.HasColumn condition.left
  column : ∀ other, condition.right = .column other →
    other.model ∈ members ∧ catalog.HasColumn other ∧
      (catalog.field other).type = (catalog.field condition.left).type
  literal : ∀ value, condition.right = .literal value →
    value.fits (catalog.field condition.left).type (catalog.field condition.left).nullable = true
  null : condition.right = .literal .null →
    (condition.op = .eq ∨ condition.op = .ne) ∧ (catalog.field condition.left).nullable = true

/-- A query that starts from a model: its joins are a tree, its conditions stay inside it. -/
structure QueryScoped (catalog : Catalog) (base : ModelId) (joins : List Join)
    (conditions : List Condition) : Prop where
  tree : JoinTree catalog.relations [base] joins
  conditions : ∀ condition ∈ conditions,
    ConditionScoped catalog (queryModels base joins) condition

/-- A paging of a select: it is about many rows and goes by a column of the select's model. -/
structure PagingScoped (catalog : Catalog) (select : Select) (paging : Paging) : Prop where
  many : select.cardinality = .many
  column_model : paging.column.model = select.model
  column_taken : catalog.HasColumn paging.column
  size_pos : 1 ≤ paging.size

/-- A select: it asks for different things, each of a model of the query, the first of its own. -/
structure SelectScoped (catalog : Catalog) (select : Select) : Prop
    extends QueryScoped catalog select.model select.joins select.conditions where
  first : (select.projections.head?.map Projection.source) = some select.model
  distinct : select.projections.Nodup
  sources : ∀ projection ∈ select.projections,
    projection.source ∈ queryModels select.model select.joins
  paging : ∀ paging, select.paging = some paging → PagingScoped catalog select paging

/-- What is in scope stays in scope when more models come in. -/
theorem ConditionScoped.mono {catalog : Catalog} {members more : List ModelId}
    {condition : Condition} (inside : ConditionScoped catalog members condition)
    (kept : ∀ model ∈ members, model ∈ more) : ConditionScoped catalog more condition where
  left_mem := kept _ inside.left_mem
  left_taken := inside.left_taken
  column other operand :=
    let ⟨member, taken, sameType⟩ := inside.column other operand
    ⟨kept _ member, taken, sameType⟩
  literal := inside.literal
  null := inside.null

namespace Analysis

open Checked

/-! ## Conditions -/

/-- What the operand of a declared condition stands for. -/
inductive OperandOf (catalog : Catalog) : Declaration.Operand → Operand → Prop where
  | placeholder : OperandOf catalog .placeholder .placeholder
  | literal (value : Literal) : OperandOf catalog (.literal value) (.literal value)
  | column {ref : Declaration.ColumnRef} {column : Column} (refers : RefersTo catalog ref column) :
      OperandOf catalog (.column ref) (.column column)

/-- A condition that a declared condition stands for. -/
structure ConditionOf (catalog : Catalog) (declared : Declaration.Condition)
    (condition : Condition) : Prop where
  left : RefersTo catalog declared.left condition.left
  right : OperandOf catalog declared.right condition.right

/-- A column that an operand stands for is in the catalog. -/
theorem OperandOf.hasColumn {catalog : Catalog} {declared : Declaration.Operand}
    {column : Column} (operandOf : OperandOf catalog declared (.column column)) :
    catalog.HasColumn column := by
  cases operandOf with
  | column refers => exact refers.hasColumn

/-- Without a problem, an operand stands for something. -/
theorem resolveOperand_ensures (catalog : Catalog) (declared : Declaration.Operand) :
    (resolveOperand catalog declared).Ensures fun result =>
      ∃ operand, result = some operand ∧ OperandOf catalog declared operand := by
  cases declared with
  | placeholder => exact ensures_pure ⟨_, rfl, .placeholder⟩
  | literal value => exact ensures_pure ⟨_, rfl, .literal value⟩
  | column ref =>
      refine (resolveColumn_ensures catalog ref).bind ?_
      rintro _ ⟨column, rfl, refers⟩
      exact ensures_pure ⟨.column column, rfl, .column refers⟩

/-- A condition without fault compares sides that go together. -/
theorem conditionScoped_of_fault_eq_none {catalog : Catalog} {members : List ModelId}
    {condition : Condition} (faultless : conditionFault? catalog condition = none)
    (left_mem : condition.left.model ∈ members) (left_taken : catalog.HasColumn condition.left)
    (column_mem : ∀ other, condition.right = .column other →
      other.model ∈ members ∧ catalog.HasColumn other) :
    ConditionScoped catalog members condition := by
  obtain ⟨left, op, right⟩ := condition
  cases right with
  | placeholder => exact ⟨left_mem, left_taken, nofun, nofun, nofun⟩
  | column other =>
      have sameType : (catalog.field other).type = (catalog.field left).type := by
        by_cases same : (catalog.field other).type = (catalog.field left).type
        · exact same
        · simp [conditionFault?, same] at faultless
      refine ⟨left_mem, left_taken, ?_, nofun, nofun⟩
      rintro _ ⟨⟩
      exact ⟨(column_mem other rfl).1, (column_mem other rfl).2, sameType⟩
  | literal value =>
      by_cases isNull : value = .null
      · subst isNull
        have allowed : (op = .eq ∨ op = .ne) ∧ (catalog.field left).nullable = true := by
          cases op <;> cases nullable : (catalog.field left).nullable <;>
            simp [conditionFault?, nullable] at faultless ⊢
        refine ⟨left_mem, left_taken, nofun, ?_, fun _ => allowed⟩
        rintro _ ⟨⟩
        exact allowed.2
      · have fits : value.fits (catalog.field left).type (catalog.field left).nullable = true := by
          by_cases fits : value.fits (catalog.field left).type (catalog.field left).nullable = true
          · exact fits
          · simp [conditionFault?, fits] at faultless
        refine ⟨left_mem, left_taken, nofun, ?_, ?_⟩
        · rintro _ ⟨⟩
          exact fits
        · rintro ⟨⟩
          exact absurd rfl isNull

/-- A model that an operand mentions is brought in. -/
theorem reachOperand_ensures (catalog : Catalog) (position : Position) (scope : Scope)
    (operand : Operand) :
    (reachOperand catalog position scope operand).Ensures fun after =>
      scope.Grows catalog.relations after ∧
        ∀ column, operand = .column column → column.model ∈ after.members := by
  cases operand with
  | placeholder => exact ensures_pure ⟨.refl scope, nofun⟩
  | literal value => exact ensures_pure ⟨.refl scope, nofun⟩
  | column column =>
      refine (reach_ensures catalog position scope column.model).mono ?_
      rintro after ⟨grows, reached⟩
      refine ⟨grows, ?_⟩
      rintro _ ⟨⟩
      exact reached

/-- A declared condition becomes one condition inside the scope that it leaves. -/
theorem resolveCondition_ensures (catalog : Catalog) (scope : Scope)
    (declared : Declaration.Condition) :
    (resolveCondition catalog scope declared).Ensures fun (after, conditions) =>
      scope.Grows catalog.relations after ∧
        ∀ condition ∈ conditions, ConditionOf catalog declared condition ∧
          ConditionScoped catalog after.members condition := by
  refine (resolveColumn_ensures catalog declared.left).bind ?_
  rintro _ ⟨left, rfl, leftRefers⟩
  refine (resolveOperand_ensures catalog declared.right).bind ?_
  rintro _ ⟨right, rfl, rightOf⟩
  refine (reach_ensures catalog _ scope left.model).bind ?_
  rintro middle ⟨first, leftReached⟩
  refine (reachOperand_ensures catalog _ middle right).bind ?_
  rintro after ⟨second, rightReached⟩
  dsimp only
  split
  next faultless =>
    refine ensures_pure ⟨first.trans second, fun condition member => ?_⟩
    obtain rfl := List.mem_singleton.1 member
    refine ⟨⟨leftRefers, rightOf⟩, ?_⟩
    refine conditionScoped_of_fault_eq_none faultless (second.mem leftReached)
      leftRefers.hasColumn ?_
    rintro other ⟨⟩
    exact ⟨rightReached other rfl, rightOf.hasColumn⟩
  next => exact ensures_report_bind

/-- All conditions of a query end up inside the scope that the last of them leaves. -/
theorem resolveConditions_ensures (catalog : Catalog) (scope : Scope)
    (declared : List Declaration.Condition) :
    (resolveConditions catalog scope declared).Ensures fun (after, conditions) =>
      scope.Grows catalog.relations after ∧
        ∀ condition ∈ conditions, (∃ item ∈ declared, ConditionOf catalog item condition) ∧
          ConditionScoped catalog after.members condition := by
  induction declared generalizing scope with
  | nil => exact ensures_pure ⟨.refl scope, nofun⟩
  | cons item others inductionHypothesis =>
      refine (resolveCondition_ensures catalog scope item).bind ?_
      rintro ⟨middle, first⟩ ⟨firstGrows, firstScoped⟩
      refine (inductionHypothesis middle).bind ?_
      rintro ⟨after, rest⟩ ⟨restGrows, restScoped⟩
      refine ensures_pure ⟨firstGrows.trans restGrows, fun condition member => ?_⟩
      rcases List.mem_append.1 member with early | late
      · obtain ⟨conditionOf, inside⟩ := firstScoped condition early
        exact ⟨⟨item, List.mem_cons_self, conditionOf⟩,
          inside.mono fun _ known => restGrows.mem known⟩
      · obtain ⟨⟨source, sourceMem, conditionOf⟩, inside⟩ := restScoped condition late
        exact ⟨⟨source, List.mem_cons_of_mem item sourceMem, conditionOf⟩, inside⟩

/-- Conditions that grew a query from one model leave a query in scope. -/
theorem queryScoped_of_grows {catalog : Catalog} {base : ModelId} {after : Scope}
    {conditions : List Condition} (grows : Scope.Grows catalog.relations ⟨base, []⟩ after)
    (inside : ∀ condition ∈ conditions, ConditionScoped catalog after.members condition) :
    QueryScoped catalog base after.joins conditions := by
  refine ⟨grows.tree, ?_⟩
  have sameBase : after.base = base := grows.base
  simpa [Scope.members, queryModels, joinedModels, sameBase] using inside

/-! ## Deletes and counts -/

/-- Joins and conditions that start from a model make a query in scope. -/
theorem draftFiltered_ensures (catalog : Catalog) (base : ModelId)
    (declared : Declaration.Filtered) :
    (draftFiltered catalog base declared).Ensures fun (scope, conditions) =>
      scope.base = base ∧ QueryScoped catalog base scope.joins conditions := by
  refine (joinAllExplicitly_ensures catalog ⟨base, []⟩ declared.joins).bind ?_
  intro joined joinedGrows
  refine (resolveConditions_ensures catalog joined declared.conditions).mono ?_
  rintro ⟨after, conditions⟩ ⟨grows, inside⟩
  have whole := joinedGrows.trans grows
  exact ⟨whole.base, queryScoped_of_grows whole fun condition member => (inside condition member).2⟩

/-- What deletes and counts have in common is a query in scope. -/
theorem resolveFiltered_ensures (catalog : Catalog) (declared : Declaration.Filtered) :
    (resolveFiltered catalog declared).Ensures fun result =>
      ∃ scope conditions, result = some (scope, conditions) ∧
        QueryScoped catalog scope.base scope.joins conditions := by
  refine (resolveModel_ensures catalog declared.model).bind ?_
  rintro _ ⟨base, rfl, -⟩
  refine (draftFiltered_ensures catalog base declared).ifClean.mono ?_
  rintro _ ⟨⟨scope, conditions⟩, rfl, rfl, inside⟩
  exact ⟨scope, conditions, rfl, inside⟩

/-- A delete is a query in scope, and its number of rows was decided from that scope. -/
theorem resolveDelete_ensures (catalog : Catalog) (declared : Declaration.Filtered) :
    (resolveDelete catalog declared).Ensures fun result => ∀ query, result = some query →
      QueryScoped catalog query.model query.joins query.conditions ∧
        query.cardinality = cardinality catalog ⟨query.model, query.joins⟩ query.conditions := by
  refine (resolveFiltered_ensures catalog declared).bind ?_
  rintro _ ⟨scope, conditions, rfl, inside⟩
  refine ensures_pure ?_
  rintro query ⟨⟩
  exact ⟨inside, rfl⟩

/-- A count is a query in scope. -/
theorem resolveCount_ensures (catalog : Catalog) (declared : Declaration.Filtered) :
    (resolveCount catalog declared).Ensures fun result => ∀ query, result = some query →
      QueryScoped catalog query.model query.joins query.conditions := by
  refine (resolveFiltered_ensures catalog declared).bind ?_
  rintro _ ⟨scope, conditions, rfl, inside⟩
  refine ensures_pure ?_
  rintro query ⟨⟩
  exact inside

/-! ## Selects -/

/-- Things that a select asks for are different from each other. -/
theorem resolveProjections_ensures (catalog : Catalog) (position : Position)
    (found : List Projection) (declared : List Declaration.Projection) (distinct : found.Nodup) :
    (resolveProjections catalog position found declared).Ensures List.Nodup := by
  induction declared generalizing found with
  | nil => exact ensures_pure distinct
  | cons item others inductionHypothesis =>
      refine (ensures_gives (resolveProjection catalog item)).bind ?_
      rintro result -
      cases result with
      | none => exact inductionHypothesis found distinct
      | some projection =>
          dsimp only
          split
          next => exact ensures_report_bind
          next fresh =>
            apply inductionHypothesis
            rw [List.nodup_append]
            refine ⟨distinct, by simp, ?_⟩
            rintro earlier earlierMem last lastMem rfl
            obtain rfl := List.mem_singleton.1 lastMem
            simp [earlierMem] at fresh

/-- Without a problem, pages go by a column of the base model and are not empty. -/
theorem resolvePaging_ensures (catalog : Catalog) (base : ModelId)
    (declared : Option Declaration.Paging) :
    (resolvePaging? catalog base declared).Ensures fun result => ∀ paging, result = some paging →
      declared.isSome ∧ paging.column.model = base ∧ catalog.HasColumn paging.column ∧
        1 ≤ paging.size := by
  cases declared with
  | none => exact ensures_pure nofun
  | some declared =>
      refine (resolveColumn_ensures catalog declared.column).bind ?_
      rintro _ ⟨column, rfl, refers⟩
      dsimp only
      split
      next => exact ensures_report_bind
      next onBase =>
        split
        next sized =>
          refine ensures_pure ?_
          rintro paging ⟨⟩
          have sameModel : column.model = base := by simpa using onBase
          have positive : 0 < declared.size.value := by simp at sized; exact sized.1
          exact ⟨rfl, sameModel, refers.hasColumn, by dsimp only; omega⟩
        next => exact ensures_report_bind

/-- What the parts of a select ensure, whose projections were resolved. -/
structure DraftScoped (catalog : Catalog) (projections : List Projection) (base : ModelId)
    (declared : Declaration.Select) (draft : SelectDraft) : Prop where
  projections_eq : draft.projections = projections
  base_eq : draft.scope.base = base
  query : QueryScoped catalog base draft.scope.joins draft.conditions
  sources : ∀ projection ∈ projections, projection.source ∈ queryModels base draft.scope.joins
  paging : ∀ paging, draft.paging = some paging →
    declared.paging.isSome ∧ paging.column.model = base ∧ catalog.HasColumn paging.column ∧
      1 ≤ paging.size

/-- The parts of a select that starts from a model are in scope. -/
theorem draftSelect_ensures (catalog : Catalog) (projections : List Projection) (base : ModelId)
    (declared : Declaration.Select) :
    (draftSelect catalog projections base declared).Ensures
      (DraftScoped catalog projections base declared) := by
  refine (joinAllExplicitly_ensures catalog ⟨base, []⟩ declared.joins).bind ?_
  intro joined joinedGrows
  refine (reachAll_ensures catalog _ joined (projections.map Projection.source)).bind ?_
  rintro reached ⟨reachedGrows, sourcesReached⟩
  refine (resolveConditions_ensures catalog reached declared.conditions).bind ?_
  rintro ⟨after, conditions⟩ ⟨grows, inside⟩
  refine (resolvePaging_ensures catalog base declared.paging).bind ?_
  intro paging pagingScoped
  have whole := (joinedGrows.trans reachedGrows).trans grows
  refine ensures_pure ⟨rfl, whole.base,
    queryScoped_of_grows whole fun condition member => (inside condition member).2, ?_,
    pagingScoped⟩
  intro projection member
  have present := grows.mem (sourcesReached _ (List.mem_map.2 ⟨projection, member, rfl⟩))
  have sameBase : after.base = base := whole.base
  simpa [Scope.members, queryModels, joinedModels, sameBase] using present

/-- A select is in scope, and its number of rows was decided from that scope. -/
theorem resolveSelect_ensures (catalog : Catalog) (declared : Declaration.Select) :
    (resolveSelect catalog declared).Ensures fun result => ∀ query, result = some query →
      SelectScoped catalog query ∧
        query.cardinality = cardinality catalog ⟨query.model, query.joins⟩ query.conditions := by
  have drafted : (draftSelect? catalog declared).Ensures fun result => ∀ draft,
      result = some draft → draft.projections.Nodup ∧
        ∃ base, draft.projections.head?.map Projection.source = some base ∧
          DraftScoped catalog draft.projections base declared draft := by
    refine (resolveProjections_ensures catalog _ [] declared.projections List.nodup_nil).bind ?_
    intro projections distinct
    cases first : projections.head? with
    | none => exact ensures_pure nofun
    | some projection =>
        refine (draftSelect_ensures catalog projections projection.source declared).bind ?_
        intro draft draftScoped
        refine ensures_pure ?_
        rintro _ ⟨⟩
        obtain rfl := draftScoped.projections_eq
        exact ⟨distinct, projection.source, by simp [first], draftScoped⟩
  refine drafted.ifClean.bind ?_
  rintro _ ⟨result, rfl, resultScoped⟩
  cases result with
  | none => exact ensures_pure nofun
  | some draft =>
      obtain ⟨distinct, base, first, draftScoped⟩ := resultScoped draft rfl
      obtain rfl := draftScoped.base_eq
      rw [Option.join_some]
      dsimp only
      split
      next => exact ensures_report_bind
      next notPagedOne =>
        refine ensures_pure ?_
        rintro query ⟨⟩
        refine ⟨⟨draftScoped.query, first, distinct, draftScoped.sources, ?_⟩, rfl⟩
        intro paging isPaging
        obtain ⟨declaredPaging, onBase, taken, positive⟩ := draftScoped.paging paging isPaging
        obtain ⟨declaredPaging, isDeclared⟩ := Option.isSome_iff_exists.1 declaredPaging
        refine ⟨?_, onBase, taken, positive⟩
        cases count : cardinality catalog draft.scope draft.conditions with
        | many => rfl
        | one => exact absurd count (notPagedOne declaredPaging isDeclared)

/-! ## Updates -/

/-- A condition without foreign column names one model only. -/
theorem foreignColumn?_eq_none {model : String} {declared : Declaration.Condition}
    (noForeign : foreignColumn? model declared = none) :
    declared.left.model.text = model ∧
      ∀ ref, declared.right = .column ref → ref.model.text = model := by
  obtain ⟨left, op, right, position⟩ := declared
  cases right with
  | column ref =>
      simp only [foreignColumn?, List.find?_eq_none, List.mem_cons, List.not_mem_nil, or_false,
        forall_eq_or_imp, forall_eq, bne_iff_ne, ne_eq, Decidable.not_not] at noForeign
      refine ⟨noForeign.1, ?_⟩
      rintro _ ⟨⟩
      exact noForeign.2
  | placeholder => exact ⟨by simpa [foreignColumn?] using noForeign, nofun⟩
  | literal value => exact ⟨by simpa [foreignColumn?] using noForeign, nofun⟩

/-- A reference to the name of a model stands for a column of that model. -/
theorem RefersTo.model_eq {catalog : Catalog} {ref : Declaration.ColumnRef} {column : Column}
    {id : ModelId} (refers : RefersTo catalog ref column)
    (found : catalog.modelId? ref.model.text = some id) : column.model = id :=
  Option.some.inj (refers.model.symm.trans found)

/-- A condition that names one model only is inside that model. -/
theorem conditionScoped_of_named {catalog : Catalog} {members : List ModelId} {id : ModelId}
    {declared : Declaration.Condition} {condition : Condition}
    (inside : ConditionScoped catalog members condition)
    (conditionOf : ConditionOf catalog declared condition)
    (left : catalog.modelId? declared.left.model.text = some id)
    (right : ∀ ref, declared.right = .column ref → catalog.modelId? ref.model.text = some id) :
    ConditionScoped catalog [id] condition := by
  obtain ⟨leftRefers, rightOf⟩ := conditionOf
  refine ⟨by simp [leftRefers.model_eq left], inside.left_taken, ?_, inside.literal, inside.null⟩
  intro other operand
  obtain ⟨_, taken, sameType⟩ := inside.column other operand
  rw [operand] at rightOf
  generalize sourceEq : declared.right = source at rightOf
  cases rightOf with
  | column refers => exact ⟨by simp [refers.model_eq (right _ sourceEq)], taken, sameType⟩

/-- An update mentions its own model only, and its conditions were found to fix one row. -/
theorem resolveUpdate_ensures (catalog : Catalog) (declared : Declaration.Update) :
    (resolveUpdate catalog declared).Ensures fun result => ∀ query, result = some query →
      QueryScoped catalog query.model [] query.conditions ∧
        ∃ joins, cardinality catalog ⟨query.model, joins⟩ query.conditions = .one := by
  refine (resolveModel_ensures catalog declared.model).bind ?_
  rintro _ ⟨id, rfl, found⟩
  have named := (Catalog.modelId?_eq_some found).2
  dsimp only
  split
  next => exact ensures_report_bind
  next =>
    refine (ensures_reportAll _).bind fun _ _ => ?_
    split
    next => exact ensures_pure nofun
    next noForeign =>
      refine (resolveConditions_ensures catalog ⟨id, []⟩ declared.conditions).ifClean.bind ?_
      rintro _ ⟨⟨scope, conditions⟩, rfl, grows, inside⟩
      dsimp only
      split
      next => exact ensures_report_bind
      next one =>
        refine ensures_pure ?_
        rintro query ⟨⟩
        obtain rfl : scope.base = id := grows.base
        have ownModel : ∀ item ∈ declared.conditions,
            foreignColumn? (catalog.model scope.base).name item = none := by
          simpa using noForeign
        refine ⟨⟨trivial, fun condition member => ?_⟩, scope.joins, one⟩
        obtain ⟨⟨item, itemMem, conditionOf⟩, conditionInside⟩ := inside condition member
        obtain ⟨leftNamed, rightNamed⟩ := foreignColumn?_eq_none (ownModel item itemMem)
        rw [named] at leftNamed rightNamed
        refine conditionScoped_of_named conditionInside conditionOf (leftNamed ▸ found) ?_
        exact fun ref operand => rightNamed ref operand ▸ found

end Analysis

open Analysis

/--
Every query of a compiled plan stays inside its scope: selects, deletes and counts inside
the tree of their joins, updates inside their own model.
-/
theorem compile_scopesQueries {source : String} {plan : Plan}
    (compiled : compile source = .ok plan) :
    (∀ query ∈ plan.selects, SelectScoped plan.toCatalog query) ∧
    (∀ query ∈ plan.deletes,
      QueryScoped plan.toCatalog query.model query.joins query.conditions) ∧
    (∀ query ∈ plan.counts,
      QueryScoped plan.toCatalog query.model query.joins query.conditions) ∧
    (∀ query ∈ plan.updates, QueryScoped plan.toCatalog query.model [] query.conditions) := by
  obtain ⟨schema, -, resolves⟩ := exists_resolves_of_compile compiled
  refine ⟨fun query member => ?_, fun query member => ?_, fun query member => ?_,
    fun query member => ?_⟩
  · obtain ⟨declared, -, gives⟩ := resolves.selects query member
    exact ((resolveSelect_ensures _ declared).of_gives gives query rfl).1
  · obtain ⟨declared, -, gives⟩ := resolves.deletes query member
    exact ((resolveDelete_ensures _ declared).of_gives gives query rfl).1
  · obtain ⟨declared, -, gives⟩ := resolves.counts query member
    exact (resolveCount_ensures _ declared).of_gives gives query rfl
  · obtain ⟨declared, -, gives⟩ := resolves.updates query member
    exact ((resolveUpdate_ensures _ declared).of_gives gives query rfl).1

/-- The roster has queries of every kind, and they stay inside their scopes. -/
theorem rosterPlan_scopesQueries :
    compile rosterSource = .ok rosterPlan ∧
    (rosterPlan.selects ≠ [] ∧ ∀ query ∈ rosterPlan.selects,
      SelectScoped rosterPlan.toCatalog query) ∧
    (rosterPlan.deletes ≠ [] ∧ ∀ query ∈ rosterPlan.deletes,
      QueryScoped rosterPlan.toCatalog query.model query.joins query.conditions) ∧
    (rosterPlan.counts ≠ [] ∧ ∀ query ∈ rosterPlan.counts,
      QueryScoped rosterPlan.toCatalog query.model query.joins query.conditions) ∧
    (rosterPlan.updates ≠ [] ∧ ∀ query ∈ rosterPlan.updates,
      QueryScoped rosterPlan.toCatalog query.model [] query.conditions) := by
  obtain ⟨selects, deletes, counts, updates⟩ := compile_scopesQueries compile_rosterSource
  exact ⟨compile_rosterSource, ⟨by decide, selects⟩, ⟨by decide, deletes⟩, ⟨by decide, counts⟩,
    ⟨by decide, updates⟩⟩

end Schemata
