import Schemata.Analysis.JoinPath
import Schemata.Analysis.Names
import Schemata.Text.Words

/-!
# Resolving queries

A query starts from one model. Explicit joins add models in the order they are
written; then every model that a projection or a condition mentions is brought in
along the shortest way. A query is resolved only if nothing in it was reported.
-/

namespace Schemata.Analysis

open Checked

/-- The models of a query under construction: where it starts, and the joins made so far. -/
structure Scope where
  base : ModelId
  joins : List Join := []

namespace Scope

/-- The models in a query, in the order they came in. -/
def members (scope : Scope) : List ModelId :=
  scope.base :: scope.joins.map (·.right.model)

/-- Whether a model is in a query. -/
def contains (scope : Scope) (model : ModelId) : Bool :=
  scope.members.contains model

/-- Add joins to a query. -/
def join (scope : Scope) (joins : List Join) : Scope :=
  { scope with joins := scope.joins ++ joins }

end Scope

/-! ## Joins -/

/-- Report a fault of a query. -/
def reportQuery (position : Position) (fault : QueryFault) : Checked Unit :=
  report position (.invalidQuery fault)

/-- Add an explicit join, which follows a relation and brings in one model. -/
def joinExplicitly (catalog : Catalog) (scope : Scope) (declared : Declaration.Join) :
    Checked Scope := do
  let left ← resolveColumn catalog declared.left
  let right ← resolveColumn catalog declared.right
  match left, right with
  | some left, some right =>
    let leftName := catalog.displayName left
    let rightName := catalog.displayName right
    if catalog.relations.any (·.connects left right) then
      match scope.contains left.model, scope.contains right.model with
      | true, false => return scope.join [⟨left, right⟩]
      | false, true => return scope.join [⟨right, left⟩]
      | true, true =>
        reportQuery declared.position (.joinRepeats leftName rightName)
        return scope
      | false, false =>
        reportQuery declared.position (.joinDetached leftName rightName)
        return scope
    else
      report declared.position (.invalidJoin leftName rightName)
      return scope
  | _, _ => return scope

/-- Bring a model into a query. -/
def reach (catalog : Catalog) (position : Position) (scope : Scope) (model : ModelId) :
    Checked Scope :=
  if scope.contains model then
    pure scope
  else
    let base := (catalog.model scope.base).name
    let target := (catalog.model model).name
    match inferPath catalog scope.members model with
    | .ok joins => return scope.join joins
    | .error .ambiguous => do
      report position (.ambiguousJoin base target)
      return scope
    | .error .unreachable => do
      report position (.unreachable base target)
      return scope

/-! ## Conditions -/

/-- What a condition compares with. -/
def resolveOperand (catalog : Catalog) : Declaration.Operand → Checked (Option Operand)
  | .placeholder => pure (some .placeholder)
  | .literal value => pure (some (.literal value))
  | .column ref => do
    let column ← resolveColumn catalog ref
    return column.map .column

/-- The fault of a condition, if its sides do not go together. -/
def conditionFault? (catalog : Catalog) (condition : Condition) : Option QueryFault :=
  let field := catalog.field condition.left
  let name := catalog.displayName condition.left
  match condition.right with
  | .placeholder => none
  | .literal .null =>
    if condition.op != .eq && condition.op != .ne then some .nullOrdering
    else if !field.nullable then some (.notNullable name)
    else none
  | .literal value =>
    if value.fits field.type field.nullable then none
    else some (.literalMisfit value name field.type)
  | .column other =>
    let otherField := catalog.field other
    if otherField.type = field.type then none
    else some (.typeClash name field.type (catalog.displayName other) otherField.type)

/-- Bring in the model that an operand mentions. -/
def reachOperand (catalog : Catalog) (position : Position) (scope : Scope) :
    Operand → Checked Scope
  | .column column => reach catalog position scope column.model
  | _ => pure scope

/-- Resolve a condition and bring in the models it mentions. -/
def resolveCondition (catalog : Catalog) (scope : Scope) (declared : Declaration.Condition) :
    Checked (Scope × List Condition) := do
  let left ← resolveColumn catalog declared.left
  let right ← resolveOperand catalog declared.right
  match left, right with
  | some left, some right =>
    let scope ← reach catalog declared.left.position scope left.model
    let scope ← reachOperand catalog declared.position scope right
    let condition : Condition := ⟨left, declared.op, right⟩
    match conditionFault? catalog condition with
    | none => return (scope, [condition])
    | some fault =>
      reportQuery declared.position fault
      return (scope, [])
  | _, _ => return (scope, [])

/-- Resolve conditions in order. -/
def resolveConditions (catalog : Catalog) :
    Scope → List Declaration.Condition → Checked (Scope × List Condition)
  | scope, [] => pure (scope, [])
  | scope, declared :: others => do
    let (scope, first) ← resolveCondition catalog scope declared
    let (scope, rest) ← resolveConditions catalog scope others
    return (scope, first ++ rest)

/-! ## Cardinality -/

/-- Whether a condition fixes a field of a model to one value that is not null. -/
def Condition.fixes (condition : Condition) (base : ModelId) : Bool :=
  condition.left.model = base && condition.op = .eq &&
    match condition.right with
    | .placeholder => true
    | .literal value => value != .null
    | .column _ => false

/-- The fields of a model that conditions fix. -/
def fixedFields (base : ModelId) (conditions : List Condition) : List FieldId :=
  (conditions.filter (Condition.fixes · base)).map (·.left.field)

/--
A query is about one row when its conditions fix every field of a unique key of its
model, and every join leads to a column that is unique on its own.
-/
def cardinality (catalog : Catalog) (scope : Scope) (conditions : List Condition) :
    Cardinality :=
  let fixed := fixedFields scope.base conditions
  let covered := (catalog.model scope.base).uniqueKeys.any fun key =>
    !key.isEmpty && key.all fixed.contains
  let toOne := scope.joins.all fun join =>
    (catalog.model join.right.model).isUniqueField join.right.field
  if covered && toOne then .one else .many

/-! ## Selects -/

/-- Resolve one thing that a select asks for. -/
def resolveProjection (catalog : Catalog) : Declaration.Projection → Checked (Option Projection)
  | .model name => do
    let id ← resolveModel catalog name
    return id.map .model
  | .field ref => do
    let column ← resolveColumn catalog ref
    return column.map .field

/-- Resolve what a select asks for, after what was found already; repeats are left out. -/
def resolveProjections (catalog : Catalog) (position : Position) :
    List Projection → List Declaration.Projection → Checked (List Projection)
  | found, [] => pure found
  | found, declared :: others => do
    match ← resolveProjection catalog declared with
    | none => resolveProjections catalog position found others
    | some projection =>
      if found.contains projection then
        reportQuery position .repeatedProjection
        resolveProjections catalog position found others
      else
        resolveProjections catalog position (found ++ [projection]) others

/-- Resolve a request for pages, which go by a column of the base model. -/
def resolvePaging (catalog : Catalog) (base : ModelId) (declared : Declaration.Paging) :
    Checked (Option Paging) := do
  match ← resolveColumn catalog declared.column with
  | none => return none
  | some column =>
    if column.model != base then
      reportQuery declared.column.position
        (.pagedElsewhere (catalog.displayName column) (catalog.model base).name)
      return none
    else if 0 < declared.size.value && declared.size.value ≤ 4294967295 then
      return some ⟨column, declared.size.value.toNat⟩
    else
      reportQuery declared.size.position (.pageSize declared.size.value)
      return none

/-- Resolve a request for pages, if there is one. -/
def resolvePaging? (catalog : Catalog) (base : ModelId) :
    Option Declaration.Paging → Checked (Option Paging)
  | none => pure none
  | some declared => resolvePaging catalog base declared

/-- The name of the record that a row of several projections is read into. -/
def recordName (catalog : Catalog) (projections : List Projection) : String :=
  String.join (projections.map fun projection =>
    match projection with
    | .model id => Text.upperCamelCase (catalog.model id).name
    | .field column =>
      Text.upperCamelCase
        ((catalog.model column.model).name ++ "_" ++ (catalog.field column).name)) ++ "Row"

/-- What a row of some projections is. -/
def resultShape (catalog : Catalog) : List Projection → ResultShape
  | [.model id] => .model id
  | [.field column] => .field column
  | projections => .record (recordName catalog projections) projections

/-- The parts of a select before it is known how many rows it is about. -/
structure SelectDraft where
  projections : List Projection
  scope : Scope
  conditions : List Condition
  paging : Option Paging

/-- Resolve the parts of a select that starts from a model. -/
def draftSelect (catalog : Catalog) (projections : List Projection) (base : ModelId)
    (declared : Declaration.Select) : Checked SelectDraft := do
  let scope ← declared.joins.foldlM (joinExplicitly catalog) ⟨base, []⟩
  let scope ← (projections.map Projection.source).foldlM
    (reach catalog declared.position) scope
  let (scope, conditions) ← resolveConditions catalog scope declared.conditions
  let paging ← resolvePaging? catalog base declared.paging
  return ⟨projections, scope, conditions, paging⟩

/-- Resolve the parts of a select; it starts from the model of the first thing it asks for. -/
def draftSelect? (catalog : Catalog) (declared : Declaration.Select) :
    Checked (Option SelectDraft) := do
  let projections ← resolveProjections catalog declared.position [] declared.projections
  match projections.head? with
  | none => return none
  | some first =>
    let draft ← draftSelect catalog projections first.source declared
    return some draft

/-- Resolve a select. One row cannot be cut into pages. -/
def resolveSelect (catalog : Catalog) (declared : Declaration.Select) :
    Checked (Option Select) := do
  match (← (draftSelect? catalog declared).ifClean).join with
  | none => return none
  | some draft =>
    let count := cardinality catalog draft.scope draft.conditions
    match declared.paging, count with
    | some paging, .one =>
      reportQuery paging.position .pagedSingleRow
      return none
    | _, _ =>
      return some {
        model := draft.scope.base
        projections := draft.projections
        joins := draft.scope.joins
        conditions := draft.conditions
        cardinality := count
        paging := draft.paging
        result := resultShape catalog draft.projections
        position := declared.position }

/-! ## Other queries -/

/-- Resolve an insert. -/
def resolveInsert (catalog : Catalog) (declared : Declaration.Insert) :
    Checked (Option Insert) := do
  let model ← resolveModel catalog declared.model
  return model.map fun model => ⟨model, declared.position⟩

/-- The first column of a condition that is not on a model. -/
def foreignColumn? (model : String) (declared : Declaration.Condition) :
    Option Declaration.ColumnRef :=
  let mentioned := match declared.right with
    | .column ref => [declared.left, ref]
    | _ => [declared.left]
  mentioned.find? (·.model.text != model)

/-- Resolve an update. It only looks at its own model, and at one row of it. -/
def resolveUpdate (catalog : Catalog) (declared : Declaration.Update) :
    Checked (Option Update) := do
  match ← resolveModel catalog declared.model with
  | none => return none
  | some id =>
    let model := catalog.model id
    let foreign := declared.conditions.filterMap (foreignColumn? model.name)
    if model.updatable.isEmpty then
      reportQuery declared.position (.nothingUpdatable model.name)
    reportAll (foreign.map fun ref =>
      ⟨ref.position, .invalidQuery (.foreignCondition model.name)⟩)
    if !foreign.isEmpty then
      return none
    else
      match ← (resolveConditions catalog ⟨id, []⟩ declared.conditions).ifClean with
      | none => return none
      | some (scope, conditions) =>
        match cardinality catalog scope conditions with
        | .many =>
          reportQuery declared.position (.updateNotUnique model.name)
          return none
        | .one =>
          if model.updatable.isEmpty then return none
          else return some ⟨id, conditions, declared.position⟩

/-- Resolve the joins and conditions of a query that starts from a model. -/
def draftFiltered (catalog : Catalog) (base : ModelId) (declared : Declaration.Filtered) :
    Checked (Scope × List Condition) := do
  let scope ← declared.joins.foldlM (joinExplicitly catalog) ⟨base, []⟩
  resolveConditions catalog scope declared.conditions

/-- Resolve what deletes and counts have in common. -/
def resolveFiltered (catalog : Catalog) (declared : Declaration.Filtered) :
    Checked (Option (Scope × List Condition)) := do
  match ← resolveModel catalog declared.model with
  | none => return none
  | some base => (draftFiltered catalog base declared).ifClean

/-- Resolve a delete. -/
def resolveDelete (catalog : Catalog) (declared : Declaration.Filtered) :
    Checked (Option Delete) := do
  let resolved ← resolveFiltered catalog declared
  return resolved.map fun (scope, conditions) =>
    ⟨scope.base, scope.joins, conditions, cardinality catalog scope conditions,
      declared.position⟩

/-- Resolve a count. -/
def resolveCount (catalog : Catalog) (declared : Declaration.Filtered) :
    Checked (Option Count) := do
  let resolved ← resolveFiltered catalog declared
  return resolved.map fun (scope, conditions) =>
    ⟨scope.base, scope.joins, conditions, declared.position⟩

end Schemata.Analysis
