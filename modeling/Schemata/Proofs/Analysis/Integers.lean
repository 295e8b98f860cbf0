import Schemata.Proofs.Analysis.WellFormed
import Schemata.Proofs.Declaration.Legible
import Schemata.Proofs.Layout
import Schemata.Proofs.Printing
import Schemata.Sql.Schema

/-!
# The integers of a plan

An integer stands in a plan as the default of a field, or on the right side of a condition. Reading
keeps integers to 64 bits, and the analysis asks only that the column is one of numbers: a column of
type `int` takes the same integers as one of type `int64`. Nothing else is refused: every integer of
64 bits can be used for every type of number, as a default and in queries of every kind
(`integers_used_iff`).
-/

namespace Schemata

/-! ## Uses of literals -/

/-- The kinds of queries that have conditions. -/
inductive QueryKind where
  | select
  | update
  | delete
  | count
  deriving DecidableEq, Repr

/-- The conditions of all queries of a kind. -/
def Plan.conditionsOf (plan : Plan) : QueryKind → List Condition
  | .select => plan.selects.flatMap (·.conditions)
  | .update => plan.updates.flatMap (·.conditions)
  | .delete => plan.deletes.flatMap (·.conditions)
  | .count => plan.counts.flatMap (·.conditions)

/-- What a literal is there for. -/
inductive LiteralUse where
  | default
  | comparison (kind : QueryKind)
  deriving DecidableEq, Repr

/-- A plan has a literal for a column of some type. -/
inductive Plan.Uses (plan : Plan) : LiteralUse → FieldType → Literal → Prop where
  | default {model : Model} {field : Field} {literal : Literal} (isModel : model ∈ plan.models)
      (isField : field ∈ model.fields) (given : field.default = some literal) :
      Uses plan .default field.type literal
  | comparison {kind : QueryKind} {condition : Condition} {literal : Literal}
      (member : condition ∈ plan.conditionsOf kind)
      (compared : condition.right = .literal literal) :
      Uses plan (.comparison kind) (plan.field condition.left).type literal

/-! ## Where literals come from -/

namespace Analysis

open Checked

variable {source : String} {plan : Plan}

/-- A literal of a query was declared, so it can be read, and the column beside it takes it. -/
theorem legible_of_query {catalog : Catalog} {base : ModelId} {joins : List Join}
    {conditions : List Condition} (inScope : QueryScoped catalog base joins conditions)
    {declared : List Declaration.Condition}
    (conditionsOf : ConditionsOf catalog declared conditions)
    (legible : ∀ item ∈ declared, item.Legible) {condition : Condition}
    (member : condition ∈ conditions) {literal : Literal}
    (compared : condition.right = .literal literal) :
    literal.Legible ∧ literal.fits (catalog.field condition.left).type
      (catalog.field condition.left).nullable = true := by
  refine ⟨?_, (inScope.conditions condition member).literal literal compared⟩
  obtain ⟨item, paired, conditionOf, -⟩ := exists_zip_of_mem_right conditionsOf member
  have rightOf := conditionOf.right
  rw [compared] at rightOf
  -- Only a declared literal resolves to a literal, and to the same one.
  generalize declaredRight : item.right = operand at rightOf
  cases rightOf
  exact legible item (List.of_mem_zip paired).1 literal declaredRight

/-- A literal in a condition of a plan that compiles can be read, and its column takes it. -/
theorem legible_of_comparison (compiled : compile source = .ok plan) {kind : QueryKind}
    {condition : Condition} (member : condition ∈ plan.conditionsOf kind) {literal : Literal}
    (compared : condition.right = .literal literal) :
    literal.Legible ∧ literal.fits (plan.field condition.left).type
      (plan.field condition.left).nullable = true := by
  obtain ⟨schema, parsed, resolves⟩ := exists_resolves_of_compile compiled
  have legible := Declaration.Schema.parse_legible parsed
  cases kind with
  | select =>
      obtain ⟨query, isQuery, isCondition⟩ := List.mem_flatMap.1 member
      obtain ⟨declared, isDeclared, gives⟩ := resolves.selects query isQuery
      obtain ⟨asks, readable⟩ := legible.selects declared isDeclared
      obtain ⟨_, isResult, selectOf⟩ := (resolveSelect_complete _ asks).of_gives gives
      cases isResult
      have inScope := ((resolveSelect_ensures _ declared).of_gives gives query rfl).1
      exact legible_of_query inScope.toQueryScoped selectOf.conditions readable isCondition compared
  | update =>
      obtain ⟨query, isQuery, isCondition⟩ := List.mem_flatMap.1 member
      obtain ⟨declared, isDeclared, gives⟩ := resolves.updates query isQuery
      have readable := legible.updates declared isDeclared
      obtain ⟨_, isResult, updateOf⟩ := (resolveUpdate_complete _ declared).of_gives gives
      cases isResult
      have inScope := ((resolveUpdate_ensures _ declared).of_gives gives query rfl).1
      exact legible_of_query inScope updateOf.conditions readable isCondition compared
  | delete =>
      obtain ⟨query, isQuery, isCondition⟩ := List.mem_flatMap.1 member
      obtain ⟨declared, isDeclared, gives⟩ := resolves.deletes query isQuery
      have readable := legible.deletes declared isDeclared
      obtain ⟨_, isResult, deleteOf⟩ := (resolveDelete_complete _ declared).of_gives gives
      cases isResult
      have inScope := ((resolveDelete_ensures _ declared).of_gives gives query rfl).1
      exact legible_of_query inScope deleteOf.conditions readable isCondition compared
  | count =>
      obtain ⟨query, isQuery, isCondition⟩ := List.mem_flatMap.1 member
      obtain ⟨declared, isDeclared, gives⟩ := resolves.counts query isQuery
      have readable := legible.counts declared isDeclared
      obtain ⟨_, isResult, countOf⟩ := (resolveCount_complete _ declared).of_gives gives
      cases isResult
      have inScope := (resolveCount_ensures _ declared).of_gives gives query rfl
      exact legible_of_query inScope countOf.conditions readable isCondition compared

/-- The default of a field of a plan that compiles can be read. -/
theorem legible_of_default (compiled : compile source = .ok plan) {model : Model}
    (isModel : model ∈ plan.models) {field : Field} (isField : field ∈ model.fields)
    {literal : Literal} (given : field.default = some literal) : literal.Legible := by
  obtain ⟨schema, parsed, modelsOf⟩ := exists_modelOf_of_compile compiled
  obtain ⟨declared, paired, modelOf⟩ := exists_zip_of_mem_right modelsOf isModel
  rw [modelOf.fields] at isField
  obtain ⟨item, isItem, rfl⟩ := List.mem_map.1 isField
  obtain ⟨default, isDefault, rfl⟩ := Option.map_eq_some_iff.1 given
  have legible := Declaration.Schema.parse_legible parsed
  exact (legible.models declared (List.of_mem_zip paired).1).fields item isItem default isDefault

end Analysis

/-- Every literal of a plan that compiles can be read, and it is a value of its column. -/
theorem Plan.Uses.legible {source : String} {plan : Plan} (compiled : compile source = .ok plan)
    {use : LiteralUse} {type : FieldType} {literal : Literal} (uses : plan.Uses use type literal) :
    literal.Legible ∧ ∃ nullable, literal.StandsIn type nullable := by
  cases uses with
  | default isModel isField given =>
      have wellFormed := (wellFormed_of_compile compiled).models.each _ isModel
      exact ⟨Analysis.legible_of_default compiled isModel isField given, _,
        (wellFormed.fields _ isField).default literal given⟩
  | comparison member compared =>
      obtain ⟨legible, fits⟩ := Analysis.legible_of_comparison compiled member compared
      exact ⟨legible, _, Literal.standsIn_of_fits fits⟩

/-! ## Sources for plans -/

/-- Statements that are resolved have a source: their printed form. -/
theorem exists_compile_of_analyze {nodes : List Node} (printable : ∀ node ∈ nodes, node.Printable)
    (tuples : ∀ node ∈ nodes, node.IsTuple) {schema : Declaration.Schema} {plan : Plan}
    (reads : Declaration.Schema.ofNodes (nodes.map Node.unplaced) = .ok schema)
    (resolved : Analysis.analyze schema = .ok plan) :
    ∃ placed, compile (Node.print nodes) = .ok placed ∧ placed.unplaced = plan := by
  obtain ⟨lexemes, writes, statements⟩ := writes_printStatements printable tuples
  have file : Grammar.File (lexemes.map Lexeme.unplaced) (nodes.map Node.unplaced) := by
    have whole := Grammar.File.intro .nil statements .none .nil
    rwa [List.nil_append, List.append_nil, List.append_nil, List.append_nil] at whole
  have plans := compile_unplaced writes.lexes.lexemes?
  have read : Node.read ⟨lexemes.map Lexeme.unplaced, .start⟩ = .ok (nodes.map Node.unplaced) :=
    file.read_eq_ok
  rw [unplacedPlan?, read, ok_bind, reads, Except.toOption, Option.bind_some, resolved] at plans
  obtain ⟨placed, compiled, same⟩ := Option.map_eq_some_iff.1 plans
  exact ⟨placed, eq_ok_of_toOption compiled, same⟩

/-- Plans that are the same without places use the same literals. -/
theorem Plan.Uses.of_unplaced {plan : Plan} {use : LiteralUse} {type : FieldType}
    {literal : Literal} (uses : plan.unplaced.Uses use type literal) :
    plan.Uses use type literal := by
  cases uses with
  | default isModel isField given =>
      obtain ⟨model, modelMem, rfl⟩ := List.mem_map.1 isModel
      obtain ⟨field, fieldMem, rfl⟩ := List.mem_map.1 isField
      have uses : plan.Uses .default field.type literal := .default modelMem fieldMem given
      exact uses
  | @comparison kind condition _ member compared =>
      have sameType : (plan.unplaced.field condition.left).type =
          (plan.field condition.left).type := by
        rw [Plan.unplaced, Catalog.field_unplaced, Field.unplaced]
      have sameConditions : plan.unplaced.conditionsOf kind = plan.conditionsOf kind := by
        cases kind <;> exact List.flatMap_map _ _ _
      rw [sameType]
      exact .comparison (sameConditions ▸ member) compared

/-! ## One schema with an integer in every place -/

/-- A value, which stands nowhere in particular. -/
def Atom.unplaced (atom : Atom) : Leaf :=
  ⟨atom, .start, 0⟩

/-- An entry of a keyword and its values, which stand nowhere in particular. -/
def Node.ofAtoms (keyword : String) (values : List Atom) (children : List Node) : Node :=
  .tuple ⟨keyword, .start⟩ (values.map Atom.unplaced) children

/-- The condition that a gauge is at a level. -/
def levelEntry (level : Int) : Node :=
  .ofAtoms "where" [.path "gauge" "level" [], .comparison .eq, .integer level] []

/-- Gauges with a level, which is a number by default, and queries for those that are at it. -/
def gaugeNodes (type : FieldType) (level : Int) : List Node := [
  .ofAtoms "model" [.ident "gauge"] [
    .ofAtoms "key" [.ident "level"] [],
    .ofAtoms "field" [.ident "level", .ident type.name] [
      .flag ⟨"updatable", .start⟩, .ofAtoms "default" [.integer level] []]],
  .ofAtoms "select" [.ident "gauge"] [levelEntry level],
  .ofAtoms "update" [.ident "gauge"] [levelEntry level],
  .ofAtoms "delete" [.ident "gauge"] [levelEntry level],
  .ofAtoms "count" [.ident "gauge"] [levelEntry level]]

/-- The declared condition that a gauge is at a level. -/
def levelDeclared (level : Int) : Declaration.Condition where
  left := ⟨⟨"gauge", .start⟩, ⟨"level", ⟨1, 7, 6⟩⟩⟩
  op := .eq
  right := .literal (.int level)
  position := .start

/-- What the schema of gauges declares. -/
def gaugeSchema (type : FieldType) (level : Int) : Declaration.Schema where
  models := [{
    name := ⟨"gauge", .start⟩
    key := some [⟨"level", .start⟩]
    fields := [⟨⟨"level", .start⟩, ⟨type, .start, 0⟩, { updatable := true },
      some ⟨.int level, .start, 0⟩, none⟩]
    position := .start }]
  selects := [⟨[.model ⟨"gauge", .start⟩], [], [levelDeclared level], none, .start⟩]
  updates := [⟨⟨"gauge", .start⟩, [levelDeclared level], .start⟩]
  deletes := [⟨⟨"gauge", .start⟩, [], [levelDeclared level], .start⟩]
  counts := [⟨⟨"gauge", .start⟩, [], [levelDeclared level], .start⟩]

/-- The condition that a gauge is at a level, by its column. -/
def levelCondition (level : Int) : Condition :=
  ⟨⟨0, 0⟩, .eq, .literal (.int level)⟩

/-- The plan for gauges. The level is their key, so every query is about one row. -/
def gaugePlan (type : FieldType) (level : Int) : Plan where
  models := [⟨"gauge", "gauge", [
    ⟨{ updatable := true }, "level", "level", type, some (.int level), none, .start⟩], [0], [],
    .start⟩]
  selects := [⟨0, [.model 0], [], [levelCondition level], .one, none, .model 0, .start⟩]
  updates := [⟨0, [levelCondition level], .start⟩]
  deletes := [⟨0, [], [levelCondition level], .one, .start⟩]
  counts := [⟨0, [], [levelCondition level], .start⟩]
  returningTargets := [0]

/-- The nodes of the schema have no places. -/
theorem unplaced_gaugeNodes (type : FieldType) (level : Int) :
    (gaugeNodes type level).map Node.unplaced = gaugeNodes type level := rfl

set_option maxRecDepth 4000 in
/-- The nodes are read as the schema. -/
theorem ofNodes_gauge (type : FieldType) (level : Int) :
    Declaration.Schema.ofNodes (gaugeNodes type level) = .ok (gaugeSchema type level) := by
  cases type <;> rfl

/-! ## Resolving the schema -/

namespace Analysis

open Checked

section Gauges

variable {type : FieldType} (isNumber : type = .int ∨ type = .int64 ∨ type = .float64)
  (level : Int)

/-- The condition fixes the key, so it is about one row. -/
theorem cardinality_gauge :
    cardinality (gaugePlan type level).toCatalog ⟨0, []⟩ [levelCondition level] = .one := by
  simp [cardinality, fixedFields, Condition.fixes, levelCondition, gaugePlan, Catalog.model,
    Model.uniqueKeys]

/-- The model of gauges is found. -/
theorem resolveModel_gauge :
    resolveModel (gaugePlan type level).toCatalog ⟨"gauge", .start⟩ = pure (some 0) := by
  simp [resolveModel, gaugePlan, Catalog.modelId?]

include isNumber

/-- A number takes every integer. -/
theorem fits_int (nullable : Bool) : (Literal.int level).fits type nullable = true := by
  rcases isNumber with rfl | rfl | rfl <;> rfl

/-- The model of gauges is enrolled without a problem. -/
theorem resolveCatalog_gauge :
    resolveCatalog (gaugeSchema type level) = pure (gaugePlan type level).toCatalog := by
  have table : Text.snakeCase "gauge" = "gauge" := by decide +kernel
  have column : Text.snakeCase "level" = "level" := by decide +kernel
  have quiet : reportAll [] = pure () := rfl
  simp [resolveCatalog, enrolModels, enrolModel, tableOf, takeTable, enrolFields, checkAttributes,
    attributeFaults, resolvePrimaryKey, resolveKey, keyFields, keyField?, checkPrimaryKey,
    resolveUniques, resolveRelations, resolveField, gaugeSchema, gaugePlan, table, column, quiet,
    fits_int isNumber]

/-- The condition is resolved without a problem, and brings nothing in. -/
theorem resolveConditions_gauge :
    resolveConditions (gaugePlan type level).toCatalog ⟨0, []⟩ [levelDeclared level] =
      pure (⟨0, []⟩, [levelCondition level]) := by
  have column : resolveColumn (gaugePlan type level).toCatalog (levelDeclared level).left =
      pure (some ⟨0, 0⟩) := by
    simp only [resolveColumn, levelDeclared, resolveModel_gauge, pure_bind]
    simp [gaugePlan, Catalog.model, Model.fieldId?]
  have faultless :
      conditionFault? (gaugePlan type level).toCatalog (levelCondition level) = none := by
    simp [conditionFault?, levelCondition, gaugePlan, Catalog.field, Catalog.model, Model.field,
      fits_int isNumber]
  rw [levelCondition] at faultless
  simp only [resolveConditions, resolveCondition, column, pure_bind]
  simp [levelDeclared, levelCondition, resolveOperand, reach, Scope.contains, Scope.members,
    reachOperand, faultless]

/-- What the delete and the count have in common is resolved without a problem. -/
theorem resolveFiltered_gauge :
    resolveFiltered (gaugePlan type level).toCatalog
        ⟨⟨"gauge", .start⟩, [], [levelDeclared level], .start⟩ =
      pure (some (⟨0, []⟩, [levelCondition level])) := by
  simp only [resolveFiltered, resolveModel_gauge, pure_bind, draftFiltered, List.foldlM_nil,
    resolveConditions_gauge isNumber]
  rfl

/-- The select is resolved without a problem. -/
theorem resolveSelect_gauge :
    resolveSelect (gaugePlan type level).toCatalog
        ⟨[.model ⟨"gauge", .start⟩], [], [levelDeclared level], none, .start⟩ =
      pure (some ⟨0, [.model 0], [], [levelCondition level], .one, none, .model 0, .start⟩) := by
  have draft : draftSelect? (gaugePlan type level).toCatalog
      ⟨[.model ⟨"gauge", .start⟩], [], [levelDeclared level], none, .start⟩ =
        pure (some ⟨[.model 0], ⟨0, []⟩, [levelCondition level], none⟩) := by
    simp [draftSelect?, resolveProjections, resolveProjection, resolveModel_gauge, draftSelect,
      Projection.source, reach, Scope.contains, Scope.members, resolveConditions_gauge isNumber,
      resolvePaging?]
  have clean : (pure (some ⟨[.model 0], ⟨0, []⟩, [levelCondition level], none⟩) :
      Checked (Option SelectDraft)).ifClean =
        pure (some (some ⟨[.model 0], ⟨0, []⟩, [levelCondition level], none⟩)) := rfl
  rw [resolveSelect, draft, clean, pure_bind]
  simp [cardinality_gauge, resultShape]

/-- The update is resolved without a problem. -/
theorem resolveUpdate_gauge :
    resolveUpdate (gaugePlan type level).toCatalog
        ⟨⟨"gauge", .start⟩, [levelDeclared level], .start⟩ =
      pure (some ⟨0, [levelCondition level], .start⟩) := by
  have foreign : [levelDeclared level].filterMap
      (foreignColumn? ((gaugePlan type level).model 0).name) = [] := by
    simp [foreignColumn?, levelDeclared, gaugePlan, Catalog.model]
  have updatable : ((gaugePlan type level).model 0).updatable.isEmpty = false := by
    simp [gaugePlan, Catalog.model, Model.updatable, Model.fieldsWhere, Model.fieldIds, Model.field]
  have clean : (pure (⟨0, []⟩, [levelCondition level]) :
      Checked (Scope × List Condition)).ifClean =
        pure (some (⟨0, []⟩, [levelCondition level])) := rfl
  have quiet : reportAll [] = pure () := rfl
  simp only [resolveUpdate, resolveModel_gauge, pure_bind, foreign, updatable, List.map_nil, quiet,
    resolveConditions_gauge isNumber, clean, cardinality_gauge]
  rfl

/-- The schema of gauges is resolved into their plan. -/
theorem analyze_gauge : analyze (gaugeSchema type level) = .ok (gaugePlan type level) := by
  have resolved : resolveSchema (gaugeSchema type level) = pure (gaugePlan type level) := by
    rw [resolveSchema, resolveCatalog_gauge isNumber, pure_bind]
    simp [gaugeSchema, resolveAll, resolveSelect_gauge isNumber, resolveUpdate_gauge isNumber,
      resolveDelete, resolveCount, resolveFiltered_gauge isNumber, cardinality_gauge,
      returningTargets]
    rfl
  rw [analyze, resolved]
  rfl

end Gauges

end Analysis

/-- The plan for gauges has the level everywhere. -/
theorem gaugePlan_uses (use : LiteralUse) (type : FieldType) (level : Int) :
    (gaugePlan type level).Uses use type (.int level) := by
  have compared : ∀ kind, levelCondition level ∈ (gaugePlan type level).conditionsOf kind := by
    intro kind
    cases kind <;> exact List.mem_cons_self
  cases use with
  | default =>
      have isModel : (gaugePlan type level).model 0 ∈ (gaugePlan type level).models :=
        List.mem_cons_self
      exact .default isModel List.mem_cons_self rfl
  | comparison kind => exact .comparison (compared kind) rfl

/-- A flag can be printed if its keyword is a word. -/
theorem Node.printable_flag_iff {keyword : Name} :
    (Node.flag keyword).Printable ↔ IsWord keyword.text := by
  constructor
  · rintro ⟨word⟩
    exact word
  · exact .flag

/-- A node can be printed if its keyword is a word and its values and children can be. -/
theorem Node.printable_ofAtoms_iff {keyword : String} {values : List Atom} {children : List Node} :
    (Node.ofAtoms keyword values children).Printable ↔ IsWord keyword ∧
      (∀ value ∈ values, value.Printable) ∧ ∀ child ∈ children, child.Printable := by
  constructor
  · rintro (_ | ⟨word, printable, items⟩)
    refine ⟨word, fun value member => ?_, items⟩
    exact printable value.unplaced (List.mem_map_of_mem member)
  · rintro ⟨word, printable, items⟩
    refine .tuple word (fun leaf member => ?_) items
    obtain ⟨value, isValue, rfl⟩ := List.mem_map.1 member
    exact printable value isValue

/-- The nodes can be printed if the level fits into 64 bits. -/
theorem gaugeNodes_printable (type : FieldType) {level : Int} (inRange : IsInt64 level) :
    ∀ node ∈ gaugeNodes type level, node.Printable := by
  have words : ∀ word ∈ ["model", "gauge", "key", "field", "level", "updatable", "default",
      "where", "select", "update", "delete", "count"], IsWord word := by decide
  have typeWord : IsWord type.name := by cases type <;> decide
  simp only [List.forall_mem_cons] at words
  simp [gaugeNodes, levelEntry, Node.printable_ofAtoms_iff, Node.printable_flag_iff, Atom.Printable,
    words, typeWord, inRange]

/-- Every integer of 64 bits has a source that uses it, in every place for every type of number. -/
theorem exists_uses {type : FieldType} (isNumber : type = .int ∨ type = .int64 ∨ type = .float64)
    {level : Int} (inRange : IsInt64 level) (use : LiteralUse) :
    ∃ source plan, compile source = .ok plan ∧ plan.Uses use type (.int level) := by
  have tuples : ∀ node ∈ gaugeNodes type level, node.IsTuple := by
    simp [gaugeNodes, Node.ofAtoms, Node.IsTuple]
  have reads := ofNodes_gauge type level
  rw [← unplaced_gaugeNodes] at reads
  obtain ⟨plan, compiled, same⟩ := exists_compile_of_analyze
    (gaugeNodes_printable type inRange) tuples reads (Analysis.analyze_gauge isNumber level)
  exact ⟨_, plan, compiled, .of_unplaced (same ▸ gaugePlan_uses use type level)⟩

/--
The integers that plans use for columns of a type are those of 64 bits, if the type is one of
numbers, and none otherwise.
-/
theorem integers_used_iff (use : LiteralUse) (type : FieldType) (value : Int) :
    (∃ source plan, compile source = .ok plan ∧ plan.Uses use type (.int value)) ↔
      (type = .int ∨ type = .int64 ∨ type = .float64) ∧ IsInt64 value := by
  constructor
  · rintro ⟨source, plan, compiled, uses⟩
    obtain ⟨inRange, nullable, stands⟩ := uses.legible compiled
    cases stands with
    | int _ isNumber => exact ⟨isNumber, inRange⟩
  · rintro ⟨isNumber, inRange⟩
    exact exists_uses isNumber inRange use

/-- An integer of 32 bits, as the rows of a column of type `int` hold them. -/
def IsInt32 (value : Int) : Prop :=
  -2147483648 ≤ value ∧ value ≤ 2147483647

instance (value : Int) : Decidable (IsInt32 value) :=
  inferInstanceAs (Decidable (_ ∧ _))

/-- A schema with a default that is one too large for 32 bits. -/
def oversizedSource : String :=
  "model item ( field id int autoincrement, field size int ( default 2147483648 ) )
"

/-- The plan of the schema. -/
def oversizedPlan : Plan where
  models := [⟨"item", "item", [
    ⟨{ autoincrement := true }, "id", "id", .int, none, none, ⟨1, 20, 19⟩⟩,
    ⟨{}, "size", "size", .int, some (.int 2147483648), none, ⟨1, 48, 47⟩⟩], [0], [], ⟨1, 1, 0⟩⟩]

/-- The default is accepted, although the column it is written for holds 32 bits. -/
theorem oversizedPlan_unfit :
    compile oversizedSource = .ok oversizedPlan ∧
    oversizedPlan.Uses .default .int (.int 2147483648) ∧ ¬ IsInt32 2147483648 ∧
    Sql.columnLine Sql.postgres (oversizedPlan.field ⟨0, 1⟩) =
      "size integer NOT NULL DEFAULT 2147483648" := by
  refine ⟨?_, ?_, by decide, by decide +kernel⟩
  · apply eq_ok_of_toOption
    unfold oversizedSource
    rw [compile_ofList]
    decide +kernel
  · have isModel : oversizedPlan.model 0 ∈ oversizedPlan.models := List.mem_cons_self
    exact .default isModel (List.mem_cons_of_mem _ List.mem_cons_self) rfl

end Schemata
