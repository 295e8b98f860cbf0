import Mathlib.Data.List.Forall2
import Schemata.Proofs.Analysis.QueryScoping

/-!
# Nothing that was declared is left out

Resolution goes on after a problem and leaves out what it cannot use: a field whose column is taken,
a key with a field that is not there, a join that no relation makes, a condition whose sides do not
go together. Each of these is reported. So without a problem a catalog has one model for every
declared model and one relation for every declared relation (`resolveCatalog_complete`), and a query
has everything that its declaration asks for.
-/

namespace Schemata.Analysis

open Checked

/-- The names of the fields of a key. -/
def keyNames (fields : List Field) (key : List FieldId) : List String :=
  key.map fun id => (fields.getD id default).name

/-- A model says all that its declaration says. -/
structure ModelOf (declared : Declaration.Model) (model : Model) : Prop where
  name : model.name = declared.name.text
  table : model.table = (tableOf declared).1
  fields : model.fields = declared.fields.map fun field =>
    resolveField field (Text.snakeCase field.name.text)
  declaredKey : ∀ names, declared.key = some names →
    keyNames model.fields model.primaryKey = names.map (·.text)
  impliedKey : declared.key = none → model.primaryKey = autoincrementFields model.fields
  unique : model.unique.map (keyNames model.fields) =
    declared.uniques.map fun names => names.map (·.text)
  position : model.position = declared.position

/-- A relation says all that its declaration says. -/
structure RelationOf (catalog : Catalog) (declared : Declaration.Relation)
    (relation : Relation) : Prop where
  left : RefersTo catalog declared.left relation.left
  right : RefersTo catalog declared.right relation.right
  onDelete : relation.onDelete = declared.onDelete.map (·.value)
  position : relation.position = declared.position

/-- One more item behind items that stand in the order of their declarations. -/
theorem forall₂_concat {Declared Item : Type} {same : Declared → Item → Prop}
    {before : List Declared} {items : List Item} {declared : Declared} {item : Item}
    (earlier : List.Forall₂ same before items) (last : same declared item) :
    List.Forall₂ same (before ++ [declared]) (items ++ [item]) :=
  List.rel_append earlier (.cons last .nil)

/-! ## Models -/

/-- Without a problem, every declared field is enrolled. -/
theorem enrolFields_complete (model : String) (taken : List (String × Position))
    (declared : List Declaration.Field) :
    (enrolFields model taken declared).Ensures fun fields =>
      fields = declared.map fun field => resolveField field (Text.snakeCase field.name.text) := by
  induction declared generalizing taken with
  | nil => exact ensures_pure rfl
  | cons field declared inductionHypothesis =>
      rw [enrolFields]
      cases taken.lookup (Text.snakeCase field.name.text) with
      | some previous => exact ensures_report_bind
      | none =>
          refine (ensures_gives (checkAttributes field)).bind fun _ _ => ?_
          refine (inductionHypothesis _).bind fun others allOthers => ensures_pure ?_
          rw [allOthers, List.map_cons]

/-- Without a problem, a key consists of the fields that it names, in order. -/
theorem keyFields_complete (model : String) (fields : List Field) (names : List Name)
    (found : List FieldId) :
    (keyFields model fields found names).Ensures fun result =>
      ∃ key, result = some key ∧
        keyNames fields key = keyNames fields found ++ names.map (·.text) := by
  induction names generalizing found with
  | nil => exact ensures_pure ⟨found, rfl, by simp⟩
  | cons name names inductionHypothesis =>
      rw [keyFields]
      cases isFound : keyField? fields name with
      | none => exact ensures_report_bind
      | some id =>
          dsimp only
          split
          · exact ensures_report_bind
          · obtain ⟨bound, named, -⟩ := List.findIdx?_eq_some_iff_getElem.1 isFound
            have sameName : (fields.getD id default).name = name.text := by
              simpa [List.getD_eq_getElem?_getD, bound] using named
            have extended : keyNames fields (found ++ [id]) =
                keyNames fields found ++ [name.text] := by
              simp only [keyNames, List.map_append, List.map_singleton, sameName]
            refine (inductionHypothesis (found ++ [id])).mono ?_
            rintro _ ⟨key, rfl, allNames⟩
            refine ⟨key, rfl, ?_⟩
            rw [allNames, extended, List.map_cons, List.append_assoc, List.singleton_append]

/-- A key without problems has the fields that it names, in order. -/
theorem resolveKey_complete (model : String) (fields : List Field) (names : List Name) :
    (resolveKey model fields names).Ensures fun key =>
      keyNames fields key = names.map (·.text) := by
  refine (keyFields_complete model fields names []).bind ?_
  rintro _ ⟨key, rfl, allNames⟩
  exact ensures_pure allNames

/-- Without a problem, the primary key is the declared one, or the only autoincrement field. -/
theorem resolvePrimaryKey_complete (declared : Declaration.Model) (fields : List Field) :
    (resolvePrimaryKey declared fields).Ensures fun key =>
      (∀ names, declared.key = some names → keyNames fields key = names.map (·.text)) ∧
        (declared.key = none → key = autoincrementFields fields) := by
  unfold resolvePrimaryKey
  cases declared.key with
  | some names =>
      refine (resolveKey_complete _ fields names).mono fun key allNames => ⟨?_, nofun⟩
      rintro _ ⟨⟩
      exact allNames
  | none =>
      dsimp only
      split
      · next id only => exact ensures_pure ⟨nofun, fun _ => only.symm⟩
      · exact ensures_report_bind

/-- Without a problem, every unique key is kept, if it names a field. -/
theorem resolveUniques_complete (model : String) (fields : List Field) (primaryKey : List FieldId)
    (keys : List (List Name)) (found : List (List FieldId)) (named : ∀ key ∈ keys, key ≠ []) :
    (resolveUniques model fields primaryKey found keys).Ensures fun uniques =>
      uniques.map (keyNames fields) =
        found.map (keyNames fields) ++ keys.map fun names => names.map (·.text) := by
  induction keys generalizing found with
  | nil => exact ensures_pure (by simp)
  | cons names keys inductionHypothesis =>
      obtain ⟨nonempty, othersNamed⟩ := List.forall_mem_cons.1 named
      cases names with
      | nil => exact absurd rfl nonempty
      | cons first names =>
          rw [resolveUniques]
          refine (resolveKey_complete model fields (first :: names)).bind fun key allNames => ?_
          split
          · next empty =>
            -- A key without fields would have no names, but it has that of the first field.
            rw [List.isEmpty_iff.1 empty] at allNames
            cases allNames
          · split
            · exact ensures_report_bind
            · refine (inductionHypothesis (found ++ [key]) othersNamed).mono fun uniques all => ?_
              rw [all]
              simp [allNames]

/-- Without a problem, one more model is enrolled, and it says all that its declaration says. -/
theorem enrolModel_complete (enrolment : Enrolment) (declared : Declaration.Model)
    (named : ∀ key ∈ declared.uniques, key ≠ []) :
    (enrolModel enrolment declared).Ensures fun after =>
      ∃ model, after.models = enrolment.models ++ [model] ∧ ModelOf declared model := by
  unfold enrolModel
  dsimp only
  cases enrolment.names.lookup (Text.snakeCase declared.name.text) with
  | some previous => exact ensures_report_bind
  | none =>
      dsimp only
      refine (ensures_gives (takeTable _ _ _ _)).bind fun tables _ => ?_
      refine (enrolFields_complete _ [] declared.fields).bind fun fields allFields => ?_
      refine (resolvePrimaryKey_complete declared fields).bind fun key isKey => ?_
      refine (ensures_gives (checkPrimaryKey _ fields key)).bind fun _ _ => ?_
      refine (resolveUniques_complete _ fields key _ [] named).bind fun unique allUniques => ?_
      exact ensures_pure ⟨_, rfl, rfl, rfl, allFields, isKey.1, isKey.2, allUniques, rfl⟩

/-- Without a problem, the models of a schema are those that it declares. -/
theorem enrolModels_complete (declared : List Declaration.Model)
    (named : ∀ model ∈ declared, ∀ key ∈ model.uniques, key ≠ []) :
    (enrolModels declared).Ensures (List.Forall₂ ModelOf declared) := by
  refine (ensures_foldlM enrolModel
    (fun rest enrolment => ∃ before, declared = before ++ rest ∧
      List.Forall₂ ModelOf before enrolment.models)
    ?_ declared {} ⟨[], rfl, .nil⟩).bind fun enrolment enrolled => ensures_pure ?_
  · rintro model rest enrolment ⟨before, split, earlier⟩
    have member : model ∈ declared := by simp [split]
    refine (enrolModel_complete enrolment model (named model member)).mono ?_
    rintro after ⟨resolved, models, modelOf⟩
    refine ⟨before ++ [model], by simp [split], ?_⟩
    rw [models]
    exact forall₂_concat earlier modelOf
  · obtain ⟨before, all, models⟩ := enrolled
    rw [List.append_nil] at all
    exact all ▸ models

/-! ## Relations -/

/-- Names are looked up in the models alone. -/
theorem RefersTo.withRelations {catalog : Catalog} {ref : Declaration.ColumnRef} {column : Column}
    (refers : RefersTo catalog ref column) (relations : List Relation) :
    RefersTo { catalog with relations := relations } ref column :=
  ⟨refers.model, refers.field⟩

/-- Without a problem, one more relation is added, and it says all that its declaration says. -/
theorem resolveRelation_complete (catalog : Catalog) (declared : Declaration.Relation) :
    (resolveRelation catalog declared).Ensures fun after =>
      ∃ relation, after = { catalog with relations := catalog.relations ++ [relation] } ∧
        RelationOf catalog declared relation := by
  refine (resolveColumn_ensures catalog declared.left).bind ?_
  rintro _ ⟨left, rfl, leftRefers⟩
  refine (resolveColumn_ensures catalog declared.right).bind ?_
  rintro _ ⟨right, rfl, rightRefers⟩
  dsimp only
  split
  · exact ensures_pure ⟨_, rfl, leftRefers, rightRefers, rfl, rfl⟩
  · next faulty =>
    refine (ensures_reportAll _).bind fun _ none => ?_
    exact absurd (List.map_eq_nil_iff.1 none) faulty

/-- Without a problem, the models and relations of a catalog are those that its schema declares. -/
theorem resolveCatalog_complete (schema : Declaration.Schema)
    (named : ∀ model ∈ schema.models, ∀ key ∈ model.uniques, key ≠ []) :
    (resolveCatalog schema).Ensures fun catalog =>
      List.Forall₂ ModelOf schema.models catalog.models ∧
        List.Forall₂ (RelationOf catalog) schema.relations catalog.relations := by
  refine (enrolModels_complete schema.models named).bind fun models allModels => ?_
  refine (ensures_foldlM resolveRelation
    (fun rest catalog => catalog.models = models ∧ ∃ before, schema.relations = before ++ rest ∧
      List.Forall₂ (RelationOf catalog) before catalog.relations)
    ?_ schema.relations ⟨models, []⟩ ⟨rfl, [], rfl, .nil⟩).mono ?_
  · rintro declared rest catalog ⟨sameModels, before, split, earlier⟩
    refine (resolveRelation_complete catalog declared).mono ?_
    rintro _ ⟨relation, rfl, relationOf⟩
    refine ⟨sameModels, before ++ [declared], by simp [split], ?_⟩
    have kept : ∀ source target, RelationOf catalog source target →
        RelationOf { catalog with relations := catalog.relations ++ [relation] } source target :=
      fun _ _ known => ⟨known.left.withRelations _, known.right.withRelations _, known.onDelete,
        known.position⟩
    exact forall₂_concat (earlier.imp kept) (kept _ _ relationOf)
  · rintro catalog ⟨rfl, before, all, relations⟩
    rw [List.append_nil] at all
    exact ⟨allModels, all ▸ relations⟩

/-! ## Parts of queries -/

/-- A projection asks for what its declaration names. -/
inductive ProjectionOf (catalog : Catalog) : Declaration.Projection → Projection → Prop where
  | model {name : Name} {id : ModelId} (found : catalog.modelId? name.text = some id) :
      ProjectionOf catalog (.model name) (.model id)
  | field {ref : Declaration.ColumnRef} {column : Column} (refers : RefersTo catalog ref column) :
      ProjectionOf catalog (.field ref) (.field column)

/-- A join step makes a declared join, in one of its two directions. -/
inductive JoinOf (catalog : Catalog) (declared : Declaration.Join) : Join → Prop where
  | forward {left right : Column} (leftRefers : RefersTo catalog declared.left left)
      (rightRefers : RefersTo catalog declared.right right) : JoinOf catalog declared ⟨left, right⟩
  | backward {left right : Column} (leftRefers : RefersTo catalog declared.left left)
      (rightRefers : RefersTo catalog declared.right right) : JoinOf catalog declared ⟨right, left⟩

/-- The joins of a query make all declared joins first, and then those that were inferred. -/
def JoinsOf (catalog : Catalog) (declared : List Declaration.Join) (joins : List Join) : Prop :=
  ∃ explicit inferred, joins = explicit ++ inferred ∧
    List.Forall₂ (JoinOf catalog) declared explicit

/-- The conditions of a query are the declared ones. -/
def ConditionsOf (catalog : Catalog) (declared : List Declaration.Condition)
    (conditions : List Condition) : Prop :=
  List.Forall₂ (fun source condition =>
    ConditionOf catalog source condition ∧ condition.op = source.op) declared conditions

/-- A query has pages exactly if they are declared, and then by the declared column and size. -/
inductive PagingOf (catalog : Catalog) : Option Declaration.Paging → Option Paging → Prop where
  | unpaged : PagingOf catalog none none
  | paged {declared : Declaration.Paging} {paging : Paging}
      (refers : RefersTo catalog declared.column paging.column)
      (size : (paging.size : Int) = declared.size.value) :
      PagingOf catalog (some declared) (some paging)

/-- What the parts of a select are declared to be. -/
structure SelectParts (catalog : Catalog) (declared : Declaration.Select)
    (projections : List Projection) (joins : List Join) (conditions : List Condition)
    (paging : Option Paging) : Prop where
  projections : List.Forall₂ (ProjectionOf catalog) declared.projections projections
  joins : JoinsOf catalog declared.joins joins
  conditions : ConditionsOf catalog declared.conditions conditions
  paging : PagingOf catalog declared.paging paging

/-- A select says all that its declaration says. -/
structure SelectOf (catalog : Catalog) (declared : Declaration.Select) (select : Select) : Prop
    extends SelectParts catalog declared select.projections select.joins select.conditions
      select.paging where
  position : select.position = declared.position

/-- An insert says all that its declaration says. -/
structure InsertOf (catalog : Catalog) (declared : Declaration.Insert) (insert : Insert) :
    Prop where
  model : catalog.modelId? declared.model.text = some insert.model
  position : insert.position = declared.position

/-- An update says all that its declaration says. -/
structure UpdateOf (catalog : Catalog) (declared : Declaration.Update) (update : Update) :
    Prop where
  model : catalog.modelId? declared.model.text = some update.model
  conditions : ConditionsOf catalog declared.conditions update.conditions
  position : update.position = declared.position

/-- The parts of a delete or a count say all that their declaration says. -/
structure FilteredOf (catalog : Catalog) (declared : Declaration.Filtered) (model : ModelId)
    (joins : List Join) (conditions : List Condition) (position : Position) : Prop where
  model : catalog.modelId? declared.model.text = some model
  joins : JoinsOf catalog declared.joins joins
  conditions : ConditionsOf catalog declared.conditions conditions
  position : position = declared.position

/-- A projection without problems is resolved as it was declared. -/
theorem resolveProjection_complete (catalog : Catalog) (declared : Declaration.Projection) :
    (resolveProjection catalog declared).Ensures fun result =>
      ∃ projection, result = some projection ∧ ProjectionOf catalog declared projection := by
  cases declared with
  | model name =>
      refine (resolveModel_ensures catalog name).bind ?_
      rintro _ ⟨id, rfl, found⟩
      exact ensures_pure ⟨.model id, rfl, .model found⟩
  | field ref =>
      refine (resolveColumn_ensures catalog ref).bind ?_
      rintro _ ⟨column, rfl, refers⟩
      exact ensures_pure ⟨.field column, rfl, .field refers⟩

/-- Without a problem, a select asks for everything that is declared, in order. -/
theorem resolveProjections_complete (catalog : Catalog) (position : Position)
    {before declared : List Declaration.Projection} {found : List Projection}
    (earlier : List.Forall₂ (ProjectionOf catalog) before found) :
    (resolveProjections catalog position found declared).Ensures
      (List.Forall₂ (ProjectionOf catalog) (before ++ declared)) := by
  induction declared generalizing before found with
  | nil => exact ensures_pure (by simpa using earlier)
  | cons item others inductionHypothesis =>
      refine (resolveProjection_complete catalog item).bind ?_
      rintro _ ⟨projection, rfl, projectionOf⟩
      dsimp only
      split
      · exact ensures_report_bind
      · have more := inductionHypothesis (forall₂_concat earlier projectionOf)
        rwa [List.append_assoc, List.singleton_append] at more

/-- Without a problem, an explicit join is made. -/
theorem joinExplicitly_complete (catalog : Catalog) (scope : Scope)
    (declared : Declaration.Join) :
    (joinExplicitly catalog scope declared).Ensures fun after =>
      ∃ join, after = scope.join [join] ∧ JoinOf catalog declared join := by
  refine (resolveColumn_ensures catalog declared.left).bind ?_
  rintro _ ⟨left, rfl, leftRefers⟩
  refine (resolveColumn_ensures catalog declared.right).bind ?_
  rintro _ ⟨right, rfl, rightRefers⟩
  dsimp only
  split
  next =>
    split
    next => exact ensures_pure ⟨_, rfl, .forward leftRefers rightRefers⟩
    next => exact ensures_pure ⟨_, rfl, .backward leftRefers rightRefers⟩
    next => exact ensures_report_bind
    next => exact ensures_report_bind
  next => exact ensures_report_bind

/-- Without a problem, all explicit joins are made, in order. -/
theorem joinAllExplicitly_complete (catalog : Catalog) (base : ModelId)
    (declared : List Declaration.Join) :
    (declared.foldlM (joinExplicitly catalog) ⟨base, []⟩).Ensures fun after =>
      after.base = base ∧ List.Forall₂ (JoinOf catalog) declared after.joins := by
  refine (ensures_foldlM (joinExplicitly catalog)
    (fun rest scope => scope.base = base ∧ ∃ before, declared = before ++ rest ∧
      List.Forall₂ (JoinOf catalog) before scope.joins)
    ?_ declared ⟨base, []⟩ ⟨rfl, [], rfl, .nil⟩).mono ?_
  · rintro item rest scope ⟨sameBase, before, split, earlier⟩
    refine (joinExplicitly_complete catalog scope item).mono ?_
    rintro _ ⟨join, rfl, joinOf⟩
    exact ⟨sameBase, before ++ [item], by simp [split], forall₂_concat earlier joinOf⟩
  · rintro after ⟨sameBase, before, all, joins⟩
    rw [List.append_nil] at all
    exact ⟨sameBase, all ▸ joins⟩

/-- A scope that grew from the declared joins has them in front. -/
theorem joinsOf_of_grows {catalog : Catalog} {declared : List Declaration.Join}
    {before after : Scope} (made : List.Forall₂ (JoinOf catalog) declared before.joins)
    (grows : before.Grows catalog.relations after) : JoinsOf catalog declared after.joins := by
  obtain ⟨inferred, _, rfl⟩ := grows
  exact ⟨before.joins, inferred, rfl, made⟩

/-- Without a problem, a declared condition is kept. -/
theorem resolveCondition_complete (catalog : Catalog) (scope : Scope)
    (declared : Declaration.Condition) :
    (resolveCondition catalog scope declared).Ensures fun (_, conditions) =>
      ConditionsOf catalog [declared] conditions := by
  refine (resolveColumn_ensures catalog declared.left).bind ?_
  rintro _ ⟨left, rfl, leftRefers⟩
  refine (resolveOperand_ensures catalog declared.right).bind ?_
  rintro _ ⟨right, rfl, rightOf⟩
  refine (ensures_gives (reach _ _ _ _)).bind fun _ _ => ?_
  refine (ensures_gives (reachOperand _ _ _ _)).bind fun _ _ => ?_
  dsimp only
  split
  next => exact ensures_pure (.cons ⟨⟨leftRefers, rightOf⟩, rfl⟩ .nil)
  next => exact ensures_report_bind

/-- Without a problem, all declared conditions are kept, in order, while the scope grows. -/
theorem resolveConditions_complete (catalog : Catalog) (scope : Scope)
    (declared : List Declaration.Condition) :
    (resolveConditions catalog scope declared).Ensures fun (after, conditions) =>
      scope.Grows catalog.relations after ∧ ConditionsOf catalog declared conditions := by
  have kept : (resolveConditions catalog scope declared).Ensures fun (_, conditions) =>
      ConditionsOf catalog declared conditions := by
    induction declared generalizing scope with
    | nil => exact ensures_pure .nil
    | cons item others inductionHypothesis =>
        refine (resolveCondition_complete catalog scope item).bind fun first firstKept => ?_
        refine (inductionHypothesis first.1).bind fun rest restKept => ?_
        exact ensures_pure (List.rel_append firstKept restKept)
  refine (kept.and (resolveConditions_ensures catalog scope declared)).mono ?_
  rintro ⟨after, conditions⟩ ⟨conditionsOf, grows, -⟩
  exact ⟨grows, conditionsOf⟩

/-- Without a problem, a select has pages exactly if they are declared. -/
theorem resolvePaging_complete (catalog : Catalog) (base : ModelId)
    (declared : Option Declaration.Paging) :
    (resolvePaging? catalog base declared).Ensures (PagingOf catalog declared) := by
  cases declared with
  | none => exact ensures_pure .unpaged
  | some declared =>
      refine (resolveColumn_ensures catalog declared.column).bind ?_
      rintro _ ⟨column, rfl, refers⟩
      dsimp only
      split
      · exact ensures_report_bind
      · split
        · next sized =>
          have positive : 0 < declared.size.value := by simp at sized; exact sized.1
          refine ensures_pure (.paged refers ?_)
          dsimp only
          omega
        · exact ensures_report_bind

/-! ## Queries -/

/-- Without a problem, an insert is resolved. -/
theorem resolveInsert_complete (catalog : Catalog) (declared : Declaration.Insert) :
    (resolveInsert catalog declared).Ensures fun result =>
      ∃ insert, result = some insert ∧ InsertOf catalog declared insert := by
  refine (resolveModel_ensures catalog declared.model).bind ?_
  rintro _ ⟨id, rfl, found⟩
  exact ensures_pure ⟨⟨id, declared.position⟩, rfl, found, rfl⟩

/-- Without a problem, a select that asks for something has all of its parts. -/
theorem draftSelect?_complete (catalog : Catalog) {declared : Declaration.Select}
    (asks : declared.projections ≠ []) :
    (draftSelect? catalog declared).Ensures fun result =>
      ∃ draft, result = some draft ∧ SelectParts catalog declared draft.projections
        draft.scope.joins draft.conditions draft.paging := by
  refine (resolveProjections_complete catalog _ .nil).bind fun projections projectionsOf => ?_
  cases projections with
  | nil => exact absurd (List.forall₂_nil_right_iff.1 projectionsOf) asks
  | cons first others =>
      dsimp only [List.head?_cons]
      have drafted : (draftSelect catalog (first :: others) first.source declared).Ensures
          fun draft => SelectParts catalog declared draft.projections draft.scope.joins
            draft.conditions draft.paging := by
        refine (joinAllExplicitly_complete catalog _ _).bind ?_
        rintro joined ⟨-, joinsMade⟩
        refine (reachAll_ensures catalog _ joined _).bind ?_
        rintro reached ⟨reaches, -⟩
        refine (resolveConditions_complete catalog reached _).bind ?_
        rintro ⟨after, conditions⟩ ⟨grows, conditionsOf⟩
        refine (resolvePaging_complete catalog _ _).bind fun paging pagingOf => ?_
        exact ensures_pure
          ⟨projectionsOf, joinsOf_of_grows joinsMade (reaches.trans grows), conditionsOf, pagingOf⟩
      exact drafted.bind fun draft parts => ensures_pure ⟨draft, rfl, parts⟩

/-- Without a problem, a select that asks for something is resolved. -/
theorem resolveSelect_complete (catalog : Catalog) {declared : Declaration.Select}
    (asks : declared.projections ≠ []) :
    (resolveSelect catalog declared).Ensures fun result =>
      ∃ select, result = some select ∧ SelectOf catalog declared select := by
  refine (draftSelect?_complete catalog asks).ifClean.bind ?_
  rintro _ ⟨_, rfl, draft, rfl, parts⟩
  rw [Option.join_some]
  dsimp only
  split
  · exact ensures_report_bind
  · exact ensures_pure ⟨_, rfl, parts, rfl⟩

/-- Without a problem, an update is resolved. -/
theorem resolveUpdate_complete (catalog : Catalog) (declared : Declaration.Update) :
    (resolveUpdate catalog declared).Ensures fun result =>
      ∃ update, result = some update ∧ UpdateOf catalog declared update := by
  refine (resolveModel_ensures catalog declared.model).bind ?_
  rintro _ ⟨id, rfl, found⟩
  dsimp only
  split
  · exact ensures_report_bind
  · next updatable =>
    refine (ensures_reportAll _).bind fun _ noForeign => ?_
    split
    · next foreign => simp [List.map_eq_nil_iff.1 noForeign] at foreign
    · refine (resolveConditions_complete catalog ⟨id, []⟩ declared.conditions).ifClean.bind ?_
      rintro _ ⟨⟨scope, conditions⟩, rfl, _, conditionsOf⟩
      dsimp only
      split
      · exact ensures_report_bind
      · exact ensures_pure ⟨_, rfl, found, conditionsOf, rfl⟩

/-- Without a problem, what deletes and counts have in common is resolved. -/
theorem resolveFiltered_complete (catalog : Catalog) (declared : Declaration.Filtered) :
    (resolveFiltered catalog declared).Ensures fun result =>
      ∃ scope conditions, result = some (scope, conditions) ∧
        FilteredOf catalog declared scope.base scope.joins conditions declared.position := by
  refine (resolveModel_ensures catalog declared.model).bind ?_
  rintro _ ⟨base, rfl, found⟩
  have drafted : (draftFiltered catalog base declared).Ensures fun (scope, conditions) =>
      FilteredOf catalog declared scope.base scope.joins conditions declared.position := by
    refine (joinAllExplicitly_complete catalog base declared.joins).bind ?_
    rintro joined ⟨sameBase, joinsMade⟩
    refine (resolveConditions_complete catalog joined declared.conditions).mono ?_
    rintro ⟨after, conditions⟩ ⟨grows, conditionsOf⟩
    have kept : after.base = base := grows.base.trans sameBase
    exact ⟨kept ▸ found, joinsOf_of_grows joinsMade grows, conditionsOf, rfl⟩
  refine drafted.ifClean.mono ?_
  rintro _ ⟨⟨scope, conditions⟩, rfl, filteredOf⟩
  exact ⟨scope, conditions, rfl, filteredOf⟩

/-- Without a problem, a delete is resolved. -/
theorem resolveDelete_complete (catalog : Catalog) (declared : Declaration.Filtered) :
    (resolveDelete catalog declared).Ensures fun result => ∃ delete, result = some delete ∧
      FilteredOf catalog declared delete.model delete.joins delete.conditions
        delete.position := by
  refine (resolveFiltered_complete catalog declared).bind ?_
  rintro _ ⟨scope, conditions, rfl, filteredOf⟩
  exact ensures_pure ⟨_, rfl, filteredOf⟩

/-- Without a problem, a count is resolved. -/
theorem resolveCount_complete (catalog : Catalog) (declared : Declaration.Filtered) :
    (resolveCount catalog declared).Ensures fun result => ∃ count, result = some count ∧
      FilteredOf catalog declared count.model count.joins count.conditions count.position := by
  refine (resolveFiltered_complete catalog declared).bind ?_
  rintro _ ⟨scope, conditions, rfl, filteredOf⟩
  exact ensures_pure ⟨_, rfl, filteredOf⟩

end Schemata.Analysis
