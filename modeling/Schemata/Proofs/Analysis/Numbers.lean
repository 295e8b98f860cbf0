import Schemata.Proofs.Analysis.JoinTree
import Schemata.Proofs.Analysis.Independence
import Schemata.Proofs.Analysis.SearchTables
import Schemata.Proofs.Analysis.WellFormed

/-!
# Numbers that are looked up are taken

Models and fields are known by their numbers, and a number is looked up without asking whether it is
taken. Resolution goes on after a problem, with fields left out, keys that are empty and relations
that are missing, so nothing here may rest on a run without problems: `Checked.Yields` speaks of the
value of a step whatever it reported. `Consults` lists what resolution looks up, over all the
catalogs, scopes and searches that come up on the way, and `Consults.inRange` says that all of it is
taken. The plan that comes out holds only numbers of its own catalog.
-/

namespace Schemata

/-! ## What is taken -/

/-- The number of a model is taken in a catalog. -/
def Catalog.HasModel (catalog : Catalog) (id : ModelId) : Prop :=
  id < catalog.models.length

/-- A model that is taken is one of the catalog. -/
theorem Catalog.HasModel.mem_models {catalog : Catalog} {id : ModelId}
    (taken : catalog.HasModel id) : catalog.model id ∈ catalog.models := by
  rw [Catalog.model, List.getD_eq_getElem?_getD, List.getElem?_eq_getElem taken, Option.getD_some]
  exact List.getElem_mem taken

/-- The numbers in the keys of a model are those of its fields. -/
def Model.KeysInRange (model : Model) : Prop :=
  ∀ key ∈ model.uniqueKeys, ∀ id ∈ key, id < model.fields.length

/-- The numbers in a catalog are taken: in the keys of its models and in its relations. -/
structure Catalog.InRange (catalog : Catalog) : Prop where
  keys : ∀ model ∈ catalog.models, model.KeysInRange
  relations : ∀ relation ∈ catalog.relations,
    catalog.HasColumn relation.left ∧ catalog.HasColumn relation.right

section Parts

variable (catalog : Catalog)

/-- Both columns of a join are taken. -/
structure Join.InRange (join : Join) : Prop where
  left : catalog.HasColumn join.left
  right : catalog.HasColumn join.right

/-- The column that another one is compared with is taken. -/
def Operand.InRange : Operand → Prop
  | .column other => catalog.HasColumn other
  | _ => True

/-- The columns of a condition are taken. -/
structure Condition.InRange (condition : Condition) : Prop where
  left : catalog.HasColumn condition.left
  right : condition.right.InRange catalog

/-- What a projection asks for is taken. -/
def Projection.InRange : Projection → Prop
  | .model id => catalog.HasModel id
  | .field column => catalog.HasColumn column

/-- What a row consists of is taken. -/
def ResultShape.InRange : ResultShape → Prop
  | .model id => catalog.HasModel id
  | .field column => catalog.HasColumn column
  | .record _ members => ∀ projection ∈ members, projection.InRange catalog

/-- The numbers in the joins and conditions of a query on a model are taken. -/
structure RowsInRange (model : ModelId) (joins : List Join) (conditions : List Condition) :
    Prop where
  model : catalog.HasModel model
  joins : ∀ join ∈ joins, join.InRange catalog
  conditions : ∀ condition ∈ conditions, condition.InRange catalog

/-- The numbers in a select are taken. -/
structure Select.InRange (select : Select) : Prop where
  rows : RowsInRange catalog select.model select.joins select.conditions
  projections : ∀ projection ∈ select.projections, projection.InRange catalog
  paging : ∀ paging ∈ select.paging, catalog.HasColumn paging.column
  result : select.result.InRange catalog

end Parts

/-- The numbers in a plan are taken in its own catalog. -/
structure Plan.InRange (plan : Plan) : Prop where
  catalog : plan.toCatalog.InRange
  inserts : ∀ insert ∈ plan.inserts, plan.toCatalog.HasModel insert.model
  selects : ∀ select ∈ plan.selects, select.InRange plan.toCatalog
  updates : ∀ update ∈ plan.updates, RowsInRange plan.toCatalog update.model [] update.conditions
  deletes : ∀ delete ∈ plan.deletes,
    RowsInRange plan.toCatalog delete.model delete.joins delete.conditions
  counts : ∀ count ∈ plan.counts,
    RowsInRange plan.toCatalog count.model count.joins count.conditions
  targets : ∀ id ∈ plan.returningTargets, plan.toCatalog.HasModel id

namespace Analysis

/-! ## Values whatever was reported -/

namespace Checked

variable {α β : Type}

/-- A property holds of the value of a step, whatever the step reported. -/
def Yields (checked : Checked α) (property : α → Prop) : Prop :=
  property checked.value

/-- A property of a value is yielded with it. -/
theorem yields_pure {property : α → Prop} {value : α} (holds : property value) :
    (pure value : Checked α).Yields property := holds

/-- A step yields what the step behind it makes of its own value. -/
theorem Yields.bind {first : Checked α} {next : α → Checked β} {middle : α → Prop}
    {property : β → Prop} (yields : first.Yields middle)
    (continues : ∀ value, middle value → (next value).Yields property) :
    (first >>= next).Yields property :=
  continues _ yields

/-- The second of two steps may not care for the value of the first. -/
theorem yields_bind {first : Checked α} {next : α → Checked β} {property : β → Prop}
    (continues : ∀ value, (next value).Yields property) : (first >>= next).Yields property :=
  continues _

/-- A choice yields what both of its sides do. -/
theorem yields_ite {condition : Prop} [Decidable condition] {first second : Checked α}
    {property : α → Prop} (yieldsFirst : first.Yields property)
    (yieldsSecond : second.Yields property) :
    (if condition then first else second).Yields property := by
  split
  · exact yieldsFirst
  · exact yieldsSecond

/-- Nothing has to hold of a value that is not there. -/
theorem yields_none {property : α → Prop} :
    (pure none : Checked (Option α)).Yields fun result => ∀ value ∈ result, property value :=
  fun _ missing => by cases missing

/-- A value that is kept has the property that it was yielded with. -/
theorem Yields.ifClean {checked : Checked α} {property : α → Prop}
    (yields : checked.Yields property) :
    checked.ifClean.Yields fun result => ∀ value ∈ result, property value := by
  intro value kept
  obtain ⟨-, rfl⟩ := (value_ifClean_eq_some_iff checked value).1 kept
  exact yields

/-- What every step keeps holds at the end. -/
theorem yields_foldlM {step : β → α → Checked β} {property : β → Prop} (items : List α)
    (keeps : ∀ item ∈ items, ∀ state, property state → (step state item).Yields property)
    (start : β) (holds : property start) : (items.foldlM step start).Yields property := by
  induction items generalizing start with
  | nil => exact yields_pure holds
  | cons item items inductionHypothesis =>
      rw [List.forall_mem_cons] at keeps
      rw [List.foldlM_cons]
      exact (keeps.1 start holds).bind (inductionHypothesis keeps.2)

end Checked

open Checked

/-! ## Keys -/

/-- The fields that a key names, if they are all found, are fields of the model. -/
theorem keyFields_yields (model : String) (fields : List Field) (names : List Name)
    {found : List FieldId} (inRange : ∀ id ∈ found, id < fields.length) :
    (keyFields model fields found names).Yields fun result =>
      ∀ key ∈ result, ∀ id ∈ key, id < fields.length := by
  induction names generalizing found with
  | nil =>
      rintro key ⟨⟩
      exact inRange
  | cons name names inductionHypothesis =>
      rw [keyFields]
      cases isFound : keyField? fields name with
      | none => exact yields_bind fun _ => yields_bind fun _ => yields_none
      | some id =>
          dsimp only
          split
          · exact yields_bind fun _ => yields_bind fun _ => yields_none
          · apply inductionHypothesis
            obtain ⟨idBound, -⟩ := List.findIdx?_eq_some_iff_getElem.1 isFound
            exact List.forall_mem_append.2 ⟨inRange, List.forall_mem_singleton.2 idBound⟩

/-- A key that was resolved consists of fields of the model, and is empty without names. -/
theorem resolveKey_yields (model : String) (fields : List Field) (names : List Name) :
    (resolveKey model fields names).Yields fun key =>
      (∀ id ∈ key, id < fields.length) ∧ (key ≠ [] → names ≠ []) := by
  constructor
  · have found := keyFields_yields model fields names (List.forall_mem_nil _)
    change ∀ id ∈ (keyFields model fields [] names).value.getD [], id < fields.length
    cases result : (keyFields model fields [] names).value with
    | none => exact List.forall_mem_nil _
    | some key => exact found key result
  · rintro nonempty rfl
    exact nonempty rfl

/-- The primary key is made of fields that are there. -/
theorem resolvePrimaryKey_yields (declared : Declaration.Model) (fields : List Field) :
    (resolvePrimaryKey declared fields).Yields fun key => ∀ id ∈ key, id < fields.length := by
  unfold resolvePrimaryKey
  split
  · exact (resolveKey_yields _ fields _).1
  · split
    · next id only =>
      refine yields_pure (List.forall_mem_singleton.2 ?_)
      have listed : id ∈ autoincrementFields fields := by
        rw [only]
        exact List.mem_cons_self
      exact List.mem_range.1 (List.mem_filter.1 listed).1
    · exact yields_bind fun _ => yields_pure (List.forall_mem_nil _)

/-- Unique keys are made of fields that are there. -/
theorem resolveUniques_yields (model : String) (fields : List Field) (primaryKey : List FieldId)
    (keys : List (List Name)) {found : List (List FieldId)}
    (inRange : ∀ key ∈ found, ∀ id ∈ key, id < fields.length) :
    (resolveUniques model fields primaryKey found keys).Yields fun uniques =>
      ∀ key ∈ uniques, ∀ id ∈ key, id < fields.length := by
  induction keys generalizing found with
  | nil => exact yields_pure inRange
  | cons names keys inductionHypothesis =>
      cases names with
      | nil => exact inductionHypothesis inRange
      | cons first names =>
          rw [resolveUniques]
          refine (resolveKey_yields model fields (first :: names)).bind ?_
          rintro resolved ⟨resolvedInRange, -⟩
          split
          · exact inductionHypothesis inRange
          · split
            · exact yields_bind fun _ => inductionHypothesis inRange
            · apply inductionHypothesis
              exact List.forall_mem_append.2
                ⟨inRange, List.forall_mem_singleton.2 resolvedInRange⟩

/-! ## Catalogs -/

/-- One more model has its keys in range. -/
theorem enrolModel_yields {enrolment : Enrolment} (declared : Declaration.Model)
    (inRange : ∀ model ∈ enrolment.models, model.KeysInRange) :
    (enrolModel enrolment declared).Yields fun enrolment =>
      ∀ model ∈ enrolment.models, model.KeysInRange := by
  unfold enrolModel
  dsimp only
  split
  · exact yields_bind fun _ => yields_pure inRange
  · refine yields_bind fun tables => ?_
    refine yields_bind fun fields => ?_
    refine (resolvePrimaryKey_yields declared fields).bind fun primaryKey keyInRange => ?_
    refine yields_bind fun _ => ?_
    refine (resolveUniques_yields _ fields primaryKey declared.uniques
      (List.forall_mem_nil _)).bind fun unique uniqueInRange => yields_pure ?_
    refine List.forall_mem_append.2 ⟨inRange, List.forall_mem_singleton.2 ?_⟩
    exact List.forall_mem_cons.2 ⟨keyInRange, uniqueInRange⟩

/-- The keys of every model are made of its own fields. -/
theorem enrolModels_yields (declared : List Declaration.Model) :
    (enrolModels declared).Yields fun models => ∀ model ∈ models, model.KeysInRange := by
  have enrolled := yields_foldlM declared (fun model _ _ => enrolModel_yields model) {}
    (List.forall_mem_nil _)
  exact enrolled.bind fun _ inRange => yields_pure inRange

/-- A name stands for a model of the catalog. -/
theorem resolveModel_yields (catalog : Catalog) (name : Name) :
    (resolveModel catalog name).Yields fun result => ∀ id ∈ result, catalog.HasModel id := by
  unfold resolveModel
  split
  · next id found =>
    rintro _ ⟨⟩
    exact (Catalog.modelId?_eq_some found).1
  · exact yields_bind fun _ => yields_none

/-- A reference stands for a column of the catalog. -/
theorem resolveColumn_yields (catalog : Catalog) (ref : Declaration.ColumnRef) :
    (resolveColumn catalog ref).Yields fun result =>
      ∀ column ∈ result, catalog.HasColumn column := by
  refine (resolveModel_yields catalog ref.model).bind ?_
  rintro (_ | id) modelTaken
  · exact yields_none
  · dsimp only
    split
    · next field found =>
      rintro _ ⟨⟩
      exact ⟨modelTaken id rfl, (Model.fieldId?_eq_some found).1⟩
    · exact yields_bind fun _ => yields_none

/-- One more relation is in range. -/
theorem resolveRelation_yields {catalog : Catalog} (declared : Declaration.Relation)
    (inRange : catalog.InRange) : (resolveRelation catalog declared).Yields Catalog.InRange := by
  refine (resolveColumn_yields catalog declared.left).bind fun left leftTaken => ?_
  refine (resolveColumn_yields catalog declared.right).bind fun right rightTaken => ?_
  split
  · next left right =>
    dsimp only
    split
    · refine yields_pure ⟨inRange.keys, List.forall_mem_append.2 ⟨inRange.relations, ?_⟩⟩
      exact List.forall_mem_singleton.2 ⟨leftTaken left rfl, rightTaken right rfl⟩
    · exact yields_bind fun _ => yields_pure inRange
  · exact yields_pure inRange

/-- A catalog is in range after any number of its relations. -/
theorem resolveRelations_yields {models : List Model}
    (inRange : ∀ model ∈ models, model.KeysInRange) (declared : List Declaration.Relation) :
    (resolveRelations models declared).Yields Catalog.InRange :=
  yields_foldlM declared (fun relation _ _ => resolveRelation_yields relation) ⟨models, []⟩
    ⟨inRange, List.forall_mem_nil _⟩

/-! ## Searches -/

section Searches

variable {catalog : Catalog}

/-- The columns that a relation of a catalog connects are taken. -/
theorem inRange_of_connects (inRange : catalog.InRange) {join : Join}
    (related : ∃ relation ∈ catalog.relations, relation.connects join.left join.right = true) :
    join.InRange catalog := by
  obtain ⟨relation, member, connects⟩ := related
  obtain ⟨left, right⟩ := inRange.relations relation member
  simp only [Relation.connects, Bool.or_eq_true, Bool.and_eq_true, decide_eq_true_eq] at connects
  rcases connects with ⟨isLeft, isRight⟩ | ⟨isLeft, isRight⟩
  · exact ⟨isLeft ▸ left, isRight ▸ right⟩
  · exact ⟨isRight ▸ right, isLeft ▸ left⟩

/-- The joins of a tree are taken. -/
theorem inRange_of_joinTree (inRange : catalog.InRange) {members : List ModelId}
    {joins : List Join} (tree : JoinTree catalog.relations members joins) :
    ∀ join ∈ joins, join.InRange catalog := by
  induction joins generalizing members with
  | nil => exact List.forall_mem_nil _
  | cons join joins inductionHypothesis =>
      obtain ⟨step, others⟩ := tree
      exact List.forall_mem_cons.2
        ⟨inRange_of_connects inRange step.related, inductionHypothesis others⟩

/-- A search between models that are taken stays in its tables and comes to an end. -/
theorem exists_searchPath_of_inRange (inRange : catalog.InRange) {members : List ModelId}
    {target : ModelId} (membersTaken : ∀ member ∈ members, catalog.HasModel member)
    (targetTaken : catalog.HasModel target) :
    ∃ outcome, searchPath catalog members target = some outcome := by
  refine exists_searchPath ?_ membersTaken targetTaken
  intro relation member
  obtain ⟨left, right⟩ := inRange.relations relation member
  exact ⟨left.1, right.1⟩

end Searches

/-! ## Scopes -/

/-- The base and the joins of a query under construction are taken. -/
structure Scope.InRange (catalog : Catalog) (scope : Scope) : Prop where
  base : catalog.HasModel scope.base
  joins : ∀ join ∈ scope.joins, join.InRange catalog

section Scopes

variable {catalog : Catalog} {scope : Scope}

/-- The models of a scope in range are taken. -/
theorem Scope.InRange.members (inRange : scope.InRange catalog) :
    ∀ id ∈ scope.members, catalog.HasModel id := by
  refine List.forall_mem_cons.2 ⟨inRange.base, List.forall_mem_map.2 ?_⟩
  exact fun join member => (inRange.joins join member).right.1

/-- A scope stays in range with joins that are. -/
theorem Scope.InRange.join (inRange : scope.InRange catalog) {joins : List Join}
    (joinsInRange : ∀ join ∈ joins, join.InRange catalog) : (scope.join joins).InRange catalog :=
  ⟨inRange.base, List.forall_mem_append.2 ⟨inRange.joins, joinsInRange⟩⟩

/-- An explicit join keeps a scope in range, also if it is refused. -/
theorem joinExplicitly_yields (inRange : scope.InRange catalog) (declared : Declaration.Join) :
    (joinExplicitly catalog scope declared).Yields (Scope.InRange catalog) := by
  refine (resolveColumn_yields catalog declared.left).bind fun left leftTaken => ?_
  refine (resolveColumn_yields catalog declared.right).bind fun right rightTaken => ?_
  split
  · next left right =>
    have left := leftTaken left rfl
    have right := rightTaken right rfl
    dsimp only
    split
    · split
      · exact yields_pure (inRange.join (List.forall_mem_singleton.2 ⟨left, right⟩))
      · exact yields_pure (inRange.join (List.forall_mem_singleton.2 ⟨right, left⟩))
      · exact yields_bind fun _ => yields_pure inRange
      · exact yields_bind fun _ => yields_pure inRange
    · exact yields_bind fun _ => yields_pure inRange
  · exact yields_pure inRange

/-- Bringing a model in keeps a scope in range, also if there is no way to it. -/
theorem reach_yields (catalogInRange : catalog.InRange) (inRange : scope.InRange catalog)
    (position : Position) (model : ModelId) :
    (reach catalog position scope model).Yields (Scope.InRange catalog) := by
  unfold reach
  dsimp only
  split
  · exact yields_pure inRange
  · split
    · next joins inferred =>
      have inferredInRange := inRange_of_joinTree catalogInRange (inferPath_ok inferred).1
      exact yields_pure (inRange.join inferredInRange)
    · exact yields_bind fun _ => yields_pure inRange
    · exact yields_bind fun _ => yields_pure inRange

/-- The models that a declaration mentions: by their names, or by a column. -/
inductive Mentions (catalog : Catalog) : ModelId → Prop where
  | model (name : Name) {id : ModelId} (found : (resolveModel catalog name).value = some id) :
      Mentions catalog id
  | column (ref : Declaration.ColumnRef) {column : Column}
      (found : (resolveColumn catalog ref).value = some column) : Mentions catalog column.model

/-- A model that is mentioned is taken. -/
theorem Mentions.hasModel {id : ModelId} (mentions : Mentions catalog id) :
    catalog.HasModel id := by
  cases mentions with
  | model name found => exact resolveModel_yields catalog name id found
  | column ref found => exact (resolveColumn_yields catalog ref _ found).1

/-- A name that is found mentions its model. -/
theorem resolveModel_mentions (catalog : Catalog) (name : Name) :
    (resolveModel catalog name).Yields fun result => ∀ id ∈ result, Mentions catalog id :=
  fun _ found => .model name found

/--
The scopes that come up while queries are resolved: they start from a model that is mentioned, and
go on with explicit joins and with bringing in models that are mentioned.
-/
inductive Arises (catalog : Catalog) : Scope → Prop where
  | start {base : ModelId} (mentions : Mentions catalog base) : Arises catalog ⟨base, []⟩
  | join {scope : Scope} (arises : Arises catalog scope) (declared : Declaration.Join) :
      Arises catalog (joinExplicitly catalog scope declared).value
  | reach {scope : Scope} (arises : Arises catalog scope) (position : Position) {model : ModelId}
      (mentions : Mentions catalog model) :
      Arises catalog (reach catalog position scope model).value

/-- Every scope that comes up is in range. -/
theorem Arises.inRange (catalogInRange : catalog.InRange) (arises : Arises catalog scope) :
    scope.InRange catalog := by
  induction arises with
  | start mentions => exact ⟨mentions.hasModel, List.forall_mem_nil _⟩
  | join arises declared inductionHypothesis =>
      exact joinExplicitly_yields inductionHypothesis declared
  | reach arises position mentions inductionHypothesis =>
      exact reach_yields catalogInRange inductionHypothesis position _

end Scopes

/-! ## Queries -/

section Queries

variable {catalog : Catalog} {scope : Scope}

/-- What a condition compares with is taken, and so is its model mentioned. -/
theorem resolveOperand_yields (catalog : Catalog) (declared : Declaration.Operand) :
    (resolveOperand catalog declared).Yields fun result => ∀ operand ∈ result,
      operand.InRange catalog ∧ ∀ column, operand = .column column →
        Mentions catalog column.model := by
  cases declared with
  | placeholder =>
      rintro _ ⟨⟩
      exact ⟨trivial, fun column other => by cases other⟩
  | literal value =>
      rintro _ ⟨⟩
      exact ⟨trivial, fun column other => by cases other⟩
  | column ref =>
      intro operand resolved
      obtain ⟨column, found, rfl⟩ := Option.map_eq_some_iff.1 resolved
      refine ⟨resolveColumn_yields catalog ref column found, ?_⟩
      rintro _ ⟨⟩
      exact .column ref found

/-- A condition is in range, and the scope behind it comes up. -/
theorem resolveCondition_yields (arises : Arises catalog scope)
    (declared : Declaration.Condition) :
    (resolveCondition catalog scope declared).Yields fun result =>
      Arises catalog result.1 ∧ ∀ condition ∈ result.2, condition.InRange catalog := by
  have nothing : ∀ condition ∈ ([] : List Condition), condition.InRange catalog :=
    List.forall_mem_nil _
  unfold resolveCondition
  simp only [Yields, value_bind]
  cases leftFound : (resolveColumn catalog declared.left).value with
  | none => exact ⟨arises, nothing⟩
  | some left =>
      cases rightFound : (resolveOperand catalog declared.right).value with
      | none => exact ⟨arises, nothing⟩
      | some right =>
          have leftTaken := resolveColumn_yields catalog declared.left left leftFound
          obtain ⟨rightTaken, rightMentioned⟩ :=
            resolveOperand_yields catalog declared.right right rightFound
          have reached := arises.reach declared.left.position (.column declared.left leftFound)
          have both : Arises catalog (reachOperand catalog declared.position
              (reach catalog declared.left.position scope left.model).value right).value := by
            cases right with
            | column column => exact reached.reach _ (rightMentioned column rfl)
            | placeholder => exact reached
            | literal value => exact reached
          simp only [value_bind]
          split
          · exact ⟨both, List.forall_mem_singleton.2 ⟨leftTaken, rightTaken⟩⟩
          · exact ⟨both, nothing⟩

/-- Conditions lead to a scope that arises, and compare columns that are taken. -/
theorem resolveConditions_yields (arises : Arises catalog scope)
    (declared : List Declaration.Condition) :
    (resolveConditions catalog scope declared).Yields fun result =>
      Arises catalog result.1 ∧ ∀ condition ∈ result.2, condition.InRange catalog := by
  induction declared generalizing scope with
  | nil => exact ⟨arises, List.forall_mem_nil _⟩
  | cons condition declared inductionHypothesis =>
      refine (resolveCondition_yields arises condition).bind ?_
      rintro ⟨behind, first⟩ ⟨behindArises, firstInRange⟩
      refine (inductionHypothesis behindArises).bind ?_
      rintro ⟨last, rest⟩ ⟨lastArises, restInRange⟩
      exact ⟨lastArises, List.forall_mem_append.2 ⟨firstInRange, restInRange⟩⟩

/-- Explicit joins lead to a scope that arises. -/
theorem joins_yields (arises : Arises catalog scope) (declared : List Declaration.Join) :
    (declared.foldlM (joinExplicitly catalog) scope).Yields (Arises catalog) :=
  yields_foldlM declared (fun join _ _ arises => arises.join join) scope arises

/-- A projection that is taken, of a model that is mentioned. -/
structure Projection.IsMentioned (catalog : Catalog) (projection : Projection) : Prop where
  inRange : projection.InRange catalog
  source : Mentions catalog projection.source

/-- What a select asks for is mentioned. -/
theorem resolveProjection_yields (catalog : Catalog) (declared : Declaration.Projection) :
    (resolveProjection catalog declared).Yields fun result =>
      ∀ projection ∈ result, Projection.IsMentioned catalog projection := by
  cases declared with
  | model name =>
      intro projection resolved
      obtain ⟨id, found, rfl⟩ := Option.map_eq_some_iff.1 resolved
      exact ⟨resolveModel_yields catalog name id found, .model name found⟩
  | field ref =>
      intro projection resolved
      obtain ⟨column, found, rfl⟩ := Option.map_eq_some_iff.1 resolved
      exact ⟨resolveColumn_yields catalog ref column found, .column ref found⟩

/-- All that a select asks for is mentioned. -/
theorem resolveProjections_yields (position : Position) (declared : List Declaration.Projection)
    {found : List Projection}
    (foundMentioned : ∀ projection ∈ found, Projection.IsMentioned catalog projection) :
    (resolveProjections catalog position found declared).Yields fun projections =>
      ∀ projection ∈ projections, Projection.IsMentioned catalog projection := by
  induction declared generalizing found with
  | nil => exact yields_pure foundMentioned
  | cons projection declared inductionHypothesis =>
      refine (resolveProjection_yields catalog projection).bind ?_
      rintro (_ | resolved) isMentioned
      · exact inductionHypothesis foundMentioned
      · dsimp only
        split
        · exact yields_bind fun _ => inductionHypothesis foundMentioned
        · apply inductionHypothesis
          exact List.forall_mem_append.2
            ⟨foundMentioned, List.forall_mem_singleton.2 (isMentioned resolved rfl)⟩

/-- Pages go by a column that is taken. -/
theorem resolvePaging?_yields (base : ModelId) (declared : Option Declaration.Paging) :
    (resolvePaging? catalog base declared).Yields fun result =>
      ∀ paging ∈ result, catalog.HasColumn paging.column := by
  cases declared with
  | none => exact yields_none
  | some declared =>
      refine (resolveColumn_yields catalog declared.column).bind ?_
      rintro (_ | column) taken
      · exact yields_none
      · dsimp only
        split
        · exact yields_bind fun _ => yields_none
        · split
          · rintro _ ⟨⟩
            exact taken column rfl
          · exact yields_bind fun _ => yields_none

/-- Bringing in the models of projections leads to a scope that arises. -/
theorem sources_yields (position : Position) {projections : List Projection}
    (areMentioned : ∀ projection ∈ projections, Projection.IsMentioned catalog projection)
    (arises : Arises catalog scope) :
    ((projections.map Projection.source).foldlM (reach catalog position) scope).Yields
      (Arises catalog) := by
  refine yields_foldlM _ (List.forall_mem_map.2 fun projection member state stateArises => ?_)
    scope arises
  exact stateArises.reach position (areMentioned projection member).source

/-- The parts of a select are in range, and its scope comes up. -/
structure SelectDraft.InRange (catalog : Catalog) (draft : SelectDraft) : Prop where
  projections : ∀ projection ∈ draft.projections, projection.InRange catalog
  scope : Arises catalog draft.scope
  conditions : ∀ condition ∈ draft.conditions, condition.InRange catalog
  paging : ∀ paging ∈ draft.paging, catalog.HasColumn paging.column

/-- The parts of a select that starts from a model that is mentioned are in range. -/
theorem draftSelect_yields {projections : List Projection}
    (areMentioned : ∀ projection ∈ projections, Projection.IsMentioned catalog projection)
    {base : ModelId} (mentions : Mentions catalog base) (declared : Declaration.Select) :
    (draftSelect catalog projections base declared).Yields (SelectDraft.InRange catalog) := by
  refine (joins_yields (.start mentions) declared.joins).bind fun joined joinedArises => ?_
  refine (sources_yields declared.position areMentioned joinedArises).bind ?_
  intro reached reachedArises
  refine (resolveConditions_yields reachedArises declared.conditions).bind ?_
  rintro ⟨scope, conditions⟩ ⟨scopeArises, conditionsInRange⟩
  refine (resolvePaging?_yields base declared.paging).bind fun paging pagingTaken => ?_
  exact ⟨fun projection member => (areMentioned projection member).inRange, scopeArises,
    conditionsInRange, pagingTaken⟩

/-- The parts of a select are in range. -/
theorem draftSelect?_yields (catalog : Catalog) (declared : Declaration.Select) :
    (draftSelect? catalog declared).Yields fun result =>
      ∀ draft ∈ result, SelectDraft.InRange catalog draft := by
  refine (resolveProjections_yields declared.position declared.projections
    (List.forall_mem_nil _)).bind fun projections areMentioned => ?_
  cases first : projections.head? with
  | none => exact yields_none
  | some projection =>
      have mentions := (areMentioned projection (List.mem_of_mem_head? first)).source
      refine (draftSelect_yields areMentioned mentions declared).bind fun draft inRange => ?_
      rintro _ ⟨⟩
      exact inRange

/-- Rows of projections in range have a shape in range. -/
theorem resultShape_inRange {projections : List Projection}
    (inRange : ∀ projection ∈ projections, projection.InRange catalog) :
    (resultShape catalog projections).InRange catalog := by
  unfold resultShape
  split
  · exact inRange _ List.mem_cons_self
  · exact inRange _ List.mem_cons_self
  · exact inRange

/-- A select that is resolved is in range. -/
theorem resolveSelect_yields (catalogInRange : catalog.InRange) (declared : Declaration.Select) :
    (resolveSelect catalog declared).Yields fun result =>
      ∀ select ∈ result, select.InRange catalog := by
  refine (draftSelect?_yields catalog declared).ifClean.bind fun kept keptInRange => ?_
  cases joined : kept.join with
  | none => exact yields_none
  | some draft =>
      have inRange := keptInRange _ (Option.join_eq_some_iff.1 joined) draft rfl
      dsimp only
      split
      · exact yields_bind fun _ => yields_none
      · rintro _ ⟨⟩
        have scope := inRange.scope.inRange catalogInRange
        exact ⟨⟨scope.base, scope.joins, inRange.conditions⟩, inRange.projections, inRange.paging,
          resultShape_inRange inRange.projections⟩

/-- An insert that is resolved is on a model that is taken. -/
theorem resolveInsert_yields (catalog : Catalog) (declared : Declaration.Insert) :
    (resolveInsert catalog declared).Yields fun result =>
      ∀ insert ∈ result, catalog.HasModel insert.model := by
  intro insert resolved
  obtain ⟨id, found, rfl⟩ := Option.map_eq_some_iff.1 resolved
  exact resolveModel_yields catalog declared.model id found

/-- The joins and conditions of a delete or a count are in range. -/
theorem resolveFiltered_yields (catalogInRange : catalog.InRange)
    (declared : Declaration.Filtered) :
    (resolveFiltered catalog declared).Yields fun result => ∀ rows ∈ result,
      RowsInRange catalog rows.1.base rows.1.joins rows.2 := by
  refine (resolveModel_mentions catalog declared.model).bind ?_
  rintro (_ | base) mentions
  · exact yields_none
  · refine Yields.ifClean ?_
    refine (joins_yields (.start (mentions base rfl)) declared.joins).bind ?_
    intro joined joinedArises
    obtain ⟨arises, conditions⟩ := resolveConditions_yields joinedArises declared.conditions
    have scope := arises.inRange catalogInRange
    exact ⟨scope.base, scope.joins, conditions⟩

/-- A delete that is resolved is in range. -/
theorem resolveDelete_yields (catalogInRange : catalog.InRange)
    (declared : Declaration.Filtered) :
    (resolveDelete catalog declared).Yields fun result =>
      ∀ delete ∈ result, RowsInRange catalog delete.model delete.joins delete.conditions := by
  intro delete resolved
  obtain ⟨rows, found, rfl⟩ := Option.map_eq_some_iff.1 resolved
  exact resolveFiltered_yields catalogInRange declared rows found

/-- A count that is resolved is in range. -/
theorem resolveCount_yields (catalogInRange : catalog.InRange) (declared : Declaration.Filtered) :
    (resolveCount catalog declared).Yields fun result =>
      ∀ count ∈ result, RowsInRange catalog count.model count.joins count.conditions := by
  intro count resolved
  obtain ⟨rows, found, rfl⟩ := Option.map_eq_some_iff.1 resolved
  exact resolveFiltered_yields catalogInRange declared rows found

/-- An update that is resolved is in range. -/
theorem resolveUpdate_yields (catalog : Catalog) (declared : Declaration.Update) :
    (resolveUpdate catalog declared).Yields fun result =>
      ∀ update ∈ result, RowsInRange catalog update.model [] update.conditions := by
  refine (resolveModel_mentions catalog declared.model).bind ?_
  rintro (_ | id) mentions
  · exact yields_none
  · have mentioned := mentions id rfl
    have resolved := resolveConditions_yields (.start mentioned) declared.conditions
    refine yields_ite (yields_bind fun _ => ?_) ?_
    -- Whether or not there is something to update, the conditions are resolved next.
    all_goals
      refine yields_bind fun _ => yields_ite yields_none ?_
      refine resolved.ifClean.bind ?_
      rintro (_ | ⟨scope, conditions⟩) keptInRange
      · exact yields_none
      · dsimp only
        split
        · exact yields_bind fun _ => yields_none
        · refine yields_ite yields_none ?_
          rintro _ ⟨⟩
          exact ⟨mentioned.hasModel, List.forall_mem_nil _, (keptInRange _ rfl).2⟩

end Queries

/-! ## Plans -/

/-- Queries of one kind have a property if each of them does. -/
theorem resolveAll_yields {α β : Type} {resolve : α → Checked (Option β)} {property : β → Prop}
    (each : ∀ item, (resolve item).Yields fun result => ∀ query ∈ result, property query)
    (declared : List α) :
    (resolveAll resolve declared).Yields fun queries => ∀ query ∈ queries, property query := by
  intro query kept
  rw [value_resolveAll, List.mem_filterMap] at kept
  obtain ⟨item, -, resolved⟩ := kept
  exact each item query resolved

/-- The catalog of every schema is in range, whatever was reported. -/
theorem resolveCatalog_yields (schema : Declaration.Schema) :
    (resolveCatalog schema).Yields Catalog.InRange :=
  (enrolModels_yields schema.models).bind fun _ inRange =>
    resolveRelations_yields inRange schema.relations

/-- Whatever was reported, the numbers in what a schema resolves to are taken. -/
theorem resolveSchema_yields (schema : Declaration.Schema) :
    (resolveSchema schema).Yields Plan.InRange := by
  refine (resolveCatalog_yields schema).bind fun catalog inRange => ?_
  refine (resolveAll_yields (resolveInsert_yields catalog) _).bind fun inserts insertsTaken => ?_
  refine (resolveAll_yields (resolveSelect_yields inRange) _).bind fun selects selectsTaken => ?_
  refine (resolveAll_yields (resolveUpdate_yields catalog) _).bind fun updates updatesTaken => ?_
  refine (resolveAll_yields (resolveDelete_yields inRange) _).bind fun deletes deletesTaken => ?_
  refine (resolveAll_yields (resolveCount_yields inRange) _).bind fun counts countsTaken => ?_
  refine yields_pure ⟨inRange, insertsTaken, selectsTaken, updatesTaken, deletesTaken, countsTaken,
    fun id member => ?_⟩
  -- A model that is read back is written by one of the inserts or updates.
  have written := ((returningTargets_firstUses inserts updates).same id).1 member
  rcases List.mem_append.1 written with inserted | updated
  · obtain ⟨insert, insertMem, rfl⟩ := List.mem_map.1 inserted
    exact insertsTaken insert insertMem
  · obtain ⟨update, updateMem, rfl⟩ := List.mem_map.1 updated
    exact (updatesTaken update updateMem).model

/-! ## Lookups -/

/-- The fields of a declared model that were enrolled. -/
def enrolledFields (declared : Declaration.Model) : List Field :=
  (enrolFields declared.name.text [] declared.fields).value

/-- The catalog of a schema once some of its relations were added. -/
def catalogAfter (schema : Declaration.Schema) (relations : List Declaration.Relation) : Catalog :=
  (resolveRelations (enrolModels schema.models).value relations).value

/--
What is looked up by its number: an entry of a list, a model, a column, or, step after step, the
entries of the tables of a search.
-/
inductive Lookup where
  | entry (index size : Nat)
  | model (catalog : Catalog) (id : ModelId)
  | column (catalog : Catalog) (column : Column)
  | search (catalog : Catalog) (members : List ModelId) (target : ModelId)

/-- The number that is looked up is taken. A search that gives an outcome stays in its tables. -/
def Lookup.InRange : Lookup → Prop
  | .entry index size => index < size
  | .model catalog id => catalog.HasModel id
  | .column catalog found => catalog.HasColumn found
  | .search catalog members target => ∃ outcome, searchPath catalog members target = some outcome

/-- What the resolution of a schema looks up, whether or not problems were reported before. -/
inductive Consults (schema : Declaration.Schema) : Lookup → Prop where
  /-- A field of a primary key, to see whether it is nullable. -/
  | keyField {declared : Declaration.Model} {id : FieldId} (member : declared ∈ schema.models)
      (inKey : id ∈ (resolvePrimaryKey declared (enrolledFields declared)).value) :
      Consults schema (.entry id (enrolledFields declared).length)
  /-- The first name of a unique key whose fields were found, to report the key there. -/
  | keyName {declared : Declaration.Model} {key : List Name} (member : declared ∈ schema.models)
      (isUnique : key ∈ declared.uniques)
      (found : (resolveKey declared.name.text (enrolledFields declared) key).value ≠ []) :
      Consults schema (.entry 0 key.length)
  /-- The model that a name stands for, once some of the relations were added. -/
  | model {relations : List Declaration.Relation} (earlier : relations <+: schema.relations)
      {id : ModelId} (mentions : Mentions (catalogAfter schema relations) id) :
      Consults schema (.model (catalogAfter schema relations) id)
  /-- The column that a reference stands for, once some of the relations were added. -/
  | column {relations : List Declaration.Relation} (earlier : relations <+: schema.relations)
      {ref : Declaration.ColumnRef} {column : Column}
      (found : (resolveColumn (catalogAfter schema relations) ref).value = some column) :
      Consults schema (.column (catalogAfter schema relations) column)
  /-- A model of a query under construction. -/
  | scope {scope : Scope} (arises : Arises (resolveCatalog schema).value scope) {id : ModelId}
      (member : id ∈ scope.members) : Consults schema (.model (resolveCatalog schema).value id)
  /-- The tables of a search for joins from these models to one that is mentioned. -/
  | search {scope : Scope} (arises : Arises (resolveCatalog schema).value scope)
      {target : ModelId} (mentions : Mentions (resolveCatalog schema).value target) :
      Consults schema (.search (resolveCatalog schema).value scope.members target)

/-- Everything that resolution looks up is taken. -/
theorem Consults.inRange {schema : Declaration.Schema} {lookup : Lookup}
    (consults : Consults schema lookup) : lookup.InRange := by
  have catalogInRange := resolveCatalog_yields schema
  cases consults with
  | keyField member inKey => exact resolvePrimaryKey_yields _ _ _ inKey
  | @keyName declared key member isUnique found =>
      exact List.length_pos_of_ne_nil ((resolveKey_yields _ _ key).2 found)
  | model earlier mentions => exact mentions.hasModel
  | @column relations earlier ref column found => exact resolveColumn_yields _ ref column found
  | scope arises member => exact (arises.inRange catalogInRange).members _ member
  | search arises mentions =>
      have membersTaken := (arises.inRange catalogInRange).members
      exact exists_searchPath_of_inRange catalogInRange membersTaken mentions.hasModel

end Analysis

/-- The numbers in a plan that was compiled are taken. -/
theorem inRange_of_compile {source : String} {plan : Plan} (compiled : compile source = .ok plan) :
    plan.InRange := by
  obtain ⟨schema, -, -, rfl⟩ := Analysis.exists_gives_of_compile compiled
  exact Analysis.resolveSchema_yields schema

end Schemata
