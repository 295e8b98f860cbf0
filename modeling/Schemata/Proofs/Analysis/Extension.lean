import Mathlib.Data.List.GetD
import Schemata.Proofs.Analysis.Numbers

/-!
# What is hidden in a catalog does not matter

A catalog may have more than its numbers say: models behind its models, and fields behind the fields
of each, that nothing refers to and that are not found by their names. A lookup of a number that is
not taken would see them. But every query is resolved to the same, with the same problems, whatever
is hidden, and so no such number is ever looked up. The search for joins has larger tables when
there are more models, but it never looks at what is behind the entries of the models it knows.
-/

namespace Schemata

/-! ## Extensions -/

/-- A model with the fields of another one, and perhaps more behind them. -/
structure Model.Extends (other model : Model) : Prop where
  name : other.name = model.name
  table : other.table = model.table
  fields : model.fields <+: other.fields
  primaryKey : other.primaryKey = model.primaryKey
  unique : other.unique = model.unique

/-- A catalog with the relations and models of another one, and perhaps more behind them. -/
structure Catalog.Extends (other catalog : Catalog) : Prop where
  size : catalog.models.length ≤ other.models.length
  relations : other.relations = catalog.relations
  models : ∀ id, catalog.HasModel id → (other.model id).Extends (catalog.model id)

/-- A catalog that extends another one by what is neither found by its name nor updatable. -/
structure Catalog.Hides (other catalog : Catalog) : Prop extends other.Extends catalog where
  modelNames : ∀ name, other.modelId? name = catalog.modelId? name
  fieldNames : ∀ id, catalog.HasModel id → ∀ name,
    (other.model id).fieldId? name = (catalog.model id).fieldId? name
  updatable : ∀ id, catalog.HasModel id →
    (other.model id).updatable = (catalog.model id).updatable

/-- A model with more fields has the same keys. -/
theorem Model.Extends.uniqueKeys_eq {model other : Model} (larger : other.Extends model) :
    other.uniqueKeys = model.uniqueKeys := by
  rw [Model.uniqueKeys, Model.uniqueKeys, larger.primaryKey, larger.unique]

/-- What a list has at a place, a longer list has there too. -/
theorem getD_of_front {front whole : List Field} (isPrefix : front <+: whole) {id : FieldId}
    (taken : id < front.length) : whole.getD id default = front.getD id default := by
  obtain ⟨more, rfl⟩ := isPrefix
  exact List.getD_append _ _ _ _ taken

section Parts

variable {catalog other : Catalog}

/-- A model that is taken keeps its name. -/
theorem Catalog.Extends.name_eq (larger : other.Extends catalog) {id : ModelId}
    (taken : catalog.HasModel id) : (other.model id).name = (catalog.model id).name :=
  (larger.models id taken).name

/-- A column that is taken keeps its field. -/
theorem Catalog.Extends.field_eq (larger : other.Extends catalog) {column : Column}
    (taken : catalog.HasColumn column) : other.field column = catalog.field column :=
  getD_of_front (larger.models _ taken.1).fields taken.2

/-- A column that is taken is displayed alike. -/
theorem Catalog.Extends.displayName_eq (larger : other.Extends catalog) {column : Column}
    (taken : catalog.HasColumn column) :
    other.displayName column = catalog.displayName column := by
  rw [Catalog.displayName, Catalog.displayName, larger.name_eq taken.1, larger.field_eq taken]

end Parts

/-- A model with more fields behind its own. -/
def Model.withHidden (model : Model) (more : List Field) : Model :=
  { model with fields := model.fields ++ more }

/-- A catalog with more fields behind those of its models, and more models behind these. -/
def Catalog.withHidden (catalog : Catalog) (fields : Model → List Field) (models : List Model) :
    Catalog :=
  { catalog with
    models := (catalog.models.map fun model => model.withHidden (fields model)) ++ models }

section Hidden

variable {catalog : Catalog} {fields : Model → List Field} {models : List Model}

/-- A model that is taken is the same but for the fields hidden behind its own. -/
theorem Catalog.model_withHidden {id : ModelId} (taken : catalog.HasModel id) :
    (catalog.withHidden fields models).model id =
      (catalog.model id).withHidden (fields (catalog.model id)) := by
  have longer : id < (catalog.models.map fun model => model.withHidden (fields model)).length := by
    rw [List.length_map]
    exact taken
  rw [Catalog.model, Catalog.withHidden, List.getD_append _ _ _ _ longer,
    List.getD_eq_getElem _ _ longer, List.getElem_map, Catalog.model,
    List.getD_eq_getElem _ _ taken]
  rfl

/-- Fields that are not updatable do not change which are. -/
theorem Model.updatable_withHidden {model : Model} {more : List Field}
    (fixed : ∀ field ∈ more, field.updatable = false) :
    (model.withHidden more).updatable = model.updatable := by
  have places : (model.withHidden more).fieldIds =
      model.fieldIds ++ (List.range more.length).map (model.fields.length + ·) := by
    rw [Model.fieldIds, Model.withHidden, List.length_append, List.range_add]
    rfl
  have none : ((List.range more.length).map (model.fields.length + ·)).filter
      (fun id => ((model.withHidden more).field id).updatable) = [] := by
    rw [List.filter_eq_nil_iff, List.forall_mem_map]
    intro place bound
    rw [List.mem_range] at bound
    have isMore : (model.withHidden more).field (model.fields.length + place) = more[place] := by
      rw [Model.field, Model.withHidden, List.getD_append_right _ _ _ _ (Nat.le_add_right _ _),
        Nat.add_sub_cancel_left, List.getD_eq_getElem _ _ bound]
    rw [isMore, fixed _ (List.getElem_mem bound)]
    exact Bool.false_ne_true
  rw [Model.updatable, Model.fieldsWhere, places, List.filter_append, none, List.append_nil,
    Model.updatable, Model.fieldsWhere]
  refine List.filter_congr fun id member => ?_
  have same : (model.withHidden more).field id = model.field id :=
    getD_of_front (List.prefix_append _ _) (List.mem_range.1 member)
  rw [same]

/-- What has a name that is taken is not found behind those that are taken. -/
theorem findIdx?_append_of_hidden {α : Type} {items more : List α} {found : α → Bool}
    (hidden : ∀ item ∈ more, found item = true → ∃ earlier ∈ items, found earlier = true) :
    (items ++ more).findIdx? found = items.findIdx? found := by
  rw [List.findIdx?_append]
  cases first : items.findIdx? found with
  | some id => rfl
  | none =>
      have absent : more.findIdx? found = none := by
        rw [List.findIdx?_eq_none_iff] at first ⊢
        intro item member
        by_contra isFound
        obtain ⟨earlier, earlierMem, earlierFound⟩ :=
          hidden item member (Bool.of_not_eq_false isFound)
        rw [first earlier earlierMem] at earlierFound
        cases earlierFound
      rw [absent]
      rfl

/-- A catalog with more hidden in it extends the one without. -/
theorem Catalog.withHidden_extends (catalog : Catalog) (fields : Model → List Field)
    (models : List Model) : (catalog.withHidden fields models).Extends catalog where
  size := by simp [Catalog.withHidden]
  relations := rfl
  models id taken := by
    rw [Catalog.model_withHidden taken]
    exact ⟨rfl, rfl, List.prefix_append _ _, rfl, rfl⟩

/-- Fields and models whose names are taken are hidden, if the fields are not updatable. -/
theorem Catalog.withHidden_hides
    (fieldsHidden : ∀ model ∈ catalog.models, ∀ field ∈ fields model, field.updatable = false ∧
      ∃ earlier ∈ model.fields, earlier.name = field.name)
    (modelsHidden : ∀ model ∈ models, ∃ earlier ∈ catalog.models, earlier.name = model.name) :
    (catalog.withHidden fields models).Hides catalog := by
  refine ⟨catalog.withHidden_extends fields models, ?_, ?_, ?_⟩
  · intro name
    have own : (catalog.models.map fun model => model.withHidden (fields model)).findIdx?
        (·.name == name) = catalog.modelId? name := by
      rw [List.findIdx?_map]
      rfl
    rw [← own]
    apply findIdx?_append_of_hidden
    intro model member isFound
    obtain ⟨earlier, earlierMem, sameName⟩ := modelsHidden model member
    refine ⟨earlier.withHidden (fields earlier), List.mem_map.2 ⟨earlier, earlierMem, rfl⟩, ?_⟩
    rw [← isFound, ← sameName]
    rfl
  · intro id taken name
    rw [Catalog.model_withHidden taken]
    apply findIdx?_append_of_hidden
    intro field member isFound
    obtain ⟨-, earlier, earlierMem, sameName⟩ := fieldsHidden _ taken.mem_models field member
    exact ⟨earlier, earlierMem, by rw [sameName]; exact isFound⟩
  · intro id taken
    rw [Catalog.model_withHidden taken]
    apply Model.updatable_withHidden
    exact fun field member => (fieldsHidden _ taken.mem_models field member).1

end Hidden

namespace Analysis

open Checked

/-! ## Steps -/

namespace Checked

variable {α β : Type}

/-- Two ways to go on are the same if they are for what a step yields. -/
theorem bind_congr {first : Checked α} {next others : α → Checked β} {property : α → Prop}
    (yields : first.Yields property) (same : ∀ value, property value → next value = others value) :
    first >>= next = first >>= others := by
  simp only [bind, same _ yields]

/-- Folds agree if their steps do, from states that the steps keep good. -/
theorem foldlM_congr {step others : β → α → Checked β} {property : β → Prop} {items : List α}
    {start : β} (holds : property start)
    (same : ∀ item ∈ items, ∀ state, property state →
      step state item = others state item ∧ (others state item).Yields property) :
    items.foldlM step start = items.foldlM others start := by
  induction items generalizing start with
  | nil => rfl
  | cons item items inductionHypothesis =>
      rw [List.forall_mem_cons] at same
      obtain ⟨sameFirst, yields⟩ := same.1 start holds
      rw [List.foldlM_cons, List.foldlM_cons, sameFirst]
      exact bind_congr yields fun state holds => inductionHypothesis holds same.2

end Checked

/-! ## Searches -/

/-- What is hidden does not change which joins are inferred. -/
theorem inferPath_of_extends {catalog other : Catalog} (larger : other.Extends catalog)
    (inRange : catalog.InRange) {members : List ModelId} {target : ModelId}
    (membersTaken : ∀ member ∈ members, catalog.HasModel member)
    (targetTaken : catalog.HasModel target) :
    inferPath other members target = inferPath catalog members target := by
  have hasModel : ∀ {id}, catalog.HasModel id → id < other.models.length :=
    fun taken => Nat.lt_of_lt_of_le taken larger.size
  obtain ⟨outcome, found⟩ := exists_searchPath_of_inRange inRange membersTaken targetTaken
  obtain ⟨otherOutcome, otherFound⟩ :
      ∃ outcome, searchPath other members target = some outcome := by
    refine exists_searchPath ?_ (fun member known => hasModel (membersTaken member known))
      (hasModel targetTaken)
    intro relation member
    obtain ⟨left, right⟩ := inRange.relations relation (larger.relations ▸ member)
    exact ⟨hasModel left.1, hasModel right.1⟩
  rw [inferPath, inferPath, found, otherFound,
    searchPath_unique larger.relations found otherFound]

/-! ## Keys -/

/-- More fields do not change the faults of a key that consists of the fields before them. -/
theorem checkPrimaryKey_append (model : String) {fields : List Field} {key : List FieldId}
    (inRange : ∀ id ∈ key, id < fields.length) (more : List Field) :
    checkPrimaryKey model (fields ++ more) key = checkPrimaryKey model fields key := by
  unfold checkPrimaryKey
  refine congrArg _ (List.filterMap_congr fun id member => ?_)
  rw [getD_of_front (List.prefix_append fields more) (inRange id member)]

/-! ## Relations -/

section Resolution

variable {catalog other : Catalog} {scope : Scope} (hides : other.Hides catalog)

include hides

/-- A name stands for the same model, since hidden models come behind. -/
theorem resolveModel_of_hides (name : Name) :
    resolveModel other name = resolveModel catalog name := by
  rw [resolveModel, resolveModel, hides.modelNames]

/-- A reference stands for the same column, since hidden fields come behind. -/
theorem resolveColumn_of_hides (ref : Declaration.ColumnRef) :
    resolveColumn other ref = resolveColumn catalog ref := by
  rw [resolveColumn, resolveColumn, resolveModel_of_hides hides]
  refine bind_congr (resolveModel_yields catalog ref.model) ?_
  rintro (_ | id) taken
  · rfl
  · dsimp only
    rw [hides.fieldNames id (taken id rfl)]

/-- A field of a model that is taken is unique or not as before. -/
theorem isUniqueField_of_hides {id : ModelId} (taken : catalog.HasModel id) (field : FieldId) :
    (other.model id).isUniqueField field = (catalog.model id).isUniqueField field := by
  rw [Model.isUniqueField, Model.isUniqueField, (hides.models id taken).uniqueKeys_eq]

/-- A relation between columns that are taken has the same faults. -/
theorem relationFaults_of_hides {left right : Column} (leftTaken : catalog.HasColumn left)
    (rightTaken : catalog.HasColumn right) (onDelete : Option DeleteAction) :
    relationFaults other left right onDelete = relationFaults catalog left right onDelete := by
  rw [relationFaults, relationFaults, hides.field_eq leftTaken, hides.field_eq rightTaken,
    isUniqueField_of_hides hides rightTaken.1, hides.displayName_eq leftTaken,
    hides.displayName_eq rightTaken, hides.relations]

/-- A relation is resolved to the same, and has the same faults, whatever is hidden. -/
theorem resolveRelation_of_hides (declared : Declaration.Relation) :
    resolveRelation other declared = do
      let found ← resolveRelation catalog declared
      return { other with relations := found.relations } := by
  rw [resolveRelation, resolveRelation, resolveColumn_of_hides hides, resolveColumn_of_hides hides,
    bind_assoc]
  refine bind_congr (resolveColumn_yields catalog declared.left) fun left leftTaken => ?_
  rw [bind_assoc]
  refine bind_congr (resolveColumn_yields catalog declared.right) fun right rightTaken => ?_
  have unchanged : other = { other with relations := catalog.relations } := by
    rw [← hides.relations]
  split
  · next left right =>
    have left := leftTaken left rfl
    have right := rightTaken right rfl
    dsimp only
    rw [relationFaults_of_hides hides left right]
    split
    · simp [hides.relations]
    · simp only [hides.displayName_eq left, hides.displayName_eq right, bind_assoc, pure_bind,
        ← unchanged]
  · simp only [pure_bind, ← unchanged]

/-! ## Joins and conditions -/

/-- An explicit join is made or refused alike. -/
theorem joinExplicitly_of_hides (scope : Scope) (declared : Declaration.Join) :
    joinExplicitly other scope declared = joinExplicitly catalog scope declared := by
  rw [joinExplicitly, joinExplicitly, resolveColumn_of_hides hides, resolveColumn_of_hides hides]
  refine bind_congr (resolveColumn_yields catalog declared.left) fun left leftTaken => ?_
  refine bind_congr (resolveColumn_yields catalog declared.right) fun right rightTaken => ?_
  split
  · next left right =>
    dsimp only
    rw [hides.displayName_eq (leftTaken left rfl), hides.displayName_eq (rightTaken right rfl),
      hides.relations]
  · rfl

/-- A model that is taken is brought in alike, or reported alike. -/
theorem reach_of_hides (catalogInRange : catalog.InRange) (inRange : scope.InRange catalog)
    (position : Position) {model : ModelId} (taken : catalog.HasModel model) :
    reach other position scope model = reach catalog position scope model := by
  rw [reach, reach, hides.name_eq inRange.base, hides.name_eq taken,
    inferPath_of_extends hides.toExtends catalogInRange inRange.members taken]

/-- A condition on columns that are taken has the same fault. -/
theorem conditionFault?_of_hides {condition : Condition} (inRange : condition.InRange catalog) :
    conditionFault? other condition = conditionFault? catalog condition := by
  have right := inRange.right
  unfold conditionFault?
  dsimp only
  rw [hides.field_eq inRange.left, hides.displayName_eq inRange.left]
  split
  · rfl
  · rfl
  · rfl
  · next column isColumn =>
    rw [isColumn] at right
    rw [hides.field_eq right, hides.displayName_eq right]

/-- The right side of a condition stands for the same. -/
theorem resolveOperand_of_hides (declared : Declaration.Operand) :
    resolveOperand other declared = resolveOperand catalog declared := by
  cases declared with
  | placeholder => rfl
  | literal value => rfl
  | column ref => rw [resolveOperand, resolveOperand, resolveColumn_of_hides hides]

/-- The model of an operand that is taken is brought in alike. -/
theorem reachOperand_of_hides (catalogInRange : catalog.InRange) (inRange : scope.InRange catalog)
    (position : Position) {operand : Operand} (taken : operand.InRange catalog) :
    reachOperand other position scope operand = reachOperand catalog position scope operand := by
  cases operand with
  | placeholder => rfl
  | literal value => rfl
  | column column => exact reach_of_hides hides catalogInRange inRange position taken.1

/-- A condition is resolved alike. -/
theorem resolveCondition_of_hides (catalogInRange : catalog.InRange)
    (inRange : scope.InRange catalog) (declared : Declaration.Condition) :
    resolveCondition other scope declared = resolveCondition catalog scope declared := by
  rw [resolveCondition, resolveCondition, resolveColumn_of_hides hides,
    resolveOperand_of_hides hides]
  refine bind_congr (resolveColumn_yields catalog declared.left) fun left leftTaken => ?_
  refine bind_congr (resolveOperand_yields catalog declared.right) fun right rightTaken => ?_
  split
  · next left right =>
    have leftColumn := leftTaken left rfl
    obtain ⟨rightOperand, -⟩ := rightTaken right rfl
    rw [reach_of_hides hides catalogInRange inRange _ leftColumn.1]
    refine bind_congr (reach_yields catalogInRange inRange _ _) fun reached reachedInRange => ?_
    rw [reachOperand_of_hides hides catalogInRange reachedInRange _ rightOperand]
    dsimp only
    rw [conditionFault?_of_hides hides ⟨leftColumn, rightOperand⟩]
  · rfl

/-- Conditions are resolved alike, from every scope that arises. -/
theorem resolveConditions_of_hides (catalogInRange : catalog.InRange)
    (arises : Arises catalog scope) (declared : List Declaration.Condition) :
    resolveConditions other scope declared = resolveConditions catalog scope declared := by
  induction declared generalizing scope with
  | nil => rfl
  | cons condition declared inductionHypothesis =>
      rw [resolveConditions, resolveConditions,
        resolveCondition_of_hides hides catalogInRange (arises.inRange catalogInRange)]
      refine bind_congr (resolveCondition_yields arises condition) ?_
      rintro ⟨behind, first⟩ ⟨behindArises, -⟩
      dsimp only
      rw [inductionHypothesis behindArises]

/-- Explicit joins are made alike. -/
theorem joins_of_hides (scope : Scope) (declared : List Declaration.Join) :
    declared.foldlM (joinExplicitly other) scope =
      declared.foldlM (joinExplicitly catalog) scope := by
  have same : joinExplicitly other = joinExplicitly catalog := by
    funext scope declared
    exact joinExplicitly_of_hides hides scope declared
  rw [same]

/-- A query is about as many rows as before. -/
theorem cardinality_of_hides (inRange : scope.InRange catalog) (conditions : List Condition) :
    cardinality other scope conditions = cardinality catalog scope conditions := by
  have toOne : (scope.joins.all fun join =>
        (other.model join.right.model).isUniqueField join.right.field) =
      scope.joins.all fun join =>
        (catalog.model join.right.model).isUniqueField join.right.field := by
    rw [Bool.eq_iff_iff, List.all_eq_true, List.all_eq_true]
    refine forall₂_congr fun join member => ?_
    rw [isUniqueField_of_hides hides (inRange.joins join member).right.1]
  rw [cardinality, cardinality, (hides.models _ inRange.base).uniqueKeys_eq, toOne]

/-! ## Queries -/

/-- What a select asks for stands for the same. -/
theorem resolveProjection_of_hides (declared : Declaration.Projection) :
    resolveProjection other declared = resolveProjection catalog declared := by
  cases declared with
  | model name => rw [resolveProjection, resolveProjection, resolveModel_of_hides hides]
  | field ref => rw [resolveProjection, resolveProjection, resolveColumn_of_hides hides]

/-- All that a select asks for stands for the same. -/
theorem resolveProjections_of_hides (position : Position) (found : List Projection)
    (declared : List Declaration.Projection) :
    resolveProjections other position found declared =
      resolveProjections catalog position found declared := by
  induction declared generalizing found with
  | nil => rfl
  | cons projection declared inductionHypothesis =>
      simp only [resolveProjections, resolveProjection_of_hides hides, inductionHypothesis]

/-- A request for pages is met or refused alike. -/
theorem resolvePaging?_of_hides {base : ModelId} (taken : catalog.HasModel base)
    (declared : Option Declaration.Paging) :
    resolvePaging? other base declared = resolvePaging? catalog base declared := by
  cases declared with
  | none => rfl
  | some declared =>
      rw [resolvePaging?, resolvePaging?, resolvePaging, resolvePaging,
        resolveColumn_of_hides hides]
      refine bind_congr (resolveColumn_yields catalog declared.column) ?_
      rintro (_ | column) columnTaken
      · rfl
      · dsimp only
        rw [hides.displayName_eq (columnTaken column rfl), hides.name_eq taken]

/-- Rows of projections that are taken have the same shape. -/
theorem resultShape_of_hides {projections : List Projection}
    (inRange : ∀ projection ∈ projections, projection.InRange catalog) :
    resultShape other projections = resultShape catalog projections := by
  have names : recordName other projections = recordName catalog projections := by
    unfold recordName
    refine congrArg (String.join · ++ "Row") (List.map_congr_left fun projection member => ?_)
    have projectionInRange := inRange projection member
    cases projection with
    | model id =>
        dsimp only
        rw [hides.name_eq projectionInRange]
    | field column =>
        dsimp only
        rw [hides.name_eq projectionInRange.1, hides.field_eq projectionInRange]
  unfold resultShape
  split
  · rfl
  · rfl
  · rw [names]

/-- The models of projections are brought in alike. -/
theorem sources_of_hides (catalogInRange : catalog.InRange) (position : Position)
    {projections : List Projection}
    (areMentioned : ∀ projection ∈ projections, Projection.IsMentioned catalog projection)
    (arises : Arises catalog scope) :
    (projections.map Projection.source).foldlM (reach other position) scope =
      (projections.map Projection.source).foldlM (reach catalog position) scope := by
  refine foldlM_congr arises (List.forall_mem_map.2 fun projection member state stateArises => ?_)
  have mentions := (areMentioned projection member).source
  constructor
  · exact reach_of_hides hides catalogInRange (stateArises.inRange catalogInRange) position
      mentions.hasModel
  · exact stateArises.reach position mentions

/-- The parts of a select that starts from a model that is mentioned are resolved alike. -/
theorem draftSelect_of_hides (catalogInRange : catalog.InRange) {projections : List Projection}
    (areMentioned : ∀ projection ∈ projections, Projection.IsMentioned catalog projection)
    {base : ModelId} (mentions : Mentions catalog base) (declared : Declaration.Select) :
    draftSelect other projections base declared =
      draftSelect catalog projections base declared := by
  rw [draftSelect, draftSelect, joins_of_hides hides]
  refine bind_congr (joins_yields (.start mentions) declared.joins) fun joined joinedArises => ?_
  rw [sources_of_hides hides catalogInRange declared.position areMentioned joinedArises]
  refine bind_congr (sources_yields declared.position areMentioned joinedArises) ?_
  intro reached reachedArises
  rw [resolveConditions_of_hides hides catalogInRange reachedArises,
    resolvePaging?_of_hides hides mentions.hasModel]

/-- The parts of a select are resolved alike. -/
theorem draftSelect?_of_hides (catalogInRange : catalog.InRange) (declared : Declaration.Select) :
    draftSelect? other declared = draftSelect? catalog declared := by
  rw [draftSelect?, draftSelect?, resolveProjections_of_hides hides]
  refine bind_congr (resolveProjections_yields declared.position declared.projections
    (List.forall_mem_nil _)) fun projections areMentioned => ?_
  cases first : projections.head? with
  | none => rfl
  | some projection =>
      have mentions := (areMentioned projection (List.mem_of_mem_head? first)).source
      dsimp only
      rw [draftSelect_of_hides hides catalogInRange areMentioned mentions]

/-- A select is resolved alike. -/
theorem resolveSelect_of_hides (catalogInRange : catalog.InRange) (declared : Declaration.Select) :
    resolveSelect other declared = resolveSelect catalog declared := by
  rw [resolveSelect, resolveSelect, draftSelect?_of_hides hides catalogInRange]
  refine bind_congr (draftSelect?_yields catalog declared).ifClean fun kept keptInRange => ?_
  cases joined : kept.join with
  | none => rfl
  | some draft =>
      have inRange := keptInRange _ (Option.join_eq_some_iff.1 joined) draft rfl
      have scopeInRange := inRange.scope.inRange catalogInRange
      dsimp only
      rw [cardinality_of_hides hides scopeInRange, resultShape_of_hides hides inRange.projections]

/-- An insert is resolved alike. -/
theorem resolveInsert_of_hides (declared : Declaration.Insert) :
    resolveInsert other declared = resolveInsert catalog declared := by
  rw [resolveInsert, resolveInsert, resolveModel_of_hides hides]

/-- An update is resolved alike. -/
theorem resolveUpdate_of_hides (catalogInRange : catalog.InRange) (declared : Declaration.Update) :
    resolveUpdate other declared = resolveUpdate catalog declared := by
  rw [resolveUpdate, resolveUpdate, resolveModel_of_hides hides]
  refine bind_congr (resolveModel_mentions catalog declared.model) ?_
  rintro (_ | id) mentions
  · rfl
  · have mentioned := mentions id rfl
    have resolved := resolveConditions_yields (.start mentioned) declared.conditions
    dsimp only
    rw [hides.name_eq mentioned.hasModel, hides.updatable id mentioned.hasModel,
      resolveConditions_of_hides hides catalogInRange (.start mentioned)]
    refine ite_congr rfl (fun _ => congrArg _ (funext fun _ => ?_)) fun _ => ?_
    -- Whether or not there is something to update, the conditions are resolved next.
    all_goals
      refine congrArg _ (funext fun _ => ite_congr rfl (fun _ => rfl) fun _ => ?_)
      refine bind_congr resolved.ifClean ?_
      rintro (_ | ⟨scope, conditions⟩) keptInRange
      · rfl
      · dsimp only
        rw [cardinality_of_hides hides ((keptInRange _ rfl).1.inRange catalogInRange)]

/-- What deletes and counts have in common is resolved alike. -/
theorem resolveFiltered_of_hides (catalogInRange : catalog.InRange)
    (declared : Declaration.Filtered) :
    resolveFiltered other declared = resolveFiltered catalog declared := by
  rw [resolveFiltered, resolveFiltered, resolveModel_of_hides hides]
  refine bind_congr (resolveModel_mentions catalog declared.model) ?_
  rintro (_ | base) mentions
  · rfl
  · have drafted : draftFiltered other base declared = draftFiltered catalog base declared := by
      rw [draftFiltered, draftFiltered, joins_of_hides hides]
      refine bind_congr (joins_yields (.start (mentions base rfl)) declared.joins) ?_
      intro joined joinedArises
      rw [resolveConditions_of_hides hides catalogInRange joinedArises]
    dsimp only
    rw [drafted]

/-- A delete is resolved alike. -/
theorem resolveDelete_of_hides (catalogInRange : catalog.InRange)
    (declared : Declaration.Filtered) :
    resolveDelete other declared = resolveDelete catalog declared := by
  rw [resolveDelete, resolveDelete, resolveFiltered_of_hides hides catalogInRange]
  refine bind_congr (resolveFiltered_yields catalogInRange declared) ?_
  rintro (_ | ⟨scope, conditions⟩) inRange
  · rfl
  · have rows := inRange _ rfl
    dsimp only [Option.map_some]
    rw [cardinality_of_hides hides ⟨rows.model, rows.joins⟩]

/-- A count is resolved alike. -/
theorem resolveCount_of_hides (catalogInRange : catalog.InRange)
    (declared : Declaration.Filtered) :
    resolveCount other declared = resolveCount catalog declared := by
  rw [resolveCount, resolveCount, resolveFiltered_of_hides hides catalogInRange]

end Resolution

/-! ## Schemas -/

/-- Relations and queries are resolved to the same over two catalogs, with the same problems. -/
structure ResolvesAlike (other catalog : Catalog) : Prop where
  relations : ∀ declared, resolveRelation other declared = do
    let found ← resolveRelation catalog declared
    return { other with relations := found.relations }
  inserts : ∀ declared, resolveInsert other declared = resolveInsert catalog declared
  selects : ∀ declared, resolveSelect other declared = resolveSelect catalog declared
  updates : ∀ declared, resolveUpdate other declared = resolveUpdate catalog declared
  deletes : ∀ declared, resolveDelete other declared = resolveDelete catalog declared
  counts : ∀ declared, resolveCount other declared = resolveCount catalog declared

/--
The resolution of a schema does not depend on anything that is hidden: not on fields behind those of
a model when its key is checked, and not on what is hidden in a catalog, whichever of the relations
were added to it.
-/
structure ResolvesWithin (schema : Declaration.Schema) : Prop where
  keys : ∀ declared ∈ schema.models, ∀ key,
    (resolvePrimaryKey declared (enrolledFields declared)).value = key → ∀ more,
      checkPrimaryKey declared.name.text (enrolledFields declared ++ more) key =
        checkPrimaryKey declared.name.text (enrolledFields declared) key
  catalogs : ∀ relations, relations <+: schema.relations → ∀ other : Catalog,
    other.Hides (catalogAfter schema relations) →
      ResolvesAlike other (catalogAfter schema relations)

/-- Over a catalog in range, everything is resolved alike, whatever is hidden. -/
theorem resolvesAlike {catalog other : Catalog} (inRange : catalog.InRange)
    (hides : other.Hides catalog) : ResolvesAlike other catalog where
  relations := resolveRelation_of_hides hides
  inserts := resolveInsert_of_hides hides
  selects := resolveSelect_of_hides hides inRange
  updates := resolveUpdate_of_hides hides inRange
  deletes := resolveDelete_of_hides hides inRange
  counts := resolveCount_of_hides hides inRange

/-- Every schema is resolved from what is taken, whatever is hidden behind it. -/
theorem resolvesWithin (schema : Declaration.Schema) : ResolvesWithin schema where
  keys declared _ key isKey := by
    have inRange := resolvePrimaryKey_yields declared (enrolledFields declared)
    rw [Yields, isKey] at inRange
    exact checkPrimaryKey_append declared.name.text inRange
  catalogs relations _ _ hides :=
    resolvesAlike (resolveRelations_yields (enrolModels_yields schema.models) relations) hides

end Analysis

end Schemata
