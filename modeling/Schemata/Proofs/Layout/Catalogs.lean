import Schemata.Analysis
import Schemata.Proofs.Layout.Mirror
import Schemata.Proofs.Layout.Unplaced

/-!
# Catalogs do not depend on places

Models are enrolled and relations are added by names, types and marks; places only tell where a
problem is reported. So the catalog of declarations without places is the catalog without places,
and both have problems or none has. What a catalog is asked for it answers without places as with
them.
-/

namespace Schemata

/-! ## What a catalog is asked for -/

/-- The field at a place in a list of fields, taken or not. -/
theorem getD_map_unplaced (fields : List Field) (id : FieldId) :
    (fields.map Field.unplaced).getD id default = (fields.getD id default).unplaced := by
  rw [List.getD_eq_getElem?_getD, List.getD_eq_getElem?_getD, List.getElem?_map]
  cases fields[id]? <;> rfl

namespace Model

@[simp]
theorem field_unplaced (model : Model) (id : FieldId) :
    model.unplaced.field id = (model.field id).unplaced :=
  getD_map_unplaced model.fields id

@[simp]
theorem fieldId?_unplaced (model : Model) (name : String) :
    model.unplaced.fieldId? name = model.fieldId? name :=
  List.findIdx?_map

@[simp]
theorem updatable_unplaced (model : Model) : model.unplaced.updatable = model.updatable := by
  simp only [updatable, fieldsWhere, fieldIds, field_unplaced]
  simp only [unplaced, List.length_map]
  rfl

end Model

namespace Catalog

@[simp]
theorem model_unplaced (catalog : Catalog) (id : ModelId) :
    catalog.unplaced.model id = (catalog.model id).unplaced := by
  rw [model, model, unplaced, List.getD_eq_getElem?_getD, List.getD_eq_getElem?_getD,
    List.getElem?_map]
  cases catalog.models[id]? <;> rfl

@[simp]
theorem modelId?_unplaced (catalog : Catalog) (name : String) :
    catalog.unplaced.modelId? name = catalog.modelId? name :=
  List.findIdx?_map

@[simp]
theorem field_unplaced (catalog : Catalog) (column : Column) :
    catalog.unplaced.field column = (catalog.field column).unplaced := by
  rw [field, field, model_unplaced, Model.field_unplaced]

@[simp]
theorem displayName_unplaced (catalog : Catalog) (column : Column) :
    catalog.unplaced.displayName column = catalog.displayName column := by
  rw [displayName, displayName, model_unplaced, field_unplaced]
  rfl

end Catalog

namespace Analysis

open Checked

/-! ## Fields -/

/-- The faults of a field are not a matter of places. -/
theorem attributeFaults_unplaced (field : Declaration.Field) :
    attributeFaults field.unplaced = attributeFaults field := by
  obtain ⟨name, type, marks, given, length⟩ := field
  cases given <;> cases length <;> rfl

/-- The faults of a field are reported alike. -/
theorem checkAttributes_mirrors (field : Declaration.Field) :
    (checkAttributes field).Mirrors id (checkAttributes field.unplaced) := by
  refine mirrors_reportAll ?_
  rw [List.map_eq_nil_iff, List.map_eq_nil_iff, attributeFaults_unplaced]

/-- The resolved form of a field keeps only one place. -/
theorem resolveField_unplaced (field : Declaration.Field) (column : String) :
    resolveField field.unplaced column = (resolveField field column).unplaced := by
  obtain ⟨name, type, marks, given, length⟩ := field
  cases given <;> cases length <;> rfl

/-- Fields are enrolled alike. -/
theorem enrolFields_mirrors (model : String) (taken : List (String × Position))
    (fields : List Declaration.Field) :
    (enrolFields model taken fields).Mirrors (List.map Field.unplaced)
      (enrolFields model (unplacedNames taken) (fields.map Declaration.Field.unplaced)) := by
  induction fields generalizing taken with
  | nil => exact mirrors_pure []
  | cons field fields inductionHypothesis =>
      rw [List.map_cons, enrolFields, enrolFields, lookup_unplacedNames]
      cases lookup : taken.lookup (Text.snakeCase field.name.text) with
      | some previous =>
          simp only [Declaration.Field.unplaced, Name.unplaced, lookup, Option.map_some]
          exact (mirrors_report _ _ _ _).bind fun _ => inductionHypothesis taken
      | none =>
          simp only [Declaration.Field.unplaced, Name.unplaced, lookup, Option.map_none]
          refine (checkAttributes_mirrors field).bind fun _ => ?_
          refine (inductionHypothesis ((_, field.name.position) :: taken)).bind fun rest => ?_
          exact mirrors_of_eq (congrArg (· :: _) (resolveField_unplaced field _))

/-! ## Keys -/

/-- The fields of a key are resolved alike. -/
theorem keyFields_mirrors (model : String) (fields : List Field) (found : List FieldId)
    (names : List Name) :
    (keyFields model fields found names).Mirrors id
      (keyFields model (fields.map Field.unplaced) found (names.map Name.unplaced)) := by
  have keyField?_unplaced : ∀ name : Name,
      keyField? (fields.map Field.unplaced) name.unplaced = keyField? fields name :=
    fun name => List.findIdx?_map
  induction names generalizing found with
  | nil => exact mirrors_pure (some found)
  | cons name names inductionHypothesis =>
      rw [List.map_cons, keyFields, keyFields, keyField?_unplaced]
      cases keyField? fields name with
      | none =>
          refine (mirrors_report _ _ _ _).bind fun _ => ?_
          exact (inductionHypothesis found).bind fun _ => mirrors_pure none
      | some id =>
          refine .ite Iff.rfl (fun _ => ?_) fun _ => inductionHypothesis (found ++ [id])
          refine (mirrors_report _ _ _ _).bind fun _ => ?_
          exact (inductionHypothesis found).bind fun _ => mirrors_pure none

/-- A key is resolved alike. -/
theorem resolveKey_mirrors (model : String) (fields : List Field) (key : List Name) :
    (resolveKey model fields key).Mirrors id
      (resolveKey model (fields.map Field.unplaced) (key.map Name.unplaced)) :=
  (keyFields_mirrors model fields [] key).bind fun resolved => mirrors_pure (resolved.getD [])

/-- The autoincrement fields are the same. -/
theorem autoincrementFields_unplaced (fields : List Field) :
    autoincrementFields (fields.map Field.unplaced) = autoincrementFields fields := by
  simp only [autoincrementFields, List.length_map, getD_map_unplaced]
  rfl

/-- The primary key is resolved alike. -/
theorem resolvePrimaryKey_mirrors (declared : Declaration.Model) (fields : List Field) :
    (resolvePrimaryKey declared fields).Mirrors id
      (resolvePrimaryKey declared.unplaced (fields.map Field.unplaced)) := by
  rw [resolvePrimaryKey, resolvePrimaryKey, autoincrementFields_unplaced,
    Declaration.Model.unplaced]
  cases declared.key with
  | some key => exact resolveKey_mirrors declared.name.text fields key
  | none =>
      rcases autoincrementFields fields with _ | ⟨first, _ | ⟨second, others⟩⟩
      · exact (mirrors_report _ _ _ _).bind fun _ => mirrors_pure []
      · exact mirrors_pure [first]
      · exact (mirrors_report _ _ _ _).bind fun _ => mirrors_pure []

/-- The nullable fields of a primary key are reported alike. -/
theorem checkPrimaryKey_mirrors (model : String) (fields : List Field) (key : List FieldId) :
    (checkPrimaryKey model fields key).Mirrors id
      (checkPrimaryKey model (fields.map Field.unplaced) key) := by
  refine mirrors_reportAll ?_
  simp only [List.filterMap_eq_nil_iff, getD_map_unplaced, Field.unplaced, ite_eq_right_iff,
    reduceCtorEq]

/-- The unique keys are resolved alike. -/
theorem resolveUniques_mirrors (model : String) (fields : List Field) (primaryKey : List FieldId)
    (found : List (List FieldId)) (keys : List (List Name)) :
    (resolveUniques model fields primaryKey found keys).Mirrors id
      (resolveUniques model (fields.map Field.unplaced) primaryKey found
        (keys.map (List.map Name.unplaced))) := by
  induction keys generalizing found with
  | nil => exact mirrors_pure found
  | cons key keys inductionHypothesis =>
      cases key with
      | nil => exact inductionHypothesis found
      | cons first names =>
          refine (resolveKey_mirrors model fields (first :: names)).bind fun resolved => ?_
          refine .ite Iff.rfl (fun _ => inductionHypothesis found) fun _ => ?_
          refine .ite Iff.rfl (fun _ => ?_) fun _ => inductionHypothesis (found ++ [resolved])
          exact (mirrors_report _ _ _ _).bind fun _ => inductionHypothesis found

/-! ## Models -/

/-- The models enrolled so far, without places. -/
def Enrolment.unplaced (enrolment : Enrolment) : Enrolment where
  models := enrolment.models.map Model.unplaced
  names := unplacedNames enrolment.names
  tables := unplacedNames enrolment.tables

/-- A table name is taken alike. -/
theorem takeTable_mirrors (model : String) (tables : List (String × Position)) (table : String)
    (position : Position) :
    (takeTable model tables table position).Mirrors unplacedNames
      (takeTable model (unplacedNames tables) table .start) := by
  rw [takeTable, takeTable, lookup_unplacedNames]
  cases tables.lookup table with
  | some previous => exact (mirrors_report _ _ _ _).bind fun _ => mirrors_pure tables
  | none => exact mirrors_of_eq (by simp [unplacedNames])

/-- The table of a model is the same, and nowhere in particular. -/
theorem tableOf_unplaced (declared : Declaration.Model) :
    tableOf declared.unplaced = ((tableOf declared).1, .start) := by
  rw [tableOf, tableOf, Declaration.Model.unplaced]
  cases declared.table <;> rfl

/-- A model is enrolled alike. -/
theorem enrolModel_mirrors (enrolment : Enrolment) (declared : Declaration.Model) :
    (enrolModel enrolment declared).Mirrors Enrolment.unplaced
      (enrolModel enrolment.unplaced declared.unplaced) := by
  have taken : enrolment.unplaced.names.lookup (Text.snakeCase declared.unplaced.name.text) =
      (enrolment.names.lookup (Text.snakeCase declared.name.text)).map fun _ => .start :=
    lookup_unplacedNames enrolment.names _
  rw [enrolModel, enrolModel]
  simp only [taken, tableOf_unplaced]
  cases enrolment.names.lookup (Text.snakeCase declared.name.text) with
  | some previous => exact (mirrors_report _ _ _ _).bind fun _ => mirrors_pure enrolment
  | none =>
      obtain ⟨table, tablePosition⟩ := tableOf declared
      refine (takeTable_mirrors _ enrolment.tables table tablePosition).bind fun tables => ?_
      refine (enrolFields_mirrors _ [] declared.fields).bind fun fields => ?_
      refine (resolvePrimaryKey_mirrors declared fields).bind fun primaryKey => ?_
      refine (checkPrimaryKey_mirrors _ fields primaryKey).bind fun _ => ?_
      refine (resolveUniques_mirrors _ fields primaryKey [] declared.uniques).bind fun unique => ?_
      exact mirrors_of_eq (by
        simp [Enrolment.unplaced, Model.unplaced, unplacedNames, Declaration.Model.unplaced,
          Name.unplaced])

/-- All models are enrolled alike. -/
theorem enrolModels_mirrors (declared : List Declaration.Model) :
    (enrolModels declared).Mirrors (List.map Model.unplaced)
      (enrolModels (declared.map Declaration.Model.unplaced)) :=
  (Checked.Mirrors.foldlM enrolModel_mirrors {}).bind fun enrolment => mirrors_pure enrolment.models

/-! ## Names -/

/-- A model is found alike. -/
theorem resolveModel_mirrors (catalog : Catalog) (name : Name) :
    (resolveModel catalog name).Mirrors id (resolveModel catalog.unplaced name.unplaced) := by
  rw [resolveModel, resolveModel, Catalog.modelId?_unplaced, Name.unplaced]
  cases catalog.modelId? name.text with
  | some id => exact mirrors_pure (some id)
  | none => exact (mirrors_report _ _ _ _).bind fun _ => mirrors_pure none

/-- A column is found alike. -/
theorem resolveColumn_mirrors (catalog : Catalog) (ref : Declaration.ColumnRef) :
    (resolveColumn catalog ref).Mirrors id (resolveColumn catalog.unplaced ref.unplaced) := by
  refine (resolveModel_mirrors catalog ref.model).bind fun found => ?_
  cases found with
  | none => exact mirrors_pure none
  | some id =>
      dsimp only [id_eq]
      rw [Catalog.model_unplaced, Model.fieldId?_unplaced, Declaration.ColumnRef.unplaced]
      cases (catalog.model id).fieldId? ref.field.text with
      | some field => exact mirrors_pure (some (Column.mk id field))
      | none => exact (mirrors_report _ _ _ _).bind fun _ => mirrors_pure none

/-! ## Relations -/

/-- The faults of a relation are not a matter of places. -/
theorem relationFaults_unplaced (catalog : Catalog) (left right : Column)
    (onDelete : Option DeleteAction) :
    relationFaults catalog.unplaced left right onDelete =
      relationFaults catalog left right onDelete := by
  simp only [relationFaults, Catalog.field_unplaced, Catalog.model_unplaced,
    Catalog.displayName_unplaced]
  simp only [Catalog.unplaced, List.any_map]
  rfl

/-- A relation is added alike. -/
theorem resolveRelation_mirrors (catalog : Catalog) (declared : Declaration.Relation) :
    (resolveRelation catalog declared).Mirrors Catalog.unplaced
      (resolveRelation catalog.unplaced declared.unplaced) := by
  have onDelete : declared.unplaced.onDelete.map (·.value) = declared.onDelete.map (·.value) := by
    rw [Declaration.Relation.unplaced, Option.map_map]
    rfl
  refine (resolveColumn_mirrors catalog declared.left).bind fun left => ?_
  refine (resolveColumn_mirrors catalog declared.right).bind fun right => ?_
  cases left with
  | none => exact mirrors_pure catalog
  | some left =>
      cases right with
      | none => exact mirrors_pure catalog
      | some right =>
          simp only [id_eq, onDelete, relationFaults_unplaced]
          cases relationFaults catalog left right (declared.onDelete.map (·.value)) with
          | nil => exact mirrors_of_eq (by simp [Catalog.unplaced, Relation.unplaced,
              Declaration.Relation.unplaced])
          | cons fault faults =>
              refine (mirrors_reportAll ?_).bind fun _ => mirrors_pure catalog
              rw [List.map_eq_nil_iff, List.map_eq_nil_iff]

/-- The catalog of a schema is resolved alike. -/
theorem resolveCatalog_mirrors (schema : Declaration.Schema) :
    (resolveCatalog schema).Mirrors Catalog.unplaced (resolveCatalog schema.unplaced) := by
  refine (enrolModels_mirrors schema.models).bind fun models => ?_
  exact Checked.Mirrors.foldlM resolveRelation_mirrors ⟨models, []⟩

end Analysis

end Schemata
