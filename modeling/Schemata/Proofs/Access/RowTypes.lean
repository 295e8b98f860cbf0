import Schemata.Access.Methods
import Schemata.Analysis.Queries
import Schemata.Proofs.Sql.Fragments

/-!
# The types that the columns of a row are decoded into

The code that is generated for a select takes the columns of a row one after another. A single field
is taken as a value, a model is taken as the members of its struct, and a record of several
projections is taken member by member, where a nested member is a model again. So a row of a select
has one type for each column that its statement asks for, and it is the type of that column's field
(`columnTypes_resultShape`).
-/

namespace Schemata.Access

/-- The types that one member of a record is decoded from: those of a nested struct, or its own. -/
def memberTypes (catalog : Catalog) (projection : Projection) (member : Member) : List String :=
  match projection with
  | .model id => (modelMembers (catalog.model id)).map (·.type)
  | .field _ => [member.type]

/-- The types that the columns of a row are decoded into, in order. -/
def columnTypes (catalog : Catalog) : ResultShape → List String
  | .model id => (modelMembers (catalog.model id)).map (·.type)
  | .field column => [(rowType catalog (.field column)).type]
  | .record _ projections =>
    (List.zipWith (memberTypes catalog) projections
      (projectionMembers catalog projections)).flatten

/-- The columns that the statement of a select asks for, in order. -/
def selectedColumns (catalog : Catalog) (projections : List Projection) : List Column :=
  projections.flatMap (Sql.projectionColumns catalog)

/-- Every base is handed out a name. -/
theorem length_claimNames (used bases : List String) :
    (claimNames used bases).length = bases.length := by
  induction bases generalizing used with
  | nil => rfl
  | cons base bases inductionHypothesis => simp [claimNames, inductionHypothesis]

/-- Items that were given names, of which only the items are looked at. -/
theorem zipWith_ignoring_names {Item Result : Type} (look : Item → Result) {names : List String}
    {items : List Item} (named : names.length = items.length) :
    List.zipWith (fun _ item => look item) names items = items.map look := by
  have ignored : List.zipWith (fun _ item => look item) names items =
      ((names.zip items).map Prod.snd).map look := by
    rw [List.map_map, List.zip, List.map_zipWith]
    rfl
  rw [ignored, List.map_snd_zip (Nat.le_of_eq named.symm)]

/-- The members of a model's struct have the types of its fields, in order. -/
theorem map_type_modelMembers (model : Model) :
    (modelMembers model).map (·.type) = model.fields.map fieldType := by
  have named := length_claimNames [] (model.fields.map fun field => safeName field.name)
  rw [List.length_map] at named
  rw [modelMembers, List.map_zipWith]
  exact zipWith_ignoring_names fieldType named

/-- The columns of a model stand for its fields, in order. -/
theorem map_field_columns (catalog : Catalog) (id : ModelId) :
    (catalog.columns id).map catalog.field = (catalog.model id).fields := by
  apply List.ext_getElem
  · simp [Catalog.columns, Model.fieldIds]
  · intro place _ bound
    simp [Catalog.columns, Catalog.field, Model.fieldIds, Model.field,
      List.getD_eq_getElem?_getD, bound]

/-- The columns of a model have the types of its fields, in order. -/
theorem map_fieldType_columns (catalog : Catalog) (id : ModelId) :
    (catalog.columns id).map (fun column => fieldType (catalog.field column)) =
      (catalog.model id).fields.map fieldType := by
  rw [← map_field_columns, List.map_map]
  rfl

/-- A member of a record is decoded from the types of the columns that its projection asks for. -/
theorem memberTypes_projectionMember (catalog : Catalog) (name : String)
    (projection : Projection) :
    memberTypes catalog projection (projectionMember catalog name projection) =
      (Sql.projectionColumns catalog projection).map fun column =>
        fieldType (catalog.field column) := by
  cases projection with
  | model id =>
      rw [memberTypes, map_type_modelMembers, Sql.projectionColumns, map_fieldType_columns]
  | field column => rfl

/-- A record is decoded from the types of all columns that its projections ask for. -/
theorem columnTypes_record (catalog : Catalog) (name : String) (projections : List Projection) :
    columnTypes catalog (.record name projections) =
      (selectedColumns catalog projections).map fun column =>
        fieldType (catalog.field column) := by
  have named := length_claimNames [] (projections.map (projectionName catalog))
  rw [List.length_map] at named
  rw [columnTypes, projectionMembers, selectedColumns, List.map_flatMap]
  generalize claimNames [] (projections.map (projectionName catalog)) = names at named
  induction projections generalizing names with
  | nil => simp
  | cons projection projections inductionHypothesis =>
      cases names with
      | nil => simp at named
      | cons name names =>
          have others := inductionHypothesis names (Nat.succ.inj named)
          simp only [List.zipWith_cons_cons, List.flatten_cons, List.flatMap_cons, others,
            memberTypes_projectionMember]

/-- A row of a select is decoded into the types of the columns that it asks for, in order. -/
theorem columnTypes_resultShape (catalog : Catalog) (projections : List Projection) :
    columnTypes catalog (Analysis.resultShape catalog projections) =
      (selectedColumns catalog projections).map fun column =>
        fieldType (catalog.field column) := by
  unfold Analysis.resultShape
  split
  next id =>
    simp only [columnTypes, map_type_modelMembers, selectedColumns, List.flatMap_singleton,
      Sql.projectionColumns, map_fieldType_columns]
  next column => rfl
  next => exact columnTypes_record catalog _ projections

/-! ## Values that may be missing -/

/-- A type whose values may be missing; every other type refuses a null. -/
def TakesNull (type : String) : Prop :=
  ∃ inner, type = optionOf inner

/-- A field is decoded into such a type exactly if it is nullable. -/
theorem takesNull_fieldType {field : Field} :
    TakesNull (fieldType field) ↔ field.nullable = true := by
  have plain : ∀ type : FieldType, ¬ TakesNull (valueType type) := by
    rintro type ⟨inner, same⟩
    have first := congrArg (fun text => text.toList.head?) same
    cases type <;> simp [valueType, optionOf] at first
  unfold fieldType
  split
  next nullable => simpa [nullable] using ⟨_, rfl⟩
  next notNullable => simpa [notNullable] using plain field.type

end Schemata.Access
