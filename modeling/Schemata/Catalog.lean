import Schemata.Source.Position
import Schemata.Value

/-!
# Catalogs

The models and relations of a schema after their names were resolved. Models and
fields are known by their number: a model by its place in the catalog, a field by
its place in its model. Looking up a number that is not taken gives an empty
model or field; every number in a catalog or plan that was compiled is taken.
-/

namespace Schemata

/-- The place of a model in its catalog. -/
abbrev ModelId := Nat

/-- The place of a field in its model. -/
abbrev FieldId := Nat

/-- A field of a model, known by both places. -/
structure Column where
  model : ModelId
  field : FieldId
  deriving DecidableEq, Repr

/-- A resolved field. -/
structure Field extends Marks where
  name : String
  column : String
  type : FieldType
  default : Option Literal
  length : Option Nat
  position : Position
  deriving DecidableEq, Repr

/-- The field that stands for a number that is not taken. -/
instance : Inhabited Field := ⟨⟨{}, "", "", .bool, none, none, .start⟩⟩

/-- A resolved model: its table, its fields, and its keys as lists of fields. -/
structure Model where
  name : String
  table : String
  fields : List Field
  primaryKey : List FieldId
  unique : List (List FieldId)
  position : Position
  deriving DecidableEq, Repr

/-- The model that stands for a number that is not taken. -/
instance : Inhabited Model := ⟨⟨"", "", [], [], [], .start⟩⟩

namespace Model

/-- The field at a place. -/
def field (model : Model) (id : FieldId) : Field :=
  model.fields.getD id default

/-- The place of the field with a given name. -/
def fieldId? (model : Model) (name : String) : Option FieldId :=
  model.fields.findIdx? (·.name == name)

/-- The places of all fields, in order. -/
def fieldIds (model : Model) : List FieldId :=
  List.range model.fields.length

/-- The places of the fields with some property, in order. -/
def fieldsWhere (model : Model) (property : Field → Bool) : List FieldId :=
  model.fieldIds.filter fun id => property (model.field id)

/-- All keys whose values are unique: the primary key first. -/
def uniqueKeys (model : Model) : List (List FieldId) :=
  model.primaryKey :: model.unique

/-- Whether a field is unique on its own. -/
def isUniqueField (model : Model) (id : FieldId) : Bool :=
  model.uniqueKeys.contains [id]

/-- The fields whose value an insert is given. -/
def insertable (model : Model) : List FieldId :=
  model.fieldsWhere fun field => !field.autoincrement && !field.autoinsert

/-- The fields that an insert writes. -/
def insertColumns (model : Model) : List FieldId :=
  model.fieldsWhere fun field => !field.autoincrement

/-- The fields whose value an update is given. -/
def updatable (model : Model) : List FieldId :=
  model.fieldsWhere fun field => field.updatable

/-- The fields that an update writes. -/
def updateColumns (model : Model) : List FieldId :=
  model.fieldsWhere fun field => field.updatable || field.autoupdate

end Model

/-- A resolved relation: the left column refers to the right one. -/
structure Relation where
  left : Column
  right : Column
  onDelete : Option DeleteAction
  position : Position
  deriving DecidableEq, Repr

/-- Whether a relation connects two columns, in either direction. -/
def Relation.connects (relation : Relation) (a b : Column) : Bool :=
  (relation.left = a && relation.right = b) || (relation.left = b && relation.right = a)

/-- The models and relations of a schema. -/
structure Catalog where
  models : List Model := []
  relations : List Relation := []
  deriving DecidableEq, Repr

namespace Catalog

/-- The model at a place. -/
def model (catalog : Catalog) (id : ModelId) : Model :=
  catalog.models.getD id default

/-- The place of the model with a given name. -/
def modelId? (catalog : Catalog) (name : String) : Option ModelId :=
  catalog.models.findIdx? (·.name == name)

/-- The places of all models, in order. -/
def modelIds (catalog : Catalog) : List ModelId :=
  List.range catalog.models.length

/-- The field that a column stands for. -/
def field (catalog : Catalog) (column : Column) : Field :=
  (catalog.model column.model).field column.field

/-- The columns of a model, in order. -/
def columns (catalog : Catalog) (id : ModelId) : List Column :=
  (catalog.model id).fieldIds.map fun field => ⟨id, field⟩

/-- The relations that leave a model. -/
def outgoing (catalog : Catalog) (id : ModelId) : List Relation :=
  catalog.relations.filter fun relation => relation.left.model = id

/-- A column by the names of its model and field. -/
def displayName (catalog : Catalog) (column : Column) : String :=
  (catalog.model column.model).name ++ "." ++ (catalog.field column).name

/-- A column by the names of its table and column. -/
def tableName (catalog : Catalog) (column : Column) : String :=
  (catalog.model column.model).table ++ "." ++ (catalog.field column).column

end Catalog

end Schemata
