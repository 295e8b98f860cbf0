import Schemata.Json.Value
import Schemata.Plan

/-!
# Plans as JSON

Structures are objects with their parts in order; a choice without data is its
name, one with data an object whose only key is that name.
-/

namespace Schemata

open Json (Value)

/-- A choice with data. -/
def tagged (tag : String) (value : Value) : Value :=
  .object [(tag, value)]

/-- The name of a comparison in data. -/
def Comparison.name : Comparison → String
  | .eq => "eq"
  | .ne => "ne"
  | .lt => "lt"
  | .le => "le"
  | .gt => "gt"
  | .ge => "ge"

/-- A position as data. -/
def Position.toJson (position : Position) : Value :=
  .object [("line", .nat position.line), ("column", .nat position.column),
    ("offset", .nat position.offset)]

/-- A literal as data. -/
def Literal.toJson : Literal → Value
  | .null => .text "null"
  | .bool value => tagged "bool" (.bool value)
  | .int value => tagged "int" (.int value)
  | .text content => tagged "string" (.text content)

/-- A column as data. -/
def Column.toJson (column : Column) : Value :=
  .object [("model", .nat column.model), ("field", .nat column.field)]

/-- A field as data. -/
def Field.toJson (field : Field) : Value :=
  .object [("name", .text field.name), ("column", .text field.column),
    ("ty", .text field.type.name), ("nullable", .bool field.nullable),
    ("autoincrement", .bool field.autoincrement), ("autoinsert", .bool field.autoinsert),
    ("autoupdate", .bool field.autoupdate), ("updatable", .bool field.updatable),
    ("default", .ofOption Literal.toJson field.default), ("length", .ofOption .nat field.length),
    ("position", field.position.toJson)]

/-- A model as data. -/
def Model.toJson (model : Model) : Value :=
  .object [("name", .text model.name), ("table", .text model.table),
    ("fields", .ofList Field.toJson model.fields),
    ("primary_key", .ofList .nat model.primaryKey),
    ("unique", .ofList (.ofList .nat) model.unique), ("position", model.position.toJson)]

/-- A relation as data. -/
def Relation.toJson (relation : Relation) : Value :=
  .object [("left", relation.left.toJson), ("right", relation.right.toJson),
    ("on_delete", .ofOption (fun action => .text action.name) relation.onDelete),
    ("position", relation.position.toJson)]

/-- A join as data. -/
def Join.toJson (join : Join) : Value :=
  .object [("left", join.left.toJson), ("right", join.right.toJson)]

/-- An operand as data. -/
def Operand.toJson : Operand → Value
  | .placeholder => .text "placeholder"
  | .column source => tagged "column" source.toJson
  | .literal value => tagged "literal" value.toJson

/-- A condition as data. -/
def Condition.toJson (condition : Condition) : Value :=
  .object [("left", condition.left.toJson), ("op", .text condition.op.name),
    ("right", condition.right.toJson)]

/-- The name of a cardinality in data. -/
def Cardinality.name : Cardinality → String
  | .one => "one"
  | .many => "many"

/-- A projection as data. -/
def Projection.toJson : Projection → Value
  | .model id => tagged "model" (.nat id)
  | .field source => tagged "field" source.toJson

/-- A result shape as data. -/
def ResultShape.toJson : ResultShape → Value
  | .model id => tagged "model" (.nat id)
  | .field source => tagged "field" source.toJson
  | .record name members => tagged "struct"
      (.object [("name", .text name), ("fields", .ofList Projection.toJson members)])

/-- A request for pages as data. -/
def Paging.toJson (paging : Paging) : Value :=
  .object [("column", paging.column.toJson), ("page_size", .nat paging.size)]

/-- A select as data. -/
def Select.toJson (select : Select) : Value :=
  .object [("model", .nat select.model),
    ("projections", .ofList Projection.toJson select.projections),
    ("joins", .ofList Join.toJson select.joins),
    ("conditions", .ofList Condition.toJson select.conditions),
    ("cardinality", .text select.cardinality.name),
    ("paged", .ofOption Paging.toJson select.paging), ("result", select.result.toJson),
    ("position", select.position.toJson)]

/-- An insert as data. -/
def Insert.toJson (insert : Insert) : Value :=
  .object [("model", .nat insert.model), ("position", insert.position.toJson)]

/-- An update as data. -/
def Update.toJson (update : Update) : Value :=
  .object [("model", .nat update.model),
    ("conditions", .ofList Condition.toJson update.conditions),
    ("position", update.position.toJson)]

/-- A delete as data. -/
def Delete.toJson (delete : Delete) : Value :=
  .object [("model", .nat delete.model), ("joins", .ofList Join.toJson delete.joins),
    ("conditions", .ofList Condition.toJson delete.conditions),
    ("cardinality", .text delete.cardinality.name), ("position", delete.position.toJson)]

/-- A count as data. -/
def Count.toJson (count : Count) : Value :=
  .object [("model", .nat count.model), ("joins", .ofList Join.toJson count.joins),
    ("conditions", .ofList Condition.toJson count.conditions),
    ("position", count.position.toJson)]

/-- A plan as data. -/
def Plan.toJson (plan : Plan) : Value :=
  .object [("models", .ofList Model.toJson plan.models),
    ("relations", .ofList Relation.toJson plan.relations),
    ("inserts", .ofList Insert.toJson plan.inserts),
    ("selects", .ofList Select.toJson plan.selects),
    ("updates", .ofList Update.toJson plan.updates),
    ("deletes", .ofList Delete.toJson plan.deletes),
    ("counts", .ofList Count.toJson plan.counts),
    ("returning_targets", .ofList .nat plan.returningTargets)]

end Schemata
