import Schemata.Plan
import Schemata.Sql.Dialect
import Schemata.Sql.Identifier

/-!
# Table definitions

Every model has one table definition: its columns, its keys, and the relations
that leave it, one a line.
-/

namespace Schemata.Sql

/-- The names of fields with commas between them. -/
def fieldNames (model : Model) (fields : List FieldId) : String :=
  ", ".intercalate (fields.map fun id => identifier (model.field id).column)

/-- The line of a column. -/
def columnLine (dialect : Dialect) (field : Field) : String :=
  identifier field.column ++ " " ++ dialect.columnType field ++
    (if field.nullable then "" else " NOT NULL") ++
    (match field.default with
      | some default => " DEFAULT " ++ default.sql
      | none => "")

/-- The line of a key. -/
def keyLine (kind : String) (model : Model) (key : List FieldId) : String :=
  kind ++ " ( " ++ fieldNames model key ++ " )"

/-- The line of a relation. -/
def relationLine (catalog : Catalog) (relation : Relation) : String :=
  let target := catalog.model relation.right.model
  "FOREIGN KEY ( " ++ fieldNames (catalog.model relation.left.model) [relation.left.field] ++
    " ) REFERENCES " ++ identifier target.table ++
    " ( " ++ fieldNames target [relation.right.field] ++ " )" ++
    (match relation.onDelete with
      | some action => " ON DELETE " ++ action.sql
      | none => "")

/-- The lines between the parentheses of a table definition. -/
def tableLines (dialect : Dialect) (catalog : Catalog) (id : ModelId) : List String :=
  let model := catalog.model id
  model.fields.map (columnLine dialect) ++ [keyLine "PRIMARY KEY" model model.primaryKey] ++
    model.unique.map (keyLine "UNIQUE" model) ++
    (catalog.outgoing id).map (relationLine catalog)

/-- The definition of a model's table, without its final semicolon. -/
def tableDefinition (dialect : Dialect) (catalog : Catalog) (id : ModelId) : String :=
  "CREATE TABLE " ++ identifier (catalog.model id).table ++ " (\n    " ++
    ",\n    ".intercalate (tableLines dialect catalog id) ++ "\n)"

/-- The definitions of all tables, in the order of the models, with blank lines between them. -/
def schemaText (dialect : Dialect) (catalog : Catalog) : String :=
  "\n".intercalate (catalog.modelIds.map fun id => tableDefinition dialect catalog id ++ ";\n")

end Schemata.Sql
