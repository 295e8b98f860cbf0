import Schemata.Lookups
import Schemata.Sql.Identifier
import Schemata.Sql.Statement

/-!
# Building statements

A statement is built from texts. Most of them are read off the models and fields that
they are about. Where a text has a placeholder, its parameter is added to those of the
statement, and the placeholder gets the number of parameters there are by then. So texts
have to be built in the order in which their placeholders stand in the statement.
-/

namespace Schemata.Sql

/-- A part of a statement under construction, which may add to the parameters bound so far. -/
abbrev Builder (m : Type → Type) := StateT (List Param) m

namespace Builder

variable {m : Type → Type} [Monad m]

/-- Bind a parameter; its placeholder has the number of parameters bound by then. -/
def bind (dialect : Dialect) (param : Param) : Builder m String := do
  modify (· ++ [param])
  let params ← get
  return dialect.placeholders.placeholder params.length

variable (dialect : Dialect) (lookups : Lookups m)

/-! ## Names -/

/-- The table of a model. -/
def table (id : ModelId) : Builder m String := do
  let model ← lookups.model id
  return identifier model.table

/-- A column without its table. -/
def bare (column : Column) : Builder m String := do
  let field ← lookups.field column
  return identifier field.column

/-- A column with its table. -/
def qualified (column : Column) : Builder m String := do
  let tableName ← table lookups column.model
  let name ← bare lookups column
  return tableName ++ "." ++ name

/-- The columns of a model, in order. -/
def fields (id : ModelId) : Builder m (List Column) := do
  let model ← lookups.model id
  return model.fieldIds.map (Column.mk id)

/-- Columns with their tables and commas between them. -/
def columnList (columns : List Column) : Builder m String := do
  let names ← columns.mapM (qualified lookups)
  return ", ".intercalate names

/-- All columns of a model. -/
def allColumns (id : ModelId) : Builder m String := do
  let columns ← fields lookups id
  columnList lookups columns

/-- The primary key of a model; a key of several columns stands between parentheses. -/
def key (id : ModelId) : Builder m String := do
  let model ← lookups.model id
  let columns ← columnList lookups (model.primaryKey.map (Column.mk id))
  return if model.primaryKey.length = 1 then columns else "( " ++ columns ++ " )"

/-- What a projection asks for. -/
def projection : Projection → Builder m String
  | .model id => allColumns lookups id
  | .field column => qualified lookups column

/-- What a select asks for, projection by projection. -/
def projections (projections : List Projection) : Builder m String := do
  let texts ← projections.mapM (projection lookups)
  return ", ".intercalate texts

/-! ## Clauses -/

/-- The clause of a join. -/
def join (join : Join) : Builder m String := do
  let joined ← table lookups join.right.model
  let right ← qualified lookups join.right
  let left ← qualified lookups join.left
  return " LEFT JOIN " ++ joined ++ " ON " ++ right ++ " = " ++ left

/-- The clauses of joins. -/
def joins (joins : List Join) : Builder m String := do
  let clauses ← joins.mapM (join lookups)
  return String.join clauses

/-- A condition. -/
def condition (condition : Condition) : Builder m String := do
  let left ← qualified lookups condition.left
  let op := condition.op.symbol
  match condition.right with
  | .placeholder =>
    let placeholder ← bind dialect (.filter condition.left)
    return left ++ " " ++ op ++ " " ++ placeholder
  | .column other =>
    let right ← qualified lookups other
    return left ++ " " ++ op ++ " " ++ right
  | .literal .null => return left ++ (if condition.op = .eq then " IS NULL" else " IS NOT NULL")
  | .literal value => return left ++ " " ++ op ++ " " ++ value.sql

/-- The condition that a page starts after its cursor. -/
def cursor (column : Column) : Builder m String := do
  let placeholder ← bind dialect (.cursor column)
  let left ← qualified lookups column
  return left ++ " > " ++ placeholder

/-- The clause of conditions, with that of a cursor behind them; there is none without any. -/
def filter (conditions : List Condition) (after : Option Column) : Builder m String := do
  let parts ← conditions.mapM (condition dialect lookups)
  let last ← after.toList.mapM (cursor dialect lookups)
  return if (parts ++ last).isEmpty then "" else " WHERE " ++ " AND ".intercalate (parts ++ last)

/-- The tables, joins and conditions of a query. -/
def source (id : ModelId) (joined : List Join) (conditions : List Condition)
    (after : Option Column) : Builder m String := do
  let base ← table lookups id
  let clauses ← joins lookups joined
  let conditions ← filter dialect lookups conditions after
  return "FROM " ++ base ++ clauses ++ conditions

/-- The clause that returns the written row, in the dialects that have it. -/
def returning (id : ModelId) : Builder m String := do
  if dialect.returning then
    let columns ← fields lookups id
    let names ← columns.mapM (bare lookups)
    return " RETURNING " ++ ", ".intercalate names
  else
    return ""

/-! ## Values -/

/-- The value of a column that is written: a parameter, or else the time of the database. -/
def value (given : Field → Bool) (column : Column) : Builder m String := do
  let field ← lookups.field column
  if given field then bind dialect (.value column) else return "CURRENT_TIMESTAMP"

/-- A column and the value that an insert gives it. -/
def inserted (column : Column) : Builder m (String × String) := do
  let name ← bare lookups column
  let written ← value dialect lookups (!·.autoinsert) column
  return (name, written)

/-- The assignment of an update to a column. -/
def assignment (column : Column) : Builder m String := do
  let written ← value dialect lookups (·.updatable) column
  let name ← bare lookups column
  return name ++ " = " ++ written

/-- The statement of a text, with the parameters that it has bound. -/
def finish (text : Builder m String) : m Statement := do
  let (sql, params) ← text.run []
  return ⟨sql, params⟩

end Builder

end Schemata.Sql
