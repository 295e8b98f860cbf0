import Schemata.Sql.Builder

/-!
# Statements of queries

The statement of every query of a plan. Columns are written with their table,
except where a statement writes to its own table. Every statement is built over lookups,
and then taken over a catalog as it is.
-/

namespace Schemata.Sql

/-! ## Building -/

section Building

open Builder

variable {m : Type → Type} [Monad m] (dialect : Dialect) (lookups : Lookups m)

/-- Build the statement of a select: of all its rows, or of the next page. -/
def buildSelect (select : Select) (page : Option Paging) : m Statement := finish do
  let columns ← projections lookups select.projections
  let rows ← source dialect lookups select.model select.joins select.conditions
    (page.map Paging.column)
  match page with
  | none => return "SELECT " ++ columns ++ " " ++ rows
  | some paging =>
    let column ← qualified lookups paging.column
    return "SELECT " ++ columns ++ " " ++ rows ++ " ORDER BY " ++ column ++ " " ++
      dialect.limits.clause paging.size

/-- Build the statement of an insert. Without any column, the row has its defaults. -/
def buildInsert (insert : Insert) : m Statement := finish do
  let model ← lookups.model insert.model
  let columns := model.insertColumns.map (Column.mk insert.model)
  let entries ← columns.mapM (inserted dialect lookups)
  let target ← table lookups insert.model
  let row ← returning dialect lookups insert.model
  if entries.isEmpty then
    return "INSERT INTO " ++ target ++ " DEFAULT VALUES" ++ row
  else
    return "INSERT INTO " ++ target ++ " ( " ++ ", ".intercalate (entries.map (·.1)) ++
      " ) VALUES ( " ++ ", ".intercalate (entries.map (·.2)) ++ " )" ++ row

/-- Build the statement of an update. -/
def buildUpdate (update : Update) : m Statement := finish do
  let model ← lookups.model update.model
  let columns := model.updateColumns.map (Column.mk update.model)
  let assignments ← columns.mapM (assignment dialect lookups)
  let target ← table lookups update.model
  let conditions ← filter dialect lookups update.conditions none
  let row ← returning dialect lookups update.model
  return "UPDATE " ++ target ++ " SET " ++ ", ".intercalate assignments ++ conditions ++ row

/-- Build the statement of a delete. It cannot join, so it looks the doomed keys up instead. -/
def buildDelete (delete : Delete) : m Statement := finish do
  let target ← table lookups delete.model
  if delete.joins.isEmpty then
    let conditions ← filter dialect lookups delete.conditions none
    return "DELETE FROM " ++ target ++ conditions
  else
    let doomed ← key lookups delete.model
    let rows ← source dialect lookups delete.model delete.joins delete.conditions none
    return "DELETE FROM " ++ target ++ " WHERE " ++ doomed ++ " IN ( SELECT " ++ doomed ++ " " ++
      rows ++ " )"

/-- Build the statement of the number of rows, or of whether there is one. -/
def buildCount (count : Count) (has : Bool) : m Statement := finish do
  let rows ← source dialect lookups count.model count.joins count.conditions none
  return if has then "SELECT EXISTS( SELECT 1 " ++ rows ++ " )" else "SELECT COUNT(*) " ++ rows

/-- Build the statement that reads a row by its identity, which a column holds. -/
def buildGetLast (id : ModelId) (identity : String) : m Statement := finish do
  let placeholder ← bind dialect .rowId
  let columns ← allColumns lookups id
  let base ← table lookups id
  return "SELECT " ++ columns ++ " FROM " ++ base ++ " WHERE " ++ identity ++ " = " ++ placeholder

/-- Build the statement that finds the identity of the row that an update is about. -/
def buildRowLookup (update : Update) (identity : String) : m Statement := finish do
  let base ← table lookups update.model
  let conditions ← filter dialect lookups update.conditions none
  return "SELECT " ++ identity ++ " FROM " ++ base ++ conditions

end Building

/-! ## Statements -/

section Statements

variable (dialect : Dialect) (catalog : Catalog)

/-- The statement of all rows of a select. -/
def selectAll (select : Select) : Statement :=
  buildSelect dialect catalog.lookups select none

/-- The statement of the next page of a select. -/
def selectPage (select : Select) (paging : Paging) : Statement :=
  buildSelect dialect catalog.lookups select (some paging)

/-- The statement of the next page of a select, if it has pages. -/
def selectPage? (select : Select) : Option Statement :=
  select.paging.map (selectPage dialect catalog select)

/-- The statement of an insert. -/
def insertStatement (insert : Insert) : Statement :=
  buildInsert dialect catalog.lookups insert

/-- The statement of an update. -/
def updateStatement (update : Update) : Statement :=
  buildUpdate dialect catalog.lookups update

/-- The statement of a delete. -/
def deleteStatement (delete : Delete) : Statement :=
  buildDelete dialect catalog.lookups delete

/-- The statement of the number of rows. -/
def countStatement (count : Count) : Statement :=
  buildCount dialect catalog.lookups count false

/-- The statement of whether there is a row. -/
def hasStatement (count : Count) : Statement :=
  buildCount dialect catalog.lookups count true

/-! ## Reading back -/

/-- The column by which a row of a model is read back. -/
def readBackColumn (id : ModelId) : Except DialectError String :=
  match dialect.readBackColumn? with
  | some column => .ok column
  | none => .error (.noFallback dialect.name (catalog.model id).name)

/-- The statement that reads a written row by its identity. -/
def getLastStatement (id : ModelId) : Except DialectError Statement := do
  let column ← readBackColumn dialect catalog id
  return buildGetLast dialect catalog.lookups id column

/-- The statement that finds the identity of the row that an update is about. -/
def rowLookupStatement (update : Update) : Except DialectError Statement := do
  let column ← readBackColumn dialect catalog update.model
  return buildRowLookup dialect catalog.lookups update column

end Statements

end Schemata.Sql
