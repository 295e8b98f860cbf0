import Schemata.Plan
import Schemata.Sql.Dialect

/-!
# Statements

A statement is a text with placeholders and the list of what they are bound to. The
two belong together: the placeholder that comes at some place in the text is bound to
what comes at the same place in the list.
-/

namespace Schemata.Sql

/-- What a placeholder is bound to. -/
inductive Param where
  /-- The value that a column gets. -/
  | value (column : Column)
  /-- The value that a column is compared with in a condition. -/
  | filter (column : Column)
  /-- The value of a column after which a page starts. -/
  | cursor (column : Column)
  /-- The identity of a row. -/
  | rowId
  deriving DecidableEq, Repr

/-- The text of a statement and the meaning of its placeholders, in order. -/
structure Statement where
  sql : String
  params : List Param
  deriving DecidableEq, Repr

end Schemata.Sql
