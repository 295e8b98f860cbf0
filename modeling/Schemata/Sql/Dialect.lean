import Schemata.Catalog
import Schemata.Text.Quoted

/-!
# Dialects

A dialect is a record of choices: how placeholders and row limits are written,
which type a column gets, and how a row that was just written can be read back.
-/

namespace Schemata.Sql

/-- How placeholders are written: numbered after a dollar sign, or as question marks. -/
inductive PlaceholderStyle where
  | dollar
  | question
  deriving DecidableEq, Repr

namespace PlaceholderStyle

/-- The placeholder of a parameter; parameters are counted from one. -/
def placeholder : PlaceholderStyle → Nat → String
  | dollar, number => "$" ++ toString number
  | question, _ => "?"

/-- The name of a style in data. -/
def name : PlaceholderStyle → String
  | dollar => "dollar"
  | question => "question"

end PlaceholderStyle

/-- How the number of rows is limited. -/
inductive LimitStyle where
  | limit
  | fetchFirst
  deriving DecidableEq, Repr

namespace LimitStyle

/-- The clause that limits the number of rows. -/
def clause : LimitStyle → Nat → String
  | limit, rows => "LIMIT " ++ toString rows
  | fetchFirst, rows => "FETCH FIRST " ++ toString rows ++ " ROWS ONLY"

/-- The name of a style in data. -/
def name : LimitStyle → String
  | limit => "limit"
  | fetchFirst => "fetch_first"

end LimitStyle

/-- The choices of an SQL backend. -/
structure Dialect where
  name : String
  description : String := ""
  /-- Whether a write can return the row it wrote. -/
  returning : Bool
  /-- Whether the identity of the row written last can be asked for. -/
  lastInsertId : Bool
  placeholders : PlaceholderStyle
  limits : LimitStyle
  /-- The column that holds the identity of a row, where there is one. -/
  rowIdentity : Option String := none
  columnType : Field → String

namespace Dialect

/-- The column by which a written row is read back, if the dialect can do that. -/
def readBackColumn? (dialect : Dialect) : Option String :=
  if dialect.lastInsertId then dialect.rowIdentity else none

end Dialect

/-- The column types of PostgreSQL. -/
def postgresType (field : Field) : String :=
  match field.type with
  | .bool => "boolean"
  | .int => if field.autoincrement then "serial" else "integer"
  | .int64 => if field.autoincrement then "bigserial" else "bigint"
  | .float64 => "double precision"
  | .text =>
    match field.length with
    | some length => "varchar(" ++ toString length ++ ")"
    | none => "text"
  | .blob => "bytea"
  | .timestamp => "timestamp with time zone"

/-- PostgreSQL: writes return their row, placeholders are numbered. -/
def postgres : Dialect where
  name := "postgres"
  description := "PostgreSQL 10 or newer"
  returning := true
  lastInsertId := false
  placeholders := .dollar
  limits := .fetchFirst
  columnType := postgresType

/-- The column types of SQLite; a key of one INTEGER column is the identity of its row. -/
def sqliteType (field : Field) : String :=
  match field.type with
  | .bool | .int | .int64 => "INTEGER"
  | .float64 => "REAL"
  | .text => "TEXT"
  | .blob => "BLOB"
  | .timestamp => "TIMESTAMP"

/-- SQLite 3: written rows are read back by the identity of the row. -/
def sqlite3 : Dialect where
  name := "sqlite3"
  description := "SQLite 3, rows read back through last_insert_rowid()"
  returning := false
  lastInsertId := true
  placeholders := .question
  limits := .limit
  rowIdentity := some "_rowid_"
  columnType := sqliteType

/-- Why a dialect cannot do what it is asked for. -/
inductive DialectError where
  | unsupported (name : String) (known : List String)
  | noFallback (dialect model : String)
  deriving DecidableEq, Repr

/-- The wording of a dialect error. -/
def DialectError.message : DialectError → String
  | unsupported name known =>
    "unsupported dialect " ++ Text.quoted name ++ " (known: " ++ ", ".intercalate known ++ ")"
  | noFallback dialect model =>
    "dialect " ++ dialect ++ " has neither RETURNING nor a row identity to read back " ++ model

end Schemata.Sql
