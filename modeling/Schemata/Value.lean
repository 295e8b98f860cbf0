/-!
# Types, marks and literals of columns

The seven types a field can have, the marks it can carry, the literals that can
stand for a value, and what a deletion does to the rows that refer to the deleted
one.
-/

namespace Schemata

/-- The type of a field. -/
inductive FieldType where
  | bool
  | int
  | int64
  | float64
  | text
  | blob
  | timestamp
  deriving DecidableEq, Repr

namespace FieldType

/-- Every type, in the order in which messages list them. -/
def all : List FieldType := [bool, int, int64, float64, text, blob, timestamp]

/-- The name of a type in a schema. -/
def name : FieldType → String
  | bool => "bool"
  | int => "int"
  | int64 => "int64"
  | float64 => "float64"
  | text => "text"
  | blob => "blob"
  | timestamp => "timestamp"

/-- The type with a given name. -/
def ofName? (text : String) : Option FieldType :=
  all.find? (·.name == text)

/-- The types that count in whole numbers. -/
def isInteger : FieldType → Bool
  | int => true
  | int64 => true
  | _ => false

/-- Every type is found by its own name. -/
theorem ofName?_name (type : FieldType) : ofName? type.name = some type := by
  cases type <;> decide

end FieldType

/-- The marks a field can carry. -/
structure Marks where
  nullable : Bool := false
  autoincrement : Bool := false
  autoinsert : Bool := false
  autoupdate : Bool := false
  updatable : Bool := false
  deriving DecidableEq, Repr

/-- A value written in a schema. -/
inductive Literal where
  | null
  | bool (value : Bool)
  | int (value : Int)
  | text (content : String)
  deriving DecidableEq, Repr

namespace Literal

/-- The inside of an SQL string: a quote is written twice. -/
def doubleQuotes : List Char → List Char
  | [] => []
  | c :: rest => if c = '\'' then '\'' :: '\'' :: doubleQuotes rest else c :: doubleQuotes rest

/-- A literal in SQL. -/
def sql : Literal → String
  | null => "NULL"
  | bool true => "TRUE"
  | bool false => "FALSE"
  | int value => toString value
  | text content => "'" ++ String.ofList (doubleQuotes content.toList) ++ "'"

/-- Whether a literal is a value of a column of some type. -/
def fits (type : FieldType) (nullable : Bool) : Literal → Bool
  | null => nullable
  | bool _ => type = .bool
  | int _ => type.isInteger || type = .float64
  | text _ => type = .text || type = .timestamp || type = .blob

end Literal

/-- What deleting a row does to the rows that refer to it. -/
inductive DeleteAction where
  | cascade
  | setNull
  | restrict
  deriving DecidableEq, Repr

namespace DeleteAction

/-- Every action, in the order in which messages list them. -/
def all : List DeleteAction := [cascade, setNull, restrict]

/-- The name of an action in a schema. -/
def name : DeleteAction → String
  | cascade => "cascade"
  | setNull => "set_null"
  | restrict => "restrict"

/-- The action with a given name. -/
def ofName? (text : String) : Option DeleteAction :=
  all.find? (·.name == text)

/-- An action in SQL. -/
def sql : DeleteAction → String
  | cascade => "CASCADE"
  | setNull => "SET NULL"
  | restrict => "RESTRICT"

/-- Every action is found by its own name. -/
theorem ofName?_name (action : DeleteAction) : ofName? action.name = some action := by
  cases action <;> decide

end DeleteAction

end Schemata
