/-!
# Comparison operators

The six operators of conditions, with the spelling they share in schemas and in SQL.
-/

namespace Schemata

/-- The operators that compare a column with something. -/
inductive Comparison where
  | eq
  | ne
  | lt
  | le
  | gt
  | ge
  deriving DecidableEq, Repr

namespace Comparison

/-- Every operator, in the order in which messages list them. -/
def all : List Comparison := [eq, ne, lt, le, gt, ge]

/-- The spelling of an operator. -/
def symbol : Comparison → String
  | eq => "="
  | ne => "!="
  | lt => "<"
  | le => "<="
  | gt => ">"
  | ge => ">="

/-- The operator with a given spelling. -/
def ofSymbol? (text : String) : Option Comparison :=
  all.find? (·.symbol == text)

/-- Every operator is found by its own spelling. -/
theorem ofSymbol?_symbol (op : Comparison) : ofSymbol? op.symbol = some op := by
  cases op <;> decide

end Comparison

end Schemata
