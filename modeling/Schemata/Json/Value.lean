/-!
# JSON values

A number is kept as it is written, and the members of an object are kept in
order, repeated keys included.
-/

namespace Schemata.Json

/-- A JSON value. -/
inductive Value where
  | null
  | bool (value : Bool)
  | number (digits : String)
  | text (content : String)
  | array (items : List Value)
  | object (members : List (String × Value))
  deriving Repr

namespace Value

/-- A natural number. -/
def nat (n : Nat) : Value := .number (toString n)

/-- An integer. -/
def int (n : Int) : Value := .number (toString n)

/-- A value that may be missing; a missing one is null. -/
def ofOption {α : Type} (encode : α → Value) : Option α → Value
  | none => .null
  | some value => encode value

/-- A list of values. -/
def ofList {α : Type} (encode : α → Value) (items : List α) : Value :=
  .array (items.map encode)

end Value

end Schemata.Json
