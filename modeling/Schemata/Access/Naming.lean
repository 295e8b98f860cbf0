import Schemata.Plan
import Schemata.Text.Words

/-!
# Names in generated code

Names of generated functions, arguments, members and types. A name is written in
small letters with underscores and made safe where it would clash with a word of
the language; in each scope names are handed out once, with a number behind a name
that was handed out before.
-/

namespace Schemata.Access

/-- The words that a name can only be behind a raw mark. -/
def keywords : List String :=
  ["as", "async", "await", "box", "break", "const", "continue", "dyn", "else", "enum", "extern",
    "false", "fn", "for", "gen", "if", "impl", "in", "let", "loop", "match", "mod", "move", "mut",
    "pub", "ref", "return", "static", "struct", "trait", "true", "try", "type", "unsafe", "use",
    "where", "while", "yield"]

/-- The words that a name cannot be even behind a raw mark. -/
def pathWords : List String := ["self", "super", "crate"]

/-- Whether a text starts with a digit. -/
def startsWithDigit (text : String) : Bool :=
  match text.toList with
  | c :: _ => c.isDigit
  | [] => false

/-- A name as an identifier. -/
def safeName (name : String) : String :=
  let small := Text.snakeCase name
  if small = "" || pathWords.contains small then small ++ "_"
  else if keywords.contains small then "r#" ++ small
  else if startsWithDigit small then "_" ++ small
  else small

/-! ## Scopes -/

/-- A name with a number behind it. -/
def numbered (base : String) (number : Nat) : String :=
  base ++ "_" ++ toString number

/--
The name to hand out for a base in a scope: the base itself, or the base with the
least number from two on that is free. One more number than there are names is
tried, so one of them is free.
-/
def freshName (used : List String) (base : String) : String :=
  if used.contains base then
    let candidates := (List.range (used.length + 1)).map fun n => numbered base (n + 2)
    (candidates.find? fun candidate => !used.contains candidate).getD base
  else
    base

/-- The names handed out for some bases, one after the other, in a scope. -/
def claimNames : List String → List String → List String
  | _, [] => []
  | used, base :: bases =>
    let name := freshName used base
    name :: claimNames (name :: used) bases

/-! ## Names of things -/

/-- The type of a model's rows. -/
def structName (model : String) : String :=
  Text.upperCamelCase model

/-- The type that a dialect's methods belong to. -/
def receiverName (dialect : String) : String :=
  Text.upperCamelCase dialect ++ "Db"

/-- A column by its model and field. -/
def columnName (catalog : Catalog) (column : Column) : String :=
  Text.snakeCase ((catalog.model column.model).name ++ "_" ++ (catalog.field column).name)

/-- What a comparison adds to the name of a condition. -/
def comparisonSuffix : Comparison → String
  | .eq => ""
  | .ne => "_not"
  | .lt => "_less"
  | .le => "_less_or_equal"
  | .gt => "_greater"
  | .ge => "_greater_or_equal"

/-- What a literal other than null adds to the name of a condition. -/
def literalSuffix : Literal → String
  | .null => ""
  | .bool true => "_true"
  | .bool false => "_false"
  | .int value =>
    if value < 0 then "_minus_" ++ toString value.natAbs else "_" ++ toString value
  | .text content =>
    let word := Text.snakeCase content
    "_" ++ (if word = "" then "empty" else word)

/-- The name of a condition. -/
def conditionName (catalog : Catalog) (condition : Condition) : String :=
  let left := columnName catalog condition.left
  let op := comparisonSuffix condition.op
  match condition.right with
  | .placeholder => left ++ op
  | .literal .null => left ++ (if condition.op = .eq then "_is_null" else "_is_not_null")
  | .literal value => left ++ op ++ literalSuffix value
  | .column other => left ++ op ++ "_" ++ columnName catalog other

/-- The name of a function: what it does, to what, and under which conditions. -/
def methodName (catalog : Catalog) (verb subject : String) (conditions : List Condition) :
    String :=
  let filter :=
    if conditions.isEmpty then ""
    else "_by" ++ String.join (conditions.map fun c => "_" ++ conditionName catalog c)
  safeName (verb ++ "_" ++ subject ++ filter)

/-- What a query on a model is named for. -/
def modelSubject (catalog : Catalog) (id : ModelId) : String :=
  Text.snakeCase (catalog.model id).name

/-- What a select is named for: everything it asks for. -/
def selectSubject (catalog : Catalog) (select : Select) : String :=
  "_".intercalate (select.projections.map fun projection =>
    match projection with
    | .model id => modelSubject catalog id
    | .field column => columnName catalog column)

end Schemata.Access
