import Schemata.Source.Position
import Schemata.Text.Quoted
import Schemata.Value

/-!
# Problems of a schema

What can be wrong with declarations that were read without error. A problem has a
place and a cause; all of a schema's problems are reported together, in the order
of their places. `Cause.message` is the only place that words them.
-/

namespace Schemata.Analysis

/-- What is wrong with a key. -/
inductive KeyFault where
  | nullable (field : String)
  | repeatedField (field : String)
  | repeatedKey
  deriving DecidableEq, Repr

/-- What is wrong with the marks, length or default of a field. -/
inductive AttributeFault where
  | autoincrementType (field : String) (type : FieldType)
  | autoincrementNullable (field : String)
  | stampType (field : String) (type : FieldType)
  | lengthType (field : String) (type : FieldType)
  | defaultMisfit (default : Literal) (field : String) (type : FieldType)
  deriving DecidableEq, Repr

/-- What is wrong with a relation. -/
inductive RelationFault where
  | sameModel
  | typeMismatch (left right : FieldType)
  | notUnique (right : String)
  | setNullNotNullable (left : String)
  | declaredTwice
  deriving DecidableEq, Repr

/-- What is wrong with a query. -/
inductive QueryFault where
  | repeatedProjection
  | pagedSingleRow
  | pagedElsewhere (column base : String)
  | pageSize (size : Int)
  | nothingUpdatable (model : String)
  | foreignCondition (model : String)
  | updateNotUnique (model : String)
  | joinRepeats (left right : String)
  | joinDetached (left right : String)
  | nullOrdering
  | notNullable (column : String)
  | literalMisfit (literal : Literal) (column : String) (type : FieldType)
  | typeClash (left : String) (leftType : FieldType) (right : String) (rightType : FieldType)
  deriving DecidableEq, Repr

/-- Why a schema is refused. -/
inductive Cause where
  | duplicateModel (name : String) (previous : Position)
  | duplicateTable (model table : String) (previous : Position)
  | duplicateColumn (model field column : String) (previous : Position)
  | unknownModel (name : String)
  | unknownField (model field : String)
  | missingKey (model : String)
  | malformedKey (model : String) (fault : KeyFault)
  | invalidAttribute (fault : AttributeFault)
  | invalidRelation (left right : String) (fault : RelationFault)
  | invalidJoin (left right : String)
  | ambiguousJoin (base model : String)
  | unreachable (base model : String)
  | invalidQuery (fault : QueryFault)
  deriving DecidableEq, Repr

/-- The wording of a key fault. -/
def KeyFault.message : KeyFault → String
  | nullable field => "key field " ++ field ++ " is nullable"
  | repeatedField field => field ++ " appears twice"
  | repeatedKey => "unique key repeats an existing key"

/-- The wording of an attribute fault. -/
def AttributeFault.message : AttributeFault → String
  | autoincrementType field type =>
    "autoincrement field " ++ field ++ " must be int or int64, not " ++ type.name
  | autoincrementNullable field => "autoincrement field " ++ field ++ " cannot be nullable"
  | stampType field type =>
    "autoinsert/autoupdate field " ++ field ++ " must be a timestamp, not " ++ type.name
  | lengthType field type =>
    "length is only allowed on text fields, " ++ field ++ " is " ++ type.name
  | defaultMisfit default field type =>
    "default " ++ default.sql ++ " does not fit field " ++ field ++ " of type " ++ type.name

/-- The wording of a relation fault. -/
def RelationFault.message : RelationFault → String
  | sameModel => "both ends are on the same model"
  | typeMismatch left right => "type " ++ left.name ++ " does not match " ++ right.name
  | notUnique right => right ++ " is not a single-field unique key"
  | setNullNotNullable left => "set_null requires " ++ left ++ " to be nullable"
  | declaredTwice => "declared twice"

/-- The wording of a query fault. -/
def QueryFault.message : QueryFault → String
  | repeatedProjection => "the same item is projected twice"
  | pagedSingleRow => "a select returning one row cannot be paged"
  | pagedElsewhere column base => "paged column " ++ column ++ " must be on " ++ base
  | pageSize size => "page size must be positive, got " ++ toString size
  | nothingUpdatable model => "model " ++ model ++ " has no updatable fields"
  | foreignCondition model => "update conditions may only reference " ++ model
  | updateNotUnique model => "update of " ++ model ++ " must constrain a unique key"
  | joinRepeats left right =>
    "join " ++ left ++ " = " ++ right ++ " repeats a model already in the query"
  | joinDetached left right =>
    "join " ++ left ++ " = " ++ right ++ " does not touch a model already in the query"
  | nullOrdering => "null can only be compared with = or !="
  | notNullable column => column ++ " is not nullable"
  | literalMisfit literal column type =>
    literal.sql ++ " does not fit " ++ column ++ " of type " ++ type.name
  | typeClash left leftType right rightType =>
    "cannot compare " ++ left ++ " (" ++ leftType.name ++ ") with " ++
      right ++ " (" ++ rightType.name ++ ")"

/-- The wording of a cause. -/
def Cause.message : Cause → String
  | duplicateModel name previous =>
    "model " ++ name ++ " already defined. previous definition at " ++ previous.describe
  | duplicateTable model table previous =>
    "table " ++ table ++ " of model " ++ model ++ " already defined. previous definition at " ++
      previous.describe
  | duplicateColumn model field column previous =>
    "column " ++ column ++ " of field " ++ field ++ " already defined on model " ++ model ++
      ". previous definition at " ++ previous.describe
  | unknownModel name => "unknown model " ++ Text.quoted name
  | unknownField model field => "model " ++ model ++ " has no field " ++ Text.quoted field
  | missingKey model => "model " ++ model ++ " needs a key or exactly one autoincrement field"
  | malformedKey model fault => "malformed key on model " ++ model ++ ": " ++ fault.message
  | invalidAttribute fault => fault.message
  | invalidRelation left right fault =>
    "invalid relation " ++ left ++ " -> " ++ right ++ ": " ++ fault.message
  | invalidJoin left right => "no relation joins " ++ left ++ " and " ++ right
  | ambiguousJoin base model =>
    "ambiguous join from " ++ base ++ " to " ++ model ++
      ": more than one shortest relation path"
  | unreachable base model =>
    "model " ++ model ++ " is not reachable from " ++ base ++ " through any relation"
  | invalidQuery fault => fault.message

/-- Something wrong with a schema, and where. -/
structure Problem where
  position : Position
  cause : Cause
  deriving DecidableEq, Repr

namespace Problem

/-- A problem as it is reported. -/
def message (problem : Problem) : String :=
  problem.position.describe ++ ": " ++ problem.cause.message

/-- The number of bytes at the problem's place that it is about. -/
def size (problem : Problem) : Nat :=
  match problem.cause with
  | .duplicateModel name _ => name.utf8ByteSize
  | .duplicateTable _ table _ => table.utf8ByteSize
  | .duplicateColumn _ field _ _ => field.utf8ByteSize
  | .unknownModel name => name.utf8ByteSize
  | .unknownField _ field => field.utf8ByteSize
  | _ => 1

/-- The earlier definition that a repeated one clashes with. -/
def previous? (problem : Problem) : Option Position :=
  match problem.cause with
  | .duplicateModel _ previous => some previous
  | .duplicateTable _ _ previous => some previous
  | .duplicateColumn _ _ _ previous => some previous
  | _ => none

/-- Problems in the order of their places; those at one place keep the order they were found in. -/
def sort (problems : List Problem) : List Problem :=
  problems.mergeSort fun a b => !b.position.before a.position

end Problem

end Schemata.Analysis
