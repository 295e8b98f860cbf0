import Schemata.Node
import Schemata.Value

/-!
# Declarations

What a schema declares, before any name in it is resolved: models with their
fields, relations between fields, and queries of five kinds. Every name and value
keeps its place in the source, so that problems found later can point at it.
-/

namespace Schemata

/-- A value with its place in the source and its length in bytes. -/
structure Located (α : Type) where
  value : α
  position : Position
  size : Nat
  deriving DecidableEq, Repr

namespace Declaration

/-- A field of a model. -/
structure Field where
  name : Name
  type : Located FieldType
  marks : Marks := {}
  default : Option (Located Literal) := none
  length : Option (Located Nat) := none
  deriving DecidableEq, Repr

/-- A model: a table with its keys and fields. -/
structure Model where
  name : Name
  table : Option Name := none
  key : Option (List Name) := none
  uniques : List (List Name) := []
  fields : List Field := []
  position : Position
  deriving DecidableEq, Repr

/-- A field of a model, named from outside. -/
structure ColumnRef where
  model : Name
  field : Name
  deriving DecidableEq, Repr

/-- Where a reference starts. -/
def ColumnRef.position (ref : ColumnRef) : Position := ref.model.position

/-- The length of a reference in bytes, with its dot. -/
def ColumnRef.size (ref : ColumnRef) : Nat := ref.model.size + 1 + ref.field.size

/-- A relation: the left field refers to the right one. -/
structure Relation where
  left : ColumnRef
  right : ColumnRef
  onDelete : Option (Located DeleteAction) := none
  position : Position
  deriving DecidableEq, Repr

/-- What a select asks for: a whole model, or one field. -/
inductive Projection where
  | model (name : Name)
  | field (ref : ColumnRef)
  deriving DecidableEq, Repr

/-- An explicit join of two fields. -/
structure Join where
  left : ColumnRef
  right : ColumnRef
  position : Position
  deriving DecidableEq, Repr

/-- What a field is compared with. -/
inductive Operand where
  | placeholder
  | column (ref : ColumnRef)
  | literal (value : Literal)
  deriving DecidableEq, Repr

/-- A condition on a field. -/
structure Condition where
  left : ColumnRef
  op : Comparison
  right : Operand
  position : Position
  deriving DecidableEq, Repr

/-- A request for pages, ordered by a field. -/
structure Paging where
  column : ColumnRef
  size : Located Int
  position : Position
  deriving DecidableEq, Repr

/-- A select query. -/
structure Select where
  projections : List Projection
  joins : List Join := []
  conditions : List Condition := []
  paging : Option Paging := none
  position : Position
  deriving DecidableEq, Repr

/-- An insert query. -/
structure Insert where
  model : Name
  position : Position
  deriving DecidableEq, Repr

/-- An update query. -/
structure Update where
  model : Name
  conditions : List Condition := []
  position : Position
  deriving DecidableEq, Repr

/-- A query that filters one model and may join others: a delete or a count. -/
structure Filtered where
  model : Name
  joins : List Join := []
  conditions : List Condition := []
  position : Position
  deriving DecidableEq, Repr

/-- Everything that one source declares, by kind and in source order. -/
structure Schema where
  models : List Model := []
  relations : List Relation := []
  inserts : List Insert := []
  selects : List Select := []
  updates : List Update := []
  deletes : List Filtered := []
  counts : List Filtered := []
  deriving DecidableEq, Repr

end Declaration

end Schemata
