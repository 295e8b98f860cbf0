import Schemata.Catalog
import Schemata.Comparison

/-!
# Plans

A plan is a catalog with the queries that were resolved over it. Every query says
which model it is about, how other models are joined to it, and which conditions
its rows meet.
-/

namespace Schemata

/-- A join step: the right column's model enters the query, where it equals the left column. -/
structure Join where
  left : Column
  right : Column
  deriving DecidableEq, Repr

/-- What a column is compared with. -/
inductive Operand where
  | placeholder
  | column (column : Column)
  | literal (value : Literal)
  deriving DecidableEq, Repr

/-- A condition on the rows of a query. -/
structure Condition where
  left : Column
  op : Comparison
  right : Operand
  deriving DecidableEq, Repr

/-- Whether the right side of a condition is given when the query runs. -/
def Condition.isParameter (condition : Condition) : Bool :=
  condition.right = .placeholder

/-- How many rows a query is about. -/
inductive Cardinality where
  | one
  | many
  deriving DecidableEq, Repr

/-- What a select asks for: all fields of a model, or one field. -/
inductive Projection where
  | model (id : ModelId)
  | field (column : Column)
  deriving DecidableEq, Repr

/-- The model that a projection reads from. -/
def Projection.source : Projection → ModelId
  | model id => id
  | field column => column.model

/-- What a row of a select is: one model, one field, or a named record of several. -/
inductive ResultShape where
  | model (id : ModelId)
  | field (column : Column)
  | record (name : String) (members : List Projection)
  deriving DecidableEq, Repr

/-- Pages of a fixed size in the order of a column. -/
structure Paging where
  column : Column
  size : Nat
  deriving DecidableEq, Repr

/-- A resolved select. -/
structure Select where
  model : ModelId
  projections : List Projection
  joins : List Join
  conditions : List Condition
  cardinality : Cardinality
  paging : Option Paging
  result : ResultShape
  position : Position
  deriving DecidableEq, Repr

/-- A resolved insert. -/
structure Insert where
  model : ModelId
  position : Position
  deriving DecidableEq, Repr

/-- A resolved update; it is about one row. -/
structure Update where
  model : ModelId
  conditions : List Condition
  position : Position
  deriving DecidableEq, Repr

/-- A resolved delete. -/
structure Delete where
  model : ModelId
  joins : List Join
  conditions : List Condition
  cardinality : Cardinality
  position : Position
  deriving DecidableEq, Repr

/-- A resolved count. -/
structure Count where
  model : ModelId
  joins : List Join
  conditions : List Condition
  position : Position
  deriving DecidableEq, Repr

/-- A catalog and its queries. Returning targets are the models whose rows are read back. -/
structure Plan extends Catalog where
  inserts : List Insert := []
  selects : List Select := []
  updates : List Update := []
  deletes : List Delete := []
  counts : List Count := []
  returningTargets : List ModelId := []
  deriving DecidableEq, Repr

/-- The number of queries of all kinds. -/
def Plan.queryCount (plan : Plan) : Nat :=
  plan.inserts.length + plan.selects.length + plan.updates.length + plan.deletes.length +
    plan.counts.length

end Schemata
