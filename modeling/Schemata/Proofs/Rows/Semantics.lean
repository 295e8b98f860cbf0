import Mathlib.Order.Lattice
import Schemata.Plan

/-!
# What queries mean for the rows of a database

Queries are read here as questions about rows, apart from any text they are written in.
A database holds rows of values for every model. A query starts from the rows of its model,
joins the rows of other models to them, and keeps what meets all of its conditions. A
join is never lost: where no row matches, all columns of the joined model hold nothing.
A comparison with nothing is never true; only the conditions that ask for null are about it.

The values are those of an arbitrary linear order. How a literal is stored, and what a
placeholder stands for, is given from outside by `Arguments`.
-/

namespace Schemata

variable {V : Type}

/-! ## Databases -/

/-- A row of a table: what each of its fields holds, a value or nothing. -/
abbrev Row (V : Type) := FieldId → Option V

/-- The rows of every model. -/
abbrev Database (V : Type) := ModelId → List (Row V)

namespace Row

/-- The row that holds some cells, in order. -/
def ofCells (cells : List (Option V)) : Row V :=
  fun field => cells.getD field none

/-- Two rows hold the same in all fields of a key. -/
def SameOn (key : List FieldId) (first second : Row V) : Prop :=
  ∀ field ∈ key, first field = second field

/-- A row holds a value in every field of a key. -/
def PresentOn (key : List FieldId) (row : Row V) : Prop :=
  ∀ field ∈ key, row field ≠ none

instance [DecidableEq V] (key : List FieldId) (first second : Row V) :
    Decidable (SameOn key first second) :=
  inferInstanceAs (Decidable (∀ field ∈ key, first field = second field))

instance [DecidableEq V] (key : List FieldId) (row : Row V) : Decidable (PresentOn key row) :=
  inferInstanceAs (Decidable (∀ field ∈ key, row field ≠ none))

end Row

/--
A database that keeps the keys of a catalog: primary keys are present and unique, other
keys are unique among the rows in which they are present.
-/
structure Database.Keyed (catalog : Catalog) (database : Database V) : Prop where
  primary_present : ∀ id < catalog.models.length, ∀ row ∈ database id,
    row.PresentOn (catalog.model id).primaryKey
  primary_unique : ∀ id < catalog.models.length, (database id).Pairwise fun first second =>
    ¬ Row.SameOn (catalog.model id).primaryKey first second
  unique : ∀ id < catalog.models.length, ∀ key ∈ (catalog.model id).unique,
    (database id).Pairwise fun first second =>
      first.PresentOn key → second.PresentOn key → ¬ Row.SameOn key first second

/-- Whether a database keeps the keys of a catalog can be computed from its rows. -/
instance [DecidableEq V] (catalog : Catalog) (database : Database V) :
    Decidable (database.Keyed catalog) :=
  decidable_of_iff
    ((∀ id < catalog.models.length, ∀ row ∈ database id,
      row.PresentOn (catalog.model id).primaryKey) ∧
    (∀ id < catalog.models.length, (database id).Pairwise fun first second =>
      ¬ Row.SameOn (catalog.model id).primaryKey first second) ∧
    (∀ id < catalog.models.length, ∀ key ∈ (catalog.model id).unique,
      (database id).Pairwise fun first second =>
        first.PresentOn key → second.PresentOn key → ¬ Row.SameOn key first second))
    ⟨fun ⟨present, primary, unique⟩ => ⟨present, primary, unique⟩,
      fun keyed => ⟨keyed.primary_present, keyed.primary_unique, keyed.unique⟩⟩

/--
A database that meets the definitions of a catalog's tables: besides its keys it keeps a value in
every field that may not be null, and every reference leads to a row.
-/
structure Database.Conforms (catalog : Catalog) (database : Database V) : Prop
    extends database.Keyed catalog where
  present : ∀ id < catalog.models.length, ∀ row ∈ database id,
    ∀ field < (catalog.model id).fields.length,
      ((catalog.model id).field field).nullable = false → row field ≠ none
  references : ∀ relation ∈ catalog.relations, ∀ row ∈ database relation.left.model,
    row relation.left.field ≠ none →
      ∃ target ∈ database relation.right.model,
        target relation.right.field = row relation.left.field

/-- Whether a database meets the definitions of a catalog can be computed from its rows. -/
instance [DecidableEq V] (catalog : Catalog) (database : Database V) :
    Decidable (database.Conforms catalog) :=
  decidable_of_iff
    (database.Keyed catalog ∧
    (∀ id < catalog.models.length, ∀ row ∈ database id,
      ∀ field < (catalog.model id).fields.length,
        ((catalog.model id).field field).nullable = false → row field ≠ none) ∧
    (∀ relation ∈ catalog.relations, ∀ row ∈ database relation.left.model,
      row relation.left.field ≠ none →
        ∃ target ∈ database relation.right.model,
          target relation.right.field = row relation.left.field))
    ⟨fun ⟨keyed, present, references⟩ => ⟨keyed, present, references⟩,
      fun conforms => ⟨conforms.toKeyed, conforms.present, conforms.references⟩⟩

/-! ## Conditions -/

/-- What a query is run with: how literals are stored, and the value of each placeholder. -/
structure Arguments (V : Type) where
  literal : Literal → V
  /-- What the placeholder in the condition at some place stands for. -/
  placeholder : Nat → Option V

/-- What every column of a query holds; columns of models that are not joined hold nothing. -/
abbrev JoinedRow (V : Type) := Column → Option V

section Conditions

variable [LinearOrder V]

/-- Whether two values compare as an operator says. -/
def Comparison.holds : Comparison → V → V → Bool
  | .eq, left, right => left = right
  | .ne, left, right => left ≠ right
  | .lt, left, right => left < right
  | .le, left, right => left ≤ right
  | .gt, left, right => right < left
  | .ge, left, right => right ≤ left

/-- Whether two columns compare as an operator says; nothing compares with nothing. -/
def Comparison.holdsOf (op : Comparison) : Option V → Option V → Bool
  | some left, some right => op.holds left right
  | _, _ => false

/-- Whether a row meets the condition at some place. Null asks whether a column holds nothing. -/
def Condition.holds (arguments : Arguments V) (place : Nat) (row : JoinedRow V)
    (condition : Condition) : Bool :=
  match condition.right with
  | .placeholder => condition.op.holdsOf (row condition.left) (arguments.placeholder place)
  | .column other => condition.op.holdsOf (row condition.left) (row other)
  | .literal .null =>
    if condition.op = .eq then (row condition.left).isNone else (row condition.left).isSome
  | .literal value => condition.op.holdsOf (row condition.left) (some (arguments.literal value))

/-- Whether a row meets all conditions. -/
def meetsAll (arguments : Arguments V) (conditions : List Condition) (row : JoinedRow V) : Bool :=
  conditions.zipIdx.all fun (condition, place) => condition.holds arguments place row

/-! ## Joins -/

/-- A row of a query's own model, before anything is joined. -/
def JoinedRow.start (base : ModelId) (row : Row V) : JoinedRow V :=
  fun column => if column.model = base then row column.field else none

/-- A joined row with a row of one more model. -/
def JoinedRow.put (joined : JoinedRow V) (model : ModelId) (row : Row V) : JoinedRow V :=
  fun column => if column.model = model then row column.field else joined column

/-- The rows that a join finds for a joined row: those where the two columns are equal. -/
def partners (database : Database V) (join : Join) (joined : JoinedRow V) : List (Row V) :=
  (database join.right.model).filter fun row =>
    Comparison.eq.holdsOf (row join.right.field) (joined join.left)

/-- Join one model to a row; without any partner its columns hold nothing. -/
def leftJoin (database : Database V) (join : Join) (joined : JoinedRow V) : List (JoinedRow V) :=
  match partners database join joined with
  | [] => [joined.put join.right.model fun _ => none]
  | rows => rows.map (joined.put join.right.model)

/-- Join models to a row, one after another. -/
def leftJoins (database : Database V) : List Join → JoinedRow V → List (JoinedRow V)
  | [], joined => [joined]
  | join :: joins, joined => (leftJoin database join joined).flatMap (leftJoins database joins)

/-! ## Queries -/

/-- All joined rows of a query that meet its conditions. -/
def queryRows (database : Database V) (arguments : Arguments V) (base : ModelId)
    (joins : List Join) (conditions : List Condition) : List (JoinedRow V) :=
  ((database base).flatMap fun row => leftJoins database joins (.start base row)).filter
    (meetsAll arguments conditions)

/-- The rows of a query's own model for which some joined row meets the conditions. -/
def matchedRows (database : Database V) (arguments : Arguments V) (base : ModelId)
    (joins : List Join) (conditions : List Condition) : List (Row V) :=
  (database base).filter fun row =>
    (leftJoins database joins (.start base row)).any (meetsAll arguments conditions)

/-- What a projection reads from a joined row. -/
def Projection.cells (catalog : Catalog) (joined : JoinedRow V) : Projection → List (Option V)
  | .model id => (catalog.columns id).map joined
  | .field column => [joined column]

/-- The rows that a select yields, each a list of what its columns hold. -/
def Select.yields (select : Select) (catalog : Catalog) (database : Database V)
    (arguments : Arguments V) : List (List (Option V)) :=
  (queryRows database arguments select.model select.joins select.conditions).map fun joined =>
    select.projections.flatMap (Projection.cells catalog joined)

/-- The rows that a delete removes from its model. -/
def Delete.removes (delete : Delete) (database : Database V) (arguments : Arguments V) :
    List (Row V) :=
  matchedRows database arguments delete.model delete.joins delete.conditions

/-- The rows of its model that an update touches; it joins nothing. -/
def Update.touches (update : Update) (database : Database V) (arguments : Arguments V) :
    List (Row V) :=
  matchedRows database arguments update.model [] update.conditions

end Conditions

end Schemata
