import Schemata.Sql.Identifier
import Schemata.Sql.Query

/-!
# Fragments of statements

A statement as it is meant: pieces side by side, which are SQL words, names, literals and
parameters. Its text and the list of its parameters are two readings of the same pieces, so that
here placeholders and parameters cannot come apart. Every statement that is built is the two
readings of one of the fragments at the end.
-/

namespace Schemata.Sql

/-- A piece of a statement. -/
inductive Piece where
  | words (text : String)
  | name (identifier : String)
  | literal (value : Literal)
  | param (param : Param)
  deriving DecidableEq, Repr

/-- Pieces that stand side by side. -/
abbrev Fragment := List Piece

namespace Fragment

/-- The parameters of a fragment, from left to right. -/
def params (fragment : Fragment) : List Param :=
  fragment.filterMap fun piece =>
    match piece with
    | .param param => some param
    | _ => none

/-- The text of a fragment that follows a number of parameters. -/
def write (style : PlaceholderStyle) : Nat → Fragment → String
  | _, [] => ""
  | count, .words text :: rest => text ++ write style count rest
  | count, .name name :: rest => identifier name ++ write style count rest
  | count, .literal value :: rest => value.sql ++ write style count rest
  | count, .param _ :: rest => style.placeholder (count + 1) ++ write style (count + 1) rest

/-- Fragments with words between them. -/
def separated (separator : String) : List Fragment → Fragment
  | [] => []
  | [fragment] => fragment
  | fragment :: others => fragment ++ [.words separator] ++ separated separator others

/-! ## Parameters -/

@[simp]
theorem params_nil : params [] = [] := rfl

@[simp]
theorem params_append (first second : Fragment) :
    params (first ++ second) = params first ++ params second :=
  List.filterMap_append

@[simp]
theorem params_words (text : String) (rest : Fragment) :
    params (.words text :: rest) = params rest := rfl

@[simp]
theorem params_name (name : String) (rest : Fragment) :
    params (.name name :: rest) = params rest := rfl

@[simp]
theorem params_literal (value : Literal) (rest : Fragment) :
    params (.literal value :: rest) = params rest := rfl

@[simp]
theorem params_param (param : Param) (rest : Fragment) :
    params (.param param :: rest) = param :: params rest := rfl

/-- The words between fragments have no parameters. -/
@[simp]
theorem params_separated (separator : String) (fragments : List Fragment) :
    params (separated separator fragments) = fragments.flatMap params := by
  induction fragments with
  | nil => rfl
  | cons first others inductionHypothesis =>
      cases others with
      | nil => simp [separated]
      | cons second others => simp [separated, inductionHypothesis]

/-! ## Texts -/

variable {style : PlaceholderStyle}

/-- The second of two fragments counts on behind the placeholders of the first. -/
theorem write_append (count : Nat) (first second : Fragment) :
    write style count (first ++ second) =
      write style count first ++ write style (count + first.params.length) second := by
  induction first generalizing count with
  | nil => simp [write]
  | cons piece rest inductionHypothesis =>
      cases piece <;> simp [write, inductionHypothesis, String.append_assoc, Nat.add_assoc,
        Nat.add_comm]

/-- A fragment without parameters is written alike behind any number of them. -/
theorem write_of_params_eq_nil {fragment : Fragment} (constant : fragment.params = [])
    (count other : Nat) : write style count fragment = write style other fragment := by
  induction fragment with
  | nil => rfl
  | cons piece rest inductionHypothesis =>
      cases piece with
      | param param => cases constant
      | words text => rw [write, write, inductionHypothesis constant]
      | name name => rw [write, write, inductionHypothesis constant]
      | literal value => rw [write, write, inductionHypothesis constant]

/-- The texts of fragments that are written one after another, behind a number of parameters. -/
def texts (style : PlaceholderStyle) : Nat → List Fragment → List String
  | _, [] => []
  | count, fragment :: others =>
    fragment.write style count :: texts style (count + fragment.params.length) others

@[simp]
theorem isEmpty_texts (count : Nat) (fragments : List Fragment) :
    (texts style count fragments).isEmpty = fragments.isEmpty := by
  cases fragments <;> rfl

/-- Fragments with words between them are written one after another. -/
theorem write_separated (count : Nat) (separator : String) (fragments : List Fragment) :
    write style count (separated separator fragments) =
      separator.intercalate (texts style count fragments) := by
  induction fragments generalizing count with
  | nil => rfl
  | cons first others inductionHypothesis =>
      cases others with
      | nil => simp [separated, texts]
      | cons second others =>
          have shape : separated separator (first :: second :: others) =
              first ++ [.words separator] ++ separated separator (second :: others) := rfl
          rw [shape, write_append, write_append, inductionHypothesis]
          simp [write, texts]

/-- Fragments side by side are written one after another. -/
theorem write_flatten (count : Nat) (fragments : List Fragment) :
    write style count fragments.flatten = String.join (texts style count fragments) := by
  induction fragments generalizing count with
  | nil => rfl
  | cons first others inductionHypothesis =>
      rw [List.flatten_cons, write_append, inductionHypothesis, texts, String.join_cons]

/-- Joined fragments have the parameters of each, in order. -/
theorem params_flatten (fragments : List Fragment) :
    params fragments.flatten = fragments.flatMap params := by
  induction fragments with
  | nil => rfl
  | cons first others inductionHypothesis =>
      rw [List.flatten_cons, params_append, inductionHypothesis, List.flatMap_cons]

/-- Fragments without parameters are written each on its own. -/
theorem texts_of_params_eq_nil (count : Nat) {fragments : List Fragment}
    (constant : ∀ fragment ∈ fragments, fragment.params = []) :
    texts style count fragments = fragments.map (write style count) := by
  induction fragments with
  | nil => rfl
  | cons first others inductionHypothesis =>
      obtain ⟨firstConstant, othersConstant⟩ := List.forall_mem_cons.1 constant
      rw [texts, firstConstant, List.length_nil, Nat.add_zero,
        inductionHypothesis othersConstant, List.map_cons]

/-- Fragments behind others count on behind their placeholders. -/
theorem texts_append (count : Nat) (first second : List Fragment) :
    texts style count (first ++ second) =
      texts style count first ++
        texts style (count + (first.flatMap params).length) second := by
  induction first generalizing count with
  | nil => rfl
  | cons fragment others inductionHypothesis =>
      simp [texts, inductionHypothesis, Nat.add_assoc]

end Fragment

/-- A fragment as a statement on its own. -/
def Statement.ofFragment (dialect : Dialect) (fragment : Fragment) : Statement :=
  ⟨fragment.write dialect.placeholders 0, fragment.params⟩

/-! ## Parts of statements -/

/-- The table of a model. -/
def tableOf (catalog : Catalog) (id : ModelId) : Fragment :=
  [.name (catalog.model id).table]

/-- A column without its table. -/
def bareColumn (catalog : Catalog) (column : Column) : Fragment :=
  [.name (catalog.field column).column]

/-- A column with its table. -/
def qualifiedColumn (catalog : Catalog) (column : Column) : Fragment :=
  tableOf catalog column.model ++ [.words "."] ++ bareColumn catalog column

/-- Columns with their tables and commas between them. -/
def columnList (catalog : Catalog) (columns : List Column) : Fragment :=
  Fragment.separated ", " (columns.map (qualifiedColumn catalog))

/-- The columns that a projection asks for. -/
def projectionColumns (catalog : Catalog) : Projection → List Column
  | .model id => catalog.columns id
  | .field column => [column]

/-- The primary key of a model; a key of several columns stands between parentheses. -/
def primaryKey (catalog : Catalog) (id : ModelId) : Fragment :=
  let key := (catalog.model id).primaryKey
  let columns := columnList catalog (key.map fun field => ⟨id, field⟩)
  if key.length = 1 then columns else [.words "( "] ++ columns ++ [.words " )"]

/-- The clause of a join. -/
def joinClause (catalog : Catalog) (join : Join) : Fragment :=
  [.words " LEFT JOIN "] ++ tableOf catalog join.right.model ++ [.words " ON "] ++
    qualifiedColumn catalog join.right ++ [.words " = "] ++ qualifiedColumn catalog join.left

/-- The clauses of joins. -/
def joinClauses (catalog : Catalog) (joins : List Join) : Fragment :=
  joins.flatMap (joinClause catalog)

/-- A condition. -/
def conditionText (catalog : Catalog) (condition : Condition) : Fragment :=
  let left := qualifiedColumn catalog condition.left
  let op := [.words (" " ++ condition.op.symbol ++ " ")]
  match condition.right with
  | .placeholder => left ++ op ++ [.param (.filter condition.left)]
  | .column other => left ++ op ++ qualifiedColumn catalog other
  | .literal .null =>
    left ++ [.words (if condition.op = .eq then " IS NULL" else " IS NOT NULL")]
  | .literal value => left ++ op ++ [.literal value]

/-- The condition that a page starts after its cursor. -/
def cursorText (catalog : Catalog) (column : Column) : Fragment :=
  qualifiedColumn catalog column ++ [.words " > ", .param (.cursor column)]

/-- The clause of conditions that all hold; there is none without a condition. -/
def whereClause (conditions : List Fragment) : Fragment :=
  if conditions.isEmpty then [] else [.words " WHERE "] ++ Fragment.separated " AND " conditions

/-- The clause of the conditions of a query. -/
def filterClause (catalog : Catalog) (conditions : List Condition) : Fragment :=
  whereClause (conditions.map (conditionText catalog))

/-- The tables, joins and conditions of a query. -/
def sourceClause (catalog : Catalog) (id : ModelId) (joins : List Join)
    (conditions : List Condition) : Fragment :=
  [.words "FROM "] ++ tableOf catalog id ++ joinClauses catalog joins ++
    filterClause catalog conditions

/-- The clause that returns the written row, in the dialects that have it. -/
def returningClause (dialect : Dialect) (catalog : Catalog) (id : ModelId) : Fragment :=
  if dialect.returning then
    [.words " RETURNING "] ++
      Fragment.separated ", " ((catalog.columns id).map (bareColumn catalog))
  else
    []

/-! ## Selects -/

/-- The columns of a select, projection by projection. -/
def selectList (catalog : Catalog) (select : Select) : Fragment :=
  Fragment.separated ", " (select.projections.map fun projection =>
    columnList catalog (projectionColumns catalog projection))

/-! ## Writes -/

/-- The current time, as the database tells it. -/
def currentTime : Fragment := [.words "CURRENT_TIMESTAMP"]

/-- The value that an insert gives a column. -/
def insertedValue (catalog : Catalog) (column : Column) : Fragment :=
  if (catalog.field column).autoinsert then currentTime else [.param (.value column)]

/-- The columns and values of an insert; without any, the row has its defaults. -/
def insertedValues (catalog : Catalog) (columns : List Column) : Fragment :=
  if columns.isEmpty then
    [.words " DEFAULT VALUES"]
  else
    [.words " ( "] ++ Fragment.separated ", " (columns.map (bareColumn catalog)) ++
      [.words " ) VALUES ( "] ++ Fragment.separated ", " (columns.map (insertedValue catalog)) ++
      [.words " )"]

/-- The assignment of an update to a column. -/
def assignment (catalog : Catalog) (column : Column) : Fragment :=
  bareColumn catalog column ++ [.words " = "] ++
    (if (catalog.field column).updatable then [.param (.value column)] else currentTime)

/-! ## Parts without parameters -/

section Params

variable (catalog : Catalog)

@[simp]
theorem params_tableOf (id : ModelId) : Fragment.params (tableOf catalog id) = [] := rfl

@[simp]
theorem params_bareColumn (column : Column) :
    Fragment.params (bareColumn catalog column) = [] := rfl

@[simp]
theorem params_qualifiedColumn (column : Column) :
    Fragment.params (qualifiedColumn catalog column) = [] := rfl

@[simp]
theorem params_columnList (columns : List Column) :
    Fragment.params (columnList catalog columns) = [] := by
  simp [columnList, List.flatMap_map]

@[simp]
theorem params_primaryKey (id : ModelId) : Fragment.params (primaryKey catalog id) = [] := by
  unfold primaryKey
  dsimp only
  split <;> simp

@[simp]
theorem params_joinClauses (joins : List Join) :
    Fragment.params (joinClauses catalog joins) = [] := by
  induction joins with
  | nil => rfl
  | cons join joins inductionHypothesis =>
      rw [joinClauses, List.flatMap_cons, Fragment.params_append]
      exact inductionHypothesis

@[simp]
theorem params_returningClause (dialect : Dialect) (id : ModelId) :
    Fragment.params (returningClause dialect catalog id) = [] := by
  unfold returningClause
  split
  · simp [List.flatMap_map]
  · rfl

@[simp]
theorem params_selectList (select : Select) :
    Fragment.params (selectList catalog select) = [] := by
  simp [selectList, List.flatMap_map]

end Params

/-! ## Texts of parts -/

/-- The name of a column with its table. -/
def columnName (catalog : Catalog) (column : Column) : String :=
  identifier (catalog.model column.model).table ++ "." ++ identifier (catalog.field column).column

section Texts

variable (catalog : Catalog) (style : PlaceholderStyle) (count : Nat)

@[simp]
theorem write_tableOf (id : ModelId) :
    (tableOf catalog id).write style count = identifier (catalog.model id).table := by
  simp [tableOf, Fragment.write]

@[simp]
theorem write_bareColumn (column : Column) :
    (bareColumn catalog column).write style count = identifier (catalog.field column).column := by
  simp [bareColumn, Fragment.write]

@[simp]
theorem write_qualifiedColumn (column : Column) :
    (qualifiedColumn catalog column).write style count = columnName catalog column := by
  simp [qualifiedColumn, tableOf, bareColumn, Fragment.write, columnName, String.append_assoc]

@[simp]
theorem write_columnList (columns : List Column) :
    (columnList catalog columns).write style count =
      ", ".intercalate (columns.map (columnName catalog)) := by
  rw [columnList, Fragment.write_separated, Fragment.texts_of_params_eq_nil count (by simp)]
  simp [List.map_map, Function.comp_def]

@[simp]
theorem texts_bareColumns (columns : List Column) :
    Fragment.texts style count (columns.map (bareColumn catalog)) =
      columns.map fun column => identifier (catalog.field column).column := by
  rw [Fragment.texts_of_params_eq_nil count (by simp), List.map_map]
  simp [Function.comp_def]

@[simp]
theorem write_returningClause (dialect : Dialect) (id : ModelId) :
    (returningClause dialect catalog id).write style count =
      if dialect.returning then " RETURNING " ++ ", ".intercalate
        ((catalog.columns id).map fun column => identifier (catalog.field column).column)
      else "" := by
  unfold returningClause
  split
  · simp [Fragment.write, Fragment.write_separated]
  · rfl

end Texts

@[simp]
theorem flatMap_params_bareColumns (catalog : Catalog) (columns : List Column) :
    (columns.map (bareColumn catalog)).flatMap Fragment.params = [] := by
  simp [List.flatMap_map]

@[simp]
theorem params_whereClause (conditions : List Fragment) :
    Fragment.params (whereClause conditions) = conditions.flatMap Fragment.params := by
  unfold whereClause
  split
  next none => simp [List.isEmpty_iff.1 none]
  next => simp

/-- A filter is written as its conditions, and not at all without them. -/
theorem write_whereClause (style : PlaceholderStyle) (count : Nat) (conditions : List Fragment) :
    Fragment.write style count (whereClause conditions) =
      if conditions.isEmpty then ""
      else " WHERE " ++ " AND ".intercalate (Fragment.texts style count conditions) := by
  unfold whereClause
  split
  · rfl
  · rw [Fragment.write_append, Fragment.write_separated]
    rfl

/-! ## Whole statements -/

/-- All rows of a select. -/
def selectFragment (catalog : Catalog) (select : Select) : Fragment :=
  [.words "SELECT "] ++ selectList catalog select ++ [.words " "] ++
    sourceClause catalog select.model select.joins select.conditions

/-- The next page of a select. -/
def pageFragment (dialect : Dialect) (catalog : Catalog) (select : Select) (paging : Paging) :
    Fragment :=
  [.words "SELECT "] ++ selectList catalog select ++ [.words " FROM "] ++
    tableOf catalog select.model ++ joinClauses catalog select.joins ++
    whereClause (select.conditions.map (conditionText catalog) ++
      [cursorText catalog paging.column]) ++
    [.words " ORDER BY "] ++ qualifiedColumn catalog paging.column ++
    [.words (" " ++ dialect.limits.clause paging.size)]

/-- An insert. -/
def insertFragment (dialect : Dialect) (catalog : Catalog) (insert : Insert) : Fragment :=
  [.words "INSERT INTO "] ++ tableOf catalog insert.model ++
    insertedValues catalog
      ((catalog.model insert.model).insertColumns.map (Column.mk insert.model)) ++
    returningClause dialect catalog insert.model

/-- An update. -/
def updateFragment (dialect : Dialect) (catalog : Catalog) (update : Update) : Fragment :=
  [.words "UPDATE "] ++ tableOf catalog update.model ++ [.words " SET "] ++
    Fragment.separated ", "
      (((catalog.model update.model).updateColumns.map (Column.mk update.model)).map
        (assignment catalog)) ++
    filterClause catalog update.conditions ++ returningClause dialect catalog update.model

/-- A delete. -/
def deleteFragment (catalog : Catalog) (delete : Delete) : Fragment :=
  let table := tableOf catalog delete.model
  if delete.joins.isEmpty then
    [.words "DELETE FROM "] ++ table ++ filterClause catalog delete.conditions
  else
    let key := primaryKey catalog delete.model
    [.words "DELETE FROM "] ++ table ++ [.words " WHERE "] ++ key ++
      [.words " IN ( SELECT "] ++ key ++ [.words " "] ++
      sourceClause catalog delete.model delete.joins delete.conditions ++ [.words " )"]

/-- The number of rows. -/
def countFragment (catalog : Catalog) (count : Count) : Fragment :=
  [.words "SELECT COUNT(*) "] ++ sourceClause catalog count.model count.joins count.conditions

/-- Whether there is a row. -/
def hasFragment (catalog : Catalog) (count : Count) : Fragment :=
  [.words "SELECT EXISTS( SELECT 1 "] ++
    sourceClause catalog count.model count.joins count.conditions ++ [.words " )"]

/-- A row by its identity, which a column holds. -/
def getLastFragment (catalog : Catalog) (id : ModelId) (column : String) : Fragment :=
  [.words "SELECT "] ++ columnList catalog (catalog.columns id) ++ [.words " FROM "] ++
    tableOf catalog id ++ [.words (" WHERE " ++ column ++ " = "), .param .rowId]

/-- The identity of the row that an update is about. -/
def rowLookupFragment (catalog : Catalog) (update : Update) (column : String) : Fragment :=
  [.words ("SELECT " ++ column ++ " FROM ")] ++ tableOf catalog update.model ++
    filterClause catalog update.conditions

end Schemata.Sql
