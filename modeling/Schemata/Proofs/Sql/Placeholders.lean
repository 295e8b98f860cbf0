import Schemata.Proofs.Analysis.Resolution
import Schemata.Proofs.Sql.Building
import Schemata.Proofs.Sql.Spacing

/-!
# The placeholders of statements and their parameters

A database pairs the placeholders it reads in the text of a statement with the list of its
parameters. Placeholders are numbered as their parameters are bound, and that happens while the
parts of a statement are built, before they are put together. `statements_bind` says that text and
list agree for all nine statements: the text has exactly the placeholders of the listed parameters,
in order, whatever names and texts a schema brings into it, and the list is what the query asks for.
What is built is the reading of one fragment (`insertStatement_eq` and its like). The fragment is
followed part by part, each being open, closed or a clause.
-/

namespace Schemata.Sql

/-! ## Parts of statements -/

section Parts

open Fragment

variable (style : PlaceholderStyle) (catalog : Catalog)

/-- A dot keeps a column apart from its table. -/
theorem closed_qualifiedColumn (column : Column) :
    Closed style (qualifiedColumn catalog column) :=
  ((closed_name _).words "." (by cases style <;> decide)).append (closed_name _)

/-- Commas keep columns apart. -/
theorem closed_columnList (columns : List Column) : Closed style (columnList catalog columns) := by
  refine closed_separated (by cases style <;> decide) fun fragment member => ?_
  obtain ⟨column, -, rfl⟩ := List.mem_map.1 member
  exact closed_qualifiedColumn style catalog column

/-- Commas keep columns apart that stand without their table. -/
theorem closed_bareColumns (columns : List Column) :
    Closed style (separated ", " (columns.map (bareColumn catalog))) := by
  refine closed_separated (by cases style <;> decide) fun fragment member => ?_
  obtain ⟨column, -, rfl⟩ := List.mem_map.1 member
  exact closed_name _

/-- The columns of a key are kept apart, between parentheses or on their own. -/
theorem closed_primaryKey (id : ModelId) : Closed style (primaryKey catalog id) := by
  unfold primaryKey
  dsimp only
  split
  · exact closed_columnList style catalog _
  · have opening : Open style [.words "( "] := open_words (by cases style <;> decide)
    have inside := opening.append (closed_columnList style catalog
      ((catalog.model id).primaryKey.map fun field => ⟨id, field⟩))
    exact (inside.words " )" (by cases style <;> decide)).closed

/-- Every join starts with words of its own. -/
theorem clause_joinClauses (joins : List Join) : Clause style (joinClauses catalog joins) := by
  induction joins with
  | nil => exact clause_nil
  | cons join joins inductionHypothesis =>
      have table : Clause style ([.words " LEFT JOIN "] ++ tableOf catalog join.right.model) :=
        (closed_name _).clause (by cases style <;> decide)
      have right : Clause style ([.words " ON "] ++ qualifiedColumn catalog join.right) :=
        (closed_qualifiedColumn style catalog join.right).clause (by cases style <;> decide)
      have left : Clause style ([.words " = "] ++ qualifiedColumn catalog join.left) :=
        (closed_qualifiedColumn style catalog join.left).clause (by cases style <;> decide)
      have first : Clause style (joinClause catalog join) := by
        simpa [joinClause] using (table.append right).append left
      rw [joinClauses, List.flatMap_cons]
      exact first.append inductionHypothesis

/-- A comparison keeps the two sides of a condition apart. -/
theorem closed_conditionText (condition : Condition) :
    Closed style (conditionText catalog condition) := by
  have left := closed_qualifiedColumn style catalog condition.left
  have compared : Open style
      (qualifiedColumn catalog condition.left ++ [.words (" " ++ condition.op.symbol ++ " ")]) :=
    left.words _ (by cases style <;> cases condition.op <;> decide)
  unfold conditionText
  dsimp only
  split
  · exact compared.append (closed_param _)
  · exact compared.append (closed_qualifiedColumn style catalog _)
  · refine (left.words _ ?_).closed
    split <;> cases style <;> decide
  · exact compared.append (closed_literal _)

/-- Conditions that are closed make a clause, and so does none. -/
theorem clause_whereClause {conditions : List Fragment}
    (closed : ∀ condition ∈ conditions, Closed style condition) :
    Clause style (whereClause conditions) := by
  unfold whereClause
  split
  · exact clause_nil
  · have listed : Closed style (separated " AND " conditions) :=
      closed_separated (by cases style <;> decide) closed
    exact listed.clause (by cases style <;> decide)

/-- Each of some conditions is kept apart from what follows it. -/
theorem closed_conditionTexts (conditions : List Condition) :
    ∀ fragment ∈ conditions.map (conditionText catalog), Closed style fragment := by
  intro fragment member
  obtain ⟨condition, -, rfl⟩ := List.mem_map.1 member
  exact closed_conditionText style catalog condition

/-- Conditions start with words of their own, or there are none. -/
theorem clause_filterClause (conditions : List Condition) :
    Clause style (filterClause catalog conditions) :=
  clause_whereClause style (closed_conditionTexts style catalog conditions)

/-- The rows of a query start with words of their own. -/
theorem clause_sourceClause (id : ModelId) (joins : List Join) (conditions : List Condition) :
    Clause style (sourceClause catalog id joins conditions) := by
  have table : Clause style ([.words "FROM "] ++ tableOf catalog id) :=
    (closed_name _).clause (by cases style <;> decide)
  exact (table.append (clause_joinClauses style catalog joins)).append
    (clause_filterClause style catalog conditions)

/-- What is returned starts with words of its own, or nothing is. -/
theorem clause_returningClause (dialect : Dialect) (id : ModelId) :
    Clause style (returningClause dialect catalog id) := by
  unfold returningClause
  split
  · exact (closed_bareColumns style catalog _).clause (by cases style <;> decide)
  · exact clause_nil

/-- Commas keep apart what a select asks for. -/
theorem closed_selectList (select : Select) : Closed style (selectList catalog select) := by
  refine closed_separated (by cases style <;> decide) fun fragment member => ?_
  obtain ⟨projection, -, rfl⟩ := List.mem_map.1 member
  exact closed_columnList style catalog _

/-- The values of an insert start with words of their own, or there are none. -/
theorem clause_insertedValues (columns : List Column) :
    Clause style (insertedValues catalog columns) := by
  unfold insertedValues
  split
  · exact clause_nil.closed.clause (by cases style <;> decide)
  · have names : Clause style
        ([.words " ( "] ++ separated ", " (columns.map (bareColumn catalog))) :=
      (closed_bareColumns style catalog columns).clause (by cases style <;> decide)
    have values : Closed style (separated ", " (columns.map (insertedValue catalog))) := by
      refine closed_separated (by cases style <;> decide) fun fragment member => ?_
      obtain ⟨column, -, rfl⟩ := List.mem_map.1 member
      unfold insertedValue
      split
      · exact (open_words (by cases style <;> decide)).closed
      · exact closed_param _
    have listed : Clause style
        ([.words " ) VALUES ( "] ++ separated ", " (columns.map (insertedValue catalog))) :=
      values.clause (by cases style <;> decide)
    have ending : Clause style [.words " )"] :=
      clause_nil.closed.clause (by cases style <;> decide)
    simpa using (names.append listed).append ending

/-- A sign keeps a column apart from the value that it is given. -/
theorem closed_assignment (column : Column) : Closed style (assignment catalog column) := by
  have target : Open style (bareColumn catalog column ++ [.words " = "]) :=
    (closed_name _).words _ (by cases style <;> decide)
  unfold assignment
  split
  · exact target.append (closed_param _)
  · exact target.append (open_words (by cases style <;> decide)).closed

end Parts

/-! ## Parameters of statements -/

/-- The parameters of conditions: one for each condition with a placeholder, in order. -/
def filterParams (conditions : List Condition) : List Param :=
  (conditions.filter Condition.isParameter).map fun condition => .filter condition.left

/-- The parameters for the values of some fields of a model, in order. -/
def valueParams (id : ModelId) (fields : List FieldId) : List Param :=
  fields.map fun field => .value ⟨id, field⟩

section Params

variable (catalog : Catalog)

@[simp]
theorem params_conditionText (condition : Condition) :
    Fragment.params (conditionText catalog condition) = filterParams [condition] := by
  obtain ⟨left, op, right⟩ := condition
  cases right with
  | placeholder => simp [conditionText, filterParams, Condition.isParameter]
  | column other => simp [conditionText, filterParams, Condition.isParameter]
  | literal value => cases value <;> simp [conditionText, filterParams, Condition.isParameter]

/-- The parameters of conditions are those of each of them, in order. -/
theorem flatMap_params_conditionText (conditions : List Condition) :
    (conditions.map (conditionText catalog)).flatMap Fragment.params = filterParams conditions := by
  induction conditions with
  | nil => rfl
  | cons condition conditions inductionHypothesis =>
      rw [List.map_cons, List.flatMap_cons, inductionHypothesis, params_conditionText, filterParams,
        filterParams, filterParams, ← List.map_append, ← List.filter_append, List.singleton_append]

@[simp]
theorem params_filterClause (conditions : List Condition) :
    Fragment.params (filterClause catalog conditions) = filterParams conditions := by
  rw [filterClause, params_whereClause, flatMap_params_conditionText]

@[simp]
theorem params_sourceClause (id : ModelId) (joins : List Join) (conditions : List Condition) :
    Fragment.params (sourceClause catalog id joins conditions) = filterParams conditions := by
  simp [sourceClause]

/-- Of the columns that a statement writes, those with a given value have a parameter. -/
theorem flatMap_params_written (write : Column → Fragment) (given : Field → Bool)
    (written : ∀ column, (write column).params =
      if given (catalog.field column) then [.value column] else [])
    (id : ModelId) (property : Field → Bool) :
    (((catalog.model id).fieldsWhere property).map (Column.mk id)).flatMap
        (fun column => (write column).params) =
      valueParams id ((catalog.model id).fieldsWhere fun field =>
        property field && given field) := by
  simp only [Model.fieldsWhere]
  induction (catalog.model id).fieldIds with
  | nil => rfl
  | cons field fields inductionHypothesis =>
      have same : catalog.field ⟨id, field⟩ = (catalog.model id).field field := rfl
      by_cases isWritten : property ((catalog.model id).field field) = true
      · by_cases isGiven : given ((catalog.model id).field field) = true
        · simpa [isWritten, isGiven, written, same, valueParams] using inductionHypothesis
        · simpa [isWritten, isGiven, written, same, valueParams] using inductionHypothesis
      · simpa [isWritten] using inductionHypothesis

/-- An insert is given the values that are neither counted nor stamped. -/
theorem params_insertedValues (id : ModelId) :
    Fragment.params (insertedValues catalog
      ((catalog.model id).insertColumns.map (Column.mk id))) =
      valueParams id (catalog.model id).insertable := by
  have values := flatMap_params_written catalog (insertedValue catalog)
    (fun field => !field.autoinsert)
    (by intro column; unfold insertedValue; cases (catalog.field column).autoinsert <;> rfl)
    id (fun field => !field.autoincrement)
  change ((catalog.model id).insertColumns.map (Column.mk id)).flatMap _ =
    valueParams id (catalog.model id).insertable at values
  rw [← values, insertedValues]
  split
  next none => simp [List.isEmpty_iff.1 none]
  next => simp [List.flatMap_map]

/-- An update is given the values that may be written. -/
theorem params_assignments (id : ModelId) :
    Fragment.params (Fragment.separated ", "
      (((catalog.model id).updateColumns.map (Column.mk id)).map (assignment catalog))) =
      valueParams id (catalog.model id).updatable := by
  have values := flatMap_params_written catalog (assignment catalog)
    (fun field => field.updatable)
    (by intro column; unfold assignment; cases (catalog.field column).updatable <;> rfl)
    id (fun field => field.updatable || field.autoupdate)
  have given : ∀ field : Field,
      ((field.updatable || field.autoupdate) && field.updatable) = field.updatable := by
    intro field
    cases field.updatable <;> simp
  simp only [given] at values
  rw [Fragment.params_separated, List.flatMap_map]
  exact values

end Params

/-! ## Statements -/

/--
A statement binds some parameters: its list names them, and its text has their placeholders, in
order and outside of quotes.
-/
structure Statement.Binds (style : PlaceholderStyle) (params : List Param)
    (statement : Statement) : Prop where
  listed : statement.params = params
  placeholders : placeholdersIn style statement.sql.toList =
    numberedPlaceholders style 0 params.length

/-- A closed fragment binds its parameters. -/
theorem Statement.binds_ofFragment {dialect : Dialect} {fragment : Fragment} {params : List Param}
    (closed : Fragment.Closed dialect.placeholders fragment) (same : fragment.params = params) :
    (Statement.ofFragment dialect fragment).Binds dialect.placeholders params :=
  ⟨same, same ▸ closed.spaced.placeholdersIn_write 0⟩

section Statements

open Fragment

variable (dialect : Dialect) (catalog : Catalog)

/-- An insert binds the values that it is given. -/
theorem insertStatement_binds (insert : Insert) :
    (insertStatement dialect catalog insert).Binds dialect.placeholders
      (valueParams insert.model (catalog.model insert.model).insertable) := by
  rw [insertStatement_eq, insertFragment]
  refine Statement.binds_ofFragment ?_ ?_
  · have target : Closed dialect.placeholders
        ([.words "INSERT INTO "] ++ tableOf catalog insert.model) :=
      (open_words (by cases dialect.placeholders <;> decide)).append (closed_name _)
    exact (target.append (clause_insertedValues _ catalog _)).append
      (clause_returningClause _ catalog dialect _)
  · simp [params_insertedValues]

/-- A select binds what its conditions compare with. -/
theorem selectAll_binds (select : Select) :
    (selectAll dialect catalog select).Binds dialect.placeholders
      (filterParams select.conditions) := by
  rw [selectAll_eq, selectFragment]
  refine Statement.binds_ofFragment ?_ (by simp)
  have columns : Closed dialect.placeholders ([.words "SELECT "] ++ selectList catalog select) :=
    (open_words (by cases dialect.placeholders <;> decide)).append (closed_selectList _ catalog _)
  exact (columns.words " " (by cases dialect.placeholders <;> decide)).append
    (clause_sourceClause _ catalog _ _ _).closed

/-- The clause that limits rows is quiet, and starts apart once a blank stands before it. -/
theorem joint_limits (style : PlaceholderStyle) (limits : LimitStyle) (rows : Nat) :
    Joint style (" " ++ limits.clause rows) := by
  have starts : ∀ text : String, (" " ++ text).toList = ' ' :: text.toList := by
    intro text
    simp
  refine ⟨?_, ?_, ?_⟩
  · intro c member
    have digits := quiet_toString style rows c
    have words : ∀ text ∈ [" ", "LIMIT ", "FETCH FIRST ", " ROWS ONLY"], Quiet style text := by
      cases style <;> decide
    cases limits with
    | limit =>
        simp only [LimitStyle.clause, String.toList_append, List.mem_append] at member
        rcases member with blank | word | digit
        · exact words " " (by simp) c blank
        · exact words "LIMIT " (by simp) c word
        · exact digits digit
    | fetchFirst =>
        simp only [LimitStyle.clause, String.toList_append, List.mem_append] at member
        rcases member with blank | (word | digit) | word
        · exact words " " (by simp) c blank
        · exact words "FETCH FIRST " (by simp) c word
        · exact digits digit
        · exact words " ROWS ONLY" (by simp) c word
  · intro empty
    have none := starts (limits.clause rows)
    simp [empty] at none
  · rw [starts]
    simp [Breaks]

/-- A page binds what its conditions compare with, and then its cursor. -/
theorem selectPage_binds (select : Select) (paging : Paging) :
    (selectPage dialect catalog select paging).Binds dialect.placeholders
      (filterParams select.conditions ++ [.cursor paging.column]) := by
  have cursor : Closed dialect.placeholders (cursorText catalog paging.column) := by
    have compared : Open dialect.placeholders
        (qualifiedColumn catalog paging.column ++ [.words " > "]) :=
      (closed_qualifiedColumn _ catalog _).words _ (by cases dialect.placeholders <;> decide)
    simpa [cursorText] using compared.append (closed_param (.cursor paging.column))
  have conditions : Clause dialect.placeholders
      (whereClause (select.conditions.map (conditionText catalog) ++
        [cursorText catalog paging.column])) := by
    refine clause_whereClause _ fun fragment member => ?_
    rcases List.mem_append.1 member with early | last
    · exact closed_conditionTexts _ catalog _ fragment early
    · exact List.mem_singleton.1 last ▸ cursor
  rw [selectPage_eq, pageFragment]
  refine Statement.binds_ofFragment ?_ ?_
  · have columns : Closed dialect.placeholders ([.words "SELECT "] ++ selectList catalog select) :=
      (open_words (by cases dialect.placeholders <;> decide)).append (closed_selectList _ catalog _)
    have table := (columns.words " FROM " (by cases dialect.placeholders <;> decide)).append
      (closed_name (catalog.model select.model).table)
    have filtered := (table.append (clause_joinClauses _ catalog select.joins)).append conditions
    have ordered := (filtered.words " ORDER BY " (by cases dialect.placeholders <;> decide)).append
      (closed_qualifiedColumn _ catalog paging.column)
    exact (ordered.words _ (joint_limits _ dialect.limits paging.size)).closed
  · have cursorParams : Fragment.params (cursorText catalog paging.column) =
        [.cursor paging.column] := rfl
    simp [flatMap_params_conditionText, cursorParams]

/-- An update binds the values that it is given, and then what its conditions compare with. -/
theorem updateStatement_binds (update : Update) :
    (updateStatement dialect catalog update).Binds dialect.placeholders
      (valueParams update.model (catalog.model update.model).updatable ++
        filterParams update.conditions) := by
  rw [updateStatement_eq, updateFragment]
  refine Statement.binds_ofFragment ?_ ?_
  · have target : Closed dialect.placeholders
        ([.words "UPDATE "] ++ tableOf catalog update.model) :=
      (open_words (by cases dialect.placeholders <;> decide)).append (closed_name _)
    have assignments : Closed dialect.placeholders (separated ", "
        (((catalog.model update.model).updateColumns.map (Column.mk update.model)).map
          (assignment catalog))) := by
      refine closed_separated (by cases dialect.placeholders <;> decide) fun fragment member => ?_
      obtain ⟨column, -, rfl⟩ := List.mem_map.1 member
      exact closed_assignment _ catalog column
    have assigned :=
      (target.words " SET " (by cases dialect.placeholders <;> decide)).append assignments
    exact (assigned.append (clause_filterClause _ catalog _)).append
      (clause_returningClause _ catalog dialect _)
  · simp only [params_append, params_words, params_nil, params_tableOf, params_assignments,
      params_filterClause, params_returningClause, List.nil_append, List.append_nil]

/-- A delete binds what its conditions compare with, also where it looks its rows up. -/
theorem deleteStatement_binds (delete : Delete) :
    (deleteStatement dialect catalog delete).Binds dialect.placeholders
      (filterParams delete.conditions) := by
  have target : Closed dialect.placeholders
      ([.words "DELETE FROM "] ++ tableOf catalog delete.model) :=
    (open_words (by cases dialect.placeholders <;> decide)).append (closed_name _)
  rw [deleteStatement_eq, deleteFragment]
  refine Statement.binds_ofFragment ?_ ?_
  · split
    · exact target.append (clause_filterClause _ catalog _)
    · have key := closed_primaryKey dialect.placeholders catalog delete.model
      have compared :=
        (target.words " WHERE " (by cases dialect.placeholders <;> decide)).append key
      have keys :=
        (compared.words " IN ( SELECT " (by cases dialect.placeholders <;> decide)).append key
      have source := (keys.words " " (by cases dialect.placeholders <;> decide)).append
        (clause_sourceClause _ catalog delete.model delete.joins delete.conditions).closed
      exact (source.words " )" (by cases dialect.placeholders <;> decide)).closed
  · split <;> simp

/-- A count binds what its conditions compare with. -/
theorem countStatement_binds (count : Count) :
    (countStatement dialect catalog count).Binds dialect.placeholders
      (filterParams count.conditions) := by
  rw [countStatement_eq, countFragment]
  refine Statement.binds_ofFragment ?_ (by simp)
  exact (open_words (by cases dialect.placeholders <;> decide)).append
    (clause_sourceClause _ catalog _ _ _).closed

/-- The question whether there is a row binds what its conditions compare with. -/
theorem hasStatement_binds (count : Count) :
    (hasStatement dialect catalog count).Binds dialect.placeholders
      (filterParams count.conditions) := by
  rw [hasStatement_eq, hasFragment]
  refine Statement.binds_ofFragment ?_ (by simp)
  have asked : Closed dialect.placeholders ([.words "SELECT EXISTS( SELECT 1 "] ++
      sourceClause catalog count.model count.joins count.conditions) :=
    (open_words (by cases dialect.placeholders <;> decide)).append
      (clause_sourceClause _ catalog _ _ _).closed
  exact (asked.words " )" (by cases dialect.placeholders <;> decide)).closed

/-- Words on both sides of a quiet text are quiet with it. -/
theorem quiet_between {style : PlaceholderStyle} {before text behind : String}
    (quietBefore : Quiet style before) (quiet : Quiet style text)
    (quietBehind : Quiet style behind) : Quiet style (before ++ text ++ behind) := by
  intro c member
  simp only [String.toList_append, List.mem_append] at member
  rcases member with (first | middle) | last
  · exact quietBefore c first
  · exact quiet c middle
  · exact quietBehind c last

/-- The column by which rows are read back is the one that holds their identity. -/
theorem rowIdentity_of_readBackColumn {id : ModelId} {column : String}
    (found : readBackColumn dialect catalog id = .ok column) :
    dialect.rowIdentity = some column := by
  unfold readBackColumn at found
  split at found
  next other known =>
    cases found
    unfold Dialect.readBackColumn? at known
    split at known
    · exact known
    · cases known
  next => cases found

/-- Reading a row back binds its identity, if the column that holds it has a quiet name. -/
theorem getLastStatement_binds {id : ModelId} {statement : Statement}
    (quiet : ∀ column, dialect.rowIdentity = some column → Quiet dialect.placeholders column)
    (rendered : getLastStatement dialect catalog id = .ok statement) :
    statement.Binds dialect.placeholders [.rowId] := by
  rw [getLastStatement_eq] at rendered
  obtain ⟨column, found, rfl⟩ := map_eq_ok_iff.1 rendered
  have quietColumn := quiet column (rowIdentity_of_readBackColumn dialect catalog found)
  have joint : Joint dialect.placeholders (" WHERE " ++ column ++ " = ") := by
    refine ⟨quiet_between (by cases dialect.placeholders <;> decide) quietColumn
      (by cases dialect.placeholders <;> decide), ?_, ?_⟩
    · intro empty
      have none := congrArg String.toList empty
      simp at none
    · simp [Breaks]
  refine Statement.binds_ofFragment ?_ (by simp [getLastFragment])
  have columns : Closed dialect.placeholders
      ([.words "SELECT "] ++ columnList catalog (catalog.columns id)) :=
    (open_words (by cases dialect.placeholders <;> decide)).append (closed_columnList _ catalog _)
  have table := (columns.words " FROM " (by cases dialect.placeholders <;> decide)).append
    (closed_name (catalog.model id).table)
  simpa [getLastFragment, tableOf] using (table.words _ joint).append (closed_param .rowId)

/-- Looking a row up binds what the conditions of its update compare with. -/
theorem rowLookupStatement_binds {update : Update} {statement : Statement}
    (quiet : ∀ column, dialect.rowIdentity = some column → Quiet dialect.placeholders column)
    (rendered : rowLookupStatement dialect catalog update = .ok statement) :
    statement.Binds dialect.placeholders (filterParams update.conditions) := by
  rw [rowLookupStatement_eq] at rendered
  obtain ⟨column, found, rfl⟩ := map_eq_ok_iff.1 rendered
  have quietColumn := quiet column (rowIdentity_of_readBackColumn dialect catalog found)
  have asked : Open dialect.placeholders [.words ("SELECT " ++ column ++ " FROM ")] :=
    open_words (quiet_between (by cases dialect.placeholders <;> decide) quietColumn
      (by cases dialect.placeholders <;> decide))
  refine Statement.binds_ofFragment ?_ (by simp [rowLookupFragment])
  exact (asked.append (closed_name _)).append (clause_filterClause _ catalog _)

end Statements

/-- The statements of a plan in a dialect, each with the parameters that it binds. -/
structure StatementsBind (dialect : Dialect) (plan : Plan) : Prop where
  insert : ∀ insert ∈ plan.inserts,
    (insertStatement dialect plan.toCatalog insert).Binds dialect.placeholders
      (valueParams insert.model (plan.model insert.model).insertable)
  select : ∀ select ∈ plan.selects,
    (selectAll dialect plan.toCatalog select).Binds dialect.placeholders
      (filterParams select.conditions)
  page : ∀ select ∈ plan.selects, ∀ paging, select.paging = some paging →
    ∃ page, selectPage? dialect plan.toCatalog select = some page ∧
      page.Binds dialect.placeholders
        (filterParams select.conditions ++ [.cursor paging.column])
  count : ∀ count ∈ plan.counts,
    (countStatement dialect plan.toCatalog count).Binds dialect.placeholders
      (filterParams count.conditions)
  has : ∀ count ∈ plan.counts,
    (hasStatement dialect plan.toCatalog count).Binds dialect.placeholders
      (filterParams count.conditions)
  update : ∀ update ∈ plan.updates,
    (updateStatement dialect plan.toCatalog update).Binds dialect.placeholders
      (valueParams update.model (plan.model update.model).updatable ++
        filterParams update.conditions)
  delete : ∀ delete ∈ plan.deletes,
    (deleteStatement dialect plan.toCatalog delete).Binds dialect.placeholders
      (filterParams delete.conditions)
  getLast : ∀ id ∈ plan.returningTargets, ∀ statement,
    getLastStatement dialect plan.toCatalog id = .ok statement →
      statement.Binds dialect.placeholders [.rowId]
  rowLookup : ∀ update ∈ plan.updates, ∀ statement,
    rowLookupStatement dialect plan.toCatalog update = .ok statement →
      statement.Binds dialect.placeholders (filterParams update.conditions)

/--
Every statement of every plan binds its parameters, in every dialect whose row identity, if it has
one, is a quiet name: the placeholders in its text are those of the listed parameters, in order.
-/
theorem statements_bind (plan : Plan) (dialect : Dialect)
    (quiet : ∀ column, dialect.rowIdentity = some column → Quiet dialect.placeholders column) :
    StatementsBind dialect plan where
  insert insert _ := insertStatement_binds dialect plan.toCatalog insert
  select select _ := selectAll_binds dialect plan.toCatalog select
  page select _ paging paged :=
    ⟨_, by rw [selectPage?, paged, Option.map_some],
      selectPage_binds dialect plan.toCatalog select paging⟩
  count count _ := countStatement_binds dialect plan.toCatalog count
  has count _ := hasStatement_binds dialect plan.toCatalog count
  update update _ := updateStatement_binds dialect plan.toCatalog update
  delete delete _ := deleteStatement_binds dialect plan.toCatalog delete
  getLast _ _ _ rendered := getLastStatement_binds dialect plan.toCatalog quiet rendered
  rowLookup _ _ _ rendered := rowLookupStatement_binds dialect plan.toCatalog quiet rendered

/-- A schema whose table has to be quoted and whose texts look like placeholders and quotes. -/
def noticeSource : String :=
  "model notice ( table Notice, field id int autoincrement, field text text ( updatable ) )
insert notice
select notice.id ( where notice.text != \"it's $1? \\\"$2\\\"\",
where notice.id > ?, paged notice.id 5 )
update notice ( where notice.id = ?, where notice.text = ? )
"

/-- The plan of the schema. -/
def noticePlan : Plan where
  models := [⟨"notice", "Notice", [
      ⟨{ autoincrement := true }, "id", "id", .int, none, none, ⟨1, 36, 35⟩⟩,
      ⟨{ updatable := true }, "text", "text", .text, none, none, ⟨1, 64, 63⟩⟩],
      [0], [], ⟨1, 1, 0⟩⟩]
  inserts := [⟨0, ⟨2, 1, 89⟩⟩]
  selects := [⟨0, [.field ⟨0, 0⟩], [],
    [⟨⟨0, 1⟩, .ne, .literal (.text "it's $1? \"$2\"")⟩, ⟨⟨0, 0⟩, .gt, .placeholder⟩], .many,
    some ⟨⟨0, 0⟩, 5⟩, .field ⟨0, 0⟩, ⟨3, 1, 103⟩⟩]
  updates := [⟨0, [⟨⟨0, 0⟩, .eq, .placeholder⟩, ⟨⟨0, 1⟩, .eq, .placeholder⟩], ⟨5, 1, 203⟩⟩]
  returningTargets := [0]

/-- The source compiles to the plan. -/
theorem compile_noticeSource : compile noticeSource = .ok noticePlan := by
  apply eq_ok_of_toOption
  unfold noticeSource
  rw [compile_ofList]
  decide +kernel

/-- What looks like a placeholder in the texts of the schema is none in its statements. -/
theorem noticePlan_statementsBind :
    compile noticeSource = .ok noticePlan ∧
    (∀ column, sqlite3.rowIdentity = some column → Quiet sqlite3.placeholders column) ∧
    StatementsBind sqlite3 noticePlan ∧
    (noticePlan.selects.map fun select =>
      (selectPage? sqlite3 noticePlan.toCatalog select).map Statement.sql) =
        [some ("SELECT \"Notice\".id FROM \"Notice\" WHERE \"Notice\".text != " ++
          "'it''s $1? \"$2\"' AND \"Notice\".id > ? AND \"Notice\".id > ? " ++
          "ORDER BY \"Notice\".id LIMIT 5")] := by
  have quiet : ∀ column, sqlite3.rowIdentity = some column →
      Quiet sqlite3.placeholders column := by
    rintro _ ⟨⟩
    decide
  exact ⟨compile_noticeSource, quiet, statements_bind noticePlan sqlite3 quiet, by decide +kernel⟩

end Schemata.Sql
