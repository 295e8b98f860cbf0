import Schemata.Proofs.Analysis.Numbers
import Schemata.Proofs.Sql.Nesting
import Schemata.Proofs.Sql.Placeholders

/-!
# Deletes with joins

A delete with joins looks the keys of the doomed rows up: the key of a row has to be `IN` the list
of a select. Both sides are written alike, with parentheses around a key of several columns. On the
left that is a row value with all the columns; but in the list of the select it is one expression,
so that the select has the columns of the key exactly if there is only one.
-/

namespace Schemata.Sql

/-! ## The texts of fragments -/

namespace Fragment

/-- Fragments that open and close nothing, with a separator that does not either. -/
theorem flat_separated {commas : Bool} {separator : String} (apart : Sql.Flat commas separator)
    {fragments : List Fragment} (each : ∀ fragment ∈ fragments, fragment.Flat commas) :
    Flat commas (separated separator fragments) := by
  induction fragments with
  | nil => simp [separated, Flat]
  | cons first others inductionHypothesis =>
      obtain ⟨firstFlat, othersFlat⟩ := List.forall_mem_cons.1 each
      cases others with
      | nil => exact firstFlat
      | cons second others =>
          exact (firstFlat.append (flat_words apart)).append (inductionHypothesis othersFlat)

end Fragment

/-! ## Keys -/

/-- The names of the columns of a primary key, in order. -/
def keyNames (catalog : Catalog) (id : ModelId) : List String :=
  (catalog.model id).primaryKey.map fun field => columnName catalog ⟨id, field⟩

/-- The value of one column, or of several together. -/
def rowValue : List String → String
  | [name] => name
  | names => "( " ++ ", ".intercalate names ++ " )"

/-- The members of a value: the expressions between its parentheses, or in it without them. -/
def rowMembers (text : String) : List String :=
  expressions ((parenthesized? text).getD text)

/-- Several names make a row value between parentheses. -/
theorem rowValue_of_length_ne_one {names : List String} (several : names.length ≠ 1) :
    rowValue names = "(" ++ (" " ++ ", ".intercalate names ++ " ") ++ ")" := by
  have shape : rowValue names = "( " ++ ", ".intercalate names ++ " )" := by
    cases names with
    | nil => rfl
    | cons name others =>
        cases others with
        | nil => exact absurd rfl several
        | cons next others => rfl
  rw [shape, ← String.toList_inj]
  simp

section Keys

variable (catalog : Catalog)

/-- The name of a column in its table opens and closes nothing. -/
theorem flat_qualifiedColumn {commas : Bool} (column : Column) :
    (qualifiedColumn catalog column).Flat commas := by
  simp [qualifiedColumn, tableOf, bareColumn, Fragment.Flat, Flat, Unnested]

/-- The list of key columns is written as their names with commas in between. -/
theorem write_keyList (style : PlaceholderStyle) (count : Nat) (id : ModelId) :
    (columnList catalog ((catalog.model id).primaryKey.map fun field => ⟨id, field⟩)).write
      style count = ", ".intercalate (keyNames catalog id) := by
  rw [write_columnList, keyNames, List.map_map]
  rfl

/-- A key stands in a statement as the value of its columns. -/
theorem write_primaryKey (style : PlaceholderStyle) (count : Nat) (id : ModelId) :
    (primaryKey catalog id).write style count = rowValue (keyNames catalog id) := by
  have columns := write_keyList catalog style
  have length : (keyNames catalog id).length = (catalog.model id).primaryKey.length :=
    List.length_map ..
  unfold primaryKey
  dsimp only
  split
  next single =>
    rw [← length] at single
    obtain ⟨name, names⟩ := List.length_eq_one_iff.1 single
    rw [columns, names]
    simp [rowValue]
  next several =>
    rw [← length] at several
    rw [rowValue_of_length_ne_one several, Fragment.write_append, Fragment.write_append, columns,
      ← String.toList_inj]
    simp [Fragment.write]

/-- The name of a column is balanced. -/
theorem balanced_columnName {commas : Bool} (column : Column) :
    Balanced commas (columnName catalog column).toList := by
  rw [← write_qualifiedColumn catalog .question 0]
  exact (flat_qualifiedColumn catalog column).balanced_write _ _

/-- The name of a column is one expression. -/
theorem isExpression_columnName (column : Column) :
    IsExpression (columnName catalog column).toList := by
  constructor
  · rw [columnName, String.toList_append, String.toList_append]
    exact (tidy_identifier _).append _ (tidy_identifier _)
  · exact balanced_columnName catalog column

/-- The names of key columns are expressions. -/
theorem isExpression_of_mem_keyNames (id : ModelId) :
    ∀ name ∈ keyNames catalog id, IsExpression name.toList := by
  intro name member
  obtain ⟨field, -, rfl⟩ := List.mem_map.1 member
  exact isExpression_columnName catalog ⟨id, field⟩

/-- The columns of a key with commas between them, and blanks around them. -/
theorem balanced_keyNames (id : ModelId) :
    Balanced true (" " ++ ", ".intercalate (keyNames catalog id) ++ " ").toList := by
  have blank : Balanced true " ".toList := Flat.balanced (by decide)
  have columns : (columnList catalog
      ((catalog.model id).primaryKey.map fun field => ⟨id, field⟩)).Flat true := by
    apply Fragment.flat_separated (by decide)
    intro fragment member
    obtain ⟨column, -, rfl⟩ := List.mem_map.1 member
    exact flat_qualifiedColumn catalog column
  rw [String.toList_append, String.toList_append, ← write_keyList catalog .question 0]
  exact (blank.append (columns.balanced_write _ _)).append blank

/-- A key of one column is the name of that column. -/
theorem exists_columnName {id : ModelId} (single : (keyNames catalog id).length = 1) :
    ∃ column, keyNames catalog id = [columnName catalog column] := by
  obtain ⟨name, names⟩ := List.length_eq_one_iff.1 single
  have member : name ∈ keyNames catalog id := by simp [names]
  obtain ⟨field, -, rfl⟩ := List.mem_map.1 member
  exact ⟨⟨id, field⟩, names⟩

/-- The row value of a key is balanced; its commas stand between parentheses. -/
theorem balanced_rowValue {commas : Bool} (id : ModelId) :
    Balanced commas (rowValue (keyNames catalog id)).toList := by
  by_cases single : (keyNames catalog id).length = 1
  · obtain ⟨column, names⟩ := exists_columnName catalog single
    rw [names]
    exact balanced_columnName catalog column
  · rw [rowValue_of_length_ne_one single, toList_group]
    exact (balanced_keyNames catalog id).group

/-- The members of a key are its columns. -/
theorem rowMembers_rowValue {id : ModelId} (nonempty : keyNames catalog id ≠ []) :
    rowMembers (rowValue (keyNames catalog id)) = keyNames catalog id := by
  have each := isExpression_of_mem_keyNames catalog id
  unfold rowMembers
  by_cases single : (keyNames catalog id).length = 1
  · obtain ⟨column, names⟩ := exists_columnName catalog single
    have unparenthesized : parenthesized? (columnName catalog column) = none := by
      rw [columnName, String.append_assoc]
      exact parenthesized?_identifier _ _
    rw [names, rowValue, unparenthesized, Option.getD_none]
    exact (isExpression_columnName catalog column).expressions_eq
  · rw [rowValue_of_length_ne_one single, parenthesized?_group (balanced_keyNames catalog id),
      Option.getD_some]
    exact expressions_intercalate nonempty each " " " " (by simp) (by simp)

/-- A key of several columns is one expression. -/
theorem expressions_rowValue {id : ModelId} (several : (keyNames catalog id).length ≠ 1) :
    expressions (rowValue (keyNames catalog id)) = [rowValue (keyNames catalog id)] := by
  apply IsExpression.expressions_eq
  constructor
  · rw [rowValue_of_length_ne_one several, toList_group]
    exact ⟨⟨'(', _, rfl, by decide⟩, ⟨_, ')', List.cons_append.symm, by decide⟩⟩
  · exact balanced_rowValue catalog id

end Keys

/-! ## Lookups -/

section Lookups

variable (catalog : Catalog)

/-- Join clauses open and close nothing. -/
theorem flat_joinClauses (joins : List Join) : (joinClauses catalog joins).Flat true := by
  induction joins with
  | nil => simp [joinClauses, Fragment.Flat]
  | cons join joins inductionHypothesis =>
      rw [joinClauses, List.flatMap_cons]
      refine Fragment.Flat.append ?_ inductionHypothesis
      simp [joinClause, qualifiedColumn, tableOf, bareColumn, Fragment.Flat, Flat, Unnested]

/-- A condition opens and closes nothing. -/
theorem flat_conditionText (condition : Condition) :
    (conditionText catalog condition).Flat true := by
  have left : (qualifiedColumn catalog condition.left).Flat true :=
    flat_qualifiedColumn catalog condition.left
  have compared : Fragment.Flat true
      (qualifiedColumn catalog condition.left ++ [.words (" " ++ condition.op.symbol ++ " ")]) := by
    refine left.append (Fragment.flat_words ?_)
    cases condition.op <;> decide
  unfold conditionText
  dsimp only
  split
  · exact compared.append (by simp [Fragment.Flat])
  · exact compared.append (flat_qualifiedColumn catalog _)
  · refine left.append (Fragment.flat_words ?_)
    split <;> decide
  · exact compared.append (by simp [Fragment.Flat])

/-- A filter clause opens and closes nothing. -/
theorem flat_filterClause (conditions : List Condition) :
    (filterClause catalog conditions).Flat true := by
  unfold filterClause whereClause
  split
  · simp [Fragment.Flat]
  · refine (Fragment.flat_words (by decide)).append (Fragment.flat_separated (by decide) ?_)
    intro fragment member
    obtain ⟨condition, -, rfl⟩ := List.mem_map.1 member
    exact flat_conditionText catalog condition

/-- The select of a list from the table of a delete, with its joins and conditions. -/
def lookupText (style : PlaceholderStyle) (delete : Delete) (list : String) : String :=
  " SELECT " ++ list ++ " FROM " ++ identifier (catalog.model delete.model).table ++
    (joinClauses catalog delete.joins).write style 0 ++
    (filterClause catalog delete.conditions).write style 0 ++ " "

/-- The select of the keys of a delete is balanced. -/
theorem balanced_lookupText (style : PlaceholderStyle) (delete : Delete) :
    Balanced true
      (lookupText catalog style delete (rowValue (keyNames catalog delete.model))).toList := by
  have words : ∀ text, Flat true text → Balanced true text.toList := fun _ => Flat.balanced
  have asked := (words " SELECT " (by decide)).append (balanced_rowValue catalog delete.model)
  have table := (asked.append (words " FROM " (by decide))).append
    (balanced_identifier (catalog.model delete.model).table)
  have joined := table.append ((flat_joinClauses catalog delete.joins).balanced_write style 0)
  have filtered := joined.append
    ((flat_filterClause catalog delete.conditions).balanced_write style 0)
  simpa [lookupText] using filtered.append (words " " (by decide))

/-- A delete with joins compares its key with the keys of a select. -/
theorem deleteStatement_sql (dialect : Dialect) {delete : Delete} (joined : delete.joins ≠ []) :
    (deleteStatement dialect catalog delete).sql =
      "DELETE FROM " ++ identifier (catalog.model delete.model).table ++ " WHERE " ++
        rowValue (keyNames catalog delete.model) ++ " IN (" ++
        lookupText catalog dialect.placeholders delete
          (rowValue (keyNames catalog delete.model)) ++ ")" := by
  rw [deleteStatement_eq, deleteFragment, if_neg (by simpa using joined), Statement.ofFragment,
    ← String.toList_inj]
  simp [Fragment.write_append, Fragment.write, write_primaryKey, sourceClause, tableOf, lookupText]

end Lookups

/-- In a plan that compiles, a model that is deleted from has a key. -/
theorem keyNames_ne_nil {source : String} {plan : Plan} (compiled : compile source = .ok plan)
    {delete : Delete} (member : delete ∈ plan.deletes) :
    keyNames plan.toCatalog delete.model ≠ [] := by
  have taken := ((inRange_of_compile compiled).deletes delete member).model
  have model := (wellFormed_of_compile compiled).models.each _ taken.mem_models
  simpa [keyNames] using model.primaryKey.nonempty

/--
A delete with joins is `DELETE FROM t WHERE key IN ( SELECT key FROM t ... )`, and the select fills
the parentheses. On the left, the key has the columns of the primary key as its members, and there
is at least one. On the right, it has them as its expressions exactly if there is only one: a key of
several columns is one expression, in parentheses.
-/
theorem joinedDeletes_look_up_keys {source : String} {plan : Plan}
    (compiled : compile source = .ok plan) (dialect : Dialect) {delete : Delete}
    (member : delete ∈ plan.deletes) (joined : delete.joins ≠ []) :
    let table := identifier (plan.model delete.model).table
    let names := keyNames plan.toCatalog delete.model
    let key := rowValue names
    let lookup := lookupText plan.toCatalog dialect.placeholders delete key
    (deleteStatement dialect plan.toCatalog delete).sql =
        "DELETE FROM " ++ table ++ " WHERE " ++ key ++ " IN (" ++ lookup ++ ")" ∧
      parenthesized? ("(" ++ lookup ++ ")") = some lookup ∧
      names ≠ [] ∧ rowMembers key = names ∧
      (expressions key = names ↔ names.length = 1) ∧
      (names.length ≠ 1 → expressions key = [key]) := by
  have nonempty := keyNames_ne_nil compiled member
  refine ⟨deleteStatement_sql plan.toCatalog dialect joined,
    parenthesized?_group (balanced_lookupText plan.toCatalog _ delete), nonempty,
    rowMembers_rowValue plan.toCatalog nonempty, ⟨?_, ?_⟩, expressions_rowValue plan.toCatalog⟩
  · intro listed
    by_contra several
    rw [expressions_rowValue plan.toCatalog several] at listed
    exact several (listed ▸ rfl)
  · intro single
    obtain ⟨column, names⟩ := exists_columnName plan.toCatalog single
    rw [names]
    exact (isExpression_columnName plan.toCatalog column).expressions_eq

/-- A schema with a key of two columns, one of them with a reserved word for its name. -/
def seatSource : String :=
  "model course ( field id int autoincrement, field title text )
model seat ( key course order, field course int, field order int )
relation seat.course course.id
delete seat ( where course.title = ? )
delete course ( where seat.order = 3 )
"

/-- The delete by a key of two columns. -/
def seatDelete : Delete :=
  ⟨1, [⟨⟨1, 0⟩, ⟨0, 0⟩⟩], [⟨⟨0, 1⟩, .eq, .placeholder⟩], .many, ⟨4, 1, 160⟩⟩

/-- The delete by a key of one column. -/
def courseDelete : Delete :=
  ⟨0, [⟨⟨0, 0⟩, ⟨1, 0⟩⟩], [⟨⟨1, 1⟩, .eq, .literal (.int 3)⟩], .many, ⟨5, 1, 199⟩⟩

/-- The plan of the schema. -/
def seatPlan : Plan where
  models := [
    ⟨"course", "course", [
      ⟨{ autoincrement := true }, "id", "id", .int, none, none, ⟨1, 22, 21⟩⟩,
      ⟨{}, "title", "title", .text, none, none, ⟨1, 50, 49⟩⟩],
      [0], [], ⟨1, 1, 0⟩⟩,
    ⟨"seat", "seat", [
      ⟨{}, "course", "course", .int, none, none, ⟨2, 38, 99⟩⟩,
      ⟨{}, "order", "order", .int, none, none, ⟨2, 56, 117⟩⟩],
      [0, 1], [], ⟨2, 1, 62⟩⟩]
  relations := [⟨⟨1, 0⟩, ⟨0, 0⟩, none, ⟨3, 1, 129⟩⟩]
  deletes := [seatDelete, courseDelete]

/-- The source compiles to the plan. -/
theorem compile_seatSource : compile seatSource = .ok seatPlan := by
  apply eq_ok_of_toOption
  unfold seatSource
  rw [compile_ofList]
  decide +kernel

/-- The key of a course is listed by the select that looks it up. -/
theorem courseDelete_looks_up_key :
    compile seatSource = .ok seatPlan ∧ courseDelete ∈ seatPlan.deletes ∧
      courseDelete.joins ≠ [] ∧
      (deleteStatement postgres seatPlan.toCatalog courseDelete).sql =
        "DELETE FROM course WHERE course.id IN ( SELECT course.id FROM course " ++
          "LEFT JOIN seat ON seat.course = course.id WHERE seat.\"order\" = 3 )" ∧
      rowMembers "course.id" = ["course.id"] ∧ expressions "course.id" = ["course.id"] := by
  have member : courseDelete ∈ seatPlan.deletes := by simp [seatPlan]
  have joined : courseDelete.joins ≠ [] := by simp [courseDelete]
  have names : keyNames seatPlan.toCatalog courseDelete.model = ["course.id"] := by decide +kernel
  obtain ⟨sql, -, -, members, listed, -⟩ :=
    joinedDeletes_look_up_keys compile_seatSource postgres member joined
  rw [names] at members listed
  refine ⟨compile_seatSource, member, joined, sql.trans ?_, members, listed.2 rfl⟩
  decide +kernel

/-- The two columns of the key of a seat are one expression of the select that looks it up. -/
theorem seatDelete_key_unlisted :
    compile seatSource = .ok seatPlan ∧ seatDelete ∈ seatPlan.deletes ∧
      (deleteStatement sqlite3 seatPlan.toCatalog seatDelete).sql =
        "DELETE FROM seat WHERE ( seat.course, seat.\"order\" ) IN ( SELECT " ++
          "( seat.course, seat.\"order\" ) FROM seat " ++
          "LEFT JOIN course ON course.id = seat.course WHERE course.title = ? )" ∧
      keyNames seatPlan.toCatalog seatDelete.model = ["seat.course", "seat.\"order\""] ∧
      expressions "( seat.course, seat.\"order\" )" = ["( seat.course, seat.\"order\" )"] := by
  refine ⟨compile_seatSource, by simp [seatPlan], ?_, ?_, ?_⟩ <;> decide +kernel

end Schemata.Sql
