import Schemata.Proofs.Access.Scopes
import Schemata.Proofs.Rows.Decoding
import Schemata.Proofs.Sql.JoinedDeletes

/-!
# Columns and members in step

A row is decoded by position alone: the first column goes to the first member, and a nested member
takes as many columns as its own struct has members. The columns are listed by the statement and the
members by the struct, so the two lists have to be of one length and in one order. They are, for the
columns of a select, for those that a write returns, and for those that a row is read back with.
-/

namespace Schemata

/-! ## Columns in statements -/

namespace Sql

variable (catalog : Catalog)

/-- Lists that are listed one behind another, none of them empty, are listed as one. -/
theorem intercalate_flatten {separator : String} {lists : List (List String)}
    (nonempty : ∀ list ∈ lists, list ≠ []) :
    separator.intercalate (lists.map separator.intercalate) =
      separator.intercalate lists.flatten := by
  induction lists with
  | nil => rfl
  | cons first others inductionHypothesis =>
      obtain ⟨firstNonempty, othersNonempty⟩ := List.forall_mem_cons.1 nonempty
      cases others with
      | nil => simp
      | cons second others =>
          have rest : (second :: others).flatten ≠ [] := by
            simp [othersNonempty second (by simp)]
          rw [List.map_cons, String.intercalate_cons_of_ne_nil (by simp),
            inductionHypothesis othersNonempty, List.flatten_cons (l := first),
            String.intercalate_append_of_ne_nil firstNonempty rest]

/-- The names of columns, in their tables. -/
def columnNames (columns : List Column) : List String :=
  columns.map (columnName catalog)

/-- The names of the columns of a model, without their table. -/
def bareNames (id : ModelId) : List String :=
  (catalog.columns id).map fun column => identifier (catalog.field column).column

/-- A statement asks a table for columns, and they can be told apart in its list. -/
structure AsksFor (columns : List Column) (table : String) (statement : Statement) : Prop where
  sql : ∃ rest, statement.sql =
    "SELECT " ++ ", ".intercalate (columnNames catalog columns) ++ " FROM " ++ identifier table ++
      rest
  apart : expressions (", ".intercalate (columnNames catalog columns)) =
    columnNames catalog columns

/-- A write also returns all columns of its model, and they can be told apart in its list. -/
structure Returns (id : ModelId) (write statement : Statement) : Prop where
  sql : statement.sql = write.sql ++ " RETURNING " ++ ", ".intercalate (bareNames catalog id)
  apart : expressions (", ".intercalate (bareNames catalog id)) = bareNames catalog id

variable {catalog}

/-- The names of columns are the expressions of their list. -/
theorem expressions_columnNames {columns : List Column} (nonempty : columns ≠ []) :
    expressions (", ".intercalate (columnNames catalog columns)) = columnNames catalog columns := by
  have each : ∀ name ∈ columnNames catalog columns, IsExpression name.toList := by
    intro name member
    obtain ⟨column, -, rfl⟩ := List.mem_map.1 member
    exact isExpression_columnName catalog column
  simpa using expressions_intercalate (by simpa [columnNames] using nonempty) each "" ""
    (by simp) (by simp)

/-- The names of the columns of a model are the expressions of their list. -/
theorem expressions_bareNames {id : ModelId} (nonempty : catalog.columns id ≠ []) :
    expressions (", ".intercalate (bareNames catalog id)) = bareNames catalog id := by
  have each : ∀ name ∈ bareNames catalog id, IsExpression name.toList := by
    intro name member
    obtain ⟨column, -, rfl⟩ := List.mem_map.1 member
    exact ⟨tidy_identifier _, balanced_identifier _⟩
  simpa using expressions_intercalate (by simpa [bareNames] using nonempty) each "" ""
    (by simp) (by simp)

/-- The list of a select has the columns of its projections, one projection after another. -/
theorem write_selectList {select : Select}
    (nonempty : ∀ projection ∈ select.projections, projectionColumns catalog projection ≠ [])
    (style : PlaceholderStyle) (count : Nat) :
    (selectList catalog select).write style count =
      ", ".intercalate
        (columnNames catalog (Access.selectedColumns catalog select.projections)) := by
  let lists := select.projections.map fun projection =>
    columnNames catalog (projectionColumns catalog projection)
  have flat : columnNames catalog (Access.selectedColumns catalog select.projections) =
      lists.flatten := by
    rw [columnNames, Access.selectedColumns, List.map_flatMap, List.flatMap_def]
    rfl
  have filled : ∀ list ∈ lists, list ≠ [] := by
    intro list member
    obtain ⟨projection, isProjection, rfl⟩ := List.mem_map.1 member
    simpa [columnNames] using nonempty projection isProjection
  rw [flat, ← intercalate_flatten filled, selectList,
    Fragment.write_separated count ", ", Fragment.texts_of_params_eq_nil count (by simp)]
  simp [lists, List.map_map, Function.comp_def, columnNames]

section Statements

variable (dialect : Dialect)

/-- A select lists its columns, then its table, joins and conditions. -/
theorem selectAll_sql {select : Select}
    (nonempty : ∀ projection ∈ select.projections, projectionColumns catalog projection ≠ []) :
    (selectAll dialect catalog select).sql =
      "SELECT " ++ ", ".intercalate
          (columnNames catalog (Access.selectedColumns catalog select.projections)) ++
        " FROM " ++ identifier (catalog.model select.model).table ++
        (joinClauses catalog select.joins ++ filterClause catalog select.conditions).write
          dialect.placeholders 0 := by
  rw [selectAll_eq, selectFragment, Statement.ofFragment, sourceClause, ← String.toList_inj]
  simp [Fragment.write_append, Fragment.write, write_selectList nonempty, tableOf]

/-- A page lists the same columns, with a cursor, an order and a limit behind the conditions. -/
theorem selectPage_sql {select : Select} (paging : Paging)
    (nonempty : ∀ projection ∈ select.projections, projectionColumns catalog projection ≠ []) :
    (selectPage dialect catalog select paging).sql =
      "SELECT " ++ ", ".intercalate
          (columnNames catalog (Access.selectedColumns catalog select.projections)) ++
        " FROM " ++ identifier (catalog.model select.model).table ++
        (joinClauses catalog select.joins ++
          whereClause (select.conditions.map (conditionText catalog) ++
            [cursorText catalog paging.column]) ++
          [Piece.words " ORDER BY "] ++ qualifiedColumn catalog paging.column ++
          [Piece.words (" " ++ dialect.limits.clause paging.size)]).write
            dialect.placeholders 0 := by
  rw [selectPage_eq, pageFragment, Statement.ofFragment, ← String.toList_inj]
  simp [Fragment.write_append, Fragment.write, write_selectList nonempty, tableOf]

/-- What a select asks for, all at once or page by page. -/
theorem select_asksFor {select : Select} {statement : Statement}
    (nonempty : ∀ projection ∈ select.projections, projectionColumns catalog projection ≠ [])
    (asked : Access.selectedColumns catalog select.projections ≠ [])
    (isStatement : statement = selectAll dialect catalog select ∨
      selectPage? dialect catalog select = some statement) :
    AsksFor catalog (Access.selectedColumns catalog select.projections)
      (catalog.model select.model).table statement := by
  refine ⟨?_, expressions_columnNames asked⟩
  rcases isStatement with rfl | isPage
  · exact ⟨_, selectAll_sql dialect nonempty⟩
  · obtain ⟨paging, -, rfl⟩ := Option.map_eq_some_iff.1 isPage
    exact ⟨_, selectPage_sql dialect paging nonempty⟩

/-- What a row is read back with. -/
theorem getLast_asksFor {id : ModelId} {statement : Statement}
    (nonempty : catalog.columns id ≠ [])
    (isStatement : getLastStatement dialect catalog id = .ok statement) :
    AsksFor catalog (catalog.columns id) (catalog.model id).table statement := by
  refine ⟨?_, expressions_columnNames nonempty⟩
  rw [getLastStatement_eq] at isStatement
  obtain ⟨column, -, rfl⟩ := map_eq_ok_iff.1 isStatement
  refine ⟨" WHERE " ++ column ++ " = " ++ dialect.placeholders.placeholder 1, ?_⟩
  rw [Statement.ofFragment, getLastFragment, ← String.toList_inj]
  simp [Fragment.write_append, Fragment.write, columnNames]

/-- A dialect that returns rows lists all columns of the model. -/
theorem write_returningClause_of_returning (returns : dialect.returning = true) (count : Nat)
    (id : ModelId) :
    (returningClause dialect catalog id).write dialect.placeholders count =
      " RETURNING " ++ ", ".intercalate (bareNames catalog id) := by
  rw [write_returningClause, if_pos returns, bareNames]

/-- What an insert returns, behind what it is where nothing is returned. -/
theorem insert_returns (returns : dialect.returning = true) (insert : Insert)
    (nonempty : catalog.columns insert.model ≠ []) :
    Returns catalog insert.model
      (insertStatement { dialect with returning := false } catalog insert)
      (insertStatement dialect catalog insert) := by
  refine ⟨?_, expressions_bareNames nonempty⟩
  rw [insertStatement_eq, insertStatement_eq, Statement.ofFragment, Statement.ofFragment,
    insertFragment, insertFragment, Fragment.write_append _ _ (returningClause dialect _ _),
    write_returningClause_of_returning dialect returns]
  simp [returningClause, String.append_assoc]

/-- What an update returns, behind what it is where nothing is returned. -/
theorem update_returns (returns : dialect.returning = true) (update : Update)
    (nonempty : catalog.columns update.model ≠ []) :
    Returns catalog update.model
      (updateStatement { dialect with returning := false } catalog update)
      (updateStatement dialect catalog update) := by
  refine ⟨?_, expressions_bareNames nonempty⟩
  rw [updateStatement_eq, updateStatement_eq, Statement.ofFragment, Statement.ofFragment,
    updateFragment, updateFragment, Fragment.write_append _ _ (returningClause dialect _ _),
    write_returningClause_of_returning dialect returns]
  simp [returningClause, String.append_assoc]

end Statements

end Sql

/-! ## Members that columns are decoded into -/

namespace Access

variable (catalog : Catalog)

/-- The members that columns are decoded into for one member: those of its struct, or itself. -/
def openMember (projection : Projection) (member : Member) : List Member :=
  if member.nested then modelMembers (catalog.model projection.source) else [member]

/-- The members that the columns of a row are decoded into, in order; a bare value has no name. -/
def columnMembers : ResultShape → List Member
  | .model id => modelMembers (catalog.model id)
  | .field column =>
    let row := rowType catalog (.field column)
    [⟨"", row.type, row.nested⟩]
  | .record _ projections =>
    (List.zipWith (openMember catalog) projections
      (projectionMembers catalog projections)).flatten

/-- A member takes the value of a column: it is no struct, and has the type of the field. -/
structure Takes (column : Column) (member : Member) : Prop where
  type : member.type = fieldType (catalog.field column)
  plain : member.nested = false

/-- A member of a model's struct takes the value of a column, and is named for its field. -/
structure TakesOwn (column : Column) (member : Member) : Prop
    extends Takes catalog column member where
  named : ∃ earlier, HandedOut earlier (safeName (catalog.field column).name) member.name

/-- The members of a model's struct take the columns of the model, one by one. -/
theorem modelMembers_takeOwn (id : ModelId) :
    List.Forall₂ (TakesOwn catalog) (catalog.columns id) (modelMembers (catalog.model id)) := by
  let bases := (catalog.model id).fields.map fun field => safeName field.name
  have named : (claimNames [] bases).length = (catalog.model id).fields.length := by
    simp [bases, length_claimNames]
  refine List.forall₂_iff_get.2 ⟨?_, fun place isColumn isMember => ?_⟩
  · simp [modelMembers, Catalog.columns, Model.fieldIds, length_claimNames]
  · have inRange : place < (catalog.model id).fields.length := by
      simpa [Catalog.columns, Model.fieldIds] using isColumn
    have field : catalog.field ((catalog.columns id).get ⟨place, isColumn⟩) =
        (catalog.model id).fields[place] := by
      simp [Catalog.columns, Catalog.field, Model.fieldIds, Model.field,
        List.getD_eq_getElem?_getD, inRange]
    have member : (modelMembers (catalog.model id)).get ⟨place, isMember⟩ =
        ⟨(claimNames [] bases)[place], fieldType (catalog.model id).fields[place], false⟩ := by
      simp [modelMembers, bases]
    have asked : bases[place]? = some (safeName (catalog.model id).fields[place].name) := by
      simp [bases, inRange]
    have handedOut := claimNames_handedOut [] bases asked (List.getElem?_eq_getElem (by omega))
    rw [member]
    exact ⟨⟨by rw [field], rfl⟩, _, field ▸ handedOut⟩

/-- A member of a record, taken apart if it is nested, takes the columns of its projection. -/
theorem openMember_takes (name : String) (projection : Projection) :
    List.Forall₂ (Takes catalog) (Sql.projectionColumns catalog projection)
      (openMember catalog projection (projectionMember catalog name projection)) := by
  cases projection with
  | model id => exact (modelMembers_takeOwn catalog id).imp fun _ _ takes => takes.toTakes
  | field column => exact .cons ⟨rfl, rfl⟩ .nil

/-- The members of a record, taken apart where they are nested, take the columns of a select. -/
theorem record_takes (name : String) (projections : List Projection) :
    List.Forall₂ (Takes catalog) (selectedColumns catalog projections)
      (columnMembers catalog (.record name projections)) := by
  have named := length_claimNames [] (projections.map (projectionName catalog))
  rw [List.length_map] at named
  rw [columnMembers, projectionMembers, selectedColumns]
  generalize claimNames [] (projections.map (projectionName catalog)) = names at named
  induction projections generalizing names with
  | nil => exact .nil
  | cons projection projections inductionHypothesis =>
      cases names with
      | nil => simp at named
      | cons name names =>
          exact List.rel_append (openMember_takes catalog name projection)
            (inductionHypothesis names (Nat.succ.inj named))

/-- What a row is decoded into takes the columns that its select asks for. -/
theorem resultShape_takes (projections : List Projection) :
    List.Forall₂ (Takes catalog) (selectedColumns catalog projections)
      (columnMembers catalog (Analysis.resultShape catalog projections)) := by
  unfold Analysis.resultShape
  split
  next id =>
    rw [selectedColumns, List.flatMap_singleton]
    exact (modelMembers_takeOwn catalog id).imp fun _ _ takes => takes.toTakes
  next column => exact .cons ⟨rfl, rfl⟩ .nil
  next => exact record_takes catalog _ projections

end Access

/-! ## Compiled plans -/

section Compiled

variable {source : String} {plan : Plan}

/-- Every model of a plan that compiles has columns. -/
theorem columns_ne_nil (compiled : compile source = .ok plan) {id : ModelId}
    (taken : plan.HasModel id) : plan.columns id ≠ [] := by
  have key := ((wellFormed_of_compile compiled).models.each _ taken.mem_models).primaryKey
  obtain ⟨field, rest, isKey⟩ := List.exists_cons_of_ne_nil key.nonempty
  have isField := List.mem_range.2 (key.inRange field (by simp [isKey]))
  exact List.ne_nil_of_mem (List.mem_map.2 ⟨field, isField, rfl⟩)

/-- What is selected in a plan that compiles, and what its rows are decoded into. -/
theorem select_of_compile (compiled : compile source = .ok plan) {select : Select}
    (member : select ∈ plan.selects) :
    (∀ projection ∈ select.projections,
      Sql.projectionColumns plan.toCatalog projection ≠ []) ∧
    Access.selectedColumns plan.toCatalog select.projections ≠ [] ∧
    select.result = Analysis.resultShape plan.toCatalog select.projections := by
  obtain ⟨schema, -, resolves⟩ := Analysis.exists_resolves_of_compile compiled
  obtain ⟨declared, -, gives⟩ := resolves.selects select member
  have inScope := ((Analysis.resolveSelect_ensures _ declared).of_gives gives select rfl).1
  have shaped := ((Analysis.resolveSelect_asks _ declared).of_gives gives select rfl).2
  have inRange := ((inRange_of_compile compiled).selects select member).projections
  have nonempty : ∀ projection ∈ select.projections,
      Sql.projectionColumns plan.toCatalog projection ≠ [] := by
    intro projection isProjection
    cases projection with
    | model id => exact columns_ne_nil compiled (inRange _ isProjection)
    | field column => exact List.cons_ne_nil column []
  refine ⟨nonempty, ?_, shaped⟩
  obtain ⟨first, isFirst, -⟩ := Option.map_eq_some_iff.1 inScope.first
  have isProjection := List.mem_of_head? isFirst
  obtain ⟨column, asked⟩ := List.exists_mem_of_ne_nil _ (nonempty first isProjection)
  exact List.ne_nil_of_mem (List.mem_flatMap.2 ⟨first, isProjection, asked⟩)

end Compiled

namespace Access

open Sql (Dialect)

/--
In every plan that compiles, statements and structs agree on the columns of rows. A select asks for
the columns of its projections, and these are taken one by one by what its rows are decoded into. A
write that returns its row returns all columns of its model, a row is read back with all of them,
and they are taken one by one by the members of the model's struct.
-/
theorem columns_match_members {source : String} {plan : Plan} (compiled : compile source = .ok plan)
    (dialect : Dialect) :
    (∀ select ∈ plan.selects,
      (∀ statement, statement = Sql.selectAll dialect plan.toCatalog select ∨
          Sql.selectPage? dialect plan.toCatalog select = some statement →
        Sql.AsksFor plan.toCatalog (selectedColumns plan.toCatalog select.projections)
          (plan.model select.model).table statement) ∧
      List.Forall₂ (Takes plan.toCatalog) (selectedColumns plan.toCatalog select.projections)
        (columnMembers plan.toCatalog select.result)) ∧
    (∀ insert ∈ plan.inserts, dialect.returning = true →
      Sql.Returns plan.toCatalog insert.model
        (Sql.insertStatement { dialect with returning := false } plan.toCatalog insert)
        (Sql.insertStatement dialect plan.toCatalog insert)) ∧
    (∀ update ∈ plan.updates, dialect.returning = true →
      Sql.Returns plan.toCatalog update.model
        (Sql.updateStatement { dialect with returning := false } plan.toCatalog update)
        (Sql.updateStatement dialect plan.toCatalog update)) ∧
    (∀ id ∈ plan.returningTargets, ∀ statement,
      Sql.getLastStatement dialect plan.toCatalog id = .ok statement →
        Sql.AsksFor plan.toCatalog (plan.columns id) (plan.model id).table statement) ∧
    ∀ id, plan.HasModel id →
      (plan.columns id).map plan.field = (plan.model id).fields ∧
      List.Forall₂ (TakesOwn plan.toCatalog) (plan.columns id) (modelMembers (plan.model id)) := by
  have inRange := inRange_of_compile compiled
  have filled {id : ModelId} : plan.HasModel id → plan.columns id ≠ [] := columns_ne_nil compiled
  refine ⟨fun select member => ?_, fun insert member returns => ?_,
    fun update member returns => ?_, fun id member statement isStatement => ?_, fun id _ => ?_⟩
  · obtain ⟨nonempty, asked, shaped⟩ := select_of_compile compiled member
    refine ⟨fun statement => Sql.select_asksFor dialect nonempty asked, ?_⟩
    rw [shaped]
    exact resultShape_takes plan.toCatalog select.projections
  · exact Sql.insert_returns dialect returns insert (filled (inRange.inserts insert member))
  · exact Sql.update_returns dialect returns update (filled (inRange.updates update member).model)
  · exact Sql.getLast_asksFor dialect (filled (inRange.targets id member)) isStatement
  · exact ⟨map_field_columns plan.toCatalog id, modelMembers_takeOwn plan.toCatalog id⟩

/-- A player is nested in a row with the name of its team, and read back with its own columns. -/
theorem clubPlan_columns_match_members :
    compile clubSource = .ok clubPlan ∧ settledSelect ∈ clubPlan.selects ∧
    Sql.columnNames clubPlan.toCatalog
        (selectedColumns clubPlan.toCatalog settledSelect.projections) =
      ["player.id", "player.team", "team.name"] ∧
    columnMembers clubPlan.toCatalog settledSelect.result =
      [⟨"id", "i32", false⟩, ⟨"team", "Option<i32>", false⟩, ⟨"team_name", "String", false⟩] ∧
    List.Forall₂ (Takes clubPlan.toCatalog)
      (selectedColumns clubPlan.toCatalog settledSelect.projections)
      (columnMembers clubPlan.toCatalog settledSelect.result) ∧
    compile rosterSource = .ok rosterPlan ∧
    (Sql.insertStatement Sql.postgres rosterPlan.toCatalog ⟨1, ⟨4, 1, 221⟩⟩).sql =
      "INSERT INTO player ( team ) VALUES ( $1 ) RETURNING id, team" ∧
    Sql.expressions "id, team" = ["id", "team"] := by
  have isSelect : settledSelect ∈ clubPlan.selects := by decide
  have isInsert : ⟨1, ⟨4, 1, 221⟩⟩ ∈ rosterPlan.inserts := by decide
  obtain ⟨selects, -⟩ := columns_match_members compile_clubSource Sql.sqlite3
  obtain ⟨-, inserts, -⟩ := columns_match_members compile_rosterSource Sql.postgres
  have names : Sql.bareNames rosterPlan.toCatalog 1 = ["id", "team"] := by decide +kernel
  have returns := inserts _ isInsert rfl
  have apart := returns.apart
  rw [names] at apart
  refine ⟨compile_clubSource, isSelect, by decide +kernel, by decide +kernel,
    (selects _ isSelect).2, compile_rosterSource, by decide +kernel, apart⟩

end Access

end Schemata
