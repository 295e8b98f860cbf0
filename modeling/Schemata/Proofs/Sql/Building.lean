import Mathlib.Logic.Basic
import Schemata.Proofs.Sql.Fragments

/-!
# Statements are built in the order they are written

A builder numbers a placeholder when it binds the parameter, not when it writes the text. `Builds`
says that nothing comes of this: behind any parameters, the builder writes a fragment, numbered on
from there, and adds the parameters of the fragment in order. Every part of a statement builds its
fragment, and every statement is the reading of one fragment. The lookups may be those of a catalog
as it is, or checked ones for which all that is asked for is taken (`Lookups.Shows`).
-/

namespace Schemata

variable {m : Type → Type} [Monad m]

/--
Lookups that give, without any effect, the models and columns of a catalog that are known. The keys
of a known model are known. It may be given with other fields than the catalog has, unless its
fields are to be listed; then they are known too.
-/
structure Lookups.Shows (lookups : Lookups m) (catalog : Catalog) (models listed : ModelId → Prop)
    (columns : Column → Prop) : Prop where
  model : ∀ {id}, models id →
    ∃ fields position, lookups.model id = pure { catalog.model id with fields, position }
  whole : ∀ {id}, listed id → lookups.model id = pure (catalog.model id)
  field : ∀ {column}, columns column → lookups.field column = pure (catalog.field column)
  known : ∀ {id}, listed id → models id
  source : ∀ {column}, columns column → models column.model
  fields : ∀ {id}, listed id → ∀ column ∈ catalog.columns id, columns column
  keys : ∀ {id}, models id → ∀ key ∈ (catalog.model id).uniqueKeys, ∀ field ∈ key,
    columns ⟨id, field⟩

/-- A catalog as it is shows every model and every column. -/
theorem Catalog.lookups_shows (catalog : Catalog) :
    catalog.lookups.Shows catalog (fun _ => True) (fun _ => True) (fun _ => True) where
  model _ := ⟨_, _, rfl⟩
  whole _ := rfl
  field _ := rfl
  known _ := trivial
  source _ := trivial
  fields _ _ _ := trivial
  keys _ _ _ _ _ := trivial

namespace Sql

section Known

variable (models listed : ModelId → Prop) (columns : Column → Prop)

/-- What a projection asks for is known. -/
def ProjectionKnown : Projection → Prop
  | .model id => listed id
  | .field column => columns column

/-- The columns that joins connect are known. -/
def JoinsKnown (joins : List Join) : Prop :=
  ∀ join ∈ joins, columns join.left ∧ columns join.right

/-- The columns that conditions compare are known. -/
def ConditionsKnown (conditions : List Condition) : Prop :=
  ∀ condition ∈ conditions, columns condition.left ∧
    ∀ other, condition.right = .column other → columns other

/-- What a select looks at, apart from its paging, is known. -/
structure SelectKnown (select : Select) : Prop where
  model : models select.model
  projections : ∀ projection ∈ select.projections, ProjectionKnown listed columns projection
  joins : JoinsKnown columns select.joins
  conditions : ConditionsKnown columns select.conditions

end Known

variable [LawfulMonad m] {style : PlaceholderStyle} {α : Type}

namespace Builder

/-! ## Running builders -/

/-- Behind any parameters, a builder writes a fragment and adds its parameters. -/
def Builds (style : PlaceholderStyle) (build : Builder m String) (fragment : Fragment) : Prop :=
  ∀ params : List Param,
    build.run params = pure (fragment.write style params.length, params ++ fragment.params)

/-- Behind any parameters, a builder writes fragments one by one and adds their parameters. -/
def BuildsAll (style : PlaceholderStyle) (build : Builder m (List String))
    (fragments : List Fragment) : Prop :=
  ∀ params : List Param, build.run params =
    pure (Fragment.texts style params.length fragments,
      params ++ fragments.flatMap Fragment.params)

/-- A lookup that finds something binds no parameter. -/
theorem run_lookup {β : Type} {lookup : m β} {found : β} (finds : lookup = pure found)
    (next : β → Builder m α) (params : List Param) :
    ((liftM lookup : Builder m β) >>= next).run params = (next found).run params := by
  rw [finds, liftM_pure, pure_bind]

/-- What is built next starts with the parameters of the fragment in front of it. -/
theorem Builds.run_bind {build : Builder m String} {fragment : Fragment}
    (builds : Builds style build fragment) (next : String → Builder m α) (params : List Param) :
    (build >>= next).run params =
      (next (fragment.write style params.length)).run (params ++ fragment.params) := by
  rw [StateT.run_bind, builds params, pure_bind]

/-- What is built next starts with the parameters of all fragments in front of it. -/
theorem BuildsAll.run_bind {build : Builder m (List String)} {fragments : List Fragment}
    (builds : BuildsAll style build fragments) (next : List String → Builder m α)
    (params : List Param) :
    (build >>= next).run params =
      (next (Fragment.texts style params.length fragments)).run
        (params ++ fragments.flatMap Fragment.params) := by
  rw [StateT.run_bind, builds params, pure_bind]

/-- What is built for each of some items is built one after another. -/
theorem buildsAll_mapM {β : Type} {build : β → Builder m String} {fragment : β → Fragment}
    {items : List β} (each : ∀ item ∈ items, Builds style (build item) (fragment item)) :
    BuildsAll style (items.mapM build) (items.map fragment) := by
  induction items with
  | nil =>
    intro params
    simp [Fragment.texts]
  | cons item items inductionHypothesis =>
    obtain ⟨first, others⟩ := List.forall_mem_cons.1 each
    intro params
    rw [List.mapM_cons, first.run_bind, (inductionHypothesis others).run_bind]
    simp [Fragment.texts]

/-- A placeholder is bound where it is written. -/
theorem builds_bind (dialect : Dialect) (param : Param) :
    Builds dialect.placeholders (bind dialect param : Builder m String) [.param param] := by
  intro params
  simp [bind, Fragment.write]

/-! ## Names -/

section Parts

variable {lookups : Lookups m} {catalog : Catalog} {models listed : ModelId → Prop}
  {columns : Column → Prop} (style) (shows : lookups.Shows catalog models listed columns)

include shows

/-- The table of a known model is built as it is written. -/
theorem builds_table {id : ModelId} (known : models id) :
    Builds style (table lookups id) (tableOf catalog id) := by
  obtain ⟨fields, position, found⟩ := shows.model known
  intro params
  rw [table, run_lookup found]
  simp [tableOf, Fragment.write]

/-- The name of a known column is built as it is written. -/
theorem builds_bare {column : Column} (known : columns column) :
    Builds style (bare lookups column) (bareColumn catalog column) := by
  intro params
  rw [bare, run_lookup (shows.field known)]
  simp [bareColumn, Fragment.write]

/-- A known column is built with its table as it is written. -/
theorem builds_qualified {column : Column} (known : columns column) :
    Builds style (qualified lookups column) (qualifiedColumn catalog column) := by
  intro params
  rw [qualified, (builds_table style shows (shows.source known)).run_bind,
    (builds_bare style shows known).run_bind]
  simp [qualifiedColumn, Fragment.write_append, Fragment.write, String.append_assoc]

/-- Known columns are built one after another as they are written. -/
theorem builds_columnList {list : List Column} (known : ∀ column ∈ list, columns column) :
    Builds style (columnList lookups list) (Sql.columnList catalog list) := by
  have each : ∀ column ∈ list,
      Builds style (qualified lookups column) (qualifiedColumn catalog column) :=
    fun column member => builds_qualified style shows (known column member)
  intro params
  rw [columnList, (buildsAll_mapM each).run_bind]
  simp [Sql.columnList, Fragment.write_separated]

/-- The columns of a model that is listed are those of the catalog. -/
theorem run_fields {id : ModelId} (known : listed id) (next : List Column → Builder m α)
    (params : List Param) :
    (fields lookups id >>= next).run params = (next (catalog.columns id)).run params := by
  rw [fields, bind_assoc, run_lookup (shows.whole known), pure_bind]
  rfl

/-- All columns of a model that is listed are built as they are written. -/
theorem builds_allColumns {id : ModelId} (known : listed id) :
    Builds style (allColumns lookups id) (Sql.columnList catalog (catalog.columns id)) := by
  intro params
  rw [allColumns, run_fields shows known]
  exact builds_columnList style shows (shows.fields known) params

/-- The key of a known model is built as it is written. -/
theorem builds_key {id : ModelId} (known : models id) :
    Builds style (key lookups id) (primaryKey catalog id) := by
  have keyKnown : ∀ column ∈ (catalog.model id).primaryKey.map (Column.mk id), columns column :=
    List.forall_mem_map.2 (shows.keys known _ List.mem_cons_self)
  obtain ⟨fields, position, found⟩ := shows.model known
  intro params
  rw [key, run_lookup found, (builds_columnList style shows keyKnown).run_bind, primaryKey]
  split
  · simp
  · simp [Fragment.write_append, Fragment.write, String.append_assoc]

/-- What a known projection asks for is built as it is written. -/
theorem builds_projection {projection : Projection}
    (known : ProjectionKnown listed columns projection) :
    Builds style (Builder.projection lookups projection)
      (Sql.columnList catalog (projectionColumns catalog projection)) := by
  cases projection with
  | model id => exact builds_allColumns style shows known
  | field column =>
    intro params
    rw [Builder.projection, builds_qualified style shows known]
    rfl

/-- What known projections ask for is built as it is written. -/
theorem builds_projections {list : List Projection}
    (known : ∀ projection ∈ list, ProjectionKnown listed columns projection) :
    Builds style (projections lookups list)
      (Fragment.separated ", " (list.map fun projection =>
        Sql.columnList catalog (projectionColumns catalog projection))) := by
  have each := buildsAll_mapM fun projection member =>
    builds_projection style shows (known projection member)
  intro params
  rw [projections, each.run_bind]
  simp [Fragment.write_separated]

/-! ## Clauses -/

/-- A join of known columns is built as it is written, the table that it brings in first. -/
theorem builds_join {join : Join} (left : columns join.left) (right : columns join.right) :
    Builds style (Builder.join lookups join) (joinClause catalog join) := by
  intro params
  rw [Builder.join, (builds_table style shows (shows.source right)).run_bind,
    (builds_qualified style shows right).run_bind, (builds_qualified style shows left).run_bind]
  simp [joinClause, Fragment.write_append, Fragment.write, String.append_assoc]

/-- Joins of known columns are built as they are written. -/
theorem builds_joins {joined : List Join}
    (known : JoinsKnown columns joined) :
    Builds style (joins lookups joined) (joinClauses catalog joined) := by
  have each : ∀ join ∈ joined, Builds style (Builder.join lookups join) (joinClause catalog join) :=
    fun join member => builds_join style shows (known join member).1 (known join member).2
  have clauses : joinClauses catalog joined = (joined.map (joinClause catalog)).flatten :=
    List.flatMap_def
  intro params
  rw [joins, (buildsAll_mapM each).run_bind, clauses, Fragment.write_flatten,
    Fragment.params_flatten]
  exact StateT.run_pure ..

/-- A condition on known columns is built as it is written, with its parameter if it has one. -/
theorem builds_condition (dialect : Dialect) {condition : Condition}
    (left : columns condition.left)
    (right : ∀ other, condition.right = .column other → columns other) :
    Builds dialect.placeholders (Builder.condition dialect lookups condition)
      (conditionText catalog condition) := by
  have builtLeft := builds_qualified dialect.placeholders shows left
  intro params
  rw [Builder.condition, builtLeft.run_bind]
  obtain ⟨column, op, operand⟩ := condition
  cases operand with
  | placeholder =>
    dsimp only
    rw [(builds_bind dialect _).run_bind]
    simp [conditionText, Fragment.write_append, Fragment.write, String.append_assoc]
  | column other =>
    have builtRight := builds_qualified dialect.placeholders shows (right other rfl)
    dsimp only
    rw [builtRight.run_bind]
    simp [conditionText, Fragment.write_append, Fragment.write, String.append_assoc]
  | literal value =>
    cases value <;> simp [conditionText, Fragment.write_append, Fragment.write, String.append_assoc]

/-- The cursor is bound before its column is written, but a column binds nothing. -/
theorem builds_cursor (dialect : Dialect) {column : Column} (known : columns column) :
    Builds dialect.placeholders (cursor dialect lookups column) (cursorText catalog column) := by
  have builtColumn := builds_qualified dialect.placeholders shows known
  intro params
  rw [cursor, (builds_bind dialect _).run_bind, builtColumn.run_bind,
    Fragment.write_of_params_eq_nil (params_qualifiedColumn catalog column) _ params.length]
  simp [cursorText, Fragment.write_append, Fragment.write, String.append_assoc]

/-- The cursor is bound behind all conditions, and it is written behind them. -/
theorem builds_filter (dialect : Dialect) {conditions : List Condition} {after : Option Column}
    (known : ConditionsKnown columns conditions) (afterKnown : ∀ column ∈ after, columns column) :
    Builds dialect.placeholders (filter dialect lookups conditions after)
      (whereClause (conditions.map (conditionText catalog) ++
        after.toList.map (cursorText catalog))) := by
  have parts : BuildsAll dialect.placeholders
      (conditions.mapM (Builder.condition dialect lookups))
      (conditions.map (conditionText catalog)) :=
    buildsAll_mapM fun condition member =>
      builds_condition shows dialect (known condition member).1 (known condition member).2
  have last : BuildsAll dialect.placeholders (after.toList.mapM (cursor dialect lookups))
      (after.toList.map (cursorText catalog)) :=
    buildsAll_mapM fun column member =>
      builds_cursor shows dialect (afterKnown column (Option.mem_toList.1 member))
  intro params
  rw [filter, parts.run_bind, last.run_bind, List.length_append, ← Fragment.texts_append,
    Fragment.isEmpty_texts, List.append_assoc, ← List.flatMap_append, write_whereClause,
    params_whereClause]
  exact StateT.run_pure ..

/-- Conditions on known columns without a cursor are built as they are written. -/
theorem builds_filterClause (dialect : Dialect) {conditions : List Condition}
    (known : ConditionsKnown columns conditions) :
    Builds dialect.placeholders (filter dialect lookups conditions none)
      (filterClause catalog conditions) := by
  have noCursor : ∀ column ∈ (none : Option Column), columns column := by simp
  have built := builds_filter shows dialect known noCursor
  rwa [Option.toList_none, List.map_nil, List.append_nil] at built

/-- Tables and joins bind nothing, so conditions and cursor are numbered as they are written. -/
theorem builds_source (dialect : Dialect) {id : ModelId} {joined : List Join}
    {conditions : List Condition} {after : Option Column} (idKnown : models id)
    (joinsKnown : JoinsKnown columns joined)
    (known : ConditionsKnown columns conditions) (afterKnown : ∀ column ∈ after, columns column) :
    Builds dialect.placeholders (source dialect lookups id joined conditions after)
      ([.words "FROM "] ++ tableOf catalog id ++ joinClauses catalog joined ++
        whereClause (conditions.map (conditionText catalog) ++
          after.toList.map (cursorText catalog))) := by
  have base := builds_table dialect.placeholders shows idKnown
  have clauses := builds_joins dialect.placeholders shows joinsKnown
  intro params
  rw [source, base.run_bind, clauses.run_bind,
    (builds_filter shows dialect known afterKnown).run_bind]
  simp [Fragment.write_append, Fragment.write, String.append_assoc]

/-- The rows of a query on what is known are built as they are written. -/
theorem builds_sourceClause (dialect : Dialect) {id : ModelId} {joined : List Join}
    {conditions : List Condition} (idKnown : models id)
    (joinsKnown : JoinsKnown columns joined)
    (known : ConditionsKnown columns conditions) :
    Builds dialect.placeholders (source dialect lookups id joined conditions none)
      (sourceClause catalog id joined conditions) := by
  have noCursor : ∀ column ∈ (none : Option Column), columns column := by simp
  have built := builds_source shows dialect idKnown joinsKnown known noCursor
  rwa [Option.toList_none, List.map_nil, List.append_nil] at built

/-- What is returned of a model that is listed binds nothing. -/
theorem builds_returning (dialect : Dialect) {id : ModelId} (known : listed id) :
    Builds dialect.placeholders (returning dialect lookups id)
      (returningClause dialect catalog id) := by
  have names : BuildsAll dialect.placeholders ((catalog.columns id).mapM (bare lookups))
      ((catalog.columns id).map (bareColumn catalog)) :=
    buildsAll_mapM fun column member =>
      builds_bare dialect.placeholders shows (shows.fields known column member)
  intro params
  rw [returning, returningClause]
  split
  · rw [run_fields shows known, names.run_bind]
    simp [Fragment.write, Fragment.write_separated]
  · simp [Fragment.write]

/-! ## Values -/

/-- A value that is given is bound where it is written. -/
theorem builds_value (dialect : Dialect) (given : Field → Bool) {column : Column}
    (known : columns column) :
    Builds dialect.placeholders (value dialect lookups given column)
      (if given (catalog.field column) then [.param (.value column)] else currentTime) := by
  intro params
  rw [value, run_lookup (shows.field known)]
  split
  · exact builds_bind dialect (.value column) params
  · simp [currentTime, Fragment.write]

/-- The value of an assignment is bound before its column is written, which binds nothing. -/
theorem builds_assignment (dialect : Dialect) {column : Column} (known : columns column) :
    Builds dialect.placeholders (Builder.assignment dialect lookups column)
      (Sql.assignment catalog column) := by
  have name := builds_bare dialect.placeholders shows known
  intro params
  rw [Builder.assignment, (builds_value shows dialect (·.updatable) known).run_bind,
    name.run_bind,
    Fragment.write_of_params_eq_nil (params_bareColumn catalog column) _ params.length]
  simp [Sql.assignment, Fragment.write_append, Fragment.write, String.append_assoc]

/-- A column that is inserted binds the parameter of its value, if it has one. -/
theorem run_inserted (dialect : Dialect) {column : Column} (known : columns column)
    (next : String × String → Builder m α) (params : List Param) :
    (inserted dialect lookups column >>= next).run params =
      (next (identifier (catalog.field column).column,
        (insertedValue catalog column).write dialect.placeholders params.length)).run
          (params ++ (insertedValue catalog column).params) := by
  have name := builds_bare dialect.placeholders shows known
  have written : insertedValue catalog column =
      if !(catalog.field column).autoinsert then [.param (.value column)] else currentTime := by
    rw [insertedValue]
    cases (catalog.field column).autoinsert <;> rfl
  rw [inserted, bind_assoc, name.run_bind, bind_assoc,
    (builds_value shows dialect (!·.autoinsert) known).run_bind, pure_bind, written]
  simp [bareColumn, Fragment.write]

/--
The names of the columns of an insert are built in between its values, but they bind nothing, so the
values are numbered as if they stood alone.
-/
theorem run_mapM_inserted (dialect : Dialect) {list : List Column}
    (known : ∀ column ∈ list, columns column) (params : List Param) :
    ∃ entries : List (String × String),
      (list.mapM (inserted dialect lookups)).run params =
        pure (entries, params ++ (list.map (insertedValue catalog)).flatMap Fragment.params) ∧
      entries.map Prod.fst = list.map (fun column => identifier (catalog.field column).column) ∧
      entries.map Prod.snd =
        Fragment.texts dialect.placeholders params.length (list.map (insertedValue catalog)) := by
  induction list generalizing params with
  | nil => exact ⟨[], by simp, rfl, rfl⟩
  | cons column list inductionHypothesis =>
    obtain ⟨first, others⟩ := List.forall_mem_cons.1 known
    obtain ⟨entries, run, names, values⟩ :=
      inductionHypothesis others (params ++ (insertedValue catalog column).params)
    refine ⟨(identifier (catalog.field column).column,
      (insertedValue catalog column).write dialect.placeholders params.length) :: entries,
      ?_, ?_, ?_⟩
    · rw [List.mapM_cons, run_inserted shows dialect first, StateT.run_bind, run, pure_bind]
      simp
    · rw [List.map_cons, names, List.map_cons]
    · rw [List.map_cons, values, List.map_cons, Fragment.texts, List.length_append]

end Parts

/-- The statement of a builder is the reading of the fragment that it builds. -/
theorem Builds.finish_eq {dialect : Dialect} {build : Builder m String} {fragment : Fragment}
    (builds : Builds dialect.placeholders build fragment) :
    finish build = pure (Statement.ofFragment dialect fragment) := by
  rw [finish, builds [], pure_bind]
  rfl

end Builder

/-! ## Statements -/

section Statements

open Builder

variable {lookups : Lookups m} {catalog : Catalog} {models listed : ModelId → Prop}
  {columns : Column → Prop} (shows : lookups.Shows catalog models listed columns)
  (dialect : Dialect)

include shows

omit [LawfulMonad m] in
/-- The fields of a model that some property picks are known columns. -/
theorem known_fieldsWhere {id : ModelId} (known : listed id) (property : Field → Bool) :
    ∀ column ∈ ((catalog.model id).fieldsWhere property).map (Column.mk id), columns column :=
  List.forall_mem_map.2 fun _ member =>
    shows.fields known _ (List.mem_map_of_mem (List.mem_filter.1 member).1)

/-- An insert binds its values in the order of its columns, and nothing behind them. -/
theorem buildInsert_eq {insert : Insert} (known : listed insert.model) :
    buildInsert dialect lookups insert =
      pure (.ofFragment dialect (insertFragment dialect catalog insert)) := by
  apply Builds.finish_eq
  intro params
  obtain ⟨entries, run, names, values⟩ :=
    run_mapM_inserted shows dialect (known_fieldsWhere shows known (!·.autoincrement)) params
  have target := builds_table dialect.placeholders shows (shows.known known)
  rw [run_lookup (shows.whole known)]
  dsimp only
  rw [StateT.run_bind, Model.insertColumns, run, pure_bind, target.run_bind,
    (builds_returning shows dialect known).run_bind, names, values, insertFragment,
    Model.insertColumns, insertedValues]
  generalize ((catalog.model insert.model).fieldsWhere _).map (Column.mk insert.model) = list at *
  have empty : entries.isEmpty = list.isEmpty := by
    rw [← List.isEmpty_map (f := Prod.fst), names, List.isEmpty_map]
  rw [empty]
  split
  · next none =>
    simp [List.isEmpty_iff.1 none, Fragment.write_append, Fragment.write, String.append_assoc]
  · simp only [Fragment.params_append, Fragment.params_separated, flatMap_params_bareColumns]
    simp [Fragment.write_append, Fragment.write_separated, Fragment.write, String.append_assoc]

/-- An update binds its values, and then what its conditions compare with. -/
theorem buildUpdate_eq {update : Update} (known : listed update.model)
    (conditionsKnown : ConditionsKnown columns update.conditions) :
    buildUpdate dialect lookups update =
      pure (.ofFragment dialect (updateFragment dialect catalog update)) := by
  have columnsKnown := known_fieldsWhere shows known
    (fun field => field.updatable || field.autoupdate)
  have assignments := buildsAll_mapM fun column member =>
    builds_assignment shows dialect (columnsKnown column member)
  have target := builds_table dialect.placeholders shows (shows.known known)
  apply Builds.finish_eq
  intro params
  rw [run_lookup (shows.whole known)]
  dsimp only
  rw [Model.updateColumns, assignments.run_bind, target.run_bind,
    (builds_filterClause shows dialect conditionsKnown).run_bind,
    (builds_returning shows dialect known).run_bind, updateFragment, Model.updateColumns]
  generalize ((catalog.model update.model).fieldsWhere _).map (Column.mk update.model) = list
  simp only [Fragment.write_append, Fragment.write_separated, Fragment.params_append,
    Fragment.params_separated]
  simp [Fragment.write, String.append_assoc]

/-- A delete binds what its conditions compare with, also where it looks its rows up. -/
theorem buildDelete_eq {delete : Delete} (known : models delete.model)
    (joinsKnown : JoinsKnown columns delete.joins)
    (conditionsKnown : ConditionsKnown columns delete.conditions) :
    buildDelete dialect lookups delete =
      pure (.ofFragment dialect (deleteFragment catalog delete)) := by
  have target := builds_table dialect.placeholders shows known
  have doomed := builds_key dialect.placeholders shows known
  apply Builds.finish_eq
  intro params
  rw [target.run_bind, deleteFragment]
  split
  · rw [(builds_filterClause shows dialect conditionsKnown).run_bind]
    simp [Fragment.write_append, Fragment.write, String.append_assoc]
  · rw [doomed.run_bind, (builds_sourceClause shows dialect known joinsKnown
      conditionsKnown).run_bind]
    simp [Fragment.write_append, Fragment.write, String.append_assoc]

/-- A count binds what its conditions compare with. -/
theorem buildCount_eq {count : Count} (known : models count.model)
    (joinsKnown : JoinsKnown columns count.joins)
    (conditionsKnown : ConditionsKnown columns count.conditions) (has : Bool) :
    buildCount dialect lookups count has =
      pure (.ofFragment dialect
        (if has then hasFragment catalog count else countFragment catalog count)) := by
  have rows := builds_sourceClause shows dialect known joinsKnown conditionsKnown
  apply Builds.finish_eq
  intro params
  rw [rows.run_bind]
  cases has <;>
    simp [countFragment, hasFragment, Fragment.write_append, Fragment.write, String.append_assoc]

/-- The identity is bound before anything is written, but nothing else binds a parameter. -/
theorem buildGetLast_eq {id : ModelId} (known : listed id) (identity : String) :
    buildGetLast dialect lookups id identity =
      pure (.ofFragment dialect (getLastFragment catalog id identity)) := by
  have columnsBuilt := builds_allColumns dialect.placeholders shows known
  have base := builds_table dialect.placeholders shows (shows.known known)
  apply Builds.finish_eq
  intro params
  rw [(builds_bind dialect .rowId).run_bind, columnsBuilt.run_bind, base.run_bind]
  simp [getLastFragment, Fragment.write_append, Fragment.write, String.append_assoc]

/-- The lookup of a row binds what the conditions of its update compare with. -/
theorem buildRowLookup_eq {update : Update} (known : models update.model)
    (conditionsKnown : ConditionsKnown columns update.conditions) (identity : String) :
    buildRowLookup dialect lookups update identity =
      pure (.ofFragment dialect (rowLookupFragment catalog update identity)) := by
  have base := builds_table dialect.placeholders shows known
  apply Builds.finish_eq
  intro params
  rw [base.run_bind, (builds_filterClause shows dialect conditionsKnown).run_bind]
  simp [rowLookupFragment, Fragment.write_append, Fragment.write, String.append_assoc]

/-- A select binds what its conditions compare with. -/
theorem buildSelect_none_eq {select : Select} (known : SelectKnown models listed columns select) :
    buildSelect dialect lookups select none =
      pure (.ofFragment dialect (selectFragment catalog select)) := by
  have list := builds_projections dialect.placeholders shows known.projections
  have rows := builds_sourceClause shows dialect known.model known.joins known.conditions
  apply Builds.finish_eq
  intro params
  rw [list.run_bind, Option.map_none, rows.run_bind]
  simp [selectFragment, selectList, Fragment.write_append, Fragment.write, String.append_assoc]

/-- A page binds what its conditions compare with, and then its cursor. -/
theorem buildSelect_some_eq {select : Select} (known : SelectKnown models listed columns select)
    {paging : Paging} (pagingKnown : columns paging.column) :
    buildSelect dialect lookups select (some paging) =
      pure (.ofFragment dialect (pageFragment dialect catalog select paging)) := by
  have list := builds_projections dialect.placeholders shows known.projections
  have cursorKnown : ∀ column ∈ some paging.column, columns column := by simpa using pagingKnown
  have rows := builds_source shows dialect known.model known.joins known.conditions cursorKnown
  have ordered := builds_qualified dialect.placeholders shows pagingKnown
  have blank : ∀ text : String, " " ++ ("FROM " ++ text) = " FROM " ++ text := by
    intro text
    rw [← String.append_assoc]
    rfl
  apply Builds.finish_eq
  intro params
  rw [list.run_bind, Option.map_some, rows.run_bind, ordered.run_bind, pageFragment, selectList]
  simp [Fragment.write_append, Fragment.write, String.append_assoc, blank]

end Statements

/-! ## Statements of a catalog as it is -/

section Catalogs

variable (dialect : Dialect) (catalog : Catalog)

/-- Where every column is known, all joins are. -/
theorem joinsKnown_all (joins : List Join) : JoinsKnown (fun _ => True) joins :=
  fun _ _ => ⟨trivial, trivial⟩

/-- Where every column is known, all conditions are. -/
theorem conditionsKnown_all (conditions : List Condition) :
    ConditionsKnown (fun _ => True) conditions :=
  fun _ _ => ⟨trivial, fun _ _ => trivial⟩

/-- Where every model and column is known, all selects are. -/
theorem selectKnown_all (select : Select) :
    SelectKnown (fun _ => True) (fun _ => True) (fun _ => True) select where
  model := trivial
  projections projection _ := by cases projection <;> trivial
  joins := joinsKnown_all _
  conditions := conditionsKnown_all _

/-- The statement of a select is the reading of its fragment. -/
theorem selectAll_eq (select : Select) :
    selectAll dialect catalog select = .ofFragment dialect (selectFragment catalog select) :=
  buildSelect_none_eq catalog.lookups_shows dialect (selectKnown_all select)

/-- The statement of a page is the reading of its fragment. -/
theorem selectPage_eq (select : Select) (paging : Paging) :
    selectPage dialect catalog select paging =
      .ofFragment dialect (pageFragment dialect catalog select paging) :=
  buildSelect_some_eq catalog.lookups_shows dialect (selectKnown_all select) trivial

/-- The statement of an insert is the reading of its fragment. -/
theorem insertStatement_eq (insert : Insert) :
    insertStatement dialect catalog insert =
      .ofFragment dialect (insertFragment dialect catalog insert) :=
  buildInsert_eq catalog.lookups_shows dialect trivial

/-- The statement of an update is the reading of its fragment. -/
theorem updateStatement_eq (update : Update) :
    updateStatement dialect catalog update =
      .ofFragment dialect (updateFragment dialect catalog update) :=
  buildUpdate_eq catalog.lookups_shows dialect trivial (conditionsKnown_all _)

/-- The statement of a delete is the reading of its fragment. -/
theorem deleteStatement_eq (delete : Delete) :
    deleteStatement dialect catalog delete =
      .ofFragment dialect (deleteFragment catalog delete) :=
  buildDelete_eq catalog.lookups_shows dialect trivial (joinsKnown_all _) (conditionsKnown_all _)

/-- The statement of a count is the reading of its fragment. -/
theorem countStatement_eq (count : Count) :
    countStatement dialect catalog count = .ofFragment dialect (countFragment catalog count) :=
  buildCount_eq catalog.lookups_shows dialect trivial (joinsKnown_all _) (conditionsKnown_all _)
    false

/-- The statement that asks for a row is the reading of its fragment. -/
theorem hasStatement_eq (count : Count) :
    hasStatement dialect catalog count = .ofFragment dialect (hasFragment catalog count) :=
  buildCount_eq catalog.lookups_shows dialect trivial (joinsKnown_all _) (conditionsKnown_all _)
    true

/--
The statement that reads a row back is the reading of its fragment, if there is a column for it.
-/
theorem getLastStatement_eq (id : ModelId) :
    getLastStatement dialect catalog id = (readBackColumn dialect catalog id).map fun column =>
      .ofFragment dialect (getLastFragment catalog id column) := by
  unfold getLastStatement
  cases readBackColumn dialect catalog id with
  | error fault => rfl
  | ok column =>
    exact congrArg Except.ok (buildGetLast_eq catalog.lookups_shows dialect trivial column)

/--
The statement that looks a row up is the reading of its fragment, if there is a column for it.
-/
theorem rowLookupStatement_eq (update : Update) :
    rowLookupStatement dialect catalog update =
      (readBackColumn dialect catalog update.model).map fun column =>
        .ofFragment dialect (rowLookupFragment catalog update column) := by
  unfold rowLookupStatement
  cases readBackColumn dialect catalog update.model with
  | error fault => rfl
  | ok column =>
    exact congrArg Except.ok
      (buildRowLookup_eq catalog.lookups_shows dialect trivial (conditionsKnown_all _) column)

end Catalogs

end Sql

end Schemata
