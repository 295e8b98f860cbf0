import Schemata.Proofs.Access.Tasks
import Schemata.Proofs.Analysis.Numbers
import Schemata.Proofs.Sql.Placeholders

/-!
# Rendering over lookups

Statements are built over lookups, of which it is left open how they end. Here the same is done for
table definitions, names, arguments and methods: every model and every field that is read is looked
up, one after another, and nothing else of a catalog is seen. If the numbers of a plan are taken in
its own catalog, lookups that show what is taken there give what another catalog gives of that
(`methods_eq`, `schemaText_eq`). The other catalog has to agree on the fields of a model only where
they are all listed.
-/

namespace Schemata

/-! ## What is taken -/

section Taken

variable {catalog : Catalog}

/-- The columns of a model that is taken are taken. -/
theorem Catalog.HasModel.hasColumn {id : ModelId} (taken : catalog.HasModel id) {field : FieldId}
    (member : field ∈ (catalog.model id).fieldIds) : catalog.HasColumn ⟨id, field⟩ :=
  ⟨taken, List.mem_range.1 member⟩

/-- Where all columns of a model are listed, they are taken. -/
theorem Catalog.HasModel.columns {id : ModelId} (taken : catalog.HasModel id) :
    ∀ column ∈ catalog.columns id, catalog.HasColumn column :=
  List.forall_mem_map.2 fun _ member => taken.hasColumn member

/-- The keys of a model that is taken are made of its fields. -/
theorem Catalog.InRange.keysInRange (inRange : catalog.InRange) {id : ModelId}
    (taken : catalog.HasModel id) : (catalog.model id).KeysInRange :=
  inRange.keys _ taken.mem_models

/-- Joins that are taken are known. -/
theorem RowsInRange.joinsKnown {model : ModelId} {joins : List Join} {conditions : List Condition}
    (rows : RowsInRange catalog model joins conditions) :
    Sql.JoinsKnown catalog.HasColumn joins :=
  fun join member => ⟨(rows.joins join member).left, (rows.joins join member).right⟩

/-- Conditions that are taken are known. -/
theorem RowsInRange.conditionsKnown {model : ModelId} {joins : List Join}
    {conditions : List Condition} (rows : RowsInRange catalog model joins conditions) :
    Sql.ConditionsKnown catalog.HasColumn conditions := by
  intro condition member
  refine ⟨(rows.conditions condition member).left, fun other isColumn => ?_⟩
  have right := (rows.conditions condition member).right
  rw [isColumn] at right
  exact right

/-- The models all of whose fields a projection lists. -/
def Projection.listed : Projection → List ModelId
  | .model id => [id]
  | .field _ => []

/-- The models all of whose fields a select lists. -/
def Select.listed (select : Select) : List ModelId :=
  select.projections.flatMap Projection.listed

/-- The models all of whose fields a select lists are taken. -/
theorem Select.InRange.hasModel_listed {select : Select} (inRange : select.InRange catalog) :
    ∀ id ∈ select.listed, catalog.HasModel id := by
  refine List.forall_mem_flatMap.2 fun projection member => ?_
  have taken := inRange.projections projection member
  cases projection with
  | model id => exact List.forall_mem_singleton.2 taken
  | field column => exact List.forall_mem_nil _

/-- A select that is taken is known, if the models that it lists are. -/
theorem Select.InRange.known {listed : ModelId → Prop} {select : Select}
    (inRange : select.InRange catalog) (lists : ∀ id ∈ select.listed, listed id) :
    Sql.SelectKnown catalog.HasModel listed catalog.HasColumn select where
  model := inRange.rows.model
  projections projection member := by
    have taken := inRange.projections projection member
    cases projection with
    | model id => exact lists id (List.mem_flatMap.2 ⟨.model id, member, List.mem_cons_self⟩)
    | field column => exact taken
  joins := inRange.rows.joinsKnown
  conditions := inRange.rows.conditionsKnown

/-- The models all of whose fields are listed for a plan have some property. -/
structure Plan.Lists (plan : Plan) (listed : ModelId → Prop) : Prop where
  inserts : ∀ insert ∈ plan.inserts, listed insert.model
  selects : ∀ select ∈ plan.selects, ∀ id ∈ select.listed, listed id
  updates : ∀ update ∈ plan.updates, listed update.model
  targets : ∀ id ∈ plan.returningTargets, listed id

/-- The models all of whose fields are listed for a plan are taken. -/
theorem Plan.InRange.lists {plan : Plan} (inRange : plan.InRange) : plan.Lists plan.HasModel where
  inserts := inRange.inserts
  selects select member := (inRange.selects select member).hasModel_listed
  updates update member := (inRange.updates update member).model
  targets := inRange.targets

namespace Sql

/-- The column that a parameter is for is taken. -/
def Param.InRange (catalog : Catalog) : Param → Prop
  | .value column => catalog.HasColumn column
  | .filter column => catalog.HasColumn column
  | .cursor column => catalog.HasColumn column
  | .rowId => True

/-- Conditions on columns that are taken have parameters for columns that are taken. -/
theorem filterParams_inRange {conditions : List Condition}
    (inRange : ∀ condition ∈ conditions, condition.InRange catalog) :
    ∀ param ∈ filterParams conditions, param.InRange catalog :=
  List.forall_mem_map.2 fun condition member =>
    (inRange condition (List.mem_filter.1 member).1).left

/-- The values of a model whose columns are taken are parameters for columns that are taken. -/
theorem valueParams_inRange {shown : Catalog} {id : ModelId}
    (taken : ∀ column ∈ shown.columns id, catalog.HasColumn column) (property : Field → Bool) :
    ∀ param ∈ valueParams id ((shown.model id).fieldsWhere property), param.InRange catalog :=
  List.forall_mem_map.2 fun _ member =>
    taken _ (List.mem_map_of_mem (List.mem_filter.1 member).1)

end Sql

namespace Access

open Sql (Dialect Param Statement)

/-- The numbers that a task is about are taken. -/
def Task.InRange (catalog : Catalog) : Task → Prop
  | insert query => catalog.HasModel query.model
  | rows query => query.InRange catalog
  | page query paging => query.InRange catalog ∧ query.paging = some paging
  | count query => RowsInRange catalog query.model query.joins query.conditions
  | has query => RowsInRange catalog query.model query.joins query.conditions
  | update query => RowsInRange catalog query.model [] query.conditions
  | delete query => RowsInRange catalog query.model query.joins query.conditions
  | readBack model => catalog.HasModel model

/-- The tasks of a plan in range are in range. -/
theorem tasks_inRange {plan : Plan} (inRange : plan.InRange) (dialect : Dialect) :
    ∀ task ∈ tasks dialect plan, task.InRange plan.toCatalog := by
  simp only [tasks, queryTasks, List.forall_mem_append, List.forall_mem_map,
    List.forall_mem_flatMap]
  refine ⟨⟨⟨⟨⟨inRange.inserts, fun select member => ?_⟩, fun count member => ?_⟩,
    inRange.updates⟩, inRange.deletes⟩, fun id member => ?_⟩
  · refine List.forall_mem_cons.2 ⟨inRange.selects select member, fun task paged => ?_⟩
    split at paged
    · cases paged
    · obtain ⟨paging, isPaged, rfl⟩ := Option.map_eq_some_iff.1 (Option.mem_toList.1 paged)
      exact ⟨inRange.selects select member, isPaged⟩
  · exact List.forall_mem_cons.2
      ⟨inRange.counts count member, List.forall_mem_singleton.2 (inRange.counts count member)⟩
  · unfold readBackModels at member
    split at member
    · cases member
    · exact inRange.targets id member

/-- The models all of whose fields a task lists. -/
def Task.listed : Task → List ModelId
  | insert query => [query.model]
  | rows query => query.listed
  | page query _ => query.listed
  | count _ => []
  | has _ => []
  | update query => [query.model]
  | delete _ => []
  | readBack model => [model]

/-- The models all of whose fields a task lists are taken. -/
theorem Task.hasModel_listed {task : Task} (inRange : task.InRange catalog) :
    ∀ id ∈ task.listed, catalog.HasModel id := by
  cases task with
  | insert query => exact List.forall_mem_singleton.2 inRange
  | rows query => exact inRange.hasModel_listed
  | page query paging => exact inRange.1.hasModel_listed
  | count query => exact List.forall_mem_nil _
  | has query => exact List.forall_mem_nil _
  | update query => exact List.forall_mem_singleton.2 inRange.model
  | delete query => exact List.forall_mem_nil _
  | readBack model => exact List.forall_mem_singleton.2 inRange

/-- The columns of the models all of whose fields a task lists are taken. -/
theorem Task.hasColumn_listed {task : Task} (inRange : task.InRange catalog) :
    ∀ id ∈ task.listed, ∀ column ∈ catalog.columns id, catalog.HasColumn column :=
  fun id member => (task.hasModel_listed inRange id member).columns

/-- The parameters of a statement are for columns that are taken, if those that are listed are. -/
theorem Task.params_inRange {dialect : Dialect} {shown : Catalog} (task : Task)
    (inRange : task.InRange catalog)
    (listed : ∀ id ∈ task.listed, ∀ column ∈ shown.columns id, catalog.HasColumn column)
    {statement : Statement} (made : task.statement dialect shown = .ok statement) :
    ∀ param ∈ statement.params, param.InRange catalog := by
  cases task with
  | insert query =>
      cases made
      rw [(Sql.insertStatement_binds dialect shown query).listed]
      exact Sql.valueParams_inRange (listed _ List.mem_cons_self) _
  | rows query =>
      cases made
      rw [(Sql.selectAll_binds dialect shown query).listed]
      exact Sql.filterParams_inRange inRange.rows.conditions
  | page query paging =>
      cases made
      rw [(Sql.selectPage_binds dialect shown query paging).listed]
      exact List.forall_mem_append.2 ⟨Sql.filterParams_inRange inRange.1.rows.conditions,
        List.forall_mem_singleton.2 (inRange.1.paging paging inRange.2)⟩
  | count query =>
      cases made
      rw [(Sql.countStatement_binds dialect shown query).listed]
      exact Sql.filterParams_inRange inRange.conditions
  | has query =>
      cases made
      rw [(Sql.hasStatement_binds dialect shown query).listed]
      exact Sql.filterParams_inRange inRange.conditions
  | update query =>
      cases made
      rw [(Sql.updateStatement_binds dialect shown query).listed]
      exact List.forall_mem_append.2 ⟨Sql.valueParams_inRange (listed _ List.mem_cons_self) _,
        Sql.filterParams_inRange inRange.conditions⟩
  | delete query =>
      cases made
      rw [(Sql.deleteStatement_binds dialect shown query).listed]
      exact Sql.filterParams_inRange inRange.conditions
  | readBack model =>
      rw [Task.statement, Sql.getLastStatement_eq] at made
      obtain ⟨column, -, rfl⟩ := map_eq_ok_iff.1 made
      simp [Statement.ofFragment, Sql.getLastFragment, Param.InRange]

end Access

end Taken

/-! ## Items one after another -/

section Items

variable {m : Type → Type} [Monad m] [LawfulMonad m] {α β : Type}

/-- What is done for each of some items is the same if it is for each of them. -/
theorem mapM_congr {first second : α → m β} {items : List α}
    (same : ∀ item ∈ items, first item = second item) : items.mapM first = items.mapM second := by
  induction items with
  | nil => rfl
  | cons item items inductionHypothesis =>
      rw [List.forall_mem_cons] at same
      rw [List.mapM_cons, List.mapM_cons, same.1, inductionHypothesis same.2]

/-- Where each of some items is found without any effect, all of them are. -/
theorem mapM_eq_pure {look : α → m β} {found : α → β} {items : List α}
    (each : ∀ item ∈ items, look item = pure (found item)) :
    items.mapM look = pure (items.map found) :=
  (mapM_congr each).trans List.mapM_pure

end Items

namespace Lookups

open Access Sql

variable {m : Type → Type} [Monad m] (lookups : Lookups m)

/-! ## Table definitions -/

/-- The names of fields of a model with commas between them. -/
def fieldNames (id : ModelId) (fields : List FieldId) : m String := do
  let found ← fields.mapM fun field => lookups.field ⟨id, field⟩
  return ", ".intercalate (found.map fun field => identifier field.column)

/-- The line of a key of a model. -/
def keyLine (kind : String) (id : ModelId) (key : List FieldId) : m String := do
  let names ← lookups.fieldNames id key
  return kind ++ " ( " ++ names ++ " )"

/-- The line of a relation. -/
def relationLine (relation : Relation) : m String := do
  let left ← lookups.fieldNames relation.left.model [relation.left.field]
  let target ← lookups.model relation.right.model
  let right ← lookups.fieldNames relation.right.model [relation.right.field]
  return "FOREIGN KEY ( " ++ left ++ " ) REFERENCES " ++ identifier target.table ++
    " ( " ++ right ++ " )" ++
    (match relation.onDelete with
      | some action => " ON DELETE " ++ action.sql
      | none => "")

/-- The definition of a model's table, from the relations that leave the model. -/
def tableDefinition (dialect : Dialect) (outgoing : List Relation) (id : ModelId) :
    m String := do
  let model ← lookups.model id
  let primary ← lookups.keyLine "PRIMARY KEY" id model.primaryKey
  let uniques ← model.unique.mapM (lookups.keyLine "UNIQUE" id)
  let relations ← outgoing.mapM lookups.relationLine
  return "CREATE TABLE " ++ identifier model.table ++ " (\n    " ++
    ",\n    ".intercalate (model.fields.map (columnLine dialect) ++ [primary] ++ uniques ++
      relations) ++ "\n)"

/-- The definitions of all tables of a catalog. -/
def schemaText (dialect : Dialect) (catalog : Catalog) : m String := do
  let tables ← catalog.modelIds.mapM fun id =>
    lookups.tableDefinition dialect (catalog.outgoing id) id
  return "\n".intercalate (tables.map (· ++ ";\n"))

/-! ## Names -/

/-- A column by its model and field. -/
def columnName (column : Column) : m String := do
  let model ← lookups.model column.model
  let field ← lookups.field column
  return Text.snakeCase (model.name ++ "_" ++ field.name)

/-- The name of a condition. -/
def conditionName (condition : Condition) : m String := do
  let left ← lookups.columnName condition.left
  let op := comparisonSuffix condition.op
  match condition.right with
  | .placeholder => return left ++ op
  | .literal .null => return left ++ (if condition.op = .eq then "_is_null" else "_is_not_null")
  | .literal value => return left ++ op ++ literalSuffix value
  | .column other =>
    let right ← lookups.columnName other
    return left ++ op ++ "_" ++ right

/-- The name of a function: what it does, to what, and under which conditions. -/
def methodName (verb subject : String) (conditions : List Condition) : m String := do
  let names ← conditions.mapM lookups.conditionName
  let filter := if names.isEmpty then "" else "_by" ++ String.join (names.map ("_" ++ ·))
  return safeName (verb ++ "_" ++ subject ++ filter)

/-- What a query on a model is named for. -/
def modelSubject (id : ModelId) : m String := do
  let model ← lookups.model id
  return Text.snakeCase model.name

/-- What a projection adds to the name of its select. -/
def projectionSubject : Projection → m String
  | .model id => lookups.modelSubject id
  | .field column => lookups.columnName column

/-- What a select is named for: everything it asks for. -/
def selectSubject (select : Select) : m String := do
  let parts ← select.projections.mapM lookups.projectionSubject
  return "_".intercalate parts

/-! ## Types and arguments -/

/-- The member of a projection, under the name that it is to have if it is free. -/
def projectionMember : Projection → m Member
  | .model id => do
    let model ← lookups.model id
    return ⟨safeName model.name, structName model.name, true⟩
  | .field column => do
    let name ← lookups.columnName column
    let field ← lookups.field column
    return ⟨safeName name, fieldType field, false⟩

/-- The members of the struct of several projections. -/
def projectionMembers (projections : List Projection) : m (List Member) := do
  let members ← projections.mapM lookups.projectionMember
  return List.zipWith (fun name (member : Member) => { member with name })
    (claimNames [] (members.map (·.name))) members

/-- What a row of some shape is decoded into. -/
def rowType : ResultShape → m RowType
  | .model id => do
    let model ← lookups.model id
    return ⟨structName model.name, true⟩
  | .field column => do
    let field ← lookups.field column
    return ⟨fieldType field, false⟩
  | .record name _ => return ⟨name, true⟩

/-- The argument of a parameter, under the name that it is to have if it is free. -/
def argument : Param → m Argument
  | .value column => do
    let field ← lookups.field column
    return ⟨safeName field.name, fieldType field⟩
  | .filter column => do
    let name ← lookups.columnName column
    let field ← lookups.field column
    return ⟨safeName name, valueType field.type⟩
  | .cursor column => do
    let field ← lookups.field column
    return ⟨"after", valueType field.type⟩
  | .rowId => return ⟨"rowid", "i64"⟩

/-- The arguments for the parameters of a statement, in order. -/
def argumentsFor (params : List Param) : m (List Argument) := do
  let arguments ← params.mapM lookups.argument
  return List.zipWith (fun name (argument : Argument) => { argument with name })
    (claimNames [] (arguments.map (·.name))) arguments

/-- The names of the arguments that columns are compared with, in order. -/
def filterNames (params : List Param) : m (List String) := do
  let arguments ← lookups.argumentsFor params
  return (List.zipWith (fun (argument : Argument) param =>
    if isFilter param then [argument.name] else []) arguments params).flatten

/-! ## Reading back -/

/-- What is built on the column by which rows of a model are read back. -/
def readBackBy (dialect : Dialect) (id : ModelId) (build : String → m Statement) :
    m (Except DialectError Statement) :=
  match dialect.readBackColumn? with
  | some column => do
    let statement ← build column
    return .ok statement
  | none => do
    let model ← lookups.model id
    return .error (.noFallback dialect.name model.name)

/-- The statement that reads a written row by its identity. -/
def getLastStatement (dialect : Dialect) (id : ModelId) : m (Except DialectError Statement) :=
  lookups.readBackBy dialect id (buildGetLast dialect lookups id)

/-- The statement that finds the identity of the row that an update is about. -/
def rowLookupStatement (dialect : Dialect) (update : Update) :
    m (Except DialectError Statement) :=
  lookups.readBackBy dialect update.model (buildRowLookup dialect lookups update)

/-- The statement of a task. -/
def statement (dialect : Dialect) : Task → m (Except DialectError Statement)
  | .insert query => Except.ok <$> buildInsert dialect lookups query
  | .rows query => Except.ok <$> buildSelect dialect lookups query none
  | .page query paging => Except.ok <$> buildSelect dialect lookups query (some paging)
  | .count query => Except.ok <$> buildCount dialect lookups query false
  | .has query => Except.ok <$> buildCount dialect lookups query true
  | .update query => Except.ok <$> buildUpdate dialect lookups query
  | .delete query => Except.ok <$> buildDelete dialect lookups query
  | .readBack model => lookups.getLastStatement dialect model

/-! ## Methods -/

/-- A method that runs a statement. -/
def methodFor (kind : MethodKind) (name : String) (statement : Statement) (returns : String)
    (row : Option RowType) (readBack : Option ReadBack) : m Method := do
  let arguments ← lookups.argumentsFor statement.params
  return {
    kind, name
    exported := kind ≠ .getLast
    arguments
    sql := statement.sql
    binds := arguments.map (·.name)
    returns, row, readBack }

/-- Hand out the names of the methods that read rows back, if the dialect needs them. -/
def getLastNames (dialect : Dialect) (targets : List ModelId) : m GetLastNames := do
  if dialect.returning then
    return []
  else
    let models ← targets.mapM lookups.model
    return targets.zip (claimNames [] (models.map fun model =>
      safeName ("get_last_" ++ model.name)))

section Queries

variable (dialect : Dialect) (names : GetLastNames)

/-- The method of an insert. -/
def insertMethod (insert : Insert) : m Method := do
  let model ← lookups.model insert.model
  let statement ← buildInsert dialect lookups insert
  let row ← lookups.rowType (.model insert.model)
  lookups.methodFor .insert (safeName ("create_" ++ model.name)) statement
    (structName model.name) (some row) (readBack? names insert.model)

/-- The method of the next page of a select, if it has pages. -/
def pageMethods (select : Select) (subject : String) (row : RowType) : m (List Method) :=
  select.paging.toList.mapM fun paging => do
    let page ← buildSelect dialect lookups select (some paging)
    let name ← lookups.methodName "paged" subject select.conditions
    lookups.methodFor .selectPage name page (vectorOf row.type) (some row) none

/-- The methods of a select: one row, or all rows and, where it has pages, the next page. -/
def selectMethods (select : Select) : m (List Method) := do
  let subject ← lookups.selectSubject select
  let row ← lookups.rowType select.result
  let all ← buildSelect dialect lookups select none
  match select.cardinality with
  | .one =>
    let name ← lookups.methodName "get" subject select.conditions
    let first ← lookups.methodFor .selectOne name all (optionOf row.type) (some row) none
    return [first]
  | .many =>
    let name ← lookups.methodName "all" subject select.conditions
    let first ← lookups.methodFor .selectAll name all (vectorOf row.type) (some row) none
    let pages ← lookups.pageMethods dialect select subject row
    return first :: pages

/-- The methods of a count: the number of rows, and whether there is one. -/
def countMethods (count : Count) : m (List Method) := do
  let subject ← lookups.modelSubject count.model
  let total ← buildCount dialect lookups count false
  let totalName ← lookups.methodName "count" subject count.conditions
  let counts ← lookups.methodFor .count totalName total "i64" (some ⟨"i64", false⟩) none
  let has ← buildCount dialect lookups count true
  let hasName ← lookups.methodName "has" subject count.conditions
  let asks ← lookups.methodFor .has hasName has "bool" (some ⟨"bool", false⟩) none
  return [counts, asks]

/-- How the row of an update is read back: it is looked up by the update's own conditions. -/
def updateReadBack (update : Update) (statement : Statement) :
    m (Except DialectError (Option ReadBack)) :=
  match readBack? names update.model with
  | none => return .ok none
  | some readBack => do
    let lookup ← lookups.rowLookupStatement dialect update
    let filters ← lookups.filterNames statement.params
    return lookup.map fun lookup => some { readBack with lookup := some ⟨lookup.sql, filters⟩ }

/-- The method of an update. -/
def updateMethod (update : Update) : m (Except DialectError Method) := do
  let statement ← buildUpdate dialect lookups update
  let subject ← lookups.modelSubject update.model
  let readBack ← lookups.updateReadBack dialect names update statement
  let name ← lookups.methodName "update" subject update.conditions
  let row ← lookups.rowType (.model update.model)
  match readBack with
  | .error fault => return .error fault
  | .ok readBack =>
    let method ← lookups.methodFor .update name statement (optionOf row.type) (some row) readBack
    return .ok method

/-- The method of a delete. -/
def deleteMethod (delete : Delete) : m Method := do
  let subject ← lookups.modelSubject delete.model
  let statement ← buildDelete dialect lookups delete
  let name ← lookups.methodName "delete" subject delete.conditions
  match delete.cardinality with
  | .one => lookups.methodFor .deleteOne name statement "bool" none none
  | .many => lookups.methodFor .deleteAll name statement "u64" none none

/-- The method that reads a row of a model by its identity. -/
def getLastMethod (id : ModelId) (name : String) : m (Except DialectError Method) := do
  let row ← lookups.rowType (.model id)
  let statement ← lookups.getLastStatement dialect id
  match statement with
  | .error fault => return .error fault
  | .ok statement =>
    let method ← lookups.methodFor .getLast name statement row.type (some row) none
    return .ok method

end Queries

/-- The methods of all queries, before names are handed out. -/
def draftMethods (dialect : Dialect) (plan : Plan) (names : GetLastNames) :
    m (Except DialectError (List Method)) := do
  let inserts ← plan.inserts.mapM (lookups.insertMethod dialect names)
  let selects ← plan.selects.mapM (lookups.selectMethods dialect)
  let counts ← plan.counts.mapM (lookups.countMethods dialect)
  let updates ← plan.updates.mapM (lookups.updateMethod dialect names)
  let deletes ← plan.deletes.mapM (lookups.deleteMethod dialect)
  return (updates.mapM id).map fun updates =>
    inserts ++ selects.flatten ++ counts.flatten ++ updates ++ deletes

/-- The methods of a plan in a dialect, in the order they are written. -/
def methods (dialect : Dialect) (plan : Plan) : m (Except DialectError (List Method)) := do
  let names ← lookups.getLastNames dialect plan.returningTargets
  let drafts ← lookups.draftMethods dialect plan names
  let readers ← names.mapM fun entry => lookups.getLastMethod dialect entry.1 entry.2
  return do
    let drafts ← drafts
    let readers ← readers.mapM id
    return nameMethods (names.map (·.2)) drafts ++ readers

/-- The structs of selects of several projections; of one name, only the first. -/
def resultStructs : List String → List Select → m (List Struct)
  | _, [] => return []
  | seen, select :: selects =>
    match select.result with
    | .record name members => do
      if seen.contains name then
        resultStructs seen selects
      else
        let first ← lookups.projectionMembers members
        let others ← resultStructs (name :: seen) selects
        return ⟨name, first⟩ :: others
    | _ => resultStructs seen selects

/-! ## Lookups that show what is taken -/

section Equalities

variable {lookups} [LawfulMonad m] {catalog shown : Catalog} {listed : ModelId → Prop}
  (shows : lookups.Shows shown catalog.HasModel listed catalog.HasColumn)

include shows

/-- The names of fields that are taken are found. -/
theorem fieldNames_eq {id : ModelId} {fields : List FieldId}
    (taken : ∀ field ∈ fields, catalog.HasColumn ⟨id, field⟩) :
    lookups.fieldNames id fields = pure (Sql.fieldNames (shown.model id) fields) := by
  have found := mapM_eq_pure fun field member => shows.field (taken field member)
  rw [fieldNames, found, pure_bind, Sql.fieldNames, List.map_map]
  rfl

/-- The line of a key of fields that are taken is found. -/
theorem keyLine_eq (kind : String) {id : ModelId} {key : List FieldId}
    (taken : ∀ field ∈ key, catalog.HasColumn ⟨id, field⟩) :
    lookups.keyLine kind id key = pure (Sql.keyLine kind (shown.model id) key) := by
  rw [keyLine, fieldNames_eq shows taken, pure_bind, Sql.keyLine]

/-- The line of a relation between columns that are taken is found. -/
theorem relationLine_eq {relation : Relation} (left : catalog.HasColumn relation.left)
    (right : catalog.HasColumn relation.right) :
    lookups.relationLine relation = pure (Sql.relationLine shown relation) := by
  have leftName := fieldNames_eq shows (List.forall_mem_singleton.2 left)
  have rightName := fieldNames_eq shows (List.forall_mem_singleton.2 right)
  obtain ⟨fields, position, found⟩ := shows.model right.1
  rw [relationLine, leftName, pure_bind, found, pure_bind, rightName, pure_bind]
  rfl

/-- The definition of a table is found, its keys and relations being taken. -/
theorem tableDefinition_eq (dialect : Dialect) {id : ModelId} (lists : listed id)
    (relationsTaken : ∀ relation ∈ shown.relations,
      catalog.HasColumn relation.left ∧ catalog.HasColumn relation.right) :
    lookups.tableDefinition dialect (shown.outgoing id) id =
      pure (Sql.tableDefinition dialect shown id) := by
  have keys := shows.keys (shows.known lists)
  have primary := keyLine_eq shows "PRIMARY KEY" (keys _ List.mem_cons_self)
  have uniques := mapM_eq_pure fun key member =>
    keyLine_eq shows "UNIQUE" (keys key (List.mem_cons_of_mem _ member))
  have relations := mapM_eq_pure fun relation (member : relation ∈ shown.outgoing id) =>
    relationLine_eq shows (relationsTaken relation (List.mem_filter.1 member).1).1
      (relationsTaken relation (List.mem_filter.1 member).1).2
  rw [tableDefinition, shows.whole lists, pure_bind, primary, pure_bind, uniques, pure_bind,
    relations, pure_bind]
  rfl

/-- The definitions of all tables are found, if all models are listed and relations are taken. -/
theorem schemaText_eq (dialect : Dialect) (lists : ∀ id ∈ shown.modelIds, listed id)
    (relationsTaken : ∀ relation ∈ shown.relations,
      catalog.HasColumn relation.left ∧ catalog.HasColumn relation.right) :
    lookups.schemaText dialect shown = pure (Sql.schemaText dialect shown) := by
  have tables := mapM_eq_pure fun id (member : id ∈ shown.modelIds) =>
    tableDefinition_eq shows dialect (lists id member) relationsTaken
  rw [schemaText, tables, pure_bind, List.map_map]
  rfl

/-- The part of a name for a column that is taken is found. -/
theorem columnName_eq {column : Column} (taken : catalog.HasColumn column) :
    lookups.columnName column = pure (Access.columnName shown column) := by
  obtain ⟨fields, position, found⟩ := shows.model taken.1
  rw [columnName, found, pure_bind, shows.field taken, pure_bind]
  rfl

/-- The part of a name for a condition on columns that are taken is found. -/
theorem conditionName_eq {condition : Condition} (taken : condition.InRange catalog) :
    lookups.conditionName condition = pure (Access.conditionName shown condition) := by
  obtain ⟨left, op, right⟩ := condition
  unfold conditionName
  rw [columnName_eq shows taken.left, pure_bind]
  cases right with
  | placeholder => rfl
  | literal value => cases value <;> rfl
  | column other =>
      have right := columnName_eq shows taken.right
      simp only [right, pure_bind, Access.conditionName]

/-- The name of a method with conditions on columns that are taken is found. -/
theorem methodName_eq (verb subject : String) {conditions : List Condition}
    (taken : ∀ condition ∈ conditions, condition.InRange catalog) :
    lookups.methodName verb subject conditions =
      pure (Access.methodName shown verb subject conditions) := by
  have names := mapM_eq_pure fun condition member =>
    conditionName_eq shows (taken condition member)
  rw [methodName, names, pure_bind, List.isEmpty_map, List.map_map]
  rfl

/-- What a query on a model that is taken is named for is found. -/
theorem modelSubject_eq {id : ModelId} (taken : catalog.HasModel id) :
    lookups.modelSubject id = pure (Access.modelSubject shown id) := by
  obtain ⟨fields, position, found⟩ := shows.model taken
  rw [modelSubject, found, pure_bind]
  rfl

/-- What a select whose numbers are taken is named for is found. -/
theorem selectSubject_eq {select : Select} (taken : select.InRange catalog) :
    lookups.selectSubject select = pure (Access.selectSubject shown select) := by
  have each : ∀ projection ∈ select.projections, lookups.projectionSubject projection =
      pure (match projection with
        | .model id => Access.modelSubject shown id
        | .field column => Access.columnName shown column) := by
    intro projection member
    have projectionTaken := taken.projections projection member
    cases projection with
    | model id => exact modelSubject_eq shows projectionTaken
    | field column => exact columnName_eq shows projectionTaken
  rw [selectSubject, mapM_eq_pure each, pure_bind]
  rfl

/-- A member is given the name that its projection is to have, and then the one that is free. -/
theorem projectionMember_eq {projection : Projection} (taken : projection.InRange catalog) :
    lookups.projectionMember projection = pure
      (Access.projectionMember shown (Access.projectionName shown projection) projection) := by
  cases projection with
  | model id =>
      obtain ⟨fields, position, found⟩ := shows.model taken
      rw [projectionMember, found, pure_bind]
      rfl
  | field column =>
      rw [projectionMember, columnName_eq shows taken, pure_bind, shows.field taken, pure_bind]
      rfl

/-- The members for projections that are taken are found. -/
theorem projectionMembers_eq {projections : List Projection}
    (taken : ∀ projection ∈ projections, projection.InRange catalog) :
    lookups.projectionMembers projections =
      pure (Access.projectionMembers shown projections) := by
  have members := mapM_eq_pure fun projection member =>
    projectionMember_eq shows (taken projection member)
  have names : ∀ name projection,
      (Access.projectionMember shown name projection).name = name := by
    intro name projection
    cases projection <;> rfl
  have renamed : ∀ old name projection,
      { Access.projectionMember shown old projection with name } =
        Access.projectionMember shown name projection := by
    intro old name projection
    cases projection <;> rfl
  rw [projectionMembers, members, pure_bind, Access.projectionMembers]
  simp only [List.map_map, Function.comp_def, names, List.zipWith_map_right, renamed]

/-- The type of a row whose parts are taken is found. -/
theorem rowType_eq {shape : ResultShape} (taken : shape.InRange catalog) :
    lookups.rowType shape = pure (Access.rowType shown shape) := by
  cases shape with
  | model id =>
      obtain ⟨fields, position, found⟩ := shows.model taken
      rw [rowType, found, pure_bind]
      rfl
  | field column =>
      rw [rowType, shows.field taken, pure_bind]
      rfl
  | record name members => rfl

/-- The argument for a column that is taken is found, under the name that it is to have. -/
theorem argument_eq {param : Param} (taken : param.InRange catalog) :
    lookups.argument param =
      pure ⟨Access.paramName shown param, Access.paramType shown param⟩ := by
  cases param with
  | value column =>
      rw [argument, shows.field taken, pure_bind]
      rfl
  | filter column =>
      rw [argument, columnName_eq shows taken, pure_bind, shows.field taken, pure_bind]
      rfl
  | cursor column =>
      rw [argument, shows.field taken, pure_bind]
      rfl
  | rowId => rfl

/-- The arguments for columns that are taken are found, each with a free name. -/
theorem argumentsFor_eq {params : List Param} (taken : ∀ param ∈ params, param.InRange catalog) :
    lookups.argumentsFor params = pure (Access.argumentsFor shown params) := by
  have found := mapM_eq_pure fun param member => argument_eq shows (taken param member)
  rw [argumentsFor, found, pure_bind, Access.argumentsFor]
  simp only [List.map_map, Function.comp_def, List.zipWith_map_right]

/-- The names of arguments that columns are compared with are found. -/
theorem filterNames_eq {params : List Param} (taken : ∀ param ∈ params, param.InRange catalog) :
    lookups.filterNames params = pure (Access.filterNames shown params) := by
  rw [filterNames, argumentsFor_eq shows taken, pure_bind, Access.filterNames]

/-! ## Statements -/

/--
What reads a row back is built if there is a column for it, and else the name of its model is found.
-/
theorem readBackBy_eq (dialect : Dialect) {id : ModelId} (taken : catalog.HasModel id)
    {build : String → m Statement} {statement : String → Statement}
    (builds : ∀ column, build column = pure (statement column)) :
    lookups.readBackBy dialect id build =
      pure ((readBackColumn dialect shown id).map statement) := by
  unfold readBackBy readBackColumn
  cases dialect.readBackColumn? with
  | some column =>
      simp only [builds, pure_bind]
      rfl
  | none =>
      obtain ⟨fields, position, found⟩ := shows.model taken
      simp only [found, pure_bind]
      rfl

/-- The statement that reads back a row of a model that is listed is built. -/
theorem getLastStatement_eq (dialect : Dialect) {id : ModelId} (lists : listed id) :
    lookups.getLastStatement dialect id = pure (Sql.getLastStatement dialect shown id) := by
  rw [getLastStatement, Sql.getLastStatement_eq]
  exact readBackBy_eq shows dialect (shows.known lists) (buildGetLast_eq shows dialect lists)

/-- The statement that looks up the row of an update whose numbers are taken is built. -/
theorem rowLookupStatement_eq (dialect : Dialect) {update : Update}
    (rows : RowsInRange catalog update.model [] update.conditions) :
    lookups.rowLookupStatement dialect update =
      pure (Sql.rowLookupStatement dialect shown update) := by
  rw [rowLookupStatement, Sql.rowLookupStatement_eq]
  exact readBackBy_eq shows dialect rows.model
    (buildRowLookup_eq shows dialect rows.model rows.conditionsKnown)

/-- The statement of an insert on a model that is listed is built. -/
theorem buildInsert_eq_pure (dialect : Dialect) {insert : Insert} (lists : listed insert.model) :
    buildInsert dialect lookups insert = pure (insertStatement dialect shown insert) := by
  rw [buildInsert_eq shows dialect lists, insertStatement_eq]

/-- The statement of a select whose numbers are taken is built. -/
theorem buildSelect_eq_pure (dialect : Dialect) {select : Select} (taken : select.InRange catalog)
    (lists : ∀ id ∈ select.listed, listed id) :
    buildSelect dialect lookups select none = pure (selectAll dialect shown select) := by
  rw [buildSelect_none_eq shows dialect (taken.known lists), selectAll_eq]

/-- The statement of a page of a select whose numbers are taken is built. -/
theorem buildPage_eq_pure (dialect : Dialect) {select : Select} (taken : select.InRange catalog)
    (lists : ∀ id ∈ select.listed, listed id) {paging : Paging}
    (paged : select.paging = some paging) :
    buildSelect dialect lookups select (some paging) =
      pure (selectPage dialect shown select paging) := by
  rw [buildSelect_some_eq shows dialect (taken.known lists) (taken.paging paging paged),
    selectPage_eq]

/-- The statement of a count whose numbers are taken is built. -/
theorem buildCount_eq_pure (dialect : Dialect) {count : Count}
    (rows : RowsInRange catalog count.model count.joins count.conditions) :
    buildCount dialect lookups count false = pure (countStatement dialect shown count) := by
  rw [buildCount_eq shows dialect rows.model rows.joinsKnown rows.conditionsKnown,
    countStatement_eq]
  rfl

/-- The statement that asks for a row is built if its numbers are taken. -/
theorem buildHas_eq_pure (dialect : Dialect) {count : Count}
    (rows : RowsInRange catalog count.model count.joins count.conditions) :
    buildCount dialect lookups count true = pure (hasStatement dialect shown count) := by
  rw [buildCount_eq shows dialect rows.model rows.joinsKnown rows.conditionsKnown,
    hasStatement_eq]
  rfl

/-- The statement of an update whose numbers are taken, and whose model is listed, is built. -/
theorem buildUpdate_eq_pure (dialect : Dialect) {update : Update}
    (rows : RowsInRange catalog update.model [] update.conditions) (lists : listed update.model) :
    buildUpdate dialect lookups update = pure (updateStatement dialect shown update) := by
  rw [buildUpdate_eq shows dialect lists rows.conditionsKnown, updateStatement_eq]

/-- The statement of a delete whose numbers are taken is built. -/
theorem buildDelete_eq_pure (dialect : Dialect) {delete : Delete}
    (rows : RowsInRange catalog delete.model delete.joins delete.conditions) :
    buildDelete dialect lookups delete = pure (deleteStatement dialect shown delete) := by
  rw [buildDelete_eq shows dialect rows.model rows.joinsKnown rows.conditionsKnown,
    deleteStatement_eq]

/-- The statement of a task that is taken is built from what is shown. -/
theorem statement_eq (dialect : Dialect) {task : Task} (taken : task.InRange catalog)
    (lists : ∀ id ∈ task.listed, listed id) :
    lookups.statement dialect task = pure (task.statement dialect shown) := by
  cases task with
  | insert query =>
      have isListed := lists query.model List.mem_cons_self
      rw [statement, buildInsert_eq_pure shows dialect isListed, map_pure, Task.statement]
  | rows query =>
      rw [statement, buildSelect_eq_pure shows dialect taken lists, map_pure, Task.statement]
  | page query paging =>
      rw [statement, buildPage_eq_pure shows dialect taken.1 lists taken.2, map_pure,
        Task.statement]
  | count query =>
      rw [statement, buildCount_eq_pure shows dialect taken, map_pure, Task.statement]
  | has query =>
      rw [statement, buildHas_eq_pure shows dialect taken, map_pure, Task.statement]
  | update query =>
      have isListed := lists query.model List.mem_cons_self
      rw [statement, buildUpdate_eq_pure shows dialect taken isListed, map_pure, Task.statement]
  | delete query =>
      rw [statement, buildDelete_eq_pure shows dialect taken, map_pure, Task.statement]
  | readBack model => exact getLastStatement_eq shows dialect (lists model List.mem_cons_self)

/-! ## Methods -/

/-- The method of a task that is taken is made, since the parameters of its statement are taken. -/
theorem methodFor_eq (dialect : Dialect) (task : Task) (taken : task.InRange catalog)
    (lists : ∀ id ∈ task.listed, listed id) {statement : Statement}
    (made : task.statement dialect shown = .ok statement)
    (kind : MethodKind) (name returns : String) (row : Option RowType)
    (readBack : Option ReadBack) :
    lookups.methodFor kind name statement returns row readBack =
      pure (Access.methodFor shown kind name statement returns row readBack) := by
  have columnsTaken : ∀ id ∈ task.listed, ∀ column ∈ shown.columns id, catalog.HasColumn column :=
    fun id member => shows.fields (lists id member)
  rw [methodFor, argumentsFor_eq shows (task.params_inRange taken columnsTaken made), pure_bind]
  rfl

end Equalities

section Plans

variable {lookups} [LawfulMonad m] {plan : Plan} {shown : Catalog} {listed : ModelId → Prop}
  (shows : lookups.Shows shown plan.HasModel listed plan.HasColumn) (inRange : plan.InRange)
  (lists : plan.Lists listed) (dialect : Dialect)

omit [Monad m] [LawfulMonad m] in
/-- Models whose rows are read back by name are those that are written. -/
theorem mem_returningTargets_of_named (plan : Plan) {entry : ModelId × String}
    (member : entry ∈ Access.getLastNames dialect plan) : entry.1 ∈ plan.returningTargets := by
  unfold Access.getLastNames at member
  split at member
  · cases member
  · exact (List.of_mem_zip member).1

include shows

include lists in
/-- The names of the methods that read rows back are found. -/
theorem getLastNames_eq :
    lookups.getLastNames dialect plan.returningTargets =
      pure (Access.getLastNames dialect { plan with toCatalog := shown }) := by
  have models := mapM_eq_pure fun id member => shows.whole (lists.targets id member)
  unfold getLastNames Access.getLastNames
  split
  · rfl
  · rw [models, pure_bind, List.map_map, Function.comp_def]

include inRange lists in
/-- The method of an insert of the plan is made. -/
theorem insertMethod_eq (names : GetLastNames) {insert : Insert}
    (member : insert ∈ plan.inserts) :
    lookups.insertMethod dialect names insert =
      pure (Access.insertMethod dialect { plan with toCatalog := shown } names insert) := by
  have taken := inRange.inserts insert member
  have isListed := lists.inserts insert member
  have isRow : (ResultShape.model insert.model).InRange plan.toCatalog := taken
  rw [insertMethod, shows.whole isListed, pure_bind, buildInsert_eq_pure shows dialect isListed,
    pure_bind, rowType_eq shows isRow, pure_bind]
  exact methodFor_eq shows dialect (.insert insert) taken (List.forall_mem_singleton.2 isListed)
    rfl _ _ _ _ _

/-- The method of the next page is made for a select with pages, and none for others. -/
theorem pageMethods_eq {select : Select} (taken : select.InRange plan.toCatalog)
    (isListed : ∀ id ∈ select.listed, listed id) (subject : String) (row : RowType) :
    lookups.pageMethods dialect select subject row =
      pure ((selectPage? dialect shown select).map fun page =>
        Access.methodFor shown .selectPage
          (Access.methodName shown "paged" subject select.conditions) page
          (vectorOf row.type) (some row) none).toList := by
  unfold pageMethods selectPage?
  cases paged : select.paging with
  | none => rfl
  | some paging =>
      have page := methodFor_eq shows dialect (.page select paging) ⟨taken, paged⟩ isListed rfl
      have name := methodName_eq shows "paged" subject taken.rows.conditions
      rw [Option.toList_some, List.mapM_cons, buildPage_eq_pure shows dialect taken isListed paged,
        pure_bind, name, pure_bind, page, pure_bind, List.mapM_nil, pure_bind]
      rfl

include inRange lists in
/-- The methods of a select of the plan are made. -/
theorem selectMethods_eq {select : Select} (member : select ∈ plan.selects) :
    lookups.selectMethods dialect select =
      pure (Access.selectMethods dialect { plan with toCatalog := shown } select) := by
  have taken := inRange.selects select member
  have isListed := lists.selects select member
  have name := fun verb => methodName_eq shows verb
    (Access.selectSubject shown select) taken.rows.conditions
  have all := methodFor_eq shows dialect (.rows select) taken isListed rfl
  rw [selectMethods, selectSubject_eq shows taken, pure_bind, rowType_eq shows taken.result,
    pure_bind, buildSelect_eq_pure shows dialect taken isListed, pure_bind]
  unfold Access.selectMethods
  cases select.cardinality with
  | one =>
      dsimp only
      rw [name, pure_bind, all, pure_bind]
  | many =>
      dsimp only
      rw [name, pure_bind, all, pure_bind, pageMethods_eq shows dialect taken isListed, pure_bind]

include inRange in
/-- The methods of a count of the plan are made. -/
theorem countMethods_eq {count : Count} (member : count ∈ plan.counts) :
    lookups.countMethods dialect count =
      pure (Access.countMethods dialect { plan with toCatalog := shown } count) := by
  have rows := inRange.counts count member
  have name := fun verb => methodName_eq shows verb
    (Access.modelSubject shown count.model) rows.conditions
  have counts := methodFor_eq shows dialect (.count count) rows (List.forall_mem_nil _) rfl
  have asks := methodFor_eq shows dialect (.has count) rows (List.forall_mem_nil _) rfl
  rw [countMethods, modelSubject_eq shows rows.model, pure_bind,
    buildCount_eq_pure shows dialect rows, pure_bind, name, pure_bind, counts, pure_bind,
    buildHas_eq_pure shows dialect rows, pure_bind, name, pure_bind, asks, pure_bind]
  rfl

/-- How the row of an update is read back is found. -/
theorem updateReadBack_eq (names : GetLastNames) {update : Update}
    (rows : RowsInRange plan.toCatalog update.model [] update.conditions) {statement : Statement}
    (params : ∀ param ∈ statement.params, param.InRange plan.toCatalog) :
    lookups.updateReadBack dialect names update statement =
      pure (Access.updateReadBack dialect { plan with toCatalog := shown } names update
        statement) := by
  unfold updateReadBack Access.updateReadBack
  cases readBack? names update.model with
  | none => rfl
  | some readBack =>
      dsimp only
      rw [rowLookupStatement_eq shows dialect rows, pure_bind, filterNames_eq shows params,
        pure_bind]

include inRange lists in
/-- The method of an update of the plan is made, or the dialect cannot read its row back. -/
theorem updateMethod_eq (names : GetLastNames) {update : Update}
    (member : update ∈ plan.updates) :
    lookups.updateMethod dialect names update =
      pure (Access.updateMethod dialect { plan with toCatalog := shown } names update) := by
  have rows := inRange.updates update member
  have isListed := lists.updates update member
  have isRow : (ResultShape.model update.model).InRange plan.toCatalog := rows.model
  have name := methodName_eq shows "update"
    (Access.modelSubject shown update.model) rows.conditions
  have params : ∀ param ∈ (updateStatement dialect shown update).params,
      param.InRange plan.toCatalog :=
    Task.params_inRange (.update update) rows
      (List.forall_mem_singleton.2 (shows.fields isListed)) rfl
  have draft := methodFor_eq shows dialect (.update update) rows
    (List.forall_mem_singleton.2 isListed) rfl
  rw [updateMethod, buildUpdate_eq_pure shows dialect rows isListed, pure_bind,
    modelSubject_eq shows rows.model, pure_bind, updateReadBack_eq shows dialect names rows params,
    pure_bind, name, pure_bind, rowType_eq shows isRow, pure_bind, Access.updateMethod]
  dsimp only
  cases Access.updateReadBack dialect { plan with toCatalog := shown } names update
      (updateStatement dialect shown update) with
  | error fault => rfl
  | ok readBack =>
      dsimp only
      rw [draft, pure_bind]
      rfl

include inRange in
/-- The method of a delete of the plan is made. -/
theorem deleteMethod_eq {delete : Delete} (member : delete ∈ plan.deletes) :
    lookups.deleteMethod dialect delete =
      pure (Access.deleteMethod dialect { plan with toCatalog := shown } delete) := by
  have rows := inRange.deletes delete member
  have name := methodName_eq shows "delete"
    (Access.modelSubject shown delete.model) rows.conditions
  have made := methodFor_eq shows dialect (.delete delete) rows (List.forall_mem_nil _) rfl
  rw [deleteMethod, modelSubject_eq shows rows.model, pure_bind,
    buildDelete_eq_pure shows dialect rows, pure_bind, name, pure_bind]
  unfold Access.deleteMethod
  cases delete.cardinality with
  | one => exact made _ _ _ _ _
  | many => exact made _ _ _ _ _

include inRange lists in
/--
The method that reads back a row of a written model is made, or the dialect has no column for it.
-/
theorem getLastMethod_eq {id : ModelId} (member : id ∈ plan.returningTargets) (name : String) :
    lookups.getLastMethod dialect id name =
      pure (Access.getLastMethod dialect { plan with toCatalog := shown } id name) := by
  have taken := inRange.targets id member
  have isListed := lists.targets id member
  have isRow : (ResultShape.model id).InRange plan.toCatalog := taken
  rw [getLastMethod, rowType_eq shows isRow, pure_bind, getLastStatement_eq shows dialect isListed,
    pure_bind, Access.getLastMethod]
  dsimp only
  cases made : Sql.getLastStatement dialect shown id with
  | error fault => rfl
  | ok statement =>
      dsimp only
      rw [methodFor_eq shows dialect (.readBack id) taken (List.forall_mem_singleton.2 isListed)
        made, pure_bind]
      rfl

include inRange lists in
/-- The methods of all queries of the plan are made. -/
theorem draftMethods_eq (names : GetLastNames) :
    lookups.draftMethods dialect plan names =
      pure (Access.draftMethods dialect { plan with toCatalog := shown } names) := by
  have inserts := mapM_eq_pure fun insert (member : insert ∈ plan.inserts) =>
    insertMethod_eq shows inRange lists dialect names member
  have selects := mapM_eq_pure fun select (member : select ∈ plan.selects) =>
    selectMethods_eq shows inRange lists dialect member
  have counts := mapM_eq_pure fun count (member : count ∈ plan.counts) =>
    countMethods_eq shows inRange dialect member
  have updates := mapM_eq_pure fun update (member : update ∈ plan.updates) =>
    updateMethod_eq shows inRange lists dialect names member
  have deletes := mapM_eq_pure fun delete (member : delete ∈ plan.deletes) =>
    deleteMethod_eq shows inRange dialect member
  rw [draftMethods, inserts, pure_bind, selects, pure_bind, counts, pure_bind, updates, pure_bind,
    deletes, pure_bind, List.mapM_map, Access.draftMethods, List.flatMap_def, List.flatMap_def]
  dsimp only
  change pure (Except.map _ (plan.updates.mapM
    (Access.updateMethod dialect { plan with toCatalog := shown } names))) = _
  cases plan.updates.mapM
    (Access.updateMethod dialect { plan with toCatalog := shown } names) <;> rfl

include inRange lists in
/-- Over lookups that show what is taken, a plan has the methods that it has over the catalog. -/
theorem methods_eq :
    lookups.methods dialect plan =
      pure (Access.methods dialect { plan with toCatalog := shown }) := by
  have readers := mapM_eq_pure fun entry
      (member : entry ∈ Access.getLastNames dialect { plan with toCatalog := shown }) =>
    getLastMethod_eq shows inRange lists dialect
      (mem_returningTargets_of_named dialect { plan with toCatalog := shown } member) entry.2
  rw [methods, getLastNames_eq shows lists, pure_bind, draftMethods_eq shows inRange lists,
    pure_bind, readers, pure_bind, List.mapM_map, Access.methods]
  rfl

/-- The structs of selects whose numbers are taken are found. -/
theorem resultStructs_eq {selects : List Select}
    (taken : ∀ select ∈ selects, select.InRange plan.toCatalog) (seen : List String) :
    lookups.resultStructs seen selects = pure (Access.resultStructs shown seen selects) := by
  induction selects generalizing seen with
  | nil => rfl
  | cons select selects inductionHypothesis =>
      rw [List.forall_mem_cons] at taken
      have others := inductionHypothesis taken.2
      have result := taken.1.result
      rw [resultStructs, Access.resultStructs]
      cases shape : select.result with
      | model id => exact others seen
      | field column => exact others seen
      | record name members =>
          rw [shape] at result
          dsimp only
          split
          · exact others seen
          · rw [projectionMembers_eq shows result, pure_bind, others, pure_bind]

end Plans

end Lookups

end Schemata
