import Schemata.Proofs.Access.Lookups
import Schemata.Proofs.Analysis.Extension

/-!
# What is rendered looks at models and fields that are taken

Rendering looks up the numbers of a plan and takes what it finds. If they are all taken in the
plan's catalog, no lookup fails where it is checked, and nothing else of a catalog matters: a
catalog with more models behind these, and more fields behind theirs, gives the same statements,
lines of table definitions and methods, as long as the models whose fields are all listed have no
more of them. For what the checked lookups of the smaller catalog give is what either catalog gives.
-/

namespace Schemata

variable {catalog other : Catalog}

/-- Some models of a catalog are the same in another one. -/
def Catalog.Keeps (other catalog : Catalog) (models : List ModelId) : Prop :=
  ∀ id ∈ models, other.model id = catalog.model id

/-- The models all of whose fields are listed for a plan are the same in another catalog. -/
def Catalog.KeepsListed (other : Catalog) (plan : Plan) : Prop :=
  plan.Lists fun id => other.model id = plan.model id

/-! ## Checked lookups -/

/-- A model is taken in a catalog and the same in another one. -/
def Catalog.Shares (catalog other : Catalog) (id : ModelId) : Prop :=
  catalog.HasModel id ∧ other.model id = catalog.model id

/-- A catalog extends itself. -/
theorem Catalog.Extends.refl (catalog : Catalog) : catalog.Extends catalog where
  size := Nat.le_refl _
  relations := rfl
  models _ _ := ⟨rfl, rfl, List.prefix_rfl, rfl, rfl⟩

/-- A model with more fields is the same apart from its fields and its place. -/
theorem Model.Extends.eq_with {model larger : Model} (isLarger : larger.Extends model) :
    model = { larger with fields := model.fields, position := model.position } := by
  obtain ⟨name, table, -, primaryKey, unique⟩ := isLarger
  cases model
  cases larger
  simp_all

/-- A checked lookup finds a model that is taken. -/
theorem Catalog.HasModel.getElem?_models {id : ModelId} (taken : catalog.HasModel id) :
    catalog.models[id]? = some (catalog.model id) := by
  rw [Catalog.model, List.getD_eq_getElem?_getD, List.getElem?_eq_getElem taken, Option.getD_some]

/-- A checked lookup finds a column that is taken. -/
theorem Catalog.HasColumn.checkedLookups_field {column : Column}
    (taken : catalog.HasColumn column) :
    catalog.checkedLookups.field column = some (catalog.field column) := by
  have isModel : catalog.models[column.model]? = some (catalog.model column.model) :=
    Catalog.HasModel.getElem?_models taken.1
  have isField : (catalog.model column.model).fields[column.field]? =
      some (catalog.field column) := by
    rw [Catalog.field, Model.field, List.getD_eq_getElem?_getD,
      List.getElem?_eq_getElem taken.2, Option.getD_some]
  simp only [Catalog.checkedLookups, isModel, Option.bind_eq_bind, Option.bind_some, isField]

/-- Checked lookups show, of a larger catalog, the models and columns that are taken. -/
theorem Catalog.Extends.checkedLookups_shows (larger : other.Extends catalog)
    (inRange : catalog.InRange) :
    catalog.checkedLookups.Shows other catalog.HasModel (catalog.Shares other)
      catalog.HasColumn where
  model {id} taken := ⟨_, _, taken.getElem?_models.trans
    (congrArg some (larger.models id taken).eq_with)⟩
  whole shared := shared.1.getElem?_models.trans (congrArg some shared.2.symm)
  field taken := taken.checkedLookups_field.trans (congrArg some (larger.field_eq taken).symm)
  known shared := shared.1
  source taken := taken.1
  fields shared := by
    rw [Catalog.columns, shared.2]
    exact shared.1.columns
  keys {id} taken key isKey field member := by
    rw [(larger.models id taken).uniqueKeys_eq] at isKey
    exact ⟨taken, inRange.keysInRange taken key isKey field member⟩

/-- Checked lookups show what is taken in their own catalog. -/
theorem Catalog.InRange.checkedLookups_shows (inRange : catalog.InRange) :
    catalog.checkedLookups.Shows catalog catalog.HasModel (catalog.Shares catalog)
      catalog.HasColumn :=
  (Catalog.Extends.refl catalog).checkedLookups_shows inRange

/-! ## Table definitions -/

namespace Sql

variable (larger : other.Extends catalog)

/-- The text of a table definition, from its start, its fields, and the lines behind theirs. -/
def tableText (dialect : Dialect) (start : String) (fields : List Field) (behind : List String) :
    String :=
  start ++ ",\n    ".intercalate (fields.map (columnLine dialect) ++ behind) ++ "\n)"

include larger

/-- The keys of a model that is taken are written alike. -/
theorem keyLine_of_extends (inRange : catalog.InRange) (kind : String) {id : ModelId}
    (taken : catalog.HasModel id) {key : List FieldId}
    (isKey : key ∈ (catalog.model id).uniqueKeys) :
    keyLine kind (other.model id) key = keyLine kind (catalog.model id) key := by
  have fieldsTaken : ∀ field ∈ key, catalog.HasColumn ⟨id, field⟩ := fun field member =>
    ⟨taken, inRange.keysInRange taken key isKey field member⟩
  exact Option.mem_unique
    (Lookups.keyLine_eq (larger.checkedLookups_shows inRange) kind fieldsTaken)
    (Lookups.keyLine_eq inRange.checkedLookups_shows kind fieldsTaken)

/-- The relations that leave a model are written alike. -/
theorem relationLines_of_extends (inRange : catalog.InRange) (id : ModelId) :
    (other.outgoing id).map (relationLine other) =
      (catalog.outgoing id).map (relationLine catalog) := by
  rw [Catalog.outgoing, larger.relations]
  refine List.map_congr_left fun relation member => ?_
  obtain ⟨left, right⟩ := inRange.relations relation (List.mem_filter.1 member).1
  exact Option.mem_unique
    (Lookups.relationLine_eq (larger.checkedLookups_shows inRange) left right)
    (Lookups.relationLine_eq inRange.checkedLookups_shows left right)

/-- A table definition has the same start, and the same lines behind those of its fields. -/
theorem tableDefinition_of_extends (dialect : Dialect) (inRange : catalog.InRange) {id : ModelId}
    (taken : catalog.HasModel id) :
    ∃ start behind,
      tableDefinition dialect catalog id =
        tableText dialect start (catalog.model id).fields behind ∧
      tableDefinition dialect other id =
        tableText dialect start (other.model id).fields behind := by
  have extended := larger.models id taken
  have primary := keyLine_of_extends larger inRange "PRIMARY KEY" taken List.mem_cons_self
  have uniques : (catalog.model id).unique.map (keyLine "UNIQUE" (other.model id)) =
      (catalog.model id).unique.map (keyLine "UNIQUE" (catalog.model id)) :=
    List.map_congr_left fun key member =>
      keyLine_of_extends larger inRange "UNIQUE" taken (List.mem_cons_of_mem _ member)
  refine ⟨"CREATE TABLE " ++ identifier (catalog.model id).table ++ " (\n    ",
    [keyLine "PRIMARY KEY" (catalog.model id) (catalog.model id).primaryKey] ++
      ((catalog.model id).unique.map (keyLine "UNIQUE" (catalog.model id)) ++
        (catalog.outgoing id).map (relationLine catalog)), ?_, ?_⟩
  · unfold tableDefinition tableText
    rw [tableLines, List.append_assoc, List.append_assoc]
  · unfold tableDefinition tableText
    rw [tableLines, extended.table, extended.primaryKey, extended.unique, primary, uniques,
      relationLines_of_extends larger inRange, List.append_assoc, List.append_assoc]

end Sql

namespace Access

open Sql (Dialect)

/-! ## The whole of rendering -/

/--
What is rendered for a plan looks up numbers that are taken: the parameters of statements are for
columns that are taken, so are the columns that are listed for whole models, no lookup fails where
it is checked, and whatever a catalog has under numbers that are not taken, it is the same.
-/
structure RendersWithin (dialect : Dialect) (plan : Plan) : Prop where
  params : ∀ task ∈ tasks dialect plan, ∀ statement,
    task.statement dialect plan.toCatalog = .ok statement →
      ∀ param ∈ statement.params, param.InRange plan.toCatalog
  listed : ∀ task ∈ tasks dialect plan, ∀ id ∈ task.listed, ∀ column ∈ plan.columns id,
    plan.HasColumn column
  checkedStatements : ∀ task ∈ tasks dialect plan,
    plan.checkedLookups.statement dialect task = some (task.statement dialect plan.toCatalog)
  checkedPages : ∀ select ∈ plan.selects, ∀ paging ∈ select.paging,
    plan.checkedLookups.statement dialect (.page select paging) =
      some (.ok (Sql.selectPage dialect plan.toCatalog select paging))
  checkedReaders : ∀ id ∈ plan.modelIds,
    plan.checkedLookups.getLastStatement dialect id =
      some (Sql.getLastStatement dialect plan.toCatalog id)
  checkedFinders : ∀ update ∈ plan.updates,
    plan.checkedLookups.rowLookupStatement dialect update =
      some (Sql.rowLookupStatement dialect plan.toCatalog update)
  checkedSchema : plan.checkedLookups.schemaText dialect plan.toCatalog =
    some (Sql.schemaText dialect plan.toCatalog)
  checkedStructs : plan.checkedLookups.resultStructs [] plan.selects =
    some (resultStructs plan.toCatalog [] plan.selects)
  checkedMethods : plan.checkedLookups.methods dialect plan = some (methods dialect plan)
  statements : ∀ other : Catalog, other.Extends plan.toCatalog → ∀ task ∈ tasks dialect plan,
    other.Keeps plan.toCatalog task.listed →
      task.statement dialect other = task.statement dialect plan.toCatalog
  lookups : ∀ other : Catalog, other.Extends plan.toCatalog → ∀ update ∈ plan.updates,
    Sql.rowLookupStatement dialect other update =
      Sql.rowLookupStatement dialect plan.toCatalog update
  tables : ∀ other : Catalog, other.Extends plan.toCatalog → ∀ id ∈ plan.modelIds,
    ∃ start behind,
      Sql.tableDefinition dialect plan.toCatalog id =
        Sql.tableText dialect start (plan.model id).fields behind ∧
      Sql.tableDefinition dialect other id =
        Sql.tableText dialect start (other.model id).fields behind
  structs : ∀ other : Catalog, other.Extends plan.toCatalog →
    resultStructs other [] plan.selects = resultStructs plan.toCatalog [] plan.selects
  methods : ∀ other : Catalog, other.Extends plan.toCatalog → other.KeepsListed plan →
    methods dialect { plan with toCatalog := other } = methods dialect plan

/-- The statement of a task looks at models and fields that are taken. -/
theorem Task.statement_of_extends (larger : other.Extends catalog) (dialect : Dialect)
    (catalogInRange : catalog.InRange) {task : Task} (inRange : task.InRange catalog)
    (keeps : other.Keeps catalog task.listed) :
    task.statement dialect other = task.statement dialect catalog := by
  have taken := task.hasModel_listed inRange
  exact Option.mem_unique
    (Lookups.statement_eq (larger.checkedLookups_shows catalogInRange) dialect inRange
      fun id member => ⟨taken id member, keeps id member⟩)
    (Lookups.statement_eq catalogInRange.checkedLookups_shows dialect inRange
      fun id member => ⟨taken id member, rfl⟩)

/-- The models all of whose fields are listed are shared with a catalog that keeps them. -/
theorem lists_shares {plan : Plan} (inRange : plan.InRange) (keeps : other.KeepsListed plan) :
    plan.Lists (plan.Shares other) where
  inserts insert member := ⟨inRange.lists.inserts insert member, keeps.inserts insert member⟩
  selects select member id isListed :=
    ⟨inRange.lists.selects select member id isListed, keeps.selects select member id isListed⟩
  updates update member := ⟨inRange.lists.updates update member, keeps.updates update member⟩
  targets id member := ⟨inRange.lists.targets id member, keeps.targets id member⟩

/-- A plan whose numbers are taken is rendered from models and fields that are taken. -/
theorem rendersWithin {plan : Plan} (inRange : plan.InRange) (dialect : Dialect) :
    RendersWithin dialect plan := by
  have shows := inRange.catalog.checkedLookups_shows
  have showsOther := fun {other : Catalog} (larger : other.Extends plan.toCatalog) =>
    larger.checkedLookups_shows inRange.catalog
  have taken := tasks_inRange inRange dialect
  have lists : plan.Lists (plan.Shares plan.toCatalog) :=
    lists_shares inRange ⟨fun _ _ => rfl, fun _ _ _ _ => rfl, fun _ _ => rfl, fun _ _ => rfl⟩
  have shared : ∀ task : Task, task.InRange plan.toCatalog →
      ∀ id ∈ task.listed, plan.Shares plan.toCatalog id :=
    fun task inRange id member => ⟨task.hasModel_listed inRange id member, rfl⟩
  have tableTaken : ∀ id ∈ plan.modelIds, plan.HasModel id := fun _ => List.mem_range.1
  have checkedMethods := Lookups.methods_eq shows inRange lists dialect
  exact {
    params := fun task member _ made =>
      task.params_inRange (taken task member) (task.hasColumn_listed (taken task member)) made
    listed := fun task member => task.hasColumn_listed (taken task member)
    checkedStatements := fun task member =>
      Lookups.statement_eq shows dialect (taken task member) (shared task (taken task member))
    checkedPages := fun select member paging paged => by
      have inRange : (Task.page select paging).InRange plan.toCatalog :=
        ⟨inRange.selects select member, paged⟩
      exact Lookups.statement_eq shows dialect inRange (shared _ inRange)
    checkedReaders := fun id member =>
      Lookups.getLastStatement_eq shows dialect ⟨tableTaken id member, rfl⟩
    checkedFinders := fun update member =>
      Lookups.rowLookupStatement_eq shows dialect (inRange.updates update member)
    checkedSchema := Lookups.schemaText_eq shows dialect
      (fun id member => ⟨tableTaken id member, rfl⟩) inRange.catalog.relations
    checkedStructs := Lookups.resultStructs_eq shows inRange.selects []
    checkedMethods
    statements := fun _ larger task member =>
      task.statement_of_extends larger dialect inRange.catalog (taken task member)
    lookups := fun _ larger update member => Option.mem_unique
      (Lookups.rowLookupStatement_eq (showsOther larger) dialect (inRange.updates update member))
      (Lookups.rowLookupStatement_eq shows dialect (inRange.updates update member))
    tables := fun _ larger id member =>
      Sql.tableDefinition_of_extends larger dialect inRange.catalog (tableTaken id member)
    structs := fun _ larger => Option.mem_unique
      (Lookups.resultStructs_eq (showsOther larger) inRange.selects [])
      (Lookups.resultStructs_eq shows inRange.selects [])
    methods := fun _ larger keeps => Option.mem_unique
      (Lookups.methods_eq (showsOther larger) inRange (lists_shares inRange keeps) dialect)
      checkedMethods }

end Access

end Schemata
