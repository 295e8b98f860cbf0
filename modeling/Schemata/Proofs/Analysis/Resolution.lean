import Schemata.Compile
import Schemata.Proofs.Analysis.Ensures
import Schemata.Proofs.Outcome

/-!
# What a plan was resolved from

A source that compiles was read as declarations, and every part of its plan was given
by a step without problems: the catalog by its models and relations, and every query by
one declaration over the finished catalog. `exists_resolves_of_compile` says so
once; the properties of plans are proved of these steps. The module also says what the
names in a declaration were resolved to.
-/

namespace Schemata

/-- Both numbers of a column are taken in a catalog. -/
def Catalog.HasColumn (catalog : Catalog) (column : Column) : Prop :=
  column.model < catalog.models.length ∧
    column.field < (catalog.model column.model).fields.length

/-- A model that was found by its name is in the catalog and has that name. -/
theorem Catalog.modelId?_eq_some {catalog : Catalog} {name : String} {id : ModelId}
    (found : catalog.modelId? name = some id) :
    id < catalog.models.length ∧ (catalog.model id).name = name := by
  obtain ⟨bound, named, -⟩ := List.findIdx?_eq_some_iff_getElem.1 found
  refine ⟨bound, ?_⟩
  simpa [Catalog.model, List.getD_eq_getElem?_getD, bound] using named

/-- A field that was found by its name is in the model and has that name. -/
theorem Model.fieldId?_eq_some {model : Model} {name : String} {id : FieldId}
    (found : model.fieldId? name = some id) :
    id < model.fields.length ∧ (model.field id).name = name := by
  obtain ⟨bound, named, -⟩ := List.findIdx?_eq_some_iff_getElem.1 found
  refine ⟨bound, ?_⟩
  simpa [Model.field, List.getD_eq_getElem?_getD, bound] using named

namespace Analysis

open Checked

/-! ## Names -/

/-- A reference stands for a column: both of its names are found. -/
structure RefersTo (catalog : Catalog) (ref : Declaration.ColumnRef) (column : Column) : Prop where
  model : catalog.modelId? ref.model.text = some column.model
  field : (catalog.model column.model).fieldId? ref.field.text = some column.field

/-- A column that a reference stands for is in the catalog. -/
theorem RefersTo.hasColumn {catalog : Catalog} {ref : Declaration.ColumnRef} {column : Column}
    (refers : RefersTo catalog ref column) : catalog.HasColumn column :=
  ⟨(Catalog.modelId?_eq_some refers.model).1, (Model.fieldId?_eq_some refers.field).1⟩

/-- Without a problem, a model's name was found. -/
theorem resolveModel_ensures (catalog : Catalog) (name : Name) :
    (resolveModel catalog name).Ensures fun result =>
      ∃ id, result = some id ∧ catalog.modelId? name.text = some id := by
  unfold resolveModel
  cases found : catalog.modelId? name.text with
  | none => exact ensures_report_bind
  | some id => exact ensures_pure ⟨id, rfl, rfl⟩

/-- Without a problem, a reference stands for a column. -/
theorem resolveColumn_ensures (catalog : Catalog) (ref : Declaration.ColumnRef) :
    (resolveColumn catalog ref).Ensures fun result =>
      ∃ column, result = some column ∧ RefersTo catalog ref column := by
  refine (resolveModel_ensures catalog ref.model).bind ?_
  rintro _ ⟨id, rfl, modelFound⟩
  dsimp only
  cases fieldFound : (catalog.model id).fieldId? ref.field.text with
  | none => exact ensures_report_bind
  | some field => exact ensures_pure ⟨⟨id, field⟩, rfl, modelFound, fieldFound⟩

/-! ## Schemas -/

/-- Every query that is kept was given by one of the declarations. -/
theorem resolveAll_ensures {α β : Type} (resolve : α → Checked (Option β)) (declared : List α) :
    (resolveAll resolve declared).Ensures fun queries =>
      ∀ query ∈ queries, ∃ item ∈ declared, (resolve item).Gives (some query) := by
  refine (ensures_mapM resolve declared).bind fun results gives => ensures_pure ?_
  intro query kept
  rw [List.mem_filterMap] at kept
  obtain ⟨result, resultMem, rfl⟩ := kept
  exact gives _ resultMem

/-- A plan is what a schema resolves to: every part of it was given by its own step. -/
structure ResolvesTo (schema : Declaration.Schema) (plan : Plan) : Prop where
  catalog : (resolveCatalog schema).Gives plan.toCatalog
  selects : ∀ query ∈ plan.selects, ∃ declared ∈ schema.selects,
    (resolveSelect plan.toCatalog declared).Gives (some query)
  updates : ∀ query ∈ plan.updates, ∃ declared ∈ schema.updates,
    (resolveUpdate plan.toCatalog declared).Gives (some query)
  deletes : ∀ query ∈ plan.deletes, ∃ declared ∈ schema.deletes,
    (resolveDelete plan.toCatalog declared).Gives (some query)
  counts : ∀ query ∈ plan.counts, ∃ declared ∈ schema.counts,
    (resolveCount plan.toCatalog declared).Gives (some query)
  targets : plan.returningTargets = returningTargets plan.inserts plan.updates

/-- Without a problem, a schema resolves to its plan. -/
theorem resolveSchema_ensures (schema : Declaration.Schema) :
    (resolveSchema schema).Ensures (ResolvesTo schema) := by
  refine (ensures_gives _).bind fun catalog catalogGives => ?_
  refine (ensures_gives _).bind fun inserts _ => ?_
  refine (resolveAll_ensures _ _).bind fun selects selectsGiven => ?_
  refine (resolveAll_ensures _ _).bind fun updates updatesGiven => ?_
  refine (resolveAll_ensures _ _).bind fun deletes deletesGiven => ?_
  refine (resolveAll_ensures _ _).bind fun counts countsGiven => ?_
  exact ensures_pure
    ⟨catalogGives, selectsGiven, updatesGiven, deletesGiven, countsGiven, rfl⟩

/-- A source that compiles was read as a schema that gives its plan. -/
theorem exists_gives_of_compile {source : String} {plan : Plan}
    (compiled : compile source = .ok plan) :
    ∃ schema, Declaration.Schema.parse source = .ok schema ∧ (resolveSchema schema).Gives plan := by
  unfold compile at compiled
  cases read : Declaration.Schema.parse source with
  | error error => simp [read] at compiled
  | ok schema =>
      refine ⟨schema, rfl, ?_⟩
      cases problems : (resolveSchema schema).problems with
      | cons problem others => simp [read, analyze, problems] at compiled
      | nil =>
          simp only [read, analyze, problems, Except.ok.injEq] at compiled
          exact ⟨problems, compiled⟩

/-- A source that compiles was read as a schema that resolves to its plan. -/
theorem exists_resolves_of_compile {source : String} {plan : Plan}
    (compiled : compile source = .ok plan) :
    ∃ schema, Declaration.Schema.parse source = .ok schema ∧ ResolvesTo schema plan := by
  obtain ⟨schema, parsed, gives⟩ := exists_gives_of_compile compiled
  exact ⟨schema, parsed, (resolveSchema_ensures schema).of_gives gives⟩

end Analysis

/-! ## Plans of given texts -/

/-- The plan of a text, given by its characters. -/
def compileCharacters (characters : List Char) : Except CompileError Plan :=
  match TokenList.ofScans (Scanner.remaining ⟨.start, characters, false⟩) with
  | .error problem => .error (.reading (.unreadable problem))
  | .ok list =>
    match Node.read list >>= Declaration.Schema.ofNodes with
    | .error error => .error (.reading error)
    | .ok schema =>
      match Analysis.analyze schema with
      | .error problems => .error (.refused problems)
      | .ok plan => .ok plan

/-- Only the characters of a source count; a literal text is evaluated in this form. -/
theorem compile_ofList (characters : List Char) :
    compile (String.ofList characters) = compileCharacters characters := by
  simp only [compile, compileCharacters, Declaration.Schema.parse, Node.parse, tokenize,
    Scanner.ofSource, String.toList_ofList]
  cases TokenList.ofScans (Scanner.remaining ⟨.start, characters, false⟩) <;> rfl

/-- A schema of two models with queries of every kind. -/
def rosterSource : String :=
  "model team ( field id int autoincrement, field name text ( nullable, updatable ), unique name )
model player ( field id int autoincrement, field team int ( nullable ) )
relation player.team team.id ( on_delete set_null )
insert player
select player.id team.name ( where player.id = ? )
select player ( where team.name != null, paged player.id 20 )
update team ( where team.name = ? )
delete player ( join team.id = player.team, where player.id = ? )
count team ( where player.id > 0 )
"

/-- The plan of the schema: its first select and its delete are about one row. -/
def rosterPlan : Plan where
  models := [
    ⟨"team", "team", [
      ⟨{ autoincrement := true }, "id", "id", .int, none, none, ⟨1, 20, 19⟩⟩,
      ⟨{ nullable := true, updatable := true }, "name", "name", .text, none, none, ⟨1, 48, 47⟩⟩],
      [0], [[1]], ⟨1, 1, 0⟩⟩,
    ⟨"player", "player", [
      ⟨{ autoincrement := true }, "id", "id", .int, none, none, ⟨2, 22, 117⟩⟩,
      ⟨{ nullable := true }, "team", "team", .int, none, none, ⟨2, 50, 145⟩⟩],
      [0], [], ⟨2, 1, 96⟩⟩]
  relations := [⟨⟨1, 1⟩, ⟨0, 0⟩, some .setNull, ⟨3, 1, 169⟩⟩]
  inserts := [⟨1, ⟨4, 1, 221⟩⟩]
  selects := [
    ⟨1, [.field ⟨1, 0⟩, .field ⟨0, 1⟩], [⟨⟨1, 1⟩, ⟨0, 0⟩⟩],
      [⟨⟨1, 0⟩, .eq, .placeholder⟩], .one, none,
      .record "PlayerIdTeamNameRow" [.field ⟨1, 0⟩, .field ⟨0, 1⟩], ⟨5, 1, 235⟩⟩,
    ⟨1, [.model 1], [⟨⟨1, 1⟩, ⟨0, 0⟩⟩], [⟨⟨0, 1⟩, .ne, .literal .null⟩], .many,
      some ⟨⟨1, 0⟩, 20⟩, .model 1, ⟨6, 1, 286⟩⟩]
  updates := [⟨0, [⟨⟨0, 1⟩, .eq, .placeholder⟩], ⟨7, 1, 348⟩⟩]
  deletes := [⟨1, [⟨⟨1, 1⟩, ⟨0, 0⟩⟩], [⟨⟨1, 0⟩, .eq, .placeholder⟩], .one, ⟨8, 1, 384⟩⟩]
  counts := [⟨0, [⟨⟨0, 0⟩, ⟨1, 1⟩⟩], [⟨⟨1, 0⟩, .gt, .literal (.int 0)⟩], ⟨9, 1, 450⟩⟩]
  returningTargets := [1, 0]

/-- The source compiles to the plan. -/
theorem compile_rosterSource : compile rosterSource = .ok rosterPlan := by
  apply eq_ok_of_toOption
  unfold rosterSource
  rw [compile_ofList]
  decide +kernel

end Schemata
