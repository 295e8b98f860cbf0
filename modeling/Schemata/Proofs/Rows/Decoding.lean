import Mathlib.Data.List.Forall2
import Schemata.Proofs.Access.RowTypes
import Schemata.Proofs.Rows.Certainty

/-!
# Rows that can be decoded

The type that a column of a row is decoded into looks only at the declaration of its field. A join
without a partner leaves nothing also where the declaration asks for a value, so there are rows that
cannot be decoded; `clubPlan_undecodable` is one. Apart from these joins all is well: a row can
be decoded exactly if it holds a row of the model of every selected column that may not be null
(`forall₂_decodes_iff`).
-/

namespace Schemata

open Analysis

variable {V : Type}

/-! ## What selects ask for -/

/-- The columns that a projection asks for are those of its own model. -/
theorem model_eq_source {catalog : Catalog} {projection : Projection} {column : Column}
    (asked : column ∈ Sql.projectionColumns catalog projection) :
    column.model = projection.source := by
  cases projection with
  | model id =>
      obtain ⟨field, -, rfl⟩ := List.mem_map.1 asked
      rfl
  | field other => rw [List.mem_singleton.1 asked, Projection.source]

/-- A row of a select has the columns that it asks for, in order. -/
theorem flatMap_cells (catalog : Catalog) (joined : JoinedRow V) (projections : List Projection) :
    projections.flatMap (Projection.cells catalog joined) =
      (Access.selectedColumns catalog projections).map joined := by
  rw [Access.selectedColumns, List.map_flatMap]
  congr 1
  funext projection
  cases projection <;> rfl

namespace Analysis

open Checked

/-- A projection asks for columns of the catalog. -/
theorem resolveProjection_ensures (catalog : Catalog) (declared : Declaration.Projection) :
    (resolveProjection catalog declared).Ensures fun result => ∀ projection,
      result = some projection →
        ∀ column ∈ Sql.projectionColumns catalog projection, catalog.HasColumn column := by
  cases declared with
  | model name =>
      refine (resolveModel_ensures catalog name).bind ?_
      rintro _ ⟨id, rfl, found⟩
      refine ensures_pure ?_
      rintro _ ⟨⟩ column asked
      obtain ⟨field, isField, rfl⟩ := List.mem_map.1 asked
      exact ⟨(Catalog.modelId?_eq_some found).1, List.mem_range.1 isField⟩
  | field ref =>
      refine (resolveColumn_ensures catalog ref).bind ?_
      rintro _ ⟨column, rfl, refers⟩
      refine ensures_pure ?_
      rintro _ ⟨⟩ other asked
      rw [List.mem_singleton.1 asked]
      exact refers.hasColumn

/-- All projections of a select ask for columns of the catalog. -/
theorem resolveProjections_hasColumns (catalog : Catalog) (position : Position)
    (found : List Projection) (declared : List Declaration.Projection)
    (known : ∀ column ∈ Access.selectedColumns catalog found, catalog.HasColumn column) :
    (resolveProjections catalog position found declared).Ensures fun projections =>
      ∀ column ∈ Access.selectedColumns catalog projections, catalog.HasColumn column := by
  induction declared generalizing found with
  | nil => exact ensures_pure known
  | cons item others inductionHypothesis =>
      refine (resolveProjection_ensures catalog item).bind ?_
      intro result resultKnown
      cases result with
      | none => exact inductionHypothesis found known
      | some projection =>
          dsimp only
          split
          next => exact ensures_report_bind
          next =>
            apply inductionHypothesis
            intro column asked
            rw [Access.selectedColumns, List.flatMap_append, List.mem_append,
              List.flatMap_singleton] at asked
            exact asked.elim (known column) (resultKnown projection rfl column)

/-- A select asks for columns of the catalog, and its rows have the shape of what it asks for. -/
theorem resolveSelect_asks (catalog : Catalog) (declared : Declaration.Select) :
    (resolveSelect catalog declared).Ensures fun result => ∀ query, result = some query →
      (∀ column ∈ Access.selectedColumns catalog query.projections, catalog.HasColumn column) ∧
        query.result = resultShape catalog query.projections := by
  have drafted : (draftSelect? catalog declared).Ensures fun result => ∀ draft,
      result = some draft →
        ∀ column ∈ Access.selectedColumns catalog draft.projections,
          catalog.HasColumn column := by
    refine (resolveProjections_hasColumns catalog _ [] declared.projections
      (List.forall_mem_nil _)).bind ?_
    intro projections known
    cases first : projections.head? with
    | none => exact ensures_pure nofun
    | some projection =>
        refine (draftSelect_ensures catalog projections projection.source declared).bind ?_
        intro draft draftScoped
        refine ensures_pure ?_
        rintro _ ⟨⟩
        rwa [draftScoped.projections_eq]
  refine drafted.ifClean.bind ?_
  rintro _ ⟨result, rfl, resultKnown⟩
  cases result with
  | none => exact ensures_pure nofun
  | some draft =>
      rw [Option.join_some]
      dsimp only
      split
      next => exact ensures_report_bind
      next =>
        refine ensures_pure ?_
        rintro query ⟨⟩
        exact ⟨resultKnown draft rfl, rfl⟩

end Analysis

/-! ## Rows of selects -/

/-- What a column has can be decoded into a type: it is a value, or the type takes nothing too. -/
def Decodes (cell : Option V) (type : String) : Prop :=
  cell = none → Access.TakesNull type

section Selects

variable [LinearOrder V] {catalog : Catalog} {select : Select} {database : Database V}
  {arguments : Arguments V}

/--
A row of a select can be decoded exactly if it holds a row of the model of every column that may
not be null.
-/
theorem forall₂_decodes_iff (inside : SelectScoped catalog select)
    (known : ∀ column ∈ Access.selectedColumns catalog select.projections,
      catalog.HasColumn column)
    (shaped : select.result = resultShape catalog select.projections)
    (conforms : database.Conforms catalog) {joined : JoinedRow V}
    (member : joined ∈
      queryRows database arguments select.model select.joins select.conditions) :
    List.Forall₂ Decodes (select.projections.flatMap (Projection.cells catalog joined))
        (Access.columnTypes catalog select.result) ↔
      ∀ column ∈ Access.selectedColumns catalog select.projections,
        (catalog.field column).nullable = false → joined.Holds database column.model := by
  obtain ⟨joinedMem, -⟩ := List.mem_filter.1 member
  obtain ⟨row, rowMem, joinedMem⟩ := List.mem_flatMap.1 joinedMem
  rw [shaped, Access.columnTypes_resultShape, flatMap_cells, List.forall₂_map_left_iff,
    List.forall₂_map_right_iff, List.forall₂_same]
  refine forall₂_congr fun column asked => ?_
  rw [Decodes, Access.takesNull_fieldType]
  constructor
  · intro decodes notNull
    obtain ⟨projection, isProjection, ofProjection⟩ := List.mem_flatMap.1 asked
    have inQuery : column.model ∈ queryModels select.model select.joins := by
      rw [model_eq_source ofProjection]
      exact inside.sources projection isProjection
    refine holds_of_ne_none inside.tree rowMem joinedMem inQuery fun isNone => ?_
    have nullable := decodes isNone
    rw [notNull] at nullable
    cases nullable
  · intro held isNone
    by_contra notNullable
    have notNull : (catalog.field column).nullable = false := by simpa using notNullable
    obtain ⟨source, sourceMem, same⟩ := held notNull
    obtain ⟨modelTaken, fieldTaken⟩ := known column asked
    refine conforms.present _ modelTaken source sourceMem _ fieldTaken notNull ?_
    rw [← same]
    exact isNone

/-- What is surely so of a select holds in all of its joined rows. -/
theorem Surely.holdsIn {certainty : Certainty} (conforms : database.Conforms catalog)
    (surely : Surely catalog select.model select.joins select.conditions certainty)
    (inside : SelectScoped catalog select) {joined : JoinedRow V}
    (member : joined ∈
      queryRows database arguments select.model select.joins select.conditions) :
    certainty.HoldsIn database joined := by
  obtain ⟨joinedMem, meets⟩ := List.mem_filter.1 member
  obtain ⟨row, rowMem, joinedMem⟩ := List.mem_flatMap.1 joinedMem
  exact surely.sound conforms inside.tree rowMem joinedMem meets

end Selects

/--
In a database that meets the definitions of the tables, a row of a compiled select can be decoded
exactly if it holds a row of the model of every selected column that may not be null. So
all rows of a select can be decoded if these models are surely present.
-/
theorem compile_rowsDecode [LinearOrder V] {source : String} {plan : Plan}
    (compiled : compile source = .ok plan) (database : Database V)
    (conforms : database.Conforms plan.toCatalog) (arguments : Arguments V) (select : Select)
    (isSelect : select ∈ plan.selects) :
    (∀ joined ∈ queryRows database arguments select.model select.joins select.conditions,
      (List.Forall₂ Decodes (select.projections.flatMap (Projection.cells plan.toCatalog joined))
          (Access.columnTypes plan.toCatalog select.result) ↔
        ∀ column ∈ Access.selectedColumns plan.toCatalog select.projections,
          (plan.field column).nullable = false → joined.Holds database column.model)) ∧
    ((∀ column ∈ Access.selectedColumns plan.toCatalog select.projections,
        (plan.field column).nullable = false →
          Surely plan.toCatalog select.model select.joins select.conditions
            (.present column.model)) →
      ∀ row ∈ select.yields plan.toCatalog database arguments,
        List.Forall₂ Decodes row (Access.columnTypes plan.toCatalog select.result)) := by
  obtain ⟨schema, -, resolves⟩ := exists_resolves_of_compile compiled
  obtain ⟨declared, -, gives⟩ := resolves.selects select isSelect
  obtain ⟨inside, -⟩ := (resolveSelect_ensures _ declared).of_gives gives select rfl
  obtain ⟨known, shaped⟩ := (resolveSelect_asks _ declared).of_gives gives select rfl
  refine ⟨fun joined member => forall₂_decodes_iff inside known shaped conforms member, ?_⟩
  intro surely row isRow
  obtain ⟨joined, member, rfl⟩ := List.mem_map.1 isRow
  refine (forall₂_decodes_iff inside known shaped conforms member).2 fun column asked notNull => ?_
  exact (surely column asked notNull).holdsIn conforms inside member

/-- A schema of teams and of players that may be without a team, with two selects over both. -/
def clubSource : String :=
  "model team ( field id int autoincrement, field name text )
model player ( field id int autoincrement, field team int ( nullable ) )
relation player.team team.id ( on_delete set_null )
select player.id team.name
select player team.name ( where player.team > 0 )
"

/-- Every player with the name of a team. -/
def looseSelect : Select where
  model := 1
  projections := [.field ⟨1, 0⟩, .field ⟨0, 1⟩]
  joins := [⟨⟨1, 1⟩, ⟨0, 0⟩⟩]
  conditions := []
  cardinality := .many
  paging := none
  result := .record "PlayerIdTeamNameRow" [.field ⟨1, 0⟩, .field ⟨0, 1⟩]
  position := ⟨4, 1, 184⟩

/-- The players that have a team, with its name. -/
def settledSelect : Select where
  model := 1
  projections := [.model 1, .field ⟨0, 1⟩]
  joins := [⟨⟨1, 1⟩, ⟨0, 0⟩⟩]
  conditions := [⟨⟨1, 1⟩, .gt, .literal (.int 0)⟩]
  cardinality := .many
  paging := none
  result := .record "PlayerTeamNameRow" [.model 1, .field ⟨0, 1⟩]
  position := ⟨5, 1, 211⟩

/-- The plan of the schema. -/
def clubPlan : Plan where
  models := [
    ⟨"team", "team", [
      ⟨{ autoincrement := true }, "id", "id", .int, none, none, ⟨1, 20, 19⟩⟩,
      ⟨{}, "name", "name", .text, none, none, ⟨1, 48, 47⟩⟩],
      [0], [], ⟨1, 1, 0⟩⟩,
    ⟨"player", "player", [
      ⟨{ autoincrement := true }, "id", "id", .int, none, none, ⟨2, 22, 80⟩⟩,
      ⟨{ nullable := true }, "team", "team", .int, none, none, ⟨2, 50, 108⟩⟩],
      [0], [], ⟨2, 1, 59⟩⟩]
  relations := [⟨⟨1, 1⟩, ⟨0, 0⟩, some .setNull, ⟨3, 1, 132⟩⟩]
  inserts := []
  selects := [looseSelect, settledSelect]
  updates := []
  deletes := []
  counts := []
  returningTargets := []

/-- The source compiles to the plan. -/
theorem compile_clubSource : compile clubSource = .ok clubPlan := by
  apply eq_ok_of_toOption
  unfold clubSource
  rw [compile_ofList]
  decide +kernel

/-- One team, a player without a team and a player in it. -/
def clubDatabase : Database Nat
  | 0 => [.ofCells [some 1, some 10]]
  | 1 => [.ofCells [some 1, none], .ofCells [some 2, some 1]]
  | _ => []

/-- The players that have a team can be decoded, since a team that is referred to is there. -/
theorem clubPlan_rowsDecode :
    compile clubSource = .ok clubPlan ∧ clubDatabase.Conforms clubPlan.toCatalog ∧
    settledSelect.yields clubPlan.toCatalog clubDatabase ⟨fun _ => 0, fun _ => none⟩ =
      [[some 2, some 1, some 10]] ∧
    ∀ arguments : Arguments Nat,
      ∀ row ∈ settledSelect.yields clubPlan.toCatalog clubDatabase arguments,
        List.Forall₂ Decodes row (Access.columnTypes clubPlan.toCatalog settledSelect.result) := by
  have conforms : clubDatabase.Conforms clubPlan.toCatalog := by decide
  have isSelect : settledSelect ∈ clubPlan.selects := by decide
  refine ⟨compile_clubSource, conforms, by decide, fun arguments => ?_⟩
  refine (compile_rowsDecode compile_clubSource clubDatabase conforms arguments settledSelect
    isSelect).2 fun column asked notNull => ?_
  have columns : Access.selectedColumns clubPlan.toCatalog settledSelect.projections =
      [⟨1, 0⟩, ⟨1, 1⟩, ⟨0, 1⟩] := by decide
  simp only [columns, List.mem_cons, List.not_mem_nil, or_false] at asked
  rcases asked with rfl | rfl | rfl
  · exact .base
  · cases notNull
  · -- The player's team is compared, so it is a reference with a value.
    have compared : Surely clubPlan.toCatalog 1 settledSelect.joins settledSelect.conditions
        (.filled ⟨1, 1⟩) :=
      .compared ⟨⟨1, 1⟩, .gt, .literal (.int 0)⟩ (by decide) (by decide)
    exact .reference ⟨⟨1, 1⟩, ⟨0, 0⟩⟩ ⟨⟨1, 1⟩, ⟨0, 0⟩, some .setNull, ⟨3, 1, 132⟩⟩ (by decide)
      (by decide) rfl rfl compared

/-- The name of a team is missing for a player without a team, but decoded as a text. -/
theorem clubPlan_undecodable :
    compile clubSource = .ok clubPlan ∧ clubDatabase.Conforms clubPlan.toCatalog ∧
    looseSelect ∈ clubPlan.selects ∧
    Access.columnTypes clubPlan.toCatalog looseSelect.result = ["i32", "String"] ∧
    [some 1, none] ∈ looseSelect.yields clubPlan.toCatalog clubDatabase
      ⟨fun _ => 0, fun _ => none⟩ ∧
    ¬ List.Forall₂ Decodes [some 1, none]
      (Access.columnTypes clubPlan.toCatalog looseSelect.result) := by
  have types : Access.columnTypes clubPlan.toCatalog looseSelect.result = ["i32", "String"] := by
    decide
  refine ⟨compile_clubSource, by decide, by decide, types, by decide, ?_⟩
  have refuses : ¬ Access.TakesNull (Access.fieldType (clubPlan.field ⟨0, 1⟩)) := by
    rw [Access.takesNull_fieldType]
    decide
  rw [types]
  intro decodes
  cases decodes with
  | cons _ others =>
      cases others with
      | cons decodesName _ => exact refuses (decodesName rfl)

end Schemata
