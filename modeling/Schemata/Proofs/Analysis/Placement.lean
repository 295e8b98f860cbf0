import Schemata.Analysis
import Schemata.Proofs.Source.Declarations

/-!
# Problems are reported at places of the source

A problem is reported where something of the schema stands, or where it was counted to stand, and
the earlier definition that a problem may mention is remembered from there too. So a schema that
stands in a source has its problems in that source. `Checked.PlacedIn` carries this through the
steps of the resolution, whatever the steps before them reported.
-/

namespace Schemata.Analysis

open Checked

variable {source : String}

/-- All places that a problem mentions are places of the source. -/
structure Problem.PlacedIn (source : String) (problem : Problem) : Prop where
  position : IsPlace source problem.position
  previous : ∀ previous ∈ problem.previous?, IsPlace source previous

/-- A problem that mentions no earlier definition is placed where it is reported. -/
theorem Problem.placedIn_of_fresh {position : Position} {cause : Cause}
    (place : IsPlace source position) (fresh : (Problem.mk position cause).previous? = none) :
    (Problem.mk position cause).PlacedIn source where
  position := place
  previous := by
    intro previous mentioned
    rw [fresh] at mentioned
    cases mentioned

/-! ## Steps of the resolution -/

namespace Checked

variable {α β : Type}

/-- All problems of a step are at places of the source. -/
def PlacedIn (source : String) (checked : Checked α) : Prop :=
  ∀ problem ∈ checked.problems, problem.PlacedIn source

/-- A step that reports nothing reports nothing outside of the source. -/
theorem placedIn_pure (value : α) : (pure value : Checked α).PlacedIn source :=
  List.forall_mem_nil _

/-- Two steps report at places of the source if each does. -/
theorem PlacedIn.bind {first : Checked α} {next : α → Checked β} (placed : first.PlacedIn source)
    (continues : (next first.value).PlacedIn source) : (first >>= next).PlacedIn source :=
  List.forall_mem_append.2 ⟨placed, continues⟩

/-- Problems that are reported together are placed if each of them is. -/
theorem placedIn_reportAll {problems : List Problem}
    (placed : ∀ problem ∈ problems, problem.PlacedIn source) :
    (reportAll problems).PlacedIn source :=
  placed

/-- After a report that mentions no earlier definition, a step goes on. -/
theorem placedIn_report_bind {position : Position} {cause : Cause} {next : Unit → Checked α}
    (place : IsPlace source position) (fresh : (Problem.mk position cause).previous? = none)
    (continues : (next ()).PlacedIn source) : (report position cause >>= next).PlacedIn source :=
  PlacedIn.bind (List.forall_mem_singleton.2 (Problem.placedIn_of_fresh place fresh)) continues

/-- A choice reports at places of the source if both of its sides do. -/
theorem placedIn_ite {condition : Prop} [Decidable condition] {yes no : Checked α}
    (yesPlaced : condition → yes.PlacedIn source) (noPlaced : ¬ condition → no.PlacedIn source) :
    (if condition then yes else no).PlacedIn source := by
  split
  · next holds => exact yesPlaced holds
  · next fails => exact noPlaced fails

/-- Keeping a value only without problems reports nothing more. -/
theorem PlacedIn.ifClean {checked : Checked α} (placed : checked.PlacedIn source) :
    checked.ifClean.PlacedIn source :=
  placed

/-- A fold reports at places of the source if its steps do, from states that they keep good. -/
theorem placedIn_foldlM {step : β → α → Checked β} (good : β → Prop) {items : List α} {start : β}
    (holds : good start)
    (steps : ∀ item ∈ items, ∀ state, good state →
      (step state item).PlacedIn source ∧ good (step state item).value) :
    (items.foldlM step start).PlacedIn source := by
  induction items generalizing start with
  | nil => exact placedIn_pure start
  | cons item items inductionHypothesis =>
      rw [List.forall_mem_cons] at steps
      rw [List.foldlM_cons]
      obtain ⟨placed, kept⟩ := steps.1 start holds
      exact placed.bind (inductionHypothesis kept steps.2)

/-- Steps for one item after another report at places of the source if each does. -/
theorem placedIn_mapM {step : α → Checked β} {items : List α}
    (steps : ∀ item ∈ items, (step item).PlacedIn source) :
    (items.mapM step).PlacedIn source := by
  induction items with
  | nil => exact placedIn_pure []
  | cons item items inductionHypothesis =>
      rw [List.forall_mem_cons] at steps
      rw [List.mapM_cons]
      exact steps.1.bind ((inductionHypothesis steps.2).bind (placedIn_pure _))

end Checked

/-! ## Models -/

/-- Names that are taken, each since a place of the source. -/
def TakenIn (source : String) (taken : List (String × Position)) : Prop :=
  ∀ entry ∈ taken, IsPlace source entry.2

/-- An earlier definition that is found was remembered with its place. -/
theorem TakenIn.lookup {taken : List (String × Position)} {name : String} {previous : Position}
    (places : TakenIn source taken) (found : taken.lookup name = some previous) :
    IsPlace source previous := by
  obtain ⟨front, back, rfl, -⟩ := List.lookup_eq_some_iff.1 found
  exact places (name, previous) (by simp)

/-- Every source has a start. -/
theorem isPlace_start (source : String) : IsPlace source .start :=
  ⟨[], source.toList, rfl, rfl⟩

/-- Fields that are enrolled keep their places. -/
theorem enrolFields_placedIn (model : String) {taken : List (String × Position)}
    {fields : List Declaration.Field} (places : TakenIn source taken)
    (stand : ∀ field ∈ fields, field.name.StandsIn source) :
    (enrolFields model taken fields).PlacedIn source ∧
      ∀ field ∈ (enrolFields model taken fields).value, IsPlace source field.position := by
  induction fields generalizing taken with
  | nil => exact ⟨placedIn_pure [], List.forall_mem_nil _⟩
  | cons field fields inductionHypothesis =>
      rw [List.forall_mem_cons] at stand
      have place : IsPlace source field.name.position := StandsAt.isPlace stand.1
      rw [enrolFields]
      split
      · next previous found =>
        obtain ⟨placed, kept⟩ := inductionHypothesis places stand.2
        refine ⟨PlacedIn.bind ?_ placed, kept⟩
        refine List.forall_mem_singleton.2 ⟨place, ?_⟩
        rintro _ ⟨⟩
        exact places.lookup found
      · have more :
            TakenIn source ((Text.snakeCase field.name.text, field.name.position) :: taken) :=
          List.forall_mem_cons.2 ⟨place, places⟩
        obtain ⟨placed, kept⟩ := inductionHypothesis more stand.2
        refine ⟨PlacedIn.bind ?_ (placed.bind (placedIn_pure _)),
          List.forall_mem_cons.2 ⟨place, kept⟩⟩
        refine placedIn_reportAll (List.forall_mem_map.2 fun fault _ => ?_)
        exact Problem.placedIn_of_fresh place rfl

/-- A field of a key is refused where the key names it. -/
theorem keyFields_placedIn (model : String) (fields : List Field) {found : List FieldId}
    {names : List Name} (stand : ∀ name ∈ names, name.StandsIn source) :
    (keyFields model fields found names).PlacedIn source := by
  induction names generalizing found with
  | nil => exact placedIn_pure _
  | cons name names inductionHypothesis =>
      rw [List.forall_mem_cons] at stand
      have place : IsPlace source name.position := StandsAt.isPlace stand.1
      rw [keyFields]
      split
      · refine placedIn_report_bind place rfl ?_
        exact (inductionHypothesis stand.2).bind (placedIn_pure _)
      · split
        · refine placedIn_report_bind place rfl ?_
          exact (inductionHypothesis stand.2).bind (placedIn_pure _)
        · exact inductionHypothesis stand.2

/-- A key is refused where it names its fields. -/
theorem resolveKey_placedIn (model : String) (fields : List Field) {key : List Name}
    (stand : ∀ name ∈ key, name.StandsIn source) : (resolveKey model fields key).PlacedIn source :=
  (keyFields_placedIn model fields stand).bind (placedIn_pure _)

/-- A missing key is reported at the name of the model, and others where they are declared. -/
theorem resolvePrimaryKey_placedIn {declared : Declaration.Model} (fields : List Field)
    (stands : declared.StandsIn source) : (resolvePrimaryKey declared fields).PlacedIn source := by
  unfold resolvePrimaryKey
  split
  · next key isKey => exact resolveKey_placedIn _ fields (stands.key key isKey)
  · split
    · exact placedIn_pure _
    · exact placedIn_report_bind (StandsAt.isPlace stands.name) rfl (placedIn_pure _)

/-- A field of the primary key that may be missing is reported where it is declared. -/
theorem checkPrimaryKey_placedIn (model : String) {fields : List Field} (key : List FieldId)
    (places : ∀ field ∈ fields, IsPlace source field.position) :
    (checkPrimaryKey model fields key).PlacedIn source := by
  refine placedIn_reportAll fun problem member => ?_
  obtain ⟨id, -, reported⟩ := List.mem_filterMap.1 member
  dsimp only at reported
  split at reported
  · obtain rfl := Option.some.inj reported
    refine Problem.placedIn_of_fresh ?_ rfl
    rw [List.getD_eq_getElem?_getD]
    cases found : fields[id]? with
    | none => exact isPlace_start source
    | some field => exact places field (List.mem_of_getElem? found)
  · cases reported

/-- A unique key is refused where it is declared. -/
theorem resolveUniques_placedIn (model : String) (fields : List Field) (primaryKey : List FieldId)
    {found : List (List FieldId)} {keys : List (List Name)}
    (stand : ∀ key ∈ keys, ∀ name ∈ key, name.StandsIn source) :
    (resolveUniques model fields primaryKey found keys).PlacedIn source := by
  induction keys generalizing found with
  | nil => exact placedIn_pure _
  | cons key keys inductionHypothesis =>
      rw [List.forall_mem_cons] at stand
      cases key with
      | nil => exact inductionHypothesis stand.2
      | cons first names =>
          have place : IsPlace source first.position :=
            StandsAt.isPlace (stand.1 first List.mem_cons_self)
          rw [resolveUniques]
          refine (resolveKey_placedIn model fields stand.1).bind ?_
          split
          · exact inductionHypothesis stand.2
          · split
            · exact placedIn_report_bind place rfl (inductionHypothesis stand.2)
            · exact inductionHypothesis stand.2

/-- What an enrolment remembers, it remembers from places of the source. -/
structure Enrolment.PlacedIn (source : String) (enrolment : Enrolment) : Prop where
  names : TakenIn source enrolment.names
  tables : TakenIn source enrolment.tables

/-- A table that is taken is reported where it is named, with the place of the earlier one. -/
theorem takeTable_placedIn (model table : String) {tables : List (String × Position)}
    {position : Position} (places : TakenIn source tables) (place : IsPlace source position) :
    (takeTable model tables table position).PlacedIn source ∧
      TakenIn source (takeTable model tables table position).value := by
  unfold takeTable
  split
  · next previous found =>
    refine ⟨PlacedIn.bind ?_ (placedIn_pure _), places⟩
    refine List.forall_mem_singleton.2 ⟨place, ?_⟩
    rintro _ ⟨⟩
    exact places.lookup found
  · exact ⟨placedIn_pure _,
      List.forall_mem_append.2 ⟨places, List.forall_mem_singleton.2 place⟩⟩

/-- The table of a model is named at a place of the source. -/
theorem isPlace_tableOf {declared : Declaration.Model} (stands : declared.StandsIn source) :
    IsPlace source (tableOf declared).2 := by
  unfold tableOf
  split
  · next table isTable => exact StandsAt.isPlace (stands.table table isTable)
  · exact StandsAt.isPlace stands.name

/-- A model reports at places of the source and remembers places of it. -/
theorem enrolModel_placedIn {enrolment : Enrolment} {declared : Declaration.Model}
    (remembered : enrolment.PlacedIn source) (stands : declared.StandsIn source) :
    (enrolModel enrolment declared).PlacedIn source ∧
      (enrolModel enrolment declared).value.PlacedIn source := by
  have place : IsPlace source declared.name.position := StandsAt.isPlace stands.name
  unfold enrolModel
  dsimp only
  split
  · next previous found =>
    refine ⟨PlacedIn.bind ?_ (placedIn_pure _), remembered⟩
    refine List.forall_mem_singleton.2 ⟨place, ?_⟩
    rintro _ ⟨⟩
    exact remembered.names.lookup found
  · obtain ⟨tablesPlaced, tablesTaken⟩ := takeTable_placedIn declared.name.text
      (tableOf declared).1 remembered.tables (isPlace_tableOf stands)
    obtain ⟨fieldsPlaced, fieldsKept⟩ :=
      enrolFields_placedIn declared.name.text (List.forall_mem_nil _) stands.fields
    constructor
    · refine tablesPlaced.bind (fieldsPlaced.bind ?_)
      refine (resolvePrimaryKey_placedIn _ stands).bind ?_
      refine (checkPrimaryKey_placedIn _ _ fieldsKept).bind ?_
      exact (resolveUniques_placedIn _ _ _ stands.uniques).bind (placedIn_pure _)
    · exact ⟨List.forall_mem_append.2 ⟨remembered.names, List.forall_mem_singleton.2 place⟩,
        tablesTaken⟩

/-- All models report at places of the source. -/
theorem enrolModels_placedIn {declared : List Declaration.Model}
    (stand : ∀ model ∈ declared, model.StandsIn source) :
    (enrolModels declared).PlacedIn source := by
  refine PlacedIn.bind ?_ (placedIn_pure _)
  refine placedIn_foldlM (Enrolment.PlacedIn source)
    ⟨List.forall_mem_nil _, List.forall_mem_nil _⟩ ?_
  intro model member enrolment remembered
  exact enrolModel_placedIn remembered (stand model member)

/-! ## Names and relations -/

variable {catalog : Catalog}

/-- An unknown model is reported where it is named. -/
theorem resolveModel_placedIn {name : Name} (stands : name.StandsIn source) :
    (resolveModel catalog name).PlacedIn source := by
  unfold resolveModel
  split
  · exact placedIn_pure _
  · exact placedIn_report_bind (StandsAt.isPlace stands) rfl (placedIn_pure _)

/-- An unknown column is reported where its model or its field is named. -/
theorem resolveColumn_placedIn {ref : Declaration.ColumnRef} (stands : ref.StandsIn source) :
    (resolveColumn catalog ref).PlacedIn source := by
  obtain ⟨before, after, -, -, text⟩ := stands.path.text
  have named : ref.model.StandsIn source := text.left
  refine (resolveModel_placedIn named).bind ?_
  split
  · exact placedIn_pure _
  · split
    · exact placedIn_pure _
    · exact placedIn_report_bind stands.isPlace_field rfl (placedIn_pure _)

/-- A relation reports at its columns or where it is declared. -/
theorem resolveRelation_placedIn {declared : Declaration.Relation}
    (stands : declared.StandsIn source) : (resolveRelation catalog declared).PlacedIn source := by
  refine (resolveColumn_placedIn stands.left).bind ((resolveColumn_placedIn stands.right).bind ?_)
  split
  · dsimp only
    split
    · exact placedIn_pure _
    · refine PlacedIn.bind (placedIn_reportAll (List.forall_mem_map.2 fun fault _ => ?_))
        (placedIn_pure _)
      exact Problem.placedIn_of_fresh stands.position rfl
  · exact placedIn_pure _

/-- The models and relations of a schema report at places of its source. -/
theorem resolveCatalog_placedIn {schema : Declaration.Schema} (stands : schema.StandsIn source) :
    (resolveCatalog schema).PlacedIn source := by
  refine (enrolModels_placedIn stands.models).bind ?_
  refine placedIn_foldlM (fun _ => True) trivial ?_
  intro relation member catalog _
  exact ⟨resolveRelation_placedIn (stands.relations relation member), trivial⟩

/-! ## Joins and conditions -/

/-- An explicit join reports at its columns or where it is declared. -/
theorem joinExplicitly_placedIn {scope : Scope} {declared : Declaration.Join}
    (stands : declared.StandsIn source) :
    (joinExplicitly catalog scope declared).PlacedIn source := by
  refine (resolveColumn_placedIn stands.left).bind ((resolveColumn_placedIn stands.right).bind ?_)
  split
  · dsimp only
    split
    · split
      · exact placedIn_pure _
      · exact placedIn_pure _
      · exact placedIn_report_bind stands.position rfl (placedIn_pure _)
      · exact placedIn_report_bind stands.position rfl (placedIn_pure _)
    · exact placedIn_report_bind stands.position rfl (placedIn_pure _)
  · exact placedIn_pure _

/-- Explicit joins report at places of the source. -/
theorem joinAll_placedIn {scope : Scope} {joins : List Declaration.Join}
    (stand : ∀ join ∈ joins, join.StandsIn source) :
    (joins.foldlM (joinExplicitly catalog) scope).PlacedIn source := by
  refine placedIn_foldlM (fun _ => True) trivial ?_
  intro join member scope _
  exact ⟨joinExplicitly_placedIn (stand join member), trivial⟩

/-- A model that cannot be brought in is reported where it was asked for. -/
theorem reach_placedIn {position : Position} {scope : Scope} {model : ModelId}
    (place : IsPlace source position) : (reach catalog position scope model).PlacedIn source := by
  unfold reach
  dsimp only
  split
  · exact placedIn_pure _
  · split
    · exact placedIn_pure _
    · exact placedIn_report_bind place rfl (placedIn_pure _)
    · exact placedIn_report_bind place rfl (placedIn_pure _)

/-- The right side of a condition reports where it names a column. -/
theorem resolveOperand_placedIn {operand : Declaration.Operand} (stands : operand.StandsIn source) :
    (resolveOperand catalog operand).PlacedIn source := by
  cases operand with
  | placeholder => exact placedIn_pure _
  | literal value => exact placedIn_pure _
  | column ref => exact (resolveColumn_placedIn stands).bind (placedIn_pure _)

/-- A model that an operand mentions is reported where the condition is declared. -/
theorem reachOperand_placedIn {position : Position} {scope : Scope} (operand : Operand)
    (place : IsPlace source position) :
    (reachOperand catalog position scope operand).PlacedIn source := by
  cases operand with
  | placeholder => exact placedIn_pure _
  | literal value => exact placedIn_pure _
  | column column => exact reach_placedIn place

/-- A condition reports at its columns or where it is declared. -/
theorem resolveCondition_placedIn {scope : Scope} {declared : Declaration.Condition}
    (stands : declared.StandsIn source) :
    (resolveCondition catalog scope declared).PlacedIn source := by
  refine (resolveColumn_placedIn stands.left).bind ((resolveOperand_placedIn stands.right).bind ?_)
  split
  · refine (reach_placedIn stands.left.isPlace).bind ?_
    refine (reachOperand_placedIn _ stands.position).bind ?_
    dsimp only
    split
    · exact placedIn_pure _
    · exact placedIn_report_bind stands.position rfl (placedIn_pure _)
  · exact placedIn_pure _

/-- Conditions report at places of the source. -/
theorem resolveConditions_placedIn {scope : Scope} {declared : List Declaration.Condition}
    (stand : ∀ condition ∈ declared, condition.StandsIn source) :
    (resolveConditions catalog scope declared).PlacedIn source := by
  induction declared generalizing scope with
  | nil => exact placedIn_pure _
  | cons condition others inductionHypothesis =>
      rw [List.forall_mem_cons] at stand
      refine (resolveCondition_placedIn stand.1).bind ?_
      exact (inductionHypothesis stand.2).bind (placedIn_pure _)

/-! ## Queries -/

/-- What a select asks for reports where it is named. -/
theorem resolveProjection_placedIn {projection : Declaration.Projection}
    (stands : projection.StandsIn source) :
    (resolveProjection catalog projection).PlacedIn source := by
  cases projection with
  | model name => exact (resolveModel_placedIn stands).bind (placedIn_pure _)
  | field ref => exact (resolveColumn_placedIn stands).bind (placedIn_pure _)

/-- A repeated projection is reported where its select is declared. -/
theorem resolveProjections_placedIn {position : Position} {found : List Projection}
    {declared : List Declaration.Projection} (place : IsPlace source position)
    (stand : ∀ projection ∈ declared, projection.StandsIn source) :
    (resolveProjections catalog position found declared).PlacedIn source := by
  induction declared generalizing found with
  | nil => exact placedIn_pure _
  | cons projection others inductionHypothesis =>
      rw [List.forall_mem_cons] at stand
      refine (resolveProjection_placedIn stand.1).bind ?_
      split
      · exact inductionHypothesis stand.2
      · split
        · exact placedIn_report_bind place rfl (inductionHypothesis stand.2)
        · exact inductionHypothesis stand.2

/-- A request for pages reports at its column or at its size. -/
theorem resolvePaging_placedIn {base : ModelId} {declared : Declaration.Paging}
    (stands : declared.StandsIn source) :
    (resolvePaging catalog base declared).PlacedIn source := by
  refine (resolveColumn_placedIn stands.column).bind ?_
  split
  · exact placedIn_pure _
  · split
    · exact placedIn_report_bind stands.column.isPlace rfl (placedIn_pure _)
    · split
      · exact placedIn_pure _
      · exact placedIn_report_bind stands.size rfl (placedIn_pure _)

/-- The parts of a select that starts from a model report at places of the source. -/
theorem draftSelect_placedIn {projections : List Projection} {base : ModelId}
    {declared : Declaration.Select} (stands : declared.StandsIn source) :
    (draftSelect catalog projections base declared).PlacedIn source := by
  refine (joinAll_placedIn stands.joins).bind ?_
  refine PlacedIn.bind ?_ ((resolveConditions_placedIn stands.conditions).bind
    (PlacedIn.bind ?_ (placedIn_pure _)))
  · refine placedIn_foldlM (fun _ => True) trivial ?_
    intro model _ scope _
    exact ⟨reach_placedIn stands.position, trivial⟩
  · cases paged : declared.paging with
    | none => exact placedIn_pure _
    | some paging => exact resolvePaging_placedIn (stands.paging paging paged)

/-- The parts of a select report at places of the source. -/
theorem draftSelect?_placedIn {declared : Declaration.Select} (stands : declared.StandsIn source) :
    (draftSelect? catalog declared).PlacedIn source := by
  refine (resolveProjections_placedIn stands.position stands.projections).bind ?_
  split
  · exact placedIn_pure _
  · exact (draftSelect_placedIn stands).bind (placedIn_pure _)

/-- A select reports at places of the source. -/
theorem resolveSelect_placedIn {declared : Declaration.Select} (stands : declared.StandsIn source) :
    (resolveSelect catalog declared).PlacedIn source := by
  refine (draftSelect?_placedIn stands).ifClean.bind ?_
  split
  · exact placedIn_pure _
  · dsimp only
    split
    · next paging paged _ =>
      exact placedIn_report_bind (stands.paging paging paged).position rfl (placedIn_pure _)
    · exact placedIn_pure _

/-- An insert reports where it names its model. -/
theorem resolveInsert_placedIn {declared : Declaration.Insert} (stands : declared.StandsIn source) :
    (resolveInsert catalog declared).PlacedIn source :=
  (resolveModel_placedIn stands.model).bind (placedIn_pure _)

/-- A foreign column is one that the condition mentions. -/
theorem foreignColumn?_standsIn {model : String} {declared : Declaration.Condition}
    {ref : Declaration.ColumnRef} (stands : declared.StandsIn source)
    (foreign : foreignColumn? model declared = some ref) : ref.StandsIn source := by
  have mentioned := List.mem_of_find?_eq_some foreign
  have right := stands.right
  split at mentioned
  · next other isColumn =>
    rw [isColumn] at right
    simp only [List.mem_cons, List.not_mem_nil, or_false] at mentioned
    rcases mentioned with rfl | rfl
    · exact stands.left
    · exact right
  · obtain rfl := List.mem_singleton.1 mentioned
    exact stands.left

/-- An update reports at places of the source. -/
theorem resolveUpdate_placedIn {declared : Declaration.Update} (stands : declared.StandsIn source) :
    (resolveUpdate catalog declared).PlacedIn source := by
  have foreignPlaced : ∀ model, ∀ ref ∈ declared.conditions.filterMap (foreignColumn? model),
      IsPlace source ref.position := by
    intro model ref member
    obtain ⟨condition, inUpdate, foreign⟩ := List.mem_filterMap.1 member
    exact (foreignColumn?_standsIn (stands.conditions condition inUpdate) foreign).isPlace
  refine (resolveModel_placedIn stands.model).bind ?_
  split
  · exact placedIn_pure _
  · refine placedIn_ite (fun _ => placedIn_report_bind stands.position rfl ?_) fun _ => ?_
    -- Whether or not there is something to update, the conditions are resolved next.
    all_goals
      refine PlacedIn.bind (placedIn_reportAll (List.forall_mem_map.2 fun ref member =>
        Problem.placedIn_of_fresh (foreignPlaced _ ref member) rfl)) ?_
      refine placedIn_ite (fun _ => placedIn_pure _) fun _ => ?_
      refine (resolveConditions_placedIn stands.conditions).ifClean.bind ?_
      split
      · exact placedIn_pure _
      · split
        · exact placedIn_report_bind stands.position rfl (placedIn_pure _)
        · exact placedIn_ite (fun _ => placedIn_pure _) fun _ => placedIn_pure _

/-- What deletes and counts have in common reports at places of the source. -/
theorem resolveFiltered_placedIn {declared : Declaration.Filtered}
    (stands : declared.StandsIn source) : (resolveFiltered catalog declared).PlacedIn source := by
  refine (resolveModel_placedIn stands.model).bind ?_
  split
  · exact placedIn_pure _
  · refine PlacedIn.ifClean ?_
    exact (joinAll_placedIn stands.joins).bind (resolveConditions_placedIn stands.conditions)

/-! ## Schemas -/

/-- Queries of one kind report at places of the source if each does. -/
theorem resolveAll_placedIn {α β : Type} {resolve : α → Checked (Option β)} {declared : List α}
    (placed : ∀ item ∈ declared, (resolve item).PlacedIn source) :
    (resolveAll resolve declared).PlacedIn source :=
  (placedIn_mapM placed).bind (placedIn_pure _)

/-- All problems of a schema that stands in a source are at places of the source. -/
theorem resolveSchema_placedIn {schema : Declaration.Schema} (stands : schema.StandsIn source) :
    (resolveSchema schema).PlacedIn source := by
  refine (resolveCatalog_placedIn stands).bind ?_
  refine PlacedIn.bind (resolveAll_placedIn fun insert member =>
    resolveInsert_placedIn (stands.inserts insert member)) ?_
  refine PlacedIn.bind (resolveAll_placedIn fun select member =>
    resolveSelect_placedIn (stands.selects select member)) ?_
  refine PlacedIn.bind (resolveAll_placedIn fun update member =>
    resolveUpdate_placedIn (stands.updates update member)) ?_
  refine PlacedIn.bind (resolveAll_placedIn fun delete member =>
    (resolveFiltered_placedIn (stands.deletes delete member)).bind (placedIn_pure _)) ?_
  refine PlacedIn.bind (resolveAll_placedIn fun count member =>
    (resolveFiltered_placedIn (stands.counts count member)).bind (placedIn_pure _)) ?_
  exact placedIn_pure _

end Schemata.Analysis
