import Mathlib.Data.List.Nodup
import Schemata.Proofs.Analysis.Resolution
import Schemata.Proofs.Declaration.Reading

/-!
# Catalogs that were compiled are well formed

The rules for models, fields, keys and relations, each stated once for the finished catalog, and
the order of the models that are read back. Resolution goes on after a problem with fields left
out and keys that are empty, so every rule is proved of a step under the condition that no
problem was reported: a column, name, table or relation that was taken already is reported, and
so is every field of a key that is not found. Two rules are known from reading alone.
-/

namespace Schemata

/-! ## The rules -/

/-- Which literals can stand in a column: null where it may, and values of the column's type. -/
inductive Literal.StandsIn (type : FieldType) (nullable : Bool) : Literal → Prop where
  | null (allowed : nullable = true) : StandsIn type nullable .null
  | bool (value : Bool) (isBool : type = .bool) : StandsIn type nullable (.bool value)
  | int (value : Int) (isNumber : type = .int ∨ type = .int64 ∨ type = .float64) :
      StandsIn type nullable (.int value)
  | text (content : String) (isText : type = .text ∨ type = .timestamp ∨ type = .blob) :
      StandsIn type nullable (.text content)

/-- What the marks, the length and the default of a field ask of its type. -/
structure Field.WellFormed (field : Field) : Prop where
  autoincrement : field.autoincrement = true →
    field.nullable = false ∧ (field.type = .int ∨ field.type = .int64)
  stamps : field.autoinsert = true ∨ field.autoupdate = true → field.type = .timestamp
  length : ∀ length, field.length = some length → field.type = .text ∧ 0 < length
  default : ∀ literal, field.default = some literal → literal.StandsIn field.type field.nullable

/-- A key names at least one field of its model, and none twice. -/
structure IsKey (fields : List Field) (key : List FieldId) : Prop where
  nonempty : key ≠ []
  inRange : ∀ id ∈ key, id < fields.length
  nodup : key.Nodup

/-- The rules for one model. -/
structure Model.WellFormed (model : Model) : Prop where
  fields : ∀ field ∈ model.fields, field.WellFormed
  names : (model.fields.map (·.name)).Nodup
  columns : (model.fields.map (·.column)).Nodup
  primaryKey : IsKey model.fields model.primaryKey
  present : ∀ id ∈ model.primaryKey, (model.field id).nullable = false
  unique : ∀ key ∈ model.unique, IsKey model.fields key ∧ key ≠ model.primaryKey
  distinct : model.unique.Nodup

/-- The rules for one relation over the models of a catalog. -/
structure Relation.WellFormed (catalog : Catalog) (relation : Relation) : Prop where
  left : catalog.HasColumn relation.left
  right : catalog.HasColumn relation.right
  models : relation.left.model ≠ relation.right.model
  types : (catalog.field relation.left).type = (catalog.field relation.right).type
  unique : [relation.right.field] = (catalog.model relation.right.model).primaryKey ∨
    [relation.right.field] ∈ (catalog.model relation.right.model).unique
  setNull : relation.onDelete = some .setNull → (catalog.field relation.left).nullable = true

/-- The rules for all models together: no name, whatever its style, and no table twice. -/
structure ModelsWellFormed (models : List Model) : Prop where
  each : ∀ model ∈ models, model.WellFormed
  names : (models.map (·.name)).Nodup
  snakeNames : (models.map fun model => Text.snakeCase model.name).Nodup
  tables : (models.map (·.table)).Nodup

/-- The rules for a catalog. -/
structure Catalog.WellFormed (catalog : Catalog) : Prop where
  models : ModelsWellFormed catalog.models
  relations : ∀ relation ∈ catalog.relations, relation.WellFormed catalog
  distinct : (catalog.relations.map fun relation => (relation.left, relation.right)).Nodup

/-- The first uses of models: each one once, and in the order in which they come first. -/
structure FirstUses (uses targets : List ModelId) : Prop where
  nodup : targets.Nodup
  same : ∀ model, model ∈ targets ↔ model ∈ uses
  ordered : targets.Pairwise fun earlier later => uses.idxOf earlier < uses.idxOf later

/-- The rules for a relation look at the models only. -/
theorem Relation.WellFormed.withRelations {catalog : Catalog} {relation : Relation}
    (wellFormed : relation.WellFormed catalog) (relations : List Relation) :
    relation.WellFormed { catalog with relations := relations } :=
  ⟨wellFormed.left, wellFormed.right, wellFormed.models, wellFormed.types, wellFormed.unique,
    wellFormed.setNull⟩

/-- A literal that fits a column can stand in it. -/
theorem Literal.standsIn_of_fits {type : FieldType} {nullable : Bool} {literal : Literal}
    (fits : literal.fits type nullable = true) : literal.StandsIn type nullable := by
  cases literal with
  | null => exact .null fits
  | bool value => exact .bool value (by simpa [Literal.fits] using fits)
  | int value => exact .int value (by cases type <;> simp_all [Literal.fits, FieldType.isInteger])
  | text content => exact .text content (by simpa [Literal.fits, or_assoc] using fits)

namespace Analysis

open Checked

/-! ## Fields -/

/-- A field without faults is well formed. -/
theorem resolveField_wellFormed {declared : Declaration.Field} (column : String)
    (sized : declared.Sized) (faultless : attributeFaults declared = []) :
    (resolveField declared column).WellFormed := by
  simp only [attributeFaults, List.append_eq_nil_iff] at faultless
  obtain ⟨⟨⟨⟨counts, present⟩, stamps⟩, length⟩, fits⟩ := faultless
  refine ⟨fun isAuto => ⟨?_, ?_⟩, fun isStamp => ?_, fun size sizeEq => ?_, fun literal given => ?_⟩
  · simp_all [resolveField]
  · change declared.marks.autoincrement = true at isAuto
    change declared.type.value = .int ∨ declared.type.value = .int64
    cases type : declared.type.value <;> simp_all [FieldType.isInteger]
  · simp_all [resolveField]
  · obtain ⟨length, lengthEq, rfl⟩ := Option.map_eq_some_iff.1 sizeEq
    exact ⟨by simp_all [resolveField], sized length lengthEq⟩
  · obtain ⟨default, defaultEq, rfl⟩ := Option.map_eq_some_iff.1 given
    apply Literal.standsIn_of_fits
    simp_all [resolveField]

/-- Without a problem, the fields of a model are well formed and their columns are new. -/
theorem enrolFields_ensures (model : String) (taken : List (String × Position))
    (declared : List Declaration.Field) (sized : ∀ field ∈ declared, field.Sized) :
    (enrolFields model taken declared).Ensures fun fields =>
      (∀ field ∈ fields, field.WellFormed ∧ field.column = Text.snakeCase field.name ∧
        taken.lookup field.column = none) ∧
      (fields.map (·.column)).Nodup := by
  induction declared generalizing taken with
  | nil => exact ensures_pure ⟨List.forall_mem_nil _, List.nodup_nil⟩
  | cons field declared inductionHypothesis =>
      rw [enrolFields]
      cases free : taken.lookup (Text.snakeCase field.name.text) with
      | some previous => exact ensures_report_bind
      | none =>
          have othersSized : ∀ other ∈ declared, other.Sized := fun other member =>
            sized other (List.mem_cons_of_mem field member)
          refine (ensures_reportAll _).bind fun _ faultless => ?_
          refine (inductionHypothesis _ othersSized).bind fun others othersGiven => ensures_pure ?_
          obtain ⟨othersFormed, othersNodup⟩ := othersGiven
          have wellFormed := resolveField_wellFormed (Text.snakeCase field.name.text)
            (sized field List.mem_cons_self) (List.map_eq_nil_iff.1 faultless)
          -- A column of the others is free behind the new one, so it differs from it and was free.
          have othersFree : ∀ other ∈ others, other.column ≠ Text.snakeCase field.name.text ∧
              taken.lookup other.column = none := by
            intro other member
            have free := (othersFormed other member).2.2
            rw [List.lookup_cons] at free
            split at free
            · cases free
            · next differs => exact ⟨by simpa using differs, free⟩
          refine ⟨fun other member => ?_, List.nodup_cons.2 ⟨fun member => ?_, othersNodup⟩⟩
          · rcases List.mem_cons.1 member with rfl | member
            · exact ⟨wellFormed, rfl, free⟩
            · exact ⟨(othersFormed other member).1, (othersFormed other member).2.1,
                (othersFree other member).2⟩
          · obtain ⟨other, otherMem, sameColumn⟩ := List.mem_map.1 member
            exact (othersFree other otherMem).1 sameColumn

/-! ## Keys -/

/-- Without a problem, the fields of a key were all found, and none was found twice. -/
theorem keyFields_ensures (model : String) (fields : List Field) (names : List Name)
    (found : List FieldId) (inRange : ∀ id ∈ found, id < fields.length) (nodup : found.Nodup) :
    (keyFields model fields found names).Ensures fun result =>
      ∃ key, result = some key ∧ key.length = found.length + names.length ∧
        (∀ id ∈ key, id < fields.length) ∧ key.Nodup := by
  induction names generalizing found with
  | nil => exact ensures_pure ⟨found, rfl, rfl, inRange, nodup⟩
  | cons name names inductionHypothesis =>
      rw [keyFields]
      cases isFound : keyField? fields name with
      | none => exact ensures_report_bind
      | some id =>
          dsimp only
          split
          · exact ensures_report_bind
          · next isNew =>
            obtain ⟨idBound, -⟩ := List.findIdx?_eq_some_iff_getElem.1 isFound
            have moreInRange : ∀ other ∈ found ++ [id], other < fields.length := by
              intro other member
              rcases List.mem_append.1 member with member | member
              · exact inRange other member
              · rw [List.mem_singleton.1 member]
                exact idBound
            have moreNodup : (found ++ [id]).Nodup := by
              rw [← List.concat_eq_append, List.nodup_concat]
              exact ⟨by simpa using isNew, nodup⟩
            refine (inductionHypothesis _ moreInRange moreNodup).mono ?_
            rintro _ ⟨key, rfl, length, rest⟩
            refine ⟨key, rfl, ?_, rest⟩
            simp only [length, List.length_append, List.length_cons, List.length_nil]
            omega

/-- Without a problem, a key that names fields is resolved to a key of the model. -/
theorem resolveKey_ensures (model : String) (fields : List Field) {names : List Name}
    (nonempty : names ≠ []) : (resolveKey model fields names).Ensures (IsKey fields) := by
  refine (keyFields_ensures model fields names [] (List.forall_mem_nil _) List.nodup_nil).bind ?_
  rintro _ ⟨key, rfl, length, inRange, nodup⟩
  refine ensures_pure ⟨?_, inRange, nodup⟩
  have positive := List.length_pos_iff.2 nonempty
  apply List.ne_nil_of_length_pos
  rw [Option.getD_some, length, List.length_nil]
  omega

/-- Without a problem, a model has a primary key. -/
theorem resolvePrimaryKey_ensures {declared : Declaration.Model} (asRead : declared.AsRead)
    (fields : List Field) : (resolvePrimaryKey declared fields).Ensures (IsKey fields) := by
  unfold resolvePrimaryKey
  cases isKey : declared.key with
  | some key =>
      refine resolveKey_ensures _ _ fun empty => asRead.key ?_
      rw [isKey, empty]
  | none =>
      dsimp only
      split
      · next id only =>
        refine ensures_pure ⟨List.cons_ne_nil _ _, fun other member => ?_, List.nodup_singleton id⟩
        have listed : id ∈ autoincrementFields fields := by
          rw [only]
          exact List.mem_cons_self
        rw [List.mem_singleton.1 member]
        exact List.mem_range.1 (List.mem_filter.1 listed).1
      · exact ensures_report_bind

/-- Without a problem, no field of a primary key is nullable. -/
theorem checkPrimaryKey_ensures (model : String) (fields : List Field) (key : List FieldId) :
    (checkPrimaryKey model fields key).Ensures fun _ =>
      ∀ id ∈ key, (fields.getD id default).nullable = false := by
  refine (ensures_reportAll _).mono fun _ none id member => ?_
  have present := List.filterMap_eq_nil_iff.1 none id member
  simpa using present

/-- Without a problem, the unique keys are keys of the model, and no two keys are the same. -/
theorem resolveUniques_ensures (model : String) (fields : List Field) (primaryKey : List FieldId)
    (keys : List (List Name)) (found : List (List FieldId))
    (areKeys : ∀ key ∈ found, IsKey fields key ∧ key ≠ primaryKey) (nodup : found.Nodup) :
    (resolveUniques model fields primaryKey found keys).Ensures fun uniques =>
      (∀ key ∈ uniques, IsKey fields key ∧ key ≠ primaryKey) ∧ uniques.Nodup := by
  induction keys generalizing found with
  | nil => exact ensures_pure ⟨areKeys, nodup⟩
  | cons names keys inductionHypothesis =>
      cases names with
      | nil => exact inductionHypothesis found areKeys nodup
      | cons first names =>
          rw [resolveUniques]
          refine (resolveKey_ensures model fields (List.cons_ne_nil first names)).bind ?_
          intro resolved isKey
          split
          · exact inductionHypothesis found areKeys nodup
          · split
            · exact ensures_report_bind
            · next isNew =>
              simp only [Bool.or_eq_true, decide_eq_true_eq, List.contains_iff_mem, not_or] at isNew
              refine inductionHypothesis _ (fun key member => ?_) ?_
              · rcases List.mem_append.1 member with member | member
                · exact areKeys key member
                · rw [List.mem_singleton.1 member]
                  exact ⟨isKey, isNew.1⟩
              · rw [← List.concat_eq_append, List.nodup_concat]
                exact ⟨isNew.2, nodup⟩

/-! ## Models -/

/-- A name that is not found is not among the entries. -/
theorem not_mem_of_lookup_eq_none {entries : List (String × Position)} {name : String}
    (free : entries.lookup name = none) : name ∉ entries.map (·.1) := by
  intro member
  obtain ⟨entry, entryMem, rfl⟩ := List.mem_map.1 member
  have differs := List.lookup_eq_none_iff.1 free entry entryMem
  simp at differs

/-- Without a problem, a table is new and is taken. -/
theorem takeTable_ensures (model : String) (tables : List (String × Position)) (table : String)
    (position : Position) :
    (takeTable model tables table position).Ensures fun taken =>
      taken.map (·.1) = tables.map (·.1) ++ [table] ∧ table ∉ tables.map (·.1) := by
  unfold takeTable
  cases free : tables.lookup table with
  | some previous => exact ensures_report_bind
  | none => exact ensures_pure ⟨List.map_append, not_mem_of_lookup_eq_none free⟩

/-- The enrolled models are well formed, and their names and tables are those that are taken. -/
structure Enrolled (enrolment : Enrolment) : Prop where
  each : ∀ model ∈ enrolment.models, model.WellFormed
  names : enrolment.names.map (·.1) = enrolment.models.map fun model => Text.snakeCase model.name
  namesNodup : (enrolment.names.map (·.1)).Nodup
  tables : enrolment.tables.map (·.1) = enrolment.models.map (·.table)
  tablesNodup : (enrolment.tables.map (·.1)).Nodup

/-- Without a problem, one more model is enrolled. -/
theorem enrolModel_ensures {enrolment : Enrolment} {declared : Declaration.Model}
    (enrolled : Enrolled enrolment) (asRead : declared.AsRead) :
    (enrolModel enrolment declared).Ensures Enrolled := by
  unfold enrolModel
  dsimp only
  cases free : enrolment.names.lookup (Text.snakeCase declared.name.text) with
  | some previous => exact ensures_report_bind
  | none =>
      dsimp only
      refine (takeTable_ensures _ _ _ _).bind fun tables tablesTaken => ?_
      refine (enrolFields_ensures _ [] _ asRead.fields).bind fun fields fieldsGiven => ?_
      refine (resolvePrimaryKey_ensures asRead fields).bind fun key isKey => ?_
      refine (checkPrimaryKey_ensures _ fields key).bind fun _ present => ?_
      refine (resolveUniques_ensures _ fields key _ [] (List.forall_mem_nil _) List.nodup_nil).bind
        fun uniques uniquesGiven => ensures_pure ?_
      obtain ⟨fieldsFormed, columnsNodup⟩ := fieldsGiven
      have columnsOfNames : fields.map (·.column) = (fields.map (·.name)).map Text.snakeCase := by
        rw [List.map_map]
        exact List.map_congr_left fun field member => (fieldsFormed field member).2.1
      have namesNodup : (fields.map (·.name)).Nodup := by
        rw [columnsOfNames] at columnsNodup
        exact columnsNodup.of_map
      constructor
      · refine List.forall_mem_append.2 ⟨enrolled.each, List.forall_mem_singleton.2 ?_⟩
        exact ⟨fun field member => (fieldsFormed field member).1, namesNodup, columnsNodup, isKey,
          present, uniquesGiven.1, uniquesGiven.2⟩
      · rw [List.map_append, List.map_append, enrolled.names]
        rfl
      · rw [List.map_append, List.map_singleton, ← List.concat_eq_append, List.nodup_concat]
        exact ⟨not_mem_of_lookup_eq_none free, enrolled.namesNodup⟩
      · rw [tablesTaken.1, List.map_append, enrolled.tables]
        rfl
      · rw [tablesTaken.1, ← List.concat_eq_append, List.nodup_concat]
        exact ⟨tablesTaken.2, enrolled.tablesNodup⟩

/-- Without a problem, the models of a schema are well formed. -/
theorem enrolModels_ensures {declared : List Declaration.Model}
    (asRead : ∀ model ∈ declared, model.AsRead) :
    (enrolModels declared).Ensures ModelsWellFormed := by
  have start : Enrolled {} := ⟨List.forall_mem_nil _, rfl, List.nodup_nil, rfl, List.nodup_nil⟩
  refine (ensures_foldlM enrolModel
    (fun rest enrolment => Enrolled enrolment ∧ ∀ model ∈ rest, model.AsRead)
    ?_ declared {} ⟨start, asRead⟩).bind fun enrolment enrolled => ensures_pure ?_
  · rintro model rest enrolment ⟨enrolled, restAsRead⟩
    obtain ⟨modelAsRead, othersAsRead⟩ := List.forall_mem_cons.1 restAsRead
    exact (enrolModel_ensures enrolled modelAsRead).mono fun _ holds => ⟨holds, othersAsRead⟩
  · obtain ⟨each, names, namesNodup, tables, tablesNodup⟩ := enrolled.1
    rw [names] at namesNodup
    rw [tables] at tablesNodup
    refine ⟨each, ?_, namesNodup, tablesNodup⟩
    have writtenNames : enrolment.models.map (fun model => Text.snakeCase model.name) =
        (enrolment.models.map (·.name)).map Text.snakeCase := by
      rw [List.map_map]
      rfl
    rw [writtenNames] at namesNodup
    exact namesNodup.of_map

/-! ## Relations -/

/-- A relation without faults is well formed, and is declared for the first time. -/
theorem relation_wellFormed_of_faultless {catalog : Catalog} {relation : Relation}
    (left : catalog.HasColumn relation.left) (right : catalog.HasColumn relation.right)
    (faultless : relationFaults catalog relation.left relation.right relation.onDelete = []) :
    relation.WellFormed catalog ∧ (relation.left, relation.right) ∉
      catalog.relations.map fun other => (other.left, other.right) := by
  simp only [relationFaults, List.append_eq_nil_iff] at faultless
  obtain ⟨⟨⟨⟨models, types⟩, unique⟩, setNull⟩, isNew⟩ := faultless
  refine ⟨⟨left, right, ?_, ?_, ?_, ?_⟩, ?_⟩
  · simpa using models
  · simpa using types
  · simpa [Model.isUniqueField, Model.uniqueKeys, or_iff_not_imp_left] using unique
  · simpa using setNull
  · simpa using isNew

/-- The relations of a catalog over given models are well formed, and each is declared once. -/
structure Related (models : List Model) (catalog : Catalog) : Prop where
  models : catalog.models = models
  each : ∀ relation ∈ catalog.relations, relation.WellFormed catalog
  distinct : (catalog.relations.map fun relation => (relation.left, relation.right)).Nodup

/-- Without a problem, one more relation is added. -/
theorem resolveRelation_ensures {models : List Model} {catalog : Catalog}
    (related : Related models catalog) (declared : Declaration.Relation) :
    (resolveRelation catalog declared).Ensures (Related models) := by
  refine (resolveColumn_ensures catalog declared.left).bind ?_
  rintro _ ⟨left, rfl, leftRefers⟩
  refine (resolveColumn_ensures catalog declared.right).bind ?_
  rintro _ ⟨right, rfl, rightRefers⟩
  dsimp only
  split
  · next faultless =>
    obtain ⟨wellFormed, isNew⟩ := @relation_wellFormed_of_faultless catalog
      ⟨left, right, declared.onDelete.map (·.value), declared.position⟩
      leftRefers.hasColumn rightRefers.hasColumn faultless
    refine ensures_pure ⟨related.models, ?_, ?_⟩
    · refine List.forall_mem_append.2 ⟨fun other member => ?_, List.forall_mem_singleton.2 ?_⟩
      · exact (related.each other member).withRelations _
      · exact wellFormed.withRelations _
    · rw [List.map_append, List.map_singleton, ← List.concat_eq_append, List.nodup_concat]
      exact ⟨isNew, related.distinct⟩
  · next faulty =>
    refine (ensures_reportAll _).bind fun _ none => ?_
    exact absurd (List.map_eq_nil_iff.1 none) faulty

/-- Without a problem, the catalog of a schema is well formed. -/
theorem resolveCatalog_ensures {schema : Declaration.Schema}
    (asRead : ∀ model ∈ schema.models, model.AsRead) :
    (resolveCatalog schema).Ensures Catalog.WellFormed := by
  refine (enrolModels_ensures asRead).bind fun models modelsFormed => ?_
  have start : Related models ⟨models, []⟩ := ⟨rfl, List.forall_mem_nil _, List.nodup_nil⟩
  refine (ensures_foldlM resolveRelation (fun _ catalog => Related models catalog) ?_
    schema.relations _ start).mono ?_
  · exact fun relation _ catalog related => resolveRelation_ensures related relation
  · exact fun catalog related => ⟨related.models ▸ modelsFormed, related.each, related.distinct⟩

/-! ## Models that are read back -/

/-- One more use is a first use, or is known already. -/
theorem firstUses_append {uses targets : List ModelId} (firstUses : FirstUses uses targets)
    (model : ModelId) :
    FirstUses (uses ++ [model])
      (if targets.contains model then targets else targets ++ [model]) := by
  have unmoved : ∀ target ∈ targets, (uses ++ [model]).idxOf target = uses.idxOf target :=
    fun target member => List.idxOf_append_of_mem ((firstUses.same target).1 member)
  have ordered : targets.Pairwise fun earlier later =>
      (uses ++ [model]).idxOf earlier < (uses ++ [model]).idxOf later := by
    refine firstUses.ordered.imp_of_mem fun earlierMem laterMem before => ?_
    rwa [unmoved _ earlierMem, unmoved _ laterMem]
  split
  · next known =>
    have used := (firstUses.same model).1 (List.contains_iff_mem.1 known)
    refine ⟨firstUses.nodup, fun other => ?_, ordered⟩
    rw [firstUses.same, List.mem_append, List.mem_singleton]
    exact ⟨.inl, fun either => either.elim id fun same => same ▸ used⟩
  · next unknown =>
    have isNew : model ∉ targets := fun member => unknown (List.contains_iff_mem.2 member)
    have unused : model ∉ uses := fun member => isNew ((firstUses.same model).2 member)
    refine ⟨?_, fun other => ?_, List.pairwise_append.2 ⟨ordered, List.pairwise_singleton _ _, ?_⟩⟩
    · rw [← List.concat_eq_append, List.nodup_concat]
      exact ⟨isNew, firstUses.nodup⟩
    · rw [List.mem_append, List.mem_append, firstUses.same]
    · intro earlier earlierMem later laterMem
      have earlierUsed := (firstUses.same earlier).1 earlierMem
      rw [List.mem_singleton.1 laterMem, unmoved earlier earlierMem,
        List.idxOf_append_of_notMem unused, List.idxOf_cons_self, Nat.add_zero]
      exact List.idxOf_lt_length_of_mem earlierUsed

/-- A fold that has come behind `before` goes on to the first uses of all. -/
theorem foldl_firstUses (uses : List ModelId) {before targets : List ModelId}
    (firstUses : FirstUses before targets) :
    FirstUses (before ++ uses) (uses.foldl (fun targets model =>
      if targets.contains model then targets else targets ++ [model]) targets) := by
  induction uses generalizing before targets with
  | nil => rwa [List.append_nil]
  | cons model uses inductionHypothesis =>
      rw [List.foldl_cons, List.append_cons]
      exact inductionHypothesis (firstUses_append firstUses model)

/-- The models that are read back are those that are written, by their first use. -/
theorem returningTargets_firstUses (inserts : List Insert) (updates : List Update) :
    FirstUses (inserts.map (·.model) ++ updates.map (·.model))
      (returningTargets inserts updates) := by
  have start : FirstUses [] [] := ⟨List.nodup_nil, fun _ => Iff.rfl, .nil⟩
  exact foldl_firstUses _ start

end Analysis

/-- The catalog of a source that compiles is well formed. -/
theorem wellFormed_of_compile {source : String} {plan : Plan}
    (compiled : compile source = .ok plan) : plan.toCatalog.WellFormed := by
  obtain ⟨schema, parsed, resolves⟩ := Analysis.exists_resolves_of_compile compiled
  have asRead := Declaration.Schema.parse_asRead parsed
  exact (Analysis.resolveCatalog_ensures asRead).of_gives resolves.catalog

/--
The catalog of a source that compiles is well formed, and the models that are read back are
those of its inserts and then of its updates, by their first use.
-/
theorem compile_wellFormed {source : String} {plan : Plan} (compiled : compile source = .ok plan) :
    plan.toCatalog.WellFormed ∧
      FirstUses (plan.inserts.map (·.model) ++ plan.updates.map (·.model))
        plan.returningTargets := by
  obtain ⟨schema, -, resolves⟩ := Analysis.exists_resolves_of_compile compiled
  refine ⟨wellFormed_of_compile compiled, ?_⟩
  rw [resolves.targets]
  exact Analysis.returningTargets_firstUses plan.inserts plan.updates

/-- A schema with a key of two fields, two unique keys and marks of every kind but one. -/
def ledgerSource : String :=
  "model Account ( table accounts, key owner number, unique number, unique opened owner
  field owner text ( length 40 ), field number int64
  field limit float64 ( updatable, nullable, default 0 )
  field opened timestamp autoinsert )
model Entry ( field id int autoincrement, field account int64 nullable updatable )
relation Entry.account Account.number ( on_delete set_null )
insert Entry
insert Entry
update Account ( where Account.number = ? )
update Entry ( where Entry.id = ? )
"

/-- The plan of the schema: rows of entries are read back first. -/
def ledgerPlan : Plan where
  models := [
    ⟨"Account", "accounts", [
      ⟨{}, "owner", "owner", .text, none, some 40, ⟨2, 9, 93⟩⟩,
      ⟨{}, "number", "number", .int64, none, none, ⟨2, 41, 125⟩⟩,
      ⟨{ nullable := true, updatable := true }, "limit", "limit", .float64, some (.int 0), none,
        ⟨3, 9, 146⟩⟩,
      ⟨{ autoinsert := true }, "opened", "opened", .timestamp, none, none, ⟨4, 9, 203⟩⟩],
      [0, 1], [[1], [3, 0]], ⟨1, 1, 0⟩⟩,
    ⟨"Entry", "entry", [
      ⟨{ autoincrement := true }, "id", "id", .int, none, none, ⟨5, 21, 253⟩⟩,
      ⟨{ nullable := true, updatable := true }, "account", "account", .int64, none, none,
        ⟨5, 49, 281⟩⟩],
      [0], [], ⟨5, 1, 233⟩⟩]
  relations := [⟨⟨1, 1⟩, ⟨0, 1⟩, some .setNull, ⟨6, 1, 316⟩⟩]
  inserts := [⟨1, ⟨7, 1, 377⟩⟩, ⟨1, ⟨8, 1, 390⟩⟩]
  updates := [
    ⟨0, [⟨⟨0, 1⟩, .eq, .placeholder⟩], ⟨9, 1, 403⟩⟩,
    ⟨1, [⟨⟨1, 0⟩, .eq, .placeholder⟩], ⟨10, 1, 447⟩⟩]
  returningTargets := [1, 0]

/-- The plan of the ledger is well-formed, and its models are listed by their first uses. -/
theorem ledgerPlan_wellFormed :
    compile ledgerSource = .ok ledgerPlan ∧ ledgerPlan.toCatalog.WellFormed ∧
      FirstUses [1, 1, 0, 1] [1, 0] := by
  have compiled : compile ledgerSource = .ok ledgerPlan := by
    apply eq_ok_of_toOption
    unfold ledgerSource
    rw [compile_ofList]
    decide +kernel
  exact ⟨compiled, compile_wellFormed compiled⟩

end Schemata
