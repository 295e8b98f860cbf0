import Schemata.Proofs.Access.Identifiers
import Schemata.Proofs.Access.Locality
import Schemata.Proofs.Access.Scopes

/-!
# Names of generated code

Structs, their members, methods and arguments are named for models, fields and conditions, whose
names are words. Most of these names are made safe, but not against every word of the language, and
those of the structs of models are not. Names of methods start with a verb and need no care, if it
were not for the texts that conditions compare with: letters outside of ASCII are kept. So the names
are identifiers exactly if four rules are kept that no schema is checked for
(`names_identifiers_iff`).
-/

namespace Schemata.Access

open Sql (Dialect Param Statement)

/-! ## Names in a catalog -/

/-- The names that are looked up in a catalog are plain, even where nothing is found. -/
structure PlainNames (catalog : Catalog) : Prop where
  models : ∀ id, Text.IsPlain (catalog.model id).name
  fields : ∀ column, Text.IsPlain (catalog.field column).name

/-- Names that are words of the schema language are plain. -/
theorem plainNames_of_worded {catalog : Catalog}
    (worded : ∀ model ∈ catalog.models, model.Worded) : PlainNames catalog where
  models := of_getD (fun model : Model => Text.IsPlain model.name)
    (fun model member => Text.isPlain_of_isWord (worded model member).name) (by decide)
  fields column := by
    have fields : ∀ field ∈ (catalog.model column.model).fields, Text.IsPlain field.name :=
      of_getD (fun model : Model => ∀ field ∈ model.fields, Text.IsPlain field.name)
        (fun model member field isField =>
          Text.isPlain_of_isWord ((worded model member).fields field isField))
        (List.forall_mem_nil _) column.model
    exact of_getD (fun field : Field => Text.IsPlain field.name) fields (by decide) column.field

section Columns

variable {catalog : Catalog} (plain : PlainNames catalog)

include plain

/-- A column by its model and field is a plain name. -/
theorem isPlain_column (column : Column) :
    Text.IsPlain ((catalog.model column.model).name ++ "_" ++ (catalog.field column).name) :=
  Text.isPlain_append.2 ⟨Text.isPlain_append.2 ⟨plain.models _, by decide⟩, plain.fields _⟩

/-- A column in small letters is a plain name. -/
theorem isPlain_columnName (column : Column) : Text.IsPlain (columnName catalog column) :=
  Text.isPlain_snakeCase (isPlain_column plain column)

/-- A column with a name for its model and one for its field has an underscore between them. -/
theorem isIdentifier_columnName {column : Column}
    (model : Text.snakeCase (catalog.model column.model).name ≠ "")
    (field : Text.snakeCase (catalog.field column).name ≠ "") :
    IsIdentifier (safeName (columnName catalog column)) := by
  have underscore := Text.underscore_mem_snakeCase model field
  rw [isIdentifier_safeName_iff (isPlain_columnName plain column), columnName,
    Text.snakeCase_snakeCase (isPlain_column plain column)]
  constructor
  · intro empty
    simp [empty] at underscore
  · intro unguarded
    exact notMem_of_underscore underscore
      (List.mem_append_right _ (List.mem_cons_of_mem _ unguarded))

end Columns

/-! ## Structs of models -/

/-- The names of a struct and of its members. -/
def namesOf (struct : Struct) : List String :=
  struct.name :: struct.members.map (·.name)

/-- A model has a name for its struct, and all its fields have names for its members. -/
@[mk_iff]
structure ModelFits (model : Model) : Prop where
  named : Text.snakeCase model.name ≠ ""
  letter : startsWithDigit (Text.snakeCase model.name) = false
  notSelf : Text.snakeCase model.name ≠ "self"
  fields : ∀ field ∈ model.fields,
    Text.snakeCase field.name ≠ "" ∧ Text.snakeCase field.name ∉ unguardedWords

instance (model : Model) : Decidable (ModelFits model) :=
  decidable_of_iff _ (modelFits_iff model).symm

/-- The names in the struct of a model are identifiers exactly if the model fits. -/
theorem isIdentifier_modelStruct_iff {model : Model} (worded : model.Worded) :
    (∀ name ∈ namesOf (modelStruct model).toStruct, IsIdentifier name) ↔ ModelFits model := by
  have fields : (∀ field ∈ model.fields, IsIdentifier (safeName field.name)) ↔
      ∀ field ∈ model.fields,
        Text.snakeCase field.name ≠ "" ∧ Text.snakeCase field.name ∉ unguardedWords :=
    forall₂_congr fun field member =>
      isIdentifier_safeName_iff (Text.isPlain_of_isWord (worded.fields field member))
  rw [namesOf, List.forall_mem_cons, modelStruct, map_name_modelMembers,
    isIdentifier_claimNames_iff (List.forall_mem_nil _), List.forall_mem_map, fields,
    isIdentifier_structName_iff (Text.isPlain_of_isWord worded.name), modelFits_iff, and_assoc,
    and_assoc]

/-! ## Structs of records -/

/-- Words behind each other are an identifier with `Row` behind them. -/
theorem isIdentifier_joinedWords {words : List (List Char)}
    (plain : ∀ word ∈ words, Text.IsPlainWord word)
    (letter : ∀ word ∈ words.head?, word.head?.any Char.isDigit = false) :
    IsIdentifier (joinedWords words ++ "Row") := by
  have whole : (joinedWords words ++ "Row").toList =
      words.flatMap Text.capitalisedWord ++ "Row".toList := by
    simp [joinedWords, List.flatMap_map]
  cases words with
  | nil => exact .plain (by decide) (by decide) (by decide)
  | cons word others =>
      have plainText : Text.IsPlain (joinedWords (word :: others) ++ "Row") := by
        intro c member
        rw [whole, List.mem_append, List.mem_flatMap] at member
        rcases member with ⟨word, isWord, inWord⟩ | behind
        · exact (plain word isWord).capitalised c inWord
        · exact (by decide : Text.IsPlain "Row") c behind
      have starts := whole
      rw [List.flatMap_cons, List.append_assoc] at starts
      obtain ⟨isWord, notWild, onlySelf⟩ := of_capitalised (plain word List.mem_cons_self) starts
        (letter word rfl) plainText
      refine .plain isWord notWild fun isLanguage => ?_
      have last := congrArg (List.getLast? ∘ String.toList) (onlySelf.1 isLanguage)
      simp at last

section Fitting

variable {plan : Plan} (plain : PlainNames plan.toCatalog)
  (fit : ∀ model ∈ plan.models, ModelFits model)

include plain fit

omit plain in
/-- A column that is taken belongs to a model that fits, and its field can be named. -/
theorem fits_of_hasColumn {column : Column} (taken : plan.HasColumn column) :
    ModelFits (plan.model column.model) ∧ Text.snakeCase (plan.field column).name ≠ "" ∧
      Text.snakeCase (plan.field column).name ∉ unguardedWords := by
  have hasModel : plan.HasModel column.model := taken.1
  have model := fit _ hasModel.mem_models
  refine ⟨model, model.fields _ ?_⟩
  rw [Catalog.field, Model.field, List.getD_eq_getElem _ _ taken.2]
  exact List.getElem_mem taken.2

/-- A column that is taken can be named. -/
theorem isIdentifier_column {column : Column} (taken : plan.HasColumn column) :
    IsIdentifier (safeName (columnName plan.toCatalog column)) := by
  obtain ⟨model, field, -⟩ := fits_of_hasColumn fit taken
  exact isIdentifier_columnName plain model.named field

/-- A member is called by an identifier unless it holds all columns of a model whose name is one of
the words left out. -/
theorem isIdentifier_projectionName_iff {projection : Projection}
    (taken : projection.InRange plan.toCatalog) :
    IsIdentifier (projectionName plan.toCatalog projection) ↔
      ∀ id ∈ projection.listed, Text.snakeCase (plan.model id).name ∉ unguardedWords := by
  cases projection with
  | model id =>
      have hasModel : plan.HasModel id := taken
      have named := (fit _ hasModel.mem_models).named
      rw [projectionName, isIdentifier_safeName_iff (plain.models id)]
      simpa [Projection.listed] using fun _ => named
  | field column =>
      have hasColumn : plan.HasColumn column := taken
      rw [projectionName]
      exact iff_of_true (isIdentifier_column plain fit hasColumn) (List.forall_mem_nil _)

/-- The words of a projection start with those of a model. -/
theorem exists_projectionWords {projection : Projection}
    (taken : projection.InRange plan.toCatalog) :
    ∃ word others, projectionWords plan.toCatalog projection = word :: others ∧
      word.head?.any Char.isDigit = false := by
  have ofModel {id : ModelId} (hasModel : plan.HasModel id) :
      ∃ word others, Text.words (plan.model id).name = word :: others ∧
        word.head?.any Char.isDigit = false := by
    have fits := fit _ hasModel.mem_models
    obtain ⟨word, others, shape⟩ := List.exists_cons_of_ne_nil (Text.words_ne_nil fits.named)
    refine ⟨word, others, shape, ?_⟩
    rw [← (starts_snakeCase (plain.models id) shape).2]
    exact fits.letter
  cases projection with
  | model id => exact ofModel taken
  | field column =>
      obtain ⟨word, others, shape, letter⟩ := ofModel taken.1
      exact ⟨word, _, by rw [projectionWords, shape, List.cons_append], letter⟩

/-- The record of a select can be named. -/
theorem isIdentifier_recordName {projections : List Projection}
    (inRange : ∀ projection ∈ projections, projection.InRange plan.toCatalog) :
    IsIdentifier (Analysis.recordName plan.toCatalog projections) := by
  rw [recordName_eq]
  refine isIdentifier_joinedWords (fun word member => ?_) (fun word isFirst => ?_)
  · obtain ⟨projection, -, isWord⟩ := List.mem_flatMap.1 member
    cases projection with
    | model id => exact Text.plain_of_mem_words (plain.models id) isWord
    | field column =>
        rcases List.mem_append.1 isWord with inModel | inField
        · exact Text.plain_of_mem_words (plain.models _) inModel
        · exact Text.plain_of_mem_words (plain.fields column) inField
  · cases projections with
    | nil => cases isFirst
    | cons projection projections =>
        obtain ⟨first, others, shape, letter⟩ :=
          exists_projectionWords plain fit (inRange projection List.mem_cons_self)
        rw [List.flatMap_cons, shape] at isFirst
        cases isFirst
        exact letter

/-- The struct of a record and its members are called by identifiers unless a member is called for a
model whose name is one of the words left out. -/
theorem isIdentifier_recordStruct_iff {record : String × List Projection}
    (named : record.1 = Analysis.recordName plan.toCatalog record.2)
    (inRange : ∀ projection ∈ record.2, projection.InRange plan.toCatalog) :
    (∀ name ∈ namesOf (recordStruct plan.toCatalog record), IsIdentifier name) ↔
      ∀ id ∈ record.2.flatMap Projection.listed,
        Text.snakeCase (plan.model id).name ∉ unguardedWords := by
  have isIdentifier : IsIdentifier record.1 := named ▸ isIdentifier_recordName plain fit inRange
  rw [namesOf, List.forall_mem_cons, recordStruct, map_name_projectionMembers,
    isIdentifier_claimNames_iff (List.forall_mem_nil _), List.forall_mem_map,
    List.forall_mem_flatMap, and_iff_right isIdentifier]
  exact forall₂_congr fun projection member =>
    isIdentifier_projectionName_iff plain fit (inRange projection member)

/-- An argument is named for a column that fits, or by a fixed word. -/
theorem isIdentifier_paramName {param : Param} (inRange : param.InRange plan.toCatalog) :
    IsIdentifier (paramName plan.toCatalog param) := by
  cases param with
  | value column =>
      have hasColumn : plan.HasColumn column := inRange
      rw [paramName, isIdentifier_safeName_iff (plain.fields column)]
      exact (fits_of_hasColumn fit hasColumn).2
  | filter column =>
      have hasColumn : plan.HasColumn column := inRange
      rw [paramName]
      exact isIdentifier_column plain fit hasColumn
  | cursor column =>
      rw [paramName]
      exact .plain (by decide) (by decide) (by decide)
  | rowId =>
      rw [paramName]
      exact .plain (by decide) (by decide) (by decide)

end Fitting

/-! ## Names of methods -/

/-- The text that a condition compares with, if it is one. -/
def comparedText? (condition : Condition) : Option String :=
  match condition.right with
  | .literal (.text content) => some content
  | _ => none

/-- A name that starts with a verb is an identifier exactly if it is plain. -/
theorem isIdentifier_iff_of_verb {verb name : String} (isVerb : verb ∈ verbs)
    (stemmed : verb.toList <+: name.toList) : IsIdentifier name ↔ Text.IsPlain name := by
  have free : ∀ verb ∈ verbs, verb.toList.head?.any Char.isAlpha = true ∧
      verb.toList.head? ≠ some 'r' ∧
      ∀ word ∈ "_" :: languageWords, ¬ verb.toList <+: word.toList := by decide +kernel
  obtain ⟨letter, notRaw, noWord⟩ := free verb isVerb
  have notMem : name ∉ "_" :: languageWords := fun isWord => noWord name isWord stemmed
  obtain ⟨rest, shape⟩ := stemmed
  cases isStem : verb.toList with
  | nil => simp [isStem] at letter
  | cons c others =>
      rw [isStem] at letter notRaw shape
      constructor
      · intro identifier
        cases identifier with
        | plain isWord => exact Text.isPlain_of_isWord isWord
        | raw =>
            have isMark : c = 'r' := by simpa using congrArg List.head? shape
            exact absurd (congrArg some isMark) notRaw
      · intro plain
        have isWord := isWord_of_starts shape.symm
          (Bool.or_eq_true_iff.2 (.inl (by simpa using letter))) plain
        exact .plain isWord (List.ne_of_not_mem_cons notMem) (List.not_mem_of_not_mem_cons notMem)

/-- Parts that stand behind underscores are plain in small letters exactly if each of them is. -/
theorem isPlain_snakeCase_join {front : String} {parts : List String} :
    Text.IsPlain (Text.snakeCase (front ++ String.join (parts.map ("_" ++ ·)))) ↔
      Text.IsPlain (Text.snakeCase front) ∧
        ∀ part ∈ parts, Text.IsPlain (Text.snakeCase part) := by
  induction parts generalizing front with
  | nil => simp
  | cons part parts inductionHypothesis =>
      rw [List.map_cons, String.join_cons, ← String.append_assoc, ← String.append_assoc,
        inductionHypothesis, Text.isPlain_snakeCase_append, List.forall_mem_cons, and_assoc]

/-- What a comparison adds to a name is plain. -/
theorem isPlain_comparisonSuffix (op : Comparison) : Text.IsPlain (comparisonSuffix op) := by
  cases op <;> decide

section Methods

variable {catalog : Catalog} (plain : PlainNames catalog)

include plain

/-- The name of a condition is plain unless it has a text in it. -/
theorem isPlain_conditionName {condition : Condition} (noText : comparedText? condition = none) :
    Text.IsPlain (conditionName catalog condition) := by
  have left := isPlain_columnName plain condition.left
  have front := Text.isPlain_append.2 ⟨left, isPlain_comparisonSuffix condition.op⟩
  unfold conditionName comparedText? at *
  cases right : condition.right with
  | placeholder => exact front
  | column other =>
      exact Text.isPlain_append.2 ⟨Text.isPlain_append.2 ⟨front, by decide⟩,
        isPlain_columnName plain other⟩
  | literal value =>
      cases value with
      | null =>
          refine Text.isPlain_append.2 ⟨left, ?_⟩
          split <;> decide
      | bool value =>
          refine Text.isPlain_append.2 ⟨front, ?_⟩
          cases value <;> decide
      | int value =>
          refine Text.isPlain_append.2 ⟨front, ?_⟩
          unfold literalSuffix
          dsimp only
          split
          · exact Text.isPlain_append.2 ⟨by decide, isPlain_toString _⟩
          · next notNegative =>
            obtain ⟨number, rfl⟩ := Int.eq_ofNat_of_zero_le (Int.not_lt.1 notNegative)
            exact Text.isPlain_append.2 ⟨by decide, isPlain_toString number⟩
      | text content => simp [right] at noText

/-- A condition gives a plain name exactly if the text that it compares with does. -/
theorem isPlain_conditionName_iff (condition : Condition) :
    Text.IsPlain (Text.snakeCase (conditionName catalog condition)) ↔
      ∀ content ∈ comparedText? condition,
        Text.IsPlain (Text.snakeCase (Text.snakeCase content)) := by
  cases compared : comparedText? condition with
  | none =>
      exact iff_of_true (Text.isPlain_snakeCase (isPlain_conditionName plain compared)) nofun
  | some content =>
      have right : condition.right = .literal (.text content) := by
        unfold comparedText? at compared
        split at compared
        · next same => rw [same, Option.some.inj compared]
        · cases compared
      have front : Text.IsPlain (columnName catalog condition.left ++
          comparisonSuffix condition.op) :=
        Text.isPlain_append.2 ⟨isPlain_columnName plain condition.left,
          isPlain_comparisonSuffix condition.op⟩
      have shape : conditionName catalog condition =
          columnName catalog condition.left ++ comparisonSuffix condition.op ++ "_" ++
            if Text.snakeCase content = "" then "empty" else Text.snakeCase content := by
        rw [conditionName, right]
        simp [literalSuffix, String.append_assoc]
      rw [shape, Text.isPlain_snakeCase_append, and_iff_right (Text.isPlain_snakeCase front)]
      simp only [Option.mem_some_iff, forall_eq']
      split
      · next empty =>
        rw [empty]
        decide
      · exact Iff.rfl

/-- Conditions give a plain name exactly if every text that they compare with does. -/
theorem isPlain_filterName_iff {front : String} (isFront : Text.IsPlain front)
    (conditions : List Condition) :
    Text.IsPlain (Text.snakeCase (front ++ filterName catalog conditions)) ↔
      ∀ content ∈ conditions.filterMap comparedText?,
        Text.IsPlain (Text.snakeCase (Text.snakeCase content)) := by
  have named : Text.IsPlain (Text.snakeCase (front ++ filterName catalog conditions)) ↔
      ∀ condition ∈ conditions,
        Text.IsPlain (Text.snakeCase (conditionName catalog condition)) := by
    cases conditions with
    | nil => simpa [filterName] using Text.isPlain_snakeCase isFront
    | cons first others =>
        have shape : front ++ filterName catalog (first :: others) = front ++ "_" ++ "by" ++
            String.join (((first :: others).map (conditionName catalog)).map ("_" ++ ·)) := by
          simp [filterName, String.append_assoc, Function.comp_def]
        have isBy : Text.IsPlain (Text.snakeCase "by") := by decide
        rw [shape, isPlain_snakeCase_join, Text.isPlain_snakeCase_append, List.forall_mem_map,
          and_iff_right ⟨Text.isPlain_snakeCase isFront, isBy⟩]
  rw [named, List.forall_mem_filterMap]
  exact forall₂_congr fun condition _ => isPlain_conditionName_iff plain condition

/-- What a task is named for is plain. -/
theorem isPlain_subject (task : Task) : Text.IsPlain (task.subject catalog) := by
  have model (id : ModelId) : Text.IsPlain (modelSubject catalog id) :=
    Text.isPlain_snakeCase (plain.models id)
  have select (query : Select) : Text.IsPlain (selectSubject catalog query) := by
    intro c member
    rw [selectSubject, String.toList_intercalate] at member
    rcases Text.exists_of_mem_intercalate member with rfl | ⟨piece, isPiece, inPiece⟩
    · decide
    · obtain ⟨text, isText, rfl⟩ := List.mem_map.1 isPiece
      obtain ⟨projection, -, rfl⟩ := List.mem_map.1 isText
      cases projection with
      | model id => exact model id c inPiece
      | field column => exact isPlain_columnName plain column c inPiece
  cases task with
  | insert query => exact plain.models _
  | readBack id => exact plain.models id
  | rows query => exact select query
  | page query => exact select query
  | count query => exact model _
  | has query => exact model _
  | update query => exact model _
  | delete query => exact model _

/-- The name that a task asks for is an identifier unless a text that is compared has letters that
are not of ASCII. -/
theorem isIdentifier_title_iff (task : Task) :
    IsIdentifier (task.title catalog) ↔
      ∀ content ∈ task.conditions.filterMap comparedText?,
        Text.IsPlain (Text.snakeCase (Text.snakeCase content)) := by
  obtain ⟨plainVerb, small⟩ := plain_of_mem_verbs _ task.verb_mem_verbs
  have stemmed := Text.snakeCase_isPrefix task.verb
    (task.subject catalog ++ filterName catalog task.conditions)
  rw [small] at stemmed
  have verbPlain : ∀ verb ∈ verbs, Text.IsPlain (Text.snakeCase verb) := by decide +kernel
  rw [task.title_eq, safeName_of_stem plainVerb stemmed,
    isIdentifier_iff_of_verb task.verb_mem_verbs stemmed, Text.isPlain_snakeCase_append,
    and_iff_right (verbPlain _ task.verb_mem_verbs),
    isPlain_filterName_iff plain (isPlain_subject plain task)]

end Methods

section Plans

variable {dialect : Dialect} {plan : Plan} {found : List Method}

/-- The methods of queries have the names that they ask for, as far as these are free beside those
of the methods that read rows back. -/
theorem map_name_methods (made : methods dialect plan = .ok found) :
    found.map (·.name) =
      claimNames ((getLastNames dialect plan).map Prod.snd) (queryTitles plan) ++
        (getLastNames dialect plan).map Prod.snd := by
  obtain ⟨drafts, draftsMade, rest⟩ := of_bind_eq_ok made
  obtain ⟨readers, readersMade, equal⟩ := of_bind_eq_ok rest
  cases equal
  have titles : queryTitles plan = drafts.map (·.name) := by
    rw [queryTitles, ← List.forall₂_eq_eq_eq, List.forall₂_map_left_iff,
      List.forall₂_map_right_iff]
    exact (draftMethods_offer draftsMade).imp fun _ _ offers => offers.title.symm
  have names : (getLastNames dialect plan).map Prod.snd = readers.map (·.name) := by
    rw [← List.forall₂_eq_eq_eq, List.forall₂_map_left_iff, List.forall₂_map_right_iff]
    exact (mapM_eq_ok_iff.1 readersMade).imp fun _ _ made => (getLastMethod_performs made).2.symm
  rw [List.map_append, map_name_nameMethods, titles, names]

/-- The texts that the queries of a plan compare with. -/
def comparedTexts (plan : Plan) : List String :=
  (queryTasks plan).flatMap fun task => task.conditions.filterMap comparedText?

/--
The methods of a plan can be named exactly if every text in its conditions can be part of a name.
-/
theorem isIdentifier_methodNames_iff (plain : PlainNames plan.toCatalog)
    (made : methods dialect plan = .ok found) :
    (∀ method ∈ found, IsIdentifier method.name) ↔
      ∀ content ∈ comparedTexts plan, Text.IsPlain (Text.snakeCase (Text.snakeCase content)) := by
  have readers : ∀ name ∈ (getLastNames dialect plan).map Prod.snd, IsIdentifier name := by
    rw [map_snd_getLastNames]
    split
    · exact List.forall_mem_nil _
    · refine (isIdentifier_claimNames_iff (List.forall_mem_nil _)).2 ?_
      refine List.forall_mem_map.2 fun model _ => ?_
      exact (isIdentifier_title_iff plain (.readBack model)).2 (List.forall_mem_nil _)
  have names : (∀ method ∈ found, IsIdentifier method.name) ↔
      ∀ name ∈ found.map (·.name), IsIdentifier name := List.forall_mem_map.symm
  rw [names, map_name_methods made, List.forall_mem_append, and_iff_left readers,
    isIdentifier_claimNames_iff readers, queryTitles, List.forall_mem_map, comparedTexts,
    List.forall_mem_flatMap]
  exact forall₂_congr fun task _ => isIdentifier_title_iff plain task

/-- The arguments of all methods can be named if all models fit. -/
theorem isIdentifier_arguments (plain : PlainNames plan.toCatalog)
    (fit : ∀ model ∈ plan.models, ModelFits model) (inRange : plan.InRange)
    (made : methods dialect plan = .ok found) :
    ∀ method ∈ found, ∀ argument ∈ method.arguments, IsIdentifier argument.name := by
  intro method member
  obtain ⟨task, paired, performs⟩ := exists_zip_of_mem_right (methods_perform made) member
  obtain ⟨statement, stated, -, arguments⟩ := performs.statement
  have taken := tasks_inRange inRange dialect task (List.of_mem_zip paired).1
  have params := task.params_inRange taken (task.hasColumn_listed taken) stated
  have names : ∀ name ∈ method.arguments.map (·.name), IsIdentifier name := by
    rw [arguments, map_name_argumentsFor]
    refine (isIdentifier_claimNames_iff (List.forall_mem_nil _)).2 ?_
    refine List.forall_mem_map.2 fun param isParam => ?_
    exact isIdentifier_paramName plain fit (params param isParam)
  exact List.forall_mem_map.1 names

end Plans

/-! ## All names -/

/-- The names of the structs and methods of a plan, of all members and of all arguments. -/
def generatedNames (plan : Plan) (found : List Method) : List String :=
  plan.models.flatMap (fun model => namesOf (modelStruct model).toStruct) ++
    (resultStructs plan.toCatalog [] plan.selects).flatMap namesOf ++
    found.flatMap fun method => method.name :: method.arguments.map (·.name)

/-- What no schema is checked for, but all names of a plan need to be identifiers. -/
@[mk_iff]
structure NamesFit (plan : Plan) : Prop where
  models : ∀ model ∈ plan.models, ModelFits model
  /-- Only the first record of a name has a struct. -/
  records : ∀ record ∈ records plan, (records plan).find? (·.1 = record.1) = some record →
    ∀ id ∈ record.2.flatMap Projection.listed,
      Text.snakeCase (plan.model id).name ∉ unguardedWords
  /-- The name of a condition has its text in small letters, and the name of a method again. -/
  texts : ∀ content ∈ comparedTexts plan, Text.IsPlain (Text.snakeCase (Text.snakeCase content))

instance (plan : Plan) : Decidable (NamesFit plan) :=
  decidable_of_iff _ (namesFit_iff plan).symm

/--
The structs of selects can be named exactly if no model in a record has an unguarded word for its
name.
-/
theorem isIdentifier_resultStructs_iff {source : String} {plan : Plan}
    (compiled : compile source = .ok plan) (fit : ∀ model ∈ plan.models, ModelFits model) :
    (∀ struct ∈ resultStructs plan.toCatalog [] plan.selects, ∀ name ∈ namesOf struct,
        IsIdentifier name) ↔
      ∀ record ∈ records plan, (records plan).find? (·.1 = record.1) = some record →
        ∀ id ∈ record.2.flatMap Projection.listed,
          Text.snakeCase (plan.model id).name ∉ unguardedWords := by
  have plain := plainNames_of_worded (worded_of_compile compiled)
  have inRange : ∀ record ∈ records plan, ∀ projection ∈ record.2,
      projection.InRange plan.toCatalog := by
    intro record isRecord
    obtain ⟨select, isSelect, shape⟩ := mem_records.1 isRecord
    have result := ((inRange_of_compile compiled).selects select isSelect).result
    rw [shape] at result
    exact result
  have ofRecord (record : String × List Projection) (isRecord : record ∈ records plan) :=
    isIdentifier_recordStruct_iff plain fit (record_of_compile compiled isRecord)
      (inRange record isRecord)
  constructor
  · intro identifiers record isRecord isFirst
    exact (ofRecord record isRecord).1
      (identifiers _ ((mem_resultStructs_iff _).2 ⟨record, isFirst, rfl⟩))
  · intro free struct isStruct
    obtain ⟨record, isFirst, rfl⟩ := (mem_resultStructs_iff _).1 isStruct
    have isRecord := List.mem_of_find?_eq_some isFirst
    exact (ofRecord record isRecord).2 (free record isRecord isFirst)

/--
The structs and methods of a plan, their members and their arguments are all called by identifiers
exactly if its names fit. A field fits if it has a letter or digit in its name and is none of the
reserved words left out. So does a model whose rows are part of a record; for its own struct it has
to start with a letter instead, and not to be `self`. The texts that conditions compare with, as
they stand in names, have to be plain.
-/
theorem names_identifiers_iff {source : String} {plan : Plan} (compiled : compile source = .ok plan)
    {dialect : Dialect} {found : List Method} (made : methods dialect plan = .ok found) :
    (∀ name ∈ generatedNames plan found, IsIdentifier name) ↔ NamesFit plan := by
  have worded := worded_of_compile compiled
  have plain := plainNames_of_worded worded
  have models : (∀ model ∈ plan.models, ∀ name ∈ namesOf (modelStruct model).toStruct,
      IsIdentifier name) ↔ ∀ model ∈ plan.models, ModelFits model :=
    forall₂_congr fun model member => isIdentifier_modelStruct_iff (worded model member)
  rw [generatedNames, List.forall_mem_append, List.forall_mem_append, List.forall_mem_flatMap,
    List.forall_mem_flatMap, List.forall_mem_flatMap, models, namesFit_iff, and_assoc]
  refine and_congr_right fun fit => ?_
  rw [isIdentifier_resultStructs_iff compiled fit, ← isIdentifier_methodNames_iff plain made]
  refine and_congr_right fun _ => forall₂_congr fun method member => ?_
  -- Arguments are named for columns, whose models and fields fit already.
  rw [List.forall_mem_cons, List.forall_mem_map]
  exact and_iff_left (isIdentifier_arguments plain fit (inRange_of_compile compiled) made method
    member)

/-- All names of the roster fit, and so all names in its code are identifiers. -/
theorem rosterPlan_names_identifiers :
    compile rosterSource = .ok rosterPlan ∧ NamesFit rosterPlan ∧
    ∃ found, methods Sql.sqlite3 rosterPlan = .ok found ∧
      generatedNames rosterPlan found = ["Team", "id", "name", "Player", "id", "team",
        "PlayerIdTeamNameRow", "player_id", "team_name", "create_player", "team",
        "get_player_id_team_name_by_player_id", "player_id", "all_player_by_team_name_is_not_null",
        "paged_player_by_team_name_is_not_null", "after", "count_team_by_player_id_greater_0",
        "has_team_by_player_id_greater_0", "update_team_by_team_name", "name", "team_name",
        "delete_player_by_player_id", "player_id", "get_last_player", "rowid", "get_last_team",
        "rowid"] ∧
      ∀ name ∈ generatedNames rosterPlan found, IsIdentifier name := by
  have fit : NamesFit rosterPlan := by decide +kernel
  obtain ⟨found, made⟩ := exists_methods Sql.sqlite3 rosterPlan (by decide)
  refine ⟨compile_rosterSource, fit, found, made, ?_,
    (names_identifiers_iff compile_rosterSource made).2 fit⟩
  apply Option.some.inj
  have evaluated := congrArg (fun outcome => outcome.toOption.map (generatedNames rosterPlan)) made
  exact evaluated.symm.trans (by decide +kernel)

/-- A schema with a field that is called by a reserved word. -/
def finalSource : String :=
  "model note ( field id int autoincrement, field final text )
"

/-- The plan of the schema. -/
def finalPlan : Plan where
  models := [
    ⟨"note", "note", [
      ⟨{ autoincrement := true }, "id", "id", .int, none, none, ⟨1, 20, 19⟩⟩,
      ⟨{}, "final", "final", .text, none, none, ⟨1, 48, 47⟩⟩],
      [0], [], ⟨1, 1, 0⟩⟩]

/-- The source compiles to the plan. -/
theorem compile_finalSource : compile finalSource = .ok finalPlan := by
  apply eq_ok_of_toOption
  unfold finalSource
  rw [compile_ofList]
  decide +kernel

/-- The member for the field is called by the word as it is, which is no identifier. -/
theorem finalPlan_member_reserved :
    compile finalSource = .ok finalPlan ∧ ¬ NamesFit finalPlan ∧
    finalPlan.models.map modelMembers = [[⟨"id", "i32", false⟩, ⟨"final", "String", false⟩]] ∧
    ∃ found, methods Sql.postgres finalPlan = .ok found ∧
      "final" ∈ generatedNames finalPlan found ∧ ¬ IsIdentifier "final" := by
  obtain ⟨found, made⟩ := exists_methods Sql.postgres finalPlan (by decide)
  refine ⟨compile_finalSource, by decide +kernel, by decide, found, made, ?_, ?_⟩
  · refine List.mem_append_left _ (List.mem_append_left _ ?_)
    decide
  · rw [isIdentifier_iff_of_plain (by decide)]
    decide

end Schemata.Access
