import Mathlib.Data.List.Sort
import Schemata.Proofs.Access.Receivers
import Schemata.Proofs.Access.Records
import Schemata.Proofs.Text.Cases

/-!
# Signatures and sets of signatures

A set of signatures holds exported signatures only, each once and in order, so that it is known by
its members alone (`SignatureSet.Ordered.ext`). Recording adds what is exported. A signature tells
by its first characters whether it is exported, and a method that reads rows back is not; none of
the exported signatures of any plan is that of such a method either, even if it were exported
(`ne_of_mem_exportedSignatures`). The signatures of a plan that compiled are of one line each.
-/

namespace Schemata.Access

open Sql (Dialect Param)

/-! ## Sets -/

namespace SignatureSet

/-- Inserting a signature adds it to the members and takes none away. -/
theorem mem_insertInOrder {signature other : String} {signatures : List String} :
    other ∈ insertInOrder signature signatures ↔ other = signature ∨ other ∈ signatures := by
  induction signatures with
  | nil => simp [insertInOrder]
  | cons first others inductionHypothesis =>
      unfold insertInOrder
      split
      · next same => simp [same]
      · split
        · simp
        · simp only [List.mem_cons, inductionHypothesis]
          exact or_left_comm

/-- Inserting a signature keeps strictly ascending signatures so, whether it is new or not. -/
theorem pairwise_insertInOrder {signatures : List String} (signature : String)
    (ascending : signatures.Pairwise (· < ·)) :
    (insertInOrder signature signatures).Pairwise (· < ·) := by
  induction signatures with
  | nil => exact List.pairwise_singleton _ _
  | cons first others inductionHypothesis =>
      obtain ⟨above, othersAscending⟩ := List.pairwise_cons.1 ascending
      unfold insertInOrder
      split
      · exact ascending
      · next different =>
        split
        · next below =>
          refine List.pairwise_cons.2 ⟨fun other member => ?_, ascending⟩
          rcases List.mem_cons.1 member with rfl | later
          · exact below
          · exact String.lt_trans below (above other later)
        · next notBelow =>
          refine List.pairwise_cons.2 ⟨fun other member => ?_, inductionHypothesis othersAscending⟩
          rcases mem_insertInOrder.1 member with rfl | later
          · refine String.not_le.1 fun atMost => different ?_
            exact String.le_antisymm atMost (String.not_lt.1 notBelow)
          · exact above other later

/-- A set holds exported signatures, each once and in order. -/
structure Ordered (set : SignatureSet) : Prop where
  exported : ∀ signature ∈ set.signatures, isExported signature = true
  ascending : set.signatures.Pairwise (· < ·)

/-- A set is known by its members. -/
theorem Ordered.ext {first second : SignatureSet} (firstOrdered : first.Ordered)
    (secondOrdered : second.Ordered)
    (same : ∀ signature, signature ∈ first.signatures ↔ signature ∈ second.signatures) :
    first = second := by
  obtain ⟨signatures⟩ := first
  obtain ⟨others⟩ := second
  exact congrArg SignatureSet.mk (firstOrdered.ascending.eq_of_mem_iff secondOrdered.ascending same)

/-- Recording a signature adds it exactly if it is exported. -/
theorem mem_record {set : SignatureSet} {signature other : String} :
    other ∈ (set.record signature).signatures ↔
      other ∈ set.signatures ∨ isExported signature = true ∧ other = signature := by
  unfold record
  split
  · next exported => simp [mem_insertInOrder, exported, or_comm]
  · next hidden => simp [hidden]

/-- Recording a signature keeps a set ordered. -/
theorem Ordered.record {set : SignatureSet} (ordered : set.Ordered) (signature : String) :
    (set.record signature).Ordered := by
  refine ⟨fun other member => ?_, ?_⟩
  · rcases mem_record.1 member with before | ⟨exported, rfl⟩
    · exact ordered.exported other before
    · exact exported
  · unfold SignatureSet.record
    split
    · exact pairwise_insertInOrder signature ordered.ascending
    · exact ordered.ascending

/-- Recording adds what is exported. -/
theorem mem_recordAll {set : SignatureSet} {texts : List String} {signature : String} :
    signature ∈ (set.recordAll texts).signatures ↔
      signature ∈ set.signatures ∨ signature ∈ texts ∧ isExported signature = true := by
  unfold recordAll
  induction texts generalizing set with
  | nil => simp
  | cons text texts inductionHypothesis =>
      rw [List.foldl_cons, inductionHypothesis, mem_record, List.mem_cons, or_assoc, or_and_right]
      refine or_congr_right (or_congr_left ?_)
      constructor
      · rintro ⟨exported, rfl⟩
        exact ⟨rfl, exported⟩
      · rintro ⟨rfl, exported⟩
        exact ⟨exported, rfl⟩

/-- Recording signatures keeps a set ordered. -/
theorem Ordered.recordAll {set : SignatureSet} (ordered : set.Ordered) (texts : List String) :
    (set.recordAll texts).Ordered := by
  unfold SignatureSet.recordAll
  induction texts generalizing set with
  | nil => exact ordered
  | cons text texts inductionHypothesis => exact inductionHypothesis (ordered.record text)

/-- The empty set is ordered. -/
theorem ordered_empty : Ordered {} :=
  ⟨List.forall_mem_nil _, .nil⟩

end SignatureSet

/-! ## Marks -/

/-- A signature tells whether its method is exported. -/
theorem isExported_signatureText (method : Method) :
    isExported (signatureText method) = method.exported := by
  cases exported : method.exported <;>
    simp [signatureText, isExported, exportMark, exported, List.isPrefixOf]

/-- An exported signature is its mark and what stands behind it. -/
theorem toList_eq_of_isExported {signature : String} (exported : isExported signature = true) :
    signature.toList = exportMark ++ (withoutExportMark signature).toList := by
  obtain ⟨rest, starts⟩ := List.isPrefixOf_iff_prefix.1 exported
  rw [withoutExportMark, if_pos exported, ← starts]
  simp

/-- The exported signatures of some methods are those of their signatures that say so. -/
theorem mem_exportedSignatures {found : List Method} {signature : String} :
    signature ∈ exportedSignatures found ↔
      signature ∈ found.map signatureText ∧ isExported signature = true := by
  simp only [exportedSignatures, List.mem_map, List.mem_filter]
  constructor
  · rintro ⟨method, ⟨member, exported⟩, rfl⟩
    exact ⟨⟨method, member, rfl⟩, (isExported_signatureText method).trans exported⟩
  · rintro ⟨⟨method, member, rfl⟩, exported⟩
    exact ⟨method, ⟨member, (isExported_signatureText method).symm.trans exported⟩, rfl⟩

/-! ## Signatures and tasks -/

section Tasks

variable {dialect : Dialect} {plan : Plan} {found : List Method}

/-- An exported signature is that of a query, under the name that the query asks for or that name
with a number. -/
theorem exists_task_of_mem_exportedSignatures (made : methods dialect plan = .ok found)
    {signature : String} (member : signature ∈ exportedSignatures found) :
    ∃ task ∈ queryTasks plan, ∃ name, StemsFrom (task.title plan.toCatalog) name ∧
      signature = (task.offer plan.toCatalog).signature name := by
  have stems := forall₂_claimNames (if dialect.returning then [] else readerNames plan)
    (queryTitles plan)
  rw [(exported_methods made).2, ← List.map_uncurry_zip_eq_zipWith, List.zip_map_right,
    List.map_map, List.mem_map] at member
  generalize claimNames _ _ = names at stems member
  obtain ⟨⟨name, task⟩, paired, rfl⟩ := member
  rw [queryTitles, List.forall₂_map_left_iff] at stems
  exact ⟨task, (List.of_mem_zip paired).2, name, List.forall₂_zip stems.flip paired, rfl⟩

/-- What callers could see of a method that reads rows back: it is not exported, its name starts
with `get_last`, and it gives a row of a model. -/
theorem of_getLast (made : methods dialect plan = .ok found) {reader : Method}
    (member : reader ∈ found) (isReader : reader.kind = .getLast) :
    reader.exported = false ∧ "get_last".toList <+: reader.name.toList ∧
      ∃ model, reader.returns = structName model := by
  obtain ⟨drafts, draftsMade, rest⟩ := of_bind_eq_ok made
  obtain ⟨readers, readersMade, equal⟩ := of_bind_eq_ok rest
  cases equal
  rcases List.mem_append.1 member with isQuery | isMade
  · have perform := nameMethods_perform ((getLastNames dialect plan).map Prod.snd)
      (draftMethods_perform draftsMade)
    obtain ⟨task, paired, performs⟩ := exists_zip_of_mem_right perform isQuery
    rw [performs.kind] at isReader
    exact absurd isReader (kind_ne_getLast (List.of_mem_zip paired).1)
  · obtain ⟨⟨id, name⟩, paired, readerMade⟩ :=
      exists_zip_of_mem_right (mapM_eq_ok_iff.1 readersMade) isMade
    have isName : name ∈ (getLastNames dialect plan).map Prod.snd :=
      List.mem_map_of_mem (List.of_mem_zip paired).1
    obtain ⟨statement, -, rfl⟩ := map_eq_ok_iff.1 readerMade
    refine ⟨rfl, ?_, (plan.model id).name, rfl⟩
    rw [map_snd_getLastNames] at isName
    split at isName
    · cases isName
    · exact getLast_isPrefix_of_mem_readerNames isName

/-- What a signature starts and ends with. -/
theorem Offer.toList_signature (offer : Offer) (name : String) :
    ∃ middle, (offer.signature name).toList = "pub fn ".toList ++
      (name.toList ++ (middle ++ '<' :: (offer.returns.toList ++ ['>']))) :=
  ⟨("(&mut self" ++ String.join (offer.arguments.map fun argument =>
      ", " ++ argument.name ++ ": " ++ argument.type) ++ ") -> Result").toList,
    by simp [Offer.signature]⟩

/-- A row or none is told from a row of a model by the brackets at the end of a signature. -/
theorem returns_ne (front otherFront : List Char) (row model : String) :
    front ++ '<' :: ((optionOf row).toList ++ ['>']) ≠
      otherFront ++ '<' :: ((structName model).toList ++ ['>']) := by
  have noBracket : '>' ∉ (structName model).toList :=
    (Text.nameLike_upperCamelCase model).notMem (by decide) (by decide)
  have optional : front ++ '<' :: ((optionOf row).toList ++ ['>']) =
      front ++ '<' :: ("Option<" ++ row).toList ++ ['>'] ++ ['>'] := by simp [optionOf]
  have plain : otherFront ++ '<' :: ((structName model).toList ++ ['>']) =
      otherFront ++ '<' :: (structName model).toList ++ ['>'] := by simp
  rw [optional, plain]
  intro same
  have last := congrArg List.getLast? (List.append_cancel_right same)
  rw [List.getLast?_concat, List.getLast?_append_cons] at last
  rcases List.mem_cons.1 (List.mem_of_getLast? last.symm) with isOpening | inName
  · exact absurd isOpening (by decide)
  · exact noBracket inName

/-- No method that reads rows back has the signature of an exported one, even if it were exported
itself: only a select of one row can be called the same, and gives a row or none. -/
theorem ne_of_mem_exportedSignatures (made : methods dialect plan = .ok found) {signature : String}
    (member : signature ∈ exportedSignatures found) {otherDialect : Dialect} {otherPlan : Plan}
    {others : List Method} (otherMade : methods otherDialect otherPlan = .ok others)
    {reader : Method} (isOther : reader ∈ others) (isReader : reader.kind = .getLast) :
    signature ≠ "pub " ++ signatureText reader := by
  obtain ⟨task, isTask, name, stems, rfl⟩ := exists_task_of_mem_exportedSignatures made member
  obtain ⟨hidden, readerNamed, model, returns⟩ := of_getLast otherMade isOther isReader
  intro same
  have readerText : "pub " ++ signatureText reader = reader.offer.signature reader.name := by
    rw [← String.toList_inj]
    simp [signatureText, hidden, Offer.signature, Method.offer]
  obtain ⟨middle, text⟩ := (task.offer plan.toCatalog).toList_signature name
  obtain ⟨readerMiddle, otherText⟩ := reader.offer.toList_signature reader.name
  rw [readerText, ← String.toList_inj, text, otherText] at same
  have behind := List.append_cancel_left same
  -- Both names start the same text, so their first words are comparable.
  have verbStem := ((task.verb_isPrefix plan.toCatalog).trans (isPrefix_of_stems stems)).trans
    (List.prefix_append _ (middle ++ '<' :: ((task.offer plan.toCatalog).returns.toList ++ ['>'])))
  have readerStem := readerNamed.trans
    (List.prefix_append _ (readerMiddle ++ '<' :: (reader.offer.returns.toList ++ ['>'])))
  rw [← behind] at readerStem
  obtain ⟨query, -, rfl, one⟩ :=
    Task.eq_rows_of_comparable isTask (List.prefix_or_prefix_of_prefix verbStem readerStem)
  have optional : ((Task.rows query).offer plan.toCatalog).returns =
      optionOf (rowType plan.toCatalog query.result).type := by
    simp [Task.offer, Task.returns, one]
  have row : reader.offer.returns = structName model := returns
  rw [optional, row, ← List.append_assoc, ← List.append_assoc] at behind
  exact returns_ne _ _ _ _ behind

end Tasks

/-! ## Lines -/

/-- A safe name stands on one line. -/
theorem newline_notMem_safeName (name : String) : '\n' ∉ (safeName name).toList := by
  have small := (Text.nameLike_snakeCase name).notMem (by decide : '\n'.toNat < 128) (by decide)
  unfold safeName
  dsimp only
  split_ifs <;> simp [small]

/-- A number behind a base does not break the line. -/
theorem newline_notMem_of_stems {base name : String} (free : '\n' ∉ base.toList)
    (stems : StemsFrom base name) : '\n' ∉ name.toList := by
  rcases stems with rfl | ⟨number, rfl⟩
  · exact free
  · have digits : '\n' ∉ (toString number).toList := fun member =>
      absurd (Sql.isDigit_of_mem_toString member) (by decide)
    simp only [numbered, String.toList_append, List.mem_append, not_or]
    exact ⟨⟨free, by decide⟩, digits⟩

/-- The type of a field stands on one line. -/
theorem newline_notMem_fieldType (field : Field) : '\n' ∉ (fieldType field).toList := by
  unfold fieldType
  split <;> cases field.type <;> decide

/-- The name and the type of a parameter stand on one line. -/
theorem newline_notMem_param (catalog : Catalog) (param : Param) :
    '\n' ∉ (paramName catalog param).toList ∧ '\n' ∉ (paramType catalog param).toList := by
  have noLine (type : FieldType) : '\n' ∉ (valueType type).toList := by cases type <;> decide
  cases param with
  | value column =>
      rw [paramName, paramType]
      exact ⟨newline_notMem_safeName _, newline_notMem_fieldType _⟩
  | filter column =>
      rw [paramName, paramType]
      exact ⟨newline_notMem_safeName _, noLine _⟩
  | cursor column =>
      rw [paramName, paramType]
      exact ⟨by decide, noLine _⟩
  | rowId =>
      rw [paramName, paramType]
      decide

/-- The names and types of arguments stand on one line. -/
theorem newline_notMem_argumentsFor (catalog : Catalog) (params : List Param) :
    ∀ argument ∈ argumentsFor catalog params,
      '\n' ∉ argument.name.toList ∧ '\n' ∉ argument.type.toList := by
  intro argument member
  have stems := forall₂_claimNames [] (params.map (paramName catalog))
  unfold argumentsFor at member
  dsimp only at member
  generalize claimNames _ _ = names at stems member
  rw [← List.map_uncurry_zip_eq_zipWith, List.mem_map] at member
  obtain ⟨⟨name, param⟩, paired, rfl⟩ := member
  rw [List.forall₂_map_left_iff] at stems
  obtain ⟨named, typed⟩ := newline_notMem_param catalog param
  exact ⟨newline_notMem_of_stems named (List.forall₂_zip stems.flip paired), typed⟩

/-- The name of a struct stands on one line. -/
theorem newline_notMem_structName (model : String) : '\n' ∉ (structName model).toList :=
  (Text.nameLike_upperCamelCase model).notMem (by decide) (by decide)

/-- The name of a record stands on one line. -/
theorem newline_notMem_recordName (catalog : Catalog) (projections : List Projection) :
    '\n' ∉ (Analysis.recordName catalog projections).toList := by
  have words : Text.NameLike
      (joinedWords (projections.flatMap (projectionWords catalog))).toList := by
    intro c member
    simp only [joinedWords, String.toList_join, List.flatMap_map, String.toList_ofList,
      List.mem_flatMap] at member
    obtain ⟨word, ⟨projection, -, isWord⟩, inWord⟩ := member
    have inWords : ∀ c ∈ word, Text.isWordCharacter c = true := by
      cases projection with
      | model id => exact fun c member => ((Text.of_mem_words isWord).2 c member).2
      | field column =>
          rcases List.mem_append.1 isWord with inModel | inField
          · exact fun c member => ((Text.of_mem_words inModel).2 c member).2
          · exact fun c member => ((Text.of_mem_words inField).2 c member).2
    exact Text.nameLike_capitalisedWord inWords c inWord
  rw [recordName_eq, String.toList_append, List.mem_append, not_or]
  exact ⟨words.notMem (by decide) (by decide), by decide⟩

section Compiled

variable {source : String} {plan : Plan} (compiled : compile source = .ok plan)

include compiled

/-- The rows of a select are read into a type of one line. -/
theorem newline_notMem_rowType {select : Select} (member : select ∈ plan.selects) :
    '\n' ∉ (rowType plan.toCatalog select.result).type.toList := by
  cases shape : select.result with
  | model id => exact newline_notMem_structName _
  | field column => exact newline_notMem_fieldType _
  | record name projections =>
      have isRecord : (name, projections) ∈ records plan := mem_records.2 ⟨select, member, shape⟩
      have named : name = Analysis.recordName plan.toCatalog projections :=
        record_of_compile compiled isRecord
      rw [rowType, named]
      exact newline_notMem_recordName _ _

/-- The result of every query is of a type of one line. -/
theorem newline_notMem_returns {task : Task} (isTask : task ∈ queryTasks plan) :
    '\n' ∉ (task.returns plan.toCatalog).toList := by
  have wrapped {type : String} (free : '\n' ∉ type.toList) :
      '\n' ∉ (optionOf type).toList ∧ '\n' ∉ (vectorOf type).toList := by
    simp [optionOf, vectorOf, free]
  cases task with
  | insert query => exact newline_notMem_structName _
  | rows query =>
      have isSelect : query ∈ plan.selects := by simpa [queryTasks, selectTasks] using isTask
      obtain ⟨optional, vector⟩ := wrapped (newline_notMem_rowType compiled isSelect)
      rw [Task.returns]
      split
      · exact optional
      · exact vector
  | page query paging =>
      have isSelect : query ∈ plan.selects ∧ ¬query.cardinality = .one ∧
          query.paging = some paging := by
        simpa [queryTasks, selectTasks] using isTask
      exact (wrapped (newline_notMem_rowType compiled isSelect.1)).2
  | count query =>
      rw [Task.returns]
      decide
  | has query =>
      rw [Task.returns]
      decide
  | update query => exact (wrapped (newline_notMem_structName _)).1
  | delete query =>
      rw [Task.returns]
      split <;> decide
  | readBack model => exact newline_notMem_structName _

/-- Exported signatures are of one line each. -/
theorem newline_notMem_of_mem_exportedSignatures {dialect : Dialect} {found : List Method}
    (made : methods dialect plan = .ok found) {signature : String}
    (member : signature ∈ exportedSignatures found) : '\n' ∉ signature.toList := by
  obtain ⟨task, isTask, name, stems, rfl⟩ := exists_task_of_mem_exportedSignatures made member
  have named : '\n' ∉ name.toList := by
    refine newline_notMem_of_stems ?_ stems
    rw [task.title_eq]
    exact newline_notMem_safeName _
  have arguments := newline_notMem_argumentsFor plan.toCatalog (task.params plan.toCatalog)
  have returns := newline_notMem_returns compiled isTask
  simpa [Offer.signature, Task.offer, named, returns] using arguments

end Compiled

end Schemata.Access
