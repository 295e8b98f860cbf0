import Schemata.Proofs.Access.Rendering
import Schemata.Proofs.Rows.Decoding
import Schemata.Proofs.Text.Pieces

/-!
# Records of several projections

A row of several projections is read into a record, whose struct has a member for each of them. Of
selects that read into records of one name, only the first gives its struct to the module
(`find?_resultStructs`). The name of a record is put together from names of models and fields with
nothing between them, so selects of different columns can share one; each reads into a struct of its
own projections exactly if such selects have the same members.
-/

namespace Schemata.Access

open Sql (Dialect)

/-- The record that a row of a select is read into, if it is one: its name and its projections. -/
def recordOf? (select : Select) : Option (String × List Projection) :=
  match select.result with
  | .record name projections => some (name, projections)
  | _ => none

/-- The records of the selects of a plan, in order. -/
def records (plan : Plan) : List (String × List Projection) :=
  plan.selects.filterMap recordOf?

/-- The struct of a record. -/
def recordStruct (catalog : Catalog) (record : String × List Projection) : Struct :=
  ⟨record.1, projectionMembers catalog record.2⟩

/-- Records of one name have the same members. -/
def RecordsAgree (plan : Plan) : Prop :=
  ∀ first ∈ records plan, ∀ second ∈ records plan, first.1 = second.1 →
    projectionMembers plan.toCatalog first.2 = projectionMembers plan.toCatalog second.2

instance : DecidablePred RecordsAgree := fun plan =>
  inferInstanceAs (Decidable (∀ first ∈ records plan, ∀ second ∈ records plan, _ → _))

/-- A select has a record exactly if its result is one. -/
theorem recordOf?_eq_some {select : Select} {name : String} {projections : List Projection} :
    recordOf? select = some (name, projections) ↔ select.result = .record name projections := by
  unfold recordOf?
  split
  next shape => simp [shape]
  next other => simpa using other name projections

/-- The records of a plan are the results of its selects that are records. -/
theorem mem_records {plan : Plan} {name : String} {projections : List Projection} :
    (name, projections) ∈ records plan ↔
      ∃ select ∈ plan.selects, select.result = .record name projections := by
  simp [records, List.mem_filterMap, recordOf?_eq_some]

/-! ## One struct for each name -/

section Structs

variable (catalog : Catalog) (seen : List String)

/-- A record gets a struct, unless one of its name was written before. -/
theorem resultStructs_of_record {select : Select} {record : String × List Projection}
    (isRecord : recordOf? select = some record) (selects : List Select) :
    resultStructs catalog seen (select :: selects) =
      if record.1 ∈ seen then resultStructs catalog seen selects
      else recordStruct catalog record :: resultStructs catalog (record.1 :: seen) selects := by
  obtain ⟨name, projections⟩ := record
  rw [resultStructs, recordOf?_eq_some.1 isRecord]
  simp [recordStruct]

/-- A select without a record gets no struct. -/
theorem resultStructs_of_other {select : Select} (other : recordOf? select = none)
    (selects : List Select) :
    resultStructs catalog seen (select :: selects) = resultStructs catalog seen selects := by
  rw [resultStructs]
  split
  next name projections shape => simp [recordOf?_eq_some.2 shape] at other
  next => rfl

/-- No struct has a name that was seen before it. -/
theorem nodup_resultStructs (selects : List Select) :
    ((resultStructs catalog seen selects).map (·.name)).Nodup ∧
      ∀ struct ∈ resultStructs catalog seen selects, struct.name ∉ seen := by
  induction selects generalizing seen with
  | nil => simp [resultStructs]
  | cons select selects inductionHypothesis =>
      cases isRecord : recordOf? select with
      | none =>
          rw [resultStructs_of_other catalog seen isRecord]
          exact inductionHypothesis seen
      | some record =>
          rw [resultStructs_of_record catalog seen isRecord]
          by_cases known : record.1 ∈ seen
          · rw [if_pos known]
            exact inductionHypothesis seen
          · obtain ⟨distinct, fresh⟩ := inductionHypothesis (record.1 :: seen)
            rw [if_neg known, List.map_cons, List.nodup_cons]
            refine ⟨⟨?_, distinct⟩, ?_⟩
            · intro again
              obtain ⟨struct, member, sameName⟩ := List.mem_map.1 again
              exact fresh struct member (by simp [sameName, recordStruct])
            · intro struct member
              rcases List.mem_cons.1 member with rfl | later
              · exact known
              · exact fun isSeen => fresh struct later (List.mem_cons_of_mem _ isSeen)

/-- The struct of a name is that of the first record of this name. -/
theorem find?_resultStructs {name : String} (unseen : name ∉ seen) (selects : List Select) :
    (resultStructs catalog seen selects).find? (·.name = name) =
      ((selects.filterMap recordOf?).find? (·.1 = name)).map (recordStruct catalog) := by
  induction selects generalizing seen with
  | nil => rfl
  | cons select selects inductionHypothesis =>
      cases isRecord : recordOf? select with
      | none =>
          rw [resultStructs_of_other catalog seen isRecord, List.filterMap_cons_none isRecord]
          exact inductionHypothesis seen unseen
      | some record =>
          rw [resultStructs_of_record catalog seen isRecord, List.filterMap_cons_some isRecord]
          by_cases named : record.1 = name
          · -- The first record of the name: both sides stop here.
            rw [if_neg (named ▸ unseen)]
            simp [recordStruct, named]
          · by_cases known : record.1 ∈ seen
            · simpa [known, named] using inductionHypothesis seen unseen
            · have stillUnseen : name ∉ record.1 :: seen := by simp [Ne.symm named, unseen]
              simpa [known, named, recordStruct] using
                inductionHypothesis (record.1 :: seen) stillUnseen

/-- The structs of selects are those of the first records of their names. -/
theorem mem_resultStructs_iff {selects : List Select} {struct : Struct} :
    struct ∈ resultStructs catalog [] selects ↔
      ∃ record, (selects.filterMap recordOf?).find? (·.1 = record.1) = some record ∧
        recordStruct catalog record = struct := by
  have distinct := (nodup_resultStructs catalog [] selects).1
  have first (name : String) :=
    find?_resultStructs catalog [] (List.not_mem_nil (a := name)) selects
  constructor
  · intro member
    have sought := first struct.name
    cases found : (resultStructs catalog [] selects).find? (·.name = struct.name) with
    | none => simpa using List.find?_eq_none.1 found struct member
    | some other =>
        have sameName : other.name = struct.name := by simpa using List.find?_some found
        obtain rfl : other = struct :=
          List.inj_on_of_nodup_map distinct (List.mem_of_find?_eq_some found) member sameName
        rw [found] at sought
        obtain ⟨record, isFirst, isStruct⟩ := Option.map_eq_some_iff.1 sought.symm
        refine ⟨record, ?_, isStruct⟩
        rw [← isStruct] at isFirst
        exact isFirst
  · rintro ⟨record, isFirst, rfl⟩
    have sought := first record.1
    rw [isFirst, Option.map_some] at sought
    exact List.mem_of_find?_eq_some sought

end Structs

/-- Every record has the struct of its own projections exactly if records of one name agree. -/
theorem recordsAgree_iff (plan : Plan) :
    (∀ record ∈ records plan,
        (resultStructs plan.toCatalog [] plan.selects).find? (·.name = record.1) =
          some (recordStruct plan.toCatalog record)) ↔ RecordsAgree plan := by
  have structs (name : String) :=
    find?_resultStructs plan.toCatalog [] (List.not_mem_nil (a := name)) plan.selects
  constructor
  · intro own first isFirst second isSecond sameName
    have firstStruct := own first isFirst
    rw [sameName, own second isSecond] at firstStruct
    exact (congrArg Struct.members (Option.some.inj firstStruct)).symm
  · intro agree record member
    rw [structs record.1]
    cases found : (plan.selects.filterMap recordOf?).find? (·.1 = record.1) with
    | none => simpa using List.find?_eq_none.1 found record member
    | some first =>
        have sameName : first.1 = record.1 := by simpa using List.find?_some found
        have sameMembers := agree first (List.mem_of_find?_eq_some found) record member sameName
        rw [Option.map_some, recordStruct, recordStruct, sameName, sameMembers]

/-! ## Names of records -/

/-- The words of the names of models and fields that a projection asks for. -/
def projectionWords (catalog : Catalog) : Projection → List (List Char)
  | .model id => Text.words (catalog.model id).name
  | .field column =>
    Text.words (catalog.model column.model).name ++ Text.words (catalog.field column).name

/-- Words as one name: each starts with a capital, and nothing stands between them. -/
def joinedWords (words : List (List Char)) : String :=
  String.join (words.map fun word => String.ofList (Text.capitalisedWord word))

/-- All that the name of a record tells of its projections is their words. -/
theorem recordName_eq (catalog : Catalog) (projections : List Projection) :
    Analysis.recordName catalog projections =
      joinedWords (projections.flatMap (projectionWords catalog)) ++ "Row" := by
  rw [← String.toList_inj]
  simp only [Analysis.recordName, joinedWords, String.toList_append, String.toList_join,
    List.flatMap_map, List.flatMap_assoc]
  congr 2
  funext projection
  cases projection with
  | model id => simp [Text.upperCamelCase, projectionWords, List.flatMap_map]
  | field column =>
      simp [Text.upperCamelCase, Text.words_append, projectionWords, List.flatMap_map]

/-- The rows of a select that compiled are read into a record of its projections, if any. -/
theorem record_of_compile {source : String} {plan : Plan} (compiled : compile source = .ok plan)
    {record : String × List Projection} (member : record ∈ records plan) :
    record.1 = Analysis.recordName plan.toCatalog record.2 := by
  obtain ⟨name, projections⟩ := record
  obtain ⟨select, isSelect, shape⟩ := mem_records.1 member
  obtain ⟨schema, -, resolves⟩ := Analysis.exists_resolves_of_compile compiled
  obtain ⟨declared, -, gives⟩ := resolves.selects select isSelect
  have shaped := ((Analysis.resolveSelect_asks _ declared).of_gives gives select rfl).2
  rw [shape] at shaped
  unfold Analysis.resultShape at shaped
  split at shaped
  · cases shaped
  · cases shaped
  · cases shaped
    rfl

/-! ## Modules -/

/-- A module that is rendered was outlined and written first. -/
theorem exists_written_of_render {module : String} {plan : Plan} {dialects : List Dialect}
    {formatter : Formatter} {signatures : SignatureSet} {artifact : Artifact}
    (made : render module plan dialects formatter signatures = .ok artifact) :
    ∃ outlined text, Written module plan dialects signatures outlined text := by
  have rendered := render_rendered module plan dialects formatter signatures
  rw [made] at rendered
  cases rendered with
  | formatted written formats => exact ⟨_, _, written⟩
  | unformatted written fails => exact ⟨_, _, written⟩

/-- The structs of an outline are those of the results of its selects. -/
theorem structs_of_outline {module : String} {plan : Plan} {dialects : List Dialect}
    {outlined : Outline} (made : outline module plan dialects = .ok outlined) :
    outlined.structs = resultStructs plan.toCatalog [] plan.selects := by
  obtain ⟨header, -, rest⟩ := of_bind_eq_ok made
  obtain ⟨owned, -, equal⟩ := of_bind_eq_ok rest
  cases equal
  rfl

/-- The structs of a rendered module have different names, and each is that of the first record of
its name, which is made of the words of its projections. Every select reads into a struct of its own
projections exactly if records of one name have the same members. -/
theorem structs_hold_records {source : String} {plan : Plan} (compiled : compile source = .ok plan)
    {module : String} {dialects : List Dialect} {formatter : Formatter} {signatures : SignatureSet}
    {artifact : Artifact}
    (made : render module plan dialects formatter signatures = .ok artifact) :
    ∃ outlined text, Written module plan dialects signatures outlined text ∧
      (outlined.structs.map (·.name)).Nodup ∧
      (∀ name, outlined.structs.find? (·.name = name) =
        ((records plan).find? (·.1 = name)).map (recordStruct plan.toCatalog)) ∧
      (∀ record ∈ records plan, record.1 =
        joinedWords (record.2.flatMap (projectionWords plan.toCatalog)) ++ "Row") ∧
      ((∀ select ∈ plan.selects, ∀ name projections,
          select.result = .record name projections →
          outlined.structs.find? (·.name = name) =
            some ⟨name, projectionMembers plan.toCatalog projections⟩) ↔ RecordsAgree plan) := by
  obtain ⟨outlined, text, written⟩ := exists_written_of_render made
  refine ⟨outlined, text, written, ?_⟩
  rw [structs_of_outline written.outlines]
  refine ⟨(nodup_resultStructs plan.toCatalog [] plan.selects).1, ?_, ?_, ?_⟩
  · intro name
    exact find?_resultStructs plan.toCatalog [] List.not_mem_nil plan.selects
  · intro record member
    rw [← recordName_eq]
    exact record_of_compile compiled member
  · rw [← recordsAgree_iff]
    constructor
    · rintro own ⟨name, projections⟩ member
      obtain ⟨select, isSelect, shape⟩ := mem_records.1 member
      exact own select isSelect name projections shape
    · intro own select isSelect name projections shape
      exact own (name, projections) (mem_records.2 ⟨select, isSelect, shape⟩)

/-- The only record of the roster has the members of its select. -/
theorem rosterPlan_structs_hold_records :
    compile rosterSource = .ok rosterPlan ∧
    ∃ artifact, render "roster" rosterPlan [Sql.postgres, Sql.sqlite3] verbatim {} =
        .ok artifact ∧
      ∃ outlined text,
        Written "roster" rosterPlan [Sql.postgres, Sql.sqlite3] {} outlined text ∧
        outlined.structs.find? (·.name = "PlayerIdTeamNameRow") =
          some ⟨"PlayerIdTeamNameRow", [⟨"player_id", "i32", false⟩,
            ⟨"team_name", "Option<String>", false⟩]⟩ := by
  refine ⟨compile_rosterSource, ?_⟩
  obtain ⟨artifact, made⟩ := exists_artifact "roster" rosterPlan [Sql.postgres, Sql.sqlite3]
    verbatim {} (by decide) (by decide)
  obtain ⟨outlined, text, written, -, -, -, own⟩ :=
    structs_hold_records compile_rosterSource made
  refine ⟨artifact, made, outlined, text, written, ?_⟩
  have members : projectionMembers rosterPlan.toCatalog [.field ⟨1, 0⟩, .field ⟨0, 1⟩] =
      [⟨"player_id", "i32", false⟩, ⟨"team_name", "Option<String>", false⟩] := by decide
  rw [← members]
  exact own.2 (by decide) _ List.mem_cons_self _ _ rfl

/-- A schema in which two fields have the same words. -/
def itemSource : String :=
  "model item ( field id int autoincrement, field part1 int, field part_1 text )
select item.id item.part1
select item.id item.part_1
"

/-- The plan of the schema. -/
def itemPlan : Plan where
  models := [
    ⟨"item", "item", [
      ⟨{ autoincrement := true }, "id", "id", .int, none, none, ⟨1, 20, 19⟩⟩,
      ⟨{}, "part1", "part1", .int, none, none, ⟨1, 48, 47⟩⟩,
      ⟨{}, "part_1", "part_1", .text, none, none, ⟨1, 65, 64⟩⟩],
      [0], [], ⟨1, 1, 0⟩⟩]
  selects := [
    ⟨0, [.field ⟨0, 0⟩, .field ⟨0, 1⟩], [], [], .many, none,
      .record "ItemIdItemPart1Row" [.field ⟨0, 0⟩, .field ⟨0, 1⟩], ⟨2, 1, 78⟩⟩,
    ⟨0, [.field ⟨0, 0⟩, .field ⟨0, 2⟩], [], [], .many, none,
      .record "ItemIdItemPart1Row" [.field ⟨0, 0⟩, .field ⟨0, 2⟩], ⟨3, 1, 104⟩⟩]

/-- The plan of the source with items. -/
theorem compile_itemSource : compile itemSource = .ok itemPlan := by
  apply eq_ok_of_toOption
  unfold itemSource
  rw [compile_ofList]
  decide +kernel

/-- The second select of items asks for a text, and its record has a member for a number in its
place. -/
theorem itemPlan_record_shared :
    compile itemSource = .ok itemPlan ∧
    ∃ artifact, render "item" itemPlan [Sql.postgres] verbatim {} = .ok artifact ∧
      ∃ outlined text, Written "item" itemPlan [Sql.postgres] {} outlined text ∧
        outlined.structs = [⟨"ItemIdItemPart1Row",
          [⟨"item_id", "i32", false⟩, ⟨"item_part1", "i32", false⟩]⟩] ∧
        ∃ select ∈ itemPlan.selects, ∃ projections,
          select.result = .record "ItemIdItemPart1Row" projections ∧
          projectionMembers itemPlan.toCatalog projections =
            [⟨"item_id", "i32", false⟩, ⟨"item_part_1", "String", false⟩] := by
  refine ⟨compile_itemSource, ?_⟩
  obtain ⟨artifact, made⟩ := exists_artifact "item" itemPlan [Sql.postgres] verbatim {}
    (by decide) (by decide)
  obtain ⟨outlined, text, written⟩ := exists_written_of_render made
  refine ⟨artifact, made, outlined, text, written, ?_, ?_⟩
  · rw [structs_of_outline written.outlines]
    decide
  · exact ⟨_, List.mem_cons_of_mem _ List.mem_cons_self, _, rfl, by decide⟩

end Schemata.Access
