import Mathlib.Data.List.Infix
import Schemata.Proofs.Declaration.Legible
import Schemata.Proofs.Sql.Quoting
import Schemata.Proofs.Text.Cases
import Schemata.Sql.Registry
import Schemata.Sql.Schema
import Schemata.Text.CharSet

/-!
# The statements of a schema's script

All tables of a schema are created by one script. It is run by parts: a statement ends at a
semicolon with a newline behind it, blanks around it do not count, and what is empty is no
statement. Quotes do not count either, so a text in a default may end a statement early. Nothing
else can: names are plain, and no other word of a table definition has a semicolon in it. The
statements of the script are the table definitions, in order, exactly if no default has a semicolon
with a newline behind it (`statements_schemaText_iff`).
-/

namespace Schemata.Sql

/-! ## Scripts -/

/-- The pieces of a script between the ends of statements. -/
def scriptPieces : List Char → List (List Char)
  | [] => [[]]
  | ';' :: '\n' :: rest => [] :: scriptPieces rest
  | c :: rest => (scriptPieces rest).modifyHead (c :: ·)

/-- The characters with the property White_Space. -/
def whiteSpace : Text.CharSet :=
  ⟨[0x9, 0xE, 0x20, 0x21, 0x85, 0x86, 0xA0, 0xA1, 0x1680, 0x1681, 0x2000, 0x200B, 0x2028, 0x202A,
    0x202F, 0x2030, 0x205F, 0x2060, 0x3000, 0x3001]⟩

/-- A text without the blanks at its ends. -/
def stripped (text : List Char) : List Char :=
  ((text.dropWhile whiteSpace.contains).reverse.dropWhile whiteSpace.contains).reverse

/-- The statements of a script, in the order in which they are run. -/
def statements (script : String) : List String :=
  (((scriptPieces script.toList).map stripped).filter fun piece => !piece.isEmpty).map String.ofList

/-- A text has the end of a statement in it. -/
def HasEnd (text : List Char) : Prop :=
  [';', '\n'] <:+: text

instance (text : List Char) : Decidable (HasEnd text) :=
  inferInstanceAs (Decidable ([';', '\n'] <:+: text))

/-! ## Ends of statements -/

section Ends

variable {front rest : List Char}

/-- A statement ends at the first character of a text or behind it. -/
theorem hasEnd_cons_iff {c : Char} :
    HasEnd (c :: rest) ↔ (c = ';' ∧ rest.head? = some '\n') ∨ HasEnd rest := by
  rw [HasEnd, HasEnd, List.infix_cons_iff, List.cons_prefix_cons]
  refine or_congr_left (and_congr eq_comm ?_)
  cases rest with
  | nil => simp
  | cons next others => simp [List.cons_prefix_cons, eq_comm]

/-- No statement ends in a text without a semicolon. -/
theorem not_hasEnd_of_notMem (quiet : ';' ∉ rest) : ¬ HasEnd rest :=
  fun ends => quiet (ends.subset List.mem_cons_self)

/-- What has no semicolon in it adds no end in front. -/
theorem hasEnd_append_of_notMem (quiet : ';' ∉ front) : HasEnd (front ++ rest) ↔ HasEnd rest := by
  induction front with
  | nil => rfl
  | cons c front inductionHypothesis =>
      obtain ⟨notHere, quietRest⟩ := not_or.1 (mt List.mem_cons.2 quiet)
      rw [List.cons_append, hasEnd_cons_iff, inductionHypothesis quietRest]
      exact or_iff_right fun here => notHere here.1.symm

/-- No end comes about where two texts meet, unless the second one starts a line. -/
theorem hasEnd_append_iff (meets : rest.head? ≠ some '\n') :
    HasEnd (front ++ rest) ↔ HasEnd front ∨ HasEnd rest := by
  induction front with
  | nil => simp [not_hasEnd_of_notMem]
  | cons c front inductionHypothesis =>
      rw [List.cons_append, hasEnd_cons_iff, hasEnd_cons_iff, inductionHypothesis, or_assoc]
      cases front with
      | nil => simp [meets]
      | cons => simp

/-- Doubling a quote leaves the first character of a text. -/
theorem head?_doubled (quote : Char) (text : List Char) :
    (doubled quote text).head? = text.head? := by
  cases text with
  | nil => rfl
  | cons c text =>
      rw [doubled, List.flatMap_cons]
      split <;> simp [*]

/-- A quote that is written twice adds no end. -/
theorem hasEnd_doubled_iff {quote : Char} (notEnd : quote ≠ ';') (text : List Char) :
    HasEnd (doubled quote text) ↔ HasEnd text := by
  induction text with
  | nil => rfl
  | cons c text inductionHypothesis =>
      have unfolded : doubled quote (c :: text) =
          (if c = quote then [quote, quote] else [c]) ++ doubled quote text := List.flatMap_cons
      rw [unfolded]
      split
      · next isQuote =>
        have quiet : ';' ∉ [quote, quote] := by simp [notEnd.symm]
        rw [hasEnd_append_of_notMem quiet, inductionHypothesis, hasEnd_cons_iff]
        exact (or_iff_right fun here => notEnd (isQuote ▸ here.1)).symm
      · rw [List.singleton_append, hasEnd_cons_iff, hasEnd_cons_iff, head?_doubled,
          inductionHypothesis]

end Ends

/-! ## Splitting -/

/-- A character that ends no statement belongs to the statement in front. -/
theorem scriptPieces_cons {c : Char} {rest : List Char}
    (goesOn : ¬ (c = ';' ∧ rest.head? = some '\n')) :
    scriptPieces (c :: rest) = (scriptPieces rest).modifyHead (c :: ·) := by
  rw [scriptPieces]
  rintro others rfl
  rintro rfl
  exact goesOn ⟨rfl, rfl⟩

/-- A text without an end is the first piece, up to the end behind it. -/
theorem scriptPieces_append {front : List Char} (whole : ¬ HasEnd front) (rest : List Char) :
    scriptPieces (front ++ ';' :: '\n' :: rest) = front :: scriptPieces rest := by
  induction front with
  | nil => rfl
  | cons c front inductionHypothesis =>
      obtain ⟨notHere, notLater⟩ := not_or.1 (mt hasEnd_cons_iff.2 whole)
      -- Behind the last character of the front comes a semicolon, which ends nothing by itself.
      have goesOn : ¬ (c = ';' ∧ (front ++ ';' :: '\n' :: rest).head? = some '\n') := by
        cases front with
        | nil => simp
        | cons => exact notHere
      rw [List.cons_append, scriptPieces_cons goesOn, inductionHypothesis notLater]
      rfl

/-- There is a first piece, and a newline that starts it starts the script. -/
theorem exists_scriptPieces (script : List Char) :
    ∃ first others, scriptPieces script = first :: others ∧
      (first.head? = some '\n' → script.head? = some '\n') := by
  fun_induction scriptPieces script with
  | case1 => exact ⟨[], [], rfl, nofun⟩
  | case2 rest => exact ⟨[], _, rfl, nofun⟩
  | case3 c rest _ inductionHypothesis =>
      obtain ⟨first, others, isPieces, -⟩ := inductionHypothesis
      rw [isPieces]
      exact ⟨c :: first, others, rfl, id⟩

/-- No piece has an end in it. -/
theorem scriptPieces_whole (script : List Char) :
    ∀ piece ∈ scriptPieces script, ¬ HasEnd piece := by
  fun_induction scriptPieces script with
  | case1 => exact List.forall_mem_singleton.2 (by decide)
  | case2 rest inductionHypothesis =>
      exact List.forall_mem_cons.2 ⟨by decide, inductionHypothesis⟩
  | case3 c rest goesOn inductionHypothesis =>
      obtain ⟨first, others, isPieces, starts⟩ := exists_scriptPieces rest
      rw [isPieces] at inductionHypothesis ⊢
      obtain ⟨firstWhole, othersWhole⟩ := List.forall_mem_cons.1 inductionHypothesis
      refine List.forall_mem_cons.2 ⟨?_, othersWhole⟩
      rw [hasEnd_cons_iff]
      rintro (⟨rfl, newline⟩ | inFirst)
      · obtain ⟨behind, isRest⟩ := List.head?_eq_some_iff.1 (starts newline)
        exact goesOn behind rfl isRest
      · exact firstWhole inFirst

/-- What is left of a text without blanks around it is part of the text. -/
theorem stripped_isInfix (text : List Char) : stripped text <:+: text := by
  have back : stripped text <:+: text.dropWhile whiteSpace.contains := by
    rw [← List.reverse_infix, stripped, List.reverse_reverse]
    exact (List.dropWhile_suffix _).isInfix
  exact back.trans (List.dropWhile_suffix _).isInfix

/-- No statement of a script has an end in it. -/
theorem not_hasEnd_of_mem_statements {script statement : String}
    (isStatement : statement ∈ statements script) : ¬ HasEnd statement.toList := by
  obtain ⟨text, isText, rfl⟩ := List.mem_map.1 isStatement
  obtain ⟨piece, isPiece, rfl⟩ := List.mem_map.1 (List.mem_filter.1 isText).1
  rw [String.toList_ofList]
  exact fun ends => scriptPieces_whole _ piece isPiece (ends.trans (stripped_isInfix piece))

/-- A text that can be a statement: it has no end in it, and no blanks at its own ends. -/
structure IsStatement (text : String) : Prop where
  whole : ¬ HasEnd text.toList
  tight : stripped text.toList = text.toList
  nonempty : text.toList ≠ []

/-- A newline in front of a text is stripped off. -/
theorem stripped_newline_cons (text : List Char) : stripped ('\n' :: text) = stripped text := by
  rw [stripped, stripped, List.dropWhile_cons_of_pos (by decide)]

/-- Statements with their ends, and with newlines in front of them, are found again. -/
theorem scriptPieces_flatMap {texts : List String} (whole : ∀ text ∈ texts, IsStatement text) :
    scriptPieces (texts.flatMap fun text => '\n' :: (text.toList ++ [';', '\n'])) =
      texts.map (fun text => '\n' :: text.toList) ++ [[]] := by
  induction texts with
  | nil => rfl
  | cons text texts inductionHypothesis =>
      obtain ⟨first, others⟩ := List.forall_mem_cons.1 whole
      have firstWhole : ¬ HasEnd ('\n' :: text.toList) := by
        rw [hasEnd_cons_iff]
        exact not_or.2 ⟨by simp, first.whole⟩
      have pieces := scriptPieces_append firstWhole
        (texts.flatMap fun text => '\n' :: (text.toList ++ [';', '\n']))
      rw [inductionHypothesis others] at pieces
      simpa using pieces

/-- A script is its first statement, and then every other one behind an empty line. -/
theorem toList_script (first : String) (others : List String) :
    ("\n".intercalate ((first :: others).map (· ++ ";\n"))).toList =
      first.toList ++ ';' :: '\n' ::
        others.flatMap fun text => '\n' :: (text.toList ++ [';', '\n']) := by
  have newline : "\n".toList = ['\n'] := rfl
  have ending : ";\n".toList = [';', '\n'] := rfl
  rw [String.toList_intercalate, newline, List.map_cons, List.map_cons, Text.intercalate_cons,
    List.map_map, List.flatMap_map]
  simp [ending]

/-- What can be a statement is kept as it is behind a newline. -/
theorem IsStatement.kept {text : String} (statement : IsStatement text) :
    stripped ('\n' :: text.toList) = text.toList := by
  rw [stripped_newline_cons, statement.tight]

/-- A script of statements, each with its end and on lines of its own, runs them in order. -/
theorem statements_script {texts : List String} (whole : ∀ text ∈ texts, IsStatement text) :
    statements ("\n".intercalate (texts.map (· ++ ";\n"))) = texts := by
  cases texts with
  | nil => rfl
  | cons first others =>
      obtain ⟨firstStatement, othersStatements⟩ := List.forall_mem_cons.1 whole
      have kept : (others.map fun text => '\n' :: text.toList).map stripped =
          others.map String.toList := by
        rw [List.map_map]
        exact List.map_congr_left fun text member => (othersStatements text member).kept
      have pieces : (scriptPieces ("\n".intercalate
          ((first :: others).map (· ++ ";\n"))).toList).map stripped =
            (first :: others).map String.toList ++ [[]] := by
        rw [toList_script, scriptPieces_append firstStatement.whole,
          scriptPieces_flatMap othersStatements, List.map_cons, List.map_append, kept,
          firstStatement.tight]
        rfl
      have nonempty : ((first :: others).map String.toList).filter (fun text => !text.isEmpty) =
          (first :: others).map String.toList := by
        refine List.filter_eq_self.2 (List.forall_mem_map.2 fun text member => ?_)
        simpa using (whole text member).nonempty
      rw [statements, pieces, List.filter_append, nonempty, List.map_append, List.map_map]
      simp

/-! ## Words without semicolons -/

/-- A plain name has no semicolon. -/
theorem semicolon_notMem_of_isPlain {name : String} (plain : Text.IsPlain name) :
    ';' ∉ name.toList :=
  fun member => absurd (plain ';' member) (by decide)

/-- Doubling a quote brings in nothing but quotes. -/
theorem mem_of_mem_doubled {quote c : Char} {text : List Char} (member : c ∈ doubled quote text) :
    c = quote ∨ c ∈ text := by
  obtain ⟨original, isOriginal, inside⟩ := List.mem_flatMap.1 member
  split at inside
  · exact .inl (by simpa using inside)
  · exact .inr (List.mem_singleton.1 inside ▸ isOriginal)

/-- A plain name has no semicolon as an identifier either, quoted or not. -/
theorem semicolon_notMem_identifier {name : String} (plain : Text.IsPlain name) :
    ';' ∉ (identifier name).toList := by
  have quiet := semicolon_notMem_of_isPlain plain
  unfold identifier
  split
  · exact quiet
  · rw [toList_quotedName]
    intro member
    have inside : ';' ∈ doubled '"' name.toList := by simpa using member
    rcases mem_of_mem_doubled inside with equal | inName
    · exact absurd equal (by decide)
    · exact quiet inName

/-- Parts without semicolons have none together. -/
theorem semicolon_notMem_intercalate {separator : String} {parts : List String}
    (quietSeparator : ';' ∉ separator.toList) (quiet : ∀ part ∈ parts, ';' ∉ part.toList) :
    ';' ∉ (separator.intercalate parts).toList := by
  induction parts with
  | nil => simp
  | cons part parts inductionHypothesis =>
      obtain ⟨here, later⟩ := List.forall_mem_cons.1 quiet
      cases parts with
      | nil => simpa using here
      | cons next others =>
          rw [String.intercalate_cons_of_ne_nil (List.cons_ne_nil _ _), String.toList_append,
            String.toList_append]
          simp only [List.mem_append, not_or]
          exact ⟨⟨here, quietSeparator⟩, inductionHypothesis later⟩

/-- There are two built-in dialects. -/
theorem dialects_builtin : Registry.builtin.dialects = [postgres, sqlite3] := rfl

/-- Column types have no semicolon in them. -/
theorem semicolon_notMem_columnType {dialect : Dialect}
    (builtin : dialect ∈ Registry.builtin.dialects) (field : Field) :
    ';' ∉ (dialect.columnType field).toList := by
  have number : ∀ length : Nat, ';' ∉ (toString length).toList := fun length member =>
    absurd (isDigit_of_mem_toString member) (by decide)
  simp only [dialects_builtin, List.mem_cons, List.not_mem_nil, or_false] at builtin
  rcases builtin with rfl | rfl
  · change ';' ∉ (postgresType field).toList
    unfold postgresType
    split
    case h_2 | h_3 => split <;> decide
    case h_5 =>
        split
        · simp only [String.toList_append, List.mem_append, not_or]
          exact ⟨⟨by decide, number _⟩, by decide⟩
        · decide
    all_goals decide
  · change ';' ∉ (sqliteType field).toList
    unfold sqliteType
    split <;> decide

/-- A literal has an end in it exactly if it is a text that has one. -/
theorem hasEnd_sql_iff (literal : Literal) :
    HasEnd literal.sql.toList ↔ ∃ content, literal = .text content ∧ HasEnd content.toList := by
  cases literal with
  | null =>
      refine iff_of_false (not_hasEnd_of_notMem (by decide)) ?_
      rintro ⟨_, ⟨⟩, -⟩
  | bool value =>
      refine iff_of_false (not_hasEnd_of_notMem (by cases value <;> decide)) ?_
      rintro ⟨_, ⟨⟩, -⟩
  | int value =>
      have quiet : ';' ∉ (Literal.int value).sql.toList := fun member =>
        absurd (mem_toString_int member) (by decide)
      refine iff_of_false (not_hasEnd_of_notMem quiet) ?_
      rintro ⟨_, ⟨⟩, -⟩
  | text content =>
      have written : HasEnd (Literal.text content).sql.toList ↔ HasEnd content.toList := by
        rw [toList_sql_text, hasEnd_cons_iff, hasEnd_append_iff (by decide),
          hasEnd_doubled_iff (by decide)]
        simp [not_hasEnd_of_notMem]
      rw [written]
      simp

/-! ## Table definitions -/

/-- The names of tables and columns are plain, even where none is found. -/
structure PlainTables (catalog : Catalog) : Prop where
  tables : ∀ id, Text.IsPlain (catalog.model id).table
  columns : ∀ id, ∀ field ∈ (catalog.model id).fields, Text.IsPlain field.column

/-- The tables and columns of a plan that compiles have plain names. -/
theorem plainTables_of_compile {source : String} {plan : Plan}
    (compiled : compile source = .ok plan) : PlainTables plan.toCatalog := by
  obtain ⟨schema, parsed, modelsOf⟩ := Analysis.exists_modelOf_of_compile compiled
  have worded := Declaration.Schema.parse_worded parsed
  have legible := Declaration.Schema.parse_legible parsed
  have small : ∀ {name : String}, IsWord name → Text.IsPlain (Text.snakeCase name) :=
    fun word => Text.isPlain_snakeCase (Text.isPlain_of_isWord word)
  have tables : ∀ model ∈ plan.models, Text.IsPlain model.table := by
    intro model member
    obtain ⟨declared, paired, modelOf⟩ := exists_zip_of_mem_right modelsOf member
    have isDeclared := (List.of_mem_zip paired).1
    rw [modelOf.table, Analysis.tableOf]
    cases given : declared.table with
    | none => exact small (worded declared isDeclared).name
    | some table =>
        exact Text.isPlain_of_isWord ((legible.models declared isDeclared).table table given)
  have columns : ∀ model ∈ plan.models, ∀ field ∈ model.fields, Text.IsPlain field.column := by
    intro model member field isField
    obtain ⟨declared, paired, modelOf⟩ := exists_zip_of_mem_right modelsOf member
    rw [modelOf.fields] at isField
    obtain ⟨item, isItem, rfl⟩ := List.mem_map.1 isField
    exact small ((worded declared (List.of_mem_zip paired).1).fields item isItem)
  exact ⟨of_getD (fun model : Model => Text.IsPlain model.table) tables (by decide),
    of_getD (fun model : Model => ∀ field ∈ model.fields, Text.IsPlain field.column) columns
      (List.forall_mem_nil _)⟩

/-- Lines have an end in them exactly if one of the first has, where the others have none. -/
theorem hasEnd_lines_iff {lines others : List String} {behind : List Char} (more : others ≠ [])
    (quiet : ';' ∉ (",\n    ".intercalate others).toList ++ behind) :
    HasEnd ((",\n    ".intercalate (lines ++ others)).toList ++ behind) ↔
      ∃ line ∈ lines, HasEnd line.toList := by
  induction lines with
  | nil => simpa using not_hasEnd_of_notMem quiet
  | cons line lines inductionHypothesis =>
      have rest : lines ++ others ≠ [] := List.append_ne_nil_of_right_ne_nil lines more
      rw [List.cons_append, String.intercalate_cons_of_ne_nil rest, String.toList_append,
        String.toList_append, List.append_assoc, List.append_assoc, hasEnd_append_iff (by simp),
        hasEnd_append_of_notMem (by decide), inductionHypothesis]
      simp

/-- The lines of a table definition behind those of its columns. -/
def constraintLines (catalog : Catalog) (id : ModelId) : List String :=
  keyLine "PRIMARY KEY" (catalog.model id) (catalog.model id).primaryKey ::
    ((catalog.model id).unique.map (keyLine "UNIQUE" (catalog.model id)) ++
      (catalog.outgoing id).map (relationLine catalog))

/-- A table definition has the lines of its columns and then those of its keys and relations. -/
theorem tableLines_eq (dialect : Dialect) (catalog : Catalog) (id : ModelId) :
    tableLines dialect catalog id =
      (catalog.model id).fields.map (columnLine dialect) ++ constraintLines catalog id := by
  unfold tableLines constraintLines
  simp

section Definitions

variable {catalog : Catalog} (plain : PlainTables catalog)

include plain

/-- The names of fields have no semicolon. -/
theorem semicolon_notMem_fieldNames (id : ModelId) (fields : List FieldId) :
    ';' ∉ (fieldNames (catalog.model id) fields).toList := by
  refine semicolon_notMem_intercalate (by decide) (List.forall_mem_map.2 fun place _ => ?_)
  apply semicolon_notMem_identifier
  exact of_getD (fun field : Field => Text.IsPlain field.column) (plain.columns id) (by decide)
    place

/-- The line of a key has no semicolon. -/
theorem semicolon_notMem_keyLine {kind : String} (quiet : ';' ∉ kind.toList) (id : ModelId)
    (key : List FieldId) : ';' ∉ (keyLine kind (catalog.model id) key).toList := by
  simp [keyLine, quiet, semicolon_notMem_fieldNames plain]

/-- The line of a relation has no semicolon. -/
theorem semicolon_notMem_relationLine (relation : Relation) :
    ';' ∉ (relationLine catalog relation).toList := by
  unfold relationLine
  dsimp only
  have action : ∀ action : DeleteAction, ';' ∉ action.sql.toList := by
    intro action
    cases action <;> decide
  cases relation.onDelete <;>
    simp [semicolon_notMem_fieldNames plain, semicolon_notMem_identifier (plain.tables _), action]

/-- The line of a column has an end in it exactly if the text of its default has one. -/
theorem hasEnd_columnLine_iff {dialect : Dialect} {id : ModelId} {field : Field}
    (quietType : ';' ∉ (dialect.columnType field).toList)
    (isField : field ∈ (catalog.model id).fields) :
    HasEnd (columnLine dialect field).toList ↔
      ∃ content, field.default = some (.text content) ∧ HasEnd content.toList := by
  have quietName := semicolon_notMem_identifier (plain.columns id field isField)
  have quietNull : ';' ∉ (if field.nullable then "" else " NOT NULL").toList := by
    cases field.nullable <;> decide
  have quietFront : ';' ∉ (identifier field.column ++ " " ++ dialect.columnType field ++
      (if field.nullable then "" else " NOT NULL")).toList := by
    simp [quietName, quietType, quietNull]
  rw [columnLine, String.toList_append, hasEnd_append_of_notMem quietFront]
  cases field.default with
  | none =>
      refine iff_of_false (by decide) ?_
      rintro ⟨_, ⟨⟩, -⟩
  | some literal =>
      rw [String.toList_append, hasEnd_append_of_notMem (by decide), hasEnd_sql_iff]
      simp

/-- Behind the columns of a table, no line has a semicolon. -/
theorem semicolon_notMem_constraintLines (id : ModelId) :
    ∀ line ∈ constraintLines catalog id, ';' ∉ line.toList := by
  rw [constraintLines, List.forall_mem_cons, List.forall_mem_append]
  exact ⟨semicolon_notMem_keyLine plain (by decide) id _,
    List.forall_mem_map.2 fun key _ => semicolon_notMem_keyLine plain (by decide) id key,
    List.forall_mem_map.2 fun relation _ => semicolon_notMem_relationLine plain relation⟩

/-- A table definition has an end in it exactly if the text of a default has one. -/
theorem hasEnd_tableDefinition_iff {dialect : Dialect}
    (quietTypes : ∀ field, ';' ∉ (dialect.columnType field).toList) (id : ModelId) :
    HasEnd (tableDefinition dialect catalog id).toList ↔
      ∃ field ∈ (catalog.model id).fields, ∃ content,
        field.default = some (.text content) ∧ HasEnd content.toList := by
  have quietFront : ';' ∉ ("CREATE TABLE " ++ identifier (catalog.model id).table ++
      " (\n    ").toList := by
    simp [semicolon_notMem_identifier (plain.tables id)]
  have quietBack : ';' ∉ (",\n    ".intercalate (constraintLines catalog id)).toList ++
      "\n)".toList := by
    rw [List.mem_append, not_or]
    exact ⟨semicolon_notMem_intercalate (by decide) (semicolon_notMem_constraintLines plain id),
      by decide⟩
  have more : constraintLines catalog id ≠ [] := List.cons_ne_nil _ _
  -- The line of the primary key follows the columns, so none of them meets the last newline.
  unfold tableDefinition
  rw [tableLines_eq, String.toList_append, String.toList_append, List.append_assoc,
    hasEnd_append_of_notMem quietFront, hasEnd_lines_iff more quietBack]
  simp only [List.mem_map, exists_exists_and_eq_and]
  exact exists_congr fun field => and_congr_right fun isField =>
    hasEnd_columnLine_iff plain (quietTypes field) isField

end Definitions

/-- A text that starts and ends with something else than blanks is stripped already. -/
theorem stripped_eq_self {first last : Char} {inner : List Char}
    (starts : whiteSpace.contains first = false) (ends : whiteSpace.contains last = false) :
    stripped (first :: (inner ++ [last])) = first :: (inner ++ [last]) := by
  have notStart : ¬ whiteSpace.contains first = true := by simp [starts]
  have notEnd : ¬ whiteSpace.contains last = true := by simp [ends]
  rw [stripped, List.dropWhile_cons_of_neg notStart, ← List.cons_append, List.reverse_concat,
    List.dropWhile_cons_of_neg notEnd, ← List.reverse_concat, List.reverse_reverse]

/-- A table definition without an end in it can be a statement. -/
theorem isStatement_tableDefinition {dialect : Dialect} {catalog : Catalog} {id : ModelId}
    (whole : ¬ HasEnd (tableDefinition dialect catalog id).toList) :
    IsStatement (tableDefinition dialect catalog id) := by
  obtain ⟨inner, shape⟩ : ∃ inner,
      (tableDefinition dialect catalog id).toList = 'C' :: (inner ++ [')']) := by
    have opening : "CREATE TABLE ".toList = 'C' :: "REATE TABLE ".toList := rfl
    have closing : "\n)".toList = "\n".toList ++ [')'] := rfl
    unfold tableDefinition
    rw [String.toList_append, String.toList_append, String.toList_append, String.toList_append,
      opening, closing, ← List.append_assoc]
    simp only [List.cons_append]
    exact ⟨_, rfl⟩
  refine ⟨whole, ?_, ?_⟩
  · rw [shape]
    exact stripped_eq_self (by decide) (by decide)
  · rw [shape]
    exact List.cons_ne_nil _ _

/--
The statements of a schema's script are its table definitions, one for each model and in the order
of the models, exactly if no text in a default has a semicolon with a newline behind it.
-/
theorem statements_schemaText_iff {source : String} {plan : Plan}
    (compiled : compile source = .ok plan) {dialect : Dialect}
    (builtin : dialect ∈ Registry.builtin.dialects) :
    statements (schemaText dialect plan.toCatalog) =
        plan.modelIds.map (tableDefinition dialect plan.toCatalog) ↔
      ∀ model ∈ plan.models, ∀ field ∈ model.fields, ∀ content,
        field.default = some (.text content) → ¬ HasEnd content.toList := by
  have plain := plainTables_of_compile compiled
  have ends := hasEnd_tableDefinition_iff plain (semicolon_notMem_columnType builtin)
  constructor
  · -- What is run never has an end in it, so the definitions have none if they are what is run.
    intro same model isModel field isField content given hasEnd
    obtain ⟨id, bound, rfl⟩ := List.mem_iff_getElem.1 isModel
    have found : plan.model id = plan.models[id] := by
      simp [Catalog.model, List.getD_eq_getElem?_getD, bound]
    have isStatement : tableDefinition dialect plan.toCatalog id ∈
        statements (schemaText dialect plan.toCatalog) := by
      rw [same]
      exact List.mem_map_of_mem (List.mem_range.2 bound)
    refine not_hasEnd_of_mem_statements isStatement ((ends id).2 ?_)
    exact ⟨field, found ▸ isField, content, given, hasEnd⟩
  · intro whole
    have definitions : ∀ text ∈ plan.modelIds.map (tableDefinition dialect plan.toCatalog),
        IsStatement text := by
      refine List.forall_mem_map.2 fun id member => isStatement_tableDefinition ?_
      have hasModel : plan.HasModel id := List.mem_range.1 member
      rw [ends]
      rintro ⟨field, isField, content, given, hasEnd⟩
      exact whole _ hasModel.mem_models field isField content given hasEnd
    have script := statements_script definitions
    rw [List.map_map] at script
    exact script

/-- A schema with a default that has semicolons and a newline in it, and the newline comes first. -/
def mottoSource : String :=
  "model author ( field id int autoincrement, field motto text ( default \";\\\"'\\n;\" ) )
model book ( unique title, field id int autoincrement, field title text, field writer int )
relation book.writer author.id ( on_delete cascade )
"

/-- The plan of the schema. -/
def mottoPlan : Plan where
  models := [
    ⟨"author", "author", [
      ⟨{ autoincrement := true }, "id", "id", .int, none, none, ⟨1, 22, 21⟩⟩,
      ⟨{}, "motto", "motto", .text, some (.text ";\"'\n;"), none, ⟨1, 50, 49⟩⟩], [0], [],
      ⟨1, 1, 0⟩⟩,
    ⟨"book", "book", [
      ⟨{ autoincrement := true }, "id", "id", .int, none, none, ⟨2, 34, 117⟩⟩,
      ⟨{}, "title", "title", .text, none, none, ⟨2, 62, 145⟩⟩,
      ⟨{}, "writer", "writer", .int, none, none, ⟨2, 80, 163⟩⟩], [0], [[1]], ⟨2, 1, 84⟩⟩]
  relations := [⟨⟨1, 2⟩, ⟨0, 0⟩, some .cascade, ⟨3, 1, 176⟩⟩]

/-- The default ends no statement, so both tables are created by one statement each. -/
theorem mottoPlan_statements :
    compile mottoSource = .ok mottoPlan ∧ sqlite3 ∈ Registry.builtin.dialects ∧
    ¬ HasEnd ";\"'\n;".toList ∧
    statements (schemaText sqlite3 mottoPlan.toCatalog) =
      [tableDefinition sqlite3 mottoPlan.toCatalog 0,
        tableDefinition sqlite3 mottoPlan.toCatalog 1] := by
  have compiled : compile mottoSource = .ok mottoPlan := by
    apply eq_ok_of_toOption
    unfold mottoSource
    rw [compile_ofList]
    decide +kernel
  have builtin : sqlite3 ∈ Registry.builtin.dialects := by
    rw [dialects_builtin]
    exact List.mem_cons_of_mem _ List.mem_cons_self
  have whole : ¬ HasEnd ";\"'\n;".toList := by decide
  refine ⟨compiled, builtin, whole, (statements_schemaText_iff compiled builtin).2 ?_⟩
  simpa [mottoPlan] using whole

/-- A schema with a default that has a semicolon and a newline behind it. -/
def memoSource : String :=
  "model note ( field id int autoincrement, field body text ( default \"a;\\nb\" ) )
"

/-- The plan of the schema. -/
def memoPlan : Plan where
  models := [⟨"note", "note", [
    ⟨{ autoincrement := true }, "id", "id", .int, none, none, ⟨1, 20, 19⟩⟩,
    ⟨{}, "body", "body", .text, some (.text "a;\nb"), none, ⟨1, 48, 47⟩⟩], [0], [], ⟨1, 1, 0⟩⟩]

/-- The table is to be created by two statements, and neither of them is its definition. -/
theorem memoPlan_statement_cut :
    compile memoSource = .ok memoPlan ∧ postgres ∈ Registry.builtin.dialects ∧
    statements (schemaText postgres memoPlan.toCatalog) =
      ["CREATE TABLE note (\n    id serial NOT NULL,\n    body text NOT NULL DEFAULT 'a",
        "b',\n    PRIMARY KEY ( id )\n)"] ∧
    memoPlan.modelIds.map (tableDefinition postgres memoPlan.toCatalog) =
      ["CREATE TABLE note (\n    id serial NOT NULL,\n    body text NOT NULL DEFAULT 'a;\nb',\n" ++
        "    PRIMARY KEY ( id )\n)"] := by
  refine ⟨?_, dialects_builtin ▸ List.mem_cons_self, by decide +kernel, by decide +kernel⟩
  apply eq_ok_of_toOption
  unfold memoSource
  rw [compile_ofList]
  decide +kernel

end Schemata.Sql
