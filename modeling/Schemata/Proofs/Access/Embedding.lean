import Schemata.Proofs.Access.Consistency
import Schemata.Proofs.Access.Rendering
import Schemata.Proofs.Text.Indenting

/-!
# Statements in the text of a method

A method declares its statements as text constants. A statement that spans lines is written as a raw
literal, and laying the body of the method out moves its lines to the right with all others: what is
declared is the statement after that (`embedded`). A statement of one line is declared as it is.
-/

namespace Schemata.Access

open Text (append_reindented count_le_count_reindented laidOut opening reindented reindented_append
  reindented_eq_iff reindented_of_free relaid relaid_append relaid_append_indent startsEmpty)

/-! ## Literals -/

section Literals

variable (indent : List Char)

/-- Moving lines to the right does not change the hashes that a text starts with. -/
theorem leadingHashes_reindented (text : List Char) :
    leadingHashes (reindented indent text) = leadingHashes text := by
  fun_induction reindented indent text with
  | case1 => rfl
  | case2 text inductionHypothesis => simp [leadingHashes]
  | case3 first text _ ends inductionHypothesis =>
      obtain ⟨rfl, follows⟩ := ends
      obtain ⟨text, rfl⟩ := List.head?_eq_some_iff.1 follows
      rw [inductionHypothesis]
      simp [leadingHashes]
  | case4 first text _ _ inductionHypothesis =>
      unfold leadingHashes at inductionHypothesis ⊢
      by_cases isHash : first = '#'
      · simp [isHash, inductionHypothesis]
      · simp [isHash]

/-- No hashes count in a part without quotes. -/
theorem hashesBehindQuotes_append {front : List Char} (free : '"' ∉ front) (rest : List Char) :
    hashesBehindQuotes (front ++ rest) = hashesBehindQuotes rest := by
  induction front with
  | nil => rfl
  | cons c front inductionHypothesis =>
      obtain ⟨other, frontFree⟩ : '"' ≠ c ∧ '"' ∉ front := by simpa using free
      rw [List.cons_append, hashesBehindQuotes, if_neg (Ne.symm other),
        inductionHypothesis frontFree]

/-- No hashes come to stand behind a quote. -/
theorem hashesBehindQuotes_reindented (free : '"' ∉ indent) (text : List Char) :
    hashesBehindQuotes (reindented indent text) = hashesBehindQuotes text := by
  have noQuote (text : List Char) : '"' ∉ opening indent text := by
    unfold opening
    split <;> simp [free]
  fun_induction reindented indent text with
  | case1 => rfl
  | case2 text inductionHypothesis =>
      simp [hashesBehindQuotes, hashesBehindQuotes_append (noQuote text), inductionHypothesis]
  | case3 first text _ ends inductionHypothesis =>
      obtain ⟨rfl, -⟩ := ends
      simp [hashesBehindQuotes, inductionHypothesis]
  | case4 first text _ _ inductionHypothesis =>
      simp only [hashesBehindQuotes, inductionHypothesis, leadingHashes_reindented]

end Literals

/-- A fence consists of hashes. -/
theorem toList_repeated_hash (count : Nat) :
    (Text.repeated "#" count).toList = List.replicate count '#' :=
  Text.toList_repeated rfl count

/-- The hashes around the literal of a text that spans lines. -/
def fence (text : String) : List Char :=
  List.replicate (hashesBehindQuotes text.toList + 1) '#'

/-- A text that spans lines stands in its literal as it is. -/
theorem toList_stringLiteral {text : String} (lines : '\n' ∈ text.toList) :
    (stringLiteral text).toList =
      'r' :: fence text ++ ['"'] ++ text.toList ++ '"' :: fence text := by
  rw [stringLiteral, if_pos (by simpa using lines)]
  simp [toList_repeated_hash, fence]

/-- A character that is no digit is not among the digits of a number. -/
theorem notMem_toDigits {c : Char} (noDigit : ∀ digit : Nat, digit.digitChar ≠ c) (number : Nat) :
    c ∉ Nat.toDigits 16 number := by
  induction number using Nat.strongRecOn with
  | ind number inductionHypothesis =>
      rw [Nat.toDigits_eq_if (by decide)]
      split
      · simp [(noDigit _).symm]
      · have others := inductionHypothesis (number / 16) (by omega)
        simp [(noDigit _).symm, others]

/-- A quoted text is one line. -/
theorem newline_notMem_quoted (text : String) : '\n' ∉ (Text.quoted text).toList := by
  have noNewline (c : Char) : '\n' ∉ Text.quotedCharacter c := by
    by_cases isNewline : c = '\n'
    · subst isNewline
      decide
    · have noDigits := notMem_toDigits (fun _ => Nat.digitChar_ne '\n' rfl) c.toNat
      unfold Text.quotedCharacter
      split_ifs <;> simp [noDigits, Ne.symm isNewline]
  simp [Text.quoted, noNewline]

/-- The literal of a text has several lines exactly if the text has. -/
theorem newline_mem_stringLiteral_iff (text : String) :
    '\n' ∈ (stringLiteral text).toList ↔ '\n' ∈ text.toList := by
  by_cases lines : '\n' ∈ text.toList
  · simp [toList_stringLiteral lines, lines]
  · rw [stringLiteral, if_neg (by simpa using lines)]
    simp [newline_notMem_quoted, lines]

/-- A statement as it stands in the body of a method, after that was laid out. -/
def embedded (sql : String) : String :=
  String.ofList (reindented (indentation 2).toList sql.toList)

/-- Moving the lines of a literal moves those of its text, and nothing else. -/
theorem toList_stringLiteral_embedded (sql : String) :
    (stringLiteral (embedded sql)).toList =
      reindented (indentation 2).toList (stringLiteral sql).toList := by
  generalize isIndent : (indentation 2).toList = indent
  by_cases lines : '\n' ∈ sql.toList
  · have text : (embedded sql).toList = reindented indent sql.toList := by
      simp [embedded, isIndent]
    have stillLines : '\n' ∈ (embedded sql).toList := by
      rw [text]
      have kept := count_le_count_reindented indent (c := '\n') (by decide) sql.toList
      exact List.count_pos_iff.1 (Nat.lt_of_lt_of_le (List.count_pos_iff.2 lines) kept)
    have sameFence : fence (embedded sql) = fence sql := by
      rw [fence, fence, text, hashesBehindQuotes_reindented]
      rw [← isIndent]
      decide
    have before : ∀ c ∈ 'r' :: fence sql ++ ['"'], c ≠ '\n' ∧ c ≠ '\r' := by
      simp [fence]
    have behind : '\n' ∉ '"' :: fence sql := by simp [fence]
    -- Around the text, the literal has no newline that could move anything.
    rw [toList_stringLiteral stillLines, toList_stringLiteral lines, sameFence, text,
      reindented_append indent (by decide) (by decide), append_reindented indent before,
      reindented_of_free indent behind]
  · have same : embedded sql = sql := by
      rw [embedded, isIndent, reindented_of_free indent lines, String.ofList_toList]
    rw [same, reindented_of_free indent (mt (newline_mem_stringLiteral_iff sql).1 lines)]

/-- The literal of a statement stays as it is exactly if the statement is one line. -/
theorem stringLiteral_embedded_eq_iff (sql : String) :
    stringLiteral (embedded sql) = stringLiteral sql ↔ '\n' ∉ sql.toList := by
  rw [← String.toList_inj, toList_stringLiteral_embedded,
    reindented_eq_iff (c := ' ') _ (by decide) (by decide), newline_mem_stringLiteral_iff]

/-! ## Bodies in declarations -/

/-- Every piece of code ends its line. -/
theorem Code.toList_write (level : Nat) (code : Code) :
    ∃ front, (code.write level).toList = front ++ ['\n'] := by
  cases code with
  | line text => exact ⟨(indentation level ++ text).toList, by simp [Code.write]⟩
  | blank => exact ⟨[], by simp [Code.write]⟩
  | block head body tail =>
      exact ⟨(indentation level ++ head ++ " \x7b\n" ++ writeAll (level + 1) body ++
        indentation level ++ "\x7d" ++ tail).toList, by simp [Code.write]⟩

/-- Code is laid out anew piece by piece. -/
theorem relaid_writeAll (indent : List Char) (level : Nat) (code : List Code) :
    relaid indent (writeAll level code).toList =
      code.flatMap fun piece => relaid indent (piece.write level).toList := by
  induction code with
  | nil => rfl
  | cons piece code inductionHypothesis =>
      obtain ⟨front, text⟩ := piece.toList_write level
      rw [List.flatMap_cons, ← inductionHypothesis, text, writeAll, String.toList_append, text,
        List.append_assoc, List.singleton_append, relaid_append]

/-- Lines are written one by one at their level, and empty ones without it. -/
theorem toList_writeAll_lines (level : Nat) (texts : List String) :
    (writeAll level (texts.map fun text => if text.isEmpty then .blank else .line text)).toList =
      (texts.map String.toList).flatMap (laidOut (indentation level).toList) := by
  induction texts with
  | nil => rfl
  | cons text texts inductionHypothesis =>
      rw [List.map_cons, writeAll, String.toList_append, inductionHypothesis, List.map_cons,
        List.flatMap_cons]
      by_cases empty : text = ""
      · simp [empty, Code.write, laidOut]
      · simp [empty, Code.write, laidOut]

/-- What is in a block stands in the text that starts with the block. -/
theorem isInfix_writeAll_block (level : Nat) (head tail : String) (body rest : List Code) :
    (writeAll (level + 1) body).toList <:+:
      (writeAll level (.block head body tail :: rest)).toList :=
  ⟨(indentation level ++ head ++ " \x7b\n").toList,
    (indentation level ++ "\x7d" ++ tail ++ "\n" ++ writeAll level rest).toList,
    by simp [writeAll, Code.write]⟩

/-- A body stands in its declaration with its lines laid out anew. -/
theorem relaid_isInfix_declarationText (receiver signature body : String) :
    relaid (indentation 2).toList body.toList <:+:
      (declarationText receiver signature body).toList := by
  have lines : relaid (indentation 2).toList body.toList = (writeAll 2 ((Text.lines body).map
      fun text => if text.isEmpty then .blank else .line text)).toList := by
    rw [toList_writeAll_lines, Text.lines, List.map_map]
    simp [relaid]
  rw [lines]
  exact (isInfix_writeAll_block 1 signature "" _ []).trans
    (isInfix_writeAll_block 0 ("impl<E: Executor> " ++ receiver ++ "<E>") "" _ [.blank])

/-! ## Constants -/

/-- The text constants that a method declares: its statement, and its lookup if it has one. -/
def Method.constants (method : Method) : List (String × String) :=
  ("SQL", method.sql) ::
    ((method.readBack.bind (·.lookup)).map fun lookup => ("LOOKUP", lookup.sql)).toList

/-- A method has a constant for its statement and one for its lookup, and no others. -/
theorem name_mem_of_constants {method : Method} {entry : String × String}
    (member : entry ∈ method.constants) : entry.1 ∈ ["SQL", "LOOKUP"] := by
  rcases List.mem_cons.1 member with rfl | isLookup
  · simp
  · obtain ⟨lookup, -, rfl⟩ := Option.map_eq_some_iff.1 (Option.mem_toList.1 isLookup)
    simp

/-- Only updates look a row up. -/
theorem Performs.isUpdate_of_lookup {dialect : Sql.Dialect} {plan : Plan} {task : Task}
    {method : Method} (performs : Performs dialect plan task method) {readBack : ReadBack}
    {lookup : Lookup} (isRead : method.readBack = some readBack)
    (looksUp : readBack.lookup = some lookup) : method.kind = .update := by
  have reading := performs.reading
  rw [isRead] at reading
  cases task with
  | insert query =>
      obtain ⟨name, -, rfl⟩ := Option.map_eq_some_iff.1 (Except.ok.inj reading)
      cases looksUp
  | update query => exact performs.kind
  | _ => cases reading

/-- The body of a method declares its text constants. -/
theorem Performs.textConstant_mem {dialect : Sql.Dialect} {plan : Plan} {task : Task}
    {method : Method} (performs : Performs dialect plan task method) {entry : String × String}
    (member : entry ∈ method.constants) : textConstant entry.1 entry.2 ∈ bodyCode method := by
  rcases List.mem_cons.1 member with rfl | isLookup
  · unfold bodyCode
    dsimp only
    split <;> simp
  · obtain ⟨lookup, found, rfl⟩ := Option.map_eq_some_iff.1 (Option.mem_toList.1 isLookup)
    obtain ⟨readBack, isRead, looksUp⟩ := Option.bind_eq_some_iff.1 found
    unfold bodyCode
    rw [performs.isUpdate_of_lookup isRead looksUp, isRead]
    simp [looksUp, lookupCode]

/-- The declaration of a text constant, given its literal. -/
def constantDeclaration (name literal : String) : String :=
  "const " ++ name ++ ": &str = " ++ literal ++ ";\n"

/-- A text constant is declared with the lines of its literal moved. -/
theorem relaid_textConstant {name : String} (named : name ∈ ["SQL", "LOOKUP"]) (sql : String) :
    relaid (indentation 2).toList ((textConstant name sql).write 0).toList =
      (indentation 2).toList ++
        (constantDeclaration name (stringLiteral (embedded sql))).toList := by
  generalize isFront : ("const " ++ name ++ ": &str = ").toList = front
  have plain : ∀ c ∈ front, c ≠ '\n' ∧ c ≠ '\r' := by
    have both : ∀ name ∈ ["SQL", "LOOKUP"], ("const " ++ name ++ ": &str = ").toList.all
        (fun c => c ≠ '\n' ∧ c ≠ '\r') = true := by decide
    have checked := both name named
    rw [isFront, List.all_eq_true] at checked
    exact fun c member => of_decide_eq_true (checked c member)
  have written : ((textConstant name sql).write 0).toList =
      (front ++ (stringLiteral sql).toList ++ [';']) ++ ['\n'] := by
    simp [textConstant, Code.write, ← isFront, indentation, Text.repeated]
  have starts : opening (indentation 2).toList
      ((front ++ (stringLiteral sql).toList ++ [';']) ++ ['\n']) = (indentation 2).toList := by
    simp [← isFront, opening, startsEmpty]
  have ending : reindented (indentation 2).toList [';', '\n'] =
      [';', '\n'] ++ (indentation 2).toList := by
    simp [reindented, opening, startsEmpty]
  have anew := relaid_append_indent (indentation 2).toList
    (front ++ (stringLiteral sql).toList ++ [';'])
  rw [starts, List.append_assoc _ [';'], List.singleton_append,
    reindented_append _ (by decide) (by decide), append_reindented _ plain,
    ← toList_stringLiteral_embedded, ending, ← List.append_assoc, ← List.append_assoc] at anew
  -- What would stand before a next line is on both sides.
  have same := List.append_cancel_right anew
  rw [written, List.append_assoc _ [';'], List.singleton_append, same]
  simp [constantDeclaration, ← isFront]

/-- The declaration of a method declares its text constants, each with its lines moved. -/
theorem Performs.isInfix_declarationText {dialect : Sql.Dialect} {plan : Plan} {task : Task}
    {method : Method} (performs : Performs dialect plan task method) {entry : String × String}
    (member : entry ∈ method.constants) (receiver signature : String) :
    (constantDeclaration entry.1 (stringLiteral (embedded entry.2))).toList <:+:
      (declarationText receiver signature (writeAll 0 (bodyCode method))).toList := by
  have moved := relaid_textConstant (name_mem_of_constants member) entry.2
  obtain ⟨before, after, body⟩ := List.append_of_mem (performs.textConstant_mem member)
  have inBody : (constantDeclaration entry.1 (stringLiteral (embedded entry.2))).toList <:+:
      relaid (indentation 2).toList (writeAll 0 (bodyCode method)).toList := by
    rw [relaid_writeAll, body, List.flatMap_append, List.flatMap_cons, moved, ← List.append_assoc,
      ← List.append_assoc]
    exact List.infix_append _ _ _
  exact inBody.trans (relaid_isInfix_declarationText receiver signature _)

/-- Every method can be written, and declares its statement and its lookup with their lines moved to
the right. That leaves a literal as it is exactly if it is of one line, so a declaration has the
literals of such statements in it as they are. -/
theorem declarations_hold_statements {dialect : Sql.Dialect} {plan : Plan} {found : List Method}
    (made : methods dialect plan = .ok found) :
    ∀ method ∈ found, ∃ text,
      OwnedMethod.text ⟨receiverName dialect.name, method⟩ = .ok text ∧
      ∀ entry ∈ method.constants,
        (constantDeclaration entry.1 (stringLiteral (embedded entry.2))).toList <:+: text.toList ∧
        (stringLiteral (embedded entry.2) = stringLiteral entry.2 ↔ '\n' ∉ entry.2.toList) ∧
        ('\n' ∉ entry.2.toList → (stringLiteral entry.2).toList <:+: text.toList) := by
  intro method member
  obtain ⟨task, -, performs⟩ := exists_zip_of_mem_right (methods_perform made) member
  refine ⟨_, by rw [OwnedMethod.text, performs.bodyText_eq]; rfl, fun entry isConstant => ?_⟩
  have declared := performs.isInfix_declarationText isConstant (receiverName dialect.name)
    (signatureText method)
  have same := stringLiteral_embedded_eq_iff entry.2
  refine ⟨declared, same, fun oneLine => ?_⟩
  rw [same.2 oneLine] at declared
  refine List.IsInfix.trans ?_ declared
  rw [constantDeclaration, String.toList_append, String.toList_append]
  exact List.infix_append _ _ _

/-- The update of the roster declares its statement and its lookup, both as they are. -/
theorem rosterPlan_update_declared :
    compile rosterSource = .ok rosterPlan ∧
    ∃ found, methods Sql.sqlite3 rosterPlan = .ok found ∧
      ∃ method ∈ found, method.constants =
          [("SQL", "UPDATE team SET name = ? WHERE team.name = ?"),
            ("LOOKUP", "SELECT _rowid_ FROM team WHERE team.name = ?")] ∧
        ∃ text, OwnedMethod.text ⟨receiverName "sqlite3", method⟩ = .ok text ∧
          ∀ entry ∈ method.constants, (stringLiteral entry.2).toList <:+: text.toList := by
  refine ⟨compile_rosterSource, ?_⟩
  obtain ⟨found, made⟩ := exists_methods Sql.sqlite3 rosterPlan (by decide)
  obtain ⟨method, member, performs⟩ := exists_method_of_update made (List.mem_singleton_self _)
  obtain ⟨readBack, lookup, isRead, -, looksUp, finds⟩ :=
    readBack_of_update rfl made (by decide) performs
  have constants : method.constants =
      [("SQL", "UPDATE team SET name = ? WHERE team.name = ?"),
        ("LOOKUP", "SELECT _rowid_ FROM team WHERE team.name = ?")] := by
    obtain ⟨statement, isStatement, sameText, -⟩ := performs.statement
    obtain ⟨search, isSearch, sameSearch, -⟩ := finds.statement
    cases isStatement
    cases isSearch
    simp only [Method.constants, isRead, looksUp, Option.bind_some, Option.map_some,
      Option.toList_some, sameText, sameSearch]
    decide
  obtain ⟨text, written, declares⟩ := declarations_hold_statements made method member
  refine ⟨found, made, method, member, constants, text, written, fun entry isConstant => ?_⟩
  have oneLine : ∀ entry ∈ method.constants, '\n' ∉ entry.2.toList := by
    rw [constants]
    decide
  exact (declares entry isConstant).2.2 (oneLine entry isConstant)

/-- A schema that deletes notes by a text of two lines. -/
def noteSource : String :=
  "model note ( field id int autoincrement, field body text )
delete note ( where note.body = \"a\\nb\" )
"

/-- The plan of the schema. -/
def notePlan : Plan where
  models := [
    ⟨"note", "note", [
      ⟨{ autoincrement := true }, "id", "id", .int, none, none, ⟨1, 20, 19⟩⟩,
      ⟨{}, "body", "body", .text, none, none, ⟨1, 48, 47⟩⟩],
      [0], [], ⟨1, 1, 0⟩⟩]
  deletes := [⟨0, [], [⟨⟨0, 1⟩, .eq, .literal (.text "a\nb")⟩], .many, ⟨2, 1, 59⟩⟩]

/-- The only method of the schema. -/
def noteMethod : Method where
  kind := .deleteAll
  name := "delete_note_by_note_body_a_b"
  exported := true
  arguments := []
  sql := "DELETE FROM note WHERE note.body = 'a\nb'"
  binds := []
  returns := "u64"
  row := none
  readBack := none

/-- The plan of the source with notes. -/
theorem compile_noteSource : compile noteSource = .ok notePlan := by
  apply eq_ok_of_toOption
  unfold noteSource
  rw [compile_ofList]
  decide +kernel

/-- The declaration of the method. -/
def noteText : String :=
  "impl<E: Executor> Sqlite3Db<E> \x7b
    pub fn delete_note_by_note_body_a_b(&mut self) -> Result<u64> \x7b
        const SQL: &str = r#\"DELETE FROM note WHERE note.body = 'a
        b'\"#;
        self.exec.execute(SQL, vec![])
    \x7d
\x7d

"

/-- Notes are deleted by another text than the one that was asked for: eight spaces come to stand
before its second line. -/
theorem notePlan_statement_moved :
    compile noteSource = .ok notePlan ∧ methods Sql.sqlite3 notePlan = .ok [noteMethod] ∧
    OwnedMethod.text ⟨receiverName "sqlite3", noteMethod⟩ = .ok noteText ∧
    ¬(stringLiteral noteMethod.sql).toList <:+: noteText.toList := by
  refine ⟨compile_noteSource, ?_, ?_, ?_⟩
  · apply eq_ok_of_toOption
    decide +kernel
  · apply eq_ok_of_toOption
    decide +kernel
  · have literal : stringLiteral noteMethod.sql =
        "r#\"DELETE FROM note WHERE note.body = 'a\nb'\"#" := by decide +kernel
    unfold noteText
    rw [literal, String.toList_ofList, String.toList_ofList]
    decide +kernel

end Schemata.Access
