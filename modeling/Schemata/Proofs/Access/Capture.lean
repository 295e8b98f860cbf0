import Schemata.Proofs.Access.Consistency
import Schemata.Proofs.Access.Rendering

/-!
# Arguments that the body of a method hides

The body of an update that reads its row back introduces variables before it sends the values of
its arguments. An argument that is called as one of them is hidden: what is sent in its place is not
what the caller gave. The names of arguments are kept apart from each other, but not from these
variables, so a written field or a compared column that is called `row` or `rowid` is all it takes
(`binds_avoid_iff`).
-/

namespace Schemata.Access

open Sql (Dialect Param Statement)

/-! ## Variables of generated code -/

/-- A variable as it stands at the start of a text. -/
def leadingName (text : List Char) : String :=
  String.ofList (text.takeWhile fun c => c.isAlphanum || c = '_')

/-- The variable that a line introduces, by itself or as what `Some` holds. -/
def introducedBy (line : String) : Option String := do
  let pattern ← "let ".toList.isPrefixOf? line.toList
  match "Some(".toList.isPrefixOf? pattern with
  | some inner => leadingName inner
  | none => leadingName pattern

/-- The variable that a piece of code introduces for what follows it; those of a block end with
it. -/
def Code.introduced? : Code → Option String
  | .line text => introducedBy text
  | .blank => none
  | .block head _ _ => introducedBy head

/-- The variables that pieces of code introduce for what follows them. -/
def introducedNames (code : List Code) : List String :=
  code.filterMap Code.introduced?

/-- The argument that a name stands for after some variables were introduced, if it still stands
for one. -/
def argumentFor? (introduced : List String) (arguments : List Argument) (name : String) :
    Option Nat :=
  if name ∈ introduced then none else arguments.findIdx? fun argument => argument.name = name

/-- How a body runs the statement of its method for what it changes only. -/
def executeLine (method : Method) : Code :=
  .line ("self.exec.execute(SQL, " ++ bindList method.binds "" ++ ")?;")

/-- The constant of a text introduces no binding. -/
theorem introduced?_textConstant (name text : String) :
    (textConstant name text).introduced? = none := by
  simp [textConstant, Code.introduced?, introducedBy, List.isPrefixOf?]

/-- Looking a row up introduces the row and its identity, whatever the lookup is. -/
theorem introducedNames_lookupCode (lookup : Lookup) :
    introducedNames (lookupCode lookup) = ["row", "rowid"] := by
  have row (rest : String) (body : List Code) (tail : String) :
      (Code.block ("let Some(row) = self.exec.query(LOOKUP, " ++ rest) body tail).introduced? =
        some "row" := by
    simp [Code.introduced?, introducedBy, List.isPrefixOf?, leadingName]
  have rowid : (Code.line "let rowid = take::<i64>(&mut row.into_iter())?;").introduced? =
      some "rowid" := by decide
  rw [introducedNames, lookupCode, String.append_assoc,
    List.filterMap_cons_none (introduced?_textConstant _ _), List.filterMap_cons_some (row _ _ _),
    List.filterMap_cons_some rowid, List.filterMap_nil]

/-- An update that reads its row back sends its arguments after the row was looked up. -/
theorem bodyCode_of_update {method : Method} {readBack : ReadBack} {lookup : Lookup}
    (isUpdate : method.kind = .update) (isRead : method.readBack = some readBack)
    (looksUp : readBack.lookup = some lookup) :
    ∃ before after, bodyCode method = before ++ executeLine method :: after ∧
      introducedNames before = ["row", "rowid"] := by
  refine ⟨lookupCode lookup ++ [textConstant "SQL" method.sql],
    [.line ("self." ++ readBack.getLast ++ "(rowid).map(Some)")], ?_, ?_⟩
  · unfold bodyCode
    rw [isUpdate, isRead]
    simp [looksUp, executeLine]
  · have constant : introducedNames [textConstant "SQL" method.sql] = [] :=
      List.filterMap_cons_none (introduced?_textConstant _ _)
    have lookedUp := introducedNames_lookupCode lookup
    unfold introducedNames at constant lookedUp ⊢
    rw [List.filterMap_append, lookedUp, constant, List.append_nil]

/-! ## Names of arguments -/

/-- No field that an update writes and no column that it compares is called as a variable that
looking its row up introduces. -/
structure AvoidsVariables (plan : Plan) (query : Update) : Prop where
  written : ∀ field ∈ (plan.model query.model).updatable,
    safeName ((plan.model query.model).field field).name ∉ ["row", "rowid"]
  compared : ∀ condition ∈ query.conditions, condition.isParameter = true →
    safeName (columnName plan.toCatalog condition.left) ∉ ["row", "rowid"]

instance (plan : Plan) (query : Update) : Decidable (AvoidsVariables plan query) :=
  decidable_of_iff (_ ∧ _) ⟨fun both => ⟨both.1, both.2⟩, fun both => ⟨both.written, both.compared⟩⟩

section

variable {dialect : Dialect} {plan : Plan} {query : Update} {method : Method}

/-- An update has an argument for each parameter of its statement. -/
theorem arguments_of_update (performs : Performs dialect plan (.update query) method) :
    method.arguments = argumentsFor plan.toCatalog
      (Sql.updateStatement dialect plan.toCatalog query).params := by
  obtain ⟨statement, isStatement, -, arguments⟩ := performs.statement
  cases isStatement
  exact arguments

/-- A name without a number behind it is sent by an update exactly if a field or column is called
like that. -/
theorem mem_binds_iff (performs : Performs dialect plan (.update query) method) {name : String}
    (plain : '_' ∉ name.toList) :
    name ∈ method.binds ↔
      (∃ field ∈ (plan.model query.model).updatable,
        safeName ((plan.model query.model).field field).name = name) ∨
      ∃ condition ∈ query.conditions, condition.isParameter = true ∧
        safeName (columnName plan.toCatalog condition.left) = name := by
  rw [performs.binds, arguments_of_update performs, map_name_argumentsFor,
    (Sql.updateStatement_binds dialect plan.toCatalog query).listed, mem_claimNames_iff plain,
    List.map_append, List.mem_append]
  simp [Sql.valueParams, Sql.filterParams, paramName, Catalog.field, and_assoc]

/-- An update sends no variable of its body exactly if nothing is called like one. -/
theorem binds_avoid_iff (performs : Performs dialect plan (.update query) method) :
    (∀ name ∈ method.binds, name ∉ ["row", "rowid"]) ↔ AvoidsVariables plan query := by
  have plain : ∀ name ∈ ["row", "rowid"], '_' ∉ name.toList := by decide
  constructor
  · intro avoids
    refine ⟨fun field written called => ?_, fun condition member isParameter called => ?_⟩
    · have sent := (mem_binds_iff performs (plain _ called)).2 (.inl ⟨field, written, rfl⟩)
      exact avoids _ sent called
    · have sent := (mem_binds_iff performs (plain _ called)).2
        (.inr ⟨condition, member, isParameter, rfl⟩)
      exact avoids _ sent called
  · intro avoids name sent called
    rcases (mem_binds_iff performs (plain name called)).1 sent with
      ⟨field, written, rfl⟩ | ⟨condition, member, isParameter, rfl⟩
    · exact avoids.written field written called
    · exact avoids.compared condition member isParameter called

end

/-- Each name stands for the argument at its place, as no other argument has it. -/
theorem findIdx?_name {arguments : List Argument} (distinct : (arguments.map (·.name)).Nodup) :
    (arguments.map (·.name)).map (fun name => arguments.findIdx? (·.name = name)) =
      (List.range arguments.length).map some := by
  refine List.ext_getElem (by simp) fun place inNames inRange => ?_
  simp only [List.length_map] at inNames
  rw [List.getElem_map, List.getElem_map, List.getElem_map, List.getElem_range,
    List.findIdx?_eq_some_iff_getElem]
  refine ⟨inNames, by simp, fun other earlier => ?_⟩
  have apart := List.pairwise_iff_getElem.1 (List.pairwise_map.1 distinct) other place
    (Nat.lt_trans earlier inNames) inNames earlier
  simpa using apart

/-- All arguments are sent, each at its place, exactly if no variable hides one. -/
theorem argumentFor?_eq_iff {arguments : List Argument}
    (distinct : (arguments.map (·.name)).Nodup) (introduced : List String) :
    (arguments.map (·.name)).map (argumentFor? introduced arguments) =
        (List.range arguments.length).map some ↔
      ∀ name ∈ arguments.map (·.name), name ∉ introduced := by
  rw [← findIdx?_name distinct, List.map_inj_left]
  constructor
  · intro sent name member hidden
    have lost := sent name member
    obtain ⟨argument, isArgument, rfl⟩ := List.mem_map.1 member
    rw [argumentFor?, if_pos hidden] at lost
    simpa using List.findIdx?_eq_none_iff.1 lost.symm argument isArgument
  · intro avoids name member
    rw [argumentFor?, if_neg (avoids name member)]

/-! ## Updates -/

/-- An update that looks its row up runs its statement with the values of its arguments, in their
order, exactly if no field that it writes and no column that it compares is called `row` or
`rowid`. -/
theorem updates_send_arguments {source : String} {plan : Plan}
    (compiled : compile source = .ok plan) {dialect : Dialect} (keeps : dialect.returning = false)
    {found : List Method} (made : methods dialect plan = .ok found) :
    ∀ method ∈ found, method.kind = .update →
      ∃ query before after, (Task.update query, method) ∈ (tasks dialect plan).zip found ∧
        bodyText method = .ok (writeAll 0 (before ++ executeLine method :: after)) ∧
        introducedNames before = ["row", "rowid"] ∧
        ((∀ name ∈ method.binds, name ∉ introducedNames before) ↔ AvoidsVariables plan query) ∧
        (method.binds.map (argumentFor? (introducedNames before) method.arguments) =
          (List.range method.arguments.length).map some ↔ AvoidsVariables plan query) := by
  intro method member isUpdate
  obtain ⟨task, paired, performs⟩ := exists_zip_of_mem_right (methods_perform made) member
  obtain ⟨query, rfl⟩ := Task.eq_update_of_kind (performs.kind ▸ isUpdate)
  have isTask := (List.of_mem_zip paired).1
  have written := (mem_returningTargets compiled).2.2 query
    (by simpa [tasks, queryTasks, selectTasks] using isTask)
  obtain ⟨readBack, lookup, isRead, -, looksUp, -⟩ :=
    readBack_of_update keeps made written performs
  obtain ⟨before, after, body, introduced⟩ := bodyCode_of_update isUpdate isRead looksUp
  have avoids := binds_avoid_iff performs
  refine ⟨query, before, after, paired, ?_, introduced, ?_, ?_⟩
  · rw [performs.bodyText_eq, body]
  · rwa [introduced]
  · rw [introduced, ← avoids, performs.binds]
    exact argumentFor?_eq_iff performs.described.distinct _

/-- The update of the roster writes a name and compares one, and neither is hidden. -/
theorem rosterPlan_updates_send :
    compile rosterSource = .ok rosterPlan ∧ Sql.sqlite3.returning = false ∧
    ∃ found, methods Sql.sqlite3 rosterPlan = .ok found ∧
      ∃ method ∈ found, method.kind = .update ∧ method.binds = ["name", "team_name"] ∧
        method.binds.map (argumentFor? ["row", "rowid"] method.arguments) = [some 0, some 1] := by
  refine ⟨compile_rosterSource, rfl, ?_⟩
  obtain ⟨found, made⟩ := exists_methods Sql.sqlite3 rosterPlan (by decide)
  obtain ⟨method, member, performs⟩ := exists_method_of_update made (List.mem_singleton_self _)
  refine ⟨found, made, method, member, performs.kind, ?_, ?_⟩
  · rw [performs.binds, arguments_of_update performs]
    decide
  · obtain ⟨query, before, after, paired, -, introduced, -, sends⟩ :=
      updates_send_arguments compile_rosterSource rfl made method member performs.kind
    have isUpdate : query ∈ rosterPlan.updates := by
      simpa [tasks, queryTasks, selectTasks] using (List.of_mem_zip paired).1
    cases List.mem_singleton.1 isUpdate
    rw [introduced] at sends
    rw [sends.2 (by decide), arguments_of_update performs]
    decide

/-- A schema in which the updated field is called as a variable. -/
def rowSource : String :=
  "model note ( field id int autoincrement, field row text ( updatable ) )
update note ( where note.id = ? )
"

/-- The plan of the schema. -/
def rowPlan : Plan where
  models := [
    ⟨"note", "note", [
      ⟨{ autoincrement := true }, "id", "id", .int, none, none, ⟨1, 20, 19⟩⟩,
      ⟨{ updatable := true }, "row", "row", .text, none, none, ⟨1, 48, 47⟩⟩],
      [0], [], ⟨1, 1, 0⟩⟩]
  updates := [⟨0, [⟨⟨0, 0⟩, .eq, .placeholder⟩], ⟨2, 1, 72⟩⟩]
  returningTargets := [0]

/-- The plan of the source with rows. -/
theorem compile_rowSource : compile rowSource = .ok rowPlan := by
  apply eq_ok_of_toOption
  unfold rowSource
  rw [compile_ofList]
  decide +kernel

/-- The text that is to be written to a note is hidden by the row that was looked up. -/
theorem rowPlan_update_captured :
    compile rowSource = .ok rowPlan ∧
    ∃ found, methods Sql.sqlite3 rowPlan = .ok found ∧
      ∃ method ∈ found, method.kind = .update ∧ method.binds = ["row", "note_id"] ∧
        ∃ before after,
          bodyText method = .ok (writeAll 0 (before ++ executeLine method :: after)) ∧
          "row" ∈ introducedNames before ∧
          method.binds.map (argumentFor? (introducedNames before) method.arguments) =
            [none, some 1] := by
  refine ⟨compile_rowSource, ?_⟩
  obtain ⟨found, made⟩ := exists_methods Sql.sqlite3 rowPlan (by decide)
  obtain ⟨method, member, performs⟩ := exists_method_of_update made (List.mem_singleton_self _)
  obtain ⟨readBack, lookup, isRead, -, looksUp, -⟩ :=
    readBack_of_update rfl made (List.mem_singleton_self _) performs
  obtain ⟨before, after, body, introduced⟩ := bodyCode_of_update performs.kind isRead looksUp
  refine ⟨found, made, method, member, performs.kind, ?_, before, after, ?_, ?_, ?_⟩
  · rw [performs.binds, arguments_of_update performs]
    decide
  · rw [performs.bodyText_eq, body]
  · rw [introduced]
    decide
  · rw [introduced, performs.binds, arguments_of_update performs]
    decide

end Schemata.Access
