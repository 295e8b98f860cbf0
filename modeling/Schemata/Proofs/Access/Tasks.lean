import Schemata.Proofs.Access.Naming
import Schemata.Proofs.Access.RowTypes
import Schemata.Proofs.Outcome

/-!
# What the methods of a plan are for

Every method performs one task: it runs the statement of a query, or it reads a written row back.
The tasks of a plan stand in the order in which its methods are written, and a method is what its
task asks for (`methods_perform`), so that a rule for all methods of a plan is proved of one method
and its task. Methods cannot be made exactly where a plan writes rows that a dialect can neither
return nor read back (`methods_outcome`).
-/

namespace Schemata.Access

open Sql (Dialect DialectError Statement)

/-! ## Tasks -/

/-- What one method is for. -/
inductive Task where
  | insert (query : Insert)
  /-- All rows of a select. -/
  | rows (query : Select)
  /-- The next page of a select. -/
  | page (query : Select) (paging : Paging)
  | count (query : Count)
  | has (query : Count)
  | update (query : Update)
  | delete (query : Delete)
  /-- The row of a model that was written last. -/
  | readBack (model : ModelId)

namespace Task

/-- The statement of a task; only reading back can be beyond a dialect. -/
def statement (dialect : Dialect) (catalog : Catalog) : Task → Except DialectError Statement
  | insert query => .ok (Sql.insertStatement dialect catalog query)
  | rows query => .ok (Sql.selectAll dialect catalog query)
  | page query paging => .ok (Sql.selectPage dialect catalog query paging)
  | count query => .ok (Sql.countStatement dialect catalog query)
  | has query => .ok (Sql.hasStatement dialect catalog query)
  | update query => .ok (Sql.updateStatement dialect catalog query)
  | delete query => .ok (Sql.deleteStatement dialect catalog query)
  | readBack model => Sql.getLastStatement dialect catalog model

/-- What kind of method performs a task. -/
def kind : Task → MethodKind
  | insert _ => .insert
  | rows query => if query.cardinality = .one then .selectOne else .selectAll
  | page _ _ => .selectPage
  | count _ => .count
  | has _ => .has
  | update _ => .update
  | delete query => if query.cardinality = .one then .deleteOne else .deleteAll
  | readBack _ => .getLast

/-- How the row that a task writes is read back, if it is. -/
def reading (dialect : Dialect) (plan : Plan) : Task → Except DialectError (Option ReadBack)
  | insert query => .ok (readBack? (getLastNames dialect plan) query.model)
  | update query => updateReadBack dialect plan (getLastNames dialect plan) query
      (Sql.updateStatement dialect plan.toCatalog query)
  | _ => .ok none

/-- Only inserts are of their kind. -/
theorem eq_insert_of_kind {task : Task} (isInsert : task.kind = .insert) :
    ∃ query, task = .insert query := by
  cases task <;> grind [kind]

/-- Only updates are of their kind. -/
theorem eq_update_of_kind {task : Task} (isUpdate : task.kind = .update) :
    ∃ query, task = .update query := by
  cases task <;> grind [kind]

end Task

/-- The tasks of a select: a select of many rows may have pages. -/
def selectTasks (query : Select) : List Task :=
  .rows query ::
    if query.cardinality = .one then [] else (query.paging.map (.page query)).toList

/-- The tasks of the queries of a plan. -/
def queryTasks (plan : Plan) : List Task :=
  plan.inserts.map .insert ++ plan.selects.flatMap selectTasks ++
    plan.counts.flatMap (fun query => [.count query, .has query]) ++
    plan.updates.map .update ++ plan.deletes.map .delete

/-- The models whose rows a dialect reads back. -/
def readBackModels (dialect : Dialect) (plan : Plan) : List ModelId :=
  if dialect.returning then [] else plan.returningTargets

/-- A dialect that returns no rows has to read all of them back. -/
theorem readBackModels_of_keeps {dialect : Dialect} (keeps : dialect.returning = false)
    (plan : Plan) : readBackModels dialect plan = plan.returningTargets := by
  simp [readBackModels, keeps]

/-- All tasks of a plan in a dialect, in the order in which methods are written. -/
def tasks (dialect : Dialect) (plan : Plan) : List Task :=
  queryTasks plan ++ (readBackModels dialect plan).map .readBack

/-! ## Methods and their tasks -/

/-- A method performs a task: it runs the statement of the task with an argument per parameter. -/
structure Performs (dialect : Dialect) (plan : Plan) (task : Task) (method : Method) : Prop where
  kind : method.kind = task.kind
  statement : ∃ statement, task.statement dialect plan.toCatalog = .ok statement ∧
    method.sql = statement.sql ∧ method.arguments = argumentsFor plan.toCatalog statement.params
  binds : method.binds = method.arguments.map (·.name)
  row : method.kind.readsRow = true → method.row.isSome = true
  reading : task.reading dialect plan = .ok method.readBack

section

variable {dialect : Dialect} {plan : Plan}

/-- What a method is called has nothing to do with its task. -/
theorem Performs.rename {task : Task} {method : Method}
    (performs : Performs dialect plan task method) (name : String) :
    Performs dialect plan task { method with name } :=
  ⟨performs.kind, performs.statement, performs.binds, performs.row, performs.reading⟩

/-- A method that is made for the statement of a task performs it. -/
theorem methodFor_performs {task : Task} {kind : MethodKind} {statement : Statement}
    {row : Option RowType} {readBack : Option ReadBack} (sameKind : kind = task.kind)
    (made : task.statement dialect plan.toCatalog = .ok statement)
    (reading : task.reading dialect plan = .ok readBack)
    (read : kind.readsRow = true → row.isSome = true) (name returns : String) :
    Performs dialect plan task
      (methodFor plan.toCatalog kind name statement returns row readBack) :=
  ⟨sameKind, ⟨statement, made, rfl, rfl⟩, rfl, read, reading⟩

/-- The method of an insert performs it. -/
theorem insertMethod_performs (query : Insert) :
    Performs dialect plan (.insert query)
      (insertMethod dialect plan (getLastNames dialect plan) query) :=
  methodFor_performs rfl rfl rfl (fun _ => rfl) _ _

/-- The methods of a select perform its tasks, in order. -/
theorem selectMethods_perform (query : Select) :
    List.Forall₂ (Performs dialect plan) (selectTasks query)
      (selectMethods dialect plan query) := by
  unfold selectTasks selectMethods
  cases count : query.cardinality with
  | one =>
      exact .cons (methodFor_performs (by simp [Task.kind, count]) rfl rfl (fun _ => rfl) _ _) .nil
  | many =>
      refine .cons (methodFor_performs (by simp [Task.kind, count]) rfl rfl (fun _ => rfl) _ _) ?_
      rw [if_neg (by decide), Sql.selectPage?]
      cases query.paging with
      | none => exact .nil
      | some paging => exact .cons (methodFor_performs rfl rfl rfl (fun _ => rfl) _ _) .nil

/-- The methods of a count perform it, and ask whether there are rows at all. -/
theorem countMethods_perform (query : Count) :
    List.Forall₂ (Performs dialect plan) [.count query, .has query]
      (countMethods dialect plan query) :=
  .cons (methodFor_performs rfl rfl rfl (fun _ => rfl) _ _)
    (.cons (methodFor_performs rfl rfl rfl (fun _ => rfl) _ _) .nil)

/-- The method of an update performs it, where there is one. -/
theorem updateMethod_performs {query : Update} {method : Method}
    (made : updateMethod dialect plan (getLastNames dialect plan) query = .ok method) :
    Performs dialect plan (.update query) method := by
  obtain ⟨readBack, reading, rfl⟩ := map_eq_ok_iff.1 made
  refine methodFor_performs rfl rfl ?_ (fun _ => rfl) _ _
  exact reading

/-- The method of a delete performs it. -/
theorem deleteMethod_performs (query : Delete) :
    Performs dialect plan (.delete query) (deleteMethod dialect plan query) := by
  unfold deleteMethod
  cases count : query.cardinality with
  | one => exact methodFor_performs (by simp [Task.kind, count]) rfl rfl (by decide) _ _
  | many => exact methodFor_performs (by simp [Task.kind, count]) rfl rfl (by decide) _ _

/-- The method that reads a row back does so under the name that it is given. -/
theorem getLastMethod_performs {model : ModelId} {name : String} {method : Method}
    (made : getLastMethod dialect plan model name = .ok method) :
    Performs dialect plan (.readBack model) method ∧ method.name = name := by
  obtain ⟨statement, rendered, rfl⟩ := map_eq_ok_iff.1 made
  refine ⟨methodFor_performs rfl ?_ rfl (fun _ => rfl) _ _, rfl⟩
  exact rendered

/-- An update whose row is read back looks it up first, by its own conditions. -/
theorem updateReadBack_eq_some {names : GetLastNames} {query : Update} {statement : Statement}
    {readBack : ReadBack}
    (reading : updateReadBack dialect plan names query statement = .ok (some readBack)) :
    ∃ name lookup, names.lookup query.model = some name ∧
      Sql.rowLookupStatement dialect plan.toCatalog query = .ok lookup ∧
      readBack = ⟨some ⟨lookup.sql, filterNames plan.toCatalog statement.params⟩, name⟩ := by
  unfold updateReadBack at reading
  split at reading
  · cases reading
  · next bare isBare =>
    obtain ⟨name, named, rfl⟩ := Option.map_eq_some_iff.1 isBare
    obtain ⟨lookup, rendered, equal⟩ := map_eq_ok_iff.1 reading
    cases equal
    exact ⟨name, lookup, named, rendered, rfl⟩

/-! ## All methods of a plan -/

/-- Names for the methods that read rows back are given to the models that a dialect reads back. -/
theorem map_fst_getLastNames (dialect : Dialect) (plan : Plan) :
    (getLastNames dialect plan).map Prod.fst = readBackModels dialect plan := by
  unfold getLastNames readBackModels
  split
  · rfl
  · rw [List.map_fst_zip]
    simp [length_claimNames]

section Walks

variable {Query Item : Type} {IsFor : Task → Item → Prop}

/-- Queries that each have a task, and one thing that is written for it. -/
theorem forall₂_map_map {task : Query → Task} {write : Query → Item}
    (isFor : ∀ query, IsFor (task query) (write query)) (queries : List Query) :
    List.Forall₂ IsFor (queries.map task) (queries.map write) := by
  rw [List.forall₂_map_left_iff, List.forall₂_map_right_iff, List.forall₂_same]
  exact fun query _ => isFor query

/-- Queries that each have several tasks, and as many things that are written for them. -/
theorem forall₂_flatMap_flatMap {tasks : Query → List Task} {write : Query → List Item}
    {queries : List Query}
    (areFor : ∀ query ∈ queries, List.Forall₂ IsFor (tasks query) (write query)) :
    List.Forall₂ IsFor (queries.flatMap tasks) (queries.flatMap write) := by
  have same : List.Forall₂ (fun query other => query = other ∧ query ∈ queries) queries queries :=
    List.forall₂_same.2 fun _ member => ⟨rfl, member⟩
  refine List.rel_flatMap same ?_
  rintro query _ ⟨rfl, member⟩
  exact areFor query member

/-- What is written for every query of a plan stands in the order of the tasks. -/
theorem forall₂_queryTasks
    {insert : Insert → Item} {select : Select → List Item} {count : Count → List Item}
    {updates : List Item} {delete : Delete → Item}
    (inserts : ∀ query, IsFor (.insert query) (insert query))
    (selects : ∀ query ∈ plan.selects, List.Forall₂ IsFor (selectTasks query) (select query))
    (counts : ∀ query, List.Forall₂ IsFor [.count query, .has query] (count query))
    (updated : List.Forall₂ (fun query written => IsFor (.update query) written)
      plan.updates updates)
    (deletes : ∀ query, IsFor (.delete query) (delete query)) :
    List.Forall₂ IsFor (queryTasks plan)
      (plan.inserts.map insert ++ plan.selects.flatMap select ++ plan.counts.flatMap count ++
        updates ++ plan.deletes.map delete) := by
  have insertsWritten := forall₂_map_map inserts plan.inserts
  have selectsWritten := forall₂_flatMap_flatMap selects
  have countsWritten := forall₂_flatMap_flatMap fun query (_ : query ∈ plan.counts) => counts query
  have updatesWritten := List.forall₂_map_left_iff.2 updated
  have deletesWritten := forall₂_map_map deletes plan.deletes
  exact List.rel_append (List.rel_append (List.rel_append (List.rel_append insertsWritten
    selectsWritten) countsWritten) updatesWritten) deletesWritten

end Walks

/-- The methods of all queries perform the tasks of all queries, before they are named. -/
theorem draftMethods_perform {drafts : List Method}
    (made : draftMethods dialect plan (getLastNames dialect plan) = .ok drafts) :
    List.Forall₂ (Performs dialect plan) (queryTasks plan) drafts := by
  obtain ⟨updates, updatesMade, equal⟩ := of_bind_eq_ok made
  cases equal
  exact forall₂_queryTasks insertMethod_performs (fun query _ => selectMethods_perform query)
    countMethods_perform ((mapM_eq_ok_iff.1 updatesMade).imp fun _ _ => updateMethod_performs)
    deleteMethod_performs

/-- Methods that were named perform what they did before. -/
theorem nameMethods_perform {tasks : List Task} {drafts : List Method} (used : List String)
    (perform : List.Forall₂ (Performs dialect plan) tasks drafts) :
    List.Forall₂ (Performs dialect plan) tasks (nameMethods used drafts) := by
  have named := length_claimNames used (drafts.map (·.name))
  rw [List.length_map] at named
  unfold nameMethods
  generalize claimNames used (drafts.map (·.name)) = names at named
  induction perform generalizing names with
  | nil => rw [List.zipWith_nil_right]; exact .nil
  | cons first others inductionHypothesis =>
      cases names with
      | nil => simp at named
      | cons name names =>
          exact .cons (first.rename name) (inductionHypothesis names (Nat.succ.inj named))

/-- Methods have the names that were handed out for them. -/
theorem map_name_nameMethods (used : List String) (drafts : List Method) :
    (nameMethods used drafts).map (·.name) = claimNames used (drafts.map (·.name)) :=
  map_zipWith_names (fun _ _ => rfl) (by simp [length_claimNames])

/-- The methods of a plan are those of its queries, and then those that read rows back. -/
theorem methods_eq_ok {found : List Method} (made : methods dialect plan = .ok found) :
    ∃ queries readers, found = queries ++ readers ∧
      List.Forall₂ (Performs dialect plan) (queryTasks plan) queries ∧
      List.Forall₂ (fun entry reader => Performs dialect plan (.readBack entry.1) reader ∧
        reader.name = entry.2) (getLastNames dialect plan) readers ∧
      ∃ bases, queries.map (·.name) =
        claimNames ((getLastNames dialect plan).map Prod.snd) bases := by
  obtain ⟨drafts, draftsMade, rest⟩ := of_bind_eq_ok made
  obtain ⟨readers, readersMade, equal⟩ := of_bind_eq_ok rest
  cases equal
  refine ⟨_, readers, rfl, nameMethods_perform _ (draftMethods_perform draftsMade), ?_,
    drafts.map (·.name), map_name_nameMethods _ _⟩
  exact (mapM_eq_ok_iff.1 readersMade).imp fun _ _ => getLastMethod_performs

/-- Every method of a plan performs a task, one after the other. -/
theorem methods_perform {found : List Method} (made : methods dialect plan = .ok found) :
    List.Forall₂ (Performs dialect plan) (tasks dialect plan) found := by
  obtain ⟨queries, readers, rfl, queriesPerform, readersPerform, -⟩ := methods_eq_ok made
  refine List.rel_append queriesPerform ?_
  rw [← map_fst_getLastNames, List.map_map, List.forall₂_map_left_iff]
  exact readersPerform.imp fun _ _ performs => performs.1

/-- Every update of a plan has its method. -/
theorem exists_method_of_update {found : List Method} (made : methods dialect plan = .ok found)
    {query : Update} (member : query ∈ plan.updates) :
    ∃ method ∈ found, Performs dialect plan (.update query) method := by
  have isTask : Task.update query ∈ tasks dialect plan := by
    simpa [tasks, queryTasks, selectTasks] using member
  obtain ⟨method, paired, performs⟩ := exists_zip_of_mem_left (methods_perform made) isTask
  exact ⟨method, (List.of_mem_zip paired).2, performs⟩

end

/-! ## Rows that are lost -/

/-- A plan writes rows that a dialect can neither return nor read back. -/
def LosesRows (dialect : Dialect) (plan : Plan) : Prop :=
  dialect.returning = false ∧ (dialect.lastInsertId = false ∨ dialect.rowIdentity = none) ∧
    plan.returningTargets ≠ []

instance (dialect : Dialect) (plan : Plan) : Decidable (LosesRows dialect plan) :=
  inferInstanceAs (Decidable (_ ∧ _ ∧ _))

/-- Why a dialect cannot read the rows of a plan back: it names a model whose rows it should. -/
def CannotReadBack (dialect : Dialect) (plan : Plan) (error : DialectError) : Prop :=
  dialect.readBackColumn? = none ∧ ∃ model ∈ readBackModels dialect plan,
    error = .noFallback dialect.name (plan.model model).name

section

variable {dialect : Dialect} {plan : Plan}

/-- A dialect has no column to read rows back by if it lacks the last identity or its column. -/
theorem readBackColumn?_eq_none :
    dialect.readBackColumn? = none ↔
      dialect.lastInsertId = false ∨ dialect.rowIdentity = none := by
  unfold Dialect.readBackColumn?
  cases dialect.lastInsertId <;> simp

/-- There are rows to read back if the plan returns some and the dialect does not. -/
theorem readBackModels_ne_nil :
    readBackModels dialect plan ≠ [] ↔
      dialect.returning = false ∧ plan.returningTargets ≠ [] := by
  unfold readBackModels
  cases dialect.returning <;> simp

/-- Rows are lost exactly if some model is to be read back, but no column tells rows apart. -/
theorem losesRows_iff :
    LosesRows dialect plan ↔
      dialect.readBackColumn? = none ∧ readBackModels dialect plan ≠ [] := by
  rw [LosesRows, readBackColumn?_eq_none, readBackModels_ne_nil]
  tauto

/-- A plan whose rows cannot be read back loses them. -/
theorem CannotReadBack.losesRows {error : DialectError}
    (cannot : CannotReadBack dialect plan error) : LosesRows dialect plan := by
  obtain ⟨noColumn, model, isRead, -⟩ := cannot
  exact losesRows_iff.2 ⟨noColumn, List.ne_nil_of_mem isRead⟩

/-- What is made of the column of row identities fails only where there is no such column. -/
theorem of_readBackColumn_eq_error {Result : Type} {model : ModelId} {error : DialectError}
    {make : String → Result}
    (refused : (Sql.readBackColumn dialect plan.toCatalog model >>= fun column =>
      pure (make column)) = .error error) :
    dialect.readBackColumn? = none ∧
      error = .noFallback dialect.name (plan.model model).name := by
  obtain columnRefused | ⟨column, -, impossible⟩ := of_bind_eq_error refused
  · unfold Sql.readBackColumn at columnRefused
    split at columnRefused
    · cases columnRefused
    · next noColumn =>
      cases columnRefused
      exact ⟨noColumn, rfl⟩
  · cases impossible

/-- An update fails only if its row has to be read back and cannot. -/
theorem cannotReadBack_of_updateMethod {query : Update} {error : DialectError}
    (refused : updateMethod dialect plan (getLastNames dialect plan) query = .error error) :
    CannotReadBack dialect plan error := by
  have readBackRefused := map_eq_error_iff.1 refused
  unfold updateReadBack at readBackRefused
  cases reading : readBack? (getLastNames dialect plan) query.model with
  | none => rw [reading] at readBackRefused; cases readBackRefused
  | some readBack =>
      rw [reading] at readBackRefused
      obtain ⟨noColumn, rfl⟩ := of_readBackColumn_eq_error (map_eq_error_iff.1 readBackRefused)
      refine ⟨noColumn, query.model, ?_, rfl⟩
      obtain ⟨name, named, -⟩ := Option.map_eq_some_iff.1 reading
      obtain ⟨before, after, split, -⟩ := List.lookup_eq_some_iff.1 named
      simp [← map_fst_getLastNames, split]

/-- A row cannot be read back exactly if no column tells rows apart. -/
theorem getLastStatement_eq_error_iff {model : ModelId} {error : DialectError} :
    Sql.getLastStatement dialect plan.toCatalog model = .error error ↔
      dialect.readBackColumn? = none ∧
        error = .noFallback dialect.name (plan.model model).name := by
  constructor
  · exact of_readBackColumn_eq_error
  · rintro ⟨noColumn, rfl⟩
    rw [Sql.getLastStatement, Sql.readBackColumn, noColumn]
    rfl

/-- A model whose rows cannot be read back is one that is written. -/
theorem CannotReadBack.exists_target {error : DialectError}
    (cannot : CannotReadBack dialect plan error) :
    ∃ model ∈ plan.returningTargets,
      error = .noFallback dialect.name (plan.model model).name := by
  obtain ⟨-, model, isRead, rfl⟩ := cannot
  refine ⟨model, ?_, rfl⟩
  unfold readBackModels at isRead
  split at isRead
  · cases isRead
  · exact isRead

/-- Methods fail only if rows have to be read back and cannot. -/
theorem cannotReadBack_of_methods {error : DialectError}
    (refused : methods dialect plan = .error error) : CannotReadBack dialect plan error := by
  obtain draftsRefused | ⟨drafts, -, rest⟩ := of_bind_eq_error refused
  · obtain updatesRefused | ⟨updates, -, impossible⟩ := of_bind_eq_error draftsRefused
    · obtain ⟨-, query, -, -, -, queryRefused⟩ := exists_of_mapM_eq_error updatesRefused
      exact cannotReadBack_of_updateMethod queryRefused
    · cases impossible
  · obtain readersRefused | ⟨readers, -, impossible⟩ := of_bind_eq_error rest
    · obtain ⟨before, entry, after, split, -, readerRefused⟩ :=
        exists_of_mapM_eq_error readersRefused
      obtain ⟨noColumn, rfl⟩ :=
        getLastStatement_eq_error_iff.1 (map_eq_error_iff.1 readerRefused)
      refine ⟨noColumn, entry.1, ?_, rfl⟩
      simp [← map_fst_getLastNames, split]
    · cases impossible

/-- No rows are lost where every task has a statement. -/
theorem not_losesRows_of_statements {Item : Type} {IsFor : Task → Item → Prop}
    {written : List Item} (all : List.Forall₂ IsFor (tasks dialect plan) written)
    (stated : ∀ task item, IsFor task item →
      ∃ statement, task.statement dialect plan.toCatalog = .ok statement) :
    ¬LosesRows dialect plan := by
  intro loses
  obtain ⟨noColumn, isRead⟩ := losesRows_iff.1 loses
  obtain ⟨model, member⟩ := List.exists_mem_of_ne_nil _ isRead
  obtain ⟨item, -, isFor⟩ := exists_zip_of_mem_left all
    (List.mem_append_right _ (List.mem_map_of_mem member))
  obtain ⟨statement, rendered⟩ := stated (.readBack model) item isFor
  rw [Task.statement, getLastStatement_eq_error_iff.2 ⟨noColumn, rfl⟩] at rendered
  cases rendered

/-- A plan that has methods loses no rows. -/
theorem not_losesRows_of_methods {found : List Method} (made : methods dialect plan = .ok found) :
    ¬LosesRows dialect plan := by
  refine not_losesRows_of_statements (methods_perform made) fun task method performs => ?_
  obtain ⟨statement, rendered, -⟩ := performs.statement
  exact ⟨statement, rendered⟩

/-- Methods can be made exactly if no rows are lost. -/
theorem methods_outcome (dialect : Dialect) (plan : Plan) :
    (LosesRows dialect plan ∧ ∃ error, methods dialect plan = .error error ∧
        CannotReadBack dialect plan error) ∨
      (¬LosesRows dialect plan ∧ ∃ found, methods dialect plan = .ok found) := by
  cases made : methods dialect plan with
  | error error =>
      have cannot := cannotReadBack_of_methods made
      exact .inl ⟨cannot.losesRows, error, rfl, cannot⟩
  | ok found => exact .inr ⟨not_losesRows_of_methods made, found, rfl⟩

/-- A plan that loses no rows has methods. -/
theorem exists_methods (dialect : Dialect) (plan : Plan) (kept : ¬LosesRows dialect plan) :
    ∃ found, methods dialect plan = .ok found := by
  rcases methods_outcome dialect plan with ⟨loses, -⟩ | ⟨-, found, made⟩
  · exact absurd loses kept
  · exact ⟨found, made⟩

end

end Schemata.Access
