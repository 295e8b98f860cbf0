import Schemata.Proofs.Access.Tasks
import Schemata.Proofs.Analysis.WellFormed
import Schemata.Proofs.Sql.Placeholders

/-!
# Methods fit together

A method has an argument for each parameter of its statement. Where a dialect cannot return written
rows, every written model has one method that reads its rows, and every write names that of its own
model. An update looks its row up before it writes: by the arguments that its own conditions are
compared with, though these may have numbers behind their names that the lookup alone would not
give them.
-/

namespace Schemata.Access

open Sql (Dialect DialectError Param Statement)

/-- A method has an argument for each parameter of its task's statement, no two of one name. -/
structure Described (dialect : Dialect) (plan : Plan) (task : Task) (method : Method) : Prop where
  kind : method.kind = task.kind
  statement : ∃ statement, task.statement dialect plan.toCatalog = .ok statement ∧
    method.sql = statement.sql ∧ method.arguments.length = statement.params.length
  binds : method.binds = method.arguments.map (·.name)
  distinct : (method.arguments.map (·.name)).Nodup

/-- A row is read back by the method that reads the rows of a model. -/
def ReadBack.Names (readBack : ReadBack) (dialect : Dialect) (plan : Plan) (found : List Method)
    (model : ModelId) : Prop :=
  ∃ reader, (Task.readBack model, reader) ∈ (tasks dialect plan).zip found ∧
    readBack.getLast = reader.name

/-- The arguments of a method that columns are compared with, for the parameters of its
statement. -/
def comparedArguments (method : Method) (params : List Param) : List Argument :=
  ((method.arguments.zip params).filter fun bound => isFilter bound.2).map Prod.fst

/-- A lookup compares the columns that an update compares, with the same arguments of its method. -/
structure Lookup.Finds (lookup : Lookup) (dialect : Dialect) (plan : Plan) (query : Update)
    (method : Method) : Prop where
  statement : ∃ statement, Sql.rowLookupStatement dialect plan.toCatalog query = .ok statement ∧
    lookup.sql = statement.sql ∧
    statement.params = (Sql.updateStatement dialect plan.toCatalog query).params.filter isFilter
  binds : lookup.binds = (comparedArguments method
    (Sql.updateStatement dialect plan.toCatalog query).params).map (·.name)

/-- The methods of a plan in a dialect fit together. -/
structure MethodsConsistent (dialect : Dialect) (plan : Plan) (found : List Method) : Prop where
  described : List.Forall₂ (Described dialect plan) (tasks dialect plan) found
  named : (found.map (·.name)).Nodup
  returned : dialect.returning = true →
    ∀ method ∈ found, method.readBack = none ∧ method.kind ≠ .getLast
  readers : dialect.returning = false → plan.returningTargets.Nodup ∧
    List.Forall₂
      (fun model reader => (Task.readBack model, reader) ∈ (tasks dialect plan).zip found)
      plan.returningTargets (found.filter fun method => method.kind = .getLast)
  inserts : dialect.returning = false → ∀ method ∈ found, method.kind = .insert →
    ∃ query readBack, (Task.insert query, method) ∈ (tasks dialect plan).zip found ∧
      method.readBack = some readBack ∧ readBack.Names dialect plan found query.model
  updates : dialect.returning = false → ∀ method ∈ found, method.kind = .update →
    ∃ query readBack lookup, (Task.update query, method) ∈ (tasks dialect plan).zip found ∧
      method.readBack = some readBack ∧ readBack.Names dialect plan found query.model ∧
      readBack.lookup = some lookup ∧ lookup.Finds dialect plan query method

/-! ## Arguments -/

/-- The names of arguments are claimed in the order of the parameters. -/
theorem map_name_argumentsFor (catalog : Catalog) (params : List Param) :
    (argumentsFor catalog params).map (·.name) =
      claimNames [] (params.map (paramName catalog)) :=
  map_zipWith_names (fun _ _ => rfl) (by simp [length_claimNames])

/-- There is one argument per parameter. -/
theorem length_argumentsFor (catalog : Catalog) (params : List Param) :
    (argumentsFor catalog params).length = params.length := by
  rw [← List.length_map (·.name), map_name_argumentsFor, length_claimNames, List.length_map]

/-- A method that performs a task is described by it. -/
theorem Performs.described {dialect : Dialect} {plan : Plan} {task : Task} {method : Method}
    (performs : Performs dialect plan task method) : Described dialect plan task method := by
  obtain ⟨statement, rendered, sameText, arguments⟩ := performs.statement
  refine ⟨performs.kind, ⟨statement, rendered, sameText, ?_⟩, performs.binds, ?_⟩
  · rw [arguments, length_argumentsFor]
  · rw [arguments, map_name_argumentsFor]
    exact nodup_claimNames _ _

/-- The names of arguments that columns are compared with, found parameter by parameter. -/
theorem filterNames_eq (catalog : Catalog) (params : List Param) :
    filterNames catalog params = ((((argumentsFor catalog params).zip params).filter
      fun bound => isFilter bound.2).map Prod.fst).map (·.name) := by
  unfold filterNames
  generalize argumentsFor catalog params = arguments
  induction arguments generalizing params with
  | nil => rfl
  | cons argument arguments inductionHypothesis =>
      cases params with
      | nil => rfl
      | cons param params =>
          rw [List.zipWith_cons_cons, List.flatten_cons, inductionHypothesis, List.zip_cons_cons,
            List.filter_cons]
          cases isFilter param <;> rfl

/-! ## Lookups -/

/-- All parameters of conditions are filters. -/
theorem filter_isFilter_filterParams (conditions : List Condition) :
    (Sql.filterParams conditions).filter isFilter = Sql.filterParams conditions := by
  refine List.filter_eq_self.2 fun param member => ?_
  obtain ⟨condition, -, rfl⟩ := List.mem_map.1 member
  rfl

/-- No parameter of a value is a filter. -/
theorem filter_isFilter_valueParams (model : ModelId) (fields : List FieldId) :
    (Sql.valueParams model fields).filter isFilter = [] := by
  refine List.filter_eq_nil_iff.2 fun param member => ?_
  obtain ⟨field, -, rfl⟩ := List.mem_map.1 member
  exact Bool.false_ne_true

/-- The parameters of a lookup are those of the update that columns are compared with. -/
theorem params_rowLookupStatement {dialect : Dialect} {catalog : Catalog} {query : Update}
    {statement : Statement}
    (rendered : Sql.rowLookupStatement dialect catalog query = .ok statement) :
    statement.params = (Sql.updateStatement dialect catalog query).params.filter isFilter := by
  have written := (Sql.updateStatement_binds dialect catalog query).listed
  rw [written, List.filter_append, filter_isFilter_valueParams, filter_isFilter_filterParams,
    List.nil_append]
  rw [Sql.rowLookupStatement_eq] at rendered
  obtain ⟨column, -, rfl⟩ := map_eq_ok_iff.1 rendered
  simp [Statement.ofFragment, Sql.rowLookupFragment]

/-! ## Reading back -/

section

variable {dialect : Dialect} {plan : Plan} {found : List Method}

/-- The names of the methods that read rows back are different. -/
theorem nodup_getLastNames (dialect : Dialect) (plan : Plan) :
    ((getLastNames dialect plan).map Prod.snd).Nodup := by
  unfold getLastNames
  split
  · exact List.nodup_nil
  · rw [List.map_snd_zip (by simp [length_claimNames])]
    exact nodup_claimNames _ _

/-- All methods of a plan have different names. -/
theorem nodup_methodNames (made : methods dialect plan = .ok found) :
    (found.map (·.name)).Nodup := by
  obtain ⟨queries, readers, rfl, -, readersPerform, bases, queryNames⟩ := methods_eq_ok made
  have readerNames : readers.map (·.name) = (getLastNames dialect plan).map Prod.snd := by
    have same := readersPerform.imp fun entry reader both => both.2
    rw [← List.forall₂_eq_eq_eq, List.forall₂_map_left_iff, List.forall₂_map_right_iff]
    exact same.flip
  rw [List.map_append, queryNames, readerNames, List.nodup_append]
  refine ⟨nodup_claimNames _ _, nodup_getLastNames dialect plan, ?_⟩
  -- The names of readers are taken before a query asks for one.
  rintro name claimed _ isReader rfl
  exact claimNames_notMem claimed isReader

/-- No row is read back in a dialect that returns written rows. -/
theorem reading_of_returning (returns : dialect.returning = true) (task : Task) :
    task.reading dialect plan = .ok none := by
  have noNames : getLastNames dialect plan = [] := by rw [getLastNames, if_pos returns]
  cases task with
  | insert query => rw [Task.reading, noNames]; rfl
  | update query => rw [Task.reading, noNames]; rfl
  | _ => rfl

/-- A task of a query is no reading back. -/
theorem kind_ne_getLast {task : Task} (member : task ∈ queryTasks plan) :
    task.kind ≠ .getLast := by
  cases task with
  | readBack model => simp [queryTasks, selectTasks] at member
  | _ => grind [Task.kind]

/-- In a dialect that returns written rows, no method reads one back. -/
theorem readBack_eq_none_of_returning (returns : dialect.returning = true)
    (made : methods dialect plan = .ok found) {method : Method} (member : method ∈ found) :
    method.readBack = none ∧ method.kind ≠ .getLast := by
  obtain ⟨task, paired, performs⟩ := exists_zip_of_mem_right (methods_perform made) member
  have reading := performs.reading
  rw [reading_of_returning returns] at reading
  refine ⟨(Except.ok.inj reading).symm, ?_⟩
  have isTask := (List.of_mem_zip paired).1
  rw [tasks, readBackModels, if_pos returns, List.map_nil, List.append_nil] at isTask
  exact performs.kind ▸ kind_ne_getLast isTask

/-- The methods that read rows back are those of the models that have a name for one, in order. -/
theorem forall₂_readers (made : methods dialect plan = .ok found) :
    List.Forall₂ (fun entry reader => (Task.readBack entry.1, reader) ∈
        (tasks dialect plan).zip found ∧ reader.name = entry.2) (getLastNames dialect plan)
      (found.filter fun method => method.kind = .getLast) := by
  obtain ⟨queries, readers, rfl, queriesPerform, readersPerform, -⟩ := methods_eq_ok made
  have noQueries : queries.filter (fun method => method.kind = .getLast) = [] := by
    refine List.filter_eq_nil_iff.2 fun method member => ?_
    obtain ⟨task, paired, performs⟩ := exists_zip_of_mem_right queriesPerform member
    simpa [performs.kind] using kind_ne_getLast (List.of_mem_zip paired).1
  have allReaders : readers.filter (fun method => method.kind = .getLast) = readers := by
    refine List.filter_eq_self.2 fun method member => ?_
    obtain ⟨entry, -, performs, -⟩ := exists_zip_of_mem_right readersPerform member
    simp [performs.kind, Task.kind]
  rw [List.filter_append, noQueries, allReaders, List.nil_append, List.forall₂_iff_zip]
  refine ⟨readersPerform.length_eq, fun {entry reader} paired => ?_⟩
  refine ⟨?_, (List.forall₂_zip readersPerform paired).2⟩
  -- Tasks and methods both have as many of queries in front, so readers meet their own tasks.
  rw [tasks, List.zip_append queriesPerform.length_eq, ← map_fst_getLastNames, List.map_map,
    List.zip_map_left]
  exact List.mem_append_right _ (List.mem_map.2 ⟨(entry, reader), paired, rfl⟩)

/-- A model that is written has a method that reads its rows, where rows are read back. -/
theorem exists_reader (keeps : dialect.returning = false) (made : methods dialect plan = .ok found)
    {model : ModelId} (written : model ∈ plan.returningTargets) :
    ∃ name, (getLastNames dialect plan).lookup model = some name ∧
      ∀ lookup, (ReadBack.mk lookup name).Names dialect plan found model := by
  have named : model ∈ (getLastNames dialect plan).map Prod.fst := by
    rwa [map_fst_getLastNames, readBackModels_of_keeps keeps]
  cases isNamed : (getLastNames dialect plan).lookup model with
  | none =>
      obtain ⟨entry, isEntry, rfl⟩ := List.mem_map.1 named
      have other := List.lookup_eq_none_iff.1 isNamed entry isEntry
      simp at other
  | some name =>
      refine ⟨name, rfl, fun lookup => ?_⟩
      obtain ⟨before, after, split, -⟩ := List.lookup_eq_some_iff.1 isNamed
      have isEntry : (model, name) ∈ getLastNames dialect plan := by simp [split]
      obtain ⟨reader, -, paired, readerName⟩ :=
        exists_zip_of_mem_left (forall₂_readers made) isEntry
      exact ⟨reader, paired, readerName.symm⟩

/-- The row of an insert is read back by the method of its model. -/
theorem readBack_of_insert {query : Insert} {method : Method} (keeps : dialect.returning = false)
    (made : methods dialect plan = .ok found) (written : query.model ∈ plan.returningTargets)
    (performs : Performs dialect plan (.insert query) method) :
    ∃ readBack, method.readBack = some readBack ∧
      readBack.Names dialect plan found query.model := by
  obtain ⟨name, named, names⟩ := exists_reader keeps made written
  have reading := performs.reading
  rw [Task.reading, readBack?, named] at reading
  exact ⟨_, (Except.ok.inj reading).symm, names none⟩

/-- The row of an update is looked up, and then read back by the method of its model. -/
theorem readBack_of_update {query : Update} {method : Method} (keeps : dialect.returning = false)
    (made : methods dialect plan = .ok found) (written : query.model ∈ plan.returningTargets)
    (performs : Performs dialect plan (.update query) method) :
    ∃ readBack lookup, method.readBack = some readBack ∧
      readBack.Names dialect plan found query.model ∧ readBack.lookup = some lookup ∧
      lookup.Finds dialect plan query method := by
  obtain ⟨name, named, names⟩ := exists_reader keeps made written
  have reading := performs.reading
  cases isRead : method.readBack with
  | none =>
      rw [isRead, Task.reading, updateReadBack, readBack?, named] at reading
      obtain ⟨lookup, -, impossible⟩ := map_eq_ok_iff.1 reading
      cases impossible
  | some readBack =>
      rw [isRead] at reading
      obtain ⟨other, lookup, otherNamed, rendered, rfl⟩ := updateReadBack_eq_some reading
      cases named.symm.trans otherNamed
      have sameParams := params_rowLookupStatement rendered
      refine ⟨_, _, rfl, names _, rfl, ⟨lookup, rendered, rfl, sameParams⟩, ?_⟩
      obtain ⟨statement, isStatement, -, arguments⟩ := performs.statement
      cases isStatement
      rw [comparedArguments, arguments, ← filterNames_eq]

end

/-- A model that an insert or an update of a compiled plan writes is read back. -/
theorem mem_returningTargets {source : String} {plan : Plan}
    (compiled : compile source = .ok plan) :
    plan.returningTargets.Nodup ∧
      (∀ query ∈ plan.inserts, query.model ∈ plan.returningTargets) ∧
      ∀ query ∈ plan.updates, query.model ∈ plan.returningTargets := by
  obtain ⟨schema, -, resolves⟩ := Analysis.exists_resolves_of_compile compiled
  have firstUses := Analysis.returningTargets_firstUses plan.inserts plan.updates
  rw [← resolves.targets] at firstUses
  refine ⟨firstUses.nodup, fun query member => ?_, fun query member => ?_⟩
  · exact (firstUses.same _).2 (List.mem_append_left _ (List.mem_map_of_mem member))
  · exact (firstUses.same _).2 (List.mem_append_right _ (List.mem_map_of_mem member))

/-- The methods of a plan that was compiled fit together, in every dialect that has them. -/
theorem compile_methodsConsistent {source : String} {plan : Plan}
    (compiled : compile source = .ok plan) {dialect : Dialect} {found : List Method}
    (made : methods dialect plan = .ok found) : MethodsConsistent dialect plan found := by
  obtain ⟨distinct, insertsWritten, updatesWritten⟩ := mem_returningTargets compiled
  have perform := methods_perform made
  refine ⟨perform.imp fun _ _ performs => performs.described, nodup_methodNames made,
    fun returns method => readBack_eq_none_of_returning returns made, fun keeps => ⟨distinct, ?_⟩,
    fun keeps method member isInsert => ?_, fun keeps method member isUpdate => ?_⟩
  · rw [← readBackModels_of_keeps keeps, ← map_fst_getLastNames, List.forall₂_map_left_iff]
    exact (forall₂_readers made).imp fun _ _ both => both.1
  · obtain ⟨task, paired, performs⟩ := exists_zip_of_mem_right perform member
    obtain ⟨query, rfl⟩ := Task.eq_insert_of_kind (performs.kind ▸ isInsert)
    have isTask := (List.of_mem_zip paired).1
    have written := insertsWritten query (by simpa [tasks, queryTasks, selectTasks] using isTask)
    obtain ⟨readBack, isRead, names⟩ := readBack_of_insert keeps made written performs
    exact ⟨query, readBack, paired, isRead, names⟩
  · obtain ⟨task, paired, performs⟩ := exists_zip_of_mem_right perform member
    obtain ⟨query, rfl⟩ := Task.eq_update_of_kind (performs.kind ▸ isUpdate)
    have isTask := (List.of_mem_zip paired).1
    have written := updatesWritten query (by simpa [tasks, queryTasks, selectTasks] using isTask)
    obtain ⟨readBack, lookup, found⟩ := readBack_of_update keeps made written performs
    exact ⟨query, readBack, lookup, paired, found⟩

/-- The roster has methods of nearly every kind, and one more for each model that it writes. -/
theorem rosterPlan_methodsConsistent :
    compile rosterSource = .ok rosterPlan ∧
    ∃ found, methods Sql.sqlite3 rosterPlan = .ok found ∧
      found.map (·.kind) = [.insert, .selectOne, .selectAll, .selectPage, .count, .has, .update,
        .deleteOne, .getLast, .getLast] ∧
      MethodsConsistent Sql.sqlite3 rosterPlan found := by
  refine ⟨compile_rosterSource, ?_⟩
  rcases methods_outcome Sql.sqlite3 rosterPlan with ⟨loses, -⟩ | ⟨-, found, made⟩
  · exact absurd loses (by decide)
  · have consistent := compile_methodsConsistent compile_rosterSource made
    refine ⟨found, made, ?_, consistent⟩
    have kinds : found.map (·.kind) = (tasks Sql.sqlite3 rosterPlan).map Task.kind := by
      rw [← List.forall₂_eq_eq_eq, List.forall₂_map_left_iff, List.forall₂_map_right_iff]
      exact (consistent.described.imp fun _ _ described => described.kind).flip
    rw [kinds]
    decide

end Schemata.Access
