import Schemata.Access.Printer
import Schemata.Proofs.Access.Consistency
import Schemata.Proofs.Text.Pieces

/-!
# What the receivers of a module offer

Every dialect has a receiver of its own, and what a method of it takes and gives back is known from
its task alone, whatever the dialect. Its name is too, but for one thing: a dialect that reads rows
back hands out the names of the methods that do so before all others. A method that would be called
the same gets a number behind its name there and nowhere else, so that two receivers offer the same
signatures exactly if both read rows back, or none does, or no name is asked for on both sides
(`exportedSignatures_eq_iff`). Only a select of one row can ask for such a name.
-/

namespace Schemata.Access

open Sql (Dialect DialectError Param Statement)

/-- The signatures of the exported methods among some, in order. -/
def exportedSignatures (found : List Method) : List String :=
  (found.filter (·.exported)).map signatureText

/-! ## What a task asks for -/

namespace Task

/-- The parameters of the statement of a task. -/
def params (catalog : Catalog) : Task → List Param
  | insert query => Sql.valueParams query.model (catalog.model query.model).insertable
  | rows query => Sql.filterParams query.conditions
  | page query paging => Sql.filterParams query.conditions ++ [.cursor paging.column]
  | count query => Sql.filterParams query.conditions
  | has query => Sql.filterParams query.conditions
  | update query => Sql.valueParams query.model (catalog.model query.model).updatable ++
      Sql.filterParams query.conditions
  | delete query => Sql.filterParams query.conditions
  | readBack _ => [.rowId]

/-- What the method of a task gives back. -/
def returns (catalog : Catalog) : Task → String
  | insert query => structName (catalog.model query.model).name
  | rows query =>
    let row := (rowType catalog query.result).type
    if query.cardinality = .one then optionOf row else vectorOf row
  | page query _ => vectorOf (rowType catalog query.result).type
  | count _ => "i64"
  | has _ => "bool"
  | update query => optionOf (structName (catalog.model query.model).name)
  | delete query => if query.cardinality = .one then "bool" else "u64"
  | readBack model => structName (catalog.model model).name

/-- What the method of a task is called, if that name is free. -/
def title (catalog : Catalog) : Task → String
  | insert query => safeName ("create_" ++ (catalog.model query.model).name)
  | rows query => methodName catalog (if query.cardinality = .one then "get" else "all")
      (selectSubject catalog query) query.conditions
  | page query _ => methodName catalog "paged" (selectSubject catalog query) query.conditions
  | count query => methodName catalog "count" (modelSubject catalog query.model) query.conditions
  | has query => methodName catalog "has" (modelSubject catalog query.model) query.conditions
  | update query => methodName catalog "update" (modelSubject catalog query.model) query.conditions
  | delete query => methodName catalog "delete" (modelSubject catalog query.model) query.conditions
  | readBack model => safeName ("get_last_" ++ (catalog.model model).name)

/-- The statement of a task has the parameters of the task, in every dialect. -/
theorem params_of_statement {dialect : Dialect} {catalog : Catalog} {task : Task}
    {statement : Statement} (stated : task.statement dialect catalog = .ok statement) :
    statement.params = task.params catalog := by
  cases task with
  | readBack model =>
      rw [Task.statement, Sql.getLastStatement_eq] at stated
      obtain ⟨column, -, rfl⟩ := map_eq_ok_iff.1 stated
      simp [Statement.ofFragment, Sql.getLastFragment, params]
  | insert query => cases stated; exact (Sql.insertStatement_binds dialect catalog query).listed
  | rows query => cases stated; exact (Sql.selectAll_binds dialect catalog query).listed
  | page query paging =>
      cases stated; exact (Sql.selectPage_binds dialect catalog query paging).listed
  | count query => cases stated; exact (Sql.countStatement_binds dialect catalog query).listed
  | has query => cases stated; exact (Sql.hasStatement_binds dialect catalog query).listed
  | update query => cases stated; exact (Sql.updateStatement_binds dialect catalog query).listed
  | delete query => cases stated; exact (Sql.deleteStatement_binds dialect catalog query).listed

end Task

/-! ## Offers -/

/-- What callers see of a method beside its name. -/
structure Offer where
  kind : MethodKind
  arguments : List Argument
  returns : String

/-- What a method offers. -/
def Method.offer (method : Method) : Offer :=
  ⟨method.kind, method.arguments, method.returns⟩

/-- What the method of a task offers. -/
def Task.offer (catalog : Catalog) (task : Task) : Offer :=
  ⟨task.kind, argumentsFor catalog (task.params catalog), task.returns catalog⟩

/-- The signature of an exported method, from its name and what it offers. -/
def Offer.signature (name : String) (offer : Offer) : String :=
  "pub fn " ++ name ++ "(&mut self" ++
    String.join (offer.arguments.map fun argument =>
      ", " ++ argument.name ++ ": " ++ argument.type) ++
    ") -> Result<" ++ offer.returns ++ ">"

/-- The name can be read off a signature, once it is known what is offered. -/
theorem Offer.signature_injective (offer : Offer) :
    Function.Injective fun name => offer.signature name := by
  intro first second same
  simpa only [signature, String.append_left_inj, String.append_right_inj] using same

/-- A method asks for the name of its task and offers what the task does. -/
structure Offers (catalog : Catalog) (task : Task) (method : Method) : Prop where
  exported : method.exported = true
  title : method.name = task.title catalog
  offer : method.offer = task.offer catalog

/-- The signature of an exported method that was given a name. -/
theorem signatureText_rename {method : Method} (exported : method.exported = true) (name : String) :
    signatureText { method with name } = method.offer.signature name := by
  rw [signatureText]
  dsimp only
  rw [exported]
  rfl

/-- A method that is made for the statement of a query offers what the query asks for. -/
theorem methodFor_offers (dialect : Dialect) {catalog : Catalog} {task : Task} {kind : MethodKind}
    {name returns : String} {statement : Statement} {row : Option RowType}
    {readBack : Option ReadBack} (sameKind : kind = task.kind) (isQuery : kind ≠ .getLast)
    (stated : task.statement dialect catalog = .ok statement)
    (named : name = task.title catalog) (gives : returns = task.returns catalog) :
    Offers catalog task (methodFor catalog kind name statement returns row readBack) := by
  refine ⟨decide_eq_true isQuery, named, ?_⟩
  rw [Method.offer, Task.offer, ← Task.params_of_statement stated, ← sameKind, ← gives]
  rfl

section

variable {dialect : Dialect} {plan : Plan}

/-- The methods of a select offer its tasks, in order. -/
theorem selectMethods_offer (query : Select) :
    List.Forall₂ (Offers plan.toCatalog) (selectTasks query)
      (selectMethods dialect plan query) := by
  unfold selectTasks selectMethods
  cases count : query.cardinality with
  | one =>
      exact .cons (methodFor_offers dialect (by simp [Task.kind, count]) (by decide) rfl
        (by simp [Task.title, count]) (by simp [Task.returns, count])) .nil
  | many =>
      refine .cons (methodFor_offers dialect (by simp [Task.kind, count]) (by decide) rfl
        (by simp [Task.title, count]) (by simp [Task.returns, count])) ?_
      rw [if_neg (by decide), Sql.selectPage?]
      cases query.paging with
      | none => exact .nil
      | some paging => exact .cons (methodFor_offers dialect rfl (by decide) rfl rfl rfl) .nil

/-- The method of an update offers it, where there is one. -/
theorem updateMethod_offers {names : GetLastNames} {query : Update} {method : Method}
    (made : updateMethod dialect plan names query = .ok method) :
    Offers plan.toCatalog (.update query) method := by
  obtain ⟨readBack, -, rfl⟩ := map_eq_ok_iff.1 made
  exact methodFor_offers dialect rfl (by decide) rfl rfl rfl

/-- The method of a delete offers it. -/
theorem deleteMethod_offers (query : Delete) :
    Offers plan.toCatalog (.delete query) (deleteMethod dialect plan query) := by
  unfold deleteMethod
  cases count : query.cardinality with
  | one =>
      exact methodFor_offers dialect (by simp [Task.kind, count]) (by decide) rfl rfl
        (by simp [Task.returns, count])
  | many =>
      exact methodFor_offers dialect (by simp [Task.kind, count]) (by decide) rfl rfl
        (by simp [Task.returns, count])

/-- The methods of all queries offer what the queries ask for, in every dialect. -/
theorem draftMethods_offer {names : GetLastNames} {drafts : List Method}
    (made : draftMethods dialect plan names = .ok drafts) :
    List.Forall₂ (Offers plan.toCatalog) (queryTasks plan) drafts := by
  obtain ⟨updates, updatesMade, equal⟩ := of_bind_eq_ok made
  cases equal
  refine forall₂_queryTasks (fun query => ?_) (fun query _ => selectMethods_offer query)
    (fun query => ?_) ?_ deleteMethod_offers
  · exact methodFor_offers dialect rfl (by decide) rfl rfl rfl
  · exact .cons (methodFor_offers dialect rfl (by decide) rfl rfl rfl)
      (.cons (methodFor_offers dialect rfl (by decide) rfl rfl rfl) .nil)
  · exact (mapM_eq_ok_iff.1 updatesMade).imp fun _ _ => updateMethod_offers

/-! ## Signatures -/

/-- A method takes a fresh name, and the ones behind it have to avoid that name. -/
theorem nameMethods_cons (used : List String) (draft : Method) (drafts : List Method) :
    nameMethods used (draft :: drafts) =
      { draft with name := freshName used draft.name } ::
        nameMethods (freshName used draft.name :: used) drafts := rfl

/-- Methods that were named offer what they did before, under the names that were handed out. -/
theorem exported_nameMethods {catalog : Catalog} {tasks : List Task} {drafts : List Method}
    (offer : List.Forall₂ (Offers catalog) tasks drafts) (used : List String) :
    ((nameMethods used drafts).filter (·.exported)).map Method.offer =
        tasks.map (Task.offer catalog) ∧
      exportedSignatures (nameMethods used drafts) =
        List.zipWith Offer.signature (claimNames used (tasks.map (Task.title catalog)))
          (tasks.map (Task.offer catalog)) := by
  induction offer generalizing used with
  | nil => exact ⟨rfl, rfl⟩
  | @cons task draft tasks drafts first others inductionHypothesis =>
      obtain ⟨offers, signatures⟩ := inductionHypothesis (freshName used draft.name :: used)
      have exported (name : String) : ({ draft with name } : Method).exported = true :=
        first.exported
      rw [List.map_cons, List.map_cons, ← first.title, ← first.offer, claimNames,
        List.zipWith_cons_cons, ← signatures, ← offers, nameMethods_cons, exportedSignatures,
        List.filter_cons_of_pos (exported _), List.map_cons, List.map_cons,
        signatureText_rename first.exported]
      exact ⟨rfl, rfl⟩

/-- The names of the methods that read rows back, where a dialect needs them. -/
def readerNames (plan : Plan) : List String :=
  claimNames [] (plan.returningTargets.map fun model =>
    (Task.readBack model).title plan.toCatalog)

/-- The names that the methods of all queries ask for. -/
def queryTitles (plan : Plan) : List String :=
  (queryTasks plan).map (Task.title plan.toCatalog)

/-- The names of readers are those of the plan, if the dialect needs any. -/
theorem map_snd_getLastNames (dialect : Dialect) (plan : Plan) :
    (getLastNames dialect plan).map Prod.snd =
      if dialect.returning then [] else readerNames plan := by
  unfold getLastNames
  split
  · rfl
  · exact List.map_snd_zip (by simp [length_claimNames])

/-- What a receiver offers is what all queries ask for, under the names that are free beside those
of the methods that read rows back. -/
theorem exported_methods {found : List Method} (made : methods dialect plan = .ok found) :
    (found.filter (·.exported)).map Method.offer =
        (queryTasks plan).map (Task.offer plan.toCatalog) ∧
      exportedSignatures found =
        List.zipWith Offer.signature
          (claimNames (if dialect.returning then [] else readerNames plan) (queryTitles plan))
          ((queryTasks plan).map (Task.offer plan.toCatalog)) := by
  obtain ⟨drafts, draftsMade, rest⟩ := of_bind_eq_ok made
  obtain ⟨readers, readersMade, equal⟩ := of_bind_eq_ok rest
  cases equal
  have hidden : readers.filter (·.exported) = [] := by
    refine List.filter_eq_nil_iff.2 fun reader member => ?_
    obtain ⟨entry, -, readerMade⟩ := exists_zip_of_mem_right (mapM_eq_ok_iff.1 readersMade) member
    obtain ⟨statement, -, rfl⟩ := map_eq_ok_iff.1 readerMade
    exact Bool.false_ne_true
  have named := exported_nameMethods (draftMethods_offer draftsMade)
    ((getLastNames dialect plan).map Prod.snd)
  rw [map_snd_getLastNames] at named
  rw [exportedSignatures, List.filter_append, hidden, List.append_nil, map_snd_getLastNames]
  exact named

/-- Signatures of the same offers are the same exactly if the names are. -/
theorem zipWith_signature_eq_iff {first second : List String} {offers : List Offer}
    (isFirst : first.length = offers.length) (isSecond : second.length = offers.length) :
    List.zipWith Offer.signature first offers = List.zipWith Offer.signature second offers ↔
      first = second := by
  refine ⟨fun same => ?_, fun same => same ▸ rfl⟩
  induction offers generalizing first second with
  | nil => rw [List.length_eq_zero_iff.1 isFirst, List.length_eq_zero_iff.1 isSecond]
  | cons offer offers inductionHypothesis =>
      obtain ⟨name, names, rfl⟩ := List.exists_cons_of_length_eq_add_one isFirst
      obtain ⟨other, others, rfl⟩ := List.exists_cons_of_length_eq_add_one isSecond
      obtain ⟨head, tail⟩ := List.cons_eq_cons.1 same
      rw [offer.signature_injective head,
        inductionHypothesis (Nat.succ.inj isFirst) (Nat.succ.inj isSecond) tail]

/-- No method of a query would be called as a method that reads rows back. -/
def NamesApart (plan : Plan) : Prop :=
  ∀ name ∈ claimNames [] (queryTitles plan), name ∉ readerNames plan

instance (plan : Plan) : Decidable (NamesApart plan) :=
  inferInstanceAs (Decidable (∀ name ∈ _, name ∉ _))

/-- Two receivers offer the same signatures exactly if they agree on reading rows back, or names
that are handed out for it are asked for by nothing else. -/
theorem exportedSignatures_eq_iff {first second : Dialect} {firstFound secondFound : List Method}
    (firstMade : methods first plan = .ok firstFound)
    (secondMade : methods second plan = .ok secondFound) :
    exportedSignatures firstFound = exportedSignatures secondFound ↔
      first.returning = second.returning ∨ NamesApart plan := by
  have counted (used : List String) : (claimNames used (queryTitles plan)).length =
      ((queryTasks plan).map (Task.offer plan.toCatalog)).length := by
    rw [length_claimNames, queryTitles, List.length_map, List.length_map]
  rw [(exported_methods firstMade).2, (exported_methods secondMade).2,
    zipWith_signature_eq_iff (counted _) (counted _)]
  have apart : claimNames (readerNames plan) (queryTitles plan) =
      claimNames [] (queryTitles plan) ↔ NamesApart plan := claimNames_eq_iff
  cases first.returning <;> cases second.returning
  · simp
  · simpa using apart
  · simpa using eq_comm.trans apart
  · simp

end

/-! ## Stems of names -/

/-- What a name can start with so that it is no word of the language. -/
def isPlainStem (stem : String) : Bool :=
  stem ≠ "" && !startsWithDigit stem &&
    (pathWords ++ keywords).all fun word => !stem.toList.isPrefixOf word.toList

/-- A name with a plain stem needs no mark. -/
theorem safeName_of_stem {stem name : String} (plain : isPlainStem stem = true)
    (stemmed : stem.toList <+: (Text.snakeCase name).toList) :
    safeName name = Text.snakeCase name := by
  unfold safeName
  generalize Text.snakeCase name = small at stemmed ⊢
  simp only [isPlainStem, Bool.and_eq_true, decide_eq_true_eq, List.all_eq_true] at plain
  obtain ⟨⟨nonempty, noDigit⟩, noWord⟩ := plain
  have notWord (word : String) (isWord : word ∈ pathWords ++ keywords) : small ≠ word := by
    rintro rfl
    have isPrefix := List.isPrefixOf_iff_prefix.2 stemmed
    simpa [isPrefix] using noWord small isWord
  have notEmpty : small ≠ "" := by
    rintro rfl
    exact nonempty (String.toList_injective (List.prefix_nil.1 stemmed))
  have notPath : small ∉ pathWords := fun isPath =>
    notWord small (List.mem_append_left _ isPath) rfl
  have notKeyword : small ∉ keywords := fun isKeyword =>
    notWord small (List.mem_append_right _ isKeyword) rfl
  have sameDigit : startsWithDigit small = startsWithDigit stem := by
    unfold startsWithDigit
    cases isStem : stem.toList with
    | nil => exact absurd (String.toList_injective isStem) nonempty
    | cons c rest =>
        rw [isStem] at stemmed
        obtain ⟨after, isSmall⟩ := stemmed
        rw [← isSmall]
        rfl
  simp_all

/-- A name in small letters starts as its stem does. -/
theorem safeName_isPrefix {stem : String} (plain : isPlainStem stem = true)
    (small : Text.snakeCase stem = stem) (rest : String) :
    stem.toList <+: (safeName (stem ++ "_" ++ rest)).toList := by
  have stemmed := Text.snakeCase_isPrefix stem rest
  rw [small] at stemmed
  rwa [safeName_of_stem plain stemmed]

/-- What the names that tasks ask for start with. -/
def verbs : List String :=
  ["create", "get", "all", "paged", "count", "has", "update", "delete", "get_last"]

/-- Verbs are plain, and in snake case already. -/
theorem plain_of_mem_verbs :
    ∀ verb ∈ verbs, isPlainStem verb = true ∧ Text.snakeCase verb = verb := by
  decide

/-- What the name of a method says about its conditions. -/
def filterName (catalog : Catalog) (conditions : List Condition) : String :=
  if conditions.isEmpty then ""
  else "_by" ++ String.join (conditions.map fun c => "_" ++ conditionName catalog c)

namespace Task

/-- What the name that a task asks for starts with. -/
def verb : Task → String
  | insert _ => "create"
  | rows query => if query.cardinality = .one then "get" else "all"
  | page _ _ => "paged"
  | count _ => "count"
  | has _ => "has"
  | update _ => "update"
  | delete _ => "delete"
  | readBack _ => "get_last"

/-- The verb of a task is one of the verbs. -/
theorem verb_mem_verbs (task : Task) : task.verb ∈ verbs := by
  cases task with
  | rows query =>
      rw [verb]
      split <;> decide
  | _ => rw [verb]; decide

/-- What the name that a task asks for is about. -/
def subject (catalog : Catalog) : Task → String
  | insert query => (catalog.model query.model).name
  | rows query => selectSubject catalog query
  | page query _ => selectSubject catalog query
  | count query => modelSubject catalog query.model
  | has query => modelSubject catalog query.model
  | update query => modelSubject catalog query.model
  | delete query => modelSubject catalog query.model
  | readBack model => (catalog.model model).name

/-- The conditions that the name that a task asks for ends with. -/
def conditions : Task → List Condition
  | insert _ => []
  | rows query => query.conditions
  | page query _ => query.conditions
  | count query => query.conditions
  | has query => query.conditions
  | update query => query.conditions
  | delete query => query.conditions
  | readBack _ => []

/-- The name that a task asks for has three parts. -/
theorem title_eq (catalog : Catalog) (task : Task) :
    task.title catalog = safeName (task.verb ++ "_" ++
      (task.subject catalog ++ filterName catalog task.conditions)) := by
  cases task with
  | insert query => simp [title, verb, subject, conditions, filterName]
  | readBack model => simp [title, verb, subject, conditions, filterName]
  | rows | page | count | has | update | delete =>
      rw [← String.append_assoc]
      rfl

/-- The name that a task asks for starts with its verb. -/
theorem verb_isPrefix (catalog : Catalog) (task : Task) :
    task.verb.toList <+: (task.title catalog).toList := by
  obtain ⟨plain, small⟩ := plain_of_mem_verbs _ task.verb_mem_verbs
  rw [task.title_eq]
  exact safeName_isPrefix plain small _

/-- Only a select of one row asks for a name that may start as those for reading back do. -/
theorem eq_rows_of_comparable {plan : Plan} {task : Task} (isTask : task ∈ queryTasks plan)
    (comparable : task.verb.toList <+: "get_last".toList ∨ "get_last".toList <+: task.verb.toList) :
    ∃ query ∈ plan.selects, task = .rows query ∧ query.cardinality = .one := by
  cases task with
  | rows query =>
      cases count : query.cardinality with
      | one =>
          have isSelect : query ∈ plan.selects := by
            simpa [queryTasks, selectTasks] using isTask
          exact ⟨query, isSelect, rfl, count⟩
      | many =>
          rw [verb, count] at comparable
          exact absurd comparable (by decide)
  | readBack model => simp [queryTasks, selectTasks] at isTask
  | _ =>
    rw [verb] at comparable
    exact absurd comparable (by decide)

end Task

/-- A name starts with its base. -/
theorem isPrefix_of_stems {name base : String} (stems : StemsFrom base name) :
    base.toList <+: name.toList := by
  rcases stems with rfl | ⟨number, rfl⟩
  · exact List.prefix_rfl
  · simp [numbered]

/-- A number behind a name does not make it one that starts with `get_last`. -/
theorem getLast_isPrefix_of_numbered {base : String} {number : Nat}
    (isPrefix : "get_last".toList <+: (numbered base number).toList) :
    "get_last".toList <+: base.toList := by
  have baseIsPrefix : base.toList <+: (numbered base number).toList := by simp [numbered]
  rcases List.prefix_or_prefix_of_prefix isPrefix baseIsPrefix with done | ⟨rest, isRest⟩
  · exact done
  -- Otherwise the base is a part of `get_last`, and the number would have to spell the rest of it.
  · have spelled : rest <+: '_' :: (toString number).toList := by
      rw [← isRest] at isPrefix
      simpa [numbered] using isPrefix
    have isTail : rest ∈ "get_last".toList.tails := (List.mem_tails _ _).2 ⟨base.toList, isRest⟩
    have afterUnderscore : ∀ tail ∈ "get_last".toList.tails, tail.head? = some '_' →
        tail = "_last".toList := by decide
    cases rest with
    | nil =>
        rw [List.append_nil] at isRest
        exact isRest ▸ List.prefix_rfl
    | cons c more =>
        obtain ⟨rfl, moreSpelled⟩ := List.cons_prefix_cons.1 spelled
        have isLast := afterUnderscore _ isTail rfl
        have letter : 'l' ∈ more := by
          rw [(List.cons_eq_cons.1 isLast).2]
          decide
        have impossible := Sql.isDigit_of_mem_toString (moreSpelled.subset letter)
        exact absurd impossible (by decide)

/-- The names of readers start with what they do. -/
theorem getLast_isPrefix_of_mem_readerNames {plan : Plan} {name : String}
    (isReader : name ∈ readerNames plan) : "get_last".toList <+: name.toList := by
  obtain ⟨base, isTitle, stems⟩ := exists_base_of_mem_claimNames isReader
  obtain ⟨model, -, rfl⟩ := List.mem_map.1 isTitle
  exact ((Task.readBack model).verb_isPrefix plan.toCatalog).trans (isPrefix_of_stems stems)

/-- Names are apart unless a select of one row asks for one that starts with `get_last`. -/
theorem namesApart_of_titles {plan : Plan}
    (titles : ∀ query ∈ plan.selects, query.cardinality = .one →
      ¬"get_last".toList <+: ((Task.rows query).title plan.toCatalog).toList) :
    NamesApart plan := by
  intro name claimed isReader
  have readerStem := getLast_isPrefix_of_mem_readerNames isReader
  obtain ⟨base, isTitle, stems⟩ := exists_base_of_mem_claimNames claimed
  obtain ⟨task, isTask, rfl⟩ := List.mem_map.1 isTitle
  have verbStem := (task.verb_isPrefix plan.toCatalog).trans (isPrefix_of_stems stems)
  obtain ⟨query, isSelect, rfl, one⟩ :=
    Task.eq_rows_of_comparable isTask (List.prefix_or_prefix_of_prefix verbStem readerStem)
  refine titles query isSelect one ?_
  rcases stems with same | ⟨number, same⟩
  · rwa [same] at readerStem
  · rw [same] at readerStem
    exact getLast_isPrefix_of_numbered readerStem

/-! ## Receivers of one plan -/

/--
Two receivers of a plan offer the same methods in the same order, but for the names. The signatures
are the same exactly if both dialects read rows back, or none does, or no query would have the name
of a method that reads rows back; and only a select of one row whose name starts with `get_last`
can have such a name.
-/
theorem receivers_agree {plan : Plan} {first second : Dialect}
    {firstFound secondFound : List Method} (firstMade : methods first plan = .ok firstFound)
    (secondMade : methods second plan = .ok secondFound) :
    (firstFound.filter (·.exported)).map Method.offer =
        (secondFound.filter (·.exported)).map Method.offer ∧
    (exportedSignatures firstFound = exportedSignatures secondFound ↔
      first.returning = second.returning ∨ NamesApart plan) ∧
    ((∀ query ∈ plan.selects, query.cardinality = .one →
        ¬"get_last".toList <+: ((Task.rows query).title plan.toCatalog).toList) →
      exportedSignatures firstFound = exportedSignatures secondFound) := by
  have agree := exportedSignatures_eq_iff firstMade secondMade
  refine ⟨?_, agree, fun titles => agree.2 (.inr (namesApart_of_titles titles))⟩
  rw [(exported_methods firstMade).1, (exported_methods secondMade).1]

/-- No query of the roster is called like a method that reads rows back, so both receivers offer
the same eight methods. -/
theorem rosterPlan_receivers_agree :
    compile rosterSource = .ok rosterPlan ∧
    ∃ firstFound secondFound, methods Sql.postgres rosterPlan = .ok firstFound ∧
      methods Sql.sqlite3 rosterPlan = .ok secondFound ∧
      exportedSignatures firstFound = exportedSignatures secondFound ∧
      (exportedSignatures firstFound).length = 8 := by
  refine ⟨compile_rosterSource, ?_⟩
  obtain ⟨firstFound, firstMade⟩ := exists_methods Sql.postgres rosterPlan (by decide)
  obtain ⟨secondFound, secondMade⟩ := exists_methods Sql.sqlite3 rosterPlan (by decide)
  refine ⟨firstFound, secondFound, firstMade, secondMade, ?_, ?_⟩
  · exact (receivers_agree firstMade secondMade).2.2 (by decide)
  · rw [(exported_methods firstMade).2]
    decide

/-- A schema in which the last login is a model, and logins are kept by the last login. -/
def loginSource : String :=
  "model last_login ( field id int autoincrement )
model login_by_last_login_id ( field id int autoincrement, field note text )
insert login_by_last_login_id
select last_login ( where last_login.id = ? )
"

/-- The plan of the schema. -/
def loginPlan : Plan where
  models := [
    ⟨"last_login", "last_login", [
      ⟨{ autoincrement := true }, "id", "id", .int, none, none, ⟨1, 26, 25⟩⟩],
      [0], [], ⟨1, 1, 0⟩⟩,
    ⟨"login_by_last_login_id", "login_by_last_login_id", [
      ⟨{ autoincrement := true }, "id", "id", .int, none, none, ⟨2, 38, 85⟩⟩,
      ⟨{}, "note", "note", .text, none, none, ⟨2, 66, 113⟩⟩],
      [0], [], ⟨2, 1, 48⟩⟩]
  inserts := [⟨1, ⟨3, 1, 125⟩⟩]
  selects := [
    ⟨0, [.model 0], [], [⟨⟨0, 0⟩, .eq, .placeholder⟩], .one, none, .model 0, ⟨4, 1, 155⟩⟩]
  returningTargets := [1]

/-- The plan of the source with logins. -/
theorem compile_loginSource : compile loginSource = .ok loginPlan := by
  apply eq_ok_of_toOption
  unfold loginSource
  rw [compile_ofList]
  decide +kernel

/-- The last login is found under a name that one receiver has and the other has not, since there it
is the name of the method that reads a written row back. -/
theorem loginPlan_receivers_differ :
    compile loginSource = .ok loginPlan ∧
    ∃ firstFound secondFound, methods Sql.postgres loginPlan = .ok firstFound ∧
      methods Sql.sqlite3 loginPlan = .ok secondFound ∧
      exportedSignatures firstFound =
        ["pub fn create_login_by_last_login_id(&mut self, note: String) -> " ++
            "Result<LoginByLastLoginId>",
          "pub fn get_last_login_by_last_login_id(&mut self, last_login_id: i32) -> " ++
            "Result<Option<LastLogin>>"] ∧
      exportedSignatures secondFound =
        ["pub fn create_login_by_last_login_id(&mut self, note: String) -> " ++
            "Result<LoginByLastLoginId>",
          "pub fn get_last_login_by_last_login_id_2(&mut self, last_login_id: i32) -> " ++
            "Result<Option<LastLogin>>"] := by
  refine ⟨compile_loginSource, ?_⟩
  obtain ⟨firstFound, firstMade⟩ := exists_methods Sql.postgres loginPlan (by decide)
  obtain ⟨secondFound, secondMade⟩ := exists_methods Sql.sqlite3 loginPlan (by decide)
  refine ⟨firstFound, secondFound, firstMade, secondMade, ?_, ?_⟩
  · rw [(exported_methods firstMade).2]
    decide +kernel
  · rw [(exported_methods secondMade).2]
    decide +kernel

end Schemata.Access
