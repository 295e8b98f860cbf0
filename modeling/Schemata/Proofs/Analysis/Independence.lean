import Schemata.Proofs.Analysis.Declared

/-!
# Queries are resolved on their own

The queries of a schema are resolved over one finished catalog, none of them aware of the others.
Each is settled: it becomes a query that says all that its declaration says, or at least one problem
says why not. A schema has a plan exactly if neither its catalog nor one of its queries has a
problem, and its plan then has every declared item in order; otherwise the problems of all of them
are reported together, in the order of their places (`analyze_independent`).
-/

namespace Schemata

/-- Every select asks for something and every unique key names a field, as when they are read. -/
structure Declaration.Schema.Phrased (schema : Declaration.Schema) : Prop where
  projections : ∀ select ∈ schema.selects, select.projections ≠ []
  uniques : ∀ model ∈ schema.models, ∀ key ∈ model.uniques, key ≠ []

namespace Analysis

namespace Checked

variable {α β : Type}

/-! ## Steps that settle something -/

/--
A step settles something: it gives a result that is as it should be and no problem, or no result
and at least one problem.
-/
inductive Settles (faithful : α → Prop) : Checked (Option α) → Prop where
  | resolved {result : α} (whole : faithful result) : Settles faithful ⟨some result, []⟩
  | refused (problem : Problem) (others : List Problem) : Settles faithful ⟨none, problem :: others⟩

/-- A step withholds its result if it reports a problem. -/
def Withholds (checked : Checked (Option α)) : Prop :=
  checked.problems ≠ [] → checked.value = none

/-- A step that ensures a result and withholds it after a problem settles it. -/
theorem Settles.of_ensures {checked : Checked (Option α)} {faithful : α → Prop}
    (ensures : checked.Ensures fun value => ∃ result, value = some result ∧ faithful result)
    (withholds : checked.Withholds) : checked.Settles faithful := by
  obtain ⟨value, problems⟩ := checked
  cases problems with
  | nil =>
      obtain ⟨result, rfl, whole⟩ := ensures rfl
      exact .resolved whole
  | cons problem others =>
      obtain rfl := withholds (List.cons_ne_nil problem others)
      exact .refused problem others

/-- A settled step that reports nothing gives a result. -/
theorem Settles.eq_resolved {checked : Checked (Option α)} {faithful : α → Prop}
    (settles : checked.Settles faithful) (clean : checked.problems = []) :
    ∃ result, faithful result ∧ checked = ⟨some result, []⟩ := by
  cases settles with
  | resolved whole => exact ⟨_, whole, rfl⟩
  | refused problem others => cases clean

/-- A step that reports nothing withholds nothing. -/
theorem withholds_pure (value : Option α) : (pure value : Checked (Option α)).Withholds :=
  fun reported => absurd rfl reported

/-- What has no result has none to withhold. -/
theorem withholds_of_eq_none {checked : Checked (Option α)} (none : checked.value = none) :
    checked.Withholds :=
  fun _ => none

/-- A result that is kept only if it is clean is withheld otherwise. -/
theorem withholds_ifClean (checked : Checked α) : checked.ifClean.Withholds := by
  intro reported
  rw [problems_ifClean] at reported
  simp [ifClean, isClean, reported]

/-- Steps withhold their result if each does, and if the second stops after the first has none. -/
theorem Withholds.bind {first : Checked (Option α)} {next : Option α → Checked (Option β)}
    (withholds : first.Withholds) (stops : (next none).value = none)
    (continues : ∀ value, (next (some value)).Withholds) : (first >>= next).Withholds := by
  intro reported
  rw [problems_bind] at reported
  rw [value_bind]
  cases given : first.value with
  | none => exact stops
  | some value =>
      by_cases clean : first.problems = []
      · apply continues value
        rwa [clean, List.nil_append, given] at reported
      · rw [withholds clean] at given
        cases given

/-- A step behind one that reports nothing withholds its result as on its own. -/
theorem Withholds.after {first : Checked α} {next : α → Checked (Option β)}
    (clean : first.problems = []) (withholds : (next first.value).Withholds) :
    (first >>= next).Withholds := by
  intro reported
  rw [problems_bind, clean, List.nil_append] at reported
  exact withholds reported

/-- A result that is only reshaped is withheld as before. -/
theorem Withholds.map {first : Checked (Option α)} (withholds : first.Withholds)
    (change : α → β) : (do return (← first).map change : Checked (Option β)).Withholds :=
  withholds.bind rfl fun value => withholds_pure (some (change value))

end Checked

open Checked

/-! ## Queries -/

/-- An unknown model is reported and withheld. -/
theorem resolveModel_withholds (catalog : Catalog) (name : Name) :
    (resolveModel catalog name).Withholds := by
  unfold resolveModel
  split
  · exact withholds_pure _
  · exact withholds_of_eq_none rfl

/-- An insert is settled over any catalog. -/
theorem resolveInsert_settles (catalog : Catalog) (declared : Declaration.Insert) :
    (resolveInsert catalog declared).Settles (InsertOf catalog declared) :=
  .of_ensures (resolveInsert_complete catalog declared)
    ((resolveModel_withholds catalog declared.model).map _)

/-- A select that asks for something is settled over any catalog. -/
theorem resolveSelect_settles (catalog : Catalog) {declared : Declaration.Select}
    (asks : declared.projections ≠ []) :
    (resolveSelect catalog declared).Settles (SelectOf catalog declared) := by
  refine .of_ensures (resolveSelect_complete catalog asks) ?_
  refine (withholds_ifClean _).bind rfl fun draft => ?_
  cases draft with
  | none => exact withholds_pure none
  | some draft =>
      rw [Option.join_some]
      dsimp only
      split
      · exact withholds_of_eq_none rfl
      · exact withholds_pure _

/-- An update is settled over any catalog. -/
theorem resolveUpdate_settles (catalog : Catalog) (declared : Declaration.Update) :
    (resolveUpdate catalog declared).Settles (UpdateOf catalog declared) := by
  refine .of_ensures (resolveUpdate_complete catalog declared) ?_
  refine (resolveModel_withholds catalog declared.model).bind rfl fun id => ?_
  dsimp only
  split
  · -- Even conditions that fix one row give no update where nothing can be written.
    apply withholds_of_eq_none
    simp only [value_bind]
    split
    · rfl
    · rw [value_bind]
      split
      · rfl
      · split <;> rfl
  · by_cases foreign : declared.conditions.filterMap
        (foreignColumn? (catalog.model id).name) = []
    · refine .after (by rw [foreign]; rfl) ?_
      rw [foreign]
      refine (withholds_ifClean _).bind rfl fun resolved => ?_
      dsimp only
      split
      · exact withholds_of_eq_none rfl
      · exact withholds_pure _
    · apply withholds_of_eq_none
      rw [value_bind, if_pos (by simpa using foreign)]
      rfl

/-- A count or delete with a problem is withheld. -/
theorem resolveFiltered_withholds (catalog : Catalog) (declared : Declaration.Filtered) :
    (resolveFiltered catalog declared).Withholds :=
  (resolveModel_withholds catalog declared.model).bind rfl fun _ => withholds_ifClean _

/-- A delete is settled over any catalog. -/
theorem resolveDelete_settles (catalog : Catalog) (declared : Declaration.Filtered) :
    (resolveDelete catalog declared).Settles fun delete =>
      FilteredOf catalog declared delete.model delete.joins delete.conditions delete.position :=
  .of_ensures (resolveDelete_complete catalog declared)
    ((resolveFiltered_withholds catalog declared).map _)

/-- A count is settled over any catalog. -/
theorem resolveCount_settles (catalog : Catalog) (declared : Declaration.Filtered) :
    (resolveCount catalog declared).Settles fun count =>
      FilteredOf catalog declared count.model count.joins count.conditions count.position :=
  .of_ensures (resolveCount_complete catalog declared)
    ((resolveFiltered_withholds catalog declared).map _)

/-- Every query is settled over a catalog, a select if it asks for something. -/
structure QueriesSettle (catalog : Catalog) : Prop where
  insert : ∀ declared, (resolveInsert catalog declared).Settles (InsertOf catalog declared)
  select : ∀ declared, declared.projections ≠ [] →
    (resolveSelect catalog declared).Settles (SelectOf catalog declared)
  update : ∀ declared, (resolveUpdate catalog declared).Settles (UpdateOf catalog declared)
  delete : ∀ declared, (resolveDelete catalog declared).Settles fun delete =>
    FilteredOf catalog declared delete.model delete.joins delete.conditions delete.position
  count : ∀ declared, (resolveCount catalog declared).Settles fun count =>
    FilteredOf catalog declared count.model count.joins count.conditions count.position

/-- Every query is settled over every catalog. -/
theorem queriesSettle (catalog : Catalog) : QueriesSettle catalog where
  insert := resolveInsert_settles catalog
  select _ asks := resolveSelect_settles catalog asks
  update := resolveUpdate_settles catalog
  delete := resolveDelete_settles catalog
  count := resolveCount_settles catalog

/-! ## All queries of a schema -/

section

variable {α β : Type} (resolve : α → Checked (Option β)) (declared : List α)

/-- The values of steps over a list are those of the single steps. -/
theorem value_mapM (step : α → Checked β) (items : List α) :
    (items.mapM step).value = items.map fun item => (step item).value := by
  induction items with
  | nil => rfl
  | cons item items inductionHypothesis =>
      simp only [List.mapM_cons, value_bind, value_pure, inductionHypothesis, List.map_cons]

/-- The problems of steps over a list are those of the single steps, in order. -/
theorem problems_mapM (step : α → Checked β) (items : List α) :
    (items.mapM step).problems = items.flatMap fun item => (step item).problems := by
  induction items with
  | nil => rfl
  | cons item items inductionHypothesis =>
      simp only [List.mapM_cons, problems_bind, problems_pure, inductionHypothesis,
        List.append_nil, List.flatMap_cons]

/-- What is resolved of a list is what is resolved of its items. -/
theorem value_resolveAll :
    (resolveAll resolve declared).value = declared.filterMap fun item => (resolve item).value := by
  simp only [resolveAll, value_bind, value_pure, value_mapM, List.filterMap_map]
  rfl

/-- The problems of a list are those of its items, in order. -/
theorem problems_resolveAll :
    (resolveAll resolve declared).problems =
      declared.flatMap fun item => (resolve item).problems := by
  simp only [resolveAll, problems_bind, problems_pure, problems_mapM, List.append_nil]

variable {resolve declared}

/-- Queries that are settled without a problem are all kept, each as it is resolved on its own. -/
theorem map_resolve_eq {faithful : α → β → Prop}
    (settled : ∀ item ∈ declared, (resolve item).Settles (faithful item))
    (clean : (declared.flatMap fun item => (resolve item).problems) = []) :
    declared.map resolve =
      (resolveAll resolve declared).value.map fun query => pure (some query) := by
  rw [value_resolveAll]
  induction declared with
  | nil => rfl
  | cons item declared inductionHypothesis =>
      rw [List.flatMap_cons, List.append_eq_nil_iff] at clean
      obtain ⟨itemSettled, othersSettled⟩ := List.forall_mem_cons.1 settled
      obtain ⟨query, -, resolved⟩ := itemSettled.eq_resolved clean.1
      rw [List.map_cons, inductionHypothesis othersSettled clean.2]
      simp only [List.filterMap_cons, resolved, List.map_cons]
      rfl

end

/-- The problems of the queries of a schema, each resolved on its own over a catalog. -/
def queryProblems (catalog : Catalog) (schema : Declaration.Schema) : List Problem :=
  schema.inserts.flatMap (fun declared => (resolveInsert catalog declared).problems) ++
  schema.selects.flatMap (fun declared => (resolveSelect catalog declared).problems) ++
  schema.updates.flatMap (fun declared => (resolveUpdate catalog declared).problems) ++
  schema.deletes.flatMap (fun declared => (resolveDelete catalog declared).problems) ++
  schema.counts.flatMap (fun declared => (resolveCount catalog declared).problems)

/-- The problems of a schema are those of its catalog, and then those of its queries. -/
theorem problems_resolveSchema (schema : Declaration.Schema) :
    (resolveSchema schema).problems =
      (resolveCatalog schema).problems ++
        queryProblems (resolveCatalog schema).value schema := by
  simp only [resolveSchema, queryProblems, problems_bind, problems_pure, problems_resolveAll,
    List.append_nil, List.append_assoc]

/-! ## The order of problems -/

/--
Problems in the order of their places: the same problems, none before one of an earlier place, and
those at one place in the order they were found in.
-/
structure StablySorted (problems sorted : List Problem) : Prop where
  perm : sorted.Perm problems
  ordered : sorted.Pairwise fun earlier later => later.position.before earlier.position = false
  stable : ∀ position, sorted.filter (fun problem => problem.position = position) =
    problems.filter fun problem => problem.position = position

/-- Not to be before another position is transitive. -/
theorem before_trans {a b c : Position} (first : b.before a = false)
    (second : c.before b = false) : c.before a = false := by
  simp only [Position.before, Bool.or_eq_false_iff, Bool.and_eq_false_iff, decide_eq_false_iff_not,
    beq_eq_false_iff_ne, ne_eq] at *
  omega

/-- Of two positions, one is not before the other. -/
theorem before_total (a b : Position) : b.before a = false ∨ a.before b = false := by
  simp only [Position.before, Bool.or_eq_false_iff, Bool.and_eq_false_iff, decide_eq_false_iff_not,
    beq_eq_false_iff_ne, ne_eq]
  omega

/-- No position is before itself. -/
theorem before_irrefl (position : Position) : position.before position = false := by
  simp [Position.before]

/-- Sorted problems are stably sorted. -/
theorem sort_stablySorted (problems : List Problem) :
    StablySorted problems (Problem.sort problems) := by
  have perm := List.mergeSort_perm problems fun a b => !b.position.before a.position
  have trans : ∀ a b c : Problem, (!b.position.before a.position) = true →
      (!c.position.before b.position) = true → (!c.position.before a.position) = true := by
    intro a b c first second
    simp only [Bool.not_eq_true'] at *
    exact before_trans first second
  have total : ∀ a b : Problem,
      ((!b.position.before a.position) || (!a.position.before b.position)) = true := by
    intro a b
    simpa using before_total a.position b.position
  refine ⟨perm, ?_, fun position => ?_⟩
  · exact (List.pairwise_mergeSort trans total problems).imp fun {_ _} inOrder => by
      simpa using inOrder
  · -- The problems at one place are in order as they are, so they stay a part of the sorted list.
    have inOrder : (problems.filter fun problem => problem.position = position).Pairwise
        fun a b => (!b.position.before a.position) = true := by
      refine List.pairwise_of_forall_mem_list fun a aMem b bMem => ?_
      have aHere : a.position = position := by simpa using (List.mem_filter.1 aMem).2
      have bHere : b.position = position := by simpa using (List.mem_filter.1 bMem).2
      rw [aHere, bHere, before_irrefl]
      rfl
    have part := List.sublist_mergeSort trans total inOrder List.filter_sublist
    have samePart := part.filter fun problem => decide (problem.position = position)
    rw [List.filter_filter] at samePart
    simp only [Bool.and_self] at samePart
    exact (samePart.eq_of_length (perm.filter _).length_eq.symm).symm

/-! ## Schemas -/

/-- A plan has every item of a schema, in order, and each query as it is resolved on its own. -/
structure PlanOf (schema : Declaration.Schema) (plan : Plan) : Prop where
  catalog : plan.toCatalog = (resolveCatalog schema).value
  models : List.Forall₂ ModelOf schema.models plan.models
  relations : List.Forall₂ (RelationOf plan.toCatalog) schema.relations plan.relations
  inserts : schema.inserts.map (resolveInsert plan.toCatalog) =
    plan.inserts.map fun insert => pure (some insert)
  selects : schema.selects.map (resolveSelect plan.toCatalog) =
    plan.selects.map fun select => pure (some select)
  updates : schema.updates.map (resolveUpdate plan.toCatalog) =
    plan.updates.map fun update => pure (some update)
  deletes : schema.deletes.map (resolveDelete plan.toCatalog) =
    plan.deletes.map fun delete => pure (some delete)
  counts : schema.counts.map (resolveCount plan.toCatalog) =
    plan.counts.map fun count => pure (some count)

/-- Without a problem, everything in a schema is in its plan. -/
theorem resolveSchema_planOf {schema : Declaration.Schema} (phrased : schema.Phrased)
    (catalogClean : (resolveCatalog schema).problems = [])
    (queriesClean : queryProblems (resolveCatalog schema).value schema = []) :
    PlanOf schema (resolveSchema schema).value := by
  obtain ⟨models, relations⟩ := resolveCatalog_complete schema phrased.uniques catalogClean
  have settle := queriesSettle (resolveCatalog schema).value
  simp only [queryProblems, List.append_eq_nil_iff] at queriesClean
  obtain ⟨⟨⟨⟨inserts, selects⟩, updates⟩, deletes⟩, counts⟩ := queriesClean
  exact {
    catalog := rfl
    models := models
    relations := relations
    inserts := map_resolve_eq (fun declared _ => settle.insert declared) inserts
    selects := map_resolve_eq
      (fun declared member => settle.select declared (phrased.projections declared member)) selects
    updates := map_resolve_eq (fun declared _ => settle.update declared) updates
    deletes := map_resolve_eq (fun declared _ => settle.delete declared) deletes
    counts := map_resolve_eq (fun declared _ => settle.count declared) counts }

/--
Every query is settled on its own over the catalog of a schema. The schema has a plan exactly if
neither its catalog nor a query has a problem, and the plan then has all that is declared; otherwise
the problems of the catalog and of all queries are reported, stably sorted by their places.
-/
theorem analyze_independent {schema : Declaration.Schema} (phrased : schema.Phrased) :
    QueriesSettle (resolveCatalog schema).value ∧
    ((∃ plan, analyze schema = .ok plan) ↔ (resolveCatalog schema).problems = [] ∧
      queryProblems (resolveCatalog schema).value schema = []) ∧
    (∀ plan, analyze schema = .ok plan → PlanOf schema plan) ∧
    (¬ ((resolveCatalog schema).problems = [] ∧
        queryProblems (resolveCatalog schema).value schema = []) →
      ∃ reported, analyze schema = .error reported ∧
        StablySorted ((resolveCatalog schema).problems ++
          queryProblems (resolveCatalog schema).value schema) reported) := by
  refine ⟨queriesSettle _, ?_⟩
  rw [← List.append_eq_nil_iff, ← problems_resolveSchema]
  unfold analyze
  dsimp only
  cases problems : (resolveSchema schema).problems with
  | nil =>
      have clean := problems_resolveSchema schema
      rw [problems, eq_comm, List.append_eq_nil_iff] at clean
      refine ⟨⟨fun _ => rfl, fun _ => ⟨_, rfl⟩⟩, ?_, fun reported => absurd rfl reported⟩
      rintro _ ⟨⟩
      exact resolveSchema_planOf phrased clean.1 clean.2
  | cons problem others =>
      refine ⟨⟨nofun, nofun⟩, nofun, fun _ => ⟨_, rfl, sort_stablySorted _⟩⟩

/-- A schema with problems in its relation, an insert, a select and a count, which stand in another
order than they are resolved in. -/
def strayedSchema : Declaration.Schema where
  models := [{
    name := ⟨"user", ⟨5, 7, 83⟩⟩
    uniques := [[⟨"name", ⟨5, 66, 142⟩⟩]]
    fields := [
      { name := ⟨"id", ⟨5, 20, 96⟩⟩, type := ⟨.int, ⟨5, 23, 99⟩, 3⟩,
        marks := { autoincrement := true } },
      { name := ⟨"name", ⟨5, 48, 124⟩⟩, type := ⟨.text, ⟨5, 53, 129⟩, 4⟩ }]
    position := ⟨5, 1, 77⟩ }]
  relations := [{
    left := ⟨⟨"user", ⟨6, 10, 158⟩⟩, ⟨"id", ⟨6, 15, 163⟩⟩⟩
    right := ⟨⟨"user", ⟨6, 18, 166⟩⟩, ⟨"name", ⟨6, 23, 171⟩⟩⟩
    position := ⟨6, 1, 149⟩ }]
  inserts := [⟨⟨"nobody", ⟨2, 8, 19⟩⟩, ⟨2, 1, 12⟩⟩, ⟨⟨"user", ⟨3, 8, 33⟩⟩, ⟨3, 1, 26⟩⟩]
  selects := [{
    projections := [.model ⟨"user", ⟨4, 8, 45⟩⟩]
    conditions := [⟨⟨⟨"user", ⟨4, 21, 58⟩⟩, ⟨"missing", ⟨4, 26, 63⟩⟩⟩, .eq, .placeholder,
      ⟨4, 15, 52⟩⟩]
    position := ⟨4, 1, 38⟩ }]
  counts := [{ model := ⟨"ghost", ⟨1, 7, 6⟩⟩, position := ⟨1, 1, 0⟩ }]

/-- The schema without what has a problem. -/
def mendedSchema : Declaration.Schema :=
  { models := strayedSchema.models, inserts := strayedSchema.inserts.drop 1 }

/-- Problems that were met in the order of kinds are reported in the order of their places. -/
theorem strayedSchema_independent :
    strayedSchema.Phrased ∧ QueriesSettle (resolveCatalog strayedSchema).value ∧
    ((resolveCatalog strayedSchema).problems ++
      queryProblems (resolveCatalog strayedSchema).value strayedSchema).map (·.position.line) =
        [6, 6, 2, 4, 1] ∧
    (∃ reported, analyze strayedSchema = .error reported ∧
      reported.map (·.position.line) = [1, 2, 4, 6, 6] ∧
      StablySorted ((resolveCatalog strayedSchema).problems ++
        queryProblems (resolveCatalog strayedSchema).value strayedSchema) reported) ∧
    mendedSchema.Phrased ∧ ∃ plan, analyze mendedSchema = .ok plan ∧ PlanOf mendedSchema plan := by
  have strayedPhrased : strayedSchema.Phrased := ⟨by decide, by decide⟩
  have mendedPhrased : mendedSchema.Phrased := ⟨by decide, by decide⟩
  have lines : ((resolveCatalog strayedSchema).problems ++
      queryProblems (resolveCatalog strayedSchema).value strayedSchema).map (·.position.line) =
        [6, 6, 2, 4, 1] := by decide +kernel
  obtain ⟨settle, -, -, refused⟩ := analyze_independent strayedPhrased
  obtain ⟨-, accepted, complete, -⟩ := analyze_independent mendedPhrased
  obtain ⟨plan, isPlan⟩ := accepted.2 (by decide +kernel)
  refine ⟨strayedPhrased, settle, lines, ?_, mendedPhrased, plan, isPlan, complete plan isPlan⟩
  obtain ⟨reported, isError, sorted⟩ := refused (by decide +kernel)
  refine ⟨reported, isError, ?_, sorted⟩
  have ordered : (reported.map (·.position.line)).Pairwise (· ≤ ·) :=
    List.pairwise_map.2 (sorted.ordered.imp fun {_ _} inOrder => by
      simp only [Position.before, Bool.or_eq_false_iff, decide_eq_false_iff_not] at inOrder
      omega)
  have perm := sorted.perm.map (·.position.line)
  rw [lines] at perm
  exact (perm.trans (by decide)).eq_of_pairwise (by omega) ordered (by decide)

end Analysis

end Schemata
