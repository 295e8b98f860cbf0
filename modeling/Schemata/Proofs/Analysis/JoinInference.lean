import Schemata.Proofs.Analysis.Exploration
import Schemata.Proofs.Analysis.Numbers

/-!
# Joins are inferred exactly

A finished search has counted the shortest routes to each model up to two, and reads back the first
of them. So it finds no way, one or more exactly if there is no route, one shortest route or more,
and what it finds is decided by the shortest routes alone (`Decides`).
-/

namespace Schemata.Analysis

/-! ## Outcomes -/

/-- An inferred path, or the fault there is instead, is what the routes to the model ask for. -/
def Decides (relations : List Relation) (members : List ModelId) (target : ModelId) :
    Except PathFault (List Join) → Prop
  | .error .unreachable => ∀ route, ¬ IsRoute relations members target route
  | .error .ambiguous => ∃ first second, first ≠ second ∧
      IsShortest relations members target first ∧ IsShortest relations members target second
  | .ok joins => ∃ route, IsShortest relations members target route ∧
      (∀ other, IsShortest relations members target other → other = route) ∧
      joins = route.map Step.join

/-- The answer of a finished search is decided by the shortest routes. -/
theorem Finished.decides {relations : List Relation} {members : List ModelId} {passed : List Step}
    {routes : ModelId → List (List Step)} {survey : Survey} {id : ModelId}
    (finished : Finished relations members passed routes survey)
    {outcome : Except PathFault (List Join)} (answers : survey.Answers id outcome) :
    Decides relations members id outcome := by
  rcases outcome with (_ | _) | joins
  · intro route isRoute
    obtain ⟨distance, -, known⟩ := finished.exists_distance_le isRoute
    have some := List.length_pos_of_ne_nil (finished.reached known)
    have count := finished.count id
    have none : survey.count id = 0 := answers
    omega
  · have count := finished.count id
    have nodup := finished.nodup id
    have many : 2 ≤ survey.count id := answers
    rcases shape : routes id with _ | ⟨first, _ | ⟨second, others⟩⟩
    · simp [shape] at count
      omega
    · simp [shape] at count
      omega
    · refine ⟨first, second, ?_, ?_, ?_⟩
      · rintro rfl
        simp [shape] at nodup
      · exact finished.mem_routes_iff.1 (by simp [shape])
      · exact finished.mem_routes_iff.1 (by simp [shape])
  · obtain ⟨single, traces⟩ := answers
    have count := finished.count id
    have one : (routes id).length = 1 := by omega
    obtain ⟨route, shape⟩ := List.length_eq_one_iff.1 one
    refine ⟨route, finished.mem_routes_iff.1 (by simp [shape]), ?_, ?_⟩
    · intro other otherShortest
      simpa [shape] using finished.mem_routes_iff.2 otherShortest
    · exact finished.joins_eq traces (by simp [shape])

/-! ## Inferred joins -/

section Inference

variable {relations reordered : List Relation} {members : List ModelId} {target : ModelId}
  {outcome other : Except PathFault (List Join)}

/-- The routes to a model decide on one outcome. -/
theorem Decides.unique (first : Decides relations members target outcome)
    (second : Decides relations members target other) : outcome = other := by
  have reached : ∀ joins, Decides relations members target (.ok joins) →
      ¬ Decides relations members target (.error .unreachable) := by
    rintro joins ⟨route, isShortest, -⟩ unreachable
    exact unreachable route isShortest.toIsRoute
  have single : ∀ joins, Decides relations members target (.ok joins) →
      ¬ Decides relations members target (.error .ambiguous) := by
    rintro joins ⟨route, -, only, -⟩ ⟨one, another, differ, oneShortest, anotherShortest⟩
    exact differ ((only one oneShortest).trans (only another anotherShortest).symm)
  have several : Decides relations members target (.error .ambiguous) →
      ¬ Decides relations members target (.error .unreachable) := by
    rintro ⟨one, -, -, oneShortest, -⟩ unreachable
    exact unreachable one oneShortest.toIsRoute
  rcases outcome with (_ | _) | joins <;> rcases other with (_ | _) | others
  · rfl
  · exact absurd first (several second)
  · exact absurd first (reached _ second)
  · exact absurd second (several first)
  · rfl
  · exact absurd first (single _ second)
  · exact absurd second (reached _ first)
  · exact absurd second (single _ first)
  · obtain ⟨route, -, only, rfl⟩ := first
    obtain ⟨_, otherShortest, -, rfl⟩ := second
    rw [only _ otherShortest]

/-- What the routes decide on does not depend on the order of the relations. -/
theorem Decides.perm (decides : Decides relations members target outcome)
    (perm : relations.Perm reordered) : Decides reordered members target outcome := by
  obtain ⟨renumber, injective, same⟩ := exists_renumbering perm
  obtain ⟨renumberBack, injectiveBack, sameBack⟩ := exists_renumbering perm.symm
  have injectiveMap : ∀ {renumber : Nat → Nat}, Function.Injective renumber →
      Function.Injective (List.map (Step.renumber renumber)) := by
    intro renumber injective
    apply List.map_injective_iff.2
    rintro ⟨first, firstJoin⟩ ⟨second, secondJoin⟩ equal
    simp only [Step.renumber, Step.mk.injEq] at equal
    rw [injective equal.1, equal.2]
  rcases outcome with (_ | _) | joins
  · intro route isRoute
    exact decides _ (isRoute.renumber sameBack)
  · obtain ⟨first, second, differ, firstShortest, secondShortest⟩ := decides
    exact ⟨_, _, (injectiveMap injective).ne differ, firstShortest.renumber perm same,
      secondShortest.renumber perm same⟩
  · obtain ⟨route, isShortest, only, rfl⟩ := decides
    refine ⟨_, isShortest.renumber perm same, fun other otherShortest => ?_, ?_⟩
    · -- Renumbered back, all shortest routes are the same one.
      apply injectiveMap injectiveBack
      rw [only _ (otherShortest.renumber perm.symm sameBack),
        only _ ((isShortest.renumber perm same).renumber perm.symm sameBack)]
    · rw [List.map_map]
      rfl

end Inference

variable {catalog : Catalog} {members : List ModelId} {target : ModelId}

/-- The joins to a model are decided by the routes to it. -/
theorem inferPath_decides
    (distinct : ∀ relation ∈ catalog.relations, relation.left.model ≠ relation.right.model)
    (relationsTaken : ∀ relation ∈ catalog.relations,
      catalog.HasModel relation.left.model ∧ catalog.HasModel relation.right.model)
    (membersTaken : ∀ member ∈ members, catalog.HasModel member) (nodup : members.Nodup) :
    Decides catalog.relations members target (inferPath catalog members target) := by
  obtain ⟨search, fits, surveyed, searched⟩ := exists_surveyed relationsTaken membersTaken
  obtain ⟨passed, routes, finished⟩ := surveyed.exists_finished distinct nodup
  rw [inferPath, searched]
  cases found : search.outcome target with
  | some outcome => exact finished.decides (Search.answers_of_outcome found)
  | none =>
    -- Only a model that is not in the tables is not looked up, and no route leads to one.
    intro route isRoute
    obtain ⟨distance, -, known⟩ := finished.exists_distance_le isRoute
    obtain ⟨outcome, hasOutcome⟩ :=
      exists_searchPath relationsTaken membersTaken (fits.lt_of_distance known)
    rw [searched, found] at hasOutcome
    cases hasOutcome

/--
Join inference is exact. The search for a model of the catalog comes to an end without leaving its
tables, and gives the joins. There is no path exactly if no route leads to the target, no only path
exactly if two shortest routes do, and otherwise the path is the only shortest route: it starts at a
member, each join starts where the one before it ended, it ends at the target, and in between it
meets no member. The order of the relations does not matter.
-/
theorem inferPath_exact
    (distinct : ∀ relation ∈ catalog.relations, relation.left.model ≠ relation.right.model)
    (relationsTaken : ∀ relation ∈ catalog.relations,
      catalog.HasModel relation.left.model ∧ catalog.HasModel relation.right.model)
    (membersTaken : ∀ member ∈ members, catalog.HasModel member) (nodup : members.Nodup)
    (target : ModelId) :
    (catalog.HasModel target →
      searchPath catalog members target = some (inferPath catalog members target)) ∧
    (inferPath catalog members target = .error .unreachable ↔
      ∀ route, ¬ IsRoute catalog.relations members target route) ∧
    (inferPath catalog members target = .error .ambiguous ↔
      ∃ first second, first ≠ second ∧ IsShortest catalog.relations members target first ∧
        IsShortest catalog.relations members target second) ∧
    (∀ joins, inferPath catalog members target = .ok joins ↔
      ∃ route, IsShortest catalog.relations members target route ∧
        (∀ other, IsShortest catalog.relations members target other → other = route) ∧
        joins = route.map Step.join) ∧
    (∀ joins, inferPath catalog members target = .ok joins →
      (∃ start ∈ members, Leads start joins target) ∧
        ∀ join ∈ joins.dropLast, join.right.model ∉ members) ∧
    ∀ reordered, reordered.Perm catalog.relations →
      inferPath { catalog with relations := reordered } members target =
        inferPath catalog members target := by
  have decides : Decides catalog.relations members target (inferPath catalog members target) :=
    inferPath_decides distinct relationsTaken membersTaken nodup
  have decided : ∀ outcome, inferPath catalog members target = outcome ↔
      Decides catalog.relations members target outcome := by
    intro outcome
    constructor
    · rintro rfl
      exact decides
    · exact decides.unique
  refine ⟨fun taken => ?_, decided _, decided _, fun joins => decided _, ?_, ?_⟩
  · obtain ⟨outcome, found⟩ := exists_searchPath relationsTaken membersTaken taken
    rw [inferPath, found, Option.getD_some]
  · intro joins inferred
    obtain ⟨route, isShortest, -, rfl⟩ := (decided _).1 inferred
    refine ⟨isShortest.leads, ?_⟩
    rw [← List.map_dropLast, List.forall_mem_map]
    exact isShortest.not_mem_of_mem_dropLast
  · intro reordered perm
    have reorderedDecides : Decides reordered members target
        (inferPath { catalog with relations := reordered } members target) := by
      refine @inferPath_decides { catalog with relations := reordered } members target ?_ ?_
        membersTaken nodup
      · exact fun relation member => distinct relation (perm.mem_iff.1 member)
      · exact fun relation member => relationsTaken relation (perm.mem_iff.1 member)
    exact reorderedDecides.unique (decides.perm perm.symm)

/-- A relation of models, by the first field of each. -/
def linking (left right : ModelId) : Relation :=
  ⟨⟨left, 0⟩, ⟨right, 0⟩, none, .start⟩

/-- Five models: a chain of three, a fourth that is tied to it twice, and one on its own. -/
def forkedCatalog : Catalog where
  models := List.replicate 5 default
  relations := [linking 1 0, linking 2 1, linking 3 1, linking 3 1]

/-- The end of the chain has one shortest route, the fourth model has two, the last one has none. -/
theorem forkedCatalog_routes :
    searchPath forkedCatalog [0] 2 = some (inferPath forkedCatalog [0] 2) ∧
    (∃ route, IsShortest forkedCatalog.relations [0] 2 route ∧
      route.map Step.join = [⟨⟨0, 0⟩, ⟨1, 0⟩⟩, ⟨⟨1, 0⟩, ⟨2, 0⟩⟩]) ∧
    (∃ first second, first ≠ second ∧ IsShortest forkedCatalog.relations [0] 3 first ∧
      IsShortest forkedCatalog.relations [0] 3 second) ∧
    ∀ route, ¬ IsRoute forkedCatalog.relations [0] 4 route := by
  have exact := @inferPath_exact forkedCatalog [0] (by decide)
    (by simp [forkedCatalog, linking, Catalog.HasModel])
    (by simp [forkedCatalog, Catalog.HasModel]) (by decide)
  have inferred : inferPath forkedCatalog [0] 2 =
      .ok [⟨⟨0, 0⟩, ⟨1, 0⟩⟩, ⟨⟨1, 0⟩, ⟨2, 0⟩⟩] := by decide
  obtain ⟨searched, -, -, only, -⟩ := exact 2
  obtain ⟨-, -, ambiguous, -⟩ := exact 3
  obtain ⟨-, unreachable, -⟩ := exact 4
  obtain ⟨route, isShortest, -, joins⟩ := (only _).1 inferred
  have taken : forkedCatalog.HasModel 2 := by simp [forkedCatalog, Catalog.HasModel]
  exact ⟨searched taken, ⟨route, isShortest, joins.symm⟩, ambiguous.1 (by decide),
    unreachable.1 (by decide)⟩

end Schemata.Analysis
