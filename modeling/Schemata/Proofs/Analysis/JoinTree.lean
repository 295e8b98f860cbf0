import Schemata.Proofs.Analysis.Surveys

/-!
# Join trees

The joins of a query form a tree that grows from the models it has already: every join
starts at one of them, follows a relation, and brings in a model that was not there.
Inferred joins are such a tree. They are read back from the steps that reached each model
first, and such a step ends one step further away than it starts; so every join brings in
a model that is further away than all models before it (`Survey.Rooted.grown`).
-/

namespace Schemata

/-- A join that brings a new model into a query with some models, along a relation. -/
structure JoinStep (relations : List Relation) (members : List ModelId) (join : Join) : Prop where
  left_mem : join.left.model ∈ members
  right_new : join.right.model ∉ members
  related : ∃ relation ∈ relations, relation.connects join.left join.right = true

/-- The models that joins bring in, in order. -/
def joinedModels (joins : List Join) : List ModelId :=
  joins.map (·.right.model)

/-- Joins that grow a query from some models: each is a step from the models before it. -/
def JoinTree (relations : List Relation) : List ModelId → List Join → Prop
  | _, [] => True
  | members, join :: joins =>
    JoinStep relations members join ∧ JoinTree relations (members ++ [join.right.model]) joins

/-- A tree goes on growing from the models that its first part leads to. -/
theorem joinTree_append {relations : List Relation} {members : List ModelId}
    {first second : List Join} :
    JoinTree relations members (first ++ second) ↔
      JoinTree relations members first ∧
        JoinTree relations (members ++ joinedModels first) second := by
  induction first generalizing members with
  | nil => simp [JoinTree, joinedModels]
  | cons join first inductionHypothesis =>
      simp [JoinTree, joinedModels, inductionHypothesis, and_assoc]

namespace Analysis

/-- Joins that are read back grow from the members, to models that are further and further away. -/
theorem Survey.Rooted.grown {relations : List Relation} {members : List ModelId} {survey : Survey}
    (rooted : survey.Rooted relations members) {place : ModelId} {joins : List Join}
    (traces : survey.Traces place joins) {distance : Nat}
    (known : survey.distance place = some distance) :
    JoinTree relations members joins ∧ place ∈ members ++ joinedModels joins ∧
      ∀ model ∈ members ++ joinedModels joins,
        ∃ nearer ≤ distance, survey.distance model = some nearer := by
  induction traces generalizing distance with
  | start notArrived =>
    refine ⟨trivial, ?_, ?_⟩
    · exact List.mem_append_left _ (rooted.started _ _ known notArrived)
    · intro model member
      have isMember : model ∈ members := by simpa [joinedModels] using member
      exact ⟨0, Nat.zero_le _, rooted.member model isMember⟩
  | @step place join joins arrived before inductionHypothesis =>
    obtain ⟨rfl, related, here, left, right⟩ := rooted.arrived place join arrived
    obtain rfl : here + 1 = distance := by simpa using right.symm.trans known
    obtain ⟨tree, leftMem, nearby⟩ := inductionHypothesis left
    have isNew : join.right.model ∉ members ++ joinedModels joins := by
      intro member
      obtain ⟨nearer, bound, reached⟩ := nearby _ member
      have same : nearer = here + 1 := by simpa using reached.symm.trans right
      omega
    have joined : members ++ joinedModels (joins ++ [join]) =
        members ++ joinedModels joins ++ [join.right.model] := by
      simp [joinedModels]
    rw [joined]
    refine ⟨joinTree_append.2 ⟨tree, ⟨leftMem, isNew, related⟩, trivial⟩, by simp, ?_⟩
    intro model member
    rcases List.mem_append.1 member with old | new
    · obtain ⟨nearer, bound, reached⟩ := nearby model old
      exact ⟨nearer, Nat.le_succ_of_le bound, reached⟩
    · rw [List.mem_singleton.1 new]
      exact ⟨here + 1, Nat.le_refl _, right⟩

/-- A path was found by a search that gives an outcome. -/
theorem searchPath_of_inferPath {catalog : Catalog} {members : List ModelId} {target : ModelId}
    {joins : List Join} (inferred : inferPath catalog members target = .ok joins) :
    searchPath catalog members target = some (.ok joins) := by
  unfold inferPath at inferred
  cases found : searchPath catalog members target with
  | none => simp [found] at inferred
  | some outcome =>
    rw [found, Option.getD_some] at inferred
    rw [inferred]

/-- Inferred joins grow from the models that are there and bring in the target. -/
theorem inferPath_ok {catalog : Catalog} {members : List ModelId} {target : ModelId}
    {joins : List Join} (inferred : inferPath catalog members target = .ok joins) :
    JoinTree catalog.relations members joins ∧ target ∈ members ++ joinedModels joins := by
  obtain ⟨search, surveyed, found⟩ := surveyed_of_searchPath (searchPath_of_inferPath inferred)
  obtain ⟨single, traces⟩ := Search.answers_of_outcome found
  obtain ⟨distance, known⟩ := surveyed.rooted.counted target (by omega)
  obtain ⟨tree, brought, -⟩ := surveyed.rooted.grown traces known
  exact ⟨tree, brought⟩

end Analysis

end Schemata
