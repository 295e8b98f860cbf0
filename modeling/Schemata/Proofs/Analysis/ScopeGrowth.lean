import Schemata.Proofs.Analysis.JoinTree
import Schemata.Proofs.Analysis.Resolution

/-!
# How the scope of a query grows

A query is resolved step by step: explicit joins, models brought in for projections, models
brought in for each side of a condition. All these steps do one thing to the scope: they
add a tree of joins to it (`Scope.Grows`). Growing is transitive and never loses a model,
so what a step says about the models of a query stays true to its end.
-/

namespace Schemata.Analysis

open Checked

namespace Scope

/-- One scope grows into another by a tree of joins. -/
def Grows (relations : List Relation) (before after : Scope) : Prop :=
  ∃ joins, JoinTree relations before.members joins ∧ after = before.join joins

/-- Joins add the models that they lead to, behind the members. -/
theorem members_join (scope : Scope) (joins : List Join) :
    (scope.join joins).members = scope.members ++ joinedModels joins := by
  simp [members, join, joinedModels]

/-- A scope contains exactly its members. -/
theorem contains_eq_true {scope : Scope} {model : ModelId} :
    scope.contains model = true ↔ model ∈ scope.members := by
  simp [contains]

/-- A scope does not contain what is no member. -/
theorem contains_eq_false {scope : Scope} {model : ModelId} :
    scope.contains model = false ↔ model ∉ scope.members := by
  simp [contains]

variable {relations : List Relation} {before middle after : Scope}

/-- A scope grows into itself, by no joins. -/
theorem Grows.refl (scope : Scope) : scope.Grows relations scope :=
  ⟨[], trivial, by simp [join]⟩

/-- A scope grows step by step. -/
theorem Grows.trans (first : before.Grows relations middle)
    (second : middle.Grows relations after) : before.Grows relations after := by
  obtain ⟨firstJoins, firstTree, rfl⟩ := first
  obtain ⟨secondJoins, secondTree, rfl⟩ := second
  refine ⟨firstJoins ++ secondJoins, joinTree_append.2 ⟨firstTree, ?_⟩, ?_⟩
  · rwa [members_join] at secondTree
  · simp [join]

/-- A single join step lets a scope grow. -/
theorem Grows.single {scope : Scope} {join : Join}
    (step : JoinStep relations scope.members join) : scope.Grows relations (scope.join [join]) :=
  ⟨[join], ⟨step, trivial⟩, rfl⟩

/-- A growing scope keeps its models. -/
theorem Grows.mem {model : ModelId} (grows : before.Grows relations after)
    (member : model ∈ before.members) : model ∈ after.members := by
  obtain ⟨joins, _, rfl⟩ := grows
  rw [members_join]
  exact List.mem_append_left _ member

/-- A growing scope keeps its base. -/
theorem Grows.base (grows : before.Grows relations after) : after.base = before.base := by
  obtain ⟨_, _, rfl⟩ := grows
  rfl

/-- What grew from a single model is a tree of joins from that model. -/
theorem Grows.tree {base : ModelId} (grows : Grows relations ⟨base, []⟩ after) :
    JoinTree relations [base] after.joins := by
  obtain ⟨joins, tree, rfl⟩ := grows
  simpa [join, members] using tree

end Scope

/-! ## Joins -/

/-- An explicit join lets a scope grow. -/
theorem joinExplicitly_ensures (catalog : Catalog) (scope : Scope)
    (declared : Declaration.Join) :
    (joinExplicitly catalog scope declared).Ensures (scope.Grows catalog.relations) := by
  refine (resolveColumn_ensures catalog declared.left).bind ?_
  rintro _ ⟨left, rfl, -⟩
  refine (resolveColumn_ensures catalog declared.right).bind ?_
  rintro _ ⟨right, rfl, -⟩
  dsimp only
  split
  next related =>
    obtain ⟨relation, relationMem, connects⟩ := List.any_eq_true.1 related
    split
    next leftIn rightOut =>
      exact ensures_pure (.single ⟨Scope.contains_eq_true.1 leftIn,
        Scope.contains_eq_false.1 rightOut, relation, relationMem, connects⟩)
    next leftOut rightIn =>
      -- The join was written against its direction in the tree; a relation connects both ways.
      have flipped : relation.connects right left = true := by
        simpa [Relation.connects, or_comm] using connects
      exact ensures_pure (.single ⟨Scope.contains_eq_true.1 rightIn,
        Scope.contains_eq_false.1 leftOut, relation, relationMem, flipped⟩)
    next => exact ensures_report_bind
    next => exact ensures_report_bind
  next => exact ensures_report_bind

/-- All explicit joins let a scope grow. -/
theorem joinAllExplicitly_ensures (catalog : Catalog) (scope : Scope)
    (declared : List Declaration.Join) :
    (declared.foldlM (joinExplicitly catalog) scope).Ensures (scope.Grows catalog.relations) := by
  refine ensures_foldlM _ (fun _ after => scope.Grows catalog.relations after) ?_ _ _ (.refl scope)
  intro item _ state grows
  exact (joinExplicitly_ensures catalog state item).mono fun _ more => grows.trans more

/-- A model that is brought in lets the scope grow and is there afterwards. -/
theorem reach_ensures (catalog : Catalog) (position : Position) (scope : Scope)
    (model : ModelId) :
    (reach catalog position scope model).Ensures fun after =>
      scope.Grows catalog.relations after ∧ model ∈ after.members := by
  unfold reach
  split
  next known => exact ensures_pure ⟨.refl scope, Scope.contains_eq_true.1 known⟩
  next =>
    dsimp only
    split
    next joins inferred =>
      obtain ⟨tree, reached⟩ := inferPath_ok inferred
      exact ensures_pure ⟨⟨joins, tree, rfl⟩, by rwa [Scope.members_join]⟩
    next => exact ensures_report_bind
    next => exact ensures_report_bind

/-- All models that are brought in are there at the end. -/
theorem reachAll_ensures (catalog : Catalog) (position : Position) (scope : Scope)
    (models : List ModelId) :
    (models.foldlM (reach catalog position) scope).Ensures fun after =>
      scope.Grows catalog.relations after ∧ ∀ model ∈ models, model ∈ after.members := by
  have run := ensures_foldlM (reach catalog position)
    (fun remaining after => scope.Grows catalog.relations after ∧
      ∀ model ∈ models, model ∈ remaining ∨ model ∈ after.members) ?_ models scope
    ⟨.refl scope, fun _ member => .inl member⟩
  · refine run.mono fun after holds => ⟨holds.1, fun model member => ?_⟩
    simpa using holds.2 model member
  · rintro item remaining state ⟨grows, pending⟩
    refine (reach_ensures catalog position state item).mono ?_
    rintro after ⟨more, reached⟩
    refine ⟨grows.trans more, fun model member => ?_⟩
    rcases pending model member with waiting | present
    · rcases List.mem_cons.1 waiting with rfl | later
      · exact .inr reached
      · exact .inl later
    · exact .inr (more.mem present)

end Schemata.Analysis
