import Mathlib.Data.List.Basic
import Mathlib.Data.List.Induction
import Mathlib.Logic.Function.Basic
import Schemata.Analysis.JoinPath

/-!
# Routes along relations

A route goes from one of some models to another one, along relations that are walked in either
direction. Its steps carry the number of their relation, so that two relations between the same
columns are two ways to go. Relations in another order have other numbers and the same routes.
-/

namespace Schemata.Analysis

/-! ## Routes -/

/-- A relation, known by its number, that is walked in one of its directions. -/
structure Step where
  relation : Nat
  join : Join

/-- A step walks the relation of its number, in either direction. -/
def Step.Follows (relations : List Relation) (step : Step) : Prop :=
  ∃ relation, relations[step.relation]? = some relation ∧
    (step.join = ⟨relation.left, relation.right⟩ ∨ step.join = ⟨relation.right, relation.left⟩)

/-- Joins lead from a model to another one: each starts where the one before it ended. -/
def Leads : ModelId → List Join → ModelId → Prop
  | start, [], stop => start = stop
  | start, join :: joins, stop => join.left.model = start ∧ Leads join.right.model joins stop

/-- A route to a model: steps along relations that lead to it from one of some models. -/
structure IsRoute (relations : List Relation) (members : List ModelId) (target : ModelId)
    (route : List Step) : Prop where
  follows : ∀ step ∈ route, step.Follows relations
  leads : ∃ start ∈ members, Leads start (route.map Step.join) target

/-- A route that is not longer than any other one to the same model. -/
structure IsShortest (relations : List Relation) (members : List ModelId) (target : ModelId)
    (route : List Step) : Prop extends IsRoute relations members target route where
  shortest : ∀ other, IsRoute relations members target other → route.length ≤ other.length

/-- Joins lead through a model in the middle. -/
theorem leads_append {start stop : ModelId} {front back : List Join} :
    Leads start (front ++ back) stop ↔
      ∃ middle, Leads start front middle ∧ Leads middle back stop := by
  induction front generalizing start with
  | nil => simp [Leads]
  | cons join front inductionHypothesis => simp [Leads, inductionHypothesis, and_assoc]

variable {relations : List Relation} {members visited : List ModelId} {target : ModelId}
  {route other : List Step} {step : Step}

/-- A route with one more step. -/
theorem isRoute_append_singleton :
    IsRoute relations members target (route ++ [step]) ↔
      IsRoute relations members step.join.left.model route ∧ step.Follows relations ∧
        step.join.right.model = target := by
  constructor
  · rintro ⟨follows, start, startMem, leads⟩
    rw [List.map_append, leads_append] at leads
    obtain ⟨middle, leads, rfl, stops⟩ := leads
    rw [List.forall_mem_append] at follows
    exact ⟨⟨follows.1, start, startMem, leads⟩, follows.2 step List.mem_cons_self, stops⟩
  · rintro ⟨⟨follows, start, startMem, leads⟩, stepFollows, stops⟩
    constructor
    · simpa [or_imp, forall_and] using ⟨follows, stepFollows⟩
    · rw [List.map_append]
      exact ⟨start, startMem, leads_append.2 ⟨_, leads, rfl, stops⟩⟩

/-- The route without joins leads to the members. -/
theorem isRoute_nil : IsRoute relations members target [] ↔ target ∈ members := by
  constructor
  · rintro ⟨-, start, startMem, rfl⟩
    exact startMem
  · intro member
    exact ⟨List.forall_mem_nil _, target, member, rfl⟩

/-- What comes after a model that a route may start at is a route too. -/
theorem IsRoute.rest {front back : List Step}
    (isRoute : IsRoute relations members target (front ++ step :: back))
    (known : step.join.right.model ∈ members) : IsRoute relations members target back := by
  obtain ⟨follows, start, -, leads⟩ := isRoute
  rw [List.map_append, leads_append] at leads
  obtain ⟨middle, -, -, leads⟩ := leads
  rw [List.forall_mem_append, List.forall_mem_cons] at follows
  exact ⟨follows.2.2, _, known, leads⟩

namespace IsShortest

/-- All but the last step of a shortest route is a shortest route. -/
theorem front (isShortest : IsShortest relations members target (route ++ [step])) :
    IsShortest relations members step.join.left.model route := by
  obtain ⟨isRoute, follows, stops⟩ := isRoute_append_singleton.1 isShortest.toIsRoute
  refine ⟨isRoute, fun other otherRoute => ?_⟩
  have longer := isShortest.shortest _ (isRoute_append_singleton.2 ⟨otherRoute, follows, stops⟩)
  simpa using longer

/-- Between its ends, a shortest route keeps away from the models that it may start at. -/
theorem not_mem_of_mem_dropLast (isShortest : IsShortest relations members target route) :
    ∀ step ∈ route.dropLast, step.join.right.model ∉ members := by
  intro step stepMem known
  obtain ⟨front, back, split⟩ := List.append_of_mem stepMem
  have nonempty : route ≠ [] := by
    rintro rfl
    cases stepMem
  have whole : route = front ++ step :: (back ++ [route.getLast nonempty]) := by
    conv_lhs => rw [← List.dropLast_append_getLast nonempty, split]
    simp
  -- What is left behind the step would be a route of its own.
  have isRoute := isShortest.toIsRoute
  rw [whole] at isRoute
  have shorter := isShortest.shortest _ (isRoute.rest known)
  have lengths := congrArg List.length whole
  simp only [List.length_append, List.length_cons] at lengths shorter
  omega

end IsShortest

/-! ## Relations in another order -/

/-- Numbers behind a first relation that stays where it is. -/
def renumberTail (renumber : Nat → Nat) : Nat → Nat
  | 0 => 0
  | number + 1 => renumber number + 1

/-- Numbers when the first two relations change places. -/
def exchangeFirst : Nat → Nat
  | 0 => 1
  | 1 => 0
  | number + 2 => number + 2

/-- In another order, every relation has a number of its own. -/
theorem exists_renumbering {reordered : List Relation} (perm : relations.Perm reordered) :
    ∃ renumber : Nat → Nat, Function.Injective renumber ∧
      ∀ number, reordered[renumber number]? = relations[number]? := by
  induction perm with
  | nil => exact ⟨id, Function.injective_id, fun _ => rfl⟩
  | cons relation _ inductionHypothesis =>
      obtain ⟨renumber, injective, same⟩ := inductionHypothesis
      refine ⟨renumberTail renumber, ?_, ?_⟩
      · rintro (_ | first) (_ | second) equal
        · rfl
        · cases equal
        · cases equal
        · exact congrArg (· + 1) (injective (Nat.succ.inj equal))
      · rintro (_ | number)
        · rfl
        · simpa [renumberTail] using same number
  | swap first second others =>
      refine ⟨exchangeFirst, ?_, ?_⟩
      · rintro (_ | _ | first) (_ | _ | second) equal <;> simp_all [exchangeFirst]
      · rintro (_ | _ | number) <;> rfl
  | trans _ _ first second =>
      obtain ⟨renumber, injective, same⟩ := first
      obtain ⟨renumberAgain, injectiveAgain, sameAgain⟩ := second
      refine ⟨renumberAgain ∘ renumber, injectiveAgain.comp injective, fun number => ?_⟩
      exact (sameAgain _).trans (same number)

/-- A step with another number for its relation. -/
def Step.renumber (renumber : Nat → Nat) (step : Step) : Step :=
  ⟨renumber step.relation, step.join⟩

/-- A route stays one when its relations are renumbered. -/
theorem IsRoute.renumber {reordered : List Relation} {renumber : Nat → Nat}
    (same : ∀ number, reordered[renumber number]? = relations[number]?)
    (isRoute : IsRoute relations members target route) :
    IsRoute reordered members target (route.map (Step.renumber renumber)) where
  follows := by
    rw [List.forall_mem_map]
    intro step stepMem
    obtain ⟨relation, found, directed⟩ := isRoute.follows step stepMem
    exact ⟨relation, (same _).trans found, directed⟩
  leads := by
    rw [List.map_map]
    exact isRoute.leads

/-- A shortest route stays one when its relations are put into another order. -/
theorem IsShortest.renumber {reordered : List Relation} {renumber : Nat → Nat}
    (perm : relations.Perm reordered)
    (same : ∀ number, reordered[renumber number]? = relations[number]?)
    (isShortest : IsShortest relations members target route) :
    IsShortest reordered members target (route.map (Step.renumber renumber)) := by
  refine ⟨isShortest.toIsRoute.renumber same, fun other otherRoute => ?_⟩
  obtain ⟨renumberBack, -, sameBack⟩ := exists_renumbering perm.symm
  simpa using isShortest.shortest _ (otherRoute.renumber sameBack)

/-! ## Steps along a relation -/

/-- The step from a model along a relation between two models, in the direction away from it. -/
theorem stepFrom?_eq_some_iff {relation : Relation}
    (differ : relation.left.model ≠ relation.right.model) {place : ModelId} {join : Join} :
    stepFrom? place relation = some join ↔
      (join = ⟨relation.left, relation.right⟩ ∨ join = ⟨relation.right, relation.left⟩) ∧
        join.left.model = place := by
  unfold stepFrom?
  split_ifs with isLeft isRight
  · constructor
    · rintro ⟨⟩
      exact ⟨.inl rfl, isLeft⟩
    · rintro ⟨rfl | rfl, starts⟩
      · rfl
      · exact absurd (isLeft.trans starts.symm) differ
  · constructor
    · rintro ⟨⟩
      exact ⟨.inr rfl, isRight⟩
    · rintro ⟨rfl | rfl, starts⟩
      · exact absurd starts isLeft
      · rfl
  · constructor
    · rintro ⟨⟩
    · rintro ⟨rfl | rfl, starts⟩
      · exact absurd starts isLeft
      · exact absurd starts isRight

end Schemata.Analysis
