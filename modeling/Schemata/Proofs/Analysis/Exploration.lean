import Mathlib.Data.List.Nodup
import Schemata.Proofs.Analysis.Routes
import Schemata.Proofs.Analysis.Surveys

/-!
# What a search explores

A search counts routes without having them. Here it has them: beside its survey there is a list of
routes for every model (`Explored`), of which the survey knows the common length, how many there
are, up to two, and the last step of the first one. A step appends one more route for each route
that leads to where it starts. The models that wait are in the order of their distances
(`Frontier`), so that a model has all its routes when its turn comes, and each step is taken once
(`Turn`). When no model waits, the lists hold exactly the shortest routes (`Finished`).
-/

namespace Schemata.Analysis

/-! ## Routes that were found -/

/-- The routes that go on along a step. -/
def via (routes : ModelId → List (List Step)) (step : Step) : List (List Step) :=
  (routes step.join.left.model).map (· ++ [step])

/-- The routes to every model, after a step was taken. -/
def gain (routes : ModelId → List (List Step)) (step : Step) : ModelId → List (List Step) :=
  Function.update routes step.join.right.model (routes step.join.right.model ++ via routes step)

section Gain

variable {routes : ModelId → List (List Step)} {step : Step} {id : ModelId} {route : List Step}

/-- The model that a step leads to gains the routes that go on along it. -/
theorem gain_self :
    gain routes step step.join.right.model = routes step.join.right.model ++ via routes step :=
  Function.update_self ..

/-- No other model gains routes by a step. -/
theorem gain_of_ne (other : id ≠ step.join.right.model) : gain routes step id = routes id :=
  Function.update_of_ne other ..

/-- A route is known after a step if it was before, or if it goes on along the step. -/
theorem mem_gain :
    route ∈ gain routes step id ↔ route ∈ routes id ∨
      id = step.join.right.model ∧ ∃ front ∈ routes step.join.left.model,
        route = front ++ [step] := by
  by_cases same : id = step.join.right.model
  · subst same
    simp [gain_self, via, eq_comm]
  · simp [gain_of_ne same, same]

/-- The first route to a model stays the first one. -/
theorem head?_gain (first : (routes id).head? = some route) :
    (gain routes step id).head? = some route := by
  by_cases same : id = step.join.right.model
  · subst same
    rw [gain_self, List.head?_append, first]
    rfl
  · rw [gain_of_ne same, first]

end Gain

/--
What a survey knows about the routes to every model that were found along the steps that were
passed: their common length, how many there are, up to two, and the last step of the first one.
-/
structure Explored (relations : List Relation) (members : List ModelId) (passed : List Step)
    (routes : ModelId → List (List Step)) (survey : Survey) : Prop where
  isRoute : ∀ {id route}, route ∈ routes id → IsRoute relations members id route
  length : ∀ {id route}, route ∈ routes id → survey.distance id = some route.length
  reached : ∀ {id distance}, survey.distance id = some distance → routes id ≠ []
  nodup : ∀ id, (routes id).Nodup
  count : ∀ id, survey.count id = min 2 (routes id).length
  started : ∀ member ∈ members, [] ∈ routes member
  last : ∀ {id route step}, route ++ [step] ∈ routes id → step ∈ passed
  near : ∀ step ∈ passed, ∃ here there, survey.distance step.join.left.model = some here ∧
    survey.distance step.join.right.model = some there ∧ there ≤ here + 1
  extended : ∀ step ∈ passed, ∀ route ∈ routes step.join.left.model,
    survey.distance step.join.right.model = some (route.length + 1) →
      route ++ [step] ∈ routes step.join.right.model
  arrival : ∀ {id route step}, (routes id).head? = some (route ++ [step]) →
    survey.arrival id = some step.join ∧ (routes step.join.left.model).head? = some route
  noArrival : ∀ {id}, (routes id).head? = some [] → survey.arrival id = none

namespace Explored

variable {relations : List Relation} {members : List ModelId} {passed : List Step}
  {routes : ModelId → List (List Step)} {survey : Survey} {step : Step} {here : Nat}

/-- At the start, every member has the empty route. -/
theorem start (relations : List Relation) (members : List ModelId) :
    Explored relations members [] (fun id => if id ∈ members then [[]] else [])
      (Survey.start members) where
  isRoute {id route} found := by
    split at found
    · next isMember =>
      rw [List.mem_singleton.1 found]
      exact isRoute_nil.2 isMember
    · cases found
  length {id route} found := by
    split at found
    · next isMember =>
      rw [List.mem_singleton.1 found]
      exact if_pos isMember
    · cases found
  reached {id distance} known := by
    have isMember : id ∈ members := by
      by_contra notMember
      cases known.symm.trans (if_neg notMember)
    simp [isMember]
  nodup id := by split <;> simp
  count id := by
    by_cases isMember : id ∈ members <;> simp [Survey.start, isMember]
  started member isMember := by simp [isMember]
  last {id route step} found := by
    split at found
    · simp at found
    · cases found
  near step isPassed := by cases isPassed
  extended step isPassed := by cases isPassed
  arrival {id route step} first := by
    split at first
    · simp at first
    · cases first
  noArrival _ := rfl

/-- No route is known to a model that was not reached. -/
theorem routes_eq_nil (explored : Explored relations members passed routes survey) {id : ModelId}
    (fresh : survey.distance id = none) : routes id = [] := by
  rw [List.eq_nil_iff_forall_not_mem]
  intro route found
  cases fresh.symm.trans (explored.length found)

end Explored

/-! ## A step further -/

/--
A step from a model to one that is a step further away: one that was not reached before, and now is
by this step, or one that was reached from elsewhere, to which there are now more ways.
-/
structure GoesOn (survey after : Survey) (step : Step) (here : Nat) : Prop where
  left : survey.distance step.join.left.model = some here
  distance : after.distance =
    Function.update survey.distance step.join.right.model (some (here + 1))
  count : after.count = Function.update survey.count step.join.right.model
    (min 2 (survey.count step.join.right.model + survey.count step.join.left.model))
  arrival : survey.distance step.join.right.model = none ∧
      after.arrival = Function.update survey.arrival step.join.right.model (some step.join) ∨
    survey.distance step.join.right.model = some (here + 1) ∧ after.arrival = survey.arrival

namespace GoesOn

variable {survey after : Survey} {step : Step} {here known : Nat} {id : ModelId}

/-- The step leads one further than where it starts. -/
theorem right (goesOn : GoesOn survey after step here) :
    after.distance step.join.right.model = some (here + 1) := by
  rw [goesOn.distance, Function.update_self]

/-- A model that was reached stays where it is. -/
theorem distance_eq (goesOn : GoesOn survey after step here)
    (isKnown : survey.distance id = some known) : after.distance id = some known := by
  by_cases same : id = step.join.right.model
  · subst same
    rcases goesOn.arrival with ⟨fresh, -⟩ | ⟨further, -⟩
    · cases fresh.symm.trans isKnown
    · rw [goesOn.right, ← further, isKnown]
  · rw [goesOn.distance, Function.update_of_ne same, isKnown]

/-- The step does not end at a model that is as near as where it starts. -/
theorem ne_right (goesOn : GoesOn survey after step here)
    (isKnown : survey.distance id = some known) (bound : known ≤ here) :
    id ≠ step.join.right.model := by
  rintro rfl
  have same : known = here + 1 := by
    simpa using (goesOn.distance_eq isKnown).symm.trans goesOn.right
  omega

/-- The step leads to another model than where it starts. -/
theorem left_ne_right (goesOn : GoesOn survey after step here) :
    step.join.left.model ≠ step.join.right.model :=
  goesOn.ne_right goesOn.left (Nat.le_refl _)

end GoesOn

namespace Explored

variable {relations : List Relation} {members : List ModelId} {passed : List Step}
  {routes : ModelId → List (List Step)} {survey after : Survey} {step : Step} {here : Nat}

section Gain

variable (explored : Explored relations members passed routes survey)
  (goesOn : GoesOn survey after step here)

include explored goesOn

/-- The routes to a model are as long as its distance, also behind the step. -/
theorem length_gain {id : ModelId} {route : List Step} (found : route ∈ gain routes step id) :
    after.distance id = some route.length := by
  rcases mem_gain.1 found with found | ⟨rfl, front, foundFront, rfl⟩
  · exact goesOn.distance_eq (explored.length found)
  · have length : front.length = here := by
      simpa using (explored.length foundFront).symm.trans goesOn.left
    rw [goesOn.right, List.length_append, length, List.length_singleton]

/-- Every model that was reached has a route, also behind the step. -/
theorem gain_ne_nil {id : ModelId} {distance : Nat} (known : after.distance id = some distance) :
    gain routes step id ≠ [] := by
  by_cases same : id = step.join.right.model
  · subst same
    have goOn : via routes step ≠ [] := by simpa [via] using explored.reached goesOn.left
    simp [gain_self, goOn]
  · rw [goesOn.distance, Function.update_of_ne same] at known
    rw [gain_of_ne same]
    exact explored.reached known

/-- The routes to a model are counted up to two, also behind the step. -/
theorem count_gain (id : ModelId) : after.count id = min 2 (gain routes step id).length := by
  by_cases same : id = step.join.right.model
  · subst same
    rw [goesOn.count, Function.update_self, gain_self, explored.count, explored.count,
      List.length_append, via, List.length_map]
    omega
  · rw [goesOn.count, Function.update_of_ne same, gain_of_ne same, explored.count]

/-- The steps that were passed lead at most one further, also behind this step. -/
theorem near_gain (other : Step) (isPassed : other ∈ passed ++ [step]) :
    ∃ here there, after.distance other.join.left.model = some here ∧
      after.distance other.join.right.model = some there ∧ there ≤ here + 1 := by
  rcases List.mem_append.1 isPassed with isPassed | isNew
  · obtain ⟨here, there, left, right, bound⟩ := explored.near other isPassed
    exact ⟨here, there, goesOn.distance_eq left, goesOn.distance_eq right, bound⟩
  · rw [List.mem_singleton.1 isNew]
    exact ⟨here, here + 1, goesOn.distance_eq goesOn.left, goesOn.right, Nat.le_refl _⟩

/-- No step that was passed starts where the new routes end, so they go on nowhere yet. -/
theorem extended_gain
    (settled : ∀ other ∈ passed, ∃ distance ≤ here,
      survey.distance other.join.left.model = some distance)
    (other : Step) (isPassed : other ∈ passed ++ [step]) (route : List Step)
    (found : route ∈ gain routes step other.join.left.model)
    (further : after.distance other.join.right.model = some (route.length + 1)) :
    route ++ [other] ∈ gain routes step other.join.right.model := by
  rcases List.mem_append.1 isPassed with isPassed | isNew
  · obtain ⟨nearer, bound, known⟩ := settled other isPassed
    rw [gain_of_ne (goesOn.ne_right known bound)] at found
    obtain ⟨-, there, -, right, -⟩ := explored.near other isPassed
    have same : there = route.length + 1 := by
      simpa using (goesOn.distance_eq right).symm.trans further
    exact mem_gain.2 (.inl (explored.extended other isPassed route found (same ▸ right)))
  · obtain rfl := List.mem_singleton.1 isNew
    rw [gain_of_ne goesOn.left_ne_right] at found
    exact mem_gain.2 (.inr ⟨rfl, route, found, rfl⟩)

/--
The first route to a model is the first one it had, unless the step has reached the model: then it
is the first route to where the step starts, and the step.
-/
theorem head?_gain_cases {id : ModelId} {route : List Step}
    (first : (gain routes step id).head? = some route) :
    (routes id).head? = some route ∧ after.arrival id = survey.arrival id ∨
      ∃ front, (routes step.join.left.model).head? = some front ∧ route = front ++ [step] ∧
        after.arrival id = some step.join := by
  by_cases same : id = step.join.right.model
  · subst same
    rcases goesOn.arrival with ⟨fresh, arrival⟩ | ⟨further, arrival⟩
    · rw [gain_self, explored.routes_eq_nil fresh, List.nil_append, via, List.head?_map,
        Option.map_eq_some_iff] at first
      obtain ⟨front, first, rfl⟩ := first
      exact .inr ⟨front, first, rfl, by rw [arrival, Function.update_self]⟩
    · obtain ⟨old, others, shape⟩ := List.exists_cons_of_ne_nil (explored.reached further)
      have unchanged : (routes step.join.right.model).head? = some old := by rw [shape]; rfl
      rw [head?_gain unchanged] at first
      exact .inl ⟨unchanged.trans first, by rw [arrival]⟩
  · rw [gain_of_ne same] at first
    refine .inl ⟨first, ?_⟩
    rcases goesOn.arrival with ⟨-, arrival⟩ | ⟨-, arrival⟩
    · rw [arrival, Function.update_of_ne same]
    · rw [arrival]

/-- A step further that is taken for the first time gains routes. -/
theorem gained (follows : step.Follows relations) (notPassed : step ∉ passed)
    (settled : ∀ other ∈ passed, ∃ distance ≤ here,
      survey.distance other.join.left.model = some distance) :
    Explored relations members (passed ++ [step]) (gain routes step) after where
  isRoute {id route} found := by
    rcases mem_gain.1 found with found | ⟨rfl, front, foundFront, rfl⟩
    · exact explored.isRoute found
    · exact isRoute_append_singleton.2 ⟨explored.isRoute foundFront, follows, rfl⟩
  length := explored.length_gain goesOn
  reached := explored.gain_ne_nil goesOn
  nodup id := by
    by_cases same : id = step.join.right.model
    · subst same
      rw [gain_self]
      refine (explored.nodup _).append ?_ ?_
      · exact (explored.nodup _).map (List.append_left_injective [step])
      · intro route found foundVia
        obtain ⟨front, -, rfl⟩ := List.mem_map.1 foundVia
        exact notPassed (explored.last found)
    · rw [gain_of_ne same]
      exact explored.nodup id
  count := explored.count_gain goesOn
  started member isMember := mem_gain.2 (.inl (explored.started member isMember))
  last {id route other} found := by
    rcases mem_gain.1 found with found | ⟨-, front, -, same⟩
    · exact List.mem_append_left _ (explored.last found)
    · have same : other = step := by simpa using (List.append_inj' same rfl).2
      exact List.mem_append_right _ (List.mem_singleton.2 same)
  near := explored.near_gain goesOn
  extended := explored.extended_gain goesOn settled
  arrival {id route other} first := by
    rcases explored.head?_gain_cases goesOn first with
      ⟨first, arrival⟩ | ⟨front, first, same, arrival⟩
    · obtain ⟨arrived, before⟩ := explored.arrival first
      exact ⟨arrival.trans arrived, head?_gain before⟩
    · obtain ⟨rfl, last⟩ := List.append_inj' same rfl
      obtain rfl : other = step := by simpa using last
      exact ⟨arrival, head?_gain first⟩
  noArrival {id} first := by
    rcases explored.head?_gain_cases goesOn first with ⟨first, arrival⟩ | ⟨front, -, same, -⟩
    · exact arrival.trans (explored.noArrival first)
    · simp at same

end Gain

/-- A step that leads no further gains nothing. -/
theorem passedBy (explored : Explored relations members passed routes survey)
    {there : Nat} (left : survey.distance step.join.left.model = some here)
    (right : survey.distance step.join.right.model = some there) (bound : there ≤ here) :
    Explored relations members (passed ++ [step]) routes survey :=
  { explored with
    last := fun found => List.mem_append_left _ (explored.last found)
    near := by
      intro other isPassed
      rcases List.mem_append.1 isPassed with isPassed | isNew
      · exact explored.near other isPassed
      · rw [List.mem_singleton.1 isNew]
        exact ⟨here, there, left, right, Nat.le_succ_of_le bound⟩
    extended := by
      intro other isPassed route found further
      rcases List.mem_append.1 isPassed with isPassed | isNew
      · exact explored.extended other isPassed route found further
      · obtain rfl := List.mem_singleton.1 isNew
        have length : route.length = here := by simpa using (explored.length found).symm.trans left
        have same : there = route.length + 1 := by simpa using right.symm.trans further
        omega }

/-- A model that was not reached is a step further away from then on. -/
theorem goesOn_discover (explored : Explored relations members passed routes survey)
    (left : survey.distance step.join.left.model = some here)
    (fresh : survey.distance step.join.right.model = none) :
    GoesOn survey (survey.discover here step.join) step here where
  left := left
  distance := rfl
  count := by
    have none : survey.count step.join.right.model = 0 := by
      rw [explored.count, explored.routes_eq_nil fresh]
      rfl
    have two : survey.count step.join.left.model ≤ 2 := by
      rw [explored.count]
      exact Nat.min_le_left ..
    rw [none, Nat.zero_add, Nat.min_eq_right two]
    rfl
  arrival := .inl ⟨fresh, rfl⟩

end Explored

/-- Counting the routes of a step goes on to a model that is one further. -/
theorem goesOn_recount {survey : Survey} {step : Step} {here : Nat}
    (left : survey.distance step.join.left.model = some here)
    (further : survey.distance step.join.right.model = some (here + 1)) :
    GoesOn survey (survey.recount step.join) step here where
  left := left
  distance := (Function.update_eq_self_iff.2 further.symm).symm
  count := rfl
  arrival := .inr ⟨further, rfl⟩

/-! ## Models that wait -/

/--
The models that wait are one level away, and behind these the ones that are one level further. No
step from them was passed. All steps from the other models that were reached were, apart from those
whose turn it is.
-/
structure Frontier (relations : List Relation) (passed : List Step) (survey : Survey) (level : Nat)
    (current near far : List ModelId) : Prop where
  queue : survey.queue = near ++ far
  nodup : (current ++ near ++ far).Nodup
  atLevel : ∀ id ∈ current ++ near, survey.distance id = some level
  further : ∀ id ∈ far, survey.distance id = some (level + 1)
  bound : ∀ {id distance}, survey.distance id = some distance → distance ≤ level + 1
  settled : ∀ step ∈ passed, ∃ distance ≤ level,
    survey.distance step.join.left.model = some distance
  apart : ∀ step ∈ passed, step.join.left.model ∉ near ++ far
  done : ∀ {id distance}, survey.distance id = some distance →
    id ∈ current ++ near ++ far ∨
      ∀ step : Step, step.Follows relations → step.join.left.model = id → step ∈ passed

namespace Frontier

variable {relations : List Relation} {passed : List Step} {survey after : Survey} {level : Nat}
  {place : ModelId} {current near far : List ModelId} {step : Step}

/-- A search starts at its members, with nothing passed. -/
theorem start {members : List ModelId} (relations : List Relation) (nodup : members.Nodup) :
    Frontier relations [] (Survey.start members) 0 [] members [] where
  queue := (List.append_nil members).symm
  nodup := by simpa using nodup
  atLevel id isMember := if_pos isMember
  further id isFar := by cases isFar
  bound {id distance} known := by
    simp only [Survey.start] at known
    split at known
    · cases known
      exact Nat.zero_le _
    · cases known
  settled step isPassed := by cases isPassed
  apart step isPassed := by cases isPassed
  done {id distance} known := by
    apply Or.inl
    by_contra notMember
    rw [List.append_nil] at notMember
    cases known.symm.trans (if_neg notMember)

/-- Every model that waits, or whose turn it is, was reached. -/
theorem exists_distance (frontier : Frontier relations passed survey level current near far)
    {id : ModelId} (waits : id ∈ current ++ near ++ far) :
    ∃ distance, survey.distance id = some distance := by
  rcases List.mem_append.1 waits with isNear | isFar
  · exact ⟨level, frontier.atLevel id isNear⟩
  · exact ⟨level + 1, frontier.further id isFar⟩

/-- When all models of a level had their turn, the next level begins. -/
theorem advance (frontier : Frontier relations passed survey level [] [] far) :
    Frontier relations passed survey (level + 1) [] far [] where
  queue := by simpa using frontier.queue
  nodup := by simpa using frontier.nodup
  atLevel := frontier.further
  further id isFar := by cases isFar
  bound known := Nat.le_succ_of_le (frontier.bound known)
  settled step isPassed := by
    obtain ⟨distance, bound, known⟩ := frontier.settled step isPassed
    exact ⟨distance, Nat.le_succ_of_le bound, known⟩
  apart := by simpa using frontier.apart
  done known := by simpa using frontier.done known

/-- If a model waits, the first one that waits is one level away. -/
theorem exists_near {queue : List ModelId} (waiting : survey.queue = place :: queue)
    (frontier : Frontier relations passed survey level [] near far) :
    ∃ level near far, Frontier relations passed survey level [] (place :: near) far := by
  cases near with
  | cons first near =>
    have same : place :: queue = first :: near ++ far := waiting.symm.trans frontier.queue
    obtain rfl : place = first := (List.cons.inj same).1
    exact ⟨level, near, far, frontier⟩
  | nil =>
    obtain rfl : place :: queue = far := waiting.symm.trans frontier.queue
    exact ⟨level + 1, queue, [], frontier.advance⟩

/-- A step that reaches no model leaves the models that wait as they are. -/
theorem pass (frontier : Frontier relations passed survey level [place] near far)
    (starts : step.join.left.model = place) (distance : after.distance = survey.distance)
    (queue : after.queue = survey.queue) :
    Frontier relations (passed ++ [step]) after level [place] near far where
  queue := queue.trans frontier.queue
  nodup := frontier.nodup
  atLevel := distance ▸ frontier.atLevel
  further := distance ▸ frontier.further
  bound := distance ▸ frontier.bound
  settled other isPassed := by
    rw [distance]
    rcases List.mem_append.1 isPassed with isPassed | isNew
    · exact frontier.settled other isPassed
    · rw [List.mem_singleton.1 isNew, starts]
      exact ⟨level, Nat.le_refl _, frontier.atLevel place (by simp)⟩
  apart other isPassed := by
    rcases List.mem_append.1 isPassed with isPassed | isNew
    · exact frontier.apart other isPassed
    · rw [List.mem_singleton.1 isNew, starts]
      exact (List.nodup_cons.1 frontier.nodup).1
  done known := by
    rw [distance] at known
    refine (frontier.done known).imp_right fun passedAll other follows leaves => ?_
    exact List.mem_append_left _ (passedAll other follows leaves)

/-- A step that reaches a model lets it wait behind all others. -/
theorem discover (frontier : Frontier relations passed survey level [place] near far)
    (starts : step.join.left.model = place)
    (fresh : survey.distance step.join.right.model = none) :
    Frontier relations (passed ++ [step]) (survey.discover level step.join) level [place] near
      (far ++ [step.join.right.model]) := by
  have kept : ∀ {id distance}, survey.distance id = some distance →
      (survey.discover level step.join).distance id = some distance :=
    fun known => Survey.distance_discover fresh known
  have isNew : ∀ {id distance}, survey.distance id = some distance →
      id ≠ step.join.right.model := by
    rintro id distance known rfl
    cases fresh.symm.trans known
  have here := frontier.atLevel place List.mem_cons_self
  exact {
    queue := (congrArg (· ++ [step.join.right.model]) frontier.queue).trans (List.append_assoc ..)
    nodup := by
      rw [← List.append_assoc, List.nodup_append_comm, List.singleton_append, List.nodup_cons]
      refine ⟨fun waits => ?_, frontier.nodup⟩
      obtain ⟨distance, known⟩ := frontier.exists_distance waits
      exact isNew known rfl
    atLevel := fun id isNear => kept (frontier.atLevel id isNear)
    further := by
      intro id isFar
      rcases List.mem_append.1 isFar with isFar | isLast
      · exact kept (frontier.further id isFar)
      · rw [List.mem_singleton.1 isLast]
        exact Survey.distance_discover_self ..
    bound := by
      intro id distance known
      by_cases same : id = step.join.right.model
      · subst same
        simp only [Survey.distance_discover_self, Option.some.injEq] at known
        exact known.ge
      · rw [Survey.distance_discover_of_ne same] at known
        exact frontier.bound known
    settled := by
      intro other isPassed
      rcases List.mem_append.1 isPassed with isPassed | isLast
      · obtain ⟨distance, bound, known⟩ := frontier.settled other isPassed
        exact ⟨distance, bound, kept known⟩
      · rw [List.mem_singleton.1 isLast, starts]
        exact ⟨level, Nat.le_refl _, kept here⟩
    apart := by
      intro other isPassed
      rw [← List.append_assoc, List.mem_append, List.mem_singleton, not_or]
      rcases List.mem_append.1 isPassed with isPassed | isLast
      · obtain ⟨distance, -, known⟩ := frontier.settled other isPassed
        exact ⟨frontier.apart other isPassed, isNew known⟩
      · rw [List.mem_singleton.1 isLast, starts]
        exact ⟨(List.nodup_cons.1 frontier.nodup).1, isNew here⟩
    done := by
      intro id distance known
      by_cases same : id = step.join.right.model
      · simp [same]
      · rw [Survey.distance_discover_of_ne same] at known
        rcases frontier.done known with waits | passedAll
        · rw [← List.append_assoc]
          exact .inl (List.mem_append_left _ waits)
        · exact .inr fun other follows leaves =>
            List.mem_append_left _ (passedAll other follows leaves) }

end Frontier

/-! ## Turns -/

/-- In the turn of a model, its steps along the relations up to a number were passed. -/
structure Turn (relations : List Relation) (passed : List Step) (survey : Survey) (level : Nat)
    (place : ModelId) (number : Nat) (near far : List ModelId) : Prop extends
    Frontier relations passed survey level [place] near far where
  earlier : ∀ step ∈ passed, step.join.left.model = place → step.relation < number
  complete : ∀ step : Step, step.Follows relations → step.join.left.model = place →
    step.relation < number → step ∈ passed

namespace Turn

variable {relations : List Relation} {members : List ModelId} {passed : List Step}
  {routes : ModelId → List (List Step)} {survey after : Survey} {level number : Nat}
  {place : ModelId} {near far : List ModelId} {step : Step}

/-- The first model that waits has its turn. -/
theorem start {queue : List ModelId} (waiting : survey.queue = place :: queue)
    (frontier : Frontier relations passed survey level [] (place :: near) far) :
    Turn relations passed { survey with queue } level place 0 near far where
  queue := (List.cons.inj (waiting.symm.trans frontier.queue)).2
  nodup := frontier.nodup
  atLevel := frontier.atLevel
  further := frontier.further
  bound := frontier.bound
  settled := frontier.settled
  apart step isPassed waits := frontier.apart step isPassed (List.mem_cons_of_mem place waits)
  done := frontier.done
  earlier step isPassed starts := by
    have waits : step.join.left.model ∈ place :: near ++ far := starts ▸ List.mem_cons_self
    exact absurd waits (frontier.apart step isPassed)
  complete step _ _ earlier := absurd earlier (Nat.not_lt_zero _)

/-- After the last relation the turn is over. -/
theorem finish (turn : Turn relations passed survey level place relations.length near far) :
    Frontier relations passed survey level [] near far where
  queue := turn.queue
  nodup := (List.nodup_cons.1 turn.nodup).2
  atLevel id isNear := turn.atLevel id (List.mem_cons_of_mem place isNear)
  further := turn.further
  bound := turn.bound
  settled := turn.settled
  apart := turn.apart
  done {id distance} known := by
    rcases turn.done known with waits | passedAll
    · rcases List.mem_cons.1 waits with rfl | waits
      · refine .inr fun step follows starts => turn.complete step follows starts ?_
        obtain ⟨relation, isRelation, -⟩ := follows
        exact (List.getElem?_eq_some_iff.1 isRelation).1
      · exact .inl waits
    · exact .inr passedAll

/-- A relation that the model has no step along is skipped. -/
theorem skip (turn : Turn relations passed survey level place number near far)
    (none : ∀ other : Step, other.Follows relations → other.join.left.model = place →
      other.relation ≠ number) :
    Turn relations passed survey level place (number + 1) near far where
  toFrontier := turn.toFrontier
  earlier step isPassed leaves := Nat.lt_succ_of_lt (turn.earlier step isPassed leaves)
  complete step follows leaves bound := by
    rcases Nat.lt_succ_iff_lt_or_eq.1 bound with smaller | same
    · exact turn.complete step follows leaves smaller
    · exact absurd same (none step follows leaves)

/-- Passing the step along the next relation goes on with the turn. -/
theorem pass (turn : Turn relations passed survey level place number near far)
    (isNext : step.relation = number)
    (only : ∀ other : Step, other.Follows relations → other.join.left.model = place →
      other.relation = number → other = step)
    {further : List ModelId}
    (frontier : Frontier relations (passed ++ [step]) after level [place] near further) :
    Turn relations (passed ++ [step]) after level place (number + 1) near further where
  toFrontier := frontier
  earlier other isPassed leaves := by
    rcases List.mem_append.1 isPassed with isPassed | isLast
    · exact Nat.lt_succ_of_lt (turn.earlier other isPassed leaves)
    · rw [List.mem_singleton.1 isLast, isNext]
      exact Nat.lt_succ_self number
  complete other follows leaves bound := by
    rcases Nat.lt_succ_iff_lt_or_eq.1 bound with smaller | same
    · exact List.mem_append_left _ (turn.complete other follows leaves smaller)
    · exact List.mem_append_right _ (List.mem_singleton.2 (only other follows leaves same))

end Turn

/-- A search between two turns. -/
def BetweenTurns (relations : List Relation) (members : List ModelId) (survey : Survey) : Prop :=
  ∃ passed routes level near far, Explored relations members passed routes survey ∧
    Frontier relations passed survey level [] near far

/-- A search in the turn of a model, which has come to the relation of a number. -/
def InTurn (relations : List Relation) (members : List ModelId) (place : ModelId) (number : Nat)
    (survey : Survey) : Prop :=
  ∃ passed routes level near far, Explored relations members passed routes survey ∧
    Turn relations passed survey level place number near far

/-- Taking the only step along the next relation keeps the turn going. -/
theorem InTurn.take {relations : List Relation} {members : List ModelId} {survey : Survey}
    {place : ModelId} {number : Nat} {step : Step}
    (inTurn : InTurn relations members place number survey) (follows : step.Follows relations)
    (starts : step.join.left.model = place) (isNext : step.relation = number)
    (only : ∀ other : Step, other.Follows relations → other.join.left.model = place →
      other.relation = number → other = step) :
    InTurn relations members place (number + 1) (survey.take step.join) := by
  obtain ⟨passed, routes, level, near, far, explored, turn⟩ := inTurn
  have notPassed : step ∉ passed := fun isPassed =>
    absurd (turn.earlier step isPassed starts) (isNext ▸ Nat.lt_irrefl _)
  have left : survey.distance step.join.left.model = some level :=
    starts ▸ turn.atLevel place List.mem_cons_self
  rw [Survey.take, left]
  cases right : survey.distance step.join.right.model with
  | none =>
    have goesOn := explored.goesOn_discover left right
    exact ⟨_, _, _, _, _, explored.gained goesOn follows notPassed turn.settled,
      turn.pass isNext only (turn.discover starts right)⟩
  | some there =>
    dsimp only
    split
    · next further =>
      have goesOn := goesOn_recount left (further ▸ right)
      exact ⟨_, _, _, _, _, explored.gained goesOn follows notPassed turn.settled,
        turn.pass isNext only (turn.toFrontier.pass starts rfl rfl)⟩
    · next notFurther =>
      have bound : there ≤ level := by
        have bound := turn.bound right
        omega
      exact ⟨_, _, _, _, _, explored.passedBy left right bound,
        turn.pass isNext only (turn.toFrontier.pass starts rfl rfl)⟩

section Turns

variable {relations : List Relation} {members : List ModelId} {survey : Survey} {place : ModelId}
  {number : Nat} {relation : Relation}
  (distinct : ∀ relation ∈ relations, relation.left.model ≠ relation.right.model)

include distinct

/-- The steps along a relation from a model are the one that a search takes. -/
theorem follows_iff (isRelation : relations[number]? = some relation) {step : Step}
    (starts : step.join.left.model = place) (same : step.relation = number) :
    step.Follows relations ↔ stepFrom? place relation = some step.join := by
  have differ := distinct relation (List.mem_of_getElem? isRelation)
  rw [stepFrom?_eq_some_iff differ]
  constructor
  · rintro ⟨other, isOther, directed⟩
    rw [same, isRelation, Option.some.injEq] at isOther
    subst isOther
    exact ⟨directed, starts⟩
  · rintro ⟨directed, -⟩
    exact ⟨relation, same ▸ isRelation, directed⟩

/-- Taking the step along the next relation, if it touches the model, keeps the turn going. -/
theorem InTurn.follow (inTurn : InTurn relations members place number survey)
    (isRelation : relations[number]? = some relation) :
    InTurn relations members place (number + 1) (survey.follow place relation) := by
  rw [Survey.follow]
  cases found : stepFrom? place relation with
  | none =>
    obtain ⟨passed, routes, level, near, far, explored, turn⟩ := inTurn
    refine ⟨passed, routes, level, near, far, explored, turn.skip ?_⟩
    intro other follows leaves same
    rw [follows_iff distinct isRelation leaves same, found] at follows
    cases follows
  | some join =>
    have starts := (stepFrom?_eq_some found).1
    have follows : Step.Follows relations ⟨number, join⟩ :=
      (follows_iff distinct isRelation starts rfl).2 found
    refine inTurn.take follows starts rfl ?_
    rintro ⟨_, other⟩ otherFollows leaves rfl
    rw [follows_iff distinct isRelation leaves rfl, found, Option.some.injEq] at otherFollows
    rw [otherFollows]

/-- A turn goes through all relations. -/
theorem InTurn.foldl {front back : List Relation} (whole : relations = front ++ back)
    (inTurn : InTurn relations members place front.length survey) :
    InTurn relations members place relations.length (back.foldl (Survey.follow place) survey) := by
  induction back generalizing front survey with
  | nil =>
    rw [List.append_nil] at whole
    exact whole ▸ inTurn
  | cons relation back inductionHypothesis =>
    have isRelation : relations[front.length]? = some relation := by simp [whole]
    have split : relations = (front ++ [relation]) ++ back := by
      rw [whole, List.append_assoc, List.singleton_append]
    rw [List.foldl_cons]
    apply inductionHypothesis split
    rw [List.length_append]
    exact inTurn.follow distinct isRelation

/-- Between two turns, the next model that waits has its turn. -/
theorem BetweenTurns.turn {queue : List ModelId} (waiting : survey.queue = place :: queue)
    (between : BetweenTurns relations members survey) :
    BetweenTurns relations members
      (relations.foldl (Survey.follow place) { survey with queue }) := by
  obtain ⟨passed, routes, level, near, far, explored, frontier⟩ := between
  obtain ⟨level, near, far, frontier⟩ := frontier.exists_near waiting
  have dequeued : Explored relations members passed routes { survey with queue } :=
    { explored with }
  have inTurn : InTurn relations members place 0 { survey with queue } :=
    ⟨passed, routes, level, near, far, dequeued, Turn.start waiting frontier⟩
  obtain ⟨passed, routes, level, near, far, explored, turn⟩ :=
    InTurn.foldl distinct (List.nil_append relations).symm inTurn
  exact ⟨passed, routes, level, near, far, explored, turn.finish⟩

end Turns

/-! ## Finished searches -/

/-- What was explored, and all steps from the models that were reached were passed. -/
structure Finished (relations : List Relation) (members : List ModelId) (passed : List Step)
    (routes : ModelId → List (List Step)) (survey : Survey) : Prop extends
    Explored relations members passed routes survey where
  passedAll : ∀ step : Step, step.Follows relations →
    ∀ distance, survey.distance step.join.left.model = some distance → step ∈ passed

/-- When no model waits, all steps were passed. -/
theorem Surveyed.exists_finished {relations : List Relation} {members : List ModelId}
    {survey : Survey}
    (distinct : ∀ relation ∈ relations, relation.left.model ≠ relation.right.model)
    (nodup : members.Nodup) (surveyed : Surveyed relations members survey) :
    ∃ passed routes, Finished relations members passed routes survey := by
  obtain ⟨turns, run⟩ := surveyed
  have start : BetweenTurns relations members (Survey.start members) :=
    ⟨_, _, _, _, _, Explored.start relations members, Frontier.start relations nodup⟩
  have turn : ∀ survey place queue, survey.queue = place :: queue →
      BetweenTurns relations members survey →
      BetweenTurns relations members
        (relations.foldl (Survey.follow place) { survey with queue }) :=
    fun _ _ _ waiting between => between.turn distinct waiting
  obtain ⟨⟨passed, routes, level, near, far, explored, frontier⟩, empty⟩ :=
    Survey.run_induction turn start run
  refine ⟨passed, routes, explored, fun step follows distance known => ?_⟩
  obtain ⟨rfl, rfl⟩ := List.append_eq_nil_iff.1 (frontier.queue.symm.trans empty)
  rcases frontier.done known with waits | passedAll
  · cases waits
  · exact passedAll step follows rfl

namespace Finished

variable {relations : List Relation} {members : List ModelId} {passed : List Step}
  {routes : ModelId → List (List Step)} {survey : Survey} {id : ModelId} {route : List Step}
  (finished : Finished relations members passed routes survey)

include finished

/-- No route to a model is shorter than its distance. -/
theorem exists_distance_le (isRoute : IsRoute relations members id route) :
    ∃ distance ≤ route.length, survey.distance id = some distance := by
  induction route using List.reverseRecOn generalizing id with
  | nil =>
    have start := finished.started id (isRoute_nil.1 isRoute)
    exact ⟨0, Nat.le_refl _, finished.length start⟩
  | append_singleton route step inductionHypothesis =>
    obtain ⟨frontRoute, follows, rfl⟩ := isRoute_append_singleton.1 isRoute
    obtain ⟨distance, bound, known⟩ := inductionHypothesis frontRoute
    obtain ⟨here, there, left, right, near⟩ :=
      finished.near step (finished.passedAll step follows distance known)
    have same : here = distance := by simpa using left.symm.trans known
    refine ⟨there, ?_, right⟩
    rw [List.length_append, List.length_singleton]
    omega

/-- The routes that were found are the shortest ones. -/
theorem mem_routes_iff : route ∈ routes id ↔ IsShortest relations members id route := by
  constructor
  · intro found
    refine ⟨finished.isRoute found, fun other otherRoute => ?_⟩
    obtain ⟨distance, bound, known⟩ := finished.exists_distance_le otherRoute
    have same : route.length = distance := by
      simpa using (finished.length found).symm.trans known
    exact same ▸ bound
  · intro isShortest
    induction route using List.reverseRecOn generalizing id with
    | nil => exact finished.started id (isRoute_nil.1 isShortest.toIsRoute)
    | append_singleton route step inductionHypothesis =>
      have found := inductionHypothesis isShortest.front
      obtain ⟨-, follows, rfl⟩ := isRoute_append_singleton.1 isShortest.toIsRoute
      have isPassed := finished.passedAll step follows _ (finished.length found)
      -- The model is as far away as the route is long, for a shorter way would be a route too.
      obtain ⟨distance, bound, known⟩ := finished.exists_distance_le isShortest.toIsRoute
      obtain ⟨other, otherFound⟩ := List.exists_mem_of_ne_nil _ (finished.reached known)
      have otherLength : other.length = distance := by
        simpa using (finished.length otherFound).symm.trans known
      have longer := isShortest.shortest other (finished.isRoute otherFound)
      rw [List.length_append, List.length_singleton] at bound longer
      obtain rfl : distance = route.length + 1 := by omega
      exact finished.extended step isPassed route found known

/-- What is read back to a model is the first route to it that was found. -/
theorem joins_eq {joins : List Join} (traces : survey.Traces id joins)
    (first : (routes id).head? = some route) : joins = route.map Step.join := by
  induction traces generalizing route with
  | start notArrived =>
    rcases List.eq_nil_or_concat route with rfl | ⟨front, step, rfl⟩
    · rfl
    · rw [List.concat_eq_append] at first
      cases (finished.arrival first).1.symm.trans notArrived
  | @step place join joins arrived before inductionHypothesis =>
    rcases List.eq_nil_or_concat route with rfl | ⟨front, step, rfl⟩
    · cases (finished.noArrival first).symm.trans arrived
    · rw [List.concat_eq_append] at first ⊢
      obtain ⟨lastArrived, beforeFirst⟩ := finished.arrival first
      obtain rfl : step.join = join := by simpa using lastArrived.symm.trans arrived
      rw [inductionHypothesis beforeFirst, List.map_append]
      rfl

end Finished

end Schemata.Analysis
