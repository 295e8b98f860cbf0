import Mathlib.Data.Finset.Card
import Mathlib.Data.Finset.Range
import Mathlib.Data.List.Induction
import Mathlib.Logic.Function.Basic
import Schemata.Analysis.JoinPath

/-!
# What a search knows

The tables of a search are read as functions of the model (`Search.survey`). Whenever a step of the
search succeeds, it does to these functions what the step is meant to do (`survey_take`), so that
nothing about what a search finds has to be shown of its tables. What is reached hangs on what was
reached before it (`Survey.Rooted`), and the way that is read back follows this (`Survey.Traces`).
-/

namespace Schemata.Analysis

/-- What a search knows about every model, and the models that wait for their turn. -/
@[ext]
structure Survey where
  distance : ModelId → Option Nat
  count : ModelId → Nat
  arrival : ModelId → Option Join
  queue : List ModelId

namespace Survey

/-- Nothing is known. -/
def blank : Survey :=
  ⟨fun _ => none, fun _ => 0, fun _ => none, []⟩

/-- A model to start from is no steps away, in one way. -/
def enter (survey : Survey) (member : ModelId) : Survey where
  distance := Function.update survey.distance member (some 0)
  count := Function.update survey.count member 1
  arrival := survey.arrival
  queue := survey.queue ++ [member]

/-- A step reaches a model that was not reached before. -/
def discover (survey : Survey) (here : Nat) (join : Join) : Survey where
  distance := Function.update survey.distance join.right.model (some (here + 1))
  count := Function.update survey.count join.right.model (survey.count join.left.model)
  arrival := Function.update survey.arrival join.right.model (some join)
  queue := survey.queue ++ [join.right.model]

/-- A step leads to a model in more ways. -/
def recount (survey : Survey) (join : Join) : Survey :=
  { survey with
    count := Function.update survey.count join.right.model
      (min 2 (survey.count join.right.model + survey.count join.left.model)) }

/-- What is known after a step. -/
def take (survey : Survey) (join : Join) : Survey :=
  match survey.distance join.left.model, survey.distance join.right.model with
  | some here, none => survey.discover here join
  | some here, some there => if there = here + 1 then survey.recount join else survey
  | none, _ => survey

/-- What is known after looking at a relation from a model. -/
def follow (place : ModelId) (survey : Survey) (relation : Relation) : Survey :=
  match stepFrom? place relation with
  | some join => survey.take join
  | none => survey

/-- What is known once no model waits, if there are turns enough. -/
def run (relations : List Relation) : Nat → Survey → Option Survey
  | 0, survey => if survey.queue.isEmpty then some survey else none
  | turns + 1, survey =>
    match survey.queue with
    | [] => some survey
    | place :: queue => run relations turns (relations.foldl (follow place) { survey with queue })

end Survey

/-- A step along a relation starts at its place and follows the relation. -/
theorem stepFrom?_eq_some {place : ModelId} {relation : Relation} {join : Join}
    (step : stepFrom? place relation = some join) :
    join.left.model = place ∧ relation.connects join.left join.right = true := by
  unfold stepFrom? at step
  split at step
  · cases step
    exact ⟨‹_›, by simp [Relation.connects]⟩
  · split at step
    · cases step
      exact ⟨‹_›, by simp [Relation.connects]⟩
    · cases step

/-! ## Tables -/

section Tables

variable {Entry : Type} {table after : Array Entry} {place : Nat} {entry : Entry}

/-- What is in a table after one entry was set. -/
theorem getElem?_of_setAt? (set : setAt? table place entry = some after) :
    after.size = table.size ∧ ∀ id, after[id]? = if id = place then some entry else table[id]? := by
  unfold setAt? at set
  split at set
  · cases set
    refine ⟨Array.size_set _, fun id => ?_⟩
    rw [Array.getElem?_set]
    simp only [eq_comm]
  · cases set

end Tables

/-- Counting up to two in a byte is counting up to two. -/
theorem toNat_addWays (known more : UInt8) :
    (addWays known more).toNat = min 2 (known.toNat + more.toNat) := by
  have total : (saturatingAdd known more).toNat = min 255 (known.toNat + more.toNat) := by
    unfold saturatingAdd
    split
    · next fits =>
      rw [UInt8.toNat_add]
      omega
    · have largest : (255 : UInt8).toNat = 255 := rfl
      omega
  unfold addWays
  split
  · next larger =>
    have bound : 2 < (saturatingAdd known more).toNat := larger
    have two : (2 : UInt8).toNat = 2 := rfl
    omega
  · next notLarger =>
    have bound : ¬ 2 < (saturatingAdd known more).toNat := notLarger
    omega

namespace Search

/-- What the tables of a search say about every model. -/
def survey (search : Search) : Survey where
  distance id := (search.distances[id]?).join
  count id := ((search.counts[id]?).getD 0).toNat
  arrival id := (search.arrivals[id]?).join
  queue := search.queue

/-- A table of optional entries shows the entry that was set, and else what it showed. -/
theorem join_setAt? {Entry : Type} {table after : Array (Option Entry)} {place : Nat}
    {entry : Option Entry} (set : setAt? table place entry = some after) :
    (fun id => (after[id]?).join) = Function.update (fun id => (table[id]?).join) place entry := by
  funext id
  rw [(getElem?_of_setAt? set).2, Function.update_apply]
  split <;> rfl

/-- A table of bytes shows the number that was set, and else what it showed. -/
theorem toNat_setAt? {table after : Array UInt8} {place : Nat} {entry : UInt8}
    (set : setAt? table place entry = some after) :
    (fun id => ((after[id]?).getD 0).toNat) =
      Function.update (fun id => ((table[id]?).getD 0).toNat) place entry.toNat := by
  funext id
  rw [(getElem?_of_setAt? set).2, Function.update_apply]
  split <;> rfl

/-- A search that has reached nothing shows nothing. -/
theorem survey_blank (size : Nat) : (blank size).survey = Survey.blank := by
  ext id : 2
  · simp only [survey, blank, Array.getElem?_replicate]
    split <;> rfl
  · simp only [survey, blank, Array.getElem?_replicate]
    split <;> rfl
  · simp only [survey, blank, Array.getElem?_replicate]
    split <;> rfl
  · rfl

variable {search after : Search}

/-- Starting from a model shows the model where it is. -/
theorem survey_enter {member : ModelId} (entered : search.enter member = some after) :
    after.survey = search.survey.enter member := by
  simp only [enter, Option.bind_eq_bind, Option.bind_eq_some_iff, Option.pure_def,
    Option.some.injEq] at entered
  obtain ⟨distances, setDistance, counts, setCount, rfl⟩ := entered
  ext : 1
  · exact join_setAt? setDistance
  · exact toNat_setAt? setCount
  · rfl
  · rfl

/-- A step of the search shows as a step of the survey. -/
theorem survey_take {join : Join} (taken : search.take join = some after) :
    after.survey = search.survey.take join := by
  simp only [take, Option.bind_eq_bind, Option.bind_eq_some_iff] at taken
  obtain ⟨entry, foundLeft, here, rfl, ways, foundWays, reached, foundRight, taken⟩ := taken
  have left : search.survey.distance join.left.model = some here := congrArg Option.join foundLeft
  have right : search.survey.distance join.right.model = reached := congrArg Option.join foundRight
  have count : search.survey.count join.left.model = ways.toNat := by simp [survey, foundWays]
  rw [Survey.take, left, right]
  split at taken
  · simp only [Option.bind_eq_some_iff, Option.pure_def, Option.some.injEq] at taken
    obtain ⟨distances, setDistance, counts, setCount, arrivals, setArrival, rfl⟩ := taken
    ext : 1
    · exact join_setAt? setDistance
    · exact (toNat_setAt? setCount).trans (congrArg _ count.symm)
    · exact join_setAt? setArrival
    · rfl
  · next there =>
    dsimp only
    split at taken
    · next further =>
      rw [if_pos further]
      simp only [Option.bind_eq_some_iff, Option.pure_def, Option.some.injEq] at taken
      obtain ⟨known, foundKnown, counts, setCount, rfl⟩ := taken
      have knownCount : search.survey.count join.right.model = known.toNat := by
        simp [survey, foundKnown]
      ext : 1
      · rfl
      · refine (toNat_setAt? setCount).trans ?_
        rw [toNat_addWays, ← count, ← knownCount]
        rfl
      · rfl
      · rfl
    · next notFurther =>
      cases taken
      rw [if_neg notFurther]

/-- Following a relation shows as following it in the survey. -/
theorem survey_follow {place : ModelId} {relation : Relation}
    (followed : search.follow place relation = some after) :
    after.survey = search.survey.follow place relation := by
  unfold follow at followed
  unfold Survey.follow
  cases step : stepFrom? place relation with
  | some join =>
    rw [step] at followed
    exact survey_take followed
  | none =>
    rw [step] at followed
    cases followed
    rfl

end Search

/-- Steps that do to a view what a function does, do so one after another too. -/
theorem view_foldlM {State View Item : Type} {view : State → View}
    {step : State → Item → Option State} {shown : View → Item → View}
    (one : ∀ {state item after}, step state item = some after →
      view after = shown (view state) item)
    {items : List Item} {state after : State} (run : items.foldlM step state = some after) :
    view after = items.foldl shown (view state) := by
  induction items generalizing state with
  | nil =>
    cases run
    rfl
  | cons item items inductionHypothesis =>
    rw [List.foldlM_cons] at run
    obtain ⟨next, stepped, run⟩ := Option.bind_eq_some_iff.1 run
    rw [List.foldl_cons, ← one stepped]
    exact inductionHypothesis run

/-- All turns of the search show as turns of the survey. -/
theorem Search.survey_run {relations : List Relation} {turns : Nat} {search after : Search}
    (run : search.run relations turns = some after) :
    search.survey.run relations turns = some after.survey := by
  induction turns generalizing search with
  | zero =>
    unfold Search.run at run
    unfold Survey.run
    split at run
    · next empty =>
      cases run
      exact if_pos empty
    · cases run
  | succ turns inductionHypothesis =>
    unfold Search.run at run
    unfold Survey.run
    split at run
    · next empty =>
      have noneWaits : search.survey.queue = [] := empty
      cases run
      rw [noneWaits]
    · next place queue waiting =>
      obtain ⟨next, followed, run⟩ := Option.bind_eq_some_iff.1 run
      have waits : search.survey.queue = place :: queue := waiting
      have seen := view_foldlM Search.survey_follow followed
      rw [waits]
      dsimp only
      exact (congrArg _ seen.symm).trans (inductionHypothesis run)

/-! ## Models to start from -/

/-- What is known at the start: the members are no steps away, and wait. -/
def Survey.start (members : List ModelId) : Survey where
  distance id := if id ∈ members then some 0 else none
  count id := if id ∈ members then 1 else 0
  arrival _ := none
  queue := members

/-- Models that are entered one after another are those that a survey starts from. -/
theorem Survey.foldl_enter (members : List ModelId) :
    members.foldl Survey.enter Survey.blank = Survey.start members := by
  induction members using List.reverseRecOn with
  | nil => rfl
  | append_singleton members member inductionHypothesis =>
    rw [List.foldl_concat, inductionHypothesis]
    ext id : 2
    · simp only [enter, start, Function.update_apply, List.mem_append, List.mem_singleton]
      grind
    · simp only [enter, start, Function.update_apply, List.mem_append, List.mem_singleton]
      grind
    · rfl
    · rfl

/-! ## Steps -/

namespace Survey

variable {survey after : Survey} {join : Join} {relations : List Relation} {id : ModelId}
  {distance : Nat}

section Fields

variable (survey join) (here : Nat)

@[simp]
theorem distance_discover_self :
    (survey.discover here join).distance join.right.model = some (here + 1) :=
  Function.update_self ..

@[simp]
theorem arrival_discover_self :
    (survey.discover here join).arrival join.right.model = some join :=
  Function.update_self ..

variable {survey join} {here} (other : id ≠ join.right.model)

include other

/-- A model that is discovered leaves the distances of others. -/
theorem distance_discover_of_ne :
    (survey.discover here join).distance id = survey.distance id :=
  Function.update_of_ne other ..

/-- A model that is discovered leaves the ways to others. -/
theorem count_discover_of_ne : (survey.discover here join).count id = survey.count id :=
  Function.update_of_ne other ..

/-- A model that is discovered leaves the arrivals at others. -/
theorem arrival_discover_of_ne : (survey.discover here join).arrival id = survey.arrival id :=
  Function.update_of_ne other ..

/-- Ways that are added to a model leave the ways to others. -/
theorem count_recount_of_ne : (survey.recount join).count id = survey.count id :=
  Function.update_of_ne other ..

end Fields

/-- Reaching another model changes nothing about one that was reached. -/
theorem distance_discover {here : Nat} (fresh : survey.distance join.right.model = none)
    (known : survey.distance id = some distance) :
    (survey.discover here join).distance id = some distance := by
  have other : id ≠ join.right.model := by
    rintro rfl
    cases known.symm.trans fresh
  rw [distance_discover_of_ne other, known]

/-- A model that was reached stays where it is. -/
theorem distance_take (known : survey.distance id = some distance) :
    (survey.take join).distance id = some distance := by
  unfold take
  split
  · next fresh => exact distance_discover fresh known
  · split
    · exact known
    · exact known
  · exact known

/-- A distance that is known does not change any more. -/
theorem distance_follow {place : ModelId} {relation : Relation}
    (known : survey.distance id = some distance) :
    (survey.follow place relation).distance id = some distance := by
  unfold follow
  split
  · exact distance_take known
  · exact known

/-- What one turn keeps holds once no model waits. -/
theorem run_induction {motive : Survey → Prop}
    (turn : ∀ survey place queue, survey.queue = place :: queue → motive survey →
      motive (relations.foldl (follow place) { survey with queue }))
    {turns : Nat} (start : motive survey) (run : survey.run relations turns = some after) :
    motive after ∧ after.queue = [] := by
  induction turns generalizing survey with
  | zero =>
    unfold Survey.run at run
    split at run
    · next empty =>
      cases run
      exact ⟨start, List.isEmpty_iff.1 empty⟩
    · cases run
  | succ turns inductionHypothesis =>
    unfold Survey.run at run
    split at run
    · next empty =>
      cases run
      exact ⟨start, empty⟩
    · next place queue waiting => exact inductionHypothesis (turn _ _ _ waiting start) run

/--
Every model that was reached is a member, or hangs on the model that it was reached from, which is
one step nearer.
-/
structure Rooted (relations : List Relation) (members : List ModelId) (survey : Survey) : Prop where
  counted : ∀ id, survey.count id ≠ 0 → ∃ distance, survey.distance id = some distance
  member : ∀ id ∈ members, survey.distance id = some 0
  started : ∀ id distance, survey.distance id = some distance → survey.arrival id = none →
    id ∈ members
  arrived : ∀ id join, survey.arrival id = some join → join.right.model = id ∧
    (∃ relation ∈ relations, relation.connects join.left join.right = true) ∧
    ∃ distance, survey.distance join.left.model = some distance ∧
      survey.distance id = some (distance + 1)

namespace Rooted

variable {members : List ModelId}

/-- A survey at its start is rooted in the models that it starts from. -/
theorem start (relations : List Relation) (members : List ModelId) :
    (Survey.start members).Rooted relations members where
  counted id counted := by
    have isMember : id ∈ members := by
      by_contra notMember
      exact counted (if_neg notMember)
    exact ⟨0, if_pos isMember⟩
  member id isMember := if_pos isMember
  started id distance known _ := by
    by_contra notMember
    cases known.symm.trans (if_neg notMember)
  arrived id join arrived := by cases arrived

/-- A model that is reached for the first time hangs on the model that the step starts at. -/
theorem discover {here : Nat} (rooted : survey.Rooted relations members)
    (related : ∃ relation ∈ relations, relation.connects join.left join.right = true)
    (reached : survey.distance join.left.model = some here)
    (fresh : survey.distance join.right.model = none) :
    (survey.discover here join).Rooted relations members := by
  constructor
  · intro id counted
    by_cases same : id = join.right.model
    · subst same
      exact ⟨_, distance_discover_self ..⟩
    · rw [count_discover_of_ne same] at counted
      obtain ⟨distance, known⟩ := rooted.counted id counted
      exact ⟨distance, distance_discover fresh known⟩
  · exact fun id isMember => distance_discover fresh (rooted.member id isMember)
  · intro id distance known notArrived
    by_cases same : id = join.right.model
    · subst same
      simp at notArrived
    · rw [distance_discover_of_ne same] at known
      rw [arrival_discover_of_ne same] at notArrived
      exact rooted.started id distance known notArrived
  · intro id step arrived
    by_cases same : id = join.right.model
    · subst same
      obtain rfl : join = step := by simpa using arrived
      exact ⟨rfl, related, here, distance_discover fresh reached, distance_discover_self ..⟩
    · rw [arrival_discover_of_ne same] at arrived
      obtain ⟨ends, related, distance, left, right⟩ := rooted.arrived id step arrived
      exact ⟨ends, related, distance, distance_discover fresh left, distance_discover fresh right⟩

/-- More ways to a model that was reached change nothing that it hangs on. -/
theorem recount {there : Nat} (rooted : survey.Rooted relations members)
    (reached : survey.distance join.right.model = some there) :
    (survey.recount join).Rooted relations members where
  counted id counted := by
    by_cases same : id = join.right.model
    · exact ⟨there, same ▸ reached⟩
    · rw [count_recount_of_ne same] at counted
      exact rooted.counted id counted
  member := rooted.member
  started := rooted.started
  arrived := rooted.arrived

/-- A step along a relation keeps a survey rooted. -/
theorem take (rooted : survey.Rooted relations members)
    (related : ∃ relation ∈ relations, relation.connects join.left join.right = true) :
    (survey.take join).Rooted relations members := by
  unfold Survey.take
  split
  · next reached fresh => exact rooted.discover related reached fresh
  · next reached =>
    split
    · exact rooted.recount reached
    · exact rooted
  · exact rooted

/-- Following a relation keeps a survey rooted. -/
theorem follow {place : ModelId} {relation : Relation} (rooted : survey.Rooted relations members)
    (isRelation : relation ∈ relations) :
    (survey.follow place relation).Rooted relations members := by
  unfold Survey.follow
  split
  · next join step => exact rooted.take ⟨relation, isRelation, (stepFrom?_eq_some step).2⟩
  · exact rooted

/-- A search keeps every model that it reaches tied to a member. -/
theorem run {turns : Nat} (rooted : survey.Rooted relations members)
    (run : survey.run relations turns = some after) : after.Rooted relations members := by
  refine (run_induction ?_ rooted run).1
  intro survey place queue _ rooted
  have dequeued : Survey.Rooted relations members { survey with queue } :=
    ⟨rooted.counted, rooted.member, rooted.started, rooted.arrived⟩
  exact List.foldlRecOn relations _ dequeued
    fun survey rooted relation isRelation => rooted.follow isRelation

/-- Every distance up to that of a model is the distance of some model. -/
theorem exists_of_le (rooted : survey.Rooted relations members)
    (known : survey.distance id = some distance) {nearer : Nat} (bound : nearer ≤ distance) :
    ∃ stop, survey.distance stop = some nearer := by
  induction distance generalizing id with
  | zero => exact ⟨id, Nat.le_zero.1 bound ▸ known⟩
  | succ distance inductionHypothesis =>
    by_cases same : nearer = distance + 1
    · exact ⟨id, same ▸ known⟩
    · cases arrived : survey.arrival id with
      | none =>
        have start := rooted.member id (rooted.started id _ known arrived)
        cases start.symm.trans known
      | some join =>
        obtain ⟨-, -, before, left, right⟩ := rooted.arrived id join arrived
        obtain rfl : before = distance := by
          have equal := right.symm.trans known
          simpa using equal
        exact inductionHypothesis left (by omega)

/-- Among a number of models, every distance is smaller than that number. -/
theorem distance_lt {size : Nat} (rooted : survey.Rooted relations members)
    (inTable : ∀ id distance, survey.distance id = some distance → id < size)
    (known : survey.distance id = some distance) : distance < size := by
  have every : ∀ nearer ∈ Finset.range (distance + 1), ∃ stop ∈ Finset.range size,
      survey.distance stop = some nearer := by
    intro nearer bound
    have nearBy : nearer ≤ distance := Nat.lt_succ_iff.1 (Finset.mem_range.1 bound)
    obtain ⟨stop, reached⟩ := rooted.exists_of_le known nearBy
    exact ⟨stop, Finset.mem_range.2 (inTable stop nearer reached), reached⟩
  choose! stop inRange reached using every
  have injective : Set.InjOn stop (Finset.range (distance + 1)) := by
    intro first firstBound second secondBound same
    have equal := (reached first firstBound).symm.trans (same ▸ reached second secondBound)
    simpa using equal
  have fewer := Finset.card_le_card_of_injOn stop inRange injective
  rwa [Finset.card_range, Finset.card_range] at fewer

end Rooted

/-- The joins that lead to a model, each by the step that reached its end first. -/
inductive Traces (survey : Survey) : ModelId → List Join → Prop
  | start {place : ModelId} (notArrived : survey.arrival place = none) : survey.Traces place []
  | step {place : ModelId} {join : Join} {joins : List Join}
      (arrived : survey.arrival place = some join) (before : survey.Traces join.left.model joins) :
      survey.Traces place (joins ++ [join])

/-- A way back is the only one, as every model has one arrival at most. -/
theorem Traces.unique {place : ModelId} {first second : List Join}
    (traces : survey.Traces place first) (others : survey.Traces place second) :
    first = second := by
  induction traces generalizing second with
  | start notArrived =>
    cases others with
    | start => rfl
    | step arrived => cases notArrived.symm.trans arrived
  | step arrived before inductionHypothesis =>
    cases others with
    | start notArrived => cases notArrived.symm.trans arrived
    | step otherArrived otherBefore =>
      obtain rfl := Option.some.inj (arrived.symm.trans otherArrived)
      rw [inductionHypothesis otherBefore]

/-- What a survey says about the way to a model. -/
def Answers (survey : Survey) (target : ModelId) : Except PathFault (List Join) → Prop
  | .error .unreachable => survey.count target = 0
  | .error .ambiguous => 2 ≤ survey.count target
  | .ok joins => survey.count target = 1 ∧ survey.Traces target joins

/-- A survey has one answer at most. -/
theorem Answers.unique {target : ModelId} {first second : Except PathFault (List Join)}
    (answers : survey.Answers target first) (others : survey.Answers target second) :
    first = second := by
  rcases first with (_ | _) | joins <;> rcases second with (_ | _) | otherJoins <;>
    simp only [Answers] at answers others
  all_goals first
    | rfl
    | omega
    | exact congrArg _ (answers.2.unique others.2)

end Survey

/-! ## Ways that are read back -/

namespace Search

variable {search after : Search} {size : Nat}

/-- An entry of the table of arrivals shows as the arrival at its model. -/
theorem arrival_of_getElem? {place : ModelId} {entry : Option Join}
    (found : search.arrivals[place]? = some entry) : search.survey.arrival place = entry :=
  congrArg Option.join found

/-- What is read back are the steps that reached the model and those before it. -/
theorem traces_of_readBack {bound : Nat} {place : ModelId} {path joins : List Join}
    (read : readBack search.arrivals bound place path = some joins) :
    ∃ front, search.survey.Traces place front ∧ joins = front ++ path := by
  induction bound generalizing place path with
  | zero => cases read
  | succ bound inductionHypothesis =>
    obtain ⟨entry, found, read⟩ := Option.bind_eq_some_iff.1 read
    have arrival := arrival_of_getElem? found
    split at read
    · cases read
      exact ⟨[], .start arrival, rfl⟩
    · next join =>
      obtain ⟨front, traces, rfl⟩ := inductionHypothesis read
      exact ⟨front ++ [join], .step arrival traces, by simp⟩

/-- A finished search reads its outcome off what it knows about the target. -/
theorem answers_of_outcome {target : ModelId} {outcome : Except PathFault (List Join)}
    (found : search.outcome target = some outcome) : search.survey.Answers target outcome := by
  obtain ⟨ways, foundWays, found⟩ := Option.bind_eq_some_iff.1 found
  have count : search.survey.count target = ways.toNat := by simp [survey, foundWays]
  split at found
  · next unreached =>
    cases found
    exact count.trans (congrArg UInt8.toNat unreached)
  · next reached =>
    split at found
    · next single =>
      obtain ⟨path, read, found⟩ := Option.bind_eq_some_iff.1 found
      cases found
      obtain ⟨front, traces, rfl⟩ := traces_of_readBack read
      exact ⟨count.trans (congrArg UInt8.toNat single), by simpa using traces⟩
    · next several =>
      cases found
      have notZero : ways.toNat ≠ 0 := fun zero => reached (UInt8.toNat_inj.1 zero)
      have notOne : ways.toNat ≠ 1 := fun one => several (UInt8.toNat_inj.1 one)
      have many : 2 ≤ search.survey.count target := by omega
      exact many

end Search

/-! ## Searches -/

section Searches

variable {catalog : Catalog} {members : List ModelId} {target : ModelId}

/-- The survey that members lead to along relations, once no model waits. -/
def Surveyed (relations : List Relation) (members : List ModelId) (survey : Survey) : Prop :=
  ∃ turns, (Survey.start members).run relations turns = some survey

/-- More turns than are needed change nothing. -/
theorem Survey.run_unique {relations : List Relation} {survey first second : Survey}
    {turns others : Nat} (run : survey.run relations turns = some first)
    (otherRun : survey.run relations others = some second) : first = second := by
  induction turns generalizing survey others with
  | zero =>
    unfold Survey.run at run
    split at run
    · next empty =>
      cases run
      cases others <;> simpa [Survey.run, List.isEmpty_iff.1 empty] using otherRun
    · cases run
  | succ turns inductionHypothesis =>
    unfold Survey.run at run
    split at run
    · next empty =>
      cases run
      cases others <;> simpa [Survey.run, empty] using otherRun
    · next place queue waiting =>
      cases others with
      | zero => simp [Survey.run, waiting] at otherRun
      | succ others =>
        rw [Survey.run, waiting] at otherRun
        exact inductionHypothesis run otherRun

/-- A survey is finished in one way only, whatever number of turns it is given. -/
theorem Surveyed.unique {relations : List Relation} {first second : Survey}
    (surveyed : Surveyed relations members first) (other : Surveyed relations members second) :
    first = second := by
  obtain ⟨turns, run⟩ := surveyed
  obtain ⟨otherTurns, otherRun⟩ := other
  exact Survey.run_unique run otherRun

/-- A finished survey is rooted in the models that it started from. -/
theorem Surveyed.rooted {relations : List Relation} {survey : Survey}
    (surveyed : Surveyed relations members survey) : survey.Rooted relations members := by
  obtain ⟨turns, run⟩ := surveyed
  exact (Survey.Rooted.start relations members).run run

/-- A search that gives an outcome reads it off the survey of its members. -/
theorem surveyed_of_searchPath {outcome : Except PathFault (List Join)}
    (found : searchPath catalog members target = some outcome) :
    ∃ search : Search, Surveyed catalog.relations members search.survey ∧
      search.outcome target = some outcome := by
  obtain ⟨start, entered, found⟩ := Option.bind_eq_some_iff.1 found
  obtain ⟨search, ran, found⟩ := Option.bind_eq_some_iff.1 found
  have started := view_foldlM Search.survey_enter entered
  rw [Search.survey_blank, Survey.foldl_enter] at started
  exact ⟨search, ⟨_, started ▸ Search.survey_run ran⟩, found⟩

/-- An outcome depends on the relations and not on how many models there are. -/
theorem searchPath_unique {other : Catalog} {first second : Except PathFault (List Join)}
    (same : other.relations = catalog.relations)
    (found : searchPath catalog members target = some first)
    (otherFound : searchPath other members target = some second) : second = first := by
  obtain ⟨search, surveyed, outcome⟩ := surveyed_of_searchPath found
  obtain ⟨otherSearch, otherSurveyed, otherOutcome⟩ := surveyed_of_searchPath otherFound
  rw [same] at otherSurveyed
  have answers := Search.answers_of_outcome otherOutcome
  rw [otherSurveyed.unique surveyed] at answers
  exact answers.unique (Search.answers_of_outcome outcome)

end Searches

end Schemata.Analysis
