import Mathlib.Data.Finset.Card
import Mathlib.Data.Finset.Range
import Schemata.Proofs.Analysis.Surveys

/-!
# A search stays in its tables

A search looks up entries of its tables, sets others, and ends early if one is missing. None is, if
the models and relations that it is given are those of the catalog (`Search.Fits`): a step can be
taken once its first model was reached (`exists_take`), there are turns enough for all models that
ever wait, since a model that starts to wait was not reached before and is from then on
(`exists_run`), and a way that is read back gets nearer to its start with every step
(`exists_readBack`).
-/

namespace Schemata.Analysis

/-- An entry can be set at every place of a table. -/
theorem exists_setAt? {Entry : Type} {table : Array Entry} {place : Nat} (entry : Entry)
    (inTable : place < table.size) :
    ∃ after, setAt? table place entry = some after :=
  ⟨_, dif_pos inTable⟩

/-! ## Steps -/

namespace Search

variable {search after : Search} {size : Nat}

/-- The tables of a search have an entry for each of a number of models. -/
structure Fits (size : Nat) (search : Search) : Prop where
  distances : search.distances.size = size
  counts : search.counts.size = size
  arrivals : search.arrivals.size = size

namespace Fits

/-- Blank tables have an entry for each of their models. -/
theorem blank (size : Nat) : (Search.blank size).Fits size :=
  ⟨Array.size_replicate, Array.size_replicate, Array.size_replicate⟩

/-- Only models of the tables are reached. -/
theorem lt_of_distance (fits : search.Fits size) {id : ModelId} {distance : Nat}
    (known : search.survey.distance id = some distance) : id < size := by
  by_contra outside
  have missing : search.distances[id]? = none :=
    Array.getElem?_eq_none (fits.distances ▸ Nat.le_of_not_lt outside)
  have unknown : search.survey.distance id = none := congrArg Option.join missing
  cases unknown.symm.trans known

/-- A member that has an entry can be entered, and the tables keep their size. -/
theorem exists_enter (fits : search.Fits size) {member : ModelId} (taken : member < size) :
    ∃ after, search.enter member = some after ∧ after.Fits size := by
  obtain ⟨distances, setDistance⟩ := exists_setAt? (some 0) (fits.distances ▸ taken)
  obtain ⟨counts, setCount⟩ := exists_setAt? 1 (fits.counts ▸ taken)
  refine ⟨⟨distances, counts, search.arrivals, search.queue ++ [member]⟩, ?_, ?_, ?_,
    fits.arrivals⟩
  · simp [enter, setDistance, setCount]
  · exact (getElem?_of_setAt? setDistance).1.trans fits.distances
  · exact (getElem?_of_setAt? setCount).1.trans fits.counts

/-- A step between models of the tables can be taken once its first model was reached. -/
theorem exists_take (fits : search.Fits size) {join : Join} {here : Nat}
    (reached : search.survey.distance join.left.model = some here)
    (taken : join.right.model < size) :
    ∃ after, search.take join = some after ∧ after.Fits size := by
  have leftTaken := fits.lt_of_distance reached
  have foundLeft : search.distances[join.left.model]? = some (some here) :=
    Option.join_eq_some_iff.1 reached
  obtain ⟨ways, foundWays⟩ : ∃ ways, search.counts[join.left.model]? = some ways :=
    ⟨_, Array.getElem?_eq_getElem (fits.counts ▸ leftTaken)⟩
  obtain ⟨known, foundKnown⟩ : ∃ known, search.counts[join.right.model]? = some known :=
    ⟨_, Array.getElem?_eq_getElem (fits.counts ▸ taken)⟩
  obtain ⟨entry, foundRight⟩ : ∃ entry, search.distances[join.right.model]? = some entry :=
    ⟨_, Array.getElem?_eq_getElem (fits.distances ▸ taken)⟩
  cases entry with
  | none =>
    obtain ⟨distances, setDistance⟩ :=
      exists_setAt? (some (here + 1)) (fits.distances ▸ taken)
    obtain ⟨counts, setCount⟩ := exists_setAt? ways (fits.counts ▸ taken)
    obtain ⟨arrivals, setArrival⟩ := exists_setAt? (some join) (fits.arrivals ▸ taken)
    refine ⟨⟨distances, counts, arrivals, search.queue ++ [join.right.model]⟩, ?_, ?_, ?_, ?_⟩
    · simp [take, foundLeft, foundWays, foundRight, setDistance, setCount, setArrival]
    · exact (getElem?_of_setAt? setDistance).1.trans fits.distances
    · exact (getElem?_of_setAt? setCount).1.trans fits.counts
    · exact (getElem?_of_setAt? setArrival).1.trans fits.arrivals
  | some there =>
    by_cases further : there = here + 1
    · obtain ⟨counts, setCount⟩ := exists_setAt? (addWays known ways) (fits.counts ▸ taken)
      refine ⟨{ search with counts }, ?_, fits.distances, ?_, fits.arrivals⟩
      · simp [take, foundLeft, foundWays, foundRight, foundKnown, setCount, further]
      · exact (getElem?_of_setAt? setCount).1.trans fits.counts
    · refine ⟨search, ?_, fits⟩
      simp [take, foundLeft, foundWays, foundRight, further]

/-- A way can be read back over as many models as the tables have. -/
theorem exists_readBack {relations : List Relation} {members : List ModelId}
    (fits : search.Fits size) (rooted : search.survey.Rooted relations members) {place : ModelId}
    {distance bound : Nat} (known : search.survey.distance place = some distance)
    (enough : distance < bound) (path : List Join) :
    ∃ joins, readBack search.arrivals bound place path = some joins := by
  induction bound generalizing place distance path with
  | zero => omega
  | succ bound inductionHypothesis =>
    obtain ⟨entry, found⟩ : ∃ entry, search.arrivals[place]? = some entry :=
      ⟨_, Array.getElem?_eq_getElem (fits.arrivals ▸ fits.lt_of_distance known)⟩
    cases entry with
    | none => exact ⟨path, by simp [readBack, found]⟩
    | some join =>
      obtain ⟨-, -, before, left, right⟩ := rooted.arrived place join (arrival_of_getElem? found)
      have nearer : before + 1 = distance := by
        have equal := right.symm.trans known
        simpa using equal
      obtain ⟨joins, read⟩ := inductionHypothesis left (by omega) (join :: path)
      exact ⟨joins, by simp [readBack, found, read]⟩

end Fits

end Search

/-! ## Turns -/

/-- The models that wait and those, of a number of models, that were not reached yet. -/
def Survey.pending (size : Nat) (survey : Survey) : Nat :=
  survey.queue.length + ((Finset.range size).filter fun id => survey.distance id = none).card

/-- What is pending is at most what waits and all models. -/
theorem Survey.pending_le (size : Nat) (survey : Survey) :
    survey.pending size ≤ survey.queue.length + size :=
  Nat.add_le_add_left ((Finset.card_filter_le _ _).trans (Finset.card_range _).le) _

/-- A step lets no model wait twice: one that starts to wait counts as reached from then on. -/
theorem Survey.pending_take {survey : Survey} {join : Join} {size : Nat}
    (taken : join.right.model < size) :
    (survey.take join).pending size ≤ survey.pending size := by
  unfold take
  split
  · next here reached fresh =>
    have unreached : join.right.model ∈
        (Finset.range size).filter fun id => survey.distance id = none :=
      Finset.mem_filter.2 ⟨Finset.mem_range.2 taken, fresh⟩
    have erased : ((Finset.range size).filter fun id =>
        (survey.discover here join).distance id = none) =
          ((Finset.range size).filter fun id => survey.distance id = none).erase
            join.right.model := by
      ext id
      simp only [Finset.mem_filter, Finset.mem_erase]
      by_cases same : id = join.right.model
      · simp [same]
      · rw [distance_discover_of_ne same]
        tauto
    have waiting : (survey.discover here join).queue.length = survey.queue.length + 1 :=
      List.length_append
    have positive := Finset.card_pos.2 ⟨_, unreached⟩
    rw [pending, pending, erased, Finset.card_erase_of_mem unreached, waiting]
    omega
  · split
    · exact Nat.le_refl _
    · exact Nat.le_refl _
  · exact Nat.le_refl _

/-- Every model that waits was reached. -/
def Survey.WaitReached (survey : Survey) : Prop :=
  ∀ id ∈ survey.queue, ∃ distance, survey.distance id = some distance

/-- Behind a join, all models that wait were reached. -/
theorem Survey.WaitReached.take {survey : Survey} {join : Join} (waiting : survey.WaitReached) :
    (survey.take join).WaitReached := by
  have kept : ∀ id ∈ survey.queue, ∃ distance, (survey.take join).distance id = some distance := by
    intro id waits
    obtain ⟨distance, known⟩ := waiting id waits
    exact ⟨distance, distance_take known⟩
  unfold Survey.take at kept ⊢
  split
  · next here reached fresh =>
    rw [reached, fresh] at kept
    intro id waits
    rcases List.mem_append.1 waits with waited | new
    · exact kept id waited
    · rw [List.mem_singleton.1 new]
      exact ⟨_, distance_discover_self ..⟩
  · split
    · exact waiting
    · exact waiting
  · exact waiting

namespace Search

variable {search : Search} {size : Nat} {relations : List Relation}

/-- A search that can go on: its tables fit, and the models that wait were reached. -/
structure Ready (size : Nat) (search : Search) : Prop extends search.Fits size where
  waiting : search.survey.WaitReached

/-- Looking at a relation leaves a search ready and with no more to do. -/
theorem Ready.exists_follow (ready : search.Ready size) {place : ModelId} {here : Nat}
    (reached : search.survey.distance place = some here) {relation : Relation}
    (taken : relation.left.model < size ∧ relation.right.model < size) :
    ∃ after, search.follow place relation = some after ∧ after.Ready size ∧
      after.survey.pending size ≤ search.survey.pending size := by
  unfold follow
  cases step : stepFrom? place relation with
  | none => exact ⟨search, rfl, ready, Nat.le_refl _⟩
  | some join =>
    obtain ⟨starts, connects⟩ := stepFrom?_eq_some step
    have rightTaken : join.right.model < size := by
      simp only [Relation.connects, Bool.or_eq_true, Bool.and_eq_true, decide_eq_true_eq]
        at connects
      rcases connects with ⟨-, isRight⟩ | ⟨isRight, -⟩
      · exact isRight ▸ taken.2
      · exact isRight ▸ taken.1
    rw [← starts] at reached
    obtain ⟨after, tookStep, fits⟩ := ready.toFits.exists_take reached rightTaken
    have seen := survey_take tookStep
    refine ⟨after, tookStep, ⟨fits, ?_⟩, ?_⟩
    · rw [seen]
      exact ready.waiting.take
    · rw [seen]
      exact Survey.pending_take rightTaken

/-- So does a look at one relation after another. -/
theorem Ready.exists_foldlM (ready : search.Ready size) {place : ModelId} {here : Nat}
    (reached : search.survey.distance place = some here)
    (taken : ∀ relation ∈ relations, relation.left.model < size ∧ relation.right.model < size) :
    ∃ after, relations.foldlM (follow place) search = some after ∧ after.Ready size ∧
      after.survey.pending size ≤ search.survey.pending size := by
  induction relations generalizing search with
  | nil => exact ⟨search, rfl, ready, Nat.le_refl _⟩
  | cons relation relations inductionHypothesis =>
    rw [List.forall_mem_cons] at taken
    obtain ⟨next, followed, readyNext, fewer⟩ := ready.exists_follow reached taken.1
    have reachedNext : next.survey.distance place = some here := by
      rw [survey_follow followed]
      exact Survey.distance_follow reached
    obtain ⟨after, followedAll, readyAfter, fewerAfter⟩ :=
      inductionHypothesis readyNext reachedNext taken.2
    refine ⟨after, ?_, readyAfter, Nat.le_trans fewerAfter fewer⟩
    rw [List.foldlM_cons, followed]
    exact followedAll

/-- A search ends if it has a turn for every model that waits or was not reached yet. -/
theorem Ready.exists_run
    (taken : ∀ relation ∈ relations, relation.left.model < size ∧ relation.right.model < size)
    {turns : Nat} (ready : search.Ready size) (enough : search.survey.pending size ≤ turns) :
    ∃ after, search.run relations turns = some after ∧ after.Fits size := by
  induction turns generalizing search with
  | zero =>
    have empty : search.queue = [] := by
      rw [← List.length_eq_zero_iff]
      exact Nat.le_zero.1 (Nat.le_trans (Nat.le_add_right ..) enough)
    exact ⟨search, by simp [run, empty], ready.toFits⟩
  | succ turns inductionHypothesis =>
    cases waits : search.queue with
    | nil => exact ⟨search, by simp [run, waits], ready.toFits⟩
    | cons place queue =>
      have queued : search.survey.queue = place :: queue := waits
      obtain ⟨here, reached⟩ := ready.waiting place (by simp [queued])
      have readyNext : Ready size { search with queue } := by
        refine ⟨⟨ready.distances, ready.counts, ready.arrivals⟩, fun id waits => ?_⟩
        exact ready.waiting id (queued ▸ List.mem_cons_of_mem place waits)
      obtain ⟨next, followed, readyAfter, fewer⟩ := readyNext.exists_foldlM reached taken
      have oneLess : Survey.pending size (survey { search with queue }) + 1 =
          search.survey.pending size := by
        rw [Survey.pending, Survey.pending, queued, List.length_cons]
        exact Nat.succ_add .. |>.symm
      obtain ⟨after, ran, fits⟩ := inductionHypothesis readyAfter (by omega)
      exact ⟨after, by simp [run, waits, followed, ran], fits⟩

end Search

/-! ## Searches -/

section Searches

variable {catalog : Catalog} {members : List ModelId} {target : ModelId}

/-- Members of the catalog can be entered, one after another. -/
theorem Search.Fits.exists_foldlM_enter {search : Search} {size : Nat} (fits : search.Fits size)
    (taken : ∀ member ∈ members, member < size) :
    ∃ after, members.foldlM Search.enter search = some after ∧ after.Fits size := by
  induction members generalizing search with
  | nil => exact ⟨search, rfl, fits⟩
  | cons member members inductionHypothesis =>
    rw [List.forall_mem_cons] at taken
    obtain ⟨next, entered, fitsNext⟩ := fits.exists_enter taken.1
    obtain ⟨after, enteredAll, fitsAfter⟩ := inductionHypothesis fitsNext taken.2
    refine ⟨after, ?_, fitsAfter⟩
    rw [List.foldlM_cons, entered]
    exact enteredAll

variable
  (relationsTaken : ∀ relation ∈ catalog.relations,
    relation.left.model < catalog.models.length ∧ relation.right.model < catalog.models.length)
  (membersTaken : ∀ member ∈ members, member < catalog.models.length)

include relationsTaken membersTaken

/--
Between models of the catalog, a search never leaves its tables and has turns enough, so that the
survey is complete when the target is looked up in it.
-/
theorem exists_surveyed :
    ∃ search : Search, search.Fits catalog.models.length ∧
      Surveyed catalog.relations members search.survey ∧
      ∀ target, searchPath catalog members target = search.outcome target := by
  obtain ⟨start, entered, fits⟩ := (Search.Fits.blank _).exists_foldlM_enter membersTaken
  have started := view_foldlM Search.survey_enter entered
  rw [Search.survey_blank, Survey.foldl_enter] at started
  have ready : start.Ready catalog.models.length := by
    refine ⟨fits, ?_⟩
    rw [started]
    exact fun id waits => ⟨0, if_pos waits⟩
  have enough : start.survey.pending catalog.models.length ≤
      catalog.models.length + members.length := by
    rw [Nat.add_comm, started]
    exact Survey.pending_le _ _
  obtain ⟨search, ran, fitsAfter⟩ := ready.exists_run relationsTaken enough
  refine ⟨search, fitsAfter, ⟨_, started ▸ Search.survey_run ran⟩, fun target => ?_⟩
  simp [searchPath, entered, ran]

/-- A search between models of the catalog has an outcome. -/
theorem exists_searchPath (targetTaken : target < catalog.models.length) :
    ∃ outcome, searchPath catalog members target = some outcome := by
  obtain ⟨search, fits, surveyed, searched⟩ := exists_surveyed relationsTaken membersTaken
  rw [searched]
  obtain ⟨ways, foundWays⟩ : ∃ ways, search.counts[target]? = some ways :=
    ⟨_, Array.getElem?_eq_getElem (fits.counts ▸ targetTaken)⟩
  unfold Search.outcome
  rw [foundWays]
  by_cases unreached : ways = 0
  · exact ⟨.error .unreachable, by simp [unreached]⟩
  · by_cases single : ways = 1
    · have counted : search.survey.count target ≠ 0 := by simp [Search.survey, foundWays, single]
      obtain ⟨distance, known⟩ := surveyed.rooted.counted target counted
      have bound : distance < search.arrivals.size := by
        rw [fits.arrivals]
        exact surveyed.rooted.distance_lt (fun id distance => fits.lt_of_distance) known
      obtain ⟨joins, read⟩ := fits.exists_readBack surveyed.rooted known bound []
      exact ⟨.ok joins, by simp [single, read]⟩
    · exact ⟨.error .ambiguous, by simp [unreached, single]⟩

end Searches

end Schemata.Analysis
