import Mathlib.Data.Nat.Basic
import Schemata.Proofs.Analysis.QueryScoping
import Schemata.Proofs.Rows.Semantics

/-!
# Queries about one row

A query that was found to be about one row is about at most one row, whatever the
database holds, as long as it keeps the keys of the catalog. The argument has two parts.
The conditions fix all fields of a key of the query's model, and joins leave the
columns of that model alone, so at most one of its rows matches
(`length_matchedRows_le_one`). Every join leads to a column that is a key on its own, so
it finds at most one partner and keeps the number of rows (`length_leftJoins`).
-/

namespace Schemata

open Analysis

variable {V : Type}

/-! ## At most one -/

/-- Of items that exclude each other, at most one is kept. -/
theorem length_filter_le_one {α : Type} {keep : α → Bool} {items : List α}
    (exclusive : items.Pairwise fun first second =>
      keep first = true → keep second = true → False) :
    (items.filter keep).length ≤ 1 := by
  have kept := exclusive.filter keep
  match shape : items.filter keep with
  | [] => simp
  | [_] => simp
  | first :: second :: _ =>
      rw [shape] at kept
      have firstMem : first ∈ items.filter keep := by simp [shape]
      have secondMem : second ∈ items.filter keep := by simp [shape]
      have firstKept := (List.mem_filter.1 firstMem).2
      have secondKept := (List.mem_filter.1 secondMem).2
      exact (List.rel_of_pairwise_cons kept List.mem_cons_self firstKept secondKept).elim

/-- If every item leads to at most one, no more are kept than items lead to one that is kept. -/
theorem length_filter_flatMap_le {α β : Type} {next : α → List β} {keep : β → Bool}
    {items : List α} (single : ∀ item ∈ items, (next item).length ≤ 1) :
    ((items.flatMap next).filter keep).length ≤
      (items.filter fun item => (next item).any keep).length := by
  induction items with
  | nil => simp
  | cons item items inductionHypothesis =>
      have others := inductionHypothesis fun other member =>
        single other (List.mem_cons_of_mem item member)
      have few : ((next item).filter keep).length ≤ 1 :=
        Nat.le_trans (List.length_filter_le _ _) (single item List.mem_cons_self)
      rw [List.flatMap_cons, List.filter_append, List.length_append]
      by_cases found : (next item).any keep = true
      · rw [List.filter_cons, if_pos found, List.length_cons]
        omega
      · have none : (next item).filter keep = [] := by
          simpa [List.filter_eq_nil_iff] using found
        rw [List.filter_cons, if_neg found, none, List.length_nil]
        omega

/-! ## Keys -/

/-- Only a model of the catalog has a key with fields. -/
theorem Catalog.lt_of_mem_uniqueKeys {catalog : Catalog} {id : ModelId} {key : List FieldId}
    (member : key ∈ (catalog.model id).uniqueKeys) (nonempty : key ≠ []) :
    id < catalog.models.length := by
  by_contra outside
  have empty : catalog.model id = default := by
    simp [Catalog.model, List.getD_eq_getElem?_getD, Nat.le_of_not_lt outside]
  have keys : (default : Model).uniqueKeys = [[]] := rfl
  rw [empty, keys, List.mem_singleton] at member
  exact nonempty member

/-- Two rows of a model never hold the same values in all fields of a key. -/
theorem Database.Keyed.pairwise {catalog : Catalog} {database : Database V}
    (keyed : database.Keyed catalog) {id : ModelId} {key : List FieldId}
    (member : key ∈ (catalog.model id).uniqueKeys) (nonempty : key ≠ []) :
    (database id).Pairwise fun first second =>
      first.PresentOn key → second.PresentOn key → ¬ Row.SameOn key first second := by
  have taken := Catalog.lt_of_mem_uniqueKeys member nonempty
  rcases List.mem_cons.1 member with rfl | unique
  · exact (keyed.primary_unique id taken).imp fun different _ _ => different
  · exact keyed.unique id taken key unique

/-- Whether a column is a key on its own, in words of its model's keys. -/
theorem Model.isUniqueField_iff {model : Model} {field : FieldId} :
    model.isUniqueField field = true ↔ [field] ∈ model.uniqueKeys := by
  simp [Model.isUniqueField]

section Queries

variable [LinearOrder V] {catalog : Catalog} {database : Database V} {arguments : Arguments V}

/-! ## Joins -/

/-- Columns are equal only if they hold the same value. -/
theorem holdsOf_eq_true {left right : Option V} :
    Comparison.eq.holdsOf left right = true ↔ left = right ∧ left ≠ none := by
  cases left <;> cases right <;> simp [Comparison.holdsOf, Comparison.holds]

/-- A join to a column that is a key on its own finds at most one partner. -/
theorem length_partners_le_one (keyed : database.Keyed catalog) {join : Join}
    (toOne : (catalog.model join.right.model).isUniqueField join.right.field = true)
    (joined : JoinedRow V) : (partners database join joined).length ≤ 1 := by
  apply length_filter_le_one
  refine (keyed.pairwise (Model.isUniqueField_iff.1 toOne) (List.cons_ne_nil _ _)).imp ?_
  intro first second different firstEqual secondEqual
  obtain ⟨firstSame, firstPresent⟩ := holdsOf_eq_true.1 firstEqual
  obtain ⟨secondSame, secondPresent⟩ := holdsOf_eq_true.1 secondEqual
  refine different ?_ ?_ ?_
  · simpa [Row.PresentOn] using firstPresent
  · simpa [Row.PresentOn] using secondPresent
  · simpa [Row.SameOn] using firstSame.trans secondSame.symm

/-- Joins to columns that are keys on their own give one row for each row. -/
theorem length_leftJoins (keyed : database.Keyed catalog) {joins : List Join}
    (toOne : ∀ join ∈ joins,
      (catalog.model join.right.model).isUniqueField join.right.field = true)
    (joined : JoinedRow V) : (leftJoins database joins joined).length = 1 := by
  induction joins generalizing joined with
  | nil => rfl
  | cons join joins inductionHypothesis =>
      have few := length_partners_le_one keyed (toOne join List.mem_cons_self) joined
      have one : ∃ only, leftJoin database join joined = [only] := by
        unfold leftJoin
        match partners database join joined, few with
        | [], _ => exact ⟨_, rfl⟩
        | [_], _ => exact ⟨_, rfl⟩
        | _ :: _ :: _, few => simp at few
      obtain ⟨only, shape⟩ := one
      rw [leftJoins, shape, List.flatMap_singleton]
      have restToOne := fun other member => toOne other (List.mem_cons_of_mem _ member)
      exact inductionHypothesis restToOne only

/-- A join changes the columns of its new model only. -/
theorem leftJoin_frame {join : Join} {joined after : JoinedRow V}
    (member : after ∈ leftJoin database join joined) {column : Column}
    (elsewhere : column.model ≠ join.right.model) : after column = joined column := by
  unfold leftJoin at member
  split at member
  · rw [List.mem_singleton.1 member]
    simp [JoinedRow.put, elsewhere]
  · obtain ⟨row, -, rfl⟩ := List.mem_map.1 member
    simp [JoinedRow.put, elsewhere]

/-- Joins that grow from some models leave the columns of these models alone. -/
theorem leftJoins_frame {relations : List Relation} {members : List ModelId}
    {joins : List Join} (tree : JoinTree relations members joins) {joined after : JoinedRow V}
    (member : after ∈ leftJoins database joins joined) {column : Column}
    (known : column.model ∈ members) : after column = joined column := by
  induction joins generalizing members joined with
  | nil => rw [List.mem_singleton.1 member]
  | cons join joins inductionHypothesis =>
      obtain ⟨step, rest⟩ := tree
      obtain ⟨middle, middleMem, afterMem⟩ := List.mem_flatMap.1 member
      have elsewhere : column.model ≠ join.right.model := by
        rintro same
        exact step.right_new (same ▸ known)
      calc after column
        _ = middle column := inductionHypothesis rest afterMem (List.mem_append_left _ known)
        _ = joined column := leftJoin_frame middleMem elsewhere

/-! ## Conditions -/

/-- What the condition at some place fixes its column to, if it fixes it. -/
def Condition.fixedCell (arguments : Arguments V) (place : Nat) (condition : Condition) :
    Option V :=
  match condition.right with
  | .placeholder => arguments.placeholder place
  | .column _ => none
  | .literal value => some (arguments.literal value)

/-- A column that a condition fixes holds one value, and the same in every row that meets it. -/
theorem eq_fixedCell_of_holds {condition : Condition} {base : ModelId} {place : Nat}
    {joined : JoinedRow V} (fixes : Condition.fixes condition base = true)
    (holds : condition.holds arguments place joined = true) :
    joined condition.left = condition.fixedCell arguments place ∧
      joined condition.left ≠ none := by
  obtain ⟨left, op, right⟩ := condition
  cases right with
  | column other => simp [Condition.fixes] at fixes
  | placeholder =>
      obtain rfl : op = .eq := by simp [Condition.fixes] at fixes; exact fixes.2
      exact holdsOf_eq_true.1 holds
  | literal value =>
      have shape : op = .eq ∧ value ≠ .null := by
        simp [Condition.fixes] at fixes
        exact ⟨fixes.1.2, fixes.2⟩
      obtain ⟨rfl, notNull⟩ := shape
      cases value with
      | null => exact absurd rfl notNull
      | bool value => exact holdsOf_eq_true.1 holds
      | int value => exact holdsOf_eq_true.1 holds
      | text content => exact holdsOf_eq_true.1 holds

/-- A fixed field comes from a condition at some place. -/
theorem exists_place_of_mem_fixedFields {base : ModelId} {conditions : List Condition}
    {field : FieldId} (fixed : field ∈ fixedFields base conditions) :
    ∃ condition place, (condition, place) ∈ conditions.zipIdx ∧
      Condition.fixes condition base = true ∧ condition.left = ⟨base, field⟩ := by
  simp only [fixedFields, List.mem_map, List.mem_filter] at fixed
  obtain ⟨condition, ⟨member, fixes⟩, rfl⟩ := fixed
  obtain ⟨place, bound, rfl⟩ := List.getElem_of_mem member
  refine ⟨conditions[place], place, ?_, fixes, ?_⟩
  · simp [List.mk_mem_zipIdx_iff_getElem?, bound]
  · have onBase : (conditions[place]).left.model = base := by
      simp [Condition.fixes] at fixes
      exact fixes.1.1
    rw [← onBase]

/-- What it takes for a query to be about one row. -/
theorem of_cardinality_eq_one {scope : Scope} {conditions : List Condition}
    (one : cardinality catalog scope conditions = .one) :
    (∃ key ∈ (catalog.model scope.base).uniqueKeys, key ≠ [] ∧
      ∀ field ∈ key, field ∈ fixedFields scope.base conditions) ∧
    ∀ join ∈ scope.joins,
      (catalog.model join.right.model).isUniqueField join.right.field = true := by
  simp only [cardinality] at one
  split at one
  next both =>
    simp only [Bool.and_eq_true, List.any_eq_true, List.all_eq_true, Bool.not_eq_true',
      List.isEmpty_eq_false_iff, List.contains_eq_mem, decide_eq_true_eq] at both
    exact both
  next => cases one

/-! ## Queries -/

/-- A matching row holds in its own fields what the conditions fix them to. -/
theorem eq_fixedCell_of_matched {relations : List Relation} {base : ModelId}
    {joins : List Join} {conditions : List Condition} {condition : Condition} {place : Nat}
    {field : FieldId} {row : Row V} (tree : JoinTree relations [base] joins)
    (matched : (leftJoins database joins (.start base row)).any
      (meetsAll arguments conditions) = true)
    (member : (condition, place) ∈ conditions.zipIdx)
    (fixes : Condition.fixes condition base = true) (left : condition.left = ⟨base, field⟩) :
    row field = condition.fixedCell arguments place ∧ row field ≠ none := by
  obtain ⟨joined, joinedMem, meets⟩ := List.any_eq_true.1 matched
  have holds : condition.holds arguments place joined = true :=
    List.all_eq_true.1 meets _ member
  have kept : joined ⟨base, field⟩ = row field := by
    rw [leftJoins_frame tree joinedMem (List.mem_singleton.2 rfl)]
    simp [JoinedRow.start]
  have fixedCell := eq_fixedCell_of_holds fixes holds
  rwa [left, kept] at fixedCell

/-- At most one row of a model matches conditions that fix a key of it. -/
theorem length_matchedRows_le_one (keyed : database.Keyed catalog) {relations : List Relation}
    {base : ModelId} {joins : List Join} {conditions : List Condition} {key : List FieldId}
    (tree : JoinTree relations [base] joins)
    (isKey : key ∈ (catalog.model base).uniqueKeys) (nonempty : key ≠ [])
    (covered : ∀ field ∈ key, field ∈ fixedFields base conditions) :
    (matchedRows database arguments base joins conditions).length ≤ 1 := by
  apply length_filter_le_one
  refine (keyed.pairwise isKey nonempty).imp ?_
  intro first second different firstMatched secondMatched
  have fixed : ∀ field ∈ key,
      first field = second field ∧ first field ≠ none ∧ second field ≠ none := by
    intro field inKey
    obtain ⟨condition, place, member, fixes, left⟩ :=
      exists_place_of_mem_fixedFields (covered field inKey)
    obtain ⟨firstFixed, firstPresent⟩ :=
      eq_fixedCell_of_matched tree firstMatched member fixes left
    obtain ⟨secondFixed, secondPresent⟩ :=
      eq_fixedCell_of_matched tree secondMatched member fixes left
    exact ⟨firstFixed.trans secondFixed.symm, firstPresent, secondPresent⟩
  exact different (fun field inKey => (fixed field inKey).2.1)
    (fun field inKey => (fixed field inKey).2.2) (fun field inKey => (fixed field inKey).1)

/-- A query about one row has at most one joined row. -/
theorem length_queryRows_le_one (keyed : database.Keyed catalog) {relations : List Relation}
    {base : ModelId} {joins : List Join} {conditions : List Condition}
    (tree : JoinTree relations [base] joins)
    (one : cardinality catalog ⟨base, joins⟩ conditions = .one) :
    (queryRows database arguments base joins conditions).length ≤ 1 := by
  obtain ⟨⟨key, isKey, nonempty, covered⟩, toOne⟩ := of_cardinality_eq_one one
  have single : ∀ row ∈ database base,
      (leftJoins database joins (.start base row)).length ≤ 1 :=
    fun row _ => Nat.le_of_eq (length_leftJoins keyed toOne (.start base row))
  exact Nat.le_trans (length_filter_flatMap_le single)
    (length_matchedRows_le_one keyed tree isKey nonempty covered)

end Queries

/--
A compiled select about one row yields at most one row, a compiled delete about one row
removes at most one, and every compiled update touches at most one: in every database
that keeps the keys of the catalog, and whatever the placeholders stand for.
-/
theorem compile_singleRows [LinearOrder V] {source : String} {plan : Plan}
    (compiled : compile source = .ok plan) (database : Database V)
    (keyed : database.Keyed plan.toCatalog) (arguments : Arguments V) :
    (∀ query ∈ plan.selects, query.cardinality = .one →
      (query.yields plan.toCatalog database arguments).length ≤ 1) ∧
    (∀ query ∈ plan.deletes, query.cardinality = .one →
      (query.removes database arguments).length ≤ 1) ∧
    (∀ query ∈ plan.updates, (query.touches database arguments).length ≤ 1) := by
  obtain ⟨schema, -, resolves⟩ := exists_resolves_of_compile compiled
  refine ⟨fun query member one => ?_, fun query member one => ?_, fun query member => ?_⟩
  · obtain ⟨declared, -, gives⟩ := resolves.selects query member
    obtain ⟨inside, decided⟩ := (resolveSelect_ensures _ declared).of_gives gives query rfl
    rw [Select.yields, List.length_map]
    exact length_queryRows_le_one keyed inside.tree (decided ▸ one)
  · obtain ⟨declared, -, gives⟩ := resolves.deletes query member
    obtain ⟨inside, decided⟩ := (resolveDelete_ensures _ declared).of_gives gives query rfl
    obtain ⟨⟨key, isKey, nonempty, covered⟩, -⟩ := of_cardinality_eq_one (decided ▸ one)
    exact length_matchedRows_le_one keyed inside.tree isKey nonempty covered
  · obtain ⟨declared, -, gives⟩ := resolves.updates query member
    obtain ⟨inside, joins, one⟩ := (resolveUpdate_ensures _ declared).of_gives gives query rfl
    obtain ⟨⟨key, isKey, nonempty, covered⟩, -⟩ := of_cardinality_eq_one one
    exact length_matchedRows_le_one keyed inside.tree isKey nonempty covered

/-- Three teams, two of them without a name, and three players, one of them without a team. -/
def rosterDatabase : Database Nat
  | 0 => [.ofCells [some 1, none], .ofCells [some 2, none], .ofCells [some 3, some 30]]
  | 1 => [.ofCells [some 1, some 3], .ofCells [some 2, some 3], .ofCells [some 3, none]]
  | _ => []

/-- In the roster's database, what is about one row is about at most one, and often about one. -/
theorem rosterPlan_singleRows :
    compile rosterSource = .ok rosterPlan ∧ rosterDatabase.Keyed rosterPlan.toCatalog ∧
    (∀ arguments : Arguments Nat,
      (∀ query ∈ rosterPlan.selects, query.cardinality = .one →
        (query.yields rosterPlan.toCatalog rosterDatabase arguments).length ≤ 1) ∧
      (∀ query ∈ rosterPlan.deletes, query.cardinality = .one →
        (query.removes rosterDatabase arguments).length ≤ 1) ∧
      (∀ query ∈ rosterPlan.updates, (query.touches rosterDatabase arguments).length ≤ 1)) ∧
    (rosterPlan.selects.map fun query =>
      query.yields rosterPlan.toCatalog rosterDatabase ⟨fun _ => 0, fun _ => some 2⟩) =
        [[[some 2, some 30]], [[some 1, some 3], [some 2, some 3]]] := by
  have keyed : rosterDatabase.Keyed rosterPlan.toCatalog := by decide
  exact ⟨compile_rosterSource, keyed,
    fun arguments => compile_singleRows compile_rosterSource rosterDatabase keyed arguments,
    by decide⟩

end Schemata
