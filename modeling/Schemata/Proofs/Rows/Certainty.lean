import Schemata.Proofs.Rows.SingleRow

/-!
# What is certain about the rows of a query

A join without a partner leaves nothing in the columns of its model, also in those that may not be
null. Whether a model is there in a row of a query depends on the joins that lead to it, on the
conditions and on the database. `Surely` says what is known from the query alone: its own
model is present; a column that is compared has a value; a column with a value shows that its model
is present and that the join to it found a partner; and a reference that has a value leads to a
row. What is surely so holds in every row that the query has (`Surely.sound`).
-/

namespace Schemata

open Analysis

variable {V : Type}

/-! ## What joins leave behind -/

/-- A joined row holds a row of a model: in the columns of the model it has what that row has. -/
def JoinedRow.Holds (database : Database V) (joined : JoinedRow V) (model : ModelId) : Prop :=
  ∃ row ∈ database model, ∀ field, joined ⟨model, field⟩ = row field

/-- A joined row after a join: it holds a partner, or nothing because there is no partner. -/
inductive JoinOutcome (database : Database V) (join : Join) (joined : JoinedRow V) : Prop where
  | matched (held : joined.Holds database join.right.model) (present : joined join.left ≠ none)
  | unmatched (lacks : ∀ field, joined ⟨join.right.model, field⟩ = none)
      (alone : ∀ row ∈ database join.right.model,
        row join.right.field = joined join.left → joined join.left = none)

/-- The outcome of a join is seen in the columns of its two models. -/
theorem JoinOutcome.congr {database : Database V} {join : Join} {joined after : JoinedRow V}
    (left : ∀ column : Column, column.model = join.left.model → after column = joined column)
    (right : ∀ column : Column, column.model = join.right.model → after column = joined column)
    (outcome : JoinOutcome database join joined) : JoinOutcome database join after := by
  cases outcome with
  | matched held present =>
      obtain ⟨row, member, same⟩ := held
      refine .matched ⟨row, member, fun field => ?_⟩ ?_
      · rw [right ⟨_, field⟩ rfl, same]
      · rwa [left _ rfl]
  | unmatched lacks alone =>
      refine .unmatched (fun field => ?_) fun row member same => ?_
      · rw [right ⟨_, field⟩ rfl, lacks]
      · rw [left _ rfl] at same ⊢
        exact alone row member same

section Joins

variable [LinearOrder V] {database : Database V} {relations : List Relation}

/-- One join has an outcome. -/
theorem leftJoin_outcome {join : Join} {joined after : JoinedRow V}
    (apart : join.left.model ≠ join.right.model)
    (member : after ∈ leftJoin database join joined) : JoinOutcome database join after := by
  have kept : after join.left = joined join.left := leftJoin_frame member apart
  unfold leftJoin at member
  split at member
  next none =>
    have noPartner := List.filter_eq_nil_iff.1 none
    obtain rfl := List.mem_singleton.1 member
    refine .unmatched (fun field => by simp [JoinedRow.put]) fun row rowMem same => ?_
    rw [kept] at same ⊢
    by_contra present
    exact noPartner row rowMem (holdsOf_eq_true.2 ⟨same, same ▸ present⟩)
  next =>
    obtain ⟨row, rowMem, rfl⟩ := List.mem_map.1 member
    obtain ⟨inTable, equal⟩ := List.mem_filter.1 rowMem
    obtain ⟨same, present⟩ := holdsOf_eq_true.1 equal
    refine .matched ⟨row, inTable, fun field => by simp [JoinedRow.put]⟩ ?_
    rw [kept, ← same]
    exact present

/-- Every join of a tree has an outcome in the row that all of them lead to. -/
theorem leftJoins_outcome {members : List ModelId} {joins : List Join}
    (tree : JoinTree relations members joins) {joined after : JoinedRow V}
    (member : after ∈ leftJoins database joins joined) {join : Join} (isJoin : join ∈ joins) :
    JoinOutcome database join after := by
  induction joins generalizing members joined with
  | nil => cases isJoin
  | cons first joins inductionHypothesis =>
      obtain ⟨step, rest⟩ := tree
      obtain ⟨middle, middleMem, afterMem⟩ := List.mem_flatMap.1 member
      rcases List.mem_cons.1 isJoin with rfl | later
      · -- The joins behind this one change neither of its models any more.
        have apart : join.left.model ≠ join.right.model := fun same =>
          step.right_new (same ▸ step.left_mem)
        refine (leftJoin_outcome apart middleMem).congr ?_ ?_
        · intro column onLeft
          exact leftJoins_frame rest afterMem (List.mem_append_left _ (onLeft ▸ step.left_mem))
        · intro column onRight
          exact leftJoins_frame rest afterMem (by simp [onRight])
      · exact inductionHypothesis rest afterMem later

/-- The left model of a join of a tree is one of the models of the query. -/
theorem left_mem_of_joinTree {members : List ModelId} {joins : List Join}
    (tree : JoinTree relations members joins) {join : Join} (isJoin : join ∈ joins) :
    join.left.model ∈ members ++ joinedModels joins := by
  induction joins generalizing members with
  | nil => cases isJoin
  | cons first joins inductionHypothesis =>
      obtain ⟨step, rest⟩ := tree
      rcases List.mem_cons.1 isJoin with rfl | later
      · exact List.mem_append_left _ step.left_mem
      · simpa [joinedModels] using inductionHypothesis rest later

end Joins

/-! ## What is surely so -/

/-- What can be known of a row of a query: that a model is present, or that a column has a value. -/
inductive Certainty where
  | present (model : ModelId)
  | filled (column : Column)

/-- What is known of all rows of a query from its joins and conditions. -/
inductive Surely (catalog : Catalog) (base : ModelId) (joins : List Join)
    (conditions : List Condition) : Certainty → Prop where
  /-- The model that a query starts from is present. -/
  | base : Surely catalog base joins conditions (.present base)
  /-- A field of a present model that may not be null has a value. -/
  | notNull {column : Column}
      (present : Surely catalog base joins conditions (.present column.model))
      (taken : catalog.HasColumn column) (notNull : (catalog.field column).nullable = false) :
      Surely catalog base joins conditions (.filled column)
  /-- A column that is compared has a value, unless it is asked to be null. -/
  | compared (condition : Condition) (member : condition ∈ conditions)
      (asked : condition.right ≠ .literal .null ∨ condition.op ≠ .eq) :
      Surely catalog base joins conditions (.filled condition.left)
  /-- A column that another one is compared with has a value. -/
  | operand (condition : Condition) {other : Column} (member : condition ∈ conditions)
      (isOther : condition.right = .column other) :
      Surely catalog base joins conditions (.filled other)
  /-- A column with a value shows that its model is present. -/
  | owner {column : Column} (filled : Surely catalog base joins conditions (.filled column))
      (member : column.model ∈ queryModels base joins) :
      Surely catalog base joins conditions (.present column.model)
  /-- A reference with a value leads to a row, so a join along it finds a partner. -/
  | reference (join : Join) (relation : Relation) (member : join ∈ joins)
      (declared : relation ∈ catalog.relations) (left : relation.left = join.left)
      (right : relation.right = join.right)
      (filled : Surely catalog base joins conditions (.filled join.left)) :
      Surely catalog base joins conditions (.present join.right.model)
  /-- A column with a value on a joined model shows that its join found a partner. -/
  | partner (join : Join) {column : Column} (member : join ∈ joins)
      (onRight : column.model = join.right.model)
      (filled : Surely catalog base joins conditions (.filled column)) :
      Surely catalog base joins conditions (.filled join.left)

/-- What a certainty says about a joined row. -/
def Certainty.HoldsIn (database : Database V) (joined : JoinedRow V) : Certainty → Prop
  | .present model => joined.Holds database model
  | .filled column => joined column ≠ none

section Queries

variable [LinearOrder V] {database : Database V} {arguments : Arguments V}

/-- A comparison holds only between values. -/
theorem ne_none_of_holdsOf {op : Comparison} {left right : Option V}
    (holds : op.holdsOf left right = true) : left ≠ none ∧ right ≠ none := by
  cases left <;> cases right <;> simp [Comparison.holdsOf] at holds ⊢

/-- The left column of a condition that a row meets has a value, unless it is asked to be null. -/
theorem left_ne_none_of_holds {condition : Condition} {place : Nat} {joined : JoinedRow V}
    (asked : condition.right ≠ .literal .null ∨ condition.op ≠ .eq)
    (holds : condition.holds arguments place joined = true) : joined condition.left ≠ none := by
  obtain ⟨left, op, right⟩ := condition
  cases right with
  | placeholder => exact (ne_none_of_holdsOf holds).1
  | column other => exact (ne_none_of_holdsOf holds).1
  | literal value =>
      cases value with
      | null =>
          have notEq : op ≠ .eq := by simpa using asked
          simpa [Condition.holds, notEq, Option.isSome_iff_ne_none] using holds
      | bool value => exact (ne_none_of_holdsOf holds).1
      | int value => exact (ne_none_of_holdsOf holds).1
      | text content => exact (ne_none_of_holdsOf holds).1

/-- A row of a query meets each of its conditions, at some place. -/
theorem exists_holds_of_meetsAll {conditions : List Condition} {condition : Condition}
    {joined : JoinedRow V} (meets : meetsAll arguments conditions joined = true)
    (member : condition ∈ conditions) :
    ∃ place, condition.holds arguments place joined = true := by
  obtain ⟨place, bound, rfl⟩ := List.getElem_of_mem member
  have placed : (conditions[place], place) ∈ conditions.zipIdx := by
    simp [List.mk_mem_zipIdx_iff_getElem?, bound]
  exact ⟨place, List.all_eq_true.1 meets _ placed⟩

variable {catalog : Catalog} {base : ModelId} {joins : List Join} {conditions : List Condition}

/-- Where a column of a query has a value, the row holds a row of its model. -/
theorem holds_of_ne_none (tree : JoinTree catalog.relations [base] joins) {row : Row V}
    (rowMem : row ∈ database base) {joined : JoinedRow V}
    (member : joined ∈ leftJoins database joins (.start base row)) {column : Column}
    (known : column.model ∈ queryModels base joins) (filled : joined column ≠ none) :
    joined.Holds database column.model := by
  rcases List.mem_cons.1 known with isBase | isJoined
  · refine ⟨row, isBase ▸ rowMem, fun field => ?_⟩
    rw [leftJoins_frame tree member (by simp [isBase])]
    simp [JoinedRow.start, isBase]
  · obtain ⟨join, isJoin, isRight⟩ := List.mem_map.1 isJoined
    rw [← isRight]
    cases leftJoins_outcome tree member isJoin with
    | matched held _ => exact held
    | unmatched lacks _ =>
        have none := lacks column.field
        rw [isRight] at none
        exact absurd none filled

/-- What is surely so of a query holds in every row that it has, if the database conforms. -/
theorem Surely.sound {certainty : Certainty} (conforms : database.Conforms catalog)
    (surely : Surely catalog base joins conditions certainty)
    (tree : JoinTree catalog.relations [base] joins) {row : Row V} (rowMem : row ∈ database base)
    {joined : JoinedRow V} (member : joined ∈ leftJoins database joins (.start base row))
    (meets : meetsAll arguments conditions joined = true) :
    certainty.HoldsIn database joined := by
  induction surely with
  | base =>
      refine ⟨row, rowMem, fun field => ?_⟩
      rw [leftJoins_frame tree member (by simp)]
      simp [JoinedRow.start]
  | @notNull column _ taken notNull held =>
      obtain ⟨source, sourceMem, same⟩ := held
      have value := conforms.present _ taken.1 source sourceMem _ taken.2 notNull
      rwa [← same] at value
  | compared condition conditionMem asked =>
      obtain ⟨place, holds⟩ := exists_holds_of_meetsAll meets conditionMem
      exact left_ne_none_of_holds asked holds
  | @operand condition other conditionMem isOther =>
      obtain ⟨place, holds⟩ := exists_holds_of_meetsAll meets conditionMem
      simp only [Condition.holds, isOther] at holds
      exact (ne_none_of_holdsOf holds).2
  | owner _ known filled => exact holds_of_ne_none tree rowMem member known filled
  | @reference join relation isJoin declared left right _ filled =>
      cases leftJoins_outcome tree member isJoin with
      | matched held _ => exact held
      | unmatched _ alone =>
          -- The row that the left column comes from refers to a row of the right model.
          have known : join.left.model ∈ queryModels base joins := by
            simpa [queryModels] using left_mem_of_joinTree tree isJoin
          obtain ⟨source, sourceMem, same⟩ := holds_of_ne_none tree rowMem member known filled
          have value : source relation.left.field ≠ none := by
            rw [left, ← same]
            exact filled
          obtain ⟨target, targetMem, refers⟩ :=
            conforms.references relation declared source (left ▸ sourceMem) value
          rw [left, right, ← same] at refers
          exact absurd (alone target (right ▸ targetMem) refers) filled
  | @partner join column isJoin onRight _ filled =>
      cases leftJoins_outcome tree member isJoin with
      | matched _ present => exact present
      | unmatched lacks _ =>
          have none := lacks column.field
          rw [← onRight] at none
          exact absurd none filled

end Queries

end Schemata
