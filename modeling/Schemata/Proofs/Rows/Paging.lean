import Mathlib.Data.List.Basic
import Schemata.Proofs.Rows.SingleRow

/-!
# Reading a select page by page

A page holds the first rows of a select behind a cursor, in the order of one column, and the value
of its last row is the next cursor. Rows with the same value come in an order that the database
chooses, so a page is a relation and not a function. Whatever the choices are, a run of pages
ends, and no row is read twice (`PageRun.exists_lost`). Rows are lost in two ways only: a row
without a value is behind no cursor, and the rows that share the value of the last row of a full
page are behind the next cursor only if they were on that page (`PageRun.perm_iff`). Nothing is
lost where the column tells the rows of the select apart (`PagedByKey`).
-/

namespace Schemata

open Analysis
open scoped List

variable {V : Type} [LinearOrder V]

/-! ## Pages -/

/-- The arguments of a page: the cursor is bound behind the placeholders of all conditions. -/
def Arguments.withCursor (arguments : Arguments V) (place : Nat) (cursor : V) : Arguments V where
  literal := arguments.literal
  placeholder other := if other = place then some cursor else arguments.placeholder other

/-- The last condition of a page: its rows come behind the cursor. -/
def Paging.condition (paging : Paging) : Condition :=
  ⟨paging.column, .gt, .placeholder⟩

/-- All joined rows of a select. -/
def Select.joinedRows (select : Select) (database : Database V) (arguments : Arguments V) :
    List (JoinedRow V) :=
  queryRows database arguments select.model select.joins select.conditions

/-- The joined rows of a select behind a cursor. -/
def Select.rowsBehind (select : Select) (paging : Paging) (database : Database V)
    (arguments : Arguments V) (cursor : V) : List (JoinedRow V) :=
  queryRows database (arguments.withCursor select.conditions.length cursor) select.model
    select.joins (select.conditions ++ [paging.condition])

/-- Rows in the order of a column in which all of them have values. -/
def InOrder (column : Column) (rows : List (JoinedRow V)) : Prop :=
  rows.Pairwise fun first second => Comparison.le.holdsOf (first column) (second column) = true

/-- A page behind a cursor: the first rows of all rows behind it, in some order by the column. -/
def Select.IsPage (select : Select) (paging : Paging) (database : Database V)
    (arguments : Arguments V) (cursor : V) (page : List (JoinedRow V)) : Prop :=
  ∃ ordered : List (JoinedRow V),
    ordered ~ select.rowsBehind paging database arguments cursor ∧
      InOrder paging.column ordered ∧ page = ordered.take paging.size

/-- Pages that are read one after another, from a cursor up to the first page that is not full. -/
inductive Select.PageRun (select : Select) (paging : Paging) (database : Database V)
    (arguments : Arguments V) : V → List (List (JoinedRow V)) → Prop where
  | last {cursor : V} {page : List (JoinedRow V)}
      (isPage : select.IsPage paging database arguments cursor page)
      (short : page.length < paging.size) :
      PageRun select paging database arguments cursor [page]
  | next {cursor value : V} {page : List (JoinedRow V)} {final : JoinedRow V}
      {pages : List (List (JoinedRow V))}
      (isPage : select.IsPage paging database arguments cursor page)
      (full : paging.size ≤ page.length) (ends : page.getLast? = some final)
      (holds : final paging.column = some value)
      (others : PageRun select paging database arguments value pages) :
      PageRun select paging database arguments cursor (page :: pages)

/-- A page breaks a tie: there are more rows with the value of its last row than on the page. -/
def BreaksTie (column : Column) (rows page : List (JoinedRow V)) : Prop :=
  ∃ final, page.getLast? = some final ∧
    page.countP (fun row => row column = final column) <
      rows.countP (fun row => row column = final column)

/-! ## Rows behind a cursor -/

/-- Whether a row has a value behind a cursor. -/
abbrev isBehind (column : Column) (cursor : V) (row : JoinedRow V) : Bool :=
  Comparison.gt.holdsOf (row column) (some cursor)

/-- A row is behind a cursor if its cell is not null and greater. -/
theorem isBehind_iff {column : Column} {cursor : V} {row : JoinedRow V} :
    isBehind column cursor row = true ↔ ∃ value, row column = some value ∧ cursor < value := by
  cases cell : row column <;> simp [isBehind, Comparison.holdsOf, Comparison.holds, cell]

/-- A comparison that holds orders the values that it compares. -/
theorem le_of_holdsOf {left right : Option V} {value bound : V}
    (ordered : Comparison.le.holdsOf left right = true) (isLeft : left = some value)
    (isRight : right = some bound) : value ≤ bound := by
  simpa [isLeft, isRight, Comparison.holdsOf, Comparison.holds] using ordered

/-- A cursor that is bound behind all conditions is not seen by any of them. -/
theorem meetsAll_withCursor (arguments : Arguments V) (cursor : V) (conditions : List Condition)
    (row : JoinedRow V) :
    meetsAll (arguments.withCursor conditions.length cursor) conditions row =
      meetsAll arguments conditions row := by
  unfold meetsAll
  rw [Bool.eq_iff_iff, List.all_eq_true, List.all_eq_true]
  apply forall₂_congr
  rintro ⟨condition, place⟩ member
  have earlier : place ≠ conditions.length := by
    have bound := (List.mem_zipIdx member).2.1
    omega
  have same : (arguments.withCursor conditions.length cursor).placeholder place =
      arguments.placeholder place := if_neg earlier
  obtain ⟨left, op, right⟩ := condition
  cases right with
  | placeholder => simp only [Condition.holds, same]
  | column other => rfl
  | literal value => cases value <;> rfl

/-- The rows behind a cursor are the rows of the select that have a value behind it. -/
theorem rowsBehind_eq_filter (select : Select) (paging : Paging) (database : Database V)
    (arguments : Arguments V) (cursor : V) :
    select.rowsBehind paging database arguments cursor =
      (select.joinedRows database arguments).filter (isBehind paging.column cursor) := by
  unfold Select.rowsBehind Select.joinedRows queryRows
  rw [List.filter_filter]
  congr 1
  funext row
  have behind : paging.condition.holds (arguments.withCursor select.conditions.length cursor)
      select.conditions.length row = isBehind paging.column cursor row := by
    simp [Paging.condition, Condition.holds, Arguments.withCursor, isBehind]
  rw [← meetsAll_withCursor arguments cursor select.conditions row, ← behind, Bool.and_comm]
  simp [meetsAll, List.zipIdx_append]

/-- Behind a later cursor are the rows with later values. -/
theorem filter_rowsBehind {select : Select} {paging : Paging} {database : Database V}
    {arguments : Arguments V} {cursor value : V} (later : cursor < value) :
    (select.rowsBehind paging database arguments cursor).filter (isBehind paging.column value) =
      select.rowsBehind paging database arguments value := by
  rw [rowsBehind_eq_filter, rowsBehind_eq_filter, List.filter_filter]
  congr 1
  funext row
  rw [Bool.eq_iff_iff, Bool.and_eq_true, isBehind_iff, isBehind_iff]
  constructor
  · rintro ⟨behind, -⟩
    exact behind
  · rintro ⟨cell, held, behind⟩
    exact ⟨⟨cell, held, behind⟩, cell, held, lt_trans later behind⟩

section Runs

variable {select : Select} {paging : Paging} {database : Database V} {arguments : Arguments V}
  {cursor value : V} {page : List (JoinedRow V)} {pages : List (List (JoinedRow V))}

/-- The rows of a page have a cell that is greater than the cursor. -/
theorem isBehind_of_mem {row : JoinedRow V}
    (member : row ∈ select.rowsBehind paging database arguments cursor) :
    ∃ cell, row paging.column = some cell ∧ cursor < cell := by
  rw [rowsBehind_eq_filter] at member
  exact isBehind_iff.1 (List.mem_filter.1 member).2

/-- The rows of a page are behind its cursor. -/
theorem Select.IsPage.mem {row : JoinedRow V}
    (isPage : select.IsPage paging database arguments cursor page) (member : row ∈ page) :
    row ∈ select.rowsBehind paging database arguments cursor := by
  obtain ⟨ordered, sameRows, -, rfl⟩ := isPage
  exact sameRows.mem_iff.1 (List.mem_of_mem_take member)

/--
How a page with a last value splits the rows behind its cursor: into those on the page, those that
are skipped because they have the last value too, and those behind the next cursor.
-/
structure Select.Split (select : Select) (paging : Paging) (database : Database V)
    (arguments : Arguments V) (cursor value : V) (page skipped : List (JoinedRow V)) : Prop where
  later : cursor < value
  upTo : ∀ row ∈ page, ∀ cell, row paging.column = some cell → cell ≤ value
  ties : ∀ row ∈ skipped, row paging.column = some value
  perm : select.rowsBehind paging database arguments cursor ~
    page ++ (skipped ++ select.rowsBehind paging database arguments value)

/-- Every page with a last value splits the rows behind its cursor. -/
theorem Select.IsPage.exists_split {final : JoinedRow V}
    (isPage : select.IsPage paging database arguments cursor page)
    (ends : page.getLast? = some final) (holds : final paging.column = some value) :
    ∃ skipped, select.Split paging database arguments cursor value page skipped := by
  have finalMem : final ∈ page := List.mem_of_getLast? ends
  have later : cursor < value := by
    obtain ⟨cell, held, behind⟩ := isBehind_of_mem (isPage.mem finalMem)
    rw [holds] at held
    exact Option.some.inj held ▸ behind
  obtain ⟨ordered, sameRows, inOrder, rfl⟩ := isPage
  rw [InOrder, ← List.take_append_drop paging.size ordered, List.pairwise_append] at inOrder
  obtain ⟨pageOrder, -, across⟩ := inOrder
  have upTo : ∀ row ∈ ordered.take paging.size, ∀ cell,
      row paging.column = some cell → cell ≤ value := by
    intro row member cell held
    obtain ⟨front, shape⟩ := List.getLast?_eq_some_iff.1 ends
    rw [shape] at member pageOrder
    rcases List.mem_append.1 member with early | isFinal
    · have before := (List.pairwise_append.1 pageOrder).2.2 row early final (by simp)
      exact le_of_holdsOf before held holds
    · rw [List.mem_singleton.1 isFinal, holds] at held
      exact (Option.some.inj held).ge
  have fromOn : ∀ row ∈ ordered.drop paging.size, ∃ cell,
      row paging.column = some cell ∧ value ≤ cell := by
    intro row member
    obtain ⟨cell, held, -⟩ := isBehind_of_mem (sameRows.mem_iff.1 (List.mem_of_mem_drop member))
    exact ⟨cell, held, le_of_holdsOf (across final finalMem row member) holds held⟩
  -- No row of the page is behind its own last value.
  have pageDone : (ordered.take paging.size).filter (isBehind paging.column value) = [] := by
    rw [List.filter_eq_nil_iff]
    intro row member behind
    obtain ⟨cell, held, above⟩ := isBehind_iff.1 behind
    exact absurd (upTo row member cell held) (not_le.2 above)
  have behindRest : (ordered.drop paging.size).filter (isBehind paging.column value) ~
      select.rowsBehind paging database arguments value := by
    rw [← filter_rowsBehind later]
    refine List.Perm.trans (.of_eq ?_) (sameRows.filter _)
    rw [← List.take_append_drop paging.size ordered, List.filter_append,
      List.take_append_drop, pageDone, List.nil_append]
  refine ⟨(ordered.drop paging.size).filter fun row => !isBehind paging.column value row,
    later, upTo, ?_, ?_⟩
  · intro row member
    obtain ⟨inRest, notBehind⟩ := List.mem_filter.1 member
    obtain ⟨cell, held, above⟩ := fromOn row inRest
    have notAbove : ¬ value < cell := by
      intro isAbove
      rw [isBehind_iff.2 ⟨cell, held, isAbove⟩] at notBehind
      cases notBehind
    rw [held, le_antisymm (not_lt.1 notAbove) above]
  · have parted :=
      List.filter_append_perm (isBehind paging.column value) (ordered.drop paging.size)
    have restSplit :=
      (parted.symm.trans List.perm_append_comm).trans (behindRest.append_left _)
    calc select.rowsBehind paging database arguments cursor
      _ ~ ordered := sameRows.symm
      _ = ordered.take paging.size ++ ordered.drop paging.size :=
        (List.take_append_drop paging.size ordered).symm
      _ ~ _ := restSplit.append_left _

/-- A page that is not full holds all rows behind its cursor. -/
theorem Select.IsPage.perm_of_short
    (isPage : select.IsPage paging database arguments cursor page)
    (short : page.length < paging.size) :
    page ~ select.rowsBehind paging database arguments cursor := by
  obtain ⟨ordered, sameRows, -, rfl⟩ := isPage
  have whole : ordered.length ≤ paging.size := by
    rw [List.length_take] at short
    omega
  rw [List.take_of_length_le whole]
  exact sameRows

namespace Select.Split

variable {skipped : List (JoinedRow V)}

/-- How often a value occurs behind the cursor, by where it occurs. -/
theorem countP_rowsBehind
    (split : select.Split paging database arguments cursor value page skipped) (cell : V) :
    (select.rowsBehind paging database arguments cursor).countP
        (fun row => row paging.column = some cell) =
      page.countP (fun row => row paging.column = some cell) +
        (skipped.countP (fun row => row paging.column = some cell) +
          (select.rowsBehind paging database arguments value).countP
            (fun row => row paging.column = some cell)) := by
  rw [split.perm.countP_eq, List.countP_append, List.countP_append]

/-- The page breaks a tie exactly if rows are skipped. -/
theorem breaksTie_iff {final : JoinedRow V}
    (split : select.Split paging database arguments cursor value page skipped)
    (ends : page.getLast? = some final) (holds : final paging.column = some value) :
    BreaksTie paging.column (select.rowsBehind paging database arguments cursor) page ↔
      skipped ≠ [] := by
  have noneBehind : (select.rowsBehind paging database arguments value).countP
      (fun row => row paging.column = some value) = 0 := by
    rw [List.countP_eq_zero]
    intro row member
    obtain ⟨cell, held, above⟩ := isBehind_of_mem member
    simpa [held] using above.ne'
  have allSkipped : skipped.countP (fun row => row paging.column = some value) =
      skipped.length := by
    rw [List.countP_eq_length]
    intro row member
    simpa using split.ties row member
  have total := split.countP_rowsBehind value
  rw [BreaksTie, ← List.length_pos_iff]
  constructor
  · rintro ⟨other, otherEnds, less⟩
    obtain rfl := Option.some.inj (ends.symm.trans otherEnds)
    simp only [holds] at less
    omega
  · intro some
    refine ⟨final, ends, ?_⟩
    simp only [holds]
    omega

/-- Pages with rows behind the next cursor break the ties that they break among these rows. -/
theorem breaksTie_later_iff {other : List (JoinedRow V)}
    (split : select.Split paging database arguments cursor value page skipped)
    (behind : ∀ row ∈ other, row ∈ select.rowsBehind paging database arguments value) :
    BreaksTie paging.column (select.rowsBehind paging database arguments cursor) other ↔
      BreaksTie paging.column (select.rowsBehind paging database arguments value) other := by
  refine exists_congr fun final => and_congr_right fun ends => ?_
  obtain ⟨cell, held, above⟩ := isBehind_of_mem (behind final (List.mem_of_getLast? ends))
  have pageNone : page.countP (fun row => row paging.column = some cell) = 0 := by
    rw [List.countP_eq_zero]
    intro row member
    simp only [decide_eq_true_eq]
    intro same
    exact absurd (split.upTo row member cell same) (not_le.2 above)
  have skippedNone : skipped.countP (fun row => row paging.column = some cell) = 0 := by
    rw [List.countP_eq_zero]
    intro row member
    simpa [split.ties row member] using above.ne
  have total := split.countP_rowsBehind cell
  simp only [held]
  omega

/-- All rows behind the cursor are read if none is skipped and all behind the next one are read. -/
theorem perm_append_iff {others lost : List (JoinedRow V)}
    (split : select.Split paging database arguments cursor value page skipped)
    (read : select.rowsBehind paging database arguments value ~ others ++ lost) :
    page ++ others ~ select.rowsBehind paging database arguments cursor ↔
      skipped = [] ∧ others ~ select.rowsBehind paging database arguments value := by
  constructor
  · intro all
    have left : others ~ skipped ++ select.rowsBehind paging database arguments value :=
      (List.perm_append_left_iff page).1 (all.trans split.perm)
    have noneSkipped : skipped = [] := by
      have few := read.length_eq
      have many := left.length_eq
      rw [List.length_append] at few many
      exact List.length_eq_zero_iff.1 (by omega)
    rw [noneSkipped, List.nil_append] at left
    exact ⟨noneSkipped, left⟩
  · rintro ⟨noneSkipped, all⟩
    have whole := split.perm
    rw [noneSkipped, List.nil_append] at whole
    exact (all.append_left page).trans whole.symm

end Select.Split

/-! ## Runs of pages -/

/-- There is a page behind every cursor. -/
theorem exists_isPage (select : Select) (paging : Paging) (database : Database V)
    (arguments : Arguments V) (cursor : V) :
    ∃ page, select.IsPage paging database arguments cursor page := by
  let rows := select.rowsBehind paging database arguments cursor
  -- Rows without a value do not occur; they are put last to have a total order.
  let noLater (first second : JoinedRow V) : Bool :=
    Comparison.le.holdsOf (first paging.column) (second paging.column) ||
      (second paging.column).isNone
  have transitive : ∀ first second third, noLater first second = true →
      noLater second third = true → noLater first third = true := by
    intro first second third
    simp only [noLater]
    cases first paging.column <;> cases second paging.column <;> cases third paging.column <;>
      simp [Comparison.holdsOf, Comparison.holds]
    exact le_trans
  have total : ∀ first second, (noLater first second || noLater second first) = true := by
    intro first second
    simp only [noLater]
    cases first paging.column <;> cases second paging.column <;>
      simp [Comparison.holdsOf, Comparison.holds, le_total]
  have sorted := List.pairwise_mergeSort transitive total rows
  refine ⟨_, rows.mergeSort noLater, List.mergeSort_perm rows noLater, ?_, rfl⟩
  refine sorted.imp_of_mem fun {first second} _ secondMem ordered => ?_
  obtain ⟨cell, held, -⟩ := isBehind_of_mem (List.mem_mergeSort.1 secondMem)
  simpa [noLater, held] using ordered

/-- Whatever a page holds, reading goes on from it to an end. -/
theorem Select.IsPage.exists_run (sized : 1 ≤ paging.size)
    (isPage : select.IsPage paging database arguments cursor page) :
    ∃ others, select.PageRun paging database arguments cursor (page :: others) := by
  induction left : (select.rowsBehind paging database arguments cursor).length
    using Nat.strong_induction_on generalizing cursor page with
  | _ count inductionHypothesis =>
      by_cases short : page.length < paging.size
      · exact ⟨[], .last isPage short⟩
      · have nonempty : page ≠ [] := by
          rintro rfl
          simp only [List.length_nil] at short
          omega
        have ends := List.getLast?_eq_some_getLast nonempty
        obtain ⟨value, holds, -⟩ := isBehind_of_mem (isPage.mem (List.getLast_mem nonempty))
        obtain ⟨skipped, split⟩ := isPage.exists_split ends holds
        have fewer : (select.rowsBehind paging database arguments value).length < count := by
          have lengths := split.perm.length_eq
          have positive := List.length_pos_iff.2 nonempty
          simp only [List.length_append] at lengths
          omega
        obtain ⟨next, isNext⟩ := exists_isPage select paging database arguments value
        obtain ⟨others, run⟩ := inductionHypothesis _ fewer isNext rfl
        exact ⟨next :: others, .next isPage (by omega) ends holds run⟩

/-- The rows that a run reads are rows behind its cursor, each read once; the others are lost. -/
theorem Select.PageRun.exists_lost (run : select.PageRun paging database arguments cursor pages) :
    ∃ lost, select.rowsBehind paging database arguments cursor ~ pages.flatten ++ lost := by
  induction run with
  | last isPage short =>
      refine ⟨[], ?_⟩
      simpa using (isPage.perm_of_short short).symm
  | @next cursor value page final pages isPage full ends holds others inductionHypothesis =>
      obtain ⟨lost, othersLost⟩ := inductionHypothesis
      obtain ⟨skipped, split⟩ := isPage.exists_split ends holds
      refine ⟨skipped ++ lost, ?_⟩
      calc select.rowsBehind paging database arguments cursor
        _ ~ page ++ (skipped ++ select.rowsBehind paging database arguments value) := split.perm
        _ ~ page ++ (skipped ++ (pages.flatten ++ lost)) :=
          (othersLost.append_left skipped).append_left page
        _ ~ page ++ (pages.flatten ++ (skipped ++ lost)) := by
          apply List.Perm.append_left
          rw [← List.append_assoc, ← List.append_assoc]
          exact List.perm_append_comm.append_right lost
        _ = (page :: pages).flatten ++ (skipped ++ lost) := by simp

/-- The rows of a run are behind its cursor. -/
theorem Select.PageRun.mem {row : JoinedRow V}
    (run : select.PageRun paging database arguments cursor pages) (isPage : page ∈ pages)
    (member : row ∈ page) : row ∈ select.rowsBehind paging database arguments cursor := by
  obtain ⟨lost, perm⟩ := run.exists_lost
  exact perm.mem_iff.2 (List.mem_append_left _ (List.mem_flatten.2 ⟨page, isPage, member⟩))

/-- A run reads all rows behind its cursor exactly if no full page breaks a tie between them. -/
theorem Select.PageRun.perm_iff (run : select.PageRun paging database arguments cursor pages) :
    pages.flatten ~ select.rowsBehind paging database arguments cursor ↔
      ∀ page ∈ pages, paging.size ≤ page.length →
        ¬ BreaksTie paging.column (select.rowsBehind paging database arguments cursor) page := by
  induction run with
  | last isPage short =>
      constructor
      · intro _ other member full
        rw [List.mem_singleton.1 member] at full
        omega
      · intro _
        simpa using isPage.perm_of_short short
  | @next cursor value page final pages isPage full ends holds others inductionHypothesis =>
      obtain ⟨skipped, split⟩ := isPage.exists_split ends holds
      obtain ⟨lost, read⟩ := others.exists_lost
      rw [List.flatten_cons, split.perm_append_iff read, inductionHypothesis, List.forall_mem_cons]
      apply and_congr
      · rw [split.breaksTie_iff ends holds]
        simp [full]
      · apply forall₂_congr
        intro other isOther
        rw [split.breaksTie_later_iff fun row member => others.mem isOther member]

end Runs

/-! ## Columns that tell rows apart -/

/--
A select whose rows are told apart by the column of its pages: the column is a key on its own and
never null, and every join leads to a column that is a key on its own.
-/
structure PagedByKey (catalog : Catalog) (select : Select) (paging : Paging) : Prop where
  unique : (catalog.model paging.column.model).isUniqueField paging.column.field = true
  present : (catalog.field paging.column).nullable = false
  toOne : ∀ join ∈ select.joins,
    (catalog.model join.right.model).isUniqueField join.right.field = true

/-- A row of a select holds in the columns of its own model what the row it starts from holds. -/
theorem exists_base_of_mem_joinedRows {relations : List Relation} {select : Select}
    {database : Database V} {arguments : Arguments V}
    (tree : JoinTree relations [select.model] select.joins) {joined : JoinedRow V}
    (member : joined ∈ select.joinedRows database arguments) :
    ∃ row ∈ database select.model, ∀ field, joined ⟨select.model, field⟩ = row field := by
  obtain ⟨row, rowMem, joinedMem⟩ := List.mem_flatMap.1 (List.mem_filter.1 member).1
  refine ⟨row, rowMem, fun field => ?_⟩
  rw [leftJoins_frame tree joinedMem (by simp)]
  simp [JoinedRow.start]

/-- The rows of a select that is paged by a key have different values in its column. -/
theorem PagedByKey.pairwise {catalog : Catalog} {select : Select} {paging : Paging}
    {database : Database V} {arguments : Arguments V} (byKey : PagedByKey catalog select paging)
    (keyed : database.Keyed catalog) (inside : SelectScoped catalog select)
    (isPaging : select.paging = some paging)
    (present : ∀ row ∈ database select.model, row paging.column.field ≠ none) :
    (select.joinedRows database arguments).Pairwise fun first second =>
      first paging.column ≠ second paging.column := by
  have onBase : paging.column = ⟨select.model, paging.column.field⟩ := by
    rw [← (inside.paging paging isPaging).column_model]
  have different := keyed.pairwise (Model.isUniqueField_iff.1 byKey.unique) (List.cons_ne_nil _ _)
  rw [(inside.paging paging isPaging).column_model] at different
  apply List.Pairwise.filter
  rw [List.pairwise_flatMap]
  constructor
  · -- One row of the model leads to one joined row.
    intro row _
    have one := length_leftJoins keyed byKey.toOne (JoinedRow.start select.model row)
    obtain ⟨only, shape⟩ := List.length_eq_one_iff.1 one
    rw [shape]
    exact List.pairwise_singleton _ _
  · refine different.imp_of_mem fun {first second} firstMem secondMem apart => ?_
    intro firstJoined firstIn secondJoined secondIn same
    rw [onBase, leftJoins_frame inside.tree firstIn (by simp),
      leftJoins_frame inside.tree secondIn (by simp)] at same
    simp only [JoinedRow.start, if_pos] at same
    apply apart
    · simpa [Row.PresentOn] using present first firstMem
    · simpa [Row.PresentOn] using present second secondMem
    · simpa [Row.SameOn] using same

/-- Rows with different values in a column are never torn apart. -/
theorem not_breaksTie_of_pairwise {column : Column} {rows page : List (JoinedRow V)}
    (different : rows.Pairwise fun first second => first column ≠ second column) :
    ¬ BreaksTie column rows page := by
  rintro ⟨final, ends, less⟩
  have onPage : 0 < page.countP fun row => row column = final column := by
    rw [List.countP_pos_iff]
    exact ⟨final, List.mem_of_getLast? ends, by simp⟩
  have once : rows.countP (fun row => row column = final column) ≤ 1 := by
    rw [List.countP_eq_length_filter]
    apply length_filter_le_one
    refine different.imp fun {first second} apart firstSame secondSame => apart ?_
    exact (of_decide_eq_true firstSame).trans (of_decide_eq_true secondSame).symm
  omega

/-- From below all values, the rows with a value are those behind the cursor. -/
theorem rowsBehind_eq_joinedRows {select : Select} {paging : Paging} {database : Database V}
    {arguments : Arguments V} {cursor : V}
    (below : ∀ row ∈ select.joinedRows database arguments, ∀ value,
      row paging.column = some value → cursor < value)
    (present : ∀ row ∈ select.joinedRows database arguments, row paging.column ≠ none) :
    select.rowsBehind paging database arguments cursor = select.joinedRows database arguments := by
  rw [rowsBehind_eq_filter, List.filter_eq_self]
  intro row member
  obtain ⟨value, held⟩ := Option.ne_none_iff_exists'.1 (present row member)
  exact isBehind_iff.2 ⟨value, held, below row member value held⟩

section Whole

variable {select : Select} {paging : Paging} {database : Database V} {arguments : Arguments V}
  {cursor : V} {pages : List (List (JoinedRow V))}

/-- A run reads some of the rows of its select, each once. -/
theorem Select.PageRun.exists_unread
    (run : select.PageRun paging database arguments cursor pages) :
    ∃ unread, select.joinedRows database arguments ~ pages.flatten ++ unread := by
  obtain ⟨lost, read⟩ := run.exists_lost
  rw [rowsBehind_eq_filter] at read
  have split := (List.filter_append_perm (isBehind paging.column cursor)
    (select.joinedRows database arguments)).symm.trans (read.append_right _)
  rw [List.append_assoc] at split
  exact ⟨_, split⟩

/-- A run from below all values reads all rows if each has a value and no full page breaks a tie. -/
theorem Select.PageRun.perm_joinedRows_iff
    (run : select.PageRun paging database arguments cursor pages)
    (below : ∀ row ∈ select.joinedRows database arguments, ∀ value,
      row paging.column = some value → cursor < value) :
    pages.flatten ~ select.joinedRows database arguments ↔
      (∀ row ∈ select.joinedRows database arguments, row paging.column ≠ none) ∧
        ∀ page ∈ pages, paging.size ≤ page.length →
          ¬ BreaksTie paging.column (select.joinedRows database arguments) page := by
  constructor
  · intro all
    have present : ∀ row ∈ select.joinedRows database arguments, row paging.column ≠ none := by
      intro row member
      obtain ⟨page, isPage, onPage⟩ := List.mem_flatten.1 (all.mem_iff.2 member)
      obtain ⟨value, held, -⟩ := isBehind_of_mem (run.mem isPage onPage)
      simp [held]
    have same := rowsBehind_eq_joinedRows below present
    exact ⟨present, same ▸ run.perm_iff.1 (same.symm ▸ all)⟩
  · rintro ⟨present, unbroken⟩
    have same := rowsBehind_eq_joinedRows below present
    rw [← same] at unbroken ⊢
    exact run.perm_iff.2 unbroken

/-- Where the column of the pages is a key, every row has a value in it and no tie is broken. -/
theorem PagedByKey.unbroken {catalog : Catalog} (byKey : PagedByKey catalog select paging)
    (conforms : database.Conforms catalog) (inside : SelectScoped catalog select)
    (isPaging : select.paging = some paging) :
    (∀ row ∈ select.joinedRows database arguments, row paging.column ≠ none) ∧
      ∀ page, ¬ BreaksTie paging.column (select.joinedRows database arguments) page := by
  have paged := inside.paging paging isPaging
  have onBase : paging.column = ⟨select.model, paging.column.field⟩ := by
    rw [← paged.column_model]
  have filled : ∀ row ∈ database select.model, row paging.column.field ≠ none := by
    intro row member
    have taken := paged.column_taken
    rw [onBase] at taken
    have notNull := byKey.present
    rw [onBase] at notNull
    exact conforms.present _ taken.1 row member _ taken.2 notNull
  constructor
  · intro joined member
    obtain ⟨row, rowMem, same⟩ := exists_base_of_mem_joinedRows inside.tree member
    rw [onBase, same]
    exact filled row rowMem
  · intro page
    exact not_breaksTie_of_pairwise (byKey.pairwise conforms.toKeyed inside isPaging filled)

end Whole

/-- What a select shows of a joined row. -/
def Select.cells (select : Select) (catalog : Catalog) (joined : JoinedRow V) : List (Option V) :=
  select.projections.flatMap (Projection.cells catalog joined)

/--
Reading a compiled select page by page, from a cursor below all values of its column and up to the
first page that is not full, comes to an end, whatever order the database gives to rows with the
same value. No row is read more often than the select yields it. All rows are read exactly if each
has a value in the column and no full page breaks a tie, so they are always read if the column
is a key on its own and never null, and every join leads to a column that is a key on its own.
-/
theorem compile_pagesRead {source : String} {plan : Plan} (compiled : compile source = .ok plan)
    (database : Database V) (conforms : database.Conforms plan.toCatalog)
    (arguments : Arguments V) (select : Select) (isSelect : select ∈ plan.selects)
    (paging : Paging) (isPaging : select.paging = some paging) (cursor : V)
    (below : ∀ row ∈ select.joinedRows database arguments, ∀ value,
      row paging.column = some value → cursor < value) :
    (∀ reached, ∃ page, select.IsPage paging database arguments reached page) ∧
    (∀ reached page, select.IsPage paging database arguments reached page →
      ∃ others, select.PageRun paging database arguments reached (page :: others)) ∧
    ∀ pages, select.PageRun paging database arguments cursor pages →
      (∃ lost, select.yields plan.toCatalog database arguments ~
        pages.flatten.map (select.cells plan.toCatalog) ++ lost) ∧
      (pages.flatten ~ select.joinedRows database arguments ↔
        (∀ row ∈ select.joinedRows database arguments, row paging.column ≠ none) ∧
          ∀ page ∈ pages, paging.size ≤ page.length →
            ¬ BreaksTie paging.column (select.joinedRows database arguments) page) ∧
      (PagedByKey plan.toCatalog select paging →
        pages.flatten.map (select.cells plan.toCatalog) ~
          select.yields plan.toCatalog database arguments) := by
  obtain ⟨schema, -, resolves⟩ := exists_resolves_of_compile compiled
  obtain ⟨declared, -, gives⟩ := resolves.selects select isSelect
  obtain ⟨inside, -⟩ := (resolveSelect_ensures _ declared).of_gives gives select rfl
  have paged := inside.paging paging isPaging
  have yields : select.yields plan.toCatalog database arguments =
      (select.joinedRows database arguments).map (select.cells plan.toCatalog) := rfl
  refine ⟨exists_isPage select paging database arguments,
    fun _ _ isPage => isPage.exists_run paged.size_pos, fun pages run => ?_⟩
  have complete := run.perm_joinedRows_iff below
  refine ⟨?_, complete, fun byKey => ?_⟩
  · obtain ⟨unread, split⟩ := run.exists_unread
    rw [yields]
    exact ⟨_, List.map_append ▸ split.map (select.cells plan.toCatalog)⟩
  · obtain ⟨present, unbroken⟩ := byKey.unbroken conforms inside isPaging
    rw [yields]
    exact (complete.2 ⟨present, fun page _ _ => unbroken page⟩).map _

/-- A schema of tickets that are read page by page, by their number and by their priority. -/
def ticketSource : String :=
  "model ticket ( field id int autoincrement, field priority int )
select ticket ( paged ticket.id 2 )
select ticket.id ( paged ticket.priority 2 )
"

/-- Tickets by their number. -/
def ticketsByNumber : Select where
  model := 0
  projections := [.model 0]
  joins := []
  conditions := []
  cardinality := .many
  paging := some ⟨⟨0, 0⟩, 2⟩
  result := .model 0
  position := ⟨2, 1, 64⟩

/-- The numbers of tickets by their priority. -/
def ticketsByPriority : Select where
  model := 0
  projections := [.field ⟨0, 0⟩]
  joins := []
  conditions := []
  cardinality := .many
  paging := some ⟨⟨0, 1⟩, 2⟩
  result := .field ⟨0, 0⟩
  position := ⟨3, 1, 100⟩

/-- The plan of the schema. -/
def ticketPlan : Plan where
  models := [
    ⟨"ticket", "ticket", [
      ⟨{ autoincrement := true }, "id", "id", .int, none, none, ⟨1, 22, 21⟩⟩,
      ⟨{}, "priority", "priority", .int, none, none, ⟨1, 50, 49⟩⟩],
      [0], [], ⟨1, 1, 0⟩⟩]
  relations := []
  inserts := []
  selects := [ticketsByNumber, ticketsByPriority]
  updates := []
  deletes := []
  counts := []
  returningTargets := []

/-- The source compiles to the plan. -/
theorem compile_ticketSource : compile ticketSource = .ok ticketPlan := by
  apply eq_ok_of_toOption
  unfold ticketSource
  rw [compile_ofList]
  decide +kernel

/-- Three tickets of the same priority. -/
def ticketDatabase : Database Nat
  | 0 => [.ofCells [some 1, some 5], .ofCells [some 2, some 5], .ofCells [some 3, some 5]]
  | _ => []

/-- What the selects of tickets are run with; they have no conditions. -/
def noArguments : Arguments Nat := ⟨fun _ => 0, fun _ => none⟩

/-- By their number, all tickets are read, two on the first page and one on the second. -/
theorem ticketPlan_pagesRead :
    compile ticketSource = .ok ticketPlan ∧ ticketDatabase.Conforms ticketPlan.toCatalog ∧
    (∃ pages, ticketsByNumber.PageRun ⟨⟨0, 0⟩, 2⟩ ticketDatabase noArguments 0 pages) ∧
    ∀ pages, ticketsByNumber.PageRun ⟨⟨0, 0⟩, 2⟩ ticketDatabase noArguments 0 pages →
      pages.flatten.map (ticketsByNumber.cells ticketPlan.toCatalog) ~
        [[some 1, some 5], [some 2, some 5], [some 3, some 5]] := by
  have conforms : ticketDatabase.Conforms ticketPlan.toCatalog := by decide
  have below : ∀ row ∈ ticketsByNumber.joinedRows ticketDatabase noArguments, ∀ value,
      row ⟨0, 0⟩ = some value → 0 < value := by
    have numbers : (ticketsByNumber.joinedRows ticketDatabase noArguments).map (· ⟨0, 0⟩) =
        [some 1, some 2, some 3] := by decide
    intro row member value held
    have listed := List.mem_map_of_mem (f := (· ⟨0, 0⟩)) member
    simp only [numbers, held, List.mem_cons, Option.some.injEq, List.not_mem_nil,
      or_false] at listed
    omega
  have byKey : PagedByKey ticketPlan.toCatalog ticketsByNumber ⟨⟨0, 0⟩, 2⟩ :=
    ⟨by decide, by decide, List.forall_mem_nil _⟩
  obtain ⟨hasPage, goesOn, reads⟩ := compile_pagesRead compile_ticketSource ticketDatabase conforms
    noArguments ticketsByNumber (by decide) ⟨⟨0, 0⟩, 2⟩ rfl 0 below
  refine ⟨compile_ticketSource, conforms, ?_, fun pages run => (reads pages run).2.2 byKey⟩
  obtain ⟨page, isPage⟩ := hasPage 0
  obtain ⟨others, run⟩ := goesOn 0 page isPage
  exact ⟨page :: others, run⟩

/-- By their priority, the third ticket is lost: it is not behind the cursor of the second page. -/
theorem ticketPlan_pagesLose :
    compile ticketSource = .ok ticketPlan ∧ ticketDatabase.Conforms ticketPlan.toCatalog ∧
    ticketsByPriority ∈ ticketPlan.selects ∧ ticketsByPriority.paging = some ⟨⟨0, 1⟩, 2⟩ ∧
    (∀ row ∈ ticketsByPriority.joinedRows ticketDatabase noArguments, row ⟨0, 1⟩ = some 5) ∧
    ticketsByPriority.yields ticketPlan.toCatalog ticketDatabase noArguments =
      [[some 1], [some 2], [some 3]] ∧
    ∃ pages, ticketsByPriority.PageRun ⟨⟨0, 1⟩, 2⟩ ticketDatabase noArguments 0 pages ∧
      pages.flatten.map (ticketsByPriority.cells ticketPlan.toCatalog) = [[some 1], [some 2]] ∧
      ¬ pages.flatten.map (ticketsByPriority.cells ticketPlan.toCatalog) ~
        ticketsByPriority.yields ticketPlan.toCatalog ticketDatabase noArguments := by
  have allFive : ∀ row ∈ ticketsByPriority.joinedRows ticketDatabase noArguments,
      row ⟨0, 1⟩ = some 5 := by decide
  refine ⟨compile_ticketSource, by decide, by decide, rfl, allFive, by decide, ?_⟩
  let behind := ticketsByPriority.rowsBehind ⟨⟨0, 1⟩, 2⟩ ticketDatabase noArguments
  have firstPage : ticketsByPriority.IsPage ⟨⟨0, 1⟩, 2⟩ ticketDatabase noArguments 0
      ((behind 0).take 2) :=
    ⟨behind 0, .refl _, by unfold InOrder; decide, rfl⟩
  have lastPage : ticketsByPriority.IsPage ⟨⟨0, 1⟩, 2⟩ ticketDatabase noArguments 5 [] :=
    ⟨behind 5, .refl _, by unfold InOrder; decide, rfl⟩
  have nonempty : (behind 0).take 2 ≠ [] := List.ne_nil_of_length_pos (by decide)
  refine ⟨[(behind 0).take 2, []], .next firstPage (by decide)
    (List.getLast?_eq_some_getLast nonempty) ?_ (.last lastPage (by decide)), by decide, ?_⟩
  · exact allFive _ (List.mem_of_mem_take (List.getLast_mem nonempty))
  · intro perm
    exact absurd perm.length_eq (by decide)

end Schemata
