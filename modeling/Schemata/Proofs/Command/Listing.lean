import Schemata.Command.Listing
import Schemata.Proofs.Access.Tasks
import Schemata.Proofs.Analysis.QueryScoping

/-!
# Listed statements are those that methods run

A listing and the methods of a plan are written by different walks over its queries. Both go
through the tasks of the plan in order: a method performs its task, and a listed statement is the
statement of it. A listing has the page of every paged select and methods only those of selects of
many rows, but a plan that was compiled pages no other select.
-/

namespace Schemata

namespace Command

open Sql (Dialect DialectError Statement)
open Access (Method Performs Task CannotReadBack tasks selectTasks readBackModels)

/-- A listed statement is that of a task. -/
def Lists (dialect : Dialect) (plan : Plan) (task : Task) (listed : Listed) : Prop :=
  task.statement dialect plan.toCatalog = .ok listed.statement

section

variable {dialect : Dialect} {plan : Plan}

/-- The statements of a select are those of its tasks, unless it pages a single row. -/
theorem selectListing_lists {query : Select}
    (paged : ∀ paging, query.paging = some paging → query.cardinality = .many) :
    List.Forall₂ (Lists dialect plan) (selectTasks query) (selectListing dialect plan query) := by
  unfold selectTasks selectListing Sql.selectPage?
  refine .cons rfl ?_
  cases paging : query.paging with
  | none =>
      rw [Option.map_none, Option.map_none, Option.map_none, Option.toList_none, ite_self]
      exact .nil
  | some page =>
      rw [if_neg (by rw [paged page paging]; decide)]
      exact .cons rfl .nil

/-- The statements that read rows back are those of the models that are read back. -/
theorem readBackListing_lists {listed : List Listed}
    (made : readBackListing dialect plan = .ok listed) :
    List.Forall₂ (Lists dialect plan) ((readBackModels dialect plan).map .readBack) listed := by
  unfold readBackListing at made
  unfold readBackModels
  split at made
  · next returns =>
    cases made
    rw [if_pos returns]
    exact .nil
  · next keeps =>
    rw [if_neg keeps, List.forall₂_map_left_iff]
    refine (mapM_eq_ok_iff.1 made).imp fun model listed stated => ?_
    obtain ⟨statement, rendered, rfl⟩ := map_eq_ok_iff.1 stated
    exact rendered

/-- The listed statements of a plan are those of its tasks, one after the other. -/
theorem listing_lists {listed : List Listed}
    (paged : ∀ query ∈ plan.selects, ∀ paging, query.paging = some paging →
      query.cardinality = .many)
    (made : listing dialect plan = .ok listed) :
    List.Forall₂ (Lists dialect plan) (tasks dialect plan) listed := by
  obtain ⟨readBack, readBackMade, equal⟩ := of_bind_eq_ok made
  cases equal
  refine List.rel_append ?_ (readBackListing_lists readBackMade)
  refine Access.forall₂_queryTasks (fun _ => rfl)
    (fun query member => selectListing_lists (paged query member))
    (fun _ => .cons rfl (.cons rfl .nil)) ?_ (fun _ => rfl)
  rw [List.forall₂_map_right_iff, List.forall₂_same]
  exact fun _ _ => rfl

/-- A listing fails only if rows have to be read back and cannot. -/
theorem cannotReadBack_of_listing {error : DialectError}
    (refused : listing dialect plan = .error error) : CannotReadBack dialect plan error := by
  obtain readBackRefused | ⟨readBack, -, impossible⟩ := of_bind_eq_error refused
  · unfold readBackListing at readBackRefused
    split at readBackRefused
    · cases readBackRefused
    · next keeps =>
      obtain ⟨before, model, after, split, -, modelRefused⟩ :=
        exists_of_mapM_eq_error readBackRefused
      obtain ⟨noColumn, rfl⟩ :=
        Access.getLastStatement_eq_error_iff.1 (map_eq_error_iff.1 modelRefused)
      refine ⟨noColumn, model, ?_, rfl⟩
      simp [readBackModels, keeps, split]
  · cases impossible

/-- What performs the tasks of a plan and what lists them have the same texts. -/
theorem map_sql_eq_of_lists {items : List Task} {found : List Method} {listed : List Listed}
    (perform : List.Forall₂ (Performs dialect plan) items found)
    (lists : List.Forall₂ (Lists dialect plan) items listed) :
    listed.map (·.statement.sql) = found.map (·.sql) := by
  induction perform generalizing listed with
  | nil =>
      cases lists
      rfl
  | cons first others inductionHypothesis =>
      obtain ⟨head, tail, headLists, tailLists, rfl⟩ := List.forall₂_cons_left_iff.1 lists
      obtain ⟨statement, rendered, sameText, -⟩ := first.statement
      have same : statement = head.statement := Except.ok.inj (rendered.symm.trans headLists)
      rw [List.map_cons, List.map_cons, inductionHypothesis tailLists, sameText, same]

end

end Command

/-- Only selects of many rows are paged. -/
theorem many_of_paged {source : String} {plan : Plan} (compiled : compile source = .ok plan) :
    ∀ query ∈ plan.selects, ∀ paging, query.paging = some paging → query.cardinality = .many := by
  intro query member paging paged
  obtain ⟨schema, -, resolves⟩ := Analysis.exists_resolves_of_compile compiled
  obtain ⟨declared, -, gives⟩ := resolves.selects query member
  have inside := ((Analysis.resolveSelect_ensures _ declared).of_gives gives query rfl).1
  exact (inside.paging paging paged).many

open Command Access in
/-- The statements of a plan can be listed exactly if its methods can be written, and then the
listing is, block by block, that of the statements that the methods run. -/
theorem listing_agrees_methods {source : String} {plan : Plan}
    (compiled : compile source = .ok plan) (dialect : Sql.Dialect) :
    (∃ first ∈ plan.returningTargets, ∃ second ∈ plan.returningTargets,
      listingText dialect plan = .error (.noFallback dialect.name (plan.model first).name) ∧
      methods dialect plan = .error (.noFallback dialect.name (plan.model second).name)) ∨
    ∃ listed found, listing dialect plan = .ok listed ∧
      listingText dialect plan = .ok (String.join (listed.map fun block =>
        "\n-- " ++ block.label ++ "\n" ++ block.statement.sql ++ ";\n")) ∧
      methods dialect plan = .ok found ∧
      listed.map (·.statement.sql) = found.map (·.sql) := by
  rcases methods_outcome dialect plan with ⟨loses, error, made, cannot⟩ | ⟨keeps, found, made⟩
  · cases listed : listing dialect plan with
    | ok blocks =>
        have lists := listing_lists (many_of_paged compiled) listed
        exact absurd loses (not_losesRows_of_statements lists fun _ block isOf => ⟨_, isOf⟩)
    | error other =>
        obtain ⟨first, isFirst, rfl⟩ := (cannotReadBack_of_listing listed).exists_target
        obtain ⟨second, isSecond, rfl⟩ := cannot.exists_target
        exact .inl ⟨first, isFirst, second, isSecond, map_eq_error_iff.2 listed, made⟩
  · cases listed : listing dialect plan with
    | error other => exact absurd (cannotReadBack_of_listing listed).losesRows keeps
    | ok blocks =>
        have lists := listing_lists (many_of_paged compiled) listed
        exact .inr ⟨blocks, found, rfl, map_eq_ok_iff.2 ⟨blocks, listed, rfl⟩, made,
          map_sql_eq_of_lists (methods_perform made) lists⟩

open Command Access in
/-- The ten statements of the roster are listed as its methods run them. Without a column that
tells rows apart, there is neither a listing nor a method. -/
theorem rosterPlan_listing_agrees :
    compile rosterSource = .ok rosterPlan ∧
    (∃ listed found, listing Sql.sqlite3 rosterPlan = .ok listed ∧
      methods Sql.sqlite3 rosterPlan = .ok found ∧ found.length = 10 ∧
      listed.map (·.statement.sql) = found.map (·.sql)) ∧
    ∃ first second,
      listingText { Sql.sqlite3 with rowIdentity := none } rosterPlan =
        .error (.noFallback "sqlite3" first) ∧
      methods { Sql.sqlite3 with rowIdentity := none } rosterPlan =
        .error (.noFallback "sqlite3" second) := by
  refine ⟨compile_rosterSource, ?_, ?_⟩
  · rcases listing_agrees_methods compile_rosterSource Sql.sqlite3 with
      ⟨first, -, second, -, -, refused⟩ | ⟨listed, found, isListed, -, made, same⟩
    · exact absurd (cannotReadBack_of_methods refused).losesRows (by decide)
    · have count : (tasks Sql.sqlite3 rosterPlan).length = 10 := by decide
      exact ⟨listed, found, isListed, made, (methods_perform made).length_eq ▸ count, same⟩
  · rcases listing_agrees_methods compile_rosterSource { Sql.sqlite3 with rowIdentity := none } with
      ⟨first, -, second, -, listing, refused⟩ | ⟨listed, found, -, -, made, -⟩
    · exact ⟨_, _, listing, refused⟩
    · exact absurd ⟨rfl, .inr rfl, by decide⟩ (not_losesRows_of_methods made)

end Schemata
