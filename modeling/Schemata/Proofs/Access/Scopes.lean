import Schemata.Proofs.Access.Receivers
import Schemata.Proofs.Access.Records

/-!
# No scope has a name twice

A scope remembers the names that it handed out. A base that is not among them is handed out as it
is; any other gets the first number from two on that makes a free name, and there always is one. It
counts what was handed out and not what was asked for, since a base may itself look like another
with a number behind it. The methods of a dialect share one scope, in which the names of those that
read rows back come first, and the members of every struct have a scope of their own.
-/

namespace Schemata.Access

open Sql (Dialect)

/-! ## One name -/

/-- What a scope hands out for a base, behind the names that it handed out before. -/
inductive HandedOut (earlier : List String) (base : String) : String → Prop where
  | asItIs (isNew : base ∉ earlier) : HandedOut earlier base base
  | withNumber {number : Nat} (isOld : base ∈ earlier) (least : LeastFree earlier base number) :
      HandedOut earlier base (numbered base number)

/-- One step of a scope: whatever was handed out before, the search for a free name ends. -/
theorem freshName_handedOut (used : List String) (base : String) :
    HandedOut used base (freshName used base) := by
  by_cases isOld : base ∈ used
  · obtain ⟨number, isNumbered, least⟩ := freshName_of_mem isOld
    rw [isNumbered]
    exact .withNumber isOld least
  · rw [freshName_of_notMem isOld]
    exact .asItIs isOld

/-- The order of the names before does not matter. -/
theorem HandedOut.of_same_names {earlier others : List String} {base name : String}
    (handedOut : HandedOut earlier base name) (same : ∀ other, other ∈ earlier ↔ other ∈ others) :
    HandedOut others base name := by
  cases handedOut with
  | asItIs isNew => exact .asItIs fun isOld => isNew ((same base).2 isOld)
  | withNumber isOld least =>
      refine .withNumber ((same base).1 isOld) ⟨least.counted, ?_, ?_⟩
      · exact fun taken => least.free ((same _).2 taken)
      · exact fun smaller counted less => (same _).1 (least.least smaller counted less)

/-! ## All names of a scope -/

/-- A run of a scope: every name is handed out behind those before it. -/
theorem claimNames_handedOut (used bases : List String) {place : Nat} {base name : String}
    (asked : bases[place]? = some base) (given : (claimNames used bases)[place]? = some name) :
    HandedOut (used ++ (claimNames used bases).take place) base name := by
  induction bases generalizing used place with
  | nil => simp at asked
  | cons first bases inductionHypothesis =>
      rw [claimNames] at given ⊢
      cases place with
      | zero =>
          obtain rfl : first = base := by simpa using asked
          obtain rfl : freshName used first = name := by simpa using given
          simpa using freshName_handedOut used first
      | succ place =>
          have later := inductionHypothesis (freshName used first :: used)
            (by simpa using asked) (by simpa using given)
          refine later.of_same_names fun other => ?_
          simp only [List.take_succ_cons, List.cons_append, List.mem_cons, List.mem_append]
          tauto

/-! ## The scopes of a module -/

/-- The members of a model claim the names of its fields. -/
theorem map_name_modelMembers (model : Model) :
    (modelMembers model).map (·.name) =
      claimNames [] (model.fields.map fun field => safeName field.name) :=
  map_zipWith_names (fun _ _ => rfl) (by simp [length_claimNames])

/-- The members of a record claim the names of its projections. -/
theorem map_name_projectionMembers (catalog : Catalog) (projections : List Projection) :
    (projectionMembers catalog projections).map (·.name) =
      claimNames [] (projections.map (projectionName catalog)) := by
  refine map_zipWith_names (fun name projection => ?_) (by simp [length_claimNames])
  cases projection <;> rfl

/--
A scope hands out a name for every base, no name twice, and each of them behind those before it. So
all methods of a plan in a dialect have different names, those that read rows back among them, and
so have the members of the struct of every model and of every record.
-/
theorem scopes_collisionFree :
    (∀ bases : List String,
      (claimNames [] bases).length = bases.length ∧ (claimNames [] bases).Nodup ∧
      ∀ place base name, bases[place]? = some base → (claimNames [] bases)[place]? = some name →
        HandedOut ((claimNames [] bases).take place) base name) ∧
    ∀ (plan : Plan) (dialect : Dialect) (found : List Method), methods dialect plan = .ok found →
      (found.map (·.name)).Nodup ∧
      (∀ model ∈ plan.models, ((modelStruct model).members.map (·.name)).Nodup) ∧
      ∀ struct ∈ resultStructs plan.toCatalog [] plan.selects,
        (struct.members.map (·.name)).Nodup := by
  constructor
  · intro bases
    refine ⟨length_claimNames [] bases, nodup_claimNames [] bases, ?_⟩
    intro place base name asked given
    exact claimNames_handedOut [] bases asked given
  · intro plan dialect found made
    refine ⟨nodup_methodNames made, fun model _ => ?_, fun struct member => ?_⟩
    · rw [modelStruct, map_name_modelMembers]
      exact nodup_claimNames _ _
    · obtain ⟨record, -, rfl⟩ := (mem_resultStructs_iff plan.toCatalog).1 member
      rw [recordStruct, map_name_projectionMembers]
      exact nodup_claimNames _ _

/-- The select of logins asks for the name that the method for reading a login back was given. -/
theorem loginPlan_collisionFree :
    claimNames [] ["id", "id", "id", "id_2"] = ["id", "id_2", "id_3", "id_2_2"] ∧
    HandedOut ["id", "id_2", "id_3"] "id_2" "id_2_2" ∧
    ∃ found, methods Sql.sqlite3 loginPlan = .ok found ∧
      found.map (·.name) = ["create_login_by_last_login_id",
        "get_last_login_by_last_login_id_2", "get_last_login_by_last_login_id"] ∧
      (found.map (·.name)).Nodup := by
  have names : claimNames [] ["id", "id", "id", "id_2"] = ["id", "id_2", "id_3", "id_2_2"] := by
    decide
  obtain ⟨scope, collisionFree⟩ := scopes_collisionFree
  have last := (scope ["id", "id", "id", "id_2"]).2.2 3 "id_2" "id_2_2" (by decide) (by decide)
  obtain ⟨found, made⟩ := exists_methods Sql.sqlite3 loginPlan (by decide)
  rw [names] at last
  refine ⟨names, last, found, made, ?_, (collisionFree _ _ _ made).1⟩
  have evaluated : (methods Sql.sqlite3 loginPlan).toOption.map (List.map (·.name)) =
      some ["create_login_by_last_login_id", "get_last_login_by_last_login_id_2",
        "get_last_login_by_last_login_id"] := by decide +kernel
  rw [made] at evaluated
  exact Option.some.inj evaluated

end Schemata.Access
