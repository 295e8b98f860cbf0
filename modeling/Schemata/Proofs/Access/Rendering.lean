import Schemata.Access.Artifact
import Schemata.Proofs.Access.Tasks
import Schemata.Proofs.Analysis.Resolution

/-!
# When a module can be written

A module fails to be written for two reasons: generated code cannot talk to a dialect, or a dialect
loses rows that the plan writes. Methods that were made for a plan never lack what their bodies
need (`Performs.bodyFault?_eq_none`), and a formatter that fails leaves the text as it was.
-/

namespace Schemata.Access

open Sql (Dialect DialectError)

/-- Generated code can talk to a dialect. -/
def HasDriver (dialect : Dialect) : Prop :=
  dialect.name ∈ drivers.map Prod.fst

instance : DecidablePred HasDriver := fun dialect =>
  inferInstanceAs (Decidable (dialect.name ∈ drivers.map Prod.fst))

/-- The text of a module before it is formatted: every dialect has a driver and loses no rows. -/
structure Written (module : String) (plan : Plan) (dialects : List Dialect)
    (signatures : SignatureSet) (outlined : Outline) (text : String) : Prop where
  known : ∀ dialect ∈ dialects, HasDriver dialect
  kept : ∀ dialect ∈ dialects, ¬LosesRows dialect plan
  outlines : outline module plan dialects = .ok outlined
  writes : outlined.text (outlined.record signatures) = .ok text

/-- What comes out of rendering a plan in some dialects. -/
inductive Rendered (module : String) (plan : Plan) (dialects : List Dialect)
    (formatter : Formatter) (signatures : SignatureSet) : Except RenderError Artifact → Prop where
  /-- The first dialect without a driver is named, whatever the plan. -/
  | unsupported {before after : List Dialect} {dialect : Dialect}
      (split : dialects = before ++ dialect :: after)
      (known : ∀ earlier ∈ before, HasDriver earlier) (unknown : ¬HasDriver dialect) :
      Rendered module plan dialects formatter signatures
        (.error (.dialect (.unsupported dialect.name (drivers.map Prod.fst))))
  /-- The first dialect that loses rows is named, with a model that the plan writes. -/
  | noFallback {before after : List Dialect} {dialect : Dialect} {model : ModelId}
      (known : ∀ dialect ∈ dialects, HasDriver dialect)
      (split : dialects = before ++ dialect :: after)
      (kept : ∀ earlier ∈ before, ¬LosesRows earlier plan) (loses : LosesRows dialect plan)
      (written : model ∈ plan.returningTargets) :
      Rendered module plan dialects formatter signatures
        (.error (.dialect (.noFallback dialect.name (plan.model model).name)))
  | formatted {outlined : Outline} {text source : String}
      (written : Written module plan dialects signatures outlined text)
      (formats : formatter text = .ok source) :
      Rendered module plan dialects formatter signatures
        (.ok ⟨source, outlined.record signatures, true⟩)
  | unformatted {outlined : Outline} {text : String} {error : RenderError}
      (written : Written module plan dialects signatures outlined text)
      (fails : formatter text = .error error) :
      Rendered module plan dialects formatter signatures
        (.ok ⟨text, outlined.record signatures, false⟩)

/-! ## Drivers -/

/-- A dialect has a driver, or is refused with the names of those that have one. -/
theorem driverFor_outcome (dialect : Dialect) :
    (HasDriver dialect ∧ ∃ driver, driverFor dialect.name = .ok driver) ∨
      (¬HasDriver dialect ∧
        driverFor dialect.name = .error (.unsupported dialect.name (drivers.map Prod.fst))) := by
  unfold driverFor HasDriver
  cases found : drivers.lookup dialect.name with
  | some driver =>
      obtain ⟨before, after, split, -⟩ := List.lookup_eq_some_iff.1 found
      exact .inl ⟨by simp [split], driver, rfl⟩
  | none =>
      refine .inr ⟨?_, rfl⟩
      intro member
      obtain ⟨entry, isEntry, named⟩ := List.mem_map.1 member
      simpa [named] using List.lookup_eq_none_iff.1 found entry isEntry

section

variable {module : String} {plan : Plan} {dialects : List Dialect}

/-- A dialect that has a receiver has a driver. -/
theorem hasDriver_of_receiverFor {dialect : Dialect} {receiver : Receiver}
    (made : receiverFor plan dialect = .ok receiver) : HasDriver dialect := by
  obtain ⟨driver, found, -⟩ := map_eq_ok_iff.1 made
  rcases driverFor_outcome dialect with ⟨known, -⟩ | ⟨-, refused⟩
  · exact known
  · cases found.symm.trans refused

/-- A head can be written only if every dialect has a driver. -/
theorem hasDriver_of_headerFor {header : Header}
    (made : headerFor module plan dialects = .ok header) :
    ∀ dialect ∈ dialects, HasDriver dialect := by
  obtain ⟨receivers, receiversMade, -⟩ := map_eq_ok_iff.1 made
  intro dialect member
  obtain ⟨receiver, -, receiverMade⟩ :=
    exists_zip_of_mem_left (mapM_eq_ok_iff.1 receiversMade) member
  exact hasDriver_of_receiverFor receiverMade

/-- A head fails for the first dialect without a driver. -/
theorem unknown_of_headerFor {error : DialectError}
    (refused : headerFor module plan dialects = .error error) :
    ∃ before dialect after, dialects = before ++ dialect :: after ∧
      (∀ earlier ∈ before, HasDriver earlier) ∧ ¬HasDriver dialect ∧
      error = .unsupported dialect.name (drivers.map Prod.fst) := by
  obtain ⟨before, dialect, after, split, accepted, dialectRefused⟩ :=
    exists_of_mapM_eq_error (map_eq_error_iff.1 refused)
  refine ⟨before, dialect, after, split, ?_, ?_⟩
  · intro earlier member
    obtain ⟨receiver, made⟩ := accepted earlier member
    exact hasDriver_of_receiverFor made
  · have driverRefused := map_eq_error_iff.1 dialectRefused
    rcases driverFor_outcome dialect with ⟨-, driver, found⟩ | ⟨unknown, named⟩
    · cases found.symm.trans driverRefused
    · exact ⟨unknown, Except.error.inj (driverRefused.symm.trans named)⟩

/-! ## Outlines -/

/-- Where methods are owned, no rows are lost and every method performs a task. -/
theorem ownedMethods_perform {dialect : Dialect} {owned : List OwnedMethod}
    (made : ownedMethods plan dialect = .ok owned) :
    ¬LosesRows dialect plan ∧
      ∀ item ∈ owned, ∃ task, Performs dialect plan task item.method := by
  obtain ⟨found, foundMade, rfl⟩ := map_eq_ok_iff.1 made
  refine ⟨not_losesRows_of_methods foundMade, ?_⟩
  intro item member
  obtain ⟨method, isFound, rfl⟩ := List.mem_map.1 member
  obtain ⟨task, -, performs⟩ := exists_zip_of_mem_right (methods_perform foundMade) isFound
  exact ⟨task, performs⟩

/-- The methods of an outline were made for tasks, in dialects that all have drivers and lose no
rows. -/
theorem outline_perform {outlined : Outline} (made : outline module plan dialects = .ok outlined) :
    (∀ dialect ∈ dialects, HasDriver dialect) ∧ (∀ dialect ∈ dialects, ¬LosesRows dialect plan) ∧
      ∀ item ∈ outlined.methods, ∃ dialect task, Performs dialect plan task item.method := by
  obtain ⟨header, headerMade, rest⟩ := of_bind_eq_ok made
  obtain ⟨owned, ownedMade, equal⟩ := of_bind_eq_ok rest
  cases equal
  have perform := (mapM_eq_ok_iff.1 ownedMade).imp fun _ _ => ownedMethods_perform
  refine ⟨hasDriver_of_headerFor headerMade, ?_, ?_⟩
  · intro dialect member
    obtain ⟨items, -, keeps, -⟩ := exists_zip_of_mem_left perform member
    exact keeps
  · intro item member
    obtain ⟨items, isOwned, inside⟩ := List.mem_flatten.1 member
    obtain ⟨dialect, -, -, itemsPerform⟩ := exists_zip_of_mem_right perform isOwned
    obtain ⟨task, performs⟩ := itemsPerform item inside
    exact ⟨dialect, task, performs⟩

/-- An outline fails for the first dialect without a driver, or else for the first that loses
rows. -/
theorem rendered_of_outline {error : DialectError} (formatter : Formatter)
    (signatures : SignatureSet) (refused : outline module plan dialects = .error error) :
    Rendered module plan dialects formatter signatures (.error (.dialect error)) := by
  obtain headerRefused | ⟨header, headerMade, rest⟩ := of_bind_eq_error refused
  · obtain ⟨before, dialect, after, split, known, unknown, rfl⟩ :=
      unknown_of_headerFor headerRefused
    exact .unsupported split known unknown
  · obtain ownedRefused | ⟨owned, -, impossible⟩ := of_bind_eq_error rest
    · obtain ⟨before, dialect, after, split, accepted, dialectRefused⟩ :=
        exists_of_mapM_eq_error ownedRefused
      have cannot := cannotReadBack_of_methods (map_eq_error_iff.1 dialectRefused)
      obtain ⟨model, written, rfl⟩ := cannot.exists_target
      refine .noFallback (hasDriver_of_headerFor headerMade) split ?_ cannot.losesRows written
      intro earlier member
      obtain ⟨owned, ownedMade⟩ := accepted earlier member
      exact (ownedMethods_perform ownedMade).1
    · cases impossible

end

/-! ## Bodies -/

/-- A method that performs a task has the row and the lookup that its body needs. -/
theorem Performs.bodyFault?_eq_none {dialect : Dialect} {plan : Plan} {task : Task}
    {method : Method} (performs : Performs dialect plan task method) :
    bodyFault? method = none := by
  unfold bodyFault?
  cases reading : method.readBack with
  | none =>
      cases reads : method.kind.readsRow with
      | false => rfl
      | true =>
          obtain ⟨row, isRow⟩ := Option.isSome_iff_exists.1 (performs.row reads)
          simp [isRow]
  | some readBack =>
      by_cases isUpdate : method.kind = .update
      · obtain ⟨query, rfl⟩ := Task.eq_update_of_kind (performs.kind ▸ isUpdate)
        have updateReading := performs.reading
        rw [reading] at updateReading
        obtain ⟨name, lookup, -, -, rfl⟩ := updateReadBack_eq_some updateReading
        simp
      · simp [isUpdate]

/-- The body of a method that performs a task can be written. -/
theorem Performs.bodyText_eq {dialect : Dialect} {plan : Plan} {task : Task} {method : Method}
    (performs : Performs dialect plan task method) :
    bodyText method = .ok (writeAll 0 (bodyCode method)) := by
  rw [bodyText, performs.bodyFault?_eq_none]

/-- The text of an outline can be written if its methods were made for tasks. -/
theorem exists_text_of_perform {plan : Plan} {outlined : Outline} (signatures : SignatureSet)
    (perform : ∀ item ∈ outlined.methods, ∃ dialect task, Performs dialect plan task item.method) :
    ∃ text, outlined.text signatures = .ok text := by
  unfold Outline.text
  cases written : outlined.methods.mapM OwnedMethod.text with
  | ok texts => exact ⟨_, rfl⟩
  | error error =>
      obtain ⟨before, item, after, split, -, refused⟩ := exists_of_mapM_eq_error written
      obtain ⟨dialect, task, performs⟩ := perform item (by simp [split])
      have bodyRefused := map_eq_error_iff.1 refused
      rw [bodyText, performs.bodyFault?_eq_none] at bodyRefused
      cases bodyRefused

/-! ## Modules -/

/-- Rendering comes out in one of the ways that it can come out. -/
theorem render_rendered (module : String) (plan : Plan) (dialects : List Dialect)
    (formatter : Formatter) (signatures : SignatureSet) :
    Rendered module plan dialects formatter signatures
      (render module plan dialects formatter signatures) := by
  unfold render
  cases made : outline module plan dialects with
  | error error => exact rendered_of_outline formatter signatures made
  | ok outlined =>
      obtain ⟨known, kept, perform⟩ := outline_perform made
      obtain ⟨text, writes⟩ := exists_text_of_perform (outlined.record signatures) perform
      have written : Written module plan dialects signatures outlined text :=
        ⟨known, kept, made, writes⟩
      simp only [Except.mapError, ok_bind, writes, formatOrKeep]
      cases formats : formatter text with
      | ok source => exact .formatted written formats
      | error error => exact .unformatted written formats

/-- Nothing is made of a plan exactly if a dialect has no driver, or all have and one loses rows. -/
theorem Rendered.eq_error_iff {module : String} {plan : Plan} {dialects : List Dialect}
    {formatter : Formatter} {signatures : SignatureSet} {outcome : Except RenderError Artifact}
    (rendered : Rendered module plan dialects formatter signatures outcome) :
    (∃ error, outcome = .error error) ↔
      (∃ dialect ∈ dialects, ¬HasDriver dialect) ∨
        (∀ dialect ∈ dialects, HasDriver dialect) ∧
          ∃ dialect ∈ dialects, LosesRows dialect plan := by
  -- A text that was written rules both reasons out.
  have none_of_written : ∀ {outlined : Outline} {text : String},
      Written module plan dialects signatures outlined text →
      ¬((∃ dialect ∈ dialects, ¬HasDriver dialect) ∨
        (∀ dialect ∈ dialects, HasDriver dialect) ∧
          ∃ dialect ∈ dialects, LosesRows dialect plan) := by
    rintro outlined text written (⟨dialect, member, unknown⟩ | ⟨-, dialect, member, loses⟩)
    · exact unknown (written.known dialect member)
    · exact written.kept dialect member loses
  cases rendered with
  | unsupported split known unknown =>
      exact iff_of_true ⟨_, rfl⟩ (.inl ⟨_, by simp [split], unknown⟩)
  | noFallback known split kept loses written =>
      exact iff_of_true ⟨_, rfl⟩ (.inr ⟨known, _, by simp [split], loses⟩)
  | formatted written formats => exact iff_of_false (by simp) (none_of_written written)
  | unformatted written fails => exact iff_of_false (by simp) (none_of_written written)

/-- A plan can be rendered in dialects that all have drivers and lose no rows. -/
theorem exists_artifact (module : String) (plan : Plan) (dialects : List Dialect)
    (formatter : Formatter) (signatures : SignatureSet)
    (known : ∀ dialect ∈ dialects, HasDriver dialect)
    (kept : ∀ dialect ∈ dialects, ¬LosesRows dialect plan) :
    ∃ artifact, render module plan dialects formatter signatures = .ok artifact := by
  have fails := (render_rendered module plan dialects formatter signatures).eq_error_iff
  cases made : render module plan dialects formatter signatures with
  | ok artifact => exact ⟨artifact, rfl⟩
  | error error =>
      rcases fails.1 ⟨error, made⟩ with ⟨dialect, member, unknown⟩ | ⟨-, dialect, member, loses⟩
      · exact absurd (known dialect member) unknown
      · exact absurd loses (kept dialect member)

/--
Rendering fails exactly if some dialect has no driver, or all have one and some dialect loses rows.
The error names the first such dialect; it is never about the body of a method or the formatter,
whose failure leaves the text as it was written.
-/
theorem render_outcome (module : String) (plan : Plan) (dialects : List Dialect)
    (formatter : Formatter) (signatures : SignatureSet) :
    Rendered module plan dialects formatter signatures
        (render module plan dialects formatter signatures) ∧
      ((∃ error, render module plan dialects formatter signatures = .error error) ↔
        (∃ dialect ∈ dialects, ¬HasDriver dialect) ∨
          (∀ dialect ∈ dialects, HasDriver dialect) ∧
            ∃ dialect ∈ dialects, LosesRows dialect plan) := by
  have rendered := render_rendered module plan dialects formatter signatures
  exact ⟨rendered, rendered.eq_error_iff⟩

/-- The roster is written for both dialects although nothing formats it, and not for a dialect
that cannot tell rows apart. A dialect without a driver is named even behind such a dialect. -/
theorem rosterPlan_rendered :
    (∃ artifact, render "roster" rosterPlan [Sql.postgres, Sql.sqlite3]
        (missingFormatter "rustfmt") {} = .ok artifact ∧ artifact.formatted = false) ∧
    (∃ model, render "roster" rosterPlan [Sql.postgres, { Sql.sqlite3 with rowIdentity := none }]
        verbatim {} = .error (.dialect (.noFallback "sqlite3" model))) ∧
    render "roster" rosterPlan [{ Sql.sqlite3 with rowIdentity := none },
        { Sql.postgres with name := "mysql" }] verbatim {} =
      .error (.dialect (.unsupported "mysql" ["postgres", "sqlite3"])) := by
  refine ⟨?_, ?_, ?_⟩
  · obtain ⟨rendered, fails⟩ := render_outcome "roster" rosterPlan [Sql.postgres, Sql.sqlite3]
      (missingFormatter "rustfmt") {}
    generalize render "roster" rosterPlan _ _ _ = outcome at rendered fails ⊢
    cases rendered with
    | unsupported | noFallback => exact absurd (fails.1 ⟨_, rfl⟩) (by decide)
    | formatted written formats => cases formats
    | unformatted written fails => exact ⟨_, rfl, rfl⟩
  · obtain ⟨rendered, fails⟩ := render_outcome "roster" rosterPlan
      [Sql.postgres, { Sql.sqlite3 with rowIdentity := none }] verbatim {}
    generalize render "roster" rosterPlan _ _ _ = outcome at rendered fails ⊢
    cases rendered with
    | formatted | unformatted => exact absurd (fails.2 (by decide)) (by simp)
    | @unsupported before after dialect split known unknown =>
        have member : dialect ∈ [Sql.postgres, { Sql.sqlite3 with rowIdentity := none }] :=
          split ▸ List.mem_append_right before List.mem_cons_self
        rcases List.mem_pair.1 member with rfl | rfl <;> exact absurd (by decide) unknown
    | @noFallback before after dialect model known split kept loses written =>
        have member : dialect ∈ [Sql.postgres, { Sql.sqlite3 with rowIdentity := none }] :=
          split ▸ List.mem_append_right before List.mem_cons_self
        rcases List.mem_pair.1 member with rfl | rfl
        · exact absurd loses (by decide)
        · exact ⟨_, rfl⟩
  · obtain ⟨rendered, fails⟩ := render_outcome "roster" rosterPlan
      [{ Sql.sqlite3 with rowIdentity := none }, { Sql.postgres with name := "mysql" }] verbatim {}
    generalize render "roster" rosterPlan _ _ _ = outcome at rendered fails ⊢
    cases rendered with
    | formatted | unformatted => exact absurd (fails.2 (by decide)) (by simp)
    | noFallback known split kept loses written => exact absurd known (by decide)
    | @unsupported before after dialect split known unknown =>
        have member : dialect ∈ [{ Sql.sqlite3 with rowIdentity := none },
            { Sql.postgres with name := "mysql" }] :=
          split ▸ List.mem_append_right before List.mem_cons_self
        rcases List.mem_pair.1 member with rfl | rfl
        · exact absurd (by decide) unknown
        · rfl

end Schemata.Access
