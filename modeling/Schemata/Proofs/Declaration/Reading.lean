import Schemata.Declaration.Reader
import Schemata.Proofs.Outcome

/-!
# What the reader makes sure of

Some rules of a schema are checked while it is read and not again later: a declared key names at
least one field, and the length of a text is positive. The options of a construct are applied one
after another, so such a rule holds if every option keeps it.
-/

namespace Schemata.Declaration

/-- What every option keeps for the nodes that are given is kept by all of them together. -/
theorem applyOptions_keeps_of_mem {σ : Type} {kind : String} {rules : List (Rule σ)}
    (invariant : σ → Prop) {nodes : List Node}
    (kept : ∀ rule ∈ rules, ∀ node ∈ nodes, ∀ target next, invariant target →
      rule.apply target node = .ok next → invariant next)
    {seen : List (String × Position)} {target result : σ} (holds : invariant target)
    (accepted : applyOptions kind rules seen target nodes = .ok result) : invariant result := by
  induction nodes generalizing seen target with
  | nil =>
      cases accepted
      exact holds
  | cons node nodes inductionHypothesis =>
      have keptOthers := fun rule isRule other member =>
        kept rule isRule other (List.mem_cons_of_mem node member)
      rw [applyOptions] at accepted
      split at accepted
      · cases accepted
      · next rule found =>
        have keptHere := kept rule (List.mem_of_find?_eq_some found) node List.mem_cons_self
        split at accepted
        · obtain ⟨next, applied, others⟩ := of_bind_eq_ok accepted
          exact inductionHypothesis keptOthers (keptHere target next holds applied) others
        · split at accepted
          · cases accepted
          · obtain ⟨next, applied, others⟩ := of_bind_eq_ok accepted
            exact inductionHypothesis keptOthers (keptHere target next holds applied) others

/-- What every option keeps is kept by all of them together. -/
theorem applyOptions_keeps {σ : Type} {kind : String} {rules : List (Rule σ)}
    (invariant : σ → Prop)
    (kept : ∀ rule ∈ rules, ∀ target node next, invariant target →
      rule.apply target node = .ok next → invariant next)
    {seen : List (String × Position)} {target result : σ} {nodes : List Node}
    (holds : invariant target)
    (accepted : applyOptions kind rules seen target nodes = .ok result) : invariant result :=
  applyOptions_keeps_of_mem invariant
    (fun rule member node _ target next => kept rule member target node next) holds accepted

/-- One more item behind items that share a property. -/
theorem forall_mem_concat {Item : Type} {holds : Item → Prop} {items : List Item} {item : Item}
    (before : ∀ other ∈ items, holds other) (last : holds item) :
    ∀ other ∈ items ++ [item], holds other :=
  List.forall_mem_append.2 ⟨before, List.forall_mem_singleton.2 last⟩

/-! ## Fields -/

/-- The length of a field, if it has one, is positive. -/
def Field.Sized (field : Field) : Prop :=
  ∀ length, field.length = some length → 0 < length.value

/-- A length that is accepted is positive. -/
theorem readLength_pos {leaf : Leaf} {length : Located Nat}
    (accepted : readLength leaf = .ok length) : 0 < length.value := by
  obtain ⟨value, -, accepted⟩ := of_bind_eq_ok accepted
  split at accepted
  · next inRange =>
    cases accepted
    simp only [Bool.and_eq_true, decide_eq_true_eq] at inRange
    simp only
    omega
  · cases accepted

/-- A flag keeps the length of a field. -/
theorem flagRule_keeps_sized (name : String) (set : Marks → Bool → Marks) {field next : Field}
    {node : Node} (sized : field.Sized)
    (applied : (flagRule name set).apply field node = .ok next) : next.Sized := by
  obtain ⟨value, -, equal⟩ := of_bind_eq_ok applied
  cases equal
  exact sized

/-- Every option of a field keeps its length positive. -/
theorem fieldRules_keep_sized {rule : Rule Field} (member : rule ∈ fieldRules)
    {field next : Field} {node : Node} (sized : field.Sized)
    (applied : rule.apply field node = .ok next) : next.Sized := by
  simp only [fieldRules, List.mem_cons, List.not_mem_nil, or_false] at member
  rcases member with rfl | rfl | rfl | rfl | rfl | rfl | rfl
  iterate 5 exact flagRule_keeps_sized _ _ sized applied
  · obtain ⟨leaf, -, afterLeaf⟩ := of_bind_eq_ok applied
    obtain ⟨length, readsLength, equal⟩ := of_bind_eq_ok afterLeaf
    cases equal
    rintro _ ⟨⟩
    exact readLength_pos readsLength
  · obtain ⟨leaf, -, afterLeaf⟩ := of_bind_eq_ok applied
    obtain ⟨value, -, equal⟩ := of_bind_eq_ok afterLeaf
    cases equal
    exact sized

/-- A field that was read has a positive length, if any. -/
theorem readField_sized {node : Node} {field : Field} (accepted : readField node = .ok field) :
    field.Sized := by
  unfold readField at accepted
  split at accepted
  iterate 3 cases accepted
  obtain ⟨name, -, afterName⟩ := of_bind_eq_ok accepted
  obtain ⟨type, -, afterType⟩ := of_bind_eq_ok afterName
  obtain ⟨trailing, -, afterTrailing⟩ := of_bind_eq_ok afterType
  refine applyOptions_keeps Field.Sized ?_ ?_ afterTrailing
  · exact fun rule member field node next => fieldRules_keep_sized member
  · rintro _ ⟨⟩

/-! ## Models -/

/-- A model as it is read: its key names a field, and the lengths of its fields are positive. -/
structure Model.AsRead (model : Model) : Prop where
  key : model.key ≠ some []
  fields : ∀ field ∈ model.fields, field.Sized

/-- A list of names that is accepted is not empty. -/
theorem readIdents_ne_nil {node : Node} {names : List Name}
    (accepted : readIdents node = .ok names) : names ≠ [] := by
  unfold readIdents at accepted
  split at accepted
  · next given =>
    cases arguments : node.arguments with
    | nil => simp [arguments] at given
    | cons first others =>
        rw [arguments, List.mapM_cons] at accepted
        obtain ⟨name, -, afterFirst⟩ := of_bind_eq_ok accepted
        obtain ⟨more, -, equal⟩ := of_bind_eq_ok afterFirst
        cases equal
        exact List.cons_ne_nil _ _
  · cases accepted

/-- A field whose length is positive can be added to a model as it is read. -/
theorem addField_keeps_asRead {model next : Model} {field : Field} (asRead : model.AsRead)
    (fieldSized : field.Sized) (accepted : addField model field = .ok next) : next.AsRead := by
  unfold addField at accepted
  split at accepted
  · cases accepted
  · cases accepted
    exact ⟨asRead.key, forall_mem_concat asRead.fields fieldSized⟩

/-- Every option of a model keeps it as it is read. -/
theorem modelRules_keep_asRead {rule : Rule Model} (member : rule ∈ modelRules)
    {model next : Model} {node : Node} (asRead : model.AsRead)
    (applied : rule.apply model node = .ok next) : next.AsRead := by
  simp only [modelRules, List.mem_cons, List.not_mem_nil, or_false] at member
  rcases member with rfl | rfl | rfl | rfl
  · obtain ⟨leaf, -, afterLeaf⟩ := of_bind_eq_ok applied
    obtain ⟨table, -, equal⟩ := of_bind_eq_ok afterLeaf
    cases equal
    exact ⟨asRead.key, asRead.fields⟩
  · obtain ⟨key, readsKey, equal⟩ := of_bind_eq_ok applied
    cases equal
    exact ⟨fun empty => readIdents_ne_nil readsKey (Option.some.inj empty), asRead.fields⟩
  · obtain ⟨key, -, equal⟩ := of_bind_eq_ok applied
    cases equal
    exact ⟨asRead.key, asRead.fields⟩
  · obtain ⟨field, readsField, added⟩ := of_bind_eq_ok applied
    exact addField_keeps_asRead asRead (readField_sized readsField) added

/-- A model that was read keeps the rules of its key and of its fields. -/
theorem readModel_asRead {node : Node} {model : Model} (accepted : readModel node = .ok model) :
    model.AsRead := by
  unfold readModel at accepted
  split at accepted
  · obtain ⟨name, -, afterName⟩ := of_bind_eq_ok accepted
    refine applyOptions_keeps Model.AsRead ?_ ?_ afterName
    · exact fun rule member model node next => modelRules_keep_asRead member
    · exact ⟨nofun, List.forall_mem_nil _⟩
  · cases accepted

/-! ## Schemas -/

/-- A statement that is accepted keeps all models as they are read. -/
theorem Schema.add_keeps_asRead {schema next : Schema} {node : Node}
    (asRead : ∀ model ∈ schema.models, model.AsRead) (accepted : schema.add node = .ok next) :
    ∀ model ∈ next.models, model.AsRead := by
  unfold Schema.add at accepted
  split at accepted
  case h_1 =>
      obtain ⟨model, readsModel, equal⟩ := of_bind_eq_ok accepted
      cases equal
      exact forall_mem_concat asRead (readModel_asRead readsModel)
  case h_8 => cases accepted
  -- All other statements leave the models as they are.
  all_goals
    obtain ⟨declared, -, equal⟩ := of_bind_eq_ok accepted
    cases equal
    exact asRead

/-- Every model of a schema that was read keeps the rules of its key and of its fields. -/
theorem Schema.parse_asRead {source : String} {schema : Schema}
    (accepted : Schema.parse source = .ok schema) : ∀ model ∈ schema.models, model.AsRead := by
  obtain ⟨nodes, -, folded⟩ := of_bind_eq_ok accepted
  refine foldlM_keeps (fun schema => ∀ model ∈ schema.models, model.AsRead) ?_ ?_ folded
  · exact fun schema node next => Schema.add_keeps_asRead
  · exact List.forall_mem_nil _

end Schemata.Declaration
