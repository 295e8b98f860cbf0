import Schemata.Proofs.Analysis.Numbers
import Schemata.Proofs.Declaration.Reading
import Schemata.Proofs.Source.Printable

/-!
# Models and fields are named by words

The name of a model, and that of a field, is a value of a tree that was read, so it is a word: a
letter or an underscore, and then letters, digits and underscores. The analysis takes the names over
as they are.
-/

namespace Schemata

/-! ## Declarations -/

namespace Declaration

/-- The names of a declared model and of its fields are words. -/
structure Model.Worded (model : Model) : Prop where
  name : IsWord model.name.text
  fields : ∀ field ∈ model.fields, IsWord field.name.text

/-- An identifier that is accepted is a word. -/
theorem readIdent_word {leaf : Leaf} {name : Name} (printable : leaf.atom.Printable)
    (accepted : readIdent leaf = .ok name) : IsWord name.text := by
  unfold readIdent at accepted
  split at accepted
  · next text isIdent =>
    cases accepted
    rwa [isIdent] at printable
  · cases accepted

/-- The options of a field leave its name as it is. -/
theorem fieldRules_keep_name {rule : Rule Field} (member : rule ∈ fieldRules) {node : Node}
    {field next : Field} (applied : rule.apply field node = .ok next) : next.name = field.name := by
  simp only [fieldRules, List.mem_cons, List.not_mem_nil, or_false] at member
  rcases member with rfl | rfl | rfl | rfl | rfl | rfl | rfl
  iterate 5
    obtain ⟨value, -, equal⟩ := of_bind_eq_ok applied
    cases equal
    rfl
  iterate 2
    obtain ⟨leaf, -, afterLeaf⟩ := of_bind_eq_ok applied
    obtain ⟨value, -, equal⟩ := of_bind_eq_ok afterLeaf
    cases equal
    rfl

/-- The name of a field that is accepted is a word. -/
theorem readField_word {node : Node} {field : Field} (printable : node.Printable)
    (accepted : readField node = .ok field) : IsWord field.name.text := by
  unfold readField at accepted
  split at accepted
  iterate 3 cases accepted
  obtain ⟨name, readsName, afterName⟩ := of_bind_eq_ok accepted
  obtain ⟨type, -, afterType⟩ := of_bind_eq_ok afterName
  obtain ⟨trailing, -, afterTrailing⟩ := of_bind_eq_ok afterType
  cases printable with
  | tuple _ values _ =>
      refine applyOptions_keeps (fun field : Field => IsWord field.name.text) ?_ ?_ afterTrailing
      · intro rule member field node next word applied
        rwa [fieldRules_keep_name member applied]
      · exact readIdent_word (values _ List.mem_cons_self) readsName

/-- Every option of a model keeps its names words. -/
theorem modelRules_keep_worded {rule : Rule Model} (member : rule ∈ modelRules) {node : Node}
    (printable : node.Printable) {model next : Model} (worded : model.Worded)
    (applied : rule.apply model node = .ok next) : next.Worded := by
  simp only [modelRules, List.mem_cons, List.not_mem_nil, or_false] at member
  rcases member with rfl | rfl | rfl | rfl
  · obtain ⟨leaf, -, afterLeaf⟩ := of_bind_eq_ok applied
    obtain ⟨table, -, equal⟩ := of_bind_eq_ok afterLeaf
    cases equal
    exact ⟨worded.name, worded.fields⟩
  iterate 2
    obtain ⟨key, -, equal⟩ := of_bind_eq_ok applied
    cases equal
    exact ⟨worded.name, worded.fields⟩
  · obtain ⟨field, readsField, added⟩ := of_bind_eq_ok applied
    unfold addField at added
    split at added
    · cases added
    · cases added
      exact ⟨worded.name, forall_mem_concat worded.fields (readField_word printable readsField)⟩

/-- The names of a model that is accepted are words. -/
theorem readModel_worded {node : Node} {model : Model} (printable : node.Printable)
    (accepted : readModel node = .ok model) : model.Worded := by
  unfold readModel at accepted
  split at accepted
  · next leaf isOnly =>
    obtain ⟨name, readsName, afterName⟩ := of_bind_eq_ok accepted
    have word := readIdent_word (printable.arguments leaf (isOnly ▸ List.mem_cons_self)) readsName
    refine applyOptions_keeps_of_mem Model.Worded ?_ ?_ afterName
    · exact fun rule member child isChild model next =>
        modelRules_keep_worded member (printable.children child isChild)
    · exact ⟨word, List.forall_mem_nil _⟩
  · cases accepted

/-- A statement that is accepted keeps the names of all models words. -/
theorem Schema.add_keeps_worded {schema next : Schema} {node : Node} (printable : node.Printable)
    (worded : ∀ model ∈ schema.models, model.Worded) (accepted : schema.add node = .ok next) :
    ∀ model ∈ next.models, model.Worded := by
  unfold Schema.add at accepted
  split at accepted
  case h_1 =>
      obtain ⟨model, readsModel, equal⟩ := of_bind_eq_ok accepted
      cases equal
      exact forall_mem_concat worded (readModel_worded printable readsModel)
  case h_8 => cases accepted
  -- All other statements leave the models as they are.
  all_goals
    obtain ⟨declared, -, equal⟩ := of_bind_eq_ok accepted
    cases equal
    exact worded

/-- The models of a schema that was read, and their fields, are named by words. -/
theorem Schema.parse_worded {source : String} {schema : Schema}
    (accepted : Schema.parse source = .ok schema) : ∀ model ∈ schema.models, model.Worded := by
  obtain ⟨nodes, parsed, folded⟩ := of_bind_eq_ok accepted
  refine foldlM_keeps_of_mem (fun schema => ∀ model ∈ schema.models, model.Worded) ?_
    (List.forall_mem_nil _) folded
  exact fun node member schema next =>
    Schema.add_keeps_worded (printable_of_parse parsed node member)

end Declaration

/-! ## Catalogs -/

/-- What holds of all items, and of what stands for none, holds of an item that is looked up. -/
theorem of_getD {Item : Type} (property : Item → Prop) {items : List Item} {fallback : Item}
    (all : ∀ item ∈ items, property item) (otherwise : property fallback) (place : Nat) :
    property (items.getD place fallback) := by
  rw [List.getD_eq_getElem?_getD]
  cases found : items[place]? with
  | none => exact otherwise
  | some item => exact all item (List.mem_of_getElem? found)

/-- The names of a model and of its fields are words. -/
structure Model.Worded (model : Model) : Prop where
  name : IsWord model.name
  fields : ∀ field ∈ model.fields, IsWord field.name

namespace Analysis

open Checked

/-- The fields that are enrolled are named as they were declared. -/
theorem enrolFields_words {declared : List Declaration.Field}
    (words : ∀ field ∈ declared, IsWord field.name.text) (model : String)
    (taken : List (String × Position)) :
    (enrolFields model taken declared).Yields fun fields =>
      ∀ field ∈ fields, IsWord field.name := by
  induction declared generalizing taken with
  | nil => exact yields_pure (List.forall_mem_nil _)
  | cons field declared inductionHypothesis =>
      obtain ⟨word, otherWords⟩ := List.forall_mem_cons.1 words
      rw [enrolFields]
      split
      · exact yields_bind fun _ => inductionHypothesis otherWords taken
      · refine yields_bind fun _ => ?_
        refine (inductionHypothesis otherWords _).bind fun others named => yields_pure ?_
        exact List.forall_mem_cons.2 ⟨word, named⟩

/-- One more model is named as it was declared. -/
theorem enrolModel_worded {declared : Declaration.Model} (worded : declared.Worded)
    {enrolment : Enrolment} (before : ∀ model ∈ enrolment.models, model.Worded) :
    (enrolModel enrolment declared).Yields fun enrolment =>
      ∀ model ∈ enrolment.models, model.Worded := by
  unfold enrolModel
  dsimp only
  split
  · exact yields_bind fun _ => yields_pure before
  · refine yields_bind fun tables => ?_
    refine (enrolFields_words worded.fields _ _).bind fun fields named => ?_
    refine yields_bind fun primaryKey => yields_bind fun _ => yields_bind fun unique => ?_
    exact yields_pure (List.forall_mem_append.2
      ⟨before, List.forall_mem_singleton.2 ⟨worded.name, named⟩⟩)

/-- One more relation leaves the models as they are. -/
theorem resolveRelation_models (catalog : Catalog) (declared : Declaration.Relation) :
    (resolveRelation catalog declared).Yields fun next => next.models = catalog.models := by
  refine yields_bind fun left => yields_bind fun right => ?_
  split
  · dsimp only
    split
    · exact yields_pure rfl
    · exact yields_bind fun _ => yields_pure rfl
  · exact yields_pure rfl

/-- The names in a catalog are words, if those of its schema are. -/
theorem resolveCatalog_worded {schema : Declaration.Schema}
    (worded : ∀ model ∈ schema.models, model.Worded) :
    (resolveCatalog schema).Yields fun catalog => ∀ model ∈ catalog.models, model.Worded := by
  have enrolled : (enrolModels schema.models).Yields fun models =>
      ∀ model ∈ models, model.Worded :=
    (yields_foldlM schema.models (fun model member _ => enrolModel_worded (worded model member)) {}
      (List.forall_mem_nil _)).bind fun _ named => yields_pure named
  refine enrolled.bind fun models named => ?_
  unfold resolveRelations
  refine yields_foldlM schema.relations (fun relation _ catalog before => ?_) _ named
  rwa [Yields, resolveRelation_models catalog relation]

end Analysis

/-- The models of a plan that compiles, and their fields, are named by words. -/
theorem worded_of_compile {source : String} {plan : Plan} (compiled : compile source = .ok plan) :
    ∀ model ∈ plan.models, model.Worded := by
  obtain ⟨schema, parsed, resolves⟩ := Analysis.exists_resolves_of_compile compiled
  have worded := Analysis.resolveCatalog_worded (Declaration.Schema.parse_worded parsed)
  rwa [Analysis.Checked.Yields, resolves.catalog.2] at worded

end Schemata
