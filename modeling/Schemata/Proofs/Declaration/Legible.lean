import Schemata.Proofs.Analysis.Declared
import Schemata.Proofs.Declaration.Words

/-!
# What a declaration was read from

Every literal of a schema that was read is a value of a tree, so an integer among them fits into 64
bits, and the table that a model names is a word. A unique key names a field, and a select asks for
something. The analysis checks none of this again (`Schema.parse_legible`).
-/

namespace Schemata

/-- A literal that can be read: an integer fits into 64 bits. -/
def Literal.Legible : Literal → Prop
  | .int value => IsInt64 value
  | _ => True

namespace Declaration

/-- A condition that can be read: so can the literal in it, if there is one. -/
def Condition.Legible (condition : Condition) : Prop :=
  ∀ literal, condition.right = .literal literal → literal.Legible

/-- A field that can be read: so can its default, if there is one. -/
def Field.Legible (field : Field) : Prop :=
  ∀ literal, field.default = some literal → literal.value.Legible

/-- A model that can be read: its table is a word, its unique keys name fields. -/
structure Model.Legible (model : Model) : Prop where
  table : ∀ name, model.table = some name → IsWord name.text
  uniques : ∀ key ∈ model.uniques, key ≠ []
  fields : ∀ field ∈ model.fields, field.Legible

/-- A select that can be read: it asks for something. -/
structure Select.Legible (select : Select) : Prop where
  asks : select.projections ≠ []
  conditions : ∀ condition ∈ select.conditions, condition.Legible

/-- A schema whose declarations can be read. -/
structure Schema.Legible (schema : Schema) : Prop where
  models : ∀ model ∈ schema.models, model.Legible
  selects : ∀ select ∈ schema.selects, select.Legible
  updates : ∀ update ∈ schema.updates, ∀ condition ∈ update.conditions, condition.Legible
  deletes : ∀ delete ∈ schema.deletes, ∀ condition ∈ delete.conditions, condition.Legible
  counts : ∀ count ∈ schema.counts, ∀ condition ∈ count.conditions, condition.Legible

/-! ## Values -/

/-- A literal of a value that can be printed is legible. -/
theorem literal?_legible {atom : Atom} {literal : Literal} (printable : atom.Printable)
    (found : literal? atom = some literal) : literal.Legible := by
  unfold literal? at found
  split at found
  case h_1 value =>
      cases found
      exact printable
  case h_6 => cases found
  all_goals
    cases found
    trivial

/-- A literal that is read is legible. -/
theorem readLiteral_legible {leaf : Leaf} {literal : Located Literal}
    (printable : leaf.atom.Printable) (accepted : readLiteral leaf = .ok literal) :
    literal.value.Legible := by
  unfold readLiteral at accepted
  split at accepted
  · next value found =>
    cases accepted
    exact literal?_legible printable found
  · cases accepted

/-- The values of an option are those of its node. -/
theorem optionValues_eq_arguments {node : Node} {values : List Leaf}
    (accepted : optionValues node = .ok values) : values = node.arguments := by
  unfold optionValues at accepted
  split at accepted
  · cases accepted
  · exact (Except.ok.inj accepted).symm

/-- The only value of an option can be printed if the option can. -/
theorem readOne_printable {node : Node} (printable : node.Printable) {expected : List String}
    {leaf : Leaf} (accepted : readOne node expected = .ok leaf) : leaf.atom.Printable := by
  obtain ⟨values, isValues, only⟩ := of_bind_eq_ok accepted
  rw [optionValues_eq_arguments isValues] at only
  split at only
  · next first isOnly =>
    cases only
    exact printable.arguments _ (isOnly ▸ List.mem_cons_self)
  · cases only

/-- The last of three values of an option can be printed if the option can. -/
theorem readThree_printable {node : Node} (printable : node.Printable) {expected : List String}
    {leaves : Leaf × Leaf × Leaf} (accepted : readThree node expected = .ok leaves) :
    leaves.2.2.atom.Printable := by
  obtain ⟨values, isValues, three⟩ := of_bind_eq_ok accepted
  rw [optionValues_eq_arguments isValues] at three
  split at three
  · next first second third isThree =>
    cases three
    exact printable.arguments third (by simp [isThree])
  · cases three

/-! ## Models -/

/-- An option of a field keeps the field legible. -/
theorem fieldRules_keep_legible {rule : Rule Field} (member : rule ∈ fieldRules) {node : Node}
    (printable : node.Printable) {field next : Field} (legible : field.Legible)
    (applied : rule.apply field node = .ok next) : next.Legible := by
  simp only [fieldRules, List.mem_cons, List.not_mem_nil, or_false] at member
  rcases member with rfl | rfl | rfl | rfl | rfl | rfl | rfl
  iterate 5
    obtain ⟨value, -, equal⟩ := of_bind_eq_ok applied
    cases equal
    exact legible
  · obtain ⟨leaf, -, afterLeaf⟩ := of_bind_eq_ok applied
    obtain ⟨length, -, equal⟩ := of_bind_eq_ok afterLeaf
    cases equal
    exact legible
  · obtain ⟨leaf, readsLeaf, afterLeaf⟩ := of_bind_eq_ok applied
    obtain ⟨literal, readsLiteral, equal⟩ := of_bind_eq_ok afterLeaf
    cases equal
    rintro _ ⟨⟩
    exact readLiteral_legible (readOne_printable printable readsLeaf) readsLiteral

/-- A word behind the type of a field can be printed as an option. -/
theorem readTrailingFlag_printable {leaf : Leaf} {node : Node} (printable : leaf.atom.Printable)
    (accepted : readTrailingFlag leaf = .ok node) : node.Printable := by
  unfold readTrailingFlag at accepted
  split at accepted
  · next name isName =>
    cases accepted
    rw [isName] at printable
    exact .flag printable
  · cases accepted

/-- A field that is read is legible. -/
theorem readField_legible {node : Node} {field : Field} (printable : node.Printable)
    (accepted : readField node = .ok field) : field.Legible := by
  unfold readField at accepted
  split at accepted
  iterate 3 cases accepted
  obtain ⟨name, -, afterName⟩ := of_bind_eq_ok accepted
  obtain ⟨type, -, afterType⟩ := of_bind_eq_ok afterName
  obtain ⟨trailing, readsTrailing, afterTrailing⟩ := of_bind_eq_ok afterType
  cases printable with
  | tuple _ values items =>
      have flags : ∀ flag ∈ trailing, flag.Printable := by
        intro flag member
        obtain ⟨leaf, paired, readsFlag⟩ :=
          exists_zip_of_mem_right (mapM_eq_ok_iff.1 readsTrailing) member
        have isLeaf := (List.of_mem_zip paired).1
        exact readTrailingFlag_printable
          (values leaf (List.mem_cons_of_mem _ (List.mem_cons_of_mem _ isLeaf))) readsFlag
      refine applyOptions_keeps_of_mem Field.Legible ?_ ?_ afterTrailing
      · exact fun rule member option isOption field next =>
          fieldRules_keep_legible member
            (List.forall_mem_append.2 ⟨flags, items⟩ option isOption)
      · rintro _ ⟨⟩

/-- An option of a model keeps the model legible. -/
theorem modelRules_keep_legible {rule : Rule Model} (member : rule ∈ modelRules) {node : Node}
    (printable : node.Printable) {model next : Model} (legible : model.Legible)
    (applied : rule.apply model node = .ok next) : next.Legible := by
  simp only [modelRules, List.mem_cons, List.not_mem_nil, or_false] at member
  rcases member with rfl | rfl | rfl | rfl
  · obtain ⟨leaf, readsLeaf, afterLeaf⟩ := of_bind_eq_ok applied
    obtain ⟨table, readsTable, equal⟩ := of_bind_eq_ok afterLeaf
    cases equal
    refine ⟨?_, legible.uniques, legible.fields⟩
    rintro _ ⟨⟩
    exact readIdent_word (readOne_printable printable readsLeaf) readsTable
  · obtain ⟨key, -, equal⟩ := of_bind_eq_ok applied
    cases equal
    exact ⟨legible.table, legible.uniques, legible.fields⟩
  · obtain ⟨key, readsKey, equal⟩ := of_bind_eq_ok applied
    cases equal
    exact ⟨legible.table, forall_mem_concat legible.uniques (readIdents_ne_nil readsKey),
      legible.fields⟩
  · obtain ⟨field, readsField, added⟩ := of_bind_eq_ok applied
    unfold addField at added
    split at added
    · cases added
    · cases added
      exact ⟨legible.table, legible.uniques,
        forall_mem_concat legible.fields (readField_legible printable readsField)⟩

/-- A model that is read is legible. -/
theorem readModel_legible {node : Node} {model : Model} (printable : node.Printable)
    (accepted : readModel node = .ok model) : model.Legible := by
  unfold readModel at accepted
  split at accepted
  · obtain ⟨name, -, afterName⟩ := of_bind_eq_ok accepted
    refine applyOptions_keeps_of_mem Model.Legible ?_ ?_ afterName
    · exact fun rule member child isChild model next =>
        modelRules_keep_legible member (printable.children child isChild)
    · exact ⟨nofun, List.forall_mem_nil _, List.forall_mem_nil _⟩
  · cases accepted

/-! ## Queries -/

/-- A condition that is read is legible. -/
theorem readCondition_legible {node : Node} {condition : Condition} (printable : node.Printable)
    (accepted : readCondition node = .ok condition) : condition.Legible := by
  obtain ⟨⟨left, op, right⟩, readsThree, afterThree⟩ := of_bind_eq_ok accepted
  have rightPrintable : right.atom.Printable := readThree_printable printable readsThree
  obtain ⟨comparison, -, afterOp⟩ := of_bind_eq_ok afterThree
  obtain ⟨operand, readsOperand, afterRight⟩ := of_bind_eq_ok afterOp
  obtain ⟨column, -, equal⟩ := of_bind_eq_ok afterRight
  cases equal
  intro literal isLiteral
  dsimp only at isLiteral
  subst isLiteral
  unfold readOperand at readsOperand
  split at readsOperand
  · cases readsOperand
  · obtain ⟨ref, -, equal⟩ := of_bind_eq_ok readsOperand
    cases equal
  · obtain ⟨located, readsLiteral, equal⟩ := of_bind_eq_ok readsOperand
    cases equal
    exact readLiteral_legible rightPrintable readsLiteral

/-- An option of a select keeps the select legible. -/
theorem selectRules_keep_legible {rule : Rule Select} (member : rule ∈ selectRules) {node : Node}
    (printable : node.Printable) {select next : Select} (legible : select.Legible)
    (applied : rule.apply select node = .ok next) : next.Legible := by
  simp only [selectRules, List.mem_cons, List.not_mem_nil, or_false] at member
  rcases member with rfl | rfl | rfl
  · obtain ⟨condition, readsCondition, equal⟩ := of_bind_eq_ok applied
    cases equal
    exact ⟨legible.asks,
      forall_mem_concat legible.conditions (readCondition_legible printable readsCondition)⟩
  iterate 2
    obtain ⟨value, -, equal⟩ := of_bind_eq_ok applied
    cases equal
    exact ⟨legible.asks, legible.conditions⟩

/-- A select that is read is legible. -/
theorem readSelect_legible {node : Node} {select : Select} (printable : node.Printable)
    (accepted : readSelect node = .ok select) : select.Legible := by
  unfold readSelect at accepted
  split at accepted
  · cases accepted
  · next given =>
    obtain ⟨projections, readsProjections, afterProjections⟩ := of_bind_eq_ok accepted
    refine applyOptions_keeps_of_mem Select.Legible ?_ ?_ afterProjections
    · exact fun rule member child isChild select next =>
        selectRules_keep_legible member (printable.children child isChild)
    · refine ⟨?_, List.forall_mem_nil _⟩
      rintro rfl
      have none := List.forall₂_nil_right_iff.1 (mapM_eq_ok_iff.1 readsProjections)
      exact given (List.isEmpty_iff.2 none)

/-- An update that is read has legible conditions. -/
theorem readUpdate_legible {node : Node} {update : Update} (printable : node.Printable)
    (accepted : readUpdate node = .ok update) :
    ∀ condition ∈ update.conditions, condition.Legible := by
  obtain ⟨model, -, afterModel⟩ := of_bind_eq_ok accepted
  refine applyOptions_keeps_of_mem
    (fun update : Update => ∀ condition ∈ update.conditions, condition.Legible) ?_
    (List.forall_mem_nil _) afterModel
  intro rule member child isChild update next legible applied
  cases List.mem_singleton.1 member
  obtain ⟨condition, readsCondition, equal⟩ := of_bind_eq_ok applied
  cases equal
  exact forall_mem_concat legible
    (readCondition_legible (printable.children child isChild) readsCondition)

/-- A delete or a count that is read has legible conditions. -/
theorem readFiltered_legible {kind : String} {node : Node} {query : Filtered}
    (printable : node.Printable) (accepted : readFiltered kind node = .ok query) :
    ∀ condition ∈ query.conditions, condition.Legible := by
  obtain ⟨model, -, afterModel⟩ := of_bind_eq_ok accepted
  refine applyOptions_keeps_of_mem
    (fun query : Filtered => ∀ condition ∈ query.conditions, condition.Legible) ?_
    (List.forall_mem_nil _) afterModel
  intro rule member child isChild query next legible applied
  simp only [filteredRules, List.mem_cons, List.not_mem_nil, or_false] at member
  rcases member with rfl | rfl
  · obtain ⟨condition, readsCondition, equal⟩ := of_bind_eq_ok applied
    cases equal
    exact forall_mem_concat legible
      (readCondition_legible (printable.children child isChild) readsCondition)
  · obtain ⟨join, -, equal⟩ := of_bind_eq_ok applied
    cases equal
    exact legible

/-! ## Schemas -/

/-- A statement that is added keeps a schema legible. -/
theorem Schema.add_keeps_legible {schema next : Schema} {node : Node} (printable : node.Printable)
    (legible : schema.Legible) (accepted : schema.add node = .ok next) : next.Legible := by
  unfold Schema.add at accepted
  split at accepted
  case h_8 => cases accepted
  all_goals
    obtain ⟨declared, reads, equal⟩ := of_bind_eq_ok accepted
    cases equal
  case h_1 =>
      exact { legible with
        models := forall_mem_concat legible.models (readModel_legible printable reads) }
  case h_4 =>
      exact { legible with
        selects := forall_mem_concat legible.selects (readSelect_legible printable reads) }
  case h_5 =>
      exact { legible with
        updates := forall_mem_concat legible.updates (readUpdate_legible printable reads) }
  case h_6 =>
      exact { legible with
        deletes := forall_mem_concat legible.deletes (readFiltered_legible printable reads) }
  case h_7 =>
      exact { legible with
        counts := forall_mem_concat legible.counts (readFiltered_legible printable reads) }
  -- Relations and inserts hold no literals.
  all_goals exact { legible with }

/-- What a source declares can be read again, whatever it says. -/
theorem Schema.parse_legible {source : String} {schema : Schema}
    (accepted : Schema.parse source = .ok schema) : schema.Legible := by
  obtain ⟨nodes, parsed, folded⟩ := of_bind_eq_ok accepted
  have empty : Schema.Legible {} := ⟨List.forall_mem_nil _, List.forall_mem_nil _,
    List.forall_mem_nil _, List.forall_mem_nil _, List.forall_mem_nil _⟩
  refine foldlM_keeps_of_mem Schema.Legible ?_ empty folded
  exact fun node member schema next =>
    Schema.add_keeps_legible (printable_of_parse parsed node member)

end Declaration

/-! ## Catalogs -/

/-- The models of a plan that compiles say all that their declarations say. -/
theorem Analysis.exists_modelOf_of_compile {source : String} {plan : Plan}
    (compiled : compile source = .ok plan) :
    ∃ schema, Declaration.Schema.parse source = .ok schema ∧
      List.Forall₂ ModelOf schema.models plan.models := by
  obtain ⟨schema, parsed, resolves⟩ := exists_resolves_of_compile compiled
  have legible := Declaration.Schema.parse_legible parsed
  have complete := resolveCatalog_complete schema fun model member =>
    (legible.models model member).uniques
  exact ⟨schema, parsed, (complete.of_gives resolves.catalog).1⟩

end Schemata
