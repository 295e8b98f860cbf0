import Schemata.Proofs.Layout.Mirror
import Schemata.Proofs.Layout.Unplaced

/-!
# Declarations do not depend on places

A tree is read as declarations by what its entries and values say. Every reader of a value or of an
option mirrors itself without places, and so does the loop that applies the options of a construct:
it looks up whether an option was given before, but not where.
-/

namespace Schemata.Declaration

/-! ## Values -/

/-- A word is read alike. -/
theorem readIdent_mirrors (leaf : Leaf) :
    Mirrors Name.unplaced (readIdent leaf) (readIdent leaf.unplaced) := by
  obtain ⟨atom, position, size⟩ := leaf
  cases atom with
  | ident name => exact .ok (Name.mk name position)
  | _ => exact .error _ _

/-- A reference is read alike. -/
theorem readColumnRef_mirrors (leaf : Leaf) :
    Mirrors ColumnRef.unplaced (readColumnRef leaf) (readColumnRef leaf.unplaced) := by
  obtain ⟨atom, position, size⟩ := leaf
  cases atom with
  | path model field more =>
      cases more with
      | nil => exact .ok (ColumnRef.mk ⟨model, position⟩ ⟨field, _⟩)
      | cons third others => exact .error _ _
  | _ => exact .error _ _

/-- A number is read alike. -/
theorem readInteger_mirrors (leaf : Leaf) :
    Mirrors Located.unplaced (readInteger leaf) (readInteger leaf.unplaced) := by
  obtain ⟨atom, position, size⟩ := leaf
  cases atom with
  | integer value => exact .ok (Located.mk value position size)
  | _ => exact .error _ _

/-- A literal is read alike. -/
theorem readLiteral_mirrors (leaf : Leaf) :
    Mirrors Located.unplaced (readLiteral leaf) (readLiteral leaf.unplaced) := by
  rw [readLiteral, readLiteral, Leaf.unplaced]
  cases literal? leaf.atom with
  | none => exact .error _ _
  | some value => exact .ok (Located.mk value leaf.position leaf.size)

/-- The type of a field is read alike. -/
theorem readFieldType_mirrors (leaf : Leaf) :
    Mirrors Located.unplaced (readFieldType leaf) (readFieldType leaf.unplaced) := by
  obtain ⟨atom, position, size⟩ := leaf
  cases atom with
  | ident name =>
      rw [readFieldType, readFieldType, Leaf.unplaced]
      dsimp only
      cases FieldType.ofName? name with
      | none => exact .error _ _
      | some type => exact .ok (Located.mk type position size)
  | _ => exact .error _ _

/-- The effect of a deletion is read alike. -/
theorem readDeleteAction_mirrors (leaf : Leaf) :
    Mirrors Located.unplaced (readDeleteAction leaf) (readDeleteAction leaf.unplaced) := by
  rw [readDeleteAction, readDeleteAction, Leaf.unplaced]
  cases DeleteAction.ofName? leaf.atom.spelling with
  | none => exact .error _ _
  | some action => exact .ok (Located.mk action leaf.position leaf.size)

/-! ## Options -/

/-- An option that does the same to what it is applied to, wherever anything stands. -/
def Rule.Alike {σ : Type} (image : σ → σ) (rule : Rule σ) : Prop :=
  ∀ target node,
    Mirrors image (rule.apply target node) (rule.apply (image target) node.unplaced)

/-- If every option is applied alike, so are all of them together. -/
theorem applyOptions_mirrors {σ : Type} {image : σ → σ} {rules : List (Rule σ)}
    (alike : ∀ rule ∈ rules, rule.Alike image) (kind : String) (seen : List (String × Position))
    (target : σ) (nodes : List Node) :
    Mirrors image (applyOptions kind rules seen target nodes)
      (applyOptions kind rules (unplacedNames seen) (image target)
        (nodes.map Node.unplaced)) := by
  induction nodes generalizing seen target with
  | nil => exact .ok target
  | cons node nodes inductionHypothesis =>
      rw [List.map_cons, applyOptions, applyOptions, Node.keyword_unplaced, Name.unplaced]
      dsimp only
      cases found : rules.find? (·.name == node.keyword.text) with
      | none => exact .error _ _
      | some rule =>
          have applied := alike rule (List.mem_of_find?_eq_some found)
          refine .ite Iff.rfl (fun _ => ?_) fun _ => ?_
          · exact (applied target node).bind fun next => inductionHypothesis seen next
          · rw [lookup_unplacedNames]
            cases seen.lookup rule.name with
            | some previous => exact .error _ _
            | none =>
                refine (applied target node).bind fun next => ?_
                rw [Node.position_unplaced]
                exact inductionHypothesis ((rule.name, node.position) :: seen) next

/-- The values of an option are found alike. -/
theorem optionValues_mirrors (node : Node) :
    Mirrors (List.map Leaf.unplaced) (optionValues node) (optionValues node.unplaced) := by
  rw [optionValues, optionValues, Node.children_unplaced, Node.arguments_unplaced]
  cases node.children with
  | nil => exact .ok node.arguments
  | cons child others => exact .error _ _

/-- One value is read alike. -/
theorem readOne_mirrors (node : Node) (expected : List String) :
    Mirrors Leaf.unplaced (readOne node expected) (readOne node.unplaced expected) := by
  refine (optionValues_mirrors node).bind fun values => ?_
  rcases values with _ | ⟨first, _ | ⟨second, others⟩⟩
  · exact .error _ _
  · exact .ok first
  · exact .error _ _

/-- Two values are read alike. -/
theorem readTwo_mirrors (node : Node) (expected : List String) :
    Mirrors (Prod.map Leaf.unplaced Leaf.unplaced) (readTwo node expected)
      (readTwo node.unplaced expected) := by
  refine (optionValues_mirrors node).bind fun values => ?_
  rcases values with _ | ⟨first, _ | ⟨second, _ | ⟨third, others⟩⟩⟩
  · exact .error _ _
  · exact .error _ _
  · exact .ok (first, second)
  · exact .error _ _

/-- Three values are read alike. -/
theorem readThree_mirrors (node : Node) (expected : List String) :
    Mirrors (Prod.map Leaf.unplaced (Prod.map Leaf.unplaced Leaf.unplaced))
      (readThree node expected) (readThree node.unplaced expected) := by
  refine (optionValues_mirrors node).bind fun values => ?_
  rcases values with _ | ⟨first, _ | ⟨second, _ | ⟨third, _ | ⟨fourth, others⟩⟩⟩⟩
  · exact .error _ _
  · exact .error _ _
  · exact .error _ _
  · exact .ok (first, second, third)
  · exact .error _ _

/-- A list of words is read alike. -/
theorem readIdents_mirrors (node : Node) :
    Mirrors (List.map Name.unplaced) (readIdents node) (readIdents node.unplaced) := by
  rw [readIdents, readIdents]
  refine .ite ?_ (fun _ => ?_) fun _ => .error _ _
  · rw [Node.children_unplaced, Node.arguments_unplaced, List.isEmpty_map, List.isEmpty_map]
  · rw [Node.arguments_unplaced]
    exact .mapM readIdent_mirrors

/-- A flag is read alike. -/
theorem readFlag_mirrors (node : Node) : Mirrors id (readFlag node) (readFlag node.unplaced) := by
  cases node with
  | flag keyword => exact .ok true
  | tuple keyword arguments children => exact .error _ _

/-! ## Models -/

/-- The length of a text is read alike. -/
theorem readLength_mirrors (leaf : Leaf) :
    Mirrors Located.unplaced (readLength leaf) (readLength leaf.unplaced) := by
  refine (readInteger_mirrors leaf).bind fun length => ?_
  exact .ite Iff.rfl (fun _ => .ok (Located.mk length.value.toNat leaf.position leaf.size))
    fun _ => .error _ _

/-- A flag does the same wherever it stands. -/
theorem flagRule_alike (name : String) (set : Marks → Bool → Marks) :
    (flagRule name set).Alike Field.unplaced := by
  intro field node
  exact (readFlag_mirrors node).bind fun value =>
    .ok { field with marks := set field.marks value }

/-- The options of a field are applied alike. -/
theorem fieldRules_alike : ∀ rule ∈ fieldRules, rule.Alike Field.unplaced := by
  intro rule member
  simp only [fieldRules, List.mem_cons, List.not_mem_nil, or_false] at member
  rcases member with rfl | rfl | rfl | rfl | rfl | rfl | rfl
  iterate 5 exact flagRule_alike _ _
  · intro field node
    refine (readOne_mirrors node _).bind fun leaf => ?_
    exact (readLength_mirrors leaf).bind fun length => .ok { field with length := some length }
  · intro field node
    refine (readOne_mirrors node _).bind fun leaf => ?_
    exact (readLiteral_mirrors leaf).bind fun value => .ok { field with default := some value }

/-- A word after the type of a field is read alike. -/
theorem readTrailingFlag_mirrors (leaf : Leaf) :
    Mirrors Node.unplaced (readTrailingFlag leaf) (readTrailingFlag leaf.unplaced) := by
  obtain ⟨atom, position, size⟩ := leaf
  cases atom with
  | ident name => exact .ok (Node.flag ⟨name, position⟩)
  | _ => exact .error _ _

/-- A field is read alike. -/
theorem readField_mirrors (node : Node) :
    Mirrors Field.unplaced (readField node) (readField node.unplaced) := by
  cases node with
  | flag keyword => exact .error _ _
  | tuple keyword arguments children =>
      rw [Node.unplaced, Node.unplacedAll_eq_map]
      rcases arguments with _ | ⟨name, _ | ⟨type, flags⟩⟩
      · exact .error _ _
      · exact .error _ _
      · refine (readIdent_mirrors name).bind fun name => ?_
        refine (readFieldType_mirrors type).bind fun type => ?_
        refine (Mirrors.mapM readTrailingFlag_mirrors).bind fun trailing => ?_
        rw [← List.map_append]
        exact applyOptions_mirrors fieldRules_alike "field" [] ⟨name, type, {}, none, none⟩ _

/-- A field is added alike. -/
theorem addField_mirrors (model : Model) (field : Field) :
    Mirrors Model.unplaced (addField model field) (addField model.unplaced field.unplaced) := by
  have found : model.unplaced.fields.find? (·.name.text == field.unplaced.name.text) =
      (model.fields.find? (·.name.text == field.name.text)).map Field.unplaced :=
    List.find?_map
  rw [addField, addField, found]
  cases model.fields.find? (·.name.text == field.name.text) with
  | some previous => exact .error _ _
  | none => exact .of_eq (by simp [Model.unplaced])

/-- The options of a model are applied alike. -/
theorem modelRules_alike : ∀ rule ∈ modelRules, rule.Alike Model.unplaced := by
  intro rule member model node
  simp only [modelRules, List.mem_cons, List.not_mem_nil, or_false] at member
  rcases member with rfl | rfl | rfl | rfl
  · refine (readOne_mirrors node _).bind fun leaf => ?_
    exact (readIdent_mirrors leaf).bind fun table => .ok { model with table := some table }
  · exact (readIdents_mirrors node).bind fun key => .ok { model with key := some key }
  · exact (readIdents_mirrors node).bind fun key => .of_eq (by simp [Model.unplaced])
  · exact (readField_mirrors node).bind fun field => addField_mirrors model field

/-- A model is read alike. -/
theorem readModel_mirrors (node : Node) :
    Mirrors Model.unplaced (readModel node) (readModel node.unplaced) := by
  rw [readModel, readModel, Node.arguments_unplaced, Node.children_unplaced, Node.position_unplaced]
  rcases node.arguments with _ | ⟨leaf, _ | ⟨second, others⟩⟩
  · exact .error _ _
  · refine (readIdent_mirrors leaf).bind fun name => ?_
    exact applyOptions_mirrors modelRules_alike "model" []
      ⟨name, none, none, [], [], node.position⟩ node.children
  · exact .error _ _

/-! ## Relations -/

/-- The options of a relation are applied alike. -/
theorem relationRules_alike : ∀ rule ∈ relationRules, rule.Alike Relation.unplaced := by
  intro rule member relation node
  obtain rfl := List.mem_singleton.1 member
  refine (readOne_mirrors node _).bind fun leaf => ?_
  exact (readDeleteAction_mirrors leaf).bind fun action =>
    .ok { relation with onDelete := some action }

/-- A relation is read alike. -/
theorem readRelation_mirrors (node : Node) :
    Mirrors Relation.unplaced (readRelation node) (readRelation node.unplaced) := by
  rw [readRelation, readRelation, Node.arguments_unplaced, Node.children_unplaced,
    Node.position_unplaced]
  rcases node.arguments with _ | ⟨first, _ | ⟨second, _ | ⟨third, others⟩⟩⟩
  · exact .error _ _
  · exact .error _ _
  · refine (readColumnRef_mirrors first).bind fun left => ?_
    refine (readColumnRef_mirrors second).bind fun right => ?_
    exact applyOptions_mirrors relationRules_alike "relation" []
      ⟨left, right, none, node.position⟩ node.children
  · exact .error _ _

/-! ## Queries -/

/-- What a column is compared with is read alike. -/
theorem readOperand_mirrors (leaf : Leaf) :
    Mirrors Operand.unplaced (readOperand leaf) (readOperand leaf.unplaced) := by
  have literal : Mirrors Operand.unplaced
      (readLiteral leaf >>= fun value => pure (.literal value.value))
      (readLiteral leaf.unplaced >>= fun value => pure (.literal value.value)) :=
    (readLiteral_mirrors leaf).bind fun value => .ok (Operand.literal value.value)
  obtain ⟨atom, position, size⟩ := leaf
  cases atom with
  | placeholder => exact .ok Operand.placeholder
  | path first second more =>
      exact (readColumnRef_mirrors _).bind fun ref => .ok (Operand.column ref)
  | _ => exact literal

/-- An operator is read alike. -/
theorem readComparison_mirrors (leaf : Leaf) :
    Mirrors id (readComparison leaf) (readComparison leaf.unplaced) := by
  obtain ⟨atom, position, size⟩ := leaf
  cases atom with
  | comparison op => exact .ok op
  | _ => exact .error _ _

/-- A condition is read alike. -/
theorem readCondition_mirrors (node : Node) :
    Mirrors Condition.unplaced (readCondition node) (readCondition node.unplaced) := by
  rw [readCondition, readCondition, Node.position_unplaced]
  refine (readThree_mirrors node _).bind ?_
  rintro ⟨left, op, right⟩
  refine (readComparison_mirrors op).bind fun op => ?_
  refine (readOperand_mirrors right).bind fun right => ?_
  exact (readColumnRef_mirrors left).bind fun left =>
    .ok (Condition.mk left op right node.position)

/-- A join is read alike. -/
theorem readJoin_mirrors (node : Node) :
    Mirrors Join.unplaced (readJoin node) (readJoin node.unplaced) := by
  rw [readJoin, readJoin, Node.position_unplaced]
  refine (readThree_mirrors node _).bind ?_
  rintro ⟨left, op, right⟩
  refine .ite Iff.rfl (fun _ => ?_) fun _ => .error _ _
  refine (readColumnRef_mirrors left).bind fun left => ?_
  exact (readColumnRef_mirrors right).bind fun right => .ok (Join.mk left right node.position)

/-- A request for pages is read alike. -/
theorem readPaging_mirrors (node : Node) :
    Mirrors Paging.unplaced (readPaging node) (readPaging node.unplaced) := by
  rw [readPaging, readPaging, Node.position_unplaced]
  refine (readTwo_mirrors node _).bind ?_
  rintro ⟨column, size⟩
  refine (readColumnRef_mirrors column).bind fun column => ?_
  exact (readInteger_mirrors size).bind fun size => .ok (Paging.mk column size node.position)

/-- What a select asks for is read alike. -/
theorem readProjection_mirrors (leaf : Leaf) :
    Mirrors Projection.unplaced (readProjection leaf) (readProjection leaf.unplaced) := by
  obtain ⟨atom, position, size⟩ := leaf
  cases atom with
  | ident name => exact .ok (Projection.model ⟨name, position⟩)
  | path first second more =>
      exact (readColumnRef_mirrors _).bind fun ref => .ok (Projection.field ref)
  | _ => exact .error _ _

/-- The options of a select are applied alike. -/
theorem selectRules_alike : ∀ rule ∈ selectRules, rule.Alike Select.unplaced := by
  intro rule member select node
  simp only [selectRules, List.mem_cons, List.not_mem_nil, or_false] at member
  rcases member with rfl | rfl | rfl
  · exact (readCondition_mirrors node).bind fun condition => .of_eq (by simp [Select.unplaced])
  · exact (readJoin_mirrors node).bind fun join => .of_eq (by simp [Select.unplaced])
  · exact (readPaging_mirrors node).bind fun paging => .ok { select with paging := some paging }

/-- A select is read alike. -/
theorem readSelect_mirrors (node : Node) :
    Mirrors Select.unplaced (readSelect node) (readSelect node.unplaced) := by
  rw [readSelect, readSelect]
  refine .ite ?_ (fun _ => .error _ _) fun _ => ?_
  · rw [Node.arguments_unplaced, List.isEmpty_map]
  · rw [Node.arguments_unplaced, Node.children_unplaced, Node.position_unplaced]
    refine (Mirrors.mapM readProjection_mirrors).bind fun projections => ?_
    exact applyOptions_mirrors selectRules_alike "select" []
      ⟨projections, [], [], none, node.position⟩ node.children

/-- The model that a query is about is read alike. -/
theorem readTarget_mirrors (node : Node) :
    Mirrors Name.unplaced (readTarget node) (readTarget node.unplaced) := by
  rw [readTarget, readTarget, Node.arguments_unplaced]
  rcases node.arguments with _ | ⟨leaf, _ | ⟨second, others⟩⟩
  · exact .error _ _
  · exact readIdent_mirrors leaf
  · exact .error _ _

/-- An insert is read alike. -/
theorem readInsert_mirrors (node : Node) :
    Mirrors Insert.unplaced (readInsert node) (readInsert node.unplaced) := by
  rw [readInsert, readInsert, Node.children_unplaced, Node.position_unplaced]
  refine (readTarget_mirrors node).bind fun model => ?_
  exact applyOptions_mirrors (List.forall_mem_nil _) "insert" [] (Insert.mk model node.position)
    node.children

/-- The options of an update are applied alike. -/
theorem updateRules_alike : ∀ rule ∈ updateRules, rule.Alike Update.unplaced := by
  intro rule member update node
  obtain rfl := List.mem_singleton.1 member
  exact (readCondition_mirrors node).bind fun condition => .of_eq (by simp [Update.unplaced])

/-- An update is read alike. -/
theorem readUpdate_mirrors (node : Node) :
    Mirrors Update.unplaced (readUpdate node) (readUpdate node.unplaced) := by
  rw [readUpdate, readUpdate, Node.children_unplaced, Node.position_unplaced]
  refine (readTarget_mirrors node).bind fun model => ?_
  exact applyOptions_mirrors updateRules_alike "update" [] ⟨model, [], node.position⟩ node.children

/-- The options of a delete or a count are applied alike. -/
theorem filteredRules_alike : ∀ rule ∈ filteredRules, rule.Alike Filtered.unplaced := by
  intro rule member query node
  simp only [filteredRules, List.mem_cons, List.not_mem_nil, or_false] at member
  rcases member with rfl | rfl
  · exact (readCondition_mirrors node).bind fun condition => .of_eq (by simp [Filtered.unplaced])
  · exact (readJoin_mirrors node).bind fun join => .of_eq (by simp [Filtered.unplaced])

/-- A delete or a count is read alike. -/
theorem readFiltered_mirrors (kind : String) (node : Node) :
    Mirrors Filtered.unplaced (readFiltered kind node) (readFiltered kind node.unplaced) := by
  rw [readFiltered, readFiltered, Node.children_unplaced, Node.position_unplaced]
  refine (readTarget_mirrors node).bind fun model => ?_
  exact applyOptions_mirrors filteredRules_alike kind [] ⟨model, [], [], node.position⟩
    node.children

/-! ## Statements -/

/-- A statement adds the same. -/
theorem add_mirrors (schema : Schema) (node : Node) :
    Mirrors Schema.unplaced (schema.add node) (schema.unplaced.add node.unplaced) := by
  rw [Schema.add, Schema.add, Node.keyword_unplaced, Name.unplaced]
  dsimp only
  cases Statement.ofKeyword? node.keyword.text with
  | none => exact .error _ _
  | some statement =>
      cases statement with
      | model =>
          exact (readModel_mirrors node).bind fun model => .of_eq (by simp [Schema.unplaced])
      | relation =>
          exact (readRelation_mirrors node).bind fun relation =>
            .of_eq (by simp [Schema.unplaced])
      | insert =>
          exact (readInsert_mirrors node).bind fun insert => .of_eq (by simp [Schema.unplaced])
      | select =>
          exact (readSelect_mirrors node).bind fun select => .of_eq (by simp [Schema.unplaced])
      | update =>
          exact (readUpdate_mirrors node).bind fun update => .of_eq (by simp [Schema.unplaced])
      | delete =>
          exact (readFiltered_mirrors "delete" node).bind fun delete =>
            .of_eq (by simp [Schema.unplaced])
      | count =>
          exact (readFiltered_mirrors "count" node).bind fun count =>
            .of_eq (by simp [Schema.unplaced])

/-- A tree is read as the same declarations without its places. -/
theorem ofNodes_mirrors (nodes : List Node) :
    Mirrors Schema.unplaced (Schema.ofNodes nodes) (Schema.ofNodes (nodes.map Node.unplaced)) :=
  Mirrors.foldlM add_mirrors {}

end Schemata.Declaration
