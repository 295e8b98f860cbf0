import Schemata.Declaration.Reader
import Schemata.Proofs.Source.Trees

/-!
# Where declarations stand in their source

Every name of a schema stands in the source where it says, and every declaration keeps a place of
it. Only the field of a reference has no place of its own: its position is counted from the start of
the path, as if the dot and the field followed the model at once. It still is a place of the source,
because at least one character on the same line stands between the two words.
-/

namespace Schemata.Declaration

variable {source : String} {leaf : Leaf} {node : Node}

/-! ## Declarations in a source -/

/-- A reference stands in the source as a path, and its field is placed by counting bytes. -/
structure ColumnRef.StandsIn (source : String) (ref : ColumnRef) : Prop where
  path : PathStandsAt source ref.model.position ref.model.text ref.field.text
  counted : ref.field.position = shiftColumn ref.model.position (ref.model.size + 1)

/-- A model stands in the source. -/
structure Model.StandsIn (source : String) (model : Model) : Prop where
  name : model.name.StandsIn source
  table : ∀ table ∈ model.table, table.StandsIn source
  key : ∀ key ∈ model.key, ∀ name ∈ key, name.StandsIn source
  uniques : ∀ key ∈ model.uniques, ∀ name ∈ key, name.StandsIn source
  fields : ∀ field ∈ model.fields, field.name.StandsIn source
  position : IsPlace source model.position

/-- A relation stands in the source. -/
structure Relation.StandsIn (source : String) (relation : Relation) : Prop where
  left : relation.left.StandsIn source
  right : relation.right.StandsIn source
  position : IsPlace source relation.position

/-- What a select asks for stands in the source. -/
def Projection.StandsIn (source : String) : Projection → Prop
  | .model name => name.StandsIn source
  | .field ref => ref.StandsIn source

/-- An explicit join stands in the source. -/
structure Join.StandsIn (source : String) (join : Join) : Prop where
  left : join.left.StandsIn source
  right : join.right.StandsIn source
  position : IsPlace source join.position

/-- What a field is compared with stands in the source, if it is a column. -/
def Operand.StandsIn (source : String) : Operand → Prop
  | .column ref => ref.StandsIn source
  | _ => True

/-- A condition stands in the source. -/
structure Condition.StandsIn (source : String) (condition : Condition) : Prop where
  left : condition.left.StandsIn source
  right : condition.right.StandsIn source
  position : IsPlace source condition.position

/-- A request for pages stands in the source. -/
structure Paging.StandsIn (source : String) (paging : Paging) : Prop where
  column : paging.column.StandsIn source
  size : IsPlace source paging.size.position
  position : IsPlace source paging.position

/-- A select stands in the source. -/
structure Select.StandsIn (source : String) (select : Select) : Prop where
  projections : ∀ projection ∈ select.projections, projection.StandsIn source
  joins : ∀ join ∈ select.joins, join.StandsIn source
  conditions : ∀ condition ∈ select.conditions, condition.StandsIn source
  paging : ∀ paging ∈ select.paging, paging.StandsIn source
  position : IsPlace source select.position

/-- An insert stands in the source. -/
structure Insert.StandsIn (source : String) (insert : Insert) : Prop where
  model : insert.model.StandsIn source
  position : IsPlace source insert.position

/-- An update stands in the source. -/
structure Update.StandsIn (source : String) (update : Update) : Prop where
  model : update.model.StandsIn source
  conditions : ∀ condition ∈ update.conditions, condition.StandsIn source
  position : IsPlace source update.position

/-- A delete or a count stands in the source. -/
structure Filtered.StandsIn (source : String) (query : Filtered) : Prop where
  model : query.model.StandsIn source
  joins : ∀ join ∈ query.joins, join.StandsIn source
  conditions : ∀ condition ∈ query.conditions, condition.StandsIn source
  position : IsPlace source query.position

/-- Everything that is declared stands in the source. -/
structure Schema.StandsIn (source : String) (schema : Schema) : Prop where
  models : ∀ model ∈ schema.models, model.StandsIn source
  relations : ∀ relation ∈ schema.relations, relation.StandsIn source
  inserts : ∀ insert ∈ schema.inserts, insert.StandsIn source
  selects : ∀ select ∈ schema.selects, select.StandsIn source
  updates : ∀ update ∈ schema.updates, update.StandsIn source
  deletes : ∀ delete ∈ schema.deletes, delete.StandsIn source
  counts : ∀ count ∈ schema.counts, count.StandsIn source

/-! ## References -/

/-- Blanks have one byte each. -/
theorem utf8Size_of_isBlank {c : Char} (blank : Lexeme.isBlank c = true) : c.utf8Size = 1 := by
  simp only [Lexeme.isBlank, Bool.or_eq_true, decide_eq_true_eq] at blank
  rcases blank with ((rfl | rfl) | rfl) | rfl <;> decide

/-- Right behind the model of a path there is a character of one byte on the same line. -/
theorem exists_behind_model (model field : String) {before : List Char} (after : List Char)
    (blankBefore : ∀ c ∈ before, Lexeme.isBlank c = true) :
    ∃ c rest, spacedPath model field before after = model.toList ++ ([c] ++ rest) ∧
      c.utf8Size = 1 ∧ c ≠ '\n' := by
  cases before with
  | nil => exact ⟨'.', after ++ field.toList, rfl, by decide, by decide⟩
  | cons c others =>
      have blank := blankBefore c List.mem_cons_self
      exact ⟨c, others ++ '.' :: (after ++ field.toList), rfl, utf8Size_of_isBlank blank,
        ne_newline_of_isBlank blank⟩

namespace ColumnRef.StandsIn

variable {ref : ColumnRef}

/-- The model of a reference is at a place of the source, which is that of the reference. -/
theorem isPlace (stands : ref.StandsIn source) : IsPlace source ref.position :=
  stands.path.isPlace

/-- Counting bytes leads behind the model and one more character of the line. -/
theorem counted_eq (stands : ref.StandsIn source) {c : Char} (oneByte : c.utf8Size = 1)
    (sameLine : c ≠ '\n') :
    ref.field.position = (ref.position.advanceBy ref.model.text.toList).advance c := by
  have noNewline : ∀ other ∈ ref.model.text.toList ++ [c], other ≠ '\n' :=
    List.forall_mem_append.2
      ⟨ne_newline_of_isWord stands.path.modelWord, List.forall_mem_singleton.2 sameLine⟩
  have behind := ref.position.advanceBy_of_no_newline noNewline
  rw [Position.advanceBy_append, byteLength_append, byteLength_cons, oneByte] at behind
  exact stands.counted.trans behind.symm

/-- Counting bytes from the start of a path ends at a place, whatever stands between the words. -/
theorem isPlace_field (stands : ref.StandsIn source) : IsPlace source ref.field.position := by
  obtain ⟨before, after, blankBefore, -, text⟩ := stands.path.text
  obtain ⟨c, rest, shape, oneByte, sameLine⟩ :=
    exists_behind_model ref.model.text ref.field.text after blankBefore
  rw [shape] at text
  rw [stands.counted_eq oneByte sameLine]
  exact text.right.tail.isPlace

end ColumnRef.StandsIn

/-! ## Reading values -/

/-- Too many or too few values are refused at one of them or at their keyword. -/
theorem refuseCount_placedIn {count : Nat} {keyword : Name} {arguments : List Leaf}
    (named : keyword.StandsIn source) (values : ∀ leaf ∈ arguments, leaf.StandsIn source)
    (expected : List String) : (refuseCount count keyword arguments expected).PlacedIn source := by
  unfold refuseCount
  split
  · next extra found =>
    exact (values extra (List.mem_of_getElem? found)).isPlace
  · exact StandsAt.isPlace named

/-- A name that is read stands where it says. -/
theorem readIdent_within (stands : leaf.StandsIn source) :
    Within source (Name.StandsIn source) (readIdent leaf) := by
  unfold readIdent
  split
  · next name isIdent =>
    rw [Leaf.StandsIn, isIdent] at stands
    exact stands
  · exact stands.isPlace

/-- A reference that is read stands in the source as a path. -/
theorem readColumnRef_within (stands : leaf.StandsIn source) :
    Within source (ColumnRef.StandsIn source) (readColumnRef leaf) := by
  unfold readColumnRef
  split
  · next model field isPath =>
    rw [Leaf.StandsIn, isPath] at stands
    exact ⟨stands, rfl⟩
  · exact stands.isPlace

/-- An integer that is read is placed where it stands. -/
theorem readInteger_within (stands : leaf.StandsIn source) :
    Within source (fun value => IsPlace source value.position) (readInteger leaf) := by
  unfold readInteger
  split
  · exact stands.isPlace
  · exact stands.isPlace

/-- What is no literal is refused where it stands. -/
theorem readLiteral_within (stands : leaf.StandsIn source) :
    Within source (fun _ => True) (readLiteral leaf) := by
  unfold readLiteral
  split
  · trivial
  · exact stands.isPlace

/-- What is no type is refused where it stands. -/
theorem readFieldType_within (stands : leaf.StandsIn source) :
    Within source (fun _ => True) (readFieldType leaf) := by
  unfold readFieldType
  dsimp only
  split
  · trivial
  · exact stands.isPlace

/-- What is no action is refused where it stands. -/
theorem readDeleteAction_within (stands : leaf.StandsIn source) :
    Within source (fun _ => True) (readDeleteAction leaf) := by
  unfold readDeleteAction
  split
  · trivial
  · exact stands.isPlace

/-! ## Applying options -/

/-- What every option keeps is kept by all of them, and a refusal stays at a place. -/
theorem applyOptions_within {σ : Type} {kind : String} {rules : List (Rule σ)}
    {invariant : σ → Prop}
    (keeps : ∀ rule ∈ rules, ∀ target node, invariant target → node.StandsIn source →
      Within source invariant (rule.apply target node))
    {seen : List (String × Position)} {target : σ} {nodes : List Node}
    (seenPlaced : ∀ earlier ∈ seen, IsPlace source earlier.2) (holds : invariant target)
    (stand : ∀ node ∈ nodes, node.StandsIn source) :
    Within source invariant (applyOptions kind rules seen target nodes) := by
  induction nodes generalizing seen target with
  | nil => exact holds
  | cons node nodes inductionHypothesis =>
      rw [List.forall_mem_cons] at stand
      rw [applyOptions]
      split
      · unfold refuseOption
        split
        · exact stand.1.isPlace
        · exact stand.1.isPlace
      · next rule found =>
        have applied := keeps rule (List.mem_of_find?_eq_some found) target node holds stand.1
        split
        · exact applied.bind fun next nextHolds => inductionHypothesis seenPlaced nextHolds stand.2
        · split
          · next previous given =>
            obtain ⟨earlier, later, rfl, -⟩ := List.lookup_eq_some_iff.1 given
            exact ⟨stand.1.isPlace, seenPlaced (rule.name, previous) (by simp)⟩
          · refine applied.bind fun next nextHolds => inductionHypothesis ?_ nextHolds stand.2
            exact List.forall_mem_cons.2 ⟨stand.1.isPlace, seenPlaced⟩

/-- The values of an option stand in the source. -/
theorem optionValues_within (stands : node.StandsIn source) :
    Within source (fun values => ∀ leaf ∈ values, leaf.StandsIn source) (optionValues node) := by
  unfold optionValues
  split
  · next child others entries =>
    exact (stands.children child (entries ▸ List.mem_cons_self)).isPlace
  · exact stands.arguments

/-- The only value of an option stands in the source. -/
theorem readOne_within (stands : node.StandsIn source) (expected : List String) :
    Within source (Leaf.StandsIn source) (readOne node expected) := by
  refine (optionValues_within stands).bind fun values valued => ?_
  split
  · next first => exact valued first List.mem_cons_self
  · exact refuseCount_placedIn stands.keyword valued expected

/-- Both values of an option stand in the source. -/
theorem readTwo_within (stands : node.StandsIn source) (expected : List String) :
    Within source (fun read => read.1.StandsIn source ∧ read.2.StandsIn source)
      (readTwo node expected) := by
  refine (optionValues_within stands).bind fun values valued => ?_
  split
  · next first second => exact ⟨valued first (by simp), valued second (by simp)⟩
  · exact refuseCount_placedIn stands.keyword valued expected

/-- All three values of an option stand in the source. -/
theorem readThree_within (stands : node.StandsIn source) (expected : List String) :
    Within source (fun read => read.1.StandsIn source ∧ read.2.1.StandsIn source ∧
      read.2.2.StandsIn source) (readThree node expected) := by
  refine (optionValues_within stands).bind fun values valued => ?_
  split
  · next first second third =>
    exact ⟨valued first (by simp), valued second (by simp), valued third (by simp)⟩
  · exact refuseCount_placedIn stands.keyword valued expected

/-- The names in an option stand in the source. -/
theorem readIdents_within (stands : node.StandsIn source) :
    Within source (fun names => ∀ name ∈ names, name.StandsIn source) (readIdents node) := by
  unfold readIdents
  split
  · exact Within.mapM fun leaf member => readIdent_within (stands.arguments leaf member)
  · exact stands.isPlace

/-- An option that is to have no values is refused where it has one. -/
theorem readFlag_within (stands : node.StandsIn source) :
    Within source (fun _ => True) (readFlag node) := by
  unfold readFlag
  split
  · trivial
  · exact stands.isPlace

/-! ## Reading models -/

/-- A length that is too large or no number is refused where it stands. -/
theorem readLength_within (stands : leaf.StandsIn source) :
    Within source (fun _ => True) (readLength leaf) := by
  refine (readInteger_within stands).bind fun length _ => ?_
  split
  · trivial
  · exact stands.isPlace

/-- An option of a field keeps the name of the field where it stands. -/
theorem fieldRules_within {rule : Rule Field} (member : rule ∈ fieldRules) (field : Field)
    (node : Node) (named : field.name.StandsIn source) (stands : node.StandsIn source) :
    Within source (fun next => next.name.StandsIn source) (rule.apply field node) := by
  simp only [fieldRules, List.mem_cons, List.not_mem_nil, or_false] at member
  rcases member with rfl | rfl | rfl | rfl | rfl | rfl | rfl
  iterate 5 exact (readFlag_within stands).bind fun _ _ => named
  · refine (readOne_within stands _).bind fun leaf valued => ?_
    exact (readLength_within valued).bind fun _ _ => named
  · refine (readOne_within stands _).bind fun leaf valued => ?_
    exact (readLiteral_within valued).bind fun _ _ => named

/-- A word behind the type of a field is an option that stands in the source. -/
theorem readTrailingFlag_within (stands : leaf.StandsIn source) :
    Within source (Node.StandsIn source) (readTrailingFlag leaf) := by
  unfold readTrailingFlag
  split
  · next name isIdent =>
    rw [Leaf.StandsIn, isIdent] at stands
    exact .flag stands
  · exact stands.isPlace

/-- A field that is read has its name in the source. -/
theorem readField_within (stands : node.StandsIn source) :
    Within source (fun field => field.name.StandsIn source) (readField node) := by
  unfold readField
  split
  · exact stands.isPlace
  · exact stands.isPlace
  · next only _ => exact (stands.arguments only List.mem_cons_self).isPlace
  · next keyword name type flags children =>
    have values := stands.arguments
    simp only [Node.arguments, List.forall_mem_cons] at values
    refine (readIdent_within values.1).bind fun name named => ?_
    refine (readFieldType_within values.2.1).bind fun type _ => ?_
    have trailing : Within source (fun nodes => ∀ node ∈ nodes, node.StandsIn source)
        (flags.mapM readTrailingFlag) :=
      Within.mapM fun leaf member => readTrailingFlag_within (values.2.2 leaf member)
    refine trailing.bind fun trailing flagged => ?_
    refine applyOptions_within (fun rule member => fieldRules_within member)
      (List.forall_mem_nil _) named ?_
    exact List.forall_mem_append.2 ⟨flagged, stands.children⟩

/-- A field that is added to a model stands in the source with it. -/
theorem addField_within {model : Model} {field : Field} (stands : model.StandsIn source)
    (named : field.name.StandsIn source) :
    Within source (Model.StandsIn source) (addField model field) := by
  unfold addField
  split
  · next previous found =>
    have previousNamed := stands.fields previous (List.mem_of_find?_eq_some found)
    exact ⟨StandsAt.isPlace named, StandsAt.isPlace previousNamed⟩
  · refine { stands with fields := ?_ }
    exact List.forall_mem_append.2 ⟨stands.fields, List.forall_mem_singleton.2 named⟩

/-- An option of a model keeps the model in the source. -/
theorem modelRules_within {rule : Rule Model} (member : rule ∈ modelRules) (model : Model)
    (node : Node) (declared : model.StandsIn source) (stands : node.StandsIn source) :
    Within source (Model.StandsIn source) (rule.apply model node) := by
  simp only [modelRules, List.mem_cons, List.not_mem_nil, or_false] at member
  rcases member with rfl | rfl | rfl | rfl
  · refine (readOne_within stands _).bind fun leaf valued => ?_
    refine (readIdent_within valued).bind fun table named => ?_
    refine { declared with table := ?_ }
    rintro _ ⟨⟩
    exact named
  · refine (readIdents_within stands).bind fun key named => ?_
    refine { declared with key := ?_ }
    rintro _ ⟨⟩
    exact named
  · refine (readIdents_within stands).bind fun key named => ?_
    refine { declared with uniques := ?_ }
    exact List.forall_mem_append.2 ⟨declared.uniques, List.forall_mem_singleton.2 named⟩
  · exact (readField_within stands).bind fun field named => addField_within declared named

/-- A model that is read stands in the source. -/
theorem readModel_within (stands : node.StandsIn source) :
    Within source (Model.StandsIn source) (readModel node) := by
  unfold readModel
  split
  · next leaf values =>
    have valued := stands.arguments leaf (values ▸ List.mem_cons_self)
    refine (readIdent_within valued).bind fun name named => ?_
    refine applyOptions_within (fun rule member => modelRules_within member)
      (List.forall_mem_nil _) ?_ stands.children
    exact ⟨named, by simp, by simp, List.forall_mem_nil _, List.forall_mem_nil _, stands.isPlace⟩
  · exact refuseCount_placedIn stands.keyword stands.arguments _

/-! ## Reading relations and queries -/

/-- An option of a relation keeps the relation in the source. -/
theorem relationRules_within {rule : Rule Relation} (member : rule ∈ relationRules)
    (relation : Relation) (node : Node) (declared : relation.StandsIn source)
    (stands : node.StandsIn source) :
    Within source (Relation.StandsIn source) (rule.apply relation node) := by
  obtain rfl := List.mem_singleton.1 member
  refine (readOne_within stands _).bind fun leaf valued => ?_
  exact (readDeleteAction_within valued).bind fun _ _ => { declared with }

/-- A relation that is read stands in the source. -/
theorem readRelation_within (stands : node.StandsIn source) :
    Within source (Relation.StandsIn source) (readRelation node) := by
  unfold readRelation
  split
  · next first second values =>
    have valued := stands.arguments
    rw [values, List.forall_mem_cons, List.forall_mem_singleton] at valued
    refine (readColumnRef_within valued.1).bind fun left leftStands => ?_
    refine (readColumnRef_within valued.2).bind fun right rightStands => ?_
    exact applyOptions_within (fun rule member => relationRules_within member)
      (List.forall_mem_nil _) ⟨leftStands, rightStands, stands.isPlace⟩ stands.children
  · exact refuseCount_placedIn stands.keyword stands.arguments _

/-- The right side of a condition stands in the source. -/
theorem readOperand_within (stands : leaf.StandsIn source) :
    Within source (Operand.StandsIn source) (readOperand leaf) := by
  unfold readOperand
  split
  · trivial
  · exact (readColumnRef_within stands).bind fun ref refStands => refStands
  · exact (readLiteral_within stands).bind fun _ _ => trivial

/-- What is no comparison is refused where it stands. -/
theorem readComparison_within (stands : leaf.StandsIn source) :
    Within source (fun _ => True) (readComparison leaf) := by
  unfold readComparison
  split
  · trivial
  · exact stands.isPlace

/-- A condition that is read stands in the source. -/
theorem readCondition_within (stands : node.StandsIn source) :
    Within source (Condition.StandsIn source) (readCondition node) := by
  refine (readThree_within stands _).bind fun values valued => ?_
  refine (readComparison_within valued.2.1).bind fun op _ => ?_
  refine (readOperand_within valued.2.2).bind fun right rightStands => ?_
  exact (readColumnRef_within valued.1).bind fun left leftStands =>
    ⟨leftStands, rightStands, stands.isPlace⟩

/-- An explicit join that is read stands in the source. -/
theorem readJoin_within (stands : node.StandsIn source) :
    Within source (Join.StandsIn source) (readJoin node) := by
  refine (readThree_within stands _).bind fun values valued => ?_
  dsimp only
  split
  · refine (readColumnRef_within valued.1).bind fun left leftStands => ?_
    exact (readColumnRef_within valued.2.2).bind fun right rightStands =>
      ⟨leftStands, rightStands, stands.isPlace⟩
  · exact valued.2.1.isPlace

/-- A request for pages that is read stands in the source. -/
theorem readPaging_within (stands : node.StandsIn source) :
    Within source (Paging.StandsIn source) (readPaging node) := by
  refine (readTwo_within stands _).bind fun values valued => ?_
  refine (readColumnRef_within valued.1).bind fun column columnStands => ?_
  exact (readInteger_within valued.2).bind fun size sizePlaced =>
    ⟨columnStands, sizePlaced, stands.isPlace⟩

/-- What a select asks for stands in the source. -/
theorem readProjection_within (stands : leaf.StandsIn source) :
    Within source (Projection.StandsIn source) (readProjection leaf) := by
  unfold readProjection
  split
  · next name isIdent =>
    rw [Leaf.StandsIn, isIdent] at stands
    exact stands
  · exact (readColumnRef_within stands).bind fun ref refStands => refStands
  · exact stands.isPlace

/-- An option of a select keeps the select in the source. -/
theorem selectRules_within {rule : Rule Select} (member : rule ∈ selectRules) (select : Select)
    (node : Node) (declared : select.StandsIn source) (stands : node.StandsIn source) :
    Within source (Select.StandsIn source) (rule.apply select node) := by
  simp only [selectRules, List.mem_cons, List.not_mem_nil, or_false] at member
  rcases member with rfl | rfl | rfl
  · refine (readCondition_within stands).bind fun condition conditionStands => ?_
    refine { declared with conditions := ?_ }
    exact List.forall_mem_append.2
      ⟨declared.conditions, List.forall_mem_singleton.2 conditionStands⟩
  · refine (readJoin_within stands).bind fun join joinStands => ?_
    refine { declared with joins := ?_ }
    exact List.forall_mem_append.2 ⟨declared.joins, List.forall_mem_singleton.2 joinStands⟩
  · refine (readPaging_within stands).bind fun paging pagingStands => ?_
    refine { declared with paging := ?_ }
    rintro _ ⟨⟩
    exact pagingStands

/-- A select that is read stands in the source. -/
theorem readSelect_within (stands : node.StandsIn source) :
    Within source (Select.StandsIn source) (readSelect node) := by
  unfold readSelect
  split
  · exact stands.isPlace
  · have projections : Within source (fun read => ∀ projection ∈ read, projection.StandsIn source)
        (node.arguments.mapM readProjection) :=
      Within.mapM fun leaf member => readProjection_within (stands.arguments leaf member)
    refine projections.bind fun projections asked => ?_
    refine applyOptions_within (fun rule member => selectRules_within member)
      (List.forall_mem_nil _) ?_ stands.children
    exact ⟨asked, List.forall_mem_nil _, List.forall_mem_nil _, by simp, stands.isPlace⟩

/-- The model that a query is about is named in the source. -/
theorem readTarget_within (stands : node.StandsIn source) :
    Within source (Name.StandsIn source) (readTarget node) := by
  unfold readTarget
  split
  · next leaf values =>
    exact readIdent_within (stands.arguments leaf (values ▸ List.mem_cons_self))
  · exact refuseCount_placedIn stands.keyword stands.arguments _

/-- An insert that is read stands in the source. -/
theorem readInsert_within (stands : node.StandsIn source) :
    Within source (Insert.StandsIn source) (readInsert node) := by
  refine (readTarget_within stands).bind fun model named => ?_
  exact applyOptions_within (fun rule member => absurd member List.not_mem_nil)
    (List.forall_mem_nil _) ⟨named, stands.isPlace⟩ stands.children

/-- An option of an update keeps the update in the source. -/
theorem updateRules_within {rule : Rule Update} (member : rule ∈ updateRules) (update : Update)
    (node : Node) (declared : update.StandsIn source) (stands : node.StandsIn source) :
    Within source (Update.StandsIn source) (rule.apply update node) := by
  obtain rfl := List.mem_singleton.1 member
  refine (readCondition_within stands).bind fun condition conditionStands => ?_
  refine { declared with conditions := ?_ }
  exact List.forall_mem_append.2
    ⟨declared.conditions, List.forall_mem_singleton.2 conditionStands⟩

/-- An update that is read stands in the source. -/
theorem readUpdate_within (stands : node.StandsIn source) :
    Within source (Update.StandsIn source) (readUpdate node) := by
  refine (readTarget_within stands).bind fun model named => ?_
  exact applyOptions_within (fun rule member => updateRules_within member)
    (List.forall_mem_nil _) ⟨named, List.forall_mem_nil _, stands.isPlace⟩ stands.children

/-- An option of a delete or a count keeps it in the source. -/
theorem filteredRules_within {rule : Rule Filtered} (member : rule ∈ filteredRules)
    (query : Filtered) (node : Node) (declared : query.StandsIn source)
    (stands : node.StandsIn source) :
    Within source (Filtered.StandsIn source) (rule.apply query node) := by
  simp only [filteredRules, List.mem_cons, List.not_mem_nil, or_false] at member
  rcases member with rfl | rfl
  · refine (readCondition_within stands).bind fun condition conditionStands => ?_
    refine { declared with conditions := ?_ }
    exact List.forall_mem_append.2
      ⟨declared.conditions, List.forall_mem_singleton.2 conditionStands⟩
  · refine (readJoin_within stands).bind fun join joinStands => ?_
    refine { declared with joins := ?_ }
    exact List.forall_mem_append.2 ⟨declared.joins, List.forall_mem_singleton.2 joinStands⟩

/-- A delete or a count that is read stands in the source. -/
theorem readFiltered_within (kind : String) (stands : node.StandsIn source) :
    Within source (Filtered.StandsIn source) (readFiltered kind node) := by
  refine (readTarget_within stands).bind fun model named => ?_
  refine applyOptions_within (fun rule member => filteredRules_within member)
    (List.forall_mem_nil _) ?_ stands.children
  exact ⟨named, List.forall_mem_nil _, List.forall_mem_nil _, stands.isPlace⟩

/-! ## Reading schemas -/

/-- One more statement stands in the source, or is refused at a place of it. -/
theorem Schema.add_within {schema : Schema} (declared : schema.StandsIn source)
    (stands : node.StandsIn source) :
    Within source (Schema.StandsIn source) (schema.add node) := by
  unfold Schema.add
  split
  · refine (readModel_within stands).bind fun model read => { declared with models := ?_ }
    exact List.forall_mem_append.2 ⟨declared.models, List.forall_mem_singleton.2 read⟩
  · refine (readRelation_within stands).bind fun relation read => { declared with relations := ?_ }
    exact List.forall_mem_append.2 ⟨declared.relations, List.forall_mem_singleton.2 read⟩
  · refine (readInsert_within stands).bind fun insert read => { declared with inserts := ?_ }
    exact List.forall_mem_append.2 ⟨declared.inserts, List.forall_mem_singleton.2 read⟩
  · refine (readSelect_within stands).bind fun select read => { declared with selects := ?_ }
    exact List.forall_mem_append.2 ⟨declared.selects, List.forall_mem_singleton.2 read⟩
  · refine (readUpdate_within stands).bind fun update read => { declared with updates := ?_ }
    exact List.forall_mem_append.2 ⟨declared.updates, List.forall_mem_singleton.2 read⟩
  · refine (readFiltered_within _ stands).bind fun delete read => { declared with deletes := ?_ }
    exact List.forall_mem_append.2 ⟨declared.deletes, List.forall_mem_singleton.2 read⟩
  · refine (readFiltered_within _ stands).bind fun count read => { declared with counts := ?_ }
    exact List.forall_mem_append.2 ⟨declared.counts, List.forall_mem_singleton.2 read⟩
  · exact stands.isPlace

/-- A schema stands in the source it is read from, or the source is refused at a place of it. -/
theorem Schema.parse_within (source : String) :
    Within source (Schema.StandsIn source) (Schema.parse source) := by
  refine (Node.parse_within source).bind fun nodes stand => ?_
  refine Within.foldlM ?_ fun node member schema declared =>
    Schema.add_within declared (stand node member)
  constructor <;> exact List.forall_mem_nil _

/-- Reading goes by the characters of a source. -/
theorem Schema.parse_ofList (characters : List Char) :
    Schema.parse (String.ofList characters) =
      ((TokenList.ofScans (Scanner.remaining ⟨.start, characters, false⟩)).mapError
        ReadError.unreadable >>= Node.read) >>= Schema.ofNodes := by
  simp only [Schema.parse, Node.parse, tokenize, Scanner.ofSource, String.toList_ofList]
  cases TokenList.ofScans (Scanner.remaining ⟨.start, characters, false⟩) <;> rfl

end Schemata.Declaration
