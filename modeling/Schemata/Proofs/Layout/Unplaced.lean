import Schemata.Declaration.Reader
import Schemata.Plan

/-!
# Without places

What is read from a source keeps its places: of tokens, of the entries and values of the tree, of
declarations, and of what a catalog and a plan are made of. Here everything is moved to the start of
the source, and what has a length gets none. What is left of a plan is what it says.
-/

namespace Schemata

/-! ## Tokens and trees -/

/-- A token that is nowhere in particular. -/
def Lexeme.unplaced (lexeme : Lexeme) : Token :=
  ⟨lexeme, .start, 0⟩

/-- The token of a lexeme without a place has that lexeme. -/
theorem Lexeme.lexeme_unplaced (lexeme : Lexeme) : lexeme.unplaced.lexeme = lexeme := rfl

/-- A token without its place. -/
def Token.unplaced (token : Token) : Token :=
  token.lexeme.unplaced

/-- A list of tokens without their places. -/
def TokenList.unplaced (list : TokenList) : TokenList :=
  ⟨list.tokens.map Token.unplaced, .start⟩

/-- What the tokens of a source say, one after another, if it can be cut into tokens. -/
def lexemes? (source : String) : Option (List Lexeme) :=
  (tokenize source).toOption.map fun list => list.tokens.map (·.lexeme)

/-- Only the characters of a source count; a literal text is evaluated in this form. -/
theorem lexemes?_ofList (characters : List Char) :
    lexemes? (String.ofList characters) =
      (TokenList.ofScans (Scanner.remaining ⟨.start, characters, false⟩)).toOption.map fun list =>
        list.tokens.map (·.lexeme) := by
  rw [lexemes?, tokenize, Scanner.ofSource, String.toList_ofList]

/-- The tokens of a source without their places are known from what they say. -/
theorem exists_tokenize_of_lexemes? {source : String} {lexemes : List Lexeme}
    (tokenized : lexemes? source = some lexemes) :
    ∃ list, tokenize source = .ok list ∧
      list.unplaced = ⟨lexemes.map Lexeme.unplaced, .start⟩ := by
  rw [lexemes?] at tokenized
  cases found : tokenize source with
  | error problem => simp [found, Except.toOption] at tokenized
  | ok list =>
      obtain rfl : list.tokens.map (·.lexeme) = lexemes := by
        simpa [found, Except.toOption] using tokenized
      refine ⟨list, rfl, ?_⟩
      rw [TokenList.unplaced, List.map_map]
      rfl

/-- A name without its place. -/
def Name.unplaced (name : Name) : Name :=
  ⟨name.text, .start⟩

/-- A value without its place. -/
def Leaf.unplaced (leaf : Leaf) : Leaf :=
  ⟨leaf.atom, .start, 0⟩

namespace Node

mutual

/-- An entry without places, in it and in the entries inside it. -/
def unplaced : Node → Node
  | .flag keyword => .flag keyword.unplaced
  | .tuple keyword arguments children =>
    .tuple keyword.unplaced (arguments.map Leaf.unplaced) (unplacedAll children)

/-- Entries without places. -/
def unplacedAll : List Node → List Node
  | [] => []
  | node :: nodes => node.unplaced :: unplacedAll nodes

end

@[simp]
theorem unplacedAll_eq_map (nodes : List Node) : unplacedAll nodes = nodes.map unplaced := by
  induction nodes with
  | nil => rfl
  | cons node nodes inductionHypothesis => rw [unplacedAll, inductionHypothesis, List.map_cons]

@[simp]
theorem keyword_unplaced (node : Node) : node.unplaced.keyword = node.keyword.unplaced := by
  cases node <;> rfl

@[simp]
theorem arguments_unplaced (node : Node) :
    node.unplaced.arguments = node.arguments.map Leaf.unplaced := by
  cases node <;> rfl

@[simp]
theorem children_unplaced (node : Node) :
    node.unplaced.children = node.children.map unplaced := by
  cases node with
  | flag keyword => rfl
  | tuple keyword arguments children => exact unplacedAll_eq_map children

@[simp]
theorem position_unplaced (node : Node) : node.unplaced.position = .start := by
  cases node <;> rfl

/-- Whether an entry stands on its own is not a matter of places. -/
theorem asStatement_unplaced (node : Node) :
    node.unplaced.asStatement = node.asStatement.unplaced := by
  rw [asStatement, asStatement, unplaced, unplacedAll_eq_map, keyword_unplaced, arguments_unplaced,
    children_unplaced]

end Node

/-! ## Declarations -/

/-- A value that is located nowhere in particular. -/
def Located.unplaced {α : Type} (located : Located α) : Located α :=
  ⟨located.value, .start, 0⟩

namespace Declaration

/-- A field without places. -/
def Field.unplaced (field : Field) : Field where
  name := field.name.unplaced
  type := field.type.unplaced
  marks := field.marks
  default := field.default.map Located.unplaced
  length := field.length.map Located.unplaced

/-- A model without places. -/
def Model.unplaced (model : Model) : Model where
  name := model.name.unplaced
  table := model.table.map Name.unplaced
  key := model.key.map (List.map Name.unplaced)
  uniques := model.uniques.map (List.map Name.unplaced)
  fields := model.fields.map Field.unplaced
  position := .start

/-- A reference at the start of the source; its second name is taken to follow the dot at once. -/
def ColumnRef.unplaced (ref : ColumnRef) : ColumnRef where
  model := ref.model.unplaced
  field := ⟨ref.field.text, shiftColumn .start (ref.model.size + 1)⟩

/-- A relation without places. -/
def Relation.unplaced (relation : Relation) : Relation where
  left := relation.left.unplaced
  right := relation.right.unplaced
  onDelete := relation.onDelete.map Located.unplaced
  position := .start

/-- A projection without places. -/
def Projection.unplaced : Projection → Projection
  | .model name => .model name.unplaced
  | .field ref => .field ref.unplaced

/-- A join without places. -/
def Join.unplaced (join : Join) : Join where
  left := join.left.unplaced
  right := join.right.unplaced
  position := .start

/-- An operand without places. -/
def Operand.unplaced : Operand → Operand
  | .placeholder => .placeholder
  | .column ref => .column ref.unplaced
  | .literal value => .literal value

/-- A condition without places. -/
def Condition.unplaced (condition : Condition) : Condition where
  left := condition.left.unplaced
  op := condition.op
  right := condition.right.unplaced
  position := .start

/-- A request for pages without places. -/
def Paging.unplaced (paging : Paging) : Paging where
  column := paging.column.unplaced
  size := paging.size.unplaced
  position := .start

/-- A select without places. -/
def Select.unplaced (select : Select) : Select where
  projections := select.projections.map Projection.unplaced
  joins := select.joins.map Join.unplaced
  conditions := select.conditions.map Condition.unplaced
  paging := select.paging.map Paging.unplaced
  position := .start

/-- An insert without places. -/
def Insert.unplaced (insert : Insert) : Insert :=
  ⟨insert.model.unplaced, .start⟩

/-- An update without places. -/
def Update.unplaced (update : Update) : Update :=
  ⟨update.model.unplaced, update.conditions.map Condition.unplaced, .start⟩

/-- A delete or a count without places. -/
def Filtered.unplaced (query : Filtered) : Filtered where
  model := query.model.unplaced
  joins := query.joins.map Join.unplaced
  conditions := query.conditions.map Condition.unplaced
  position := .start

/-- All declarations without places. -/
def Schema.unplaced (schema : Schema) : Schema where
  models := schema.models.map Model.unplaced
  relations := schema.relations.map Relation.unplaced
  inserts := schema.inserts.map Insert.unplaced
  selects := schema.selects.map Select.unplaced
  updates := schema.updates.map Update.unplaced
  deletes := schema.deletes.map Filtered.unplaced
  counts := schema.counts.map Filtered.unplaced

end Declaration

/-- Names with the places where they were first given, without these places. -/
def unplacedNames (names : List (String × Position)) : List (String × Position) :=
  names.map fun entry => (entry.1, .start)

/-- Whether a name was given before is not a matter of places. -/
theorem lookup_unplacedNames (names : List (String × Position)) (name : String) :
    (unplacedNames names).lookup name = (names.lookup name).map fun _ => .start := by
  induction names with
  | nil => rfl
  | cons entry names inductionHypothesis =>
      rw [unplacedNames, List.map_cons, List.lookup_cons, List.lookup_cons]
      cases name == entry.1
      · exact inductionHypothesis
      · rfl

/-! ## Catalogs and plans -/

/-- A field without its place. -/
def Field.unplaced (field : Field) : Field :=
  { field with position := .start }

/-- A model without places. -/
def Model.unplaced (model : Model) : Model :=
  { model with fields := model.fields.map Field.unplaced, position := .start }

/-- A relation without its place. -/
def Relation.unplaced (relation : Relation) : Relation :=
  { relation with position := .start }

/-- A catalog without places. -/
def Catalog.unplaced (catalog : Catalog) : Catalog :=
  ⟨catalog.models.map Model.unplaced, catalog.relations.map Relation.unplaced⟩

/-- An insert without its place. -/
def Insert.unplaced (insert : Insert) : Insert :=
  { insert with position := .start }

/-- A select without its place. -/
def Select.unplaced (select : Select) : Select :=
  { select with position := .start }

/-- An update without its place. -/
def Update.unplaced (update : Update) : Update :=
  { update with position := .start }

/-- A delete without its place. -/
def Delete.unplaced (delete : Delete) : Delete :=
  { delete with position := .start }

/-- A count without its place. -/
def Count.unplaced (count : Count) : Count :=
  { count with position := .start }

/-- A plan without places. -/
def Plan.unplaced (plan : Plan) : Plan where
  toCatalog := plan.toCatalog.unplaced
  inserts := plan.inserts.map Insert.unplaced
  selects := plan.selects.map Select.unplaced
  updates := plan.updates.map Update.unplaced
  deletes := plan.deletes.map Delete.unplaced
  counts := plan.counts.map Count.unplaced
  returningTargets := plan.returningTargets

end Schemata
