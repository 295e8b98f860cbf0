import Schemata.Declaration
import Schemata.Node.Reader

/-!
# Reading a tree as declarations

Every construct takes a fixed number of values and a set of named options. An
option is looked up in the construct's table of rules and applied in the order of
the source; options that are given once may not be repeated. The first thing that
does not fit refuses the source.
-/

namespace Schemata.Declaration

/-! ## Values -/

/-- The refusal of a value. -/
def refuseLeaf (leaf : Leaf) (expected : List String) : ReadError :=
  .expected leaf.position expected leaf.atom.describe

/-- The refusal of a wrong number of values: the first one too many, or the missing one. -/
def refuseCount (count : Nat) (keyword : Name) (arguments : List Leaf) (expected : List String) :
    ReadError :=
  match arguments[count]? with
  | some extra => refuseLeaf extra expected
  | none => .expected keyword.position expected "nothing"

/-- A value that is a single word. -/
def readIdent (leaf : Leaf) : Except ReadError Name :=
  match leaf.atom with
  | .ident name => .ok ⟨name, leaf.position⟩
  | _ => .error (refuseLeaf leaf ["identifier"])

/-- A position further along the same line. -/
def shiftColumn (position : Position) (bytes : Nat) : Position :=
  { position with column := position.column + bytes, offset := position.offset + bytes }

/-- A value that is a path of two segments; the field is taken to follow the dot at once. -/
def readColumnRef (leaf : Leaf) : Except ReadError ColumnRef :=
  match leaf.atom with
  | .path model field [] =>
    let modelName : Name := ⟨model, leaf.position⟩
    .ok ⟨modelName, ⟨field, shiftColumn leaf.position (modelName.size + 1)⟩⟩
  | _ => .error (refuseLeaf leaf ["model.field"])

/-- A value that is a number. -/
def readInteger (leaf : Leaf) : Except ReadError (Located Int) :=
  match leaf.atom with
  | .integer value => .ok ⟨value, leaf.position, leaf.size⟩
  | _ => .error (refuseLeaf leaf ["integer"])

/-- The literal a value stands for, if it stands for one. -/
def literal? : Atom → Option Literal
  | .integer value => some (.int value)
  | .text content => some (.text content)
  | .ident "true" => some (.bool true)
  | .ident "false" => some (.bool false)
  | .ident "null" => some .null
  | _ => none

/-- A value that is a literal. -/
def readLiteral (leaf : Leaf) : Except ReadError (Located Literal) :=
  match literal? leaf.atom with
  | some value => .ok ⟨value, leaf.position, leaf.size⟩
  | none => .error (refuseLeaf leaf ["integer", "string", "true", "false", "null"])

/-- A value that names a field type. -/
def readFieldType (leaf : Leaf) : Except ReadError (Located FieldType) :=
  let named : Option FieldType :=
    match leaf.atom with
    | .ident name => FieldType.ofName? name
    | _ => none
  match named with
  | some type => .ok ⟨type, leaf.position, leaf.size⟩
  | none => .error (refuseLeaf leaf (FieldType.all.map FieldType.name))

/-- A value that names a deletion's effect. -/
def readDeleteAction (leaf : Leaf) : Except ReadError (Located DeleteAction) :=
  match DeleteAction.ofName? leaf.atom.spelling with
  | some action => .ok ⟨action, leaf.position, leaf.size⟩
  | none => .error (refuseLeaf leaf (DeleteAction.all.map DeleteAction.name))

/-! ## Options -/

/-- An option of a construct: its name, whether it may be repeated, and what it does. -/
structure Rule (σ : Type) where
  name : String
  repeatable : Bool
  apply : σ → Node → Except ReadError σ

/-- An option that may be given once. -/
def Rule.once {σ : Type} (name : String) (apply : σ → Node → Except ReadError σ) : Rule σ :=
  ⟨name, false, apply⟩

/-- An option that may be given any number of times. -/
def Rule.many {σ : Type} (name : String) (apply : σ → Node → Except ReadError σ) : Rule σ :=
  ⟨name, true, apply⟩

/-- The refusal of an option that no rule describes. -/
def refuseOption {σ : Type} (kind : String) (rules : List (Rule σ)) (option : Name) : ReadError :=
  if rules.isEmpty then
    .invalid option.position (.takesNoOptions kind option.text)
  else
    .expected option.position (rules.map Rule.name) option.text

/--
Apply options in order. `seen` holds the options that may not be repeated and were
given already, with their positions.
-/
def applyOptions {σ : Type} (kind : String) (rules : List (Rule σ)) :
    List (String × Position) → σ → List Node → Except ReadError σ
  | _, target, [] => .ok target
  | seen, target, node :: nodes =>
    match rules.find? (·.name == node.keyword.text) with
    | none => .error (refuseOption kind rules node.keyword)
    | some rule =>
      if rule.repeatable then do
        let target ← rule.apply target node
        applyOptions kind rules seen target nodes
      else
        match seen.lookup rule.name with
        | some previous => .error (.redefined node.position rule.name kind previous)
        | none => do
          let target ← rule.apply target node
          applyOptions kind rules ((rule.name, node.position) :: seen) target nodes

/-- The values of an option that takes values only. -/
def optionValues (node : Node) : Except ReadError (List Leaf) :=
  match node.children with
  | child :: _ => .error (.invalid child.position (.optionsOnValue node.keyword.text))
  | [] => .ok node.arguments

/-- The only value of an option. -/
def readOne (node : Node) (expected : List String) : Except ReadError Leaf := do
  match ← optionValues node with
  | [first] => return first
  | arguments => throw (refuseCount 1 node.keyword arguments expected)

/-- The two values of an option. -/
def readTwo (node : Node) (expected : List String) : Except ReadError (Leaf × Leaf) := do
  match ← optionValues node with
  | [first, second] => return (first, second)
  | arguments => throw (refuseCount 2 node.keyword arguments expected)

/-- The three values of an option. -/
def readThree (node : Node) (expected : List String) :
    Except ReadError (Leaf × Leaf × Leaf) := do
  match ← optionValues node with
  | [first, second, third] => return (first, second, third)
  | arguments => throw (refuseCount 3 node.keyword arguments expected)

/-- A list of at least one word. -/
def readIdents (node : Node) : Except ReadError (List Name) :=
  if node.children.isEmpty && !node.arguments.isEmpty then
    node.arguments.mapM readIdent
  else
    .error (.expected node.position ["field name"] "nothing")

/-- A flag stands alone. -/
def readFlag (node : Node) : Except ReadError Bool :=
  match node with
  | .flag _ => .ok true
  | .tuple keyword _ _ => .error (.invalid keyword.position (.valueOnFlag keyword.text))

/-! ## Models -/

/-- The words that can follow a field's type. -/
def flagNames : List String :=
  ["nullable", "autoincrement", "autoinsert", "autoupdate", "updatable"]

/-- A text length is a positive number of 32 bits. -/
def readLength (leaf : Leaf) : Except ReadError (Located Nat) := do
  let length ← readInteger leaf
  if 0 < length.value && length.value ≤ 4294967295 then
    return ⟨length.value.toNat, leaf.position, leaf.size⟩
  else
    throw (.invalid leaf.position (.lengthOutOfRange length.value))

/-- A rule for a flag of a field. -/
def flagRule (name : String) (set : Marks → Bool → Marks) : Rule Field :=
  .once name fun field node => do
    let value ← readFlag node
    return { field with marks := set field.marks value }

/-- The options of a field. -/
def fieldRules : List (Rule Field) := [
  flagRule "nullable" fun marks value => { marks with nullable := value },
  flagRule "autoincrement" fun marks value => { marks with autoincrement := value },
  flagRule "autoinsert" fun marks value => { marks with autoinsert := value },
  flagRule "autoupdate" fun marks value => { marks with autoupdate := value },
  flagRule "updatable" fun marks value => { marks with updatable := value },
  .once "length" fun field node => do
    let leaf ← readOne node ["length"]
    let length ← readLength leaf
    return { field with length := some length },
  .once "default" fun field node => do
    let leaf ← readOne node ["default value"]
    let value ← readLiteral leaf
    return { field with default := some value }]

/-- A word after a field's type, read as a flag. -/
def readTrailingFlag (leaf : Leaf) : Except ReadError Node :=
  match leaf.atom with
  | .ident name => .ok (.flag ⟨name, leaf.position⟩)
  | _ => .error (refuseLeaf leaf flagNames)

/-- Read a field. Words after its type are flags, as they are inside its group. -/
def readField (node : Node) : Except ReadError Field := do
  match node with
  | .flag keyword => throw (.expected keyword.position ["field name"] "newline")
  | .tuple keyword [] _ => throw (.expected keyword.position ["field name"] "nothing")
  | .tuple _ [only] _ => throw (.expected only.position ["field type"] "nothing")
  | .tuple _ (name :: type :: flags) children =>
    let name ← readIdent name
    let type ← readFieldType type
    let trailing ← flags.mapM readTrailingFlag
    applyOptions "field" fieldRules [] ⟨name, type, {}, none, none⟩ (trailing ++ children)

/-- Add a field to a model; its name must be new. -/
def addField (model : Model) (field : Field) : Except ReadError Model :=
  match model.fields.find? (·.name.text == field.name.text) with
  | some previous =>
    .error (.redefined field.name.position field.name.text "model" previous.name.position)
  | none => .ok { model with fields := model.fields ++ [field] }

/-- The options of a model. -/
def modelRules : List (Rule Model) := [
  .once "table" fun model node => do
    let leaf ← readOne node ["table name"]
    let table ← readIdent leaf
    return { model with table := some table },
  .once "key" fun model node => do
    let key ← readIdents node
    return { model with key := some key },
  .many "unique" fun model node => do
    let key ← readIdents node
    return { model with uniques := model.uniques ++ [key] },
  .many "field" fun model node => do
    let field ← readField node
    addField model field]

/-- Read a model. -/
def readModel (node : Node) : Except ReadError Model := do
  match node.arguments with
  | [leaf] =>
    let name ← readIdent leaf
    applyOptions "model" modelRules [] ⟨name, none, none, [], [], node.position⟩ node.children
  | arguments => throw (refuseCount 1 node.keyword arguments ["name"])

/-! ## Relations -/

/-- The options of a relation. -/
def relationRules : List (Rule Relation) := [
  .once "on_delete" fun relation node => do
    let leaf ← readOne node (DeleteAction.all.map DeleteAction.name)
    let action ← readDeleteAction leaf
    return { relation with onDelete := some action }]

/-- Read a relation. -/
def readRelation (node : Node) : Except ReadError Relation := do
  match node.arguments with
  | [first, second] =>
    let left ← readColumnRef first
    let right ← readColumnRef second
    applyOptions "relation" relationRules [] ⟨left, right, none, node.position⟩ node.children
  | arguments => throw (refuseCount 2 node.keyword arguments ["model.field"])

/-! ## Queries -/

/-- What a column is compared with: a placeholder, another column, or a literal. -/
def readOperand (leaf : Leaf) : Except ReadError Operand :=
  match leaf.atom with
  | .placeholder => .ok .placeholder
  | .path _ _ _ => do
    let ref ← readColumnRef leaf
    return .column ref
  | _ => do
    let value ← readLiteral leaf
    return .literal value.value

/-- The operator of a condition. -/
def readComparison (leaf : Leaf) : Except ReadError Comparison :=
  match leaf.atom with
  | .comparison op => .ok op
  | _ => .error (refuseLeaf leaf (Comparison.all.map Comparison.symbol))

/-- Read a condition; its operator is looked at first, then its right side, then its left. -/
def readCondition (node : Node) : Except ReadError Condition := do
  let (left, op, right) ← readThree node ["model.field", "operator", "operand"]
  let op ← readComparison op
  let right ← readOperand right
  let left ← readColumnRef left
  return ⟨left, op, right, node.position⟩

/-- Read an explicit join, which is an equation. -/
def readJoin (node : Node) : Except ReadError Join := do
  let (left, op, right) ← readThree node ["model.field", "=", "model.field"]
  if op.atom = .comparison .eq then
    let left ← readColumnRef left
    let right ← readColumnRef right
    return ⟨left, right, node.position⟩
  else
    throw (refuseLeaf op ["="])

/-- Read a request for pages. -/
def readPaging (node : Node) : Except ReadError Paging := do
  let (column, size) ← readTwo node ["model.field", "page size"]
  let column ← readColumnRef column
  let size ← readInteger size
  return ⟨column, size, node.position⟩

/-- Read one thing that a select asks for. -/
def readProjection (leaf : Leaf) : Except ReadError Projection :=
  match leaf.atom with
  | .ident name => .ok (.model ⟨name, leaf.position⟩)
  | .path _ _ _ => do
    let ref ← readColumnRef leaf
    return .field ref
  | _ => .error (refuseLeaf leaf ["model", "model.field"])

/-- The options of a select. -/
def selectRules : List (Rule Select) := [
  .many "where" fun select node => do
    let condition ← readCondition node
    return { select with conditions := select.conditions ++ [condition] },
  .many "join" fun select node => do
    let join ← readJoin node
    return { select with joins := select.joins ++ [join] },
  .once "paged" fun select node => do
    let paging ← readPaging node
    return { select with paging := some paging }]

/-- Read a select, which asks for at least one thing. -/
def readSelect (node : Node) : Except ReadError Select := do
  if node.arguments.isEmpty then
    throw (.expected node.position ["model", "model.field"] "nothing")
  else
    let projections ← node.arguments.mapM readProjection
    applyOptions "select" selectRules [] ⟨projections, [], [], none, node.position⟩ node.children

/-- The model that an insert, update, delete or count is about. -/
def readTarget (node : Node) : Except ReadError Name :=
  match node.arguments with
  | [leaf] => readIdent leaf
  | arguments => .error (refuseCount 1 node.keyword arguments ["model"])

/-- Read an insert, which has no options. -/
def readInsert (node : Node) : Except ReadError Insert := do
  let model ← readTarget node
  applyOptions "insert" [] [] ⟨model, node.position⟩ node.children

/-- The options of an update. -/
def updateRules : List (Rule Update) := [
  .many "where" fun update node => do
    let condition ← readCondition node
    return { update with conditions := update.conditions ++ [condition] }]

/-- Read an update. -/
def readUpdate (node : Node) : Except ReadError Update := do
  let model ← readTarget node
  applyOptions "update" updateRules [] ⟨model, [], node.position⟩ node.children

/-- The options of a delete or a count. -/
def filteredRules : List (Rule Filtered) := [
  .many "where" fun query node => do
    let condition ← readCondition node
    return { query with conditions := query.conditions ++ [condition] },
  .many "join" fun query node => do
    let join ← readJoin node
    return { query with joins := query.joins ++ [join] }]

/-- Read a delete or a count. -/
def readFiltered (kind : String) (node : Node) : Except ReadError Filtered := do
  let model ← readTarget node
  applyOptions kind filteredRules [] ⟨model, [], [], node.position⟩ node.children

/-! ## Statements -/

/-- The statements of a schema. -/
inductive Statement where
  | model
  | relation
  | insert
  | select
  | update
  | delete
  | count
  deriving DecidableEq, Repr

namespace Statement

/-- Every statement, in the order in which messages list them. -/
def all : List Statement := [model, relation, insert, select, update, delete, count]

/-- The keyword of a statement. -/
def keyword : Statement → String
  | model => "model"
  | relation => "relation"
  | insert => "insert"
  | select => "select"
  | update => "update"
  | delete => "delete"
  | count => "count"

/-- The statement with a given keyword. -/
def ofKeyword? (text : String) : Option Statement :=
  all.find? (·.keyword == text)

end Statement

/-- Add what one statement declares. -/
def Schema.add (schema : Schema) (node : Node) : Except ReadError Schema := do
  match Statement.ofKeyword? node.keyword.text with
  | some .model =>
    let model ← readModel node
    return { schema with models := schema.models ++ [model] }
  | some .relation =>
    let relation ← readRelation node
    return { schema with relations := schema.relations ++ [relation] }
  | some .insert =>
    let insert ← readInsert node
    return { schema with inserts := schema.inserts ++ [insert] }
  | some .select =>
    let select ← readSelect node
    return { schema with selects := schema.selects ++ [select] }
  | some .update =>
    let update ← readUpdate node
    return { schema with updates := schema.updates ++ [update] }
  | some .delete =>
    let delete ← readFiltered "delete" node
    return { schema with deletes := schema.deletes ++ [delete] }
  | some .count =>
    let count ← readFiltered "count" node
    return { schema with counts := schema.counts ++ [count] }
  | none =>
    throw (.expected node.position (Statement.all.map Statement.keyword) node.keyword.text)

/-- Read statements as declarations. -/
def Schema.ofNodes (nodes : List Node) : Except ReadError Schema :=
  nodes.foldlM Schema.add {}

/-- Read a source as declarations. -/
def Schema.parse (source : String) : Except ReadError Schema := do
  let nodes ← Node.parse source
  Schema.ofNodes nodes

end Schemata.Declaration
