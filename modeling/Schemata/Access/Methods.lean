import Schemata.Access.Method
import Schemata.Access.Naming
import Schemata.Sql.Query
import Schemata.Sql.Schema

/-!
# The methods of a plan

Every query of a plan becomes one or two methods of each dialect. Where a write
cannot return its row, every written model also has a method of its own that reads
a row by its identity; these names are handed out before all others.
-/

namespace Schemata.Access

open Sql (Dialect DialectError Param Statement)

/-! ## Types -/

/-- The type of a value. -/
def valueType : FieldType → String
  | .bool => "bool"
  | .int => "i32"
  | .int64 => "i64"
  | .float64 => "f64"
  | .text => "String"
  | .blob => "Vec<u8>"
  | .timestamp => "SystemTime"

/-- A type whose value may be missing. -/
def optionOf (type : String) : String := "Option<" ++ type ++ ">"

/-- A list of values of a type. -/
def vectorOf (type : String) : String := "Vec<" ++ type ++ ">"

/-- The type of a field. -/
def fieldType (field : Field) : String :=
  if field.nullable then optionOf (valueType field.type) else valueType field.type

/-- The members of a model's struct. -/
def modelMembers (model : Model) : List Member :=
  let names := claimNames [] (model.fields.map fun field => safeName field.name)
  List.zipWith (fun name field => ⟨name, fieldType field, false⟩) names model.fields

/-- The name that a projection gives its member, if it is free. -/
def projectionName (catalog : Catalog) : Projection → String
  | .model id => safeName (catalog.model id).name
  | .field column => safeName (columnName catalog column)

/-- The member of a projection. -/
def projectionMember (catalog : Catalog) (name : String) : Projection → Member
  | .model id => ⟨name, structName (catalog.model id).name, true⟩
  | .field column => ⟨name, fieldType (catalog.field column), false⟩

/-- The members of the struct of several projections. -/
def projectionMembers (catalog : Catalog) (projections : List Projection) : List Member :=
  let names := claimNames [] (projections.map (projectionName catalog))
  List.zipWith (projectionMember catalog) names projections

/-- What a row of some shape is decoded into. -/
def rowType (catalog : Catalog) : ResultShape → RowType
  | .model id => ⟨structName (catalog.model id).name, true⟩
  | .field column => ⟨fieldType (catalog.field column), false⟩
  | .record name _ => ⟨name, true⟩

/-! ## Arguments -/

/-- The name of a parameter, if it is free. -/
def paramName (catalog : Catalog) : Param → String
  | .value column => safeName (catalog.field column).name
  | .filter column => safeName (columnName catalog column)
  | .cursor _ => "after"
  | .rowId => "rowid"

/-- The type of a parameter; only a value that is written may be missing. -/
def paramType (catalog : Catalog) : Param → String
  | .value column => fieldType (catalog.field column)
  | .filter column => valueType (catalog.field column).type
  | .cursor column => valueType (catalog.field column).type
  | .rowId => "i64"

/-- The arguments for the parameters of a statement, in order. -/
def argumentsFor (catalog : Catalog) (params : List Param) : List Argument :=
  let names := claimNames [] (params.map (paramName catalog))
  List.zipWith (fun name param => ⟨name, paramType catalog param⟩) names params

/-- Whether a parameter is compared with a column. -/
def isFilter : Param → Bool
  | .filter _ => true
  | _ => false

/-- The names of the arguments that columns are compared with, in order. -/
def filterNames (catalog : Catalog) (params : List Param) : List String :=
  (List.zipWith (fun (argument : Argument) param =>
    if isFilter param then [argument.name] else []) (argumentsFor catalog params) params).flatten

/-- A method that runs a statement. -/
def methodFor (catalog : Catalog) (kind : MethodKind) (name : String) (statement : Statement)
    (returns : String) (row : Option RowType) (readBack : Option ReadBack) : Method :=
  let arguments := argumentsFor catalog statement.params
  { kind, name
    exported := kind ≠ .getLast
    arguments
    sql := statement.sql
    binds := arguments.map (·.name)
    returns, row, readBack }

/-! ## Methods -/

/-- The names of the methods that read rows back, by model. -/
abbrev GetLastNames := List (ModelId × String)

/-- Hand out the names of the methods that read rows back, if the dialect needs them. -/
def getLastNames (dialect : Dialect) (plan : Plan) : GetLastNames :=
  if dialect.returning then
    []
  else
    plan.returningTargets.zip (claimNames [] (plan.returningTargets.map fun id =>
      safeName ("get_last_" ++ (plan.model id).name)))

/-- How a row of a model is read back. -/
def readBack? (names : GetLastNames) (id : ModelId) : Option ReadBack :=
  (names.lookup id).map fun name => ⟨none, name⟩

/-- The method of an insert. -/
def insertMethod (dialect : Dialect) (plan : Plan) (names : GetLastNames) (insert : Insert) :
    Method :=
  let model := plan.model insert.model
  methodFor plan.toCatalog .insert (safeName ("create_" ++ model.name))
    (Sql.insertStatement dialect plan.toCatalog insert) (structName model.name)
    (some (rowType plan.toCatalog (.model insert.model))) (readBack? names insert.model)

/-- The methods of a select: one row, or all rows and, where it has pages, the next page. -/
def selectMethods (dialect : Dialect) (plan : Plan) (select : Select) : List Method :=
  let catalog := plan.toCatalog
  let name := fun verb => methodName catalog verb (selectSubject catalog select) select.conditions
  let row := rowType catalog select.result
  let all := Sql.selectAll dialect catalog select
  match select.cardinality with
  | .one => [methodFor catalog .selectOne (name "get") all (optionOf row.type) (some row) none]
  | .many =>
    methodFor catalog .selectAll (name "all") all (vectorOf row.type) (some row) none ::
      ((Sql.selectPage? dialect catalog select).map fun page =>
        methodFor catalog .selectPage (name "paged") page (vectorOf row.type) (some row)
          none).toList

/-- The methods of a count: the number of rows, and whether there is one. -/
def countMethods (dialect : Dialect) (plan : Plan) (count : Count) : List Method :=
  let catalog := plan.toCatalog
  let subject := modelSubject catalog count.model
  let name := fun verb => methodName catalog verb subject count.conditions
  [methodFor catalog .count (name "count") (Sql.countStatement dialect catalog count) "i64"
      (some ⟨"i64", false⟩) none,
    methodFor catalog .has (name "has") (Sql.hasStatement dialect catalog count) "bool"
      (some ⟨"bool", false⟩) none]

/-- How the row of an update is read back: it is looked up by the update's own conditions. -/
def updateReadBack (dialect : Dialect) (plan : Plan) (names : GetLastNames) (update : Update)
    (statement : Statement) : Except DialectError (Option ReadBack) :=
  match readBack? names update.model with
  | none => .ok none
  | some readBack =>
    (Sql.rowLookupStatement dialect plan.toCatalog update).map fun lookup =>
      some { readBack with
        lookup := some ⟨lookup.sql, filterNames plan.toCatalog statement.params⟩ }

/-- The method of an update. -/
def updateMethod (dialect : Dialect) (plan : Plan) (names : GetLastNames) (update : Update) :
    Except DialectError Method :=
  let catalog := plan.toCatalog
  let statement := Sql.updateStatement dialect catalog update
  let name := methodName catalog "update" (modelSubject catalog update.model) update.conditions
  let row := rowType catalog (.model update.model)
  (updateReadBack dialect plan names update statement).map
    (methodFor catalog .update name statement (optionOf row.type) (some row))

/-- The method of a delete. -/
def deleteMethod (dialect : Dialect) (plan : Plan) (delete : Delete) : Method :=
  let catalog := plan.toCatalog
  let name := methodName catalog "delete" (modelSubject catalog delete.model) delete.conditions
  let statement := Sql.deleteStatement dialect catalog delete
  match delete.cardinality with
  | .one => methodFor catalog .deleteOne name statement "bool" none none
  | .many => methodFor catalog .deleteAll name statement "u64" none none

/-- The method that reads a row of a model by its identity. -/
def getLastMethod (dialect : Dialect) (plan : Plan) (id : ModelId) (name : String) :
    Except DialectError Method :=
  (Sql.getLastStatement dialect plan.toCatalog id).map fun statement =>
    let row := rowType plan.toCatalog (.model id)
    methodFor plan.toCatalog .getLast name statement row.type (some row) none

/-- The methods of all queries, before names are handed out. -/
def draftMethods (dialect : Dialect) (plan : Plan) (names : GetLastNames) :
    Except DialectError (List Method) := do
  let updates ← plan.updates.mapM (updateMethod dialect plan names)
  return plan.inserts.map (insertMethod dialect plan names) ++
    plan.selects.flatMap (selectMethods dialect plan) ++
    plan.counts.flatMap (countMethods dialect plan) ++
    updates ++ plan.deletes.map (deleteMethod dialect plan)

/-- Hand out the names of methods in a scope. -/
def nameMethods (used : List String) (drafts : List Method) : List Method :=
  List.zipWith (fun name (draft : Method) => { draft with name })
    (claimNames used (drafts.map (·.name))) drafts

/-- The methods of a plan in a dialect, in the order they are written. -/
def methods (dialect : Dialect) (plan : Plan) : Except DialectError (List Method) := do
  let names := getLastNames dialect plan
  let drafts ← draftMethods dialect plan names
  let getLast ← names.mapM fun (id, name) => getLastMethod dialect plan id name
  return nameMethods (names.map (·.2)) drafts ++ getLast

/-! ## The head of a module -/

/-- The dialects that generated code can talk to, each with the crate it talks through. -/
def drivers : List (String × String) :=
  [("postgres", "postgres"), ("sqlite3", "rusqlite")]

/-- The crate of a dialect. -/
def driverFor (dialect : String) : Except DialectError String :=
  match drivers.lookup dialect with
  | some driver => .ok driver
  | none => .error (.unsupported dialect (drivers.map (·.1)))

/-- A dialect as the head of a module shows it. -/
def receiverFor (plan : Plan) (dialect : Dialect) : Except DialectError Receiver :=
  (driverFor dialect.name).map fun driver =>
    { dialect := dialect.name
      type := receiverName dialect.name
      constant := Text.shoutyCase dialect.name
      driver
      schema := Sql.schemaText dialect plan.toCatalog }

/-- The struct of a model's rows. -/
def modelStruct (model : Model) : ModelStruct :=
  ⟨⟨structName model.name, modelMembers model⟩, model.table⟩

/-- The head of the module of a plan. -/
def headerFor (module : String) (plan : Plan) (dialects : List Dialect) :
    Except DialectError Header :=
  (dialects.mapM (receiverFor plan)).map fun receivers =>
    ⟨module, receivers, plan.models.map modelStruct⟩

/-- The structs of selects of several projections; of one name, only the first. -/
def resultStructs (catalog : Catalog) : List String → List Select → List Struct
  | _, [] => []
  | seen, select :: selects =>
    match select.result with
    | .record name members =>
      if seen.contains name then
        resultStructs catalog seen selects
      else
        ⟨name, projectionMembers catalog members⟩ :: resultStructs catalog (name :: seen) selects
    | _ => resultStructs catalog seen selects

end Schemata.Access
