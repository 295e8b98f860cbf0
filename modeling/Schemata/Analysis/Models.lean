import Schemata.Analysis.Checked
import Schemata.Catalog
import Schemata.Declaration
import Schemata.Text.Words

/-!
# Enrolling models

Models are enrolled in the order they are declared. Two models may not have names
that differ only in case or separators, nor one table; two fields of a model may
not have one column. A model needs a primary key without nullable fields: the one
it declares, or its only autoincrement field.
-/

namespace Schemata.Analysis

open Checked

/-- The models enrolled so far, with the names and tables that are taken and since where. -/
structure Enrolment where
  models : List Model := []
  names : List (String × Position) := []
  tables : List (String × Position) := []

/-! ## Fields -/

/-- The faults in the marks, length and default of a field. -/
def attributeFaults (field : Declaration.Field) : List AttributeFault :=
  let name := field.name.text
  let type := field.type.value
  (if field.marks.autoincrement && !type.isInteger then
    [.autoincrementType name type] else []) ++
  (if field.marks.autoincrement && field.marks.nullable then
    [.autoincrementNullable name] else []) ++
  (if (field.marks.autoinsert || field.marks.autoupdate) && type != .timestamp then
    [.stampType name type] else []) ++
  (if field.length.isSome && type != .text then
    [.lengthType name type] else []) ++
  (match field.default with
    | some default =>
      if default.value.fits type field.marks.nullable then []
      else [.defaultMisfit default.value name type]
    | none => [])

/-- Report the faults of a field at its name. -/
def checkAttributes (field : Declaration.Field) : Checked Unit :=
  reportAll ((attributeFaults field).map fun fault =>
    ⟨field.name.position, .invalidAttribute fault⟩)

/-- The resolved form of a field. -/
def resolveField (field : Declaration.Field) (column : String) : Field where
  toMarks := field.marks
  name := field.name.text
  column := column
  type := field.type.value
  default := field.default.map (·.value)
  length := field.length.map (·.value)
  position := field.name.position

/-- Enrol fields in order; one whose column is taken is left out. -/
def enrolFields (model : String) :
    List (String × Position) → List Declaration.Field → Checked (List Field)
  | _, [] => pure []
  | taken, field :: fields =>
    let column := Text.snakeCase field.name.text
    match taken.lookup column with
    | some previous => do
      report field.name.position (.duplicateColumn model field.name.text column previous)
      enrolFields model taken fields
    | none => do
      checkAttributes field
      let rest ← enrolFields model ((column, field.name.position) :: taken) fields
      return resolveField field column :: rest

/-! ## Keys -/

/-- The place of a field that a key names. -/
def keyField? (fields : List Field) (name : Name) : Option FieldId :=
  fields.findIdx? (·.name == name.text)

/-- Resolve the fields of a key after those already found; any problem spoils the key. -/
def keyFields (model : String) (fields : List Field) :
    List FieldId → List Name → Checked (Option (List FieldId))
  | found, [] => pure (some found)
  | found, name :: names =>
    match keyField? fields name with
    | none => do
      report name.position (.unknownField model name.text)
      let _ ← keyFields model fields found names
      return none
    | some id =>
      if found.contains id then do
        report name.position (.malformedKey model (.repeatedField name.text))
        let _ ← keyFields model fields found names
        return none
      else
        keyFields model fields (found ++ [id]) names

/-- Resolve a key; a spoiled key is empty. -/
def resolveKey (model : String) (fields : List Field) (key : List Name) :
    Checked (List FieldId) := do
  let resolved ← keyFields model fields [] key
  return resolved.getD []

/-- The places of the autoincrement fields. -/
def autoincrementFields (fields : List Field) : List FieldId :=
  (List.range fields.length).filter fun id => (fields.getD id default).autoincrement

/-- The primary key: the declared one, or the only autoincrement field. -/
def resolvePrimaryKey (declared : Declaration.Model) (fields : List Field) :
    Checked (List FieldId) :=
  match declared.key with
  | some key => resolveKey declared.name.text fields key
  | none =>
    match autoincrementFields fields with
    | [id] => pure [id]
    | _ => do
      report declared.name.position (.missingKey declared.name.text)
      return []

/-- Report the nullable fields of a primary key. -/
def checkPrimaryKey (model : String) (fields : List Field) (key : List FieldId) : Checked Unit :=
  reportAll (key.filterMap fun id =>
    let field := fields.getD id default
    if field.nullable then some ⟨field.position, .malformedKey model (.nullable field.name)⟩
    else none)

/-- Resolve the unique keys after those already found; spoiled and repeated ones are left out. -/
def resolveUniques (model : String) (fields : List Field) (primaryKey : List FieldId) :
    List (List FieldId) → List (List Name) → Checked (List (List FieldId))
  | found, [] => pure found
  | found, [] :: keys => resolveUniques model fields primaryKey found keys
  | found, (first :: names) :: keys => do
    let resolved ← resolveKey model fields (first :: names)
    if resolved.isEmpty then
      resolveUniques model fields primaryKey found keys
    else if resolved = primaryKey || found.contains resolved then
      report first.position (.malformedKey model .repeatedKey)
      resolveUniques model fields primaryKey found keys
    else
      resolveUniques model fields primaryKey (found ++ [resolved]) keys

/-! ## Models -/

/-- Take a table name, unless it is taken already. -/
def takeTable (model : String) (tables : List (String × Position)) (table : String)
    (position : Position) : Checked (List (String × Position)) :=
  match tables.lookup table with
  | some previous => do
    report position (.duplicateTable model table previous)
    return tables
  | none => return tables ++ [(table, position)]

/-- The table of a model and where it is named. -/
def tableOf (declared : Declaration.Model) : String × Position :=
  match declared.table with
  | some table => (table.text, table.position)
  | none => (Text.snakeCase declared.name.text, declared.name.position)

/-- Enrol a model; one whose name is taken is left out. -/
def enrolModel (enrolment : Enrolment) (declared : Declaration.Model) : Checked Enrolment :=
  let name := declared.name.text
  let key := Text.snakeCase name
  match enrolment.names.lookup key with
  | some previous => do
    report declared.name.position (.duplicateModel name previous)
    return enrolment
  | none => do
    let (table, tablePosition) := tableOf declared
    let tables ← takeTable name enrolment.tables table tablePosition
    let fields ← enrolFields name [] declared.fields
    let primaryKey ← resolvePrimaryKey declared fields
    checkPrimaryKey name fields primaryKey
    let unique ← resolveUniques name fields primaryKey [] declared.uniques
    let model : Model := ⟨name, table, fields, primaryKey, unique, declared.position⟩
    return {
      models := enrolment.models ++ [model]
      names := enrolment.names ++ [(key, declared.name.position)]
      tables := tables }

/-- Enrol all models of a schema. -/
def enrolModels (declared : List Declaration.Model) : Checked (List Model) := do
  let enrolment ← declared.foldlM enrolModel {}
  return enrolment.models

end Schemata.Analysis
