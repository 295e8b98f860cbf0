import Schemata.Access.Method
import Schemata.Access.Prelude
import Schemata.Access.Signature
import Schemata.Sql.Dialect

/-!
# Writing a module

The text of each part of a data-access module. A method is written from its
signature and its body; only a method that was not made by this library can lack
what its body needs.
-/

namespace Schemata.Access

/-- Why a module cannot be written. -/
inductive RenderError where
  | dialect (error : Sql.DialectError)
  | missingLookup (method : String)
  | missingRow (method : String)
  | formatter (reason : String)
  deriving DecidableEq, Repr

/-- The wording of an error. -/
def RenderError.message : RenderError → String
  | dialect error => error.message
  | missingLookup method =>
    "template body failed: " ++ method ++ " reads back without a row lookup"
  | missingRow method => "template body failed: " ++ method ++ " has no row to decode"
  | formatter reason => "formatter failed: " ++ reason

/-! ## String literals -/

/-- The number of hashes that a text starts with. -/
def leadingHashes (text : List Char) : Nat :=
  (text.takeWhile (· = '#')).length

/-- The greatest number of hashes right behind a quote in a text. -/
def hashesBehindQuotes : List Char → Nat
  | [] => 0
  | c :: rest =>
    if c = '"' then max (leadingHashes rest) (hashesBehindQuotes rest)
    else hashesBehindQuotes rest

/-- A text as a string literal: quoted, or raw if it spans lines. -/
def stringLiteral (text : String) : String :=
  if text.toList.contains '\n' then
    let hashes := Text.repeated "#" (hashesBehindQuotes text.toList + 1)
    "r" ++ hashes ++ "\"" ++ text ++ "\"" ++ hashes
  else
    Text.quoted text

/-- The declaration of a text constant. -/
def textConstant (name text : String) : Code :=
  .line ("const " ++ name ++ ": &str = " ++ stringLiteral text ++ ";")

/-! ## Structs -/

/-- How a member is read from a row. -/
def memberReader (member : Member) : String :=
  member.name ++ ": " ++
    (if member.nested then member.type ++ "::from_row(values)?," else "take(values)?,")

/-- A struct and how it is read from a row. -/
def structCode (struct : Struct) : List Code :=
  [.line "#[derive(Debug, Clone, PartialEq)]",
    braces ("pub struct " ++ struct.name)
      (struct.members.map fun member =>
        .line ("pub " ++ member.name ++ ": " ++ member.type ++ ",")),
    .blank,
    braces ("impl " ++ struct.name)
      [braces "fn from_row(values: &mut std::vec::IntoIter<Value>) -> Result<Self>"
        [.block "Ok(Self" (struct.members.map fun member => .line (memberReader member)) ")"]],
    .blank]

/-- The text of a struct. -/
def structText (struct : Struct) : String :=
  writeAll 0 (structCode struct)

/-! ## The head -/

/-- The constants and the type of a dialect. -/
def receiverCode (receiver : Receiver) : List Code :=
  [.line ("/// Driver crate backing the " ++ receiver.dialect ++ " receiver"),
    .line ("pub const " ++ receiver.constant ++ "_DRIVER: &str = " ++
      Text.quoted receiver.driver ++ ";"),
    .blank,
    .line ("pub const " ++ receiver.constant ++ "_SCHEMA: &str = " ++
      stringLiteral receiver.schema ++ ";"),
    .blank,
    braces ("pub struct " ++ receiver.type ++ "<E>") [.line "exec: E,"],
    .blank,
    braces ("impl<E: Executor> " ++ receiver.type ++ "<E>")
      [braces "pub fn new(exec: E) -> Self" [.line "Self \x7b exec \x7d"],
        .blank,
        .line "/// Create every table, in declaration order",
        braces "pub fn create_schema(&mut self) -> Result<()>"
          [braces ("for statement in " ++ receiver.constant ++
              "_SCHEMA.split(\";\\n\").map(str::trim).filter(|s| !s.is_empty())")
            [.line "self.exec.execute(statement, Vec::new())?;"],
            .line "Ok(())"]],
    .blank]

/-- The first lines of a module. -/
def openingCode (header : Header) : List Code :=
  [.line ("//! `" ++ header.module ++ "` data access, generated by dbgen. Do not edit."),
    .line "//!",
    .line "//! Driver crates:"] ++
  header.receivers.map (fun receiver =>
    .line ("//! - " ++ receiver.dialect ++ ": `" ++ receiver.driver ++ "`")) ++
  [.line "#![allow(dead_code, clippy::all)]",
    .blank,
    .line "use std::time::SystemTime;",
    .blank]

/-- The text of the head of a module. -/
def headerText (header : Header) : String :=
  writeAll 0 (openingCode header ++ prelude ++ [.blank] ++
    header.receivers.flatMap receiverCode ++
    header.structs.flatMap fun struct =>
      .line ("/// Row of `" ++ struct.table ++ "`") :: structCode struct.toStruct)

/-! ## Methods -/

/-- The signature of a method. -/
def signatureText (method : Method) : String :=
  (if method.exported then "pub " else "") ++ "fn " ++ method.name ++ "(&mut self" ++
    String.join (method.arguments.map fun argument =>
      ", " ++ argument.name ++ ": " ++ argument.type) ++
    ") -> Result<" ++ method.returns ++ ">"

/-- How a row is decoded. -/
def decoder (row : RowType) : String :=
  if row.nested then row.type ++ "::from_row(&mut row.into_iter())"
  else "take::<" ++ row.type ++ ">(&mut row.into_iter())"

/-- The values behind the placeholders of a statement. -/
def bindList (names : List String) (suffix : String) : String :=
  "vec![" ++ ", ".intercalate (names.map fun name => "Value::from(" ++ name ++ suffix ++ ")") ++ "]"

/-- How an update finds the identity of its row. -/
def lookupCode (lookup : Lookup) : List Code :=
  [textConstant "LOOKUP" lookup.sql,
    .block ("let Some(row) = self.exec.query(LOOKUP, " ++ bindList lookup.binds ".clone()" ++
        ")?.into_iter().next() else")
      [.line "return Ok(None);"] ";",
    .line "let rowid = take::<i64>(&mut row.into_iter())?;"]

/-- The body of a method. -/
def bodyCode (method : Method) : List Code :=
  let sql := textConstant "SQL" method.sql
  let arguments := bindList method.binds ""
  let decoded := (method.row.map decoder).getD ""
  let execute := Code.line ("self.exec.execute(SQL, " ++ arguments ++ ")?;")
  let query := "self.exec.query(SQL, " ++ arguments ++ ")?.into_iter()"
  match method.kind, method.readBack with
  | .insert, some readBack =>
    [sql, execute, .line "let rowid = self.exec.last_insert_id()?;",
      .line ("self." ++ readBack.getLast ++ "(rowid)")]
  | .update, some readBack =>
    (readBack.lookup.map lookupCode).getD [] ++
      [sql, execute, .line ("self." ++ readBack.getLast ++ "(rowid).map(Some)")]
  | .insert, none | .getLast, _ | .count, _ | .has, _ =>
    [sql,
      .line ("let row = " ++ query ++ ".next().ok_or(\"" ++ method.kind.label ++
        " returned no row\")?;"),
      .line decoded]
  | .selectOne, _ | .update, none =>
    [sql, .line (query ++ ".next().map(|row| " ++ decoded ++ ").transpose()")]
  | .selectAll, _ | .selectPage, _ =>
    [sql, .line (query ++ ".map(|row| " ++ decoded ++ ").collect()")]
  | .deleteOne, _ => [sql, .line ("Ok(self.exec.execute(SQL, " ++ arguments ++ ")? > 0)")]
  | .deleteAll, _ => [sql, .line ("self.exec.execute(SQL, " ++ arguments ++ ")")]

/-- What a method lacks that its body needs, if anything. -/
def bodyFault? (method : Method) : Option RenderError :=
  match method.readBack with
  | some readBack =>
    if method.kind = .update && readBack.lookup.isNone then some (.missingLookup method.name)
    else none
  | none =>
    if method.kind.readsRow && method.row.isNone then some (.missingRow method.name) else none

/-- The text of the body of a method. -/
def bodyText (method : Method) : Except RenderError String :=
  match bodyFault? method with
  | some fault => .error fault
  | none => .ok (writeAll 0 (bodyCode method))

/-- A method of a type, from its signature and its body. -/
def declarationText (receiver signature body : String) : String :=
  writeAll 0
    [braces ("impl<E: Executor> " ++ receiver ++ "<E>")
      [braces signature ((Text.lines body).map fun text =>
        if text.isEmpty then .blank else .line text)],
      .blank]

/-! ## The foot -/

/-- The text of the foot of a module: all exported signatures. -/
def footerText (signatures : List String) : String :=
  writeAll 0
    [.line "/// Data-access methods provided by every dialect receiver",
      braces "pub trait Methods"
        (signatures.map fun signature => .line (withoutExportMark signature ++ ";"))]

end Schemata.Access
