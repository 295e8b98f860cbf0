/-!
# Generated types and methods as data

What a data-access module consists of, before it is text. Every name is final,
every type is spelled out, and every statement is complete.
-/

namespace Schemata.Access

/-- A member of a generated struct. A nested member is a whole struct of its own. -/
structure Member where
  name : String
  type : String
  nested : Bool
  deriving DecidableEq, Repr

/-- A generated struct. -/
structure Struct where
  name : String
  members : List Member
  deriving DecidableEq, Repr

/-- The struct of a model's rows. -/
structure ModelStruct extends Struct where
  table : String
  deriving DecidableEq, Repr

/-- A dialect as the head of a module shows it. -/
structure Receiver where
  dialect : String
  /-- The type that the dialect's methods belong to. -/
  type : String
  /-- What the names of the dialect's constants start with. -/
  constant : String
  /-- The crate that talks to the database. -/
  driver : String
  /-- The definitions of all tables. -/
  schema : String
  deriving DecidableEq, Repr

/-- The head of a module. -/
structure Header where
  module : String
  receivers : List Receiver
  structs : List ModelStruct
  deriving DecidableEq, Repr

/-- What a method does. -/
inductive MethodKind where
  | insert
  | selectOne
  | selectAll
  | selectPage
  | count
  | has
  | update
  | deleteOne
  | deleteAll
  | getLast
  deriving DecidableEq, Repr

/-- What a method is called in the messages of generated code. -/
def MethodKind.label : MethodKind → String
  | insert => "insert"
  | selectOne => "select"
  | selectAll => "select-all"
  | selectPage => "select-paged"
  | count => "count"
  | has => "has"
  | update => "update"
  | deleteOne => "delete"
  | deleteAll => "delete-all"
  | getLast => "get-last"

/-- Whether a method reads a row from the result of its statement. -/
def MethodKind.readsRow : MethodKind → Bool
  | deleteOne | deleteAll => false
  | _ => true

/-- An argument of a method. -/
structure Argument where
  name : String
  type : String
  deriving DecidableEq, Repr

/-- What a row is decoded into: a struct, or one value. -/
structure RowType where
  type : String
  nested : Bool
  deriving DecidableEq, Repr

/-- How the row that an update is about is found before it is written. -/
structure Lookup where
  sql : String
  /-- The arguments behind the placeholders, in order. -/
  binds : List String
  deriving DecidableEq, Repr

/-- How a written row is read back where a write cannot return it. -/
structure ReadBack where
  lookup : Option Lookup
  /-- The method that reads a row by its identity. -/
  getLast : String
  deriving DecidableEq, Repr

/-- A generated method. -/
structure Method where
  kind : MethodKind
  name : String
  exported : Bool
  arguments : List Argument
  sql : String
  /-- The arguments behind the placeholders, in order. -/
  binds : List String
  /-- The type of a successful result. -/
  returns : String
  row : Option RowType
  readBack : Option ReadBack
  deriving DecidableEq, Repr

end Schemata.Access
