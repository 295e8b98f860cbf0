import Schemata.Sql.Dialect

/-!
# Registries of dialects

A registry holds at most one dialect of a name, in the order of the names.
-/

namespace Schemata.Sql

/-- Dialects by name. -/
structure Registry where
  dialects : List Dialect := []

namespace Registry

/-- Put a dialect in its place; one of the same name gives way to it. -/
def insertByName (dialect : Dialect) : List Dialect → List Dialect
  | [] => [dialect]
  | other :: others =>
    if dialect.name = other.name then dialect :: others
    else if dialect.name < other.name then dialect :: other :: others
    else other :: insertByName dialect others

/-- Add a dialect. -/
def register (registry : Registry) (dialect : Dialect) : Registry :=
  ⟨insertByName dialect registry.dialects⟩

/-- The registry of the dialects that are built in. -/
def builtin : Registry :=
  (({} : Registry).register postgres).register sqlite3

/-- The names of all dialects, in order. -/
def names (registry : Registry) : List String :=
  registry.dialects.map (·.name)

/-- The dialect of a name. -/
def get? (registry : Registry) (name : String) : Option Dialect :=
  registry.dialects.find? (·.name == name)

/-- The dialect of a name, or an error that lists the names there are. -/
def resolve (registry : Registry) (name : String) : Except DialectError Dialect :=
  match registry.get? name with
  | some dialect => .ok dialect
  | none => .error (.unsupported name registry.names)

/-- The dialects of some names, in order. -/
def resolveAll (registry : Registry) (names : List String) : Except DialectError (List Dialect) :=
  names.mapM registry.resolve

end Registry

end Schemata.Sql
