/-!
# Identifiers in SQL

A table or column name stands bare if it is a small-letter word that is not
reserved; any other name stands between double quotes, where a quote is written
twice.
-/

namespace Schemata.Sql

/-- The words that no bare name may be. -/
def reservedWords : List String :=
  ["all", "and", "as", "asc", "by", "case", "check", "column", "constraint", "create",
    "default", "delete", "desc", "distinct", "else", "end", "exists", "from", "group", "having",
    "in", "index", "insert", "into", "is", "join", "key", "limit", "not", "null", "offset", "on",
    "or", "order", "primary", "references", "select", "set", "table", "then", "to", "union",
    "unique", "update", "user", "using", "values", "when", "where", "with"]

/-- Whether a bare name may start with a character. -/
def startsBareName (c : Char) : Bool :=
  c.isLower || c = '_'

/-- Whether a bare name may go on with a character. -/
def continuesBareName (c : Char) : Bool :=
  c.isLower || c.isDigit || c = '_'

/-- Whether a name may stand bare. -/
def isBareName (name : String) : Bool :=
  match name.toList with
  | [] => false
  | c :: rest =>
    startsBareName c && rest.all continuesBareName && !reservedWords.contains name

/-- A text between double quotes, with the quotes in it written twice. -/
def quotedName (name : String) : String :=
  String.ofList
    ('"' :: name.toList.flatMap (fun c => if c = '"' then ['"', '"'] else [c]) ++ ['"'])

/-- A table or column name as it stands in a statement. -/
def identifier (name : String) : String :=
  if isBareName name then name else quotedName name

end Schemata.Sql
