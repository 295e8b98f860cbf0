import Schemata.Json.Value
import Schemata.Sql.Query
import Schemata.Sql.Registry
import Schemata.Text.Lines

/-!
# Listings

The statements of all queries of a plan, each under a line that says what it is
for, and the dialects there are.
-/

namespace Schemata.Command

open Sql (Dialect DialectError Statement)

/-- A statement and what it is for. -/
structure Listed where
  label : String
  statement : Statement

/-- A statement under a line that says what it is for. -/
def Listed.text (listed : Listed) : String :=
  "\n-- " ++ listed.label ++ "\n" ++ listed.statement.sql ++ ";\n"

/-- The statements of a select. -/
def selectListing (dialect : Dialect) (plan : Plan) (select : Select) : List Listed :=
  let name := (plan.model select.model).name
  ⟨"select " ++ name, Sql.selectAll dialect plan.toCatalog select⟩ ::
    ((Sql.selectPage? dialect plan.toCatalog select).map fun page =>
      ⟨"select " ++ name ++ " (paged)", page⟩).toList

/-- The statements of a count. -/
def countListing (dialect : Dialect) (plan : Plan) (count : Count) : List Listed :=
  let name := (plan.model count.model).name
  [⟨"count " ++ name, Sql.countStatement dialect plan.toCatalog count⟩,
    ⟨"has " ++ name, Sql.hasStatement dialect plan.toCatalog count⟩]

/-- The statement that reads a row of a model back. -/
def getLastListing (dialect : Dialect) (plan : Plan) (id : ModelId) :
    Except DialectError Listed :=
  (Sql.getLastStatement dialect plan.toCatalog id).map fun statement =>
    ⟨"get last " ++ (plan.model id).name, statement⟩

/-- The statements that read rows back, in dialects that need them. -/
def readBackListing (dialect : Dialect) (plan : Plan) : Except DialectError (List Listed) :=
  if dialect.returning then .ok []
  else plan.returningTargets.mapM (getLastListing dialect plan)

/-- The statements of all queries of a plan. -/
def listing (dialect : Dialect) (plan : Plan) : Except DialectError (List Listed) := do
  let catalog := plan.toCatalog
  let readBack ← readBackListing dialect plan
  return plan.inserts.map (fun insert =>
      ⟨"insert " ++ (plan.model insert.model).name, Sql.insertStatement dialect catalog insert⟩) ++
    plan.selects.flatMap (selectListing dialect plan) ++
    plan.counts.flatMap (countListing dialect plan) ++
    plan.updates.map (fun update =>
      ⟨"update " ++ (plan.model update.model).name, Sql.updateStatement dialect catalog update⟩) ++
    plan.deletes.map (fun delete =>
      ⟨"delete " ++ (plan.model delete.model).name, Sql.deleteStatement dialect catalog delete⟩) ++
    readBack

/-- The text of the statements of all queries of a plan. -/
def listingText (dialect : Dialect) (plan : Plan) : Except DialectError String :=
  (listing dialect plan).map fun listed => String.join (listed.map Listed.text)

/-- A dialect as data. -/
def dialectJson (dialect : Dialect) : Json.Value :=
  .object [("name", .text dialect.name), ("description", .text dialect.description),
    ("features", .object [("returning", .bool dialect.returning),
      ("last_insert_id", .bool dialect.lastInsertId)]),
    ("placeholder_style", .text dialect.placeholders.name),
    ("pagination_style", .text dialect.limits.name)]

/-- A dialect on one line. -/
def dialectLine (dialect : Dialect) : String :=
  let truth := fun (value : Bool) => Text.padRight 5 (if value then "true" else "false")
  Text.padRight 10 dialect.name ++ " returning=" ++ truth dialect.returning ++
    " last_insert_id=" ++ truth dialect.lastInsertId ++ " " ++ dialect.description ++ "\n"

end Schemata.Command
