import Schemata.Analysis.Models
import Schemata.Analysis.Queries
import Schemata.Analysis.Relations

/-!
# Resolving a schema

Models are enrolled first, then relations are added, then every query is resolved
over the finished catalog. A schema becomes a plan if no problem was met on the
way; otherwise all problems are reported in the order of their places.
-/

namespace Schemata.Analysis

/-- The catalog of a schema. -/
def resolveCatalog (schema : Declaration.Schema) : Checked Catalog := do
  let models ← enrolModels schema.models
  resolveRelations models schema.relations

/-- Resolve queries of one kind, each on its own, and keep those that resolve. -/
def resolveAll {α β : Type} (resolve : α → Checked (Option β)) (declared : List α) :
    Checked (List β) := do
  let resolved ← declared.mapM resolve
  return resolved.filterMap id

/-- The models that inserts and updates write, each once, in the order of their first use. -/
def returningTargets (inserts : List Insert) (updates : List Update) : List ModelId :=
  (inserts.map (·.model) ++ updates.map (·.model)).foldl
    (fun targets model => if targets.contains model then targets else targets ++ [model]) []

/-- Everything in a schema that resolves, with all problems in the order they were met. -/
def resolveSchema (schema : Declaration.Schema) : Checked Plan := do
  let catalog ← resolveCatalog schema
  let inserts ← resolveAll (resolveInsert catalog) schema.inserts
  let selects ← resolveAll (resolveSelect catalog) schema.selects
  let updates ← resolveAll (resolveUpdate catalog) schema.updates
  let deletes ← resolveAll (resolveDelete catalog) schema.deletes
  let counts ← resolveAll (resolveCount catalog) schema.counts
  return {
    toCatalog := catalog
    inserts, selects, updates, deletes, counts
    returningTargets := returningTargets inserts updates }

/-- Resolve a schema into a plan, or report its problems. -/
def analyze (schema : Declaration.Schema) : Except (List Problem) Plan :=
  let resolved := resolveSchema schema
  match resolved.problems with
  | [] => .ok resolved.value
  | problems => .error (Problem.sort problems)

end Schemata.Analysis
