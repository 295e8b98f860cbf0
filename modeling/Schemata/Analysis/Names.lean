import Schemata.Analysis.Checked
import Schemata.Catalog
import Schemata.Declaration

/-!
# Resolving names

A model is found by its exact name, a field by its exact name in its model. A name
that is not found is reported where it stands.
-/

namespace Schemata.Analysis

open Checked

/-- The model a name stands for. -/
def resolveModel (catalog : Catalog) (name : Name) : Checked (Option ModelId) :=
  match catalog.modelId? name.text with
  | some id => pure (some id)
  | none => do
    report name.position (.unknownModel name.text)
    return none

/-- The column a reference stands for; the model is looked up first. -/
def resolveColumn (catalog : Catalog) (ref : Declaration.ColumnRef) : Checked (Option Column) := do
  match ← resolveModel catalog ref.model with
  | none => return none
  | some id =>
    match (catalog.model id).fieldId? ref.field.text with
    | some field => return some ⟨id, field⟩
    | none =>
      report ref.field.position (.unknownField ref.model.text ref.field.text)
      return none

end Schemata.Analysis
