import Schemata.Analysis.Names

/-!
# Resolving relations

A relation connects two fields of one type on two models, and the field it refers
to is unique on its own. No relation is declared twice.
-/

namespace Schemata.Analysis

open Checked

/-- The faults of a relation between two resolved columns. -/
def relationFaults (catalog : Catalog) (left right : Column) (onDelete : Option DeleteAction) :
    List RelationFault :=
  let leftField := catalog.field left
  let rightField := catalog.field right
  (if left.model = right.model then [.sameModel] else []) ++
  (if leftField.type != rightField.type then
    [.typeMismatch leftField.type rightField.type] else []) ++
  (if !(catalog.model right.model).isUniqueField right.field then
    [.notUnique (catalog.displayName right)] else []) ++
  (if onDelete = some .setNull && !leftField.nullable then
    [.setNullNotNullable (catalog.displayName left)] else []) ++
  (if catalog.relations.any (fun other => other.left = left && other.right = right) then
    [.declaredTwice] else [])

/-- Add a relation to a catalog, or report its faults. -/
def resolveRelation (catalog : Catalog) (declared : Declaration.Relation) : Checked Catalog := do
  let left ← resolveColumn catalog declared.left
  let right ← resolveColumn catalog declared.right
  match left, right with
  | some left, some right =>
    let onDelete := declared.onDelete.map (·.value)
    match relationFaults catalog left right onDelete with
    | [] =>
      let relation : Relation := ⟨left, right, onDelete, declared.position⟩
      return { catalog with relations := catalog.relations ++ [relation] }
    | faults =>
      reportAll (faults.map fun fault => ⟨declared.position,
        .invalidRelation (catalog.displayName left) (catalog.displayName right) fault⟩)
      return catalog
  | _, _ => return catalog

/-- Add all relations of a schema to a catalog of models. -/
def resolveRelations (models : List Model) (declared : List Declaration.Relation) :
    Checked Catalog :=
  declared.foldlM resolveRelation ⟨models, []⟩

end Schemata.Analysis
