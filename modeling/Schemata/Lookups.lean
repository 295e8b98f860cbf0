import Schemata.Catalog

/-!
# Lookups

Whatever is written from a plan looks models and fields up by their numbers. How a lookup ends is
left open: over a catalog as it is, every lookup gives a model or a field; over a catalog that is
checked, a number that is not taken gives nothing, and then nothing is written at all.
-/

namespace Schemata

/-- The ways to look up models and fields by their numbers. -/
structure Lookups (m : Type → Type) where
  model : ModelId → m Model
  field : Column → m Field

namespace Catalog

/-- Lookups that always give something. -/
def lookups (catalog : Catalog) : Lookups Id where
  model id := catalog.model id
  field column := catalog.field column

/-- Lookups that give nothing for a number that is not taken. -/
def checkedLookups (catalog : Catalog) : Lookups Option where
  model id := catalog.models[id]?
  field column := do
    let model ← catalog.models[column.model]?
    model.fields[column.field]?

end Catalog

end Schemata
