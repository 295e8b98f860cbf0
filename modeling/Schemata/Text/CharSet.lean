/-!
# Character sets as inversion lists

A set of characters is the ascending list of the code points at which membership
changes. The first boundary opens the set, the next one closes it, and so on, so
a character belongs to the set exactly when an odd number of boundaries lie at or
below it. Standard character properties are stated as such lists.
-/

namespace Schemata.Text

/-- A set of characters, given by the code points at which membership changes. -/
structure CharSet where
  boundaries : List Nat

namespace CharSet

/-- A character belongs to the set when an odd number of boundaries lie at or below it. -/
def contains (set : CharSet) (c : Char) : Bool :=
  (set.boundaries.takeWhile (· ≤ c.toNat)).length % 2 == 1

/-- The empty set has no boundary. -/
@[simp]
theorem contains_empty (c : Char) : contains ⟨[]⟩ c = false := rfl

/-- No character below the first boundary belongs to the set. -/
theorem contains_eq_false_of_lt {first : Nat} {rest : List Nat} {c : Char}
    (below : c.toNat < first) : contains ⟨first :: rest⟩ c = false := by
  have notLe : ¬ first ≤ c.toNat := Nat.not_le.mpr below
  simp [contains, notLe]

end CharSet

end Schemata.Text
