import Mathlib.Data.List.Nodup
import Mathlib.Data.List.Perm.Subperm
import Schemata.Access.Naming
import Schemata.Proofs.Outcome

/-!
# Names are handed out once

A name that was handed out before gets the least free number behind it, and one more number is tried
than there are names, so one of them is free (`freshName_of_mem`). Names that are handed out one
after another in a scope are therefore different from each other and from all names before them.
Names that were in use before all others are noticed only if one of them would be handed out
(`claimNames_eq_iff`).
-/

namespace Schemata.Access

/-- A number can be read off a name that ends with it. -/
theorem numbered_injective (base : String) : Function.Injective (numbered base) := by
  intro first second same
  have texts : (numbered base first).toList = (numbered base second).toList :=
    congrArg String.toList same
  simp only [numbered, String.toList_append, List.append_cancel_left_eq,
    Nat.toString_eq_ofList_toDigits, String.toList_ofList] at texts
  have values := congrArg (fun digits => Nat.ofDigitChars 10 digits 0) texts
  simpa using values

/-- Of one more name than there are in a scope, one is free. -/
theorem exists_candidate_notMem {used candidates : List String} (distinct : candidates.Nodup)
    (more : used.length < candidates.length) : ∃ candidate ∈ candidates, candidate ∉ used := by
  by_contra none
  simp only [not_exists, not_and, not_not] at none
  have fits := (List.subperm_of_subset distinct none).length_le
  omega

/-- The least number from two on that makes a free name of a base. -/
structure LeastFree (used : List String) (base : String) (number : Nat) : Prop where
  counted : 2 ≤ number
  free : numbered base number ∉ used
  least : ∀ smaller, 2 ≤ smaller → smaller < number → numbered base smaller ∈ used

/-- There is only one least free number. -/
theorem LeastFree.unique {used : List String} {base : String} {first second : Nat}
    (isFirst : LeastFree used base first) (isSecond : LeastFree used base second) :
    first = second := by
  rcases Nat.lt_trichotomy first second with less | same | greater
  · exact absurd (isSecond.least first isFirst.counted less) isFirst.free
  · exact same
  · exact absurd (isFirst.least second isSecond.counted greater) isSecond.free

/-- A base that is free is handed out as it is. -/
theorem freshName_of_notMem {used : List String} {base : String} (free : base ∉ used) :
    freshName used base = base := by
  rw [freshName, if_neg (by simpa using free)]

/-- A base that is taken is handed out with the least free number. -/
theorem freshName_of_mem {used : List String} {base : String} (taken : base ∈ used) :
    ∃ number, freshName used base = numbered base number ∧ LeastFree used base number := by
  rw [freshName, if_pos (by simpa using taken)]
  dsimp only
  rw [List.find?_map]
  have distinct : ((List.range (used.length + 1)).map fun n => numbered base (n + 2)).Nodup := by
    refine List.Nodup.map ?_ List.nodup_range
    intro first second same
    exact Nat.add_right_cancel (numbered_injective base same)
  have more : used.length < ((List.range (used.length + 1)).map fun n =>
      numbered base (n + 2)).length := by simp
  obtain ⟨free, isCandidate, isFree⟩ := exists_candidate_notMem distinct more
  cases found : (List.range (used.length + 1)).find?
      ((fun candidate => !used.contains candidate) ∘ fun n => numbered base (n + 2)) with
  | none =>
      obtain ⟨n, inRange, rfl⟩ := List.mem_map.1 isCandidate
      have taken := List.find?_eq_none.1 found n inRange
      simp [isFree] at taken
  | some n =>
      obtain ⟨free, -, before⟩ := List.find?_range_eq_some.1 found
      refine ⟨n + 2, rfl, Nat.le_add_left 2 n, by simpa using free, ?_⟩
      intro smaller counted less
      obtain ⟨k, rfl⟩ := Nat.exists_eq_add_of_le' counted
      simpa using before k (Nat.lt_of_add_lt_add_right less)

/-- The name that is handed out was not handed out before. -/
theorem freshName_notMem (used : List String) (base : String) : freshName used base ∉ used := by
  by_cases taken : base ∈ used
  · obtain ⟨number, isNumbered, leastFree⟩ := freshName_of_mem taken
    rw [isNumbered]
    exact leastFree.free
  · rw [freshName_of_notMem taken]
    exact taken

/-- A name that is handed out in a scope was not there before. -/
theorem claimNames_notMem {used bases : List String} {name : String}
    (claimed : name ∈ claimNames used bases) : name ∉ used := by
  induction bases generalizing used with
  | nil => cases claimed
  | cons base bases inductionHypothesis =>
      rcases List.mem_cons.1 claimed with rfl | later
      · exact freshName_notMem used base
      · intro taken
        exact inductionHypothesis later (List.mem_cons_of_mem _ taken)

/-- Names that are handed out in a scope are different from each other. -/
theorem nodup_claimNames (used bases : List String) : (claimNames used bases).Nodup := by
  induction bases generalizing used with
  | nil => exact List.nodup_nil
  | cons base bases inductionHypothesis =>
      refine List.nodup_cons.2 ⟨fun again => ?_, inductionHypothesis _⟩
      exact claimNames_notMem again List.mem_cons_self

/-! ## Bases and other names in use -/

/-- A name is a base, or a base with a number behind it. -/
def StemsFrom (base name : String) : Prop :=
  name = base ∨ ∃ number, name = numbered base number

/-- Every name that is handed out stems from its base. -/
theorem forall₂_claimNames (used bases : List String) :
    List.Forall₂ StemsFrom bases (claimNames used bases) := by
  induction bases generalizing used with
  | nil => exact .nil
  | cons base bases inductionHypothesis =>
      refine .cons ?_ (inductionHypothesis _)
      by_cases taken : base ∈ used
      · obtain ⟨number, isNumbered, -⟩ := freshName_of_mem taken
        exact .inr ⟨number, isNumbered⟩
      · exact .inl (freshName_of_notMem taken)

/-- Every claimed name stems from one of the bases. -/
theorem exists_base_of_mem_claimNames {used bases : List String} {name : String}
    (claimed : name ∈ claimNames used bases) : ∃ base ∈ bases, StemsFrom base name := by
  obtain ⟨base, paired, stems⟩ := exists_zip_of_mem_right (forall₂_claimNames used bases) claimed
  exact ⟨base, (List.of_mem_zip paired).1, stems⟩

/-- A base is handed out itself, unless it was in use before. -/
theorem mem_claimNames_of_mem {used bases : List String} {base : String} (member : base ∈ bases)
    (free : base ∉ used) : base ∈ claimNames used bases := by
  induction bases generalizing used with
  | nil => cases member
  | cons first bases inductionHypothesis =>
      rw [claimNames]
      by_cases same : base = freshName used first
      · exact same ▸ List.mem_cons_self
      · rcases List.mem_cons.1 member with rfl | later
        · exact absurd (freshName_of_notMem free).symm same
        · exact List.mem_cons_of_mem _ (inductionHypothesis later (by simp [same, free]))

/-- A name that cannot be the numbered form of another is handed out exactly if it is a base. -/
theorem mem_claimNames_iff {bases : List String} {name : String} (plain : '_' ∉ name.toList) :
    name ∈ claimNames [] bases ↔ name ∈ bases := by
  constructor
  · intro claimed
    obtain ⟨base, member, rfl | ⟨number, rfl⟩⟩ := exists_base_of_mem_claimNames claimed
    · exact member
    · exact absurd (by simp [numbered]) plain
  · intro member
    exact mem_claimNames_of_mem member List.not_mem_nil

/-- More names in use change nothing if the name that was handed out is none of them. -/
theorem freshName_append {used others : List String} {base : String}
    (apart : freshName used base ∉ others) :
    freshName (used ++ others) base = freshName used base := by
  by_cases taken : base ∈ used
  · obtain ⟨number, isNumbered, leastFree⟩ := freshName_of_mem taken
    obtain ⟨other, isOther, otherLeast⟩ := freshName_of_mem (List.mem_append_left others taken)
    rw [isNumbered] at apart
    have stillLeast : LeastFree (used ++ others) base number :=
      ⟨leastFree.counted, by simp [leastFree.free, apart],
        fun smaller counted less => List.mem_append_left _ (leastFree.least smaller counted less)⟩
    rw [isNumbered, isOther, otherLeast.unique stillLeast]
  · rw [freshName_of_notMem taken] at apart ⊢
    exact freshName_of_notMem (by simp [taken, apart])

/-- Names in use that no claim comes across do not matter. -/
theorem claimNames_append {used others bases : List String}
    (apart : ∀ name ∈ claimNames used bases, name ∉ others) :
    claimNames (used ++ others) bases = claimNames used bases := by
  induction bases generalizing used with
  | nil => rfl
  | cons base bases inductionHypothesis =>
      have first := freshName_append (apart _ List.mem_cons_self)
      have rest := inductionHypothesis fun name claimed =>
        apart name (List.mem_cons_of_mem _ claimed)
      rw [claimNames, first, claimNames, ← List.cons_append, rest]

/-- Names in use beforehand leave what is handed out as it is exactly if none of them would be. -/
theorem claimNames_eq_iff {others bases : List String} :
    claimNames others bases = claimNames [] bases ↔
      ∀ name ∈ claimNames [] bases, name ∉ others := by
  constructor
  · intro same name claimed
    exact claimNames_notMem (same ▸ claimed)
  · exact fun apart => claimNames_append apart

/-! ## Items with names -/

/-- Items that were given names, of which only the names are looked at. -/
theorem map_zipWith_names {Item Named : Type} {give : String → Item → Named}
    {nameOf : Named → String} (given : ∀ name item, nameOf (give name item) = name)
    {names : List String} {items : List Item} (named : names.length = items.length) :
    (List.zipWith give names items).map nameOf = names := by
  rw [List.map_zipWith]
  simp only [given]
  calc List.zipWith (fun name (_ : Item) => name) names items
    _ = (names.zip items).map Prod.fst := by rw [List.zip, List.map_zipWith]
    _ = names := List.map_fst_zip (Nat.le_of_eq named)

end Schemata.Access
