import Schemata.Proofs.Layout.Mirror
import Schemata.Proofs.Layout.Unplaced

/-!
# Trees do not depend on places

Tokens are read as a tree by looking at what they say. So reading tokens without their places
mirrors reading them where they stand: both are refused, or the second tree is the first without its
places. The length of a path is the only thing that is computed from places, and it is one of the
things that are left out.
-/

namespace Schemata.Node

/-- Something that was read and the tokens after it, without places. -/
abbrev unplacedRest {α β : Type} (image : α → β) : α × List Token → β × List Token :=
  Prod.map image (List.map Token.unplaced)

/-- Names are read alike. -/
theorem readName_mirrors (stop : Position) (tokens : List Token) :
    Mirrors (unplacedRest Name.unplaced) (readName stop tokens)
      (readName .start (tokens.map Token.unplaced)) := by
  cases tokens with
  | nil => exact .error _ _
  | cons token rest =>
      obtain ⟨lexeme, position, size⟩ := token
      cases lexeme with
      | ident name => exact .ok (Name.mk name position, rest)
      | _ => exact .error _ _

/-- The segments of a path are read alike; how far they reach is not kept. -/
theorem readSegments_mirrors (stop : Position) (reached : Nat) (tokens : List Token) :
    Mirrors (fun result => (result.1, 0, result.2.2.map Token.unplaced))
      (readSegments stop reached tokens) (readSegments .start 0 (tokens.map Token.unplaced)) := by
  rcases tokens with _ | ⟨⟨lexeme, position, size⟩, rest⟩
  · exact .ok ([], reached, [])
  · cases lexeme with
    | dot =>
        rcases rest with _ | ⟨⟨lexeme, position, size⟩, rest⟩
        · exact .error _ _
        · cases lexeme with
          | ident name =>
              refine (readSegments_mirrors stop (position.offset + size) rest).bind ?_
              rintro ⟨segments, reached, rest⟩
              exact .ok (name :: segments, reached, rest)
          | _ => exact .error _ _
    | _ => exact .ok ([], reached, _ :: rest)
termination_by tokens.length

/-- A value is read alike, if there is one. -/
theorem readValue_mirrors (stop : Position) (tokens : List Token) :
    Mirrors (unplacedRest (Option.map Leaf.unplaced)) (readValue stop tokens)
      (readValue .start (tokens.map Token.unplaced)) := by
  cases tokens with
  | nil => exact .ok (none, [])
  | cons token rest =>
      obtain ⟨lexeme, position, size⟩ := token
      cases lexeme with
      | ident name =>
          refine (readSegments_mirrors stop _ rest).bind ?_
          rintro ⟨segments, reached, rest⟩
          exact .ok (some (Leaf.mk (wordAtom name segments) position _), rest)
      | integer value => exact .ok (some (Leaf.mk (.integer value) position size), rest)
      | text content => exact .ok (some (Leaf.mk (.text content) position size), rest)
      | question => exact .ok (some (Leaf.mk .placeholder position size), rest)
      | comparison op => exact .ok (some (Leaf.mk (.comparison op) position size), rest)
      | _ => exact .ok (none, _ :: rest)

/-- Values are read alike. -/
theorem readValues_mirrors (stop : Position) (bound : Nat) (tokens : List Token) :
    Mirrors (unplacedRest (List.map Leaf.unplaced)) (readValues stop bound tokens)
      (readValues .start bound (tokens.map Token.unplaced)) := by
  induction bound generalizing tokens with
  | zero => exact .ok ([], tokens)
  | succ bound inductionHypothesis =>
      refine (readValue_mirrors stop tokens).bind ?_
      rintro ⟨value, rest⟩
      cases value with
      | none => exact .ok ([], rest)
      | some leaf =>
          refine (inductionHypothesis rest).bind ?_
          rintro ⟨leaves, rest⟩
          exact .ok (leaf :: leaves, rest)

/-- The same separators are passed over. -/
theorem skipSeparators_unplaced (tokens : List Token) :
    skipSeparators (tokens.map Token.unplaced) = (skipSeparators tokens).map Token.unplaced :=
  List.dropWhile_map

/-- Whether a group opens is seen without places. -/
theorem opensGroup_unplaced (tokens : List Token) :
    opensGroup (tokens.map Token.unplaced) = opensGroup tokens := by
  cases tokens with
  | nil => rfl
  | cons token rest =>
      obtain ⟨lexeme, position, size⟩ := token
      cases lexeme <;> rfl

/-- Whether a group closes is seen without places. -/
theorem closesGroup_unplaced (tokens : List Token) :
    closesGroup (tokens.map Token.unplaced) = closesGroup tokens := by
  cases tokens with
  | nil => rfl
  | cons token rest =>
      obtain ⟨lexeme, position, size⟩ := token
      cases lexeme <;> rfl

/-- Separators that are needed are found or missed alike. -/
theorem readSeparators_mirrors (stop : Position) (expected : List String) (tokens : List Token) :
    Mirrors (List.map Token.unplaced) (readSeparators stop expected tokens)
      (readSeparators .start expected (tokens.map Token.unplaced)) := by
  cases tokens with
  | nil => exact .error _ _
  | cons token rest =>
      rw [List.map_cons, readSeparators, readSeparators, skipSeparators_unplaced]
      exact .ite Iff.rfl (fun _ => .ok (skipSeparators rest)) fun _ => .error _ _

/-! ## Entries -/

/-- With some bound on the nesting, entries, groups and items are read alike. -/
structure ReadsAlike (stop : Position) (bound : Nat) : Prop where
  entry : ∀ tokens, Mirrors (unplacedRest unplaced) (readEntry stop bound tokens)
    (readEntry .start bound (tokens.map Token.unplaced))
  groups : ∀ tokens, Mirrors (unplacedRest (List.map unplaced)) (readGroups stop bound tokens)
    (readGroups .start bound (tokens.map Token.unplaced))
  items : ∀ tokens, Mirrors (unplacedRest (List.map unplaced)) (readItems stop bound tokens)
    (readItems .start bound (tokens.map Token.unplaced))

variable {stop : Position} {bound : Nat}

/-- An entry is read alike if its groups are. -/
theorem ReadsAlike.entry_succ (alike : ReadsAlike stop bound) (tokens : List Token) :
    Mirrors (unplacedRest unplaced) (readEntry stop (bound + 1) tokens)
      (readEntry .start (bound + 1) (tokens.map Token.unplaced)) := by
  rw [readEntry, readEntry]
  refine (readName_mirrors stop tokens).bind ?_
  rintro ⟨keyword, rest⟩
  have values := readValues_mirrors stop rest.length rest
  dsimp only [unplacedRest, Prod.map]
  rw [List.length_map]
  refine values.bind ?_
  rintro ⟨arguments, rest⟩
  refine .ite ?_ (fun _ => .ok (flag keyword, rest)) fun _ => ?_
  · dsimp only [unplacedRest, Prod.map]
    rw [opensGroup_unplaced, List.isEmpty_map]
  · refine (alike.groups rest).bind ?_
    rintro ⟨children, rest⟩
    dsimp only [unplacedRest, Prod.map]
    rw [← unplacedAll_eq_map]
    exact .ok (tuple keyword arguments children, rest)

/-- Groups are read alike if their items are. -/
theorem ReadsAlike.groups_succ (alike : ReadsAlike stop bound) (tokens : List Token) :
    Mirrors (unplacedRest (List.map unplaced)) (readGroups stop (bound + 1) tokens)
      (readGroups .start (bound + 1) (tokens.map Token.unplaced)) := by
  rw [readGroups, readGroups, opensGroup_unplaced, ← List.map_tail, skipSeparators_unplaced]
  split
  · refine (alike.items _).bind ?_
    rintro ⟨first, rest⟩
    refine (alike.groups rest).bind ?_
    rintro ⟨others, rest⟩
    dsimp only [unplacedRest, Prod.map]
    rw [← List.map_append]
    exact .ok (first ++ others, rest)
  · exact .ok ([], tokens)

/-- The items of a group are read alike if their entries are. -/
theorem ReadsAlike.items_succ (alike : ReadsAlike stop bound) (tokens : List Token) :
    Mirrors (unplacedRest (List.map unplaced)) (readItems stop (bound + 1) tokens)
      (readItems .start (bound + 1) (tokens.map Token.unplaced)) := by
  rw [readItems, readItems, closesGroup_unplaced, ← List.map_tail]
  split
  · exact .ok ([], tokens.tail)
  · refine (alike.entry tokens).bind ?_
    rintro ⟨entry, rest⟩
    refine .ite ?_ (fun _ => ?_) fun _ => ?_
    · rw [closesGroup_unplaced]
    · rw [← List.map_tail]
      exact .ok ([entry], rest.tail)
    · refine (readSeparators_mirrors stop _ rest).bind fun rest => ?_
      refine (alike.items rest).bind ?_
      rintro ⟨entries, rest⟩
      exact .ok (entry :: entries, rest)

/-- Entries, groups and items are read alike, whatever the bound on the nesting is. -/
theorem readsAlike (stop : Position) (bound : Nat) : ReadsAlike stop bound := by
  induction bound with
  | zero =>
      refine ⟨fun tokens => ?_, fun tokens => ?_, fun tokens => ?_⟩
      · rw [readEntry, readEntry]
        exact .error _ _
      · rw [readGroups, readGroups]
        exact .error _ _
      · rw [readItems, readItems]
        exact .error _ _
  | succ bound alike => exact ⟨alike.entry_succ, alike.groups_succ, alike.items_succ⟩

/-! ## Files -/

/-- Statements are read alike. -/
theorem readStatements_mirrors (stop : Position) (bound : Nat) (tokens : List Token) :
    Mirrors (List.map unplaced) (readStatements stop bound tokens)
      (readStatements .start bound (tokens.map Token.unplaced)) := by
  induction bound generalizing tokens with
  | zero => exact .error _ _
  | succ bound inductionHypothesis =>
      rw [readStatements, readStatements, List.isEmpty_map]
      split
      · exact .ok []
      · refine ((readsAlike stop bound).entry tokens).bind ?_
        rintro ⟨entry, rest⟩
        dsimp only [unplacedRest, Prod.map]
        rw [asStatement_unplaced]
        refine .ite ?_ (fun _ => .ok [entry.asStatement]) fun _ => ?_
        · rw [List.isEmpty_map]
        · refine (readSeparators_mirrors stop _ rest).bind fun rest => ?_
          exact (inductionHypothesis rest).bind fun entries => .ok (entry.asStatement :: entries)

/-- Tokens are read as the same tree without their places. -/
theorem read_mirrors (list : TokenList) :
    Mirrors (List.map unplaced) (read list) (read list.unplaced) := by
  have statements := readStatements_mirrors list.stop (2 * list.tokens.length + 3)
    (skipSeparators list.tokens)
  rw [← skipSeparators_unplaced] at statements
  rwa [read, read, TokenList.unplaced, List.length_map]

end Schemata.Node
