import Schemata.Proofs.Grammar.Soundness
import Schemata.Proofs.Source.Tiling

/-!
# Where trees stand in their source

Every word of a tree stands in the source where the tree says, a path stands there with blanks
around its dots, and whatever is refused is refused at a place of the source. `Within` carries this
through the steps of a reader: it speaks of what is accepted and of what is refused at once.
-/

namespace Schemata

open Lexeme

/-! ## Outcomes of reading a source -/

/-- All places that an error mentions are places of the source. -/
def ReadError.PlacedIn (source : String) : ReadError → Prop
  | .unreadable problem => IsPlace source problem.position
  | .expected position _ _ => IsPlace source position
  | .redefined position _ _ previous => IsPlace source position ∧ IsPlace source previous
  | .invalid position _ => IsPlace source position

/-- What is accepted has a property, and what is refused is refused at places of the source. -/
def Within {α : Type} (source : String) (accepts : α → Prop) : Except ReadError α → Prop
  | .ok value => accepts value
  | .error error => error.PlacedIn source

namespace Within

variable {α β : Type} {source : String} {accepts : α → Prop} {outcome : Except ReadError α}

/-- A value that is read is accepted. -/
theorem of_ok {value : α} (within : Within source accepts outcome)
    (accepted : outcome = .ok value) : accepts value := by
  rw [accepted] at within
  exact within

/-- An error that is reported is placed in the source. -/
theorem of_error {error : ReadError} (within : Within source accepts outcome)
    (refused : outcome = .error error) : error.PlacedIn source := by
  rw [refused] at within
  exact within

/-- The second of two steps may rely on what the first one accepts. -/
theorem bind {next : α → Except ReadError β} {after : β → Prop}
    (within : Within source accepts outcome)
    (continues : ∀ value, accepts value → Within source after (next value)) :
    Within source after (outcome >>= next) := by
  cases outcome with
  | error error => exact within
  | ok value => exact continues value within

/-- Values that are read one after another are accepted if each is. -/
theorem mapM {step : β → Except ReadError α} {items : List β}
    (steps : ∀ item ∈ items, Within source accepts (step item)) :
    Within source (fun values => ∀ value ∈ values, accepts value) (items.mapM step) := by
  induction items with
  | nil => exact List.forall_mem_nil _
  | cons item items inductionHypothesis =>
      rw [List.forall_mem_cons] at steps
      rw [List.mapM_cons]
      refine steps.1.bind fun first accepted => ?_
      refine (inductionHypothesis steps.2).bind fun others allAccepted => ?_
      exact List.forall_mem_cons.2 ⟨accepted, allAccepted⟩

/-- A state that every step keeps accepted is accepted at the end. -/
theorem foldlM {step : α → β → Except ReadError α} {items : List β} {start : α}
    (holds : accepts start)
    (keeps : ∀ item ∈ items, ∀ state, accepts state → Within source accepts (step state item)) :
    Within source accepts (items.foldlM step start) := by
  induction items generalizing start with
  | nil => exact holds
  | cons item items inductionHypothesis =>
      rw [List.forall_mem_cons] at keeps
      rw [List.foldlM_cons]
      exact (keeps.1 start holds).bind fun next nextHolds => inductionHypothesis nextHolds keeps.2

end Within

/-! ## Words and values -/

/-- A name stands in the source where it says. -/
def Name.StandsIn (source : String) (name : Name) : Prop :=
  StandsAt source name.position name.text.toList

/-- A path of two segments or more begins at a place, with blanks around its first dot. -/
structure PathStandsAt (source : String) (position : Position) (model field : String) : Prop where
  modelWord : IsWord model
  fieldWord : IsWord field
  text : ∃ before after, (∀ c ∈ before, isBlank c = true) ∧ (∀ c ∈ after, isBlank c = true) ∧
    StandsAt source position (spacedPath model field before after)

/-- A value stands in the source: words and paths with their texts, others somewhere in it. -/
def Leaf.StandsIn (source : String) (leaf : Leaf) : Prop :=
  match leaf.atom with
  | .ident name => StandsAt source leaf.position name.toList
  | .path model field _ => PathStandsAt source leaf.position model field
  | _ => IsPlace source leaf.position

/-- A path stands at a place of the source. -/
theorem PathStandsAt.isPlace {source model field : String} {position : Position}
    (stands : PathStandsAt source position model field) : IsPlace source position := by
  obtain ⟨before, after, -, -, text⟩ := stands.text
  exact text.isPlace

/-- A value of the source is at a place of it. -/
theorem Leaf.StandsIn.isPlace {source : String} {leaf : Leaf} (stands : leaf.StandsIn source) :
    IsPlace source leaf.position := by
  unfold StandsIn at stands
  split at stands
  · exact StandsAt.isPlace stands
  · exact PathStandsAt.isPlace stands
  · exact stands

/-- Every word and value of a tree stands in the source. -/
inductive Node.StandsIn (source : String) : Node → Prop where
  | flag {keyword : Name} (named : keyword.StandsIn source) : StandsIn source (.flag keyword)
  | tuple {keyword : Name} {arguments : List Leaf} {children : List Node}
      (named : keyword.StandsIn source) (values : ∀ leaf ∈ arguments, leaf.StandsIn source)
      (entries : ∀ child ∈ children, child.StandsIn source) :
      StandsIn source (.tuple keyword arguments children)

namespace Node

variable {source : String} {stop : Position} {tokens : List Token} {node : Node}

/-- The keyword of an entry stands in the source with it. -/
theorem StandsIn.keyword (stands : node.StandsIn source) : node.keyword.StandsIn source := by
  cases stands with
  | flag named => exact named
  | tuple named values entries => exact named

/-- The values of an entry stand in the source with it. -/
theorem StandsIn.arguments (stands : node.StandsIn source) :
    ∀ leaf ∈ node.arguments, leaf.StandsIn source := by
  cases stands with
  | flag named => exact List.forall_mem_nil _
  | tuple named values entries => exact values

/-- The entries in an entry stand in the source with it. -/
theorem StandsIn.children (stands : node.StandsIn source) :
    ∀ child ∈ node.children, child.StandsIn source := by
  cases stands with
  | flag named => exact List.forall_mem_nil _
  | tuple named values entries => exact entries

/-- An entry of the source is at a place of it. -/
theorem StandsIn.isPlace (stands : node.StandsIn source) : IsPlace source node.position :=
  stands.keyword.isPlace

/-! ## Reading trees -/

/-- Something with a property was read, and the tokens behind it are left. -/
def Leaves {α : Type} (source : String) (stop : Position) (reads : α → Prop)
    (outcome : α × List Token) : Prop :=
  reads outcome.1 ∧ Remain source outcome.2 stop

/-- What is not expected is refused at the next token, or at the end of the source. -/
theorem refuse_placedIn (remain : Remain source tokens stop) (expected : List String) :
    (refuse stop tokens expected).PlacedIn source := by
  cases tokens with
  | nil => exact remain.isPlace_stop
  | cons token rest => exact remain.isPlace

/-- A name that is read stands in the source, and the tokens behind it are left. -/
theorem readName_within (remain : Remain source tokens stop) :
    Within source (Leaves source stop (Name.StandsIn source)) (readName stop tokens) := by
  unfold readName
  split
  · exact ⟨(remain.standsAt_word rfl).1, remain.tail⟩
  · exact refuse_placedIn remain _

/-- Segments are read behind a dot. -/
theorem readSegments_within {reached : Nat} (remain : Remain source tokens stop) :
    Within source (fun (read : List String × Nat × List Token) =>
      (∀ segment ∈ read.1.head?, ∃ dot word others, tokens = dot :: word :: others ∧
        dot.lexeme = .dot ∧ word.lexeme = .ident segment) ∧ Remain source read.2.2 stop)
      (readSegments stop reached tokens) := by
  fun_induction readSegments stop reached tokens with
  | case1 reached dotPosition dotSize name position size rest inductionHypothesis =>
      refine (inductionHypothesis remain.tail.tail).bind fun read others => ⟨?_, others.2⟩
      intro segment isFirst
      obtain rfl := Option.some.inj isFirst
      exact ⟨_, _, rest, rfl, rfl, rfl⟩
  | case2 => exact refuse_placedIn remain.tail _
  | case3 => exact ⟨by simp, remain⟩

/-- A word stands where its token does, and a path where its first token does. -/
theorem wordAtom_standsIn {name : String} {position : Position} {size length : Nat}
    {rest : List Token} {segments : List String}
    (remain : Remain source (⟨.ident name, position, size⟩ :: rest) stop)
    (dotted : ∀ segment ∈ segments.head?, ∃ dot word others, rest = dot :: word :: others ∧
      dot.lexeme = .dot ∧ word.lexeme = .ident segment) :
    (Leaf.mk (wordAtom name segments) position length).StandsIn source := by
  cases segments with
  | nil => exact (remain.standsAt_word rfl).1
  | cons segment more =>
      obtain ⟨dot, word, others, rfl, isDot, isWord⟩ := dotted segment rfl
      exact ⟨(remain.standsAt_word rfl).2, (remain.tail.tail.standsAt_word isWord).2,
        remain.standsAt_path rfl isDot isWord⟩

/-- A value that is read stands in the source, and the tokens behind it are left. -/
theorem readValue_within (remain : Remain source tokens stop) :
    Within source (Leaves source stop fun value => ∀ leaf ∈ value, leaf.StandsIn source)
      (readValue stop tokens) := by
  cases tokens with
  | nil => exact ⟨by simp, remain⟩
  | cons token rest =>
      obtain ⟨lexeme, position, size⟩ := token
      cases lexeme with
      | ident name =>
          refine (readSegments_within remain.tail).bind fun read behind => ⟨?_, behind.2⟩
          intro leaf isLeaf
          obtain rfl := Option.some.inj isLeaf
          exact wordAtom_standsIn remain behind.1
      | integer | text | question | comparison =>
          refine ⟨?_, remain.tail⟩
          intro leaf isLeaf
          obtain rfl := Option.some.inj isLeaf
          exact remain.isPlace
      | _ => exact ⟨by simp, remain⟩

/-- Values that are read stand in the source, and the tokens behind them are left. -/
theorem readValues_within {bound : Nat} (remain : Remain source tokens stop) :
    Within source (Leaves source stop fun leaves => ∀ leaf ∈ leaves, leaf.StandsIn source)
      (readValues stop bound tokens) := by
  induction bound generalizing tokens with
  | zero => exact ⟨List.forall_mem_nil _, remain⟩
  | succ bound inductionHypothesis =>
      refine (readValue_within remain).bind fun read first => ?_
      obtain ⟨value, rest⟩ := read
      cases value with
      | none => exact ⟨List.forall_mem_nil _, first.2⟩
      | some leaf =>
          refine (inductionHypothesis first.2).bind fun others more => ⟨?_, more.2⟩
          exact List.forall_mem_cons.2 ⟨first.1 leaf rfl, more.1⟩

/-- Tokens of the source are left behind separators. -/
theorem remain_skipSeparators (remain : Remain source tokens stop) :
    Remain source (skipSeparators tokens) stop := by
  obtain ⟨separators, -, split⟩ := Grammar.exists_separators tokens
  rw [split] at remain
  exact remain.of_append

/-- Tokens of the source are left behind separators that have to be there. -/
theorem readSeparators_within {expected : List String} (remain : Remain source tokens stop) :
    Within source (fun rest => Remain source rest stop) (readSeparators stop expected tokens) := by
  unfold readSeparators
  split
  · split
    · exact remain_skipSeparators remain.tail
    · exact refuse_placedIn remain expected
  · exact refuse_placedIn remain expected

/-- Tokens of the source are left behind the first of them. -/
theorem remain_tail (remain : Remain source tokens stop) : Remain source tokens.tail stop := by
  cases tokens with
  | nil => exact remain
  | cons token rest => exact remain.tail

/-- What entries and groups of a source are read as, with the tokens behind them. -/
structure ReadsWithin (source : String) (stop : Position) (bound : Nat) : Prop where
  entry {tokens : List Token} : Remain source tokens stop →
    Within source (Leaves source stop (Node.StandsIn source)) (readEntry stop bound tokens)
  groups {tokens : List Token} : Remain source tokens stop →
    Within source (Leaves source stop fun nodes => ∀ node ∈ nodes, node.StandsIn source)
      (readGroups stop bound tokens)
  items {tokens : List Token} : Remain source tokens stop →
    Within source (Leaves source stop fun nodes => ∀ node ∈ nodes, node.StandsIn source)
      (readItems stop bound tokens)

/-- An entry that is read stands in the source, if what is in it does. -/
theorem readEntry_within {bound : Nat} (within : ReadsWithin source stop bound)
    (remain : Remain source tokens stop) :
    Within source (Leaves source stop (Node.StandsIn source))
      (readEntry stop (bound + 1) tokens) := by
  rw [readEntry]
  refine (readName_within remain).bind fun name named => ?_
  refine (readValues_within named.2).bind fun values valued => ?_
  dsimp only
  split
  · exact ⟨.flag named.1, valued.2⟩
  · exact (within.groups valued.2).bind fun groups entries =>
      ⟨.tuple named.1 valued.1 entries.1, entries.2⟩

/-- Groups that are read stand in the source, if what is in them does. -/
theorem readGroups_within {bound : Nat} (within : ReadsWithin source stop bound)
    (remain : Remain source tokens stop) :
    Within source (Leaves source stop fun nodes => ∀ node ∈ nodes, node.StandsIn source)
      (readGroups stop (bound + 1) tokens) := by
  rw [readGroups]
  split
  · refine (within.items (remain_skipSeparators (remain_tail remain))).bind fun first entries => ?_
    refine (within.groups entries.2).bind fun others more => ⟨?_, more.2⟩
    exact List.forall_mem_append.2 ⟨entries.1, more.1⟩
  · exact ⟨List.forall_mem_nil _, remain⟩

/-- Items that are read stand in the source, if each of them does. -/
theorem readItems_within {bound : Nat} (within : ReadsWithin source stop bound)
    (remain : Remain source tokens stop) :
    Within source (Leaves source stop fun nodes => ∀ node ∈ nodes, node.StandsIn source)
      (readItems stop (bound + 1) tokens) := by
  rw [readItems]
  split
  · exact ⟨List.forall_mem_nil _, remain_tail remain⟩
  · refine (within.entry remain).bind fun first entered => ?_
    dsimp only
    split
    · exact ⟨List.forall_mem_singleton.2 entered.1, remain_tail entered.2⟩
    · refine (readSeparators_within entered.2).bind fun rest separated => ?_
      refine (within.items separated).bind fun others more => ⟨?_, more.2⟩
      exact List.forall_mem_cons.2 ⟨entered.1, more.1⟩

/-- Whatever the bound, trees are read where they stand. -/
theorem readsWithin (source : String) (stop : Position) (bound : Nat) :
    ReadsWithin source stop bound := by
  induction bound with
  | zero =>
      constructor
      · intro tokens remain
        exact refuse_placedIn remain []
      · intro tokens remain
        exact refuse_placedIn remain []
      · intro tokens remain
        exact refuse_placedIn remain []
  | succ bound inductionHypothesis =>
      constructor
      · exact readEntry_within inductionHypothesis
      · exact readGroups_within inductionHypothesis
      · exact readItems_within inductionHypothesis

/-- An entry that is taken for a statement stays where it is. -/
theorem StandsIn.asStatement (stands : node.StandsIn source) : node.asStatement.StandsIn source :=
  .tuple stands.keyword stands.arguments stands.children

/-- Statements that are read stand in the source. -/
theorem readStatements_within {bound : Nat} (remain : Remain source tokens stop) :
    Within source (fun nodes => ∀ node ∈ nodes, node.StandsIn source)
      (readStatements stop bound tokens) := by
  induction bound generalizing tokens with
  | zero => exact refuse_placedIn remain []
  | succ bound inductionHypothesis =>
      rw [readStatements]
      split
      · exact List.forall_mem_nil _
      · refine ((readsWithin source stop bound).entry remain).bind fun first entered => ?_
        dsimp only
        split
        · exact List.forall_mem_singleton.2 entered.1.asStatement
        · refine (readSeparators_within entered.2).bind fun rest separated => ?_
          refine (inductionHypothesis separated).bind fun others more => ?_
          exact List.forall_mem_cons.2 ⟨entered.1.asStatement, more⟩

/-- The statements of a source stand in it. -/
theorem parse_within (source : String) :
    Within source (fun nodes => ∀ node ∈ nodes, node.StandsIn source) (parse source) := by
  unfold parse
  split
  · next problem refused => exact isPlace_of_tokenize refused
  · next list tokenized =>
    exact readStatements_within (remain_skipSeparators (remain_of_tokenize tokenized))

end Node

end Schemata
