import Schemata.Proofs.Grammar.Completeness
import Schemata.Proofs.Outcome

/-!
# Everything read is derived

What a reader accepts is a prefix of its tokens that the grammar derives, and the reader gives
back the derivation's reading and the tokens behind it. With the converse, the readers accept
exactly the grammar. The bound that the readers of entries and groups count down does not decide
anything: from about twice the number of tokens on, a larger one gives the same outcome, be it a
tree or a refusal (`Settled`).
-/

namespace Schemata.Grammar

open Node

/-! ## Separators and values -/

/-- What is passed over are separators. -/
theorem exists_separators (tokens : List Token) :
    ∃ separators, Separators separators ∧ tokens = separators ++ skipSeparators tokens := by
  induction tokens with
  | nil => exact ⟨[], .nil, rfl⟩
  | cons token rest inductionHypothesis =>
      cases isSeparator : token.lexeme.isSeparator with
      | false => exact ⟨[], .nil, (skipSeparators_cons isSeparator).symm⟩
      | true =>
          obtain ⟨separators, separate, split⟩ := inductionHypothesis
          refine ⟨token :: separators, .cons isSeparator separate, ?_⟩
          have skipped : skipSeparators (token :: rest) = skipSeparators rest := by
            simp [skipSeparators, isSeparator]
          rw [skipped, List.cons_append, ← split]

/-- What is read as separators is at least one. -/
theorem readSeparators_sound {stop : Position} {expected : List String} {tokens rest : List Token}
    (accepted : readSeparators stop expected tokens = .ok rest) :
    ∃ separators, separators ≠ [] ∧ Separators separators ∧ tokens = separators ++ rest := by
  cases tokens with
  | nil => cases accepted
  | cons token others =>
      cases isSeparator : token.lexeme.isSeparator with
      | false => simp [readSeparators, isSeparator] at accepted
      | true =>
          simp only [readSeparators, isSeparator, if_true, Except.ok.injEq] at accepted
          obtain ⟨separators, separate, split⟩ := exists_separators others
          refine ⟨token :: separators, List.cons_ne_nil _ _, .cons isSeparator separate, ?_⟩
          rw [← accepted, List.cons_append, ← split]

/-- What is read as the segments of a path is derived so. -/
theorem readSegments_sound {stop : Position} {first : Token} {tokens rest : List Token}
    {names : List String} {reached : Nat}
    (accepted : readSegments stop first.stop tokens = .ok (names, reached, rest)) :
    ∃ used last, tokens = used ++ rest ∧ Segments first used names last ∧ reached = last.stop := by
  generalize started : first.stop = start at accepted
  fun_induction readSegments stop start tokens generalizing first names with
  | case1 start dotPosition dotSize name position size others inductionHypothesis =>
      obtain ⟨⟨further, reached, rest⟩, readsOthers, equal⟩ := of_bind_eq_ok accepted
      cases equal
      obtain ⟨used, last, rfl, segments, rfl⟩ :=
        @inductionHypothesis ⟨.ident name, position, size⟩ further rfl readsOthers
      exact ⟨_ :: _ :: used, last, rfl, .cons rfl rfl segments, rfl⟩
  | case2 => cases accepted
  | case3 start tokens =>
      cases accepted
      exact ⟨[], first, rfl, .nil, started.symm⟩

/-- What is read as a value is derived as that value. -/
theorem readValue_sound {stop : Position} {tokens rest : List Token} {leaf : Leaf}
    (accepted : readValue stop tokens = .ok (some leaf, rest)) :
    ∃ used, tokens = used ++ rest ∧ Value used leaf := by
  cases tokens with
  | nil => cases accepted
  | cons token others =>
      obtain ⟨lexeme, position, size⟩ := token
      cases lexeme with
      | ident name =>
          obtain ⟨⟨names, reached, behind⟩, readsNames, equal⟩ := of_bind_eq_ok accepted
          cases equal
          obtain ⟨used, last, rfl, segments, rfl⟩ := readSegments_sound readsNames
          refine ⟨⟨.ident name, position, size⟩ :: used, rfl, ?_⟩
          cases segments with
          | nil =>
              rw [Token.stop, Nat.add_sub_cancel_left]
              exact .ident rfl
          | cons isDot isWord further => exact .path rfl isDot isWord further
      | integer value => cases accepted; exact ⟨[_], rfl, .integer rfl⟩
      | text content => cases accepted; exact ⟨[_], rfl, .text rfl⟩
      | question => cases accepted; exact ⟨[_], rfl, .placeholder rfl⟩
      | comparison op => cases accepted; exact ⟨[_], rfl, .comparison rfl⟩
      | _ => cases accepted

/-- Where no value is read, no token is passed over. -/
theorem readValue_none {stop : Position} {tokens rest : List Token}
    (accepted : readValue stop tokens = .ok (none, rest)) : rest = tokens := by
  cases tokens with
  | nil => cases accepted; rfl
  | cons token others =>
      obtain ⟨lexeme, position, size⟩ := token
      cases lexeme with
      | ident name =>
          obtain ⟨⟨names, reached, behind⟩, -, equal⟩ := of_bind_eq_ok accepted
          cases equal
      | _ => cases accepted <;> rfl

/-- What is read as values is derived as those values. -/
theorem readValues_sound {stop : Position} {bound : Nat} {tokens rest : List Token}
    {leaves : List Leaf} (accepted : readValues stop bound tokens = .ok (leaves, rest)) :
    ∃ used, tokens = used ++ rest ∧ Values used leaves := by
  induction bound generalizing tokens leaves with
  | zero =>
      cases accepted
      exact ⟨[], rfl, .nil⟩
  | succ bound inductionHypothesis =>
      obtain ⟨⟨value, behind⟩, readsValue, readsOthers⟩ := of_bind_eq_ok accepted
      cases value with
      | none =>
          cases readsOthers
          exact ⟨[], (readValue_none readsValue).symm, .nil⟩
      | some leaf =>
          obtain ⟨⟨further, behind⟩, readsFurther, equal⟩ := of_bind_eq_ok readsOthers
          cases equal
          obtain ⟨used, rfl, isValue⟩ := readValue_sound readsValue
          obtain ⟨others, rfl, areValues⟩ := inductionHypothesis readsFurther
          exact ⟨used ++ others, (List.append_assoc ..).symm, .cons isValue areValues⟩

/-! ## Entries and groups -/

/-- A group behind its opening parenthesis and the separators there. -/
inductive Items : List Token → List Node → Prop where
  | none {closing : Token} {trail : List Token} (trails : Separators trail)
      (closes : closing.lexeme = .closeParen) : Items (trail ++ [closing]) []
  | some {closing : Token} {tokens rest trail : List Token} {keyword : Name}
      {arguments : List Leaf} {groups : List (List Node)} {nodes : List Node}
      (first : Derives (.entry keyword arguments groups) tokens)
      (others : Derives (.others nodes) rest) (trails : Separators trail)
      (closes : closing.lexeme = .closeParen) :
      Items (tokens ++ (rest ++ (trail ++ [closing])))
        (itemNode keyword arguments groups :: nodes)

/-- An opening parenthesis and separators in front make a group. -/
theorem Items.group {opening : Token} {lead tokens : List Token} {nodes : List Node}
    (items : Items tokens nodes) (opens : opening.lexeme = .openParen)
    (leads : Separators lead) : Derives (.group nodes) (opening :: (lead ++ tokens)) := by
  cases items with
  | none trails closes => exact .emptyGroup opens leads trails closes
  | some first others trails closes => exact .fullGroup opens leads first others trails closes

/-- One more entry may stand in front, with separators behind it. -/
theorem Items.cons {tokens separators rest : List Token} {keyword : Name}
    {arguments : List Leaf} {groups : List (List Node)} {nodes : List Node}
    (items : Items rest nodes) (first : Derives (.entry keyword arguments groups) tokens)
    (nonempty : separators ≠ []) (separate : Separators separators) :
    Items (tokens ++ (separators ++ rest)) (itemNode keyword arguments groups :: nodes) := by
  cases items with
  | @none closing trail trails closes =>
      -- No entry follows, so the separators belong to those in front of the parenthesis.
      simpa using Items.some first .noOthers (separate.append trails) closes
  | some second others trails closes =>
      simpa using Items.some first (.moreOthers nonempty separate second others) trails closes

/-- An entry, read as this node, stands in front of the rest of the tokens. -/
def StartsWithEntry (tokens : List Token) (node : Node) (rest : List Token) : Prop :=
  ∃ used keyword arguments groups, tokens = used ++ rest ∧
    Derives (.entry keyword arguments groups) used ∧ node = itemNode keyword arguments groups

/-- All groups that open, read as these nodes, stand in front of the rest of the tokens. -/
def StartsWithGroups (tokens : List Token) (nodes : List Node) (rest : List Token) : Prop :=
  ∃ used groups, tokens = used ++ rest ∧ Derives (.groups groups) used ∧
    nodes = groups.flatten ∧ (groups = [] → opensGroup tokens = false)

/-- The items of a group, read as these nodes, stand in front of the rest of the tokens. -/
def StartsWithItems (tokens : List Token) (nodes : List Node) (rest : List Token) : Prop :=
  ∃ used, tokens = used ++ rest ∧ Items used nodes

/-- With this bound, the readers of entries and groups accept only what the grammar derives. -/
structure Sound (stop : Position) (bound : Nat) : Prop where
  entry {tokens rest : List Token} {node : Node} :
    readEntry stop bound tokens = .ok (node, rest) → StartsWithEntry tokens node rest
  groups {tokens rest : List Token} {nodes : List Node} :
    readGroups stop bound tokens = .ok (nodes, rest) → StartsWithGroups tokens nodes rest
  items {tokens rest : List Token} {nodes : List Node} :
    readItems stop bound tokens = .ok (nodes, rest) → StartsWithItems tokens nodes rest

/-- A name is read from the identifier that the tokens start with. -/
theorem readName_sound {stop : Position} {tokens rest : List Token} {keyword : Name}
    (accepted : readName stop tokens = .ok (keyword, rest)) :
    ∃ word name, tokens = word :: rest ∧ word.lexeme = .ident name ∧
      keyword = ⟨name, word.position⟩ := by
  unfold readName at accepted
  split at accepted
  · cases accepted
    exact ⟨_, _, rfl, rfl, rfl⟩
  · cases accepted

/-- A group opens with a parenthesis. -/
theorem exists_of_opensGroup {tokens : List Token} (opens : opensGroup tokens = true) :
    ∃ opening rest, tokens = opening :: rest ∧ opening.lexeme = .openParen := by
  unfold opensGroup at opens
  split at opens
  · exact ⟨_, _, rfl, rfl⟩
  · cases opens

/-- A group closes with a parenthesis. -/
theorem exists_of_closesGroup {tokens : List Token} (closes : closesGroup tokens = true) :
    ∃ closing rest, tokens = closing :: rest ∧ closing.lexeme = .closeParen := by
  unfold closesGroup at closes
  split at closes
  · exact ⟨_, _, rfl, rfl⟩
  · cases closes

/-- With one more step, only entries of the grammar are accepted. -/
theorem sound_entry {stop : Position} {bound : Nat} (sound : Sound stop bound)
    {tokens rest : List Token} {node : Node}
    (accepted : readEntry stop (bound + 1) tokens = .ok (node, rest)) :
    StartsWithEntry tokens node rest := by
  rw [readEntry] at accepted
  obtain ⟨⟨keyword, behind⟩, readsName, afterName⟩ := of_bind_eq_ok accepted
  obtain ⟨⟨arguments, behind⟩, readsValues, afterValues⟩ := of_bind_eq_ok afterName
  obtain ⟨word, name, rfl, isWord, rfl⟩ := readName_sound readsName
  obtain ⟨values, rfl, areValues⟩ := readValues_sound readsValues
  dsimp only at afterValues
  split at afterValues
  · next bare =>
    cases afterValues
    have noArguments : arguments = [] := by simp_all
    subst noArguments
    refine ⟨word :: (values ++ []), _, [], [], by simp, .entry isWord areValues .noGroups, ?_⟩
    simp [itemNode]
  · next full =>
    obtain ⟨⟨children, behind⟩, readsGroups, equal⟩ := of_bind_eq_ok afterValues
    cases equal
    obtain ⟨used, groups, rfl, areGroups, rfl, noneOpens⟩ := sound.groups readsGroups
    refine ⟨word :: (values ++ used), _, arguments, groups, by simp,
      .entry isWord areValues areGroups, ?_⟩
    -- Without values a group opens here, so at least one was read.
    have notBare : ¬(arguments = [] ∧ groups = []) := by
      rintro ⟨rfl, noGroups⟩
      simp [noneOpens noGroups] at full
    rw [itemNode, if_neg notBare]

/-- With one more step, only groups of the grammar are accepted. -/
theorem sound_groups {stop : Position} {bound : Nat} (sound : Sound stop bound)
    {tokens rest : List Token} {nodes : List Node}
    (accepted : readGroups stop (bound + 1) tokens = .ok (nodes, rest)) :
    StartsWithGroups tokens nodes rest := by
  rw [readGroups] at accepted
  split at accepted
  · next opens =>
    obtain ⟨⟨first, behind⟩, readsItems, afterItems⟩ := of_bind_eq_ok accepted
    obtain ⟨⟨others, behind⟩, readsOthers, equal⟩ := of_bind_eq_ok afterItems
    cases equal
    obtain ⟨opening, inside, rfl, isOpen⟩ := exists_of_opensGroup opens
    obtain ⟨lead, leads, split⟩ := exists_separators inside
    obtain ⟨used, skipped, items⟩ := sound.items readsItems
    obtain ⟨more, groups, rfl, areGroups, rfl, -⟩ := sound.groups readsOthers
    refine ⟨(opening :: (lead ++ used)) ++ more, first :: groups, ?_,
      .moreGroups (items.group isOpen leads) areGroups, rfl, fun empty => ?_⟩
    · rw [List.tail_cons] at skipped
      rw [split, skipped]
      simp
    · cases empty
  · next closed =>
    cases accepted
    exact ⟨[], [], rfl, .noGroups, rfl, fun _ => by simpa using closed⟩

/-- With one more step, only items of the grammar are accepted. -/
theorem sound_items {stop : Position} {bound : Nat} (sound : Sound stop bound)
    {tokens rest : List Token} {nodes : List Node}
    (accepted : readItems stop (bound + 1) tokens = .ok (nodes, rest)) :
    StartsWithItems tokens nodes rest := by
  cases closes : closesGroup tokens with
  | true =>
      simp only [readItems, closes, if_true] at accepted
      cases accepted
      obtain ⟨closing, behind, rfl, isClosing⟩ := exists_of_closesGroup closes
      exact ⟨[closing], rfl, Items.none .nil isClosing⟩
  | false =>
      rw [readItems_succ stop bound closes] at accepted
      obtain ⟨⟨node, behind⟩, readsEntry, afterEntry⟩ := of_bind_eq_ok accepted
      obtain ⟨⟨others, behind⟩, readsMore, equal⟩ := of_bind_eq_ok afterEntry
      cases equal
      obtain ⟨used, keyword, arguments, groups, rfl, isEntry, rfl⟩ := sound.entry readsEntry
      unfold readMore at readsMore
      split at readsMore
      · next ends =>
        cases readsMore
        obtain ⟨closing, behind, rfl, isClosing⟩ := exists_of_closesGroup ends
        refine ⟨used ++ ([] ++ ([] ++ [closing])), by simp, .some isEntry .noOthers .nil isClosing⟩
      · obtain ⟨behind, readsSeparators, readsItems⟩ := of_bind_eq_ok readsMore
        obtain ⟨separators, nonempty, separate, rfl⟩ := readSeparators_sound readsSeparators
        obtain ⟨more, rfl, items⟩ := sound.items readsItems
        exact ⟨used ++ (separators ++ more), by simp, items.cons isEntry nonempty separate⟩

/-- Whatever the bound, only what the grammar derives is accepted. -/
theorem sound (stop : Position) (bound : Nat) : Sound stop bound := by
  induction bound with
  | zero =>
      refine ⟨fun accepted => ?_, fun accepted => ?_, fun accepted => ?_⟩
      · simp [readEntry] at accepted
      · simp [readGroups] at accepted
      · simp [readItems] at accepted
  | succ bound inductionHypothesis =>
      exact ⟨sound_entry inductionHypothesis, sound_groups inductionHypothesis,
        sound_items inductionHypothesis⟩

/-! ## Files -/

/-- Separators may stand in front of a file. -/
theorem File.lead {lead tokens : List Token} {nodes : List Node} (file : File tokens nodes)
    (leads : Separators lead) : File (lead ++ tokens) nodes := by
  cases file with
  | intro others statements lastStatement trails =>
      rw [← List.append_assoc]
      exact .intro (leads.append others) statements lastStatement trails

/-- One more entry may stand in front of a file, with separators behind it. -/
theorem File.cons {tokens separators rest : List Token} {keyword : Name}
    {arguments : List Leaf} {groups : List (List Node)} {nodes : List Node}
    (file : File rest nodes) (first : Derives (.entry keyword arguments groups) tokens)
    (nonempty : separators ≠ []) (separate : Separators separators) :
    File (tokens ++ (separators ++ rest)) (statementNode keyword arguments groups :: nodes) := by
  cases file with
  | @intro lead others _ _ _ _ leads statements lastStatement trails =>
      have more := Statements.cons first (by simp [nonempty]) (separate.append leads) statements
      simpa using File.intro .nil more lastStatement trails

/-- What is read as statements is a file of the grammar. -/
theorem readStatements_sound {stop : Position} {bound : Nat} {tokens : List Token}
    {nodes : List Node} (accepted : readStatements stop bound tokens = .ok nodes) :
    File tokens nodes := by
  induction bound generalizing tokens nodes with
  | zero => simp [readStatements] at accepted
  | succ bound inductionHypothesis =>
      rw [readStatements] at accepted
      split at accepted
      · next empty =>
        cases accepted
        rw [List.isEmpty_iff.1 empty]
        exact File.intro .nil .nil .none .nil
      · obtain ⟨⟨node, behind⟩, readsEntry, afterEntry⟩ := of_bind_eq_ok accepted
        obtain ⟨used, keyword, arguments, groups, rfl, isEntry, rfl⟩ :=
          (sound stop bound).entry readsEntry
        dsimp only at afterEntry
        rw [asStatement_itemNode] at afterEntry
        split at afterEntry
        · next ends =>
          cases afterEntry
          rw [List.isEmpty_iff.1 ends]
          exact File.intro .nil .nil (.some isEntry) .nil
        · obtain ⟨rest, readsSeparators, afterSeparators⟩ := of_bind_eq_ok afterEntry
          obtain ⟨others, readsOthers, equal⟩ := of_bind_eq_ok afterSeparators
          cases equal
          obtain ⟨separators, nonempty, separate, rfl⟩ := readSeparators_sound readsSeparators
          exact (inductionHypothesis readsOthers).cons isEntry nonempty separate

/-- Tokens that are read are a file of the grammar. -/
theorem file_of_read {list : TokenList} {nodes : List Node}
    (accepted : Node.read list = .ok nodes) : File list.tokens nodes := by
  obtain ⟨lead, leads, split⟩ := exists_separators list.tokens
  rw [split]
  exact (readStatements_sound accepted).lead leads

/-! ## The bound -/

/-- With this bound, the readers of entries and groups do with few tokens what larger bounds do. -/
structure Settled (stop : Position) (bound : Nat) : Prop where
  entry {more : Nat} {tokens : List Token} : bound ≤ more → 2 * tokens.length + 1 ≤ bound →
    readEntry stop more tokens = readEntry stop bound tokens
  groups {more : Nat} {tokens : List Token} : bound ≤ more → 2 * tokens.length + 1 ≤ bound →
    readGroups stop more tokens = readGroups stop bound tokens
  items {more : Nat} {tokens : List Token} : bound ≤ more → 2 * tokens.length + 2 ≤ bound →
    readItems stop more tokens = readItems stop bound tokens

/-- Skipping separators adds no tokens. -/
theorem length_skipSeparators_le (tokens : List Token) :
    (skipSeparators tokens).length ≤ tokens.length :=
  (List.dropWhile_sublist _).length_le

/-- An entry has at least its keyword. -/
theorem Derives.entry_length_pos {keyword : Name} {arguments : List Leaf}
    {groups : List (List Node)} {tokens : List Token}
    (derivation : Derives (.entry keyword arguments groups) tokens) : 0 < tokens.length := by
  obtain ⟨word, rest, name, rfl, -⟩ := derivation.entry_head
  exact Nat.succ_pos _

/-- With one more step, a larger bound does not change how an entry is read. -/
theorem settled_entry {stop : Position} {bound more : Nat} (settled : Settled stop bound)
    {tokens : List Token} (larger : bound ≤ more) (enough : 2 * tokens.length + 1 ≤ bound + 1) :
    readEntry stop (more + 1) tokens = readEntry stop (bound + 1) tokens := by
  rw [readEntry, readEntry]
  apply bind_congr_of_ok
  rintro ⟨keyword, behindName⟩ readsName
  apply bind_congr_of_ok
  rintro ⟨arguments, behindValues⟩ readsValues
  obtain ⟨word, name, rfl, -⟩ := readName_sound readsName
  obtain ⟨values, rfl, -⟩ := readValues_sound readsValues
  have fewer : 2 * behindValues.length + 1 ≤ bound := by
    simp only [List.length_cons, List.length_append] at enough
    omega
  simp only [settled.groups larger fewer]

/-- With one more step, a larger bound does not change how groups are read. -/
theorem settled_groups {stop : Position} {bound more : Nat} (settled : Settled stop bound)
    {tokens : List Token} (larger : bound ≤ more) (enough : 2 * tokens.length + 1 ≤ bound + 1) :
    readGroups stop (more + 1) tokens = readGroups stop (bound + 1) tokens := by
  rw [readGroups, readGroups]
  split
  · next opens =>
    obtain ⟨opening, inside, rfl, -⟩ := exists_of_opensGroup opens
    have shorter := length_skipSeparators_le inside
    rw [List.length_cons] at enough
    rw [List.tail_cons, settled.items larger (by omega)]
    apply bind_congr_of_ok
    rintro ⟨nodes, behind⟩ readsItems
    obtain ⟨used, split, -⟩ := (sound stop bound).items readsItems
    have fewer : behind.length ≤ inside.length := by
      rw [split, List.length_append] at shorter
      omega
    dsimp only
    rw [settled.groups larger (by omega)]
  · rfl

/-- With one more step, a larger bound does not change how items are read. -/
theorem settled_items {stop : Position} {bound more : Nat} (settled : Settled stop bound)
    {tokens : List Token} (larger : bound ≤ more) (enough : 2 * tokens.length + 2 ≤ bound + 1) :
    readItems stop (more + 1) tokens = readItems stop (bound + 1) tokens := by
  cases closes : closesGroup tokens with
  | true => simp [readItems, closes]
  | false =>
      rw [readItems_succ stop more closes, readItems_succ stop bound closes,
        settled.entry larger (by omega)]
      apply bind_congr_of_ok
      rintro ⟨node, behind⟩ readsEntry
      obtain ⟨used, keyword, arguments, groups, rfl, isEntry, rfl⟩ :=
        (sound stop bound).entry readsEntry
      have positive := isEntry.entry_length_pos
      have alike : readMore stop more behind = readMore stop bound behind := by
        unfold readMore
        split
        · rfl
        · refine bind_congr_of_ok fun rest readsSeparators => ?_
          obtain ⟨separators, -, -, rfl⟩ := readSeparators_sound readsSeparators
          simp only [List.length_append] at enough
          exact settled.items larger (by omega)
      dsimp only
      rw [alike]

/-- Every bound is settled. -/
theorem settled (stop : Position) (bound : Nat) : Settled stop bound := by
  induction bound with
  | zero => constructor <;> intros <;> omega
  | succ bound inductionHypothesis =>
      -- A larger bound is a successor too, so both sides take the same step.
      constructor
      · rintro (_ | more) tokens larger enough
        · omega
        · exact settled_entry inductionHypothesis (by omega) enough
      · rintro (_ | more) tokens larger enough
        · omega
        · exact settled_groups inductionHypothesis (by omega) enough
      · rintro (_ | more) tokens larger enough
        · omega
        · exact settled_items inductionHypothesis (by omega) enough

/-- From twice the number of tokens and two on, the bound changes nothing for statements. -/
theorem readStatements_settled (stop : Position) {bound more : Nat} {tokens : List Token}
    (larger : bound ≤ more) (enough : 2 * tokens.length + 2 ≤ bound) :
    readStatements stop more tokens = readStatements stop bound tokens := by
  induction bound generalizing more tokens with
  | zero => omega
  | succ bound inductionHypothesis =>
      obtain ⟨more, rfl⟩ : ∃ less, more = less + 1 := Nat.exists_eq_add_one.2 (by omega)
      have stillLarger : bound ≤ more := by omega
      rw [readStatements, readStatements, (settled stop bound).entry stillLarger (by omega)]
      split
      · rfl
      · apply bind_congr_of_ok
        rintro ⟨node, behind⟩ readsEntry
        obtain ⟨used, keyword, arguments, groups, rfl, isEntry, rfl⟩ :=
          (sound stop bound).entry readsEntry
        have positive := isEntry.entry_length_pos
        dsimp only
        split
        · rfl
        · refine bind_congr_of_ok fun rest readsSeparators => ?_
          obtain ⟨separators, -, -, rfl⟩ := readSeparators_sound readsSeparators
          simp only [List.length_append] at enough
          rw [inductionHypothesis stillLarger (by omega)]

/-! ## The reader and the grammar -/

/-- Tokens have at most one reading as a file. -/
theorem File.unique {tokens : List Token} {nodes others : List Node} (file : File tokens nodes)
    (other : File tokens others) : nodes = others := by
  have readsFirst := @File.read_eq_ok ⟨tokens, ⟨1, 1, 0⟩⟩ nodes file
  have readsOther := @File.read_eq_ok ⟨tokens, ⟨1, 1, 0⟩⟩ others other
  exact Except.ok.inj (readsFirst.symm.trans readsOther)

/--
A source that can be cut into tokens is read as the one file that the grammar derives from them,
and is refused if there is none; and a larger bound than the reader's own changes no outcome.
-/
theorem parse_iff_file {source : String} {list : TokenList}
    (tokenized : tokenize source = .ok list) :
    (∀ nodes, Node.parse source = .ok nodes ↔ File list.tokens nodes) ∧
    (∀ nodes others, File list.tokens nodes → File list.tokens others → nodes = others) ∧
    ∀ bound, 2 * list.tokens.length + 3 ≤ bound →
      readStatements list.stop bound (skipSeparators list.tokens) = Node.parse source := by
  have parsed : Node.parse source = Node.read list := by
    rw [Node.parse, tokenized]
  rw [parsed]
  refine ⟨fun nodes => ⟨file_of_read, File.read_eq_ok⟩, fun _ _ => File.unique,
    fun bound larger => ?_⟩
  have shorter := length_skipSeparators_le list.tokens
  exact readStatements_settled list.stop larger (by omega)

/-- An entry with two groups, the first one empty, among separators of both kinds. -/
def nestedSource : String :=
  ",a b.c () (d, e 3 (f,))\n"

/-- What the source is cut into. -/
def nestedTokens : TokenList where
  tokens := [⟨.comma, ⟨1, 1, 0⟩, 1⟩, ⟨.ident "a", ⟨1, 2, 1⟩, 1⟩, ⟨.ident "b", ⟨1, 4, 3⟩, 1⟩,
    ⟨.dot, ⟨1, 5, 4⟩, 1⟩, ⟨.ident "c", ⟨1, 6, 5⟩, 1⟩, ⟨.openParen, ⟨1, 8, 7⟩, 1⟩,
    ⟨.closeParen, ⟨1, 9, 8⟩, 1⟩, ⟨.openParen, ⟨1, 11, 10⟩, 1⟩, ⟨.ident "d", ⟨1, 12, 11⟩, 1⟩,
    ⟨.comma, ⟨1, 13, 12⟩, 1⟩, ⟨.ident "e", ⟨1, 15, 14⟩, 1⟩, ⟨.integer 3, ⟨1, 17, 16⟩, 1⟩,
    ⟨.openParen, ⟨1, 19, 18⟩, 1⟩, ⟨.ident "f", ⟨1, 20, 19⟩, 1⟩, ⟨.comma, ⟨1, 21, 20⟩, 1⟩,
    ⟨.closeParen, ⟨1, 22, 21⟩, 1⟩, ⟨.closeParen, ⟨1, 23, 22⟩, 1⟩, ⟨.newline, ⟨1, 24, 23⟩, 1⟩]
  stop := ⟨2, 1, 24⟩

/-- What the source is read as: the groups of the entry are joined. -/
def nestedNodes : List Node :=
  [.tuple ⟨"a", ⟨1, 2, 1⟩⟩ [⟨.path "b" "c" [], ⟨1, 4, 3⟩, 3⟩]
    [.flag ⟨"d", ⟨1, 12, 11⟩⟩,
      .tuple ⟨"e", ⟨1, 15, 14⟩⟩ [⟨.integer 3, ⟨1, 17, 16⟩, 1⟩] [.flag ⟨"f", ⟨1, 20, 19⟩⟩]]]

/-- A file with nested groups, and the only nodes that it can be read as. -/
theorem nestedSource_file :
    tokenize nestedSource = .ok nestedTokens ∧ File nestedTokens.tokens nestedNodes ∧
      ∀ others, File nestedTokens.tokens others → others = nestedNodes := by
  have tokenized : tokenize nestedSource = .ok nestedTokens :=
    eq_ok_of_toOption (by decide +kernel)
  have parsed : Node.parse nestedSource = .ok nestedNodes := by
    rw [Node.parse, tokenized]
    rfl
  obtain ⟨exactly, unique, -⟩ := parse_iff_file tokenized
  have file := (exactly nestedNodes).1 parsed
  exact ⟨tokenized, file, fun others other => unique others nestedNodes other file⟩

end Schemata.Grammar
