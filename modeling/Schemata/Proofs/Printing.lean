import Schemata.Proofs.Grammar.Completeness
import Schemata.Proofs.Layout.Trees
import Schemata.Proofs.Scanning

/-!
# Printing trees

A tree is printed with one statement on each line. The values of an entry follow its keyword, each
after a space, and the entries inside it follow in one group, separated by commas. An entry of a
group that has neither values nor entries, but is no flag, is printed with an empty group.

What is printed is read as the same tree again (`parse_print`). Every production of the grammar has
its text: `WritesPhrase` says that a text is cut into tokens that derive a phrase, and a printed
entry is such a text by induction on the tree.
-/

namespace Schemata

open Lexeme Grammar

/-! ## Printed trees -/

/-- A value as it is printed. -/
def Atom.print : Atom → List Char
  | .ident name => name.toList
  | .path first second more =>
    first.toList ++ (second :: more).flatMap fun segment => '.' :: segment.toList
  | .integer value => (toString value).toList
  | .text content => '"' :: (escape content.toList ++ ['"'])
  | .placeholder => ['?']
  | .comparison op => op.symbol.toList

namespace Node

/-- Values as they are printed after a keyword. -/
def printValues (values : List Leaf) : List Char :=
  values.flatMap fun leaf => ' ' :: leaf.atom.print

mutual

/-- An entry of a group as it is printed. -/
def printItem : Node → List Char
  | .flag keyword => keyword.text.toList
  | .tuple keyword arguments children =>
    keyword.text.toList ++ (printValues arguments ++
      if arguments.isEmpty && children.isEmpty then [' ', '(', ')'] else printGroup children)

/-- The entries inside an entry as they are printed; without any there is no group. -/
def printGroup : List Node → List Char
  | [] => []
  | first :: others => ' ' :: '(' :: (printItem first ++ (printOthers others ++ [')']))

/-- The entries of a group after its first one as they are printed. -/
def printOthers : List Node → List Char
  | [] => []
  | node :: nodes => ',' :: ' ' :: (printItem node ++ printOthers nodes)

end

/-- A statement as it is printed, on a line of its own. -/
def printStatement (node : Node) : List Char :=
  node.keyword.text.toList ++ (printValues node.arguments ++ printGroup node.children) ++ ['\n']

/-- Statements as they are printed. -/
def print (nodes : List Node) : String :=
  String.ofList (nodes.flatMap printStatement)

end Node

/-- A value that can be printed: names are words, and integers fit into 64 bits. -/
def Atom.Printable : Atom → Prop
  | .ident name => IsWord name
  | .path first second more => IsWord first ∧ ∀ segment ∈ second :: more, IsWord segment
  | .integer value => IsInt64 value
  | _ => True

instance (atom : Atom) : Decidable atom.Printable :=
  match atom with
  | .ident name => inferInstanceAs (Decidable (IsWord name))
  | .path first second more =>
    inferInstanceAs (Decidable (IsWord first ∧ ∀ segment ∈ second :: more, IsWord segment))
  | .integer value => inferInstanceAs (Decidable (IsInt64 value))
  | .text _ | .placeholder | .comparison _ => inferInstanceAs (Decidable True)

/-- A tree that can be printed: its keywords are words, and its values can be printed. -/
inductive Node.Printable : Node → Prop where
  | flag {keyword : Name} (word : IsWord keyword.text) : Printable (.flag keyword)
  | tuple {keyword : Name} {arguments : List Leaf} {children : List Node}
      (word : IsWord keyword.text) (values : ∀ leaf ∈ arguments, leaf.atom.Printable)
      (items : ∀ child ∈ children, Printable child) :
      Printable (.tuple keyword arguments children)

/-- A node that can be a statement. -/
def Node.IsTuple : Node → Prop
  | .flag _ => False
  | .tuple _ _ _ => True

/-! ## Values -/

/-- A word ends before the other segments of its path. -/
theorem endsWord_segments (segments : List String) :
    EndsWord (segments.flatMap fun segment => '.' :: segment.toList) := by
  cases segments with
  | nil => exact endsWord_nil
  | cons segment segments => exact endsWord_cons (by decide) _

/-- A word ends before printed values. -/
theorem endsWord_printValues (values : List Leaf) : EndsWord (Node.printValues values) := by
  cases values with
  | nil => exact endsWord_nil
  | cons leaf values => exact endsWord_cons (by decide) _

/-- The segments of a path after its first one are read from their printed form. -/
theorem writes_segments {segments : List String} (words : ∀ segment ∈ segments, IsWord segment) :
    ∃ lexemes, Writes (segments.flatMap fun segment => '.' :: segment.toList) lexemes ∧
      ∀ first : Token, first.stop = 0 →
        ∃ last, Segments first (lexemes.map Lexeme.unplaced) segments last ∧ last.stop = 0 := by
  induction segments with
  | nil => exact ⟨[], .nil, fun first stop => ⟨first, .nil, stop⟩⟩
  | cons segment segments inductionHypothesis =>
      obtain ⟨lexemes, writes, derives⟩ := inductionHypothesis fun other member =>
        words other (List.mem_cons_of_mem segment member)
      have word := Writes.word (words segment List.mem_cons_self)
      refine ⟨.dot :: ([.ident segment] ++ lexemes), ?_, fun first stop => ?_⟩
      · exact .punctuation rfl (word.append writes (endsWord_segments segments))
      · obtain ⟨last, rest, lastStop⟩ := derives (Lexeme.ident segment).unplaced rfl
        exact ⟨last, .cons rfl rfl rest, lastStop⟩

/-- A value is read from its printed form. -/
theorem writes_atom {atom : Atom} (printable : atom.Printable) :
    ∃ lexemes, Writes atom.print lexemes ∧
      Value (lexemes.map Lexeme.unplaced) ⟨atom, .start, 0⟩ := by
  cases atom with
  | ident name => exact ⟨[.ident name], .word printable, .ident rfl⟩
  | path first second more =>
      obtain ⟨firstWord, words⟩ := printable
      obtain ⟨secondWord, moreWords⟩ := List.forall_mem_cons.1 words
      obtain ⟨lexemes, writes, derives⟩ := writes_segments moreWords
      obtain ⟨last, segments, lastStop⟩ := derives (Lexeme.ident second).unplaced rfl
      have value := Value.path (lexeme_unplaced (.ident first)) (lexeme_unplaced .dot)
        (lexeme_unplaced (.ident second)) segments
      refine ⟨[.ident first] ++ (.dot :: ([.ident second] ++ lexemes)), ?_, ?_⟩
      · have tail := (Writes.word secondWord).append writes (endsWord_segments more)
        exact (Writes.word firstWord).append (.punctuation rfl tail) (endsWord_cons (by decide) _)
      · rw [lastStop] at value
        exact value
  | integer value =>
      exact ⟨[.integer value], .of_spells fun after ends => spells_integer printable ends,
        .integer rfl⟩
  | text content =>
      exact ⟨[.text content], .of_spells fun after ends => spells_text content after, .text rfl⟩
  | placeholder => exact ⟨[.question], .punctuation rfl .nil, .placeholder rfl⟩
  | comparison op =>
      exact ⟨[.comparison op], .of_spells fun after ends => spells_comparison op ends,
        .comparison rfl⟩

/-- Values are read from their printed form. -/
theorem writes_values {values : List Leaf} (printable : ∀ leaf ∈ values, leaf.atom.Printable) :
    ∃ lexemes, Writes (Node.printValues values) lexemes ∧
      Values (lexemes.map Lexeme.unplaced) (values.map Leaf.unplaced) := by
  induction values with
  | nil => exact ⟨[], .nil, .nil⟩
  | cons leaf values inductionHypothesis =>
      obtain ⟨leafPrintable, othersPrintable⟩ := List.forall_mem_cons.1 printable
      obtain ⟨lexemes, writes, value⟩ := writes_atom leafPrintable
      obtain ⟨others, writesOthers, derives⟩ := inductionHypothesis othersPrintable
      refine ⟨lexemes ++ others, ?_, ?_⟩
      · exact .space (writes.append writesOthers (endsWord_printValues values))
      · rw [List.map_append]
        exact .cons value derives

/-! ## Phrases -/

/-- A text is cut into tokens that derive a phrase of the grammar. -/
def WritesPhrase (phrase : Phrase) (text : List Char) : Prop :=
  ∃ lexemes, Writes text lexemes ∧ Derives phrase (lexemes.map Lexeme.unplaced)

section Phrases

variable {text more : List Char} {keyword : Name} {arguments : List Leaf}
  {groups : List (List Node)} {nodes : List Node}

/-- An entry: its keyword, its values and its groups. -/
theorem writes_entry (word : IsWord keyword.text)
    (printable : ∀ leaf ∈ arguments, leaf.atom.Printable)
    (writesGroups : WritesPhrase (.groups groups) text) (between : EndsWord text) :
    WritesPhrase (.entry keyword.unplaced (arguments.map Leaf.unplaced) groups)
      (keyword.text.toList ++ (Node.printValues arguments ++ text)) := by
  obtain ⟨values, writesValues, isValues⟩ := writes_values printable
  obtain ⟨lexemes, writes, isGroups⟩ := writesGroups
  refine ⟨[.ident keyword.text] ++ (values ++ lexemes), ?_, ?_⟩
  · refine (Writes.word word).append (writesValues.append writes between) ?_
    exact (endsWord_printValues arguments).append between
  · have derives := Derives.entry (lexeme_unplaced (.ident keyword.text)) isValues isGroups
    rw [List.map_append, List.map_append]
    exact derives

/-- No groups. -/
theorem writes_noGroups : WritesPhrase (.groups []) [] :=
  ⟨[], .nil, .noGroups⟩

/-- One group. -/
theorem writes_oneGroup (group : WritesPhrase (.group nodes) text) :
    WritesPhrase (.groups [nodes]) text := by
  obtain ⟨lexemes, writes, derives⟩ := group
  refine ⟨lexemes, writes, ?_⟩
  have one := derives.moreGroups .noGroups
  rwa [List.append_nil] at one

/-- An empty group. -/
theorem writes_emptyGroup : WritesPhrase (.group []) [' ', '(', ')'] := by
  have derives := Derives.emptyGroup (lexeme_unplaced .openParen) Separators.nil Separators.nil
    (lexeme_unplaced .closeParen)
  exact ⟨[.openParen, .closeParen], .space (.punctuation rfl (.punctuation rfl .nil)), derives⟩

/-- A group of entries. -/
theorem writes_fullGroup (first : WritesPhrase (.entry keyword arguments groups) text)
    (others : WritesPhrase (.others nodes) more) (between : EndsWord more) :
    WritesPhrase (.group (itemNode keyword arguments groups :: nodes))
      (' ' :: '(' :: (text ++ (more ++ [')']))) := by
  obtain ⟨lexemes, writes, derives⟩ := first
  obtain ⟨otherLexemes, writesOthers, derivesOthers⟩ := others
  have closing : Writes [')'] [.closeParen] := .punctuation rfl .nil
  have closes : EndsWord [')'] := endsWord_cons (by decide) []
  refine ⟨.openParen :: (lexemes ++ (otherLexemes ++ [.closeParen])), ?_, ?_⟩
  · refine .space (.punctuation rfl (writes.append ?_ (between.append closes)))
    exact writesOthers.append closing closes
  · rw [List.map_cons, List.map_append, List.map_append]
    exact .fullGroup (lexeme_unplaced .openParen) Separators.nil derives derivesOthers
      Separators.nil (lexeme_unplaced .closeParen)

/-- No more entries in a group. -/
theorem writes_noOthers : WritesPhrase (.others []) [] :=
  ⟨[], .nil, .noOthers⟩

/-- One more entry in a group. -/
theorem writes_moreOthers (first : WritesPhrase (.entry keyword arguments groups) text)
    (others : WritesPhrase (.others nodes) more) (between : EndsWord more) :
    WritesPhrase (.others (itemNode keyword arguments groups :: nodes))
      (',' :: ' ' :: (text ++ more)) := by
  obtain ⟨lexemes, writes, derives⟩ := first
  obtain ⟨otherLexemes, writesOthers, derivesOthers⟩ := others
  refine ⟨.comma :: (lexemes ++ otherLexemes), ?_, ?_⟩
  · exact .punctuation rfl (.space (writes.append writesOthers between))
  · have comma : Separators [Lexeme.comma.unplaced] := .cons rfl .nil
    rw [List.map_cons, List.map_append]
    exact .moreOthers (List.cons_ne_nil _ _) comma derives derivesOthers

end Phrases

/-! ## Trees -/

/-- What follows the first entry of a group is printed after a comma, or is nothing. -/
theorem endsWord_printOthers (nodes : List Node) : EndsWord (Node.printOthers nodes) := by
  cases nodes with
  | nil => exact endsWord_nil
  | cons node nodes => exact endsWord_cons (by decide) _

/-- A word ends before a printed group. -/
theorem endsWord_printGroup (nodes : List Node) : EndsWord (Node.printGroup nodes) := by
  cases nodes with
  | nil => exact endsWord_nil
  | cons node nodes => exact endsWord_cons (by decide) _

/-- The printed form of an entry is a text of it, as it stands inside a group. -/
def WritesItem (node : Node) : Prop :=
  ∃ groups, WritesPhrase (.entry node.keyword.unplaced (node.arguments.map Leaf.unplaced) groups)
      node.printItem ∧
    itemNode node.keyword.unplaced (node.arguments.map Leaf.unplaced) groups = node.unplaced

/-- The printed entries of a group after its first one are a text of them. -/
theorem writes_printOthers {nodes : List Node} (items : ∀ node ∈ nodes, WritesItem node) :
    WritesPhrase (.others (nodes.map Node.unplaced)) (Node.printOthers nodes) := by
  induction nodes with
  | nil => exact writes_noOthers
  | cons node nodes inductionHypothesis =>
      obtain ⟨item, others⟩ := List.forall_mem_cons.1 items
      obtain ⟨groups, entry, same⟩ := item
      have more := writes_moreOthers entry (inductionHypothesis others)
        (endsWord_printOthers nodes)
      rwa [same] at more

/-- The groups that entries are printed in: one group, or none. -/
def groupsOf (children : List Node) : List (List Node) :=
  if children.isEmpty then [] else [children.map Node.unplaced]

/-- The printed entries inside an entry are a text of their group. -/
theorem writes_printGroup {children : List Node} (items : ∀ child ∈ children, WritesItem child) :
    WritesPhrase (.groups (groupsOf children)) (Node.printGroup children) := by
  cases children with
  | nil => exact writes_noGroups
  | cons first others =>
      obtain ⟨item, otherItems⟩ := List.forall_mem_cons.1 items
      obtain ⟨groups, entry, same⟩ := item
      have group := writes_fullGroup entry (writes_printOthers otherItems)
        (endsWord_printOthers others)
      rw [same] at group
      exact writes_oneGroup group

/-- All entries of a printed group are read as the entries that were printed. -/
theorem flatten_groupsOf (children : List Node) :
    (groupsOf children).flatten = children.map Node.unplaced := by
  cases children with
  | nil => rfl
  | cons first others => exact List.append_nil _

/-- Every tree that can be printed is read from its printed form. -/
theorem writes_printItem {node : Node} (printable : node.Printable) : WritesItem node := by
  induction printable with
  | @flag keyword word =>
      refine ⟨[], ?_, rfl⟩
      have entry := writes_entry word (List.forall_mem_nil _) writes_noGroups endsWord_nil
      rwa [Node.printValues, List.flatMap_nil, List.append_nil, List.append_nil] at entry
  | @tuple keyword arguments children word values _ items =>
      by_cases bare : (arguments.isEmpty && children.isEmpty) = true
      · -- Without the empty group the entry would be a flag.
        obtain ⟨noArguments, noChildren⟩ := Bool.and_eq_true_iff.1 bare
        obtain rfl := List.isEmpty_iff.1 noArguments
        obtain rfl := List.isEmpty_iff.1 noChildren
        have ends : EndsWord [' ', '(', ')'] := endsWord_cons (by decide) _
        exact ⟨[[]], writes_entry word values (writes_oneGroup writes_emptyGroup) ends, rfl⟩
      · have entry := writes_entry word values (writes_printGroup items)
          (endsWord_printGroup children)
        refine ⟨groupsOf children, ?_, ?_⟩
        · rwa [Node.printItem, if_neg bare]
        · have notFlag : ¬ (arguments.map Leaf.unplaced = [] ∧ groupsOf children = []) := by
            rintro ⟨noArguments, noGroups⟩
            have noChildren := flatten_groupsOf children
            rw [noGroups] at noChildren
            simp [List.map_eq_nil_iff.1 noArguments, List.map_eq_nil_iff.1 noChildren.symm] at bare
          rw [Node.unplaced, Node.unplacedAll_eq_map, ← flatten_groupsOf]
          exact if_neg notFlag

/-- Statements are read from their printed form. -/
theorem writes_printStatements {nodes : List Node} (printable : ∀ node ∈ nodes, node.Printable)
    (tuples : ∀ node ∈ nodes, node.IsTuple) :
    ∃ lexemes, Writes (nodes.flatMap Node.printStatement) lexemes ∧
      Statements (lexemes.map Lexeme.unplaced) (nodes.map Node.unplaced) := by
  induction nodes with
  | nil => exact ⟨[], .nil, .nil⟩
  | cons node nodes inductionHypothesis =>
      obtain ⟨nodePrintable, othersPrintable⟩ := List.forall_mem_cons.1 printable
      obtain ⟨isTuple, othersTuples⟩ := List.forall_mem_cons.1 tuples
      obtain ⟨others, writesOthers, statements⟩ := inductionHypothesis othersPrintable othersTuples
      cases nodePrintable with
      | flag word => exact isTuple.elim
      | @tuple keyword arguments children word values items =>
          obtain ⟨lexemes, writes, derives⟩ := writes_entry word values
            (writes_printGroup fun child member => writes_printItem (items child member))
            (endsWord_printGroup children)
          refine ⟨lexemes ++ (.newline :: others), ?_, ?_⟩
          · have rest : Writes ('\n' :: nodes.flatMap Node.printStatement) (.newline :: others) :=
              .punctuation rfl writesOthers
            have lines := writes.append rest (endsWord_cons (by decide) _)
            rw [List.flatMap_cons, Node.printStatement, List.append_assoc]
            exact lines
          · have newline : Separators [Lexeme.newline.unplaced] := .cons rfl .nil
            have first := Statements.cons derives (List.cons_ne_nil _ _) newline statements
            rw [statementNode, flatten_groupsOf] at first
            rw [List.map_append, List.map_cons, List.map_cons, Node.unplaced,
              Node.unplacedAll_eq_map]
            exact first

/--
What is printed is read as the same tree again, up to the places where everything stands and the
lengths of the values.
-/
theorem parse_print {nodes : List Node} (printable : ∀ node ∈ nodes, node.Printable)
    (tuples : ∀ node ∈ nodes, node.IsTuple) :
    ∃ parsed, Node.parse (Node.print nodes) = .ok parsed ∧
      parsed.map Node.unplaced = nodes.map Node.unplaced := by
  obtain ⟨lexemes, writes, statements⟩ := writes_printStatements printable tuples
  obtain ⟨list, tokenized, unplaced⟩ := exists_tokenize_of_lexemes? writes.lexes.lexemes?
  have file : File list.unplaced.tokens (nodes.map Node.unplaced) := by
    have whole := File.intro Separators.nil statements .none Separators.nil
    rw [List.nil_append, List.append_nil, List.append_nil, List.append_nil] at whole
    rwa [unplaced]
  have mirrors := Node.read_mirrors list
  rw [file.read_eq_ok] at mirrors
  obtain ⟨parsed, read, same⟩ := mirrors.exists_of_ok
  refine ⟨parsed, ?_, same⟩
  rw [Node.parse, Node.print, tokenized]
  exact read

/-- Two statements: one with all kinds of values and entries in it, and one that is a word. -/
def deepNodes : List Node := [
  .tuple ⟨"model", .start⟩ [⟨.ident "_a1", .start, 0⟩, ⟨.path "a" "b" ["c"], .start, 0⟩] [
    .flag ⟨"nullable", .start⟩,
    .tuple ⟨"group", .start⟩ [] [
      .tuple ⟨"empty", .start⟩ [] [],
      .tuple ⟨"where", .start⟩ [⟨.comparison .lt, .start, 0⟩, ⟨.comparison .eq, .start, 0⟩,
        ⟨.integer (-9223372036854775808), .start, 0⟩, ⟨.placeholder, .start, 0⟩,
        ⟨.text "say \"\\\n\t\"", .start, 0⟩] []]],
  .tuple ⟨"word", .start⟩ [] []]

/-- How the statements are printed. -/
def deepText : String :=
  "model _a1 a.b.c (nullable, group (empty (), " ++
    "where < = -9223372036854775808 ? \"say \\\"\\\\\\n\t\\\"\"))\nword\n"

/-- Both statements can be printed and are read again, at other places. -/
theorem parse_deepText :
    (∀ node ∈ deepNodes, node.Printable) ∧ (∀ node ∈ deepNodes, node.IsTuple) ∧
    Node.print deepNodes = deepText ∧
    ∃ parsed, Node.parse deepText = .ok parsed ∧ parsed.map Node.unplaced = deepNodes := by
  have printable : ∀ node ∈ deepNodes, node.Printable := by
    have childless : ∀ {keyword arguments}, IsWord keyword.text →
        (∀ leaf ∈ arguments, leaf.atom.Printable) →
        (Node.tuple keyword arguments []).Printable :=
      fun word values => .tuple word values (List.forall_mem_nil _)
    rw [deepNodes, List.forall_mem_cons, List.forall_mem_cons]
    refine ⟨.tuple (by decide) (by decide) ?_, childless (by decide) (by decide),
      List.forall_mem_nil _⟩
    rw [List.forall_mem_cons, List.forall_mem_cons]
    refine ⟨.flag (by decide), .tuple (by decide) (by decide) ?_, List.forall_mem_nil _⟩
    rw [List.forall_mem_cons, List.forall_mem_cons]
    exact ⟨childless (by decide) (by decide), childless (by decide) (by decide),
      List.forall_mem_nil _⟩
  have tuples : ∀ node ∈ deepNodes, node.IsTuple := by
    simp [deepNodes, Node.IsTuple]
  have printed : Node.print deepNodes = deepText := by
    decide +kernel
  refine ⟨printable, tuples, printed, ?_⟩
  rw [← printed]
  exact parse_print printable tuples

end Schemata
