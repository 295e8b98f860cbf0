import Schemata.Proofs.Grammar.Soundness
import Schemata.Proofs.Printing
import Schemata.Proofs.Source.Tiling

/-!
# What is read can be printed

Every rule of the scanner reads a lexeme that can be spelled again: a name is a word, and an integer
fits into 64 bits. The grammar makes its trees from such tokens alone, so the names in a tree that
was read are words, wherever they stand (`printable_of_parse`).
-/

namespace Schemata

/-! ## Tokens -/

/-- A lexeme that can be spelled: a name is a word, and an integer fits into 64 bits. -/
def Lexeme.Printable : Lexeme → Prop
  | .ident name => IsWord name
  | .integer value => IsInt64 value
  | _ => True

/-- What a rule reads can be spelled. -/
theorem Rule.printable {text : List Char} {lexeme : Lexeme} (rule : Rule text (some lexeme)) :
    lexeme.Printable := by
  cases rule with
  | fixed spelled =>
      cases lexeme with
      | ident | integer => cases spelled
      | _ => trivial
  | integer _ _ fits => simpa [Lexeme.inRange, Lexeme.Printable, IsInt64] using fits
  | string body => trivial
  | word isWord => exact isWord

/-- The tokens of a source can be spelled. -/
theorem Remain.printable {source : String} {tokens : List Token} {stop : Position}
    (remain : Remain source tokens stop) : ∀ token ∈ tokens, token.lexeme.Printable := by
  induction tokens with
  | nil => exact List.forall_mem_nil _
  | cons token tokens inductionHypothesis =>
      obtain ⟨spelled, rule, -⟩ := remain.exists_standsAt
      exact List.forall_mem_cons.2 ⟨rule.printable, inductionHypothesis remain.tail⟩

/-! ## Trees -/

/-- The arguments of a node that can be printed can be printed. -/
theorem Node.Printable.arguments {node : Node} (printable : node.Printable) :
    ∀ leaf ∈ node.arguments, leaf.atom.Printable := by
  cases printable with
  | flag => exact List.forall_mem_nil _
  | tuple _ values _ => exact values

/-- The children of a node that can be printed can be printed. -/
theorem Node.Printable.children {node : Node} (printable : node.Printable) :
    ∀ child ∈ node.children, child.Printable := by
  cases printable with
  | flag => exact List.forall_mem_nil _
  | tuple _ _ items => exact items

namespace Grammar

/-! ## Values -/

/-- The segments of a path are words, if its tokens can be spelled. -/
theorem Segments.words {first last : Token} {tokens : List Token} {names : List String}
    (segments : Segments first tokens names last)
    (printable : ∀ token ∈ tokens, token.lexeme.Printable) : ∀ name ∈ names, IsWord name := by
  induction segments with
  | nil => exact List.forall_mem_nil _
  | cons _ isWord _ inductionHypothesis =>
      simp only [List.forall_mem_cons, isWord] at printable
      exact List.forall_mem_cons.2 ⟨printable.2.1, inductionHypothesis printable.2.2⟩

/-- A value can be printed, if its tokens can be spelled. -/
theorem Value.printable {tokens : List Token} {leaf : Leaf} (value : Value tokens leaf)
    (printable : ∀ token ∈ tokens, token.lexeme.Printable) : leaf.atom.Printable := by
  cases value with
  | ident isWord => simpa [isWord, Lexeme.Printable, Atom.Printable] using printable
  | path isFirst _ isWord rest =>
      simp only [List.forall_mem_cons, isFirst, isWord] at printable
      obtain ⟨firstWord, -, secondWord, others⟩ := printable
      exact ⟨firstWord, List.forall_mem_cons.2 ⟨secondWord, rest.words others⟩⟩
  | integer isInteger => simpa [isInteger, Lexeme.Printable, Atom.Printable] using printable
  | text | placeholder | comparison => trivial

/-- Values can be printed, if their tokens can be spelled. -/
theorem Values.printable {tokens : List Token} {leaves : List Leaf} (values : Values tokens leaves)
    (printable : ∀ token ∈ tokens, token.lexeme.Printable) :
    ∀ leaf ∈ leaves, leaf.atom.Printable := by
  induction values with
  | nil => exact List.forall_mem_nil _
  | cons first _ inductionHypothesis =>
      obtain ⟨firstPrintable, othersPrintable⟩ := List.forall_mem_append.1 printable
      exact List.forall_mem_cons.2
        ⟨first.printable firstPrintable, inductionHypothesis othersPrintable⟩

/-! ## Entries and groups -/

/-- What a phrase is read as can be printed. -/
def Phrase.Printable : Phrase → Prop
  | .entry keyword arguments lists =>
    IsWord keyword.text ∧ (∀ leaf ∈ arguments, leaf.atom.Printable) ∧
      ∀ nodes ∈ lists, ∀ node ∈ nodes, node.Printable
  | .groups lists => ∀ nodes ∈ lists, ∀ node ∈ nodes, node.Printable
  | .group nodes | .others nodes => ∀ node ∈ nodes, node.Printable

section Entries

variable {keyword : Name} {arguments : List Leaf} {groups : List (List Node)}

/-- The statement of an entry can be printed. -/
theorem printable_statementNode (entry : (Phrase.entry keyword arguments groups).Printable) :
    (statementNode keyword arguments groups).Printable := by
  obtain ⟨word, values, items⟩ := entry
  refine .tuple word values fun node member => ?_
  obtain ⟨nodes, isGroup, isNode⟩ := List.mem_flatten.1 member
  exact items nodes isGroup node isNode

/-- The item of an entry can be printed. -/
theorem printable_itemNode (entry : (Phrase.entry keyword arguments groups).Printable) :
    (itemNode keyword arguments groups).Printable := by
  unfold itemNode
  split
  · exact .flag entry.1
  · exact printable_statementNode entry

/-- A phrase of tokens that can be spelled is read as what can be printed. -/
theorem Derives.printable {phrase : Phrase} {tokens : List Token} (derives : Derives phrase tokens)
    (printable : ∀ token ∈ tokens, token.lexeme.Printable) : phrase.Printable := by
  induction derives with
  | entry isWord isValues _ inductionHypothesis =>
      simp only [List.forall_mem_cons, List.forall_mem_append, isWord] at printable
      obtain ⟨word, values, others⟩ := printable
      exact ⟨word, isValues.printable values, inductionHypothesis others⟩
  | noGroups | emptyGroup | noOthers => exact List.forall_mem_nil _
  | moreGroups _ _ firstPrintable othersPrintable =>
      obtain ⟨first, others⟩ := List.forall_mem_append.1 printable
      exact List.forall_mem_cons.2 ⟨firstPrintable first, othersPrintable others⟩
  | fullGroup _ _ _ _ _ _ firstPrintable othersPrintable =>
      simp only [List.forall_mem_cons, List.forall_mem_append] at printable
      obtain ⟨-, -, first, others, -⟩ := printable
      exact List.forall_mem_cons.2
        ⟨printable_itemNode (firstPrintable first), othersPrintable others⟩
  | moreOthers _ _ _ _ firstPrintable othersPrintable =>
      simp only [List.forall_mem_append] at printable
      obtain ⟨-, first, others⟩ := printable
      exact List.forall_mem_cons.2
        ⟨printable_itemNode (firstPrintable first), othersPrintable others⟩

end Entries

/-! ## Files -/

/-- Statements can be printed, if their tokens can be spelled. -/
theorem Statements.printable {tokens : List Token} {nodes : List Node}
    (statements : Statements tokens nodes)
    (printable : ∀ token ∈ tokens, token.lexeme.Printable) : ∀ node ∈ nodes, node.Printable := by
  induction statements with
  | nil => exact List.forall_mem_nil _
  | cons first _ _ _ inductionHypothesis =>
      simp only [List.forall_mem_append] at printable
      obtain ⟨entry, -, others⟩ := printable
      exact List.forall_mem_cons.2
        ⟨printable_statementNode (first.printable entry), inductionHypothesis others⟩

/-- The last statement can be printed, if its tokens can be spelled. -/
theorem LastStatement.printable {tokens : List Token} {nodes : List Node}
    (lastStatement : LastStatement tokens nodes)
    (printable : ∀ token ∈ tokens, token.lexeme.Printable) : ∀ node ∈ nodes, node.Printable := by
  cases lastStatement with
  | none => exact List.forall_mem_nil _
  | some entry =>
      exact List.forall_mem_singleton.2 (printable_statementNode (entry.printable printable))

/-- All nodes of a file can be printed, if its tokens can be spelled. -/
theorem File.printable {tokens : List Token} {nodes : List Node} (file : File tokens nodes)
    (printable : ∀ token ∈ tokens, token.lexeme.Printable) : ∀ node ∈ nodes, node.Printable := by
  cases file with
  | intro _ statements lastStatement _ =>
      simp only [List.forall_mem_append] at printable
      obtain ⟨-, stated, last, -⟩ := printable
      exact List.forall_mem_append.2
        ⟨statements.printable stated, lastStatement.printable last⟩

end Grammar

/-- The trees of a source can be printed. -/
theorem printable_of_parse {source : String} {nodes : List Node}
    (accepted : Node.parse source = .ok nodes) : ∀ node ∈ nodes, node.Printable := by
  unfold Node.parse at accepted
  split at accepted
  · cases accepted
  · next list tokenized =>
    exact (Grammar.file_of_read accepted).printable (remain_of_tokenize tokenized).printable

end Schemata
