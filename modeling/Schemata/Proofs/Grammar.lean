import Schemata.Node.Reader

/-!
# The grammar of schemas

The productions of the grammar as relations between tokens and what they are read as:

    file   := sep* (entry sep+)* entry? sep*
    entry  := IDENT value* group*
    group  := "(" sep* (entry (sep+ entry)*)? sep* ")"
    value  := IDENT ("." IDENT)* | INT | STRING | "?" | operator
    sep    := NEWLINE | ","

Nothing here is read from left to right, and no token is looked at ahead. Entries and
groups contain each other, so their productions, with those of the repetitions inside
them, are one relation `Derives` over the phrases of the grammar.
-/

namespace Schemata.Grammar

/-- `sep*`: all tokens are newlines or commas. -/
def Separators (tokens : List Token) : Prop :=
  ∀ token ∈ tokens, token.lexeme = .newline ∨ token.lexeme = .comma

/-- `("." IDENT)*`, read as names; `last` is the last token of a path that starts with `first`. -/
inductive Segments : (first : Token) → List Token → List String → (last : Token) → Prop where
  | nil {first : Token} : Segments first [] [] first
  | cons {first dot word last : Token} {name : String} {tokens : List Token}
      {names : List String} (isDot : dot.lexeme = .dot) (isWord : word.lexeme = .ident name)
      (rest : Segments word tokens names last) :
      Segments first (dot :: word :: tokens) (name :: names) last

/-- `value := IDENT ("." IDENT)* | INT | STRING | "?" | operator`, read as a leaf. -/
inductive Value : List Token → Leaf → Prop where
  | ident {token : Token} {name : String} (isWord : token.lexeme = .ident name) :
      Value [token] ⟨.ident name, token.position, token.size⟩
  | path {first dot word last : Token} {name second : String} {tokens : List Token}
      {more : List String} (isFirst : first.lexeme = .ident name) (isDot : dot.lexeme = .dot)
      (isWord : word.lexeme = .ident second) (rest : Segments word tokens more last) :
      Value (first :: dot :: word :: tokens)
        ⟨.path name second more, first.position, last.stop - first.position.offset⟩
  | integer {token : Token} {value : Int} (isInteger : token.lexeme = .integer value) :
      Value [token] ⟨.integer value, token.position, token.size⟩
  | text {token : Token} {content : String} (isText : token.lexeme = .text content) :
      Value [token] ⟨.text content, token.position, token.size⟩
  | placeholder {token : Token} (isQuestion : token.lexeme = .question) :
      Value [token] ⟨.placeholder, token.position, token.size⟩
  | comparison {token : Token} {op : Comparison} (isComparison : token.lexeme = .comparison op) :
      Value [token] ⟨.comparison op, token.position, token.size⟩

/-- `value*`, read as leaves in order. -/
inductive Values : List Token → List Leaf → Prop where
  | nil : Values [] []
  | cons {tokens rest : List Token} {leaf : Leaf} {leaves : List Leaf}
      (first : Value tokens leaf) (others : Values rest leaves) :
      Values (tokens ++ rest) (leaf :: leaves)

/-- The phrases in which entries and groups contain each other, with what they are read as. -/
inductive Phrase where
  /-- An entry: its keyword, its values, and the entries of each of its groups. -/
  | entry (keyword : Name) (arguments : List Leaf) (groups : List (List Node))
  /-- The groups of an entry, each read as its entries. -/
  | groups (groups : List (List Node))
  /-- A group, read as its entries. -/
  | group (nodes : List Node)
  /-- The entries of a group after its first one. -/
  | others (nodes : List Node)

/-- An entry inside a group: a flag if it has neither values nor groups, else a tuple. -/
def itemNode (keyword : Name) (arguments : List Leaf) (groups : List (List Node)) : Node :=
  if arguments = [] ∧ groups = [] then .flag keyword
  else .tuple keyword arguments groups.flatten

/-- An entry that stands on its own: always a tuple, with the entries of all its groups. -/
def statementNode (keyword : Name) (arguments : List Leaf) (groups : List (List Node)) : Node :=
  .tuple keyword arguments groups.flatten

/-- The productions of entries and groups. -/
inductive Derives : Phrase → List Token → Prop where
  /-- `entry := IDENT value* group*` -/
  | entry {word : Token} {name : String} {values tokens : List Token} {arguments : List Leaf}
      {groups : List (List Node)} (isWord : word.lexeme = .ident name)
      (isValues : Values values arguments) (isGroups : Derives (.groups groups) tokens) :
      Derives (.entry ⟨name, word.position⟩ arguments groups) (word :: (values ++ tokens))
  /-- `group*`, none -/
  | noGroups : Derives (.groups []) []
  /-- `group*`, one and more -/
  | moreGroups {tokens rest : List Token} {nodes : List Node} {groups : List (List Node)}
      (first : Derives (.group nodes) tokens) (others : Derives (.groups groups) rest) :
      Derives (.groups (nodes :: groups)) (tokens ++ rest)
  /-- `group := "(" sep* sep* ")"` -/
  | emptyGroup {opening closing : Token} {lead trail : List Token}
      (opens : opening.lexeme = .openParen) (leads : Separators lead) (trails : Separators trail)
      (closes : closing.lexeme = .closeParen) :
      Derives (.group []) (opening :: (lead ++ (trail ++ [closing])))
  /-- `group := "(" sep* entry (sep+ entry)* sep* ")"` -/
  | fullGroup {opening closing : Token} {lead tokens rest trail : List Token} {keyword : Name}
      {arguments : List Leaf} {groups : List (List Node)} {nodes : List Node}
      (opens : opening.lexeme = .openParen) (leads : Separators lead)
      (first : Derives (.entry keyword arguments groups) tokens)
      (others : Derives (.others nodes) rest) (trails : Separators trail)
      (closes : closing.lexeme = .closeParen) :
      Derives (.group (itemNode keyword arguments groups :: nodes))
        (opening :: (lead ++ (tokens ++ (rest ++ (trail ++ [closing])))))
  /-- `(sep+ entry)*`, none -/
  | noOthers : Derives (.others []) []
  /-- `(sep+ entry)*`, one and more -/
  | moreOthers {separators tokens rest : List Token} {keyword : Name} {arguments : List Leaf}
      {groups : List (List Node)} {nodes : List Node} (nonempty : separators ≠ [])
      (separate : Separators separators)
      (first : Derives (.entry keyword arguments groups) tokens)
      (others : Derives (.others nodes) rest) :
      Derives (.others (itemNode keyword arguments groups :: nodes))
        (separators ++ (tokens ++ rest))

/-- `(entry sep+)*`, read as statements. -/
inductive Statements : List Token → List Node → Prop where
  | nil : Statements [] []
  | cons {tokens separators rest : List Token} {keyword : Name} {arguments : List Leaf}
      {groups : List (List Node)} {nodes : List Node}
      (first : Derives (.entry keyword arguments groups) tokens) (nonempty : separators ≠ [])
      (separate : Separators separators) (others : Statements rest nodes) :
      Statements (tokens ++ (separators ++ rest)) (statementNode keyword arguments groups :: nodes)

/-- `entry?`, read as at most one statement. -/
inductive LastStatement : List Token → List Node → Prop where
  | none : LastStatement [] []
  | some {tokens : List Token} {keyword : Name} {arguments : List Leaf}
      {groups : List (List Node)} (entry : Derives (.entry keyword arguments groups) tokens) :
      LastStatement tokens [statementNode keyword arguments groups]

/-- `file := sep* (entry sep+)* entry? sep*`, read as statements. -/
inductive File : List Token → List Node → Prop where
  | intro {lead tokens last trail : List Token} {nodes lastNodes : List Node}
      (leads : Separators lead) (statements : Statements tokens nodes)
      (lastStatement : LastStatement last lastNodes) (trails : Separators trail) :
      File (lead ++ (tokens ++ (last ++ trail))) (nodes ++ lastNodes)

end Schemata.Grammar
