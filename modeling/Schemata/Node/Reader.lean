import Schemata.Node
import Schemata.ReadError

/-!
# Reading tokens as a tree

The grammar is

    file   := sep* (entry sep+)* entry? sep*
    entry  := IDENT value* group*
    group  := "(" sep* (entry (sep+ entry)*)? sep* ")"
    value  := IDENT ("." IDENT)* | INT | STRING | "?" | operator
    sep    := NEWLINE | ","

and is read with one token of lookahead. Every reader takes the tokens that are
left and the position of the end of the source, and gives back what it read and
the tokens after it. Entries and groups contain each other; their readers count
down a bound on the nesting, which `Node.read` takes from the number of tokens.
-/

namespace Schemata.Node

/-- The refusal of the next token, or of the end of the source. -/
def refuse (stop : Position) (tokens : List Token) (expected : List String) : ReadError :=
  match tokens with
  | [] => .expected stop expected endOfInput
  | token :: _ => .expected token.position expected token.lexeme.describe

/-- Read an identifier. -/
def readName (stop : Position) (tokens : List Token) : Except ReadError (Name × List Token) :=
  match tokens with
  | ⟨.ident name, position, _⟩ :: rest => .ok (⟨name, position⟩, rest)
  | _ => .error (refuse stop tokens ["identifier"])

/--
Read the segments of a path after its first one. The second component is the byte
offset behind the last token read, which is `reached` if there is no segment.
-/
def readSegments (stop : Position) (reached : Nat) :
    List Token → Except ReadError (List String × Nat × List Token)
  | ⟨.dot, _, _⟩ :: ⟨.ident name, position, size⟩ :: rest => do
    let (segments, reached, rest) ← readSegments stop (position.offset + size) rest
    return (name :: segments, reached, rest)
  | ⟨.dot, _, _⟩ :: rest => .error (refuse stop rest ["identifier"])
  | tokens => .ok ([], reached, tokens)

/-- A word is an identifier unless more segments follow it. -/
def wordAtom (name : String) : List String → Atom
  | [] => .ident name
  | second :: more => .path name second more

/-- The value that a token stands for on its own, if it stands for one. -/
def simpleAtom? : Lexeme → Option Atom
  | .integer value => some (.integer value)
  | .text content => some (.text content)
  | .question => some .placeholder
  | .comparison op => some (.comparison op)
  | _ => none

/-- Read a value, if one comes next. -/
def readValue (stop : Position) (tokens : List Token) :
    Except ReadError (Option Leaf × List Token) :=
  match tokens with
  | [] => .ok (none, [])
  | token :: rest =>
    match token.lexeme with
    | .ident name => do
      let (segments, reached, rest) ← readSegments stop token.stop rest
      return (some ⟨wordAtom name segments, token.position, reached - token.position.offset⟩, rest)
    | lexeme =>
      match simpleAtom? lexeme with
      | some atom => .ok (some ⟨atom, token.position, token.size⟩, rest)
      | none => .ok (none, tokens)

/-- Read values until something else comes next. -/
def readValues (stop : Position) : Nat → List Token → Except ReadError (List Leaf × List Token)
  | 0, tokens => .ok ([], tokens)
  | bound + 1, tokens => do
    let (value, rest) ← readValue stop tokens
    match value with
    | none => return ([], rest)
    | some leaf =>
      let (leaves, rest) ← readValues stop bound rest
      return (leaf :: leaves, rest)

/-- Pass over newlines and commas. -/
def skipSeparators (tokens : List Token) : List Token :=
  tokens.dropWhile (·.lexeme.isSeparator)

/-- Whether an opening parenthesis comes next. -/
def opensGroup : List Token → Bool
  | ⟨.openParen, _, _⟩ :: _ => true
  | _ => false

/-- Whether a closing parenthesis comes next. -/
def closesGroup : List Token → Bool
  | ⟨.closeParen, _, _⟩ :: _ => true
  | _ => false

/-- Pass over at least one separator. -/
def readSeparators (stop : Position) (expected : List String) (tokens : List Token) :
    Except ReadError (List Token) :=
  match tokens with
  | token :: rest =>
    if token.lexeme.isSeparator then .ok (skipSeparators rest)
    else .error (refuse stop tokens expected)
  | [] => .error (refuse stop tokens expected)

mutual

/-- Read an entry: a keyword, its values, and the entries of all its groups. -/
def readEntry (stop : Position) : Nat → List Token → Except ReadError (Node × List Token)
  | 0, tokens => .error (refuse stop tokens [])
  | bound + 1, tokens => do
    let (keyword, rest) ← readName stop tokens
    let (arguments, rest) ← readValues stop rest.length rest
    if arguments.isEmpty && !opensGroup rest then
      return (.flag keyword, rest)
    else
      let (children, rest) ← readGroups stop bound rest
      return (.tuple keyword arguments children, rest)

/-- Read groups as long as one opens, and collect their entries. -/
def readGroups (stop : Position) : Nat → List Token → Except ReadError (List Node × List Token)
  | 0, tokens => .error (refuse stop tokens [])
  | bound + 1, tokens =>
    if opensGroup tokens then do
      let (first, rest) ← readItems stop bound (skipSeparators tokens.tail)
      let (others, rest) ← readGroups stop bound rest
      return (first ++ others, rest)
    else
      .ok ([], tokens)

/-- Read the entries of a group up to and including its closing parenthesis. -/
def readItems (stop : Position) : Nat → List Token → Except ReadError (List Node × List Token)
  | 0, tokens => .error (refuse stop tokens [])
  | bound + 1, tokens =>
    if closesGroup tokens then
      .ok ([], tokens.tail)
    else do
      let (entry, rest) ← readEntry stop bound tokens
      if closesGroup rest then
        return ([entry], rest.tail)
      else
        let rest ← readSeparators stop [",", "newline", ")"] rest
        let (entries, rest) ← readItems stop bound rest
        return (entry :: entries, rest)

end

/-- Read entries, one after another, to the end of the source. -/
def readStatements (stop : Position) : Nat → List Token → Except ReadError (List Node)
  | 0, tokens => .error (refuse stop tokens [])
  | bound + 1, tokens =>
    if tokens.isEmpty then
      .ok []
    else do
      let (entry, rest) ← readEntry stop bound tokens
      if rest.isEmpty then
        return [entry.asStatement]
      else
        let rest ← readSeparators stop ["newline", endOfInput] rest
        let entries ← readStatements stop bound rest
        return entry.asStatement :: entries

/--
Read the statements of a list of tokens. Going from an entry to one inside its group
takes three steps and two tokens, so twice the number of tokens is bound enough.
-/
def read (list : TokenList) : Except ReadError (List Node) :=
  readStatements list.stop (2 * list.tokens.length + 3) (skipSeparators list.tokens)

/-- Read the statements of a source. -/
def parse (source : String) : Except ReadError (List Node) :=
  match tokenize source with
  | .error problem => .error (.unreadable problem)
  | .ok list => read list

end Schemata.Node
