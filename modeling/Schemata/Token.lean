import Schemata.Comparison
import Schemata.Source.Position

/-!
# Tokens

The smallest meaningful pieces of a schema text. Newlines are tokens, because they
end entries; blanks and comments are not.
-/

namespace Schemata

/-- What a token says. -/
inductive Lexeme where
  | newline
  | openParen
  | closeParen
  | comma
  | dot
  | question
  | comparison (op : Comparison)
  | integer (value : Int)
  | text (content : String)
  | ident (name : String)
  deriving DecidableEq, Repr

namespace Lexeme

/-- Newlines and commas end an entry. -/
def isSeparator : Lexeme → Bool
  | newline => true
  | comma => true
  | _ => false

/-- A lexeme as messages show it. -/
def describe : Lexeme → String
  | newline => "newline"
  | openParen => "("
  | closeParen => ")"
  | comma => ","
  | dot => "."
  | question => "?"
  | comparison op => op.symbol
  | integer value => toString value
  | text content => "\"" ++ content ++ "\""
  | ident name => name

end Lexeme

/-- A lexeme with its place in the source and its length in bytes. -/
structure Token where
  lexeme : Lexeme
  position : Position
  size : Nat
  deriving DecidableEq, Repr

/-- The byte offset right behind a token. -/
def Token.stop (token : Token) : Nat :=
  token.position.offset + token.size

/-- A text that was cut into tokens: all of them, and the position of its end. -/
structure TokenList where
  tokens : List Token
  stop : Position
  deriving DecidableEq, Repr

/-- How messages name the end of the source. -/
def endOfInput : String := "end of input"

end Schemata
