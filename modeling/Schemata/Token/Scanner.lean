import Schemata.Token

/-!
# Cutting a text into tokens

The scanner skips blanks and comments, then reads the longest lexeme that starts
at the next character. Positions follow the characters that were passed over.
Scanning ends after the end of the text was reported once, or after the first
piece of text that starts no lexeme.

`munch` decides what stands at the head of a text. It always consumes at least one
character, so a scan takes no more steps than the text has characters.
-/

namespace Schemata

namespace Lexeme

/-- Spaces, tabs, form feeds and carriage returns separate tokens and mean nothing. -/
def isBlank (c : Char) : Bool :=
  c = ' ' || c = '\t' || c = '\x0c' || c = '\r'

/-- A name starts with an ASCII letter or an underscore. -/
def isNameStart (c : Char) : Bool :=
  c.isAlpha || c = '_'

/-- A name goes on with ASCII letters, digits and underscores. -/
def isNameRest (c : Char) : Bool :=
  c.isAlphanum || c = '_'

/-- The value of a row of decimal digits. -/
def decimalValue (digits : List Char) : Nat :=
  digits.foldl (fun value c => 10 * value + (c.toNat - '0'.toNat)) 0

/-- Integers of a schema fit into 64 bits. -/
def inRange (value : Int) : Bool :=
  -9223372036854775808 ≤ value && value ≤ 9223372036854775807

/--
The longest run of characters that can stand inside a string: plain characters,
and pairs of a backslash and any character but a newline. The run ends before a
quote, a newline, a backslash without partner, or the end of the text.
-/
def spanString : List Char → List Char × List Char
  | [] => ([], [])
  | '\\' :: [] => ([], ['\\'])
  | '\\' :: c :: rest =>
    if c = '\n' then ([], '\\' :: c :: rest)
    else ('\\' :: c :: (spanString rest).1, (spanString rest).2)
  | c :: rest =>
    if c = '"' || c = '\n' then ([], c :: rest)
    else (c :: (spanString rest).1, (spanString rest).2)

/--
The text that a string's inside stands for. A backslash before `n`, `r`, `t`, a
backslash or a quote is an escape; before any other character it stands for itself.
-/
def unescape : List Char → List Char
  | [] => []
  | '\\' :: [] => ['\\']
  | '\\' :: c :: rest =>
    match c with
    | 'n' => '\n' :: unescape rest
    | 'r' => '\r' :: unescape rest
    | 't' => '\t' :: unescape rest
    | '\\' => '\\' :: unescape rest
    | '"' => '"' :: unescape rest
    | other => '\\' :: other :: unescape rest
  | c :: rest => c :: unescape rest

end Lexeme

/-- What stands at the head of a text: a lexeme or nothing readable, its text, and the rest. -/
structure Munch where
  lexeme : Option Lexeme
  text : List Char
  rest : List Char

namespace Munch

open Lexeme

/-- A lexeme of one character. -/
def single (lexeme : Lexeme) (c : Char) (rest : List Char) : Munch :=
  ⟨some lexeme, [c], rest⟩

/-- One character that starts no lexeme. -/
def unreadable (c : Char) (rest : List Char) : Munch :=
  ⟨none, [c], rest⟩

/-- An operator of two characters if an equals sign follows, else what stands for `c` alone. -/
def withEquals (long : Comparison) (c : Char) (rest : List Char) (alone : Munch) : Munch :=
  match rest with
  | '=' :: after => ⟨some (.comparison long), [c, '='], after⟩
  | _ => alone

/-- An integer, given its sign and its digits; unreadable when it does not fit. -/
def integer (negative : Bool) (digits rest : List Char) : Munch :=
  let value : Int := if negative then -(decimalValue digits : Int) else decimalValue digits
  let text := if negative then '-' :: digits else digits
  ⟨if inRange value then some (.integer value) else none, text, rest⟩

/-- A string whose opening quote was just read; unreadable when it is not closed. -/
def string (rest : List Char) : Munch :=
  match spanString rest with
  | (inside, '"' :: after) =>
    ⟨some (.text (String.ofList (unescape inside))), '"' :: inside ++ ['"'], after⟩
  | (inside, after) => ⟨none, '"' :: inside, after⟩

/-- A name whose first character was just read. -/
def name (c : Char) (rest : List Char) : Munch :=
  let text := c :: rest.takeWhile isNameRest
  ⟨some (.ident (String.ofList text)), text, rest.dropWhile isNameRest⟩

end Munch

/-- The lexemes that are one character and no start of a longer one. -/
def Lexeme.punctuation? : Char → Option Lexeme
  | '\n' => some .newline
  | '(' => some .openParen
  | ')' => some .closeParen
  | ',' => some .comma
  | '.' => some .dot
  | '?' => some .question
  | '=' => some (.comparison .eq)
  | _ => none

open Lexeme in
/-- Read the longest lexeme that starts with a character that is neither blank nor comment. -/
def munch (c : Char) (rest : List Char) : Munch :=
  match punctuation? c with
  | some lexeme => .single lexeme c rest
  | none =>
    if c = '!' then .withEquals .ne c rest (.unreadable c rest)
    else if c = '<' then .withEquals .le c rest (.single (.comparison .lt) c rest)
    else if c = '>' then .withEquals .ge c rest (.single (.comparison .gt) c rest)
    else if c = '"' then .string rest
    else if c = '-' then
      match rest.takeWhile Char.isDigit with
      | [] => .unreadable c rest
      | digits => .integer true digits (rest.dropWhile Char.isDigit)
    else if c.isDigit then
      .integer false (c :: rest.takeWhile Char.isDigit) (rest.dropWhile Char.isDigit)
    else if isNameStart c then .name c rest
    else .unreadable c rest

/--
Pass over blanks and comments. A comment starts with `#` or `//` and ends before
the next newline.
-/
def skipBlanks (inComment : Bool) (position : Position) : List Char → Position × List Char
  | [] => (position, [])
  | c :: rest =>
    if inComment then
      if c = '\n' then (position, c :: rest)
      else skipBlanks true (position.advance c) rest
    else if Lexeme.isBlank c then skipBlanks false (position.advance c) rest
    else if c = '#' || (c = '/' && rest.head? = some '/') then
      skipBlanks true (position.advance c) rest
    else (position, c :: rest)

/-- A piece of text that starts no lexeme, and where it stands. -/
structure Unreadable where
  position : Position
  text : String
  deriving DecidableEq, Repr

/-- What one step of a scan finds. -/
inductive Scan where
  | token (token : Token)
  | stop (position : Position)
  | unreadable (problem : Unreadable)
  deriving DecidableEq, Repr

/-- The text that is still to be scanned, or nothing when the scan is over. -/
structure Scanner where
  position : Position
  rest : List Char
  finished : Bool := false
  deriving DecidableEq, Repr

namespace Scanner

/-- A scanner at the start of a source. -/
def ofSource (source : String) : Scanner :=
  ⟨.start, source.toList, false⟩

/-- One step: the next token, the end of the text, or unreadable text; nothing once finished. -/
def next? (scanner : Scanner) : Option (Scan × Scanner) :=
  if scanner.finished then none
  else
    match skipBlanks false scanner.position scanner.rest with
    | (position, []) => some (.stop position, ⟨position, [], true⟩)
    | (position, c :: rest) =>
      let found := munch c rest
      match found.lexeme with
      | none =>
        some (.unreadable ⟨position, String.ofList found.text⟩, ⟨position, c :: rest, true⟩)
      | some lexeme =>
        some (.token ⟨lexeme, position, byteLength found.text⟩,
          ⟨position.advanceBy found.text, found.rest, false⟩)

/-- Scan at most `steps` times. -/
def run : Nat → Scanner → List Scan
  | 0, _ => []
  | steps + 1, scanner =>
    match scanner.next? with
    | none => []
    | some (scan, after) => scan :: run steps after

/-- Everything that is still to be found; each token takes at least one character. -/
def remaining (scanner : Scanner) : List Scan :=
  scanner.run (scanner.rest.length + 1)

end Scanner

/-- The tokens of a finished scan, up to the end of the text or the first unreadable piece. -/
def TokenList.ofScans : List Scan → Except Unreadable TokenList
  | [] => .ok ⟨[], .start⟩
  | .stop position :: _ => .ok ⟨[], position⟩
  | .unreadable problem :: _ => .error problem
  | .token token :: scans =>
    match ofScans scans with
    | .ok list => .ok { list with tokens := token :: list.tokens }
    | .error problem => .error problem

/-- Cut a source into tokens. -/
def tokenize (source : String) : Except Unreadable TokenList :=
  TokenList.ofScans (Scanner.ofSource source).remaining

end Schemata
