import Schemata.Json.Reader
import Schemata.Toml.Scalar

/-!
# Reading TOML

A document is read line by line: comments, headers, and keys with values. Control
characters other than tabs are nowhere allowed, and a carriage return only before
a newline. Arrays and inline tables may be nested, and keys may be dotted, up to a
fixed depth.
-/

namespace Schemata.Toml

/-- The depth at which nesting is refused. -/
def depthLimit : Nat := 80

/-! ## Blanks, comments and lines -/

/-- Whether a character is a blank inside of a line. -/
def isBlank (c : Char) : Bool := c = ' ' || c = '\t'

/-- A text without the blanks at its front. -/
def skipBlanks (text : List Char) : List Char := text.dropWhile isBlank

/-- Whether a character may stand in comments and strings. -/
def isPlain (c : Char) : Bool :=
  c = '\t' || (32 ≤ c.toNat && c.toNat ≠ 127)

/-- The rest of a text behind a newline. -/
def skipNewline? : List Char → Option (List Char)
  | '\n' :: rest => some rest
  | '\r' :: '\n' :: rest => some rest
  | _ => none

/-- A text without the comment at its front, if there is one. -/
def skipComment : List Char → List Char
  | '#' :: rest => rest.dropWhile isPlain
  | text => text

/-- The rest of a text behind the end of a line, before which a comment may stand. -/
def skipLineEnd? (text : List Char) : Option (List Char) :=
  match skipComment (skipBlanks text) with
  | [] => some []
  | rest => skipNewline? rest

/-- The rest of a text behind blanks, newlines, and comments that newlines follow. -/
def skipFiller? : Nat → List Char → Option (List Char)
  | 0, _ => none
  | fuel + 1, text =>
    match skipBlanks text with
    | [] => some []
    | c :: rest =>
      if c = '#' then do
        let next ← skipNewline? (skipComment (c :: rest))
        skipFiller? fuel next
      else if c = '\n' || c = '\r' then do
        let next ← skipNewline? (c :: rest)
        skipFiller? fuel next
      else
        some (c :: rest)

/-! ## Strings -/

/-- The character that a letter behind a backslash stands for. -/
def escape? (c : Char) : Option Char :=
  match c with
  | '"' => some '"'
  | '\\' => some '\\'
  | 'b' => some (Char.ofNat 8)
  | 'f' => some (Char.ofNat 12)
  | 'n' => some '\n'
  | 'r' => some '\r'
  | 't' => some '\t'
  | _ => none

/-- The character that a number of hexadecimal digits stand for, and the rest. -/
def codePoint? (count : Nat) (text : List Char) : Option (Char × List Char) := do
  if text.length < count then none
  let value ← Json.hexNumber? (text.take count)
  if value.isValidChar then some (Char.ofNat value, text.drop count) else none

/-- The character that an escape stands for, and the rest; the backslash was read. -/
def readEscape? : List Char → Option (Char × List Char)
  | 'u' :: rest => codePoint? 4 rest
  | 'U' :: rest => codePoint? 8 rest
  | c :: rest => (escape? c).map fun meant => (meant, rest)
  | [] => none

/-- The content of a quoted string on one line, up to its closing quote. -/
def basicContent? : Nat → List Char → Option (List Char × List Char)
  | 0, _ => none
  | _, [] => none
  | fuel + 1, c :: rest =>
    if c = '"' then
      some ([], rest)
    else if c = '\\' then do
      let (meant, rest) ← readEscape? rest
      let (content, rest) ← basicContent? fuel rest
      return (meant :: content, rest)
    else if isPlain c then do
      let (content, rest) ← basicContent? fuel rest
      return (c :: content, rest)
    else
      none

/-- The content of a literal string on one line, up to its closing apostrophe. -/
def literalContent? : List Char → Option (List Char × List Char)
  | [] => none
  | c :: rest =>
    if c = '\'' then some ([], rest)
    else if isPlain c then (literalContent? rest).map fun (content, rest) => (c :: content, rest)
    else none

/-- The rest of a text behind a line that a backslash continues, and all blanks after it. -/
def skipContinuation? (text : List Char) : Option (List Char) := do
  let rest ← skipNewline? (skipBlanks text)
  return skipAll rest
where
  /-- The rest of a text behind blanks and newlines. -/
  skipAll : List Char → List Char
    | [] => []
    | '\r' :: '\n' :: rest => skipAll rest
    | c :: rest => if isBlank c || c = '\n' then skipAll rest else c :: rest

/--
The content of a string over several lines, up to the three marks that close it. One
or two marks belong to the content, also right before the closing ones.
-/
def longContent? (mark : Char) (escapes : Bool) :
    Nat → List Char → Option (List Char × List Char)
  | 0, _ => none
  | _, [] => none
  | fuel + 1, c :: rest =>
    if c = mark then
      let marks := (rest.takeWhile (· = mark)).length + 1
      let behind := rest.dropWhile (· = mark)
      if marks < 3 then do
        let (content, rest) ← longContent? mark escapes fuel behind
        return (List.replicate marks mark ++ content, rest)
      else if marks ≤ 5 then
        some (List.replicate (marks - 3) mark, behind)
      else
        none
    else if c = '\\' && escapes then
      match skipContinuation? rest with
      | some rest => longContent? mark escapes fuel rest
      | none => do
        let (meant, rest) ← readEscape? rest
        let (content, rest) ← longContent? mark escapes fuel rest
        return (meant :: content, rest)
    else if c = '\n' || c = '\r' then do
      let rest ← skipNewline? (c :: rest)
      let (content, rest) ← longContent? mark escapes fuel rest
      return ('\n' :: content, rest)
    else if isPlain c then do
      let (content, rest) ← longContent? mark escapes fuel rest
      return (c :: content, rest)
    else
      none

/-- The content of a string over several lines; a newline right at its start is dropped. -/
def readLong? (mark : Char) (escapes : Bool) (text : List Char) :
    Option (List Char × List Char) :=
  let start := (skipNewline? text).getD text
  longContent? mark escapes (start.length + 1) start

/-- A string at the front of a text. -/
def readString? : List Char → Option (List Char × List Char)
  | '"' :: '"' :: '"' :: rest => readLong? '"' true rest
  | '\'' :: '\'' :: '\'' :: rest => readLong? '\'' false rest
  | '"' :: rest => basicContent? (rest.length + 1) rest
  | '\'' :: rest => literalContent? rest
  | _ => none

/-! ## Keys -/

/-- Whether a character may stand in a key without quotes. -/
def isKeyCharacter (c : Char) : Bool :=
  c.isAlphanum || c = '_' || c = '-'

/-- One part of a key. -/
def readKeyPart? : List Char → Option (String × List Char)
  | [] => none
  | c :: rest => do
    let (content, rest) ←
      if c = '"' then basicContent? (rest.length + 1) rest
      else if c = '\'' then literalContent? rest
      else if isKeyCharacter c then
        some ((c :: rest).takeWhile isKeyCharacter, (c :: rest).dropWhile isKeyCharacter)
      else none
    return (String.ofList content, rest)

/-- The parts of a key with dots between them; blanks may stand around each part. -/
def readKeyParts? : Nat → List Char → Option (List String × List Char)
  | 0, _ => none
  | fuel + 1, text => do
    let (part, rest) ← readKeyPart? (skipBlanks text)
    match skipBlanks rest with
    | '.' :: rest =>
      let (parts, rest) ← readKeyParts? fuel rest
      return (part :: parts, rest)
    | rest => some ([part], rest)

/-- A key: the path to its table, and its last part. -/
def readKey? (text : List Char) : Option (List String × String × List Char) := do
  let (parts, rest) ← readKeyParts? (text.length + 1) text
  let last ← parts.getLast?
  if parts.length < depthLimit then some (parts.dropLast, last, rest) else none

/-! ## Values -/

/-- What is written without quotes or brackets; a time may follow a date behind a space. -/
def readScalar? (text : List Char) : Option (Value × List Char) :=
  let word := text.takeWhile isScalarCharacter
  let rest := text.dropWhile isScalarCharacter
  match rest with
  | ' ' :: c :: _ =>
    if isDate word && c.isDigit then
      let time := (rest.drop 1).takeWhile isScalarCharacter
      if isClockTime time then some (.moment, (rest.drop 1).dropWhile isScalarCharacter) else none
    else
      (scalar? word).map fun value => (value, rest)
  | _ => (scalar? word).map fun value => (value, rest)

mutual

/-- A value at the front of a text, inside of a number of brackets. -/
def readValue? : Nat → Nat → List Char → Option (Value × List Char)
  | 0, _, _ => none
  | _, _, [] => none
  | fuel + 1, depth, c :: rest =>
    if c = '"' || c = '\'' then
      (readString? (c :: rest)).map fun (content, rest) => (.text (String.ofList content), rest)
    else if c = '[' then
      if depthLimit ≤ depth + 1 then none
      else (readItems? fuel (depth + 1) rest).map fun (items, rest) => (.array items, rest)
    else if c = '\x7b' then
      if depthLimit ≤ depth + 1 then none
      else
        match skipBlanks rest with
        | '\x7d' :: rest => some (.table .inline [], rest)
        | members =>
          (readMembers? fuel (depth + 1) [] members).map fun (entries, rest) =>
            (.table .inline entries, rest)
    else
      readScalar? (c :: rest)

/-- The items of an array up to its closing bracket; a comma may follow the last one. -/
def readItems? : Nat → Nat → List Char → Option (List Value × List Char)
  | 0, _, _ => none
  | fuel + 1, depth, text => do
    match ← skipFiller? (text.length + 1) text with
    | ']' :: rest => some ([], rest)
    | start =>
      let (item, rest) ← readValue? fuel depth start
      match ← skipFiller? (rest.length + 1) rest with
      | ',' :: rest =>
        let (items, rest) ← readItems? fuel depth rest
        return (item :: items, rest)
      | ']' :: rest => some ([item], rest)
      | _ => none

/-- The members of an inline table up to its closing brace. -/
def readMembers? : Nat → Nat → Entries → List Char → Option (Entries × List Char)
  | 0, _, _, _ => none
  | fuel + 1, depth, entries, text => do
    let (path, key, rest) ← readKey? text
    match rest with
    | '=' :: rest =>
      let (value, rest) ← readValue? fuel depth (skipBlanks rest)
      let entries ← assign path key value .inline entries
      match skipBlanks rest with
      | ',' :: rest => readMembers? fuel depth entries rest
      | '\x7d' :: rest => some (entries, rest)
      | _ => none
    | _ => none

end

/-! ## Documents -/

/-- What was read of a document: its entries, and the path of the table that is open. -/
structure Progress where
  entries : Entries := []
  current : List String := []

/-- Read a header; the opening bracket was read. -/
def readHeader? (progress : Progress) (text : List Char) : Option (Progress × List Char) :=
  match text with
  | '[' :: rest => do
    let (path, key, rest) ← readKey? rest
    let rest ← Json.skipWord? [']', ']'] rest
    let entries ← editAt false path (openNextTable key) .header progress.entries
    return (⟨entries, path ++ [key]⟩, rest)
  | _ => do
    let (path, key, rest) ← readKey? text
    let rest ← Json.skipWord? [']'] rest
    let entries ← editAt false path (openTable key) .header progress.entries
    return (⟨entries, path ++ [key]⟩, rest)

/-- Read a key with its value. -/
def readEntry? (progress : Progress) (text : List Char) : Option (Progress × List Char) := do
  let (path, key, rest) ← readKey? text
  let rest ← Json.skipWord? ['='] rest
  let (value, rest) ← readValue? (2 * text.length + 2) 0 (skipBlanks rest)
  let entries ← editAt false progress.current (assign path key value) .header progress.entries
  return ({ progress with entries }, rest)

/-- Read the lines of a document. -/
def readLines? : Nat → Progress → List Char → Option Entries
  | 0, _, _ => none
  | fuel + 1, progress, text =>
    match skipBlanks text with
    | [] => some progress.entries
    | c :: rest =>
      if c = '#' || c = '\n' || c = '\r' then do
        let rest ← skipLineEnd? (c :: rest)
        readLines? fuel progress rest
      else do
        let (progress, rest) ←
          if c = '[' then readHeader? progress rest else readEntry? progress (c :: rest)
        let rest ← skipLineEnd? rest
        readLines? fuel progress rest

/-- The entries of a document; a byte order mark at its start is dropped. -/
def read? (text : String) : Option Entries :=
  let characters := match text.toList with
    | c :: rest => if c.toNat = 0xFEFF then rest else c :: rest
    | [] => []
  readLines? (characters.length + 1) {} characters

end Schemata.Toml
