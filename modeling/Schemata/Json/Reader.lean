/-!
# Reading JSON

Readers of single values from the front of a text: each takes the characters of
one value and gives back the rest. A value that nobody asks for is only skipped,
which checks its form; a string in it may then spell half of a surrogate pair,
which stands for no text and is refused where a text is asked for.
-/

namespace Schemata.Json

/-- Whether a character may stand between values. -/
def isBlank (c : Char) : Bool :=
  c = ' ' || c = '\n' || c = '\t' || c = '\r'

/-- A text without the blanks at its front. -/
def skipBlanks (text : List Char) : List Char :=
  text.dropWhile isBlank

/-! ## Strings -/

/-- What a string is spelled with: characters, and code units written in hexadecimal. -/
inductive StringUnit where
  | plain (c : Char)
  | code (unit : Nat)
  deriving DecidableEq, Repr

/-- The value of a hexadecimal digit. -/
def hexDigit? (c : Char) : Option Nat :=
  if c.isDigit then some (c.toNat - '0'.toNat)
  else if 'a' ≤ c && c ≤ 'f' then some (c.toNat - 'a'.toNat + 10)
  else if 'A' ≤ c && c ≤ 'F' then some (c.toNat - 'A'.toNat + 10)
  else none

/-- The value of hexadecimal digits. -/
def hexNumber? (digits : List Char) : Option Nat :=
  digits.foldlM (fun value c => (hexDigit? c).map (value * 16 + ·)) 0

/-- The character that a letter behind a backslash stands for. -/
def escape? (c : Char) : Option Char :=
  match c with
  | '"' => some '"'
  | '\\' => some '\\'
  | '/' => some '/'
  | 'b' => some (Char.ofNat 8)
  | 'f' => some (Char.ofNat 12)
  | 'n' => some '\n'
  | 'r' => some '\r'
  | 't' => some '\t'
  | _ => none

/-- The units of a string up to its closing quote, and the rest behind it. -/
def stringUnits? : Nat → List Char → Option (List StringUnit × List Char)
  | 0, _ => none
  | _, [] => none
  | fuel + 1, c :: rest =>
    if c = '"' then
      some ([], rest)
    else if c = '\\' then
      match rest with
      | [] => none
      | 'u' :: rest => do
        if rest.length < 4 then none
        let unit ← hexNumber? (rest.take 4)
        let (units, rest) ← stringUnits? fuel (rest.drop 4)
        return (.code unit :: units, rest)
      | e :: rest => do
        let meant ← escape? e
        let (units, rest) ← stringUnits? fuel rest
        return (.plain meant :: units, rest)
    else if c.toNat < 32 then
      none
    else do
      let (units, rest) ← stringUnits? fuel rest
      return (.plain c :: units, rest)

/-- Whether a code unit is the first half of a pair. -/
def isHighHalf (unit : Nat) : Bool := 0xD800 ≤ unit && unit < 0xDC00

/-- Whether a code unit is the second half of a pair. -/
def isLowHalf (unit : Nat) : Bool := 0xDC00 ≤ unit && unit < 0xE000

/-- The text that units stand for, unless there is half of a pair among them. -/
def textOfUnits? : List StringUnit → Option (List Char)
  | [] => some []
  | .plain c :: units => (textOfUnits? units).map (c :: ·)
  | .code high :: .code low :: units =>
    if isHighHalf high then
      if isLowHalf low then
        (textOfUnits? units).map
          (Char.ofNat ((high - 0xD800) * 1024 + (low - 0xDC00) + 0x10000) :: ·)
      else
        none
    else if isLowHalf high then
      none
    else
      (textOfUnits? (.code low :: units)).map (Char.ofNat high :: ·)
  | .code unit :: units =>
    if isHighHalf unit || isLowHalf unit then none
    else (textOfUnits? units).map (Char.ofNat unit :: ·)

/-- The units of a string at the front of a text. -/
def readUnits? : List Char → Option (List StringUnit × List Char)
  | '"' :: rest => stringUnits? (rest.length + 1) rest
  | _ => none

/-- A string at the front of a text. -/
def readText? (text : List Char) : Option (String × List Char) := do
  let (units, rest) ← readUnits? text
  let content ← textOfUnits? units
  return (String.ofList content, rest)

/-! ## Words and numbers -/

/-- The rest of a text behind a word. -/
def skipWord? (word : List Char) (text : List Char) : Option (List Char) :=
  if word.isPrefixOf text then some (text.drop word.length) else none

/-- The rest of a text behind at least one digit. -/
def skipDigits? : List Char → Option (List Char)
  | c :: rest => if c.isDigit then some (rest.dropWhile Char.isDigit) else none
  | [] => none

/-- The rest of a text behind the whole part of a number, which has no needless zeros. -/
def skipWhole? : List Char → Option (List Char)
  | '0' :: rest => if (rest.head?.map Char.isDigit).getD false then none else some rest
  | text => skipDigits? text

/-- The rest of a text behind the fraction of a number, if there is one. -/
def skipFraction? : List Char → Option (List Char)
  | '.' :: rest => skipDigits? rest
  | text => some text

/-- The rest of a text behind the sign of an exponent, if there is one. -/
def skipSign : List Char → List Char
  | c :: rest => if c = '+' || c = '-' then rest else c :: rest
  | [] => []

/-- The rest of a text behind the exponent of a number, if there is one. -/
def skipExponent? : List Char → Option (List Char)
  | c :: rest =>
    if c = 'e' || c = 'E' then skipDigits? (skipSign rest) else some (c :: rest)
  | [] => some []

/-- The rest of a text behind a number. -/
def skipNumber? (text : List Char) : Option (List Char) :=
  let unsigned := match text with
    | '-' :: rest => rest
    | _ => text
  skipWhole? unsigned >>= skipFraction? >>= skipExponent?

/-- A truth value at the front of a text. -/
def readBool? (text : List Char) : Option (Bool × List Char) :=
  match skipWord? "true".toList text with
  | some rest => some (true, rest)
  | none => (skipWord? "false".toList text).map fun rest => (false, rest)

/-! ## Whole values -/

mutual

/-- The rest of a text behind a value of any kind. -/
def skipValue? : Nat → List Char → Option (List Char)
  | 0, _ => none
  | _, [] => none
  | fuel + 1, c :: rest =>
    if c = '"' then (readUnits? (c :: rest)).map (·.2)
    else if c = '[' then
      match skipBlanks rest with
      | ']' :: rest => some rest
      | items => skipItems? fuel items
    else if c = '\x7b' then
      match skipBlanks rest with
      | '\x7d' :: rest => some rest
      | members => skipMembers? fuel members
    else if c = 't' then skipWord? "true".toList (c :: rest)
    else if c = 'f' then skipWord? "false".toList (c :: rest)
    else if c = 'n' then skipWord? "null".toList (c :: rest)
    else skipNumber? (c :: rest)

/-- The rest of a text behind the items of an array and its closing bracket. -/
def skipItems? : Nat → List Char → Option (List Char)
  | 0, _ => none
  | fuel + 1, text => do
    let rest ← skipValue? fuel text
    match skipBlanks rest with
    | ',' :: rest => skipItems? fuel (skipBlanks rest)
    | ']' :: rest => some rest
    | _ => none

/-- The rest of a text behind the members of an object and its closing brace. -/
def skipMembers? : Nat → List Char → Option (List Char)
  | 0, _ => none
  | fuel + 1, text => do
    let (_, rest) ← readUnits? text
    match skipBlanks rest with
    | ':' :: rest =>
      let rest ← skipValue? fuel (skipBlanks rest)
      match skipBlanks rest with
      | ',' :: rest => skipMembers? fuel (skipBlanks rest)
      | '\x7d' :: rest => some rest
      | _ => none
    | _ => none

end

/-- The rest of a text behind a value of any kind; every level takes a character of the text. -/
def skipAny? (text : List Char) : Option (List Char) :=
  skipValue? (2 * text.length + 2) text

/-- The strings of an array up to its closing bracket. -/
def readTextItems? : Nat → List Char → Option (List String × List Char)
  | 0, _ => none
  | fuel + 1, text => do
    let (first, rest) ← readText? text
    match skipBlanks rest with
    | ',' :: rest =>
      let (others, rest) ← readTextItems? fuel (skipBlanks rest)
      return (first :: others, rest)
    | ']' :: rest => some ([first], rest)
    | _ => none

/-- An array of strings at the front of a text. -/
def readTexts? : List Char → Option (List String × List Char)
  | '[' :: rest =>
    match skipBlanks rest with
    | ']' :: rest => some ([], rest)
    | items => readTextItems? (items.length + 1) items
  | _ => none

/-- A string or null at the front of a text. -/
def readTextOrNull? (text : List Char) : Option (Option String × List Char) :=
  match skipWord? "null".toList text with
  | some rest => some (none, rest)
  | none => (readText? text).map fun (content, rest) => (some content, rest)

end Schemata.Json
