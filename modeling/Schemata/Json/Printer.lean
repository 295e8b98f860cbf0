import Schemata.Json.Value
import Schemata.Text.Lines

/-!
# Writing JSON

Two layouts: compact, without any blank, and indented by two spaces a level with
one item a line. An empty array or object has no line of its own in either.
-/

namespace Schemata.Json

/-- A character as it stands inside a JSON string. -/
def escapedCharacter (c : Char) : List Char :=
  if c = '"' then ['\\', '"']
  else if c = '\\' then ['\\', '\\']
  else if c = '\n' then ['\\', 'n']
  else if c = '\r' then ['\\', 'r']
  else if c = '\t' then ['\\', 't']
  else if c.toNat = 8 then ['\\', 'b']
  else if c.toNat = 12 then ['\\', 'f']
  else if c.toNat < 32 then
    ['\\', 'u', '0', '0', Nat.digitChar (c.toNat / 16), Nat.digitChar (c.toNat % 16)]
  else [c]

/-- A text as a JSON string. -/
def escaped (content : String) : String :=
  String.ofList ('"' :: content.toList.flatMap escapedCharacter ++ ['"'])

/-- A truth value as it is written. -/
def truth (value : Bool) : String :=
  if value then "true" else "false"

mutual

/-- A value without blanks. -/
def Value.compact : Value → String
  | .null => "null"
  | .bool value => truth value
  | .number digits => digits
  | .text content => escaped content
  | .array items => "[" ++ ",".intercalate (compactItems items) ++ "]"
  | .object members => "\x7b" ++ ",".intercalate (compactMembers members) ++ "\x7d"

/-- The items of an array without blanks. -/
def compactItems : List Value → List String
  | [] => []
  | item :: items => item.compact :: compactItems items

/-- The members of an object without blanks. -/
def compactMembers : List (String × Value) → List String
  | [] => []
  | (key, value) :: members =>
    (escaped key ++ ":" ++ value.compact) :: compactMembers members

end

/-- Parts between brackets, one a line and indented by a level. -/
def bracketed (opening closing : String) (level : Nat) (parts : List String) : String :=
  if parts.isEmpty then
    opening ++ closing
  else
    let indent := "\n" ++ Text.repeated "  " (level + 1)
    opening ++ indent ++ ("," ++ indent).intercalate parts ++ "\n" ++
      Text.repeated "  " level ++ closing

mutual

/-- A value at a level of indentation. -/
def Value.prettyAt (level : Nat) : Value → String
  | .null => "null"
  | .bool value => truth value
  | .number digits => digits
  | .text content => escaped content
  | .array items => bracketed "[" "]" level (prettyItems (level + 1) items)
  | .object members => bracketed "\x7b" "\x7d" level (prettyMembers (level + 1) members)

/-- The items of an array at a level of indentation. -/
def prettyItems (level : Nat) : List Value → List String
  | [] => []
  | item :: items => item.prettyAt level :: prettyItems level items

/-- The members of an object at a level of indentation. -/
def prettyMembers (level : Nat) : List (String × Value) → List String
  | [] => []
  | (key, value) :: members =>
    (escaped key ++ ": " ++ value.prettyAt level) :: prettyMembers level members

end

/-- A value with one item a line. -/
def Value.pretty (value : Value) : String := value.prettyAt 0

end Schemata.Json
