import Schemata.Text.Hidden

/-!
# Quoted texts

A text between double quotes in which every character can be seen: quotes,
backslashes and the common controls have short escapes, other hidden characters
are spelled by their code point in hexadecimal. Messages show names and found
text this way, and generated code uses it for one-line literals.
-/

namespace Schemata.Text

/-- A character as it stands inside a quoted text. -/
def quotedCharacter (c : Char) : List Char :=
  if c = '"' then ['\\', '"']
  else if c = '\\' then ['\\', '\\']
  else if c = '\n' then ['\\', 'n']
  else if c = '\r' then ['\\', 'r']
  else if c = '\t' then ['\\', 't']
  else if c.toNat = 0 then ['\\', '0']
  else if isHidden c then ['\\', 'u', '{'] ++ Nat.toDigits 16 c.toNat ++ ['}']
  else [c]

/-- A text between double quotes, with hidden characters escaped. -/
def quoted (text : String) : String :=
  String.ofList ('"' :: text.toList.flatMap quotedCharacter ++ ['"'])

/-- A list of quoted texts between brackets. -/
def quotedList (texts : List String) : String :=
  "[" ++ ", ".intercalate (texts.map quoted) ++ "]"

end Schemata.Text
