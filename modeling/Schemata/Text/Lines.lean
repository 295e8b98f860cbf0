import Schemata.Text.Split

/-!
# Lines of a text

A line ends at a newline, which does not belong to it; a carriage return right
before that newline does not belong to it either. A text that ends with a newline
has no further empty line.
-/

namespace Schemata.Text

/-- A line without the carriage return at its end. -/
def dropTrailingReturn (line : List Char) : List Char :=
  match line.getLast? with
  | some '\r' => line.dropLast
  | _ => line

/-- Drop the carriage returns before newlines, and the empty piece after a last newline. -/
def finishLines : List (List Char) → List (List Char)
  | [] => []
  | [last] => if last.isEmpty then [] else [last]
  | line :: lines => dropTrailingReturn line :: finishLines lines

/-- The lines of a text. -/
def lines (text : String) : List String :=
  (finishLines (splitWhere (· = '\n') text.toList)).map String.ofList

/-- A text repeated a number of times. -/
def repeated (text : String) (count : Nat) : String :=
  String.join (List.replicate count text)

/-- A text padded with spaces on the left up to a width. -/
def padLeft (width : Nat) (text : String) : String :=
  repeated " " (width - text.length) ++ text

/-- A text padded with spaces on the right up to a width. -/
def padRight (width : Nat) (text : String) : String :=
  text ++ repeated " " (width - text.length)

end Schemata.Text
