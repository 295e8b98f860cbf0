import Schemata.Source.Position
import Schemata.Text.Lines

/-!
# Snippets

A snippet shows the line of a position, the line before it, and an underline. The
line is found by the byte offset of the position; its number and the start of the
underline are taken from the position as they are. A tab is shown as four spaces.
There is no snippet for an offset inside a character.
-/

namespace Schemata

/--
A text cut at a byte offset. An offset past the end means the end, and there is no
cut inside a character.
-/
def cutAtByte? : List Char → Nat → Option (List Char × List Char)
  | [], _ => some ([], [])
  | c :: rest, offset =>
    if offset = 0 then some ([], c :: rest)
    else if offset < c.utf8Size then none
    else (cutAtByte? rest (offset - c.utf8Size)).map fun (front, back) => (c :: front, back)

/-- The line around a cut, and the line before it. -/
structure LineContext where
  previous : Option (List Char)
  line : List Char

/-- The lines around a byte offset, without carriage returns at their ends. -/
def LineContext.at? (source : List Char) (offset : Nat) : Option LineContext :=
  (cutAtByte? source offset).map fun (front, back) =>
    let pieces := Text.splitWhere (· = '\n') front
    let rest := back.takeWhile (· ≠ '\n')
    { previous := pieces.dropLast.getLast?.map Text.dropTrailingReturn
      line := Text.dropTrailingReturn (pieces.getLastD [] ++ rest) }

/-- The number of spaces that a tab is shown as. -/
def tabWidth : Nat := 4

/-- The width of a text when it is shown. -/
def shownWidth (text : List Char) : Nat :=
  text.foldr (fun c width => (if c = '\t' then tabWidth else 1) + width) 0

/-- A text with its tabs shown as spaces. -/
def showTabs (text : List Char) : List Char :=
  text.flatMap fun c => if c = '\t' then List.replicate tabWidth ' ' else [c]

/-- A line with its number in front. -/
def numberedLine (number : Nat) (line : List Char) : String :=
  Text.padLeft 4 (toString number) ++ ": " ++ String.ofList (showTabs line) ++ "\n"

/-- How far a byte column is from the start of a line; a column outside of it means its end. -/
def underlineIndent (line : List Char) (column : Nat) : Nat :=
  match cutAtByte? line (column - 1) with
  | some (front, _) => shownWidth front
  | none => shownWidth line

/-- The lines around a position, with an underline of at least one mark. -/
def snippet? (source : String) (position : Position) (size : Nat) : Option String :=
  (LineContext.at? source.toList position.offset).map fun context =>
    let previous := match context.previous with
      | some line => numberedLine (position.line - 1) line
      | none => ""
    previous ++ numberedLine position.line context.line ++
      Text.repeated " " (underlineIndent context.line position.column + 6) ++
      Text.repeated "^" (max size 1)

end Schemata
