/-!
# Positions in a source text

A position counts lines and columns from one and bytes from zero; a column is the
number of bytes of the line before it, plus one. Positions are kept up to date
character by character while a text is read, and `Position.ofOffset` computes
the position of a byte offset on its own.
-/

namespace Schemata

/-- A place in a source text: line, byte column and byte offset. -/
structure Position where
  line : Nat
  column : Nat
  offset : Nat
  deriving DecidableEq, Repr, Inhabited

/-- The number of bytes of a text in UTF-8. -/
def byteLength (text : List Char) : Nat :=
  text.foldr (fun c bytes => c.utf8Size + bytes) 0

namespace Position

/-- The start of every text. -/
def start : Position := ⟨1, 1, 0⟩

/-- The position after one character. -/
def advance (position : Position) (c : Char) : Position :=
  if c = '\n' then
    ⟨position.line + 1, 1, position.offset + c.utf8Size⟩
  else
    ⟨position.line, position.column + c.utf8Size, position.offset + c.utf8Size⟩

/-- The position after a text. -/
def advanceBy (position : Position) (text : List Char) : Position :=
  text.foldl advance position

@[simp]
theorem advanceBy_nil (position : Position) : position.advanceBy [] = position := rfl

@[simp]
theorem advanceBy_cons (position : Position) (c : Char) (text : List Char) :
    position.advanceBy (c :: text) = (position.advance c).advanceBy text := rfl

/-- A position advances over a text piece by piece. -/
theorem advanceBy_append (position : Position) (front back : List Char) :
    position.advanceBy (front ++ back) = (position.advanceBy front).advanceBy back :=
  List.foldl_append

/-- The position `count` bytes further into a text, or at its end if the text is shorter. -/
def forward (position : Position) : List Char → Nat → Position
  | [], _ => position
  | c :: rest, count =>
    if count < c.utf8Size then
      { position with column := position.column + count, offset := position.offset + count }
    else
      (position.advance c).forward rest (count - c.utf8Size)

/-- The position of a byte offset, found by counting lines; offsets past the end mean the end. -/
def ofOffset (source : String) (offset : Nat) : Position :=
  start.forward source.toList offset

/-- Positions in reading order: by line, then column, then offset. -/
def before (a b : Position) : Bool :=
  a.line < b.line || (a.line == b.line &&
    (a.column < b.column || (a.column == b.column && a.offset < b.offset)))

/-- A position as messages show it. -/
def describe (position : Position) : String :=
  toString position.line ++ ":" ++ toString position.column

end Position

end Schemata
