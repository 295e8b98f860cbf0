import Schemata.Compile
import Schemata.Source.Snippet

/-!
# Diagnostics

Something to be reported about a source text: a message, its place, and further
places that explain it. A diagnostic is written with a snippet for each place.
-/

namespace Schemata

/-- A further place of a diagnostic. -/
structure Note where
  position : Position
  size : Nat
  message : String
  deriving DecidableEq, Repr

/-- Something to be reported. -/
structure Diagnostic where
  message : String
  position : Option Position
  size : Nat
  notes : List Note := []
  deriving DecidableEq, Repr

namespace Diagnostic

/-- A note that points at an earlier definition of the same size. -/
def previousDefinition (position : Position) (size : Nat) : Note :=
  ⟨position, size, "previous definition"⟩

/-- The report of something that cannot be read. -/
def ofReadError (error : ReadError) : Diagnostic :=
  let message := error.message
  match error with
  | .unreadable problem => ⟨message, some problem.position, problem.text.utf8ByteSize, []⟩
  | .expected position _ found => ⟨message, some position, found.utf8ByteSize, []⟩
  | .redefined position name _ previous =>
    ⟨message, some position, name.utf8ByteSize,
      [previousDefinition previous name.utf8ByteSize]⟩
  | .invalid position _ => ⟨message, some position, 1, []⟩

/-- The report of a problem. -/
def ofProblem (problem : Analysis.Problem) : Diagnostic where
  message := problem.message
  position := some problem.position
  size := problem.size
  notes := (problem.previous?.map fun previous =>
    previousDefinition previous problem.size).toList

/-- The snippet of a note, under a line that introduces it. -/
def noteText? (source : String) (note : Note) : Option String :=
  (snippet? source note.position note.size).map fun snippet =>
    "\nnote: " ++ note.message ++ " at " ++ note.position.describe ++ "\n" ++ snippet

/-- The snippet of the place of a diagnostic, if it has one. -/
def placeText? (source : String) (diagnostic : Diagnostic) : Option String :=
  match diagnostic.position with
  | none => some ""
  | some position => (snippet? source position diagnostic.size).map ("\n" ++ ·)

/-- A diagnostic with the snippets of all its places. -/
def plain? (source : String) (diagnostic : Diagnostic) : Option String := do
  let place ← placeText? source diagnostic
  let notes ← diagnostic.notes.mapM (noteText? source)
  return diagnostic.message ++ place ++ String.join notes

/--
The first line of a report, up to the first newline of the message; without a place
it is the whole message.
-/
def heading (diagnostic : Diagnostic) : String :=
  match diagnostic.position with
  | none => "error: " ++ diagnostic.message
  | some _ => "Error: " ++ String.ofList (diagnostic.message.toList.takeWhile (· ≠ '\n'))

/-- Whether lines and columns of a text are the same however they are counted. -/
def isPlainText (source : List Char) : Bool :=
  source.all fun c => c.toNat < 128 && c ≠ '\r' && c.toNat ≠ 11 && c.toNat ≠ 12

/--
The line and column of an offset. There is no line after a last newline: the end of
the text is then on the line that the newline ends, one column after it.
-/
def locate (source : List Char) (offset : Nat) : Nat × Nat :=
  let position := Position.start.forward source offset
  if offset ≥ byteLength source && source.getLast? = some '\n' then
    let newline := Position.start.advanceBy source.dropLast
    (newline.line, newline.column + 1)
  else
    (position.line, position.column)

/-- The file, line and column of a report, where these can be told. -/
def location? (name source : String) (diagnostic : Diagnostic) : Option String :=
  match diagnostic.position with
  | none => none
  | some position =>
    if isPlainText source.toList then
      let (line, column) := locate source.toList position.offset
      some (name ++ ":" ++ toString line ++ ":" ++ toString column)
    else
      none

end Diagnostic

/-- What is reported about a schema without a plan. -/
def CompileError.diagnostics : CompileError → List Diagnostic
  | reading error => [Diagnostic.ofReadError error]
  | refused problems => problems.map Diagnostic.ofProblem

end Schemata
