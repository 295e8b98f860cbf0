import Schemata.Files.Access
import Schemata.Source.Diagnostic

/-!
# Compiling a file

A schema is read from a file and compiled. A file that cannot be read has a report
too, without a place.
-/

namespace Schemata

open Files (FileAccess FileError)

/-- Why the schema in a file has no plan. -/
inductive FileCompileError where
  | unreadable (path : String) (error : FileError)
  | refused (error : CompileError)

namespace FileCompileError

/-- An error as it is reported. -/
def message : FileCompileError → String
  | unreadable path error => "cannot read " ++ path ++ ": " ++ error.message
  | refused error => error.message

/-- What is reported about a file without a plan. -/
def diagnostics : FileCompileError → List Diagnostic
  | unreadable path error => [⟨message (unreadable path error), none, 0, []⟩]
  | refused error => error.diagnostics

end FileCompileError

/-- The source of a file and its plan. -/
def compileFile {m : Type → Type} [Monad m] (files : FileAccess m) (path : String) :
    m (Except FileCompileError (String × Plan)) := do
  match ← files.read path with
  | .error error => return .error (.unreadable path error)
  | .ok source =>
    match compile source with
    | .error error => return .error (.refused error)
    | .ok plan => return .ok (source, plan)

end Schemata
