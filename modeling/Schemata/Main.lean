import Schemata.Command.Run

/-!
# The program

Runs a command line on the files of the system.
-/

namespace Schemata

open Files (FileAccess FileError)

/-- The number of a system error, which some calls report below zero. -/
def errorNumber (code : UInt32) : Nat :=
  if code.toNat < 2147483648 then code.toNat else 4294967296 - code.toNat

/-- The cause of an error of the system. -/
def fileErrorOf : IO.Error → FileError
  | .noFileOrDirectory .. => .notFound
  | .inappropriateType _ code _ => if errorNumber code = 21 then .isDirectory else .notDirectory
  | .invalidArgument _ code reason =>
    if errorNumber code = 36 then .nameTooLong else .other reason
  | .permissionDenied .. => .permissionDenied
  | error => .other (toString error)

/-- Read the text of a file of the system. -/
def readSystemFile (path : String) : IO (Except FileError String) := do
  try
    match String.fromUTF8? (← IO.FS.readBinFile path) with
    | some content => return .ok content
    | none => return .error .notText
  catch error => return .error (fileErrorOf error)

/-- Access to the files of the system. -/
def systemFiles : FileAccess IO where
  read := readSystemFile
  isFile path := do
    match ← readSystemFile path with
    | .ok _ => return true
    | .error .notText => return true
    | .error _ => return false
  write path content := do
    try
      IO.FS.writeFile path content
      return .ok ()
    catch error => return .error (fileErrorOf error)

end Schemata

/-- Run a command line. -/
def main (arguments : List String) : IO UInt32 := do
  let outcome ← Schemata.Command.run Schemata.systemFiles arguments
  IO.print outcome.output
  match outcome.failure? with
  | some failure =>
    for report in failure.reports do
      IO.eprintln report
    IO.eprintln failure.text
  | none => pure ()
  return outcome.exitCode.toUInt32
