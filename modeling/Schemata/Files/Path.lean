import Schemata.Text.Split

/-!
# Paths

A path is cut into parts at slashes. For its name and the directory around it,
empty parts and single dots count for nothing, except for a dot right at the start.
-/

namespace Schemata.Files

/-- The parts of a path, empty ones included. -/
def pathParts (path : String) : List String :=
  (Text.splitWhere (· = '/') path.toList).map String.ofList

/-- Whether a path starts at the root. -/
def isAbsolute (path : String) : Bool :=
  path.toList.head? = some '/'

/-- The parts of a path that count. -/
def pathSteps (path : String) : List String :=
  match pathParts path with
  | "." :: parts => "." :: parts.filter fun part => part ≠ "" && part ≠ "."
  | parts => parts.filter fun part => part ≠ "" && part ≠ "."

/-- The path of some steps. -/
def pathOfSteps (absolute : Bool) (steps : List String) : String :=
  (if absolute then "/" else "") ++ "/".intercalate steps

/-- The directory around what a path leads to; the root and the empty path have none. -/
def parent? (path : String) : Option String :=
  match pathSteps path with
  | [] => none
  | steps => some (pathOfSteps (isAbsolute path) steps.dropLast)

/-- The last part of a path, if it is a name. -/
def fileName? (path : String) : Option String :=
  match (pathSteps path).getLast? with
  | some step => if step = ".." || step = "." then none else some step
  | none => none

/-- The part of a name behind its last dot, if something is before the dot. -/
def extensionOf (name : String) : String :=
  match (Text.splitWhere (· = '.') name.toList).reverse with
  | last :: before :: earlier =>
    if before.isEmpty && earlier.isEmpty then "" else String.ofList last
  | _ => ""

/-- The extension of a path; without one it is empty. -/
def extension (path : String) : String :=
  ((fileName? path).map extensionOf).getD ""

/-- A name in a directory. -/
def joinPath (directory name : String) : String :=
  if directory = "" || directory.toList.getLast? = some '/' then directory ++ name
  else directory ++ "/" ++ name

end Schemata.Files
