import Schemata.Analysis
import Schemata.Declaration.Reader

/-!
# Compiling a schema

The text of a schema is read as declarations, which are resolved into a plan. The
first thing that cannot be read stops it; problems of what was read are reported
all together.
-/

namespace Schemata

/-- Why a schema has no plan. -/
inductive CompileError where
  | reading (error : ReadError)
  | refused (problems : List Analysis.Problem)

namespace CompileError

/-- An error as it is reported. -/
def message : CompileError → String
  | reading error => error.message
  | refused problems => "\n".intercalate (problems.map Analysis.Problem.message)

/-- The place of the first thing that is wrong. -/
def position? : CompileError → Option Position
  | reading error => some error.position
  | refused problems => problems.head?.map (·.position)

end CompileError

/-- The plan of a schema's text. -/
def compile (source : String) : Except CompileError Plan :=
  match Declaration.Schema.parse source with
  | .error error => .error (.reading error)
  | .ok schema =>
    match Analysis.analyze schema with
    | .error problems => .error (.refused problems)
    | .ok plan => .ok plan

end Schemata
