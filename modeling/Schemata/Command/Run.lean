import Schemata.Access.Artifact
import Schemata.Command.Listing
import Schemata.Command.Request
import Schemata.Json.Printer
import Schemata.Plan.Json
import Schemata.Settings.Load
import Schemata.Source.Diagnostic

/-!
# Running commands

What each command does with files, and how it ends. Files are accessed in any
monad, so that a command can be run on files in memory too.
-/

namespace Schemata.Command

open Files (FileAccess FileError)
open Sql (Dialect Registry)

/-- The version of the program. -/
def versionNumber : String := "0.1.6"

/-! ## How commands end -/

/-- Why a command fails, with a cause where there is one. -/
structure Failure where
  message : String
  cause : Option String := none
  /-- What was printed before the failure. -/
  output : String := ""
  /-- What is reported about the schema. -/
  reports : List String := []
  deriving DecidableEq, Repr

/-- A failure as it is printed. -/
def Failure.text (failure : Failure) : String :=
  "Error: " ++ failure.message ++
    match failure.cause with
    | some cause => "\n\nCaused by:\n    " ++ cause
    | none => ""

/-- How a command ends. -/
inductive Outcome where
  /-- The command line cannot be read. -/
  | misused
  /-- Everything was done, and something printed. -/
  | done (output : String)
  /-- Something failed. -/
  | failed (failure : Failure)
  deriving DecidableEq, Repr

namespace Outcome

/-- The exit code. -/
def exitCode : Outcome → Nat
  | misused => 2
  | done _ => 0
  | failed _ => 1

/-- What is printed. -/
def output : Outcome → String
  | misused => ""
  | done text => text
  | failed failure => failure.output

/-- Why it failed. -/
def failure? : Outcome → Option Failure
  | failed failure => some failure
  | _ => none

/-- The end of something that prints or fails. -/
def ofResult : Except Failure String → Outcome
  | .ok text => done text
  | .error failure => failed failure

end Outcome

/-! ## What commands print -/

/-- The failure of a schema that has no plan. -/
def compileFailure (path source : String) (error : CompileError) : Failure where
  message := "Schema '" ++ path ++ "' failed to compile"
  reports := error.diagnostics.map fun diagnostic =>
    (diagnostic.plain? source).getD diagnostic.message

/-- The failure of a dialect. -/
def dialectFailure (error : Sql.DialectError) : Failure :=
  { message := error.message }

/-- What checking a schema prints. -/
def checkText (path : String) (plan : Plan) : String :=
  "✅ Schema '" ++ path ++ "' is valid (" ++ toString plan.models.length ++ " models, " ++
    toString plan.queryCount ++ " queries)\n"

/-- The statements of a plan; the tables are printed even if a query fails. -/
def sqlText (plan : Plan) (dialectName : String) (schemaOnly : Bool) : Except Failure String := do
  let dialect ← (Registry.builtin.resolve dialectName).mapError dialectFailure
  let tables := Sql.schemaText dialect plan.toCatalog
  if schemaOnly then
    return tables
  else
    let queries ← (listingText dialect plan).mapError fun error =>
      { dialectFailure error with output := tables }
    return tables ++ queries

/-- A plan as JSON. -/
def planText (plan : Plan) (pretty : Bool) : String :=
  (if pretty then plan.toJson.pretty else plan.toJson.compact) ++ "\n"

/-- The dialects there are. -/
def dialectsText (json : Bool) : String :=
  let dialects := Registry.builtin.dialects
  if json then (Json.Value.ofList dialectJson dialects).pretty ++ "\n"
  else String.join (dialects.map dialectLine)

/-! ## Generating code -/

/-- Settings with the options of a command line in place of theirs. -/
def GenerateOptions.override (options : GenerateOptions) (settings : Settings) : Settings where
  module := options.module.getD settings.module
  dialects := if options.dialects.isEmpty then settings.dialects else options.dialects
  format := settings.format && !options.noFormat
  edition := settings.edition
  output := options.output.orElse fun _ => settings.output

/-- The program that formats code. No program is started here, so its text stays as it is. -/
def formatterFor (settings : Settings) : Access.Formatter :=
  if settings.format then Access.missingFormatter "rustfmt" else Access.verbatim

/-- The module of a plan by settings. -/
def generateArtifact (plan : Plan) (settings : Settings) : Except Failure Access.Artifact := do
  let dialects ← (Registry.builtin.resolveAll settings.dialects).mapError dialectFailure
  (Access.render settings.module plan dialects (formatterFor settings) {}).mapError fun error =>
    { message := error.message }

/-- What writing a module prints. -/
def wroteText (path : String) (artifact : Access.Artifact) : String :=
  "✅ Wrote " ++ path ++ " (" ++ toString artifact.signatures.signatures.length ++
    " exported methods)\n"

/-! ## Files -/

variable {m : Type → Type} [Monad m]

/-- The result of something on files. -/
abbrev Result (m : Type → Type) := ExceptT Failure m

/-- The plan of the schema in a file. -/
def compilePath (files : FileAccess m) (path : String) : Result m Plan := do
  match ← files.read path with
  | .error error =>
    throw { message := "Failed to read schema " ++ path, cause := some error.message }
  | .ok source => ExceptT.mk (pure ((compile source).mapError (compileFailure path source)))

/-- The directory in which the settings of a schema are looked for. -/
def settingsDirectory (schema : String) : String :=
  match Files.parent? schema with
  | some directory => if directory = "" then "." else directory
  | none => "."

/-- The settings for a schema: those of a given file, or of its directory, or the defaults. -/
def loadSettings (files : FileAccess m) (schema : String) :
    Option String → m (Except SettingsError Settings)
  | some path => Settings.load files path
  | none => do
    let found ← Settings.discover files (settingsDirectory schema)
    return found.map fun settings => settings.getD {}

/-- Write a module where its settings say, or print it. -/
def writeArtifact (files : FileAccess m) (artifact : Access.Artifact) :
    Option String → Result m String
  | none => return artifact.source
  | some path => do
    match ← files.write path artifact.source with
    | .error error =>
      throw { message := "Failed to write " ++ path, cause := some error.message }
    | .ok () => return wroteText path artifact

/-- Generate the code of a schema. -/
def generate (files : FileAccess m) (options : GenerateOptions) : Result m String := do
  let found : m (Except SettingsError Settings) :=
    loadSettings files options.schema options.config
  match ← found with
  | .error error => throw { message := error.message }
  | .ok loaded =>
    let settings := options.override loaded
    let plan ← compilePath files options.schema
    let artifact ← ExceptT.mk (pure (generateArtifact plan settings))
    writeArtifact files artifact settings.output

/-- Do what is asked for. -/
def Request.run (files : FileAccess m) : Request → Result m String
  | .generate options => Command.generate files options
  | .check schema => do return checkText schema (← compilePath files schema)
  | .sql schema dialect schemaOnly => do
    let plan ← compilePath files schema
    ExceptT.mk (pure (sqlText plan dialect schemaOnly))
  | .plan schema pretty => do return planText (← compilePath files schema) pretty
  | .dialects json => return dialectsText json
  | .version => return "dbgen v" ++ versionNumber ++ "\n"

/-- How to use the program. -/
def usageText : String :=
  "Usage: dbgen [OPTIONS] <COMMAND>\n\nCommands: generate, check, sql, ir, dialects, version\n"

/-- Run a command line. -/
def run (files : FileAccess m) (arguments : List String) : m Outcome :=
  match Request.ofArguments arguments with
  | .error .misused => return .misused
  | .error .help => return .done usageText
  | .error .version => return .done ("dbgen " ++ versionNumber ++ "\n")
  | .ok request => do return .ofResult (← (request.run files).run)

end Schemata.Command
