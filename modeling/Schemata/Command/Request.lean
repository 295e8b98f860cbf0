import Schemata.Command.Arguments

/-!
# What a command line asks for

The commands with their options, and how a command line is read as one of them. In
front of the command there may be options of the program itself.
-/

namespace Schemata.Command

/-- The options of generating code. -/
structure GenerateOptions where
  schema : String
  config : Option String := none
  dialects : List String := []
  module : Option String := none
  output : Option String := none
  noFormat : Bool := false
  deriving DecidableEq, Repr

/-- What a command line asks for. -/
inductive Request where
  | generate (options : GenerateOptions)
  | check (schema : String)
  | sql (schema dialect : String) (schemaOnly : Bool)
  | plan (schema : String) (pretty : Bool)
  | dialects (json : Bool)
  | version
  deriving DecidableEq, Repr

/-- The options that every command has. -/
def sharedRules : List OptionRule :=
  [{ long := "verbose", short := some 'v' },
    { long := "help", short := some 'h', stop := some .help }]

/-- The options of the program itself. -/
def programRules : List OptionRule :=
  sharedRules ++ [{ long := "version", short := some 'V', stop := some .version }]

/-- A command: its name, its options, and whether it is about a schema. -/
structure CommandRule where
  name : String
  options : List OptionRule := []
  takesSchema : Bool := true

/-- An option with a path, which is not empty. -/
def pathRule (long : String) (short : Char) : OptionRule :=
  { long, short := some short, takesValue := true }

/-- An option with any text. -/
def textRule (long : String) (short : Char) : OptionRule :=
  { long, short := some short, takesValue := true, allowsEmpty := true }

/-- The options of generating code. -/
def generateRules : List OptionRule :=
  [pathRule "config" 'c', { textRule "dialect" 'd' with repeatable := true },
    textRule "module" 'm', pathRule "output" 'o', { long := "no-format" }]

/-- All commands. -/
def commandRules : List CommandRule :=
  [{ name := "generate", options := generateRules },
    { name := "check" },
    { name := "sql", options := [textRule "dialect" 'd', { long := "schema-only" }] },
    { name := "ir", options := [{ long := "pretty" }] },
    { name := "dialects", options := [{ long := "json" }], takesSchema := false },
    { name := "version", takesSchema := false }]

/-- The request of a command about a schema. -/
def schemaRequest (name schema : String) (arguments : Arguments) : Except Stop Request :=
  if name = "generate" then
    .ok (.generate {
      schema
      config := arguments.value? "config"
      dialects := arguments.valuesOf "dialect"
      module := arguments.value? "module"
      output := arguments.value? "output"
      noFormat := arguments.hasFlag "no-format" })
  else if name = "check" then .ok (.check schema)
  else if name = "sql" then
    .ok (.sql schema ((arguments.value? "dialect").getD "postgres")
      (arguments.hasFlag "schema-only"))
  else if name = "ir" then .ok (.plan schema (arguments.hasFlag "pretty"))
  else .error .misused

/-- The request of a command that is not about a schema. -/
def plainRequest (name : String) (arguments : Arguments) : Except Stop Request :=
  if name = "dialects" then .ok (.dialects (arguments.hasFlag "json"))
  else if name = "version" then .ok .version
  else .error .misused

/-- Read the arguments behind the name of a command. -/
def readCommand (rule : CommandRule) (arguments : List String) : Except Stop Request := do
  let limit := if rule.takesSchema then 1 else 0
  let read ← readArguments (sharedRules ++ rule.options) limit {} arguments
  match read.plain, rule.takesSchema with
  | [schema], true => schemaRequest rule.name schema read
  | [], false => plainRequest rule.name read
  | _, _ => .error .misused

/-- Whether a text names a command, the one that explains commands included. -/
def namesCommand (name : String) : Bool :=
  name = "help" || commandRules.any fun rule => rule.name = name

/-- Why reading ends at the command that explains the program or one command. -/
def explaining : List String → Stop
  | [] => .help
  | [name] => if namesCommand name then .help else .misused
  | _ => .misused

/-- Read the name of a command and the arguments behind it. -/
def readNamedCommand (name : String) (arguments : List String) : Except Stop Request :=
  if name = "help" then .error (explaining arguments)
  else
    match commandRules.find? fun rule => rule.name = name with
    | some rule => readCommand rule arguments
    | none => .error .misused

/-- Read a command line, after the options of the program that were read already. -/
def readRequest : Arguments → List String → Except Stop Request
  | _, [] => .error .misused
  | options, argument :: rest =>
    match readOptions? programRules options argument with
    | none => readNamedCommand argument rest
    | some (.error stop) => .error stop
    | some (.ok read) => readRequest read.arguments rest

/-- What a command line asks for. -/
def Request.ofArguments (arguments : List String) : Except Stop Request :=
  readRequest {} arguments

end Schemata.Command
