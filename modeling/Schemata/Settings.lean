/-!
# Settings

What decides how a schema becomes a module: its name, its dialects, whether and how
its text is formatted, and where it goes.
-/

namespace Schemata

/-- How a schema becomes a module. Without an output the text is printed. -/
structure Settings where
  module : String := "db"
  dialects : List String := ["postgres"]
  format : Bool := true
  edition : String := "2021"
  output : Option String := none
  deriving DecidableEq, Repr

/-- Why there are no settings. -/
inductive SettingsError where
  | invalidJson
  | invalidToml
  | unreadable (reason : String)
  | unknownFormat (extension : String)
  deriving DecidableEq, Repr

/-- The wording of an error. -/
def SettingsError.message (error : SettingsError) : String :=
  "Configuration error: " ++
    match error with
    | invalidJson => "Invalid JSON"
    | invalidToml => "Invalid TOML"
    | unreadable reason => "Failed to read config file: " ++ reason
    | unknownFormat extension => "Unknown config format: " ++ extension

end Schemata
