import Schemata.Json.Reader
import Schemata.Settings
import Schemata.Toml.Reader

/-!
# Reading settings

Settings are written in JSON or TOML. What is not given has its default, and keys
that are no settings are passed over. In JSON the settings may also stand in an
array, in their order; a setting may not be given twice.
-/

namespace Schemata

/-- Settings of which some are given. -/
structure GivenSettings where
  module : Option String := none
  dialects : Option (List String) := none
  format : Option Bool := none
  edition : Option String := none
  output : Option (Option String) := none

namespace GivenSettings

/-- Settings with defaults for what is not given. -/
def complete (given : GivenSettings) : Settings :=
  let default : Settings := {}
  { module := given.module.getD default.module
    dialects := given.dialects.getD default.dialects
    format := given.format.getD default.format
    edition := given.edition.getD default.edition
    output := given.output.getD default.output }

end GivenSettings

/-! ## JSON -/

/-- The names of the settings, in their order. -/
def settingNames : List String := ["module", "dialects", "format", "edition", "output"]

/-- Take a setting that was not given before. -/
def takeOnce {α : Type} (before : Option α) (found : Option (α × List Char))
    (put : α → GivenSettings) : Option (GivenSettings × List Char) :=
  match before with
  | some _ => none
  | none => found.map fun (value, rest) => (put value, rest)

/-- Read the value of a key; a key that is no setting is passed over. -/
def readSetting? (given : GivenSettings) (key : String) (text : List Char) :
    Option (GivenSettings × List Char) :=
  if key = "module" then
    takeOnce given.module (Json.readText? text) fun value => { given with module := some value }
  else if key = "dialects" then
    takeOnce given.dialects (Json.readTexts? text) fun value =>
      { given with dialects := some value }
  else if key = "format" then
    takeOnce given.format (Json.readBool? text) fun value => { given with format := some value }
  else if key = "edition" then
    takeOnce given.edition (Json.readText? text) fun value => { given with edition := some value }
  else if key = "output" then
    takeOnce given.output (Json.readTextOrNull? text) fun value =>
      { given with output := some value }
  else
    (Json.skipAny? text).map fun rest => (given, rest)

/-- Read the members of an object up to its closing brace. -/
def readSettingMembers? : Nat → GivenSettings → List Char → Option (GivenSettings × List Char)
  | 0, _, _ => none
  | fuel + 1, given, text => do
    let (key, rest) ← Json.readText? text
    match Json.skipBlanks rest with
    | ':' :: rest =>
      let (given, rest) ← readSetting? given key (Json.skipBlanks rest)
      match Json.skipBlanks rest with
      | ',' :: rest => readSettingMembers? fuel given (Json.skipBlanks rest)
      | '\x7d' :: rest => some (given, rest)
      | _ => none
    | _ => none

/-- Read the items of an array, each for the next setting, up to its closing bracket. -/
def readSettingItems? : List String → GivenSettings → List Char →
    Option (GivenSettings × List Char)
  | [], _, _ => none
  | name :: names, given, text => do
    let (given, rest) ← readSetting? given name text
    match Json.skipBlanks rest with
    | ',' :: rest => readSettingItems? names given (Json.skipBlanks rest)
    | ']' :: rest => some (given, rest)
    | _ => none

/-- Read settings at the front of a text. -/
def readSettings? (text : List Char) : Option (GivenSettings × List Char) :=
  match text with
  | '\x7b' :: rest =>
    match Json.skipBlanks rest with
    | '\x7d' :: rest => some ({}, rest)
    | members => readSettingMembers? (members.length + 1) {} members
  | '[' :: rest =>
    match Json.skipBlanks rest with
    | ']' :: rest => some ({}, rest)
    | items => readSettingItems? settingNames {} items
  | _ => none

/-- Settings written in JSON; nothing but blanks may follow them. -/
def Settings.ofJson (content : String) : Except SettingsError Settings :=
  match readSettings? (Json.skipBlanks content.toList) with
  | some (given, rest) =>
    if (Json.skipBlanks rest).isEmpty then .ok given.complete else .error .invalidJson
  | none => .error .invalidJson

/-! ## TOML -/

/-- The text of a value. -/
def textValue? : Toml.Value → Option String
  | .text content => some content
  | _ => none

/-- The truth of a value. -/
def boolValue? : Toml.Value → Option Bool
  | .bool value => some value
  | _ => none

/-- The texts of a value. -/
def textValues? : Toml.Value → Option (List String)
  | .array items => items.mapM textValue?
  | _ => none

/-- The setting of a key: nothing if it is not given, and a failure if it has the wrong type. -/
def tomlSetting? {α : Type} (entries : Toml.Entries) (key : String)
    (read : Toml.Value → Option α) : Option (Option α) :=
  match entries.lookup key with
  | none => some none
  | some value => (read value).map some

/-- The settings among the entries of a document. -/
def tomlSettings? (entries : Toml.Entries) : Option GivenSettings := do
  let module ← tomlSetting? entries "module" textValue?
  let dialects ← tomlSetting? entries "dialects" textValues?
  let format ← tomlSetting? entries "format" boolValue?
  let edition ← tomlSetting? entries "edition" textValue?
  let output ← tomlSetting? entries "output" textValue?
  return { module, dialects, format, edition, output := output.map some }

/-- Settings written in TOML. -/
def Settings.ofToml (content : String) : Except SettingsError Settings :=
  match Toml.read? content >>= tomlSettings? with
  | some given => .ok given.complete
  | none => .error .invalidToml

end Schemata
