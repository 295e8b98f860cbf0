import Schemata.Files.Access
import Schemata.Files.Path
import Schemata.Settings.Reader

/-!
# Finding settings

Settings are loaded from a file whose extension tells how they are written. Without
a file given, two names are tried in a directory.
-/

namespace Schemata.Settings

open Files (FileAccess)

variable {m : Type → Type} [Monad m]

/-- Settings written in the way that an extension tells. -/
def ofFormat (extension content : String) : Except SettingsError Settings :=
  if extension = "json" then Settings.ofJson content
  else if extension = "toml" then Settings.ofToml content
  else .error (.unknownFormat extension)

/-- Load the settings in a file. -/
def load (files : FileAccess m) (path : String) : m (Except SettingsError Settings) := do
  match ← files.read path with
  | .error error => return .error (.unreadable error.message)
  | .ok content => return ofFormat (Files.extension path) content

/-- The names of files that settings are looked for in, in order. -/
def fileNames : List String := ["dbgen.toml", "dbgen.json"]

/-- Load the settings in the first of some files that is there. -/
def loadFirst (files : FileAccess m) :
    List String → m (Except SettingsError (Option Settings))
  | [] => return .ok none
  | path :: paths => do
    if ← files.isFile path then
      return (← load files path).map some
    else
      loadFirst files paths

/-- Load the settings of a directory, if it has any. -/
def discover (files : FileAccess m) (directory : String) :
    m (Except SettingsError (Option Settings)) :=
  loadFirst files (fileNames.map (Files.joinPath directory))

end Schemata.Settings
