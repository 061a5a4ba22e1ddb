import HeaderBindings.Config
import HeaderBindings.Files
import HeaderBindings.Log

/-!
Settings from configuration files: one of the user, in the home directory, and one of the project,
which is merged over it. A file that is there and cannot be used is reported and then counts as one
without settings. What a text means is left to a function, which may refuse the text.
-/

namespace HeaderBindings

inductive ConfigError where
  | unreadable (path : String) (reason : FileError)
  | invalid (path : String)
  deriving DecidableEq

def ConfigError.message : ConfigError → String
  | unreadable path reason => "failed to read config file: " ++ path ++ ": " ++ reason.message
  | invalid path => "failed to parse config file: " ++ path ++ ": TOML parse error"

namespace Config

/-- The directory of configuration files in another directory. -/
def directoryIn (directory : String) : String := Path.join directory ".gibind"

/-- The configuration file in a home directory or in the root directory of a project. -/
def pathIn (directory : String) : String := Path.join (directoryIn directory) "config.toml"

abbrev Decoder := String → Option Config

def load (decode : Decoder) (files : FileTree) (path : String) : Except ConfigError Config := do
  let text ← (files.readText path).mapError (.unreadable path)
  match decode text with
  | some config => .ok config
  | none => .error (.invalid path)

/-- The settings of a file, if it is there and can be used. -/
def loadIfUsable (decode : Decoder) (files : FileTree) (path : String) : Logged Config :=
  if files.contains path then
    match load decode files path with
    | .ok config => pure config
    | .error error => do
        Logged.report (.ignoredConfig path error.message)
        pure {}
  else pure {}

/-- Settings with those of a file over them, if the file is there. -/
def withFile (decode : Decoder) (files : FileTree) (path : String) (config : Config) :
    Logged Config :=
  if files.contains path then do
    pure (config.merge (← loadIfUsable decode files path))
  else pure config

/-- The settings of the user and, over them, those of the project. -/
def loadLayers (decode : Decoder) (files : FileTree) (userPath projectPath : String) :
    Logged Config := do
  let config ← withFile decode files userPath {}
  withFile decode files projectPath config

end Config

end HeaderBindings
