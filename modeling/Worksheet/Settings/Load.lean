import Worksheet.FileSystem.Basic
import Worksheet.Settings.Basic

namespace Worksheet

inductive SettingsError where
  | file (cause : FileError)
  | malformed (message : String)
  | tooLarge (path : String) (size : Nat)
deriving DecidableEq

namespace Settings

def sizeLimit : Nat := 1048576

end Settings

def SettingsError.message : SettingsError → String
  | .file cause => "IO error: " ++ cause.message
  | .malformed message => "Config parse error: " ++ message
  | .tooLarge path size =>
    "Refusing to read " ++ path ++ ": file too large (" ++ size.repr ++ " bytes, max " ++
      Settings.sizeLimit.repr ++ ")"

namespace Settings

variable (reader : Toml.Reader)

def parse (text : String) : Except SettingsError Settings :=
  match ofText? reader text with
  | some settings => .ok settings
  | none => .error (.malformed (reader.refusal text))

def read (files : FileSystem) (path : String) : Except SettingsError Settings :=
  match (files.lookup path).metadata with
  | .error error => .error (.file error)
  | .ok metadata =>
    if sizeLimit < metadata.size then .error (.tooLarge path metadata.size)
    else
      match files.readText path with
      | .error error => .error (.file error)
      | .ok text => parse reader text

def chosen? (files : FileSystem) (path? : Option String) : Option String :=
  path? <|> files.userPath?

/-- The settings to go by and at most one warning. Whatever is wrong with a file, the defaults
    take its place. It is no matter for a warning that the user has no settings. -/
def load (files : FileSystem) (path? : Option String) : Settings × Option String :=
  match chosen? files path? with
  | none => (default, none)
  | some path =>
    if files.has path then
      match read reader files path with
      | .ok settings => (settings, none)
      | .error error => (default, some ("Failed to load " ++ path ++ ": " ++ error.message))
    else (default, if path?.isSome then some ("Config file not found: " ++ path) else none)

end Settings

end Worksheet
