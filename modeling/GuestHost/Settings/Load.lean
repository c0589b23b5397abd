import GuestHost.Dotenv
import GuestHost.FileTree
import GuestHost.Json
import GuestHost.Settings.Decode
import GuestHost.Settings.Flags
import GuestHost.Toml

/-! # Loading settings

Reads the settings file, lays the command line and the environment over it, and checks the
result. -/

namespace GuestHost.Settings

/-- The formats of settings files. -/
inductive Format
  | yaml
  | json
  | toml
  | dotenv
  /-- Known by name, but no such file can be read. -/
  | foreign
deriving DecidableEq, Repr

/-- The format of a file is told by its extension. -/
def Format.ofPath? (path : String) : Option Format :=
  let extension := Path.ext path
  if extension = ".yaml" ∨ extension = ".yml" then some yaml
  else if extension = ".json" then some json
  else if extension = ".toml" then some toml
  else if extension = ".env" ∨ extension = ".dotenv" then some dotenv
  else if [".properties", ".props", ".prop", ".hcl", ".tfvars", ".ini"].contains extension then
    some foreign
  else none

/-- The table that a text of a format holds. -/
def Format.table? (f : Format) (environment : List (String × String)) (b : Bytes) :
    Option Layers.Table :=
  match f with
  | yaml => Datum.ofYaml? b
  | json => Json.table? b
  | toml => Toml.table? b
  | dotenv => Dotenv.table? environment b
  | foreign => none

/-- What is wrong with reading a settings file. -/
def readProblem (path : String) (cause : Fault) : Fault := .within ("read config " ++ path) cause

/-- The table of a settings file; no path means no file. -/
def readFile (t : FileTree) (environment : List (String × String)) (path : String) :
    Except Fault Layers.Table :=
  if path = "" then .ok []
  else
    match Format.ofPath? path with
    | none => .error (.settingsSyntax path)
    | some format =>
      match t.readFile path with
      | .error f => .error (readProblem path f)
      | .ok c =>
        match format.table? environment c.data with
        | none => .error (.settingsSyntax path)
        | some es => .ok (Layers.lowerEntries es)

def load (t : FileTree) (path : String) (environment : List (String × String))
    (commandLine : List (String × Option Datum)) : Except Fault Settings :=
  match readFile t environment path with
  | .error f => .error f
  | .ok file =>
    let layers : Layers := { commandLine, environment, file, standard := standard.toTable }
    match ofTable? layers.gather with
    | none => .error .settingsShape
    | some s => s.check

end GuestHost.Settings
