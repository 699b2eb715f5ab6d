/-
The settings the server starts with: defaults, over them a file, over that the environment. The
result has to meet the rules. Files are given with their contents.
-/
import TwoTier.Net.Address
import TwoTier.Settings.Environment
import TwoTier.Settings.Toml

namespace TwoTier

/-- Why settings cannot be loaded. -/
inductive LoadError where
  /-- The file cannot be found, or not be read in the format of its name. -/
  | build
  /-- A setting does not have the type it should have. -/
  | deserialize
  | rule (r : AppRule)
deriving Repr, DecidableEq

def LoadError.message : LoadError → String
  | .build => "config build error"
  | .deserialize => "config deserialize error"
  | .rule r => r.text

namespace AppSettings

def defaultPath : String := "tiercache.toml"

/-- Files by name, with directories written in the names. -/
abbrev Files := List (String × String)

/-- A name without a leading reference to the directory itself. -/
def plainName (path : String) : String :=
  if path.startsWith "./" then (path.drop 2).toString else path

def fileAt? (files : Files) (path : String) : Option String := files.lookup (plainName path)

/-- Whether a path names a file or a directory on the way to one. -/
def pathExists (files : Files) (path : String) : Bool :=
  path = "." || (fileAt? files path).isSome || (path != "" && files.any fun f => f.1.startsWith (plainName path ++ "/"))

/-- What stands behind the last point of a file name, unless the name starts with it. -/
def extension (path : String) : String :=
  let name := ((path.toList.splitOn '/').getLast?).getD []
  match (name.splitOn '.').reverse with
  | last :: before => if before.isEmpty || before == [[]] then "" else String.ofList last
  | [] => ""

/-- The layer of settings in a file, read as the name's extension says. -/
def layerOf? (extension text : String) : Option Tree :=
  if extension = "toml" then Toml.parse text
  else if extension = "json" then
    match Json.parse text with
    | some (.obj ms) => some (Tree.ofJson (.obj ms))
    | _ => none
  else none

/-- The layer of the file at a path. A path without a file may leave out the extension. -/
def fileLayer? (files : Files) (path : String) : Option Tree :=
  match fileAt? files path with
  | some text => layerOf? (extension path) text
  | none =>
    match fileAt? files (path ++ ".toml"), fileAt? files (path ++ ".json") with
    | some text, _ => layerOf? "toml" text
    | none, some text => layerOf? "json" text
    | none, none => none

/-- Load the settings. A path at which there is nothing counts as an empty file. -/
def load (path : Option String) (files : Files) (vars : List (String × String)) :
    Except LoadError AppSettings :=
  let path := path.getD defaultPath
  let file := if pathExists files path then fileLayer? files path else some (.table [])
  match file with
  | none => .error .build
  | some file =>
    match SettingsReader.tree.app? (((Tree.table []).merge file).merge (Environment.layer vars)) with
    | none => .error .deserialize
    | some settings =>
      match settings.broken? with
      | some r => .error (.rule r)
      | none => .ok settings

/-- Where the server listens; a host that is no address means every interface. -/
def endpoint (s : AppSettings) : Net.Endpoint :=
  ⟨(Net.Address.parse s.server.host).getD (.v4 0 0 0 0), s.server.port⟩

end AppSettings

end TwoTier
