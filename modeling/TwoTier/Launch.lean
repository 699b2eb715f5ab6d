/-
Starting the server from a command line. The path of the settings is the one behind `--config`, else
that of the variable `TIERCACHE_CONFIG`, else the default. A file of variables is read first; if it
is malformed the server says so and goes on with what was read.
-/
import TwoTier.Settings.EnvFile
import TwoTier.Settings.Load

namespace TwoTier

/-- The circumstances of a start. -/
structure Launch where
  arguments : List String
  environment : List (String × String)
  files : AppSettings.Files

namespace Launch

/-- The path behind the first `--config` that has one. -/
def pathArgument : List String → Option String
  | "--config" :: path :: _ => some path
  | _ :: rest => pathArgument rest
  | [] => none

/-- The file of variables, if there is one, and the environment after it. -/
def allVars (l : Launch) : Bool × List (String × String) :=
  match AppSettings.fileAt? l.files ".env" with
  | none => (true, l.environment)
  | some text => EnvFile.load l.environment text

/-- The path that settings are loaded from. -/
def settingsPath (arguments : List String) (environment : List (String × String)) : String :=
  match pathArgument arguments with
  | some path => path
  | none =>
    match environment.lookup "TIERCACHE_CONFIG" with
    | some path => if path.isEmpty then AppSettings.defaultPath else path
    | none => AppSettings.defaultPath

/-- What the server is told on its way: complaints for the error stream, and its settings unless they
are refused. -/
def outcome (l : Launch) : List String × Except LoadError AppSettings :=
  let (wellFormed, environment) := l.allVars
  let warnings := if wellFormed then [] else ["Warning: Failed to load .env file"]
  match AppSettings.load (some (settingsPath l.arguments environment)) l.files environment with
  | .ok settings => (warnings, .ok settings)
  | .error e => (warnings ++ ["Configuration error: " ++ e.message], .error e)

/-- Exit code of a start that is refused. -/
def refusedCode : UInt32 := 2

end Launch

end TwoTier
