/-
The command line. It loads the settings, refuses them with an exit code, or starts an instance in
front of a store in memory and answers requests that come line by line: a method, a path and, for a
request that has one, a JSON body.
-/
import TwoTier.Http
import TwoTier.Json.Printer
import TwoTier.Launch
import TwoTier.Store

namespace TwoTier.CommandLine

/-- The text of a file, if it can be read. -/
def readFile? (path : String) : IO (Option String) := do
  try
    let text ← IO.FS.readFile path
    return some text
  catch _ => return none

/-- The files among some paths. -/
def readFiles (paths : List String) : IO AppSettings.Files :=
  paths.filterMapM fun p => do
    let text ← readFile? p
    return text.map fun t => (AppSettings.plainName p, t)

/-- The variables of the process. -/
def environment : IO (List (String × String)) := do
  let text ← readFile? "/proc/self/environ"
  return ((text.getD "").splitOn "\x00").filterMap fun entry =>
    match entry.toList.dropWhile (· != '=') with
    | [] => none
    | _ :: value => some (String.ofList (entry.toList.takeWhile (· != '=')), String.ofList value)

/-- The circumstances of this start. -/
def launch (arguments : List String) : IO Launch := do
  let vars ← environment
  let early : Launch := ⟨arguments, vars, ← readFiles [".env"]⟩
  let path := Launch.settingsPath arguments early.allVars.2
  let files ← readFiles [path, path ++ ".toml", path ++ ".json"]
  return { early with files := early.files ++ files }

/-- The value of a metric as text. -/
def valueText : Recorder.Value → String
  | .count n => toString n
  | .number x => x.plainText

/-- A response on one line, save that each metric has its own. -/
def responseText (r : Http.Response) : String :=
  toString r.status ++ match r.content with
    | .empty => ""
    | .text s => " " ++ s
    | .json j => " " ++ j.text
    | .metrics values => String.join (values.map fun v => "\n" ++ v.1 ++ " " ++ valueText v.2)

/-- The request of a line. -/
def requestOf (line : String) : Http.Request :=
  match line.splitOn " " with
  | method :: path :: rest =>
    { method, path, contentType := some "application/json", body := " ".intercalate rest }
  | parts => { method := parts.headD "", path := "" }

/-- Answer requests until there are no more. -/
partial def serve (server : Http.Server) (start : Nat) (c : Cluster Store) : IO Unit := do
  let line ← (← IO.getStdin).getLine
  if line.isEmpty then return
  let now ← IO.monoNanosNow
  let c := (c.advance (now - start)).purgeDue
  let (response, c) := server.handle (requestOf line.trimAscii.toString) c
  IO.println (responseText response)
  serve server start c

/-- Start the server. -/
def run (settings : AppSettings) : IO UInt32 := do
  let start ← IO.monoNanosNow
  let recorder : Recorder := Recorder.absent.start.2
  let c : Cluster Store := { store := { inner := {} }, recorder }
  match c.launch (toString start) settings.cache with
  | .error e =>
    IO.eprintln ("Server initialization failed: " ++ e.message)
    return Launch.refusedCode
  | .ok c =>
    let c := c.onSite 0 fun s => { s with node := s.node.maintain settings.maintenanceInterval 0 }
    IO.println ("ready for " ++ settings.endpoint.text)
    serve ⟨0, settings.cache.remote.enabled⟩ start c
    return 0

end TwoTier.CommandLine

def main (arguments : List String) : IO UInt32 := do
  let launch ← TwoTier.CommandLine.launch arguments
  let (lines, outcome) := launch.outcome
  for line in lines do
    IO.eprintln line
  match outcome with
  | .error _ => return TwoTier.Launch.refusedCode
  | .ok settings => TwoTier.CommandLine.run settings
