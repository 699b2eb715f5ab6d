/-
The server's answers to requests over HTTP: whether it runs, whether it is ready, what it measures
and counts, and the two requests that invalidate a key or the keys of a pattern.
-/
import TwoTier.Http.Body
import TwoTier.Http.MediaType
import TwoTier.Report
import TwoTier.Schedule

namespace TwoTier.Http

structure Request where
  method : String
  /-- The path, with a query and a fragment behind it if there are any. -/
  path : String
  contentType : Option String := none
  body : String := ""
deriving Repr, DecidableEq

/-- The body of a response. -/
inductive Content where
  | empty
  | text (s : String)
  | json (j : Json)
  | metrics (values : List (String × Recorder.Value))
deriving Repr

structure Response where
  status : Nat
  contentType : Option String := none
  /-- The methods that a path takes, when the request's is not one of them. -/
  allow : Option String := none
  content : Content := .empty
deriving Repr

/-! ## Routes -/

/-- What can be asked for. -/
inductive Route where
  | healthz
  | readyz
  | metrics
  | stats
  | invalidate
  | invalidatePattern
deriving Repr, DecidableEq

/-- The route of a path. Paths are compared letter by letter. -/
def Route.ofPath? (path : String) : Option Route :=
  match String.ofList (path.toList.takeWhile fun c => c != '?' && c != '#') with
  | "/healthz" => some .healthz
  | "/readyz" => some .readyz
  | "/metrics" => some .metrics
  | "/stats" => some .stats
  | "/cache/invalidate" => some .invalidate
  | "/cache/invalidate-pattern" => some .invalidatePattern
  | _ => none

/-- The methods that a route takes. -/
def Route.methods : Route → List String
  | .invalidate => ["POST"]
  | .invalidatePattern => ["POST"]
  | _ => ["GET", "HEAD"]

/-! ## Responses -/

def jsonResponse (status : Nat) (j : Json) : Response :=
  { status, contentType := some "application/json", content := .json j }

/-- A response in words. -/
def plainResponse (status : Nat) (s : String) : Response :=
  { status, contentType := some "text/plain; charset=utf-8", content := .text s }

def notFound : Response := { status := 404 }

def methodNotAllowed (r : Route) : Response := { status := 405, allow := some (",".intercalate r.methods) }

/-- The answer to a body that cannot be used. -/
def Body.Refusal.response : Body.Refusal → Response
  | .malformed => plainResponse 400 "Failed to parse the request body as JSON"
  | .unexpected => plainResponse 422 "Failed to deserialize the JSON body into the target type"

/-- The most bytes that a body may have. -/
def Body.maxBytes : Nat := 2 * 1024 * 1024

/-- The one text of a request that has to give one. A body that is too large is not read. -/
def Request.text (r : Request) (name : String) : Except Response String :=
  if r.contentType.any MediaType.isJson then
    if r.body.utf8ByteSize ≤ Body.maxBytes then
      match Body.read name r.body with
      | .error e => .error e.response
      | .ok s =>
        if s.isEmpty then .error (jsonResponse 400 (Json.object [("error", .str (name ++ " must not be empty"))]))
        else .ok s
    else .error (plainResponse 413 "Failed to buffer the request body: length limit exceeded")
  else .error (plainResponse 415 "Expected request with `Content-Type: application/json`")

/-- The metrics, if they can be collected. -/
def metricsResponse (r : Recorder) : Response :=
  if r.served then
    { status := 200, contentType := some "text/plain; version=0.0.4", content := .metrics r.metrics }
  else { status := 503, contentType := some "text/plain", content := .text "metrics recorder not initialized" }

/-- Ready without a shared tier, or with one that is connected and answers. -/
def readyResponse (remoteEnabled : Bool) (h : HealthReport) : Response :=
  let ready := !remoteEnabled || (h.remote.connected && h.remote.reachable)
  jsonResponse (if ready then 200 else 503) (Json.object [
    ("status", .str (if ready then "ready" else "unavailable")),
    ("remote", h.remote.toJson), ("localSize", .nat h.localSize)])

/-! ## Serving -/

/-- The instance that a server stands in front of. -/
structure Server where
  node : Nat
  /-- The settings ask for the shared tier. -/
  remoteEnabled : Bool
deriving Repr, DecidableEq

namespace Server

variable {σ : Type} [Backend σ]

/-- Make a call to the instance and answer with its reply. -/
def through (s : Server) (call : Call) (answer : Reply → Response) (c : Cluster σ) : Response × Cluster σ :=
  let (task, c) := c.request s.node call none
  match task with
  | some { phase := .finished reply _, .. } => (answer reply, c)
  | _ => (notFound, c)

/-- Serve a route. -/
def serve (s : Server) (route : Route) (r : Request) (c : Cluster σ) : Response × Cluster σ :=
  match route with
  | .healthz => (jsonResponse 200 (Json.object [("status", .str "ok")]), c)
  | .readyz => s.through .health (fun
      | .health h => readyResponse s.remoteEnabled h
      | _ => notFound) c
  | .metrics => (metricsResponse c.recorder, c)
  | .stats =>
    let summary := Json.ofOption Summary.toJson (c.nodes[s.node]?.map Node.summary)
    s.through .stats (fun
      | .stats details => jsonResponse 200 (Json.object [("summary", summary), ("details", details.toJson)])
      | _ => notFound) c
  | .invalidate =>
    match r.text "key" with
    | .error refusal => (refusal, c)
    | .ok key => s.through (.delete key) (fun
      | .removed b => jsonResponse 200 (Json.object [("key", .str key), ("removed", .bool b)])
      | _ => notFound) c
  | .invalidatePattern =>
    match r.text "pattern" with
    | .error refusal => (refusal, c)
    | .ok pattern => s.through (.deletePattern pattern) (fun
      | .swept n => jsonResponse 200 (Json.object [("pattern", .str pattern), ("deleted", .nat n)])
      | _ => notFound) c

/-- Answer a request. The answer to one for the head alone has no body. -/
def handle (s : Server) (r : Request) (c : Cluster σ) : Response × Cluster σ :=
  match Route.ofPath? r.path with
  | none => (notFound, c)
  | some route =>
    if route.methods.contains r.method then
      let (response, c) := s.serve route r c
      (if r.method = "HEAD" then { response with content := .empty } else response, c)
    else (methodNotAllowed route, c)

end Server

end TwoTier.Http
