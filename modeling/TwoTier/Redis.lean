/-
The store on a Redis server. The server is given by whether it can be reached and by what it is
going to answer, command by command; it keeps a list of the commands it was sent. A client talks to
it only between a successful attempt to connect and the next disconnection. Keys that match a
pattern are listed page by page and deleted page by page.

Time does not pass here. A server that stays silent counts as one whose connection is lost, and the
client learns so at once, where it would go on waiting until the bound of its caller ends the call.
A client has its connections from a pool, which checks a used one before it hands it out again, and
bounds how long a caller waits for one and how long a check or a new connection takes. These checks
and bounds are left out as well: the commands are those of the requests themselves.
-/
import TwoTier.Time
import TwoTier.Redis.Reply

namespace TwoTier.Redis

/-- An argument of a command. -/
inductive Argument where
  | text (s : String)
  | data (b : Bytes)
deriving Repr, DecidableEq

/-- A command, its name first. -/
abbrev Command := List Argument

/-- What a server does when a command comes. -/
inductive Answer where
  | reply (r : Reply)
  /-- It closes the connection. -/
  | close
  /-- It stays silent. -/
  | silence
deriving Repr

structure Server where
  listening : Bool := true
  /-- What it is going to answer; after that it answers with errors. -/
  script : List Answer := []
  /-- Commands it was sent, the oldest first. -/
  sent : List Command := []
deriving Repr

/-- Why a request to the store fails. -/
inductive Failure where
  /-- The address is none. -/
  | address
  | unreachable
  /-- The connection was lost. -/
  | lost
  /-- The server answered with an error. -/
  | refused
  /-- The server answered with something else than expected. -/
  | unreadable
deriving Repr, DecidableEq

def Failure.reason : Failure → String
  | .address => "failed to create Redis pool"
  | .unreachable => "server cannot be reached"
  | .lost => "connection lost"
  | .refused => "server answered with an error"
  | .unreadable => "answer cannot be read"

def Failure.error (f : Failure) : CacheError := .connection f.reason

namespace Server

variable {α : Type}

/-- Send a command and take the answer. Silence is taken for the loss of the connection. -/
def exchange (s : Server) (c : Command) : Except Failure Reply × Server :=
  let s := { s with sent := s.sent ++ [c] }
  match s.script with
  | [] => (.error .refused, s)
  | .reply r :: rest => (if r.failed then .error .refused else .ok r, { s with script := rest })
  | .close :: rest => (.error .lost, { s with script := rest })
  | .silence :: rest => (.error .lost, { s with script := rest })

/-- Send a command and read the answer. -/
def ask (s : Server) (c : Command) (read : Reply → Option α) : Except Failure α × Server :=
  match s.exchange c with
  | (.error f, s) => (.error f, s)
  | (.ok r, s) =>
    match read r with
    | some a => (.ok a, s)
    | none => (.error .unreadable, s)

/-- A command whose arguments are texts. -/
def command (words : List String) : Command := words.map .text

/-- Keys to list in one page. -/
def pageSize : Nat := 100

/-- Ask for the page of keys at a cursor. -/
def scan (pattern : String) (cursor : Nat) : Command :=
  command ["SCAN", toString cursor, "MATCH", pattern, "COUNT", toString pageSize]

/-- Delete the keys of a page; without keys nothing is sent. -/
def drop (s : Server) (keys : List String) : Except Failure Nat × Server :=
  if keys.isEmpty then (.ok 0, s) else s.ask (command ("DEL" :: keys)) (Reply.number? 64)

/-- Delete the keys of the pages from a cursor on, at most `fuel` pages, and add their number to
`total`. The page whose next cursor is zero is the last. The sum is taken without a bound; 64 bits
hold it as long as the numbers that the server answers add up to less than `2 ^ 64`. -/
def sweepFrom (pattern : String) (cursor total : Nat) (s : Server) : (fuel : Nat) → Except Failure Nat × Server
  | 0 => (.error .refused, s)
  | fuel + 1 =>
    match s.ask (scan pattern cursor) Reply.page? with
    | (.error f, s) => (.error f, s)
    | (.ok (next, keys), s) =>
      match s.drop keys with
      | (.error f, s) => (.error f, s)
      | (.ok n, s) => if next = 0 then (.ok (total + n), s) else s.sweepFrom pattern next (total + n) fuel

/-- Delete the keys that match a pattern. Every page takes an answer, so there are no more pages than
answers. -/
def sweep (s : Server) (pattern : String) : Except Failure Nat × Server :=
  s.sweepFrom pattern 0 0 (s.script.length + 1)

end Server

/-! ## The store -/

/-- A client of a server. -/
structure Client where
  url : String
  /-- A connection was made and not given up. -/
  connected : Bool := false
  server : Server := {}

namespace Client

variable {α : Type}

/-- The time to live in whole milliseconds, at least one. -/
def ttlMillis (ttl : Nat) : Nat := max (wholeMillis (min ttl maxTtl)) 1

/-- Write a key for ever or for a time. -/
def write (key : String) (data : Bytes) : Option Nat → Command
  | none => [.text "SET", .text key, .data data]
  | some ttl => [.text "PSETEX", .text key, .text (toString (ttlMillis ttl)), .data data]

/-- Talk to a server that can be reached. -/
def converse (r : Request α) (s : Server) : Except Failure α × Server :=
  let anything : Reply → Option Unit := fun _ => some ()
  match r with
  | .connect => s.ask (Server.command ["PING"]) fun r => r.text?.map fun _ => ()
  | .disconnect => (.ok (), s)
  | .ping => s.ask (Server.command ["PING"]) fun r => r.text?.map fun _ => ()
  | .get key => s.ask (Server.command ["GET", key]) Reply.value?
  | .set key data ttl => s.ask (write key data ttl) anything
  | .delete key => s.ask (Server.command ["DEL", key]) fun r => (r.number? 64).map fun n => decide (0 < n)
  | .deletePattern pattern => s.sweep pattern
  | .publish channel message => s.ask (Server.command ["PUBLISH", channel, message]) anything
  | .info => s.ask (Server.command ["INFO"]) fun r => r.text?.map StoreInfo.ofReport

/-- Talk to the server, if it can be reached, over a connection that the pool hands out as it is. -/
def reach (r : Request α) (c : Client) : Except CacheError α × Client :=
  if c.server.listening then
    let (reply, server) := converse r c.server
    (reply.mapError Failure.error, { c with server })
  else (.error Failure.unreachable.error, c)

/-- Answer a request. A failed attempt to connect leaves an earlier connection as it is. -/
def serve (r : Request α) (c : Client) : Except CacheError α × Client :=
  match r with
  | .connect =>
    if (Url.parse c.url).isNone then (.error Failure.address.error, c)
    else
      match c.reach .connect with
      | (.ok (), c) => (.ok (), { c with connected := true })
      | (.error e, c) => (.error e, c)
  | .disconnect => (.ok (), { c with connected := false })
  | r => if c.connected then c.reach r else (.error .disconnected, c)

instance : Backend Client where
  name := "redis"
  serve _ r c := c.serve r

end Client

end TwoTier.Redis
