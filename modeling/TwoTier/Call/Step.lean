/-
The segments of a call. `Task.step` takes a call that is ready from its phase to the next one: the
reply that it waited for is taken, the tiers and the books are changed, and the next wait begins.
Between two segments of one call any number of segments of other calls may run.
-/
import TwoTier.Call
import TwoTier.Site

namespace TwoTier.Task

variable {σ : Type}

/-- The call goes on with another phase. -/
def become (t : Task) (p : Phase) (s : Site σ) : Task × Site σ := ({ t with phase := p }, s)

def finish (t : Task) (reply : Reply) (s : Site σ) : Task × Site σ := t.become (.finished reply s.now) s

/-- The end of a lookup: its time is entered into the books. -/
def answer (t : Task) (served : Bool) (r : Except String (Option Json)) (s : Site σ) : Task × Site σ :=
  t.finish (t.call.replyOf r) (s.record (.request (s.now - t.started) served))

/-- Tell the other instances what to drop, if there is a channel. -/
def announce (t : Task) (body : Invalidation) (reply : Reply) (s : Site σ) : Task × Site σ :=
  match s.node.channel with
  | none => t.finish reply s
  | some channel =>
    let (trip, s) := s.call (.publish channel (Message.encode ⟨s.node.id, body⟩))
    t.become (.announcing reply trip) s

/-- Write a value to both tiers, the local one first. -/
def write (t : Task) (key : String) (v : Json) (ttl : Option Nat) (s : Site σ) : Task × Site σ :=
  let ttl := ttl.getD s.node.defaultTtl
  let (evicted, s) := s.put key v (some ttl)
  let (trip, s) := s.call (.set key (Payload.packJson v).write (some ttl))
  t.become (.storing key evicted trip) s

/-- Start the fetch of a call that has one. -/
def startFetch (t : Task) (key : String) (s : Site σ) : Task × Site σ :=
  match t.call with
  | .getOrFetch _ fetch =>
    { t with fetches := t.fetches + 1 }.become (.fetching key (fetch.delay.elim s.now (wakeAt s.now))) s
  | _ => t.answer false (.ok none) s

/-- Go on after a miss of both tiers. -/
def miss (t : Task) (key : String) (s : Site σ) : Task × Site σ :=
  match t.call with
  | .getOrFetch _ _ =>
    if s.node.coalesce then t.become (.queued key) (s.join key t.ticket) else t.startFetch key s
  | _ => t.answer false (.ok none) s

/-- Look a key up. -/
def lookup (t : Task) (key : String) (s : Site σ) : Task × Site σ :=
  match s.lookupLocal key with
  | (some v, s) => t.answer true (.ok (some v)) s
  | (none, s) =>
    let (trip, s) := s.call (.get key)
    t.become (.reading key trip) s

/-- Ask the store to connect. -/
def dial (t : Task) (attempt left : Nat) (s : Site σ) : Task × Site σ :=
  let (trip, s) := s.dial
  t.become (.dialing attempt left trip) s

/-- The end of a call for the figures of both tiers. Those of the local one are from its beginning. -/
def answerStats [Backend σ] (t : Task) (localTier : LocalStats) (connected : Bool) (info : StoreInfo) (s : Site σ) :
    Task × Site σ :=
  t.finish (.stats ⟨localTier, s.link.stats connected info, s.node.books.snapshot⟩) s

/-- The end of a call for the health. An instance without a connection is as healthy as one whose
shared tier answers. -/
def answerHealth (t : Task) (remote : RemoteHealth) (s : Site σ) : Task × Site σ :=
  t.finish (.health ⟨!remote.connected || remote.reachable, remote, s.node.lru.size⟩) s

variable [Backend σ]

/-- The first segment. -/
def start (t : Task) (s : Site σ) : Task × Site σ :=
  let t := { t with started := s.now }
  match t.call with
  | .get key => t.lookup (s.node.fullKey key) s
  | .getOrFetch key _ => t.lookup (s.node.fullKey key) s
  | .set key v ttl => t.write (s.node.fullKey key) v ttl s
  | .delete key =>
    let key := s.node.fullKey key
    let (resident, lru) := s.node.lru.delete key
    let (trip, s) := (s.withLru lru).call (.delete key)
    t.become (.deleting key resident trip) s
  | .deletePattern pattern =>
    let pattern := s.node.remote.scopedPattern pattern
    let (trip, s) := (s.withLru s.node.lru.clear).call (.deletePattern pattern)
    t.become (.sweeping pattern trip) s
  | .stats =>
    if s.node.remote.connected then
      let (trip, s') := s.call .info
      t.become (.inspecting s.node.lru.stats trip) s'
    else t.answerStats s.node.lru.stats false {} s
  | .health =>
    if s.node.remote.connected then
      let (trip, s) := s.call .ping
      t.become (.probing trip) s
    else t.answerHealth .offline s
  | .connect => t.dial 0 (s.link.attempts - 1) s
  | .shutdown =>
    let (trip, s) := s.hangUp
    t.become (.hangingUp trip) s

/-- The fetch has ended. Only a value is written. -/
def endFetch (t : Task) (key : String) (fetch : Fetch) (s : Site σ) : Task × Site σ :=
  let s := s.record (.fetch fetch.kind)
  match fetch.outcome with
  | .ok (some v) => t.write key v none s
  | r => t.answer false r (s.leave key t.ticket)

/-- The shared tier has answered to a write, and both writes are entered into the books. -/
def endStore (t : Task) (key : String) (evicted : Bool) (reply : Except CacheError Unit) (s : Site σ) :
    Task × Site σ :=
  let s := ((s.record (.set .l1)).recordEviction evicted).settle "set" (fun _ => some (.set .l2)) reply
  match t.call with
  | .getOrFetch _ fetch => t.answer false fetch.outcome (s.leave key t.ticket)
  | _ => t.finish .done s

/-- The shared tier has answered to a deletion. -/
def endDelete (t : Task) (key : String) (resident : Bool) (reply : Except CacheError Bool) (s : Site σ) :
    Task × Site σ :=
  let s := if resident then s.record (.delete .l1) else s
  let s := s.settle "delete" (fun removed => if removed then some (.delete .l2) else none) reply
  t.announce (.key key) (.removed (resident || reply.toOption.getD false)) s

/-- The shared tier has answered to the deletion of many keys. -/
def endSweep (t : Task) (pattern : String) (reply : Except CacheError Nat) (s : Site σ) : Task × Site σ :=
  t.announce (.pattern pattern) (.swept (reply.toOption.getD 0)) (s.settle "delete_pattern" (fun _ => none) reply)

/-- One segment of a call that is ready. -/
def step (t : Task) (s : Site σ) : Task × Site σ :=
  match t.phase with
  | .waiting _ => t.start s
  | .reading key trip =>
    let (reply, s) := s.finish trip
    match s.lookupShared key reply with
    | (some v, s) => t.answer true (.ok (some v)) s
    | (none, s) => t.miss key s
  | .queued key =>
    match s.recheckLocal key with
    | (some v, s) => t.answer true (.ok (some v)) (s.leave key t.ticket)
    | (none, s) =>
      let (trip, s) := s.call (.get key)
      t.become (.rereading key trip) s
  | .rereading key trip =>
    let (reply, s) := s.finish trip
    match s.recheckShared key reply with
    | (some v, s) => t.answer true (.ok (some v)) (s.leave key t.ticket)
    | (none, s) => t.startFetch key s
  | .fetching key _ =>
    match t.call with
    | .getOrFetch _ fetch => t.endFetch key fetch s
    | _ => t.answer false (.ok none) s
  | .storing key evicted trip =>
    let (reply, s) := s.finish trip
    t.endStore key evicted reply s
  | .deleting key resident trip =>
    let (reply, s) := s.finish trip
    t.endDelete key resident reply s
  | .sweeping pattern trip =>
    let (reply, s) := s.finish trip
    t.endSweep pattern reply s
  | .announcing reply trip =>
    let (published, s) := s.finish trip
    t.finish reply (s.settle "publish" (fun _ => none) published)
  | .inspecting localTier trip =>
    match s.finish trip with
    | (.ok info, s) => t.answerStats localTier true info s
    | (.error e, s) => t.answerStats localTier true {} (s.report "info" e)
  | .probing trip =>
    let (reply, s) := s.finish trip
    t.answerHealth (.ofPing t.started s.now reply) s
  | .dialing attempt left trip =>
    match s.finish trip with
    | (.ok (), s) => t.finish (.connected true) (s.setConnected true)
    | (.error _, s) =>
      match left with
      | 0 => t.finish (.connected false) (s.setConnected false)
      | left + 1 =>
        let due := wakeAt s.now (s.node.remote.retry.backoff attempt)
        t.become (.resting (attempt + 1) left due) s
  | .resting attempt left _ => t.dial attempt left s
  | .hangingUp trip => t.finish .done (s.finish trip).2
  | .finished _ _ => (t, s)
  | .cancelled _ => (t, s)

/-- Drop a call at its wait. It leaves the line it stands in, and a trip that is under way never
reaches the store. -/
def cancel (t : Task) (s : Site σ) : Task × Site σ :=
  if t.phase.isOver then (t, s)
  else t.become (.cancelled s.now) (t.phase.line?.elim s (s.leave · t.ticket))

end TwoTier.Task
