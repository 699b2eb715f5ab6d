/-
A fair order of moves, the one in which a single thread takes them. The calls under way are visited
in the order in which they were made, each as long as it is ready, round after round until none is;
then the clock comes to the next instant at which one of them is. Purges that fall due while the
clock is on its way happen at their instants, and those of an instant after its calls.
-/
import TwoTier.Cluster

namespace TwoTier.Cluster

variable {σ : Type} [Backend σ]

/-! ## Purges -/

/-- The instance whose purge falls due next, and when that is. -/
def nextPurge? (c : Cluster σ) : Option (Nat × Nat) :=
  let dues := c.nodes.zipIdx.filterMap fun (n, i) => n.maintenance.map fun m => (i, max c.now (wakeAt c.now (m.due - c.now)))
  dues.foldl (fun best d =>
    match best with
    | some b => if d.2 < b.2 then some d else some b
    | none => some d) none

/-- A purge that falls due at an instant. -/
def purgeAt (c : Cluster σ) (i t : Nat) : Cluster σ := (c.move (.wait t)).move (.purge i)

/-- A bound on the purges before an instant. -/
def purgesBefore (c : Cluster σ) (t : Nat) : Nat :=
  c.nodes.foldl (fun k n => k + n.maintenance.elim 0 fun m => (t - m.due) / m.interval + 1) 0

/-- The purges that fall due before an instant, at most `fuel` of them. -/
def purgeWithin (c : Cluster σ) (t : Nat) : (fuel : Nat) → Cluster σ
  | 0 => c
  | fuel + 1 =>
    match c.nextPurge? with
    | some (i, due) => if due < t then (c.purgeAt i due).purgeWithin t fuel else c
    | none => c

def purgeUntil (c : Cluster σ) (t : Nat) : Cluster σ := c.purgeWithin t (c.purgesBefore t)

/-- Let the clock come to an instant. -/
def advance (c : Cluster σ) (t : Nat) : Cluster σ := (c.purgeUntil t).move (.wait t)

/-- The purges of the present instant. -/
def purgeDue (c : Cluster σ) : Cluster σ := c.purgeUntil (c.now + 1)

/-! ## Calls -/

/-- A bound on the segments left in a call. -/
def rank (c : Cluster σ) (job : Job) : Nat :=
  job.task.phase.rank ((c.nodes[job.node]?.map fun n => max n.remote.retry.attempts 1).getD 1)

/-- A bound on the segments left in all calls. -/
def totalRank (c : Cluster σ) : Nat := c.jobs.foldl (fun k job => k + c.rank job) 0

/-- Let a call go on while it is ready, by at most `fuel` segments. -/
def goOn (c : Cluster σ) (i : Nat) : (fuel : Nat) → Cluster σ
  | 0 => c
  | fuel + 1 => if c.jobs[i]?.any c.isReady then (c.move (.resume i)).goOn i fuel else c

/-- Whether a caller has lost patience. -/
def isDropped (c : Cluster σ) (job : Job) : Bool := job.task.dropsAt?.any (· ≤ c.now)

/-- Visit a call: let it go on, and drop it if that was in vain. -/
def visit (c : Cluster σ) (i : Nat) : Cluster σ :=
  let c := c.goOn i ((c.jobs[i]?.map c.rank).getD 0)
  if c.jobs[i]?.any c.isDropped then c.move (.cancel i) else c

/-- Visit all calls in the order in which they were made. -/
def round (c : Cluster σ) : Cluster σ := (List.range c.jobs.length).foldl visit c

/-- Rounds until nothing more happens at this instant, at most `fuel` of them. -/
def settle (c : Cluster σ) : (fuel : Nat) → Cluster σ
  | 0 => c
  | fuel + 1 => if c.jobs.any fun j => c.isReady j || c.isDropped j then c.round.settle fuel else c

/-- The next instant at which something happens to a call. -/
def nextWake? (c : Cluster σ) : Option Nat := (c.jobs.filterMap fun j => j.task.wakes?).min?

/-- Let all calls come to their ends, with at most `fuel` moves of the clock. -/
def drive (c : Cluster σ) : (fuel : Nat) → Cluster σ
  | 0 => c
  | fuel + 1 =>
    let c := c.settle c.totalRank
    match c.nextWake? with
    | some t => (c.advance t).drive fuel
    | none => c

/-- A call to make. -/
structure Plan where
  call : Call
  /-- How long from now it begins. -/
  delay : Option Nat := none
  /-- How long after it began the caller drops it. -/
  patience : Option Nat := none

/-- Make calls to an instance and let all of them come to their ends. -/
def perform (c : Cluster σ) (node : Nat) (plans : List Plan) : List Task × Cluster σ :=
  let c := (plans.map fun p => Move.call node (p.delay.elim c.now (wakeAt c.now)) p.patience p.call).foldl move
    { c with jobs := [] }
  let c := c.drive (c.totalRank + 1)
  (c.jobs.map Job.task, { c with jobs := [] })

/-- Make one call and let it come to its end. -/
def request (c : Cluster σ) (node : Nat) (call : Call) (patience : Option Nat) : Option Task × Cluster σ :=
  let (tasks, c) := c.perform node [{ call, patience }]
  (tasks.head?, c)

/-! ## Instances -/

def add (c : Cluster σ) (n : Node) : Cluster σ := { c with nodes := c.nodes ++ [n] }

/-- Add an instance that connects to its store. It has its local tier only if that fails. -/
def addConnected (c : Cluster σ) (n : Node) : Cluster σ := ((c.add n).request c.nodes.length .connect none).2

/-- Add an instance made from settings, connected if they ask for the shared tier. -/
def launch (c : Cluster σ) (id : String) (s : CacheSettings) : Except CacheError (Cluster σ) :=
  (Node.make id s).map fun n => if s.remote.enabled then c.addConnected n else c.add n

/-! ## Work on a tier alone -/

/-- Let the client of an instance work by itself. -/
def onLink {β : Type} (c : Cluster σ) (i : Nat) (f : Link σ → β × Link σ) : Option β × Cluster σ :=
  match c.site? i with
  | none => (none, c)
  | some s =>
    let (b, l) := f s.link
    (some b, (c.withSite i { s.withLink l with now := c.now }).advance l.now)

/-- Let the local tier of an instance work by itself. -/
def onLru {β : Type} (c : Cluster σ) (i : Nat) (f : Lru Json → β × Lru Json) : Option β × Cluster σ :=
  match c.site? i with
  | none => (none, c)
  | some s =>
    let (b, lru) := f s.node.lru
    (some b, c.withSite i (s.withLru lru))

end TwoTier.Cluster
