/-
Several instances around one store, under one clock, with the calls that are under way. Whatever
happens is one of a few moves: a call is made, goes on by a segment, or is dropped; the clock comes
to an instant; a local tier is purged; a message arrives; the script in front of the store changes.
Moves may come in any order, and a theorem about all runs is one about all lists of moves.
-/
import TwoTier.Call.Step

namespace TwoTier

/-- A call together with the position of the instance it was made to. -/
structure Job where
  node : Nat
  task : Task

/-- Instances around a store. -/
structure Cluster (σ : Type) where
  now : Nat := 0
  store : Scripted σ
  recorder : Recorder := {}
  nodes : List Node := []
  jobs : List Job := []

/-- What can happen. Instances and calls are given by their positions. -/
inductive Move where
  /-- A call is made; it begins at an instant and may be dropped some time after. -/
  | call (node start : Nat) (patience : Option Nat) (call : Call)
  /-- A call that is ready goes on by one segment. -/
  | resume (job : Nat)
  /-- A call is dropped where it waits. -/
  | cancel (job : Nat)
  /-- The clock comes to an instant, unless it is past it. -/
  | wait (t : Nat)
  /-- The local tier of an instance is purged. -/
  | purge (node : Nat)
  /-- A payload arrives on the channel of an instance. -/
  | deliver (node : Nat) (payload : String)
  /-- The next calls of one kind to the store are scripted anew. -/
  | script (m : Method) (f : Fault)

namespace Cluster

variable {σ : Type}

/-- An instance at work. -/
def site? (c : Cluster σ) (i : Nat) : Option (Site σ) := c.nodes[i]?.map fun n => ⟨c.now, c.store, c.recorder, n⟩

/-- The cluster after an instance was at work. -/
def withSite (c : Cluster σ) (i : Nat) (s : Site σ) : Cluster σ :=
  { c with now := s.now, store := s.store, recorder := s.recorder, nodes := c.nodes.set i s.node }

/-- Let an instance work. -/
def onSite (c : Cluster σ) (i : Nat) (f : Site σ → Site σ) : Cluster σ :=
  match c.site? i with
  | some s => c.withSite i (f s)
  | none => c

/-- Let a call change, and its instance with it. -/
def onJob (c : Cluster σ) (i : Nat) (f : Task → Site σ → Task × Site σ) : Cluster σ :=
  match c.jobs[i]? with
  | none => c
  | some job =>
    match c.site? job.node with
    | none => c
    | some s =>
      let (task, s) := f job.task s
      { c.withSite job.node s with jobs := c.jobs.set i { job with task } }

/-- Whether a call can go on. -/
def isReady (c : Cluster σ) (job : Job) : Bool :=
  match c.nodes[job.node]? with
  | some n => job.task.isReady c.now n
  | none => false

def move [Backend σ] (c : Cluster σ) : Move → Cluster σ
  | .call node start patience call =>
    if node < c.nodes.length then
      { c with jobs := c.jobs ++ [⟨node, { call, ticket := c.jobs.length, phase := .waiting start, patience }⟩] }
    else c
  | .resume i => if c.jobs[i]?.any c.isReady then c.onJob i Task.step else c
  | .cancel i => c.onJob i Task.cancel
  | .wait t => { c with now := max c.now t }
  | .purge i => c.onSite i Site.purge
  | .deliver i payload => c.onSite i fun s => { s with node := (s.node.deliver payload).2 }
  | .script m f => { c with store := c.store.script m f }

/-- A run. -/
def run [Backend σ] (c : Cluster σ) (moves : List Move) : Cluster σ := moves.foldl move c

end Cluster

end TwoTier
