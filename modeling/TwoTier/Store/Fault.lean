/-
Faults scripted in front of a store. For each kind of request a script may say that the next calls
wait, and then fail or go on to the store; faults of one kind take effect one after the other. A call
uses up its share of the script when it is made, whether or not it lives to reach the store.
-/
import TwoTier.Store.Request

namespace TwoTier

/-- What the script does to calls of one kind. -/
structure Fault where
  /-- How long a call waits before anything else happens. -/
  delay : Option Nat := none
  /-- How a call fails; otherwise it goes on to the store. -/
  failure : Option CacheError := none
  /-- How many calls are still affected; all of them if not given. -/
  times : Option Nat := none
deriving Repr, DecidableEq

namespace Fault

/-- The fault with one call less to affect. -/
def spend (f : Fault) : Fault := { f with times := f.times.map (· - 1) }

/-- What a list of faults does to a call of one kind, and the list that is left. The first fault of the kind counts that
still affects calls. -/
def draw (m : Method) : List (Method × Fault) → Fault × List (Method × Fault)
  | [] => ({}, [])
  | (k, f) :: rest =>
    if k = m ∧ f.times ≠ some 0 then (f, (k, f.spend) :: rest)
    else
      let (g, rest) := draw m rest
      (g, (k, f) :: rest)

end Fault

/-- A store behind a script. -/
structure Scripted (σ : Type) where
  inner : σ
  faults : List (Method × Fault) := []
  /-- The store's figures are withheld. -/
  blankInfo : Bool := false

namespace Scripted

variable {σ : Type}

/-- Script calls of one kind, in place of an earlier script for that kind. -/
def script (s : Scripted σ) (m : Method) (f : Fault) : Scripted σ :=
  { s with faults := (m, f) :: s.faults.filter fun e => e.1 ≠ m }

/-- Make a call: what the script does to it, and the script that is left. -/
def draw (s : Scripted σ) (m : Method) : Fault × Scripted σ :=
  let (f, faults) := Fault.draw m s.faults
  (f, { s with faults })

/-- What the store itself answers. -/
def serve [Backend σ] {α : Type} (now : Nat) (r : Request α) (s : Scripted σ) :
    Except CacheError α × Scripted σ :=
  match r, s.blankInfo with
  | .info, true => (.ok {}, s)
  | r, _ =>
    let (reply, inner) := Backend.serve now r s.inner
    (reply, { s with inner })

end Scripted

end TwoTier
