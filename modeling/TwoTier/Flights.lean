/-
Whose turn it is to fetch. Callers that miss the same key meet at a lock, which is listed under the
key. Every caller takes a handle of the lock, and of those who have one the first to come holds the
lock. A caller gives its handle back when it leaves, for whatever reason; the lock is taken off the
list when the list's own handle of it is the last one.
-/

namespace TwoTier

/-- A caller's handle of a lock. -/
structure Handle where
  lock : Nat
  caller : Nat
deriving Repr, DecidableEq

/-- The locks; each caller is known by its own number. -/
structure Flights where
  /-- The lock at which the callers of a key meet. -/
  table : List (String × Nat) := []
  /-- Handles in the order in which they were taken. -/
  handles : List Handle := []
  /-- Number of locks made so far; the next one gets it for a name. -/
  made : Nat := 0
deriving Repr, DecidableEq

namespace Flights

/-- The lock that is listed under a key. -/
def listed? (f : Flights) (key : String) : Option Nat := f.table.lookup key

/-- The lock of which a caller has a handle. -/
def lockOf? (f : Flights) (caller : Nat) : Option Nat :=
  (f.handles.find? fun h => h.caller == caller).map Handle.lock

/-- The caller that holds a lock. -/
def holder? (f : Flights) (lock : Nat) : Option Nat :=
  (f.handles.find? fun h => h.lock == lock).map Handle.caller

/-- Whether it is a caller's turn. -/
def hasTurn (f : Flights) (caller : Nat) : Bool := (f.lockOf? caller).any fun lock => f.holder? lock == some caller

/-- How many handles of a lock there are, the list's own among them. -/
def handleCount (f : Flights) (lock : Nat) : Nat :=
  (f.table.countP fun e => e.2 == lock) + f.handles.countP fun h => h.lock == lock

/-- Take a handle of the lock that is listed under a key; if there is none, a new one is. -/
def join (f : Flights) (key : String) (caller : Nat) : Flights :=
  match f.listed? key with
  | some lock => { f with handles := f.handles ++ [⟨lock, caller⟩] }
  | none => ⟨(key, f.made) :: f.table, f.handles ++ [⟨f.made, caller⟩], f.made + 1⟩

/-- Take a key off the list unless somebody else has a handle of its lock. -/
def unlist (f : Flights) (key : String) : Flights :=
  match f.listed? key with
  | some lock => if f.handleCount lock = 1 then { f with table := f.table.filter fun e => e.1 != key } else f
  | none => f

/-- Give the handle back that was taken for a key, while holding the lock or waiting for it. -/
def leave (f : Flights) (key : String) (caller : Nat) : Flights :=
  if (f.lockOf? caller).isNone then f
  else { f with handles := f.handles.filter fun h => h.caller != caller }.unlist key

end Flights

end TwoTier
