/-
A store in memory, in the place of a single node of a shared one: keys with optional deadlines,
deletion by glob pattern, published messages and the figures of the node. It can be made
unavailable, and then every request fails. Entries past their deadline may stay until a request
meets them, but no answer shows them, save the memory figure.
-/
import TwoTier.Time
import TwoTier.Glob.Pattern
import TwoTier.Store.Request
import TwoTier.Text

namespace TwoTier

/-- What a store holds under a key. -/
structure Stored where
  data : Bytes
  /-- The instant from which it is gone, if there is one. -/
  deadline : Option Nat
deriving Repr, DecidableEq

def Stored.isExpired (e : Stored) (now : Nat) : Bool :=
  match e.deadline with
  | none => false
  | some d => TwoTier.isExpired d now

/-- The store. -/
structure Store where
  /-- Keys with what they hold. -/
  entries : List (String × Stored) := []
  available : Bool := true
  /-- Attempts to connect since the store was made. -/
  attempts : Nat := 0
  /-- Published messages with their channels, the oldest first. -/
  published : List (String × String) := []
  /-- Each key is listed once. -/
  keys_nodup : (entries.map Prod.fst).Nodup := by simp
deriving Repr, DecidableEq

namespace Store

def find? (s : Store) (key : String) : Option Stored := s.entries.lookup key

/-- What a key holds unless it is past its deadline. -/
def live? (s : Store) (now : Nat) (key : String) : Option Stored :=
  (s.find? key).filter fun e => !e.isExpired now

/-- Only the keys that meet a condition, with what they hold. -/
def keep (s : Store) (p : String → Bool) : Store :=
  { s with
    entries := s.entries.filter (p ·.1)
    keys_nodup := s.keys_nodup.sublist (List.filter_sublist.map _) }

def remove (s : Store) (key : String) : Store := s.keep (· != key)

/-- Let a key hold something, in place of what it held. -/
def put (s : Store) (key : String) (e : Stored) : Store :=
  { s with
    entries := (key, e) :: (s.remove key).entries
    keys_nodup := List.nodup_cons.2 ⟨by simp [remove, keep], (s.remove key).keys_nodup⟩ }

/-- Put bytes without a deadline, whether the store is available or not. -/
def insertRaw (s : Store) (key : String) (data : Bytes) : Store := s.put key ⟨data, none⟩

/-- Whether a key holds something that is not past its deadline. -/
def contains (s : Store) (now : Nat) (key : String) : Bool := (s.live? now key).isSome

/-- Number of keys that are not past their deadline. -/
def size (s : Store) (now : Nat) : Nat := (s.entries.filter fun e => !e.2.isExpired now).length

def isEmpty (s : Store) (now : Nat) : Bool := s.size now == 0

/-- Bytes of all keys and data held, dead or alive. -/
def usedMemory (s : Store) : Nat := s.entries.foldl (fun n e => n + (e.1.utf8ByteSize + e.2.data.length)) 0

def unavailable : CacheError := .connection "memory store unavailable"

/-- Read a key. One that is past its deadline is dropped on the way. -/
def read (s : Store) (now : Nat) (key : String) : Option Bytes × Store :=
  match s.find? key with
  | none => (none, s)
  | some e => if e.isExpired now then (none, s.remove key) else (some e.data, s)

/-- Drop the keys a pattern matches and count those not past their deadline. -/
def sweep (s : Store) (now : Nat) (p : Glob.Pattern) : Nat × Store :=
  ((s.entries.filter fun e => p.isMatch e.1 && !e.2.isExpired now).length,
    s.keep fun key => !p.isMatch key)

/-- Answer a request while the store is available. The refusal of an invalid pattern quotes the pattern
and leaves out what the compiler of expressions would say about it. -/
def answer {α : Type} (now : Nat) (r : Request α) (s : Store) : Except CacheError α × Store :=
  match r with
  | .connect => (.ok (), s)
  | .disconnect => (.ok (), s)
  | .ping => (.ok (), s)
  | .get key => let (data, s) := s.read now key; (.ok data, s)
  | .set key data ttl => (.ok (), s.put key ⟨data, ttl.map (deadline now)⟩)
  | .delete key => (.ok (s.contains now key), s.remove key)
  | .deletePattern pattern =>
    match Glob.compile pattern with
    | none => (.error (.connection ("invalid pattern " ++ Text.quoted pattern)), s)
    | some p => let (n, s) := s.sweep now p; (.ok n, s)
  | .publish channel message => (.ok (), { s with published := s.published ++ [(channel, message)] })
  | .info => (.ok ⟨some s.usedMemory, some 1⟩, s)

/-- Answer a request. A store that is not available refuses everything but to disconnect; it still
counts the attempts to connect. -/
def serve {α : Type} (now : Nat) (r : Request α) (s : Store) : Except CacheError α × Store :=
  let s := match r with
    | .connect => { s with attempts := s.attempts + 1 }
    | _ => s
  match r with
  | .disconnect => (.ok (), s)
  | r => if s.available then s.answer now r else (.error unavailable, s)

instance : Backend Store where
  name := "memory"
  serve := Store.serve

end Store

end TwoTier
