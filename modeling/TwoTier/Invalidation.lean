/-
Messages by which instances tell each other what to drop from their local tier. A payload is the
sender's id, a bar, the kind, a colon and the key or pattern: `id|key:…` or `id|pattern:…`.
-/
import TwoTier.Lru

namespace TwoTier

/-- What a peer is asked to drop. -/
inductive Invalidation where
  /-- One key. -/
  | key (key : String)
  /-- The keys that match a pattern; a local tier drops everything. -/
  | pattern (pattern : String)
deriving Repr, DecidableEq

/-- An invalidation and who sent it. -/
structure Message where
  origin : String
  body : Invalidation
deriving Repr, DecidableEq

namespace Message

def keyTag : String := "key:"
def patternTag : String := "pattern:"

def encode (m : Message) : String :=
  match m.body with
  | .key k => m.origin ++ "|" ++ keyTag ++ k
  | .pattern p => m.origin ++ "|" ++ patternTag ++ p

/-- The text behind a tag that it starts with. -/
def stripTag (tag : String) (text : List Char) : Option String :=
  if tag.toList.isPrefixOf text then some (String.ofList (text.drop tag.length)) else none

/-- The message of a payload. The origin ends at the first bar. -/
def decode (payload : String) : Option Message :=
  let text := payload.toList
  match text.dropWhile (· != '|') with
  | [] => none
  | _ :: body =>
    let origin := String.ofList (text.takeWhile (· != '|'))
    match stripTag keyTag body, stripTag patternTag body with
    | some k, _ => some ⟨origin, .key k⟩
    | none, some p => some ⟨origin, .pattern p⟩
    | none, none => none

/-- Apply a message to the local tier of the instance `self`, which leaves its own messages alone.
Tells whether anything was applied. -/
def apply {α : Type} (m : Message) (self : String) (c : Lru α) : Bool × Lru α :=
  if m.origin = self then (false, c)
  else
    match m.body with
    | .key k => (true, (c.delete k).2)
    | .pattern _ => (true, c.clear)

end Message

end TwoTier
