/-
Replies of a Redis server and how they are read: a number may come as a text, a text as a number,
and a list as a single text. What cannot be read is `none`.
-/
import TwoTier.MessagePack
import TwoTier.Redis.Url

namespace TwoTier.Redis

inductive Reply where
  | nil
  | int (i : Int)
  /-- A line of text. -/
  | status (s : String)
  | error (s : String)
  | bulk (data : Bytes)
  | array (items : List Reply)
deriving Repr, Inhabited

namespace Reply

mutual

/-- Whether a reply is an error or holds one. -/
def failed : Reply → Bool
  | .error _ => true
  | .array items => anyFailed items
  | _ => false

def anyFailed : List Reply → Bool
  | [] => false
  | r :: rest => failed r || anyFailed rest

end

/-- A text. -/
def text? : Reply → Option String
  | .status s => some s
  | .bulk data => Pack.textOf? data
  | .int i => some (toString i)
  | _ => none

/-- A number of so many bits; a longer one is cut to them. -/
def number? (bits : Nat) : Reply → Option Nat
  | .int i => some (i % pow2 bits).toNat
  | .status s => Redis.number? (pow2 bits - 1) s
  | .bulk data => (Pack.textOf? data).bind (Redis.number? (pow2 bits - 1))
  | _ => none

/-- Bytes. -/
def bytes? : Reply → Option Bytes
  | .nil => some []
  | .bulk data => some data
  | .array items => items.mapM fun r => (r.number? 8).map Nat.toUInt8
  | _ => none

/-- Bytes, or nothing for a key that does not exist. -/
def value? : Reply → Option (Option Bytes)
  | .nil => some none
  | r => r.bytes?.map some

/-- A list of texts. -/
def texts? : Reply → Option (List String)
  | .nil => some []
  | .bulk data => (Pack.textOf? data).map fun s => [s]
  | .array items => items.mapM text?
  | _ => none

/-- A page of keys, with the cursor of the next one. -/
def page? : Reply → Option (Nat × List String)
  | .array [cursor, keys] =>
    match cursor.number? 64, keys.texts? with
    | some n, some ks => some (n, ks)
    | _, _ => none
  | _ => none

end Reply

/-- The figures in a report of lines `field:value`; a later line counts, even if it has no number. -/
def StoreInfo.ofReport (report : String) : StoreInfo :=
  (report.splitOn "\n").foldl (fun info line =>
    let line := ((line.toList.dropWhile Text.isBlank).reverse.dropWhile Text.isBlank).reverse
    match line.dropWhile (· != ':') with
    | [] => info
    | _ :: value =>
      let n := number? maxNat64 (String.ofList value)
      match String.ofList (line.takeWhile (· != ':')) with
      | "used_memory" => { info with usedMemory := n }
      | "connected_clients" => { info with connectedClients := n }
      | _ => info) {}

end TwoTier.Redis
