/-
Structured payloads. A record is written as the array of its fields in order, and read from such an
array or from a map from field names, or positions, to values. A variant without content is written
as its name, any other as a map from its name to its content. A map with text keys is kept in key
order. Three types stand for the kinds of record that callers define: a profile, an outline with
four variants, and a value that has no payload at all.
-/
import TwoTier.MessagePack.Payload

namespace TwoTier

/-- A map with text keys, in key order. -/
structure TextMap (α : Type) where
  entries : List (String × α)
deriving Repr, DecidableEq

namespace TextMap

variable {α : Type}

/-- Put a value into entries that are in key order, in place of one with the same key. -/
def insert (key : String) (value : α) : List (String × α) → List (String × α)
  | [] => [(key, value)]
  | (k, v) :: rest =>
    if key = k then (key, value) :: rest
    else if key < k then (key, value) :: (k, v) :: rest
    else (k, v) :: insert key value rest

/-- The map with these entries; of several with one key the last stays. -/
def ofList (entries : List (String × α)) : TextMap α :=
  ⟨entries.foldl (fun sorted e => insert e.1 e.2 sorted) []⟩

end TextMap

namespace Payload

variable {α : Type}

/-- A key and its value, both as they should be. -/
def entryOf? [Payload α] (e : Pack × Pack) : Option (String × α) :=
  match textOf? e.1, unpack e.2 with
  | some k, some a => some (k, a)
  | _, _ => none

instance [Payload α] : Payload (TextMap α) where
  pack m := (m.entries.mapM fun e => (pack e.2).map fun p => (Pack.text e.1, p)).map .map
  unpack
    | .map entries => (entries.mapM entryOf?).map TextMap.ofList
    | _ => none

/-! ## Names of fields and variants -/

/-- The position that a form names, among names listed in order: by name, or by number. A name that
is not listed is the position behind the last. Forms of other kinds name nothing. -/
def position? (names : List String) : Pack → Option Nat
  | .str data => some ((names.map Pack.textBytes).idxOf data)
  | .bin data => some ((names.map Pack.textBytes).idxOf data)
  | .uint n => some (min n names.length)
  | _ => none

/-- The values of named fields, sorted out of a map. A field that occurs twice spoils the record;
unknown fields are passed over. -/
def fieldsOf? (names : List String) : List (Pack × Pack) → Option (List (Option Pack))
  | [] => some (names.map fun _ => none)
  | (k, v) :: rest =>
    match position? names k, fieldsOf? names rest with
    | some i, some found =>
      if i < names.length then
        if (found[i]?.join).isSome then none else some (found.set i (some v))
      else some found
    | _, _ => none

/-- The field values of a record of two fields. -/
def pairOf? (first second : String) : Pack → Option (Option Pack × Option Pack)
  | .arr [a, b] => some (some a, some b)
  | .map entries =>
    match fieldsOf? [first, second] entries with
    | some [a, b] => some (a, b)
    | _ => none
  | _ => none

/-! ## Three types -/

end Payload

/-- A name and how often it was seen. -/
structure Profile where
  name : String
  visits : UInt32
deriving Repr, DecidableEq

/-- One variant of each form: bare, with one value, with two, with fields. -/
inductive Outline where
  | unit
  | new (n : UInt32)
  | pair (n : UInt32) (text : String)
  | record (a : UInt32) (b : Option Bool)
deriving Repr, DecidableEq

/-- A value that cannot be written. -/
inductive Unwritable where
  | value
deriving Repr, DecidableEq

namespace Payload

instance : Payload Profile where
  pack p := some (.arr [.text p.name, .uint p.visits.toNat])
  unpack p :=
    match pairOf? "name" "visits" p with
    | some (some name, some visits) =>
      match unpack name, unpack visits with
      | some name, some visits => some ⟨name, visits⟩
      | _, _ => none
    | _ => none

def outlineNames : List String := ["Unit", "New", "Pair", "Rec"]

/-- The content of each variant, by its position. -/
def outlineOf? (position : Nat) (content : Pack) : Option Outline :=
  match position with
  | 0 =>
    match content with
    | .nil => some .unit
    | _ => none
  | 1 => (unpack content).map .new
  | 2 => (unpack content).map fun (n, text) => .pair n text
  | 3 =>
    match pairOf? "a" "b" content with
    | some (some a, b) =>
      -- an option that is not given is absent
      match unpack a, unpack (b.getD .nil) with
      | some a, some b => some (.record a b)
      | _, _ => none
    | _ => none
  | _ => none

instance : Payload Outline where
  pack
    | .unit => some (.text "Unit")
    | .new n => some (.map [(.text "New", .uint n.toNat)])
    | .pair n text => some (.map [(.text "Pair", .arr [.uint n.toNat, .text text])])
    | .record a b => some (.map [(.text "Rec", .arr [.uint a.toNat, b.elim .nil .bool])])
  unpack
    | .map [(k, v)] => (position? outlineNames k).bind fun i => outlineOf? i v
    | .map _ => none
    | p => if position? outlineNames p = some 0 then some .unit else none

instance : Payload Unwritable where
  pack _ := none
  unpack _ := none

end Payload

end TwoTier
