/-
Types whose values the shared tier can hold, each with its form in MessagePack: numbers, truth
values, texts, lists, options, pairs, maps with text keys and JSON. Reading accepts a number by its
value and not by its width, so a number never comes back changed.
-/
import TwoTier.Json
import TwoTier.MessagePack.Reader

namespace TwoTier

/-- A type with a form in MessagePack. -/
class Payload (α : Type) where
  /-- The form of a value; a value may have none. -/
  pack : α → Option Pack
  /-- The value of a form, if it is one of the type. -/
  unpack : Pack → Option α

namespace Payload

variable {α β : Type}

/-- The payload of a value. -/
def encode [Payload α] (a : α) : Except CacheError Bytes :=
  match pack a with
  | some p => .ok p.write
  | none => .error .serialization

/-- The value of a payload. -/
def decode [Payload α] (bytes : Bytes) : Except CacheError α :=
  match (Pack.parse bytes).bind unpack with
  | some a => .ok a
  | none => .error .deserialization

/-! ## Numbers -/

/-- The integer of a form that holds one. -/
def intOf? : Pack → Option Int
  | .uint n => some n
  | .sint i => some i
  | _ => none

/-- The integer of a form if it lies between two bounds. -/
def intWithin? (low high : Int) (p : Pack) : Option Int := (intOf? p).filter fun i => low ≤ i ∧ i ≤ high

instance : Payload UInt8 where
  pack n := some (.uint n.toNat)
  unpack p := (intWithin? 0 255 p).map fun i => i.toNat.toUInt8

instance : Payload UInt32 where
  pack n := some (.uint n.toNat)
  unpack p := (intWithin? 0 maxNat32 p).map fun i => i.toNat.toUInt32

instance : Payload UInt64 where
  pack n := some (.uint n.toNat)
  unpack p := (intWithin? 0 maxNat64 p).map fun i => i.toNat.toUInt64

instance : Payload Int8 where
  pack i := some (.sint i.toInt)
  unpack p := (intWithin? (-128) 127 p).map Int8.ofInt

instance : Payload Int64 where
  pack i := some (.sint i.toInt)
  unpack p := (intWithin? minInt64 maxInt64 p).map Int64.ofInt

instance : Payload Bool where
  pack b := some (.bool b)
  unpack
    | .bool b => some b
    | _ => none

/-- Integers and shorter floats read as the number nearest to them. -/
instance : Payload Double where
  pack x := some (.double x)
  unpack
    | .double x => some x
    | .single bits => some (.ofSingle bits)
    | p => (intOf? p).map Double.ofInt

/-! ## Texts and collections -/

/-- The text of a form; bytes that are valid UTF-8 are as good as a text. -/
def textOf? : Pack → Option String
  | .str data => Pack.textOf? data
  | .bin data => Pack.textOf? data
  | _ => none

instance : Payload String where
  pack s := some (.text s)
  unpack := textOf?

/-- Bytes read as a list of the numbers they are. -/
instance [Payload α] : Payload (List α) where
  pack as := (as.mapM pack).map .arr
  unpack
    | .arr items => items.mapM unpack
    | .bin data => data.mapM fun b => unpack (.uint b.toNat)
    | _ => none

instance [Payload α] : Payload (Option α) where
  pack
    | none => some .nil
    | some a => pack a
  unpack
    | .nil => some none
    | p => (unpack p).map some

instance [Payload α] [Payload β] : Payload (α × β) where
  pack ab :=
    match pack ab.1, pack ab.2 with
    | some a, some b => some (.arr [a, b])
    | _, _ => none
  unpack
    | .arr [a, b] =>
      match unpack a, unpack b with
      | some a, some b => some (a, b)
      | _, _ => none
    | _ => none

/-! ## JSON -/

mutual

def packJson : Json → Pack
  | .null => .nil
  | .bool b => .bool b
  | .int i => if 0 ≤ i then .uint i.toNat else .sint i
  | .float x => .double x
  | .str s => .text s
  | .arr items => .arr (packJsons items)
  | .obj members => .map (packMembers members)

def packJsons : List Json → List Pack
  | [] => []
  | j :: rest => packJson j :: packJsons rest

def packMembers : List (String × Json) → List (Pack × Pack)
  | [] => []
  | (k, j) :: rest => (.text k, packJson j) :: packMembers rest

end

/-- JSON has no number that is not finite. -/
def jsonNumber (x : Double) : Json := if x.isFinite then .float x else .null

/-- The first key of a map has to be a text; a later one may be bytes that form a text. -/
def firstKey? : Pack → Option String
  | .str data => Pack.textOf? data
  | _ => none

mutual

def unpackJson : Pack → Option Json
  | .nil => some .null
  | .bool b => some (.bool b)
  | .uint n => some (.int n)
  | .sint i => some (.int i)
  | .single bits => some (jsonNumber (.ofSingle bits))
  | .double x => some (jsonNumber x)
  | .str data => (Pack.textOf? data).map .str
  | .bin _ => none
  | .ext _ _ => none
  | .arr items => (unpackJsons items).map .arr
  | .map [] => some (.obj [])
  | .map ((k, v) :: rest) =>
    match firstKey? k, unpackJson v, unpackMembers rest with
    | some k, some v, some ms => some (Json.object ((k, v) :: ms))
    | _, _, _ => none

def unpackJsons : List Pack → Option (List Json)
  | [] => some []
  | p :: rest =>
    match unpackJson p, unpackJsons rest with
    | some j, some js => some (j :: js)
    | _, _ => none

def unpackMembers : List (Pack × Pack) → Option (List (String × Json))
  | [] => some []
  | (k, v) :: rest =>
    match textOf? k, unpackJson v, unpackMembers rest with
    | some k, some j, some ms => some ((k, j) :: ms)
    | _, _, _ => none

end

instance : Payload Json where
  pack j := some (packJson j)
  unpack := unpackJson

end Payload

end TwoTier
