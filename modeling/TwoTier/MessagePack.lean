/-
MessagePack, the format of the payloads in the shared tier: a value is a marker byte followed by
what the marker announces, with numbers in big-endian order. This module has the values, the two
byte orders' arithmetic and the writer, which picks the shortest marker that fits.
-/
import TwoTier.Double
import TwoTier.Store.Request

namespace TwoTier

/-- A MessagePack value. Integers remember whether their marker is a signed one, and a text is kept
as bytes because it may be no valid one. -/
inductive Pack where
  | nil
  | bool (b : Bool)
  | uint (n : Nat)
  | sint (i : Int)
  | single (bits : UInt32)
  | double (x : Double)
  | str (data : Bytes)
  | bin (data : Bytes)
  | arr (items : List Pack)
  | map (entries : List (Pack × Pack))
  | ext (tag : UInt8) (data : Bytes)
deriving Repr, Inhabited

namespace Pack

/-! ## Numbers as bytes -/

/-- The lowest `k` bytes of a number, the highest of them first. -/
def bigEndian : Nat → Nat → Bytes
  | 0, _ => []
  | k + 1, n => (n / pow2 (8 * k) % 256).toUInt8 :: bigEndian k n

/-- The number that bytes write. -/
def ofBigEndian (bytes : Bytes) : Nat := bytes.foldl (fun n b => n * 256 + b.toNat) 0

/-- A number of `k` bytes read as two's complement. -/
def twosComplement (k n : Nat) : Int := if 2 * n < pow2 (8 * k) then n else (n : Int) - pow2 (8 * k)

/-! ## Texts as bytes -/

def textBytes (s : String) : Bytes := s.toUTF8.data.toList

/-- The text of bytes that are valid UTF-8. -/
def textOf? (data : Bytes) : Option String := String.fromUTF8? ⟨data.toArray⟩

def text (s : String) : Pack := .str (textBytes s)

/-! ## The writer -/

/-- A number that is not negative. -/
def writeNat (n : Nat) : Bytes :=
  if n < 128 then [n.toUInt8]
  else if n < 256 then 0xcc :: bigEndian 1 n
  else if n < 65536 then 0xcd :: bigEndian 2 n
  else if n < 4294967296 then 0xce :: bigEndian 4 n
  else 0xcf :: bigEndian 8 n

/-- A number of either sign. -/
def writeInt (i : Int) : Bytes :=
  if 0 ≤ i then writeNat i.toNat
  else
    let n := (i + 18446744073709551616).toNat
    if -32 ≤ i then bigEndian 1 n
    else if -128 ≤ i then 0xd0 :: bigEndian 1 n
    else if -32768 ≤ i then 0xd1 :: bigEndian 2 n
    else if -2147483648 ≤ i then 0xd2 :: bigEndian 4 n
    else 0xd3 :: bigEndian 8 n

def writeTextMarker (n : Nat) : Bytes :=
  if n < 32 then [(0xa0 + n).toUInt8]
  else if n < 256 then 0xd9 :: bigEndian 1 n
  else if n < 65536 then 0xda :: bigEndian 2 n
  else 0xdb :: bigEndian 4 n

def writeBinMarker (n : Nat) : Bytes :=
  if n < 256 then 0xc4 :: bigEndian 1 n
  else if n < 65536 then 0xc5 :: bigEndian 2 n
  else 0xc6 :: bigEndian 4 n

def writeArrayMarker (n : Nat) : Bytes :=
  if n < 16 then [(0x90 + n).toUInt8]
  else if n < 65536 then 0xdc :: bigEndian 2 n
  else 0xdd :: bigEndian 4 n

def writeMapMarker (n : Nat) : Bytes :=
  if n < 16 then [(0x80 + n).toUInt8]
  else if n < 65536 then 0xde :: bigEndian 2 n
  else 0xdf :: bigEndian 4 n

def writeExtMarker (tag : UInt8) (n : Nat) : Bytes :=
  (if n < 256 then 0xc7 :: bigEndian 1 n
  else if n < 65536 then 0xc8 :: bigEndian 2 n
  else 0xc9 :: bigEndian 4 n) ++ [tag]

mutual

/-- The bytes of a value. -/
def write : Pack → Bytes
  | .nil => [0xc0]
  | .bool false => [0xc2]
  | .bool true => [0xc3]
  | .uint n => writeNat n
  | .sint i => writeInt i
  | .single bits => 0xca :: bigEndian 4 bits.toNat
  | .double x => 0xcb :: bigEndian 8 x.bits.toNat
  | .str data => writeTextMarker data.length ++ data
  | .bin data => writeBinMarker data.length ++ data
  | .arr items => writeArrayMarker items.length ++ writeItems items
  | .map entries => writeMapMarker entries.length ++ writeEntries entries
  | .ext tag data => writeExtMarker tag data.length ++ data

def writeItems : List Pack → Bytes
  | [] => []
  | p :: rest => write p ++ writeItems rest

def writeEntries : List (Pack × Pack) → Bytes
  | [] => []
  | (k, v) :: rest => write k ++ write v ++ writeEntries rest

end

end Pack

end TwoTier
