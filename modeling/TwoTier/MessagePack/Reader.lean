/-
Reading MessagePack. A value is read from the front of the bytes and the rest is handed back;
arrays and maps nest at most 1023 levels deep. Bytes that end too soon and the one marker that is
never used are no value.
-/
import TwoTier.MessagePack

namespace TwoTier.Pack

/-- The first `n` bytes and the rest. -/
def takeBytes (n : Nat) (bytes : Bytes) : Option (Bytes × Bytes) :=
  if n ≤ bytes.length then some (bytes.take n, bytes.drop n) else none

/-- A number of `k` bytes. -/
def takeNat (k : Nat) (bytes : Bytes) : Option (Nat × Bytes) :=
  (takeBytes k bytes).map fun (b, rest) => (ofBigEndian b, rest)

/-- What follows a marker. -/
inductive Shape where
  | value (p : Pack)
  /-- A number of so many bytes. -/
  | uint (k : Nat)
  | sint (k : Nat)
  | single
  | double
  | str (n : Nat)
  /-- A length of so many bytes, and then a text. -/
  | strLength (k : Nat)
  | binLength (k : Nat)
  | arr (n : Nat)
  | arrLength (k : Nat)
  | map (n : Nat)
  | mapLength (k : Nat)
  | ext (n : Nat)
  | extLength (k : Nat)
  | unused
deriving Repr

/-- The meaning of a marker byte. -/
def shapeOf (marker : UInt8) : Shape :=
  let m := marker.toNat
  if m < 0x80 then .value (.uint m)
  else if m < 0x90 then .map (m - 0x80)
  else if m < 0xa0 then .arr (m - 0x90)
  else if m < 0xc0 then .str (m - 0xa0)
  else if 0xe0 ≤ m then .value (.sint ((m : Int) - 256))
  else match m with
    | 0xc0 => .value .nil
    | 0xc2 => .value (.bool false)
    | 0xc3 => .value (.bool true)
    | 0xc4 => .binLength 1
    | 0xc5 => .binLength 2
    | 0xc6 => .binLength 4
    | 0xc7 => .extLength 1
    | 0xc8 => .extLength 2
    | 0xc9 => .extLength 4
    | 0xca => .single
    | 0xcb => .double
    | 0xcc => .uint 1
    | 0xcd => .uint 2
    | 0xce => .uint 4
    | 0xcf => .uint 8
    | 0xd0 => .sint 1
    | 0xd1 => .sint 2
    | 0xd2 => .sint 4
    | 0xd3 => .sint 8
    | 0xd4 => .ext 1
    | 0xd5 => .ext 2
    | 0xd6 => .ext 4
    | 0xd7 => .ext 8
    | 0xd8 => .ext 16
    | 0xd9 => .strLength 1
    | 0xda => .strLength 2
    | 0xdb => .strLength 4
    | 0xdc => .arrLength 2
    | 0xdd => .arrLength 4
    | 0xde => .mapLength 2
    | 0xdf => .mapLength 4
    | _ => .unused

/-- Bytes of a known number, as a value. -/
def takeData (f : Bytes → Pack) (n : Nat) (bytes : Bytes) : Option (Pack × Bytes) :=
  (takeBytes n bytes).map fun (data, rest) => (f data, rest)

/-- An extension of so many bytes, behind its tag. -/
def takeExt (n : Nat) (bytes : Bytes) : Option (Pack × Bytes) :=
  match bytes with
  | [] => none
  | tag :: rest => takeData (.ext tag) n rest

mutual

/-- The value at the front of the bytes; `fuel` bounds the values read and `depth` the levels of
nesting left. -/
def read (fuel depth : Nat) (bytes : Bytes) : Option (Pack × Bytes) :=
  match fuel, bytes with
  | 0, _ => none
  | _, [] => none
  | fuel + 1, marker :: rest =>
    match shapeOf marker with
    | .value p => some (p, rest)
    | .uint k => (takeNat k rest).map fun (n, rest) => (.uint n, rest)
    | .sint k => (takeNat k rest).map fun (n, rest) => (.sint (twosComplement k n), rest)
    | .single => (takeNat 4 rest).map fun (n, rest) => (.single n.toUInt32, rest)
    | .double => (takeNat 8 rest).map fun (n, rest) => (.double ⟨n.toUInt64⟩, rest)
    | .str n => takeData .str n rest
    | .strLength k =>
      match takeNat k rest with
      | some (n, rest) => takeData .str n rest
      | none => none
    | .binLength k =>
      match takeNat k rest with
      | some (n, rest) => takeData .bin n rest
      | none => none
    | .ext n => takeExt n rest
    | .extLength k =>
      match takeNat k rest with
      | some (n, rest) => takeExt n rest
      | none => none
    | .arr n => readArray fuel depth n rest
    | .arrLength k =>
      match takeNat k rest with
      | some (n, rest) => readArray fuel depth n rest
      | none => none
    | .map n => readMap fuel depth n rest
    | .mapLength k =>
      match takeNat k rest with
      | some (n, rest) => readMap fuel depth n rest
      | none => none
    | .unused => none
termination_by structural fuel

def readArray (fuel depth n : Nat) (bytes : Bytes) : Option (Pack × Bytes) :=
  match fuel, depth with
  | 0, _ => none
  | _, 0 => none
  | fuel + 1, depth + 1 => (readItems fuel depth n bytes).map fun (items, rest) => (.arr items, rest)
termination_by structural fuel

def readMap (fuel depth n : Nat) (bytes : Bytes) : Option (Pack × Bytes) :=
  match fuel, depth with
  | 0, _ => none
  | _, 0 => none
  | fuel + 1, depth + 1 => (readEntries fuel depth n bytes).map fun (entries, rest) => (.map entries, rest)
termination_by structural fuel

/-- So many values in a row. -/
def readItems (fuel depth n : Nat) (bytes : Bytes) : Option (List Pack × Bytes) :=
  match fuel, n with
  | 0, _ => none
  | _, 0 => some ([], bytes)
  | fuel + 1, n + 1 =>
    match read fuel depth bytes with
    | none => none
    | some (p, rest) => (readItems fuel depth n rest).map fun (items, rest) => (p :: items, rest)
termination_by structural fuel

/-- So many pairs of values in a row. -/
def readEntries (fuel depth n : Nat) (bytes : Bytes) : Option (List (Pack × Pack) × Bytes) :=
  match fuel, n with
  | 0, _ => none
  | _, 0 => some ([], bytes)
  | fuel + 1, n + 1 =>
    match read fuel depth bytes with
    | none => none
    | some (k, rest) =>
      match read fuel depth rest with
      | none => none
      | some (v, rest) => (readEntries fuel depth n rest).map fun (entries, rest) => ((k, v) :: entries, rest)
termination_by structural fuel

end

/-- Levels of nesting a reader accepts. -/
def maxDepth : Nat := 1023

/-- The value that bytes start with; what follows it does not matter. -/
def parse (bytes : Bytes) : Option Pack := (read (3 * bytes.length + 3) maxDepth bytes).map (·.1)

end TwoTier.Pack
