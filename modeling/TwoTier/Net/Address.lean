/-
Internet addresses: text to address and back. Four numbers of at most three digits and without
leading zeros make an address of the fourth version; eight groups of up to four hexadecimal digits
one of the sixth, in which one run of zero groups may be left out and the last two groups may be
written as an address of the fourth version.
-/
import TwoTier.Json.Scan

namespace TwoTier.Net

/-- An address. -/
inductive Address where
  /-- Four numbers below 256. -/
  | v4 (a b c d : Nat)
  /-- Eight numbers below 65536. -/
  | v6 (groups : List Nat)
deriving Repr, DecidableEq

/-- An address and a port. -/
structure Endpoint where
  address : Address
  port : Nat
deriving Repr, DecidableEq

namespace Address

/-- Pieces of a text between separators. -/
def pieces (separator : Char) (text : List Char) : List (List Char) :=
  text.foldr (fun c acc => if c = separator then [] :: acc else
    match acc with
    | [] => [[c]]
    | p :: rest => (c :: p) :: rest) [[]]

/-- A number from 0 to 255: one to three digits, no zero in front of others. -/
def octet? (digits : List Char) : Option Nat :=
  if digits.isEmpty || !digits.all Json.isDigit || 3 < digits.length then none
  else if digits.head? == some '0' && digits.length != 1 then none
  else
    let n := Json.digitsValue digits
    if n < 256 then some n else none

def v4? (text : List Char) : Option Address :=
  match (pieces '.' text).mapM octet? with
  | some [a, b, c, d] => some (.v4 a b c d)
  | _ => none

/-- A group of one to four hexadecimal digits. -/
def group? (digits : List Char) : Option Nat :=
  if digits.isEmpty || 4 < digits.length then none
  else (digits.mapM Json.hexDigit?).map fun ds => ds.foldl (fun n d => n * 16 + d) 0

/-- Groups from pieces; the last piece of an address may be one of the fourth version. -/
def groups? (last : Bool) : List (List Char) → Option (List Nat)
  | [] => some []
  | [p] =>
    match v4? p with
    | some (.v4 a b c d) => if last then some [a * 256 + b, c * 256 + d] else none
    | _ => (group? p).map fun g => [g]
  | p :: rest =>
    match group? p, groups? last rest with
    | some g, some gs => some (g :: gs)
    | _, _ => none

/-- The pieces of a side of the double colon; an empty side has none. -/
def side (text : List Char) : List (List Char) := if text.isEmpty then [] else pieces ':' text

/-- The texts before and behind the first double colon. -/
def splitRun : List Char → Option (List Char × List Char)
  | ':' :: ':' :: rest => some ([], rest)
  | c :: rest => (splitRun rest).map fun (before, behind) => (c :: before, behind)
  | [] => none

def v6? (text : List Char) : Option Address :=
  match splitRun text with
  | none =>
    match groups? true (pieces ':' text) with
    | some gs => if gs.length = 8 then some (.v6 gs) else none
    | none => none
  | some (before, behind) =>
    match groups? false (side before), groups? true (side behind) with
    | some front, some back =>
      if front.length + back.length ≤ 7 then
        some (.v6 (front ++ List.replicate (8 - front.length - back.length) 0 ++ back))
      else none
    | _, _ => none

def parse (text : String) : Option Address :=
  match v4? text.toList with
  | some a => some a
  | none => v6? text.toList

/-! ## Printing -/

def dotted (a b c d : Nat) : String := ".".intercalate ([a, b, c, d].map toString)

def hexGroup (n : Nat) : String := String.ofList (Nat.toDigits 16 n)

def joinGroups (gs : List Nat) : String := ":".intercalate (gs.map hexGroup)

/-- Length of the run of zeros at the front. -/
def zeros (gs : List Nat) : Nat := (gs.takeWhile (· == 0)).length

/-- Start and length of the longest run of zeros, the first of them if several are longest. -/
def longestRun : Nat → List Nat → Nat × Nat
  | _, [] => (0, 0)
  | i, g :: gs =>
    let later := longestRun (i + 1) gs
    let here := zeros (g :: gs)
    if 0 < here ∧ later.2 ≤ here then (i, here) else later

/-- Groups in text: the longest run of at least two zeros is left out, and an address of the fourth
version inside one of the sixth keeps its own form. -/
def v6Text (gs : List Nat) : String :=
  match gs with
  | [0, 0, 0, 0, 0, 0xffff, a, b] => "::ffff:" ++ dotted (a / 256) (a % 256) (b / 256) (b % 256)
  | gs =>
    let (start, length) := longestRun 0 gs
    if 1 < length then joinGroups (gs.take start) ++ "::" ++ joinGroups (gs.drop (start + length))
    else joinGroups gs

def text : Address → String
  | .v4 a b c d => dotted a b c d
  | .v6 gs => v6Text gs

end Address

/-- An endpoint in text: an address of the sixth version stands in brackets. -/
def Endpoint.text (e : Endpoint) : String :=
  match e.address with
  | .v4 .. => e.address.text ++ ":" ++ toString e.port
  | .v6 _ => "[" ++ e.address.text ++ "]:" ++ toString e.port

end TwoTier.Net
