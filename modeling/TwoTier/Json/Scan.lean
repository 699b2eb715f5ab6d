/-
The pieces of JSON text: blanks, strings and numbers. Every reader of JSON text in the library
is built on them. A piece that is malformed reads as `none`.
-/
import TwoTier.Json

namespace TwoTier.Json

/-- Blank, tab and the two line ends. -/
def isBlank (c : Char) : Bool := c = ' ' || c = '\n' || c = '\t' || c = '\r'

def skipBlanks (text : List Char) : List Char := text.dropWhile isBlank

/-- The value of a hexadecimal digit. -/
def hexDigit? (c : Char) : Option Nat :=
  if '0' ≤ c ∧ c ≤ '9' then some (c.toNat - '0'.toNat)
  else if 'a' ≤ c ∧ c ≤ 'f' then some (c.toNat - 'a'.toNat + 10)
  else if 'A' ≤ c ∧ c ≤ 'F' then some (c.toNat - 'A'.toNat + 10)
  else none

/-- The number written by four hexadecimal digits. -/
def hexUnit? (a b c d : Char) : Option Nat := do
  let a ← hexDigit? a
  let b ← hexDigit? b
  let c ← hexDigit? c
  let d ← hexDigit? d
  some (((a * 16 + b) * 16 + c) * 16 + d)

/-- The character that a backslash and `c` stand for. -/
def simpleEscape? : Char → Option Char
  | '"' => some '"'
  | '\\' => some '\\'
  | '/' => some '/'
  | 'b' => some '\x08'
  | 'f' => some '\x0c'
  | 'n' => some '\n'
  | 'r' => some '\r'
  | 't' => some '\t'
  | _ => none

/-- The rest of a string after its opening quote: the characters it holds and the text behind the
closing quote. A surrogate stands only in front of its other half. -/
def stringBody (text : List Char) : Option (List Char × List Char) :=
  match text with
  | [] => none
  | '"' :: rest => some ([], rest)
  | '\\' :: 'u' :: a :: b :: c :: d :: rest =>
    match hexUnit? a b c d with
    | none => none
    | some unit =>
      if 0xdc00 ≤ unit ∧ unit ≤ 0xdfff then none
      else if 0xd800 ≤ unit ∧ unit ≤ 0xdbff then
        match rest with
        | '\\' :: 'u' :: e :: f :: g :: h :: rest =>
          match hexUnit? e f g h with
          | none => none
          | some low =>
            if 0xdc00 ≤ low ∧ low ≤ 0xdfff then
              (stringBody rest).map fun (cs, rest) =>
                (Char.ofNat (0x10000 + (unit - 0xd800) * 0x400 + (low - 0xdc00)) :: cs, rest)
            else none
        | _ => none
      else (stringBody rest).map fun (cs, rest) => (Char.ofNat unit :: cs, rest)
  | '\\' :: c :: rest =>
    match simpleEscape? c with
    | none => none
    | some e => (stringBody rest).map fun (cs, rest) => (e :: cs, rest)
  | c :: rest =>
    if c.toNat < 0x20 ∨ c = '\\' then none else (stringBody rest).map fun (cs, rest) => (c :: cs, rest)

/-- The rest of a string that is passed over: escapes are looked at, but halves of surrogate pairs
may stand alone. -/
def skipString (text : List Char) : Option (List Char) :=
  match text with
  | [] => none
  | '"' :: rest => some rest
  | '\\' :: 'u' :: a :: b :: c :: d :: rest => if (hexUnit? a b c d).isSome then skipString rest else none
  | '\\' :: c :: rest => if (simpleEscape? c).isSome then skipString rest else none
  | c :: rest => if c.toNat < 0x20 ∨ c = '\\' then none else skipString rest

/-! ## Numbers -/

def isDigit (c : Char) : Bool := decide ('0' ≤ c ∧ c ≤ '9')

/-- The number that decimal digits write. -/
def digitsValue (digits : List Char) : Nat := digits.foldl (fun n c => n * 10 + (c.toNat - '0'.toNat)) 0

/-- A run of digits and what follows it. -/
def digitRun (text : List Char) : List Char × List Char := (text.takeWhile isDigit, text.dropWhile isDigit)

/-- A number as written: sign, digits before the point, digits behind it, exponent. -/
structure Numeral where
  negative : Bool
  whole : List Char
  fraction : List Char
  exponent : Int
  /-- A point or an exponent is written. -/
  fractional : Bool

/-- An exponent, if one is written; malformed is `none`. -/
def exponentPart (text : List Char) : Option (Option Int × List Char) :=
  match text with
  | c :: rest =>
    if c = 'e' ∨ c = 'E' then
      let (negative, rest) :=
        match rest with
        | '+' :: rest => (false, rest)
        | '-' :: rest => (true, rest)
        | rest => (false, rest)
      let (digits, rest) := digitRun rest
      if digits.isEmpty then none
      else some (some (if negative then -(digitsValue digits : Int) else digitsValue digits), rest)
    else some (none, text)
  | [] => some (none, [])

/-- A number: no leading zeros, digits on both sides of a point. -/
def numeral (text : List Char) : Option (Numeral × List Char) := do
  let (negative, text) := match text with
    | '-' :: rest => (true, rest)
    | text => (false, text)
  let (whole, text) := digitRun text
  if whole.isEmpty ∨ (whole.head? = some '0' ∧ whole.length ≠ 1) then none
  let (fraction, text) ← match text with
    | '.' :: rest =>
      let (digits, rest) := digitRun rest
      if digits.isEmpty then none else some (some digits, rest)
    | text => some (none, text)
  let (exponent, text) ← exponentPart text
  some (⟨negative, whole, fraction.getD [], exponent.getD 0, fraction.isSome || exponent.isSome⟩, text)

/-- The value of a number. Integers that 64 bits hold stay integers, save minus zero; a number
beyond the largest floating point number has no value. -/
def Numeral.value (n : Numeral) : Option Json :=
  let m := digitsValue (n.whole ++ n.fraction)
  let asFloat : Option Json :=
    let x := Double.ofDecimal n.negative m (n.exponent - n.fraction.length)
    if x.isFinite then some (.float x) else none
  if n.fractional then asFloat
  else if n.negative then
    if m = 0 ∨ 9223372036854775808 < m then asFloat else some (.int (-(m : Int)))
  else if m ≤ maxNat64 then some (.int m) else asFloat

end TwoTier.Json
