/-
Decimal text of floating point numbers: the fewest digits that read back as the same number, and
of those the nearest to it, written out in full or with an exponent.
-/
import TwoTier.Double

namespace TwoTier.Double

/-- Decides `c * 10 ^ p ≤ m * 2 ^ e`. -/
def decimalLe (c : Nat) (p : Int) (m : Nat) (e : Int) : Bool :=
  c * pow10 p.toNat * pow2 (-e).toNat ≤ m * pow2 e.toNat * pow10 (-p).toNat

/-- Decides `m * 2 ^ e ≤ c * 10 ^ p`. -/
def binaryLe (m : Nat) (e : Int) (c : Nat) (p : Int) : Bool :=
  m * pow2 e.toNat * pow10 (-p).toNat ≤ c * pow10 p.toNat * pow2 (-e).toNat

/-- Whether `c * 10 ^ p` reads back as `x`: it lies in the interval of reals that round to `x`,
whose ends belong to it when the significand is even. -/
def readsBack (x : Double) (c : Nat) (p : Int) : Bool :=
  let m := 4 * x.significand
  let e := x.exponent - 2
  let low := if x.significand = pow2 52 && (-1074 : Int) < x.exponent then m - 1 else m - 2
  let high := m + 2
  if x.significand % 2 = 0 then binaryLe low e c p && decimalLe c p high e
  else !decimalLe c p low e && !binaryLe high e c p

/-- How many of `n, n + 1, …` to try until `10 ^ n` exceeds `num / den`. -/
def exceedingPower (num den : Nat) : Nat → Nat → Nat
  | 0, n => n
  | fuel + 1, n => if num < pow10 n * den then n else exceedingPower num den fuel (n + 1)

/-- How many decimal places a quotient below one is moved until it reaches one tenth. -/
def leadingZeros (num den : Nat) : Nat → Nat → Nat
  | 0, n => n
  | fuel + 1, n => if den ≤ num * pow10 (n + 1) then n else leadingZeros num den fuel (n + 1)

/-- The `k` with `10 ^ (k - 1) ≤ x < 10 ^ k`. -/
def decimalExponent (x : Double) : Int :=
  let (num, den) := x.magnitude
  if den ≤ num then exceedingPower num den 310 0 else -(leadingZeros num den 330 0 : Int)

/-- Of two candidates on one grid, the one that reads back and is nearer. -/
def choose (x : Double) (c : Nat) (p : Int) : Option Nat :=
  match readsBack x c p, readsBack x (c + 1) p with
  | false, false => none
  | true, false => some c
  | false, true => some (c + 1)
  | true, true =>
    -- twice the number against the middle of the two candidates
    if binaryLe (2 * x.significand) x.exponent (2 * c + 1) p then some c else some (c + 1)

/-- Search the grids of `n`, `n + 1`, … digits for a decimal that reads back. -/
def searchDigits (x : Double) (k : Int) : Nat → Nat → Nat × Int
  | 0, n => (0, k - n)
  | fuel + 1, n =>
    let p := k - n
    let (num, den) := x.magnitude
    let c := num * pow10 (-p).toNat / (den * pow10 p.toNat)
    match choose x c p with
    | some c => (c, p)
    | none => searchDigits x k fuel (n + 1)

/-- Drop trailing zeros of a decimal. -/
def trimZeros : Nat → Nat → Int → Nat × Int
  | 0, c, p => (c, p)
  | fuel + 1, c, p => if c ≠ 0 && c % 10 = 0 then trimZeros fuel (c / 10) (p + 1) else (c, p)

/-- The shortest decimal `c * 10 ^ p` that reads back as a positive finite number. -/
def shortest (x : Double) : Nat × Int :=
  let (c, p) := searchDigits x x.decimalExponent 17 1
  trimZeros 20 c p

/-- Digits with the point after the first `k` of them. -/
def positional (digits : String) (k : Int) : String :=
  let n : Int := digits.length
  if n ≤ k then digits ++ "".pushn '0' (k - n).toNat
  else if 0 < k then String.ofList (digits.toList.take k.toNat) ++ "." ++ String.ofList (digits.toList.drop k.toNat)
  else "0." ++ "".pushn '0' (-k).toNat ++ digits

def withSign (x : Double) (text : String) : String := if x.isNegative then "-" ++ text else text

/-- Text without an exponent, however long it gets: `1`, `0.1`, `-0`, `inf`, `NaN`. -/
def plainText (x : Double) : String :=
  if x.isNan then "NaN"
  else if !x.isFinite then withSign x "inf"
  else if x.significand = 0 then withSign x "0"
  else
    let (c, p) := x.shortest
    let digits := toString c
    withSign x (positional digits (p + digits.length))

/-- Text of a finite number in a JSON document: a point always, and an exponent from `1e16` on and
below `1e-5`. -/
def jsonText (x : Double) : String :=
  if x.significand = 0 then withSign x "0.0"
  else
    let (c, p) := x.shortest
    let digits := toString c
    let k := p + digits.length
    let text :=
      if 0 ≤ p && k ≤ 16 then positional digits k ++ ".0"
      else if (-5 : Int) < k && k ≤ 16 then positional digits k
      else
        let point := if digits.length = 1 then "" else "."
        String.ofList (digits.toList.take 1) ++ point ++ String.ofList (digits.toList.drop 1) ++ "e" ++ toString (k - 1)
    withSign x text

end TwoTier.Double
