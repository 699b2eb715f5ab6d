/-
Binary floating point numbers of 64 bits, kept as their bits. Every operation takes the exact
result and rounds it once, to the nearest number and to the even neighbour on a tie, in natural
number arithmetic.
-/
import TwoTier.Time

namespace TwoTier

/-- A 64-bit floating point number, given by its bits. -/
structure Double where
  bits : UInt64
deriving DecidableEq, Repr, Inhabited

namespace Double

def zero : Double := ⟨0⟩
def infinity : Double := ⟨0x7ff0000000000000⟩
def quietNan : Double := ⟨0x7ff8000000000000⟩

def isNegative (x : Double) : Bool := decide (pow2 63 ≤ x.bits.toNat)

/-- The eleven exponent bits. -/
def exponentField (x : Double) : Nat := x.bits.toNat / pow2 52 % pow2 11

/-- The 52 fraction bits. -/
def fraction (x : Double) : Nat := x.bits.toNat % pow2 52

def isFinite (x : Double) : Bool := decide (x.exponentField ≠ 2047)

def isNan (x : Double) : Bool := decide (x.exponentField = 2047 ∧ x.fraction ≠ 0)

def negate (x : Double) : Double := ⟨x.bits ^^^ 0x8000000000000000⟩

/-- Set the sign of a number that has none. -/
def signed (negative : Bool) (x : Double) : Double := if negative then x.negate else x

/-- The integer `m` of the magnitude `m * 2 ^ e` of a finite number. -/
def significand (x : Double) : Nat :=
  if x.exponentField = 0 then x.fraction else pow2 52 + x.fraction

/-- The exponent `e` of the magnitude `m * 2 ^ e` of a finite number. -/
def exponent (x : Double) : Int :=
  if x.exponentField = 0 then -1074 else (x.exponentField : Int) - 1075

/-! ## Rounding an exact quotient -/

/-- The integer nearest to `n / d`, the even one on a tie. -/
def nearest (n d : Nat) : Nat :=
  let q := n / d
  let r := n % d
  if d < 2 * r || (2 * r == d && q % 2 == 1) then q + 1 else q

/-- `n / d` divided by `2 ^ e`, as a numerator and a denominator. -/
def scaled (n d : Nat) (e : Int) : Nat × Nat := (n * pow2 (-e).toNat, d * pow2 e.toNat)

/-- The number with significand `m` at exponent `e`, where `m` is at most `2 ^ 53`. -/
def assemble (m : Nat) (e : Int) : Double :=
  if m < pow2 52 then ⟨m.toUInt64⟩
  else
    let (m, e) := if m = pow2 53 then (pow2 52, e + 1) else (m, e)
    if 971 < e then infinity
    else ⟨((e + 1075).toNat * pow2 52 + (m - pow2 52)).toUInt64⟩

/-- The number nearest to the quotient `n / d`; the denominator is positive. -/
def ofQuotient (n d : Nat) : Double :=
  if n = 0 then zero
  else
    let low : Int := (Nat.log2 n : Int) - (Nat.log2 d : Int) - 53
    let (a, b) := scaled n d low
    let e := max (if a / b < pow2 53 then low else low + 1) (-1074)
    let (a, b) := scaled n d e
    assemble (nearest a b) e

/-- A finite number's magnitude as numerator and denominator. -/
def magnitude (x : Double) : Nat × Nat :=
  (x.significand * pow2 x.exponent.toNat, pow2 (-x.exponent).toNat)

/-! ## Numbers from integers, decimals and shorter floats -/

def ofNat (n : Nat) : Double := ofQuotient n 1

def ofInt (i : Int) : Double := signed (decide (i < 0)) (ofNat i.natAbs)

/-- The number nearest to `m * 10 ^ e`, with the sign given apart so that zero keeps it. -/
def ofDecimal (negative : Bool) (m : Nat) (e : Int) : Double :=
  let digits : Int := (Nat.log2 m : Int) / 3 + 1
  let x :=
    if m = 0 then zero
    else if 400 < e then infinity
    else if e + digits < -400 then zero
    else ofQuotient (m * pow10 e.toNat) (pow10 (-e).toNat)
  signed negative x

/-- The same number in 64 bits as 32 bits hold. -/
def ofSingle (bits : UInt32) : Double :=
  let b := bits.toNat
  let field := b / pow2 23 % pow2 8
  let frac := b % pow2 23
  let x :=
    if field = 255 then
      if frac = 0 then infinity else ⟨(0x7ff8000000000000 ||| (frac * pow2 29).toUInt64)⟩
    else if field = 0 then ofQuotient frac (pow2 149)
    else ofQuotient ((pow2 23 + frac) * pow2 (field - 150)) (pow2 (150 - field))
  signed (decide (pow2 31 ≤ b)) x

/-! ## Arithmetic on numbers that are not negative -/

def add (x y : Double) : Double :=
  let (a, b) := x.magnitude
  let (c, d) := y.magnitude
  ofQuotient (a * d + c * b) (b * d)

def mul (x y : Double) : Double :=
  let (a, b) := x.magnitude
  let (c, d) := y.magnitude
  ofQuotient (a * c) (b * d)

/-- The quotient; the divisor is not zero. -/
def div (x y : Double) : Double :=
  let (a, b) := x.magnitude
  let (c, d) := y.magnitude
  ofQuotient (a * d) (b * c)

/-! ## Integers from numbers -/

/-- The integer nearest to a finite number, away from zero on a tie. -/
def round (x : Double) : Int :=
  let (n, d) := x.magnitude
  let q : Int := ((2 * n + d) / (2 * d) : Nat)
  if x.isNegative then -q else q

/-- The integer that a finite number is, if it is one. -/
def whole? (x : Double) : Option Int :=
  let (n, d) := x.magnitude
  if x.isFinite && n % d == 0 then
    let q : Int := (n / d : Nat)
    some (if x.isNegative then -q else q)
  else none

end Double

end TwoTier
