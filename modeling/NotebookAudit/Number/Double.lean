/-!
Double-precision numbers as exact values.

A finite double is a signed mantissa times a power of two, in its one normal form. Rounding takes a
ratio of two naturals to the nearest double, a tie to the even mantissa; every other operation is
exact arithmetic followed by one rounding.
-/

namespace NotebookAudit

/-- A double: not a number, an infinity, or `± mantissa · 2 ^ exponent`. A finite one is normal
when its mantissa has 53 bits, or fewer at the least exponent, and zero has exponent zero. -/
inductive Double where
  | nan
  | infinity (negative : Bool)
  | finite (negative : Bool) (mantissa : Nat) (exponent : Int)
  deriving Repr, DecidableEq

namespace Double

/-- The least exponent of a finite double. -/
def leastExponent : Int := -1074

/-- The greatest exponent of a finite double. -/
def greatestExponent : Int := 971

/-- The least natural that is too great for a mantissa: it has 54 bits. -/
def mantissaBound : Nat := 0x20000000000000

/-- The quotient rounded to the nearest natural, a tie to the even one. -/
def roundQuotient (num den : Nat) : Nat :=
  let q := num / den
  let r := num % den
  if den < 2 * r ∨ (den = 2 * r ∧ q % 2 = 1) then q + 1 else q

/-- The numerator and the denominator of `num / den · 2 ^ (-e)`. -/
def shiftRatio (num den : Nat) (e : Int) : Nat × Nat :=
  if 0 ≤ e then (num, den * Nat.pow 2 e.toNat) else (num * Nat.pow 2 (-e).toNat, den)

/-- The zero of a sign. -/
def zero (negative : Bool) : Double := .finite negative 0 0

/-- The double nearest to `± num / den`; zero keeps the sign. -/
def ofRatio (negative : Bool) (num den : Nat) : Double :=
  if num = 0 then zero negative
  else
    let guess : Int := (num.log2 : Int) - (den.log2 : Int) - 52
    let (n, d) := shiftRatio num den guess
    let e := max leastExponent (if n / d < mantissaBound / 2 then guess - 1 else guess)
    let (n, d) := shiftRatio num den e
    let m := roundQuotient n d
    let (m, e) := if m = mantissaBound then (mantissaBound / 2, e + 1) else (m, e)
    if m = 0 then zero negative
    else if greatestExponent < e then .infinity negative
    else .finite negative m e

/-- The double nearest to `± significand · 10 ^ scale`. A power of ten beyond every double is not
computed. -/
def ofDecimal (negative : Bool) (significand : Nat) (scale : Int) : Double :=
  if significand = 0 then zero negative
  else
    let magnitude := (significand.log2 : Int) * 3 / 10 + scale
    if 400 < magnitude then .infinity negative
    else if magnitude < -800 then zero negative
    else if 0 ≤ scale then ofRatio negative (significand * Nat.pow 10 scale.toNat) 1
    else ofRatio negative significand (Nat.pow 10 (-scale).toNat)

/-- The double nearest to an integer. -/
def ofInt (i : Int) : Double := ofRatio (decide (i < 0)) i.natAbs 1

/-- The magnitude of a finite double as a ratio. -/
def ratio (mantissa : Nat) (exponent : Int) : Nat × Nat :=
  if 0 ≤ exponent then (mantissa * Nat.pow 2 exponent.toNat, 1)
  else (mantissa, Nat.pow 2 (-exponent).toNat)

/-- The integer part of a finite double: the rest is cut off. -/
def truncate? : Double → Option Int
  | .finite negative m e =>
    let (n, d) := ratio m e
    some (if negative then -((n / d : Nat) : Int) else ((n / d : Nat) : Int))
  | _ => none

/-- The integer that a double equals. -/
def toInt? : Double → Option Int
  | .finite negative m e =>
    let (n, d) := ratio m e
    if n % d = 0 then some (if negative then -((n / d : Nat) : Int) else ((n / d : Nat) : Int))
    else none
  | _ => none

/-- A double of the other sign. -/
def neg : Double → Double
  | .nan => .nan
  | .infinity s => .infinity (!s)
  | .finite s m e => .finite (!s) m e

/-- The product of two doubles. -/
def mul : Double → Double → Double
  | .nan, _ => .nan
  | _, .nan => .nan
  | .infinity s, .infinity t => .infinity (s != t)
  | .infinity s, .finite t m _ => if m = 0 then .nan else .infinity (s != t)
  | .finite s m _, .infinity t => if m = 0 then .nan else .infinity (s != t)
  | .finite s m e, .finite t n f =>
    let (a, b) := ratio m e
    let (c, d) := ratio n f
    ofRatio (s != t) (a * c) (b * d)

/-- The sum of two doubles. An exact zero sum is negative only if both numbers are. -/
def add : Double → Double → Double
  | .nan, _ => .nan
  | _, .nan => .nan
  | .infinity s, .infinity t => if s = t then .infinity s else .nan
  | .infinity s, .finite .. => .infinity s
  | .finite .., .infinity t => .infinity t
  | .finite s m e, .finite t n f =>
    let (a, b) := ratio m e
    let (c, d) := ratio n f
    let x : Int := (if s then -1 else 1) * ((a * d : Nat) : Int)
      + (if t then -1 else 1) * ((c * b : Nat) : Int)
    if x = 0 then zero (s && t) else ofRatio (decide (x < 0)) x.natAbs (b * d)

/-- Whether a double is zero of either sign. -/
def isZero : Double → Bool
  | .finite _ m _ => m == 0
  | _ => false

end Double

end NotebookAudit
