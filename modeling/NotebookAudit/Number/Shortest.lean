import NotebookAudit.Number.Double
import NotebookAudit.Text.Basic

/-!
The shortest decimal form of a double.

`Double.shortest` gives the fewest digits that read back as the same double, and of the decimals
with that many digits the nearest, the even one of two. A `FloatStyle` lays the digits out.
-/

namespace NotebookAudit

/-- A decimal `significand · 10 ^ scale`. -/
structure Decimal where
  significand : Nat
  scale : Int
  deriving Repr, DecidableEq

namespace Decimal

/-- The decimal as a ratio. -/
def ratio (d : Decimal) : Nat × Nat :=
  if 0 ≤ d.scale then (d.significand * Nat.pow 10 d.scale.toNat, 1)
  else (d.significand, Nat.pow 10 (-d.scale).toNat)

/-- The greatest decimal on the grid of `10 ^ scale` that is at most `num / den`. -/
def floor (num den : Nat) (scale : Int) : Decimal :=
  if 0 ≤ scale then ⟨num / (den * Nat.pow 10 scale.toNat), scale⟩
  else ⟨num * Nat.pow 10 (-scale).toNat / den, scale⟩

/-- Drops the zeros at the end of the significand, at most `fuel` of them. -/
def dropZeros : (fuel : Nat) → Decimal → Decimal
  | 0, d => d
  | fuel + 1, d =>
    if d.significand ≠ 0 ∧ d.significand % 10 = 0 then
      dropZeros fuel ⟨d.significand / 10, d.scale + 1⟩
    else d

end Decimal

namespace Double

/-- The exponent of ten of a positive ratio: `10 ^ k ≤ num / den < 10 ^ (k + 1)`. -/
def decimalExponent (num den : Nat) : Int :=
  if den ≤ num then ((Nat.toDigits 10 (num / den)).length : Int) - 1
  else
    let length := (Nat.toDigits 10 (den / num)).length
    if den ≤ num * Nat.pow 10 (length - 1) then -((length - 1 : Nat) : Int) else -(length : Int)

/-- The distance between a decimal and `num / den`, over the common denominator of the two. -/
def distance (num den : Nat) (d : Decimal) : Nat :=
  let (a, b) := d.ratio
  (((a * den : Nat) : Int) - ((num * b : Nat) : Int)).natAbs

/-- The nearer of two neighbours on a grid, or the even one if both are as near. -/
def nearer (num den : Nat) (below above : Decimal) : Decimal :=
  let b := distance num den below
  let a := distance num den above
  if a < b ∨ (a = b ∧ below.significand % 2 = 1) then above else below

/-- The nearest of the two neighbours of `num / den` on a grid that reads back as the double. -/
def onGrid? (m : Nat) (e : Int) (num den : Nat) (scale : Int) : Option Decimal :=
  let below := Decimal.floor num den scale
  let above : Decimal := ⟨below.significand + 1, scale⟩
  let readsBack (d : Decimal) : Bool := ofDecimal false d.significand d.scale == .finite false m e
  match readsBack below, readsBack above with
  | true, true => some (nearer num den below above)
  | true, false => some below
  | false, true => some above
  | false, false => none

/-- The shortest decimal of the positive double `m · 2 ^ e`, looked for on the grids of 1 to 17
digits. -/
def shortest (m : Nat) (e : Int) : Decimal :=
  let (num, den) := ratio m e
  let k := decimalExponent num den
  let grids := (List.range 17).map fun (n : Nat) => k - (n : Int)
  match grids.findSome? (onGrid? m e num den) with
  | some d => d.dropZeros 20
  | none => (Decimal.floor num den (k - 16)).dropZeros 20

end Double

/-- How a double is written. -/
structure FloatStyle where
  /-- The least exponent of ten that is written without an exponent. -/
  least : Int
  /-- The least exponent of ten that is written with one again. -/
  greatest : Int
  /-- The least number of digits of an exponent. -/
  exponentWidth : Nat
  nan : Text
  infinity : Text

namespace FloatStyle

/-- Positional from `0.0001` up to below `1e+16`, exponents of at least two digits. -/
def plain : FloatStyle := ⟨-4, 16, 2, "nan", "inf"⟩

/-- The layout of `plain` with the words that JSON files use. -/
def json : FloatStyle := { plain with nan := "NaN", infinity := "Infinity" }

/-- The digits of a decimal, laid out by its exponent of ten. -/
def digits (style : FloatStyle) (d : Decimal) : Text :=
  let ds := Text.ofNat d.significand
  let exponent : Int := d.scale + ds.length - 1
  if style.least ≤ exponent ∧ exponent < style.greatest then
    if 0 ≤ d.scale then ds ++ List.replicate d.scale.toNat 0x30 ++ Text.ofString ".0"
    else if 0 ≤ exponent then
      ds.take (exponent.toNat + 1) ++ 0x2e :: ds.drop (exponent.toNat + 1)
    else Text.ofString "0." ++ List.replicate (-exponent - 1).toNat 0x30 ++ ds
  else
    let mantissa := match ds with
      | [] => []
      | [c] => [c]
      | c :: rest => c :: 0x2e :: rest
    let size := Text.ofNat exponent.natAbs
    mantissa ++ [0x65, if exponent < 0 then 0x2d else 0x2b]
      ++ List.replicate (style.exponentWidth - size.length) 0x30 ++ size

/-- The written form of a double. -/
def write (style : FloatStyle) : Double → Text
  | .nan => style.nan
  | .infinity negative => (if negative then [0x2d] else []) ++ style.infinity
  | .finite negative m e =>
    (if negative then [0x2d] else [])
      ++ if m = 0 then Text.ofString "0.0" else style.digits (Double.shortest m e)

end FloatStyle

end NotebookAudit
