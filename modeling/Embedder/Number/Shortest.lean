import Embedder.Number.Double

/-!
# The shortest decimal that reads back

A double is written with as few digits as identify it: among the decimals of one digit, then two,
and so on, the first grid that has a point inside the interval of reals that round to the double
wins, and of two such points the nearer. Where positional notation ends, and how an exponent is
written, is a `DecimalStyle`.
-/

namespace Embedder

/-- A decimal `d · 10 ^ e`. -/
structure Decimal where
  digits : Nat
  exponent : Int
  deriving DecidableEq, Repr

namespace Decimal

/-- The decimals `d · 10 ^ e` next to the fraction `num / den` from below, for a grid `10 ^ e`. -/
def floorOn (num den : Nat) (e : Int) : Nat :=
  if 0 ≤ e then num / (den * 10 ^ e.toNat) else num * 10 ^ (-e).toNat / den

/-- The integer part of the decimal logarithm of a positive fraction above `10 ^ -340`. -/
def magnitude (num den : Nat) : Int :=
  ((Nat.toDigits 10 (num * 10 ^ 340 / den)).length : Int) - 341

/-- `d · 10 ^ e` as a fraction. -/
def ratio (d : Nat) (e : Int) : Nat × Nat :=
  if 0 ≤ e then (d * 10 ^ e.toNat, 1) else (d, 10 ^ (-e).toNat)

/-- Whether `a ≤ b` for fractions (`<` if `strict`). -/
def ratioLe (strict : Bool) (a b : Nat × Nat) : Bool :=
  if strict then a.1 * b.2 < b.1 * a.2 else a.1 * b.2 ≤ b.1 * a.2

/-- The distance of two fractions, over the product of their denominators. -/
def ratioDist (a b : Nat × Nat) : Nat :=
  ((a.1 * b.2 : Nat) - (b.1 * a.2 : Nat) : Int).natAbs

/-- The decimal with `n` digits that is nearest to `v` inside the interval from `lo` to `hi`. -/
def onGrid (v lo hi : Nat × Nat) (strict : Bool) (e : Int) : Option Decimal :=
  let d := floorOn v.1 v.2 e
  let ok (d : Nat) : Bool := ratioLe strict lo (ratio d e) && ratioLe strict (ratio d e) hi
  match ok d, ok (d + 1) with
  | false, false => none
  | true, false => some ⟨d, e⟩
  | false, true => some ⟨d + 1, e⟩
  | true, true =>
    let below := ratioDist v (ratio d e)
    let above := ratioDist (ratio (d + 1) e) v
    if below < above then some ⟨d, e⟩
    else if above < below then some ⟨d + 1, e⟩
    else some ⟨if d % 2 = 0 then d else d + 1, e⟩

/-- The first of the grids `10 ^ e`, `10 ^ (e - 1)`, … that has a point in the interval. -/
def firstGrid (v lo hi : Nat × Nat) (strict : Bool) : Nat → Int → Decimal
  | 0, e => ⟨floorOn v.1 v.2 e, e⟩
  | n + 1, e =>
    match onGrid v lo hi strict e with
    | some d => d
    | none => firstGrid v lo hi strict n (e - 1)

/-- The decimal without trailing zeros. -/
def stripZeros : Nat → Decimal → Decimal
  | 0, d => d
  | n + 1, d =>
    if d.digits % 10 = 0 ∧ d.digits ≠ 0 then stripZeros n ⟨d.digits / 10, d.exponent + 1⟩ else d

end Decimal

namespace Double

/-- The shortest decimal for the magnitude of a finite number that is not zero. -/
def shortest (d : Double) : Decimal :=
  let m := d.significand
  let q := d.exponent
  -- everything in quarters of a unit of the last place
  let scale (n : Nat) : Nat × Nat :=
    if 0 ≤ q then (n * 2 ^ q.toNat, 4) else (n, 4 * 2 ^ (-q).toNat)
  let lower := if d.fractionBits = 0 ∧ 1 < d.exponentBits then 4 * m - 1 else 4 * m - 2
  let v := scale (4 * m)
  let upper := scale (4 * m + 2)
  Decimal.stripZeros 20
    (Decimal.firstGrid v (scale lower) upper (m % 2 = 1) 18 (Decimal.magnitude v.1 v.2))

end Double

/-- How a decimal is laid out: positional if the exponent of its first digit lies in a range, else
scientific with a signed exponent of a least number of digits; the texts of the special values. -/
structure DecimalStyle where
  positionalFrom : Int
  positionalTo : Int
  exponentDigits : Nat
  nan : String
  infinity : String

namespace DecimalStyle

/-- The digits of a decimal, with the exponent of the first. -/
def layout (style : DecimalStyle) (d : Decimal) : String :=
  let ds := Nat.toDigits 10 d.digits
  let first : Int := d.exponent + (ds.length - 1 : Nat)
  if style.positionalFrom ≤ first ∧ first ≤ style.positionalTo then
    if 0 ≤ d.exponent then
      String.ofList (ds ++ List.replicate d.exponent.toNat '0' ++ ['.', '0'])
    else if 0 ≤ first then
      String.ofList (ds.take (first.toNat + 1) ++ '.' :: ds.drop (first.toNat + 1))
    else
      String.ofList (['0', '.'] ++ List.replicate ((-first).toNat - 1) '0' ++ ds)
  else
    let mantissa := match ds with
      | [] => []
      | [c] => [c]
      | c :: cs => c :: '.' :: cs
    let e := Nat.toDigits 10 first.natAbs
    let zeros := List.replicate (style.exponentDigits - e.length) '0'
    String.ofList (mantissa ++ ['e', if first < 0 then '-' else '+'] ++ zeros ++ e)

/-- The text of a double. -/
def text (style : DecimalStyle) (d : Double) : String :=
  if d.isNaN then style.nan
  else
    let sign := if d.isNegative then "-" else ""
    if d.isInfinite then sign ++ style.infinity
    else if d.significand = 0 then sign ++ "0.0"
    else sign ++ style.layout d.shortest

end DecimalStyle

end Embedder
