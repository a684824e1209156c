import Embedder.Number.Power

/-!
# Double precision numbers by their bits

A `Double` is the 64 bits of a binary floating point number: a sign, eleven bits of exponent and
fifty-two bits of fraction. Conversions that must be exact are done on the bits: `Double.ofInt?`
rounds an integer to the nearest double (a tie goes to the even fraction) and refuses one that is
too large; `Double.truncate` drops the fraction. Rounded arithmetic is the processor's.
-/

namespace Embedder

/-- A double precision number, by its bits. -/
structure Double where
  bits : UInt64
  deriving DecidableEq, Repr, Inhabited

namespace Double

/-- The sign bit. -/
def isNegative (d : Double) : Bool := d.bits.toNat / 2 ^ 63 == 1

/-- The eleven exponent bits. -/
def exponentBits (d : Double) : Nat := d.bits.toNat / 2 ^ 52 % 2 ^ 11

/-- The fifty-two fraction bits. -/
def fractionBits (d : Double) : Nat := d.bits.toNat % 2 ^ 52

def isNaN (d : Double) : Bool := d.exponentBits == 2047 && d.fractionBits != 0

def isInfinite (d : Double) : Bool := d.exponentBits == 2047 && d.fractionBits == 0

def isFinite (d : Double) : Bool := d.exponentBits != 2047

/-- The integer `m` of a finite number `± m · 2 ^ q`. -/
def significand (d : Double) : Nat :=
  if d.exponentBits == 0 then d.fractionBits else 2 ^ 52 + d.fractionBits

/-- The exponent `q` of a finite number `± m · 2 ^ q`. -/
def exponent (d : Double) : Int :=
  if d.exponentBits == 0 then -1074 else (d.exponentBits : Int) - 1075

/-- The magnitude of a finite number, as a fraction. -/
def fraction (d : Double) : Nat × Nat :=
  if 0 ≤ d.exponent then (d.significand * 2 ^ d.exponent.toNat, 1)
  else (d.significand, 2 ^ (-d.exponent).toNat)

/-- The number with the given sign and the given other bits. -/
def ofSignBits (negative : Bool) (bits : Nat) : Double :=
  ⟨UInt64.ofNat ((if negative then 2 ^ 63 else 0) + bits)⟩

/-- A number with another sign. -/
def withSign (d : Double) (negative : Bool) : Double :=
  ofSignBits negative (d.bits.toNat % 2 ^ 63)

def zero : Double := ⟨0⟩

def one : Double := ⟨0x3ff0000000000000⟩

def negOne : Double := ⟨0xbff0000000000000⟩

/-- The number of binary digits of `n`. -/
def bitLength (n : Nat) : Nat := if n = 0 then 0 else n.log2 + 1

/-- `n / 2 ^ k` to the nearest integer, a tie to the even one. -/
def shiftRoundEven (n k : Nat) : Nat :=
  let q := n / 2 ^ k
  let r := n % 2 ^ k
  if 2 * r < 2 ^ k then q
  else if 2 ^ k < 2 * r then q + 1
  else q + q % 2

/-- The bits of the double nearest to a positive integer, sign bit aside; they may be those of
infinity or beyond. A fraction that rounds up to the next power of two carries into the exponent. -/
def magnitudeBits (n : Nat) : Nat :=
  let len := bitLength n
  if len ≤ 53 then
    (len + 1022) * 2 ^ 52 + (n * 2 ^ (53 - len) - 2 ^ 52)
  else
    (len + 1022) * 2 ^ 52 + (shiftRoundEven n (len - 53) - 2 ^ 52)

/-- The double nearest to an integer, or `none` if that is infinite. -/
def ofInt? (i : Int) : Option Double :=
  if i = 0 then some zero
  else
    let bits := magnitudeBits i.natAbs
    if bits < 2047 * 2 ^ 52 then some (ofSignBits (i < 0) bits) else none

/-- A finite number without its fraction; `none` for an infinity or a NaN. -/
def truncate (d : Double) : Option Int :=
  if d.exponentBits == 2047 then none
  else
    let (n, k) := d.fraction
    some (if d.isNegative then -((n / k : Nat) : Int) else ((n / k : Nat) : Int))

/-- The greatest integer that is not greater than a finite number; `none` for an infinity or a
NaN. -/
def floor (d : Double) : Option Int :=
  if d.exponentBits == 2047 then none
  else
    let (n, k) := d.fraction
    some ((if d.isNegative then -(n : Int) else n).fdiv k)

/-- The least integer that is not less. -/
def ceiling (d : Double) : Option Int := (floor ⟨d.bits ^^^ 0x8000000000000000⟩).map (- ·)

/-- The nearest integer to a quotient of naturals, the even one of two. -/
def quotientRoundEven (n d : Nat) : Nat :=
  let q := n / d
  let r := n % d
  if 2 * r < d then q
  else if d < 2 * r then q + 1
  else q + q % 2

/-- The nearest integer to a finite number, the even one of two. -/
def roundEven (d : Double) : Option Int :=
  if d.exponentBits == 2047 then none
  else
    let (n, k) := d.fraction
    let m : Int := quotientRoundEven n k
    some (if d.isNegative then -m else m)

def toFloat (d : Double) : Float := Float.ofBits d.bits

def ofFloat (x : Float) : Double := ⟨x.toBits⟩

/-- Rounded arithmetic. -/
def add (a b : Double) : Double := ofFloat (a.toFloat + b.toFloat)

def sub (a b : Double) : Double := ofFloat (a.toFloat - b.toFloat)

def mul (a b : Double) : Double := ofFloat (a.toFloat * b.toFloat)

def div (a b : Double) : Double := ofFloat (a.toFloat / b.toFloat)

def pow (a b : Double) : Double := ofFloat (a.toFloat.pow b.toFloat)

def sqrt (a : Double) : Double := ofFloat a.toFloat.sqrt

/-- Numeric order; false if either is a NaN. -/
def lt (a b : Double) : Bool := a.toFloat < b.toFloat

/-- Numeric equality: the two zeros are equal, a NaN equals nothing. -/
def numEq (a b : Double) : Bool := a.toFloat == b.toFloat

/-- Whether an integer is less than a double, exactly. -/
def intLt (i : Int) (d : Double) : Bool :=
  if d.isNaN then false
  else if d.isInfinite then !d.isNegative
  else
    let (n, k) := d.fraction
    let num : Int := if d.isNegative then -(n : Int) else n
    i * k < num

/-- Whether a double is less than an integer, exactly. -/
def ltInt (d : Double) (i : Int) : Bool :=
  if d.isNaN then false
  else if d.isInfinite then d.isNegative
  else
    let (n, k) := d.fraction
    let num : Int := if d.isNegative then -(n : Int) else n
    num < i * k

/-- The double nearest to the quotient of two naturals, the second positive, or `none` if that is
infinite. The quotient is cut at least one bit after the last bit of the result, and a further bit
says whether something was cut off; so it is rounded once. -/
def ofRatio? (num den : Nat) : Option Double :=
  if num = 0 then some zero
  else
    let low : Int := max ((bitLength num : Int) - bitLength den - 56) (-1075)
    let num' := num * 2 ^ (-low).toNat
    let den' := den * 2 ^ low.toNat
    let sticky := if num' % den' = 0 then 0 else 1
    let scaled := 2 * (num' / den') + sticky
    let drop := max (bitLength scaled - 53) 2
    let exponent := low + drop - 1
    -- m · 2 ^ exponent with m ≤ 2 ^ 53, and less than 2 ^ 52 only at the smallest exponent
    let m := shiftRoundEven scaled drop
    let bits := ((exponent + 1074) * 2 ^ 52 + m).toNat
    if bits < 2047 * 2 ^ 52 then some ⟨UInt64.ofNat bits⟩ else none

/-- The remainder of the division of the magnitudes of two finite numbers, the second not zero, with
the sign of the first. It is exact. -/
def remainder (x y : Double) : Double :=
  let (n, k) := x.fraction
  let (m, l) := y.fraction
  ((ofRatio? (n * l % (m * k)) (k * l)).getD zero).withSign x.isNegative

/-- The nearest number with so many decimal digits after the point, or before it where that is
negative; `none` where that is too large. -/
def roundPlaces (d : Double) (places : Int) : Option Double :=
  if d.exponentBits == 2047 || d.significand = 0 || 323 < places then some d
  else
    let (n, k) := d.fraction
    let up := 10 ^ places.toNat
    let down := 10 ^ (-(max places (-400))).toNat
    (ofRatio? (quotientRoundEven (n * up) (k * down) * down) up).map fun r =>
      ofSignBits d.isNegative r.bits.toNat

/-- A step of Newton's method for the square root of `n`, as long as it falls. -/
def rootFrom (n : Nat) : (fuel x : Nat) → Nat
  | 0, x => x
  | fuel + 1, x =>
    let y := (x + n / x) / 2
    if y < x then rootFrom n fuel y else x

/-- The square root of a natural number, its fraction cut off. -/
def natRoot (n : Nat) : Nat :=
  if n = 0 then 0 else rootFrom n (bitLength n + 8) (2 ^ (bitLength n / 2 + 1))

/-- The double nearest to the distance of a point from the origin, of finite coordinates, or `none`
if that is infinite. -/
def distance? (x y : Double) : Option Double :=
  let (n, k) := x.fraction
  let (m, l) := y.fraction
  let square := (n * l) ^ 2 + (m * k) ^ 2
  -- at least 64 bits of the root
  let scale := 128
  let scaled := square * 2 ^ (2 * scale)
  let root := natRoot scaled
  let sticky := if root * root = scaled then 0 else 1
  ofRatio? (2 * root + sticky) (2 ^ (scale + 1) * (k * l))

end Double

end Embedder
