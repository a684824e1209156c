import Embedder.Machine.BuiltinCall

/-!
# Calls of mathematical functions

What the functions of the module of mathematics make of arguments. Sums, remainders and distances
are computed exactly and rounded once.
-/

namespace Embedder.Machine

/-! ## Errors -/

/-- Refuse a number for which a function has no value. -/
def domainError {α : Type} : Exec α := throwNew .valueError "math domain error"

/-- Refuse numbers for which the value of a function is too large. -/
def rangeError {α : Type} : Exec α := throwNew .overflowError "math range error"

/-- A value, or a refusal: `given` are the numbers it was computed from. -/
def checkedValue (overflows : Bool) (given : List Double) (r : Double) : Exec Double :=
  if r.isNaN && !given.any Double.isNaN then domainError
  else if r.isInfinite && given.all Double.isFinite then
    if overflows then rangeError else domainError
  else pure r

/-! ## Functions of one number -/

/-- The functions of one number, with those whose values can be too large. -/
def unaryFunctions : List (String × Bool × (Float → Float)) :=
  [("acos", false, Float.acos), ("acosh", false, Float.acosh), ("asin", false, Float.asin),
    ("asinh", false, Float.asinh), ("atan", false, Float.atan), ("atanh", false, Float.atanh),
    ("cbrt", false, Float.cbrt), ("cos", false, Float.cos), ("cosh", true, Float.cosh),
    ("exp", true, Float.exp), ("exp2", true, Float.exp2), ("expm1", true, expLessOne),
    ("log1p", false, logOfOneMore), ("sin", false, Float.sin), ("sinh", true, Float.sinh),
    ("tan", false, Float.tan), ("tanh", false, Float.tanh)]
where
  /-- The exponential less one, also near zero. -/
  expLessOne (x : Float) : Float :=
    let u := x.exp
    if u == 1 then x else if u - 1 == -1 || u.isInf then u - 1 else (u - 1) * x / u.log
  /-- The logarithm of one more, also near zero. -/
  logOfOneMore (x : Float) : Float :=
    let u := 1 + x
    if u == 1 then x else if u.isInf then u.log else u.log * (x / (u - 1))

/-- The value of a function of one number. -/
def unaryValue (overflows : Bool) (f : Float → Float) (d : Double) : Exec Double :=
  checkedValue overflows [d] (.ofFloat (f d.toFloat))

/-- A logarithm of an object. That of an integer beyond the floats is the sum of two. -/
def logValue (log : Float → Float) (o : Obj) : Exec Double := do
  match ← intValue? o with
  | none => do unaryValue false log (← asFloat o)
  | some i =>
    if i ≤ 0 then domainError
    else
      match Double.ofInt? i with
      | some d => unaryValue false log d
      | none =>
        let bits := Double.bitLength i.toNat
        let front := ((Double.ofRatio? i.toNat (2 ^ bits)).getD Double.one).toFloat
        pure (.ofFloat (log front + log 2 * Float.ofNat bits))

/-- The measure of a half turn. -/
def halfTurn : Float := Float.ofBits 0x400921fb54442d18

/-! ## Functions of two numbers -/

/-- The remainder of the division of magnitudes, with the sign of the first. -/
def truncatedRemainder (x y : Double) : Exec Double :=
  if x.isNaN || y.isNaN then pure (x.add y)
  else if x.isInfinite || y.significand = 0 then domainError
  else if y.isInfinite then pure x
  else pure (x.remainder y)

/-- What is left of a number after the nearest multiple of another, an even one of two. -/
def nearestRemainder (x y : Double) : Exec Double :=
  if x.isNaN || y.isNaN then pure (x.add y)
  else if x.isInfinite || y.significand = 0 then domainError
  else if y.isInfinite then pure x
  else
    let (n, k) := x.fraction
    let (m, l) := y.fraction
    let (a, b) := (n * l, m * k)
    let rest : Int := (a : Int) - Double.quotientRoundEven a b * b
    let r := (Double.ofRatio? rest.natAbs (k * l)).getD Double.zero
    pure (r.withSign (x.isNegative != (rest < 0)))

/-- A power of floats. -/
def floatPower (x y : Double) : Exec Double :=
  let r := x.pow y
  if !x.isFinite || !y.isFinite then pure r
  else if r.isNaN then domainError
  else if r.isInfinite then if x.significand = 0 then domainError else rangeError
  else pure r

/-- A float times a power of two. -/
def scaled (x : Double) (i : Int) : Exec Double :=
  if !x.isFinite || x.significand = 0 then pure x
  else
    let (n, k) := x.fraction
    let i := max (-5000) (min 5000 i)
    match Double.ofRatio? (n * 2 ^ i.toNat) (k * 2 ^ (-i).toNat) with
    | some r => pure (r.withSign x.isNegative)
    | none => rangeError

/-- The float next to another in the direction of a third. -/
def neighbour (x y : Double) : Double :=
  if x.isNaN || y.isNaN then x.add y
  else if x.numEq y then y
  else if x.significand = 0 && !x.isInfinite then (⟨1⟩ : Double).withSign (y.lt x)
  else if x.isNegative = y.lt x then ⟨x.bits + 1⟩
  else ⟨x.bits - 1⟩

/-- The distance from the magnitude of a float to the next one. -/
def lastPlace (x : Double) : Double :=
  let x := magnitude x
  if !x.isFinite then x
  else
    let above : Double := ⟨x.bits + 1⟩
    if above.isInfinite then x.sub ⟨x.bits - 1⟩ else above.sub x

/-- Whether two floats are close to each other for their size. -/
def areClose (x y : Double) : Bool :=
  let tolerance := Float.ofBits 0x3e112e0be826d695
  let (a, b) := (x.toFloat, y.toFloat)
  let difference := (b - a).abs
  a == b || (x.isFinite && y.isFinite &&
    (difference ≤ (tolerance * b).abs || difference ≤ (tolerance * a).abs || difference ≤ 0))

/-! ## Functions of many numbers -/

/-- A finite float as a multiple of the smallest one. -/
def smallestUnits (d : Double) : Int :=
  let n : Int := d.significand * 2 ^ (d.exponent + 1074).toNat
  if d.isNegative then -n else n

/-- The sum of floats, rounded once. -/
def exactSum (ds : List Double) : Exec Double := do
  let (finite, others) := ds.partition Double.isFinite
  let special := others.foldl Double.add Double.zero
  let infinite := (others.filter Double.isInfinite).foldl Double.add Double.zero
  if infinite.isNaN then throwNew .valueError "-inf + inf in fsum"
  else if !others.isEmpty then pure special
  else
    let sum := finite.foldr (fun d n => smallestUnits d + n) 0
    match Double.ofRatio? sum.natAbs (2 ^ 1074) with
    | some r => pure (r.withSign (sum < 0))
    | none => throwNew .overflowError "intermediate overflow in fsum"

/-- The distance of a point from the origin. -/
def norm (ds : List Double) : Double :=
  let infinity : Double := ⟨0x7ff0000000000000⟩
  if ds.any Double.isInfinite then infinity
  else if ds.any Double.isNaN then ⟨0x7ff8000000000000⟩
  else
    let square := ds.foldr (fun d n => (smallestUnits d).natAbs ^ 2 + n) 0
    -- at least 64 more bits of the root
    let wide := square * 2 ^ 128
    let root := Double.natRoot wide
    let sticky := if root * root = wide then 0 else 1
    (Double.ofRatio? (2 * root + sticky) (2 ^ (1 + 64 + 1074))).getD infinity

/-- The items of an object as floats. -/
def floatsOf (o : Obj) : Exec (List Double) := do
  let items ← forEach o #[] fun (ds : Array Double) x => do pure (ds.push (← asFloat x))
  pure items.toList

/-- The coordinates of a point. -/
def coordinatesOf (o : Obj) : Exec (List Obj) := do
  match ← payloadOf o with
  | .tuple slots => newRefs (slotItems slots)
  | _ => itemsOf o

/-- The distance of two points. -/
def distanceOf (p q : Obj) : Exec Obj := do
  let ps ← coordinatesOf p
  holdingAll ps.reverse do
    let qs ← coordinatesOf q
    holdingAll qs.reverse do
      if ps.length ≠ qs.length then
        throwNew .valueError "both points must have the same number of dimensions"
      let ds ← (ps.zip qs).mapM fun (a, b) => do
        let x ← asFloat a
        let y ← asFloat b
        pure (x.sub y)
      newFloat (norm ds)

/-- The product of the items of an object. -/
def productOf (o start : Obj) : Exec Obj := do
  let it ← iteratorOf o
  incref start
  let rec go : (fuel : Nat) → (total : Obj) → Exec Obj
    | 0, total => pure total
    | fuel + 1, total => do
      match ← Exec.outcome (nextOrEnd it) with
      | .ok none => pure total
      | .ok (some x) => do
        let r ← Exec.outcome (operate .mul total x)
        releaseList [total, x]
        match r with
        | .ok r => go fuel r
        | .error r => throw r
      | .error r => do
        release total
        throw r
  holding it (go walkFuel start)

/-! ## Functions of integers -/

/-- The product of the `k` integers down from `n`. -/
def fallingProduct (n k : Nat) : Nat := (List.range k).foldl (fun p i => p * (n - i)) 1

/-- The factorial of an object. -/
def factorialOf (o : Obj) : Exec Obj := do
  let n ← asIndex o
  if n < 0 then throwNew .valueError "factorial() not defined for negative values"
  else if 2 ^ 63 ≤ n then
    throwNew .overflowError "factorial() argument should not exceed 9223372036854775807"
  else newInt (fallingProduct n.toNat n.toNat)

/-- How many ways there are to choose so many of so many, in some order or another. -/
def choices (count : Nat → Nat → Nat) (n k : Obj) : Exec Obj := do
  let n ← asIndex n
  let k ← asIndex k
  if n < 0 then throwNew .valueError "n must be a non-negative integer"
  else if k < 0 then throwNew .valueError "k must be a non-negative integer"
  else newInt (if n < k then 0 else count n.toNat k.toNat)

/-- The number of subsets of so many elements. -/
def subsets (n k : Nat) : Nat :=
  let k := min k (n - k)
  fallingProduct n k / fallingProduct k k

/-- Fold some integers from a first one on. -/
def foldIntegers (f : Nat → Nat → Nat) (first : Nat) (os : List Obj) : Exec Obj := do
  let ns ← os.mapM asIndex
  let r : Nat := ns.foldl (fun (acc : Nat) (i : Int) => f acc i.natAbs) first
  newInt r

/-! ## All functions -/

/-- An object as an integer by a way of rounding floats. -/
def wholeFrom (special : String) (round : Double → Option Int) (o : Obj) : Exec Obj := do
  match ← callSpecial o special [] with
  | some r => pure r
  | none =>
    match ← intValue? o with
    | some i => newInt i
    | none => do
      let d ← asFloat o
      match round d with
      | some i => newInt i
      | none =>
        if d.isNaN then throwNew .valueError "cannot convert float NaN to integer"
        else throwNew .overflowError "cannot convert float infinity to integer"

/-- An object without its fraction. -/
def withoutFraction (o : Obj) : Exec Obj := do
  match ← callSpecial o "__trunc__" [] with
  | some r => pure r
  | none =>
    match ← payloadOf o with
    | .int _ | .bool _ | .float _ => convertInt o
    | _ => do
      let t ← typeName o
      badCallOf ("type " ++ clip 100 t ++ " doesn't define __trunc__ method")

/-- The whole part of a float, with its sign, and the rest. -/
def parts (d : Double) : Double × Double :=
  if d.isInfinite then (Double.zero.withSign d.isNegative, d)
  else
    match d.truncate.bind Double.ofInt? with
    | none => (d, d)
    | some whole => ((d.sub whole).withSign d.isNegative, whole.withSign d.isNegative)

/-- A float as a number of at least a half and less than one, and a power of two. -/
def mantissa (d : Double) : Double × Int :=
  if !d.isFinite || d.significand = 0 then (d, 0)
  else
    let bits := Double.bitLength d.significand
    let m := (Double.ofRatio? d.significand (2 ^ bits)).getD Double.one
    (m.withSign d.isNegative, d.exponent + bits)

/-- What a function of the module of mathematics makes of two numbers. -/
def callBinaryMath? : String → Option (Double → Double → Exec Obj)
  | "atan2" => some fun y x => newFloat (.ofFloat (y.toFloat.atan2 x.toFloat))
  | "copysign" => some fun x y => newFloat ((magnitude x).withSign y.isNegative)
  | "fmod" => some fun x y => do newFloat (← truncatedRemainder x y)
  | "remainder" => some fun x y => do newFloat (← nearestRemainder x y)
  | "pow" => some fun x y => do newFloat (← floatPower x y)
  | "nextafter" => some fun x y => newFloat (neighbour x y)
  | "isclose" => some fun x y => pure (boolObj (areClose x y))
  | _ => none

/-- What a function of the module of mathematics makes of one number. -/
def callUnaryMath? : String → Option (Double → Exec Obj)
  | "fabs" => some fun d => newFloat (magnitude d)
  | "isnan" => some fun d => pure (boolObj d.isNaN)
  | "isinf" => some fun d => pure (boolObj d.isInfinite)
  | "isfinite" => some fun d => pure (boolObj d.isFinite)
  | "degrees" => some fun d => newFloat (.ofFloat (d.toFloat * (180 / halfTurn)))
  | "radians" => some fun d => newFloat (.ofFloat (d.toFloat * (halfTurn / 180)))
  | "ulp" => some fun d => newFloat (lastPlace d)
  | "modf" => some fun d => do
    let (rest, whole) := parts d
    newTupleOf [← newFloat rest, ← newFloat whole]
  | "frexp" => some fun d => do
    let (m, e) := mantissa d
    newTupleOf [← newFloat m, ← newInt e]
  | name =>
    (unaryFunctions.lookup name).map fun (overflows, f) d => do
      newFloat (← unaryValue overflows f d)

/-- What a function of the module of mathematics makes of arguments. -/
def callMathFunction (name : String) (args : List Obj) : Exec Obj :=
  match name, args with
  | "sqrt", [o] => sqrtOf o
  | "floor", [o] => wholeFrom "__floor__" Double.floor o
  | "ceil", [o] => wholeFrom "__ceil__" Double.ceiling o
  | "trunc", [o] => withoutFraction o
  | "log", [o] => do newFloat (← logValue Float.log o)
  | "log", [o, base] => do
    let x ← logValue Float.log o
    let y ← logValue Float.log base
    if y.significand = 0 && y.isFinite then zeroDivision "float division by zero"
    else newFloat (x.div y)
  | "log", _ => badCallOf "math.log requires 1 to 2 arguments"
  | "isclose", _ :: _ :: _ :: _ =>
    badCallOf s!"isclose() takes exactly 2 positional arguments ({args.length} given)"
  | "log2", [o] => do newFloat (← logValue Float.log2 o)
  | "log10", [o] => do newFloat (← logValue Float.log10 o)
  | "fsum", [o] => do newFloat (← exactSum (← floatsOf o))
  | "prod", [o] => do
    let start ← newInt 1
    productOf o start
  | "prod", args =>
    if 2 < args.length then badCallOf s!"prod() takes at most 2 arguments ({args.length} given)"
    else badCallOf s!"prod() takes exactly 1 positional argument ({args.length} given)"
  | "hypot", args => do newFloat (norm (← args.mapM asFloat))
  | "dist", [p, q] => distanceOf p q
  | "ldexp", [o, i] => do
    let x ← asFloat o
    match ← intValue? i with
    | some i => do newFloat (← scaled x i)
    | none => badCallOf "Expected an int as second argument to ldexp."
  | "factorial", [o] => factorialOf o
  | "isqrt", [o] => do
    let n ← asIndex o
    if n < 0 then throwNew .valueError "isqrt() argument must be nonnegative"
    else newInt (Double.natRoot n.toNat)
  | "gcd", args => foldIntegers Nat.gcd 0 args
  | "lcm", args => foldIntegers Nat.lcm 1 args
  | "comb", [n, k] => choices subsets n k
  | "perm", [n] => factorialOf n
  | "perm", [n, k] => if k = noneObj then factorialOf n else choices fallingProduct n k
  | name, args => do
    let ds ← args.mapM asFloat
    match callUnaryMath? name, callBinaryMath? name, ds with
    | some f, _, [x] => f x
    | _, some f, [x, y] => f x y
    | _, _, _ => pure noneObj

end Embedder.Machine
