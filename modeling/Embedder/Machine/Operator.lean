import Embedder.Machine.Iteration

/-!
# Operators

Sums, differences, products, quotients, remainders and powers of objects. The left operand is asked
first, the right one if the left does not know; sequences can be joined and repeated. Integers are
exact, an integer beside a float becomes a float, and either beside a complex number becomes
complex.
-/

namespace Embedder.Machine

/-! ## Numbers -/

/-- A number of any kind. -/
inductive Number where
  | int (i : Int)
  | float (d : Double)
  | complex (re im : Double)

/-- The number that an object is. -/
def World.number? (w : World) (o : Obj) : Option Number :=
  match (w.cell o).payload with
  | .int i => some (.int i)
  | .bool b => some (.int (if b then 1 else 0))
  | .float d => some (.float d)
  | .complex re im => some (.complex re im)
  | _ => none

/-- The magnitude of a double. -/
def magnitude (d : Double) : Double := ⟨d.bits &&& 0x7fffffffffffffff⟩

/-- A complex number. -/
structure Complex where
  re : Double
  im : Double

namespace Complex

def add (a b : Complex) : Complex := ⟨a.re.add b.re, a.im.add b.im⟩

def sub (a b : Complex) : Complex := ⟨a.re.sub b.re, a.im.sub b.im⟩

def mul (a b : Complex) : Complex :=
  ⟨(a.re.mul b.re).sub (a.im.mul b.im), (a.re.mul b.im).add (a.im.mul b.re)⟩

/-- The quotient by a number that is not zero. The larger part of the divisor is divided out
first. -/
def div (a b : Complex) : Complex :=
  let (x, y) := (magnitude b.re, magnitude b.im)
  if x.isNaN ∨ y.isNaN then ⟨⟨0x7ff8000000000000⟩, ⟨0x7ff8000000000000⟩⟩
  else if !x.lt y then
    let ratio := b.im.div b.re
    let scale := b.re.add (b.im.mul ratio)
    ⟨(a.re.add (a.im.mul ratio)).div scale, (a.im.sub (a.re.mul ratio)).div scale⟩
  else
    let ratio := b.re.div b.im
    let scale := (b.re.mul ratio).add b.im
    ⟨((a.re.mul ratio).add a.im).div scale, ((a.im.mul ratio).sub a.re).div scale⟩

/-- A power by repeated squares. -/
def power (a : Complex) : Nat → Complex
  | 0 => ⟨Double.one, Double.zero⟩
  | n + 1 =>
    let rec go : (fuel n : Nat) → (r p : Complex) → Complex
      | 0, _, r, _ => r
      | fuel + 1, n, r, p =>
        if n = 0 then r else go fuel (n / 2) (if n % 2 = 1 then r.mul p else r) (p.mul p)
    go (n + 1) (n + 1) ⟨Double.one, Double.zero⟩ a

/-- The distance from the origin. -/
def length (a : Complex) : Double :=
  if a.re.isInfinite || a.im.isInfinite then ⟨0x7ff0000000000000⟩
  else if a.re.isNaN || a.im.isNaN then ⟨0x7ff8000000000000⟩
  else (Double.distance? a.re a.im).getD ⟨0x7ff0000000000000⟩

/-- A power of a number that is not zero, by its length and its direction; `none` if the direction
is lost. -/
def turned? (a b : Complex) : Option Complex :=
  let length := a.length.toFloat
  let angle := Float.atan2 a.im.toFloat a.re.toFloat
  let (x, y) := (b.re.toFloat, b.im.toFloat)
  let stretched := length.pow x
  let phase := angle * x
  let (stretched, phase) :=
    if y == 0 then (stretched, phase)
    else (stretched / Float.exp (angle * y), phase + y * length.log)
  if phase.isInf then none
  else some ⟨.ofFloat (stretched * phase.cos), .ofFloat (stretched * phase.sin)⟩

def isZero (a : Complex) : Bool := a.re.numEq Double.zero && a.im.numEq Double.zero

def isInfinite (a : Complex) : Bool := a.re.isInfinite || a.im.isInfinite

end Complex

/-- The error for a result that is out of range. -/
def outOfRange {α : Type} : Exec α := do
  let number ← newInt 34
  let text ← newText "Numerical result out of range"
  throwWith .overflowError [number, text]

/-- The error for a divisor that is zero. -/
def zeroDivision {α : Type} (message : String) : Exec α := throwNew .zeroDivisionError message

namespace Number

/-- A number as an object. -/
def object : Number → Exec Obj
  | .int i => newInt i
  | .float d => newFloat d
  | .complex re im => alloc Builtin.complex.obj (.complex re im) []

/-- A real number as a float. -/
def toDouble : Number → Exec Double
  | .int i => floatOfInt i
  | .float d => pure d
  | .complex re _ => pure re

/-- A number as a complex number. -/
def toComplex : Number → Exec Complex
  | .complex re im => pure ⟨re, im⟩
  | x => do pure ⟨← x.toDouble, Double.zero⟩

/-- A complex number as a number. -/
def ofComplex (c : Complex) : Number := .complex c.re c.im

/-- An operation that is exact on integers, and rounded on all else. -/
def arith (ints : Int → Int → Int) (floats : Double → Double → Double)
    (complexes : Complex → Complex → Complex) : Number → Number → Exec Number
  | .int i, .int j => pure (.int (ints i j))
  | .complex re im, y => do
    let b ← y.toComplex
    pure (ofComplex (complexes ⟨re, im⟩ b))
  | x, .complex re im => do
    let a ← x.toComplex
    pure (ofComplex (complexes a ⟨re, im⟩))
  | x, y => do
    let a ← x.toDouble
    let b ← y.toDouble
    pure (.float (floats a b))

def add : Number → Number → Exec Number := arith (· + ·) Double.add Complex.add

def sub : Number → Number → Exec Number := arith (· - ·) Double.sub Complex.sub

def mul : Number → Number → Exec Number := arith (· * ·) Double.mul Complex.mul

/-- The quotient of two integers, rounded once; the divisor is not zero. -/
def divInts (i j : Int) : Exec Double :=
  let negative : Bool := decide (i < 0) != decide (j < 0)
  if i = 0 then pure (Double.ofSignBits negative 0)
  else
    match Double.ofRatio? i.natAbs j.natAbs with
    | some d => pure (if negative then Double.ofSignBits true d.bits.toNat else d)
    | none => throwNew .overflowError "integer division result too large for a float"

def div : Number → Number → Exec Number
  | .int i, .int j => do
    if j = 0 then zeroDivision "division by zero"
    else pure (.float (← divInts i j))
  | .complex re im, y => do
    let b ← y.toComplex
    if b.isZero then zeroDivision "complex division by zero"
    else pure (ofComplex (Complex.div ⟨re, im⟩ b))
  | x, .complex re im => do
    let a ← x.toComplex
    if Complex.isZero ⟨re, im⟩ then zeroDivision "complex division by zero"
    else pure (ofComplex (a.div ⟨re, im⟩))
  | x, y => do
    let a ← x.toDouble
    let b ← y.toDouble
    if b.numEq Double.zero then zeroDivision "float division by zero"
    else pure (.float (a.div b))

/-- A power of a complex number. Integers up to a hundred are exponents by repeated squares; others
turn and stretch. -/
def powComplex (a b : Complex) : Exec Number := do
  let noPower : Exec Number := zeroDivision "0.0 to a negative or complex power"
  let checked (r : Complex) : Exec Number :=
    if r.isInfinite then throwNew .overflowError "complex exponentiation"
    else pure (ofComplex r)
  let whole := (b.re.truncate).filter fun i =>
    b.im.numEq Double.zero && (Double.ofInt? i).any (·.numEq b.re) && i.natAbs ≤ 100
  match whole with
  | some i =>
    let r := a.power i.natAbs
    if 0 < i then checked r
    else if r.isZero then noPower
    else checked (Complex.div ⟨Double.one, Double.zero⟩ r)
  | none =>
    if a.isZero then
      if !b.im.numEq Double.zero || b.re.lt Double.zero then noPower
      else pure (ofComplex ⟨Double.zero, Double.zero⟩)
    else
      match a.turned? b with
      | some r => checked r
      | none => noPower

/-- A power of a double; a finite number whose power is not finite is out of range, and that of a
negative one may be complex. -/
def powDoubles (a b : Double) : Exec Number :=
  let isZero := a.numEq Double.zero
  let isWhole := b.floor.bind Double.ofInt? |>.any (·.numEq b)
  if isZero && b.isFinite && b.lt Double.zero then
    zeroDivision "0.0 cannot be raised to a negative power"
  else if a.isFinite && b.isFinite && a.lt Double.zero && !isWhole then
    powComplex ⟨a, Double.zero⟩ ⟨b, Double.zero⟩
  else
    let r := a.pow b
    if r.isInfinite && a.isFinite && b.isFinite then outOfRange else pure (.float r)

/-- A number to the power of another. -/
def pow : Number → Number → Exec Number
  | .int i, .int j =>
    if 0 ≤ j then pure (.int (i ^ j.toNat))
    else do powDoubles (← floatOfInt i) (← floatOfInt j)
  | .complex re im, y => do powComplex ⟨re, im⟩ (← y.toComplex)
  | x, .complex re im => do powComplex (← x.toComplex) ⟨re, im⟩
  | x, y => do powDoubles (← x.toDouble) (← y.toDouble)

end Number

/-! ## Text with a number in it -/

/-- The integer in a formatted text that an object stands for. -/
def formattedInt (o : Obj) : Exec Int := do
  let refuse : Exec Int := do
    let t ← typeName o
    throwNew .typeError ("%d format: a real number is required, not " ++ clip 200 t)
  match (← get).number? o with
  | some (.int i) => pure i
  | some (.float d) =>
    if d.isNaN then throwNew .valueError "cannot convert float NaN to integer"
    else
      match d.truncate with
      | some i => pure i
      | none => throwNew .overflowError "cannot convert float infinity to integer"
  | some (.complex ..) => refuse
  | none =>
    let mistyped (r : Raised) : Exec Bool := raisedIs .typeError r
    if (← scriptedMember? o "__int__").isSome then
      recover
        (do
          match ← callSpecial o "__int__" [] with
          | some r =>
            holding r do
              match ← intValue? r with
              | some i => pure i
              | none => throwNew .typeError "__int__ returned non-int"
          | none => refuse)
        mistyped refuse
    else if (← scriptedMember? o "__index__").isSome then recover (asIndex o) mistyped refuse
    else refuse

/-- A text with a number in place of its `%d`. -/
def formatOne (template : Points) (o : Obj) : Exec Obj := do
  let i ← formattedInt o
  let shown ← intPoints i
  let (before, after) := template.span (· ≠ '%'.toNat)
  newStr (before ++ shown ++ after.drop 2)

/-- A text with a number in place of its `%d`: an object, or the only one of a tuple. -/
def formatText (template : Points) (arg : Obj) : Exec Obj := do
  match ← payloadOf arg with
  | .tuple slots =>
    match slotItems slots with
    | [] => throwNew .typeError "not enough arguments for format string"
    | [o] => formatOne template o
    | o :: _ => do
      let r ← formatOne template o
      release r
      throwNew .typeError "not all arguments converted during string formatting"
  | _ => formatOne template arg

/-! ## Asking the operands -/

/-- What two objects make by birth; nothing if the operator is not for them. -/
def operateByBirth (op : Operator) (a b : Obj) : Exec (Option Obj) := do
  let w ← get
  match w.number? a, w.number? b with
  | some x, some y =>
    match op with
    | .add => do some <$> (← x.add y).object
    | .sub => do some <$> (← x.sub y).object
    | .mul => do some <$> (← x.mul y).object
    | .div => do some <$> (← x.div y).object
    | .pow => do some <$> (← x.pow y).object
    | .mod => pure none
  | _, _ =>
    match op, (w.cell a).payload, (w.cell b).payload with
    | .mod, .str s, _ => some <$> formatText s b
    | .sub, .set s, .set t => do
      let set ← newEmptySet
      some <$> keeping set (s.entries.forM fun e => do
        if !(← t.holds sameOrEqual e.key e.hash) then addHashed set e.key e.hash)
    | _, _, _ => pure none

/-- Whether an object has a special method for an operator, on either side. -/
def takesPart (op : Operator) (o : Obj) : Exec Bool := do
  let a ← scriptedMember? o op.method
  let b ← scriptedMember? o op.reflected
  pure (a.isSome || b.isSome)

/-- An answer that may be that an object does not know. -/
def known (r : Option Obj) : Option Obj := r.filter (· ≠ notImplementedObj)

/-- What two objects make of each other by an operator; nothing if neither knows. -/
def operate? (op : Operator) (a b : Obj) : Exec (Option Obj) := do
  let sameClass := (← classOf a) = (← classOf b)
  let reflected : Exec (Option Obj) := do
    if sameClass then pure none else known <$> callSpecial b op.reflected [a]
  if ← takesPart op a then
    match known (← callSpecial a op.method [b]) with
    | some r => pure (some r)
    | none => reflected
  else
    match ← operateByBirth op a b with
    | some r => pure (some r)
    | none => reflected

/-! ## Joining and repeating -/

/-- The error for operands that an operator does not take. -/
def badOperands {α : Type} (operator : String) (a b : Obj) : Exec α := do
  let s ← typeName a
  let t ← typeName b
  throwNew .typeError ("unsupported operand type(s) for " ++ clip 100 operator ++ ": '" ++
    clip 100 s ++ "' and '" ++ clip 100 t ++ "'")

/-- The error for something that cannot be joined to a sequence of a kind. -/
def cannotJoin {α : Type} (kind : String) (b : Obj) : Exec α := do
  let t ← typeName b
  throwNew .typeError ("can only concatenate " ++ kind ++ " (not \"" ++ clip 200 t ++ "\") to " ++
    kind)

/-- A sequence and another one of its kind after it; nothing if the first is no sequence. -/
def join? (a b : Obj) : Exec (Option Obj) := do
  let (p, q) := (← payloadOf a, ← payloadOf b)
  match p, q with
  | .str s, .str t => some <$> newStr (s ++ t)
  | .str _, _ => cannotJoin "str" b
  | .bytes s, .bytes t => some <$> newBytes (s ++ t)
  | .bytes _, _ => do
    let s ← typeName a
    let t ← typeName b
    throwNew .typeError ("can't concat " ++ clip 100 t ++ " to " ++ clip 100 s)
  | .list s, .list t => do
    let items := slotItems (s ++ t)
    items.forM incref
    some <$> newListOf items
  | .list _, _ => cannotJoin "list" b
  | .tuple s, .tuple t => do
    let items := slotItems (s ++ t)
    items.forM incref
    some <$> newTupleOf items
  | .tuple _, _ => cannotJoin "tuple" b
  | _, _ => pure none

/-- Some items again and again. -/
def repeated {α : Type} (count : Nat) (items : List α) : List α :=
  (List.replicate count items).flatten

/-- A sequence repeated; nothing if it is none. -/
def repeat? (o count : Obj) : Exec (Option Obj) := do
  let p ← payloadOf o
  match p with
  | .str _ | .bytes _ | .list _ | .tuple _ => do
    let counts := (← intValue? count).isSome || (← scriptedMember? count "__index__").isSome
    if !counts then do
      let t ← typeName count
      throwNew .typeError ("can't multiply sequence by non-int of type '" ++ clip 200 t ++ "'")
    else do
      let n := (← asSize count .overflowError).toNat
      reserve (n * p.length?.getD 0 : Nat)
      match p with
      | .str s => some <$> newStr (repeated n s)
      | .bytes bs => some <$> newBytes (repeated n bs)
      | .list slots => do
        let items := repeated n (slotItems slots)
        items.forM incref
        some <$> newListOf items
      | .tuple slots => do
        let items := repeated n (slotItems slots)
        items.forM incref
        some <$> newTupleOf items
      | _ => pure none
  | _ => pure none

/-- What two sequences, or a sequence and a count, make of each other by an operator. -/
def operateSequences? (op : Operator) (a b : Obj) : Exec (Option Obj) :=
  match op with
  | .add => join? a b
  | .mul => do
    match ← repeat? a b with
    | some r => pure (some r)
    | none => repeat? b a
  | _ => pure none

/-- What two objects make of each other by an operator. -/
def operate (op : Operator) (a b : Obj) : Exec Obj := do
  match ← operate? op a b with
  | some r => pure r
  | none =>
    match ← operateSequences? op a b with
    | some r => pure r
    | none => badOperands op.shown a b

/-- Put the items of an object at the end of a list, which is given back. -/
def extendList (list : Obj) (more : Obj) : Exec Obj := do
  let items ← itemsOf more
  match ← payloadOf list with
  | .list slots => setPayload list (.list (slots ++ (items.map some).toArray))
  | _ => releaseList items
  newRef list

/-- Add to an object, in place if it can. -/
def increase (a b : Obj) : Exec Obj := do
  match known (← callSpecial a "__iadd__" [b]) with
  | some r => pure r
  | none =>
    match ← operate? .add a b with
    | some r => pure r
    | none =>
      if (← payloadOf a) matches .list _ then extendList a b
      else
        match ← join? a b with
        | some r => pure r
        | none => badOperands "+=" a b

/-! ## Sums and magnitudes -/

/-- The kinds of texts that are no start of a sum, with what to use in place of it. -/
def unsummable (start : Obj) : Exec Unit := do
  let refuse (kind quoted : String) : Exec Unit :=
    throwNew .typeError ("sum() can't sum " ++ kind ++ " [use " ++ quoted ++ ".join(seq) instead]")
  match ← payloadOf start with
  | .str _ => refuse "strings" "''"
  | .bytes _ => refuse "bytes" "b''"
  | _ => pure ()

/-- Add what an iterator still has to a total, whose reference moves. -/
def addUp (it : Obj) : (fuel : Nat) → (total : Obj) → Exec Obj
  | 0, total => pure total
  | fuel + 1, total => do
    match ← Exec.outcome (nextOrEnd it) with
    | .ok none => pure total
    | .ok (some x) => do
      let sum ← Exec.outcome (operate .add total x)
      releaseList [total, x]
      match sum with
      | .ok s => addUp it fuel s
      | .error r => throw r
    | .error r => do
      release total
      throw r

/-- The sum of the items of an object, from a start. -/
def sumFrom (start o : Obj) : Exec Obj := do
  let it ← iteratorOf o
  holding it do
    unsummable start
    incref start
    addUp it walkFuel start

/-- The magnitude of a number. -/
def absOf (o : Obj) : Exec Obj := do
  match ← callSpecial o "__abs__" [] with
  | some r => pure r
  | none =>
    match (← get).number? o with
    | some (.int i) => newInt i.natAbs
    | some (.float d) => newFloat (magnitude d)
    | some (.complex re im) =>
      if re.isInfinite ∨ im.isInfinite then newFloat (Double.ofSignBits false (2047 * 2 ^ 52))
      else if re.isNaN ∨ im.isNaN then newFloat ⟨0x7ff8000000000000⟩
      else
        match Double.distance? re im with
        | some d => newFloat d
        | none => throwNew .overflowError "absolute value too large"
    | none => do
      let t ← typeName o
      throwNew .typeError ("bad operand type for abs(): '" ++ clip 200 t ++ "'")

/-- The square root of a number. -/
def sqrtOf (o : Obj) : Exec Obj := do
  let d ← asFloat o
  if d.isNegative && !d.isNaN && d != Double.ofSignBits true 0 then
    throwNew .valueError "math domain error"
  else newFloat d.sqrt

end Embedder.Machine
