import Embedder.Machine.Arity
import Embedder.Machine.Assignment
import Embedder.Machine.Import
import Embedder.Machine.Pipeline
import Embedder.Machine.Printing

/-!
# Calls of built-in functions

What the functions of the built-in namespace make of arguments.
-/

namespace Embedder.Machine

/-- Whether some item of an object counts as true, or as false. -/
def someItem (counts : Bool) (o : Obj) : Exec Bool := do
  let it ← iteratorOf o
  let rec go : (fuel : Nat) → Exec Bool
    | 0 => pure false
    | fuel + 1 => do
      match ← nextOrEnd it with
      | none => pure false
      | some x => if (← holding x (truth x)) = counts then pure true else go fuel
  holding it (go walkFuel)

/-- The item of an iterator that compares in some way to the best one before it, which is taken
over; the first of equal ones. -/
def extremeFrom (op : Comparison) (it : Obj) : (fuel : Nat) → (best : Option Obj) →
    Exec (Option Obj)
  | 0, best => pure best
  | fuel + 1, best => do
    match ← Exec.outcome (nextOrEnd it), best with
    | .ok none, _ => pure best
    | .ok (some o), none => extremeFrom op it fuel (some o)
    | .ok (some o), some b =>
      match ← Exec.outcome (do truthOf (← innerCompare op o b)) with
      | .ok true => do
        release b
        extremeFrom op it fuel (some o)
      | .ok false => do
        release o
        extremeFrom op it fuel (some b)
      | .error r => do
        releaseList [o, b]
        throw r
    | .error r, best => do
      releaseList best.toList
      throw r

/-- The item that compares to all before it in some way: of an object, or of all arguments. -/
def extreme (name : String) (op : Comparison) (args : List Obj) : Exec Obj := do
  let it ← match args with
    | [] => badCallOf (name ++ " expected at least 1 argument, got 0")
    | [o] => iteratorOf o
    | os => do
      let tuple ← newTupleOf (← newRefs os)
      holding tuple (iteratorOf tuple)
  match ← holding it (extremeFrom op it walkFuel none) with
  | some best => pure best
  | none => throwNew .valueError (name ++ "() arg is an empty sequence")

/-- The next item of an iterator, or something else at its end. -/
def nextItem (it : Obj) (default : Option Obj) : Exec Obj := do
  if !(← isIterator it) then
    let t ← typeName it
    badCallOf ("'" ++ clip 200 t ++ "' object is not an iterator")
  let step : Exec (Option Obj) :=
    match default with
    | some _ => nextOrEnd it
    | none => nextOf? it
  match ← step, default with
  | some o, _ => pure o
  | none, some d => newRef d
  | none, none => throwWith .stopIteration []

/-- Write objects on the standard output. -/
def printAll (args : List Obj) : Exec Unit := do
  match ← setting? "stdout" with
  | none => throwNew .runtimeError "lost sys.stdout"
  | some file =>
    if file = noneObj then pure ()
    else do
      incref file
      holding file do
        args.zipIdx.forM fun (o, i) => do
          if 0 < i then write file " "
          writeShown file (innerStr o)
        write file "\n"

/-- The name of an attribute that an object is. -/
def attrName (name : Obj) : Exec String := do
  match (← get).textOf? name with
  | some s => pure s
  | none => do
    let t ← typeName name
    badCallOf ("attribute name must be string, not '" ++ clip 200 t ++ "'")

/-- An attribute by a name that is an object. -/
def attrByObject (o name : Obj) : Exec Obj := do getAttr o (← attrName name)

/-- An integer in a base, with the sign of the base. -/
def inBase (mark : String) (base : Nat) (o : Obj) : Exec Obj := do
  let i ← asIndex o
  let digits := String.ofList (Nat.toDigits base i.natAbs)
  newText ((if i < 0 then "-" else "") ++ mark ++ digits)

/-- Change an attribute by a name that is an object. -/
def changeByObject (o name : Obj) (v : Option Obj) : Exec Unit := do
  changeAttr o (← attrName name) v

/-- A character of a text in which all others are escaped. -/
def asciiPoint (n : Nat) : Points := if n < 0x80 then [n] else (escapedPoint n).map Char.toNat

/-- Refuse an object for what it does not have. -/
def lacking {α : Type} (o : Obj) (what : String) : Exec α := do
  let t ← typeName o
  badCallOf ("'" ++ clip 200 t ++ "' " ++ what)

/-- Refuse what needs the names of running code, where none is running. -/
def noFrame {α : Type} : Exec α := throwNew .systemError "frame does not exist"

/-- Raise the error of the operating system with a number about some objects. -/
def refuseByNumber (number : Int) (message : String) (about : List Obj) : Exec Obj := do
  let n ← newInt number
  let text ← newText message
  let e ← holdingAll [n, text] (makeError Builtin.osError.obj (n :: text :: about))
  throw ⟨e, []⟩

/-- Open a file by its path, which has a text; none is there for Python code to read. -/
def openPath (o : Obj) (path : String) : Exec Obj :=
  if '\x00' ∈ path.toList then throwNew .valueError "embedded null byte"
  else if (folderAt? path).isSome then refuseByNumber 21 "Is a directory" [o]
  else refuseByNumber 2 "No such file or directory" [o]

/-- Open a file by its path or its number. -/
def openFile (o : Obj) : Exec Obj := do
  match ← payloadOf o with
  | .str s => openPath o (hostText s)
  | .bytes bs => openPath o (Utf8.lossy bs)
  | .int i =>
    if i < 0 then throwNew .valueError "negative file descriptor"
    else refuseByNumber 9 "Bad file descriptor" []
  | .bool _ => pure noneObj
  | _ =>
    match ← callSpecial o "__fspath__" [] with
    | none => do
      let t ← typeName o
      badCallOf ("expected str, bytes or os.PathLike object, not " ++ clip 200 t)
    | some path =>
      holding path do
        match ← payloadOf path with
        | .str s => openPath path (hostText s)
        | .bytes bs => openPath path (Utf8.lossy bs)
        | _ => do
          let s ← typeName o
          let t ← typeName path
          badCallOf ("expected " ++ clip 200 s ++ ".__fspath__() to return str or bytes, not " ++
            clip 200 t)

/-- The text of an object in a style; only numbers and texts know any but the empty one. -/
def formatted (o : Obj) (style : Option Obj) : Exec Obj := do
  let styleText ← match style with
    | none => pure []
    | some s =>
      match ← payloadOf s with
      | .str text => pure text
      | _ => do
        let t ← typeName s
        badCallOf ("format() argument 2 must be str, not " ++ clip 50 t)
  let spec ← newStr styleText
  match ← holding spec (callSpecial o "__format__" [spec]) with
  | some r =>
    if ← isA r .str then pure r
    else do
      let t ← typeName r
      release r
      badCallOf ("__format__ must return a str, not " ++ clip 200 t)
  | none =>
    let styled ← match ← payloadOf o with
      | .int _ | .bool _ | .float _ | .complex .. | .str _ => pure true
      | _ => pure false
    if styleText.isEmpty || styled then do newStr (← innerStr o)
    else do
      let t ← typeName o
      badCallOf ("unsupported format string passed to " ++ clip 200 t ++ ".__format__")

/-- Whether a test holds for a class or for one in a tuple of classes, of at most some depth. A
class can decide by a special method. -/
def someClass (special : String) (subject : Obj) (test : Obj → Exec Bool) :
    (fuel : Nat) → Obj → Exec Bool
  | 0, _ => pure false
  | fuel + 1, cls => do
    match ← payloadOf cls with
    | .tuple slots => (slotItems slots).anyM (someClass special subject test fuel)
    | _ =>
      match ← callSpecial cls special [subject] with
      | some r => holding r (truth r)
      | none => test cls

/-- Refuse an object that is no class; it may say what its bases are. -/
def refuseClass {α : Type} (o : Obj) (refusal : String) : Exec α := do
  let bases ← attrOrNone? o "__bases__"
  releaseList bases.toList
  badCallOf refusal

/-- Whether an object is an instance of a class or of one in a tuple. What it says its class is
counts too. -/
def isInstance (o cls : Obj) : Exec Bool :=
  let ofClass (cls : Obj) : Exec Bool := do
    let w ← get
    if !w.isClass cls then
      refuseClass cls "isinstance() arg 2 must be a type, a tuple of types, or a union"
    else if w.isSubclass (w.cell o).cls cls then pure true
    else
      match ← attrOrNone? o "__class__" with
      | some said => holding said do
        let w ← get
        pure (w.isClass said && w.isSubclass said cls)
      | none => pure false
  someClass "__instancecheck__" o ofClass lineageFuel cls

/-- Whether a class is a class, or one in a tuple, or stands below it. -/
def isSubclassOf (c cls : Obj) : Exec Bool :=
  let below (cls : Obj) : Exec Bool := do
    let w ← get
    if !w.isClass c then refuseClass c "issubclass() arg 1 must be a class"
    else if !w.isClass cls then
      refuseClass cls "issubclass() arg 2 must be a class, a tuple of classes, or a union"
    else pure (w.isSubclass c cls)
  someClass "__subclasscheck__" c below lineageFuel cls

/-- The quotient of two floats without its fraction, and the remainder, which has the sign of the
divisor. -/
def floatDivision (x y : Double) : Double × Double :=
  if !x.isFinite || y.isNaN then (nan, nan)
  else
    let rest := if y.isInfinite then x else x.remainder y
    let quotient := (x.sub rest).div y
    let isExact := rest.numEq Double.zero
    let turned := !isExact && rest.isNegative != y.isNegative
    let quotient := if turned then quotient.sub Double.one else quotient
    let rest := if isExact then rest.withSign y.isNegative
      else if turned then rest.add y else rest
    if quotient.numEq Double.zero then (quotient.withSign (x.isNegative != y.isNegative), rest)
    else (nearestBelow quotient, rest)
where
  nan : Double := ⟨0x7ff8000000000000⟩
  /-- The integer below a float, or the one above where that is nearer. -/
  nearestBelow (d : Double) : Double :=
    match d.floor.bind Double.ofInt? with
    | none => d
    | some below =>
      if (Double.mk 0x3fe0000000000000).lt (d.sub below) then below.add Double.one else below

/-- The quotient and the remainder of two numbers by birth. -/
def dividedByBirth? (a b : Obj) : Exec (Option Obj) := do
  let w ← get
  match w.number? a, w.number? b with
  | some (.int i), some (.int j) =>
    if j = 0 then zeroDivision "integer division or modulo by zero"
    else some <$> newTupleOf [← newInt (i.fdiv j), ← newInt (i.fmod j)]
  | some (.complex ..), _ | _, some (.complex ..) => pure none
  | some x, some y => do
    let (x, y) := (← x.toDouble, ← y.toDouble)
    if y.numEq Double.zero then zeroDivision "float divmod()"
    else
      let (quotient, rest) := floatDivision x y
      some <$> newTupleOf [← newFloat quotient, ← newFloat rest]
  | _, _ => pure none

/-- The quotient and the remainder of two objects. -/
def divided (a b : Obj) : Exec Obj := do
  match known (← callSpecial a "__divmod__" [b]) with
  | some r => pure r
  | none =>
    match ← dividedByBirth? a b with
    | some r => pure r
    | none =>
      let sameClass := (← classOf a) = (← classOf b)
      match known (← if sameClass then pure none else callSpecial b "__rdivmod__" [a]) with
      | some r => pure r
      | none => badOperands "divmod()" a b

/-- The remainder of a power, by squares. -/
def powerMod (m a : Nat) : Nat → Nat
  | 0 => 1 % m
  | n + 1 =>
    let squares := powerMod m (a * a % m) ((n + 1) / 2)
    if (n + 1) % 2 = 1 then squares * a % m else squares

/-- The inverse of `b` modulo the number that the search began with: `s` and `t` are what `a` and
`b` are multiples of the number to invert by. -/
def inverseFrom (a : Nat) (s : Int) (b : Nat) (t : Int) : Option Int :=
  if h : b = 0 then if a = 1 then some s else none
  else
    have : a % b < b := Nat.mod_lt a (Nat.pos_of_ne_zero h)
    inverseFrom b t (a % b) (s - (a / b : Nat) * t)
termination_by b

/-- The inverse of a number modulo another, if there is one. -/
def inverse? (a m : Nat) : Option Nat :=
  (inverseFrom m 0 (a % m) 1).map fun (i : Int) => (i % m).toNat

/-- A power of an integer modulo another that is not zero, with the sign of that one. -/
def powerOfInts? (a b m : Int) : Option Int :=
  let n := m.natAbs
  let base : Option Nat :=
    if n = 1 then some 0
    else if 0 ≤ b then some (a % (n : Int)).toNat
    else inverse? (a % (n : Int)).toNat n
  base.map fun base =>
    let r : Int := powerMod n base b.natAbs
    if m < 0 ∧ r ≠ 0 then r - n else r

/-- What the first of some objects that knows makes of a power modulo a number: floats and complex
numbers refuse. -/
def powerByBirth (w : World) (a b m : Obj) : List Obj → Exec (Option Obj)
  | [] => pure none
  | o :: rest =>
    match w.number? o with
    | some (.float _) =>
      badCallOf "pow() 3rd argument not allowed unless all arguments are integers"
    | some (.complex ..) =>
      if (w.number? a).isSome && (w.number? b).isSome then
        throwNew .valueError "complex modulo"
      else powerByBirth w a b m rest
    | some (.int _) =>
      match w.intValue? a, w.intValue? b, w.intValue? m with
      | some i, some j, some n =>
        if n = 0 then throwNew .valueError "pow() 3rd argument cannot be 0"
        else
          match powerOfInts? i j n with
          | some r => some <$> newInt r
          | none => throwNew .valueError "base is not invertible for the given modulus"
      | _, _, _ => powerByBirth w a b m rest
    | none => powerByBirth w a b m rest

/-- A power modulo a number. -/
def powerModulo (a b m : Obj) : Exec Obj := do
  if m = noneObj then operate .pow a b
  else
    match known (← callSpecial a "__pow__" [b, m]) with
    | some r => pure r
    | none =>
      match ← powerByBirth (← get) a b m [a, b, m] with
      | some r => pure r
      | none => do
        let names ← [a, b, m].mapM typeName
        badCallOf ("unsupported operand type(s) for ** or pow(): " ++
          String.intercalate ", " (names.map fun t => "'" ++ clip 100 t ++ "'"))

/-- The multiple of a positive integer that is nearest to an integer, the even one of two. -/
def roundedTo (unit : Nat) (i : Int) : Int :=
  let m : Int := Double.quotientRoundEven i.natAbs unit * unit
  if i < 0 then -m else m

/-- A number without its fraction or with so many digits after the point, rounded to the nearest
one and to an even one in the middle. -/
def rounded (o : Obj) (digits : Option Obj) : Exec Obj := do
  match ← callSpecial o "__round__" digits.toList with
  | some r => pure r
  | none =>
    let places := (digits.filter (· ≠ noneObj)).mapM asIndex
    match (← get).number? o with
    | some (.int i) =>
      match ← places with
      | none => newInt i
      | some n =>
        -- beyond the size of the number all of it is lost
        let zeros := min (-n).toNat (i.natAbs.log2 + 2)
        newInt (roundedTo (10 ^ zeros) i)
    | some (.float d) =>
      match ← places with
      | none =>
        match d.roundEven with
        | some i => newInt i
        | none => convertInt o
      | some n =>
        match d.roundPlaces n with
        | some r => newFloat r
        | none => throwNew .overflowError "rounded value too large to represent"
    | _ => do
      let t ← typeName o
      badCallOf ("type " ++ clip 100 t ++ " doesn't define __round__ method")

/-- What a function of the built-in namespace makes of arguments. -/
def callBuiltinFunction (name : String) (args : List Obj) : Exec Obj :=
  match name, args with
  | "len", [o] => do newInt (← lengthOf o)
  | "abs", [o] => absOf o
  | "all", [o] => do pure (boolObj (!(← someItem false o)))
  | "any", [o] => do pure (boolObj (← someItem true o))
  | "callable", [o] => do
    pure (boolObj ((← get).isCallable o))
  | "hash", [o] => do newInt (← hashOf o)
  | "id", [o] => newInt (hashIdentity o)
  | "repr", [o] => do newStr (← innerRepr o)
  | "bin", [o] => inBase "0b" 2 o
  | "oct", [o] => inBase "0o" 8 o
  | "hex", [o] => inBase "0x" 16 o
  | "chr", [o] => do
    let i ← asIndex o
    if i < -2 ^ 31 ∨ 2 ^ 31 ≤ i then
      throwNew .overflowError "Python int too large to convert to C int"
    else if 0 ≤ i ∧ i < 0x110000 then newStr [i.toNat]
    else throwNew .valueError "chr() arg not in range(0x110000)"
  | "ord", [o] => do
    match ← payloadOf o with
    | .str [n] => newInt n
    | .bytes [b] => newInt b.toNat
    | .str s =>
      badCallOf s!"ord() expected a character, but string of length {s.length} found"
    | .bytes bs =>
      badCallOf s!"ord() expected a character, but string of length {bs.length} found"
    | _ => do
      let t ← typeName o
      badCallOf ("ord() expected string of length 1, but " ++ clip 200 t ++ " found")
  | "iter", [o] => iteratorOf o
  | "iter", [f, last] => do
    if !(← get).isCallable f then badCallOf "iter(v, w): v must be callable"
    newCalls f last
  | "next", [it] => nextItem it none
  | "next", [it, d] => nextItem it (some d)
  | "getattr", [o, name] => attrByObject o name
  | "getattr", [o, name, d] =>
    recover (attrByObject o name) (raisedIs .attributeError) (newRef d)
  | "hasattr", [o, name] => do
    recover
      (do
        let v ← attrByObject o name
        release v
        pure trueObj)
      (raisedIs .attributeError) (pure falseObj)
  | "sorted", [o] => do
    let list ← newListOf (← itemsOf o)
    keeping list do
      let sort ← bornMember list .list .method "sort"
      let r ← holding sort (callObj sort [])
      release r
  | "sum", [o] => do
    let start ← newInt 0
    sumFrom start o
  | "sum", [o, start] => sumFrom start o
  | "sum", [] => badCallOf "sum() takes at least 1 positional argument (0 given)"
  | "sum", args => badCallOf s!"sum() takes at most 2 arguments ({args.length} given)"
  | "max", args => extreme "max" .gt args
  | "min", args => extreme "min" .lt args
  | "print", args => do
    printAll args
    pure noneObj
  | "dir", [o] => do
    match ← namesOf o with
    | some names => do newListOf (← names.mapM newText)
    | none => newListOf []
  | "vars", [o] => do
    match ← attrOrNone? o "__dict__" with
    | some d => pure d
    | none => badCallOf "vars() argument must have __dict__ attribute"
  | "setattr", [o, name, v] => do
    changeByObject o name (some v)
    pure noneObj
  | "delattr", [o, name] => do
    changeByObject o name none
    pure noneObj
  | "ascii", [o] => do newStr ((← innerRepr o).flatMap asciiPoint)
  | "format", [o] => formatted o none
  | "format", [o, style] => formatted o (some style)
  | "isinstance", [o, cls] => do pure (boolObj (← isInstance o cls))
  | "issubclass", [c, cls] => do pure (boolObj (← isSubclassOf c cls))
  | "pow", [a, b] => operate .pow a b
  | "pow", [a, b, m] => powerModulo a b m
  | "divmod", [a, b] => divided a b
  | "round", o :: digits => rounded o digits.head?
  | "globals", [] =>
    throwNew .systemError
      "<built-in function globals> returned NULL without setting an exception"
  | "eval", [_] | "exec", [_] | "locals", [] | "vars", [] | "dir", [] => noFrame
  | "exec", [] => badCallOf "exec() takes at least 1 positional argument (0 given)"
  | "open", o :: _ => openFile o
  | "aiter", [o] => lacking o "object is not an async iterable"
  | "anext", o :: _ => lacking o "object is not an async iterator"
  | "__build_class__", f :: _ :: _ => do
    if !((← payloadOf f) matches .function ..) then
      badCallOf "__build_class__: func must be a function"
    pure noneObj
  | "__build_class__", _ => badCallOf "__build_class__: not enough arguments"
  | "__import__", [] => badCallOf "__import__() missing required argument 'name' (pos 1)"
  | "__import__", o :: _ => do
    if !(← isA o .str) then badCallOf "module name must be a string"
    importNamed (← contentsOf o)
  | _, _ => pure noneObj

end Embedder.Machine
