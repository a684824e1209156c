import Embedder.Machine.Arity
import Embedder.Machine.Codec
import Embedder.Machine.Convert
import Embedder.Machine.ModuleText
import Embedder.Machine.Pipeline

/-!
# Calls of built-in classes

What the built-in classes make of arguments.
-/

namespace Embedder.Machine

/-- A set, or a set that does not change, of the items of an object. -/
def setFrom (cls : Builtin) (arg : Option Obj) : Exec Obj := do
  let made ← match arg with
    | none => newEmptySet
    | some o =>
      match ← payloadOf o with
      | .set table => copySet table
      | .dict items => keySet items
      | _ => do
        let set ← newEmptySet
        keeping set (forEach o () fun _ x => addToSet set x)
  editCell made fun c => { c with cls := cls.obj }
  pure made

/-- The key and the value that the element with an index of a sequence is (new). -/
def pairOf (i : Nat) (o : Obj) : Exec (Obj × Obj) := do
  let element := s!"dictionary update sequence element #{i}"
  let items ← recover (itemsOf o) (raisedIs .typeError)
    (badCallOf ("cannot convert " ++ element ++ " to a sequence"))
  match items with
  | [k, v] => pure (k, v)
  | items => do
    releaseList items.reverse
    throwNew .valueError s!"{element} has length {items.length}; 2 is required"

/-- Put a value under a key of a dictionary. The references move. -/
def storeItem (dict key value : Obj) : Exec Unit := do
  match ← payloadOf dict with
  | .dict items =>
    match ← Exec.outcome (putItem items.toArray key value) with
    | .ok items => setPayload dict (.dict items.toList)
    | .error r => do
      releaseList [value, key]
      throw r
  | _ => releaseList [value, key]

/-- What an object says that its keys are (new). -/
def keysOf (o : Obj) : Exec (List Obj) := do
  let keys ← getAttr o "keys"
  let names ← holding keys (callObj keys [])
  let s ← typeName o
  let t ← typeName names
  let it ← holding names (recover (iteratorOf names) (raisedIs .typeError) (badCallOf
    (clip 200 s ++ ".keys() returned a non-iterable (type " ++ clip 200 t ++ ")")))
  holding it (itemsOf it)

/-- The value that an object has under a key. -/
def valueAt (o key : Obj) : Exec Obj := do
  match ← callSpecial o "__getitem__" [key] with
  | some v => pure v
  | none => do
    let t ← typeName o
    badCallOf ("'" ++ clip 200 t ++ "' object is not subscriptable")

/-- Put the keys and values of an object into a dictionary. An object that has no keys gives pairs
of them. -/
def fillDict (dict o : Obj) : Exec Unit := do
  match ← attrOrNone? o "keys" with
  | some keys => do
    release keys
    let keys ← keysOf o
    holdingAll keys.reverse (keys.forM fun k => do
      let v ← valueAt o k
      storeItem dict (← newRef k) v)
  | none => do
    let _ ← forEach o 0 fun i x => do
      let (k, v) ← pairOf i x
      storeItem dict k v
      pure (i + 1)

/-- A dictionary of the keys and values of an object. -/
def dictFrom (o : Obj) : Exec Obj := do
  match ← payloadOf o with
  | .dict items => do
    items.forM fun e => do
      incref e.key
      incref e.value
    alloc Builtin.dict.obj (.dict items) []
  | _ => do
    let dict ← newDictOf []
    keeping dict (fillDict dict o)

/-- A range of some bounds. -/
def rangeFrom (args : List Obj) : Exec Obj := do
  checkExpected "range" 1 3 args.length
  let ns ← args.mapM asIndex
  let make (start stop step : Int) : Exec Obj :=
    alloc Builtin.range.obj (.range start stop step) []
  match ns with
  | [b] => make 0 b 1
  | [a, b] => make a b 1
  | [a, b, s] =>
    if s = 0 then throwNew .valueError "range() arg 3 must not be zero" else make a b s
  | _ => pure noneObj

/-- An iterator that numbers the items of an object. -/
def enumerateFrom (args : List Obj) : Exec Obj :=
  match args with
  | [] => badCallOf "enumerate() missing required argument 'iterable'"
  | [o] => make o 0
  | [o, start] => do
    let i ← asIndex start
    make o i
  | args => badCallOf s!"enumerate() takes at most 2 arguments ({args.length} given)"
where
  make (o : Obj) (start : Int) : Exec Obj := do
    let it ← iteratorOf o
    let last ← newTupleOf [noneObj, noneObj]
    alloc Builtin.enumerate.obj (.enumeration it start last) []

/-- Check that an argument of a call is a text that can name an encoding or a handler. -/
def checkName (cls argument : String) (o : Obj) : Exec Unit := do
  if !(← isA o .str) then
    let t ← typeName o
    badCallOf (cls ++ "() argument '" ++ argument ++ "' must be str, not " ++
      clip 50 (if o = noneObj then "None" else t))
  else if '\x00' ∈ (← contentsOf o).toList then
    throwNew .valueError "embedded null character"

/-- Check the arguments of a call that codes: an encoding and perhaps a handler. -/
def checkCoding (cls : String) (encoding : Obj) (handler : Option Obj) : Exec Unit := do
  checkName cls "encoding" encoding
  handler.toList.forM (checkName cls "errors")

/-- A text from arguments. -/
def strFrom (args : List Obj) : Exec Obj :=
  match args with
  | [] => newStr []
  | [o] => convertStr o
  | [o, encoding] => decode o encoding none
  | [o, encoding, handler] => decode o encoding (some handler)
  | args => badCallOf s!"str() takes at most 3 arguments ({args.length} given)"
where
  decode (o encoding : Obj) (handler : Option Obj) : Exec Obj := do
    checkCoding "str" encoding handler
    match ← payloadOf o with
    | .bytes bs => decodeBytes encoding handler o bs
    | .str _ => badCallOf "decoding str is not supported"
    | _ => do
      let t ← typeName o
      badCallOf ("decoding to str: need a bytes-like object, " ++ clip 80 t ++ " found")

/-- Bytes from arguments, for an object of a class of byte strings. -/
def bytesFrom (cls : Builtin) (args : List Obj) : Exec Obj :=
  match args with
  | [] => newBytes []
  | [o] => if cls = .bytes then convertBytes o else copied o
  | [o, encoding] => encode o encoding none
  | [o, encoding, handler] => encode o encoding (some handler)
  | args => badCallOf (cls.name ++ s!"() takes at most 3 arguments ({args.length} given)")
where
  copied (o : Obj) : Exec Obj := do
    match ← payloadOf o with
    | .bytes bs => newBytes bs
    | .str _ => badCallOf "string argument without an encoding"
    | _ => countedBytes cls o
  encode (o encoding : Obj) (handler : Option Obj) : Exec Obj := do
    checkCoding cls.name encoding handler
    match ← payloadOf o with
    | .str s => encodeText encoding handler o s
    | _ => badCallOf "encoding without a string argument"

/-- A byte string that can change, from arguments. -/
def byteArrayFrom (args : List Obj) : Exec Obj := do
  let made ← bytesFrom .bytearray args
  let contents ← holding made (payloadOf made)
  alloc Builtin.bytearray.obj contents []

/-- A view of the bytes of an object. -/
def viewFrom (args : List Obj) : Exec Obj :=
  match args with
  | [] => badCallOf "memoryview() missing required argument 'object' (pos 1)"
  | [o] => do
    match ← payloadOf o with
    | .bytes bs => alloc Builtin.memoryview.obj (.bytes bs) []
    | _ => do
      let t ← typeName o
      badCallOf ("memoryview: a bytes-like object is required, not '" ++ clip 200 t ++ "'")
  | args => badCallOf s!"memoryview() takes at most 1 argument ({args.length} given)"

/-- Check that an object counts as a number, or refuse it in some words. -/
def checkNumber (refusal : String) (o : Obj) : Exec Unit := do
  let members ← ["__float__", "__index__"].mapM (scriptedMember? o)
  if ((← get).number? o).isNone && !members.any Option.isSome then
    let t ← typeName o
    badCallOf (refusal ++ "'" ++ clip 200 t ++ "'")

/-- The complex number that an object says that it is, as an object, or the object itself. -/
def asComplexObject (o : Obj) : Exec Obj := do
  match ← callSpecial o "__complex__" [] with
  | none => newRef o
  | some r =>
    if ← isA r .complex then pure r
    else do
      let t ← typeName r
      release r
      badCallOf ("__complex__ returned non-complex (type " ++ clip 200 t ++ ")")

/-- The complex number that an object is; a float where it is none. -/
def partOf (o : Obj) : Exec (Complex ⊕ Double) := do
  match (← get).number? o with
  | some (.complex re im) => pure (.inl ⟨re, im⟩)
  | some x => .inr <$> x.toDouble
  | none => .inr <$> asFloat o

/-- The complex number that a text spells. -/
def complexFromText (s : Points) : Exec Complex :=
  if (numberText? (asciiNumber s)).isNone then
    throwPoints .valueError (pointsOf "could not convert string to complex: " ++ quotedPoints s)
  else
    match readComplex (asciiNumber s) with
    | some c => pure c
    | none => throwNew .valueError "complex() arg is a malformed string"

/-- A complex number from a real and an imaginary part, which may be complex themselves. -/
def combinedParts : Complex ⊕ Double → Complex ⊕ Double → Complex
  | .inl a, .inl b => ⟨a.re.sub b.im, b.re.add a.im⟩
  | .inl a, .inr y => ⟨a.re, y.add a.im⟩
  | .inr x, .inl b => ⟨x.sub b.im, b.re⟩
  | .inr x, .inr y => ⟨x, y⟩

/-- A complex number from arguments. -/
def complexFrom (args : List Obj) : Exec Obj := do
  let make (c : Complex) : Exec Obj := alloc Builtin.complex.obj (.complex c.re c.im) []
  let first := "complex() first argument must be a string or a number, not "
  let second := "complex() second argument must be a number, not "
  match args with
  | [] => make ⟨Double.zero, Double.zero⟩
  | [o] => do
    match ← payloadOf o with
    | .str s => do make (← complexFromText s)
    | _ =>
      if (← classOf o) = Builtin.complex.obj then newRef o
      else do
        let r ← asComplexObject o
        holding r do
          checkNumber first r
          match ← partOf r with
          | .inl c => make c
          | .inr x => make ⟨x, Double.zero⟩
  | [o, p] => do
    if ← isA o .str then badCallOf "complex() can't take second arg if first is a string"
    if ← isA p .str then badCallOf "complex() second arg can't be a string"
    let r ← asComplexObject o
    holding r do
      checkNumber first r
      checkNumber second p
      let a ← partOf r
      let b ← partOf p
      make (combinedParts a b)
  | args => badCallOf s!"complex() takes at most 2 arguments ({args.length} given)"

/-- An integer from arguments. -/
def intFrom (args : List Obj) : Exec Obj :=
  match args with
  | [] => newInt 0
  | [o] => convertInt o
  | [o, base] => do
    let base ← asIndex base
    if base ≠ 0 ∧ (base < 2 ∨ 36 < base) then
      throwNew .valueError "int() base must be >= 2 and <= 36, or 0"
    match ← payloadOf o with
    | .str s => intFromText base.toNat (asciiNumber s) (quotedPoints s)
    | .bytes bs => intFromBytes base.toNat bs
    | _ => badCallOf "int() can't convert non-string with explicit base"
  | args => badCallOf s!"int() takes at most 2 arguments ({args.length} given)"

/-! ## Classes of code -/

/-- A slice between some bounds. -/
def sliceFrom (args : List Obj) : Exec Obj := do
  checkExpected "slice" 1 3 args.length
  args.forM incref
  let make (start stop step : Obj) : Exec Obj :=
    alloc Builtin.slice.obj (.slice start stop step) []
  match args with
  | [start, stop] => make start stop noneObj
  | [start, stop, step] => make start stop step
  | args => make noneObj (args.headD noneObj) noneObj

/-- What a function says of itself and what stands for it says too. -/
def namesOfFunction : List String :=
  ["__module__", "__name__", "__qualname__", "__doc__", "__annotations__"]

/-- Something that a class will show as it is, or bound to the class. -/
def unboundFrom (cls : Builtin) (args : List Obj) : Exec Obj := do
  checkExpected cls.name 1 1 args.length
  let target := args.headD noneObj
  incref target
  let o ← alloc cls.obj (.unbound target) []
  keeping o (namesOfFunction.forM fun name => do
    match ← attrOrNone? target name with
    | some v => storeAttr o name v
    | none => pure ())

/-- A property of some functions. Its documentation is its own, or else that of its getter. -/
def propertyFrom (args : List Obj) : Exec Obj := do
  if 4 < args.length then
    badCallOf s!"property() takes at most 4 arguments ({args.length} given)"
  let getter := args.headD noneObj
  args.forM incref
  let names := ["fset", "fdel", "__doc__"]
  let o ← alloc Builtin.property.obj (.property getter) []
  editCell o fun c => { c with kept := names.zip args.tail }
  if args[3]?.isSome || getter = noneObj then pure o
  else
    keeping o do
      match ← attrOrNone? getter "__doc__" with
      | some doc => editCell o fun c => { c with kept := c.kept ++ [("__doc__", doc)] }
      | none => pure ()

/-- The class as one of which an object counts when it is seen from above a class: the object
itself, its class, or what it says that its class is. -/
def seenFrom? (cls o : Obj) : Exec (Option Obj) := do
  let w ← get
  let own := (w.cell o).cls
  if w.isClass o && w.isSubclass o cls then pure (some o)
  else if w.isSubclass own cls then pure (some own)
  else
    match ← attrOrNone? o "__class__" with
    | none => pure none
    | some said =>
      holding said do
        let w ← get
        pure (if w.isClass said && said ≠ own && w.isSubclass said cls then some said else none)

/-- The view of an object from above a class. -/
def superFrom (args : List Obj) : Exec Obj := do
  match args with
  | [] => throwNew .runtimeError "super(): no current frame"
  | cls :: rest => do
    checkExpected "super()" 0 2 args.length
    if !(← get).isClass cls then
      let t ← typeName cls
      badCallOf ("super() argument 1 must be a type, not " ++ clip 200 t)
    let make (seen : Option (Obj × Obj)) : Exec Obj := do
      incref cls
      alloc Builtin.super.obj (.above cls seen) []
    match rest.head?.filter (· ≠ noneObj) with
    | none => make none
    | some o =>
      match ← seenFrom? cls o with
      | some c => do
        incref o
        incref c
        make (some (o, c))
      | none => badCallOf "super(type, obj): obj must be an instance or subtype of type"

/-- A new class with a name, a base or none, and members. -/
def classFrom (name bases members : Obj) : Exec Obj := do
  match ← payloadOf name, ← payloadOf bases, ← payloadOf members with
  | .str s, .tuple slots, .dict items => do
    let base := (slotItems slots).headD Builtin.object.obj
    let w ← get
    if !w.isClass base then
      badCallOf ("metaclass conflict: the metaclass of a derived class must be a (non-strict) " ++
        "subclass of the metaclasses of all its bases")
    let named := items.filterMap fun e => (w.textOf? e.key).map fun key => (key, e.value)
    named.forM fun e => incref e.2
    newClass (hostText s) "builtins" base named none
  | .str _, .tuple _, _ => refuse 3 "dict" members
  | .str _, _, _ => refuse 2 "tuple" bases
  | _, _, _ => refuse 1 "str" name
where
  /-- The error for an argument that is of no use. -/
  refuse (n : Nat) (kind : String) (o : Obj) : Exec Obj := do
    let t ← if o = noneObj then pure "None" else typeName o
    badCallOf (s!"type.__new__() argument {n} must be " ++ kind ++ ", not " ++ clip 50 t)

/-- Call a class that has at most one argument. -/
def withOptional (name : String) (args : List Obj) (x : Option Obj → Exec Obj) : Exec Obj := do
  checkExpected name 0 1 args.length
  x args.head?

/-- Call a built-in class. -/
def callBuiltinClass (c : Builtin) (args : List Obj) : Exec Obj := do
  if c.isException then makeError c.obj args
  else
    match c with
    | .list => withOptional "list" args fun
      | none => newListOf []
      | some o => do newListOf (← itemsOf o)
    | .tuple => withOptional "tuple" args fun
      | none => newTupleOf []
      | some o => do
        if (← classOf o) = Builtin.tuple.obj then newRef o else newTupleOf (← itemsOf o)
    | .set => withOptional "set" args (setFrom .set)
    | .frozenset => withOptional "frozenset" args (setFrom .frozenset)
    | .bytes => bytesFrom .bytes args
    | .bool => withOptional "bool" args fun
      | none => pure falseObj
      | some o => do pure (boolObj (← truth o))
    | .int => intFrom args
    | .float => withOptional "float" args fun
      | none => newFloat Double.zero
      | some o => convertFloat o
    | .str => strFrom args
    | .dict => withOptional "dict" args fun
      | none => newDictOf []
      | some o => dictFrom o
    | .range => rangeFrom args
    | .enumerate => enumerateFrom args
    | .reversed => do
      checkExpected "reversed" 1 1 args.length
      reversedOf (args.headD noneObj)
    | .typeClass =>
      match args with
      | [o] => do newRef (← classOf o)
      | [name, bases, members] => classFrom name bases members
      | _ => badCallOf "type() takes 1 or 3 arguments"
    | .object =>
      if args.isEmpty then alloc Builtin.object.obj .plain []
      else badCallOf "object() takes no arguments"
    | .noneType => if args.isEmpty then pure noneObj else badCallOf "NoneType takes no arguments"
    | .map =>
      match args with
      | function :: first :: others => newMap function (first :: others)
      | _ => badCallOf "map() must have at least two arguments."
    | .filter => do
      checkExpected "filter" 2 2 args.length
      newFilter (args.headD noneObj) ((args[1]?).getD noneObj)
    | .zip => newZip args
    | .property => propertyFrom args
    | .complex => complexFrom args
    | .bytearray => byteArrayFrom args
    | .memoryview => viewFrom args
    | .super => superFrom args
    | .slice => sliceFrom args
    | .classmethod | .staticmethod => unboundFrom c args
    | .zipImporter => refuseArchive (args.headD noneObj)
    | c => badCallOf ("cannot create '" ++ clip 100 c.shownName ++ "' instances")

end Embedder.Machine
