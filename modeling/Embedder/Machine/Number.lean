import Embedder.Machine.Release

/-!
# Special methods, numbers and lengths

Classes made by scripts take part in the interpreter's protocols by their special methods. Here are
the protocols that end in a number: an object as an index, as a float, and its length.
-/

namespace Embedder.Machine

/-- The special method that a script gave to an object's class, if there is one. -/
def findSpecial? (o : Obj) (name : String) : Exec (Option Special) := do
  match ← scriptedMember? o name with
  | none => pure none
  | some m => some <$> specialFrom o m

/-- The same where a special method that is not to be had counts as none. -/
def quietSpecial? (o : Obj) (name : String) : Exec (Option Special) :=
  recover (findSpecial? o name) (fun _ => pure true) (pure none)

/-- Call a special method, which is given up. -/
def Special.run (s : Special) (args : List Obj) : Exec Obj :=
  holding s.callee (callObj s.callee (s.front ++ args))

/-- Call a special method that a script gave to an object's class, if there is one. -/
def callSpecial (o : Obj) (name : String) (args : List Obj) : Exec (Option Obj) := do
  match ← findSpecial? o name with
  | none => pure none
  | some s => some <$> s.run args

/-- The same where a special method that is not to be had counts as none. -/
def callQuietly (o : Obj) (name : String) (args : List Obj) : Exec (Option Obj) := do
  match ← quietSpecial? o name with
  | none => pure none
  | some s => some <$> s.run args

/-- The integer that an object is. -/
def World.intValue? (w : World) (o : Obj) : Option Int :=
  match (w.cell o).payload with
  | .int i => some i
  | .bool b => some (if b then 1 else 0)
  | _ => none

def intValue? (o : Obj) : Exec (Option Int) := do pure ((← get).intValue? o)

/-- An object as an index. -/
def asIndex (o : Obj) : Exec Int := do
  match ← intValue? o with
  | some i => pure i
  | none =>
    match ← callSpecial o "__index__" [] with
    | none => do
      let t ← typeName o
      throwNew .typeError ("'" ++ clip 200 t ++ "' object cannot be interpreted as an integer")
    | some r =>
      holding r do
        match ← intValue? r with
        | some i => pure i
        | none => do
          let t ← typeName r
          throwNew .typeError ("__index__ returned non-int (type " ++ clip 200 t ++ ")")

/-- Whether an integer is a machine word. -/
def isWord (i : Int) : Bool := -(2 ^ 63) ≤ i && i < 2 ^ 63

/-- The error for an integer that is no machine word. -/
def tooLargeForSize {α : Type} : Exec α :=
  throwNew .overflowError "Python int too large to convert to C ssize_t"

/-- An object as an index that is a machine word; others raise an error of a class. -/
def asSize (o : Obj) (overflow : Builtin) : Exec Int := do
  let i ← asIndex o
  if isWord i then pure i
  else do
    let t ← typeName o
    throwNew overflow ("cannot fit '" ++ clip 200 t ++ "' into an index-sized integer")

/-- An object as a 64-bit integer. -/
def asInt64 (o : Obj) : Exec Int64 := do
  let i ← asIndex o
  if isWord i then pure (Int64.ofInt i)
  else throwNew .overflowError "int too big to convert"

/-- An integer as a float. -/
def floatOfInt (i : Int) : Exec Double :=
  match Double.ofInt? i with
  | some d => pure d
  | none => throwNew .overflowError "int too large to convert to float"

/-- The float that an object is. -/
def World.floatValue? (w : World) (o : Obj) : Option Double :=
  match (w.cell o).payload with
  | .float d => some d
  | _ => none

/-- An object as a float: by itself, by its own conversion, or as an index. -/
def asFloat (o : Obj) : Exec Double := do
  match (← get).floatValue? o with
  | some d => pure d
  | none =>
    match ← callSpecial o "__float__" [] with
    | some r =>
      holding r do
        match (← get).floatValue? r with
        | some d => pure d
        | none => do
          let t ← typeName o
          let t' ← typeName r
          throwNew .typeError
            (clip 50 t ++ ".__float__ returned non-float (type " ++ clip 50 t' ++ ")")
    | none => do
      let convertible := (← intValue? o).isSome || (← scriptedMember? o "__index__").isSome
      if convertible then do
        let i ← asIndex o
        floatOfInt i
      else do
        let t ← typeName o
        throwNew .typeError ("must be real number, not " ++ clip 50 t)

/-- The number of steps in a range. -/
def rangeLength (start stop step : Int) : Nat :=
  if 0 < step then ((stop - start + step - 1).fdiv step).toNat
  else if step < 0 then ((start - stop - step - 1).fdiv (-step)).toNat
  else 0

/-- The length of a built-in container. -/
def Payload.length? : Payload → Option Nat
  | .str s => some s.length
  | .bytes bs => some bs.length
  | .list slots => some slots.size
  | .tuple slots => some slots.size
  | .set table => some table.used
  | .dict items => some items.length
  | .range start stop step => some (rangeLength start stop step)
  | _ => none

/-- A number as the length of something. -/
def checkedLength (r : Obj) : Exec Nat := do
  let n ← asIndex r
  if n < 0 then throwNew .valueError "__len__() should return >= 0"
  else if 2 ^ 63 ≤ n then
    throwNew .overflowError "cannot fit 'int' into an index-sized integer"
  else pure n.toNat

/-- The list that the places of folders are, or the object itself. -/
def folderList (o : Obj) : Exec Obj := do
  let w ← get
  if (w.cell o).cls = Builtin.namespacePath.obj then pure ((w.attr? o "_path").getD o)
  else pure o

/-- The length of an object that says it by a script or has one by birth. -/
def lengthOf? (o : Obj) : Exec (Option Nat) := do
  match ← callSpecial o "__len__" [] with
  | some r => some <$> holding r (checkedLength r)
  | none =>
    match (← payloadOf (← folderList o)).length? with
    | some n => if n < 2 ^ 63 then pure (some n) else tooLargeForSize
    | none => pure none

/-- The length of an object. -/
def lengthOf (o : Obj) : Exec Nat := do
  match ← lengthOf? o with
  | some n => pure n
  | none => do
    let t ← typeName o
    throwNew .typeError ("object of type '" ++ clip 200 t ++ "' has no len()")

/-- Whether an object has a length. -/
def hasLength (o : Obj) : Exec Bool := do
  if (← scriptedMember? o "__len__").isSome then pure true
  else pure (← payloadOf o).length?.isSome

/-- How many items a built-in iterator has still to give, where that takes asking. -/
def remainingItems? (it : Obj) : Exec (Option Int) := do
  let c ← builtinOf it
  match ← payloadOf it with
  | .progression _ _ left => if left < 2 ^ 63 then pure (some left) else tooLargeForSize
  | .countdown (some source) left =>
    if c = .reversed then do
      let n ← lengthOf source
      pure (some (if n < left then 0 else left))
    else pure none
  | .letters (some _) rest => pure (if c = .reversed then some rest.length else none)
  | .cursor (some source) i =>
    if c = .itemIterator ∧ (← hasLength source) then do
      let n ← lengthOf source
      pure (some (n - i : Nat))
    else pure none
  | _ => pure none

/-- The number in an answer to the question how many items there are. -/
def hintOf (r : Obj) : Exec (Option Int) := do
  if r = notImplementedObj then pure none
  else
    match ← intValue? r with
    | none => do
      let t ← typeName r
      throwNew .typeError ("__length_hint__ must be an integer, not " ++ clip 100 t)
    | some i =>
      if !isWord i then tooLargeForSize
      else if i < 0 then throwNew .valueError "__length_hint__() should return >= 0"
      else pure (some i)

/-- How many items an object says that a walk over it has; nothing where it does not say, or where
it refuses by a type error. -/
def lengthHint? (o : Obj) : Exec (Option Int) := do
  let mistyped (r : Raised) : Exec Bool := raisedIs .typeError r
  match ← recover (lengthOf? o) mistyped (pure none) with
  | some n => pure (some n)
  | none =>
    match ← findSpecial? o "__length_hint__" with
    | some s =>
      match ← recover (some <$> s.run []) mistyped (pure none) with
      | some r => holding r (hintOf r)
      | none => pure none
    | none => recover (remainingItems? o) mistyped (pure none)

/-- Whether a container is empty or a number zero; other objects count as true. -/
def truth (o : Obj) : Exec Bool := do
  match ← callSpecial o "__bool__" [] with
  | some r =>
    holding r do
      match ← payloadOf r with
      | .bool b => pure b
      | _ => do
        let t ← typeName r
        throwNew .typeError ("__bool__ should return bool, returned " ++ t)
  | none =>
    match ← payloadOf o with
    | .bool b => pure b
    | .int i => pure (i ≠ 0)
    | .float d => pure (!Double.numEq d Double.zero)
    | .complex re im => pure (!(Double.numEq re Double.zero && Double.numEq im Double.zero))
    | p =>
      if o = noneObj then pure false
      else if (← scriptedMember? o "__len__").isSome then do
        let n ← lengthOf o
        pure (n ≠ 0)
      else pure (p.length? ≠ some 0)

end Embedder.Machine
