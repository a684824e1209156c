import Embedder.Machine.Table

/-!
# Comparison

Two objects are compared by asking one of them: the right one first if its class stands below that
of the left one, else the left one first. One that has nothing to say leaves it to the other. If
neither answers, the same object is equal to itself, different objects differ, and there is no
order.

Numbers compare exactly whatever their kinds, sequences by their first difference, sets by
containment.
-/

namespace Embedder.Machine

/-! ## Numbers -/

/-- A number as it compares to others. -/
inductive Numeric where
  | int (i : Int)
  | float (d : Double)

/-- The real number that an object is. -/
def World.numeric? (w : World) (o : Obj) : Option Numeric :=
  match (w.cell o).payload with
  | .int i => some (.int i)
  | .bool b => some (.int (if b then 1 else 0))
  | .float d => some (.float d)
  | _ => none

namespace Numeric

/-- Equality, exact between an integer and a float. -/
def equal : Numeric → Numeric → Bool
  | .int i, .int j => i = j
  | .float a, .float b => a.numEq b
  | .int i, .float d => !d.isNaN && !Double.intLt i d && !Double.ltInt d i
  | .float d, .int i => !d.isNaN && !Double.intLt i d && !Double.ltInt d i

/-- Order, exact between an integer and a float. -/
def less : Numeric → Numeric → Bool
  | .int i, .int j => i < j
  | .float a, .float b => a.lt b
  | .int i, .float d => Double.intLt i d
  | .float d, .int i => Double.ltInt d i

/-- What a comparison says of two numbers. -/
def compare (op : Comparison) (x y : Numeric) : Bool :=
  match op with
  | .lt => x.less y
  | .le => x.less y || x.equal y
  | .eq => x.equal y
  | .ne => !x.equal y
  | .gt => y.less x
  | .ge => y.less x || x.equal y

end Numeric

/-- A complex number; a real one has no imaginary part. -/
def World.complexEqual (w : World) (re im : Double) (o : Obj) : Option Bool :=
  match (w.cell o).payload with
  | .complex re' im' => some (re.numEq re' && im.numEq im')
  | _ => (w.numeric? o).map fun y => im.numEq Double.zero && (Numeric.float re).equal y

/-! ## Objects inside others -/

/-- Compare two objects inside others. -/
def innerCompare (op : Comparison) (a b : Obj) : Exec Obj := fun e => e.compare op a b

/-- Whether an answer counts as true; it is given up. -/
def truthOf (r : Obj) : Exec Bool := holding r (truth r)

/-- Whether two objects are the same or equal. -/
def sameOrEqual (a b : Obj) : Exec Bool := do
  if a = b then pure true
  else do
    let r ← innerCompare .eq a b
    truthOf r

/-- The opposite of an answer, which is given up. -/
def negated (r : Obj) : Exec Obj := do
  let b ← truthOf r
  pure (boolObj (!b))

/-! ## Sequences -/

/-- The first place where two sequences differ, with what they have there; none where one of them
ends. -/
def firstDifference : List (Option Obj) → List (Option Obj) → Exec (Option (Obj × Obj))
  | some a :: as, some b :: bs => do
    if ← sameOrEqual a b then firstDifference as bs else pure (some (a, b))
  | _, _ => pure none

/-- Compare two sequences by their first difference, or else by their lengths. -/
def compareSlots (op : Comparison) (s t : Array (Option Obj)) : Exec Obj := do
  match ← firstDifference s.toList t.toList with
  | none => pure (boolObj (op.holds (compare s.size t.size)))
  | some (a, b) =>
    match op with
    | .eq => pure falseObj
    | .ne => pure trueObj
    | op => innerCompare op a b

/-! ## Sets, dictionaries and ranges -/

/-- Whether all of some objects are in a set. -/
def allIn (t : Table) : List Entry → Exec Bool
  | [] => pure true
  | e :: rest => do
    if ← t.holds sameOrEqual e.key e.hash then allIn t rest else pure false

/-- Whether a set is a part of another. -/
def isPart (s t : Table) : Exec Bool :=
  if t.used < s.used then pure false else allIn t s.entries

/-- Compare two sets. -/
def compareSets (op : Comparison) (s t : Table) : Exec Bool :=
  match op with
  | .eq => if s.used ≠ t.used then pure false else isPart s t
  | .ne => if s.used ≠ t.used then pure true else do pure (!(← isPart s t))
  | .le => isPart s t
  | .ge => isPart t s
  | .lt => if t.used ≤ s.used then pure false else isPart s t
  | .gt => if s.used ≤ t.used then pure false else isPart t s

/-- The item of a key with a hash. -/
def itemOf? (key : Obj) (hash : Int) : List Item → Exec (Option Item)
  | [] => pure none
  | e :: rest => do
    if e.hash = hash then
      if ← sameOrEqual e.key key then pure (some e) else itemOf? key hash rest
    else itemOf? key hash rest

/-- Whether each item is among others with an equal value. -/
def allItemsIn (others : List Item) : List Item → Exec Bool
  | [] => pure true
  | e :: rest => do
    match ← itemOf? e.key e.hash others with
    | none => pure false
    | some e' =>
      if ← sameOrEqual e.value e'.value then allItemsIn others rest else pure false

/-- Whether two ranges give the same numbers. -/
def sameRange (a s : Int) (n : Nat) (b t : Int) (m : Nat) : Bool :=
  n = m && (n = 0 || (a = b && (n = 1 || s = t)))

/-- The answer to a question of equality or its opposite. -/
def equality (op : Comparison) (x : Exec Bool) : Exec (Option Obj) :=
  match op with
  | .eq => do pure (some (boolObj (← x)))
  | .ne => do pure (some (boolObj (!(← x))))
  | _ => pure none

/-! ## Asking one of two objects -/

/-- What an object says by birth when it is compared with another; nothing if it does not know. -/
def compareByBirth (op : Comparison) (a b : Obj) : Exec (Option Obj) := do
  let w ← get
  match w.numeric? a, w.numeric? b with
  | some x, some y => pure (some (boolObj (Numeric.compare op x y)))
  | _, _ =>
    match (w.cell a).payload, (w.cell b).payload with
    | .complex re im, _ =>
      match w.complexEqual re im b with
      | some e => equality op (pure e)
      | none => pure none
    | .str s, .str t => pure (some (boolObj (op.holds (compare s t))))
    | .bytes s, .bytes t =>
      pure (some (boolObj (op.holds (compare (s.map UInt8.toNat) (t.map UInt8.toNat)))))
    | .list s, .list t =>
      if s.size ≠ t.size ∧ op = .eq then pure (some falseObj)
      else if s.size ≠ t.size ∧ op = .ne then pure (some trueObj)
      else some <$> compareSlots op s t
    | .tuple s, .tuple t => some <$> compareSlots op s t
    | .set s, .set t => do pure (some (boolObj (← compareSets op s t)))
    | .dict s, .dict t =>
      equality op (if s.length ≠ t.length then pure false else allItemsIn t s)
    | .range i j s, .range i' j' s' =>
      equality op (pure (sameRange i s (rangeLength i j s) i' s' (rangeLength i' j' s')))
    | .slice i j s, .slice k l t =>
      some <$> compareSlots op #[some i, some j, some s] #[some k, some l, some t]
    | .method f s, .method g t => equality op (pure (f = g && s = t))
    | .bound k n s, .bound k' n' s' => equality op (pure (k = k' && n = n' && s = s'))
    | _, _ => pure none

/-- What an object says when it is compared with another: by a script, as the opposite of what a
script says of equality, or by birth. -/
def ask (op : Comparison) (a b : Obj) : Exec (Option Obj) := do
  let answer (r : Obj) : Option Obj := if r = notImplementedObj then none else some r
  match ← callQuietly a op.method [b] with
  | some r => pure (answer r)
  | none =>
    if op = .ne then
      match ← callQuietly a "__eq__" [b] with
      | some r =>
        match answer r with
        | some r => some <$> negated r
        | none => pure none
      | none => compareByBirth op a b
    else compareByBirth op a b

/-- Ask the first that answers. -/
def firstAnswer : List (Exec (Option Obj)) → Exec (Option Obj)
  | [] => pure none
  | x :: rest => do
    match ← x with
    | some r => pure (some r)
    | none => firstAnswer rest

/-- Compare two objects. -/
def compareObjs (op : Comparison) (a b : Obj) : Exec Obj := do
  let w ← get
  let (c, d) := ((w.cell a).cls, (w.cell b).cls)
  let questions :=
    if c ≠ d ∧ w.isSubclass d c then [ask op.swapped b a, ask op a b]
    else [ask op a b, ask op.swapped b a]
  match ← firstAnswer questions with
  | some r => pure r
  | none =>
    match op with
    | .eq => pure (boolObj (a = b))
    | .ne => pure (boolObj (a ≠ b))
    | op => do
      let s ← typeName a
      let t ← typeName b
      throwNew .typeError ("'" ++ op.symbol ++ "' not supported between instances of '" ++
        clip 100 s ++ "' and '" ++ clip 100 t ++ "'")

end Embedder.Machine
