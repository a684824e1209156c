import Embedder.Machine.Namespace

/-!
# Iteration

How an object is walked: `iteratorOf` gives an iterator over it, `nextOf?` the next item of an
iterator, or nothing at its end. Generators run code, so their next item comes through the engine.
-/

namespace Embedder.Machine

/-! ## Iterators -/

/-- Whether instances of a built-in class are iterators. -/
def Builtin.isIterator : Builtin → Bool
  | .listIterator | .listReverseIterator | .tupleIterator | .asciiIterator | .strIterator
  | .bytesIterator | .dictKeyIterator | .dictReverseKeyIterator | .setIterator | .rangeIterator
  | .longRangeIterator | .itemIterator | .callIterator | .enumerate | .reversed | .generator
  | .zip | .map | .filter => true
  | _ => false

/-- Whether an object is an iterator. -/
def isIterator (o : Obj) : Exec Bool := do
  if (← scriptedMember? o "__next__").isSome then pure true
  else do
    let c ← builtinOf o
    pure c.isIterator

/-- A new iterator at the front of a container. -/
def newCursor (c : Builtin) (source : Obj) : Exec Obj := do
  incref source
  alloc c.obj (.cursor (some source) 0) []

/-- A new iterator over the characters of a text or the bytes of a byte string. -/
def newLetters (c : Builtin) (source : Obj) (letters : List Nat) : Exec Obj := do
  incref source
  alloc c.obj (.letters (some source) letters) []

/-- A new iterator over a container of a length from its end. -/
def newCountdown (c : Builtin) (source : Obj) (length : Nat) : Exec Obj := do
  incref source
  alloc c.obj (.countdown (some source) length) []

/-- A new iterator over the numbers of a range. One of words, or one beyond them, is told apart. -/
def newProgression (start step : Int) (length : Nat) (short : Bool) : Exec Obj :=
  let cls : Builtin := if short then .rangeIterator else .longRangeIterator
  alloc cls.obj (.progression start step length) []

/-- Whether a range and its length are described by machine words. -/
def isShortRange (start stop step : Int) : Bool :=
  isWord start && isWord stop && isWord step && isWord (rangeLength start stop step)

/-- An iterator over an object that has one by birth. -/
def iteratorByBirth? (o : Obj) : Exec (Option Obj) := do
  let o ← folderList o
  let c ← builtinOf o
  match ← payloadOf o with
  | .list _ => some <$> newCursor .listIterator o
  | .tuple _ => some <$> newCursor .tupleIterator o
  | .str s =>
    let ascii := (← classOf o) = Builtin.str.obj && s.all (· < 128)
    some <$> newLetters (if ascii then .asciiIterator else .strIterator) o s
  | .bytes bs => some <$> newLetters .bytesIterator o (bs.map UInt8.toNat)
  | .dict _ => some <$> newCursor .dictKeyIterator o
  | .set _ => some <$> newCursor .setIterator o
  | .range start stop step =>
    some <$> newProgression start step (rangeLength start stop step) (isShortRange start stop step)
  | _ => if c.isIterator then some <$> newRef o else pure none

/-- An iterator over an object by the way that a script gave to its class: its own, or else, where
that is not to be had, by index. -/
def scriptedIterator? (o : Obj) : Exec (Option Obj) := do
  match ← quietSpecial? o "__iter__" with
  | some s =>
    if s.callee = noneObj then pure none
    else do
      let r ← s.run []
      if ← isIterator r then pure (some r)
      else do
        let t ← typeName r
        release r
        throwNew .typeError ("iter() returned non-iterator of type '" ++ clip 100 t ++ "'")
  | none =>
    match ← quietSpecial? o "__getitem__" with
    | some s => do
      release s.callee
      some <$> newCursor .itemIterator o
    | none => pure none

/-- An iterator over an object that is walked in some way. -/
def iteratorOf? (o : Obj) : Exec (Option Obj) := do
  if (← scriptedMember? o "__iter__").isSome then scriptedIterator? o
  else
    match ← iteratorByBirth? o with
    | some i => pure (some i)
    | none =>
      if (← scriptedMember? o "__getitem__").isSome then some <$> newCursor .itemIterator o
      else pure none

/-- An iterator over an object. -/
def iteratorOf (o : Obj) : Exec Obj := do
  match ← iteratorOf? o with
  | some it => pure it
  | none => do
    let t ← typeName o
    throwNew .typeError ("'" ++ clip 200 t ++ "' object is not iterable")

/-- An iterator over a sequence from its end. -/
def reversedOf (o : Obj) : Exec Obj := do
  let refuse : Exec Obj := do
    let t ← typeName o
    throwNew .typeError ("'" ++ clip 200 t ++ "' object is not reversible")
  match ← findSpecial? o "__reversed__" with
  | some s => if s.callee = noneObj then refuse else s.run []
  | none =>
    let byIndex := (← scriptedMember? o "__getitem__").isSome
    match ← payloadOf o with
    | .list slots => newCountdown .listReverseIterator o slots.size
    | .dict items => newCountdown .dictReverseKeyIterator o items.length
    | .range start stop step =>
      let n := rangeLength start stop step
      let last := start + step * ((n : Int) - 1)
      newProgression last (-step) n
        (isShortRange start stop step && isWord (start - step) && isWord (-step))
    | .tuple _ => newCountdown .reversed o (← lengthOf o)
    | .str s =>
      if byIndex then newCountdown .reversed o (← lengthOf o)
      else newLetters .reversed o s.reverse
    | .bytes bs =>
      if byIndex then newCountdown .reversed o (← lengthOf o)
      else newLetters .reversed o (bs.reverse.map UInt8.toNat)
    | _ => if byIndex then newCountdown .reversed o (← lengthOf o) else refuse

/-! ## The next item -/

/-- The item of a built-in container at a place, as a new reference. -/
def itemAt (source : Obj) (i : Nat) : Exec (Option Obj) := do
  let slot (o : Option Obj) : Exec (Option Obj) :=
    match o with
    | some o => some <$> newRef o
    | none => pure none
  match ← payloadOf source with
  | .list slots => slot (slots[i]?).join
  | .tuple slots => slot (slots[i]?).join
  | .str s =>
    match s[i]? with
    | some c => some <$> newStr [c]
    | none => pure none
  | .bytes bs =>
    match bs[i]? with
    | some b => some <$> newInt b.toNat
    | none => pure none
  | .dict items => slot ((items[i]?).map (·.key))
  | .range start stop step =>
    if i < rangeLength start stop step then some <$> newInt (start + step * i) else pure none
  | _ => pure none

/-- Whether an error says that a sequence has no item at an index. -/
def endsSequence (r : Raised) : Exec Bool := do
  let a ← raisedIs .indexError r
  let b ← raisedIs .stopIteration r
  pure (a || b)

/-- The item that an object gives for an index; an index error says that there is none. -/
def itemByIndex (source : Obj) (i : Nat) : Exec (Option Obj) := do
  if (← scriptedMember? source "__getitem__").isSome then do
    let index ← newInt i
    recover (holding index (callSpecial source "__getitem__" [index])) endsSequence (pure none)
  else itemAt source i

/-- Let the container of an iterator go. -/
def exhaust (it source : Obj) : Exec Unit := do
  match ← payloadOf it with
  | .countdown .. => setPayload it (.countdown none 0)
  | .letters .. => setPayload it (.letters none [])
  | _ => setPayload it (.cursor none 0)
  release source

/-- What a container has at an index or after it, for an iterator of a class, and the index after
that. Only an iterator that asks for each index asks a script. -/
def itemFrom (c : Builtin) (source : Obj) (i : Nat) : Exec (Option (Obj × Nat)) := do
  let next (o : Obj) : Obj × Nat := (o, i + 1)
  if c = .itemIterator then pure ((← itemByIndex source i).map next)
  else
    match ← payloadOf source with
    | .set table =>
      match table.next? i with
      | some (o, j) => do
        incref o
        pure (some (o, j))
      | none => pure none
    | _ => pure ((← itemAt source i).map next)

/-- The next item of an iterator at an index of a container. -/
def stepCursor (it source : Obj) (i : Nat) : Exec (Option Obj) := do
  match ← itemFrom (← builtinOf it) source i with
  | some (o, j) => do
    setPayload it (.cursor (some source) j)
    pure (some o)
  | none => do
    exhaust it source
    pure none

/-- The next item of an iterator over a text or a byte string. -/
def stepLetters (it source : Obj) : List Nat → Exec (Option Obj)
  | [] => do
    exhaust it source
    pure none
  | n :: rest => do
    setPayload it (.letters (some source) rest)
    match ← payloadOf source with
    | .bytes _ => some <$> newInt n
    | _ => some <$> newStr [n]

/-- The next item of an iterator that comes from the end of a container. -/
def stepCountdown (it source : Obj) : Nat → Exec (Option Obj)
  | 0 => do
    exhaust it source
    pure none
  | left + 1 => do
    match ← Exec.outcome (itemByIndex source left) with
    | .ok (some o) => do
      setPayload it (.countdown (some source) left)
      pure (some o)
    | .ok none => do
      exhaust it source
      pure none
    | .error r => do
      exhaust it source
      throw r

/-- A tuple whose slots are to be filled: one that was given before, if nobody else holds it any
more, or else a new one. -/
def tupleToFill (last : Obj) (size : Nat) : Exec Obj := do
  if (← cellOf last).refs = 1 then newRef last else newTupleOf (List.replicate size noneObj)

/-- Put an object into a slot of a tuple, which takes it over and lets what was there go. -/
def fillSlot (tuple : Obj) (i : Nat) (o : Obj) : Exec Unit := do
  let old ← slotAt tuple i
  editCell tuple fun c => { c with payload := c.payload.withSlot i o }
  releaseList old.toList

/-- The next item of an iterator, through the engine. -/
def innerNext (it : Obj) : Exec (Option Obj) := fun e => e.advance it

/-- The next item of an iterator. -/
def nextOf? (it : Obj) : Exec (Option Obj) := do
  match ← callSpecial it "__next__" [] with
  | some o => pure (some o)
  | none =>
    match ← payloadOf it with
    | .cursor none _ | .countdown none _ | .letters none _ => pure none
    | .letters (some source) rest => stepLetters it source rest
    | .cursor (some source) i => stepCursor it source i
    | .countdown (some source) left => stepCountdown it source left
    | .enumeration source next last =>
      match ← innerNext source with
      | none => pure none
      | some o => do
        let n ← newInt next
        setPayload it (.enumeration source (next + 1) last)
        let pair ← tupleToFill last 2
        fillSlot pair 0 n
        fillSlot pair 1 o
        pure (some pair)
    | .progression next step left =>
      match left with
      | 0 => pure none
      | left + 1 => do
        setPayload it (.progression (next + step) step left)
        some <$> newInt next
    | .generator .. | .zipped .. | .mapped .. | .filtered .. | .calls _ => innerNext it
    | _ => do
      let t ← typeName it
      throwNew .typeError ("'" ++ clip 200 t ++ "' object is not an iterator")

/-- The next item of an iterator for code that only wants to know whether there is one. -/
def nextOrEnd (it : Obj) : Exec (Option Obj) :=
  recover (nextOf? it) (raisedIs .stopIteration) (pure none)

/-! ## Walks -/

/-- The number of items that a walk may have. -/
def walkFuel : Nat := 2 ^ 40

/-- Do something with each item of an iterator; the items are borrowed. -/
def forEachFrom {α : Type} (it : Obj) (f : α → Obj → Exec α) : Nat → α → Exec α
  | 0, a => pure a
  | fuel + 1, a => do
    match ← nextOrEnd it with
    | none => pure a
    | some o => do
      let a ← holding o (f a o)
      forEachFrom it f fuel a

/-- Do something with each item of an object. -/
def forEach {α : Type} (o : Obj) (a : α) (f : α → Obj → Exec α) : Exec α := do
  let it ← iteratorOf o
  holding it (forEachFrom it f walkFuel a)

/-- The number of items for which there is memory. -/
def memoryLimit : Int := 2 ^ 34

/-- Make room for some items. -/
def reserve (n : Int) : Exec Unit :=
  if memoryLimit < n then throwWith .memoryError [] else pure ()

/-- Collect what an iterator still has, as new references; if that raises, they are given up. -/
def collectFrom (it : Obj) : (fuel : Nat) → Array Obj → Exec (Array Obj)
  | 0, acc => pure acc
  | fuel + 1, acc => do
    match ← Exec.outcome (nextOrEnd it) with
    | .ok none => pure acc
    | .ok (some o) => collectFrom it fuel (acc.push o)
    | .error r => do
      releaseList acc.toList.reverse
      throw r

/-- The items of an object, as new references, the first first. A plain list or tuple is copied;
other objects are walked, after they were asked how many items they have. -/
def itemsOf (o : Obj) : Exec (List Obj) := do
  let c ← cellOf o
  let copied : Option (List Obj) :=
    match c.payload with
    | .list slots => if c.cls = Builtin.list.obj then some (slotItems slots) else none
    | .tuple slots => if c.cls = Builtin.tuple.obj then some (slotItems slots) else none
    | _ => none
  match copied with
  | some items => do
    items.forM incref
    pure items
  | none => do
    let it ← iteratorOf o
    holding it do
      reserve ((← lengthHint? o).getD 8)
      let items ← collectFrom it walkFuel #[]
      pure items.toList

end Embedder.Machine
