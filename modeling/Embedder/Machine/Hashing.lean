import Embedder.Machine.Compare

/-!
# Hashes, sets and dictionaries

Equal numbers have equal hashes, whatever their class, and the hash of a number fixes its place in a
set; so sets of numbers have an order that can be told. A class can hash its objects by a script;
one that only says when they are equal has objects without a hash. Other objects are hashed by what
they are.
-/

namespace Embedder.Machine

/-! ## Hashes of values -/

/-- The modulus of numeric hashes, a Mersenne prime. -/
def hashModulus : Nat := 2 ^ 61 - 1

/-- A hash that is not minus one, which is reserved. -/
def proper (h : Int) : Int := if h = -1 then -2 else h

/-- A machine word as a signed hash. -/
def hashOfWord (n : Nat) : Int := proper (Int.bmod n (2 ^ 64))

/-- A hash with its sign. -/
def signedHash (negative : Bool) (n : Nat) : Int := proper (if negative then -(n : Int) else n)

/-- The hash of an integer. -/
def hashInt (i : Int) : Int := signedHash (i < 0) (i.natAbs % hashModulus)

/-- The hash of a float that is a number: that of the fraction it is. -/
def hashDouble (d : Double) : Int :=
  if d.isInfinite then (if d.isNegative then -314159 else 314159)
  else
    let power := (d.exponent % 61).toNat
    signedHash d.isNegative (d.significand * 2 ^ power % hashModulus)

/-- The hash of something by its identity. -/
def hashIdentity (o : Obj) : Int := (o.id : Int) * 16

/-- The hash of a float inside an object. -/
def hashFloat (o : Obj) (d : Double) : Int := if d.isNaN then hashIdentity o else hashDouble d

/-- The hash of a text or of bytes by their numbers. -/
def hashNumbers (ns : List Nat) : Int :=
  if ns.isEmpty then 0
  else signedHash false (ns.foldl (fun h c => (h * 1000003 + c + 1) % hashModulus) ns.length)

/-- The 64 bits of a number turned left by 31. -/
def turned (n : Nat) : Nat := (n * 2 ^ 31 + n / 2 ^ 33) % 2 ^ 64

/-- A hash of some hashes in their order. -/
def hashSequence (hs : List Int) : Int :=
  let mixed := hs.foldl
    (fun acc h => turned ((acc + hashWord h * 14029467366897019727) % 2 ^ 64) *
      11400714785074694791 % 2 ^ 64)
    2870177450012600261
  let h := (mixed + (hs.length ^^^ (2870177450012600261 ^^^ 3527539))) % 2 ^ 64
  if h = 2 ^ 64 - 1 then 1546275796 else hashOfWord h

/-- The bits of a hash spread over a word. -/
def spread (n : Nat) : Nat := (n ^^^ 89869747 ^^^ (n * 2 ^ 16 % 2 ^ 64)) * 3644798167 % 2 ^ 64

/-- A hash of some hashes in whatever order. -/
def hashTogether (hs : List Int) : Int :=
  let mixed := hs.foldl (fun acc h => acc ^^^ spread (hashWord h)) 0
  let counted := mixed ^^^ ((hs.length + 1) * 1927868237 % 2 ^ 64)
  let folded := counted ^^^ (counted / 2 ^ 11) ^^^ (counted / 2 ^ 25)
  let h := (folded * 69069 + 907133923) % 2 ^ 64
  if h = 2 ^ 64 - 1 then 590923713 else hashOfWord h

/-! ## Hashes of objects -/

/-- The error for an object that has no hash. -/
def unhashable {α : Type} (o : Obj) : Exec α := do
  let t ← typeName o
  throwNew .typeError ("unhashable type: '" ++ clip 200 t ++ "'")

/-- The hash that a script gives for an object. -/
def scriptedHash (o : Obj) : Exec Int := do
  match ← quietSpecial? o "__hash__" with
  | none => unhashable o
  | some s =>
    if s.callee = noneObj then unhashable o
    else do
      let r ← s.run []
      holding r do
        match ← intValue? r with
        | some i => pure (if isWord i then proper i else hashInt i)
        | none => throwNew .typeError "__hash__ method should return an integer"

mutual

/-- The hash of an object; `fuel` bounds the depth of tuples. -/
def hashWithin : Nat → Obj → Exec Int
  | 0, o => unhashable o
  | fuel + 1, o => do
    if (← scriptedMember? o "__hash__").isSome then scriptedHash o
    else
      if (← scriptedMember? o "__eq__").isSome then unhashable o
      else
        match ← payloadOf o with
        | .int i => pure (hashInt i)
        | .bool b => pure (if b then 1 else 0)
        | .float d => pure (hashFloat o d)
        | .complex re im =>
          pure (hashOfWord ((hashWord (hashFloat o re) +
            1000003 * hashWord (hashFloat o im)) % 2 ^ 64))
        | .str s => pure (hashNumbers s)
        | .bytes bs =>
          if (← classOf o) = Builtin.bytearray.obj then unhashable o
          else pure (hashNumbers (bs.map UInt8.toNat))
        | .tuple slots => do
          let hs ← hashAll fuel slots.toList
          pure (hashSequence hs)
        | .range start stop step =>
          let n := rangeLength start stop step
          let none := hashIdentity noneObj
          pure (hashSequence [hashInt n, if n = 0 then none else hashInt start,
            if n ≤ 1 then none else hashInt step])
        | .set table =>
          if ← isA o .frozenset then pure (hashTogether (table.entries.map (·.hash)))
          else unhashable o
        | .list _ | .dict _ | .slice .. => unhashable o
        | _ => pure (hashIdentity o)

/-- The hashes of some slots. -/
def hashAll : Nat → List (Option Obj) → Exec (List Int)
  | 0, _ => pure []
  | _, [] => pure []
  | fuel + 1, none :: rest => hashAll fuel rest
  | fuel + 1, some o :: rest => do
    let h ← hashWithin fuel o
    let hs ← hashAll fuel rest
    pure (h :: hs)

end

/-- The depth and the number of objects that one hash may look at. -/
def structureFuel : Nat := 2 ^ 20

/-- The hash of an object, or an error if it has none. -/
def hashOf (o : Obj) : Exec Int := hashWithin structureFuel o

/-! ## Sets -/

/-- A set with an entry in a free place. -/
def Payload.withEntry (p : Payload) (i : Nat) (e : Entry) : Payload :=
  match p with
  | .set table => .set (table.fill i e)
  | p => p

/-- Put an object with a hash into a set, which takes a reference if the object is new to it. -/
def addHashed (set o : Obj) (h : Int) : Exec Unit := do
  match ← payloadOf set with
  | .set table => do
    match ← table.search sameOrEqual o h with
    | some (.free i) => do
      incref o
      editCell set fun c => { c with payload := c.payload.withEntry i ⟨o, h⟩ }
    | _ => pure ()
  | _ => pure ()

/-- Put an object into a set. -/
def addToSet (set o : Obj) : Exec Unit := do
  let h ← hashOf o
  addHashed set o h

/-- A new empty set. -/
def newEmptySet : Exec Obj := alloc Builtin.set.obj (.set Table.empty) []

/-- Run a program that goes on with a new object; if it raises, the object is given up. -/
def keeping (o : Obj) (x : Exec Unit) : Exec Obj := do
  match ← Exec.outcome x with
  | .ok () => pure o
  | .error r => do
    release o
    throw r

/-- A new set of some objects. -/
def newSetOf (items : List Obj) : Exec Obj := do
  let set ← newEmptySet
  keeping set (items.forM (addToSet set))

/-- A new set of the objects of another. -/
def copySet (table : Table) : Exec Obj := do
  table.entries.forM fun e => incref e.key
  alloc Builtin.set.obj (.set (Table.empty.copyInto table)) []

/-- A new set of the keys of a dictionary. -/
def keySet (items : List Item) : Exec Obj := do
  let set ← alloc Builtin.set.obj (.set (Table.empty.reserve items.length)) []
  keeping set (items.forM fun e => addHashed set e.key e.hash)

/-! ## Dictionaries -/

/-- The place of a key with a hash among some items, counted from `i`. -/
def itemPlace? (key : Obj) (hash : Int) (i : Nat) : List Item → Exec (Option Nat)
  | [] => pure none
  | e :: rest => do
    if e.hash = hash then
      if ← sameOrEqual e.key key then pure (some i) else itemPlace? key hash (i + 1) rest
    else itemPlace? key hash (i + 1) rest

/-- Put a value under a key of some items. They take references over, and give up those that they do
not need any more. -/
def putItem (items : Array Item) (key value : Obj) : Exec (Array Item) := do
  let h ← hashOf key
  match ← itemPlace? key h 0 items.toList with
  | none => pure (items.push ⟨key, h, value⟩)
  | some i => do
    match items[i]? with
    | some e => releaseList [key, e.value]
    | none => pure ()
    pure (items.modify i fun e => { e with value := value })

/-- Items for some keys and values, after others. If one raises, all references are given up. -/
def putItems (items : Array Item) : List (Obj × Obj) → Exec (Array Item)
  | [] => pure items
  | (key, value) :: rest => do
    match ← Exec.outcome (putItem items key value) with
    | .ok items => putItems items rest
    | .error r => do
      releaseList (items.toList.flatMap fun e => [e.key, e.value])
      releaseList (((key, value) :: rest).flatMap fun e => [e.1, e.2])
      throw r

/-- A new dictionary that takes over references to keys and values. -/
def newDictOf (entries : List (Obj × Obj)) : Exec Obj := do
  let items ← putItems #[] entries
  alloc Builtin.dict.obj (.dict items.toList) []

end Embedder.Machine
