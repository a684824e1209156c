import Embedder.Machine.Attribute

/-!
# What objects have under a name

Dictionaries, and objects of classes with the special methods for it, have values under names that
stand in brackets. All others refuse a name there, each kind in its own words.
-/

namespace Embedder.Machine

/-- The name of the kind of a sequence in what it says about its indices. -/
def Payload.indexed? : Payload → Option String
  | .list _ => some "list"
  | .tuple _ => some "tuple"
  | .bytes _ => some "byte"
  | .range .. => some "range"
  | _ => none

/-- Whether a class gives a class again for a name in brackets. -/
def World.isGeneric (w : World) (o : Obj) : Bool :=
  match w.classView o with
  | .builtin c => c = .typeClass || (c.memberKind? "__class_getitem__").isSome
  | _ => false

/-- Refuse to give anything for a name. -/
def refuseName {α : Type} (o : Obj) : Exec α := do
  let w ← get
  match (w.cell o).payload with
  | .str _ => throwNew .typeError "string indices must be integers, not 'str'"
  | p =>
    match p.indexed? with
    | some kind => throwNew .typeError (kind ++ " indices must be integers or slices, not str")
    | none =>
      if w.isClass o then
        throwNew .typeError ("type '" ++ clip 200 (w.className o) ++ "' is not subscriptable")
      else do
        let t ← typeName o
        throwNew .typeError ("'" ++ clip 200 t ++ "' object is not subscriptable")

/-- What an object has under a name. An alias of a generic class counts as the class. -/
def itemUnder (o key : Obj) : Exec Obj := do
  match ← callSpecial o "__getitem__" [key] with
  | some v => pure v
  | none =>
    match ← payloadOf o with
    | .dict items =>
      match ← itemOf? key (← hashOf key) items with
      | some e => newRef e.value
      | none => throwWith .keyError [← newRef key]
    | _ => if (← get).isGeneric o then newRef o else refuseName o

/-- Refuse a change of what stands under a name. -/
def refuseItem {α : Type} (o : Obj) (change : String) : Exec α := do
  match ← payloadOf o with
  | .list _ => refuseName o
  | _ => do
    let t ← typeName o
    throwNew .typeError ("'" ++ clip 200 t ++ "' object does not support item " ++ change)

/-- Put a value under a name. -/
def putUnder (o key value : Obj) : Exec Unit := do
  match ← callSpecial o "__setitem__" [key, value] with
  | some r => release r
  | none =>
    match ← payloadOf o with
    | .dict items => do
      incref key
      incref value
      let items ← putItem items.toArray key value
      setPayload o (.dict items.toList)
    | _ => refuseItem o "assignment"

/-- Take the value under a name from a dictionary (new), if there is one. -/
def takeItem? (dict key : Obj) (items : List Item) : Exec (Option Obj) := do
  match ← itemOf? key (← hashOf key) items with
  | none => pure none
  | some e => do
    setPayload dict (.dict (items.filter (·.key ≠ e.key)))
    release e.key
    pure (some e.value)

/-- Take away what stands under a name. -/
def dropUnder (o key : Obj) : Exec Unit := do
  match ← callSpecial o "__delitem__" [key] with
  | some r => release r
  | none =>
    match ← payloadOf o with
    | .dict items =>
      match ← takeItem? o key items with
      | some v => release v
      | none => throwWith .keyError [← newRef key]
    | _ => refuseItem o "deletion"

/-- Whether a list stands somewhere in another one, in one piece. -/
def isPartOf {α : Type} [BEq α] (part : List α) : List α → Bool
  | [] => part.isEmpty
  | a :: rest => part.isPrefixOf (a :: rest) || isPartOf part rest

/-- Whether a byte string has a byte or another byte string in it. -/
def hasBytes (bytes : List UInt8) (key : Obj) : Exec Bool := do
  let w ← get
  match w.intValue? key, (w.cell key).payload with
  | some i, _ =>
    if 0 ≤ i ∧ i < 256 then pure (UInt8.ofNat i.toNat ∈ bytes)
    else throwNew .valueError "byte must be in range(0, 256)"
  | none, .bytes part => pure (isPartOf part bytes)
  | none, _ => do
    let t ← typeName key
    throwNew .typeError ("a bytes-like object is required, not '" ++ clip 100 t ++ "'")

/-- Whether a text has another one in it. -/
def hasText (text : Points) (key : Obj) : Exec Bool := do
  match ← payloadOf key with
  | .str part => pure (isPartOf part text)
  | _ => do
    let t ← typeName key
    throwNew .typeError ("'in <string>' requires string as left operand, not " ++ clip 100 t)

/-- Whether an object has something under a name, or the name in it. -/
def hasUnder (o key : Obj) : Exec Bool := do
  match ← callSpecial o "__contains__" [key] with
  | some r => truthOf r
  | none =>
    match ← payloadOf o with
    | .dict items => do pure (← itemOf? key (← hashOf key) items).isSome
    | .set s => do s.holds sameOrEqual key (← hashOf key)
    | .bytes bytes => hasBytes bytes key
    | .str text => hasText text key
    | _ =>
      match ← iteratorOf? o with
      | none => do
        let t ← typeName o
        throwNew .typeError ("argument of type '" ++ clip 200 t ++ "' is not iterable")
      | some it =>
        let rec go : (fuel : Nat) → Exec Bool
          | 0 => pure false
          | fuel + 1 => do
            match ← nextOrEnd it with
            | none => pure false
            | some item => if ← holding item (sameOrEqual item key) then pure true else go fuel
        holding it (go walkFuel)

end Embedder.Machine
