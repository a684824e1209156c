import Embedder.Machine.Hashing

/-!
# Attributes that an object has by itself

An object holds its attributes in order. Once its namespace is asked for, a dictionary holds them in
its place, and what is done to one is done to the other.
-/

namespace Embedder.Machine

/-- The items of a dictionary. -/
def itemsIn (d : Obj) : Exec (List Item) := do
  match ← payloadOf d with
  | .dict items => pure items
  | _ => pure []

/-- The namespace of an object: always the same dictionary. The names of the attributes differ from
each other, so each is a key of its own. -/
def namespaceOf (o : Obj) : Exec Obj := do
  let c ← cellOf o
  match c.space with
  | some d => newRef d
  | none => do
    let items ← c.attrs.mapM fun (name, value) => do
      let key ← newText name
      pure ⟨key, ← hashOf key, value⟩
    let d ← alloc Builtin.dict.obj (.dict items) []
    incref d
    editCell o fun c => { c with attrs := [], space := some d }
    pure d

/-- Give an object an attribute, in place of an older one of that name; the reference moves. -/
def storeAttr (o : Obj) (name : String) (v : Obj) : Exec Unit := do
  let c ← cellOf o
  match c.space with
  | some d => do
    let w ← get
    let items ← itemsIn d
    match items.findIdx? (w.isUnder name.toList) with
    | some i => do
      setPayload d (.dict (items.modify i fun e => { e with value := v }))
      releaseList (items[i]?.map (·.value)).toList
    | none => do
      let key ← newText name
      setPayload d (.dict (items ++ [⟨key, ← hashOf key, v⟩]))
  | none =>
    let old := c.attrs.lookup name
    let attrs := if old.isSome then c.attrs.map fun e => if e.1 = name then (name, v) else e
      else c.attrs ++ [(name, v)]
    editCell o fun c => { c with attrs := attrs }
    releaseList old.toList

/-- Take an attribute from an object; whether it was there. -/
def eraseAttr (o : Obj) (name : String) : Exec Bool := do
  let w ← get
  match w.attr? o name with
  | none => pure false
  | some v => do
    match (w.cell o).space with
    | some d => do
      let isKey (e : Item) : Bool := w.textOf? e.key = some name
      let (taken, others) := (← itemsIn d).partition isKey
      setPayload d (.dict others)
      releaseList (taken.map (·.key))
    | none => editCell o fun c => { c with attrs := c.attrs.filter fun e => e.1 ≠ name }
    release v
    pure true

/-- Take all attributes from an object; their values are given back. -/
def takeAttrs (o : Obj) : Exec (List Obj) := do
  let c ← cellOf o
  match c.space with
  | some d => do
    let items ← itemsIn d
    setPayload d (.dict [])
    releaseList (items.map (·.key))
    pure (items.map (·.value))
  | none => do
    editCell o fun c => { c with attrs := [] }
    pure (c.attrs.map (·.2))

end Embedder.Machine
