import Embedder.Machine.Assignment
import Embedder.Machine.Convert

/-!
# Making objects from scripts

`build` makes the object that a `Spec` describes, `buildError` the exception that an `ErrorSpec`
describes. Both make a new object each time.
-/

namespace Embedder.Machine

/-- A new function that runs a script. -/
def newFunction (name : String) (body : Action) : Exec Obj :=
  alloc Builtin.function.obj (.function name name (.script body)) []

/-- Give an exception some notes. -/
def addNotes (o : Obj) (notes : List String) : Exec Unit :=
  if notes.isEmpty then pure ()
  else do
    let texts ← notes.mapM newText
    let list ← newListOf texts
    storeAttr o "__notes__" list

/-! ## Specs -/

/-- The value of a built-in name. -/
def builtinNamed (name : String) : Exec Obj := do
  let w ← get
  match w.attr? w.builtins name with
  | some o => newRef o
  | none => throwNew .attributeError ("module 'builtins' has no attribute '" ++ name ++ "'")

/-- An empty list inside `n` lists. -/
def buildNest : Nat → Exec Obj
  | 0 => newListOf []
  | n + 1 => do
    let inner ← buildNest n
    newListOf [inner]

/-- The built-in class of a derivation. -/
def Derived.builtin : Derived → Builtin
  | .float => .float
  | .int => .int
  | .str => .str
  | .list => .list

/-- What an object becomes by conversion to the class of a derivation. -/
def Derived.convert (value : Obj) : Derived → Exec Obj
  | .float => convertFloat value
  | .int => convertInt value
  | .str => convertStr value
  | .list => do newListOf (← itemsOf value)

/-- An instance of a class with what an object is made of; the object is given up. -/
def instanceWith (cls o : Obj) : Exec Obj := do
  let p ← payloadOf o
  p.references.forM incref
  release o
  alloc cls p []

/-- A new class of a script; references to the members move. Some names ask for members of their own
kind, which functions and properties are not. -/
def newScriptClass (name : String) (base : Obj) (members : List (String × Obj))
    (shownName : Option Obj) : Exec Obj := do
  let refuse (kind : Builtin) (message : String) : Exec Obj := do
    releaseList ((members.map (·.2)) ++ shownName.toList)
    throwNew kind message
  if name.contains '\x00' then
    refuse .valueError "type name must not contain null characters"
  else
    let kindOf (member : String) : Exec (Option String) :=
      match members.lookup member with
      | some o => some <$> typeName o
      | none => pure none
    match ← kindOf "__slots__", ← kindOf "__qualname__", ← kindOf "__classcell__" with
    | some t, _, _ => refuse .typeError ("'" ++ t ++ "' object is not iterable")
    | _, some t, _ => refuse .typeError ("type __qualname__ must be a str, not " ++ t)
    | _, _, some t =>
      refuse .typeError ("__classcell__ must be a nonlocal cell, not <class '" ++ t ++ "'>")
    | none, none, none => newClass name "world" base members shownName

/-- An instance of a new class with the value of an object, whose reference moves. -/
def deriveFrom (base : Derived) (name : String) (value : Obj) : Exec Obj := do
  let cls ← newScriptClass name base.builtin.obj [] none
  holding cls do
    let converted ← holding value (base.convert value)
    instanceWith cls converted

/-- The base class of a new exception class. -/
def errorBase (name : String) : Obj := ((Builtin.ofName? name).getD .exception).obj

/-- Where the functions of a script are. -/
def scriptFrame (name : String) : Frame := .place "world.py" 2 name

/-- Where the generators of a script are. -/
def generatorFrame : Frame := .place "world.py" 3 "gen"

/-- Give an exception its cause, if it has one, and notes; the references to the causes move. -/
def adornError (o : Obj) (causes : List Obj) (notes : List String) : Exec Unit := do
  match causes with
  | [] => pure ()
  | cause :: _ => do
    let related ← holdingAll causes (relatedError? "cause" (some cause))
    setCause o related
  addNotes o notes

/-- Functions with names and bodies. -/
def newFunctions (names : List String) (bodies : List Action) : Exec (List (String × Obj)) :=
  (names.zip bodies).mapM fun (name, body) => do
    let f ← newFunction name body
    pure (name, f)

/-- Properties with names and bodies. -/
def newProperties (names : List String) (bodies : List Action) : Exec (List (String × Obj)) := do
  let functions ← newFunctions names bodies
  functions.mapM fun (name, f) => do
    let p ← alloc Builtin.property.obj (.property f) []
    pure (name, p)

mutual

/-- The object that a spec describes; a function takes the given name. -/
def build (name : String) : Spec → Exec Obj
  | .none => pure noneObj
  | .bool b => pure (boolObj b)
  | .int i => newInt i
  | .float d => newFloat d
  | .complex re im => alloc Builtin.complex.obj (.complex re im) []
  | .str s => newStr s
  | .bytes bs => newBytes bs
  | .list items => do
    let o ← newListOf []
    keeping o do
      let os ← buildAll items
      setPayload o (.list (os.map some).toArray)
  | .tuple items => do
    let os ← buildAll items
    newTupleOf os
  | .set items => do
    let os ← buildAll items
    holdingAll os (newSetOf os)
  | .iter items => do
    let list ← newListOf []
    let list ← keeping list do
      let os ← buildAll items
      setPayload list (.list (os.map some).toArray)
    alloc Builtin.listIterator.obj (.cursor (some list) 0) []
  | .gen actions =>
    if actions.isEmpty then do
      let list ← newListOf []
      alloc Builtin.listIterator.obj (.cursor (some list) 0) []
    else alloc Builtin.generator.obj (.generator (.script generatorFrame actions) false) []
  | .dict keys values => do
    let ks ← buildAll keys
    let vs ← buildAll values
    newDictOf (ks.zip vs)
  | .range start stop step => alloc Builtin.range.obj (.range start stop step) []
  | .repeated item count => do
    let o ← build name item
    let copies ← (List.replicate count ()).mapM fun _ => newRef o
    release o
    newListOf copies
  | .nest depth => buildNest depth
  | .derived base cls value => do
    let o ← build name value
    deriveFrom base cls o
  | .builtin n => builtinNamed n
  | .plainClass n => newScriptClass n Builtin.object.obj [] none
  | .exception e => buildError e
  | .moduleNamed n => do
    match (← get).modules.lookup n with
    | some o => newRef o
    | none => do
      let key ← newText n
      throwWith .keyError [key]
  | .function body => newFunction name body
  | .object cls methodNames methods propertyNames properties attrNames attrs => do
    let ms ← newFunctions methodNames methods
    let ps ← newProperties propertyNames properties
    let members := ps ++ ms
    let shown ←
      if (members.lookup "__repr__").isSome then pure []
      else newFunctions ["__repr__"] [.give (.str (pointsOf ("<" ++ cls ++ ">")))]
    let c ← newScriptClass cls Builtin.object.obj (members ++ shown) none
    let o ← holding c (callObj c [])
    keeping o (assignNamed o attrNames attrs)

/-- Objects in order. -/
def buildAll : List Spec → Exec (List Obj)
  | [] => pure []
  | s :: rest => do
    let o ← build "fn" s
    let os ← buildAll rest
    pure (o :: os)

/-- Objects with names. -/
def buildNamed : List String → List Spec → Exec (List (String × Obj))
  | n :: ns, s :: rest => do
    let o ← build n s
    let os ← buildNamed ns rest
    pure ((n, o) :: os)
  | _, _ => pure []

/-- Give an object attributes with names. -/
def assignNamed (o : Obj) : List String → List Spec → Exec Unit
  | n :: ns, s :: rest => do
    let v ← build n s
    holding v (changeAttr o n (some v))
    assignNamed o ns rest
  | _, _ => pure ()

/-- The object that an error spec describes. -/
def buildError : ErrorSpec → Exec Obj
  | .builtin cls args cause notes => do
    let os ← buildAll args
    let c ← builtinNamed cls
    let e ← holdingAll (os.reverse ++ [c]) (callObj c os)
    keeping e (do adornError e (← buildErrors cause) notes)
  | .custom cls base text shownName args cause notes => do
    let os ← buildAll args
    let ms ← newFunctions (text.map fun _ => "__str__") text
    let ns ← newFunctions (shownName.map fun _ => "__name__") shownName
    let c ← newScriptClass cls (errorBase base) ms (ns.head?.map (·.2))
    let e ← holdingAll (os.reverse ++ [c]) (callObj c os)
    keeping e (do adornError e (← buildErrors cause) notes)
  | .value s => build "fn" s

/-- Exceptions in order. -/
def buildErrors : List ErrorSpec → Exec (List Obj)
  | [] => pure []
  | e :: rest => do
    let o ← buildError e
    let os ← buildErrors rest
    pure (o :: os)

end

end Embedder.Machine
