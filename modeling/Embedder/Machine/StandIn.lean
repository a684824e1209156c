import Embedder.Machine.Subscript

/-!
# Stand-ins for built-in functions

The code of the import machinery and that of the writer of tracebacks call built-in functions by
name, as any code does. A script that puts something else under such a name has it stand in for the
function there.
-/

namespace Embedder.Machine

/-- What stands under the name of a built-in function or class in its place; nothing if the function
is there. -/
def standIn? (name : String) : Exec (Option Obj) := do
  let w ← get
  match w.attr? w.builtins name with
  | none => notDefined name
  | some o =>
    let isBorn := match (w.cell o).payload with
      | .builtinFunction "builtins" own => own == name
      | .builtinClass c => c.name == name
      | _ => false
    pure (if isBorn then none else some o)

/-- What code gets by a call of a built-in function: `usual`, or else what the thing that stands in
for the function gives for the arguments. -/
def byBuiltin (name : String) (args : Exec (List Obj)) (usual : Exec Obj) : Exec Obj := do
  match ← standIn? name with
  | none => usual
  | some f => do
    let given ← args
    holdingAll given (callObj f given)

/-- Whether an object has an attribute. -/
def hasAttr (o : Obj) (name : String) : Exec Bool := do
  let args : Exec (List Obj) := do pure [← newRef o, ← newText name]
  truthOf (← byBuiltin "hasattr" args do
    match ← attrOrNone? o name with
    | some v => do
      release v
      pure trueObj
    | none => pure falseObj)

/-- An attribute of an object, or something else if the object does not have it. -/
def attrOr (o : Obj) (name : String) (otherwise : Obj) : Exec Obj :=
  byBuiltin "getattr" (do pure [← newRef o, ← newText name, ← newRef otherwise]) do
    match ← attrOrNone? o name with
    | some v => pure v
    | none => newRef otherwise

/-- Whether an object has no attribute of a name, or has none in its place. -/
def lacksAttr (o : Obj) (name : String) : Exec Bool := do
  let v ← attrOr o name noneObj
  release v
  pure (v = noneObj)

/-- The length of an object, which is known. -/
def lengthBy (o : Obj) (length : Nat) : Exec Obj :=
  byBuiltin "len" (do pure [← newRef o]) (newInt length)

/-- Whether an object is of a class, which is known. -/
def isInstanceBy (o cls : Obj) (known : Bool) : Exec Bool := do
  truthOf (← byBuiltin "isinstance" (do pure [← newRef o, ← newRef cls]) (pure (boolObj known)))

/-- Whether an object is of the class under the name of a built-in one, for which it is known. -/
def isInstanceOfNamed (o : Obj) (name : String) (known : Bool) : Exec Bool := do
  let cls := ((Builtin.ofName? name).map Builtin.obj).getD noneObj
  let asker? ← standIn? "isinstance"
  match ← standIn? name with
  | none => isInstanceBy o cls known
  | some other => do
    let w ← get
    let asker := asker?.getD ((w.attr? w.builtins "isinstance").getD noneObj)
    truthOf (← callObj asker [o, other])

/-! ## Exceptions by name -/

/-- Whether a class, or one of a tuple of classes, catches an exception. -/
def catches (o : Obj) (r : Raised) : Exec Bool := do
  let w ← get
  let classes := match (w.cell o).payload with
    | .tuple items => slotItems items
    | _ => [o]
  if classes.all w.isExceptionClass then
    pure (classes.any (w.isSubclass (w.cell r.value).cls))
  else
    throwNew .typeError "catching classes that do not inherit from BaseException is not allowed"

/-- Whether code that catches what is under the names of some classes of exceptions catches one. -/
def isCaughtByAny (names : List String) (r : Raised) : Exec Bool := do
  let check : Exec Bool := do
    let caught ← names.mapM fun name => do
      match ← standIn? name, Builtin.ofName? name with
      | none, some c => raisedIs c r
      | none, none => pure false
      | some o, _ => catches o r
    pure (caught.any id)
  match ← Exec.outcome check with
  | .ok b => pure b
  | .error later => do
    keepTrace r.value r.frames
    whileHandling r.value (throw later)

/-- Whether code that catches what is under the name of a class of exceptions catches one. -/
def isCaught (name : String) (r : Raised) : Exec Bool := isCaughtByAny [name] r

/-- Call something with arguments and then fields by name, of which there are some. -/
def callWithFields (f : Obj) (args : List Obj) (fields : List (String × Obj)) : Exec Obj := do
  let w ← get
  let refuse (name : String) : Exec Obj :=
    throwNew .typeError (name ++ "() takes no keyword arguments")
  let refuseOne (name : String) : Exec Obj :=
    throwNew .typeError (name ++ "() got an unexpected keyword argument '" ++
      (fields.map (·.1)).headD "" ++ "'")
  match (w.cell f).payload with
  | .function _ qualifiedName _ => refuseOne qualifiedName
  | .builtinFunction _ name => refuse name
  | .builtinClass c =>
    if c.isSubclass .importError then do
      let e ← makeError f args
      match ← payloadOf e with
      | .error info => do
        fields.forM fun field => incref field.2
        setPayload e (.error { info with fields := info.fields ++ fields })
      | _ => pure ()
      pure e
    else refuse c.name
  | _ =>
    match ← scriptedMember? f "__call__" with
    | some _ => refuseOne "__call__"
    | none => callObj f args

/-- Raise an exception of the class that a name stands for, with some arguments and fields, which it
takes over. -/
def throwNamed {α : Type} (name : String) (args : List Obj) (fields : List (String × Obj)) :
    Exec α := do
  match ← standIn? name with
  | none => throwDetailed ((Builtin.ofName? name).getD .exception) args fields
  | some f => do
    let e ← holdingAll (args ++ fields.map (·.2))
      (if fields.isEmpty then callObj f args else callWithFields f args fields)
    throwAgain (← raisable e)

/-! ## Known answers -/

/-- Compare an answer with a number; the answer is given up. -/
def answerIs (relation : Comparison) (answer : Obj) (n : Nat) : Exec Bool :=
  holding answer do
    let number ← newInt n
    truthOf (← holding number (innerCompare relation answer number))

end Embedder.Machine
