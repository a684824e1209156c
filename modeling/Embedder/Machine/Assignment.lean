import Embedder.Machine.Attribute

/-!
# Assigning attributes

An attribute is given to an object, or taken from it, by the rules of a search turned around: a
class can take part by `__setattr__` and `__delattr__`, data of the class has precedence and may
refuse, and what is left is a matter of the object's own namespace. A class has its members in place
of a namespace; those of a built-in class never change.
-/

namespace Embedder.Machine

/-! ## Refusals -/

/-- Refuse to change an attribute. -/
def refuseChange {α : Type} (message : String) : Exec α := throwNew .attributeError message

/-- Refuse a value that is not of the right kind. -/
def wrongValue {α : Type} (message : String) : Exec α := throwNew .typeError message

/-- Refuse to change data that classes let nobody write. -/
def readOnlyData {α : Type} (owner : String) (kind : MemberKind) (name : String) : Exec α :=
  match kind with
  | .getset =>
    refuseChange ("attribute '" ++ name ++ "' of '" ++ clip 100 owner ++
      "' objects is not writable")
  | _ => refuseChange "readonly attribute"

/-- The error for an attribute that cannot be taken from a namespace, as it is not there, or that an
object without a namespace cannot be given. -/
def missingAttribute {α : Type} (o : Obj) (name : String) : Exec α := do
  let w ← get
  let subject := if w.isClass o then "type object '" ++ clip 50 (w.className o) ++ "'"
    else "'" ++ clip 100 (w.className (w.cell o).cls) ++ "' object"
  refuseChange (subject ++ " has no attribute '" ++ name ++ "'")

/-! ## The namespace of an object -/

/-- The classes from birth whose objects have a namespace. -/
def spaciousClasses : List Builtin :=
  [.textStream, .moduleSpec, .fileLoader, .compiledLoader, .namespaceLoader, .fileFinder,
    .zipImporter, .namespacePath, .simpleNamespace]

/-- Whether an object has a namespace. -/
def World.hasNamespace (w : World) (o : Obj) : Bool :=
  let c := w.cell o
  match c.payload with
  | .function .. | .error _ | .moduleNamed _ => true
  | _ =>
    match w.classView c.cls with
    | .scripted _ => true
    | .builtin b => b ∈ spaciousClasses
    | .notAClass => false

/-- Change what an object's namespace has under a name. -/
def changeOwn (o : Obj) (name : String) (v : Option Obj) (isMember : Bool) : Exec Unit := do
  if (← get).hasNamespace o then
    match v with
    | some v => do
      incref v
      storeAttr o name v
    | none => if !(← eraseAttr o name) then missingAttribute o name
  else if isMember then
    let t ← typeName o
    refuseChange ("'" ++ clip 50 t ++ "' object attribute '" ++ name ++ "' is read-only")
  else missingAttribute o name

/-- Put another dictionary in the place of an object's namespace. -/
def changeNamespace (o : Obj) (v : Option Obj) : Exec Unit := do
  let w ← get
  match v with
  | none =>
    match (w.cell o).payload with
    | .function .. | .error _ => wrongValue "cannot delete __dict__"
    | _ => pure ()
  | some d =>
    if !(← isA d .dict) then
      let t ← typeName d
      wrongValue ("__dict__ must be set to a dictionary, not a '" ++ clip 200 t ++ "'")
  let c ← cellOf o
  v.toList.forM incref
  editCell o fun c => { c with attrs := [], space := v }
  releaseList (c.attrs.map (·.2) ++ c.space.toList)

/-! ## The class of an object -/

/-- Make an object one of another class, which has to be built like its own. -/
def changeClass (o : Obj) (v : Option Obj) : Exec Unit := do
  let w ← get
  let old := (w.cell o).cls
  let layout (c : Obj) : Builtin := w.builtinBase lineageFuel c
  let isMutable (c : Obj) : Bool := w.classView c matches .scripted _
  match v with
  | none => wrongValue "can't delete __class__ attribute"
  | some new =>
    if !w.isClass new then
      let t ← typeName new
      wrongValue ("__class__ must be set to a class, not '" ++ t ++ "' object")
    let ofModules (c : Obj) : Bool := layout c = .moduleClass
    if !(ofModules new && ofModules old) && !(isMutable new && isMutable old) then
      wrongValue "__class__ assignment only supported for mutable types or ModuleType subclasses"
    if layout new ≠ layout old then
      wrongValue ("__class__ assignment: '" ++ w.className new ++
        "' object layout differs from '" ++ w.className old ++ "'")
    incref new
    editCell o fun c => { c with cls := new }
    release old

/-! ## Data -/

/-- Keep an object under a name, in place of an older one. -/
def keep (o : Obj) (name : String) (v : Obj) : Exec Unit := do
  let old := (← cellOf o).kept
  incref v
  editCell o fun c => { c with kept := old.filter (·.1 ≠ name) ++ [(name, v)] }
  releaseList ((old.filter (·.1 = name)).map (·.2))

/-- Change a name that has to be a text; what it is then. -/
def changedName (name : String) (v : Option Obj) : Exec (Obj × String) := do
  let w ← get
  match v.bind fun v => (w.textOf? v).map fun text => (v, text) with
  | some found => pure found
  | none => wrongValue (name ++ " must be set to a string object")

/-- Change the data of a function that is not its namespace. -/
def changeFunctionData (o : Obj) (shortName qualifiedName : String) (code : Code)
    (kind : MemberKind) (name : String) (v : Option Obj) : Exec Unit := do
  let orNone (cls : Builtin) (what : String) : Exec Unit := do
    match v with
    | none => keep o name noneObj
    | some x =>
      if x = noneObj ∨ (← isA x cls) then keep o name x
      else wrongValue (name ++ " must be set to a " ++ what ++ " object")
  match name with
  | "__name__" => do
    let (v, text) ← changedName name v
    let old ← qualifiedText o shortName qualifiedName
    holding old (keep o "__qualname__" old)
    setPayload o (.function text qualifiedName code)
    keep o name v
  | "__qualname__" => do
    let (v, text) ← changedName name v
    setPayload o (.function shortName text code)
    keep o name v
  | "__doc__" | "__module__" => keep o name (v.getD noneObj)
  | "__defaults__" => orNone .tuple "tuple"
  | "__kwdefaults__" => orNone .dict "dict"
  | "__annotations__" => do
    orNone .dict "dict"
    if (v.getD noneObj) = noneObj then
      let empty ← newDictOf []
      holding empty (keep o name empty)
  | "__code__" => wrongValue "__code__ must be set to a code object"
  | _ => readOnlyData "function" kind name

/-- An exception that another can have as its cause or its context, or none; a new reference. -/
def relatedError? (what : String) (v : Option Obj) : Exec (Option Obj) := do
  match v with
  | none => wrongValue ("__" ++ what ++ "__ may not be deleted")
  | some v =>
    if v = noneObj then pure none
    else if (← get).isException v then some <$> newRef v
    else wrongValue ("exception " ++ what ++ " must be None or derive from BaseException")

/-- Change a field of an exception. -/
def changeField (o : Obj) (info : ErrorInfo) (name : String) (v : Option Obj) : Exec Unit := do
  let others := info.fields.filter (·.1 ≠ name)
  v.toList.forM incref
  setPayload o (.error { info with fields := others ++ (v.map fun v => (name, v)).toList })
  releaseList (info.fields.lookup name).toList

/-- Change the data of an exception that is not its namespace. -/
def changeErrorData (o : Obj) (info : ErrorInfo) (owner : Builtin) (kind : MemberKind)
    (name : String) (v : Option Obj) : Exec Unit := do
  match name with
  | "args" => do
    match v with
    | none => wrongValue "args may not be deleted"
    | some v => do
      let args ← newTupleOf (← itemsOf v)
      setPayload o (.error { info with args := args })
      release info.args
  | "__cause__" => setCause o (← relatedError? "cause" v)
  | "__context__" => do
    let context ← relatedError? "context" v
    setPayload o (.error { info with context := context })
    releaseList info.context.toList
  | "__traceback__" => do
    match v with
    | none => wrongValue "__traceback__ may not be deleted"
    | some v =>
      match ← payloadOf v with
      | .traceback frames => keepTrace o frames
      | _ =>
        if v = noneObj then keepTrace o []
        else wrongValue "__traceback__ must be a traceback or None"
  | "__suppress_context__" => do
    match v with
    | none => wrongValue "can't delete numeric/char attribute"
    | some v =>
      if ← isA v .bool then keep o name v
      else wrongValue "attribute value type must be bool"
  | _ =>
    if owner = .baseExceptionGroup then readOnlyData owner.name kind name
    else changeField o info name v

/-- Change data that an object has by its class. -/
def changeData (o : Obj) (owner : Builtin) (kind : MemberKind) (name : String) (v : Option Obj) :
    Exec Unit := do
  match name, (← payloadOf o) with
  | "__class__", _ => changeClass o v
  | "__dict__", .function .. | "__dict__", .error _ => changeNamespace o v
  | name, .function shortName qualifiedName code =>
    changeFunctionData o shortName qualifiedName code kind name v
  | name, .error info => changeErrorData o info owner kind name v
  | "__annotations__", .moduleNamed _ => changeOwn o name v true
  | "__name__", .generator .. | "__qualname__", .generator .. => do
    let (v, _) ← changedName name v
    keep o name v
  | name, _ => readOnlyData owner.name kind name

/-! ## Classes -/

/-- Change what a class made by a script has under a name. -/
def changeMember (o : Obj) (info : ClassInfo) (name : String) (v : Option Obj) : Exec Unit := do
  let old := info.members.lookup name
  let store (members : List (String × Obj)) : Exec Unit := do
    setPayload o (.cls { info with members := members })
    releaseList old.toList
  match v, old with
  | some v, some _ => do
    incref v
    store (info.members.map fun e => if e.1 = name then (name, v) else e)
  | some v, none => do
    incref v
    store (info.members ++ [(name, v)])
  | none, some _ => store (info.members.filter (·.1 ≠ name))
  | none, none => missingAttribute o name

/-- Change what a class made by a script says of itself, or one of its members. -/
def changeOfClass (o : Obj) (info : ClassInfo) (name : String) (v : Option Obj) : Exec Unit := do
  let needed (x : Obj → Exec Unit) : Exec Unit :=
    match v with
    | some v => x v
    | none => wrongValue ("cannot delete '" ++ name ++ "' attribute of immutable type '" ++
        info.name ++ "'")
  let only (what : String) (shown : String → String) (v : Obj) : Exec Unit := do
    let t ← typeName v
    wrongValue ("can only assign " ++ what ++ " to " ++ info.name ++ "." ++ name ++ ", not " ++
      shown (clip 200 t))
  match name, Builtin.typeClass.memberKind? name with
  | "__name__", _ => needed fun v => do
    match (← get).textOf? v with
    | some text => do
      let old ← keptAs o "__qualname__" (keptText o "__name__" info.name)
      release old
      setPayload o (.cls { info with name := text })
      keep o name v
    | none => only "string" (fun t => "'" ++ t ++ "'") v
  | "__qualname__", _ => needed fun v => do
    match (← get).textOf? v with
    | some _ => keep o name v
    | none => only "string" (fun t => "'" ++ t ++ "'") v
  | "__bases__", _ => needed (only "tuple" id)
  | "__module__", _ => needed fun v => do
    let shown := ((← get).textOf? v).getD info.moduleName
    changeMember o { info with moduleName := shown } name (some v)
  | "__doc__", _ => needed fun v => changeMember o info name (some v)
  | "__annotations__", _ | "__abstractmethods__", _ => keep o name (v.getD noneObj)
  | "__class__", _ => changeClass o v
  | name, some (_, .getset) => readOnlyData "type" .getset name
  | name, some (_, .member) => readOnlyData "type" .member name
  | name, _ => changeMember o info name v

/-! ## All objects -/

/-- Change an attribute by the ordinary rules. -/
def changePlain (o : Obj) (name : String) (v : Option Obj) : Exec Unit := do
  let w ← get
  let cls := (w.cell o).cls
  match w.classMember? cls name with
  | some (.scripted m) =>
    match (w.cell m).payload with
    | .property _ =>
      let part := if v.isSome then "setter" else "deleter"
      refuseChange ("property '" ++ name ++ "' of '" ++ w.className cls ++ "' object has no " ++
        part)
    | _ => changeOwn o name v true
  | some (.implicit info) =>
    match name with
    | "__dict__" => changeNamespace o v
    | "__weakref__" => readOnlyData info.name .getset name
    | _ => changeOwn o name v true
  | some (.born owner kind) =>
    match kind with
    | .getset | .member => changeData o owner kind name v
    | _ => changeOwn o name v true
  | none => changeOwn o name v (name = "__doc__")

/-- Give an object an attribute, or take it. -/
def changeAttr (o : Obj) (name : String) (v : Option Obj) : Exec Unit := do
  let key ← newText name
  let special := if v.isSome then "__setattr__" else "__delattr__"
  match ← holding key (callSpecial o special (key :: v.toList)) with
  | some r => release r
  | none =>
    match (← get).classView o with
    | .builtin c =>
      wrongValue ("cannot set '" ++ name ++ "' attribute of immutable type '" ++ c.shownName ++
        "'")
    | .scripted info => changeOfClass o info name v
    | .notAClass => changePlain o name v

end Embedder.Machine
